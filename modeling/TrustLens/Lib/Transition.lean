import Mathlib.Tactic.Common

/-!
# Runs of a labelled transition system

A system steps by a partial function on states and actions. A run may be
restricted to steps that meet a guard; an invariant preserved by every guarded
step holds along every guarded run.
-/

namespace TrustLens

structure System (σ α ο : Type*) where
  init : σ
  step : σ → α → Option (σ × ο)

namespace System

variable {σ α ο : Type*} (M : System σ α ο) (guard : σ → α → Prop)

/-- Some run of guarded steps leads from the first state to the second. -/
inductive Steps : σ → σ → Prop where
  | refl (s : σ) : Steps s s
  | tail {s t u : σ} {a : α} {out : ο} (run : Steps s t) (ok : guard t a)
      (last : M.step t a = some (u, out)) : Steps s u

/-- The guard that admits every step. -/
def anyStep : σ → α → Prop := fun _ _ => True

def Reachable (s : σ) : Prop := M.Steps guard M.init s

variable {M guard}

theorem Steps.trans {s t u : σ} (h : M.Steps guard s t) (h' : M.Steps guard t u) :
    M.Steps guard s u := by
  induction h' with
  | refl => exact h
  | tail _ ok last ih => exact ih.tail ok last

theorem Steps.mono {guard' : σ → α → Prop} (hg : ∀ s a, guard s a → guard' s a) {s t : σ}
    (h : M.Steps guard s t) : M.Steps guard' s t := by
  induction h with
  | refl => exact .refl _
  | tail _ ok last ih => exact ih.tail (hg _ _ ok) last

/-- A property preserved by every guarded step is kept along every guarded run. -/
theorem Steps.preserves {P : σ → Prop}
    (hstep : ∀ s a s' out, P s → guard s a → M.step s a = some (s', out) → P s') {s t : σ}
    (h : M.Steps guard s t) (hs : P s) : P t := by
  induction h with
  | refl => exact hs
  | tail _ ok last ih => exact hstep _ _ _ _ ih ok last

/-- An inductive invariant holds in every reachable state. -/
theorem Reachable.invariant {P : σ → Prop} (hinit : P M.init)
    (hstep : ∀ s a s' out, P s → guard s a → M.step s a = some (s', out) → P s') {s : σ}
    (h : M.Reachable guard s) : P s :=
  Steps.preserves hstep h hinit

/-- The state a list of actions leads to, if every one of them can be taken. -/
def exec (M : System σ α ο) (s : σ) : List α → Option σ
  | [] => some s
  | a :: as =>
    match M.step s a with
    | some (s', _) => exec M s' as
    | none => none

theorem steps_of_exec {s t : σ} {as : List α} (hg : ∀ a ∈ as, ∀ s, guard s a)
    (h : M.exec s as = some t) : M.Steps guard s t := by
  induction as generalizing s with
  | nil =>
    simp only [exec, Option.some.injEq] at h
    exact h ▸ .refl s
  | cons a as ih =>
    simp only [exec] at h
    split at h
    · rename_i s' out hs
      have hfirst : M.Steps guard s s' :=
        (Steps.refl s).tail (hg a List.mem_cons_self s) hs
      exact hfirst.trans (ih (fun b hb => hg b (List.mem_cons_of_mem a hb)) h)
    · exact absurd h (by simp)

end System
end TrustLens
