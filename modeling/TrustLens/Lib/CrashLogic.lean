import Mathlib.Tactic.Common

/-!
# Programs that may crash at every call

A program changes a state by calls, each with an outcome the environment chooses: it returns, raises,
or crashes, and where the environment stops answering it crashes too. A triple says what holds where
the program returns, where it raises and wherever it may have crashed. A handler and a cleanup are run
after an exception, but nothing is run after a crash.
-/

namespace TrustLens

inductive Ending (ε α : Type) where
  | returned (a : α)
  | raised (e : ε)
  | crashed
deriving DecidableEq

/-- The outcomes that are left and the state go in and out. -/
def Interrupted (κ σ ε α : Type) : Type := List κ → σ → Ending ε α × σ × List κ

namespace Interrupted

variable {κ σ ε α β : Type}

/-- A call, by what each of its outcomes does. -/
def call (effect : κ → σ → Ending ε α × σ) : Interrupted κ σ ε α
  | [], s => (.crashed, s, [])
  | k :: ks, s => ((effect k s).1, (effect k s).2, ks)

instance : Monad (Interrupted κ σ ε) where
  pure a ks s := (.returned a, s, ks)
  bind x f ks s :=
    match x ks s with
    | (.returned a, s', ks') => f a ks' s'
    | (.raised e, s', ks') => (.raised e, s', ks')
    | (.crashed, s', ks') => (.crashed, s', ks')

instance : MonadExcept ε (Interrupted κ σ ε) where
  throw e ks s := (.raised e, s, ks)
  tryCatch x f ks s :=
    match x ks s with
    | (.returned a, s', ks') => (.returned a, s', ks')
    | (.raised e, s', ks') => f e ks' s'
    | (.crashed, s', ks') => (.crashed, s', ks')

/-- A computation that makes no call. -/
def ofExcept : Except ε α → Interrupted κ σ ε α
  | .ok a => pure a
  | .error e => throw e

/-- `try: … finally: …`; an exception of the cleanup takes the place of the outcome before it. -/
def ensuring (x : Interrupted κ σ ε α) (cleanup : Interrupted κ σ ε Unit) : Interrupted κ σ ε α := fun ks s =>
  match x ks s with
  | (.returned a, s', ks') => (cleanup >>= fun _ => pure a) ks' s'
  | (.raised e, s', ks') => (cleanup >>= fun _ => throw e) ks' s'
  | (.crashed, s', ks') => (.crashed, s', ks')

/-- From a state of `P`, what the program returns satisfies `Q` and what it raises `E`, and where it
may have crashed `C` holds. -/
def Triple (P : σ → Prop) (x : Interrupted κ σ ε α) (Q : α → σ → Prop) (E : ε → σ → Prop)
    (C : σ → Prop) : Prop :=
  ∀ ks s, P s → match x ks s with
    | (.returned a, s', _) => Q a s'
    | (.raised e, s', _) => E e s'
    | (.crashed, s', _) => C s'

section Runs

variable {x : Interrupted κ σ ε α} {ks ks' : List κ} {s s' : σ}

lemma bind_returned {f : α → Interrupted κ σ ε β} {a : α} (h : x ks s = (.returned a, s', ks')) :
    (x >>= f) ks s = f a ks' s' := by
  change (match x ks s with
    | (.returned a, s', ks') => f a ks' s'
    | (.raised e, s', ks') => (.raised e, s', ks')
    | (.crashed, s', ks') => (.crashed, s', ks') : Ending ε β × σ × List κ) = _
  rw [h]

lemma bind_raised {f : α → Interrupted κ σ ε β} {e : ε} (h : x ks s = (.raised e, s', ks')) :
    (x >>= f) ks s = (.raised e, s', ks') := by
  change (match x ks s with
    | (.returned a, s', ks') => f a ks' s'
    | (.raised e, s', ks') => (.raised e, s', ks')
    | (.crashed, s', ks') => (.crashed, s', ks') : Ending ε β × σ × List κ) = _
  rw [h]

lemma tryCatch_returned {f : ε → Interrupted κ σ ε α} {a : α} (h : x ks s = (.returned a, s', ks')) :
    tryCatch x f ks s = (.returned a, s', ks') := by
  change (match x ks s with
    | (.returned a, s', ks') => (.returned a, s', ks')
    | (.raised e, s', ks') => f e ks' s'
    | (.crashed, s', ks') => (.crashed, s', ks') : Ending ε α × σ × List κ) = _
  rw [h]

lemma tryCatch_raised {f : ε → Interrupted κ σ ε α} {e : ε} (h : x ks s = (.raised e, s', ks')) :
    tryCatch x f ks s = f e ks' s' := by
  change (match x ks s with
    | (.returned a, s', ks') => (.returned a, s', ks')
    | (.raised e, s', ks') => f e ks' s'
    | (.crashed, s', ks') => (.crashed, s', ks') : Ending ε α × σ × List κ) = _
  rw [h]

end Runs

section Rules

variable {P P' : σ → Prop} {Q Q' : α → σ → Prop} {R : β → σ → Prop} {E E' : ε → σ → Prop} {C C' : σ → Prop}
  {x : Interrupted κ σ ε α}

lemma Triple.pure {a : α} (h : ∀ s, P s → Q a s) : Triple P (pure a : Interrupted κ σ ε α) Q E C :=
  fun _ s hs => h s hs

lemma Triple.throw {e : ε} (h : ∀ s, P s → E e s) : Triple P (throw e : Interrupted κ σ ε α) Q E C :=
  fun _ s hs => h s hs

lemma Triple.ofExcept {y : Except ε α} (hok : ∀ a, y = .ok a → ∀ s, P s → Q a s)
    (herror : ∀ e, y = .error e → ∀ s, P s → E e s) : Triple P (ofExcept y : Interrupted κ σ ε α) Q E C := by
  cases y with
  | ok a => exact .pure (hok a rfl)
  | error e => exact .throw (herror e rfl)

/-- A call meets its triple where each of its outcomes does; it may also be crashed before. -/
lemma Triple.call {effect : κ → σ → Ending ε α × σ} (hbefore : ∀ s, P s → C s)
    (h : ∀ k s, P s → match effect k s with
      | (.returned a, s') => Q a s'
      | (.raised e, s') => E e s'
      | (.crashed, s') => C s') : Triple P (call effect) Q E C := by
  intro ks s hs
  cases ks with
  | nil => exact hbefore s hs
  | cons k ks =>
    have hk := h k s hs
    rw [Interrupted.call]
    generalize effect k s = result at hk
    obtain ⟨ending, s'⟩ := result
    cases ending <;> exact hk

lemma Triple.bind {f : α → Interrupted κ σ ε β} (hx : Triple P x Q E C)
    (hf : ∀ a, Triple (Q a) (f a) R E C) : Triple P (x >>= f) R E C := by
  intro ks s hs
  have hxs := hx ks s hs
  change match (match x ks s with
    | (.returned a, s', ks') => f a ks' s'
    | (.raised e, s', ks') => (.raised e, s', ks')
    | (.crashed, s', ks') => (.crashed, s', ks') : Ending ε β × σ × List κ) with
    | (.returned b, s', _) => R b s'
    | (.raised e, s', _) => E e s'
    | (.crashed, s', _) => C s'
  generalize x ks s = result at hxs
  obtain ⟨ending, s', ks'⟩ := result
  cases ending with
  | returned a => exact hf a ks' s' hxs
  | raised e => exact hxs
  | crashed => exact hxs

lemma Triple.tryCatch {f : ε → Interrupted κ σ ε α} (hx : Triple P x Q E C)
    (hf : ∀ e, Triple (E e) (f e) Q E' C) : Triple P (tryCatch x f) Q E' C := by
  intro ks s hs
  have hxs := hx ks s hs
  change match (match x ks s with
    | (.returned a, s', ks') => (.returned a, s', ks')
    | (.raised e, s', ks') => f e ks' s'
    | (.crashed, s', ks') => (.crashed, s', ks') : Ending ε α × σ × List κ) with
    | (.returned a, s', _) => Q a s'
    | (.raised e, s', _) => E' e s'
    | (.crashed, s', _) => C s'
  generalize x ks s = result at hxs
  obtain ⟨ending, s', ks'⟩ := result
  cases ending with
  | returned a => exact hxs
  | raised e => exact hf e ks' s' hxs
  | crashed => exact hxs

/-- A cleanup is run from where the program returned and from where it raised. -/
lemma Triple.ensuring {cleanup : Interrupted κ σ ε Unit} (hx : Triple P x Q E C)
    (hreturned : ∀ a, Triple (Q a) cleanup (fun _ => Q' a) E' C)
    (hraised : ∀ e, Triple (E e) cleanup (fun _ => E' e) E' C) : Triple P (x.ensuring cleanup) Q' E' C := by
  intro ks s hs
  have hxs := hx ks s hs
  rw [Interrupted.ensuring]
  generalize x ks s = result at hxs
  obtain ⟨ending, s', ks'⟩ := result
  cases ending with
  | returned a => exact Triple.bind (hreturned a) (fun _ => Triple.pure fun _ h => h) ks' s' hxs
  | raised e => exact Triple.bind (hraised e) (fun _ => Triple.throw fun _ h => h) ks' s' hxs
  | crashed => exact hxs

/-- A fact that does not depend on the state. -/
lemma Triple.of_and {φ : Prop} (h : φ → Triple P x Q E C) : Triple (fun s => φ ∧ P s) x Q E C :=
  fun ks s hs => h hs.1 ks s hs.2

lemma Triple.mono (h : Triple P x Q E C) (hP : ∀ s, P' s → P s) (hQ : ∀ a s, Q a s → Q' a s)
    (hE : ∀ e s, E e s → E' e s) (hC : ∀ s, C s → C' s) : Triple P' x Q' E' C' := by
  intro ks s hs
  have hxs := h ks s (hP s hs)
  generalize x ks s = result at hxs
  obtain ⟨ending, s', ks'⟩ := result
  cases ending with
  | returned a => exact hQ a s' hxs
  | raised e => exact hE e s' hxs
  | crashed => exact hC s' hxs

end Rules

end Interrupted

end TrustLens
