import Mathlib.Tactic.Common

/-!
# Programs that ask and may raise

A program asks questions whose answers are given by the number of questions before, and returns or
raises; what was asked before an exception stays asked. A postcondition of a program holds of what it
returns, and one of its exceptions of what it raises, whatever the answers are.
-/

namespace TrustLens

/-- The questions asked so far go in and out. -/
def Program (ε α : Type) : Type := ℕ → Except ε α × ℕ

namespace Program

variable {ε α β : Type}

instance : Monad (Program ε) where
  pure a n := (.ok a, n)
  bind x f n :=
    match x n with
    | (.ok a, m) => f a m
    | (.error e, m) => (.error e, m)

instance : MonadExcept ε (Program ε) where
  throw e n := (.error e, n)
  tryCatch x f n :=
    match x n with
    | (.ok a, m) => (.ok a, m)
    | (.error e, m) => f e m

/-- The answer to the next question. -/
def ask (answers : ℕ → α) : Program ε α := fun n => (.ok (answers n), n + 1)

/-- What a program returns satisfies `P`, what it raises satisfies `R`. -/
def Post (x : Program ε α) (P : α → Prop) (R : ε → Prop) : Prop :=
  ∀ n, (∀ a, (x n).1 = .ok a → P a) ∧ ∀ e, (x n).1 = .error e → R e

variable {P : α → Prop} {Q : β → Prop} {R : ε → Prop}

lemma Post.pure {a : α} (h : P a) : Post (pure a : Program ε α) P R := fun _ =>
  ⟨fun _ heq => Except.ok.inj heq ▸ h, nofun⟩

lemma Post.throw {e : ε} (h : R e) : Post (throw e : Program ε α) P R := fun _ =>
  ⟨nofun, fun _ heq => Except.error.inj heq ▸ h⟩

lemma Post.ask {answers : ℕ → α} (h : ∀ a, P a) : Post (ask answers : Program ε α) P R := fun _ =>
  ⟨fun a _ => h a, nofun⟩

lemma bind_run (x : Program ε α) (f : α → Program ε β) (n : ℕ) :
    (x >>= f) n = match x n with
      | (.ok a, m) => f a m
      | (.error e, m) => (.error e, m) := rfl

lemma tryCatch_run (x : Program ε α) (f : ε → Program ε α) (n : ℕ) :
    tryCatch x f n = match x n with
      | (.ok a, m) => (.ok a, m)
      | (.error e, m) => f e m := rfl

lemma Post.bind {x : Program ε α} {f : α → Program ε β} (hx : Post x P R)
    (hf : ∀ a, P a → Post (f a) Q R) : Post (x >>= f) Q R := by
  intro n
  rw [bind_run]
  have hxn := hx n
  cases hrun : x n with
  | mk result m =>
    rw [hrun] at hxn
    cases result with
    | ok a => exact hf a (hxn.1 a rfl) m
    | error e => exact ⟨nofun, fun _ heq => Except.error.inj heq ▸ hxn.2 e rfl⟩

lemma Post.mono {x : Program ε α} {P' : α → Prop} {R' : ε → Prop} (h : Post x P R)
    (hP : ∀ a, P a → P' a) (hR : ∀ e, R e → R' e) : Post x P' R' := fun n =>
  ⟨fun a ha => hP a ((h n).1 a ha), fun e he => hR e ((h n).2 e he)⟩

/-- A handler takes the exceptions of a program. -/
lemma Post.tryCatch {x : Program ε α} {f : ε → Program ε α} {R' : ε → Prop} (hx : Post x P R)
    (hf : ∀ e, R e → Post (f e) P R') : Post (tryCatch x f) P R' := by
  intro n
  rw [tryCatch_run]
  have hxn := hx n
  cases hrun : x n with
  | mk result m =>
    rw [hrun] at hxn
    cases result with
    | ok a => exact ⟨fun _ heq => Except.ok.inj heq ▸ hxn.1 a rfl, nofun⟩
    | error e => exact hf e (hxn.2 e rfl) m

end Program

end TrustLens
