import Mathlib.Algebra.GroupWithZero.Nat
import Mathlib.Algebra.BigOperators.Group.List.Basic
import Mathlib.Order.Nat
import TrustLens.Lib.Oracle

/-!
# Programs with a log

A program that asks and may raise also writes down what it does. Without its log it is a program, and
what holds of the log is found step by step: what each entry satisfies, and how much the entries weigh
together.
-/

namespace TrustLens

/-- The questions asked so far go in and out, and the entries that were written come out. -/
def Logged (ω ε α : Type) : Type := ℕ → Except ε α × ℕ × List ω

namespace Logged

variable {ω ε α β : Type}

/-- An outcome with earlier entries before its own. -/
def preceded (l : List ω) (r : Except ε α × ℕ × List ω) : Except ε α × ℕ × List ω :=
  (r.1, r.2.1, l ++ r.2.2)

instance : Monad (Logged ω ε) where
  pure a n := (.ok a, n, [])
  bind x f n :=
    match x n with
    | (.ok a, m, l) => preceded l (f a m)
    | (.error e, m, l) => (.error e, m, l)

instance : MonadExcept ε (Logged ω ε) where
  throw e n := (.error e, n, [])
  tryCatch x f n :=
    match x n with
    | (.ok a, m, l) => (.ok a, m, l)
    | (.error e, m, l) => preceded l (f e m)

def say (w : ω) : Logged ω ε Unit := fun n => (.ok (), n, [w])

/-- A program that writes nothing. -/
def lift (x : Program ε α) : Logged ω ε α := fun n => ((x n).1, (x n).2, [])

lemma bind_run (x : Logged ω ε α) (f : α → Logged ω ε β) (n : ℕ) :
    (x >>= f) n = match x n with
      | (.ok a, m, l) => preceded l (f a m)
      | (.error e, m, l) => (.error e, m, l) := rfl

lemma tryCatch_run (x : Logged ω ε α) (f : ε → Logged ω ε α) (n : ℕ) :
    tryCatch x f n = match x n with
      | (.ok a, m, l) => (.ok a, m, l)
      | (.error e, m, l) => preceded l (f e m) := rfl

/-! ### Without the log -/

/-- Without its log the first program is the second, up to what is left of the values it returns. -/
def Shows (proj : α → β) (x : Logged ω ε α) (y : Program ε β) : Prop :=
  ∀ n, y n = ((x n).1.map proj, (x n).2.1)

section

variable {α' β' : Type} {proj : α → α'} {proj' : β → β'} {x : Logged ω ε α} {y : Program ε α'}

lemma shows_lift (y : Program ε α) : Shows id (lift y : Logged ω ε α) y := by
  intro n
  unfold lift
  obtain ⟨result, m⟩ := y n
  cases result <;> rfl

lemma shows_raise (e : ε) : Shows proj (lift (throw e) : Logged ω ε α) (throw e) := fun _ => rfl

lemma shows_pure {a : α} {b : α'} (h : proj a = b) :
    Shows proj (pure a : Logged ω ε α) (pure b) := fun _ => by
  subst h
  rfl

lemma Shows.bind (hx : Shows proj x y) {f : α → Logged ω ε β} {g : α' → Program ε β'}
    (hf : ∀ a, Shows proj' (f a) (g (proj a))) : Shows proj' (x >>= f) (y >>= g) := by
  intro n
  rw [bind_run, Program.bind_run, hx n]
  obtain ⟨result, m, l⟩ := x n
  cases result with
  | ok a => exact hf a m
  | error e => rfl

lemma Shows.say_bind {w : ω} {f : Unit → Logged ω ε α} (hf : Shows proj (f ()) y) :
    Shows proj (say w >>= f) y := hf

lemma Shows.tryCatch {y : Program ε α} (hx : Shows id x y) {f : ε → Logged ω ε α}
    {g : ε → Program ε α} (hf : ∀ e, Shows id (f e) (g e)) :
    Shows id (tryCatch x f) (tryCatch y g) := by
  intro n
  rw [tryCatch_run, Program.tryCatch_run, hx n]
  obtain ⟨result, m, l⟩ := x n
  cases result with
  | ok a => rfl
  | error e => exact hf e m

end

/-! ### What is returned and raised -/

/-- Where each entry satisfies `C`, what is returned after so many questions satisfies `P` and what is
raised satisfies `R`. -/
def Post (C : ω → Prop) (x : Logged ω ε α) (P : α → ℕ → Prop) (R : ε → Prop) : Prop :=
  ∀ n, (∀ w ∈ (x n).2.2, C w) →
    (∀ a, (x n).1 = .ok a → P a (x n).2.1) ∧ ∀ e, (x n).1 = .error e → R e

section

variable {C : ω → Prop} {P : α → ℕ → Prop} {Q : β → ℕ → Prop} {R R' : ε → Prop}
  {x : Logged ω ε α} {f : α → Logged ω ε β}

lemma Post.bind (hx : Post C x P R) (hf : ∀ a m, P a m → Post C (f a) Q R) : Post C (x >>= f) Q R := by
  intro n hlog
  rw [bind_run] at hlog ⊢
  have hxn := hx n
  generalize x n = r at hxn hlog ⊢
  obtain ⟨result, m, l⟩ := r
  cases result with
  | ok a =>
    obtain ⟨hfirst, hrest⟩ := List.forall_mem_append.mp hlog
    exact hf a m ((hxn hfirst).1 a rfl) m hrest
  | error e =>
    constructor
    · intro b h
      cases h
    · intro e' h
      cases h
      exact (hxn hlog).2 e rfl

lemma Post.say_bind {w : ω} {f : Unit → Logged ω ε β} (h : C w → Post C (f ()) Q R) :
    Post C (say w >>= f) Q R := by
  intro n hlog
  have hw : C w ∧ ∀ w' ∈ (f () n).2.2, C w' := List.forall_mem_cons.mp hlog
  exact h hw.1 n hw.2

lemma Post.tryCatch {f : ε → Logged ω ε α} (hx : Post C x P R) (hf : ∀ e, R e → Post C (f e) P R') :
    Post C (tryCatch x f) P R' := by
  intro n hlog
  rw [tryCatch_run] at hlog ⊢
  have hxn := hx n
  generalize x n = r at hxn hlog ⊢
  obtain ⟨result, m, l⟩ := r
  cases result with
  | ok a =>
    constructor
    · intro a' h
      cases h
      exact (hxn hlog).1 a rfl
    · intro e h
      cases h
  | error e =>
    obtain ⟨hfirst, hrest⟩ := List.forall_mem_append.mp hlog
    exact hf e ((hxn hfirst).2 e rfl) m hrest

lemma Post.mono {P' : α → ℕ → Prop} (h : Post C x P R) (hP : ∀ a m, P a m → P' a m)
    (hR : ∀ e, R e → R' e) : Post C x P' R' := fun n hlog =>
  ⟨fun a ha => hP a _ ((h n hlog).1 a ha), fun e he => hR e ((h n hlog).2 e he)⟩

/-- A program without entries satisfies what it satisfies by itself. -/
lemma Post.lift {y : Program ε α} {P : α → Prop} (h : Program.Post y P R) :
    Post C (Logged.lift y) (fun a _ => P a) R := fun n _ => h n

/-- An answer is one that the outside gives. -/
lemma Post.asked {answers : ℕ → α} :
    Post C (Logged.lift (Program.ask answers)) (fun a _ => ∃ k, answers k = a) R := fun n _ =>
  ⟨fun _ h => ⟨n, Except.ok.inj h⟩, fun _ h => by cases h⟩

lemma Post.raise {e : ε} (h : R e) : Post C (Logged.lift (throw e)) P R := fun n _ =>
  Program.Post.throw (P := fun a => P a n) h n

lemma Post.pure {a : α} (h : ∀ m, P a m) : Post C (pure a) P R := fun n _ =>
  ⟨fun _ heq => Except.ok.inj heq ▸ h n, fun _ heq => by cases heq⟩

lemma Post.any : Post C x (fun _ _ => True) (fun _ => True) := fun _ _ =>
  ⟨fun _ _ => trivial, fun _ _ => trivial⟩

end

/-! ### What is written -/

/-- Each entry satisfies `E`. -/
def Emits (x : Logged ω ε α) (E : ω → Prop) : Prop := ∀ n, ∀ w ∈ (x n).2.2, E w

section

variable {E : ω → Prop} {P : α → ℕ → Prop} {R : ε → Prop} {x : Logged ω ε α}

lemma emits_lift (y : Program ε α) : Emits (lift y) E := fun _ => List.forall_mem_nil _

lemma Emits.bind (hx : Emits x E) (hpost : Post (fun _ => True) x P R) {f : α → Logged ω ε β}
    (hf : ∀ a m, P a m → Emits (f a) E) : Emits (x >>= f) E := by
  intro n
  rw [bind_run]
  have hxn := hx n
  have hpostn := hpost n fun _ _ => trivial
  generalize x n = r at hxn hpostn ⊢
  obtain ⟨result, m, l⟩ := r
  cases result with
  | ok a => exact List.forall_mem_append.mpr ⟨hxn, hf a m (hpostn.1 a rfl) m⟩
  | error e => exact hxn

lemma emits_pure (a : α) : Emits (pure a : Logged ω ε α) E := fun _ => List.forall_mem_nil _

lemma Emits.lift_bind {y : Program ε α} {f : α → Logged ω ε β} (hf : ∀ a, Emits (f a) E) :
    Emits (lift y >>= f) E :=
  (emits_lift y).bind Post.any fun a _ _ => hf a

lemma Emits.say_bind {w : ω} {f : Unit → Logged ω ε β} (hw : E w) (hf : Emits (f ()) E) :
    Emits (say w >>= f) E := fun n => List.forall_mem_cons.mpr ⟨hw, hf n⟩

lemma Emits.tryCatch (hx : Emits x E) {f : ε → Logged ω ε α} (hf : ∀ e, Emits (f e) E) :
    Emits (tryCatch x f) E := by
  intro n
  rw [tryCatch_run]
  have hxn := hx n
  generalize x n = r at hxn ⊢
  obtain ⟨result, m, l⟩ := r
  cases result with
  | ok a => exact hxn
  | error e => exact List.forall_mem_append.mpr ⟨hxn, hf e m⟩

end

/-- Each entry satisfies `E`, unless `bad` is raised. -/
def EmitsUnless (bad : ε) (x : Logged ω ε α) (E : ω → Prop) : Prop :=
  ∀ n, (x n).1 ≠ .error bad → ∀ w ∈ (x n).2.2, E w

section

variable {bad : ε} {E : ω → Prop} {x : Logged ω ε α}

lemma Emits.unless (h : Emits x E) : EmitsUnless bad x E := fun n _ => h n

lemma EmitsUnless.bind (hx : EmitsUnless bad x E) {f : α → Logged ω ε β}
    (hf : ∀ a, EmitsUnless bad (f a) E) : EmitsUnless bad (x >>= f) E := by
  intro n hgood
  rw [bind_run] at hgood ⊢
  have hxn := hx n
  generalize x n = r at hxn hgood ⊢
  obtain ⟨result, m, l⟩ := r
  cases result with
  | ok a =>
    have hfirst : (Except.ok a : Except ε α) ≠ .error bad := fun h => by cases h
    exact List.forall_mem_append.mpr ⟨hxn hfirst, hf a m hgood⟩
  | error e => exact hxn fun h => hgood (by cases h; rfl)

/-- What follows an entry that does not satisfy `E` raises `bad`. -/
lemma EmitsUnless.say_bind {w : ω} {f : Unit → Logged ω ε β}
    (hw : ¬E w → ∀ n, (f () n).1 = .error bad) (hf : EmitsUnless bad (f ()) E) :
    EmitsUnless bad (say w >>= f) E := by
  intro n hgood
  have hgood' : (f () n).1 ≠ .error bad := hgood
  refine List.forall_mem_cons.mpr ⟨?_, hf n hgood'⟩
  by_contra hnot
  exact hgood' (hw hnot n)

/-- A handler raises `bad` again. -/
lemma EmitsUnless.tryCatch (hx : EmitsUnless bad x E) {f : ε → Logged ω ε α}
    (hf : ∀ e, EmitsUnless bad (f e) E) (hbad : ∀ n, (f bad n).1 = .error bad) :
    EmitsUnless bad (tryCatch x f) E := by
  intro n hgood
  rw [tryCatch_run] at hgood ⊢
  have hxn := hx n
  generalize x n = r at hxn hgood ⊢
  obtain ⟨result, m, l⟩ := r
  cases result with
  | ok a => exact hxn fun h => by cases h
  | error e =>
    have hgood' : (f e m).1 ≠ .error bad := hgood
    refine List.forall_mem_append.mpr ⟨hxn fun h => ?_, hf e m hgood'⟩
    cases h
    exact hgood' (hbad m)

end

/-! ### How much is written -/

/-- The entries weigh at most so much together. -/
def Weighs (cost : ω → ℕ) (x : Logged ω ε α) (bound : ℕ) : Prop :=
  ∀ n, ((x n).2.2.map cost).sum ≤ bound

section

variable {cost : ω → ℕ} {b c : ℕ} {x : Logged ω ε α}

lemma weighs_lift (y : Program ε α) : Weighs cost (lift y) 0 := fun _ => le_rfl

lemma weighs_pure (a : α) : Weighs cost (pure a : Logged ω ε α) 0 := fun _ => le_rfl

lemma sum_preceded {l l' : List ω} (h : (l.map cost).sum ≤ b) (h' : (l'.map cost).sum ≤ c) :
    ((l ++ l').map cost).sum ≤ b + c := by
  rw [List.map_append, List.sum_append]
  exact Nat.add_le_add h h'

lemma Weighs.bind (hx : Weighs cost x b) {f : α → Logged ω ε β} (hf : ∀ a, Weighs cost (f a) c) :
    Weighs cost (x >>= f) (b + c) := by
  intro n
  rw [bind_run]
  have hxn := hx n
  generalize x n = r at hxn ⊢
  obtain ⟨result, m, l⟩ := r
  cases result with
  | ok a => exact sum_preceded hxn (hf a m)
  | error e => exact hxn.trans (Nat.le_add_right b c)

/-- What weighs nothing, and what follows. -/
lemma Weighs.zero_bind (hx : Weighs cost x 0) {f : α → Logged ω ε β} (hf : ∀ a, Weighs cost (f a) c) :
    Weighs cost (x >>= f) c := by
  have h := hx.bind hf
  rwa [Nat.zero_add] at h

lemma Weighs.lift_bind {y : Program ε α} {f : α → Logged ω ε β} (hf : ∀ a, Weighs cost (f a) c) :
    Weighs cost (lift y >>= f) c :=
  (weighs_lift y).zero_bind hf

lemma Weighs.say_bind {w : ω} {f : Unit → Logged ω ε β} (hf : Weighs cost (f ()) c) :
    Weighs cost (say w >>= f) (cost w + c) := by
  intro n
  have hsum : (((say w >>= f : Logged ω ε β) n).2.2.map cost).sum =
      cost w + ((f () n).2.2.map cost).sum := List.sum_cons
  rw [hsum]
  exact Nat.add_le_add_left (hf n) _

/-- An entry that weighs nothing. -/
lemma Weighs.say_bind_of_eq_zero {w : ω} {f : Unit → Logged ω ε β} (hw : cost w = 0)
    (hf : Weighs cost (f ()) c) : Weighs cost (say w >>= f) c := by
  have h := Weighs.say_bind (w := w) hf
  rwa [hw, Nat.zero_add] at h

lemma Weighs.tryCatch (hx : Weighs cost x b) {f : ε → Logged ω ε α} (hf : ∀ e, Weighs cost (f e) c) :
    Weighs cost (tryCatch x f) (b + c) := by
  intro n
  rw [tryCatch_run]
  have hxn := hx n
  generalize x n = r at hxn ⊢
  obtain ⟨result, m, l⟩ := r
  cases result with
  | ok a => exact hxn.trans (Nat.le_add_right b c)
  | error e => exact sum_preceded hxn (hf e m)

lemma Weighs.mono (h : Weighs cost x b) (hle : b ≤ c) : Weighs cost x c := fun n => (h n).trans hle

end

end Logged

end TrustLens
