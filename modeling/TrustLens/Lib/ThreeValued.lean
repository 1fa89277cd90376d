import Mathlib.Data.List.Count
import Mathlib.Data.Nat.Basic
import Mathlib.Order.Lattice
import Mathlib.Tactic.Common

/-!
# Strong Kleene truth values and monotone threshold formulas

A truth value is the pair of its two extreme completions: `lo` reads UNKNOWN as
false, `hi` reads it as true. Conjunction, disjunction and thresholds commute
with both readings, so a formula over them is evaluated exactly by evaluating
its two classical extremes.
-/

namespace TrustLens

inductive Truth where
  | FALSE
  | UNKNOWN
  | TRUE
deriving DecidableEq, Repr

namespace Truth

/-- The value with every UNKNOWN completed to false. -/
def lo : Truth → Bool
  | TRUE => true
  | _ => false

/-- The value with every UNKNOWN completed to true. -/
def hi : Truth → Bool
  | FALSE => false
  | _ => true

/-- Position in the truth order FALSE < UNKNOWN < TRUE. -/
def rank : Truth → ℕ
  | FALSE => 0
  | UNKNOWN => 1
  | TRUE => 2

lemma rank_injective : Function.Injective rank := by
  intro a b h
  cases a <;> cases b <;> simp_all [rank]

instance : LinearOrder Truth := LinearOrder.lift' rank rank_injective

lemma le_iff (a b : Truth) : a ≤ b ↔ (a.lo → b.lo) ∧ (a.hi → b.hi) := by
  cases a <;> cases b <;> decide

lemma ext_iff' (a b : Truth) : a = b ↔ a.lo = b.lo ∧ a.hi = b.hi := by
  cases a <;> cases b <;> decide

@[simp] lemma lo_eq_true (a : Truth) : a.lo = true ↔ a = TRUE := by cases a <;> decide

@[simp] lemma hi_eq_false (a : Truth) : a.hi = false ↔ a = FALSE := by cases a <;> decide

lemma lo_le_hi (a : Truth) : a.lo → a.hi := by cases a <;> decide

lemma le_TRUE (a : Truth) : a ≤ TRUE := by cases a <;> decide

lemma FALSE_le (a : Truth) : FALSE ≤ a := by cases a <;> decide

lemma TRUE_le_iff (a : Truth) : TRUE ≤ a ↔ a = TRUE := by cases a <;> decide

lemma le_FALSE_iff (a : Truth) : a ≤ FALSE ↔ a = FALSE := by cases a <;> decide

lemma unknown_iff (a : Truth) : a = UNKNOWN ↔ a.lo = false ∧ a.hi = true := by
  cases a <;> decide

/-- The information order: UNKNOWN may become either classical value. -/
def Refines (a b : Truth) : Prop := a = UNKNOWN ∨ a = b

instance (a b : Truth) : Decidable (Refines a b) := inferInstanceAs (Decidable (_ ∨ _))

lemma refines_iff (a b : Truth) : Refines a b ↔ (a.lo → b.lo) ∧ (b.hi → a.hi) := by
  cases a <;> cases b <;> decide

/-- n-ary strong Kleene conjunction. -/
def all (ts : List Truth) : Truth :=
  if FALSE ∈ ts then FALSE else if UNKNOWN ∈ ts then UNKNOWN else TRUE

/-- n-ary strong Kleene disjunction. -/
def any (ts : List Truth) : Truth :=
  if TRUE ∈ ts then TRUE else if UNKNOWN ∈ ts then UNKNOWN else FALSE

/-- Strong Kleene threshold: at least `n` of the operands hold. -/
def atLeast (n : ℕ) (ts : List Truth) : Truth :=
  if n ≤ ts.countP lo then TRUE else if ts.countP hi < n then FALSE else UNKNOWN

@[simp] lemma lo_all (ts : List Truth) : (all ts).lo = ts.all lo := by
  induction ts with
  | nil => rfl
  | cons t ts ih =>
    rw [List.all_cons, ← ih]
    cases t <;> simp only [all, List.mem_cons] <;> split_ifs <;> simp_all [lo]

@[simp] lemma hi_all (ts : List Truth) : (all ts).hi = ts.all hi := by
  induction ts with
  | nil => rfl
  | cons t ts ih =>
    rw [List.all_cons, ← ih]
    cases t <;> simp only [all, List.mem_cons] <;> split_ifs <;> simp_all [hi]

@[simp] lemma lo_any (ts : List Truth) : (any ts).lo = ts.any lo := by
  induction ts with
  | nil => rfl
  | cons t ts ih =>
    rw [List.any_cons, ← ih]
    cases t <;> simp only [any, List.mem_cons] <;> split_ifs <;> simp_all [lo]

@[simp] lemma hi_any (ts : List Truth) : (any ts).hi = ts.any hi := by
  induction ts with
  | nil => rfl
  | cons t ts ih =>
    rw [List.any_cons, ← ih]
    cases t <;> simp only [any, List.mem_cons] <;> split_ifs <;> simp_all [hi]

lemma countP_lo_le_hi (ts : List Truth) : ts.countP lo ≤ ts.countP hi :=
  List.countP_mono_left fun t _ => lo_le_hi t

@[simp] lemma lo_atLeast (n : ℕ) (ts : List Truth) :
    (atLeast n ts).lo = decide (n ≤ ts.countP lo) := by
  unfold atLeast
  split_ifs <;> simp_all [lo]

@[simp] lemma hi_atLeast (n : ℕ) (ts : List Truth) :
    (atLeast n ts).hi = decide (n ≤ ts.countP hi) := by
  have h := countP_lo_le_hi ts
  unfold atLeast
  split_ifs <;> simp [hi] <;> omega

lemma any_eq_TRUE (ts : List Truth) : any ts = TRUE ↔ TRUE ∈ ts := by
  unfold any
  split_ifs <;> simp_all

lemma any_eq_FALSE (ts : List Truth) : any ts = FALSE ↔ ∀ t ∈ ts, t = FALSE := by
  rw [← hi_eq_false, hi_any, List.any_eq_false]
  simp

lemma any_eq_UNKNOWN (ts : List Truth) : any ts = UNKNOWN ↔ TRUE ∉ ts ∧ UNKNOWN ∈ ts := by
  unfold any
  split_ifs <;> simp_all

end Truth

/-- Monotone formulas: atoms under conjunction, disjunction and thresholds. -/
inductive Formula (α : Type*) where
  | atom (a : α)
  | all (fs : List (Formula α))
  | any (fs : List (Formula α))
  | atLeast (n : ℕ) (fs : List (Formula α))

namespace Formula

variable {α : Type*}

/-- Hands each operand of a gate its own hypothesis. -/
@[elab_as_elim]
theorem gateInduction {motive : Formula α → Prop}
    (atom : ∀ a, motive (.atom a))
    (all : ∀ fs, (∀ f ∈ fs, motive f) → motive (.all fs))
    (any : ∀ fs, (∀ f ∈ fs, motive f) → motive (.any fs))
    (atLeast : ∀ n fs, (∀ f ∈ fs, motive f) → motive (.atLeast n fs)) :
    ∀ f, motive f
  | .atom a => atom a
  | .all fs => all fs fun f _ => gateInduction atom all any atLeast f
  | .any fs => any fs fun f _ => gateInduction atom all any atLeast f
  | .atLeast n fs => atLeast n fs fun f _ => gateInduction atom all any atLeast f

mutual
/-- Strong Kleene value under a three-valued assignment. -/
def eval (v : α → Truth) : Formula α → Truth
  | .atom a => v a
  | .all fs => Truth.all (evalList v fs)
  | .any fs => Truth.any (evalList v fs)
  | .atLeast n fs => Truth.atLeast n (evalList v fs)

def evalList (v : α → Truth) : List (Formula α) → List Truth
  | [] => []
  | f :: fs => eval v f :: evalList v fs
end

mutual
/-- Classical value under a Boolean assignment. -/
def holds (b : α → Bool) : Formula α → Bool
  | .atom a => b a
  | .all fs => (holdsList b fs).all id
  | .any fs => (holdsList b fs).any id
  | .atLeast n fs => decide (n ≤ (holdsList b fs).countP id)

def holdsList (b : α → Bool) : List (Formula α) → List Bool
  | [] => []
  | f :: fs => holds b f :: holdsList b fs
end

mutual
/-- The atoms of a formula, in reading order. -/
def atoms : Formula α → List α
  | .atom a => [a]
  | .all fs => atomsList fs
  | .any fs => atomsList fs
  | .atLeast _ fs => atomsList fs

def atomsList : List (Formula α) → List α
  | [] => []
  | f :: fs => atoms f ++ atomsList fs
end

@[simp] lemma evalList_eq_map (v : α → Truth) (fs : List (Formula α)) :
    evalList v fs = fs.map (eval v) := by
  induction fs with
  | nil => rfl
  | cons f fs ih => rw [evalList, ih, List.map_cons]

@[simp] lemma holdsList_eq_map (b : α → Bool) (fs : List (Formula α)) :
    holdsList b fs = fs.map (holds b) := by
  induction fs with
  | nil => rfl
  | cons f fs ih => rw [holdsList, ih, List.map_cons]

@[simp] lemma mem_atomsList {a : α} {fs : List (Formula α)} :
    a ∈ atomsList fs ↔ ∃ f ∈ fs, a ∈ atoms f := by
  induction fs with
  | nil => simp [atomsList]
  | cons f fs ih => simp [atomsList, ih]

/-- The lower reading of the Kleene value is the classical value of the lower reading. -/
theorem lo_eval (v : α → Truth) (f : Formula α) :
    (eval v f).lo = holds (fun a => (v a).lo) f := by
  induction f using gateInduction with
  | atom a => rfl
  | all fs ih =>
    rw [eval, holds, Truth.lo_all, evalList_eq_map, holdsList_eq_map, ← List.map_congr_left ih]
    simp only [List.all_map, Function.comp_def, id]
  | any fs ih =>
    rw [eval, holds, Truth.lo_any, evalList_eq_map, holdsList_eq_map, ← List.map_congr_left ih]
    simp only [List.any_map, Function.comp_def, id]
  | atLeast n fs ih =>
    rw [eval, holds, Truth.lo_atLeast, evalList_eq_map, holdsList_eq_map, ← List.map_congr_left ih]
    simp only [List.countP_map, Function.comp_def, id]

/-- The upper reading of the Kleene value is the classical value of the upper reading. -/
theorem hi_eval (v : α → Truth) (f : Formula α) :
    (eval v f).hi = holds (fun a => (v a).hi) f := by
  induction f using gateInduction with
  | atom a => rfl
  | all fs ih =>
    rw [eval, holds, Truth.hi_all, evalList_eq_map, holdsList_eq_map, ← List.map_congr_left ih]
    simp only [List.all_map, Function.comp_def, id]
  | any fs ih =>
    rw [eval, holds, Truth.hi_any, evalList_eq_map, holdsList_eq_map, ← List.map_congr_left ih]
    simp only [List.any_map, Function.comp_def, id]
  | atLeast n fs ih =>
    rw [eval, holds, Truth.hi_atLeast, evalList_eq_map, holdsList_eq_map, ← List.map_congr_left ih]
    simp only [List.countP_map, Function.comp_def, id]

/-- Formulas without negation are monotone. -/
theorem holds_mono {b b' : α → Bool} (h : ∀ a, b a → b' a) (f : Formula α) :
    holds b f → holds b' f := by
  induction f using gateInduction with
  | atom a => exact h a
  | all fs ih =>
    simp only [holds, holdsList_eq_map, List.all_map, List.all_eq_true, Function.comp, id]
    exact fun hf f hm => ih f hm (hf f hm)
  | any fs ih =>
    simp only [holds, holdsList_eq_map, List.any_map, List.any_eq_true, Function.comp, id]
    rintro ⟨f, hm, hf⟩
    exact ⟨f, hm, ih f hm hf⟩
  | atLeast n fs ih =>
    simp only [holds, holdsList_eq_map, List.countP_map, decide_eq_true_eq]
    intro hn
    exact hn.trans (List.countP_mono_left fun f hm => ih f hm)

/-- A classical assignment that agrees with every determined value. -/
def Completes (b : α → Bool) (v : α → Truth) : Prop :=
  ∀ a, (v a = .TRUE → b a = true) ∧ (v a = .FALSE → b a = false)

lemma completes_lo (v : α → Truth) : Completes (fun a => (v a).lo) v := by
  intro a
  cases h : v a <;> simp [Truth.lo, h]

lemma completes_hi (v : α → Truth) : Completes (fun a => (v a).hi) v := by
  intro a
  cases h : v a <;> simp [Truth.hi, h]

lemma Completes.lo_le {b : α → Bool} {v : α → Truth} (h : Completes b v) (a : α) :
    (v a).lo → b a := by
  intro ht
  exact (h a).1 ((Truth.lo_eq_true _).mp ht)

lemma Completes.le_hi {b : α → Bool} {v : α → Truth} (h : Completes b v) (a : α) :
    b a → (v a).hi := by
  intro hb
  by_contra hh
  have hf := (h a).2 ((Truth.hi_eq_false _).mp (by simpa using hh))
  rw [hf] at hb
  exact Bool.false_ne_true hb

/-- TRUE exactly when every completion satisfies the formula. -/
theorem eval_eq_TRUE_iff (v : α → Truth) (f : Formula α) :
    eval v f = .TRUE ↔ ∀ b, Completes b v → holds b f = true := by
  rw [← Truth.lo_eq_true, lo_eval]
  constructor
  · intro h b hb
    exact holds_mono hb.lo_le f h
  · intro h
    exact h _ (completes_lo v)

/-- FALSE exactly when no completion satisfies the formula. -/
theorem eval_eq_FALSE_iff (v : α → Truth) (f : Formula α) :
    eval v f = .FALSE ↔ ∀ b, Completes b v → holds b f = false := by
  rw [← Truth.hi_eq_false, hi_eval]
  constructor
  · intro h b hb
    by_contra hc
    have hh := holds_mono hb.le_hi f (by simpa using hc)
    rw [h] at hh
    exact Bool.false_ne_true hh
  · intro h
    exact h _ (completes_hi v)

/-- UNKNOWN exactly when two completions disagree. -/
theorem eval_eq_UNKNOWN_iff (v : α → Truth) (f : Formula α) :
    eval v f = .UNKNOWN ↔
      ∃ b b', Completes b v ∧ Completes b' v ∧ holds b f ≠ holds b' f := by
  constructor
  · intro h
    refine ⟨_, _, completes_lo v, completes_hi v, ?_⟩
    rw [← lo_eval, ← hi_eval, h]
    decide
  · rintro ⟨b, b', hb, hb', hne⟩
    cases he : eval v f with
    | UNKNOWN => rfl
    | TRUE =>
      have ht := (eval_eq_TRUE_iff v f).mp he
      exact absurd ((ht b hb).trans (ht b' hb').symm) hne
    | FALSE =>
      have hf := (eval_eq_FALSE_iff v f).mp he
      exact absurd ((hf b hb).trans (hf b' hb').symm) hne

/-- Evaluation is monotone in the truth order. -/
theorem eval_mono {v v' : α → Truth} (h : ∀ a, v a ≤ v' a) (f : Formula α) :
    eval v f ≤ eval v' f := by
  rw [Truth.le_iff, lo_eval, lo_eval, hi_eval, hi_eval]
  exact ⟨holds_mono (fun a => ((Truth.le_iff _ _).mp (h a)).1) f,
    holds_mono (fun a => ((Truth.le_iff _ _).mp (h a)).2) f⟩

/-- Evaluation is monotone in the information order. -/
theorem eval_refines {v v' : α → Truth} (h : ∀ a, Truth.Refines (v a) (v' a)) (f : Formula α) :
    Truth.Refines (eval v f) (eval v' f) := by
  rw [Truth.refines_iff, lo_eval, lo_eval, hi_eval, hi_eval]
  exact ⟨holds_mono (fun a => ((Truth.refines_iff _ _).mp (h a)).1) f,
    holds_mono (fun a => ((Truth.refines_iff _ _).mp (h a)).2) f⟩

/-- Evaluation reads only the atoms of the formula. -/
theorem eval_congr {v v' : α → Truth} (f : Formula α) (h : ∀ a ∈ atoms f, v a = v' a) :
    eval v f = eval v' f := by
  induction f using gateInduction with
  | atom a => exact h a (List.mem_singleton_self a)
  | all fs ih =>
    simp only [eval, evalList_eq_map]
    rw [List.map_congr_left fun f hf => ih f hf fun a ha => h a (mem_atomsList.mpr ⟨f, hf, ha⟩)]
  | any fs ih =>
    simp only [eval, evalList_eq_map]
    rw [List.map_congr_left fun f hf => ih f hf fun a ha => h a (mem_atomsList.mpr ⟨f, hf, ha⟩)]
  | atLeast n fs ih =>
    simp only [eval, evalList_eq_map]
    rw [List.map_congr_left fun f hf => ih f hf fun a ha => h a (mem_atomsList.mpr ⟨f, hf, ha⟩)]

end Formula
end TrustLens
