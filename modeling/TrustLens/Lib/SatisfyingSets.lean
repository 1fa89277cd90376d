import Mathlib.Data.Finset.Union
import Mathlib.Data.List.Sublists
import TrustLens.Lib.ThreeValued

/-!
# The sets that satisfy a monotone formula

A monotone formula holds on a set of atoms exactly when the set includes one of finitely many:
the unions over a conjunction, the alternatives of a disjunction, and for a threshold the
unions over each choice of as many operands.
-/

namespace TrustLens

variable {α β : Type*}

/-- The subsequences of a given length, in the order of the positions they pick. -/
def combinations : ℕ → List α → List (List α)
  | 0, _ => [[]]
  | _ + 1, [] => []
  | n + 1, x :: xs => (combinations n xs).map (x :: ·) ++ combinations (n + 1) xs

lemma mem_combinations {n : ℕ} {xs ys : List α} :
    ys ∈ combinations n xs ↔ ys.Sublist xs ∧ ys.length = n := by
  induction xs generalizing n ys with
  | nil =>
    cases n with
    | zero => simp [combinations]
    | succ n =>
      simp only [combinations, List.not_mem_nil, List.sublist_nil, false_iff, not_and]
      rintro rfl
      exact Nat.zero_ne_add_one n
  | cons x xs ih =>
    cases n with
    | zero =>
      simp only [combinations, List.mem_singleton, List.length_eq_zero_iff, iff_and_self]
      rintro rfl
      exact List.nil_sublist _
    | succ n =>
      simp only [combinations, List.mem_append, List.mem_map, ih]
      constructor
      · rintro (⟨zs, ⟨hsub, hlen⟩, rfl⟩ | ⟨hsub, hlen⟩)
        · exact ⟨hsub.cons_cons x, by rw [List.length_cons, hlen]⟩
        · exact ⟨hsub.cons x, hlen⟩
      · rintro ⟨hsub, hlen⟩
        cases hsub with
        | cons _ hsub => exact .inr ⟨hsub, hlen⟩
        | cons_cons _ hsub => exact .inl ⟨_, ⟨hsub, Nat.succ_inj.mp hlen⟩, rfl⟩

lemma combinations_map (f : α → β) (n : ℕ) (xs : List α) :
    combinations n (xs.map f) = (combinations n xs).map (List.map f) := by
  induction xs generalizing n with
  | nil => cases n <;> rfl
  | cons x xs ih =>
    cases n with
    | zero => rfl
    | succ n =>
      simp only [List.map_cons, combinations, ih, List.map_append, List.map_map, Function.comp_def]

/-- Enough members pass a test exactly when some choice of as many passes it. -/
lemma le_countP_iff (p : α → Bool) (n : ℕ) (xs : List α) :
    n ≤ xs.countP p ↔ ∃ ys ∈ combinations n xs, ∀ y ∈ ys, p y = true := by
  constructor
  · intro hn
    refine ⟨(xs.filter p).take n, mem_combinations.mpr ⟨?_, ?_⟩, fun y hy => ?_⟩
    · exact (List.take_sublist _ _).trans List.filter_sublist
    · rw [List.length_take, ← List.countP_eq_length_filter]
      exact min_eq_left hn
    · exact (List.mem_filter.mp (List.mem_of_mem_take hy)).2
  · rintro ⟨ys, hys, hall⟩
    obtain ⟨hsub, rfl⟩ := mem_combinations.mp hys
    exact (List.countP_eq_length.mpr hall).symm.le.trans (hsub.countP_le (p := p))

section Joins

variable [DecidableEq α]

/-- The unions of one set of each family, on top of those joined so far. -/
def joins : List (Finset α) → List (List (Finset α)) → List (Finset α)
  | joined, [] => joined
  | joined, family :: rest => joins (joined.flatMap fun c => family.map (c ∪ ·)) rest

lemma exists_joins_subset {joined : List (Finset α)} {families : List (List (Finset α))}
    {T : Finset α} : (∃ S ∈ joins joined families, S ⊆ T) ↔
      (∃ c ∈ joined, c ⊆ T) ∧ ∀ family ∈ families, ∃ s ∈ family, s ⊆ T := by
  induction families generalizing joined with
  | nil => simp [joins]
  | cons family rest ih =>
    rw [joins, ih, List.forall_mem_cons, ← and_assoc]
    refine and_congr_left fun _ => ?_
    constructor
    · rintro ⟨u, hu, hsub⟩
      obtain ⟨c, hc, hu⟩ := List.mem_flatMap.mp hu
      obtain ⟨s, hs, rfl⟩ := List.mem_map.mp hu
      obtain ⟨hcT, hsT⟩ := Finset.union_subset_iff.mp hsub
      exact ⟨⟨c, hc, hcT⟩, s, hs, hsT⟩
    · rintro ⟨⟨c, hc, hcT⟩, s, hs, hsT⟩
      exact ⟨c ∪ s, List.mem_flatMap.mpr ⟨c, hc, List.mem_map_of_mem hs⟩,
        Finset.union_subset hcT hsT⟩

lemma subset_of_mem_joins {joined : List (Finset α)} {families : List (List (Finset α))}
    {A : Finset α} (hjoined : ∀ c ∈ joined, c ⊆ A)
    (hfamilies : ∀ family ∈ families, ∀ s ∈ family, s ⊆ A) :
    ∀ S ∈ joins joined families, S ⊆ A := by
  induction families generalizing joined with
  | nil => exact hjoined
  | cons family rest ih =>
    rw [List.forall_mem_cons] at hfamilies
    refine ih (fun u hu => ?_) hfamilies.2
    obtain ⟨c, hc, hu⟩ := List.mem_flatMap.mp hu
    obtain ⟨s, hs, rfl⟩ := List.mem_map.mp hu
    exact Finset.union_subset (hjoined c hc) (hfamilies.1 s hs)

lemma joins_nil (families : List (List (Finset α))) : joins [] families = [] := by
  induction families with
  | nil => rfl
  | cons family rest ih => exact ih

end Joins

namespace Formula

lemma holds_congr {b b' : α → Bool} (f : Formula α) (h : ∀ a ∈ f.atoms, b a = b' a) :
    holds b f = holds b' f := by
  induction f using gateInduction with
  | atom a => exact h a (List.mem_singleton_self a)
  | all fs ih | any fs ih | atLeast n fs ih =>
    have heq : fs.map (holds b) = fs.map (holds b') := List.map_congr_left fun f hf =>
      ih f hf fun a ha => h a (mem_atomsList.mpr ⟨f, hf, ha⟩)
    simp only [holds, holdsList_eq_map, heq]

section Satisfying

variable [DecidableEq α]

mutual
/-- The enumerated sets, which need not be minimal and may repeat. -/
def satisfying : Formula α → List (Finset α)
  | .atom a => [{a}]
  | .all fs => joins [∅] (satisfyingList fs)
  | .any fs => (satisfyingList fs).flatten
  | .atLeast n fs => (combinations n (satisfyingList fs)).flatMap (joins [∅])

def satisfyingList : List (Formula α) → List (List (Finset α))
  | [] => []
  | f :: fs => satisfying f :: satisfyingList fs
end

@[simp] lemma satisfyingList_eq_map (fs : List (Formula α)) :
    satisfyingList fs = fs.map satisfying := by
  induction fs with
  | nil => rfl
  | cons f fs ih => rw [satisfyingList, ih, List.map_cons]

/-- A set satisfies a formula exactly when it includes an enumerated one. -/
theorem exists_satisfying_iff (T : Finset α) (f : Formula α) :
    (∃ S ∈ satisfying f, S ⊆ T) ↔ holds (fun a => decide (a ∈ T)) f = true := by
  induction f using gateInduction with
  | atom a => simp [satisfying, holds]
  | all fs ih =>
    rw [satisfying, holds, exists_joins_subset]
    simp only [satisfyingList_eq_map, List.forall_mem_map, List.mem_singleton, exists_eq_left,
      Finset.empty_subset, true_and, holdsList_eq_map, List.all_map, List.all_eq_true,
      Function.comp_apply, id]
    exact forall₂_congr ih
  | any fs ih =>
    rw [satisfying, holds]
    simp only [satisfyingList_eq_map, List.mem_flatten, List.mem_map, holdsList_eq_map,
      List.any_map, List.any_eq_true, Function.comp_apply, id]
    constructor
    · rintro ⟨S, ⟨_, ⟨f, hf, rfl⟩, hS⟩, hsub⟩
      exact ⟨f, hf, (ih f hf).mp ⟨S, hS, hsub⟩⟩
    · rintro ⟨f, hf, hholds⟩
      obtain ⟨S, hS, hsub⟩ := (ih f hf).mpr hholds
      exact ⟨S, ⟨_, ⟨f, hf, rfl⟩, hS⟩, hsub⟩
  | atLeast n fs ih =>
    rw [satisfying, holds, decide_eq_true_iff, satisfyingList_eq_map, holdsList_eq_map,
      List.countP_map, le_countP_iff, combinations_map]
    simp only [List.mem_flatMap, List.mem_map]
    constructor
    · rintro ⟨S, ⟨_, ⟨gs, hgs, rfl⟩, hS⟩, hsub⟩
      refine ⟨gs, hgs, fun g hg => ?_⟩
      have hmem : g ∈ fs := (mem_combinations.mp hgs).1.subset hg
      exact (ih g hmem).mp ((exists_joins_subset.mp ⟨S, hS, hsub⟩).2 _ (List.mem_map_of_mem hg))
    · rintro ⟨gs, hgs, hall⟩
      have hjoined : ∃ S ∈ joins [∅] (gs.map satisfying), S ⊆ T := by
        refine exists_joins_subset.mpr ⟨⟨∅, List.mem_singleton_self _, Finset.empty_subset T⟩, ?_⟩
        rw [List.forall_mem_map]
        intro g hg
        exact (ih g ((mem_combinations.mp hgs).1.subset hg)).mpr (hall g hg)
      obtain ⟨S, hS, hsub⟩ := hjoined
      exact ⟨S, ⟨_, ⟨gs, hgs, rfl⟩, hS⟩, hsub⟩

/-- An enumerated set satisfies the formula. -/
lemma holds_of_mem_satisfying {f : Formula α} {S : Finset α} (h : S ∈ satisfying f) :
    holds (fun a => decide (a ∈ S)) f = true :=
  (exists_satisfying_iff S f).mp ⟨S, h, subset_rfl⟩

/-- The enumerated sets are sets of atoms. -/
lemma subset_atoms (f : Formula α) : ∀ S ∈ satisfying f, S ⊆ f.atoms.toFinset := by
  have hmono : ∀ {f : Formula α} {fs : List (Formula α)}, f ∈ fs →
      f.atoms.toFinset ⊆ (atomsList fs).toFinset := by
    intro f fs hf a ha
    rw [List.mem_toFinset] at ha ⊢
    exact mem_atomsList.mpr ⟨f, hf, ha⟩
  induction f using gateInduction with
  | atom a => simp [satisfying, atoms]
  | all fs ih =>
    rw [satisfying, atoms, satisfyingList_eq_map]
    refine subset_of_mem_joins (by simp) ?_
    rw [List.forall_mem_map]
    exact fun f hf S hS => (ih f hf S hS).trans (hmono hf)
  | any fs ih =>
    intro S hS
    rw [satisfying, satisfyingList_eq_map, List.mem_flatten] at hS
    obtain ⟨_, hfamily, hS⟩ := hS
    obtain ⟨f, hf, rfl⟩ := List.mem_map.mp hfamily
    exact (ih f hf S hS).trans (hmono hf)
  | atLeast n fs ih =>
    intro S hS
    rw [satisfying, satisfyingList_eq_map, combinations_map, List.mem_flatMap] at hS
    obtain ⟨_, hchoice, hS⟩ := hS
    obtain ⟨gs, hgs, rfl⟩ := List.mem_map.mp hchoice
    refine subset_of_mem_joins (by simp) ?_ S hS
    rw [List.forall_mem_map]
    intro g hg S hS
    have hmem : g ∈ fs := (mem_combinations.mp hgs).1.subset hg
    exact (ih g hmem S hS).trans (hmono hmem)

/-- Something is enumerated exactly when the formula can hold. -/
lemma satisfying_ne_nil_iff (f : Formula α) :
    satisfying f ≠ [] ↔ holds (fun _ => true) f = true := by
  have hatoms : holds (fun a => decide (a ∈ f.atoms.toFinset)) f = holds (fun _ => true) f :=
    holds_congr f fun a ha => decide_eq_true (List.mem_toFinset.mpr ha)
  rw [← hatoms, ← exists_satisfying_iff]
  constructor
  · intro hne
    obtain ⟨S, hS⟩ := List.exists_mem_of_ne_nil _ hne
    exact ⟨S, hS, subset_atoms f S hS⟩
  · rintro ⟨S, hS, -⟩
    exact List.ne_nil_of_mem hS

end Satisfying

mutual
/-- No gate is vacuous: a conjunction has operands, a threshold is positive. -/
def Grounded : Formula α → Prop
  | .atom _ => True
  | .all fs => fs ≠ [] ∧ GroundedList fs
  | .any fs => GroundedList fs
  | .atLeast n fs => 0 < n ∧ GroundedList fs

def GroundedList : List (Formula α) → Prop
  | [] => True
  | f :: fs => Grounded f ∧ GroundedList fs
end

@[simp] lemma groundedList_iff (fs : List (Formula α)) :
    GroundedList fs ↔ ∀ f ∈ fs, Grounded f := by
  induction fs with
  | nil => simp [GroundedList]
  | cons f fs ih => rw [GroundedList, ih, List.forall_mem_cons]

/-- Nothing is not enough. -/
lemma Grounded.not_holds {f : Formula α} (h : Grounded f) : holds (fun _ => false) f = false := by
  induction f using gateInduction with
  | atom a => rfl
  | all fs ih =>
    obtain ⟨hne, hfs⟩ := h
    obtain ⟨f, hf⟩ := List.exists_mem_of_ne_nil fs hne
    rw [holds, holdsList_eq_map, List.all_eq_false]
    exact ⟨false, List.mem_map.mpr ⟨f, hf, ih f hf ((groundedList_iff fs).mp hfs f hf)⟩, by simp⟩
  | any fs ih =>
    rw [holds, holdsList_eq_map, List.any_eq_false]
    simp only [List.mem_map, forall_exists_index, and_imp]
    rintro _ f hf rfl
    rw [ih f hf ((groundedList_iff fs).mp h f hf)]
    exact Bool.false_ne_true
  | atLeast n fs ih =>
    obtain ⟨hn, hfs⟩ := h
    have hnone : (fs.map (holds fun _ => false)).countP id = 0 := by
      rw [List.countP_eq_zero]
      simp only [List.mem_map, forall_exists_index, and_imp]
      rintro _ f hf rfl
      rw [ih f hf ((groundedList_iff fs).mp hfs f hf)]
      exact Bool.false_ne_true
    rw [holds, holdsList_eq_map, hnone, decide_eq_false_iff_not, Nat.not_le]
    exact hn

end Formula
end TrustLens
