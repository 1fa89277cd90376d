import TrustLens.Validation.RuleLint

/-!
# What the linter enumerates

On a schema-valid condition the enumeration is the family of satisfying sets of its formula,
where it comes to an end. It does not where it reads a bound that is no index: a whole double
is an integer to the schema, and `itertools` takes none.
-/

namespace TrustLens.Validation

open Json (lookup)
open TrustLens.Runtime.Condition (Operands bound? grammarInduction parse)

/-! ### Walks that end under a condition -/

/-- A walk returns a value under a condition, and raises without it. -/
def Returns {α : Type} (x : Walk α) (p : Prop) (a : α) : Prop :=
  (p ∧ x = .ok a) ∨ (¬p ∧ ∃ e, x = .error e)

namespace Returns

variable {α β : Type} {x : Walk α} {p q : Prop} {a : α} {b : β} {f : α → Walk β}

lemma ok (a : α) : Returns (.ok a) True a := .inl ⟨trivial, rfl⟩

lemma congr (h : Returns x p a) (hpq : p ↔ q) : Returns x q a := by
  rwa [Returns, ← hpq]

lemma bind (h : Returns x p a) (hf : p → Returns (f a) q b) : Returns (x >>= f) (p ∧ q) b := by
  rcases h with ⟨hp, rfl⟩ | ⟨hp, e, rfl⟩
  · rcases hf hp with ⟨hq, hb⟩ | ⟨hq, he⟩
    · exact .inl ⟨⟨hp, hq⟩, hb⟩
    · exact .inr ⟨fun h => hq h.2, he⟩
  · exact .inr ⟨fun h => hp h.1, e, rfl⟩

/-- A traversal returns when every walk of it does. -/
lemma mapM {γ : Type} {g : γ → Walk α} {c : γ → Prop} {s : γ → α} {xs : List γ}
    (h : ∀ y ∈ xs, Returns (g y) (c y) (s y)) : Returns (xs.mapM g) (∀ y ∈ xs, c y) (xs.map s) := by
  induction xs with
  | nil => exact .inl ⟨fun _ hy => absurd hy List.not_mem_nil, rfl⟩
  | cons y ys ih =>
    rw [List.forall_mem_cons] at h
    rw [List.mapM_cons]
    refine congr (bind h.1 fun _ => bind (ih h.2) fun _ => ok _) ?_
    rw [List.forall_mem_cons, and_true]

lemma exists_ok_iff (h : Returns x p a) : (∃ v, x = .ok v) ↔ p := by
  rcases h with ⟨hp, rfl⟩ | ⟨hp, e, rfl⟩
  · exact iff_of_true ⟨a, rfl⟩ hp
  · exact iff_of_false nofun hp

lemma eq_of_ok (h : Returns x p a) {v : α} (hv : x = .ok v) : v = a := by
  rcases h with ⟨-, rfl⟩ | ⟨-, e, rfl⟩
  · exact (Except.ok.inj hv).symm
  · cases hv

end Returns

/-! ### The operands of a rule -/

lemma operandsEach_map {ps : List (Json × Formula String)}
    (h : ∀ p ∈ ps, operands p.1 = .ok p.2.atoms) :
    operandsEach (ps.map Prod.fst) = .ok (Formula.atomsList (ps.map Prod.snd)) := by
  induction ps with
  | nil => rfl
  | cons p ps ih =>
    rw [List.forall_mem_cons] at h
    rw [List.map_cons, operandsEach, h.1, ih h.2]
    rfl

lemma operandsOf_of_lookup {node : List (String × Json)} {v : Json}
    (h : lookup "of" node = some v) : operandsOf node = operandsIter v := by
  induction node with
  | nil => cases h
  | cons e rest ih =>
    obtain ⟨k, w⟩ := e
    simp only [lookup] at h
    simp only [operandsOf]
    split_ifs at h ⊢ with hk
    · rw [Option.some.inj h]
    · exact ih h

lemma operands_node {op : String} {value : Json} {ids : List String}
    (h : (if op = "n_of" then operandsThreshold value else operandsIter value) = .ok ids) :
    operands (.obj [(op, value)]) = .ok ids := by
  simp only [operands, operandsEntries]
  split_ifs at h ⊢ <;> simp [h, bind, Except.bind, pure, Except.pure]

theorem operands_of_parse (c : Json) (f : Formula String) (h : parse c = some f) :
    operands c = .ok f.atoms := by
  refine grammarInduction (motive := fun c f => operands c = .ok f.atoms) ?_ ?_ ?_ ?_ c f h
  · exact fun s => rfl
  · exact fun ps hps => operands_node (operandsEach_map fun p hp => (hps p hp).2)
  · exact fun ps hps => operands_node (operandsEach_map fun p hp => (hps p hp).2)
  · intro node n ps _ hof hps
    refine operands_node ?_
    rw [if_pos rfl, operandsThreshold, operandsOf_of_lookup hof]
    exact operandsEach_map fun p hp => (hps p hp).2

/-! ### Where the enumeration comes to its end -/

/-- Some set of indicators meets the condition. -/
def CanHold (c : Json) : Prop := ∃ f, parse c = some f ∧ f.holds (fun _ => true) = true

/-- Each operand is well under way until one that cannot hold. -/
def InTurn : List (Prop × Prop) → Prop
  | [] => True
  | (counted, canHold) :: rest => counted ∧ (canHold → InTurn rest)

mutual
/-- Every bound that is read is an integer that `itertools` takes as an index. -/
def Counted : Json → Prop
  | .obj [(op, value)] =>
    if op = "all_of" then InTurn (countedIter value)
    else if op = "any_of" then ∀ operand ∈ countedIter value, operand.1
    else CountedThreshold value
  | _ => True

/-- The operands, with whether each is counted and can hold. -/
def countedIter : Json → List (Prop × Prop)
  | .arr xs => countedEach xs
  | _ => []

def countedEach : List Json → List (Prop × Prop)
  | [] => []
  | x :: xs => (Counted x, CanHold x) :: countedEach xs

/-- Of fewer operands than the bound none is read. -/
def CountedThreshold : Json → Prop
  | .obj node => ∃ n : ℕ, lookup "n" node = some (.int n) ∧ n < 2 ^ 63 ∧
      ∀ chosen ∈ combinations n (countedOf node), InTurn chosen
  | _ => True

def countedOf : List (String × Json) → List (Prop × Prop)
  | [] => []
  | (k, v) :: rest => if k = "of" then countedIter v else countedOf rest
end

lemma countedEach_eq_map (xs : List Json) :
    countedEach xs = xs.map fun x => (Counted x, CanHold x) := by
  induction xs with
  | nil => rfl
  | cons x xs ih => rw [countedEach, ih, List.map_cons]

lemma countedOf_of_lookup {node : List (String × Json)} {v : Json}
    (h : lookup "of" node = some v) : countedOf node = countedIter v := by
  induction node with
  | nil => cases h
  | cons e rest ih =>
    obtain ⟨k, w⟩ := e
    simp only [lookup] at h
    simp only [countedOf]
    split_ifs at h ⊢ with hk
    · rw [Option.some.inj h]
    · exact ih h

lemma setsEach_eq_map (xs : List Json) : setsEach xs = xs.map satisfyingSets := by
  induction xs with
  | nil => rfl
  | cons x xs ih => rw [setsEach, ih, List.map_cons]

lemma setsMember_eq (key : String) (entries : List (String × Json)) :
    setsMember key entries = (lookup key entries).map setsIter := by
  induction entries with
  | nil => rfl
  | cons e rest ih =>
    obtain ⟨k, v⟩ := e
    simp only [setsMember, lookup]
    split_ifs
    · rfl
    · exact ih

/-! ### The enumeration is the family of satisfying sets -/

lemma extendAll_nil (items : List (Walk (List (Finset String)))) : extendAll [] items = .ok [] := by
  induction items with
  | nil => rfl
  | cons item rest ih => rw [extendAll, if_pos rfl, ih]

/-- What the walk of an operand does. -/
def OperandWalked (p : Json × Formula String) : Prop :=
  Returns (satisfyingSets p.1) (Counted p.1) p.2.satisfying ∧ (CanHold p.1 ↔ p.2.satisfying ≠ [])

lemma extendAll_returns {ps : List (Json × Formula String)} (h : ∀ p ∈ ps, OperandWalked p)
    {combos : List (Finset String)} (hne : combos ≠ []) :
    Returns (extendAll combos (ps.map fun p => satisfyingSets p.1))
      (InTurn (ps.map fun p => (Counted p.1, CanHold p.1)))
      (joins combos (ps.map fun p => p.2.satisfying)) := by
  induction ps generalizing combos with
  | nil => exact .ok _
  | cons p ps ih =>
    rw [List.forall_mem_cons] at h
    obtain ⟨⟨hwalk, hcan⟩, hrest⟩ := h
    rw [List.map_cons, List.map_cons, List.map_cons, extendAll, if_neg hne, InTurn, joins]
    refine hwalk.bind fun _ => ?_
    by_cases hnone : p.2.satisfying = []
    · -- nothing is left to extend, so nothing further is walked
      have hcannot : ¬CanHold p.1 := fun hc => hcan.mp hc hnone
      have hnil : combos.flatMap (fun _ => ([] : List (Finset String))) = [] :=
        List.flatMap_eq_nil_iff.mpr fun _ _ => rfl
      simp only [hnone, List.map_nil, hnil, extendAll_nil, joins_nil]
      exact (Returns.ok _).congr (iff_of_true trivial fun hc => absurd hc hcannot)
    · refine (ih hrest fun hnil => ?_).congr (by rw [hcan]; exact (imp_iff_right hnone).symm)
      obtain ⟨c, hc⟩ := List.exists_mem_of_ne_nil _ hne
      have := List.flatMap_eq_nil_iff.mp hnil c hc
      exact hnone (List.map_eq_nil_iff.mp this)

lemma exists_of_bound {node : List (String × Json)} {n : ℕ} (h : bound? node = some n) :
    ∃ v, lookup "n" node = some v := by
  cases hv : lookup "n" node with
  | none =>
    rw [bound?, hv] at h
    cases h
  | some v => exact ⟨v, rfl⟩

lemma eq_of_bound {node : List (String × Json)} {n m : ℕ} (h : bound? node = some n)
    (hv : lookup "n" node = some (.int m)) : n = m := by
  rw [bound?, hv] at h
  simp only [Option.ite_none_right_eq_some, Option.some.injEq] at h
  exact h.2.symm.trans (Int.toNat_natCast m)

lemma combinationLength_returns {node : List (String × Json)} {n : ℕ} (h : bound? node = some n)
    {v : Json} (hv : lookup "n" node = some v) :
    Returns (combinationLength v) (v = .int n ∧ n < 2 ^ 63) n := by
  unfold bound? at h
  rw [hv] at h
  cases v with
  | int m =>
    simp only [Option.ite_none_right_eq_some, Option.some.injEq] at h
    obtain ⟨hpos, rfl⟩ := h
    have hm : ((m.toNat : ℕ) : ℤ) = m := Int.toNat_of_nonneg (by omega)
    by_cases hlarge : 2 ^ 63 ≤ m
    · refine .inr ⟨fun hc => ?_, .Other, if_pos (.inl hlarge)⟩
      omega
    · refine .inl ⟨⟨by rw [hm], by omega⟩, ?_⟩
      rw [combinationLength, if_neg (by omega), if_neg (by omega)]
  | float x =>
    refine .inr ⟨fun hc => ?_, .TypeError, rfl⟩
    cases hc.1
  | null | bool | str | arr | obj => cases h

lemma satisfyingSets_all (xs : List Json) :
    satisfyingSets (.obj [("all_of", .arr xs)]) = extendAll [∅] (xs.map satisfyingSets) := by
  rw [← setsEach_eq_map]
  rfl

lemma satisfyingSets_any (xs : List Json) : satisfyingSets (.obj [("any_of", .arr xs)]) =
    (do return (← (xs.map satisfyingSets).mapM id).flatten) := by
  rw [← setsEach_eq_map]
  rfl

lemma satisfyingSets_threshold {node : List (String × Json)} {bound : Json} {xs : List Json}
    (hn : lookup "n" node = some bound) (hof : lookup "of" node = some (.arr xs)) :
    satisfyingSets (.obj [("n_of", .obj node)]) = (do
      let n ← combinationLength bound
      return (← (combinations n (xs.map satisfyingSets)).mapM (extendAll [∅])).flatten) := by
  have hmember : setsMember "of" node = some (.ok (xs.map satisfyingSets)) := by
    rw [setsMember_eq, hof, Option.map_some, setsIter, setsEach_eq_map]
  have hthreshold : satisfyingSets (.obj [("n_of", .obj node)]) = setsThreshold (.obj node) := rfl
  simp only [hthreshold, setsThreshold, hn, hmember]
  rfl

lemma counted_all (xs : List Json) : Counted (.obj [("all_of", .arr xs)]) ↔
    InTurn (xs.map fun x => (Counted x, CanHold x)) := by
  rw [← countedEach_eq_map]
  rfl

lemma counted_any (xs : List Json) : Counted (.obj [("any_of", .arr xs)]) ↔ ∀ x ∈ xs, Counted x := by
  have hiff : Counted (.obj [("any_of", .arr xs)]) ↔ ∀ operand ∈ countedEach xs, operand.1 := Iff.rfl
  rw [hiff, countedEach_eq_map, List.forall_mem_map]

lemma counted_threshold {node : List (String × Json)} {xs : List Json}
    (hof : lookup "of" node = some (.arr xs)) : Counted (.obj [("n_of", .obj node)]) ↔
      ∃ n : ℕ, lookup "n" node = some (.int n) ∧ n < 2 ^ 63 ∧
        ∀ chosen ∈ combinations n xs, InTurn (chosen.map fun x => (Counted x, CanHold x)) := by
  have hiff : Counted (.obj [("n_of", .obj node)]) ↔ CountedThreshold (.obj node) := Iff.rfl
  rw [hiff, CountedThreshold, countedOf_of_lookup hof, countedIter, countedEach_eq_map]
  simp only [combinations_map, List.forall_mem_map]

/-- The enumeration of a condition is the family of its formula, or ends in an exception. -/
theorem satisfyingSets_returns (c : Json) (f : Formula String) (h : parse c = some f) :
    Returns (satisfyingSets c) (Counted c) f.satisfying := by
  have hwalked : ∀ {ps : List (Json × Formula String)},
      Operands (fun c f => Returns (satisfyingSets c) (Counted c) f.satisfying) ps →
      ∀ p ∈ ps, OperandWalked p := by
    intro ps hps p hp
    obtain ⟨hparse, hreturns⟩ := hps p hp
    refine ⟨hreturns, ?_⟩
    rw [Formula.satisfying_ne_nil_iff, CanHold, hparse]
    simp only [Option.some.injEq, exists_eq_left']
  refine grammarInduction
    (motive := fun c f => Returns (satisfyingSets c) (Counted c) f.satisfying) ?_ ?_ ?_ ?_ c f h
  · exact fun s => .ok _
  · intro ps hps
    rw [satisfyingSets_all, Formula.satisfying, Formula.satisfyingList_eq_map, List.map_map,
      List.map_map]
    refine (extendAll_returns (hwalked hps) (List.cons_ne_nil ∅ [])).congr ?_
    rw [counted_all, List.map_map]
    rfl
  · intro ps hps
    rw [satisfyingSets_any, Formula.satisfying, Formula.satisfyingList_eq_map, List.map_map,
      List.map_map]
    have hany := Returns.mapM fun p hp => (hps p hp).2
    rw [List.mapM_map]
    refine (hany.bind (f := fun sets => .ok sets.flatten) fun _ => .ok _).congr ?_
    rw [counted_any, List.forall_mem_map, and_true]
  · intro node n ps hn hof hps
    obtain ⟨v, hv⟩ := exists_of_bound hn
    have hchoices : Returns ((combinations n (ps.map fun p => satisfyingSets p.1)).mapM
        (extendAll [∅])) (∀ ch ∈ combinations n ps, InTurn (ch.map fun p => (Counted p.1, CanHold p.1)))
        ((combinations n ps).map fun ch => joins [∅] (ch.map fun p => p.2.satisfying)) := by
      rw [combinations_map, List.mapM_map]
      refine Returns.mapM fun ch hch => extendAll_returns (fun p hp => ?_) (List.cons_ne_nil ∅ [])
      exact hwalked hps p ((mem_combinations.mp hch).1.subset hp)
    have hbound := combinationLength_returns hn hv
    rw [satisfyingSets_threshold hv hof, Formula.satisfying, Formula.satisfyingList_eq_map,
      List.map_map, List.map_map, combinations_map, List.flatMap_map]
    refine (hbound.bind fun _ => hchoices.bind (f := fun sets => .ok sets.flatten)
      fun _ => .ok _).congr ?_
    rw [counted_threshold hof, and_true, hv]
    simp only [combinations_map, List.forall_mem_map, List.map_map]
    constructor
    · rintro ⟨⟨rfl, hlt⟩, hall⟩
      exact ⟨n, rfl, hlt, hall⟩
    · rintro ⟨m, hm, hlt, hall⟩
      obtain rfl := Option.some.inj hm
      obtain rfl : n = m := eq_of_bound hn hv
      exact ⟨⟨rfl, hlt⟩, hall⟩

end TrustLens.Validation
