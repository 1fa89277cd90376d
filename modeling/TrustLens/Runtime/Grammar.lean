import TrustLens.Lib.SatisfyingSets
import TrustLens.Runtime.Condition

/-!
# Induction on the condition grammar

A document of the grammar and its formula have one shape. Facts about what a walk over such a
document computes are proved by induction on both at once.
-/

namespace TrustLens.Runtime.Condition

open Json (lookup)

/-- The operands of a node, each with the formula it stands for and a fact of its own. -/
def Operands (motive : Json → Formula String → Prop) (ps : List (Json × Formula String)) : Prop :=
  ∀ p ∈ ps, parse p.1 = some p.2 ∧ motive p.1 p.2

section Induction

variable {motive : Json → Formula String → Prop}
  (atom : ∀ s, motive (.str s) (.atom s))
  (all : ∀ ps, Operands motive ps →
    motive (.obj [("all_of", .arr (ps.map Prod.fst))]) (.all (ps.map Prod.snd)))
  (any : ∀ ps, Operands motive ps →
    motive (.obj [("any_of", .arr (ps.map Prod.fst))]) (.any (ps.map Prod.snd)))
  (threshold : ∀ node n ps, bound? node = some n →
    lookup "of" node = some (.arr (ps.map Prod.fst)) → Operands motive ps →
      motive (.obj [("n_of", .obj node)]) (.atLeast n (ps.map Prod.snd)))

include atom all any threshold

mutual
/-- A fact of all documents of the grammar, from the four kinds of node. -/
theorem grammarInduction (c : Json) (f : Formula String) (h : parse c = some f) : motive c f := by
  cases c with
  | str s =>
    obtain rfl := Option.some.inj h
    exact atom s
  | obj entries =>
    match entries, h with
    | [(op, .arr xs)], h =>
      simp only [parse, parseArray] at h
      split_ifs at h with h1 h2 h3
      · obtain ⟨fs, hfs, rfl⟩ := Option.map_eq_some_iff.mp h
        obtain ⟨ps, rfl, rfl, hps⟩ := operandsInduction xs fs hfs
        exact h1 ▸ all ps hps
      · obtain ⟨fs, hfs, rfl⟩ := Option.map_eq_some_iff.mp h
        obtain ⟨ps, rfl, rfl, hps⟩ := operandsInduction xs fs hfs
        exact h2 ▸ any ps hps
      · simp only [parseThreshold] at h
        cases h
    | [(op, .obj node)], h =>
      simp only [parse, parseArray, parseThreshold, Option.map_none] at h
      split_ifs at h with h1 h2 h3
      split at h
      · rename_i n fs hn hfs
        obtain rfl := Option.some.inj h
        obtain ⟨ps, hof, rfl, hps⟩ := ofInduction node fs hfs
        exact h3 ▸ threshold node n ps hn hof hps
      · cases h
    | [(op, .null)], h | [(op, .bool b)], h | [(op, .int n)], h | [(op, .float x)], h
    | [(op, .str s)], h =>
      simp only [parse, parseArray, parseThreshold, Option.map_none, ite_self] at h
      cases h
  | null | bool | int | float | arr => cases h

theorem operandsInduction (xs : List Json) (fs : List (Formula String)) (h : parseEach xs = some fs) :
    ∃ ps, xs = ps.map Prod.fst ∧ fs = ps.map Prod.snd ∧ Operands motive ps := by
  match xs with
  | [] =>
    obtain rfl := Option.some.inj h
    exact ⟨[], rfl, rfl, fun _ hp => absurd hp List.not_mem_nil⟩
  | x :: xs =>
    simp only [parseEach] at h
    split at h
    · rename_i f fs hf hfs
      obtain rfl := Option.some.inj h
      obtain ⟨ps, rfl, rfl, hps⟩ := operandsInduction xs fs hfs
      exact ⟨(x, f) :: ps, rfl, rfl,
        List.forall_mem_cons.mpr ⟨⟨hf, grammarInduction x f hf⟩, hps⟩⟩
    · cases h

theorem ofInduction (node : List (String × Json)) (fs : List (Formula String))
    (h : parseOf node = some fs) :
    ∃ ps, lookup "of" node = some (.arr (ps.map Prod.fst)) ∧ fs = ps.map Prod.snd ∧
      Operands motive ps := by
  match node with
  | [] => cases h
  | (k, v) :: rest =>
    simp only [parseOf] at h
    split_ifs at h with hk
    · cases v with
      | arr xs =>
        obtain ⟨ps, rfl, rfl, hps⟩ := operandsInduction xs fs h
        exact ⟨ps, if_pos hk, rfl, hps⟩
      | null | bool | int | float | str | obj => cases h
    · obtain ⟨ps, hof, rfl, hps⟩ := ofInduction rest fs h
      exact ⟨ps, (if_neg hk).trans hof, rfl, hps⟩
end

end Induction

lemma operandArray_of_lookup {node : List (String × Json)} {v : Json}
    (h : thresholdMembers node = true) (hv : lookup "of" node = some v) :
    operandArraySchema 3 v = true := by
  induction node with
  | nil => cases hv
  | cons e rest ih =>
    obtain ⟨k, w⟩ := e
    simp only [thresholdMembers, Bool.and_eq_true] at h
    simp only [lookup] at hv
    split_ifs at hv with hk
    · obtain rfl := Option.some.inj hv
      simpa [hk] using h.1
    · exact ih h.2 hv

lemma operandSchema_of_mem {xs : List Json} (h : operandSchemas xs = true) :
    ∀ x ∈ xs, operandSchema x = true := by
  induction xs with
  | nil => exact fun _ hx => absurd hx List.not_mem_nil
  | cons x xs ih =>
    simp only [operandSchemas, Bool.and_eq_true] at h
    exact List.forall_mem_cons.mpr ⟨h.1, ih h.2⟩

lemma pos_of_bound {node : List (String × Json)} {n : ℕ} (h : bound? node = some n) : 0 < n := by
  unfold bound? at h
  split at h
  · split_ifs at h
    cases h
    omega
  · split at h
    · split_ifs at h
      cases h
      omega
    · cases h
  · cases h

/-- The operands of a schema-valid array are schema-valid, and there are enough of them. -/
lemma operands_of_schema {motive : Json → Formula String → Prop} {least : ℕ}
    {ps : List (Json × Formula String)}
    (hxs : operandArraySchema least (.arr (ps.map Prod.fst)) = true)
    (hps : Operands (fun c f => operandSchema c = true → motive c f) ps) :
    least ≤ ps.length ∧ ∀ p ∈ ps, motive p.1 p.2 := by
  simp only [operandArraySchema, Bool.and_eq_true, decide_eq_true_eq, List.length_map] at hxs
  exact ⟨hxs.1, fun p hp =>
    (hps p hp).2 (operandSchema_of_mem hxs.2 p.1 (List.mem_map_of_mem hp))⟩

lemma operandArray_of_threshold {node : List (String × Json)} {v : Json}
    (hschema : operandSchema (.obj [("n_of", .obj node)]) = true) (hof : lookup "of" node = some v) :
    operandArraySchema 3 v = true := by
  have hthreshold : thresholdSchema (.obj node) = true := hschema
  simp only [thresholdSchema, Bool.and_eq_true] at hthreshold
  exact operandArray_of_lookup hthreshold.2 hof

/-- No gate of a schema-valid condition is vacuous. -/
theorem grounded_of_schema (c : Json) (f : Formula String) (h : parse c = some f)
    (hschema : operandSchema c = true) : f.Grounded := by
  have hlist : ∀ {ps : List (Json × Formula String)}, (∀ p ∈ ps, p.2.Grounded) →
      Formula.GroundedList (ps.map Prod.snd) := by
    intro ps hps
    rw [Formula.groundedList_iff, List.forall_mem_map]
    exact hps
  revert hschema
  refine grammarInduction (motive := fun c f => operandSchema c = true → f.Grounded)
    ?_ ?_ ?_ ?_ c f h
  · exact fun s _ => trivial
  · intro ps hps hschema
    obtain ⟨hlen, hall⟩ := operands_of_schema (motive := fun _ f => f.Grounded) hschema hps
    exact ⟨List.ne_nil_of_length_pos (by rwa [List.length_map]), hlist hall⟩
  · intro ps hps hschema
    exact hlist (operands_of_schema (motive := fun _ f => f.Grounded) hschema hps).2
  · intro node n ps hn hof hps hschema
    have hschema := operandArray_of_threshold hschema hof
    exact ⟨pos_of_bound hn,
      hlist (operands_of_schema (motive := fun _ f => f.Grounded) hschema hps).2⟩

/-- The atoms of a schema-valid condition are indicator ids. -/
theorem indicatorId_of_schema (c : Json) (f : Formula String) (h : parse c = some f)
    (hschema : operandSchema c = true) : ∀ id ∈ f.atoms, indicatorId id = true := by
  have hlist : ∀ {ps : List (Json × Formula String)},
      (∀ p ∈ ps, ∀ id ∈ p.2.atoms, indicatorId id = true) →
      ∀ id ∈ Formula.atomsList (ps.map Prod.snd), indicatorId id = true := by
    intro ps hps id hid
    obtain ⟨f, hf, hid⟩ := Formula.mem_atomsList.mp hid
    obtain ⟨p, hp, rfl⟩ := List.mem_map.mp hf
    exact hps p hp id hid
  revert hschema
  refine grammarInduction
    (motive := fun c f => operandSchema c = true → ∀ id ∈ f.atoms, indicatorId id = true)
    ?_ ?_ ?_ ?_ c f h
  · intro s hschema id hid
    rw [List.mem_singleton.mp hid]
    exact hschema
  · intro ps hps hschema
    exact hlist (operands_of_schema hschema hps).2
  · intro ps hps hschema
    exact hlist (operands_of_schema hschema hps).2
  · intro node n ps _ hof hps hschema
    exact hlist (operands_of_schema (operandArray_of_threshold hschema hof) hps).2

end TrustLens.Runtime.Condition
