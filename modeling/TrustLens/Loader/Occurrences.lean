import TrustLens.Loader.Readable

/-!
# Where an id occurs

The components by their parts, the ids these are called by, and what a condition mentions: an
indicator occurs in a condition as a leaf below any number of operators.
-/

namespace TrustLens.Loader

/-! ### The parts of the components -/

/-- The entries of an object, none of anything else. -/
def entriesIn : Json → List (String × Json)
  | .obj entries => entries
  | _ => []

namespace Components

variable (c : Components)

def indicators : List Json := (c.registry.get "indicators").items

def familyRecords : List Json := (c.families.get "families").items

def negativeRecords : List Json := (c.negatives.get "negative_indicators").items

def overrides : List Json := (c.negatives.get "overrides").items

def categories : List Json := (c.taxonomy.get "categories").items

def sourceRecords : List Json := (c.sources.get "sources").items

def evidenceRecords : List Json := (c.evidence.get "records").items

def policyEntries : List Json := (c.actionPolicy.get "entries").items

/-- The groups of dimension terms. -/
def groups : List (String × Json) := entriesIn (c.dimensions.get "dimensions")

/-- The categories, each before its subcategories. -/
def taxonomyNodes : List Json := c.categories.flatMap fun cat => cat :: (cat.get "subcategories").items

def dimensionTerms : List Json := c.groups.flatMap fun g => (g.2.get "terms").items

/-- The rules whose lifecycle says that they are published. -/
def published : List Json := c.rules.filter fun r =>
  match lifecycleStatus r with
  | .ok status => status == .str "PUBLISHED"
  | .error _ => false

/-- The negative indicators that are not deprecated. -/
def active : List Json := c.negativeRecords.filter fun n => n.get "status" == .str "ACTIVE"

end Components

/-! ### Conditions -/

/-- The members a loop over a value takes, none when it cannot be looped over. -/
def iterated : Json → List Json
  | .arr items => items
  | .obj entries => entries.map fun e => .str e.1
  | .str s => s.toList.map fun ch => .str (String.singleton ch)
  | _ => []

/-- What an operator applies to: a threshold to the members under its `of`, another to its list. -/
def operandItems (entry : String × Json) : List Json :=
  if entry.1 = "n_of" then iterated (entry.2.get "of") else entry.2.items

/-- An indicator occurs in a condition, at any depth. -/
inductive Occurs (i : String) : Json → Prop
  | leaf : Occurs i (.str i)
  | member {entries : List (String × Json)} {entry : String × Json} {item : Json}
      (hentry : entry ∈ entries) (hitem : item ∈ operandItems entry) (h : Occurs i item) :
      Occurs i (.obj entries)

section

variable {i s : String} {entries : List (String × Json)}

lemma occurs_str_iff : Occurs i (.str s) ↔ i = s := by
  constructor
  · intro h
    cases h
    rfl
  · rintro rfl
    exact .leaf

lemma occurs_obj_iff : Occurs i (.obj entries) ↔
    ∃ entry ∈ entries, ∃ item ∈ operandItems entry, Occurs i item := by
  constructor
  · intro h
    cases h with
    | member hentry hitem h => exact ⟨_, hentry, _, hitem, h⟩
  · rintro ⟨entry, hentry, item, hitem, h⟩
    exact .member hentry hitem h

lemma not_exists_mem_nil {α : Type} {P : α → Prop} : ¬∃ a ∈ ([] : List α), P a := by
  rintro ⟨_, h, -⟩
  cases h

lemma exists_occurs_strs {names : List String} :
    (∃ item ∈ names.map Json.str, Occurs i item) ↔ i ∈ names := by
  simp only [List.mem_map, exists_exists_and_eq_and, occurs_str_iff, exists_eq_right']

end

open Runtime.Condition in
mutual
/-- The walk over a condition yields what occurs in it. -/
theorem mem_operands {i : String} (c : Json) (ids : List String)
    (h : Runtime.Condition.operands c = .ok ids) : i ∈ ids ↔ Occurs i c := by
  cases c with
  | str s =>
    cases h
    rw [List.mem_singleton, occurs_str_iff]
  | obj entries =>
    rw [occurs_obj_iff]
    exact mem_operandsEntries entries ids h
  | null | bool | int | float | arr =>
    cases h
    exact iff_of_false List.not_mem_nil fun h => by cases h

theorem mem_operandsEntries {i : String} (entries : List (String × Json)) (ids : List String)
    (h : operandsEntries entries = .ok ids) :
    i ∈ ids ↔ ∃ entry ∈ entries, ∃ item ∈ operandItems entry, Occurs i item := by
  match entries with
  | [] =>
    cases h
    exact iff_of_false List.not_mem_nil not_exists_mem_nil
  | (op, value) :: rest =>
    rw [operandsEntries] at h
    rw [List.exists_mem_cons_iff, operandItems]
    split_ifs at h ⊢
    · obtain ⟨here, hhere, h⟩ := bind_ok h
      obtain ⟨ids', hrest, h⟩ := bind_ok h
      cases h
      rw [List.mem_append, mem_operandsEntries rest ids' hrest]
      exact or_congr_left (mem_operandsThreshold value here hhere)
    · obtain ⟨here, hhere, h⟩ := bind_ok h
      obtain ⟨ids', hrest, h⟩ := bind_ok h
      cases h
      rw [List.mem_append, mem_operandsEntries rest ids' hrest]
      exact or_congr_left (mem_operandsArray value here hhere)

theorem mem_operandsArray {i : String} (value : Json) (ids : List String)
    (h : operandsArray value = .ok ids) : i ∈ ids ↔ ∃ item ∈ value.items, Occurs i item := by
  cases value with
  | arr xs => exact mem_operandsEach xs ids h
  | null | bool | int | float | str | obj =>
    cases h
    exact iff_of_false List.not_mem_nil not_exists_mem_nil

theorem mem_operandsThreshold {i : String} (value : Json) (ids : List String)
    (h : operandsThreshold value = .ok ids) :
    i ∈ ids ↔ ∃ item ∈ iterated (value.get "of"), Occurs i item := by
  cases value with
  | obj node => exact mem_operandsOf node ids h
  | null | bool | int | float | str | arr =>
    cases h
    exact iff_of_false List.not_mem_nil not_exists_mem_nil

theorem mem_operandsOf {i : String} (node : List (String × Json)) (ids : List String)
    (h : operandsOf node = .ok ids) :
    i ∈ ids ↔ ∃ item ∈ iterated ((Json.obj node).get "of"), Occurs i item := by
  match node with
  | [] =>
    cases h
    exact iff_of_false List.not_mem_nil not_exists_mem_nil
  | (k, v) :: rest =>
    rw [operandsOf] at h
    rw [Json.get, Json.get?, Json.lookup]
    split_ifs at h ⊢
    · exact mem_operandsIter v ids h
    · exact mem_operandsOf rest ids h

theorem mem_operandsIter {i : String} (v : Json) (ids : List String)
    (h : operandsIter v = .ok ids) : i ∈ ids ↔ ∃ item ∈ iterated v, Occurs i item := by
  cases v with
  | arr xs => exact mem_operandsEach xs ids h
  | str s =>
    cases h
    rw [← exists_occurs_strs, List.map_map]
    rfl
  | obj entries =>
    cases h
    rw [← exists_occurs_strs, List.map_map]
    rfl
  | null | bool | int | float => cases h

theorem mem_operandsEach {i : String} (xs : List Json) (ids : List String)
    (h : operandsEach xs = .ok ids) : i ∈ ids ↔ ∃ item ∈ xs, Occurs i item := by
  match xs with
  | [] =>
    cases h
    exact iff_of_false List.not_mem_nil not_exists_mem_nil
  | x :: xs =>
    rw [operandsEach] at h
    obtain ⟨here, hhere, h⟩ := bind_ok h
    obtain ⟨ids', hrest, h⟩ := bind_ok h
    cases h
    rw [List.mem_append, mem_operands x here hhere, mem_operandsEach xs ids' hrest,
      List.exists_mem_cons_iff]
end

/-- What the loader's walk over a condition returned. -/
lemma mem_of_operands {condition : Json} {ids : List String} (h : operands condition = .ok ids)
    {i : String} : i ∈ ids ↔ Occurs i condition := by
  unfold operands at h
  split at h
  next hids =>
    cases h
    exact mem_operands _ _ hids
  · cases h

end TrustLens.Loader
