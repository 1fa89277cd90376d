import TrustLens.Lib.Json
import TrustLens.Lib.PyText

/-!
# Schema validators

A schema is the Boolean function that decides it. The combinators follow the
keywords of Draft 2020-12 as the validator applies them: a double without
fractional part is an integer, a Boolean is no number, and a pattern is
searched, its end anchor also matching before a final line break.
-/

namespace TrustLens.Schema

/-- Whether an instance satisfies a schema. -/
abbrev Validator := Json → Bool

/-- `^…$` around a decidable language. -/
def anchored (language : List Char → Bool) (s : String) : Bool :=
  language s.toList ||
    (s.toList.getLast? == some '\n' && language s.toList.dropLast)

def isUpper (c : Char) : Bool := 'A' ≤ c && c ≤ 'Z'

def isLower (c : Char) : Bool := 'a' ≤ c && c ≤ 'z'

def isAlpha (c : Char) : Bool := isUpper c || isLower c

def isAsciiDigit (c : Char) : Bool := '0' ≤ c && c ≤ '9'

/-- A first character followed by between `lo` and `hi` further ones. -/
def headTail (first rest : Char → Bool) (lo hi : ℕ) : List Char → Bool
  | [] => false
  | c :: cs => first c && lo ≤ cs.length && cs.length ≤ hi && cs.all rest

def string : Validator
  | .str _ => true
  | _ => false

def boolean : Validator
  | .bool _ => true
  | _ => false

def pattern (p : String → Bool) : Validator
  | .str s => p s
  | _ => false

def enum (values : List String) : Validator
  | .str s => values.contains s
  | _ => false

/-- A string of at least `n` characters. -/
def minLength (n : ℕ) : Validator
  | .str s => n ≤ s.length
  | _ => false

/-- `type: integer` with a minimum. -/
def integerFrom (least : ℤ) : Validator
  | .int n => least ≤ n
  | .float x =>
    match x.toInt? with
    | some n => least ≤ n
    | none => false
  | _ => false

/-- `type: number`. -/
def number : Validator
  | .int _ => true
  | .float _ => true
  | _ => false

/-- `type: number` between zero and one. -/
def unitNumber : Validator
  | .int n => 0 ≤ n && n ≤ 1
  | .float (.finite q) => 0 ≤ q && q ≤ 1
  | .float .negZero => true
  | .float .nan => true
  | _ => false

def array (items : Validator) (minItems : ℕ) : Validator
  | .arr js => minItems ≤ js.length && js.all items
  | _ => false

/-- `array` with `uniqueItems`. -/
def uniqueArray (items : Validator) (minItems : ℕ) : Validator
  | .arr js => minItems ≤ js.length && js.all items && decide js.Nodup
  | _ => false

/-- The validator a property list gives a key, if it names the key. -/
def property (key : String) : List (String × Validator) → Option Validator
  | [] => none
  | (k, v) :: rest => if k = key then some v else property key rest

/-- `required`, `properties` and `additionalProperties: false`. -/
def object (required : List String) (properties : List (String × Validator)) : Validator
  | .obj entries =>
    required.all (fun k => (Json.lookup k entries).isSome) &&
      entries.all fun e =>
        match property e.1 properties with
        | some v => v e.2
        | none => false
  | _ => false

lemma mem_of_property {key : String} {properties : List (String × Validator)} {v : Validator}
    (h : property key properties = some v) : (key, v) ∈ properties := by
  induction properties with
  | nil => cases h
  | cons p rest ih =>
    obtain ⟨k, w⟩ := p
    simp only [property] at h
    split_ifs at h with hk
    · obtain rfl := Option.some.inj h
      subst hk
      exact List.mem_cons_self
    · exact List.mem_cons_of_mem _ (ih h)

lemma object_obj {required : List String} {properties : List (String × Validator)}
    {entries : List (String × Json)} :
    object required properties (.obj entries) = true ↔
      (∀ k ∈ required, (Json.lookup k entries).isSome) ∧
        ∀ e ∈ entries, ∃ v, property e.1 properties = some v ∧ v e.2 = true := by
  simp only [object, Bool.and_eq_true, List.all_eq_true]
  refine and_congr Iff.rfl (forall₂_congr fun e _ => ?_)
  cases property e.1 properties <;> simp

lemma value_of_object {required : List String} {properties : List (String × Validator)}
    {entries : List (String × Json)} (h : object required properties (.obj entries) = true)
    {key : String} (hkey : key ∈ required) {v : Validator}
    (hv : property key properties = some v) :
    ∃ value, Json.lookup key entries = some value ∧ v value = true := by
  obtain ⟨hrequired, hall⟩ := object_obj.mp h
  obtain ⟨value, hvalue⟩ := Option.isSome_iff_exists.mp (hrequired key hkey)
  obtain ⟨e, he, rfl, rfl⟩ := Json.exists_entry_of_lookup hvalue
  obtain ⟨v', hv', hok⟩ := hall e he
  obtain rfl := Option.some.inj (hv.symm.trans hv')
  exact ⟨e.2, hvalue, hok⟩

lemma exists_obj_of_object {required : List String} {properties : List (String × Validator)}
    {c : Json} (h : object required properties c = true) : ∃ entries, c = .obj entries := by
  cases c with
  | obj entries => exact ⟨entries, rfl⟩
  | null | bool | int | float | str | arr => simp [object] at h

/-- A value an accepted object holds under a key satisfies what the schema says of the key. -/
lemma value_of_get? {required : List String} {properties : List (String × Validator)} {j value : Json}
    (h : object required properties j = true) {key : String} (hvalue : j.get? key = some value)
    {v : Validator} (hv : property key properties = some v) : v value = true := by
  obtain ⟨entries, rfl⟩ := exists_obj_of_object h
  obtain ⟨-, hall⟩ := object_obj.mp h
  obtain ⟨e, he, rfl, rfl⟩ := Json.exists_entry_of_lookup hvalue
  obtain ⟨v', hv', hok⟩ := hall e he
  obtain rfl := Option.some.inj (hv.symm.trans hv')
  exact hok

/-- An accepted object holds a value under each required key. -/
lemma exists_get? {required : List String} {properties : List (String × Validator)} {j : Json}
    (h : object required properties j = true) (key : String) (hkey : key ∈ required)
    {v : Validator} (hv : property key properties = some v) :
    ∃ value, j.get? key = some value ∧ v value = true := by
  obtain ⟨entries, rfl⟩ := exists_obj_of_object h
  exact value_of_object h hkey hv

/-! ### What a keyword accepts -/

lemma exists_str_of_pattern {p : String → Bool} {j : Json} (h : pattern p j = true) :
    ∃ s, j = .str s ∧ p s = true := by
  cases j with
  | str s => exact ⟨s, rfl, h⟩
  | _ => cases h

lemma exists_str_of_enum {values : List String} {j : Json} (h : enum values j = true) :
    ∃ s, j = .str s ∧ s ∈ values := by
  cases j with
  | str s => exact ⟨s, rfl, by simpa [enum] using h⟩
  | _ => cases h

lemma exists_str_of_minLength {n : ℕ} {j : Json} (h : minLength n j = true) :
    ∃ s, j = .str s ∧ n ≤ s.length := by
  cases j with
  | str s => exact ⟨s, rfl, by simpa [minLength] using h⟩
  | _ => cases h

lemma exists_str_of_string {j : Json} (h : string j = true) : ∃ s, j = .str s := by
  cases j with
  | str s => exact ⟨s, rfl⟩
  | _ => cases h

lemma exists_arr_of_array {items : Validator} {n : ℕ} {j : Json}
    (h : array items n j = true) : ∃ js, j = .arr js ∧ ∀ x ∈ js, items x = true := by
  cases j with
  | arr js => exact ⟨js, rfl, by simpa using (Bool.and_eq_true_iff.mp h).2⟩
  | _ => cases h

lemma exists_arr_of_uniqueArray {items : Validator} {n : ℕ} {j : Json}
    (h : uniqueArray items n j = true) : ∃ js, j = .arr js ∧ ∀ x ∈ js, items x = true := by
  cases j with
  | arr js =>
    exact ⟨js, rfl, by simpa using (Bool.and_eq_true_iff.mp (Bool.and_eq_true_iff.mp h).1).2⟩
  | _ => cases h

end TrustLens.Schema
