import Mathlib.Data.Rat.Defs
import Mathlib.Data.List.Basic
import Mathlib.Tactic.Common

/-!
# JSON documents

Objects are association lists in insertion order. Numbers keep the decoder's
split between integers and IEEE doubles, whose non-finite values an over-long
literal produces.
-/

namespace TrustLens

/-- A decoded double: a finite value, or one of the values no JSON text denotes. -/
inductive PyFloat where
  | finite (q : ℚ)
  | negZero
  | inf
  | negInf
  | nan
deriving DecidableEq

namespace PyFloat

def isFinite : PyFloat → Bool
  | finite _ => true
  | negZero => true
  | _ => false

/-- The integer a double denotes, when it has no fractional part. -/
def toInt? : PyFloat → Option ℤ
  | finite q => if q.den = 1 then some q.num else none
  | negZero => some 0
  | _ => none

end PyFloat

inductive Json where
  | null
  | bool (b : Bool)
  | int (n : ℤ)
  | float (x : PyFloat)
  | str (s : String)
  | arr (items : List Json)
  | obj (entries : List (String × Json))

namespace Json

mutual
def decEq : (a b : Json) → Decidable (a = b)
  | null, null => isTrue rfl
  | bool a, bool b => decidable_of_iff (a = b) (by simp)
  | int a, int b => decidable_of_iff (a = b) (by simp)
  | float a, float b => decidable_of_iff (a = b) (by simp)
  | str a, str b => decidable_of_iff (a = b) (by simp)
  | arr a, arr b => @decidable_of_iff _ (a = b) (by simp) (decEqItems a b)
  | obj a, obj b => @decidable_of_iff _ (a = b) (by simp) (decEqEntries a b)
  | null, bool _ | null, int _ | null, float _ | null, str _ | null, arr _ | null, obj _
  | bool _, null | bool _, int _ | bool _, float _ | bool _, str _ | bool _, arr _ | bool _, obj _
  | int _, null | int _, bool _ | int _, float _ | int _, str _ | int _, arr _ | int _, obj _
  | float _, null | float _, bool _ | float _, int _ | float _, str _ | float _, arr _
  | float _, obj _
  | str _, null | str _, bool _ | str _, int _ | str _, float _ | str _, arr _ | str _, obj _
  | arr _, null | arr _, bool _ | arr _, int _ | arr _, float _ | arr _, str _ | arr _, obj _
  | obj _, null | obj _, bool _ | obj _, int _ | obj _, float _ | obj _, str _ | obj _, arr _ =>
    isFalse (by simp)

def decEqItems : (a b : List Json) → Decidable (a = b)
  | [], [] => isTrue rfl
  | a :: as, b :: bs =>
    @decidable_of_iff _ (a = b ∧ as = bs) (by simp) (@instDecidableAnd _ _ (decEq a b) (decEqItems as bs))
  | [], _ :: _ | _ :: _, [] => isFalse (by simp)

def decEqEntries : (a b : List (String × Json)) → Decidable (a = b)
  | [], [] => isTrue rfl
  | (k, a) :: as, (k', b) :: bs =>
    @decidable_of_iff _ (k = k' ∧ a = b ∧ as = bs) (by simp [and_assoc])
      (@instDecidableAnd _ _ inferInstance
        (@instDecidableAnd _ _ (decEq a b) (decEqEntries as bs)))
  | [], _ :: _ | _ :: _, [] => isFalse (by simp)
end

instance : DecidableEq Json := decEq

instance : Inhabited Json := ⟨null⟩

/-- Induction on documents; each container hands its members their own hypothesis. -/
@[elab_as_elim]
theorem memberInduction {motive : Json → Prop}
    (null : motive .null) (bool : ∀ b, motive (.bool b)) (int : ∀ n, motive (.int n))
    (float : ∀ x, motive (.float x)) (str : ∀ s, motive (.str s))
    (arr : ∀ js, (∀ j ∈ js, motive j) → motive (.arr js))
    (obj : ∀ es, (∀ e ∈ es, motive e.2) → motive (.obj es)) :
    ∀ j, motive j
  | .null => null
  | .bool b => bool b
  | .int n => int n
  | .float x => float x
  | .str s => str s
  | .arr js => arr js fun j _ => memberInduction null bool int float str arr obj j
  | .obj es => obj es fun
    | (k, v), hmem =>
      have : sizeOf v < 1 + sizeOf es := by
        have := List.sizeOf_lt_of_mem hmem
        simp only [Prod.mk.sizeOf_spec] at this
        omega
      memberInduction null bool int float str arr obj v

/-- The value under a key, first entry first. -/
def lookup (key : String) : List (String × Json) → Option Json
  | [] => none
  | (k, v) :: rest => if k = key then some v else lookup key rest

lemma exists_entry_of_lookup {key : String} {entries : List (String × Json)} {v : Json}
    (h : lookup key entries = some v) : ∃ e ∈ entries, e.1 = key ∧ e.2 = v := by
  induction entries with
  | nil => simp [lookup] at h
  | cons e rest ih =>
    obtain ⟨k, w⟩ := e
    simp only [lookup] at h
    split_ifs at h with hk
    · exact ⟨(k, w), List.mem_cons_self, hk, by simpa using h⟩
    · obtain ⟨e, he, heq⟩ := ih h
      exact ⟨e, List.mem_cons_of_mem _ he, heq⟩

/-- Member access; absent on everything that is not an object. -/
def get? (key : String) : Json → Option Json
  | obj entries => lookup key entries
  | _ => none

/-- `d.get(key)`: an absent key reads as null. -/
def get (key : String) (j : Json) : Json :=
  (j.get? key).getD null

/-- The Boolean a value counts as in a condition. -/
def truthy : Json → Bool
  | null => false
  | bool b => b
  | int n => n != 0
  | float (.finite q) => q != 0
  | float .negZero => false
  | float _ => true
  | str s => s != ""
  | arr items => !items.isEmpty
  | obj entries => !entries.isEmpty

def isObj : Json → Bool
  | obj _ => true
  | _ => false

def str? : Json → Option String
  | str s => some s
  | _ => none

def items : Json → List Json
  | arr js => js
  | _ => []

/-- The strings of a list of strings, `none` when one item is something else. -/
def strings? : Json → Option (List String)
  | arr js => js.mapM str?
  | _ => none

mutual
/-- Every number in the document is finite. -/
def isFinite : Json → Bool
  | float x => x.isFinite
  | arr js => itemsFinite js
  | obj es => entriesFinite es
  | _ => true

def itemsFinite : List Json → Bool
  | [] => true
  | j :: js => isFinite j && itemsFinite js

def entriesFinite : List (String × Json) → Bool
  | [] => true
  | (_, j) :: es => isFinite j && entriesFinite es
end

lemma itemsFinite_iff {js : List Json} : itemsFinite js = true ↔ ∀ j ∈ js, isFinite j = true := by
  induction js with
  | nil => simp [itemsFinite]
  | cons j js ih => simp [itemsFinite, ih]

lemma entriesFinite_iff {es : List (String × Json)} :
    entriesFinite es = true ↔ ∀ e ∈ es, isFinite e.2 = true := by
  induction es with
  | nil => simp [entriesFinite]
  | cons e es ih => obtain ⟨k, j⟩ := e; simp [entriesFinite, ih]

end Json
end TrustLens
