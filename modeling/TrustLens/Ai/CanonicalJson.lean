import TrustLens.Lib.JsonReading
import Mathlib.Algebra.BigOperators.Group.List.Basic
import Mathlib.Algebra.GroupWithZero.Nat
import Mathlib.Tactic.Common

/-!
# Canonical JSON

The text every digest is taken of. A value is first copied, under one budget for all of
its nodes and a limit on their depth, and then written with sorted keys.
-/

namespace TrustLens.Ai

open Json

def MAX_CANONICAL_BYTES : ℕ := 4194304

/-- `budget = [100_000]` -/
def NODE_BUDGET : ℕ := 100000

def MAX_DEPTH : ℕ := 32

/-- The digits `int.__repr__` writes before it raises. -/
def INT_DIGITS : ℕ := 4300

def copyString (s : String) (depth budget : ℕ) : Option ℕ :=
  if MAX_DEPTH < depth ∨ budget = 0 then none
  else if s.utf8ByteSize ≤ MAX_CANONICAL_BYTES then some (budget - 1) else none

mutual
/-- `_json_copy`, whose copy is the value: the budget it leaves, `none` where it raises. -/
def jsonCopy (value : Json) (depth budget : ℕ) : Option ℕ :=
  if MAX_DEPTH < depth ∨ budget = 0 then none
  else match value with
    | .null | .bool _ | .int _ => some (budget - 1)
    | .float x => if x.isFinite then some (budget - 1) else none
    | .str s => copyString s depth budget
    | .arr js => copyItems js (depth + 1) (budget - 1)
    | .obj es => copyMembers es (depth + 1) (budget - 1)

def copyItems (items : List Json) (depth budget : ℕ) : Option ℕ :=
  match items with
  | [] => some budget
  | j :: js => (jsonCopy j depth budget).bind fun left => copyItems js depth left

def copyMembers (entries : List (String × Json)) (depth budget : ℕ) : Option ℕ :=
  match entries with
  | [] => some budget
  | (k, v) :: es =>
    (copyString k depth budget).bind fun left =>
      (jsonCopy v depth left).bind fun left => copyMembers es depth left
end

mutual
/-- No integer has too many digits to be written. -/
def writable : Json → Bool
  | int n => n.natAbs < 10 ^ INT_DIGITS
  | arr js => writableItems js
  | obj es => writableMembers es
  | _ => true

def writableItems : List Json → Bool
  | [] => true
  | j :: js => writable j && writableItems js

def writableMembers : List (String × Json) → Bool
  | [] => true
  | (_, j) :: es => writable j && writableMembers es
end

/-- `canonical_json`; every way it raises is an `AIProvenanceInvalidError`. -/
def canonicalJson (number : PyFloat → String) (value : Json) : Option String :=
  (jsonCopy value 0 NODE_BUDGET).bind fun _ =>
    let result := dumps number value
    if writable value ∧ result.utf8ByteSize ≤ MAX_CANONICAL_BYTES then some result else none

/-! ### What the copy admits -/

mutual
/-- The values a copy visits; the keys of an object are values of their own. -/
def nodes : Json → ℕ
  | arr js => 1 + itemNodes js
  | obj es => 1 + memberNodes es
  | _ => 1

def itemNodes : List Json → ℕ
  | [] => 0
  | j :: js => nodes j + itemNodes js

def memberNodes : List (String × Json) → ℕ
  | [] => 0
  | (_, j) :: es => 1 + nodes j + memberNodes es
end

mutual
/-- The depth of the deepest value. -/
def height : Json → ℕ
  | arr js => itemHeight js
  | obj es => memberHeight es
  | _ => 0

def itemHeight : List Json → ℕ
  | [] => 0
  | j :: js => max (height j + 1) (itemHeight js)

def memberHeight : List (String × Json) → ℕ
  | [] => 0
  | (_, j) :: es => max (height j + 1) (memberHeight es)
end

mutual
/-- No number is infinite or undefined and no string is too long. -/
def plain : Json → Bool
  | float x => x.isFinite
  | str s => s.utf8ByteSize ≤ MAX_CANONICAL_BYTES
  | arr js => plainItems js
  | obj es => plainMembers es
  | _ => true

def plainItems : List Json → Bool
  | [] => true
  | j :: js => plain j && plainItems js

def plainMembers : List (String × Json) → Bool
  | [] => true
  | (k, j) :: es => decide (k.utf8ByteSize ≤ MAX_CANONICAL_BYTES) && plain j && plainMembers es
end

lemma copyString_eq_some {s : String} {depth budget left : ℕ} :
    copyString s depth budget = some left ↔
      depth ≤ MAX_DEPTH ∧ s.utf8ByteSize ≤ MAX_CANONICAL_BYTES ∧ budget = left + 1 := by
  unfold copyString
  split_ifs <;> simp only [Option.some.injEq, false_iff] <;> omega

/-- What a copy of one value is shown to do. -/
def CopySpec (j : Json) : Prop := ∀ depth budget left : ℕ,
  jsonCopy j depth budget = some left ↔
    plain j = true ∧ depth + height j ≤ MAX_DEPTH ∧ budget = left + nodes j

lemma copyItems_eq_some {js : List Json} (ih : ∀ j ∈ js, CopySpec j) {depth budget left : ℕ}
    (hd : depth ≤ MAX_DEPTH) :
    copyItems js (depth + 1) budget = some left ↔
      plainItems js = true ∧ depth + itemHeight js ≤ MAX_DEPTH ∧ budget = left + itemNodes js := by
  induction js generalizing budget with
  | nil =>
    simp only [copyItems, plainItems, itemHeight, itemNodes, Option.some.injEq, true_and]
    omega
  | cons j js ihs =>
    have hj := ih j List.mem_cons_self
    have hjs : ∀ b, copyItems js (depth + 1) b = some left ↔ plainItems js = true ∧
        depth + itemHeight js ≤ MAX_DEPTH ∧ b = left + itemNodes js :=
      fun b => ihs fun i hi => ih i (List.mem_cons_of_mem _ hi)
    simp only [copyItems, Option.bind_eq_some_iff, hj (depth + 1) budget, hjs, plainItems,
      itemHeight, itemNodes, Bool.and_eq_true]
    constructor
    · rintro ⟨mid, ⟨hp, hh, hb⟩, hps, hhs, hbs⟩
      exact ⟨⟨hp, hps⟩, by omega, by omega⟩
    · rintro ⟨⟨hp, hps⟩, hh, hb⟩
      exact ⟨left + itemNodes js, ⟨hp, by omega, by omega⟩, hps, by omega, rfl⟩

lemma copyMembers_eq_some {es : List (String × Json)} (ih : ∀ e ∈ es, CopySpec e.2)
    {depth budget left : ℕ} (hd : depth ≤ MAX_DEPTH) :
    copyMembers es (depth + 1) budget = some left ↔
      plainMembers es = true ∧ depth + memberHeight es ≤ MAX_DEPTH ∧
        budget = left + memberNodes es := by
  induction es generalizing budget with
  | nil =>
    simp only [copyMembers, plainMembers, memberHeight, memberNodes, Option.some.injEq, true_and]
    omega
  | cons e es ihs =>
    obtain ⟨k, v⟩ := e
    have hv := ih (k, v) List.mem_cons_self
    have hes : ∀ b, copyMembers es (depth + 1) b = some left ↔ plainMembers es = true ∧
        depth + memberHeight es ≤ MAX_DEPTH ∧ b = left + memberNodes es :=
      fun b => ihs fun i hi => ih i (List.mem_cons_of_mem _ hi)
    have hspec := fun b c => hv (depth + 1) b c
    simp only [copyMembers, Option.bind_eq_some_iff, copyString_eq_some, hspec, hes, plainMembers,
      memberHeight, memberNodes, Bool.and_eq_true, decide_eq_true_eq]
    constructor
    · rintro ⟨mid, ⟨-, hk, hb⟩, mid', ⟨hp, hh, hb'⟩, hps, hhs, hbs⟩
      exact ⟨⟨⟨hk, hp⟩, hps⟩, by omega, by omega⟩
    · rintro ⟨⟨⟨hk, hp⟩, hps⟩, hh, hb⟩
      exact ⟨left + memberNodes es + nodes v, ⟨by omega, hk, by omega⟩, left + memberNodes es,
        ⟨hp, by omega, rfl⟩, hps, by omega, rfl⟩

/-- A copy succeeds exactly on plain values no deeper than the limit and within the budget,
which it lowers by their nodes. -/
theorem jsonCopy_eq_some (j : Json) : CopySpec j := by
  have hleaf : ∀ (ok : Bool) {depth budget left : ℕ},
      (if MAX_DEPTH < depth ∨ budget = 0 then none
        else if ok then some (budget - 1) else none) = some left ↔
        ok = true ∧ depth + 0 ≤ MAX_DEPTH ∧ budget = left + 1 := by
    intro ok depth budget left
    by_cases hlimit : MAX_DEPTH < depth ∨ budget = 0
    · rw [if_pos hlimit]
      refine iff_of_false nofun ?_
      rintro ⟨-, hd, hb⟩
      omega
    · rw [if_neg hlimit]
      cases ok with
      | false => exact iff_of_false nofun fun h => by cases h.1
      | true =>
        simp only [if_true, Option.some.injEq, true_and]
        omega
  induction j using memberInduction with
  | null | bool | int => exact fun depth budget left => hleaf true
  | float x =>
    intro depth budget left
    simpa only [jsonCopy, plain, height, nodes] using hleaf x.isFinite
  | str s =>
    intro depth budget left
    simp only [jsonCopy, plain, height, nodes, decide_eq_true_eq]
    split_ifs
    · simp only [false_iff]
      omega
    · rw [copyString_eq_some]
      omega
  | arr js ih =>
    intro depth budget left
    simp only [jsonCopy, plain, height, nodes]
    split_ifs
    · simp only [false_iff]
      omega
    · rw [copyItems_eq_some ih (by omega)]
      refine and_congr_right' (and_congr_right' ?_)
      omega
  | obj es ih =>
    intro depth budget left
    simp only [jsonCopy, plain, height, nodes]
    split_ifs
    · simp only [false_iff]
      omega
    · rw [copyMembers_eq_some ih (by omega)]
      refine and_congr_right' (and_congr_right' ?_)
      omega

/-- The values that have a canonical text. -/
structure Admissible (number : PyFloat → String) (j : Json) : Prop where
  isPlain : plain j = true
  depth : height j ≤ MAX_DEPTH
  budget : nodes j ≤ NODE_BUDGET
  numbers : writable j = true
  size : (dumps number j).utf8ByteSize ≤ MAX_CANONICAL_BYTES

variable {number : PyFloat → String} {j : Json} {t : String}

theorem canonicalJson_eq_some :
    canonicalJson number j = some t ↔ Admissible number j ∧ dumps number j = t := by
  simp only [canonicalJson, Option.bind_eq_some_iff, jsonCopy_eq_some j 0 NODE_BUDGET]
  constructor
  · rintro ⟨left, ⟨hp, hh, hb⟩, h⟩
    split_ifs at h with hok
    refine ⟨⟨hp, by omega, by omega, hok.1, hok.2⟩, Option.some_injective _ h⟩
  · rintro ⟨h, rfl⟩
    refine ⟨NODE_BUDGET - nodes j, ⟨h.isPlain, ?_, ?_⟩, if_pos ⟨h.numbers, h.size⟩⟩
    · have := h.depth
      omega
    · have := h.budget
      omega

lemma plainItems_iff {js : List Json} : plainItems js = true ↔ ∀ j ∈ js, plain j = true := by
  induction js with
  | nil => simp [plainItems]
  | cons j js ih => simp [plainItems, ih]

lemma plainMembers_iff {es : List (String × Json)} : plainMembers es = true ↔
    ∀ e ∈ es, e.1.utf8ByteSize ≤ MAX_CANONICAL_BYTES ∧ plain e.2 = true := by
  induction es with
  | nil => simp [plainMembers]
  | cons e es ih => simp [plainMembers, ih]

lemma writableItems_iff {js : List Json} :
    writableItems js = true ↔ ∀ j ∈ js, writable j = true := by
  induction js with
  | nil => simp [writableItems]
  | cons j js ih => simp [writableItems, ih]

lemma writableMembers_iff {es : List (String × Json)} :
    writableMembers es = true ↔ ∀ e ∈ es, writable e.2 = true := by
  induction es with
  | nil => simp [writableMembers]
  | cons e es ih => simp [writableMembers, ih]

lemma itemNodes_eq_sum (js : List Json) : itemNodes js = (js.map nodes).sum := by
  induction js with
  | nil => rfl
  | cons j js ih => simp [itemNodes, ih]

lemma memberNodes_eq_sum (es : List (String × Json)) :
    memberNodes es = (es.map fun e => 1 + nodes e.2).sum := by
  induction es with
  | nil => rfl
  | cons e es ih => simp [memberNodes, ih]

lemma nodes_le_memberNodes {es : List (String × Json)} {e : String × Json} (h : e ∈ es) :
    nodes e.2 ≤ memberNodes es := by
  induction es with
  | nil => cases h
  | cons e' es ih =>
    rw [memberNodes]
    rcases List.mem_cons.mp h with rfl | hmem
    · omega
    · have := ih hmem
      omega

lemma itemHeight_le {js : List Json} {n : ℕ} :
    itemHeight js ≤ n ↔ ∀ j ∈ js, height j + 1 ≤ n := by
  induction js with
  | nil => simp [itemHeight]
  | cons j js ih => simp [itemHeight, ih]

lemma memberHeight_le {es : List (String × Json)} {n : ℕ} :
    memberHeight es ≤ n ↔ ∀ e ∈ es, height e.2 + 1 ≤ n := by
  induction es with
  | nil => simp [memberHeight]
  | cons e es ih => simp [memberHeight, ih]

lemma isFinite_of_plain (j : Json) (h : plain j = true) : j.isFinite = true := by
  induction j using memberInduction with
  | null | bool | int | str => rfl
  | float x => exact h
  | arr js ih =>
    exact itemsFinite_iff.mpr fun j hj => ih j hj (plainItems_iff.mp h j hj)
  | obj es ih =>
    exact entriesFinite_iff.mpr fun e he => ih e he (plainMembers_iff.mp h e he).2

/-! ### The order of members does not matter -/

lemma mem_sortMembers {es : List (String × Json)} {P : String × Json → Prop} :
    (∀ e ∈ (sortMembers es).insertionSort fun a b => a.1 ≤ b.1, P e) ↔
      ∀ e ∈ es, P (e.1, sortKeys e.2) := by
  simp only [List.mem_insertionSort, sortMembers_eq_map, List.forall_mem_map]

lemma plain_sortKeys (j : Json) : plain (sortKeys j) = plain j := by
  rw [Bool.eq_iff_iff]
  induction j using memberInduction with
  | null | bool | int | float | str => rfl
  | arr js ih =>
    rw [sortKeys, plain, plain, plainItems_iff, plainItems_iff, sortItems_eq_map,
      List.forall_mem_map]
    exact forall₂_congr ih
  | obj es ih =>
    rw [sortKeys, plain, plain, plainMembers_iff, plainMembers_iff, mem_sortMembers]
    exact forall₂_congr fun e he => and_congr_right' (ih e he)

lemma writable_sortKeys (j : Json) : writable (sortKeys j) = writable j := by
  rw [Bool.eq_iff_iff]
  induction j using memberInduction with
  | null | bool | int | float | str => rfl
  | arr js ih =>
    rw [sortKeys, writable, writable, writableItems_iff, writableItems_iff, sortItems_eq_map,
      List.forall_mem_map]
    exact forall₂_congr ih
  | obj es ih =>
    rw [sortKeys, writable, writable, writableMembers_iff, writableMembers_iff, mem_sortMembers]
    exact forall₂_congr ih

lemma nodes_sortKeys (j : Json) : nodes (sortKeys j) = nodes j := by
  induction j using memberInduction with
  | null | bool | int | float | str => rfl
  | arr js ih =>
    rw [sortKeys, nodes, nodes, itemNodes_eq_sum, itemNodes_eq_sum, sortItems_eq_map,
      List.map_map]
    exact congrArg (1 + List.sum ·) (List.map_congr_left ih)
  | obj es ih =>
    have hperm := List.perm_insertionSort (fun a b : String × Json => a.1 ≤ b.1) (sortMembers es)
    rw [sortKeys, nodes, nodes, memberNodes_eq_sum, memberNodes_eq_sum,
      (hperm.map _).sum_eq, sortMembers_eq_map, List.map_map]
    exact congrArg (1 + List.sum ·)
      (List.map_congr_left fun e he => congrArg (1 + ·) (ih e he))

lemma height_sortKeys (j : Json) : height (sortKeys j) = height j := by
  induction j using memberInduction with
  | null | bool | int | float | str => rfl
  | arr js ih =>
    refine eq_of_forall_ge_iff fun n => ?_
    rw [sortKeys, height, height, itemHeight_le, itemHeight_le, sortItems_eq_map,
      List.forall_mem_map]
    exact forall₂_congr fun j hj => by rw [ih j hj]
  | obj es ih =>
    refine eq_of_forall_ge_iff fun n => ?_
    rw [sortKeys, height, height, memberHeight_le, memberHeight_le, mem_sortMembers]
    exact forall₂_congr fun e he => by rw [ih e he]

/-- What `_json_copy` accepts of a value on its own. -/
lemma jsonCopy_ne_none {j : Json} : jsonCopy j 0 NODE_BUDGET ≠ none ↔
    plain j = true ∧ height j ≤ MAX_DEPTH ∧ nodes j ≤ NODE_BUDGET := by
  rw [Option.ne_none_iff_exists']
  constructor
  · rintro ⟨left, h⟩
    obtain ⟨hplain, hheight, hnodes⟩ := (jsonCopy_eq_some j _ _ _).mp h
    exact ⟨hplain, by omega, by omega⟩
  · rintro ⟨hplain, hheight, hnodes⟩
    exact ⟨NODE_BUDGET - nodes j, (jsonCopy_eq_some j _ _ _).mpr ⟨hplain, by omega, by omega⟩⟩

lemma jsonCopy_congr {a b : Json} (h : sortKeys a = sortKeys b) :
    jsonCopy a 0 NODE_BUDGET ≠ none ↔ jsonCopy b 0 NODE_BUDGET ≠ none := by
  rw [jsonCopy_ne_none, jsonCopy_ne_none, ← plain_sortKeys a, ← height_sortKeys a,
    ← nodes_sortKeys a, h, plain_sortKeys, height_sortKeys, nodes_sortKeys]

lemma Admissible.congr {a b : Json} (h : sortKeys a = sortKeys b) (ha : Admissible number a) :
    Admissible number b where
  isPlain := by rw [← plain_sortKeys, ← h, plain_sortKeys, ha.isPlain]
  depth := by rw [← height_sortKeys, ← h, height_sortKeys]; exact ha.depth
  budget := by rw [← nodes_sortKeys, ← h, nodes_sortKeys]; exact ha.budget
  numbers := by rw [← writable_sortKeys, ← h, writable_sortKeys, ha.numbers]
  size := by rw [← dumps_eq_of_sortKeys h]; exact ha.size

/-- Values that differ in the order of members only have one canonical text or none. -/
theorem canonicalJson_congr {a b : Json} (h : sortKeys a = sortKeys b) :
    canonicalJson number a = canonicalJson number b := by
  refine Option.ext fun t => ?_
  rw [canonicalJson_eq_some, canonicalJson_eq_some, dumps_eq_of_sortKeys h]
  exact and_congr_left' ⟨.congr h, .congr h.symm⟩

/-- A canonical text determines its value up to the order of members. -/
theorem sortKeys_eq_of_canonicalJson (hn : FaithfulNumbers number) {a b : Json}
    (ha : canonicalJson number a = some t) (hb : canonicalJson number b = some t) :
    sortKeys a = sortKeys b := by
  obtain ⟨hadm, hta⟩ := canonicalJson_eq_some.mp ha
  obtain ⟨hadm', htb⟩ := canonicalJson_eq_some.mp hb
  exact sortKeys_eq_of_dumps hn (isFinite_of_plain a hadm.isPlain)
    (isFinite_of_plain b hadm'.isPlain) (hta.trans htb.symm)

/-! ### A bound on the text -/

section TextBound

variable (number : PyFloat → String)

mutual
/-- At most how many bytes a document's text has. -/
def textBound : Json → ℕ
  | .null => 4
  | .bool _ => 5
  | .int n => (toString n).utf8ByteSize
  | .float x => (number x).utf8ByteSize
  | .str s => 48 * s.utf8ByteSize + 8
  | .arr js => itemsBound js + 2
  | .obj es => membersBound es + 2

def itemsBound : List Json → ℕ
  | [] => 0
  | j :: js => textBound j + 1 + itemsBound js

def membersBound : List (String × Json) → ℕ
  | [] => 0
  | (k, j) :: es => 48 * k.utf8ByteSize + 8 + 1 + textBound j + 1 + membersBound es
end

lemma utf8ByteSize_ofList_le (cs : List Char) : (String.ofList cs).utf8ByteSize ≤ 4 * cs.length := by
  induction cs with
  | nil => exact Nat.le_refl _
  | cons c cs ih =>
    have hc : c.utf8Size ≤ 4 := Char.utf8Size_le_four c
    rw [show c :: cs = [c] ++ cs from rfl, String.ofList_append, String.utf8ByteSize_append,
      ← String.singleton_eq_ofList, String.utf8ByteSize_singleton, List.length_append,
      List.length_singleton]
    omega

lemma length_pair_le {n m : ℕ} (hn : n < 65536) (hm : m < 65536) :
    ('\\' :: 'u' :: hex4 n ++ '\\' :: 'u' :: hex4 m).length ≤ 12 := by
  simp only [List.length_cons, List.length_append, length_hex4 hn, length_hex4 hm]
  omega

lemma length_unicode_le {n : ℕ} (hn : n < 65536) : ('\\' :: 'u' :: hex4 n).length ≤ 12 := by
  simp only [List.length_cons, length_hex4 hn]
  omega

lemma length_escapeChar_le (c : Char) : (escapeChar c).length ≤ 12 := by
  have hhigh : 0xD800 + (c.toNat - 0x10000) / 1024 < 65536 := by
    have hvalid : c.toNat < 0xD800 ∨ 0xDFFF < c.toNat ∧ c.toNat < 0x110000 := c.valid
    omega
  unfold escapeChar
  split_ifs with _ _ _ _ _ _ _ _ hbasic
  any_goals (simp only [List.length_cons, List.length_nil]; omega)
  · exact length_unicode_le hbasic
  · exact length_pair_le hhigh (by omega)

lemma length_le_utf8ByteSize_ofList (cs : List Char) :
    cs.length ≤ (String.ofList cs).utf8ByteSize := by
  induction cs with
  | nil => exact Nat.zero_le _
  | cons c cs ih =>
    have hc : 0 < c.utf8Size := Char.utf8Size_pos c
    rw [show c :: cs = [c] ++ cs from rfl, String.ofList_append, String.utf8ByteSize_append,
      ← String.singleton_eq_ofList, String.utf8ByteSize_singleton, List.length_append,
      List.length_singleton]
    omega

lemma quoted_size_le (s : String) : (quoted s).utf8ByteSize ≤ 48 * s.utf8ByteSize + 8 := by
  have hbody : ∀ cs : List Char, (cs.flatMap escapeChar).length ≤ 12 * cs.length := by
    intro cs
    induction cs with
    | nil => exact Nat.le_refl _
    | cons c cs ih =>
      have hc := length_escapeChar_le c
      simp only [List.flatMap_cons, List.length_append, List.length_cons]
      omega
  have hsize := utf8ByteSize_ofList_le ('"' :: s.toList.flatMap escapeChar ++ ['"'])
  have hs := hbody s.toList
  have hchars := length_le_utf8ByteSize_ofList s.toList
  rw [String.ofList_toList] at hchars
  rw [quoted]
  simp only [List.length_cons, List.length_append, List.length_nil] at hsize
  omega

lemma intercalate_size_le (texts : List String) :
    (String.intercalate "," texts).utf8ByteSize ≤
      (texts.map fun t => t.utf8ByteSize + 1).sum := by
  induction texts with
  | nil => exact Nat.le_refl _
  | cons t texts ih =>
    cases texts with
    | nil => simp
    | cons u texts =>
      have hcomma : ",".utf8ByteSize = 1 := rfl
      simp only [String.intercalate_cons_cons, String.utf8ByteSize_append, List.map_cons,
        List.sum_cons, hcomma] at ih ⊢
      omega

variable {number}

lemma itemsBound_eq_sum (js : List Json) :
    itemsBound number js = (js.map fun j => textBound number j + 1).sum := by
  induction js with
  | nil => rfl
  | cons j js ih => simp [itemsBound, ih]

lemma membersBound_eq_sum (es : List (String × Json)) : membersBound number es =
    (es.map fun e => 48 * e.1.utf8ByteSize + 8 + 1 + textBound number e.2 + 1).sum := by
  induction es with
  | nil => rfl
  | cons e es ih => simp [membersBound, ih]

/-- Exchanging one member changes the bound by the difference of the values'. -/
lemma membersBound_exchange (front back : List (String × Json)) (key : String) (a b : Json) :
    membersBound number (front ++ (key, a) :: back) + textBound number b =
      membersBound number (front ++ (key, b) :: back) + textBound number a := by
  simp only [membersBound_eq_sum, List.map_append, List.map_cons, List.sum_append, List.sum_cons]
  omega

lemma sum_map_le {α : Type*} {f g : α → ℕ} {xs : List α} (h : ∀ x ∈ xs, f x ≤ g x) :
    (xs.map f).sum ≤ (xs.map g).sum := by
  induction xs with
  | nil => exact Nat.le_refl _
  | cons x xs ih =>
    have hx := h x List.mem_cons_self
    have hxs := ih fun y hy => h y (List.mem_cons_of_mem _ hy)
    simp only [List.map_cons, List.sum_cons]
    omega

lemma dumps_size_le (j : Json) : (dumps number j).utf8ByteSize ≤ textBound number j := by
  induction j using memberInduction with
  | null => exact Nat.le_refl 4
  | bool b =>
    cases b with
    | false => exact Nat.le_refl 5
    | true => exact Nat.le_succ 4
  | int n => exact Nat.le_refl _
  | float x => exact Nat.le_refl _
  | str s => exact quoted_size_le s
  | arr js ih =>
    have hcomma := intercalate_size_le (js.map (dumps number))
    rw [List.map_map] at hcomma
    have hitem : ∀ j ∈ js, (dumps number j).utf8ByteSize + 1 ≤ textBound number j + 1 :=
      fun j hj => Nat.succ_le_succ (ih j hj)
    have hsum := Nat.le_trans hcomma (sum_map_le hitem)
    have hopen : "[".utf8ByteSize = 1 := rfl
    have hclose : "]".utf8ByteSize = 1 := rfl
    rw [dumps, String.utf8ByteSize_append, String.utf8ByteSize_append, dumpItems_eq_map, textBound,
      itemsBound_eq_sum, hopen, hclose]
    omega
  | obj es ih =>
    have hcomma := intercalate_size_le ((es.insertionSort fun a b => a.1 ≤ b.1).map fun e =>
      quoted e.1 ++ ":" ++ dumps number e.2)
    have hmember : ∀ e ∈ es, (quoted e.1 ++ ":" ++ dumps number e.2).utf8ByteSize + 1 ≤
        48 * e.1.utf8ByteSize + 8 + 1 + textBound number e.2 + 1 := by
      intro e he
      have hkey := quoted_size_le e.1
      have hvalue := ih e he
      have hcolon : ":".utf8ByteSize = 1 := rfl
      rw [String.utf8ByteSize_append, String.utf8ByteSize_append, hcolon]
      omega
    have hperm := List.perm_insertionSort (fun a b : String × Json => a.1 ≤ b.1) es
    have hsum := sum_map_le hmember
    rw [List.map_map, (hperm.map _).sum_eq] at hcomma
    have hopen : "\x7b".utf8ByteSize = 1 := rfl
    have hclose : "\x7d".utf8ByteSize = 1 := rfl
    rw [dumps, String.utf8ByteSize_append, String.utf8ByteSize_append, textBound,
      membersBound_eq_sum, hopen, hclose, dumpEntries_eq_map,
      insertionSort_map_key (fun e => dumps number e.2), List.map_map]
    exact Nat.le_trans (Nat.add_le_add_right (Nat.add_le_add_left (Nat.le_trans hcomma hsum) 1) 1)
      (by omega)

lemma size_le_intercalate {texts : List String} {t : String} (h : t ∈ texts) :
    t.utf8ByteSize ≤ (String.intercalate "," texts).utf8ByteSize := by
  induction texts with
  | nil => cases h
  | cons u texts ih =>
    cases texts with
    | nil => rw [List.mem_singleton.mp h, String.intercalate_singleton]
    | cons v texts =>
      rw [String.intercalate_cons_cons, String.utf8ByteSize_append, String.utf8ByteSize_append]
      rcases List.mem_cons.mp h with rfl | hmem
      · omega
      · have := ih hmem
        omega

lemma size_member_le {es : List (String × Json)} {e : String × Json} (h : e ∈ es) :
    (dumps number e.2).utf8ByteSize ≤ (dumps number (.obj es)).utf8ByteSize := by
  have hmem : e ∈ es.insertionSort fun a b => a.1 ≤ b.1 := (List.mem_insertionSort _).mpr h
  have hle := size_le_intercalate (List.mem_map_of_mem
    (f := fun e => quoted e.1 ++ ":" ++ dumps number e.2) hmem)
  rw [String.utf8ByteSize_append, String.utf8ByteSize_append] at hle
  rw [dumps, String.utf8ByteSize_append, String.utf8ByteSize_append, dumpEntries_eq_map,
    insertionSort_map_key (fun e => dumps number e.2), List.map_map]
  exact Nat.le_trans (Nat.le_trans (Nat.le_add_left _ _) hle)
    (Nat.le_trans (Nat.le_add_left _ _) (Nat.le_add_right _ _))

/-- The members of an object with a canonical text have one. -/
lemma Admissible.member {es : List (String × Json)} (h : Admissible number (.obj es))
    {e : String × Json} (he : e ∈ es) : Admissible number e.2 where
  isPlain := (plainMembers_iff.mp h.isPlain e he).2
  depth := by
    have := memberHeight_le.mp h.depth e he
    omega
  budget := by
    have hle := nodes_le_memberNodes he
    have hbudget := h.budget
    rw [nodes] at hbudget
    omega
  numbers := writableMembers_iff.mp h.numbers e he
  size := Nat.le_trans (size_member_le he) h.size

lemma admissible_of_textBound {j : Json} (hplain : plain j = true) (hheight : height j ≤ MAX_DEPTH)
    (hnodes : nodes j ≤ NODE_BUDGET) (hwritable : writable j = true)
    (hsize : textBound number j ≤ MAX_CANONICAL_BYTES) : Admissible number j :=
  ⟨hplain, hheight, hnodes, hwritable, Nat.le_trans (dumps_size_le j) hsize⟩

end TextBound

end TrustLens.Ai
