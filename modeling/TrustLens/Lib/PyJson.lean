import TrustLens.Lib.JsonLoads
import TrustLens.Lib.JsonSchema
import TrustLens.Lib.PyString

/-!
# Decoded JSON with Python's strings

What `json.loads` returns where a text may escape a lone surrogate: the decoder of `JsonLoads` with
strings of code points, and the validators of a schema over what it returns.
-/

namespace TrustLens

inductive PyJson where
  | null
  | bool (b : Bool)
  | int (n : ℤ)
  | float (x : PyFloat)
  | str (s : PyStr)
  | arr (items : List PyJson)
  | obj (entries : List (PyStr × PyJson))

namespace PyJson

mutual
def decEq : (a b : PyJson) → Decidable (a = b)
  | null, null => isTrue rfl
  | bool a, bool b => decidable_of_iff (a = b) (by simp)
  | int a, int b => decidable_of_iff (a = b) (by simp)
  | float a, float b => decidable_of_iff (a = b) (by simp)
  | str a, str b => decidable_of_iff (a = b) (by simp)
  | arr a, arr b => @decidable_of_iff _ (a = b) (by simp) (decEqItems a b)
  | obj a, obj b => @decidable_of_iff _ (a = b) (by simp) (decEqEntries a b)
  | null, bool _ | null, int _ | null, float _ | null, str _ | null, arr _ | null, obj _
  | bool _, null | bool _, int _ | bool _, float _ | bool _, str _ | bool _, arr _ | bool _, obj _
  | int _, null | int _, bool _ | int _, float _ | int _, str _ | int _, arr _ | int _, obj _
  | float _, null | float _, bool _ | float _, int _ | float _, str _ | float _, arr _
  | float _, obj _
  | str _, null | str _, bool _ | str _, int _ | str _, float _ | str _, arr _ | str _, obj _
  | arr _, null | arr _, bool _ | arr _, int _ | arr _, float _ | arr _, str _ | arr _, obj _
  | obj _, null | obj _, bool _ | obj _, int _ | obj _, float _ | obj _, str _ | obj _, arr _ =>
    isFalse (by simp)

def decEqItems : (a b : List PyJson) → Decidable (a = b)
  | [], [] => isTrue rfl
  | a :: as, b :: bs =>
    @decidable_of_iff _ (a = b ∧ as = bs) (by simp) (@instDecidableAnd _ _ (decEq a b) (decEqItems as bs))
  | [], _ :: _ | _ :: _, [] => isFalse (by simp)

def decEqEntries : (a b : List (PyStr × PyJson)) → Decidable (a = b)
  | [], [] => isTrue rfl
  | (k, a) :: as, (k', b) :: bs =>
    @decidable_of_iff _ (k = k' ∧ a = b ∧ as = bs) (by simp [and_assoc])
      (@instDecidableAnd _ _ inferInstance
        (@instDecidableAnd _ _ (decEq a b) (decEqEntries as bs)))
  | [], _ :: _ | _ :: _, [] => isFalse (by simp)
end

instance : DecidableEq PyJson := decEq

/-- The value under a key, first entry first. -/
def lookup (key : PyStr) : List (PyStr × PyJson) → Option PyJson
  | [] => none
  | (k, v) :: rest => if k = key then some v else lookup key rest

/-- `value.get(key)` of an object. -/
def get? (key : String) : PyJson → Option PyJson
  | obj entries => lookup (.of key) entries
  | _ => none

/-- `value[key]` of an object that has the key. -/
def get (key : String) (value : PyJson) : PyJson := (value.get? key).getD null

/-- The string of a value that is one. -/
def text : PyJson → PyStr
  | str s => s
  | _ => []

/-- The elements of a value that is an array. -/
def elements : PyJson → List PyJson
  | arr items => items
  | _ => []

/-! ### The decoder -/

open Json (hexFour? isHighSurrogate isLowSurrogate shortEscape? skipBlanks readUnsigned negate)

/-- The rest of a string, after its opening quote, and what follows it. -/
def readString : List Char → Option (PyStr × List Char)
  | [] => none
  | c :: cs =>
    if c = '"' then some ([], cs)
    else if c = '\\' then
      match cs with
      | 'u' :: d₁ :: d₂ :: d₃ :: d₄ :: rest =>
        match hexFour? d₁ d₂ d₃ d₄ with
        | none => none
        | some n =>
          match rest with
          | '\\' :: 'u' :: e₁ :: e₂ :: e₃ :: e₄ :: rest' =>
            if isHighSurrogate n then
              match hexFour? e₁ e₂ e₃ e₄ with
              | none => none
              | some m =>
                if isLowSurrogate m then
                  (readString rest').map
                    (Prod.map (Fin.ofNat _ (0x10000 + (n - 0xD800) * 1024 + (m - 0xDC00)) :: ·) id)
                else
                  (readString ('\\' :: 'u' :: e₁ :: e₂ :: e₃ :: e₄ :: rest')).map
                    (Prod.map (Fin.ofNat _ n :: ·) id)
            else
              (readString ('\\' :: 'u' :: e₁ :: e₂ :: e₃ :: e₄ :: rest')).map
                (Prod.map (Fin.ofNat _ n :: ·) id)
          | rest => (readString rest).map (Prod.map (Fin.ofNat _ n :: ·) id)
      | e :: rest =>
        match shortEscape? e with
        | none => none
        | some escaped => (readString rest).map (Prod.map (CodePoint.ofChar escaped :: ·) id)
      | [] => none
    else if c.toNat < 32 then none
    else (readString cs).map (Prod.map (CodePoint.ofChar c :: ·) id)

/-- The names of the values that have one. -/
def names : List (List Char × PyJson) :=
  [("null".toList, null), ("true".toList, bool true), ("false".toList, bool false),
    ("NaN".toList, float .nan), ("Infinity".toList, float .inf), ("-Infinity".toList, float .negInf)]

/-- A value that holds no other. -/
def readAtom (cs : List Char) : Option (PyJson × List Char) :=
  match names.find? fun e => e.1.isPrefixOf cs with
  | some (name, j) => some (j, cs.drop name.length)
  | none =>
    match cs with
    | '-' :: rest =>
      (readUnsigned rest).map (Prod.map (Sum.elim (fun n : ℕ => int (-n)) (float ∘ negate)) id)
    | cs => (readUnsigned cs).map (Prod.map (Sum.elim (fun n : ℕ => int n) float) id)

/-- `entries[key] = value` -/
def upsert (key : PyStr) (value : PyJson) : List (PyStr × PyJson) → List (PyStr × PyJson)
  | [] => [(key, value)]
  | (k, v) :: rest => if k = key then (key, value) :: rest else (k, v) :: upsert key value rest

mutual
def readValue : ℕ → List Char → Option (PyJson × List Char)
  | 0, _ => none
  | fuel + 1, cs =>
    match cs with
    | '"' :: rest => (readString rest).map (Prod.map str id)
    | '\x7b' :: rest =>
      match skipBlanks rest with
      | '\x7d' :: rest => some (obj [], rest)
      | rest => (readMembers fuel [] rest).map (Prod.map obj id)
    | '[' :: rest =>
      match skipBlanks rest with
      | ']' :: rest => some (arr [], rest)
      | rest => (readItems fuel rest).map (Prod.map arr id)
    | cs => readAtom cs

def readItems : ℕ → List Char → Option (List PyJson × List Char)
  | 0, _ => none
  | fuel + 1, cs =>
    match readValue fuel cs with
    | none => none
    | some (j, rest) =>
      match skipBlanks rest with
      | ',' :: rest => (readItems fuel (skipBlanks rest)).map (Prod.map (j :: ·) id)
      | ']' :: rest => some ([j], rest)
      | _ => none

def readMembers : ℕ → List (PyStr × PyJson) → List Char → Option (List (PyStr × PyJson) × List Char)
  | 0, _, _ => none
  | fuel + 1, entries, cs =>
    match cs with
    | '"' :: rest =>
      match readString rest with
      | none => none
      | some (key, rest) =>
        match skipBlanks rest with
        | ':' :: rest =>
          match readValue fuel (skipBlanks rest) with
          | none => none
          | some (j, rest) =>
            match skipBlanks rest with
            | ',' :: rest => readMembers fuel (upsert key j entries) (skipBlanks rest)
            | '\x7d' :: rest => some (upsert key j entries, rest)
            | _ => none
        | _ => none
    | _ => none
end

/-- `json.loads`, none where it raises a `ValueError`. Two steps for a character are enough. -/
def loads (cs : List Char) : Option PyJson :=
  match readValue (2 * cs.length + 2) (skipBlanks cs) with
  | some (j, rest) => if skipBlanks rest = [] then some j else none
  | none => none

example : loads "\x7b\"a\": [\"\\ud800\", -2.5e1], \"a\": \"\\ud83d\\ude00\"\x7d".toList =
    some (obj [(.of "a", str [0x1F600])]) := by decide +kernel

/-! ### Validators -/

/-- Whether an instance satisfies a schema. -/
abbrev Validator := PyJson → Bool

/-- `pattern`, of a language over characters. -/
def pattern (p : String → Bool) : Validator
  | str s => (encode s).any p
  | _ => false

def enum (values : List String) : Validator
  | str s => (values.map PyStr.of).contains s
  | _ => false

/-- `type: string` with `maxLength`. -/
def stringUpTo (most : ℕ) : Validator
  | str s => s.length ≤ most
  | _ => false

/-- The integer a number denotes, where it has no fractional part. -/
def integer? : PyJson → Option ℤ
  | int n => some n
  | float x => x.toInt?
  | _ => none

/-- `type: integer` with a minimum. -/
def integerFrom (least : ℤ) (j : PyJson) : Bool := j.integer?.any fun n => least ≤ n

/-- `type: array` with `maxItems`. -/
def arrayUpTo (most : ℕ) (items : Validator) : Validator
  | arr js => js.length ≤ most && js.all items
  | _ => false

/-- `arrayUpTo` with `uniqueItems`. -/
def uniqueUpTo (most : ℕ) (items : Validator) : Validator
  | arr js => js.length ≤ most && js.all items && decide js.Nodup
  | _ => false

/-- The validator a property list gives a key, if it names the key. -/
def property (key : PyStr) : List (String × Validator) → Option Validator
  | [] => none
  | (k, v) :: rest => if PyStr.of k = key then some v else property key rest

/-- `required`, `properties` and `additionalProperties: false`. -/
def object (required : List String) (properties : List (String × Validator)) : Validator
  | obj entries =>
    required.all (fun k => (lookup (.of k) entries).isSome) &&
      entries.all fun e => (property e.1 properties).any fun v => v e.2
  | _ => false

end PyJson

end TrustLens
