import TrustLens.Lib.Double
import TrustLens.Lib.JsonText

/-!
# Reading JSON text as Python does

`json.loads` of a text: the strict grammar with the names of the three special doubles, the last
of the values given for one key, and surrogate pairs joined. A lone surrogate, which no character
of this model is, stands as the replacement character.
-/

namespace TrustLens.Json

def isBlank (c : Char) : Bool := c == ' ' || c == '\t' || c == '\n' || c == '\r'

def skipBlanks (cs : List Char) : List Char := cs.dropWhile isBlank

/-! ### Strings -/

def hexDigit? (c : Char) : Option ℕ :=
  if '0' ≤ c ∧ c ≤ '9' then some (c.toNat - 48)
  else if 'a' ≤ c ∧ c ≤ 'f' then some (c.toNat - 87)
  else if 'A' ≤ c ∧ c ≤ 'F' then some (c.toNat - 55)
  else none

def hexFour? (a b c d : Char) : Option ℕ := do
  return (((← hexDigit? a) * 16 + (← hexDigit? b)) * 16 + (← hexDigit? c)) * 16 + (← hexDigit? d)

def isHighSurrogate (n : ℕ) : Bool := 0xD800 ≤ n && n < 0xDC00

def isLowSurrogate (n : ℕ) : Bool := 0xDC00 ≤ n && n < 0xE000

/-- The character of a code unit that has no partner. -/
def unitChar (n : ℕ) : Char :=
  if isHighSurrogate n || isLowSurrogate n then Char.ofNat 0xFFFD else Char.ofNat n

def joinSurrogates (high low : ℕ) : Char :=
  Char.ofNat (0x10000 + (high - 0xD800) * 1024 + (low - 0xDC00))

def shortEscape? (c : Char) : Option Char :=
  if c = '"' ∨ c = '\\' ∨ c = '/' then some c
  else if c = 'b' then some (Char.ofNat 8)
  else if c = 'f' then some (Char.ofNat 12)
  else if c = 'n' then some '\n'
  else if c = 'r' then some '\r'
  else if c = 't' then some '\t'
  else none

/-- The rest of a string, after its opening quote, and what follows it. -/
def readString : List Char → Option (List Char × List Char)
  | [] => none
  | c :: cs =>
    if c = '"' then some ([], cs)
    else if c = '\\' then
      match cs with
      | 'u' :: d₁ :: d₂ :: d₃ :: d₄ :: rest =>
        match hexFour? d₁ d₂ d₃ d₄ with
        | none => none
        | some n =>
          match rest with
          | '\\' :: 'u' :: e₁ :: e₂ :: e₃ :: e₄ :: rest' =>
            if isHighSurrogate n then
              match hexFour? e₁ e₂ e₃ e₄ with
              | none => none
              | some m =>
                if isLowSurrogate m then
                  (readString rest').map (Prod.map (joinSurrogates n m :: ·) id)
                else
                  (readString ('\\' :: 'u' :: e₁ :: e₂ :: e₃ :: e₄ :: rest')).map
                    (Prod.map (unitChar n :: ·) id)
            else
              (readString ('\\' :: 'u' :: e₁ :: e₂ :: e₃ :: e₄ :: rest')).map
                (Prod.map (unitChar n :: ·) id)
          | rest => (readString rest).map (Prod.map (unitChar n :: ·) id)
      | e :: rest =>
        match shortEscape? e with
        | none => none
        | some escaped => (readString rest).map (Prod.map (escaped :: ·) id)
      | [] => none
    else if c.toNat < 32 then none
    else (readString cs).map (Prod.map (c :: ·) id)

/-! ### Numbers and names -/

/-- `int` of a run of digits, which are not more than the interpreter takes. -/
def digitsValue? (cs : List Char) : Option ℕ :=
  if PyText.maxDigits < cs.length then none else some (PyFloat.digits cs)

/-- The digits at the head of a text. -/
def spanDigits (cs : List Char) : List Char × List Char := cs.span Char.isDigit

/-- The fraction of a number, empty where there is none. -/
def readFraction : List Char → List Char × List Char
  | '.' :: rest =>
    let (ds, after) := spanDigits rest
    if ds = [] then ([], '.' :: rest) else (ds, after)
  | cs => ([], cs)

/-- The exponent of a number. -/
def readExponent : List Char → Option ℤ × List Char
  | e :: rest =>
    if e = 'e' ∨ e = 'E' then
      let (sign, digits) : ℤ × List Char := match rest with
        | '-' :: ds => (-1, ds)
        | '+' :: ds => (1, ds)
        | ds => (1, ds)
      let (ds, after) := spanDigits digits
      if ds = [] then (none, e :: rest) else (some (sign * PyFloat.digits ds), after)
    else (none, e :: rest)
  | [] => (none, [])

def negate : PyFloat → PyFloat
  | .finite q => if q = 0 then .negZero else .finite (-q)
  | .inf => .negInf
  | x => x

/-- A number that is not negative. -/
def readUnsigned (cs : List Char) : Option ((ℕ ⊕ PyFloat) × List Char) :=
  let (whole, after) := match cs with
    | '0' :: rest => (['0'], rest)
    | cs => spanDigits cs
  if whole = [] then none
  else
    let (fraction, after) := readFraction after
    let (exponent, after) := readExponent after
    if fraction = [] ∧ exponent = none then
      (digitsValue? whole).map fun n => (.inl n, after)
    else
      let mantissa : ℚ := PyFloat.digits whole + PyFloat.digits fraction / 10 ^ fraction.length
      some (.inr (PyFloat.ofRat (mantissa * 10 ^ exponent.getD 0)), after)

/-- The names of the values that have one. -/
def names : List (List Char × Json) :=
  [("null".toList, null), ("true".toList, bool true), ("false".toList, bool false),
    ("NaN".toList, float .nan), ("Infinity".toList, float .inf), ("-Infinity".toList, float .negInf)]

/-- A value that holds no other. -/
def readAtom (cs : List Char) : Option (Json × List Char) :=
  match names.find? fun e => e.1.isPrefixOf cs with
  | some (name, j) => some (j, cs.drop name.length)
  | none =>
    match cs with
    | '-' :: rest => (readUnsigned rest).map (Prod.map (Sum.elim (fun n : ℕ => int (-n)) (float ∘ negate)) id)
    | cs => (readUnsigned cs).map (Prod.map (Sum.elim (fun n : ℕ => int n) float) id)

/-! ### Values -/

/-- `entries[key] = value` -/
def upsert (key : String) (value : Json) : List (String × Json) → List (String × Json)
  | [] => [(key, value)]
  | (k, v) :: rest => if k = key then (key, value) :: rest else (k, v) :: upsert key value rest

mutual
def readValue : ℕ → List Char → Option (Json × List Char)
  | 0, _ => none
  | fuel + 1, cs =>
    match cs with
    | '"' :: rest => (readString rest).map (Prod.map (str ∘ String.ofList) id)
    | '\x7b' :: rest =>
      match skipBlanks rest with
      | '\x7d' :: rest => some (obj [], rest)
      | rest => (readMembers fuel [] rest).map (Prod.map obj id)
    | '[' :: rest =>
      match skipBlanks rest with
      | ']' :: rest => some (arr [], rest)
      | rest => (readItems fuel rest).map (Prod.map arr id)
    | cs => readAtom cs

def readItems : ℕ → List Char → Option (List Json × List Char)
  | 0, _ => none
  | fuel + 1, cs =>
    match readValue fuel cs with
    | none => none
    | some (j, rest) =>
      match skipBlanks rest with
      | ',' :: rest => (readItems fuel (skipBlanks rest)).map (Prod.map (j :: ·) id)
      | ']' :: rest => some ([j], rest)
      | _ => none

def readMembers : ℕ → List (String × Json) → List Char → Option (List (String × Json) × List Char)
  | 0, _, _ => none
  | fuel + 1, entries, cs =>
    match cs with
    | '"' :: rest =>
      match readString rest with
      | none => none
      | some (key, rest) =>
        match skipBlanks rest with
        | ':' :: rest =>
          match readValue fuel (skipBlanks rest) with
          | none => none
          | some (j, rest) =>
            match skipBlanks rest with
            | ',' :: rest => readMembers fuel (upsert (String.ofList key) j entries) (skipBlanks rest)
            | '\x7d' :: rest => some (upsert (String.ofList key) j entries, rest)
            | _ => none
        | _ => none
    | _ => none
end

/-- `json.loads`, none where it raises a `ValueError`. Two steps for a character are enough. -/
def loads (cs : List Char) : Option Json :=
  match readValue (2 * cs.length + 2) (skipBlanks cs) with
  | some (j, rest) => if skipBlanks rest = [] then some j else none
  | none => none

example : loads "\x7b\"a\": [1, -2.5e1, null], \"b\": \"\\u0041\\n\", \"a\": true\x7d ".toList =
    some (obj [("a", bool true), ("b", str "A\n")]) := by decide +kernel

/-! ### Texts of plain characters -/

/-- A character that stands for itself in a string. -/
def IsPlain (c : Char) : Prop := 32 ≤ c.toNat ∧ c.toNat < 127 ∧ c ≠ '"' ∧ c ≠ '\\'

lemma quoted_of_plain {s : String} (h : ∀ c ∈ s.toList, IsPlain c) :
    (quoted s).toList = '"' :: s.toList ++ ['"'] := by
  have hflat : ∀ cs : List Char, (∀ c ∈ cs, IsPlain c) → cs.flatMap escapeChar = cs := by
    intro cs hcs
    induction cs with
    | nil => rfl
    | cons c cs ih =>
      rw [List.forall_mem_cons] at hcs
      obtain ⟨⟨hlow, hhigh, hquote, hslash⟩, hrest⟩ := hcs
      have hnewline : c ≠ '\n' ∧ c ≠ '\r' ∧ c ≠ '\t' := by
        refine ⟨?_, ?_, ?_⟩ <;> rintro rfl <;> exact absurd hlow (by decide)
      have hself : escapeChar c = [c] := by
        simp only [escapeChar, hquote, hslash, hnewline, if_false, show ¬c.toNat = 8 by omega,
          show ¬c.toNat = 12 by omega, hlow, hhigh, and_self, if_true]
      rw [List.flatMap_cons, hself, ih hrest]
      rfl
  rw [quoted, String.toList_ofList, hflat _ h]

lemma readString_plain {cs : List Char} (h : ∀ c ∈ cs, IsPlain c) (rest : List Char) :
    readString (cs ++ '"' :: rest) = some (cs, rest) := by
  induction cs with
  | nil =>
    rw [List.nil_append, readString.eq_def]
    exact if_pos rfl
  | cons c cs ih =>
    rw [List.forall_mem_cons] at h
    obtain ⟨⟨hlow, -, hquote, hslash⟩, hrest⟩ := h
    rw [List.cons_append, readString.eq_def]
    simp only [if_neg hquote, if_neg hslash, if_neg (show ¬c.toNat < 32 by omega), ih hrest]
    rfl

lemma readValue_string {cs : List Char} (h : ∀ c ∈ cs, IsPlain c) (fuel : ℕ) (rest : List Char) :
    readValue (fuel + 1) ('"' :: (cs ++ '"' :: rest)) = some (str (String.ofList cs), rest) := by
  rw [readValue, readString_plain h]
  rfl

/-- A member whose value is a string, before another one. -/
lemma readMembers_more {k v : List Char} (hk : ∀ c ∈ k, IsPlain c) (hv : ∀ c ∈ v, IsPlain c)
    (fuel : ℕ) (entries : List (String × Json)) (rest : List Char) :
    readMembers (fuel + 2) entries ('"' :: (k ++ '"' :: ':' :: '"' :: (v ++ '"' :: ',' :: '"' :: rest))) =
      readMembers (fuel + 1) (upsert (String.ofList k) (str (String.ofList v)) entries) ('"' :: rest) := by
  have hcolon : skipBlanks (':' :: '"' :: (v ++ '"' :: ',' :: '"' :: rest)) =
      ':' :: '"' :: (v ++ '"' :: ',' :: '"' :: rest) := rfl
  have hquote : skipBlanks ('"' :: (v ++ '"' :: ',' :: '"' :: rest)) =
      '"' :: (v ++ '"' :: ',' :: '"' :: rest) := rfl
  have hcomma : skipBlanks (',' :: '"' :: rest) = ',' :: '"' :: rest := rfl
  have hnext : skipBlanks ('"' :: rest) = '"' :: rest := rfl
  rw [readMembers]
  simp only [readString_plain hk, hcolon, hquote, readValue_string hv, hcomma, hnext]

/-- A member whose value is a string, at the end. -/
lemma readMembers_last {k v : List Char} (hk : ∀ c ∈ k, IsPlain c) (hv : ∀ c ∈ v, IsPlain c)
    (fuel : ℕ) (entries : List (String × Json)) (rest : List Char) :
    readMembers (fuel + 2) entries ('"' :: (k ++ '"' :: ':' :: '"' :: (v ++ '"' :: '\x7d' :: rest))) =
      some (upsert (String.ofList k) (str (String.ofList v)) entries, rest) := by
  have hcolon : skipBlanks (':' :: '"' :: (v ++ '"' :: '\x7d' :: rest)) =
      ':' :: '"' :: (v ++ '"' :: '\x7d' :: rest) := rfl
  have hquote : skipBlanks ('"' :: (v ++ '"' :: '\x7d' :: rest)) =
      '"' :: (v ++ '"' :: '\x7d' :: rest) := rfl
  have hbrace : skipBlanks ('\x7d' :: rest) = '\x7d' :: rest := rfl
  rw [readMembers]
  simp only [readString_plain hk, hcolon, hquote, readValue_string hv, hbrace]

lemma readValue_object (fuel : ℕ) (cs : List Char) : readValue (fuel + 1) ('\x7b' :: '"' :: cs) =
    (readMembers fuel [] ('"' :: cs)).map (Prod.map obj id) := by
  have hquote : skipBlanks ('"' :: cs) = '"' :: cs := rfl
  rw [readValue, hquote]
  rfl

/-- An object with two members, both strings. -/
theorem loads_two {k v k' v' : List Char} (hk : ∀ c ∈ k, IsPlain c) (hv : ∀ c ∈ v, IsPlain c)
    (hk' : ∀ c ∈ k', IsPlain c) (hv' : ∀ c ∈ v', IsPlain c) :
    loads ('\x7b' :: '"' :: (k ++ '"' :: ':' :: '"' :: (v ++ '"' :: ',' :: '"' :: (k' ++ '"' :: ':' ::
      '"' :: (v' ++ ['"', '\x7d']))))) =
        some (obj (upsert (String.ofList k') (str (String.ofList v'))
          [(String.ofList k, str (String.ofList v))])) := by
  have hblank : ∀ cs : List Char, skipBlanks ('\x7b' :: cs) = '\x7b' :: cs := fun _ => rfl
  have hfuel : ∀ cs : List Char, ∃ fuel, 2 * ('\x7b' :: '"' :: (k ++ '"' :: cs)).length + 2 = fuel + 1 + 2 + 1 := by
    intro cs
    refine ⟨2 * (k ++ '"' :: cs).length + 2, ?_⟩
    simp only [List.length_cons]
    omega
  obtain ⟨fuel, hfuel⟩ := hfuel (':' :: '"' :: (v ++ '"' :: ',' :: '"' :: (k' ++ '"' :: ':' ::
      '"' :: (v' ++ ['"', '\x7d']))))
  rw [loads, hblank, hfuel, readValue_object, readMembers_more hk hv, readMembers_last hk' hv']
  rfl

end TrustLens.Json
