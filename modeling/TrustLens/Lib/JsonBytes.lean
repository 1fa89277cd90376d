import TrustLens.Lib.JsonNesting

/-!
# Reading JSON bytes as Python does

`json.loads` of bytes: the encoding is told from the first bytes, and the text is decoded with lone
surrogates passed, which stand as the replacement character here.
-/

namespace TrustLens.Json

inductive Encoding where
  | utf8
  | utf8Sig
  | utf16
  | utf16be
  | utf16le
  | utf32
  | utf32be
  | utf32le
deriving DecidableEq

/-- `json.detect_encoding` -/
def detectEncoding (b : List UInt8) : Encoding :=
  if [0, 0, 0xFE, 0xFF].isPrefixOf b ∨ [0xFF, 0xFE, 0, 0].isPrefixOf b then .utf32
  else if [0xFE, 0xFF].isPrefixOf b ∨ [0xFF, 0xFE].isPrefixOf b then .utf16
  else if [0xEF, 0xBB, 0xBF].isPrefixOf b then .utf8Sig
  else
    match b with
    | b₀ :: b₁ :: b₂ :: b₃ :: _ =>
      if b₀ = 0 then if b₁ ≠ 0 then .utf16be else .utf32be
      else if b₁ = 0 then if b₂ ≠ 0 ∨ b₃ ≠ 0 then .utf16le else .utf32le
      else .utf8
    | [b₀, b₁] => if b₀ = 0 then .utf16be else if b₁ = 0 then .utf16le else .utf8
    | _ => .utf8

/-! ### The codecs -/

/-- An encoded surrogate, replaced. -/
def passSurrogates : List UInt8 → List UInt8
  | 0xED :: b :: c :: rest =>
    if 0xA0 ≤ b ∧ b ≤ 0xBF ∧ 0x80 ≤ c ∧ c ≤ 0xBF then 0xEF :: 0xBF :: 0xBD :: passSurrogates rest
    else 0xED :: passSurrogates (b :: c :: rest)
  | b :: rest => b :: passSurrogates rest
  | [] => []

def decodeUtf8 (b : List UInt8) : Option (List Char) :=
  (passSurrogates b).toByteArray.utf8Decode?.map Array.toList

/-- The code units of two bytes. -/
def units16 (big : Bool) : List UInt8 → Option (List ℕ)
  | [] => some []
  | [_] => none
  | a :: b :: rest => (units16 big rest).map
      ((if big then a.toNat * 256 + b.toNat else b.toNat * 256 + a.toNat) :: ·)

def charsOfUnits : List ℕ → List Char
  | [] => []
  | [n] => [unitChar n]
  | n :: m :: rest =>
    if isHighSurrogate n && isLowSurrogate m then joinSurrogates n m :: charsOfUnits rest
    else unitChar n :: charsOfUnits (m :: rest)

def decodeUtf16 (big : Bool) (b : List UInt8) : Option (List Char) := (units16 big b).map charsOfUnits

def decodeUtf32 (big : Bool) : List UInt8 → Option (List Char)
  | [] => some []
  | a :: b :: c :: d :: rest =>
    let n := if big then ((a.toNat * 256 + b.toNat) * 256 + c.toNat) * 256 + d.toNat
      else ((d.toNat * 256 + c.toNat) * 256 + b.toNat) * 256 + a.toNat
    if n < 0x110000 then (decodeUtf32 big rest).map (unitChar n :: ·) else none
  | _ => none

/-- The text of bytes, none where they are not of the encoding their head tells. -/
def decodeBytes (b : List UInt8) : Option (List Char) :=
  match detectEncoding b with
  | .utf8 => decodeUtf8 b
  | .utf8Sig => decodeUtf8 (b.drop 3)
  | .utf16 => decodeUtf16 ([0xFE, 0xFF].isPrefixOf b) (b.drop 2)
  | .utf16be => decodeUtf16 true b
  | .utf16le => decodeUtf16 false b
  | .utf32 => decodeUtf32 ([0, 0, 0xFE, 0xFF].isPrefixOf b) (b.drop 4)
  | .utf32be => decodeUtf32 true b
  | .utf32le => decodeUtf32 false b

/-- `json.loads` of bytes, under a limit on the nesting; a `UnicodeDecodeError` is a `ValueError`. -/
def loadsBytes (limit : ℕ) (b : List UInt8) : Except PyException Json :=
  match decodeBytes b with
  | none => .error .ValueError
  | some cs => loadsWithin limit cs

lemma loadsBytes_cases (limit : ℕ) (b : List UInt8) :
    (∃ j, loadsBytes limit b = .ok j) ∨ loadsBytes limit b = .error .ValueError ∨
      loadsBytes limit b = .error .RecursionError := by
  rw [loadsBytes]
  cases decodeBytes b with
  | none => exact .inr (.inl rfl)
  | some cs =>
    rcases loadsWithin_cases limit cs with h | ⟨h, -⟩
    · cases hj : loads cs with
      | none =>
        rw [hj] at h
        exact .inr (.inl h)
      | some j =>
        rw [hj] at h
        exact .inl ⟨j, h⟩
    · exact .inr (.inr h)

/-! ### Texts of ASCII -/

section Ascii

variable {cs : List Char}

lemma ascii_bytes (h : ∀ c ∈ cs, 0 < c.toNat ∧ c.toNat < 128) :
    ∀ b ∈ cs.flatMap String.utf8EncodeChar, 0 < b.toNat ∧ b.toNat < 128 := by
  intro b hb
  obtain ⟨c, hc, hb⟩ := List.mem_flatMap.mp hb
  obtain ⟨hpos, hlt⟩ := h c hc
  have hone : String.utf8EncodeChar c = [c.val.toUInt8] :=
    String.utf8EncodeChar_eq_singleton (Char.utf8Size_eq_one_iff.mpr (Nat.lt_succ_iff.mp hlt))
  rw [hone, List.mem_singleton] at hb
  subst hb
  have hval : c.val.toUInt8.toNat = c.toNat := by
    rw [UInt32.toNat_toUInt8]
    exact Nat.mod_eq_of_lt (lt_trans hlt (by decide))
  rw [hval]
  exact ⟨hpos, hlt⟩

lemma passSurrogates_ascii {b : List UInt8} (h : ∀ x ∈ b, x.toNat < 128) : passSurrogates b = b := by
  fun_induction passSurrogates b with
  | case1 => exact absurd (h 0xED (by simp)) (by decide)
  | case2 => exact absurd (h 0xED (by simp)) (by decide)
  | case3 b rest _ ih => rw [ih fun x hx => h x (List.mem_cons_of_mem _ hx)]
  | case4 => rfl

lemma detectEncoding_ascii {b : List UInt8} (h : ∀ x ∈ b, 0 < x.toNat ∧ x.toNat < 128) :
    detectEncoding b = .utf8 := by
  have hzero : ∀ x ∈ b, x ≠ 0 := by
    rintro x hx rfl
    exact absurd (h 0 hx).1 (by decide)
  have hmark : ∀ x rest, b = x :: rest → x ≠ 0xFE ∧ x ≠ 0xFF ∧ x ≠ 0xEF := by
    rintro x rest rfl
    have hx := (h x List.mem_cons_self).2
    refine ⟨?_, ?_, ?_⟩ <;> rintro rfl <;> exact absurd hx (by decide)
  unfold detectEncoding
  cases b with
  | nil => rfl
  | cons b₀ rest =>
    obtain ⟨hFE, hFF, hEF⟩ := hmark b₀ rest rfl
    have hb₀ := hzero b₀ List.mem_cons_self
    have h32 : ¬([0, 0, 0xFE, 0xFF].isPrefixOf (b₀ :: rest) = true ∨
        [0xFF, 0xFE, 0, 0].isPrefixOf (b₀ :: rest) = true) := by
      simp [List.isPrefixOf_cons_cons, hb₀.symm, hFF.symm]
    have h16 : ¬([0xFE, 0xFF].isPrefixOf (b₀ :: rest) = true ∨
        [0xFF, 0xFE].isPrefixOf (b₀ :: rest) = true) := by
      simp [List.isPrefixOf_cons_cons, hFE.symm, hFF.symm]
    have h8 : ¬[0xEF, 0xBB, 0xBF].isPrefixOf (b₀ :: rest) = true := by
      simp [List.isPrefixOf_cons_cons, hEF.symm]
    rw [if_neg h32, if_neg h16, if_neg h8]
    cases rest with
    | nil => rfl
    | cons b₁ rest =>
      have hb₁ := hzero b₁ (by simp)
      rcases rest with _ | ⟨b₂, _ | ⟨b₃, rest⟩⟩
      · simp only [if_neg hb₀, if_neg hb₁]
      · rfl
      · simp only [if_neg hb₀, if_neg hb₁]

lemma decodeBytes_ascii (h : ∀ c ∈ cs, 0 < c.toNat ∧ c.toNat < 128) :
    decodeBytes (cs.flatMap String.utf8EncodeChar) = some cs := by
  have hbytes := ascii_bytes h
  have hutf8 : (cs.flatMap String.utf8EncodeChar).toByteArray.utf8Decode? = some cs.toArray :=
    List.utf8Decode?_utf8Encode
  simp only [decodeBytes, detectEncoding_ascii hbytes, decodeUtf8,
    passSurrogates_ascii fun x hx => (hbytes x hx).2, hutf8, Option.map_some]

end Ascii

end TrustLens.Json
