import TrustLens.Backend.AuditChain
import TrustLens.Lib.Base64
import TrustLens.Lib.JsonLoads
import TrustLens.Lib.PyDatetime
import TrustLens.Lib.PyObject

/-!
# Cursors of the lists

A cursor is the key of a row as URL-safe text: the moment and the identifier as a JSON object, in
base64 without its padding. Reading one raises nothing: whatever the text, it is a key or nothing.
-/

namespace TrustLens.Backend.Cases

open AuditChain (Uuid hexGroup isLowerHex isUuid)
open Py (DateTime fromisoformat isoformat)

/-- A call of a library that may raise. -/
abbrev Attempt := Except PyException

/-! ### Identifiers -/

/-- `text.replace(needle, "")`, with what is left to skip of an occurrence. -/
def removeAll (needle : List Char) : ℕ → List Char → List Char
  | _, [] => []
  | skip, c :: cs =>
    if 0 < skip then removeAll needle (skip - 1) cs
    else if needle.isPrefixOf (c :: cs) then removeAll needle (needle.length - 1) cs
    else c :: removeAll needle 0 cs

def isBrace (c : Char) : Bool := c == '\x7b' || c == '\x7d'

def toLowerAscii (c : Char) : Char := if 'A' ≤ c ∧ c ≤ 'Z' then Char.ofNat (c.toNat + 32) else c

/-- `uuid.UUID(value)`, by its digits. The other numerals of base 16 that `int` takes are left out:
no text with one is the text of the number. -/
def parseUuid : Json → Attempt (List Char)
  | .str s =>
    let hex := removeAll "uuid:".toList 0 (removeAll "urn:".toList 0 s.toList)
    let hex := ((hex.dropWhile isBrace).rdropWhile isBrace).filter (· != '-')
    if hex.length = 32 ∧ hex.all (fun c => isLowerHex (toLowerAscii c)) = true then
      .ok (hex.map toLowerAscii)
    else .error .ValueError
  | .null => .error .TypeError
  | _ => .error .AttributeError

/-- `str(uuid)` -/
def uuidText (digits : List Char) : List Char :=
  digits.take 8 ++ '-' :: ((digits.drop 8).take 4 ++ '-' :: ((digits.drop 12).take 4 ++
    '-' :: ((digits.drop 16).take 4 ++ '-' :: digits.drop 20)))

/-- `uuid.version`, for the variant that has one. -/
def isVersion4 (digits : List Char) : Bool :=
  digits[12]? == some '4' && (digits[16]?).any (['8', '9', 'a', 'b'].contains ·)

/-- `_uuid` -/
def _uuid (value : Json) : Attempt (Option String) :=
  match parseUuid value, value with
  | .ok digits, .str s =>
    if uuidText digits = s.toList.map toLowerAscii ∧ isVersion4 digits = true then
      .ok (some (String.ofList (uuidText digits)))
    else .ok none
  | .ok _, _ => .ok none
  | .error e, _ => if e ∈ [.ValueError, .AttributeError, .TypeError] then .ok none else .error e

/-! ### Reading and writing -/

/-- The position of a row: its moment, as it is written, and its identifier. -/
structure Cursor where
  instant : DateTime
  offset : ℤ
  identifier : String
deriving DecidableEq

/-- `json.dumps({"t": …, "i": …}, separators=(",", ":"))` -/
def cursorText (instant : DateTime) (identifier : String) : List Char :=
  ['\x7b', '"', 't', '"', ':'] ++ (Json.quoted (String.ofList (isoformat instant))).toList ++
    [',', '"', 'i', '"', ':'] ++ (Json.quoted identifier).toList ++ ['\x7d']

/-- `_encode_cursor` of a moment in UTC. -/
def _encode_cursor (instant : DateTime) (identifier : String) : String :=
  String.ofList ((Base64.encode ((cursorText instant identifier).flatMap String.utf8EncodeChar)).rdropWhile
    (· == '='))

def orRaise {α : Type} (e : PyException) : Option α → Attempt α
  | some a => .ok a
  | none => .error e

/-- `data[key]` -/
def member (data : Json) (key : String) : Attempt Json :=
  match data with
  | .obj entries => orRaise .KeyError (Json.lookup key entries)
  | _ => .error .TypeError

/-- `datetime.fromisoformat(value)` -/
def momentOf : Json → Attempt (DateTime × Option ℤ)
  | .str s => orRaise .ValueError (fromisoformat s.toList)
  | _ => .error .TypeError

/-- The body of `_decode_cursor`. -/
def decodeCursor (value : String) : Attempt (Option Cursor) :=
  if 256 < value.length then .ok none
  else do
    let raw ← orRaise .ValueError (Base64.decode (value.toList ++ Base64.padding value.toList))
    let text ← orRaise .ValueError raw.toByteArray.utf8Decode?
    let data ← orRaise .ValueError (Json.loads text.toList)
    let (instant, zone) ← momentOf (← member data "t")
    let identifier ← _uuid (← member data "i")
    return match zone, identifier with
      | some offset, some identifier => some ⟨instant, offset, identifier⟩
      | _, _ => none

/-- `_decode_cursor`; `UnicodeDecodeError` is a `ValueError`. -/
def _decode_cursor (value : String) : Attempt (Option Cursor) :=
  match decodeCursor value with
  | .ok cursor => .ok cursor
  | .error e => if e ∈ [.ValueError, .KeyError, .TypeError] then .ok none else .error e

/-! ### Reading raises nothing -/

/-- A call raises only exceptions of a list. -/
def RaisesOnly {α : Type} (es : List PyException) (x : Attempt α) : Prop := ∀ e, x = .error e → e ∈ es

section RaisesOnly

variable {α β : Type} {es : List PyException}

lemma RaisesOnly.ok (a : α) : RaisesOnly es (.ok a) := nofun

lemma RaisesOnly.bind {x : Attempt α} {f : α → Attempt β} (hx : RaisesOnly es x)
    (hf : ∀ a, RaisesOnly es (f a)) : RaisesOnly es (x >>= f) := by
  intro e he
  cases x with
  | ok a => exact hf a e he
  | error e' =>
    obtain rfl : e' = e := Except.error.inj he
    exact hx e' rfl

lemma RaisesOnly.orRaise {e : PyException} (he : e ∈ es) (x : Option α) :
    RaisesOnly es (orRaise e x) := by
  intro e' h
  cases x with
  | some a => cases h
  | none => rwa [← Except.error.inj h]

end RaisesOnly

lemma parseUuid_raises (value : Json) :
    RaisesOnly [.ValueError, .AttributeError, .TypeError] (parseUuid value) := by
  intro e he
  cases value with
  | str s =>
    simp only [parseUuid] at he
    split_ifs at he
    rw [← Except.error.inj he]
    decide
  | null | bool | int | float | arr | obj =>
    rw [← Except.error.inj he]
    decide

lemma _uuid_total (value : Json) : ∃ r, _uuid value = .ok r := by
  unfold _uuid
  split
  · split_ifs <;> exact ⟨_, rfl⟩
  · exact ⟨none, rfl⟩
  · rename_i e he
    exact ⟨none, if_pos (parseUuid_raises _ e he)⟩

lemma decodeCursor_raises (value : String) :
    RaisesOnly [.ValueError, .KeyError, .TypeError] (decodeCursor value) := by
  have hmember : ∀ data key, RaisesOnly [.ValueError, .KeyError, .TypeError] (member data key) := by
    intro data key
    cases data with
    | obj entries => exact .orRaise (by decide) _
    | null | bool | int | float | str | arr =>
      intro e he
      rw [← Except.error.inj he]
      decide
  have hmoment : ∀ v, RaisesOnly [.ValueError, .KeyError, .TypeError] (momentOf v) := by
    intro v
    cases v with
    | str s => exact .orRaise (by decide) _
    | null | bool | int | float | arr | obj =>
      intro e he
      rw [← Except.error.inj he]
      decide
  have huuid : ∀ v, RaisesOnly [.ValueError, .KeyError, .TypeError] (_uuid v) := by
    intro v
    obtain ⟨r, hr⟩ := _uuid_total v
    rw [hr]
    exact .ok r
  unfold decodeCursor
  split_ifs
  · exact .ok _
  · exact .bind (.orRaise (by decide) _) fun _ => .bind (.orRaise (by decide) _) fun _ =>
      .bind (.orRaise (by decide) _) fun data => .bind (hmember data "t") fun _ =>
        .bind (hmoment _) fun _ => .bind (hmember data "i") fun _ => .bind (huuid _) fun _ => .ok _

/-- Whatever its text, a cursor is read without an exception. -/
theorem _decode_cursor_total (value : String) : ∃ r, _decode_cursor value = .ok r := by
  unfold _decode_cursor
  cases h : decodeCursor value with
  | ok r => exact ⟨r, rfl⟩
  | error e => exact ⟨none, if_pos (decodeCursor_raises value e h)⟩

/-! ### What is written is read -/

lemma removeAll_of_not_mem {needle cs : List Char} {c : Char} (hc : c ∈ needle) (h : c ∉ cs) :
    removeAll needle 0 cs = cs := by
  induction cs with
  | nil => rfl
  | cons a cs ih =>
    have hprefix : needle.isPrefixOf (a :: cs) = false := by
      rw [Bool.eq_false_iff, ne_eq, List.isPrefixOf_iff_prefix]
      exact fun hp => h (hp.subset hc)
    rw [removeAll, if_neg (Nat.lt_irrefl 0), hprefix, ih fun hm => h (List.mem_cons_of_mem _ hm)]
    rfl

/-- The groups of an identifier. -/
lemma exists_groups {cs : List Char} (h : isUuid cs = true) : ∃ a b c d e : List Char,
    cs = a ++ '-' :: (b ++ '-' :: (c ++ '-' :: (d ++ '-' :: e))) ∧
      hexGroup 8 a = true ∧ hexGroup 4 b = true ∧ hexGroup 4 c = true ∧ c.head? = some '4' ∧
      hexGroup 4 d = true ∧ d.head?.any (['8', '9', 'a', 'b'].contains ·) = true ∧
      hexGroup 12 e = true := by
  have hjoin : ['-'].intercalate (cs.splitOn '-') = cs := List.intercalate_splitOn '-'
  unfold isUuid at h
  split at h
  · rename_i a b c d e hsplit
    simp only [Bool.and_eq_true, beq_iff_eq] at h
    obtain ⟨⟨⟨⟨⟨⟨ha, hb⟩, hc⟩, hversion⟩, hd⟩, hvariant⟩, he⟩ := h
    rw [hsplit] at hjoin
    refine ⟨a, b, c, d, e, ?_, ha, hb, hc, hversion, hd, hvariant, he⟩
    rw [← hjoin]
    simp [List.intercalate]
  · cases h

/-- A lower-case digit is no mark of an identifier, and stays as it is. -/
lemma lowerHex_spec {c : Char} (h : isLowerHex c = true) :
    toLowerAscii c = c ∧ isBrace c = false ∧ c ≠ '-' ∧ c ≠ ':' := by
  have hrange : (48 ≤ c.toNat ∧ c.toNat ≤ 57) ∨ (97 ≤ c.toNat ∧ c.toNat ≤ 102) := by
    simpa [isLowerHex, Schema.isAsciiDigit, Char.le_def, UInt32.le_iff_toNat_le] using h
  have hupper : ¬('A' ≤ c ∧ c ≤ 'Z') := by
    simp only [Char.le_def, UInt32.le_iff_toNat_le]
    rintro ⟨hlow, hhigh⟩
    have hlow : 65 ≤ c.toNat := hlow
    have hhigh : c.toNat ≤ 90 := hhigh
    omega
  have hne : ∀ e : Char, e.toNat ∈ [45, 58, 123, 125] → c ≠ e := by
    rintro e he rfl
    simp only [List.mem_cons, List.not_mem_nil, or_false] at he
    omega
  refine ⟨if_neg hupper, ?_, hne '-' (by decide), hne ':' (by decide)⟩
  rw [isBrace, Bool.or_eq_false_iff, beq_eq_false_iff_ne, beq_eq_false_iff_ne]
  exact ⟨hne _ (by decide), hne _ (by decide)⟩

lemma isLowerHex_of_group {n : ℕ} {cs : List Char} (h : hexGroup n cs = true) :
    cs.length = n ∧ ∀ c ∈ cs, isLowerHex c = true := by
  simpa [hexGroup] using h

/-- The characters of an identifier. -/
lemma char_of_isUuid {cs : List Char} (h : isUuid cs = true) :
    ∀ c ∈ cs, toLowerAscii c = c ∧ isBrace c = false ∧ c ≠ ':' ∧ (isLowerHex c = true ∨ c = '-') := by
  obtain ⟨a, b, c, d, e, rfl, ha, hb, hc, -, hd, -, he⟩ := exists_groups h
  have hgroup : ∀ {n : ℕ} {cs : List Char}, hexGroup n cs = true → ∀ x ∈ cs, toLowerAscii x = x ∧
      isBrace x = false ∧ x ≠ ':' ∧ (isLowerHex x = true ∨ x = '-') := by
    intro n cs hcs x hx
    have hlower := (isLowerHex_of_group hcs).2 x hx
    obtain ⟨h1, h2, -, h4⟩ := lowerHex_spec hlower
    exact ⟨h1, h2, h4, .inl hlower⟩
  intro x hx
  simp only [List.mem_append, List.mem_cons] at hx
  rcases hx with hx | rfl | hx | rfl | hx | rfl | hx | rfl | hx
  · exact hgroup ha x hx
  · decide
  · exact hgroup hb x hx
  · decide
  · exact hgroup hc x hx
  · decide
  · exact hgroup hd x hx
  · decide
  · exact hgroup he x hx

/-- An identifier is read as itself. -/
theorem _uuid_of_isUuid (u : Uuid) : _uuid (.str u.val) = .ok (some u.val) := by
  obtain ⟨s, h⟩ := u
  have hchars := char_of_isUuid h
  have hcolon : ':' ∉ s.toList := fun hmem => (hchars ':' hmem).2.2.1 rfl
  have hbrace : s.toList.dropWhile isBrace = s.toList ∧ s.toList.rdropWhile isBrace = s.toList := by
    constructor
    · refine List.dropWhile_eq_self_iff.mpr fun hlen hb => ?_
      rw [(hchars _ (List.getElem_mem hlen)).2.1] at hb
      cases hb
    · refine List.rdropWhile_eq_self_iff.mpr fun hne hb => ?_
      rw [(hchars _ (List.getLast_mem hne)).2.1] at hb
      cases hb
  have hlower : s.toList.map toLowerAscii = s.toList :=
    (List.map_congr_left fun c hc => (hchars c hc).1).trans (List.map_id _)
  obtain ⟨a, b, c, d, e, hcs, ha, hb, hc, hversion, hd, hvariant, he⟩ := exists_groups h
  have hdigits : s.toList.filter (· != '-') = a ++ (b ++ (c ++ (d ++ e))) := by
    have hself : ∀ {n : ℕ} {cs : List Char}, hexGroup n cs = true → cs.filter (· != '-') = cs := by
      intro n cs hgroup
      refine List.filter_eq_self.mpr fun x hx => bne_iff_ne.mpr ?_
      exact (lowerHex_spec ((isLowerHex_of_group hgroup).2 x hx)).2.2.1
    simp [hcs, hself ha, hself hb, hself hc, hself hd, hself he]
  obtain ⟨hla, hha⟩ := isLowerHex_of_group ha
  obtain ⟨hlb, hhb⟩ := isLowerHex_of_group hb
  obtain ⟨hlc, hhc⟩ := isLowerHex_of_group hc
  obtain ⟨hld, hhd⟩ := isLowerHex_of_group hd
  obtain ⟨hle, hhe⟩ := isLowerHex_of_group he
  have hhex : ∀ x ∈ a ++ (b ++ (c ++ (d ++ e))), isLowerHex x = true := by
    intro x hx
    simp only [List.mem_append] at hx
    rcases hx with hx | hx | hx | hx | hx
    exacts [hha x hx, hhb x hx, hhc x hx, hhd x hx, hhe x hx]
  have hkept : (a ++ (b ++ (c ++ (d ++ e)))).map toLowerAscii = a ++ (b ++ (c ++ (d ++ e))) :=
    (List.map_congr_left fun x hx => (lowerHex_spec (hhex x hx)).1).trans (List.map_id _)
  have hparse : parseUuid (.str s) = .ok (a ++ (b ++ (c ++ (d ++ e)))) := by
    have hcondition : (a ++ (b ++ (c ++ (d ++ e)))).length = 32 ∧
        (a ++ (b ++ (c ++ (d ++ e)))).all (fun x => isLowerHex (toLowerAscii x)) = true := by
      refine ⟨by simp only [List.length_append, hla, hlb, hlc, hld, hle], List.all_eq_true.mpr ?_⟩
      intro x hx
      rw [(lowerHex_spec (hhex x hx)).1]
      exact hhex x hx
    rw [parseUuid, removeAll_of_not_mem (c := ':') (by decide) hcolon,
      removeAll_of_not_mem (c := ':') (by decide) hcolon]
    simp only [hbrace, hdigits, if_pos hcondition, hkept]
  have htext : uuidText (a ++ (b ++ (c ++ (d ++ e)))) = s.toList := by
    have h8 : (a ++ (b ++ (c ++ (d ++ e)))).drop 8 = b ++ (c ++ (d ++ e)) := List.drop_left' hla
    have h12 : (a ++ (b ++ (c ++ (d ++ e)))).drop 12 = c ++ (d ++ e) := by
      rw [show 12 = 8 + 4 from rfl, ← List.drop_drop, h8, List.drop_left' hlb]
    have h16 : (a ++ (b ++ (c ++ (d ++ e)))).drop 16 = d ++ e := by
      rw [show 16 = 12 + 4 from rfl, ← List.drop_drop, h12, List.drop_left' hlc]
    have h20 : (a ++ (b ++ (c ++ (d ++ e)))).drop 20 = e := by
      rw [show 20 = 16 + 4 from rfl, ← List.drop_drop, h16, List.drop_left' hld]
    rw [hcs, uuidText, h8, h12, h16, h20, List.take_left' hla, List.take_left' hlb,
      List.take_left' hlc, List.take_left' hld]
  have hfour : isVersion4 (a ++ (b ++ (c ++ (d ++ e)))) = true := by
    have h12 : (a ++ (b ++ (c ++ (d ++ e))))[12]? = c.head? := by
      simp [List.getElem?_append, hla, hlb, hlc, List.head?_eq_getElem?]
    have h16 : (a ++ (b ++ (c ++ (d ++ e))))[16]? = d.head? := by
      simp [List.getElem?_append, hla, hlb, hlc, hld, List.head?_eq_getElem?]
    rw [isVersion4, h12, h16, hversion, hvariant]
    rfl
  simp only [_uuid, hparse, htext, hlower, hfour, and_self, if_true, String.ofList_toList]

/-- The characters of a moment and of an identifier are plain. -/
lemma isPlain_of_range {c : Char} (h : 43 ≤ c.toNat ∧ c.toNat ≤ 58 ∨ 84 = c.toNat ∨
    97 ≤ c.toNat ∧ c.toNat ≤ 122) : Json.IsPlain c := by
  refine ⟨by omega, by omega, ?_, ?_⟩
  · rintro rfl
    exact absurd h (by decide)
  · rintro rfl
    exact absurd h (by decide)

lemma isPlain_isoformat (d : DateTime) : ∀ c ∈ isoformat d, Json.IsPlain c := by
  have hdigit : ∀ width n, ∀ c ∈ Py.fixed width n, Json.IsPlain c := by
    intro width n c hc
    have hrange : 48 ≤ c.toNat ∧ c.toNat ≤ 57 := by
      simpa [Py.isAsciiDigit, Char.le_def, UInt32.le_iff_toNat_le] using
        Py.digit_of_mem_fixed width n c hc
    exact isPlain_of_range (.inl (by omega))
  have hmark : ∀ c ∈ ['-', 'T', ':', '.', '+', '0'], Json.IsPlain c := by
    intro c hc
    simp only [List.mem_cons, List.not_mem_nil, or_false] at hc
    rcases hc with rfl | rfl | rfl | rfl | rfl | rfl
    all_goals exact isPlain_of_range (by decide)
  intro c hc
  simp only [isoformat, Py.isoDate, Py.isoClock, Py.utc, List.mem_append, List.mem_cons,
    List.mem_ite_nil_left, List.not_mem_nil, or_false] at hc
  have hcases : c ∈ ['-', 'T', ':', '.', '+', '0'] ∨ ∃ width n, c ∈ Py.fixed width n := by
    simp only [List.mem_cons, List.not_mem_nil, or_false]
    grind
  rcases hcases with hc | ⟨width, n, hc⟩
  · exact hmark c hc
  · exact hdigit width n c hc

lemma isPlain_of_isUuid (u : Uuid) : ∀ c ∈ u.val.toList, Json.IsPlain c := by
  intro c hc
  rcases (char_of_isUuid u.property c hc).2.2.2 with hlower | rfl
  · have hrange : (48 ≤ c.toNat ∧ c.toNat ≤ 57) ∨ (97 ≤ c.toNat ∧ c.toNat ≤ 102) := by
      simpa [isLowerHex, Schema.isAsciiDigit, Char.le_def, UInt32.le_iff_toNat_le] using hlower
    exact isPlain_of_range (by omega)
  · exact isPlain_of_range (by decide)

/-- The text of a cursor is the JSON object. -/
lemma cursorText_eq (instant : DateTime) (u : Uuid) : cursorText instant u.val =
    '\x7b' :: '"' :: (['t'] ++ '"' :: ':' :: '"' :: (isoformat instant ++ '"' :: ',' :: '"' ::
      (['i'] ++ '"' :: ':' :: '"' :: (u.val.toList ++ ['"', '\x7d'])))) := by
  have hmoment : ∀ c ∈ (String.ofList (isoformat instant)).toList, Json.IsPlain c := by
    rw [String.toList_ofList]
    exact isPlain_isoformat instant
  rw [cursorText, Json.quoted_of_plain hmoment, Json.quoted_of_plain (isPlain_of_isUuid u),
    String.toList_ofList]
  simp only [List.cons_append, List.nil_append, List.append_assoc]

lemma loads_cursorText (instant : DateTime) (u : Uuid) : Json.loads (cursorText instant u.val) =
    some (.obj [("t", .str (String.ofList (isoformat instant))), ("i", .str u.val)]) := by
  have ht : ∀ c ∈ ['t'], Json.IsPlain c := by
    rintro c hc
    rw [List.mem_singleton.mp hc]
    exact isPlain_of_range (by decide)
  have hi : ∀ c ∈ ['i'], Json.IsPlain c := by
    rintro c hc
    rw [List.mem_singleton.mp hc]
    exact isPlain_of_range (by decide)
  rw [cursorText_eq, Json.loads_two ht (isPlain_isoformat instant) hi (isPlain_of_isUuid u),
    String.ofList_toList]
  have hne : ¬String.ofList ['t'] = String.ofList ['i'] := by simp
  rw [Json.upsert, if_neg hne]
  rfl

lemma length_of_isUuid (u : Uuid) : u.val.toList.length = 36 := by
  obtain ⟨a, b, c, d, e, hcs, ha, hb, hc, -, hd, -, he⟩ := exists_groups u.property
  simp only [hcs, List.length_append, List.length_cons, (isLowerHex_of_group ha).1,
    (isLowerHex_of_group hb).1, (isLowerHex_of_group hc).1, (isLowerHex_of_group hd).1,
    (isLowerHex_of_group he).1]

/-- The text of a cursor takes a byte for a character. -/
lemma length_bytes (instant : DateTime) (u : Uuid) :
    ((cursorText instant u.val).flatMap String.utf8EncodeChar).length ≤ 83 := by
  have hplain : ∀ cs : List Char, (∀ c ∈ cs, c.toNat < 128) →
      (cs.flatMap String.utf8EncodeChar).length = cs.length := by
    intro cs hcs
    induction cs with
    | nil => rfl
    | cons c cs ih =>
      rw [List.forall_mem_cons] at hcs
      have hone : c.utf8Size = 1 := Char.utf8Size_eq_one_iff.mpr (Nat.lt_succ_iff.mp hcs.1)
      rw [List.flatMap_cons, List.length_append, String.length_utf8EncodeChar, hone, ih hcs.2,
        List.length_cons, Nat.add_comm]
  have hascii : ∀ c ∈ cursorText instant u.val, c.toNat < 128 := by
    have hmarks : ∀ c ∈ ['\x7b', '"', 't', ':', ',', 'i', '\x7d'], c.toNat < 128 := by
      simp only [List.forall_mem_cons, List.not_mem_nil, false_implies, implies_true, and_true]
      decide
    intro c hc
    rw [cursorText_eq] at hc
    simp only [List.mem_append, List.mem_cons, List.not_mem_nil, or_false] at hc
    have hcases : c ∈ isoformat instant ∨ c ∈ u.val.toList ∨
        c ∈ ['\x7b', '"', 't', ':', ',', 'i', '\x7d'] := by
      simp only [List.mem_cons, List.not_mem_nil, or_false]
      grind
    rcases hcases with hc | hc | hc
    · exact (isPlain_isoformat instant c hc).2.1.trans (by decide)
    · exact (isPlain_of_isUuid u c hc).2.1.trans (by decide)
    · exact hmarks c hc
  have hmoment := Py.length_isoformat_le instant
  have hid := length_of_isUuid u
  rw [hplain _ hascii, cursorText_eq]
  simp only [List.length_append, List.length_cons, List.length_nil]
  omega

/-- A cursor is far shorter than the bound. -/
lemma length_cursor (instant : DateTime) (u : Uuid) :
    (_encode_cursor instant u.val).length ≤ 256 := by
  have hbytes := length_bytes instant u
  have hsymbols := Base64.length_symbols_le
    ((cursorText instant u.val).flatMap String.utf8EncodeChar)
  rw [_encode_cursor, ← String.length_toList, String.toList_ofList, Base64.rstrip_encode]
  omega

/-- Decoding an encoded cursor gives back the key. -/
theorem _decode_cursor_encode (instant : DateTime) (u : Uuid) :
    _decode_cursor (_encode_cursor instant u.val) = .ok (some ⟨instant, 0, u.val⟩) := by
  have htext : (_encode_cursor instant u.val).toList =
      Base64.symbols ((cursorText instant u.val).flatMap String.utf8EncodeChar) := by
    rw [_encode_cursor, String.toList_ofList, Base64.rstrip_encode]
  have hutf8 : ((cursorText instant u.val).flatMap String.utf8EncodeChar).toByteArray.utf8Decode? =
      some (cursorText instant u.val).toArray := List.utf8Decode?_utf8Encode
  have hdecode : decodeCursor (_encode_cursor instant u.val) = .ok (some ⟨instant, 0, u.val⟩) := by
    rw [decodeCursor, if_neg (Nat.not_lt.mpr (length_cursor instant u)), htext, Base64.decode_symbols]
    have ht : member (.obj [("t", .str (String.ofList (isoformat instant))), ("i", .str u.val)]) "t" =
        .ok (.str (String.ofList (isoformat instant))) := rfl
    have hi : member (.obj [("t", .str (String.ofList (isoformat instant))), ("i", .str u.val)]) "i" =
        .ok (.str u.val) := rfl
    have hmoment : momentOf (.str (String.ofList (isoformat instant))) = .ok (instant, some 0) := by
      rw [momentOf, String.toList_ofList, Py.fromisoformat_isoformat]
      rfl
    simp only [orRaise, bind, Except.bind, hutf8, loads_cursorText, ht, hi, hmoment, _uuid_of_isUuid]
    rfl
  rw [_decode_cursor, hdecode]

end TrustLens.Backend.Cases
