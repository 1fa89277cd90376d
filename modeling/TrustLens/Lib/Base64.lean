import Mathlib.Data.List.DropRight
import Mathlib.Tactic.Linarith

/-!
# Base64 text

The URL-safe alphabet, with the padding kept or left out. The reader is the lenient one: what is
no symbol is skipped, and input after a complete padding is not read.
-/

namespace TrustLens.Base64

def alphabet : List Char :=
  "ABCDEFGHIJKLMNOPQRSTUVWXYZabcdefghijklmnopqrstuvwxyz0123456789-_".toList

def symbol (n : ℕ) : Char := alphabet.getD n 'A'

/-- Both alphabets are read. -/
def value? (c : Char) : Option ℕ :=
  if 'A' ≤ c ∧ c ≤ 'Z' then some (c.toNat - 65)
  else if 'a' ≤ c ∧ c ≤ 'z' then some (c.toNat - 71)
  else if '0' ≤ c ∧ c ≤ '9' then some (c.toNat + 4)
  else if c = '+' ∨ c = '-' then some 62
  else if c = '/' ∨ c = '_' then some 63
  else none

/-- The symbols of the bytes, three to four. -/
def symbols : List UInt8 → List Char
  | a :: b :: c :: rest =>
    symbol (a.toNat / 4) :: symbol (a.toNat % 4 * 16 + b.toNat / 16) ::
      symbol (b.toNat % 16 * 4 + c.toNat / 64) :: symbol (c.toNat % 64) :: symbols rest
  | [a, b] =>
    [symbol (a.toNat / 4), symbol (a.toNat % 4 * 16 + b.toNat / 16), symbol (b.toNat % 16 * 4)]
  | [a] => [symbol (a.toNat / 4), symbol (a.toNat % 4 * 16)]
  | [] => []

/-- What fills a text up to full groups. -/
def padding (cs : List Char) : List Char := List.replicate ((4 - cs.length % 4) % 4) '='

/-- `base64.urlsafe_b64encode` -/
def encode (bytes : List UInt8) : List Char := symbols bytes ++ padding (symbols bytes)

/-- The reader, in the place of a symbol within its group, with the bits left from the last one and
the padding seen. -/
def scan : ℕ → ℕ → ℕ → List Char → Option (List UInt8)
  | quad, _, _, [] => if quad = 0 then some [] else none
  | quad, left, pads, c :: cs =>
    if c = '=' then
      if 2 ≤ quad then
        if 4 ≤ quad + (pads + 1) then some [] else scan quad left (pads + 1) cs
      else scan quad left pads cs
    else
      match value? c with
      | none => scan quad left pads cs
      | some v =>
        match quad with
        | 0 => scan 1 v 0 cs
        | 1 => (scan 2 (v % 16) 0 cs).map (UInt8.ofNat (left * 4 + v / 16) :: ·)
        | 2 => (scan 3 (v % 4) 0 cs).map (UInt8.ofNat (left * 16 + v / 4) :: ·)
        | _ => (scan 0 0 0 cs).map (UInt8.ofNat (left * 64 + v) :: ·)

/-- `base64.urlsafe_b64decode`, none where it raises. -/
def decode (cs : List Char) : Option (List UInt8) :=
  if cs.all fun c => decide (c.toNat < 128) then scan 0 0 0 cs else none

lemma symbol_spec : ∀ n < 64, value? (symbol n) = some n ∧ symbol n ≠ '=' ∧ (symbol n).toNat < 128 := by
  decide +kernel

lemma value_symbol {n : ℕ} (h : n < 64) : value? (symbol n) = some n := (symbol_spec n h).1

lemma symbol_ne {n : ℕ} (h : n < 64) : symbol n ≠ '=' := (symbol_spec n h).2.1

lemma ofNat_eq {n : ℕ} {a : UInt8} (h : n = a.toNat) : UInt8.ofNat n = a := by
  rw [h, UInt8.ofNat_toNat]

/-- One byte and the next, as the bits of their symbols. -/
lemma byte_lt (a : UInt8) : a.toNat < 256 := a.toNat_lt

lemma mem_symbols (bytes : List UInt8) : ∀ c ∈ symbols bytes, c ≠ '=' ∧ c.toNat < 128 := by
  have hsymbol : ∀ {n : ℕ}, n < 64 → symbol n ≠ '=' ∧ (symbol n).toNat < 128 :=
    fun h => (symbol_spec _ h).2
  fun_induction symbols bytes with
  | case1 a b c rest ih =>
    have ha := byte_lt a
    have hb := byte_lt b
    have hc := byte_lt c
    simp only [List.forall_mem_cons]
    exact ⟨hsymbol (by omega), hsymbol (by omega), hsymbol (by omega), hsymbol (by omega), ih⟩
  | case2 a b =>
    have ha := byte_lt a
    have hb := byte_lt b
    simp only [List.forall_mem_cons]
    exact ⟨hsymbol (by omega), hsymbol (by omega), hsymbol (by omega), nofun⟩
  | case3 a =>
    have ha := byte_lt a
    simp only [List.forall_mem_cons]
    exact ⟨hsymbol (by omega), hsymbol (by omega), nofun⟩
  | case4 => exact nofun

lemma scan_encode (bytes : List UInt8) : scan 0 0 0 (encode bytes) = some bytes := by
  rw [encode]
  fun_induction symbols bytes with
  | case1 a b c rest ih =>
    have ha := byte_lt a
    have hb := byte_lt b
    have hc := byte_lt c
    have hpad : padding (symbol (a.toNat / 4) :: symbol (a.toNat % 4 * 16 + b.toNat / 16) ::
        symbol (b.toNat % 16 * 4 + c.toNat / 64) :: symbol (c.toNat % 64) :: symbols rest) =
          padding (symbols rest) := by
      simp only [padding, List.length_cons]
      congr 1
      omega
    rw [hpad]
    simp only [List.cons_append, scan, symbol_ne (show a.toNat / 4 < 64 by omega),
      symbol_ne (show a.toNat % 4 * 16 + b.toNat / 16 < 64 by omega),
      symbol_ne (show b.toNat % 16 * 4 + c.toNat / 64 < 64 by omega),
      symbol_ne (show c.toNat % 64 < 64 by omega), if_false,
      value_symbol (show a.toNat / 4 < 64 by omega),
      value_symbol (show a.toNat % 4 * 16 + b.toNat / 16 < 64 by omega),
      value_symbol (show b.toNat % 16 * 4 + c.toNat / 64 < 64 by omega),
      value_symbol (show c.toNat % 64 < 64 by omega), ih, Option.map_some]
    rw [ofNat_eq (a := a) (by omega), ofNat_eq (a := b) (by omega), ofNat_eq (a := c) (by omega)]
  | case2 a b =>
    have ha := byte_lt a
    have hb := byte_lt b
    simp only [padding, List.length_cons, List.length_nil, List.cons_append, List.nil_append,
      List.replicate, scan, symbol_ne (show a.toNat / 4 < 64 by omega),
      symbol_ne (show a.toNat % 4 * 16 + b.toNat / 16 < 64 by omega),
      symbol_ne (show b.toNat % 16 * 4 < 64 by omega), if_false,
      value_symbol (show a.toNat / 4 < 64 by omega),
      value_symbol (show a.toNat % 4 * 16 + b.toNat / 16 < 64 by omega),
      value_symbol (show b.toNat % 16 * 4 < 64 by omega)]
    rw [ofNat_eq (a := a) (by omega), ofNat_eq (a := b) (by omega)]
    rfl
  | case3 a =>
    have ha := byte_lt a
    simp only [padding, List.length_cons, List.length_nil, List.cons_append, List.nil_append,
      List.replicate, scan, symbol_ne (show a.toNat / 4 < 64 by omega),
      symbol_ne (show a.toNat % 4 * 16 < 64 by omega), if_false,
      value_symbol (show a.toNat / 4 < 64 by omega), value_symbol (show a.toNat % 4 * 16 < 64 by omega)]
    rw [ofNat_eq (a := a) (by omega)]
    rfl
  | case4 => rfl

lemma length_symbols_le (bytes : List UInt8) : (symbols bytes).length ≤ 2 * bytes.length := by
  fun_induction symbols bytes with
  | case1 a b c rest ih =>
    simp only [List.length_cons]
    omega
  | case2 a b => exact Nat.le_of_ble_eq_true rfl
  | case3 a => exact Nat.le_refl _
  | case4 => exact Nat.le_refl _

/-- The padding is left out by `rstrip`. -/
lemma rstrip_encode (bytes : List UInt8) :
    (encode bytes).rdropWhile (· == '=') = symbols bytes := by
  have hbody : (symbols bytes).rdropWhile (· == '=') = symbols bytes := by
    rw [List.rdropWhile_eq_self_iff]
    intro hne hlast
    exact (mem_symbols bytes _ (List.getLast_mem hne)).1 (beq_iff_eq.mp hlast)
  rw [encode, padding]
  generalize (4 - (symbols bytes).length % 4) % 4 = n
  induction n with
  | zero => rwa [List.replicate_zero, List.append_nil]
  | succ n ih => rw [List.replicate_succ', ← List.append_assoc, List.rdropWhile_concat_pos _ _ _ rfl, ih]

/-- A text without its padding is read when the padding is added again. -/
theorem decode_symbols (bytes : List UInt8) :
    decode (symbols bytes ++ padding (symbols bytes)) = some bytes := by
  have hascii : (symbols bytes ++ padding (symbols bytes)).all
      (fun c => decide (c.toNat < 128)) = true := by
    rw [List.all_eq_true]
    intro c hc
    rcases List.mem_append.mp hc with hc | hc
    · exact decide_eq_true (mem_symbols bytes c hc).2
    · rw [List.eq_of_mem_replicate hc]
      decide
  rw [decode, if_pos hascii]
  exact scan_encode bytes

lemma length_scan_le (quad left pads : ℕ) (cs : List Char) {bytes : List UInt8}
    (h : scan quad left pads cs = some bytes) : bytes.length ≤ cs.length := by
  have hstep : ∀ {b : UInt8} {rest : Option (List UInt8)} {cs : List Char} {c : Char},
      (∀ {bytes}, rest = some bytes → bytes.length ≤ cs.length) → ∀ {bytes},
        rest.map (b :: ·) = some bytes → bytes.length ≤ (c :: cs).length := by
    intro b rest cs c ih bytes h
    obtain ⟨tail, htail, rfl⟩ := Option.map_eq_some_iff.mp h
    exact Nat.succ_le_succ (ih htail)
  fun_induction scan quad left pads cs generalizing bytes with
  | case1 | case2 | case3 => grind
  | case4 _ _ _ _ _ _ ih | case5 _ _ _ _ _ ih => exact (ih h).trans (Nat.le_succ _)
  | case6 => exact Nat.le_succ_of_le (by grind)
  | case7 => exact Nat.le_succ_of_le (by grind)
  | case8 => exact hstep (by assumption) h
  | case9 => exact hstep (by assumption) h
  | case10 => exact hstep (by assumption) h

/-- No text stands for more bytes than it has characters. -/
theorem length_decode_le {cs : List Char} {bytes : List UInt8} (h : decode cs = some bytes) :
    bytes.length ≤ cs.length := by
  rw [decode] at h
  split_ifs at h
  exact length_scan_le 0 0 0 cs h

/-- Symbols of the same values are read the same. -/
lemma scan_map {f : Char → Char} (hvalue : ∀ c, value? (f c) = value? c) (hpad : ∀ c, f c = '=' ↔ c = '=')
    (quad left pads : ℕ) (cs : List Char) : scan quad left pads (cs.map f) = scan quad left pads cs := by
  induction cs generalizing quad left pads with
  | nil => rfl
  | cons c cs ih =>
    rw [List.map_cons, scan, scan, hvalue]
    by_cases hc : c = '='
    · rw [if_pos hc, if_pos ((hpad c).mpr hc), ih, ih]
    · rw [if_neg hc, if_neg fun h => hc ((hpad c).mp h), ih]
      simp only [ih]

end TrustLens.Base64
