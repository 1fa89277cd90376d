import TrustLens.Lib.JsonLoads
import TrustLens.Lib.JsonReading
import Mathlib.Tactic.FieldSimp
import Mathlib.Tactic.Ring

/-!
# Printing doubles

`float.__repr__`: the shortest decimal that is read back as the double, of two such decimals the
nearer one, written with an exponent where the point would stand too far out.
-/

namespace TrustLens.PyFloat

/-- The values of the type: rounding leaves them as they are. -/
def IsDouble : PyFloat → Prop
  | finite q => ofRat |q| = finite |q|
  | _ => True

instance : DecidablePred IsDouble
  | finite _ => inferInstanceAs (Decidable (_ = _))
  | negZero | inf | negInf | nan => .isTrue trivial

/-- The decimal exponent of a positive rational. -/
def floorLog10 (q : ℚ) : ℤ :=
  let k : ℤ := ((Nat.toDigits 10 q.num.natAbs).length : ℤ) - (Nat.toDigits 10 q.den).length
  if (10 : ℚ) ^ k ≤ q then k else k - 1

/-- The multiples of a power of ten next to a number, the nearer one first. -/
def neighbours (q : ℚ) (p : ℤ) : List ℕ :=
  let scaled := q / (10 : ℚ) ^ p
  let nearest := roundHalfEven scaled
  let other := if nearest = ⌊scaled⌋ then nearest + 1 else nearest - 1
  [nearest.toNat, other.toNat]

/-- The first precision at which a decimal is read back: its digits and its exponent. -/
def shortestFrom (q : ℚ) : ℕ → ℤ → ℕ × ℤ
  | 0, p => (0, p)
  | fuel + 1, p =>
    match (neighbours q p).find? fun n : ℕ => ofRat (n * (10 : ℚ) ^ p) = finite q with
    | some n => (n, p)
    | none => shortestFrom q fuel (p - 1)

/-- Doubles are multiples of `2 ^ -1074`, so no more than 1074 places are needed. -/
def shortest (q : ℚ) : ℕ × ℤ :=
  shortestFrom q ((floorLog10 q + 1074).toNat + 1) (floorLog10 q)

def stripZeros (ds : List Char) : List Char :=
  (ds.reverse.dropWhile (· = '0')).reverse

/-- The exponent of a numeral: a sign and at least two digits. -/
def exponentText (e : ℤ) : List Char :=
  let ds := Nat.toDigits 10 e.natAbs
  'e' :: (if e < 0 then '-' else '+') :: (List.replicate (2 - ds.length) '0' ++ ds)

/-- The numeral `0.ds * 10 ^ point`. -/
def numeralText (ds : List Char) (point : ℤ) : List Char :=
  if -4 < point ∧ point ≤ 16 then
    if point ≤ 0 then '0' :: '.' :: (List.replicate (-point).toNat '0' ++ ds)
    else if ds.length ≤ point then
      ds ++ List.replicate (point - ds.length).toNat '0' ++ ['.', '0']
    else ds.take point.toNat ++ '.' :: ds.drop point.toNat
  else
    let fraction := ds.drop 1
    ds.take 1 ++ (if fraction = [] then [] else '.' :: fraction) ++ exponentText (point - 1)

/-- The text of a positive double. -/
def positiveText (q : ℚ) : List Char :=
  let (n, p) := shortest q
  let ds := Nat.toDigits 10 n
  numeralText (stripZeros ds) (ds.length + p)

/-- `float.__repr__` -/
def repr : PyFloat → String
  | finite q =>
    if q = 0 then "0.0"
    else if q < 0 then String.ofList ('-' :: positiveText (-q))
    else String.ofList (positiveText q)
  | negZero => "-0.0"
  | inf => "inf"
  | negInf => "-inf"
  | nan => "nan"

example : repr (ofNumeral "0.1".toList) = "0.1" ∧ repr (finite 1e22) = "1e+22" ∧
    repr (finite (2 ^ (-44 : ℤ))) = "5.684341886080802e-14" := by decide +kernel

/-! ### Runs of digits -/

lemma digits_append (xs ys : List Char) :
    digits (xs ++ ys) = digits xs * 10 ^ ys.length + digits ys := by
  have hfrom : ∀ (zs : List Char) (n : ℕ),
      zs.foldl (fun n c => 10 * n + (PyText.digitValue? c).getD 0) n =
        n * 10 ^ zs.length + digits zs := by
    intro zs
    induction zs with
    | nil => simp [digits]
    | cons z zs ih =>
      intro n
      have hz : digits (z :: zs) = (PyText.digitValue? z).getD 0 * 10 ^ zs.length + digits zs := by
        rw [digits, List.foldl_cons, ih, Nat.mul_zero, Nat.zero_add]
      rw [List.foldl_cons, ih, hz, List.length_cons, pow_succ]
      ring
  rw [digits, List.foldl_append, hfrom ys]
  rfl

lemma digitValue_digitChar : ∀ d < 10, (PyText.digitValue? (Nat.digitChar d)).getD 0 = d := by
  decide +kernel

lemma digits_toDigits (n : ℕ) : digits (Nat.toDigits 10 n) = n := by
  induction n using Nat.strong_induction_on with
  | _ n ih =>
    rw [Nat.toDigits_eq_if (by omega)]
    split_ifs with h
    · simpa [digits] using digitValue_digitChar n h
    · have hlast := digitValue_digitChar (n % 10) (Nat.mod_lt _ (by omega))
      rw [digits_append, ih (n / 10) (by omega)]
      simp only [digits, List.foldl_cons, List.foldl_nil, hlast, List.length_singleton, pow_one]
      omega

lemma digits_zeros (k : ℕ) : digits (List.replicate k '0') = 0 := by
  have hzero : (PyText.digitValue? '0').getD 0 = 0 := by decide +kernel
  induction k with
  | zero => rfl
  | succ k ih =>
    rw [List.replicate_succ', digits_append, ih, digits, List.foldl_cons, List.foldl_nil, hzero]
    rfl

/-- The digits of a positive number: no zero stands before them. -/
structure Significant (ds : List Char) : Prop where
  digit : ∀ c ∈ ds, c.isDigit = true
  ne_nil : ds ≠ []
  head : ∀ c ∈ ds.head?, c ≠ '0'

lemma head_toDigits {n : ℕ} (hn : 0 < n) : ∀ c ∈ (Nat.toDigits 10 n).head?, c ≠ '0' := by
  have hchar : ∀ d < 10, 0 < d → Nat.digitChar d ≠ '0' := by decide
  induction n using Nat.strong_induction_on with
  | _ n ih =>
    rw [Nat.toDigits_eq_if (by omega)]
    split_ifs with h
    · intro c hc
      obtain rfl : n.digitChar = c := by simpa using hc
      exact hchar n h hn
    · have hne : Nat.toDigits 10 (n / 10) ≠ [] := Nat.toDigits_ne_nil
      rw [List.head?_append_of_ne_nil _ hne]
      exact ih (n / 10) (by omega) (by omega)

lemma stripZeros_append (ds : List Char) :
    stripZeros ds ++ List.replicate (ds.length - (stripZeros ds).length) '0' = ds := by
  have hsplit := congrArg List.reverse (List.takeWhile_append_dropWhile (p := (· = '0')) (l := ds.reverse))
  rw [List.reverse_append, List.reverse_reverse] at hsplit
  have hzeros : (ds.reverse.takeWhile (· = '0')).reverse =
      List.replicate (ds.reverse.takeWhile (· = '0')).length '0' := by
    rw [List.eq_replicate_iff, List.length_reverse]
    refine ⟨rfl, fun c hc => ?_⟩
    simpa using (List.all_eq_true.mp List.all_takeWhile) c (List.mem_reverse.mp hc)
  have hlength := congrArg List.length hsplit
  rw [hzeros, List.length_append, List.length_replicate] at hlength
  have hcount : ds.length - (stripZeros ds).length = (ds.reverse.takeWhile (· = '0')).length := by
    rw [stripZeros]
    omega
  rw [hcount, ← hzeros]
  exact hsplit

lemma digits_stripZeros (ds : List Char) :
    digits ds = digits (stripZeros ds) * 10 ^ (ds.length - (stripZeros ds).length) := by
  have hsplit := congrArg digits (stripZeros_append ds)
  rw [digits_append, digits_zeros, List.length_replicate] at hsplit
  omega

lemma length_stripZeros_le (ds : List Char) : (stripZeros ds).length ≤ ds.length := by
  have hsplit := congrArg List.length (stripZeros_append ds)
  rw [List.length_append] at hsplit
  omega

lemma significant_stripZeros {n : ℕ} (hn : 0 < n) : Significant (stripZeros (Nat.toDigits 10 n)) := by
  have hsplit := stripZeros_append (Nat.toDigits 10 n)
  have hne : stripZeros (Nat.toDigits 10 n) ≠ [] := by
    intro hnil
    have hvalue := digits_stripZeros (Nat.toDigits 10 n)
    rw [digits_toDigits, hnil] at hvalue
    simp [digits] at hvalue
    omega
  refine ⟨fun c hc => ?_, hne, ?_⟩
  · have hmem : c ∈ Nat.toDigits 10 n := by
      rw [← hsplit]
      exact List.mem_append_left _ hc
    exact Nat.isDigit_of_mem_toDigits (by omega) (by omega) hmem
  · have hhead := head_toDigits hn
    rw [← hsplit, List.head?_append_of_ne_nil _ hne] at hhead
    exact hhead

/-! ### Reading a numeral -/

section Reading

open Json

/-- What follows a value in a document: nothing, a comma or a closing bracket. -/
def Closes (r : List Char) : Prop := ∀ c ∈ r.head?, c = ',' ∨ c = ']' ∨ c = '}'

/-- A text that does not go on with a digit. -/
def NoDigit (r : List Char) : Prop := ∀ c ∈ r.head?, c.isDigit = false

lemma Closes.noDigit {r : List Char} (hr : Closes r) : NoDigit r := by
  intro c hc
  rcases hr c hc with rfl | rfl | rfl <;> rfl

lemma noDigit_cons {c : Char} {r : List Char} (h : c.isDigit = false) : NoDigit (c :: r) := by
  intro d hd
  rw [List.head?_cons, Option.mem_some_iff] at hd
  exact hd ▸ h

lemma spanDigits_append {ds r : List Char} (hds : ∀ c ∈ ds, c.isDigit = true) (hr : NoDigit r) :
    spanDigits (ds ++ r) = (ds, r) := by
  have htake : r.takeWhile Char.isDigit = [] ∧ r.dropWhile Char.isDigit = r := by
    cases r with
    | nil => exact ⟨rfl, rfl⟩
    | cons c r =>
      have hc : ¬c.isDigit = true := by simp [hr c rfl]
      exact ⟨List.takeWhile_cons_of_neg hc, List.dropWhile_cons_of_neg hc⟩
  rw [spanDigits, List.span_eq_takeWhile_dropWhile, List.takeWhile_append_of_pos hds,
    List.dropWhile_append_of_pos hds, htake.1, htake.2, List.append_nil]

/-- The whole part of a numeral has no leading zero. -/
def Whole (w : List Char) : Prop := w = ['0'] ∨ Significant w

lemma Whole.ne_nil {w : List Char} (hw : Whole w) : w ≠ [] := by
  rcases hw with rfl | hw
  · exact List.cons_ne_nil _ _
  · exact hw.ne_nil

lemma readUnsigned_whole {w rest after r : List Char} {fraction : List Char} {exponent : Option ℤ}
    (hw : Whole w) (hrest : NoDigit rest) (hfraction : readFraction rest = (fraction, after))
    (hexponent : readExponent after = (exponent, r)) :
    readUnsigned (w ++ rest) =
      if fraction = [] ∧ exponent = none then (digitsValue? w).map fun n => (.inl n, r)
      else some (.inr (ofRat ((digits w + digits fraction / 10 ^ fraction.length) *
        10 ^ exponent.getD 0)), r) := by
  unfold readUnsigned
  split
  rename_i whole rest' heq
  have hsplit : (whole, rest') = (w, rest) := by
    rw [← heq]
    rcases hw with rfl | hw
    · rfl
    · have hspan := spanDigits_append hw.digit hrest
      cases w with
      | nil => exact absurd rfl hw.ne_nil
      | cons c w =>
        rw [List.cons_append] at hspan ⊢
        split
        · rename_i hzero
          exact absurd (List.cons.inj hzero).1 (hw.head c rfl)
        · exact hspan
  obtain ⟨rfl, rfl⟩ := Prod.mk.inj hsplit
  simp only [if_neg hw.ne_nil, hfraction, hexponent]

lemma readFraction_point {ds r : List Char} (hds : ∀ c ∈ ds, c.isDigit = true) (hne : ds ≠ [])
    (hr : NoDigit r) : readFraction ('.' :: (ds ++ r)) = (ds, r) := by
  rw [readFraction, spanDigits_append hds hr]
  exact if_neg hne

lemma readFraction_none {r : List Char} (hr : ∀ c ∈ r.head?, c ≠ '.') :
    readFraction r = ([], r) := by
  unfold readFraction
  split
  · rename_i rest
    exact absurd rfl (hr '.' rfl)
  · rfl

lemma readExponent_none {r : List Char} (hr : Closes r) : readExponent r = (none, r) := by
  cases r with
  | nil => rfl
  | cons c r =>
    have hc : ¬(c = 'e' ∨ c = 'E') := by
      rcases hr c rfl with rfl | rfl | rfl <;> decide
    unfold readExponent
    exact if_neg hc

lemma isDigit_replicate (k : ℕ) : ∀ c ∈ List.replicate k '0', c.isDigit = true := by
  intro c hc
  rw [List.eq_of_mem_replicate hc]
  rfl

lemma isDigit_toDigits (n : ℕ) : ∀ c ∈ Nat.toDigits 10 n, c.isDigit = true := fun _ hc =>
  Nat.isDigit_of_mem_toDigits (by omega) (by omega) hc

lemma readExponent_text (e : ℤ) {r : List Char} (hr : NoDigit r) :
    readExponent (exponentText e ++ r) = (some e, r) := by
  set ds := Nat.toDigits 10 e.natAbs with hds
  set padded := List.replicate (2 - ds.length) '0' ++ ds with hpadded
  have hdigit : ∀ c ∈ padded, c.isDigit = true := by
    intro c hc
    rcases List.mem_append.mp hc with hc | hc
    · exact isDigit_replicate _ c hc
    · exact isDigit_toDigits _ c hc
  have hne : padded ≠ [] := List.append_ne_nil_of_right_ne_nil _ Nat.toDigits_ne_nil
  have hvalue : digits padded = e.natAbs := by
    rw [hpadded, digits_append, digits_zeros, hds, digits_toDigits, Nat.zero_mul, Nat.zero_add]
  have hspan := spanDigits_append hdigit hr
  have htext : exponentText e ++ r = 'e' :: (if e < 0 then '-' else '+') :: (padded ++ r) := rfl
  rw [htext]
  unfold readExponent
  by_cases hneg : e < 0
  · have hsign : (-1 : ℤ) * e.natAbs = e := by omega
    simp only [if_pos hneg, true_or, if_true, hspan, if_neg hne, hvalue, hsign]
  · have hsign : (1 : ℤ) * e.natAbs = e := by omega
    simp only [if_neg hneg, true_or, if_true, hspan, if_neg hne, hvalue, hsign]

/-- Moving the point over the fraction. -/
lemma decimal_value (w f : List Char) (e : ℤ) :
    ((digits w : ℚ) + digits f / 10 ^ f.length) * 10 ^ e = digits (w ++ f) * 10 ^ (e - f.length) := by
  rw [digits_append, zpow_sub₀ (by norm_num), zpow_natCast]
  push_cast
  field_simp

lemma readUnsigned_point {w f r : List Char} (hw : Whole w) (hf : ∀ c ∈ f, c.isDigit = true)
    (hne : f ≠ []) (hr : Closes r) : readUnsigned (w ++ '.' :: (f ++ r)) =
      some (.inr (ofRat (digits (w ++ f) * 10 ^ (-f.length : ℤ))), r) := by
  have hvalue := decimal_value w f 0
  rw [readUnsigned_whole hw (noDigit_cons rfl) (readFraction_point hf hne hr.noDigit)
    (readExponent_none hr), if_neg fun h => hne h.1, Option.getD_none, hvalue, zero_sub]

lemma readUnsigned_exponent {w f r : List Char} (hw : Whole w) (hf : ∀ c ∈ f, c.isDigit = true)
    (e : ℤ) (hr : Closes r) :
    readUnsigned (w ++ ((if f = [] then [] else '.' :: f) ++ (exponentText e ++ r))) =
      some (.inr (ofRat (digits (w ++ f) * 10 ^ (e - f.length))), r) := by
  have hread := readExponent_text e hr.noDigit
  have hvalue := decimal_value w f e
  have hletter : NoDigit (exponentText e ++ r) := noDigit_cons rfl
  have hnone : ∀ f : List Char, ¬(f = [] ∧ some e = none) := fun _ h => by cases h.2
  by_cases hnil : f = []
  · subst hnil
    have hfraction : readFraction (exponentText e ++ r) = ([], exponentText e ++ r) := by
      refine readFraction_none fun c hc => ?_
      obtain rfl : 'e' = c := Option.mem_some_iff.mp hc
      decide
    rw [if_pos rfl, List.nil_append, readUnsigned_whole hw hletter hfraction hread,
      if_neg (hnone []), Option.getD_some, hvalue]
  · rw [if_neg hnil, List.cons_append, readUnsigned_whole hw (noDigit_cons rfl)
      (readFraction_point hf hnil hletter) hread, if_neg (hnone f), Option.getD_some, hvalue]

lemma Significant.append {ds zs : List Char} (h : Significant ds)
    (hzs : ∀ c ∈ zs, c.isDigit = true) : Significant (ds ++ zs) where
  digit c hc := (List.mem_append.mp hc).elim (h.digit c) (hzs c)
  ne_nil := List.append_ne_nil_of_left_ne_nil h.ne_nil _
  head := by
    rw [List.head?_append_of_ne_nil _ h.ne_nil]
    exact h.head

lemma Significant.take {ds : List Char} (h : Significant ds) {k : ℕ} (hk : 0 < k) :
    Significant (ds.take k) where
  digit c hc := h.digit c (List.mem_of_mem_take hc)
  ne_nil := by
    rw [ne_eq, List.take_eq_nil_iff, not_or]
    exact ⟨by omega, h.ne_nil⟩
  head := by
    rw [List.head?_take, if_neg (by omega)]
    exact h.head

/-- A written numeral is read as its digits with its point. -/
theorem readUnsigned_numeralText {ds r : List Char} (hds : Significant ds) (point : ℤ)
    (hr : Closes r) : readUnsigned (numeralText ds point ++ r) =
      some (.inr (ofRat (digits ds * 10 ^ (point - ds.length))), r) := by
  unfold numeralText
  split_ifs with hplain hsmall hlarge
  · -- the point stands before the digits
    set zeros := List.replicate (-point).toNat '0' with hzeros
    have hdigit : ∀ c ∈ zeros ++ ds, c.isDigit = true := fun c hc =>
      (List.mem_append.mp hc).elim (isDigit_replicate _ c) (hds.digit c)
    have hread := readUnsigned_point (w := ['0']) (.inl rfl) hdigit
      (List.append_ne_nil_of_right_ne_nil _ hds.ne_nil) hr
    have hvalue : digits (['0'] ++ (zeros ++ ds)) = digits ds := by
      have hone : digits ['0'] = 0 := digits_zeros 1
      rw [digits_append, digits_append, hzeros, digits_zeros, hone]
      omega
    have hexp : (-((zeros ++ ds).length : ℤ)) = point - ds.length := by
      rw [List.length_append, hzeros, List.length_replicate]
      omega
    rw [hvalue, hexp] at hread
    exact hread
  · -- behind them
    obtain ⟨k, hk⟩ : ∃ k : ℕ, point - ds.length = k := Int.eq_ofNat_of_zero_le (by omega)
    rw [hk, Int.toNat_natCast, zpow_natCast]
    have hread := readUnsigned_point (w := ds ++ List.replicate k '0') (f := ['0'])
      (.inr (hds.append (isDigit_replicate k))) (isDigit_replicate 1) (List.cons_ne_nil _ _) hr
    have hvalue : (digits (ds ++ List.replicate k '0' ++ ['0']) : ℚ) *
        10 ^ (-(['0'].length : ℤ)) = digits ds * 10 ^ k := by
      have hone : digits ['0'] = 0 := digits_zeros 1
      have hten : (10 : ℚ) ^ (-(['0'].length : ℤ)) = 1 / 10 := by norm_num
      rw [digits_append, digits_append, hone, digits_zeros, List.length_replicate, hten,
        List.length_singleton]
      push_cast
      ring
    rw [hvalue] at hread
    simpa only [List.append_assoc, List.cons_append, List.nil_append] using hread
  · -- between them
    have hread := readUnsigned_point (w := ds.take point.toNat) (f := ds.drop point.toNat)
      (.inr (hds.take (by omega))) (fun c hc => hds.digit c (List.mem_of_mem_drop hc))
      (by rw [ne_eq, List.drop_eq_nil_iff]; omega) hr
    have hexp : (-((ds.drop point.toNat).length : ℤ)) = point - ds.length := by
      rw [List.length_drop]
      omega
    rw [List.take_append_drop, hexp] at hread
    simpa only [List.append_assoc, List.cons_append] using hread
  · have hread := readUnsigned_exponent (w := ds.take 1) (f := ds.drop 1)
      (.inr (hds.take Nat.one_pos)) (fun c hc => hds.digit c (List.mem_of_mem_drop hc))
      (point - 1) hr
    have hlength := List.length_pos_iff.mpr hds.ne_nil
    have hexp : point - 1 - ((ds.drop 1).length : ℤ) = point - ds.length := by
      rw [List.length_drop]
      omega
    rw [List.take_append_drop, hexp] at hread
    simpa only [List.append_assoc] using hread

/-! ### Reading the text of a double -/

lemma roundHalfEven_intCast (z : ℤ) : roundHalfEven z = z := by
  have hrest : (z : ℚ) - (⌊(z : ℚ)⌋ : ℤ) < 1 / 2 := by
    rw [Int.floor_intCast, sub_self]
    norm_num
  rw [roundHalfEven, if_pos hrest, Int.floor_intCast]

/-- Every double is a multiple of the least positive one. -/
lemma exists_multiple {q : ℚ} (h : ofRat q = finite q) : ∃ z : ℤ, q = z * 2 ^ (-1074 : ℤ) := by
  by_cases hzero : q = 0
  · exact ⟨0, by rw [hzero, Int.cast_zero, zero_mul]⟩
  · unfold ofRat at h
    rw [if_neg hzero] at h
    dsimp only at h
    set e := max (floorLog2 q - 52) (-1074) with he
    set n := roundHalfEven (q / (2 : ℚ) ^ e)
    have hq : (n : ℚ) * 2 ^ e = q := by
      split_ifs at h
      exact finite.inj h
    obtain ⟨k, hk⟩ : ∃ k : ℕ, e + 1074 = k := Int.eq_ofNat_of_zero_le (by omega)
    have hsplit : (2 : ℚ) ^ e = 2 ^ k * 2 ^ (-1074 : ℤ) := by
      rw [← zpow_natCast, ← hk, ← zpow_add₀ (by norm_num)]
      congr 1
      omega
    refine ⟨n * 2 ^ k, ?_⟩
    rw [← hq, hsplit, Int.cast_mul, Int.cast_pow, Int.cast_ofNat, mul_assoc]

/-- A power of ten that divides a number finds it exactly. -/
lemma neighbours_exact {q : ℚ} {z p : ℤ} (places : ℕ) (hz : q = z * 2 ^ (-places : ℤ)) (hq : 0 < q)
    (hp : p ≤ -places) : ∃ n, n ∈ neighbours q p ∧ (n : ℚ) * 10 ^ p = q := by
  obtain ⟨k, hk⟩ : ∃ k : ℕ, -places - p = k := Int.eq_ofNat_of_zero_le (by omega)
  have hten : (10 : ℚ) ^ p ≠ 0 := zpow_ne_zero _ (by norm_num)
  obtain ⟨m, hscaled⟩ : ∃ m : ℤ, q / (10 : ℚ) ^ p = m := by
    have hp' : p = -places - k := by omega
    have hsplit : (10 : ℚ) ^ places = 2 ^ places * 5 ^ places := by
      rw [← mul_pow]
      norm_num
    refine ⟨z * 5 ^ places * 10 ^ k, ?_⟩
    rw [div_eq_iff hten, hz, hp', zpow_sub₀ (by norm_num), zpow_neg, zpow_neg, zpow_natCast,
      zpow_natCast, zpow_natCast, hsplit]
    push_cast
    field_simp
  have hpos : 0 < m := by
    have hdiv : 0 < q / (10 : ℚ) ^ p := div_pos hq (zpow_pos (by norm_num) p)
    rw [hscaled] at hdiv
    exact_mod_cast hdiv
  refine ⟨m.toNat, ?_, ?_⟩
  · unfold neighbours
    dsimp only
    rw [hscaled, roundHalfEven_intCast]
    exact List.mem_cons_self
  · have hcast : ((m.toNat : ℕ) : ℚ) = m := by
      have hnat : (m.toNat : ℤ) = m := Int.toNat_of_nonneg hpos.le
      exact_mod_cast congrArg (Int.cast (R := ℚ)) hnat
    rw [hcast, ← hscaled, div_mul_cancel₀ _ hten]

lemma ofRat_shortestFrom {q : ℚ} (h : ofRat q = finite q) (hq : 0 < q) {fuel : ℕ} {p : ℤ}
    (hfuel : 0 < fuel) (hp : p + 1074 < fuel) :
    ofRat ((shortestFrom q fuel p).1 * (10 : ℚ) ^ (shortestFrom q fuel p).2) = finite q := by
  induction fuel generalizing p with
  | zero => omega
  | succ fuel ih =>
    rw [shortestFrom]
    split
    · rename_i n hn
      have hfound := List.find?_some hn
      exact of_decide_eq_true hfound
    · rename_i hnone
      have hlow : ¬p ≤ -1074 := by
        intro hlow
        obtain ⟨z, hz⟩ := exists_multiple h
        obtain ⟨n, hn, hvalue⟩ := neighbours_exact 1074 hz hq hlow
        refine List.find?_eq_none.mp hnone n hn (decide_eq_true ?_)
        rw [hvalue, h]
      exact ih (by omega) (by omega)

lemma ofRat_shortest {q : ℚ} (h : ofRat q = finite q) (hq : 0 < q) :
    ofRat ((shortest q).1 * (10 : ℚ) ^ (shortest q).2) = finite q :=
  ofRat_shortestFrom h hq (Nat.succ_pos _) (by omega)

/-- The text of a positive double is read as the double. -/
theorem readUnsigned_positiveText {q : ℚ} (h : ofRat q = finite q) (hq : 0 < q) {r : List Char}
    (hr : Closes r) : readUnsigned (positiveText q ++ r) = some (.inr (finite q), r) := by
  have hvalue := ofRat_shortest h hq
  unfold positiveText
  split
  rename_i n p hshort
  rw [hshort] at hvalue
  have hn : 0 < n := by
    rcases Nat.eq_zero_or_pos n with rfl | hn
    · have hzero : ofRat 0 = finite 0 := if_pos rfl
      simp only [Nat.cast_zero, zero_mul, hzero, finite.injEq] at hvalue
      exact absurd hvalue hq.ne
    · exact hn
  set ds := Nat.toDigits 10 n with hds
  have hdigits : n = digits (stripZeros ds) * 10 ^ (ds.length - (stripZeros ds).length) := by
    rw [← digits_stripZeros, hds, digits_toDigits]
  have hle := length_stripZeros_le ds
  have hscale : (digits (stripZeros ds) : ℚ) *
      10 ^ ((ds.length : ℤ) + p - (stripZeros ds).length) = n * 10 ^ p := by
    have hexp : (ds.length : ℤ) + p - (stripZeros ds).length =
        ((ds.length - (stripZeros ds).length : ℕ) : ℤ) + p := by omega
    rw [hexp, zpow_add₀ (by norm_num), zpow_natCast, ← mul_assoc]
    congr 1
    exact_mod_cast hdigits.symm
  dsimp only
  rw [readUnsigned_numeralText (significant_stripZeros hn) _ hr, hscale, hvalue]

end Reading

end TrustLens.PyFloat
