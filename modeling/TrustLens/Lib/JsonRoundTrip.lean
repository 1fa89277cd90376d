import TrustLens.Lib.FloatRepr

/-!
# Reading back what was written

`json.loads` of the text `json.dumps` writes gives the document, its members in the order of
their keys.
-/

namespace TrustLens.Json

open PyFloat (Closes NoDigit Significant Whole noDigit_cons readUnsigned_whole readFraction_none
  readExponent_none)

/-! ### Numbers -/

lemma readUnsigned_none {cs : List Char} (h : NoDigit cs) : readUnsigned cs = none := by
  have hspan : spanDigits ([] ++ cs) = ([], cs) :=
    PyFloat.spanDigits_append (fun c hc => by cases hc) h
  unfold readUnsigned
  split
  rename_i whole rest heq
  have hwhole : whole = [] := by
    split at heq
    · rename_i rest'
      have hzero := h '0' rfl
      exact absurd hzero (by decide)
    · rw [List.nil_append] at hspan
      rw [hspan] at heq
      exact (Prod.mk.inj heq).1.symm
  rw [if_pos hwhole]

lemma exists_digit {cs : List Char} {v : (ℕ ⊕ PyFloat) × List Char} (h : readUnsigned cs = some v) :
    ∃ d rest, cs = d :: rest ∧ d.isDigit = true := by
  cases cs with
  | nil => exact absurd h (by rw [readUnsigned_none (fun c hc => by cases hc)]; exact nofun)
  | cons d rest =>
    refine ⟨d, rest, rfl, ?_⟩
    by_contra hd
    rw [readUnsigned_none (noDigit_cons (by simpa using hd))] at h
    cases h

lemma isDigit_ne {d : Char} (hd : d.isDigit = true) :
    d ≠ 'n' ∧ d ≠ 't' ∧ d ≠ 'f' ∧ d ≠ 'N' ∧ d ≠ 'I' ∧ d ≠ '-' ∧ d ≠ '"' ∧ d ≠ '{' ∧ d ≠ '[' ∧
      d ≠ ']' ∧ isBlank d = false := by
  refine ⟨?_, ?_, ?_, ?_, ?_, ?_, ?_, ?_, ?_, ?_, ?_⟩
  all_goals first
    | (rintro rfl; exact absurd hd (by decide))
    | skip
  by_contra hblank
  simp only [isBlank, Bool.not_eq_false, Bool.or_eq_true, beq_iff_eq] at hblank
  rcases hblank with ((rfl | rfl) | rfl) | rfl <;> exact absurd hd (by decide)

lemma readAtom_of_readUnsigned {cs r : List Char} {v : ℕ ⊕ PyFloat}
    (h : readUnsigned cs = some (v, r)) :
    readAtom cs = some (Sum.elim (fun n : ℕ => int n) float v, r) := by
  obtain ⟨d, rest, rfl, hd⟩ := exists_digit h
  obtain ⟨hn, ht, hf, hN, hI, hminus, -⟩ := isDigit_ne hd
  have hnames : names.find? (fun e => e.1.isPrefixOf (d :: rest)) = none := by
    simp [names, hn.symm, ht.symm, hf.symm, hN.symm, hI.symm, hminus.symm]
  unfold readAtom
  rw [hnames]
  simp only
  split
  · rename_i heq
    exact absurd (List.cons.inj heq).1 hminus
  · rw [h]
    rfl

lemma readAtom_minus {cs r : List Char} {v : ℕ ⊕ PyFloat} (h : readUnsigned cs = some (v, r)) :
    readAtom ('-' :: cs) =
      some (Sum.elim (fun n : ℕ => int (-n)) (float ∘ negate) v, r) := by
  obtain ⟨d, rest, rfl, hd⟩ := exists_digit h
  obtain ⟨-, -, -, -, hI, -⟩ := isDigit_ne hd
  have hnames : names.find? (fun e => e.1.isPrefixOf ('-' :: d :: rest)) = none := by
    simp [names, hI.symm]
  unfold readAtom
  rw [hnames]
  simp only [h]
  rfl

lemma readUnsigned_digits {n : ℕ} (hn : n < 10 ^ PyText.maxDigits) {r : List Char}
    (hdigit : NoDigit r) (hfraction : readFraction r = ([], r))
    (hexponent : readExponent r = (none, r)) :
    readUnsigned (Nat.toDigits 10 n ++ r) = some (.inl n, r) := by
  have hwhole : Whole (Nat.toDigits 10 n) := by
    rcases Nat.eq_zero_or_pos n with rfl | hpos
    · exact .inl rfl
    · exact .inr ⟨PyFloat.isDigit_toDigits n, Nat.toDigits_ne_nil, PyFloat.head_toDigits hpos⟩
  have hlength : (Nat.toDigits 10 n).length ≤ PyText.maxDigits :=
    (Nat.length_toDigits_le_iff (by omega) (by decide)).mpr hn
  rw [readUnsigned_whole hwhole hdigit hfraction hexponent, if_pos ⟨rfl, rfl⟩,
    digitsValue?, if_neg (by omega), PyFloat.digits_toDigits]
  rfl

lemma readUnsigned_toDigits {n : ℕ} (hn : n < 10 ^ PyText.maxDigits) {r : List Char}
    (hr : Closes r) : readUnsigned (Nat.toDigits 10 n ++ r) = some (.inl n, r) := by
  have hfraction : readFraction r = ([], r) := by
    refine readFraction_none fun c hc => ?_
    rcases hr c hc with rfl | rfl | rfl <;> decide
  exact readUnsigned_digits hn hr.noDigit hfraction (readExponent_none hr)

/-- The sign of an integer goes before its digits. -/
lemma readAtom_of_digits {n : ℤ} {r : List Char}
    (h : readUnsigned (Nat.toDigits 10 n.natAbs ++ r) = some (.inl n.natAbs, r)) :
    readAtom ((toString n).toList ++ r) = some (int n, r) := by
  cases n with
  | ofNat n =>
    rw [show (toString (Int.ofNat n)).toList = Nat.toDigits 10 n from Nat.toList_repr]
    exact readAtom_of_readUnsigned h
  | negSucc n =>
    rw [toList_negSucc, Nat.toList_repr]
    exact readAtom_minus h

lemma readAtom_int {n : ℤ} (hn : n.natAbs < 10 ^ PyText.maxDigits) {r : List Char}
    (hr : Closes r) : readAtom ((toString n).toList ++ r) = some (int n, r) :=
  readAtom_of_digits (readUnsigned_toDigits hn hr)

/-- The text of a finite double is read as the double. -/
theorem readAtom_repr {x : PyFloat} (hx : x.IsDouble) (hfin : x.isFinite = true) {r : List Char}
    (hr : Closes r) : readAtom (x.repr.toList ++ r) = some (float x, r) := by
  have hzero : readUnsigned ('0' :: '.' :: (['0'] ++ r)) = some (.inr (.finite 0), r) := by
    have hread := PyFloat.readUnsigned_point (w := ['0']) (f := ['0']) (.inl rfl)
      (PyFloat.isDigit_replicate 1) (List.cons_ne_nil _ _) hr
    have hvalue : PyFloat.digits (['0'] ++ ['0']) = 0 := PyFloat.digits_zeros 2
    rw [hvalue, Nat.cast_zero, zero_mul] at hread
    exact hread
  cases x with
  | finite q =>
    have hdouble : PyFloat.ofRat |q| = .finite |q| := hx
    by_cases hq : q = 0
    · subst hq
      exact readAtom_of_readUnsigned hzero
    by_cases hneg : q < 0
    · rw [abs_of_neg hneg] at hdouble
      have hread := readAtom_minus (PyFloat.readUnsigned_positiveText hdouble (by linarith) hr)
      have hsign : negate (.finite (-q)) = .finite q := by
        rw [negate, if_neg (neg_ne_zero.mpr hq), neg_neg]
      rw [PyFloat.repr, if_neg hq, if_pos hneg, String.toList_ofList, List.cons_append, hread,
        Sum.elim_inr, Function.comp_apply, hsign]
    · have hpos : 0 < q := lt_of_le_of_ne (not_lt.mp hneg) (Ne.symm hq)
      rw [abs_of_pos hpos] at hdouble
      rw [PyFloat.repr, if_neg hq, if_neg hneg, String.toList_ofList]
      exact readAtom_of_readUnsigned (PyFloat.readUnsigned_positiveText hdouble hpos hr)
  | negZero =>
    have hread := readAtom_minus hzero
    rw [Sum.elim_inr, Function.comp_apply, negate, if_pos rfl] at hread
    exact hread
  | inf | negInf | nan => cases hfin

/-! ### Strings -/

lemma hexDigit?_digitChar : ∀ d < 16, hexDigit? (Nat.digitChar d) = some d := by decide

lemma exists_digitChar {n : ℕ} {c : Char} (h : c ∈ Nat.toDigits 16 n) :
    ∃ d < 16, c = Nat.digitChar d := by
  induction n using Nat.strong_induction_on with
  | _ n ih =>
    rw [Nat.toDigits_eq_if (by omega)] at h
    split_ifs at h with hn
    · exact ⟨n, hn, List.mem_singleton.mp h⟩
    · rcases List.mem_append.mp h with h | h
      · exact ih (n / 16) (by omega) h
      · exact ⟨n % 16, Nat.mod_lt _ (by omega), List.mem_singleton.mp h⟩

/-- Four hexadecimal digits are read as the number they were written for. -/
lemma exists_hex4 {n : ℕ} (hn : n < 65536) :
    ∃ a b c d, hex4 n = [a, b, c, d] ∧ hexFour? a b c d = some n := by
  have hvalue := hexValue_hex4 n
  have hdigit : ∀ c ∈ hex4 n, hexDigit? c = some (hexDigit c) := by
    have hboth : ∀ d < 16, hexDigit? (Nat.digitChar d) = some (hexDigit (Nat.digitChar d)) := by
      decide
    intro c hc
    rcases List.mem_append.mp hc with hc | hc
    · rw [List.eq_of_mem_replicate hc]
      exact hboth 0 (by omega)
    · obtain ⟨d, hd, rfl⟩ := exists_digitChar hc
      exact hboth d hd
  obtain ⟨a, b, c, d, habcd⟩ := List.length_eq_four.mp (length_hex4 hn)
  rw [habcd] at hvalue hdigit
  refine ⟨a, b, c, d, habcd, ?_⟩
  simp only [List.forall_mem_cons] at hdigit
  obtain ⟨ha, hb, hc, hd, -⟩ := hdigit
  have hsum : ((hexDigit a * 16 + hexDigit b) * 16 + hexDigit c) * 16 + hexDigit d = n := by
    simp only [hexValue, List.foldl_cons, List.foldl_nil] at hvalue
    omega
  rw [hexFour?, ha, hb, hc, hd, ← hsum]
  rfl

lemma readString_short {e c : Char} (he : e ≠ 'u') (hc : shortEscape? e = some c)
    (rest : List Char) :
    readString ('\\' :: e :: rest) = (readString rest).map (Prod.map (c :: ·) id) := by
  rw [readString.eq_def]
  simp only [show ('\\' : Char) ≠ '"' by decide, if_false, if_true]
  split
  · rename_i heq
    exact absurd (List.cons.inj heq).1 he
  · rename_i heq
    obtain ⟨rfl, rfl⟩ := List.cons.inj heq
    rw [hc]
  · rename_i heq
    cases heq

lemma readString_basic {n : ℕ} (hn : n < 0xD800 ∨ 0xE000 ≤ n ∧ n < 0x10000) (rest : List Char) :
    readString ('\\' :: 'u' :: (hex4 n ++ rest)) =
      (readString rest).map (Prod.map (Char.ofNat n :: ·) id) := by
  obtain ⟨a, b, c, d, habcd, hread⟩ := exists_hex4 (n := n) (by omega)
  have hhigh : isHighSurrogate n = false := by
    simp only [isHighSurrogate, Bool.and_eq_false_iff, decide_eq_false_iff_not]
    omega
  have hlow : isLowSurrogate n = false := by
    simp only [isLowSurrogate, Bool.and_eq_false_iff, decide_eq_false_iff_not]
    omega
  have hunit : unitChar n = Char.ofNat n := by
    rw [unitChar, hhigh, hlow]
    rfl
  rw [habcd, List.cons_append, List.cons_append, List.cons_append, List.cons_append,
    List.nil_append, readString.eq_def]
  simp only [show ('\\' : Char) ≠ '"' by decide, if_false, if_true, hread, hhigh, hunit,
    Bool.false_eq_true]
  split <;> rfl

lemma readString_pair {n m : ℕ} (hn : n < 1024) (hm : m < 1024) (rest : List Char) :
    readString ('\\' :: 'u' :: hex4 (0xD800 + n) ++ '\\' :: 'u' :: hex4 (0xDC00 + m) ++ rest) =
      (readString rest).map (Prod.map (Char.ofNat (0x10000 + n * 1024 + m) :: ·) id) := by
  obtain ⟨a, b, c, d, habcd, hread⟩ := exists_hex4 (n := 0xD800 + n) (by omega)
  obtain ⟨a', b', c', d', habcd', hread'⟩ := exists_hex4 (n := 0xDC00 + m) (by omega)
  have hhigh : isHighSurrogate (0xD800 + n) = true := by
    simp only [isHighSurrogate, Bool.and_eq_true, decide_eq_true_eq]
    omega
  have hlow : isLowSurrogate (0xDC00 + m) = true := by
    simp only [isLowSurrogate, Bool.and_eq_true, decide_eq_true_eq]
    omega
  have hjoin : joinSurrogates (0xD800 + n) (0xDC00 + m) = Char.ofNat (0x10000 + n * 1024 + m) := by
    rw [joinSurrogates, Nat.add_sub_cancel_left, Nat.add_sub_cancel_left]
  rw [habcd, habcd']
  simp only [List.cons_append, List.nil_append]
  rw [readString.eq_def]
  simp only [show ('\\' : Char) ≠ '"' by decide, if_false, if_true, hread, hread', hhigh, hlow,
    hjoin]

lemma readString_self {c : Char} (hq : c ≠ '"') (hs : c ≠ '\\') (hlow : ¬c.toNat < 32)
    (rest : List Char) : readString (c :: rest) = (readString rest).map (Prod.map (c :: ·) id) := by
  rw [readString.eq_def]
  simp only [if_neg hq, if_neg hs, if_neg hlow]

/-- An escaped character is read as the character. -/
lemma readString_escapeChar (c : Char) (rest : List Char) :
    readString (escapeChar c ++ rest) = (readString rest).map (Prod.map (c :: ·) id) := by
  have hof : Char.ofNat c.toNat = c := Char.ofNat_toNat c
  have hvalid : c.toNat < 0xD800 ∨ 0xDFFF < c.toNat ∧ c.toNat < 0x110000 := c.valid
  unfold escapeChar
  split_ifs with hq hs hn hr ht hb hf hplain hbasic
  · subst hq; exact readString_short (by decide) rfl rest
  · subst hs; exact readString_short (by decide) rfl rest
  · subst hn; exact readString_short (by decide) rfl rest
  · subst hr; exact readString_short (by decide) rfl rest
  · subst ht; exact readString_short (by decide) rfl rest
  · rw [← hof, hb]; exact readString_short (by decide) rfl rest
  · rw [← hof, hf]; exact readString_short (by decide) rfl rest
  · exact readString_self hq hs (by omega) rest
  · rw [List.cons_append, List.cons_append, readString_basic (by omega), hof]
  · have hpair := readString_pair (n := (c.toNat - 0x10000) / 1024)
      (m := (c.toNat - 0x10000) % 1024) (by omega) (by omega) rest
    have hsum : 0x10000 + (c.toNat - 0x10000) / 1024 * 1024 + (c.toNat - 0x10000) % 1024 =
        c.toNat := by omega
    rw [hsum, hof] at hpair
    exact hpair

/-- A string literal is read as the string. -/
theorem readString_escaped (cs rest : List Char) :
    readString (cs.flatMap escapeChar ++ '"' :: rest) = some (cs, rest) := by
  induction cs with
  | nil =>
    rw [List.flatMap_nil, List.nil_append, readString.eq_def]
    exact if_pos rfl
  | cons c cs ih =>
    rw [List.flatMap_cons, List.append_assoc, readString_escapeChar, ih]
    rfl

/-! ### Documents -/

/-- The documents a text can hold: numbers are finite doubles or integers of a length the
interpreter reads, and no object has two members under one key. -/
inductive Loadable : Json → Prop
  | null : Loadable null
  | bool (b : Bool) : Loadable (bool b)
  | int (n : ℤ) (h : n.natAbs < 10 ^ PyText.maxDigits) : Loadable (int n)
  | float (x : PyFloat) (h : x.IsDouble) (hfin : x.isFinite = true) : Loadable (float x)
  | str (s : String) : Loadable (str s)
  | arr (js : List Json) (h : ∀ j ∈ js, Loadable j) : Loadable (arr js)
  | obj (es : List (String × Json)) (hnd : (es.map Prod.fst).Nodup) (h : ∀ e ∈ es, Loadable e.2) :
    Loadable (obj es)

lemma skipBlanks_cons {c : Char} (h : isBlank c = false) (cs : List Char) :
    skipBlanks (c :: cs) = c :: cs := by
  rw [skipBlanks, List.dropWhile_cons_of_neg (by simp [h])]

/-- What a number begins with. -/
def Leads (c : Char) : Prop := c.isDigit = true ∨ c = '-'

lemma intText_head {n : ℤ} (hn : n.natAbs < 10 ^ PyText.maxDigits) :
    ∃ c rest, (toString n).toList = c :: rest ∧ Leads c := by
  cases n with
  | ofNat n =>
    have hread := readUnsigned_toDigits hn (r := []) fun c hc => by cases hc
    rw [List.append_nil] at hread
    obtain ⟨d, rest, htext, hd⟩ := exists_digit hread
    exact ⟨d, rest, Nat.toList_repr.trans htext, .inl hd⟩
  | negSucc n => exact ⟨'-', _, toList_negSucc n, .inr rfl⟩

lemma floatText_head {x : PyFloat} (hx : x.IsDouble) (hfin : x.isFinite = true) :
    ∃ c rest, x.repr.toList = c :: rest ∧ Leads c := by
  cases x with
  | finite q =>
    have hdouble : PyFloat.ofRat |q| = .finite |q| := hx
    rw [PyFloat.repr]
    split_ifs with hzero hneg
    · exact ⟨'0', ['.', '0'], rfl, .inl rfl⟩
    · exact ⟨'-', _, String.toList_ofList, .inr rfl⟩
    · have hpos : 0 < q := lt_of_le_of_ne (not_lt.mp hneg) (Ne.symm hzero)
      rw [abs_of_pos hpos] at hdouble
      have hread := PyFloat.readUnsigned_positiveText hdouble hpos (r := []) fun c hc => by cases hc
      rw [List.append_nil] at hread
      obtain ⟨d, rest, htext, hd⟩ := exists_digit hread
      exact ⟨d, rest, String.toList_ofList.trans htext, .inl hd⟩
  | negZero => exact ⟨'-', ['0', '.', '0'], rfl, .inr rfl⟩
  | inf | negInf | nan => cases hfin

/-- A value that begins as a number does is read as an atom. -/
lemma readValue_number {c : Char} (hc : Leads c) (fuel : ℕ) (rest : List Char) :
    readValue (fuel + 1) (c :: rest) = readAtom (c :: rest) := by
  have hne : c ≠ '"' ∧ c ≠ '{' ∧ c ≠ '[' := by
    rcases hc with hc | rfl
    · obtain ⟨-, -, -, -, -, -, hquote, hbrace, hbracket, -⟩ := isDigit_ne hc
      exact ⟨hquote, hbrace, hbracket⟩
    · decide
  rw [readValue.eq_def]
  simp only
  split
  · rename_i heq
    exact absurd (List.cons.inj heq).1 hne.1
  · rename_i heq
    exact absurd (List.cons.inj heq).1 hne.2.1
  · rename_i heq
    exact absurd (List.cons.inj heq).1 hne.2.2
  · rfl

/-- No document begins with a blank or a closing bracket. -/
lemma exists_head {j : Json} (h : Loadable j) : ∃ c rest, text PyFloat.repr j = c :: rest ∧
    isBlank c = false ∧ c ≠ ']' := by
  have hnumber : ∀ {cs : List Char}, (∃ c rest, cs = c :: rest ∧ Leads c) →
      ∃ c rest, cs = c :: rest ∧ isBlank c = false ∧ c ≠ ']' := by
    rintro cs ⟨c, rest, rfl, hc | rfl⟩
    · obtain ⟨-, -, -, -, -, -, -, -, -, hbracket, hblank⟩ := isDigit_ne hc
      exact ⟨c, rest, rfl, hblank, hbracket⟩
    · exact ⟨'-', rest, rfl, rfl, by decide⟩
  cases h with
  | null => exact ⟨'n', "ull".toList, rfl, rfl, by decide⟩
  | bool b =>
    cases b with
    | true => exact ⟨'t', "rue".toList, rfl, rfl, by decide⟩
    | false => exact ⟨'f', "alse".toList, rfl, rfl, by decide⟩
  | int n hn => exact hnumber (intText_head hn)
  | float x hx hfin => exact hnumber (floatText_head hx hfin)
  | str s => exact ⟨'"', _, toList_quoted s, rfl, by decide⟩
  | arr js => exact ⟨'[', _, rfl, rfl, by decide⟩
  | obj es => exact ⟨'{', _, rfl, rfl, by decide⟩

lemma skipBlanks_text {j : Json} (h : Loadable j) (cs : List Char) :
    skipBlanks (text PyFloat.repr j ++ cs) = text PyFloat.repr j ++ cs := by
  obtain ⟨c, rest, htext, hblank, -⟩ := exists_head h
  rw [htext, List.cons_append, skipBlanks_cons hblank]

/-- What a document's text is read as, whatever closes it. -/
def Reads (j : Json) : Prop := ∀ (fuel : ℕ) (r : List Char), Closes r →
  (text PyFloat.repr j).length ≤ fuel → readValue fuel (text PyFloat.repr j ++ r) = some (j, r)

lemma closes_cons {c : Char} (hc : c = ',' ∨ c = ']' ∨ c = '}') (r : List Char) :
    Closes (c :: r) := by
  intro d hd
  rw [List.head?_cons, Option.mem_some_iff] at hd
  exact hd ▸ hc

/-- The elements of an array, each behind its comma, and the bracket. -/
lemma readItems_text {j : Json} {js : List Json} (hj : Loadable j) (hjs : ∀ i ∈ js, Loadable i)
    (ih : ∀ i ∈ j :: js, Reads i) {fuel : ℕ} {r : List Char}
    (hfuel : (text PyFloat.repr j ++ js.flatMap fun i => ',' :: text PyFloat.repr i).length <
      fuel) :
    readItems fuel (text PyFloat.repr j ++ ((js.flatMap fun i => ',' :: text PyFloat.repr i) ++
      ']' :: r)) = some (j :: js, r) := by
  induction js generalizing j fuel with
  | nil =>
    rw [List.flatMap_nil, List.append_nil] at hfuel
    obtain ⟨fuel, rfl⟩ : ∃ f, fuel = f + 1 := ⟨fuel - 1, by omega⟩
    have hread := ih j List.mem_cons_self fuel (']' :: r) (closes_cons (by simp) r) (by omega)
    rw [List.flatMap_nil, List.nil_append, readItems, hread]
    rfl
  | cons i js ihs =>
    rw [List.flatMap_cons, List.length_append, List.cons_append, List.length_cons] at hfuel
    obtain ⟨fuel, rfl⟩ : ∃ f, fuel = f + 1 := ⟨fuel - 1, by omega⟩
    have hi := hjs i List.mem_cons_self
    have hnext : readItems fuel (text PyFloat.repr i ++
        ((js.flatMap fun i => ',' :: text PyFloat.repr i) ++ ']' :: r)) = some (i :: js, r) :=
      ihs hi (fun k hk => hjs k (List.mem_cons_of_mem _ hk))
        (fun k hk => ih k (List.mem_cons_of_mem _ hk)) (by omega)
    have hread := ih j List.mem_cons_self fuel (',' :: (text PyFloat.repr i ++
      ((js.flatMap fun i => ',' :: text PyFloat.repr i) ++ ']' :: r))) (closes_cons (by simp) _)
      (by omega)
    rw [List.flatMap_cons, List.append_assoc, List.cons_append, readItems, hread]
    simp only [skipBlanks_cons (c := ',') rfl, skipBlanks_text hi, hnext]
    rfl

lemma upsert_of_notMem {entries : List (String × Json)} {key : String} (j : Json)
    (h : key ∉ entries.map Prod.fst) : upsert key j entries = entries ++ [(key, j)] := by
  induction entries with
  | nil => rfl
  | cons e entries ih =>
    rw [List.map_cons, List.mem_cons, not_or] at h
    rw [upsert, if_neg (Ne.symm h.1), ih h.2, List.cons_append]

/-- The members of an object, each behind its comma, and the bracket; `entries` were read before. -/
lemma readMembers_text {e : String × Json} {es entries : List (String × Json)}
    (hes : ∀ i ∈ e :: es, Loadable i.2) (ih : ∀ i ∈ e :: es, Reads i.2)
    (hnd : ((entries ++ e :: es).map Prod.fst).Nodup) {fuel : ℕ} {r : List Char}
    (hfuel : (memberText PyFloat.repr e ++
      es.flatMap fun i => ',' :: memberText PyFloat.repr i).length < fuel) :
    readMembers fuel entries (memberText PyFloat.repr e ++
      ((es.flatMap fun i => ',' :: memberText PyFloat.repr i) ++ '}' :: r)) =
        some (entries ++ e :: es, r) := by
  have hkey : ∀ (e : String × Json) (cs : List Char), memberText PyFloat.repr e ++ cs =
      '"' :: (e.1.toList.flatMap escapeChar ++ '"' :: ':' :: (text PyFloat.repr e.2 ++ cs)) := by
    intro e cs
    simp only [memberText, toList_quoted, List.cons_append, List.append_assoc, List.nil_append]
  have hlength : ∀ e : String × Json,
      (text PyFloat.repr e.2).length + 3 ≤ (memberText PyFloat.repr e).length := by
    intro e
    simp only [memberText, toList_quoted, List.length_append, List.length_cons]
    omega
  induction es generalizing e entries fuel with
  | nil =>
    have hlong := hlength e
    rw [List.flatMap_nil, List.append_nil] at hfuel
    obtain ⟨fuel, rfl⟩ : ∃ f, fuel = f + 1 := ⟨fuel - 1, by omega⟩
    have hread := ih e List.mem_cons_self fuel ('}' :: r) (closes_cons (by simp) r) (by omega)
    have hnew : e.1 ∉ entries.map Prod.fst := by
      rw [List.map_append, List.map_cons] at hnd
      exact fun h => (List.nodup_append.mp hnd).2.2 _ h _ List.mem_cons_self rfl
    rw [List.flatMap_nil, List.nil_append, hkey, readMembers]
    simp only [readString_escaped, skipBlanks_cons (c := ':') rfl, skipBlanks_cons (c := '}') rfl,
      skipBlanks_text (hes e List.mem_cons_self), hread, String.ofList_toList, upsert_of_notMem _ hnew]
  | cons i es ihs =>
    have hlong := hlength e
    rw [List.flatMap_cons, List.length_append, List.cons_append, List.length_cons] at hfuel
    obtain ⟨fuel, rfl⟩ : ∃ f, fuel = f + 1 := ⟨fuel - 1, by omega⟩
    have hassoc : entries ++ e :: i :: es = (entries ++ [e]) ++ i :: es := by
      rw [List.append_assoc, List.singleton_append]
    have hnext : readMembers fuel (entries ++ [e]) (memberText PyFloat.repr i ++
        ((es.flatMap fun i => ',' :: memberText PyFloat.repr i) ++ '}' :: r)) =
          some (entries ++ e :: i :: es, r) := by
      rw [hassoc]
      exact ihs (fun k hk => hes k (List.mem_cons_of_mem _ hk))
        (fun k hk => ih k (List.mem_cons_of_mem _ hk)) (hassoc ▸ hnd) (by omega)
    have hread := ih e List.mem_cons_self fuel (',' :: (memberText PyFloat.repr i ++
      ((es.flatMap fun i => ',' :: memberText PyFloat.repr i) ++ '}' :: r)))
      (closes_cons (by simp) _) (by omega)
    have hnew : e.1 ∉ entries.map Prod.fst := by
      rw [List.map_append, List.map_cons] at hnd
      exact fun h => (List.nodup_append.mp hnd).2.2 _ h _ List.mem_cons_self rfl
    rw [hkey i] at hread hnext
    rw [List.flatMap_cons, List.append_assoc, List.cons_append, hkey e, hkey i, readMembers]
    simp only [readString_escaped, skipBlanks_cons (c := ':') rfl, skipBlanks_cons (c := ',') rfl,
      skipBlanks_cons (c := '"') rfl, skipBlanks_text (hes e List.mem_cons_self), hread,
      String.ofList_toList, upsert_of_notMem _ hnew, hnext]

/-- A document is read from its text, whatever closes it. -/
theorem reads_of_loadable (j : Json) (h : Loadable j) : Reads j := by
  induction j using memberInduction with
  | null =>
    intro fuel r _ hfuel
    obtain ⟨fuel, rfl⟩ : ∃ f, fuel = f + 1 := Nat.exists_eq_succ_of_ne_zero (by
      rintro rfl
      exact absurd hfuel (by decide))
    rfl
  | bool b =>
    intro fuel r _ hfuel
    obtain ⟨fuel, rfl⟩ : ∃ f, fuel = f + 1 := Nat.exists_eq_succ_of_ne_zero (by
      rintro rfl
      revert hfuel
      cases b <;> decide)
    cases b <;> rfl
  | int n =>
    intro fuel r hr hfuel
    cases h with
    | int _ hn =>
      obtain ⟨c, rest, htext, hc⟩ := intText_head hn
      have hread := readAtom_int hn hr
      rw [text, htext, List.length_cons] at hfuel
      obtain ⟨fuel, rfl⟩ : ∃ f, fuel = f + 1 := ⟨fuel - 1, by omega⟩
      rw [htext] at hread
      rw [text, htext, List.cons_append, readValue_number hc]
      exact hread
  | float x =>
    intro fuel r hr hfuel
    cases h with
    | float _ hx hfin =>
      obtain ⟨c, rest, htext, hc⟩ := floatText_head hx hfin
      have hread := readAtom_repr hx hfin hr
      rw [text, htext, List.length_cons] at hfuel
      obtain ⟨fuel, rfl⟩ : ∃ f, fuel = f + 1 := ⟨fuel - 1, by omega⟩
      rw [htext] at hread
      rw [text, htext, List.cons_append, readValue_number hc]
      exact hread
  | str s =>
    intro fuel r _ hfuel
    rw [text, toList_quoted, List.length_cons] at hfuel
    obtain ⟨fuel, rfl⟩ : ∃ f, fuel = f + 1 := ⟨fuel - 1, by omega⟩
    rw [text, toList_quoted, List.cons_append, List.append_assoc, List.singleton_append, readValue,
      readString_escaped]
    simp only [Option.map_some, Prod.map_apply, Function.comp_apply, String.ofList_toList, id_eq]
  | arr js ih =>
    intro fuel r hr hfuel
    cases h with
    | arr _ hjs =>
      rw [text, itemTexts_eq_map, List.length_cons, List.length_append] at hfuel
      obtain ⟨fuel, rfl⟩ : ∃ f, fuel = f + 1 := ⟨fuel - 1, by omega⟩
      rw [text, itemTexts_eq_map, List.cons_append, List.append_assoc, readValue]
      cases js with
      | nil => rfl
      | cons j js =>
        rw [List.map_cons, intercalate_cons_eq, List.flatMap_map] at hfuel ⊢
        have hj := hjs j List.mem_cons_self
        obtain ⟨c, rest, htext, -, hbracket⟩ := exists_head hj
        have hread : readItems fuel (text PyFloat.repr j ++
            ((js.flatMap fun i => ',' :: text PyFloat.repr i) ++ ']' :: r)) = some (j :: js, r) :=
          readItems_text hj (fun i hi => hjs i (List.mem_cons_of_mem _ hi))
            (fun i hi => ih i hi (hjs i hi)) (by
              rw [List.length_singleton] at hfuel
              omega)
        rw [List.append_assoc, List.singleton_append, skipBlanks_text hj]
        rw [htext, List.cons_append] at hread ⊢
        split
        · rename_i heq
          exact absurd (List.cons.inj heq).1 hbracket
        · rw [hread]
          rfl
  | obj es ih =>
    intro fuel r hr hfuel
    cases h with
    | obj _ hnd hes =>
      rw [text, memberTexts_eq_map, List.length_cons, List.length_append] at hfuel
      obtain ⟨fuel, rfl⟩ : ∃ f, fuel = f + 1 := ⟨fuel - 1, by omega⟩
      rw [text, memberTexts_eq_map, List.cons_append, List.append_assoc, readValue]
      cases es with
      | nil => rfl
      | cons e es =>
        rw [List.map_cons, intercalate_cons_eq, List.flatMap_map] at hfuel ⊢
        have hread : readMembers fuel [] (memberText PyFloat.repr e ++
            ((es.flatMap fun i => ',' :: memberText PyFloat.repr i) ++ '}' :: r)) =
              some (e :: es, r) :=
          readMembers_text hes (fun i hi => ih i hi (hes i hi)) hnd (by
            rw [List.length_singleton] at hfuel
            omega)
        have hquote : ∀ cs, ∃ rest, memberText PyFloat.repr e ++ cs = '"' :: rest := by
          intro cs
          rw [memberText, toList_quoted]
          exact ⟨_, rfl⟩
        rw [List.append_assoc, List.singleton_append]
        obtain ⟨rest, hrest⟩ := hquote
          ((es.flatMap fun i => ',' :: memberText PyFloat.repr i) ++ '}' :: r)
        rw [hrest] at hread ⊢
        rw [skipBlanks_cons rfl]
        split
        · rename_i heq
          exact absurd (List.cons.inj heq).1 (by decide)
        · rw [hread]
          rfl

lemma Loadable.sortKeys {j : Json} (h : Loadable j) : Loadable (sortKeys j) := by
  induction j using memberInduction with
  | null | bool | int | float | str => exact h
  | arr js ih =>
    cases h with
    | arr _ hjs =>
      rw [Json.sortKeys, sortItems_eq_map]
      exact .arr _ (List.forall_mem_map.mpr fun j hj => ih j hj (hjs j hj))
  | obj es ih =>
    cases h with
    | obj _ hnd hes =>
      have hperm := List.perm_insertionSort (fun a b : String × Json => a.1 ≤ b.1) (sortMembers es)
      have hkeys : (sortMembers es).map Prod.fst = es.map Prod.fst := by
        rw [sortMembers_eq_map, List.map_map]
        rfl
      rw [Json.sortKeys]
      refine .obj _ ((hperm.map Prod.fst).nodup_iff.mpr (hkeys ▸ hnd)) fun e he => ?_
      rw [List.mem_insertionSort, sortMembers_eq_map, List.mem_map] at he
      obtain ⟨e, he, rfl⟩ := he
      exact ih e he (hes e he)

/-- Sorted members stay as they are. -/
lemma sortKeys_sortKeys (j : Json) : sortKeys (sortKeys j) = sortKeys j := by
  induction j using memberInduction with
  | null | bool | int | float | str => rfl
  | arr js ih =>
    rw [sortKeys, sortKeys, sortItems_eq_map, sortItems_eq_map, List.map_map]
    exact congrArg arr (List.map_congr_left ih)
  | obj es ih =>
    set sorted := (sortMembers es).insertionSort fun a b => a.1 ≤ b.1 with hsorted
    have hmembers : sortMembers sorted = sorted := by
      rw [sortMembers_eq_map]
      refine (List.map_congr_left fun e he => ?_).trans (List.map_id sorted)
      rw [hsorted, List.mem_insertionSort, sortMembers_eq_map, List.mem_map] at he
      obtain ⟨e, he, rfl⟩ := he
      exact Prod.ext rfl (ih e he)
    have hpairwise : sorted.Pairwise fun a b => a.1 ≤ b.1 := List.pairwise_insertionSort _ _
    rw [sortKeys, ← hsorted, sortKeys, hmembers, hpairwise.insertionSort_eq]

/-- Loading a written document sorts its members. -/
theorem loads_dumps {j : Json} (h : Loadable j) :
    loads (dumps PyFloat.repr j).toList = some (sortKeys j) := by
  have hend : Closes [] := fun c hc => by cases hc
  have hread := reads_of_loadable _ h.sortKeys
    (2 * (text PyFloat.repr (sortKeys j)).length + 2) [] hend (by omega)
  have hskip := skipBlanks_text h.sortKeys []
  rw [List.append_nil] at hread hskip
  rw [toList_dumps, loads, hskip, hread]
  rfl

end TrustLens.Json
