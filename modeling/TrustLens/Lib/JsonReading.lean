import Mathlib.Data.List.Sort
import TrustLens.Lib.JsonText

/-!
# Reading a JSON text back

The text an encoder writes determines the document up to the order of the members of its
objects. A text is read from the left: each value ends where the encoder ended it, so no
document's text is the beginning of another's.
-/

namespace TrustLens.Json

/-! ### String literals -/

def hexDigit (c : Char) : ℕ := if c.isDigit then c.toNat - 48 else c.toNat - 87

def hexValue (cs : List Char) : ℕ := cs.foldl (fun n c => 16 * n + hexDigit c) 0

lemma hexDigit_digitChar : ∀ d < 16, hexDigit (Nat.digitChar d) = d := by decide

lemma hexValue_append_singleton (cs : List Char) (c : Char) :
    hexValue (cs ++ [c]) = 16 * hexValue cs + hexDigit c := by
  simp [hexValue]

lemma hexValue_toDigits (n : ℕ) : hexValue (Nat.toDigits 16 n) = n := by
  induction n using Nat.strong_induction_on with
  | _ n ih =>
    rw [Nat.toDigits_eq_if (by omega)]
    split
    · rename_i h
      have hd := hexDigit_digitChar n h
      simp [hexValue, hd]
    · have hd := hexDigit_digitChar (n % 16) (Nat.mod_lt _ (by omega))
      rw [hexValue_append_singleton, ih (n / 16) (by omega), hd]
      omega

lemma hexValue_hex4 (n : ℕ) : hexValue (hex4 n) = n := by
  have hzeros : ∀ k, (List.replicate k '0').foldl (fun m c => 16 * m + hexDigit c) 0 = 0 := by
    intro k
    induction k with
    | zero => rfl
    | succ k ih =>
      have h0 : hexDigit '0' = 0 := by decide
      simp [List.replicate_succ, h0, ih]
  have hn := hexValue_toDigits n
  simp only [hex4, hexValue, List.foldl_append, hzeros] at hn ⊢
  exact hn

lemma length_hex4 {n : ℕ} (h : n < 65536) : (hex4 n).length = 4 := by
  have hle := (Nat.length_toDigits_le_iff (b := 16) (n := n) (k := 4) (by omega) (by omega)).mpr
    (by omega)
  simp only [hex4, List.length_append, List.length_replicate]
  omega

/-- The character at the head of a literal's body, and what follows it. -/
def unescape : List Char → Option (Char × List Char)
  | [] => none
  | '"' :: _ => none
  | '\\' :: '"' :: r => some ('"', r)
  | '\\' :: '\\' :: r => some ('\\', r)
  | '\\' :: 'n' :: r => some ('\n', r)
  | '\\' :: 'r' :: r => some ('\r', r)
  | '\\' :: 't' :: r => some ('\t', r)
  | '\\' :: 'b' :: r => some (Char.ofNat 8, r)
  | '\\' :: 'f' :: r => some (Char.ofNat 12, r)
  | '\\' :: 'u' :: r =>
    let n := hexValue (r.take 4)
    if 0xD800 ≤ n ∧ n < 0xE000 then
      let m := hexValue ((r.drop 6).take 4)
      some (Char.ofNat (0x10000 + (n - 0xD800) * 1024 + (m - 0xDC00)), r.drop 10)
    else some (Char.ofNat n, r.drop 4)
  | c :: r => some (c, r)

lemma unescape_plain {c : Char} (hq : c ≠ '"') (hs : c ≠ '\\') (r : List Char) :
    unescape (c :: r) = some (c, r) := by
  rw [unescape.eq_def]
  split <;> simp_all

lemma unescape_basic {n : ℕ} (h : n < 0xD800 ∨ 0xE000 ≤ n ∧ n < 0x10000) (r : List Char) :
    unescape ('\\' :: 'u' :: hex4 n ++ r) = some (Char.ofNat n, r) := by
  have hlen : (hex4 n).length = 4 := length_hex4 (by omega)
  have htake : (hex4 n ++ r).take 4 = hex4 n := List.take_left' hlen
  have hdrop : (hex4 n ++ r).drop 4 = r := List.drop_left' hlen
  simp only [unescape, List.cons_append, htake, hdrop, hexValue_hex4]
  rw [if_neg (by omega)]

lemma unescape_pair {n m : ℕ} (hn : n < 1024) (hm : m < 1024) (r : List Char) :
    unescape ('\\' :: 'u' :: hex4 (0xD800 + n) ++ '\\' :: 'u' :: hex4 (0xDC00 + m) ++ r) =
      some (Char.ofNat (0x10000 + n * 1024 + m), r) := by
  have hhigh : (hex4 (0xD800 + n)).length = 4 := length_hex4 (by omega)
  have hlow : (hex4 (0xDC00 + m)).length = 4 := length_hex4 (by omega)
  simp only [unescape, List.cons_append, List.append_assoc]
  set tail := '\\' :: 'u' :: (hex4 (0xDC00 + m) ++ r) with htail
  have htake : (hex4 (0xD800 + n) ++ tail).take 4 = hex4 (0xD800 + n) := List.take_left' hhigh
  have hsix : (hex4 (0xD800 + n) ++ tail).drop 6 = hex4 (0xDC00 + m) ++ r := by
    rw [show (6 : ℕ) = 4 + 2 from rfl, ← List.drop_drop, List.drop_left' hhigh, htail]
    rfl
  have hten : (hex4 (0xD800 + n) ++ tail).drop 10 = r := by
    rw [show (10 : ℕ) = 6 + 4 from rfl, ← List.drop_drop, hsix, List.drop_left' hlow]
  rw [htake, hsix, hten, List.take_left' hlow, hexValue_hex4, hexValue_hex4, if_pos (by omega)]
  simp only [Nat.add_sub_cancel_left]

lemma unescape_escapeChar (c : Char) (r : List Char) :
    unescape (escapeChar c ++ r) = some (c, r) := by
  have hof : Char.ofNat c.toNat = c := Char.ofNat_toNat c
  have hvalid : c.toNat < 0xD800 ∨ 0xDFFF < c.toNat ∧ c.toNat < 0x110000 := c.valid
  unfold escapeChar
  split_ifs with hq hs hn hr ht hb hf hplain hbasic
  · rw [hq]; rfl
  · rw [hs]; rfl
  · rw [hn]; rfl
  · rw [hr]; rfl
  · rw [ht]; rfl
  · rw [← hof, hb]; rfl
  · rw [← hof, hf]; rfl
  · exact unescape_plain hq hs r
  · rw [unescape_basic (by omega), hof]
  · have hpair := unescape_pair (n := (c.toNat - 0x10000) / 1024)
      (m := (c.toNat - 0x10000) % 1024) (by omega) (by omega) r
    have hsum : 0x10000 + (c.toNat - 0x10000) / 1024 * 1024 + (c.toNat - 0x10000) % 1024 =
        c.toNat := by omega
    rw [hsum, hof] at hpair
    exact hpair

/-- A closed literal's body is read in one way. -/
lemma escaped_inj {xs ys r s : List Char}
    (h : xs.flatMap escapeChar ++ '"' :: r = ys.flatMap escapeChar ++ '"' :: s) :
    xs = ys ∧ r = s := by
  have hend : ∀ r : List Char, unescape ('"' :: r) = none := fun _ => rfl
  induction xs generalizing ys with
  | nil =>
    cases ys with
    | nil => simpa using h
    | cons y ys =>
      have h' := congrArg unescape h
      simp only [List.flatMap_nil, List.nil_append, List.flatMap_cons, List.append_assoc, hend,
        unescape_escapeChar, reduceCtorEq] at h'
  | cons x xs ih =>
    have h' := congrArg unescape h
    cases ys with
    | nil =>
      simp only [List.flatMap_nil, List.nil_append, List.flatMap_cons, List.append_assoc, hend,
        unescape_escapeChar, reduceCtorEq] at h'
    | cons y ys =>
      simp only [List.flatMap_cons, List.append_assoc, unescape_escapeChar, Option.some.injEq,
        Prod.mk.injEq] at h'
      obtain ⟨hxs, hr⟩ := ih h'.2
      exact ⟨by rw [h'.1, hxs], hr⟩

/-! ### Numbers -/

/-- The characters a number is written with. -/
def Numeral (c : Char) : Prop := c.isDigit = true ∨ c ∈ ['-', '+', '.', 'e']

instance : DecidablePred Numeral := fun _ => inferInstanceAs (Decidable (_ ∨ _))

/-- Printing a finite double gives a numeral that no integer has and no other double. -/
structure FaithfulNumbers (number : PyFloat → String) : Prop where
  numeral : ∀ x, x.isFinite = true → ∀ c ∈ (number x).toList, Numeral c
  marked : ∀ x, x.isFinite = true → ∃ c ∈ (number x).toList, c = '.' ∨ c = 'e'
  injective : ∀ x y, x.isFinite = true → y.isFinite = true → number x = number y → x = y

lemma toList_natRepr_inj {m n : ℕ} (h : m.repr.toList = n.repr.toList) : m = n := by
  simp only [Nat.toList_repr] at h
  rw [← Nat.ofDigitChars_ten_toDigits (n := m), h, Nat.ofDigitChars_ten_toDigits]

lemma isDigit_of_mem_natRepr {n : ℕ} {c : Char} (h : c ∈ n.repr.toList) : c.isDigit = true := by
  rw [Nat.toList_repr] at h
  exact Nat.isDigit_of_mem_toDigits (by omega) (by omega) h

lemma toList_negSucc (n : ℕ) : (toString (Int.negSucc n)).toList = '-' :: (n + 1).repr.toList := by
  show ("-" ++ (n + 1).repr).toList = _
  rw [String.toList_append]
  rfl

lemma mem_intText {n : ℤ} {c : Char} (h : c ∈ (toString n).toList) :
    c.isDigit = true ∨ c = '-' := by
  cases n with
  | ofNat n => exact .inl (isDigit_of_mem_natRepr h)
  | negSucc n =>
    rw [toList_negSucc, List.mem_cons] at h
    exact h.symm.imp_left isDigit_of_mem_natRepr

lemma intText_ne_nil (n : ℤ) : (toString n).toList ≠ [] := by
  cases n with
  | ofNat n =>
    show n.repr.toList ≠ []
    rw [Nat.toList_repr]
    exact Nat.toDigits_ne_nil
  | negSucc n =>
    rw [toList_negSucc]
    exact List.cons_ne_nil _ _

lemma intText_inj {m n : ℤ} (h : (toString m).toList = (toString n).toList) : m = n := by
  have hminus : ∀ k : ℕ, '-' ∉ k.repr.toList := fun k hk => by
    have hd := isDigit_of_mem_natRepr hk
    exact absurd hd (by decide)
  cases m with
  | ofNat m =>
    cases n with
    | ofNat n => exact congrArg Int.ofNat (toList_natRepr_inj h)
    | negSucc n =>
      rw [toList_negSucc] at h
      exact absurd (show '-' ∈ m.repr.toList from h ▸ List.mem_cons_self) (hminus m)
  | negSucc m =>
    cases n with
    | ofNat n =>
      rw [toList_negSucc] at h
      exact absurd (show '-' ∈ n.repr.toList from h ▸ List.mem_cons_self) (hminus n)
    | negSucc n =>
      rw [toList_negSucc, toList_negSucc, List.cons.injEq] at h
      have hsucc := toList_natRepr_inj h.2
      rw [Nat.succ_injective hsucc]

/-- A faithful way to print: the numerator and the denominator around an `e`. -/
def exactText : PyFloat → String
  | .finite q => toString q.num ++ "e" ++ toString q.den
  | .negZero => "-0.0"
  | _ => ""

lemma toList_exactText (q : ℚ) :
    (exactText (.finite q)).toList = (toString q.num).toList ++ 'e' :: q.den.repr.toList := by
  rw [exactText, String.toList_append, String.toList_append, List.append_assoc]
  rfl

lemma mem_exactText {q : ℚ} {c : Char} (h : c ∈ (exactText (.finite q)).toList) :
    c.isDigit = true ∨ c = '-' ∨ c = 'e' := by
  rw [toList_exactText, List.mem_append, List.mem_cons] at h
  rcases h with h | rfl | h
  · exact (mem_intText h).imp_right .inl
  · exact .inr (.inr rfl)
  · exact .inl (isDigit_of_mem_natRepr h)

lemma exactText_faithful : FaithfulNumbers exactText where
  numeral x hx c hc := by
    cases x with
    | finite q =>
      rcases mem_exactText hc with h | rfl | rfl
      · exact .inl h
      · exact .inr (by decide)
      · exact .inr (by decide)
    | negZero =>
      have hall : ∀ c ∈ ['-', '0', '.', '0'], Numeral c := by
        simp only [List.forall_mem_cons, List.not_mem_nil, false_implies, implies_true, and_true]
        exact ⟨by decide, by decide, by decide, by decide⟩
      exact hall c hc
    | inf | negInf | nan => cases hx
  marked x hx := by
    cases x with
    | finite q => exact ⟨'e', by rw [toList_exactText]; simp, .inr rfl⟩
    | negZero => exact ⟨'.', by decide, .inl rfl⟩
    | inf | negInf | nan => cases hx
  injective x y hx hy h := by
    have hdot : ∀ q : ℚ, exactText (.finite q) ≠ exactText .negZero := by
      intro q heq
      have hmem : '.' ∈ (exactText (.finite q)).toList := heq ▸ (by decide)
      exact absurd (mem_exactText hmem) (by decide)
    have hfree : ∀ n : ℤ, 'e' ∉ (toString n).toList := fun n hn =>
      absurd (mem_intText hn) (by decide)
    cases x with
    | finite q =>
      cases y with
      | finite q' =>
        have htext := congrArg String.toList h
        rw [toList_exactText, toList_exactText] at htext
        obtain ⟨hnum, -, hden⟩ :=
          (List.append_cons_inj_of_notMem (hfree q.num) (hfree q.den)).mp htext
        rw [Rat.ext (intText_inj hnum) (toList_natRepr_inj hden)]
      | negZero => exact absurd h (hdot q)
      | inf | negInf | nan => cases hy
    | negZero =>
      cases y with
      | finite q' => exact absurd h.symm (hdot q')
      | negZero => rfl
      | inf | negInf | nan => cases hy
    | inf | negInf | nan => cases hx

/-- What follows a number does not continue it. -/
def Ends (r : List Char) : Prop := ∀ c ∈ r.head?, ¬Numeral c

lemma ends_cons {c : Char} {r : List Char} (h : ¬Numeral c) : Ends (c :: r) := by
  intro d hd
  rw [List.head?_cons, Option.mem_some_iff] at hd
  exact hd ▸ h

lemma numeral_split {p q r s : List Char} (hp : ∀ c ∈ p, Numeral c) (hq : ∀ c ∈ q, Numeral c)
    (hr : Ends r) (hs : Ends s) (h : p ++ r = q ++ s) : p = q ∧ r = s := by
  induction p generalizing q with
  | nil =>
    cases q with
    | nil => exact ⟨rfl, h⟩
    | cons d q =>
      rw [List.nil_append, List.cons_append] at h
      exact absurd (hq d List.mem_cons_self) (hr d (by rw [h]; rfl))
  | cons c p ih =>
    cases q with
    | nil =>
      rw [List.nil_append, List.cons_append] at h
      exact absurd (hp c List.mem_cons_self) (hs c (by rw [← h]; rfl))
    | cons d q =>
      rw [List.cons_append, List.cons_append, List.cons.injEq] at h
      obtain ⟨htail, hrest⟩ := ih (fun c hc => hp c (List.mem_cons_of_mem _ hc))
        (fun c hc => hq c (List.mem_cons_of_mem _ hc)) h.2
      exact ⟨by rw [h.1, htail], hrest⟩

/-! ### Sequences -/

section Sequences

variable {α : Type*} {text : α → List Char} {close : Char} {xs ys : List α} {r s : List Char}

lemma intercalate_cons_eq (x : List Char) (xs : List (List Char)) :
    [','].intercalate (x :: xs) = x ++ xs.flatMap (',' :: ·) := by
  induction xs generalizing x with
  | nil => simp
  | cons y ys ih => simp [ih]

lemma ends_following (hc : ¬Numeral close) (xs : List α) (r : List Char) :
    Ends ((xs.flatMap fun x => ',' :: text x) ++ close :: r) := by
  cases xs with
  | nil => exact ends_cons hc
  | cons x xs => exact ends_cons (by decide)

/-- The parts that follow the first one, each behind its comma, are read in one way. -/
lemma following_inj (hclose : close ≠ ',') (hc : ¬Numeral close)
    (hpart : ∀ x ∈ xs, ∀ y ∈ ys, ∀ r s, Ends r → Ends s → text x ++ r = text y ++ s →
      x = y ∧ r = s)
    (h : (xs.flatMap fun x => ',' :: text x) ++ close :: r =
      (ys.flatMap fun y => ',' :: text y) ++ close :: s) : xs = ys ∧ r = s := by
  induction xs generalizing ys with
  | nil =>
    cases ys with
    | nil => simpa using h
    | cons y ys =>
      rw [List.flatMap_cons, List.flatMap_nil, List.nil_append, List.cons_append,
        List.cons_append, List.cons.injEq] at h
      exact absurd h.1 hclose
  | cons x xs ih =>
    cases ys with
    | nil =>
      rw [List.flatMap_cons, List.flatMap_nil, List.nil_append, List.cons_append,
        List.cons_append, List.cons.injEq] at h
      exact absurd h.1.symm hclose
    | cons y ys =>
      simp only [List.flatMap_cons, List.cons_append, List.append_assoc, List.cons.injEq,
        true_and] at h
      obtain ⟨rfl, hrest⟩ := hpart x List.mem_cons_self y List.mem_cons_self _ _
        (ends_following hc xs r) (ends_following hc ys s) h
      obtain ⟨rfl, hr⟩ := ih
        (fun a ha b hb => hpart a (List.mem_cons_of_mem _ ha) b (List.mem_cons_of_mem _ hb)) hrest
      exact ⟨rfl, hr⟩

/-- A closed sequence is read in one way, if its parts are and none begins with the bracket. -/
lemma intercalate_inj (hclose : close ≠ ',') (hc : ¬Numeral close)
    (hhead : ∀ x, x ∈ xs ∨ x ∈ ys → ∃ c rest, text x = c :: rest ∧ c ≠ close)
    (hpart : ∀ x ∈ xs, ∀ y ∈ ys, ∀ r s, Ends r → Ends s → text x ++ r = text y ++ s →
      x = y ∧ r = s)
    (h : [','].intercalate (xs.map text) ++ close :: r =
      [','].intercalate (ys.map text) ++ close :: s) : xs = ys ∧ r = s := by
  have hfront : ∀ (x : α) (zs : List α), (x ∈ xs ∨ x ∈ ys) → ∀ r s : List Char,
      close :: r ≠ [','].intercalate ((x :: zs).map text) ++ s := by
    intro x zs hx r s heq
    obtain ⟨c, rest, htext, hc⟩ := hhead x hx
    rw [List.map_cons, intercalate_cons_eq, htext, List.cons_append, List.cons_append,
      List.cons.injEq] at heq
    exact hc heq.1.symm
  cases xs with
  | nil =>
    cases ys with
    | nil => simpa using h
    | cons y ys => exact absurd h (hfront y ys (.inr List.mem_cons_self) _ _)
  | cons x xs =>
    cases ys with
    | nil => exact absurd h.symm (hfront x xs (.inl List.mem_cons_self) _ _)
    | cons y ys =>
      simp only [List.map_cons, intercalate_cons_eq, List.flatMap_map, List.append_assoc] at h
      obtain ⟨rfl, hrest⟩ := hpart x List.mem_cons_self y List.mem_cons_self _ _
        (ends_following hc xs r) (ends_following hc ys s) h
      obtain ⟨rfl, hr⟩ := following_inj hclose hc
        (fun a ha b hb => hpart a (List.mem_cons_of_mem _ ha) b (List.mem_cons_of_mem _ hb)) hrest
      exact ⟨rfl, hr⟩

end Sequences

/-! ### Documents -/

mutual
/-- The document with the members of each object in the order of their keys. -/
def sortKeys : Json → Json
  | arr js => arr (sortItems js)
  | obj es => obj ((sortMembers es).insertionSort fun a b => a.1 ≤ b.1)
  | null => null
  | bool b => bool b
  | int n => int n
  | float x => float x
  | str s => str s

def sortItems : List Json → List Json
  | [] => []
  | j :: js => sortKeys j :: sortItems js

def sortMembers : List (String × Json) → List (String × Json)
  | [] => []
  | (k, j) :: es => (k, sortKeys j) :: sortMembers es
end

lemma sortItems_eq_map (js : List Json) : sortItems js = js.map sortKeys := by
  induction js with
  | nil => rfl
  | cons j js ih => rw [sortItems, ih, List.map_cons]

lemma sortMembers_eq_map (es : List (String × Json)) :
    sortMembers es = es.map fun e => (e.1, sortKeys e.2) := by
  induction es with
  | nil => rfl
  | cons e es ih => rw [sortMembers, ih, List.map_cons]

variable (number : PyFloat → String)

mutual
/-- The text of a document, its members in the order they stand in. -/
def text : Json → List Char
  | null => "null".toList
  | bool b => (if b then "true" else "false").toList
  | int n => (toString n).toList
  | float x => (number x).toList
  | str s => (quoted s).toList
  | arr js => '[' :: ([','].intercalate (itemTexts js) ++ [']'])
  | obj es => '{' :: ([','].intercalate (memberTexts es) ++ ['}'])

def itemTexts : List Json → List (List Char)
  | [] => []
  | j :: js => text j :: itemTexts js

def memberTexts : List (String × Json) → List (List Char)
  | [] => []
  | (k, j) :: es => ((quoted k).toList ++ ':' :: text j) :: memberTexts es
end

lemma itemTexts_eq_map (js : List Json) : itemTexts number js = js.map (text number) := by
  induction js with
  | nil => rfl
  | cons j js ih => rw [itemTexts, ih, List.map_cons]

def memberText (e : String × Json) : List Char := (quoted e.1).toList ++ ':' :: text number e.2

lemma memberTexts_eq_map (es : List (String × Json)) :
    memberTexts number es = es.map (memberText number) := by
  induction es with
  | nil => rfl
  | cons e es ih => rw [memberTexts, ih, List.map_cons]; rfl

lemma toList_quoted (s : String) :
    (quoted s).toList = '"' :: (s.toList.flatMap escapeChar ++ ['"']) := by
  rw [quoted, String.toList_ofList]
  rfl

/-- The character a document's text begins with, `none` for a number's. -/
def lead : Json → Option Char
  | null => some 'n'
  | bool b => some (if b then 't' else 'f')
  | int _ | float _ => none
  | str _ => some '"'
  | arr _ => some '['
  | obj _ => some '{'

def leadOf (c : Char) : Option Char := if Numeral c then none else some c

variable {number}

lemma exists_lead (hn : FaithfulNumbers number) {j : Json} (hj : j.isFinite = true) :
    ∃ c rest, text number j = c :: rest ∧ leadOf c = j.lead := by
  have hnumeral : ∀ p : List Char, p ≠ [] → (∀ c ∈ p, Numeral c) →
      ∃ c rest, p = c :: rest ∧ leadOf c = none := by
    intro p hne hp
    cases p with
    | nil => exact absurd rfl hne
    | cons c rest => exact ⟨c, rest, rfl, if_pos (hp c List.mem_cons_self)⟩
  cases j with
  | null => exact ⟨'n', "ull".toList, rfl, rfl⟩
  | bool b =>
    cases b with
    | true => exact ⟨'t', "rue".toList, rfl, rfl⟩
    | false => exact ⟨'f', "alse".toList, rfl, rfl⟩
  | int n =>
    refine hnumeral _ (intText_ne_nil n) fun c hc => ?_
    exact (mem_intText hc).imp_right (by rintro rfl; decide)
  | float x =>
    obtain ⟨c, hc, -⟩ := hn.marked x hj
    exact hnumeral _ (List.ne_nil_of_mem hc) (hn.numeral x hj)
  | str s => exact ⟨'"', _, toList_quoted s, rfl⟩
  | arr js => exact ⟨'[', _, rfl, rfl⟩
  | obj es => exact ⟨'{', _, rfl, rfl⟩

lemma quoted_inj {a b : String} {r s : List Char}
    (h : (quoted a).toList ++ r = (quoted b).toList ++ s) : a = b ∧ r = s := by
  simp only [toList_quoted, List.cons_append, List.append_assoc, List.cons.injEq, true_and,
    List.nil_append] at h
  obtain ⟨hab, hrs⟩ := escaped_inj h
  exact ⟨String.toList_injective hab, hrs⟩

lemma members_inj {es es' : List (String × Json)} {r s : List Char}
    (ih : ∀ e ∈ es, ∀ e' ∈ es', ∀ r s, Ends r → Ends s →
      text number e.2 ++ r = text number e'.2 ++ s → e.2 = e'.2 ∧ r = s)
    (h : text number (obj es) ++ r = text number (obj es') ++ s) : es = es' ∧ r = s := by
  simp only [text, memberTexts_eq_map, List.cons_append, List.append_assoc, List.cons.injEq,
    true_and, List.nil_append] at h
  refine intercalate_inj (by decide) (by decide) ?_ ?_ h
  · intro e _
    rw [memberText, toList_quoted]
    exact ⟨'"', _, rfl, by decide⟩
  · intro e he e' he' r s hr hs heq
    simp only [memberText, List.append_assoc, List.cons_append] at heq
    obtain ⟨hkey, hvalue⟩ := quoted_inj heq
    obtain ⟨hv, hrs⟩ := ih e he e' he' r s hr hs (List.cons.injEq .. ▸ hvalue).2
    exact ⟨Prod.ext hkey hv, hrs⟩

lemma exists_item_lead (hn : FaithfulNumbers number) {j : Json} (hj : j.isFinite = true) :
    ∃ c rest, text number j = c :: rest ∧ c ≠ ']' := by
  obtain ⟨c, rest, htext, hc⟩ := exists_lead hn hj
  refine ⟨c, rest, htext, ?_⟩
  rintro rfl
  -- no document begins with a closing bracket
  have hlead : leadOf ']' = some ']' := by decide
  rw [hlead] at hc
  cases j with
  | bool b => cases b <;> exact absurd hc (by decide)
  | null | int | float | str | arr | obj => exact absurd hc (by simp [lead])

lemma lead_eq (hn : FaithfulNumbers number) {a b : Json} (ha : a.isFinite = true)
    (hb : b.isFinite = true) {r s : List Char} (h : text number a ++ r = text number b ++ s) :
    a.lead = b.lead := by
  obtain ⟨c, p, hp, hc⟩ := exists_lead hn ha
  obtain ⟨d, q, hq, hd⟩ := exists_lead hn hb
  rw [hp, hq, List.cons_append, List.cons_append, List.cons.injEq] at h
  rw [← hc, ← hd, h.1]

lemma floatText_ne_intText (hn : FaithfulNumbers number) {x : PyFloat} (hx : x.isFinite = true)
    (n : ℤ) : (number x).toList ≠ (toString n).toList := by
  intro h
  obtain ⟨c, hc, hmark⟩ := hn.marked x hx
  rw [h] at hc
  have hint := mem_intText hc
  rcases hmark with rfl | rfl
  · exact absurd hint (by decide)
  · exact absurd hint (by decide)

lemma numbers_inj (hn : FaithfulNumbers number) {a b : Json} (ha : a.isFinite = true)
    (hb : b.isFinite = true) (hla : a.lead = none) (hlb : b.lead = none) {r s : List Char}
    (hr : Ends r) (hs : Ends s) (h : text number a ++ r = text number b ++ s) :
    a = b ∧ r = s := by
  have hint : ∀ n : ℤ, ∀ c ∈ (toString n).toList, Numeral c := fun n c hc =>
    (mem_intText hc).imp_right (by rintro rfl; decide)
  cases a with
  | int m =>
    cases b with
    | int n =>
      obtain ⟨hmn, hrs⟩ := numeral_split (hint m) (hint n) hr hs h
      exact ⟨congrArg int (intText_inj hmn), hrs⟩
    | float y =>
      obtain ⟨hmy, -⟩ := numeral_split (hint m) (hn.numeral y hb) hr hs h
      exact absurd hmy.symm (floatText_ne_intText hn hb m)
    | null | bool | str | arr | obj => cases hlb
  | float x =>
    cases b with
    | int n =>
      obtain ⟨hxn, -⟩ := numeral_split (hn.numeral x ha) (hint n) hr hs h
      exact absurd hxn (floatText_ne_intText hn ha n)
    | float y =>
      obtain ⟨hxy, hrs⟩ := numeral_split (hn.numeral x ha) (hn.numeral y hb) hr hs h
      exact ⟨congrArg float (hn.injective x y ha hb (String.toList_injective hxy)), hrs⟩
    | null | bool | str | arr | obj => cases hlb
  | null | bool | str | arr | obj => cases hla

/-- A document's text ends where the document does, and determines it. -/
theorem text_inj (hn : FaithfulNumbers number) : ∀ {a b : Json}, a.isFinite = true →
    b.isFinite = true → ∀ {r s : List Char}, Ends r → Ends s →
    text number a ++ r = text number b ++ s → a = b ∧ r = s := by
  intro a
  induction a using memberInduction with
  | null =>
    intro b ha hb r s _ _ h
    have hlead := lead_eq hn ha hb h
    cases b with
    | null => exact ⟨rfl, List.append_cancel_left h⟩
    | bool b => cases b <;> exact absurd hlead (by decide)
    | int | float | str | arr | obj => exact absurd hlead (by simp [lead])
  | bool a =>
    intro b ha hb r s _ _ h
    have hlead := lead_eq hn ha hb h
    cases b with
    | bool b =>
      have hab : a = b := by
        cases a <;> cases b <;> first | rfl | exact absurd hlead (by decide)
      subst hab
      exact ⟨rfl, List.append_cancel_left h⟩
    | null | int | float | str | arr | obj => cases a <;> exact absurd hlead (by simp [lead])
  | int n =>
    intro b ha hb r s hr hs h
    exact numbers_inj hn ha hb rfl (lead_eq hn ha hb h).symm hr hs h
  | float x =>
    intro b ha hb r s hr hs h
    exact numbers_inj hn ha hb rfl (lead_eq hn ha hb h).symm hr hs h
  | str a =>
    intro b ha hb r s _ _ h
    have hlead := lead_eq hn ha hb h
    cases b with
    | str b =>
      obtain ⟨rfl, hrs⟩ := quoted_inj h
      exact ⟨rfl, hrs⟩
    | bool b => cases b <;> exact absurd hlead (by simp [lead])
    | null | int | float | arr | obj => exact absurd hlead (by simp [lead])
  | arr js ih =>
    intro b ha hb r s _ _ h
    have hlead := lead_eq hn ha hb h
    cases b with
    | arr js' =>
      have hfin := itemsFinite_iff.mp ha
      have hfin' := itemsFinite_iff.mp hb
      simp only [text, itemTexts_eq_map, List.cons_append, List.append_assoc, List.cons.injEq,
        true_and, List.nil_append] at h
      obtain ⟨rfl, hrs⟩ := intercalate_inj (by decide) (by decide)
        (fun j hj => exists_item_lead hn (hj.elim (hfin j) (hfin' j)))
        (fun j hj j' hj' r s hr hs heq => ih j hj (hfin j hj) (hfin' j' hj') hr hs heq) h
      exact ⟨rfl, hrs⟩
    | bool b => cases b <;> exact absurd hlead (by simp [lead])
    | null | int | float | str | obj => exact absurd hlead (by simp [lead])
  | obj es ih =>
    intro b ha hb r s _ _ h
    have hlead := lead_eq hn ha hb h
    cases b with
    | obj es' =>
      have hfin := entriesFinite_iff.mp ha
      have hfin' := entriesFinite_iff.mp hb
      obtain ⟨rfl, hrs⟩ := members_inj (fun e he e' he' r s hr hs heq =>
        ih e he (hfin e he) (hfin' e' he') hr hs heq) h
      exact ⟨rfl, hrs⟩
    | bool b => cases b <;> exact absurd hlead (by simp [lead])
    | null | int | float | str | arr => exact absurd hlead (by simp [lead])

/-! ### Canonical texts -/

/-- Sorting by key commutes with a map that keeps the keys. -/
lemma insertionSort_map_key {β : Type*} (f : String × Json → β) (es : List (String × Json)) :
    (es.map fun e => (e.1, f e)).insertionSort (fun a b => a.1 ≤ b.1) =
      (es.insertionSort fun a b => a.1 ≤ b.1).map fun e => (e.1, f e) := by
  have hmap := List.map_insertionSort (r := fun a b : String × Json => a.1 ≤ b.1)
    (s := fun a b : String × β => a.1 ≤ b.1) (fun e => (e.1, f e)) es fun a _ b _ => Iff.rfl
  exact hmap.symm

lemma dumpItems_eq_map (js : List Json) : dumpItems number js = js.map (dumps number) := by
  induction js with
  | nil => rfl
  | cons j js ih => rw [dumpItems, ih, List.map_cons]

lemma dumpEntries_eq_map (es : List (String × Json)) :
    dumpEntries number es = es.map fun e => (e.1, dumps number e.2) := by
  induction es with
  | nil => rfl
  | cons e es ih => rw [dumpEntries, ih, List.map_cons]

lemma toList_dumps (j : Json) : (dumps number j).toList = text number (sortKeys j) := by
  induction j using memberInduction with
  | null => rfl
  | bool b => rfl
  | int n => rfl
  | float x => rfl
  | str s => rfl
  | arr js ih =>
    have hitems : (js.map (dumps number)).map String.toList =
        (js.map sortKeys).map (text number) := by
      rw [List.map_map, List.map_map]
      exact List.map_congr_left ih
    simp only [dumps, String.toList_append, String.toList_intercalate, dumpItems_eq_map, hitems,
      sortKeys, text, sortItems_eq_map, itemTexts_eq_map]
    rfl
  | obj es ih =>
    have hmembers : ((es.insertionSort fun a b => a.1 ≤ b.1).map fun e =>
          (quoted e.1 ++ ":" ++ dumps number e.2).toList) =
        (es.insertionSort fun a b => a.1 ≤ b.1).map fun e =>
          memberText number (e.1, sortKeys e.2) := by
      refine List.map_congr_left fun e he => ?_
      have hmem : e ∈ es := (List.mem_insertionSort _).mp he
      rw [String.toList_append, String.toList_append, ih e hmem, memberText, List.append_assoc]
      rfl
    simp only [dumps, String.toList_append, String.toList_intercalate, dumpEntries_eq_map,
      insertionSort_map_key (fun e => dumps number e.2), List.map_map, sortKeys, text,
      sortMembers_eq_map, insertionSort_map_key (fun e => sortKeys e.2), memberTexts_eq_map]
    rw [show String.toList ∘ (fun e : String × String => quoted e.1 ++ ":" ++ e.2) ∘
        (fun e : String × Json => (e.1, dumps number e.2)) =
        fun e => (quoted e.1 ++ ":" ++ dumps number e.2).toList from rfl, hmembers]
    rfl

lemma isFinite_sortKeys (j : Json) : (sortKeys j).isFinite = j.isFinite := by
  induction j using memberInduction with
  | null | bool | int | float | str => rfl
  | arr js ih =>
    rw [Bool.eq_iff_iff, sortKeys, isFinite, isFinite, itemsFinite_iff, itemsFinite_iff,
      sortItems_eq_map, List.forall_mem_map]
    exact forall₂_congr fun j hj => by rw [ih j hj]
  | obj es ih =>
    rw [Bool.eq_iff_iff, sortKeys, isFinite, isFinite, entriesFinite_iff, entriesFinite_iff,
      sortMembers_eq_map]
    simp only [List.mem_insertionSort, List.forall_mem_map]
    exact forall₂_congr fun e he => by rw [ih e he]

/-- Finite documents with one text differ at most in the order of their members. -/
theorem sortKeys_eq_of_dumps (hn : FaithfulNumbers number) {a b : Json} (ha : a.isFinite = true)
    (hb : b.isFinite = true) (h : dumps number a = dumps number b) : sortKeys a = sortKeys b := by
  have htext : text number (sortKeys a) ++ [] = text number (sortKeys b) ++ [] := by
    rw [← toList_dumps, ← toList_dumps, h]
  have hend : Ends [] := fun c hc => by cases hc
  exact (text_inj hn (by rw [isFinite_sortKeys, ha]) (by rw [isFinite_sortKeys, hb]) hend hend
    htext).1

lemma dumps_eq_of_sortKeys {a b : Json} (h : sortKeys a = sortKeys b) :
    dumps number a = dumps number b := by
  rw [← String.toList_inj, toList_dumps, toList_dumps, h]

/-- An object's text shows where it ends, whatever is written behind it. -/
theorem sortKeys_eq_of_dumps_append (hn : FaithfulNumbers number)
    {es es' : List (String × Json)} (ha : (obj es).isFinite = true)
    (hb : (obj es').isFinite = true) {r s : List Char}
    (h : (dumps number (obj es)).toList ++ r = (dumps number (obj es')).toList ++ s) :
    sortKeys (obj es) = sortKeys (obj es') ∧ r = s := by
  rw [toList_dumps, toList_dumps] at h
  rw [← isFinite_sortKeys, sortKeys] at ha hb
  obtain ⟨hes, hrs⟩ := members_inj (fun e he e' he' r s hr hs heq =>
    text_inj hn (entriesFinite_iff.mp ha e he) (entriesFinite_iff.mp hb e' he') hr hs heq) h
  exact ⟨by rw [sortKeys, sortKeys, hes], hrs⟩

/-! ### Members -/

lemma lookup_eq_some_iff {es : List (String × Json)} (hnd : (es.map Prod.fst).Nodup)
    {key : String} {j : Json} : lookup key es = some j ↔ (key, j) ∈ es := by
  induction es with
  | nil => simp [lookup]
  | cons e es ih =>
    obtain ⟨k, v⟩ := e
    obtain ⟨hk, hnd⟩ := List.nodup_cons.mp hnd
    rw [lookup, List.mem_cons, Prod.mk.injEq]
    split_ifs with hkey
    · subst hkey
      have hout : (k, j) ∉ es := fun h => hk (List.mem_map.mpr ⟨(k, j), h, rfl⟩)
      simp [hout, eq_comm]
    · rw [ih hnd]
      simp [Ne.symm hkey]

/-- The members of a sorted document are those of the document, sorted themselves. -/
lemma get?_sortKeys {es : List (String × Json)} (hnd : (es.map Prod.fst).Nodup) (key : String) :
    (sortKeys (obj es)).get? key = ((obj es).get? key).map sortKeys := by
  have hperm := List.perm_insertionSort (fun a b : String × Json => a.1 ≤ b.1) (sortMembers es)
  have hkeys : (sortMembers es).map Prod.fst = es.map Prod.fst := by
    rw [sortMembers_eq_map, List.map_map]
    rfl
  have hnd' := (hperm.map Prod.fst).nodup_iff.mpr (hkeys ▸ hnd)
  rw [sortKeys, get?, get?]
  ext j
  rw [lookup_eq_some_iff hnd', List.mem_insertionSort, sortMembers_eq_map, Option.map_eq_some_iff]
  simp only [List.mem_map, Prod.mk.injEq]
  constructor
  · rintro ⟨⟨k, v⟩, he, rfl, rfl⟩
    exact ⟨v, (lookup_eq_some_iff hnd).mpr he, rfl⟩
  · rintro ⟨v, hv, rfl⟩
    exact ⟨(key, v), (lookup_eq_some_iff hnd).mp hv, rfl, rfl⟩

/-- Keys are compared in a total order. -/
instance : Std.Total fun a b : String × Json => a.1 ≤ b.1 := ⟨fun a b => String.le_total a.1 b.1⟩

instance : IsTrans (String × Json) fun a b => a.1 ≤ b.1 := ⟨fun _ _ _ => String.le_trans⟩

/-- The order of an object's members is lost in sorting them. -/
lemma sortKeys_perm {es es' : List (String × Json)} (h : es.Perm es')
    (hnd : (es.map Prod.fst).Nodup) : sortKeys (obj es) = sortKeys (obj es') := by
  have hperm : (sortMembers es).Perm (sortMembers es') := by
    rw [sortMembers_eq_map, sortMembers_eq_map]
    exact h.map _
  have hsort := fun l : List (String × Json) =>
    List.perm_insertionSort (fun a b : String × Json => a.1 ≤ b.1) l
  have hsorted := fun l : List (String × Json) =>
    List.pairwise_insertionSort (fun a b : String × Json => a.1 ≤ b.1) l
  have hfst : (sortMembers es).map Prod.fst = es.map Prod.fst := by
    rw [sortMembers_eq_map, List.map_map]
    rfl
  rw [sortKeys, sortKeys]
  refine congrArg obj (List.Perm.eq_of_pairwise ?_ (hsorted _) (hsorted _)
    ((hsort _).trans (hperm.trans (hsort _).symm)))
  -- members under one key are one member
  intro a b ha hb hle hge
  rw [← hfst] at hnd
  exact List.inj_on_of_nodup_map hnd ((List.mem_insertionSort _).mp ha)
    (hperm.mem_iff.mpr ((List.mem_insertionSort _).mp hb)) (String.le_antisymm hle hge)

/-- Entries under the same keys, in one order, are the same if those of one list are among
those of the other. -/
lemma entries_eq {β : Type*} {xs ys : List (String × β)}
    (hkeys : xs.map Prod.fst = ys.map Prod.fst) (hnd : (xs.map Prod.fst).Nodup)
    (hsub : ∀ e ∈ xs, e ∈ ys) : xs = ys := by
  induction xs generalizing ys with
  | nil => exact (List.map_eq_nil_iff.mp hkeys.symm).symm
  | cons x xs ih =>
    cases ys with
    | nil => cases hkeys
    | cons y ys =>
      rw [List.map_cons, List.map_cons, List.cons.injEq] at hkeys
      obtain ⟨hout, hnd⟩ := List.nodup_cons.mp hnd
      have hxy : x = y := by
        rcases List.mem_cons.mp (hsub x List.mem_cons_self) with h | h
        · exact h
        · exact absurd (hkeys.2 ▸ List.mem_map_of_mem h) hout
      have htail : ∀ e ∈ xs, e ∈ ys := by
        intro e he
        rcases List.mem_cons.mp (hsub e (List.mem_cons_of_mem _ he)) with h | h
        · exact absurd (List.mem_map_of_mem he) (by rw [h, ← hxy]; exact hout)
        · exact h
      rw [hxy, ih hkeys.2 hnd htail]

/-- Objects with their keys in one order agree member by member. -/
theorem values_eq_of_sortKeys {es es' : List (String × Json)}
    (hkeys : es.map Prod.fst = es'.map Prod.fst) (hnd : (es.map Prod.fst).Nodup)
    (h : sortKeys (obj es) = sortKeys (obj es')) :
    es.map (fun e => sortKeys e.2) = es'.map fun e => sortKeys e.2 := by
  have hfst : ∀ es, (sortMembers es).map Prod.fst = es.map Prod.fst := fun es => by
    rw [sortMembers_eq_map, List.map_map]
    rfl
  rw [sortKeys, sortKeys, obj.injEq] at h
  have hmembers : sortMembers es = sortMembers es' := by
    refine entries_eq (by rw [hfst, hfst, hkeys]) (by rwa [hfst]) fun e he => ?_
    rw [← List.mem_insertionSort (fun a b => a.1 ≤ b.1), ← h, List.mem_insertionSort]
    exact he
  have hsnd := congrArg (List.map Prod.snd) hmembers
  rw [sortMembers_eq_map, sortMembers_eq_map, List.map_map, List.map_map] at hsnd
  exact hsnd

/-- An object with exactly the given keys is the list of its members under them. -/
lemma perm_members {es : List (String × Json)} (hnd : (es.map Prod.fst).Nodup)
    {names : List String} (hnames : names.Nodup) (hkeys : ∀ k, k ∈ es.map Prod.fst ↔ k ∈ names) :
    es.Perm (names.map fun k => (k, (obj es).get k)) := by
  have hnodup : (names.map fun k => (k, (obj es).get k)).Nodup :=
    List.Nodup.of_map Prod.fst (by rwa [List.map_map, show Prod.fst ∘ (fun k : String =>
      (k, (obj es).get k)) = id from rfl, List.map_id])
  refine (List.perm_ext_iff_of_nodup (List.Nodup.of_map _ hnd) hnodup).mpr fun ⟨k, v⟩ => ?_
  have hget : ∀ v, (k, v) ∈ es → (obj es).get k = v := fun v hv => by
    rw [get, get?, (lookup_eq_some_iff hnd).mpr hv, Option.getD_some]
  simp only [List.mem_map, Prod.mk.injEq]
  constructor
  · intro hv
    exact ⟨k, (hkeys k).mp (List.mem_map.mpr ⟨(k, v), hv, rfl⟩), rfl, hget v hv⟩
  · rintro ⟨_, hk, rfl, rfl⟩
    obtain ⟨⟨k', v⟩, hv, rfl⟩ := List.mem_map.mp ((hkeys _).mpr hk)
    rw [hget v hv]
    exact hv

/-! ### Documents that differ in the order of members -/

lemma eq_str_of_sortKeys {j : Json} {s : String} (h : sortKeys j = str s) : j = str s := by
  cases j with
  | str t => exact h
  | null | bool | int | float | arr | obj => cases h

lemma eq_int_of_sortKeys {j : Json} {n : ℤ} (h : sortKeys j = int n) : j = int n := by
  cases j with
  | int m => exact h
  | null | bool | float | str | arr | obj => cases h

lemma eq_float_of_sortKeys {j : Json} {x : PyFloat} (h : sortKeys j = float x) : j = float x := by
  cases j with
  | float y => exact h
  | null | bool | int | str | arr | obj => cases h

lemma exists_items_of_sortKeys {j : Json} {js : List Json} (h : sortKeys j = sortKeys (arr js)) :
    ∃ js', j = arr js' ∧ js'.map sortKeys = js.map sortKeys := by
  cases j with
  | arr js' =>
    rw [sortKeys, sortKeys, sortItems_eq_map, sortItems_eq_map] at h
    exact ⟨js', rfl, arr.inj h⟩
  | null | bool | int | float | str | obj => cases h

lemma exists_members_of_sortKeys {j : Json} {es : List (String × Json)}
    (h : sortKeys j = sortKeys (obj es)) :
    ∃ es', j = obj es' ∧ (sortMembers es').Perm (sortMembers es) := by
  cases j with
  | obj es' =>
    have hsort := fun l : List (String × Json) =>
      List.perm_insertionSort (fun a b : String × Json => a.1 ≤ b.1) l
    rw [sortKeys, sortKeys, obj.injEq] at h
    exact ⟨es', rfl, (hsort _).symm.trans (h ▸ hsort _)⟩
  | null | bool | int | float | str | arr => cases h

lemma keys_perm {es es' : List (String × Json)} (h : (sortMembers es').Perm (sortMembers es)) :
    (es'.map Prod.fst).Perm (es.map Prod.fst) := by
  have hfst : ∀ es, (sortMembers es).map Prod.fst = es.map Prod.fst := fun es => by
    rw [sortMembers_eq_map, List.map_map]
    rfl
  have hmap := h.map Prod.fst
  rwa [hfst, hfst] at hmap

/-- Members under one key differ in the order of members at most. -/
lemma get_sortKeys_congr {es es' : List (String × Json)} (hnd : (es.map Prod.fst).Nodup)
    (h : sortKeys (obj es') = sortKeys (obj es)) (key : String) :
    sortKeys ((obj es').get key) = sortKeys ((obj es).get key) := by
  obtain ⟨_, heq, hperm⟩ := exists_members_of_sortKeys h
  cases heq
  have hnd' := (keys_perm hperm).nodup_iff.mpr hnd
  have hget := congrArg (get? key) h
  rw [get?_sortKeys hnd', get?_sortKeys hnd] at hget
  have hgetD : ∀ x : Option Json, sortKeys (x.getD null) = (x.map sortKeys).getD null := by
    intro x
    cases x <;> rfl
  rw [get, get, hgetD, hgetD, hget]

lemma isSome_lookup {es : List (String × Json)} {key : String} :
    (lookup key es).isSome = true ↔ key ∈ es.map Prod.fst := by
  induction es with
  | nil => simp [lookup]
  | cons e es ih =>
    rw [lookup, List.map_cons, List.mem_cons]
    split_ifs with h
    · exact iff_of_true rfl (.inl h.symm)
    · rw [ih, or_iff_right (Ne.symm h)]

/-- A document that differs from an object in the order of members is an object with the same
keys, and so are the members under them. -/
theorem exists_object_of_sortKeys {j : Json} {es : List (String × Json)}
    (hnd : (es.map Prod.fst).Nodup) (h : sortKeys j = sortKeys (obj es)) :
    ∃ es', j = obj es' ∧ (es'.map Prod.fst).Perm (es.map Prod.fst) ∧
      ∀ key, sortKeys ((obj es').get key) = sortKeys ((obj es).get key) := by
  obtain ⟨es', rfl, hperm⟩ := exists_members_of_sortKeys h
  exact ⟨es', rfl, keys_perm hperm, get_sortKeys_congr hnd h⟩

end TrustLens.Json
