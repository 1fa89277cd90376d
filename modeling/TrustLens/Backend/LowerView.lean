import Mathlib.Data.List.Basic
import TrustLens.Backend.Message

/-!
# Positions in the lower-cased view

The recognisers take positions of the view and read the context around them in the lower-cased
view. The two are the same text there exactly when no character lower-cases to several, and
every capital sigma is at the end of a word in what is read as it is in the view.
-/

namespace TrustLens.Backend.Extraction

/-- The tables behind `str.lower`. -/
structure CaseTables where
  lowercase : Char → Text
  cased : Char → Bool
  ignorable : Char → Bool

namespace CaseTables

variable (M : CaseTables)

def capitalSigma : Char := Char.ofNat 0x3a3

/-- Whether a capital sigma between two texts is at the end of a word. -/
def finalSigma (before after : Text) : Bool :=
  (before.reverse.dropWhile M.ignorable).head?.any M.cased &&
    !(after.dropWhile M.ignorable).head?.any M.cased

/-- What a character between two texts lower-cases to. -/
def image (before : Text) (c : Char) (after : Text) : Text :=
  if c = capitalSigma then [if M.finalSigma before after then Char.ofNat 0x3c2 else Char.ofNat 0x3c3]
  else M.lowercase c

def lowerFrom (before : Text) : Text → Text
  | [] => []
  | c :: rest => M.image before c rest ++ lowerFrom (before ++ [c]) rest

/-- `str.lower` -/
def lower (text : Text) : Text := M.lowerFrom [] text

/-- Every character lower-cases to something. -/
def Total : Prop := ∀ c, M.lowercase c ≠ []

end CaseTables

namespace Message

variable (msg : Message)

/-- Where the text that `prefix` reads starts. -/
def prefixStart (pos : ℕ) : ℕ :=
  msg.quotes.foldl (fun start q => if q.1 ≤ pos ∧ pos < q.2 then max start q.1 else start)
    (msg.clauseAt pos).start

/-- The parts around a position that are read in the lower-cased view: the clause and the sentence
before it, and what follows it. -/
def windows (pos : ℕ) : List (ℕ × ℕ) :=
  [(msg.prefixStart pos, pos), ((msg.clauseAt pos).sentenceStart, pos), (pos, pos + 24)]

/-- What is read around every position is the lower-casing of what the view has there. -/
def Faithful (U : Unicode) : Prop :=
  ∀ pos ≤ msg.view.length, ∀ w ∈ msg.windows pos,
    slice msg.lower w.1 w.2 = U.lower (slice msg.view w.1 w.2)

lemma clausePrefix_eq (P : Pack) (pos : ℕ) : msg.clausePrefix P pos =
    P.removeFirst .discourseMarker (slice msg.lower (msg.prefixStart pos) pos) := rfl

lemma sentenceBefore_eq (pos : ℕ) :
    msg.sentenceBefore pos = slice msg.lower (msg.clauseAt pos).sentenceStart pos := rfl

end Message

/-- No character of the view lower-cases to several, and every capital sigma is at the end of a
word in what is read around a position exactly when it is in the view. -/
structure Aligned (M : CaseTables) (msg : Message) : Prop where
  single : ∀ c ∈ msg.view, c ≠ CaseTables.capitalSigma → (M.lowercase c).length = 1
  sigma : ∀ pos ≤ msg.view.length, ∀ w ∈ msg.windows pos, ∀ i, w.1 ≤ i → i < w.2 →
    msg.view[i]? = some CaseTables.capitalSigma →
      M.finalSigma (slice msg.view w.1 i) (slice msg.view (i + 1) w.2) =
        M.finalSigma (msg.view.take i) (msg.view.drop (i + 1))

namespace CaseTables

variable {M : CaseTables}

/-- The character lower-cases to one. -/
def Single (M : CaseTables) (t : Text) : Prop :=
  ∀ c ∈ t, c ≠ capitalSigma → (M.lowercase c).length = 1

lemma length_image {before after : Text} {c : Char}
    (h : c ≠ capitalSigma → (M.lowercase c).length = 1) :
    (M.image before c after).length = 1 := by
  unfold image
  by_cases hc : c = capitalSigma
  · rw [if_pos hc]
    rfl
  · rw [if_neg hc, h hc]

lemma image_ne_nil (hM : M.Total) (before : Text) (c : Char) (after : Text) :
    M.image before c after ≠ [] := by
  unfold image
  by_cases hc : c = capitalSigma
  · rw [if_pos hc]
    exact List.cons_ne_nil _ _
  · rw [if_neg hc]
    exact hM c

lemma length_lowerFrom_ge (hM : M.Total) (before t : Text) :
    t.length ≤ (M.lowerFrom before t).length := by
  induction t generalizing before with
  | nil => exact Nat.zero_le _
  | cons c rest ih =>
    rw [lowerFrom, List.length_append, List.length_cons]
    have := List.length_pos_iff.mpr (image_ne_nil hM before c rest)
    have := ih (before ++ [c])
    omega

/-- A text that does not get longer has no character that lower-cases to several. -/
lemma single_of_length (hM : M.Total) (before t : Text)
    (h : (M.lowerFrom before t).length ≤ t.length) : Single M t := by
  induction t generalizing before with
  | nil => simp [Single]
  | cons c rest ih =>
    rw [lowerFrom, List.length_append, List.length_cons] at h
    have himage := List.length_pos_iff.mpr (image_ne_nil hM before c rest)
    have hrest := length_lowerFrom_ge hM (before ++ [c]) rest
    intro d hd hne
    rcases List.mem_cons.mp hd with rfl | hd
    · have : (M.image before d rest).length = 1 := by omega
      rwa [image, if_neg hne] at this
    · exact ih (before ++ [c]) (by omega) d hd hne

/-- The text is lower-cased position by position. -/
lemma getElem?_lowerFrom {t : Text} (h : Single M t) (before : Text) (i : ℕ) :
    (M.lowerFrom before t)[i]? = t[i]?.bind fun c =>
      (M.image (before ++ t.take i) c (t.drop (i + 1))).head? := by
  induction t generalizing before i with
  | nil => simp [lowerFrom]
  | cons c rest ih =>
    have hlength : (M.image before c rest).length = 1 := length_image (h c List.mem_cons_self)
    obtain ⟨d, hd⟩ := List.length_eq_one_iff.mp hlength
    rw [lowerFrom, hd]
    cases i with
    | zero => simp [hd]
    | succ i =>
      have hrest := ih (fun e he => h e (List.mem_cons_of_mem c he)) (before ++ [c]) i
      simpa using hrest

lemma getElem?_slice (v : Text) (a b j : ℕ) :
    (slice v a b)[j]? = if a + j < b then v[a + j]? else none := by
  rw [slice, List.getElem?_take, List.getElem?_drop]
  split_ifs <;> first | rfl | omega

lemma take_slice (v : Text) {a b j : ℕ} (h : a + j < b) :
    (slice v a b).take j = slice v a (a + j) := by
  rw [slice, slice, List.take_take, Nat.add_sub_cancel_left, Nat.min_eq_left (by omega)]

lemma drop_slice (v : Text) (a b j : ℕ) :
    (slice v a b).drop (j + 1) = slice v (a + j + 1) b := by
  rw [slice, slice, List.drop_take, List.drop_drop]
  congr 1
  omega

/-- The two small sigmas differ. -/
lemma sigmaForm_inj {x y : Bool}
    (h : (if x then Char.ofNat 0x3c2 else Char.ofNat 0x3c3) =
      if y then Char.ofNat 0x3c2 else Char.ofNat 0x3c3) : x = y := by
  cases x <;> cases y
  · rfl
  · exact absurd h (by decide)
  · exact absurd h (by decide)
  · rfl

lemma head?_image_sigma (before after : Text) :
    (M.image before capitalSigma after).head? =
      some (if M.finalSigma before after then Char.ofNat 0x3c2 else Char.ofNat 0x3c3) := by
  rw [image, if_pos rfl]
  rfl

lemma head?_image_of_ne {c : Char} (hc : c ≠ capitalSigma) (before after : Text) :
    (M.image before c after).head? = (M.lowercase c).head? := by
  rw [image, if_neg hc]

/-- Where every character lower-cases to one, a part of the text lower-cases by itself to what it
is in the whole exactly when its capital sigmas do. -/
lemma slice_lower_iff {v : Text} (h : Single M v) (a b : ℕ) :
    slice (M.lower v) a b = M.lower (slice v a b) ↔
      ∀ i, a ≤ i → i < b → v[i]? = some capitalSigma →
        M.finalSigma (slice v a i) (slice v (i + 1) b) =
          M.finalSigma (v.take i) (v.drop (i + 1)) := by
  have hpart : Single M (slice v a b) := fun c hc =>
    h c (List.mem_of_mem_drop (List.mem_of_mem_take hc))
  have hat : ∀ j, a + j < b → (slice (M.lower v) a b)[j]? = (v[a + j]?).bind fun c =>
      (M.image (v.take (a + j)) c (v.drop (a + j + 1))).head? := by
    intro j hj
    rw [getElem?_slice, if_pos hj, lower, getElem?_lowerFrom h]
    rfl
  have hpartAt : ∀ j, a + j < b → (M.lower (slice v a b))[j]? = (v[a + j]?).bind fun c =>
      (M.image (slice v a (a + j)) c (slice v (a + j + 1) b)).head? := by
    intro j hj
    rw [lower, getElem?_lowerFrom hpart, getElem?_slice, if_pos hj, drop_slice, List.nil_append,
      take_slice v hj]
  constructor
  · intro heq i ha hb hsigma
    obtain ⟨j, rfl⟩ := Nat.exists_eq_add_of_le ha
    have hj := congrArg (·[j]?) heq
    simp only [hat j hb, hpartAt j hb, hsigma, Option.bind_some, head?_image_sigma,
      Option.some.injEq] at hj
    exact (sigmaForm_inj hj).symm
  · intro hsigma
    refine List.ext_getElem? fun j => ?_
    by_cases hj : a + j < b
    · rw [hat j hj, hpartAt j hj]
      cases hc : v[a + j]? with
      | none => rfl
      | some c =>
        rw [Option.bind_some, Option.bind_some]
        by_cases hcs : c = capitalSigma
        · subst hcs
          rw [head?_image_sigma, head?_image_sigma, hsigma (a + j) (Nat.le_add_right a j) hj hc]
        · rw [head?_image_of_ne hcs, head?_image_of_ne hcs]
    · rw [getElem?_slice, if_neg hj, lower, getElem?_lowerFrom hpart, getElem?_slice, if_neg hj]
      rfl

end CaseTables

/-- What is read around every position is as the view has it exactly when the view is aligned with
its lower-casing. -/
theorem faithful_iff (U : Unicode) (M : CaseTables) (hU : U.lower = M.lower) (hM : M.Total)
    (msg : Message) (hmsg : msg.lower = U.lower msg.view) : msg.Faithful U ↔ Aligned M msg := by
  rw [Message.Faithful, hmsg, hU]
  constructor
  · intro h
    have hsingle : CaseTables.Single M msg.view := by
      refine CaseTables.single_of_length hM [] msg.view ?_
      have hend := h msg.view.length le_rfl (msg.view.length, msg.view.length + 24)
        (by simp [Message.windows])
      have hlength := congrArg List.length hend
      simp only [slice, List.drop_length, List.take_nil, CaseTables.lower, CaseTables.lowerFrom,
        List.length_nil, List.length_take, List.length_drop] at hlength
      omega
    exact ⟨hsingle, fun pos hpos w hw =>
      (CaseTables.slice_lower_iff hsingle w.1 w.2).mp (h pos hpos w hw)⟩
  · intro h pos hpos w hw
    exact (CaseTables.slice_lower_iff h.single w.1 w.2).mpr (h.sigma pos hpos w hw)

/-! ### A shifted negation -/

section Sample

/-- The dotted capital I lower-cases to two characters. -/
def dottedI : Char := Char.ofNat 0x130

def dottedTables : CaseTables where
  lowercase c := if c = dottedI then ['i', Char.ofNat 0x307] else [c.toLower]
  cased := Char.isAlpha
  ignorable c := c == Char.ofNat 0x307

lemma dottedTables_total : dottedTables.Total := by
  intro c
  simp only [dottedTables]
  split_ifs <;> exact List.cons_ne_nil _ _

def dottedUnicode : Unicode where
  category c := if c.isAlpha then "Ll" else if c == ' ' then "Zs" else "Mn"
  name _ := "LATIN SMALL LETTER"
  isAlpha := Char.isAlpha
  nfkc := id
  lower := dottedTables.lower

/-- The pack finds a negation where the word stands. -/
def neverPack : Pack where
  finditer p t pos stop :=
    match p with
    | .negation => ((List.range stop).filter fun i =>
        pos ≤ i && i + 5 ≤ stop && slice t i (i + 5) == "never".toList).map fun i => ⟨i, i + 5, []⟩
    | _ => []
  matchesAtStart _ _ := false
  dropTracking := id
  tlds := []
  shorteners := []
  secondLevel := []
  enWords := []
  hiWords := []
  euWords := []
  confusables := []
  configRef := "TL-XPACK-1.0.0"

/-- The message that says never to share a code, after some dotted letters. -/
def warningAfter (n : ℕ) : Message :=
  let text := List.replicate n dottedI ++ " never share your OTP".toList
  Message.of dottedUnicode neverPack text text "SMS" none

/-- How the request of the message is read. -/
def readAs (n : ℕ) : Runtime.StructuralPolarity :=
  ((warningAfter n).structureAt neverPack (n + 7) true).polarity

/-- Two letters before a warning make a request of it. -/
theorem warning_read_as_request :
    readAs 0 = .NEGATED ∧ readAs 2 = .AFFIRMED ∧ ¬(warningAfter 2).Faithful dottedUnicode := by
  refine ⟨by decide +kernel, by decide +kernel, fun h => ?_⟩
  have haligned := (faithful_iff dottedUnicode dottedTables rfl dottedTables_total
    (warningAfter 2) rfl).mp h
  have hsingle := haligned.single dottedI (by decide +kernel) (by decide)
  exact absurd hsingle (by decide +kernel)

theorem faithful_iff_sample : (warningAfter 0).Faithful dottedUnicode ↔
    Aligned dottedTables (warningAfter 0) :=
  faithful_iff dottedUnicode dottedTables rfl dottedTables_total (warningAfter 0) rfl

end Sample

end TrustLens.Backend.Extraction
