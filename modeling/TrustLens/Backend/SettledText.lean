import TrustLens.Backend.Normalization

/-!
# When normalizing is done

A normalized text is normalized again to itself, and has its whitespace in single characters
between others, exactly when what the clusters of the submitted text decompose to leaves it so:
a decomposition may bring a space to where one stands, or a mark to a character it composes with.
-/

namespace TrustLens.Backend.Extraction

open PyText (isSpace)

/-- What holds of NFKC and of the categories. -/
structure Unicode.Standard (U : Unicode) : Prop where
  idempotent : ∀ t, U.nfkc (U.nfkc t) = U.nfkc t
  /-- a part of a text in normal form is in normal form -/
  closed : ∀ s t, s <:+: t → U.nfkc t = t → U.nfkc s = s
  nonempty : ∀ t, t ≠ [] → U.nfkc t ≠ []
  marks : ∀ c, combining U c = true → isSpace c = false
  spaces : ∀ c, isSpace c = true → invisible U c = false

/-- No two whitespace characters follow each other. -/
def Spaced (t : Text) : Prop := t.IsChain fun a b => ¬(isSpace a = true ∧ isSpace b = true)

/-- The normalized text has no run of whitespace, none at its ends, and is normalized. -/
structure FixedPoint (U : Unicode) (raw : Text) : Prop where
  spaced : Spaced (normalizedText U raw)
  starts : ∀ c ∈ (normalizedText U raw).head?, isSpace c = false
  ends : ∀ c ∈ (normalizedText U raw).getLast?, isSpace c = false
  again : normalizedText U (normalizedText U raw) = normalizedText U raw

/-- The character that a mark after the text would combine with, with the marks it has. -/
def lastCluster (U : Unicode) (t : Text) : Text :=
  ((t.rdropWhile (combining U)).getLast?.filter fun c => !isSpace c).toList ++
    t.rtakeWhile (combining U)

def leadingMarks (U : Unicode) (t : Text) : Text := t.takeWhile (combining U)

/-- The tokens show a settled text: what a cluster decomposes to has plain whitespace, nothing
invisible, no whitespace beside other whitespace or at the ends, and its leading marks are in
normal form with the character they come after. -/
structure Settles (U : Unicode) (ts : List Token) : Prop where
  plain : ∀ x ∈ ts, ∀ c ∈ x.shown U, isSpace c = true → c = ' ' ∨ c = '\n'
  visible : ∀ x ∈ ts, ∀ c ∈ x.shown U, invisible U c = false
  spaced : ∀ x ∈ ts, Spaced (x.shown U)
  apart : ts.IsChain fun x y => ∀ a ∈ (x.shown U).getLast?, ∀ b ∈ (y.shown U).head?,
    ¬(isSpace a = true ∧ isSpace b = true)
  starts : ∀ x ∈ ts.head?, ∀ c ∈ (x.shown U).head?, isSpace c = false
  ends : ∀ x ∈ ts.getLast?, ∀ c ∈ (x.shown U).getLast?, isSpace c = false
  composed : ∀ before x after, ts = before ++ x :: after →
    let joined := lastCluster U (row U before) ++ leadingMarks U (x.shown U)
    U.nfkc joined = joined

/-! ### Texts in normal form, cluster by cluster -/

section Composed

variable {U : Unicode}

/-- Every cluster of the text is in normal form. -/
def Composed (U : Unicode) (t : Text) : Prop := ∀ k, k <:+: t → IsCluster U k → U.nfkc k = k

lemma Composed.mono {s t : Text} (h : Composed U t) (hst : s <:+: t) : Composed U s :=
  fun k hk hcluster => h k (hk.trans hst) hcluster

lemma composed_of_normal (hU : U.Standard) {t : Text} (h : U.nfkc t = t) : Composed U t :=
  fun k hk _ => hU.closed k t hk h

lemma nfkc_nil (hU : U.Standard) : U.nfkc [] = [] :=
  hU.closed [] (U.nfkc []) List.nil_infix (hU.idempotent [])

lemma isCluster_marks (hU : U.Standard) {marks : Text} (hne : marks ≠ [])
    (h : ∀ d ∈ marks, combining U d = true) : IsCluster U marks := by
  cases marks with
  | nil => exact absurd rfl hne
  | cons c rest =>
    exact ⟨c, rest, rfl, hU.marks c (h c List.mem_cons_self),
      fun d hd => h d (List.mem_cons_of_mem c hd)⟩

lemma mem_rtakeWhile {p : Char → Bool} {t : Text} {c : Char} (h : c ∈ t.rtakeWhile p) :
    p c = true := by
  rw [List.rtakeWhile, List.mem_reverse] at h
  exact List.mem_takeWhile_imp h

lemma lastCluster_suffix (t : Text) : lastCluster U t <:+ t := by
  have ht : t.rdropWhile (combining U) ++ t.rtakeWhile (combining U) = t :=
    List.rdropWhile_append_rtakeWhile
  cases h : (t.rdropWhile (combining U)).getLast? with
  | none =>
    rw [lastCluster, h]
    exact ⟨_, ht⟩
  | some c =>
    obtain ⟨front, hfront⟩ := List.getLast?_eq_some_iff.mp h
    rw [lastCluster, h]
    by_cases hc : isSpace c = true
    · rw [Option.filter_some_neg (by simp [hc])]
      exact ⟨_, ht⟩
    · rw [Option.filter_some_pos (by simp [hc])]
      refine ⟨front, ?_⟩
      rw [← List.append_assoc]
      simpa [hfront] using ht

lemma joined_cluster (hU : U.Standard) (s t : Text)
    (hne : lastCluster U s ++ leadingMarks U t ≠ []) :
    IsCluster U (lastCluster U s ++ leadingMarks U t) := by
  have hmarks : ∀ d ∈ s.rtakeWhile (combining U) ++ leadingMarks U t, combining U d = true := by
    intro d hd
    rcases List.mem_append.mp hd with hd | hd
    · exact mem_rtakeWhile hd
    · exact List.mem_takeWhile_imp hd
  rw [lastCluster, List.append_assoc] at hne ⊢
  cases h : (s.rdropWhile (combining U)).getLast?.filter fun c => !isSpace c with
  | none =>
    rw [h] at hne
    exact isCluster_marks hU hne hmarks
  | some c =>
    have hc := (Option.filter_eq_some_iff.mp h).2
    exact ⟨c, _, rfl, by simpa using hc, hmarks⟩

/-- A cluster that ends a text is within the last one. -/
lemma suffix_lastCluster {s k : Text} (hs : k <:+ s) (hk : IsCluster U k) :
    k <:+ lastCluster U s := by
  obtain ⟨front, rfl⟩ := hs
  obtain ⟨c, marks, rfl, hc, hmarks⟩ := hk
  have hall : ∀ d ∈ marks.reverse, combining U d = true :=
    fun d hd => hmarks d (List.mem_reverse.mp hd)
  have hrev : (front ++ c :: marks).reverse = marks.reverse ++ c :: front.reverse := by simp
  by_cases hcomb : combining U c = true
  · refine List.IsSuffix.trans ?_ (List.suffix_append _ _)
    rw [List.rtakeWhile, hrev, List.takeWhile_append_of_pos hall, List.takeWhile_cons_of_pos hcomb]
    exact ⟨(front.reverse.takeWhile (combining U)).reverse, by simp⟩
  · have hdrop : (front ++ c :: marks).rdropWhile (combining U) = front ++ [c] := by
      rw [List.rdropWhile, hrev, List.dropWhile_append_of_pos hall, List.dropWhile_cons_of_neg hcomb]
      simp
    have htake : (front ++ c :: marks).rtakeWhile (combining U) = marks := by
      rw [List.rtakeWhile, hrev, List.takeWhile_append_of_pos hall, List.takeWhile_cons_of_neg hcomb]
      simp
    rw [lastCluster, hdrop, htake, List.getLast?_concat, Option.filter_some_pos (by simp [hc])]
    exact List.suffix_rfl

lemma isCluster_of_initial {s k : Text} (hk : IsCluster U k) (hs : s <+: k) (hne : s ≠ []) :
    IsCluster U s := by
  obtain ⟨c, marks, rfl, hc, hmarks⟩ := hk
  obtain rfl | ⟨rest, rfl, hrest⟩ := List.prefix_cons_iff.mp hs
  · exact absurd rfl hne
  · exact ⟨c, rest, rfl, hc, fun d hd => hmarks d (hrest.subset hd)⟩

lemma composed_append_iff (hU : U.Standard) (s t : Text) :
    Composed U (s ++ t) ↔ Composed U s ∧ Composed U t ∧
      U.nfkc (lastCluster U s ++ leadingMarks U t) = lastCluster U s ++ leadingMarks U t := by
  constructor
  · intro h
    refine ⟨h.mono (List.prefix_append s t).isInfix, h.mono (List.suffix_append s t).isInfix, ?_⟩
    by_cases hne : lastCluster U s ++ leadingMarks U t = []
    · rw [hne, nfkc_nil hU]
    · refine h _ (List.infix_append_iff.mpr (.inr (.inr ⟨_, _, rfl, lastCluster_suffix s,
        List.takeWhile_prefix _⟩))) (joined_cluster hU s t hne)
  · rintro ⟨hs, ht, hjoined⟩ k hk hcluster
    obtain h | h | ⟨front, back, hfront, hback, rfl, hsuffix, hprefix⟩ :=
      List.infix_append_iff_ne_nil.mp hk
    · exact hs k h hcluster
    · exact ht k h hcluster
    · have hlast := suffix_lastCluster hsuffix
        (isCluster_of_initial hcluster (List.prefix_append front back) hfront)
      have hlead : back <+: leadingMarks U t := by
        obtain ⟨c, marks, hk, -, hmarks⟩ := hcluster
        obtain ⟨d, rest, rfl⟩ := List.exists_cons_of_ne_nil hfront
        have hback : ∀ d ∈ back, combining U d = true := by
          intro d hd
          refine hmarks d ?_
          rw [← (List.cons.inj hk).2]
          exact List.mem_append_right rest hd
        obtain ⟨rest', rfl⟩ := hprefix
        rw [leadingMarks, List.takeWhile_append_of_pos hback]
        exact List.prefix_append _ _
      refine hU.closed _ _ ?_ hjoined
      exact List.infix_append_iff.mpr (.inr (.inr ⟨front, back, rfl, hlast, hlead⟩))

lemma composed_space {c : Char} (hc : isSpace c = true) : Composed U [c] := by
  rintro k hk ⟨d, marks, rfl, hd, -⟩
  have hdc : d = c := by simpa using hk.subset List.mem_cons_self
  rw [hdc, hc] at hd
  cases hd

end Composed

/-! ### The row of the tokens -/

section Row

variable {U : Unicode}

lemma isSpace_gap (run : Text) : isSpace (if run.any isLineBreak then '\n' else ' ') = true := by
  split_ifs <;> rfl

lemma composed_shown (hU : U.Standard) {x : Token} : Composed U (x.shown U) := by
  cases x with
  | gap run => exact composed_space (isSpace_gap run)
  | hidden c => exact composed_of_normal hU (nfkc_nil hU)
  | cluster chars => exact composed_of_normal hU (hU.idempotent chars)

/-- Every cluster of the row is in normal form when every mark is with what it comes after. -/
lemma composed_row_iff (hU : U.Standard) (ts : List Token) : Composed U (row U ts) ↔
    ∀ before x after, ts = before ++ x :: after →
      let joined := lastCluster U (row U before) ++ leadingMarks U (x.shown U)
      U.nfkc joined = joined := by
  induction ts using List.reverseRecOn with
  | nil =>
    refine iff_of_true (composed_of_normal hU (nfkc_nil hU)) ?_
    intro before x after h
    simp at h
  | append_singleton ts y ih =>
    have hrow : row U (ts ++ [y]) = row U ts ++ y.shown U := by simp [row]
    rw [hrow, composed_append_iff hU, ih]
    constructor
    · rintro ⟨hts, -, hlast⟩ before x after heq
      obtain rfl | ⟨after', z, rfl⟩ := List.eq_nil_or_concat' after
      · obtain ⟨rfl, hx⟩ := List.append_inj' heq rfl
        obtain rfl : y = x := List.singleton_inj.mp hx
        exact hlast
      · rw [← List.cons_append, ← List.append_assoc] at heq
        exact hts before x after' (List.append_inj' heq rfl).1
    · intro h
      exact ⟨fun before x after heq => h before x (after ++ [y]) (by rw [heq]; simp),
        composed_shown hU, h ts y [] rfl⟩

/-! ### Texts that normalize to themselves -/

/-- What a token shows is no longer than its source with the source in it. -/
lemma shown_covers (hU : U.Standard) {x : Token} (hx : x.Shaped U) {front back : Text}
    (h : x.shown U = front ++ x.source ++ back) : front = [] ∧ back = [] := by
  have hlength : (x.shown U).length = front.length + x.source.length + back.length := by
    rw [h, List.length_append, List.length_append]
  have hle : (x.shown U).length ≤ x.source.length := by
    cases x with
    | gap run => exact List.length_pos_iff.mpr hx.source_ne_nil
    | hidden c => exact Nat.zero_le _
    | cluster chars =>
      have hnormal : U.nfkc chars = chars := by
        refine hU.closed chars (U.nfkc chars) ?_ (hU.idempotent chars)
        change U.nfkc chars = _ at h
        rw [h]
        exact List.infix_append _ _ _
      exact le_of_eq (congrArg List.length hnormal)
  exact ⟨List.length_eq_zero_iff.mp (by omega), List.length_eq_zero_iff.mp (by omega)⟩

/-- What some of the tokens show never catches up with the text once it is behind: it is the text
only when all of them are shown as they are. -/
lemma shown_of_row_eq (hU : U.Standard) {vs ts : List Token} (hsub : vs.Sublist ts) (hshaped : ∀ x ∈ ts, x.Shaped U)
    {behind : Text} (h : row U vs = behind ++ ts.flatMap Token.source) :
    behind = [] ∧ vs = ts ∧ ∀ x ∈ ts, x.shown U = x.source := by
  induction hsub generalizing behind with
  | slnil => exact ⟨by simpa [row] using h.symm, rfl, by simp⟩
  | @cons vs ts x _ ih =>
    rw [List.flatMap_cons, ← List.append_assoc] at h
    obtain ⟨hbehind, -⟩ := ih (fun y hy => hshaped y (List.mem_cons_of_mem x hy)) h
    exact absurd (List.append_eq_nil_iff.mp hbehind).2
      (hshaped x List.mem_cons_self).source_ne_nil
  | @cons_cons vs ts x _ ih =>
    have hx := hshaped x List.mem_cons_self
    have hrest : ∀ y ∈ ts, y.Shaped U := fun y hy => hshaped y (List.mem_cons_of_mem x hy)
    rw [row, List.flatMap_cons, List.flatMap_cons, ← List.append_assoc] at h
    have hcover : ∃ back, x.shown U = behind ++ x.source ++ back ∧
        back ++ row U vs = ts.flatMap Token.source := by
      rcases List.append_eq_append_iff.mp h with ⟨more, hmore, hrow⟩ | ⟨back, hback, hts⟩
      · obtain ⟨rfl, -⟩ := ih hrest hrow
        exact ⟨[], by rw [hmore, List.append_nil, List.append_nil], hrow⟩
      · exact ⟨back, hback, hts.symm⟩
    obtain ⟨back, hshown, hrow⟩ := hcover
    obtain ⟨rfl, rfl⟩ := shown_covers hU hx hshown
    have hrow' : row U vs = [] ++ ts.flatMap Token.source := by simpa using hrow
    obtain ⟨-, rfl, hall⟩ := ih hrest hrow'
    refine ⟨rfl, rfl, fun y hy => ?_⟩
    rcases List.mem_cons.mp hy with rfl | hy
    · simpa using hshown
    · exact hall y hy

lemma inner_sublist (ts : List Token) : (inner ts).Sublist ts :=
  ((List.rdropWhile_prefix _ _).sublist.trans (List.dropWhile_sublist _)).trans List.filter_sublist

lemma lastCluster_space (hU : U.Standard) {c : Char} (hc : isSpace c = true) :
    lastCluster U [c] = [] := by
  have hcomb : ¬combining U c = true := fun h => by
    rw [hU.marks c h] at hc
    cases hc
  simp [lastCluster, List.rdropWhile_singleton, List.rtakeWhile, hcomb, hc]

lemma leadingMarks_dropWhile (t : Text) : leadingMarks U (t.dropWhile (combining U)) = [] := by
  rw [leadingMarks, List.takeWhile_eq_nil_iff]
  intro h
  have := List.head_dropWhile_not (combining U) (l := t) (List.ne_nil_of_length_pos h)
  simpa [List.head_eq_getElem] using this

/-- A text whose tokens are all shown as they are has its clusters in normal form. -/
lemma composed_of_shown (hU : U.Standard) (t : Text) (h : ∀ x ∈ tokens U t, x.shown U = x.source) : Composed U t := by
  induction t using tokens_induction (U := U) with
  | nil => exact composed_of_normal hU (nfkc_nil hU)
  | gap c rest hc ih =>
    rw [tokens_gap hc] at h
    have hrest := ih fun x hx => h x (List.mem_cons_of_mem _ hx)
    have hrun : rest.takeWhile (blank U) = [] := by
      have hlength := congrArg List.length (h _ List.mem_cons_self)
      simpa [Token.shown, Token.source] using hlength.symm
    have hdrop : rest.dropWhile (blank U) = rest := by
      conv_rhs => rw [← List.takeWhile_append_dropWhile (p := blank U) (l := rest), hrun]
      rfl
    rw [hdrop] at hrest
    refine (composed_append_iff hU [c] rest).mpr ⟨composed_space hc, hrest, ?_⟩
    rw [lastCluster_space hU hc, List.nil_append]
    by_cases hne : leadingMarks U rest = []
    · rw [hne, nfkc_nil hU]
    · exact hrest _ (List.takeWhile_prefix _).isInfix
        (isCluster_marks hU hne fun d hd => List.mem_takeWhile_imp hd)
  | hidden c rest hc hi ih =>
    rw [tokens_hidden hc hi] at h
    cases h _ List.mem_cons_self
  | cluster c rest hc hi ih =>
    rw [tokens_cluster hc hi] at h
    have hrest := ih fun x hx => h x (List.mem_cons_of_mem _ hx)
    have hnormal : U.nfkc (c :: rest.takeWhile (combining U)) = c :: rest.takeWhile (combining U) :=
      h _ List.mem_cons_self
    have hwhole : c :: rest = (c :: rest.takeWhile (combining U)) ++ rest.dropWhile (combining U) := by
      rw [List.cons_append, List.takeWhile_append_dropWhile]
    rw [hwhole, composed_append_iff hU]
    refine ⟨composed_of_normal hU hnormal, hrest, ?_⟩
    rw [leadingMarks_dropWhile, List.append_nil]
    exact hU.closed _ _ (lastCluster_suffix _).isInfix hnormal

/-- The tokens of a text in normal form, with single plain whitespace, are shown as they are. -/
lemma shown_of_composed {t : Text} (hplain : ∀ c ∈ t, isSpace c = true → c = ' ' ∨ c = '\n')
    (hvisible : ∀ c ∈ t, invisible U c = false) (hspaced : Spaced t) (hcomposed : Composed U t)
    {x : Token} (hx : x ∈ tokens U t) : x.shown U = x.source := by
  have hsource : x.source <:+: t := by
    obtain ⟨before, after, hsplit⟩ := List.append_of_mem hx
    refine ⟨before.flatMap Token.source, after.flatMap Token.source, ?_⟩
    conv_rhs => rw [← source_tokens (U := U) t, hsplit]
    simp
  have hshaped := shaped_of_mem_tokens hx
  cases x with
  | gap run =>
    obtain ⟨c, blanks, rfl, hc, hblanks⟩ := hshaped
    cases blanks with
    | nil =>
      rcases hplain c (hsource.subset List.mem_cons_self) hc with rfl | rfl <;> rfl
    | cons d rest =>
      have hd := hblanks d List.mem_cons_self
      have hdt := hvisible d (hsource.subset (List.mem_cons_of_mem c List.mem_cons_self))
      rw [blank, hdt, Bool.or_false] at hd
      have hchain := List.IsChain.infix hspaced hsource
      exact absurd ⟨hc, hd⟩ (List.isChain_cons_cons.mp hchain).1
  | hidden c =>
    have := hvisible c (hsource.subset List.mem_cons_self)
    rw [show invisible U c = true from hshaped] at this
    cases this
  | cluster chars => exact hcomposed chars hsource hshaped.1

lemma visible_of_combining {c : Char} (h : combining U c = true) : invisible U c = false := by
  rw [combining] at h
  rw [invisible, beq_eq_false_iff_ne]
  intro hcf
  simp [hcf] at h

/-- The characters of a token that is shown as it is. -/
lemma plain_of_shown (hU : U.Standard) {x : Token} (hx : x.Shaped U) (h : x.shown U = x.source) {c : Char}
    (hc : c ∈ x.source) : invisible U c = false ∧ (isSpace c = true → c = ' ' ∨ c = '\n') := by
  cases x with
  | gap run =>
    rw [← h, Token.shown, List.mem_singleton] at hc
    refine ⟨hU.spaces c (hc ▸ isSpace_gap run), fun _ => ?_⟩
    rw [hc]
    split_ifs
    · exact .inr rfl
    · exact .inl rfl
  | hidden d => cases h
  | cluster chars =>
    obtain ⟨⟨d, marks, rfl, hd, hmarks⟩, hfirst⟩ := hx
    rcases List.mem_cons.mp hc with rfl | hc
    · exact ⟨hfirst c rfl, fun hspace => absurd hspace (by simp [hd])⟩
    · have hcomb := hmarks c hc
      exact ⟨visible_of_combining hcomb, fun hspace => absurd hspace (by simp [hU.marks c hcomb])⟩

/-- Nothing is left out of tokens that are all shown as they are, with no gap at the ends. -/
lemma inner_eq_self {ts : List Token}
    (hshown : ∀ x ∈ ts, x.shown U = x.source)
    (hstarts : ∀ c ∈ (ts.flatMap Token.source).head?, isSpace c = false)
    (hends : ∀ c ∈ (ts.flatMap Token.source).getLast?, isSpace c = false) : inner ts = ts := by
  have hgap : ∀ x ∈ ts, x.isGap = true → ∃ c, x.source = [c] ∧ isSpace c = true := by
    intro x hx hxgap
    cases x with
    | gap run => exact ⟨_, (hshown _ hx).symm, isSpace_gap run⟩
    | _ => cases hxgap
  have hvisible : (ts.filter fun x => !x.isHidden) = ts := by
    refine List.filter_eq_self.mpr fun x hx => ?_
    cases x with
    | hidden c => cases hshown _ hx
    | _ => rfl
  have hdrop : ts.dropWhile Token.isGap = ts := by
    cases ts with
    | nil => rfl
    | cons x rest =>
      refine List.dropWhile_cons_of_neg fun hxgap => ?_
      obtain ⟨c, hsource, hc⟩ := hgap x List.mem_cons_self hxgap
      rw [List.flatMap_cons, hsource] at hstarts
      rw [hstarts c rfl] at hc
      cases hc
  rw [inner, hvisible, hdrop, List.rdropWhile_eq_self_iff]
  intro hne hlast
  obtain ⟨c, hsource, hc⟩ := hgap _ (List.getLast_mem hne) hlast
  rw [← List.dropLast_append_getLast hne, List.flatMap_append, List.flatMap_singleton, hsource,
    List.getLast?_concat] at hends
  rw [hends c rfl] at hc
  cases hc

lemma normalizedText_eq_self_iff (hU : U.Standard) {t : Text} (hspaced : Spaced t)
    (hstarts : ∀ c ∈ t.head?, isSpace c = false) (hends : ∀ c ∈ t.getLast?, isSpace c = false) :
    normalizedText U t = t ↔ (∀ c ∈ t, isSpace c = true → c = ' ' ∨ c = '\n') ∧
      (∀ c ∈ t, invisible U c = false) ∧ Composed U t := by
  have hshaped : ∀ x ∈ tokens U t, x.Shaped U := fun _ => shaped_of_mem_tokens
  rw [normalizedText_eq hU.nonempty]
  constructor
  · intro h
    have hrow : row U (inner (tokens U t)) = [] ++ (tokens U t).flatMap Token.source := by
      rw [source_tokens, h, List.nil_append]
    obtain ⟨-, -, hshown⟩ := shown_of_row_eq hU (inner_sublist _) hshaped hrow
    have hchars : ∀ c ∈ t, invisible U c = false ∧ (isSpace c = true → c = ' ' ∨ c = '\n') := by
      intro c hc
      rw [← source_tokens (U := U) t] at hc
      obtain ⟨x, hx, hc⟩ := List.mem_flatMap.mp hc
      exact plain_of_shown hU (hshaped x hx) (hshown x hx) hc
    exact ⟨fun c hc => (hchars c hc).2, fun c hc => (hchars c hc).1, composed_of_shown hU t hshown⟩
  · rintro ⟨hplain, hvisible, hcomposed⟩
    have hshown : ∀ x ∈ tokens U t, x.shown U = x.source :=
      fun x hx => shown_of_composed hplain hvisible hspaced hcomposed hx
    rw [inner_eq_self hshown (by rwa [source_tokens]) (by rwa [source_tokens]), row]
    calc (tokens U t).flatMap (Token.shown U)
        = (tokens U t).flatMap Token.source := List.flatMap_congr hshown
      _ = t := source_tokens t

/-! ### The exact condition -/

lemma mem_inner {ts : List Token} {x : Token} (hx : x ∈ inner ts) : x ∈ ts ∧ x.isHidden = false := by
  have hfilter := (List.dropWhile_sublist _).subset ((List.rdropWhile_prefix _ _).subset hx)
  simpa using List.mem_filter.mp hfilter

lemma shown_ne_nil (hU : U.Standard) {x : Token} (hx : x.Shaped U) (hhidden : x.isHidden = false) :
    x.shown U ≠ [] := by
  cases x with
  | gap run => exact List.cons_ne_nil _ _
  | hidden c => cases hhidden
  | cluster chars => exact hU.nonempty chars hx.source_ne_nil

lemma spaced_row_iff {ts : List Token} (hne : ∀ x ∈ ts, x.shown U ≠ []) :
    Spaced (row U ts) ↔ (∀ x ∈ ts, Spaced (x.shown U)) ∧
      ts.IsChain fun x y => ∀ a ∈ (x.shown U).getLast?, ∀ b ∈ (y.shown U).head?,
        ¬(isSpace a = true ∧ isSpace b = true) := by
  have hnil : [] ∉ ts.map (Token.shown U) := fun h => by
    obtain ⟨x, hx, hshown⟩ := List.mem_map.mp h
    exact hne x hx hshown
  rw [Spaced, row, List.flatMap_def, List.isChain_flatten hnil, List.isChain_map]
  simp only [List.mem_map, forall_exists_index, and_imp, forall_apply_eq_imp_iff₂]
  rfl

lemma head_row_iff {ts : List Token} (hne : ∀ x ∈ ts, x.shown U ≠ []) :
    (∀ c ∈ (row U ts).head?, isSpace c = false) ↔
      ∀ x ∈ ts.head?, ∀ c ∈ (x.shown U).head?, isSpace c = false := by
  cases ts with
  | nil => simp [row]
  | cons x rest =>
    rw [row, List.flatMap_cons, List.head?_append_of_ne_nil _ (hne x List.mem_cons_self)]
    simp

lemma getLast_row_iff {ts : List Token} (hne : ∀ x ∈ ts, x.shown U ≠ []) :
    (∀ c ∈ (row U ts).getLast?, isSpace c = false) ↔
      ∀ x ∈ ts.getLast?, ∀ c ∈ (x.shown U).getLast?, isSpace c = false := by
  induction ts using List.reverseRecOn with
  | nil => simp [row]
  | append_singleton rest x =>
    have hx := hne x (by simp)
    rw [row, List.flatMap_append, List.flatMap_singleton, List.getLast?_append_of_ne_nil _ hx]
    simp

/-- The normalized text is a settled one exactly when the tokens of the submitted text settle. -/
theorem fixedPoint_iff (U : Unicode) (hU : U.Standard) (raw : Text) :
    FixedPoint U raw ↔ Settles U (inner (tokens U raw)) := by
  have htext := normalizedText_eq hU.nonempty raw
  have hne : ∀ x ∈ inner (tokens U raw), x.shown U ≠ [] := fun x hx =>
    shown_ne_nil hU (shaped_of_mem_tokens (mem_inner hx).1) (mem_inner hx).2
  constructor
  · rintro ⟨hspaced, hstarts, hends, hagain⟩
    obtain ⟨hplain, hvisible, hcomposed⟩ :=
      (normalizedText_eq_self_iff hU hspaced hstarts hends).mp hagain
    rw [htext] at hspaced hstarts hends hplain hvisible hcomposed
    obtain ⟨heach, hapart⟩ := (spaced_row_iff hne).mp hspaced
    exact
      { plain := fun x hx c hc => hplain c (List.mem_flatMap_of_mem hx hc)
        visible := fun x hx c hc => hvisible c (List.mem_flatMap_of_mem hx hc)
        spaced := heach
        apart := hapart
        starts := (head_row_iff hne).mp hstarts
        ends := (getLast_row_iff hne).mp hends
        composed := (composed_row_iff hU _).mp hcomposed }
  · intro h
    have hspaced : Spaced (normalizedText U raw) := by
      rw [htext]
      exact (spaced_row_iff hne).mpr ⟨h.spaced, h.apart⟩
    have hstarts : ∀ c ∈ (normalizedText U raw).head?, isSpace c = false := by
      rw [htext]
      exact (head_row_iff hne).mpr h.starts
    have hends : ∀ c ∈ (normalizedText U raw).getLast?, isSpace c = false := by
      rw [htext]
      exact (getLast_row_iff hne).mpr h.ends
    refine ⟨hspaced, hstarts, hends, (normalizedText_eq_self_iff hU hspaced hstarts hends).mpr ?_⟩
    rw [htext]
    refine ⟨fun c hc => ?_, fun c hc => ?_, (composed_row_iff hU _).mpr h.composed⟩
    · obtain ⟨x, hx, hc⟩ := List.mem_flatMap.mp hc
      exact h.plain x hx c hc
    · obtain ⟨x, hx, hc⟩ := List.mem_flatMap.mp hc
      exact h.visible x hx c hc

end Row

/-! ### A decomposition that brings a space -/

section Sample

/-- The diaeresis decomposes to a space and a combining mark. -/
def decomposed (c : Char) : Text :=
  if c = Char.ofNat 0xa8 then [' ', Char.ofNat 0x308] else [c]

def diaeresisUnicode : Unicode where
  category c := if c = Char.ofNat 0x308 then "Mn" else if isSpace c then "Zs" else "Ll"
  name _ := ""
  isAlpha _ := true
  nfkc t := t.flatMap decomposed
  lower t := t

lemma decomposed_eq_self {t : Text} (h : Char.ofNat 0xa8 ∉ t) : t.flatMap decomposed = t := by
  calc t.flatMap decomposed = t.flatMap fun c => [c] :=
        List.flatMap_congr fun c hc => if_neg fun heq : c = Char.ofNat 0xa8 => h (heq ▸ hc)
    _ = t := by simp

lemma not_mem_decomposed (t : Text) : Char.ofNat 0xa8 ∉ t.flatMap decomposed := by
  intro h
  obtain ⟨c, -, hc⟩ := List.mem_flatMap.mp h
  unfold decomposed at hc
  split_ifs at hc with heq
  · revert hc
    decide
  · exact heq (List.mem_singleton.mp hc).symm

lemma diaeresisUnicode_standard : diaeresisUnicode.Standard where
  idempotent t := decomposed_eq_self (not_mem_decomposed t)
  closed s t hst ht := decomposed_eq_self fun hs =>
    not_mem_decomposed t ((show t.flatMap decomposed = t from ht).symm ▸ hst.subset hs)
  nonempty t ht := by
    obtain ⟨c, rest, rfl⟩ := List.exists_cons_of_ne_nil ht
    simp only [diaeresisUnicode, List.flatMap_cons, decomposed]
    split_ifs <;> simp
  marks c hc := by
    by_contra hspace
    simp only [Bool.not_eq_false] at hspace
    by_cases hmark : c = Char.ofNat 0x308
    · subst hmark
      revert hspace
      decide
    · simp [combining, diaeresisUnicode, hmark, hspace] at hc
  spaces c hc := by
    simp only [invisible, diaeresisUnicode]
    split_ifs <;> rfl

/-- A diaeresis on its own after a space leaves two spaces. -/
theorem decomposition_brings_space :
    ¬∀ U : Unicode, U.Standard → ∀ raw, FixedPoint U raw := by
  intro h
  have hspaced := (h diaeresisUnicode diaeresisUnicode_standard
    ['a', ' ', Char.ofNat 0xa8]).spaced
  have htext : normalizedText diaeresisUnicode ['a', ' ', Char.ofNat 0xa8] =
      ['a', ' ', ' ', Char.ofNat 0x308] := by decide +kernel
  rw [htext, Spaced] at hspaced
  simp [isSpace] at hspaced

theorem fixedPoint_iff_sample :
    FixedPoint diaeresisUnicode ['a', ' ', ' ', 'b'] ↔
      Settles diaeresisUnicode (inner (tokens diaeresisUnicode ['a', ' ', ' ', 'b'])) :=
  fixedPoint_iff _ diaeresisUnicode_standard _

end Sample

end TrustLens.Backend.Extraction
