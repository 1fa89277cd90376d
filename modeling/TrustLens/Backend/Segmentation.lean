import TrustLens.Backend.Message
import TrustLens.Lib.Spans

/-!
# How a message is divided

The clauses of a message lie one after the other, each in its sentence, and hold every character
that is no whitespace and in no separator the message was cut at.
-/

namespace TrustLens.Backend.Extraction

open PyText (isSpace)
open Span (Laid)

/-- The part of the text a match covers. -/
def Match.span (m : Match) : Span := (m.start, m.stop)

def Clause.span (c : Clause) : Span := (c.start, c.stop)

/-- What holds of the matches in one text: they lie in the region that is searched, one after the
other, and the text of a quotation lies within its marks. -/
structure Pack.Separates (P : Pack) (view : Text) : Prop where
  splits : ∀ p ∈ [Pattern.sentenceSplit, .clauseSplit], ∀ start stop, start ≤ stop →
    stop ≤ view.length → Laid start stop ((P.finditer p view start stop).map Match.span)
  found : ∀ p ∈ [Pattern.url, .bareDomain, .quotation],
    Laid 0 view.length ((P.findAll p view).map Match.span)
  quoted : ∀ m ∈ P.findAll .quotation view, ∀ g ∈ m.groups.head?,
    m.start ≤ g.2.1 ∧ g.2.1 < g.2.2 ∧ g.2.2 ≤ m.stop

/-! ### Cuts -/

section Cuts

variable {P : Pack} {view : Text} {quotes : List Span} {p : Pattern} {start stop pos x : ℕ}
  {ms : List Match} {s : Span} {c : Char}

/-- The matches a region is cut at: those that do not start it and do not start in a quotation. -/
def cutsOf (quotes : List Span) (start : ℕ) (ms : List Match) : List Match :=
  ms.filter fun m => !(covers quotes m.start || m.start == start)

lemma splitAt_eq_pieces : splitAt quotes start stop pos ms =
    Span.pieces stop pos ((cutsOf quotes start ms).map Match.span) := by
  induction ms generalizing pos with
  | nil => rfl
  | cons m ms ih =>
    rw [splitAt, cutsOf]
    split_ifs with hskip
    · rw [List.filter_cons_of_neg (by simp only [hskip]; decide), ih]
      rfl
    · rw [List.filter_cons_of_pos (by simp only [hskip]; decide), ih]
      rfl

lemma laid_cuts (h : Laid start stop (ms.map Match.span)) :
    Laid start stop ((cutsOf quotes start ms).map Match.span) :=
  h.sublist (List.filter_sublist.map _)

/-- The pieces of a region lie one after the other. -/
theorem laid_split (hle : start ≤ stop)
    (h : Laid start stop ((P.finditer p view start stop).map Match.span)) :
    Laid start stop (split P view quotes p start stop) := by
  rw [split, splitAt_eq_pieces]
  exact (Span.laid_pieces (laid_cuts h) hle).sublist List.filter_sublist

/-- They hold the characters of the region that are no whitespace and in no cut. -/
theorem exists_piece_iff (h : Laid start stop ((P.finditer p view start stop).map Match.span))
    (hc : view[x]? = some c) (hspace : isSpace c = false) :
    (∃ s ∈ split P view quotes p start stop, Span.Holds s x) ↔ start ≤ x ∧ x < stop ∧
      ∀ m ∈ cutsOf quotes start (P.finditer p view start stop), ¬m.span.Holds x := by
  have hcuts := List.forall_mem_map (f := Match.span) (P := fun cut => ¬Span.Holds cut x)
    (l := cutsOf quotes start (P.finditer p view start stop))
  rw [← hcuts, ← Span.holds_pieces_iff (laid_cuts h), ← splitAt_eq_pieces]
  constructor
  · rintro ⟨s, hs, hx⟩
    exact ⟨s, (List.mem_filter.mp hs).1, hx⟩
  · rintro ⟨s, hs, hx⟩
    -- the character keeps the piece from being dropped as blank
    refine ⟨s, List.mem_filter.mpr ⟨hs, ?_⟩, hx⟩
    exact List.any_eq_true.mpr ⟨c, mem_slice hc hx.1 hx.2, by simp [hspace]⟩

/-- A piece has a character that is no whitespace. -/
lemma exists_of_mem_split (hs : s ∈ split P view quotes p start stop) :
    ∃ x c, s.Holds x ∧ view[x]? = some c ∧ isSpace c = false := by
  obtain ⟨c, hc, hspace⟩ := List.any_eq_true.mp (List.mem_filter.mp hs).2
  obtain ⟨i, hi⟩ := List.mem_iff_getElem?.mp hc
  have hlength : i < s.2 - s.1 := by
    have hlt := (List.getElem?_eq_some_iff.mp hi).1
    rw [slice, List.length_take] at hlt
    omega
  rw [slice, List.getElem?_take_of_lt hlength, List.getElem?_drop] at hi
  exact ⟨s.1 + i, c, ⟨by omega, by omega⟩, hi, by simpa using hspace⟩

end Cuts

/-! ### Clauses -/

section Clauses

variable (P : Pack) (view : Text) (quotes : List Span)

/-- `_split` into sentences -/
def sentencesOf : List Span := split P view quotes .sentenceSplit 0 view.length

/-- The separators the message is cut at: those between sentences, and those within each. -/
def separatorsOf : List Match :=
  cutsOf quotes 0 (P.finditer .sentenceSplit view 0 view.length) ++
    (sentencesOf P view quotes).flatMap fun s =>
      cutsOf quotes s.1 (P.finditer .clauseSplit view s.1 s.2)

variable {P view quotes} {x : ℕ} {c : Char}

lemma laid_sentences (hP : P.Separates view) : Laid 0 view.length (sentencesOf P view quotes) :=
  laid_split (Nat.zero_le _) (hP.splits _ (by simp) 0 view.length (Nat.zero_le _) le_rfl)

lemma laid_clauseMatches (hP : P.Separates view) {s : Span} (hs : s ∈ sentencesOf P view quotes) :
    Laid s.1 s.2 ((P.finditer .clauseSplit view s.1 s.2).map Match.span) := by
  obtain ⟨-, hle, hstop⟩ := (laid_sentences hP).within s hs
  exact hP.splits _ (by simp) s.1 s.2 hle hstop

lemma map_span_clausesOf : (clausesOf P view quotes).map Clause.span =
    (sentencesOf P view quotes).flatMap fun s => split P view quotes .clauseSplit s.1 s.2 := by
  rw [clausesOf, List.map_flatMap]
  refine List.flatMap_congr fun s _ => ?_
  rw [List.map_map]
  exact List.map_id _

theorem laid_clauses (hP : P.Separates view) :
    Laid 0 view.length ((clausesOf P view quotes).map Clause.span) := by
  rw [map_span_clausesOf]
  refine (laid_sentences hP).flatMap fun s hs => ?_
  exact laid_split ((laid_sentences hP).within s hs).2.1 (laid_clauseMatches hP hs)

lemma mem_clausesOf {clause : Clause} (h : clause ∈ clausesOf P view quotes) :
    (clause.sentenceStart, clause.sentenceStop) ∈ sentencesOf P view quotes ∧
      clause.span ∈ split P view quotes .clauseSplit clause.sentenceStart clause.sentenceStop := by
  simp only [clausesOf, List.mem_flatMap, List.mem_map] at h
  obtain ⟨s, hs, piece, hpiece, rfl⟩ := h
  exact ⟨hs, hpiece⟩

lemma exists_clause_iff : (∃ clause ∈ clausesOf P view quotes, clause.span.Holds x) ↔
    ∃ s ∈ sentencesOf P view quotes, ∃ piece ∈ split P view quotes .clauseSplit s.1 s.2,
      Span.Holds piece x := by
  have hmap : (∃ clause ∈ clausesOf P view quotes, clause.span.Holds x) ↔
      ∃ piece ∈ (clausesOf P view quotes).map Clause.span, Span.Holds piece x := by
    simp only [List.mem_map, exists_exists_and_eq_and]
  rw [hmap, map_span_clausesOf]
  simp only [List.mem_flatMap]
  constructor
  · rintro ⟨piece, ⟨s, hs, hpiece⟩, hx⟩
    exact ⟨s, hs, piece, hpiece, hx⟩
  · rintro ⟨s, hs, piece, hpiece, hx⟩
    exact ⟨piece, ⟨s, hs, hpiece⟩, hx⟩

/-- The clauses hold the characters that are no whitespace and in no separator. -/
theorem exists_clause_iff_notMem_separators (hP : P.Separates view) (hc : view[x]? = some c)
    (hspace : isSpace c = false) : (∃ clause ∈ clausesOf P view quotes, clause.span.Holds x) ↔
      ∀ m ∈ separatorsOf P view quotes, ¬m.span.Holds x := by
  have hx : x < view.length := (List.getElem?_eq_some_iff.mp hc).1
  have hsentence : (∃ s ∈ sentencesOf P view quotes, Span.Holds s x) ↔ 0 ≤ x ∧ x < view.length ∧
      ∀ m ∈ cutsOf quotes 0 (P.finditer .sentenceSplit view 0 view.length), ¬m.span.Holds x :=
    exists_piece_iff (hP.splits .sentenceSplit (by simp) 0 view.length (Nat.zero_le _) le_rfl) hc
      hspace
  rw [exists_clause_iff, separatorsOf, List.forall_mem_append]
  constructor
  · rintro ⟨s, hs, hpiece⟩
    obtain ⟨hlow, hhigh, hout⟩ := (exists_piece_iff (laid_clauseMatches hP hs) hc hspace).mp hpiece
    refine ⟨(hsentence.mp ⟨s, hs, hlow, hhigh⟩).2.2, fun m hm hin => ?_⟩
    obtain ⟨s', hs', hm'⟩ := List.mem_flatMap.mp hm
    -- a cut that holds the character lies in a sentence that does, and there is only one
    obtain ⟨hstart, -, hstop⟩ :=
      (laid_cuts (laid_clauseMatches hP hs')).within m.span (List.mem_map_of_mem hm')
    have hlaid : Laid 0 view.length ((sentencesOf P view quotes).map id) := by
      rw [List.map_id]
      exact laid_sentences hP
    obtain rfl : s = s' := hlaid.eq_of_holds hs hs' ⟨hlow, hhigh⟩
      ⟨hstart.trans hin.1, hin.2.trans_le hstop⟩
    exact hout m hm' hin
  · rintro ⟨hbetween, hwithin⟩
    obtain ⟨s, hs, hin⟩ := hsentence.mpr ⟨Nat.zero_le x, hx, hbetween⟩
    refine ⟨s, hs, (exists_piece_iff (laid_clauseMatches hP hs) hc hspace).mpr ⟨hin.1, hin.2, ?_⟩⟩
    exact fun m hm => hwithin m (List.mem_flatMap.mpr ⟨s, hs, hm⟩)

lemma not_covers_of_mem_cuts {start : ℕ} {ms : List Match} {m : Match}
    (h : m ∈ cutsOf quotes start ms) : covers quotes m.start = false := by
  have hkeep := (List.mem_filter.mp h).2
  rw [Bool.not_eq_true', Bool.or_eq_false_iff] at hkeep
  exact hkeep.1

/-- No separator that starts in a quotation is a cut. -/
lemma not_covers_of_mem_separators {m : Match} (h : m ∈ separatorsOf P view quotes) :
    covers quotes m.start = false := by
  rcases List.mem_append.mp h with h | h
  · exact not_covers_of_mem_cuts h
  · obtain ⟨s, -, hs⟩ := List.mem_flatMap.mp h
    exact not_covers_of_mem_cuts hs

end Clauses

/-! ### Links and quotations -/

section Links

variable {P : Pack} {U : Unicode} {view : Text} {accepted rest candidates : List Span} {n : ℕ}

lemma not_holds_of_covers {spans : List Span} {pos : ℕ} (h : covers spans pos = false) :
    ∀ s ∈ spans, ¬s.Holds pos := by
  intro s hs hin
  rw [covers, List.any_eq_false] at h
  exact h s hs (by simpa [Span.Holds] using hin)

/-- Candidates in the order of their starts are accepted one after the other. -/
lemma laid_acceptSpans (hacc : Laid 0 n accepted) (hne : ∀ s ∈ accepted, s.1 < s.2)
    (hrest : ∀ s ∈ rest, s.2 ≤ n) (hsorted : rest.Pairwise fun a b => a.1 ≤ b.1)
    (hafter : ∀ s ∈ accepted, ∀ r ∈ rest, s.1 ≤ r.1) :
    Laid 0 n (acceptSpans view accepted rest) ∧ ∀ s ∈ acceptSpans view accepted rest, s.1 < s.2 := by
  induction rest generalizing accepted with
  | nil => exact ⟨hacc, hne⟩
  | cons r rest ih =>
    obtain ⟨hfirst, hlater⟩ := List.pairwise_cons.mp hsorted
    have hrest' := fun s hs => hrest s (List.mem_cons_of_mem r hs)
    obtain ⟨start, stop⟩ := r
    rw [acceptSpans]
    split_ifs with haccept
    · obtain ⟨hnonempty, hfree⟩ := haccept
      have htrim : trimEnd view ".,;:!?)'\"".toList start stop ≤ n :=
        (Nat.sub_le _ _).trans (hrest _ List.mem_cons_self)
      have hbefore : ∀ s ∈ accepted, s.2 ≤ start := by
        intro s hs
        have hstart := hafter s hs _ List.mem_cons_self
        have hout := not_holds_of_covers hfree s hs
        unfold Span.Holds at hout
        dsimp only at hstart
        omega
      refine ih ⟨?_, ?_⟩ ?_ hrest' hlater ?_
      · refine List.forall_mem_append.mpr ⟨hacc.within, ?_⟩
        rw [List.forall_mem_singleton]
        exact ⟨Nat.zero_le _, hnonempty.le, htrim⟩
      · refine List.pairwise_append.mpr ⟨hacc.ordered, List.pairwise_singleton _ _, fun s hs t ht => ?_⟩
        rw [List.mem_singleton.mp ht]
        exact hbefore s hs
      · refine List.forall_mem_append.mpr ⟨hne, ?_⟩
        rw [List.forall_mem_singleton]
        exact hnonempty
      · refine List.forall_mem_append.mpr ⟨fun s hs r hr => ?_, ?_⟩
        · exact hafter s hs r (List.mem_cons_of_mem _ hr)
        · rw [List.forall_mem_singleton]
          exact hfirst
    · exact ih hacc hne hrest' hlater fun s hs r hr => hafter s hs r (List.mem_cons_of_mem _ hr)

lemma forall_domainSpans {q : Span → Prop} {ms : List Match} (h : ∀ s ∈ candidates, q s)
    (hms : ∀ m ∈ ms, q m.span) : ∀ s ∈ domainSpans P U view candidates ms, q s := by
  induction ms generalizing candidates with
  | nil => exact h
  | cons m ms ih =>
    have hms' := fun m' hm' => hms m' (List.mem_cons_of_mem m hm')
    rw [domainSpans]
    split_ifs
    · refine ih (List.forall_mem_append.mpr ⟨h, ?_⟩) hms'
      rw [List.forall_mem_singleton]
      exact hms m List.mem_cons_self
    · exact ih h hms'

theorem laid_urlSpans (hP : P.Separates view) : Laid 0 view.length (urlSpansOf P U view) ∧
    ∀ s ∈ urlSpansOf P U view, s.1 < s.2 := by
  have hin : ∀ p ∈ [Pattern.url, .bareDomain, .quotation], ∀ m ∈ P.findAll p view,
      m.span.2 ≤ view.length := fun p hp m hm =>
    ((hP.found p hp).within _ (List.mem_map_of_mem hm)).2.2
  have hcandidates : ∀ s ∈ domainSpans P U view
      ((P.findAll .url view).map fun m => (m.start, m.stop)) (P.findAll .bareDomain view),
      s.2 ≤ view.length :=
    forall_domainSpans (List.forall_mem_map.mpr (hin .url (by simp))) (hin .bareDomain (by simp))
  have htotal : Std.Total fun a b : Span => a.1 < b.1 ∨ (a.1 = b.1 ∧ a.2 ≤ b.2) :=
    ⟨fun a b => by omega⟩
  have htrans : IsTrans Span fun a b => a.1 < b.1 ∨ (a.1 = b.1 ∧ a.2 ≤ b.2) :=
    ⟨fun a b c hab hbc => by omega⟩
  refine laid_acceptSpans ⟨nofun, .nil⟩ nofun (fun s hs => ?_) ?_ nofun
  · exact hcandidates s ((List.mem_insertionSort _).mp hs)
  · refine (List.pairwise_insertionSort _ _).imp fun {a b} hab => ?_
    omega

theorem laid_quotes (hP : P.Separates view) : Laid 0 view.length (quotesOf P view) ∧
    ∀ s ∈ quotesOf P view, s.1 < s.2 := by
  have hgroup : ∀ m ∈ P.findAll .quotation view, ∀ s : Span,
      (if (view.take m.start ++ view.drop m.stop).all " .!?,;:-\n".toList.contains then none
        else (m.groups.head?).map Prod.snd) = some s → m.start ≤ s.1 ∧ s.1 < s.2 ∧ s.2 ≤ m.stop := by
    intro m hm s hs
    split_ifs at hs
    obtain ⟨g, hg, rfl⟩ := Option.map_eq_some_iff.mp hs
    exact hP.quoted m hm g hg
  constructor
  · refine (hP.found .quotation (by simp)).filterMap fun m hm s hs => ?_
    obtain ⟨hstart, hlt, hstop⟩ := hgroup m hm s hs
    exact ⟨hstart, hlt.le, hstop⟩
  · intro s hs
    obtain ⟨m, hm, hs⟩ := List.mem_filterMap.mp hs
    exact (hgroup m hm s hs).2.1

end Links

/-! ### The message -/

section Message

variable {P : Pack} {U : Unicode} {msg : Message} {clause : Clause} {x : ℕ}

/-- The clauses, links and quotations lie in the view one after the other, and what is no
whitespace and in no separator is in one clause, the one that is found there. -/
structure Message.Segmented (P : Pack) (msg : Message) : Prop where
  clauses : Laid 0 msg.view.length (msg.clauses.map Clause.span)
  worded : ∀ clause ∈ msg.clauses, ∃ x c, clause.span.Holds x ∧ msg.view[x]? = some c ∧
    isSpace c = false
  sentence : ∀ clause ∈ msg.clauses,
    (clause.sentenceStart, clause.sentenceStop) ∈ sentencesOf P msg.view msg.quotes ∧
      clause.sentenceStart ≤ clause.start ∧ clause.stop ≤ clause.sentenceStop
  links : Laid 0 msg.view.length msg.urlSpans ∧ ∀ s ∈ msg.urlSpans, s.1 < s.2
  quotations : Laid 0 msg.view.length msg.quotes ∧ ∀ s ∈ msg.quotes, s.1 < s.2
  unquoted : ∀ m ∈ separatorsOf P msg.view msg.quotes, ∀ s ∈ msg.quotes, ¬Span.Holds s m.start
  partition : ∀ x c, msg.view[x]? = some c → isSpace c = false →
    ((∃! clause, clause ∈ msg.clauses ∧ clause.span.Holds x) ↔
      ∀ m ∈ separatorsOf P msg.view msg.quotes, ¬m.span.Holds x)
  scope : ∀ clause ∈ msg.clauses, ∀ x, clause.span.Holds x → msg.clauseAt x = clause

/-- The clause that holds a position is the one found there. -/
lemma clauseAt_of_holds {low high : ℕ} (hlaid : Laid low high (msg.clauses.map Clause.span))
    (hclause : clause ∈ msg.clauses) (hx : clause.span.Holds x) : msg.clauseAt x = clause := by
  have hsome : (msg.clauses.find? fun c => c.start ≤ x && x < c.stop).isSome := by
    rw [List.find?_isSome]
    exact ⟨clause, hclause, by simpa [Span.Holds, Clause.span] using hx⟩
  obtain ⟨found, hfound⟩ := Option.isSome_iff_exists.mp hsome
  have hin : found.span.Holds x := by
    simpa [Span.Holds, Clause.span] using List.find?_some hfound
  rw [Message.clauseAt, hfound]
  exact hlaid.eq_of_holds (List.mem_of_find?_eq_some hfound) hclause hin hx

/-- The message is segmented, whatever separators, links and quotations the patterns find. -/
theorem segmented_of_separates {normalized view : Text} (hP : P.Separates view) (inputType : String)
    (relationship : Option String) :
    (Message.of U P normalized view inputType relationship).Segmented P := by
  have hclauses : Laid 0 view.length ((clausesOf P view (quotesOf P view)).map Clause.span) :=
    laid_clauses hP
  refine ⟨hclauses, fun clause hclause => ?_, fun clause hclause => ?_, laid_urlSpans hP, laid_quotes hP,
    fun m hm => ?_, fun x c hc hspace => ?_, fun clause hclause x hx => ?_⟩
  · exact exists_of_mem_split (mem_clausesOf hclause).2
  · obtain ⟨hsentence, hpiece⟩ := mem_clausesOf hclause
    obtain ⟨-, hle, hstop⟩ := (laid_sentences hP).within _ hsentence
    obtain ⟨hfirst, -, hlast⟩ :=
      (laid_split hle (laid_clauseMatches hP hsentence)).within _ hpiece
    exact ⟨hsentence, hfirst, hlast⟩
  · exact not_holds_of_covers (not_covers_of_mem_separators hm)
  · refine Iff.trans ?_ (exists_clause_iff_notMem_separators hP hc hspace)
    constructor
    · rintro ⟨clause, hclause, -⟩
      exact ⟨clause, hclause⟩
    · rintro ⟨clause, hclause, hx⟩
      exact ⟨clause, ⟨hclause, hx⟩, fun other hother =>
        hclauses.eq_of_holds hother.1 hclause hother.2 hx⟩
  · exact clauseAt_of_holds hclauses hclause hx

end Message

section Sample

def told : Text := "He said \"Stop. Now\" ; see bit.ly. Ok".toList

/-- Where the patterns match in `told`. -/
def toldMatches : Pattern → List Match
  | .sentenceSplit => [⟨14, 15, []⟩, ⟨33, 34, []⟩]
  | .clauseSplit => [⟨19, 22, []⟩]
  | .quotation => [⟨8, 19, [("1", 9, 18)]⟩]
  | .bareDomain => [⟨26, 32, [("tld", 30, 32)]⟩]
  | _ => []

def toldPack : Pack where
  finditer p _ pos stop := (toldMatches p).filter fun m => pos ≤ m.start && m.stop ≤ stop
  matchesAtStart _ _ := false
  dropTracking := id
  tlds := ["ly"]
  shorteners := []
  secondLevel := []
  enWords := []
  hiWords := []
  euWords := []
  confusables := []
  configRef := "TL-XPACK-1.0.0"

def toldUnicode : Unicode where
  category c := if c.isAlpha then "Ll" else if c == ' ' then "Zs" else "Po"
  name _ := "LATIN SMALL LETTER"
  isAlpha := Char.isAlpha
  nfkc := id
  lower t := t.map Char.toLower

lemma laid_told {p : Pattern} {start stop : ℕ} (hbetween : ∀ m ∈ toldMatches p, m.start ≤ m.stop)
    (hordered : ((toldMatches p).map Match.span).Pairwise fun s t => s.2 ≤ t.1) :
    Laid start stop ((toldPack.finditer p told start stop).map Match.span) := by
  constructor
  · intro s hs
    obtain ⟨m, hm, rfl⟩ := List.mem_map.mp hs
    obtain ⟨hmem, hrange⟩ := List.mem_filter.mp hm
    simp only [Bool.and_eq_true, decide_eq_true_eq] at hrange
    exact ⟨hrange.1, hbetween m hmem, hrange.2⟩
  · exact hordered.sublist (List.filter_sublist.map _)

lemma toldPack_separates : toldPack.Separates told where
  splits p hp start stop _ _ := by
    simp only [List.mem_cons, List.not_mem_nil, or_false] at hp
    rcases hp with rfl | rfl <;> exact laid_told (by decide) (by decide)
  found p hp := by
    simp only [List.mem_cons, List.not_mem_nil, or_false] at hp
    rcases hp with rfl | rfl | rfl <;> exact laid_told (by decide) (by decide)
  quoted := by decide

/-- The quotation keeps its full stop, and the link loses the one after it. -/
theorem segmented_of_separates_told :
    ((Message.of toldUnicode toldPack told told "SMS" none).clauses.map Clause.span,
      (Message.of toldUnicode toldPack told told "SMS" none).urlSpans,
      (Message.of toldUnicode toldPack told told "SMS" none).quotes) =
        ([(0, 19), (22, 33), (34, 36)], [(26, 32)], [(9, 18)]) ∧
      (Message.of toldUnicode toldPack told told "SMS" none).Segmented toldPack :=
  ⟨by decide, segmented_of_separates toldPack_separates "SMS" none⟩

end Sample

end TrustLens.Backend.Extraction
