import TrustLens.Backend.Grounding
import TrustLens.Backend.OriginMap

/-!
# Where findings lie

Every finding is a part of the view that is not empty. Most are the match they were made of;
some stand for the clause or the sentence around a match, or for a link without the
punctuation after it.
-/

namespace TrustLens.Backend.Extraction

open PyText (isSpace)
open TrustLens.Runtime (Level)

/-- The patterns whose match stands for the clause or sentence it is in. -/
def clauseCues : List Pattern := [.kyc, .itSupport, .benignCue]

/-- What a finding that stands for a clause or a sentence leaves out at the end. -/
def closingMarks : List Char := ".!?, ".toList

lemma closingMarks_subset : ".!? ".toList ⊆ closingMarks := by decide

/-- What holds of the matches of the pack: they are parts of the text that are not empty, and the
words that stand for a clause do not begin in what separates clauses. -/
structure Pack.Regular (P : Pack) : Prop where
  bounded : ∀ p, p ≠ .directivePrefix → ∀ text pos stop, ∀ m ∈ P.finditer p text pos stop,
    pos ≤ m.start ∧ m.start < m.stop ∧ m.stop ≤ stop ∧ m.stop ≤ text.length
  worded : ∀ p ∈ clauseCues, ∀ text, ∀ m ∈ P.findAll p text, ∃ c, text[m.start]? = some c ∧
    isSpace c = false ∧ c ∉ closingMarks
  apart : ∀ p ∈ clauseCues, ∀ q ∈ [Pattern.sentenceSplit, .clauseSplit], ∀ text,
    ∀ m ∈ P.findAll p text, ∀ pos stop, ∀ m' ∈ P.finditer q text pos stop,
      ¬(m'.start ≤ m.start ∧ m.start < m'.stop)

/-- The clauses and links of a message are those of its view. -/
structure Message.Divided (U : Unicode) (P : Pack) (msg : Message) : Prop where
  clauses : msg.clauses = clausesOf P msg.view msg.quotes
  urlSpans : msg.urlSpans = urlSpansOf P U msg.view

/-- The finding is a part of a text of this length. -/
def Finding.Lies (f : Finding) (length : ℕ) : Prop := f.start < f.stop ∧ f.stop ≤ length

/-! ### Parts of a text -/

lemma trimEnd_le (text : Text) (drop : List Char) (a b : ℕ) : trimEnd text drop a b ≤ b :=
  Nat.sub_le _ _

lemma takeWhile_length_le {p : Char → Bool} {text : Text} {i : ℕ} {c : Char}
    (hc : text[i]? = some c) (hp : p c = false) : (text.takeWhile p).length ≤ i := by
  induction text generalizing i with
  | nil => cases hc
  | cons d rest ih =>
    cases i with
    | zero =>
      obtain rfl : d = c := Option.some.inj hc
      rw [List.takeWhile_cons_of_neg (by simp [hp])]
      rfl
    | succ i =>
      rw [List.takeWhile_cons]
      split_ifs
      · exact Nat.succ_le_succ (ih hc)
      · exact Nat.zero_le _

/-- A character that is not dropped stays. -/
lemma lt_trimEnd {text : Text} {drop : List Char} {a b x : ℕ} {c : Char} (hc : text[x]? = some c)
    (ha : a ≤ x) (hb : x < b) (hkeep : c ∉ drop) : x < trimEnd text drop a b := by
  have hslice : (slice text a b)[x - a]? = some c := by
    rw [slice, List.getElem?_take_of_lt (by omega), List.getElem?_drop, Nat.add_sub_cancel' ha, hc]
  have hlength : (slice text a b).length ≤ b - a := List.length_take_le ..
  have hlt : x - a < (slice text a b).length := (List.getElem?_eq_some_iff.mp hslice).1
  have hreverse : (slice text a b).reverse[(slice text a b).length - 1 - (x - a)]? = some c := by
    rw [List.getElem?_reverse (by omega)]
    rwa [show (slice text a b).length - 1 - ((slice text a b).length - 1 - (x - a)) = x - a by omega]
  have hle := takeWhile_length_le (p := drop.contains) hreverse (by simpa using hkeep)
  rw [trimEnd]
  omega

/-! ### Clauses -/

section Split

variable {P : Pack}

/-- What no separator covers is in a piece. -/
lemma exists_piece (quotes : List (ℕ × ℕ)) (start : ℕ) {stop x : ℕ} {ms : List Match} {pos : ℕ}
    (hpos : pos ≤ x) (hstop : x < stop) (hout : ∀ m ∈ ms, ¬(m.start ≤ x ∧ x < m.stop)) :
    ∃ s ∈ splitAt quotes start stop pos ms, s.1 ≤ x ∧ x < s.2 := by
  induction ms generalizing pos with
  | nil => exact ⟨(pos, stop), by simp [splitAt], hpos, hstop⟩
  | cons m rest ih =>
    have hrest := fun m' hm' => hout m' (List.mem_cons_of_mem m hm')
    rw [splitAt]
    split_ifs with hskip
    · exact ih hpos hrest
    · by_cases hbefore : x < m.start
      · exact ⟨(pos, m.start), List.mem_cons_self, hpos, hbefore⟩
      · have hafter : m.stop ≤ x := by
          have := hout m List.mem_cons_self
          omega
        obtain ⟨s, hs, hcover⟩ := ih hafter hrest
        exact ⟨s, List.mem_cons_of_mem _ hs, hcover⟩

lemma piece_within {quotes : List (ℕ × ℕ)} {start stop low : ℕ} {ms : List Match} {pos : ℕ}
    (hpos : low ≤ pos) (hms : ∀ m ∈ ms, low ≤ m.stop ∧ m.start ≤ stop) {s : ℕ × ℕ}
    (hs : s ∈ splitAt quotes start stop pos ms) : low ≤ s.1 ∧ s.2 ≤ stop := by
  induction ms generalizing pos with
  | nil =>
    rw [splitAt, List.mem_singleton] at hs
    subst hs
    exact ⟨hpos, le_rfl⟩
  | cons m rest ih =>
    have hrest := fun m' hm' => hms m' (List.mem_cons_of_mem m hm')
    rw [splitAt] at hs
    split_ifs at hs
    · exact ih hpos hrest hs
    · rcases List.mem_cons.mp hs with rfl | hs
      · exact ⟨hpos, (hms m List.mem_cons_self).2⟩
      · exact ih (hms m List.mem_cons_self).1 hrest hs

lemma split_pieces (hP : P.Regular) {view : Text} {quotes : List (ℕ × ℕ)} {q : Pattern} (hq : q ≠ .directivePrefix)
    {start stop : ℕ} {s : ℕ × ℕ} (hs : s ∈ split P view quotes q start stop) :
    start ≤ s.1 ∧ s.2 ≤ stop := by
  refine piece_within le_rfl (fun m hm => ?_) (List.mem_filter.mp hs).1
  obtain ⟨hstart, hlt, hstop, -⟩ := hP.bounded q hq view start stop m hm
  exact ⟨by omega, by omega⟩

lemma exists_split {view : Text} (quotes : List (ℕ × ℕ)) {q : Pattern} {start stop x : ℕ} {c : Char}
    (hstart : start ≤ x) (hstop : x < stop) (hc : view[x]? = some c) (hspace : isSpace c = false)
    (hout : ∀ m ∈ P.finditer q view start stop, ¬(m.start ≤ x ∧ x < m.stop)) :
    ∃ s ∈ split P view quotes q start stop, s.1 ≤ x ∧ x < s.2 := by
  obtain ⟨s, hs, hcover⟩ := exists_piece quotes start hstart hstop hout
  refine ⟨s, List.mem_filter.mpr ⟨hs, List.any_eq_true.mpr ⟨c, mem_slice hc hcover.1 hcover.2, ?_⟩⟩,
    hcover⟩
  simp [hspace]

/-- A clause is within its sentence, and the sentence within the view. -/
lemma clause_within (hP : P.Regular) {view : Text} {quotes : List (ℕ × ℕ)} {c : Clause}
    (hc : c ∈ clausesOf P view quotes) : c.sentenceStart ≤ c.start ∧ c.stop ≤ c.sentenceStop ∧
      c.sentenceStop ≤ view.length := by
  simp only [clausesOf, List.mem_flatMap, List.mem_map] at hc
  obtain ⟨s, hs, piece, hpiece, rfl⟩ := hc
  obtain ⟨-, hsentence⟩ := split_pieces hP (by decide) hs
  obtain ⟨hstart, hstop⟩ := split_pieces hP (by decide) hpiece
  exact ⟨hstart, hstop, hsentence⟩

/-- A clause covers a character that is no whitespace and not in a separator. -/
lemma exists_clause {view : Text} (quotes : List (ℕ × ℕ)) {x : ℕ} {c : Char}
    (hc : view[x]? = some c) (hspace : isSpace c = false)
    (hout : ∀ q ∈ [Pattern.sentenceSplit, .clauseSplit], ∀ pos stop,
      ∀ m ∈ P.finditer q view pos stop, ¬(m.start ≤ x ∧ x < m.stop)) :
    ∃ clause ∈ clausesOf P view quotes, clause.start ≤ x ∧ x < clause.stop := by
  have hx : x < view.length := (List.getElem?_eq_some_iff.mp hc).1
  obtain ⟨s, hs, hs₁, hs₂⟩ := exists_split quotes (Nat.zero_le x) hx hc hspace
    (hout .sentenceSplit (by simp) 0 view.length)
  obtain ⟨piece, hpiece, hcover⟩ := exists_split quotes hs₁ hs₂ hc hspace
    (hout .clauseSplit (by simp) s.1 s.2)
  simp only [clausesOf, List.mem_flatMap, List.mem_map]
  exact ⟨_, ⟨s, hs, piece, hpiece, rfl⟩, hcover⟩

end Split

/-! ### The recognisers -/

section Recognisers

namespace Finding

variable (f : Finding) (id : String) (level : Level) (condition review : Bool)

@[simp] lemma emitReviewed_start : (f.emitReviewed id level review).start = f.start := by
  unfold emitReviewed
  split_ifs <;> rfl

@[simp] lemma emitReviewed_stop : (f.emitReviewed id level review).stop = f.stop := by
  unfold emitReviewed
  split_ifs <;> rfl

@[simp] lemma emit_start : (f.emit id level).start = f.start := emitReviewed_start ..

@[simp] lemma emit_stop : (f.emit id level).stop = f.stop := emitReviewed_stop ..

@[simp] lemma emitIf_start : (f.emitIf condition id level).start = f.start := by
  unfold emitIf
  split_ifs <;> simp

@[simp] lemma emitIf_stop : (f.emitIf condition id level).stop = f.stop := by
  unfold emitIf
  split_ifs <;> simp

/-- A finding with the span of a match lies where the match does. -/
lemma lies_of_span {f : Finding} {n : ℕ} {start stop : ℕ} (hstart : f.start = start)
    (hstop : f.stop = stop) (h : start < stop ∧ stop ≤ n) : f.Lies n := by
  rwa [Lies, hstart, hstop]

variable {f}

lemma Lies.emitIf {n : ℕ} (h : f.Lies n) : (f.emitIf condition id level).Lies n :=
  lies_of_span (emitIf_start ..) (emitIf_stop ..) h

end Finding

variable {U : Unicode} {P : Pack} (hP : P.Regular) {msg : Message} (hmsg : msg.Divided U P)

/-- The match is a part of the view. -/
def Match.Lies (m : Match) (length : ℕ) : Prop := m.start < m.stop ∧ m.stop ≤ length

lemma lies_of_finditer (hP : P.Regular) {p : Pattern} (hp : p ≠ .directivePrefix) {text : Text}
    {pos stop : ℕ} {m : Match} (hm : m ∈ P.finditer p text pos stop) : m.Lies text.length := by
  obtain ⟨-, hlt, -, hle⟩ := hP.bounded p hp text pos stop m hm
  exact ⟨hlt, hle⟩

lemma lies_of_find (hP : P.Regular) {p : Pattern} (hp : p ≠ .directivePrefix) {m : Match}
    (hm : m ∈ msg.find P p) : m.Lies msg.view.length :=
  lies_of_finditer hP hp (List.mem_filter.mp hm).1

/-- The clause at a cue has the cue in it. -/
lemma clauseAt_cue (hP : P.Regular) (hmsg : msg.Divided U P) {p : Pattern} (hp : p ∈ clauseCues)
    {m : Match} (hm : m ∈ msg.find P p) :
    (msg.clauseAt m.start).sentenceStart ≤ (msg.clauseAt m.start).start ∧
      (msg.clauseAt m.start).start ≤ m.start ∧ m.start < (msg.clauseAt m.start).stop ∧
      (msg.clauseAt m.start).stop ≤ (msg.clauseAt m.start).sentenceStop ∧
      (msg.clauseAt m.start).sentenceStop ≤ msg.view.length := by
  have hm := (List.mem_filter.mp hm).1
  obtain ⟨c, hc, hspace, -⟩ := hP.worded p hp msg.view m hm
  obtain ⟨clause, hclause, hcover⟩ := exists_clause (P := P) msg.quotes hc hspace
    fun q hq pos stop m' hm' => hP.apart p hp q hq msg.view m hm pos stop m' hm'
  have hsome : (msg.clauses.find? fun c => c.start ≤ m.start && m.start < c.stop).isSome := by
    rw [List.find?_isSome, hmsg.clauses]
    exact ⟨clause, hclause, by simpa using hcover⟩
  obtain ⟨found, hfound⟩ := Option.isSome_iff_exists.mp hsome
  have hmem := List.mem_of_find?_eq_some hfound
  have hin := List.find?_some hfound
  rw [hmsg.clauses] at hmem
  obtain ⟨hsentence, hstop, hview⟩ := clause_within hP hmem
  simp only [Bool.and_eq_true, decide_eq_true_eq] at hin
  rw [Message.clauseAt, hfound]
  exact ⟨hsentence, hin.1, hin.2, hstop, hview⟩

variable (P msg)

@[simp] lemma claim_start {obsType : ObsType} {canonical : String} {pos start stop : ℕ}
    {frame : Frame} {risky : Bool} :
    (claim P msg obsType canonical pos start stop frame risky).start = start := rfl

@[simp] lemma claim_stop {obsType : ObsType} {canonical : String} {pos start stop : ℕ}
    {frame : Frame} {risky : Bool} :
    (claim P msg obsType canonical pos start stop frame risky).stop = stop := rfl

lemma lies_site (site : Site) {m : Match} {n : ℕ} (hm : m.Lies n) :
    (site.finding P msg m).Lies n :=
  Finding.lies_of_span (by simp [Site.finding]) (by simp [Site.finding]) hm

lemma lies_claimAt {obsType : ObsType} {canonical : String} {frame : Frame} {risky : Bool} {m : Match}
    {n : ℕ} (hm : m.Lies n) : (claimAt P msg obsType canonical m frame risky).Lies n := hm

lemma lies_plainClaim {obsType : ObsType} {canonical indicator : String} {confidence : Level}
    {frame : Frame} {risky : Bool} {m : Match} {n : ℕ} (hm : m.Lies n) :
    (plainClaim P msg obsType canonical indicator confidence frame risky m).Lies n :=
  (lies_claimAt P msg hm).emitIf _ _ _

variable {P msg}

lemma lies_siteFindings (hP : P.Regular) {site : Site} (hsite : site.pattern ≠ .directivePrefix)
    {skip : List (ℕ × ℕ)} {f : Finding} (hf : f ∈ site.findings P msg skip) :
    f.Lies msg.view.length := by
  simp only [Site.findings, List.mem_map, List.mem_filter] at hf
  obtain ⟨m, ⟨hm, -⟩, rfl⟩ := hf
  exact lies_site P msg site (lies_of_find hP hsite hm)

/-- The findings made of the matches of one pattern lie in the view when each lies where its match
does. -/
lemma lies_map_find (hP : P.Regular) {p : Pattern} (hp : p ≠ .directivePrefix)
    {make : Match → Finding} (hmake : ∀ m, m.Lies msg.view.length → (make m).Lies msg.view.length)
    {f : Finding} (hf : f ∈ (msg.find P p).map make) : f.Lies msg.view.length := by
  obtain ⟨m, hm, rfl⟩ := List.mem_map.mp hf
  exact hmake m (lies_of_find hP hp hm)

lemma lies_map_first (hP : P.Regular) {p : Pattern} (hp : p ≠ .directivePrefix)
    {make : Match → Finding} (hmake : ∀ m, m.Lies msg.view.length → (make m).Lies msg.view.length)
    {f : Finding} (hf : f ∈ ((msg.find P p).take 1).map make) : f.Lies msg.view.length := by
  obtain ⟨m, hm, rfl⟩ := List.mem_map.mp hf
  exact hmake m (lies_of_find hP hp (List.mem_of_mem_take hm))

/-! #### Requests and payments -/

lemma credential_span (start stop : ℕ) (kind : CredentialKind) (vc : Bool) :
    (credential P msg start stop kind vc).start = start ∧
      (credential P msg start stop kind vc).stop = stop := by
  unfold credential
  dsimp only
  split_ifs
  · simp
  · simp
  · split <;> simp
  · split <;> simp
  · exact ⟨rfl, rfl⟩

lemma lies_credentialFindings (hP : P.Regular) {f : Finding} (hf : f ∈ credentialFindings P msg) :
    f.Lies msg.view.length := by
  have hcredential : ∀ (m : Match) kind vc, m.Lies msg.view.length →
      (credential P msg m.start m.stop kind vc).Lies msg.view.length := fun m kind vc hm =>
    Finding.lies_of_span (credential_span m.start m.stop kind vc).1
      (credential_span m.start m.stop kind vc).2 hm
  simp only [credentialFindings, List.mem_append, List.mem_map] at hf
  rcases hf with ⟨m, hm, rfl⟩ | ⟨m, hm, rfl⟩
  · exact hcredential m _ _ (lies_of_find hP (by decide) (List.mem_filter.mp hm).1)
  · exact hcredential m _ _ (lies_of_find hP (by decide) (List.mem_filter.mp hm).1)

lemma lies_directionAfter (hP : P.Regular) {stop : ℕ} {m : Match}
    (hm : (directionAfter P msg stop).receive = some m ∨
      (directionAfter P msg stop).pay = some m) : m.Lies msg.view.length := by
  rcases hm with hm | hm
  · exact lies_of_finditer hP (by decide) (List.mem_of_mem_head? hm)
  · exact lies_of_finditer hP (by decide) (List.mem_of_mem_head? hm)

lemma receive_of_receiving {d : Direction} {r : Match} (h : d.receiving = some r) :
    d.receive = some r := by
  unfold Direction.receiving at h
  split at h
  · split_ifs at h
    cases h
    assumption
  · cases h
    assumption
  · cases h

lemma lies_upiPinFindings (hP : P.Regular) {m : Match} (hm : m.Lies msg.view.length) {f : Finding}
    (hf : f ∈ upiPinFindings P msg m) : f.Lies msg.view.length := by
  unfold upiPinFindings at hf
  dsimp only at hf
  split at hf
  · rename_i r hr
    have hr := lies_directionAfter hP (.inl (receive_of_receiving hr))
    simp only [List.mem_cons, List.not_mem_nil, or_false] at hf
    rcases hf with rfl | rfl
    · exact Finding.lies_of_span (by simp) (by simp) hm
    · exact Finding.lies_of_span (by simp) (by simp) hr
  · rename_i p _ hp
    have hp := lies_directionAfter hP (.inr hp)
    simp only [List.mem_cons, List.not_mem_nil, or_false] at hf
    rcases hf with rfl | rfl
    · exact Finding.lies_of_span (by simp) (by simp) hm
    · exact Finding.lies_of_span (by simp) (by simp) hp
  · rw [List.mem_singleton] at hf
    subst hf
    exact Finding.lies_of_span (by simp) (by simp) hm

lemma lies_demandsFrom {covered : List (ℕ × ℕ)} {demands : List (String × String × Match)}
    {n : ℕ} (hd : ∀ d ∈ demands, d.2.2.Lies n) {f : Finding}
    (hf : f ∈ demandsFrom P msg covered demands) : f.Lies n := by
  induction demands generalizing covered with
  | nil => cases hf
  | cons d rest ih =>
    have hrest := fun e he => hd e (List.mem_cons_of_mem d he)
    obtain ⟨canonical, indicator, m⟩ := d
    rw [demandsFrom] at hf
    split_ifs at hf
    · exact ih hrest hf
    · rcases List.mem_cons.mp hf with rfl | hf
      · exact Finding.lies_of_span (by simp [demand]) (by simp [demand])
          (hd _ List.mem_cons_self)
      · exact ih hrest hf

lemma lies_paymentContext (qrPresent : Bool) {m : Match} {n : ℕ} (hm : m.Lies n) :
    (paymentContext P msg qrPresent m).Lies n := by
  unfold paymentContext
  dsimp only
  split_ifs
  · exact Finding.lies_of_span (by simp) (by simp) hm
  · exact hm
  · exact Finding.lies_of_span (by simp) (by simp) hm
  · exact hm

lemma lies_paymentFindings (hP : P.Regular) {qrPresent threatPresent : Bool} {f : Finding}
    (hf : f ∈ paymentFindings P msg qrPresent threatPresent) : f.Lies msg.view.length := by
  simp only [paymentFindings, List.mem_append] at hf
  rcases hf with (((hf | hf) | hf) | hf) | hf
  · obtain ⟨m, hm, hf⟩ := List.mem_flatMap.mp hf
    exact lies_upiPinFindings hP (lies_of_find hP (by decide) hm) hf
  · exact lies_map_find hP (by decide) (fun m hm =>
      Finding.lies_of_span (by simp [immediatePayment]) (by simp [immediatePayment]) hm) hf
  · refine lies_demandsFrom (fun d hd => ?_) hf
    simp only [List.mem_append, List.mem_map] at hd
    rcases hd with ⟨m, hm, rfl⟩ | ⟨m, hm, rfl⟩
    · exact lies_of_find hP (by decide) hm
    · exact lies_of_find hP (by decide) hm
  · exact lies_map_find hP (by decide) (fun m hm => lies_paymentContext qrPresent hm) hf
  · exact lies_map_find hP (by decide) (fun m hm =>
      Finding.lies_of_span (by simp [depositForEarnings]) (by simp [depositForEarnings]) hm) hf

/-! #### Threats, pressure and pretexts -/

lemma lies_threatFindings (hP : P.Regular) {f : Finding} (hf : f ∈ threatFindings P msg) :
    f.Lies msg.view.length := by
  simp only [threatFindings, List.mem_append] at hf
  rcases hf with (((hf | hf) | hf) | hf) | hf
  · exact lies_siteFindings hP (by decide) hf
  · split_ifs at hf
    · exact lies_siteFindings hP (by decide) hf
    · cases hf
  · exact lies_siteFindings hP (by decide) hf
  · exact lies_siteFindings hP (by decide) hf
  · exact lies_siteFindings hP (by decide) hf

lemma lies_urgencyFindings (hP : P.Regular) {out : List Finding} {f : Finding}
    (hf : f ∈ urgencyFindings P msg out) : f.Lies msg.view.length := by
  simp only [urgencyFindings, List.mem_append, List.mem_map] at hf
  rcases hf with (hf | hf) | ⟨g, hg, rfl⟩
  · exact lies_siteFindings hP (by decide) hf
  · exact lies_siteFindings hP (by decide) hf
  · have hg := lies_siteFindings hP (by decide) hg
    split_ifs
    · exact hg
    · exact hg

lemma lies_coercionFindings (hP : P.Regular) {f : Finding} (hf : f ∈ coercionFindings P msg) :
    f.Lies msg.view.length := by
  simp only [coercionFindings, List.mem_append] at hf
  rcases hf with (hf | hf) | hf
  · exact lies_siteFindings hP (by decide) hf
  · exact lies_siteFindings hP (by decide) hf
  · exact lies_siteFindings hP (by decide) hf

lemma lies_affirmCoercion {f : Finding} {n : ℕ} (hf : f.Lies n) : (affirmCoercion f).Lies n := by
  unfold affirmCoercion
  split
  · split_ifs
    · exact Finding.lies_of_span (by simp) (by simp) hf
    · exact Finding.lies_of_span (by simp) (by simp) hf
    · exact hf
  · exact hf

/-- The clause of a KYC mention, without the whitespace before it and the marks after it. -/
lemma lies_kycFinding (hP : P.Regular) (hmsg : msg.Divided U P) {m : Match}
    (hm : m ∈ msg.find P .kyc) : (kycFinding P msg m).Lies msg.view.length := by
  obtain ⟨-, hstart, hstop, hsentence, hview⟩ := clauseAt_cue hP hmsg (by decide) hm
  obtain ⟨c, hc, hspace, hmark⟩ := hP.worded .kyc (by decide) msg.view m (List.mem_filter.mp hm).1
  have hslice : (slice msg.view (msg.clauseAt m.start).start (msg.clauseAt m.start).stop)[
      m.start - (msg.clauseAt m.start).start]? = some c := by
    rw [slice, List.getElem?_take_of_lt (by omega), List.getElem?_drop, Nat.add_sub_cancel' hstart,
      hc]
  have hindent := takeWhile_length_le (p := isSpace) hslice hspace
  have hbefore : (msg.clauseAt m.start).start +
      ((slice msg.view (msg.clauseAt m.start).start (msg.clauseAt m.start).stop).takeWhile
        isSpace).length ≤ m.start := by omega
  have hkept := lt_trimEnd hc hbefore hstop hmark
  exact Finding.Lies.emitIf _ _ _
    ⟨hbefore.trans_lt hkept, (trimEnd_le ..).trans (hsentence.trans hview)⟩

lemma lies_pretextFindings (hP : P.Regular) (hmsg : msg.Divided U P) {f : Finding}
    (hf : f ∈ pretextFindings P msg) : f.Lies msg.view.length := by
  simp only [pretextFindings, List.mem_append] at hf
  rcases hf with (((((((((((hf | hf) | hf) | hf) | hf) | hf) | hf) | hf) | hf) | hf) | hf) | hf)
  · obtain ⟨m, hm, rfl⟩ := List.mem_map.mp hf
    exact lies_kycFinding hP hmsg (List.mem_of_mem_take hm)
  · exact lies_siteFindings hP (by decide) hf
  · exact lies_siteFindings hP (by decide) hf
  · exact lies_siteFindings hP (by decide) hf
  · exact lies_siteFindings hP (by decide) hf
  · exact lies_siteFindings hP (by decide) hf
  · exact lies_siteFindings hP (by decide) hf
  · exact lies_map_first hP (by decide) (fun m hm => lies_plainClaim P msg hm) hf
  · exact lies_map_find hP (by decide) (fun m hm => lies_plainClaim P msg hm) hf
  · exact lies_siteFindings hP (by decide) hf
  · exact lies_map_first hP (by decide) (fun m hm => lies_plainClaim P msg hm) hf
  · exact lies_map_find hP (by decide) (fun m hm => (lies_plainClaim P msg hm).emitIf _ _ _) hf

/-! #### Technical actions, codes and links -/

lemma lies_technicalFindings (hP : P.Regular) {f : Finding} (hf : f ∈ technicalFindings U P msg) :
    f.Lies msg.view.length := by
  simp only [technicalFindings, List.mem_append] at hf
  rcases hf with (((hf | hf) | hf) | hf) | hf
  · exact lies_map_find hP (by decide) (fun m hm =>
      Finding.lies_of_span (by simp [screenShare]) (by simp [screenShare]) hm) hf
  · exact lies_siteFindings hP (by decide) hf
  · exact lies_siteFindings hP (by decide) hf
  · exact lies_siteFindings hP (by decide) hf
  · exact lies_siteFindings hP (by decide) hf

/-- The sentence of a support mention, without the marks after it. -/
lemma lies_itSupportFinding (hP : P.Regular) (hmsg : msg.Divided U P) {sensitive : Bool} {m : Match}
    (hm : m ∈ msg.find P .itSupport) :
    (itSupportFinding P msg sensitive m).Lies msg.view.length := by
  obtain ⟨hsentence, hstart, hstop, hend, hview⟩ := clauseAt_cue hP hmsg (by decide) hm
  obtain ⟨c, hc, -, hmark⟩ :=
    hP.worded .itSupport (by decide) msg.view m (List.mem_filter.mp hm).1
  have hmark : c ∉ ".!? ".toList := fun h => hmark (closingMarks_subset h)
  have hkept := lt_trimEnd hc (hsentence.trans hstart) (hstop.trans_le hend) hmark
  have hlies : (msg.clauseAt m.start).sentenceStart < trimEnd msg.view ".!? ".toList
      (msg.clauseAt m.start).sentenceStart (msg.clauseAt m.start).sentenceStop ∧
      trimEnd msg.view ".!? ".toList (msg.clauseAt m.start).sentenceStart
        (msg.clauseAt m.start).sentenceStop ≤ msg.view.length :=
    ⟨(hsentence.trans hstart).trans_lt hkept, (trimEnd_le ..).trans hview⟩
  exact Finding.Lies.emitIf _ _ _ (Finding.Lies.emitIf _ _ _ hlies)

/-- The clause of a benign cue, without the marks after it. -/
lemma lies_benignCover (hP : P.Regular) (hmsg : msg.Divided U P) {liveTechnical : Bool} {m : Match}
    (hm : m ∈ msg.find P .benignCue) :
    (benignCover P msg liveTechnical m).Lies msg.view.length := by
  obtain ⟨-, hstart, hstop, hend, hview⟩ := clauseAt_cue hP hmsg (by decide) hm
  obtain ⟨c, hc, -, hmark⟩ :=
    hP.worded .benignCue (by decide) msg.view m (List.mem_filter.mp hm).1
  have hkept := lt_trimEnd hc hstart hstop hmark
  exact Finding.Lies.emitIf _ _ _
    ⟨hstart.trans_lt hkept, (trimEnd_le ..).trans (hend.trans hview)⟩

lemma lies_coverFindings (hP : P.Regular) (hmsg : msg.Divided U P) {technical : List Finding}
    {sensitive : Bool} {f : Finding} (hf : f ∈ coverFindings P msg technical sensitive) :
    f.Lies msg.view.length := by
  unfold coverFindings at hf
  dsimp only at hf
  have hbenign : ∀ {live : Bool}, f ∈ ((msg.find P .benignCue).take 1).map (benignCover P msg live) →
      f.Lies msg.view.length := by
    intro live hf
    obtain ⟨m, hm, rfl⟩ := List.mem_map.mp hf
    exact lies_benignCover hP hmsg (List.mem_of_mem_take hm)
  split_ifs at hf
  · cases hf
  · obtain ⟨m, hm, rfl⟩ := List.mem_map.mp hf
    exact lies_itSupportFinding hP hmsg (List.mem_of_mem_take hm)
  · exact hbenign hf
  · cases hf
  · exact hbenign hf

lemma lies_scanRequest {m : Match} {n : ℕ} (hm : m.Lies n) {f : Finding}
    (hf : scanRequest P msg m = some f) : f.Lies n := by
  unfold scanRequest at hf
  dsimp only at hf
  split at hf
  · cases hf
    exact Finding.Lies.emitIf _ _ _ (Finding.Lies.emitIf _ _ _ hm)
  · cases hf
    exact Finding.Lies.emitIf _ _ _ (Finding.Lies.emitIf _ _ _ hm)
  · cases hf

lemma lies_qrFindings (hP : P.Regular) {f : Finding} (hf : f ∈ qrFindings P msg) :
    f.Lies msg.view.length := by
  unfold qrFindings at hf
  split at hf
  · cases hf
  · rename_i m hmarker
    rcases List.mem_cons.mp hf with rfl | hf
    · unfold qrMarker at hmarker
      dsimp only at hmarker
      split_ifs at hmarker
      rcases Option.or_eq_some_iff.mp hmarker with hm | ⟨-, hm⟩
      · exact lies_of_find hP (by decide) (List.mem_of_mem_head? hm)
      · exact lies_of_find hP (by decide) (List.mem_of_mem_head? hm)
    · obtain ⟨m, hm, hscan⟩ := List.mem_filterMap.mp hf
      exact lies_scanRequest (lies_of_find hP (by decide) hm) hscan

/-- An accepted link keeps a character of a candidate. -/
lemma lies_acceptSpans {view : Text} {accepted candidates : List (ℕ × ℕ)} {n : ℕ}
    (haccepted : ∀ s ∈ accepted, s.1 < s.2 ∧ s.2 ≤ n) (hcandidates : ∀ s ∈ candidates, s.2 ≤ n)
    {s : ℕ × ℕ} (hs : s ∈ acceptSpans view accepted candidates) : s.1 < s.2 ∧ s.2 ≤ n := by
  induction candidates generalizing accepted with
  | nil => exact haccepted s hs
  | cons c rest ih =>
    have hrest := fun e he => hcandidates e (List.mem_cons_of_mem c he)
    rw [acceptSpans] at hs
    split_ifs at hs with haccept
    · refine ih (fun e he => ?_) hrest hs
      rcases List.mem_append.mp he with he | he
      · exact haccepted e he
      · rw [List.mem_singleton.mp he]
        exact ⟨haccept.1, (trimEnd_le ..).trans (hcandidates c List.mem_cons_self)⟩
    · exact ih haccepted hrest hs

lemma domainSpans_le {view : Text} {candidates : List (ℕ × ℕ)} {ms : List Match} {n : ℕ}
    (hcandidates : ∀ s ∈ candidates, s.2 ≤ n) (hms : ∀ m ∈ ms, m.stop ≤ n) {s : ℕ × ℕ}
    (hs : s ∈ domainSpans P U view candidates ms) : s.2 ≤ n := by
  induction ms generalizing candidates with
  | nil => exact hcandidates s hs
  | cons m rest ih =>
    have hrest := fun e he => hms e (List.mem_cons_of_mem m he)
    rw [domainSpans] at hs
    split_ifs at hs
    · refine ih (fun e he => ?_) hrest hs
      rcases List.mem_append.mp he with he | he
      · exact hcandidates e he
      · rw [List.mem_singleton.mp he]
        exact hms m List.mem_cons_self
    · exact ih hcandidates hrest hs

lemma lies_urlSpans (hP : P.Regular) {view : Text} {s : ℕ × ℕ} (hs : s ∈ urlSpansOf P U view) :
    s.1 < s.2 ∧ s.2 ≤ view.length := by
  refine lies_acceptSpans (by simp) (fun c hc => ?_) hs
  rw [List.mem_insertionSort] at hc
  refine domainSpans_le (fun e he => ?_) (fun m hm => (lies_of_finditer hP (by decide) hm).2) hc
  obtain ⟨m, hm, rfl⟩ := List.mem_map.mp he
  exact (lies_of_finditer hP (by decide) hm).2

lemma lies_linkFindings (hP : P.Regular) (hmsg : msg.Divided U P) {inputId : String} {f : Finding}
    (hf : f ∈ linkFindings U P msg inputId) : f.Lies msg.view.length := by
  obtain ⟨e, he, rfl⟩ := List.mem_map.mp hf
  have hspan := List.fst_mem_of_mem_zipIdx he
  rw [hmsg.urlSpans] at hspan
  exact Finding.Lies.emitIf _ _ _ (Finding.Lies.emitIf _ _ _ (Finding.Lies.emitIf _ _ _
    (lies_urlSpans hP hspan)))

/-! #### The whole message -/

lemma lies_identityFindings (hP : P.Regular) {directive threat : Bool} {f : Finding}
    (hf : f ∈ identityFindings P msg directive threat) : f.Lies msg.view.length := by
  simp only [identityFindings, List.mem_append] at hf
  rcases hf with ((hf | hf) | hf) | hf
  · exact lies_map_find hP (by decide) (fun m hm => lies_plainClaim P msg hm) hf
  · exact lies_map_find hP (by decide) (fun m hm => lies_plainClaim P msg hm) hf
  · exact lies_map_find hP (by decide) (fun m hm => (lies_claimAt P msg hm).emitIf _ _ _) hf
  · exact lies_map_find hP (by decide) (fun m hm => (lies_claimAt P msg hm).emitIf _ _ _) hf

lemma lies_safetyFindings (hP : P.Regular) {f : Finding} (hf : f ∈ safetyFindings P msg) :
    f.Lies msg.view.length := by
  simp only [safetyFindings, List.mem_append] at hf
  rcases hf with hf | hf
  · exact lies_map_first hP (by decide) (fun m hm =>
      Finding.lies_of_span (by simp [educationalFinding]) (by simp [educationalFinding]) hm) hf
  · exact lies_map_find hP (by decide) (fun m hm => lies_claimAt P msg hm) hf

lemma lies_actionFindings (hP : P.Regular) (hmsg : msg.Divided U P) {f : Finding}
    (hf : f ∈ actionFindings U P msg) : f.Lies msg.view.length := by
  simp only [actionFindings, pressureFindings, requestFindings, List.mem_append, List.mem_map]
    at hf
  rcases hf with ((((⟨g, hg, rfl⟩ | hf) | hf) | hf) | hf) | hf
  · apply lies_affirmCoercion
    rcases hg with ((((hg | ⟨m, hm, rfl⟩) | hg) | hg) | hg) | hg
    · exact lies_credentialFindings hP hg
    · exact Finding.Lies.emitIf _ _ _ (lies_of_find hP (by decide) hm)
    · exact lies_threatFindings hP hg
    · exact lies_paymentFindings hP hg
    · exact lies_urgencyFindings hP hg
    · exact lies_coercionFindings hP hg
  · exact lies_pretextFindings hP hmsg hf
  · exact lies_technicalFindings hP hf
  · exact lies_siteFindings hP (by decide) hf
  · exact lies_coverFindings hP hmsg hf
  · exact lies_qrFindings hP hf

/-- Every finding of a message is a part of its view. -/
theorem lies_findAll (hP : P.Regular) (hmsg : msg.Divided U P) {inputId : String} {f : Finding}
    (hf : f ∈ findAll U P msg inputId) : f.Lies msg.view.length := by
  have hall : ∀ g ∈ recognised U P msg inputId, g.Lies msg.view.length := by
    intro g hg
    simp only [recognised, List.mem_append] at hg
    rcases hg with ((hg | hg) | hg) | hg
    · exact lies_actionFindings hP hmsg hg
    · exact lies_linkFindings hP hmsg hg
    · exact lies_identityFindings hP hg
    · exact lies_safetyFindings hP hg
  rw [findAll_eq] at hf
  rcases mem_reportNarrative hf with hf | ⟨g, hg, cites, rfl⟩
  · exact hall f hf
  · exact hall g hg

end Recognisers

/-! ### The grounding checks -/

section Grounding

variable {U : Unicode} {P : Pack}

lemma length_matchText (normalized : Text) :
    (assessLanguage U P normalized).matchText.length = normalized.length := by
  unfold assessLanguage
  dsimp only
  split_ifs <;> simp

lemma divided_readingOf (U : Unicode) (P : Pack) (s : Submission) (raw : Text) :
    (readingOf U P s raw).msg.Divided U P := ⟨rfl, rfl⟩

lemma length_view (U : Unicode) (P : Pack) (s : Submission) (raw : Text) :
    (readingOf U P s raw).msg.view.length = (normalize U raw).length := by
  simp only [readingOf, Message.of, length_matchText, List.length_map]

lemma lies_placed (hP : P.Regular) {s : Submission} {raw : Text} {p : Placed}
    (hp : p ∈ (readingOf U P s raw).placed U P s.inputId) :
    p.finding.Lies (normalize U raw).length := by
  have hf := finding_mem_of_place hp
  rw [Reading.findings] at hf
  split_ifs at hf
  · rw [← length_view U P s raw]
    exact lies_findAll hP (divided_readingOf U P s raw) hf
  · cases hf

/-- A part of the normalized text has a part of the submitted one. -/
lemma exists_rawOf (U : Unicode) (raw : Text) {a b : ℕ} (hab : a < b)
    (hb : b ≤ (normalize U raw).length) : ∃ span, rawOf raw (normalize U raw) a b = .ok span := by
  obtain ⟨span, -, hspan, -⟩ := (originMap_normalize U raw).spansTraced.traced a b hab hb
  exact ⟨_, hspan⟩

lemma checkGrounded_placed (hP : P.Regular) {s : Submission} {raw : Text} {p : Placed}
    (hp : p ∈ (readingOf U P s raw).placed U P s.inputId) :
    checkGrounded (readingOf U P s raw).normalized raw (readingOf U P s raw).origins p = .ok () := by
  obtain ⟨hlt, hle⟩ := lies_placed hP hp
  obtain ⟨span, hspan⟩ := exists_rawOf U raw hlt hle
  have hnormalized : (readingOf U P s raw).normalized.length = (normalize U raw).length :=
    List.length_map _
  have horigins : (readingOf U P s raw).origins = normalize U raw := rfl
  rw [checkGrounded, hnormalized, horigins, if_pos ⟨hlt, hle⟩, hspan]
  rfl

/-- The faults of an observation or a link that is not in the text. -/
def ExtractionFault.IsGrounding (fault : ExtractionFault) : Prop :=
  fault = .indexError ∨ ∃ id, fault = .ungrounded id

lemma urls_total (hP : P.Regular) (s : Submission) (raw : Text) :
    ∃ urls, (readingOf U P s raw).urls U P s.inputId raw = .ok urls := by
  rw [Reading.urls]
  split_ifs
  · refine mapM_total fun e he => ?_
    have hspan := List.fst_mem_of_mem_zipIdx he
    rw [(divided_readingOf U P s raw).urlSpans] at hspan
    obtain ⟨hlt, hle⟩ := lies_urlSpans hP hspan
    rw [length_view] at hle
    obtain ⟨span, hspan⟩ := exists_rawOf U raw hlt hle
    have horigins : (readingOf U P s raw).origins = normalize U raw := rfl
    rw [horigins, hspan]
    exact ⟨_, rfl⟩
  · exact ⟨[], rfl⟩

lemma observations_total (hP : P.Regular) (s : Submission) (raw : Text) :
    ∃ observations, observationsOf P s.inputId raw (readingOf U P s raw).origins
      ((readingOf U P s raw).placed U P s.inputId) = .ok observations := by
  refine mapM_total fun p hp => ?_
  obtain ⟨hlt, hle⟩ := lies_placed hP hp
  obtain ⟨span, hspan⟩ := exists_rawOf U raw hlt hle
  have horigins : (readingOf U P s raw).origins = normalize U raw := rfl
  rw [horigins, hspan]
  exact ⟨_, rfl⟩

lemma checkSchema_error {artefact : Artefact} {v : Schema.Validator} {item : Json}
    {fault : ExtractionFault} (h : checkSchema artefact v item = .error fault) :
    ¬fault.IsGrounding := by
  unfold checkSchema at h
  split_ifs at h
  cases h
  rintro (h | ⟨id, h⟩) <;> cases h

lemma checkRegistered_error {K : ActiveKnowledge} {id : String} {fault : ExtractionFault}
    (h : checkRegistered K id = .error fault) : ¬fault.IsGrounding := by
  unfold checkRegistered at h
  split_ifs at h
  · cases h
    rintro (h | ⟨id, h⟩) <;> cases h
  · split at h
    · cases h
      rintro (h | ⟨id, h⟩) <;> cases h
    · split_ifs at h
      · cases h
        rintro (h | ⟨id, h⟩) <;> cases h
      · cases h
        rintro (h | ⟨id, h⟩) <;> cases h
  · cases h
    rintro (h | ⟨id, h⟩) <;> cases h

lemma checkKeys_error {g : GovernedInput} {fault : ExtractionFault}
    (h : checkKeys g = .error fault) : ¬fault.IsGrounding := by
  unfold checkKeys at h
  split at h
  · cases h
    rintro (h | ⟨id, h⟩) <;> cases h
  · cases h

lemma checkContext_error {g : GovernedInput} {fault : ExtractionFault}
    (h : checkContext g = .error fault) : ¬fault.IsGrounding := by
  unfold checkContext at h
  split_ifs at h
  split at h
  · cases h
    rintro (h | ⟨id, h⟩) <;> cases h
  · cases h

lemma validateArtifacts_error {K : ActiveKnowledge} {normalized raw : Text} {origins : List Origin}
    {placed : List Placed} {observations indicators urls : List Json} {fault : ExtractionFault}
    (hgrounded : ∀ p ∈ placed, checkGrounded normalized raw origins p = .ok ())
    (h : validateArtifacts K normalized raw origins placed observations indicators urls =
      .error fault) : ¬fault.IsGrounding := by
  rcases bind_error h with h | ⟨_, -, h⟩
  · obtain ⟨item, -, h⟩ := exists_of_forM_error h
    exact checkSchema_error h
  rcases bind_error h with h | ⟨_, -, h⟩
  · obtain ⟨item, -, h⟩ := exists_of_forM_error h
    exact checkSchema_error h
  rcases bind_error h with h | ⟨_, -, h⟩
  · obtain ⟨item, -, h⟩ := exists_of_forM_error h
    exact checkSchema_error h
  rcases bind_error h with h | ⟨_, -, h⟩
  · obtain ⟨p, hp, h⟩ := exists_of_forM_error h
    cases (hgrounded p hp).symm.trans h
  · obtain ⟨p, -, h⟩ := exists_of_forM_error h
    obtain ⟨e, -, h⟩ := exists_of_forM_error h
    exact checkRegistered_error h

/-- No extraction fails because an observation or a link is not in the text. -/
lemma extractDecoded_error (hP : P.Regular) {K : ActiveKnowledge} {s : Submission} {raw : Text}
    {fault : ExtractionFault} (h : extractDecoded U P K s raw = .error fault) :
    ¬fault.IsGrounding := by
  unfold extractDecoded at h
  rcases bind_error h with h | ⟨_, -, h⟩
  · obtain ⟨urls, hurls⟩ := urls_total (U := U) hP s raw
    cases hurls.symm.trans h
  rcases bind_error h with h | ⟨_, -, h⟩
  · obtain ⟨observations, hobservations⟩ := observations_total (U := U) hP s raw
    cases hobservations.symm.trans h
  rcases bind_error h with h | ⟨_, -, h⟩
  · exact checkSchema_error h
  rcases bind_error h with h | ⟨_, -, h⟩
  · exact validateArtifacts_error (fun p hp => checkGrounded_placed hP hp) h
  rcases bind_error h with h | ⟨_, -, h⟩
  · exact checkKeys_error h
  rcases bind_error h with h | ⟨_, -, h⟩
  · exact checkContext_error h
  · cases h

/-- Every normalized character and every span of them comes from a part of the submitted text, and
no extraction of the text finds otherwise. -/
theorem normalized_spans_grounded (U : Unicode) (P : Pack) (hP : P.Regular) (raw : Text) :
    (normalizedText U raw).length = (normalize U raw).length ∧
      OriginMap U raw (normalize U raw) ∧ SpansTraced raw (normalize U raw) ∧
      ∀ (K : ActiveKnowledge) (s : Submission),
        (∀ p ∈ (readingOf U P s raw).placed U P s.inputId,
          checkGrounded (readingOf U P s raw).normalized raw (readingOf U P s raw).origins p =
            .ok ()) ∧
        ∀ fault, extractDecoded U P K s raw = .error fault → ¬fault.IsGrounding :=
  ⟨List.length_map _, originMap_normalize U raw, (originMap_normalize U raw).spansTraced,
    fun _ _ => ⟨fun _ hp => checkGrounded_placed hP hp, fun _ h => extractDecoded_error hP h⟩⟩

end Grounding

/-! ### A KYC notice -/

section Sample

def kycMatches (t : Text) (pos stop : ℕ) : List Match :=
  ((List.range stop).filter fun i =>
    pos ≤ i && i + 3 ≤ stop && slice t i (i + 3) == "kyc".toList).map fun i => ⟨i, i + 3, []⟩

/-- The letters that no letter comes before, with those that follow. -/
def letterRuns (t : Text) (pos stop : ℕ) : List Match :=
  ((List.range t.length).map fun i =>
    (⟨i, i + ((t.drop i).takeWhile Char.isAlpha).length, []⟩ : Match)).filter fun m =>
      pos ≤ m.start && m.start < m.stop && m.stop ≤ stop && m.stop ≤ t.length &&
        (m.start == 0 || !(t.getD (m.start - 1) ' ').isAlpha)

/-- The pack on a short notice in English. -/
def noticePack : Pack where
  finditer p t pos stop :=
    match p with
    | .kyc => kycMatches t pos stop
    | .word => letterRuns t pos stop
    | _ => []
  matchesAtStart _ _ := false
  dropTracking := id
  tlds := []
  shorteners := []
  secondLevel := []
  enWords := ["update", "your", "now"].map String.toList
  hiWords := []
  euWords := []
  confusables := []
  configRef := "TL-XPACK-1.0.0"

lemma kyc_of_mem {t : Text} {pos stop : ℕ} {m : Match} (hm : m ∈ kycMatches t pos stop) :
    pos ≤ m.start ∧ m.stop = m.start + 3 ∧ m.stop ≤ stop ∧
      slice t m.start (m.start + 3) = "kyc".toList := by
  simp only [kycMatches, List.mem_map, List.mem_filter, Bool.and_eq_true, decide_eq_true_eq,
    beq_iff_eq] at hm
  obtain ⟨i, ⟨-, ⟨hpos, hstop⟩, hslice⟩, rfl⟩ := hm
  exact ⟨hpos, rfl, hstop, hslice⟩

lemma noticePack_regular : noticePack.Regular where
  bounded p _ t pos stop m hm := by
    cases p with
    | kyc =>
      obtain ⟨hpos, hend, hstop, hslice⟩ := kyc_of_mem hm
      have hlength : (slice t m.start (m.start + 3)).length = 3 := by rw [hslice]; rfl
      rw [slice, List.length_take, List.length_drop] at hlength
      exact ⟨hpos, by omega, hstop, by omega⟩
    | word =>
      have h := (List.mem_filter.mp hm).2
      simp only [Bool.and_eq_true, decide_eq_true_eq] at h
      exact ⟨h.1.1.1.1, h.1.1.1.2, h.1.1.2, h.1.2⟩
    | _ => cases hm
  worded p hp t m hm := by
    simp only [clauseCues, List.mem_cons, List.not_mem_nil, or_false] at hp
    rcases hp with rfl | rfl | rfl
    · obtain ⟨-, -, -, hslice⟩ := kyc_of_mem hm
      have hfirst := congrArg (·[0]?) hslice
      simp only [slice, List.getElem?_take, List.getElem?_drop, Nat.add_zero] at hfirst
      exact ⟨'k', by simpa using hfirst, by decide, by decide⟩
    · cases hm
    · cases hm
  apart p _ q hq t m _ pos stop m' hm' := by
    simp only [List.mem_cons, List.not_mem_nil, or_false] at hq
    rcases hq with rfl | rfl <;> cases hm'

def noticeUnicode : Unicode where
  category c := if c.isAlpha then "Ll" else if c == ' ' then "Zs" else "Po"
  name _ := "LATIN SMALL LETTER"
  isAlpha := Char.isAlpha
  nfkc := id
  lower t := t.map Char.toLower

def notice : Text := "update  your kyc now.".toList

example : ((normalize noticeUnicode notice).map Origin.char,
    rawOf notice (normalize noticeUnicode notice) 7 15) =
      ("update your kyc now.".toList, .ok "your kyc".toList) := by decide +kernel

theorem normalized_spans_grounded_sample :
    (normalizedText noticeUnicode notice).length = (normalize noticeUnicode notice).length ∧
      OriginMap noticeUnicode notice (normalize noticeUnicode notice) ∧
      SpansTraced notice (normalize noticeUnicode notice) ∧
      ∀ (K : ActiveKnowledge) (s : Submission),
        (∀ p ∈ (readingOf noticeUnicode noticePack s notice).placed noticeUnicode noticePack
            s.inputId,
          checkGrounded (readingOf noticeUnicode noticePack s notice).normalized notice
            (readingOf noticeUnicode noticePack s notice).origins p = .ok ()) ∧
        ∀ fault, extractDecoded noticeUnicode noticePack K s notice = .error fault →
          ¬fault.IsGrounding :=
  normalized_spans_grounded noticeUnicode noticePack noticePack_regular notice

end Sample

end TrustLens.Backend.Extraction
