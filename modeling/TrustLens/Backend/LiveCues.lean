import TrustLens.Backend.Grounding

/-!
# Cues and the evaluator

What the evaluator may rely on in an extraction. A positive indicator never rests on a
denied, reported, quoted or hypothetical occurrence. That the occurrence is live for the
evaluator as well fails exactly for the described requests that are read unguarded.
-/

namespace TrustLens.Backend.Extraction

open TrustLens.Runtime (Level Status Observation IndicatorObservation observationById
  structuralVerdict observationVerdict)

/-- A reference resolves to one observation of the input, live where the indicator is positive. -/
def Grounds (g : GovernedInput) (os : List Observation) (io : IndicatorObservation)
    (ref : String) : Prop :=
  ∃ o, os.filter (·.observationId == ref) = [o] ∧ o.sourceInputId = some g.inputId ∧
    io.inputId = some g.inputId ∧
    (io.polarity = some .POSITIVE → io.matched = .OBSERVED →
      o.polarity = .AFFIRMED ∧ o.attribution = .FIRST_PARTY)

/-- Every positive indicator with observed backing is structurally live for the evaluator. -/
def CuesLive (g : GovernedInput) : Prop :=
  ∀ io ∈ g.indicatorObservations.filterMap IndicatorObservation.decode,
    io.polarity = some .POSITIVE → io.matched = .OBSERVED →
      (∀ ref ∈ io.observationRefs, ∀ o ∈ g.observations.filterMap Observation.fromDict,
        o.observationId = ref → o.status = .OBSERVED) →
      structuralVerdict (g.observations.filterMap Observation.fromDict) io = .LIVE

instance (g : GovernedInput) : Decidable (CuesLive g) := by
  unfold CuesLive
  infer_instance

section

variable (U : Unicode) (P : Pack)

lemma rests_live_findingsRead (s : Submission) {f : Finding} (hf : f ∈ findingsRead U P s) :
    f.Rests f.live := by
  unfold findingsRead at hf
  cases hmsg : messageRead U P s with
  | none => simp [hmsg] at hf
  | some msg =>
    rw [hmsg, Option.map_some, Option.getD_some] at hf
    exact (accounted_findAll U P msg s.inputId hf).rests_live

/-- A positive emission is a scam cue of its own on a live finding. -/
lemma own_of_positive {K : ActiveKnowledge} (hcues : ∀ id ∈ safetyCues, K.isPositive id = false)
    {f : Finding} {c : Bool} (hf : f.Rests c) {e : Emission} (he : e ∈ f.indicators)
    (hpositive : K.isPositive e.indicatorId = true) : e.cites = none ∧ c = true := by
  refine hf e he fun hcue => ?_
  rw [hcues _ hcue] at hpositive
  exact Bool.false_ne_true hpositive

/-- A positive indicator never rests on a denied, reported, quoted or hypothetical occurrence. -/
theorem positive_only_when_affirmed (K : ActiveKnowledge)
    (hcues : ∀ id ∈ safetyCues, K.isPositive id = false) (s : Submission) {g : GovernedInput}
    (h : extractText U P (some K) s = .ok g) :
    ∃ os, g.observations.map Observation.fromDict = os.map some ∧
      ∀ j ∈ g.indicatorObservations, ∃ io, IndicatorObservation.decode j = some io ∧
        ∀ ref ∈ io.observationRefs, Grounds g os io ref := by
  have hrec := records_of_extractText h
  refine ⟨_, hrec.observations_eq, ?_⟩
  intro j hj
  obtain ⟨p, hp, e, he, hdecode⟩ := hrec.decoded j hj
  refine ⟨_, hdecode, ?_⟩
  intro ref href
  obtain ⟨q, hq, rfl⟩ := exists_of_mem_refsOf hp href
  have hn := oids_place s.inputId (findingsRead U P s)
  refine ⟨q.observation s.inputId, filter_placed hn hq, ?_, ?_, ?_⟩
  · rw [hrec.inputId_eq]
    rfl
  · rw [hrec.inputId_eq]
    rfl
  · intro hpolarity _
    -- a positive emission refers to its own finding, which is live
    have hpositive : K.isPositive e.indicatorId = true := by
      by_contra hneg
      simp [Emission.decoded, hneg] at hpolarity
    obtain ⟨hown, hlive⟩ := own_of_positive hcues
      (rests_live_findingsRead U P s (finding_mem_of_place hp)) he hpositive
    have hqp : q = p := by
      have hoid : q.oid = p.oid := by simpa [Emission.decoded, refsOf_own _ p hown] using href
      have := filter_key_eq_singleton Placed.oid hn hp
      have hmem : q ∈ (place s.inputId (findingsRead U P s)).filter
          (fun r => r.oid == p.oid) := List.mem_filter.mpr ⟨hq, by simp [hoid]⟩
      rw [this] at hmem
      exact List.mem_singleton.mp hmem
    subst hqp
    unfold Finding.live at hlive
    cases hs : q.finding.struct with
    | none => simp [Placed.observation, hs]
    | some st =>
      simp only [hs, Structure.live, Bool.and_eq_true, beq_iff_eq] at hlive
      simp [Placed.observation, hs, hlive]

/-- The described requests of a submission that are read without looking at their mood. -/
def describedRequests (s : Submission) : List Match :=
  ((messageRead U P s).map fun msg => (unguardedRequests P msg).filter fun m =>
    (msg.structureAt P m.start true).described).getD []

lemma describedRequests_eq_nil {s : Submission} :
    describedRequests U P s = [] ↔ ∀ msg, messageRead U P s = some msg →
      ∀ m ∈ unguardedRequests P msg, (msg.structureAt P m.start true).described = false := by
  unfold describedRequests
  cases messageRead U P s with
  | none => simp
  | some msg => simp [List.filter_eq_nil_iff]

/-- The cues of an extraction are live exactly when no request read unguarded is described. -/
theorem cuesLive_iff (K : ActiveKnowledge) (hcues : ∀ id ∈ safetyCues, K.isPositive id = false)
    (hrequests : ∀ id ∈ requestCues, K.isPositive id = true) (s : Submission) {g : GovernedInput}
    (h : extractText U P (some K) s = .ok g) :
    CuesLive g ↔ describedRequests U P s = [] := by
  have hrec := records_of_extractText h
  have hn := oids_place s.inputId (findingsRead U P s)
  have hos := filterMap_fromDict hrec.observations_eq
  rw [describedRequests_eq_nil]
  constructor
  · intro hlive msg hmsg m hm
    by_contra hd
    rw [Bool.not_eq_false] at hd
    -- the finding of a described request is positive, observed, and not live
    obtain ⟨f, hf, hobs, ⟨st, hst, hdesc⟩, -, e, he, hcue⟩ :=
      exists_misheard_findAll U P msg s.inputId hm hd
    have hread : f ∈ findingsRead U P s := by simpa [findingsRead, hmsg] using hf
    obtain ⟨p, hp, rfl⟩ := exists_place_of_mem s.inputId hread
    obtain ⟨j, hj, hdecode⟩ := hrec.emitted p hp e he
    have hpositive := hrequests _ hcue
    obtain ⟨hown, -⟩ := own_of_positive hcues (rests_live_findingsRead U P s hread) he hpositive
    have hrefs := refsOf_own (place s.inputId (findingsRead U P s)) p hown
    have hverdict := hlive _ (List.mem_filterMap.mpr ⟨j, hj, hdecode⟩)
      (by simp [Emission.decoded, hpositive]) rfl ?_
    · rw [hos, structuralVerdict_own hn hp (by simpa [Emission.decoded] using hrefs),
        observationVerdict_placed hobs] at hverdict
      simp [Finding.heard, hst, hobs, hdesc] at hverdict
    · intro ref href o ho hid
      simp only [Emission.decoded, hrefs, List.mem_singleton] at href
      have hmem : o ∈ ((place s.inputId (findingsRead U P s)).map
          (Placed.observation s.inputId)).filter (·.observationId == p.oid) := by
        rw [hos] at ho
        exact List.mem_filter.mpr ⟨ho, by simp [hid, href]⟩
      rw [filter_placed hn hp, List.mem_singleton] at hmem
      rw [hmem]
      exact hobs
  · intro hd io hio hpolarity _ hstatus
    obtain ⟨j, hj, hdecode⟩ := List.mem_filterMap.mp hio
    obtain ⟨p, hp, e, he, hdecode'⟩ := hrec.decoded j hj
    obtain rfl := Option.some.inj (hdecode.symm.trans hdecode')
    have hpositive : K.isPositive e.indicatorId = true := by
      by_contra hneg
      simp [Emission.decoded, hneg] at hpolarity
    have hheard : p.finding.Rests p.finding.heard := by
      have hmem := finding_mem_of_place hp
      unfold findingsRead at hmem
      cases hmsg : messageRead U P s with
      | none => simp [hmsg] at hmem
      | some msg =>
        rw [hmsg, Option.map_some, Option.getD_some] at hmem
        exact (accounted_findAll U P msg s.inputId hmem).rests_heard (hd msg hmsg)
    obtain ⟨hown, hheard⟩ := own_of_positive hcues hheard he hpositive
    have hrefs := refsOf_own (place s.inputId (findingsRead U P s)) p hown
    have hobs : p.finding.status = .OBSERVED := by
      refine hstatus p.oid (by simp [Emission.decoded, hrefs]) (p.observation s.inputId) ?_ rfl
      rw [hos]
      exact List.mem_map_of_mem hp
    rw [hos, structuralVerdict_own hn hp (by simpa [Emission.decoded] using hrefs),
      observationVerdict_placed hobs]
    exact hheard

end

/-! ### Samples -/

/-- The occurrences of a literal. -/
def occurrences (needle t : Text) (pos endpos : ℕ) : List ℕ :=
  (List.range endpos).filter fun i => pos ≤ i && slice t i (min endpos (i + needle.length)) == needle

/-- The maximal runs of letters. -/
def wordMatches (t : Text) : List Match :=
  ((List.range t.length).filter fun i =>
      (t.getD i ' ').isAlpha && (i == 0 || !(t.getD (i - 1) ' ').isAlpha)).map fun i =>
    ⟨i, i + ((t.drop i).takeWhile Char.isAlpha).length, []⟩

/-- A pack that recognises one request, as the full pack does on the sample texts. -/
def samplePack : Pack where
  finditer p t pos endpos :=
    match p with
    | .credentialRequest => (occurrences "share your otp".toList t pos endpos).map fun i =>
        ⟨i, i + 14, [("otp", i + 11, i + 14)]⟩
    | .word => wordMatches t
    | _ => []
  matchesAtStart p t := p == .directivePrefix && (t.all PyText.isSpace || t == "please ".toList)
  dropTracking := id
  tlds := []
  shorteners := []
  secondLevel := []
  enWords := ["to", "your", "account", "share", "otp", "now", "please"].map String.toList
  hiWords := []
  euWords := []
  confusables := []
  configRef := "TL-XPACK-1.0.0"

def sampleUnicode : Unicode where
  category c := if c.isAlpha then "Ll" else if c == ' ' then "Zs" else "Po"
  name c := if c.isAlpha then "LATIN SMALL LETTER" else "SPACE"
  isAlpha := Char.isAlpha
  nfkc := id
  lower t := t.map Char.toLower

/-- The request cues in one family, and no safety cue. -/
def sampleActive : ActiveKnowledge where
  rules := []
  indicators := requestCues.map fun id => ⟨id, none, none⟩
  negatives := []
  overrides := []
  taxonomy := []
  actionPolicy := []
  bundleVersion := "0"
  contentDigest := "0"
  commitSha := "0"
  componentVersions := [("extraction_schemas", "1.0.0")]
  rules_nodup := List.nodup_nil
  indicators_nodup := by decide
  negatives_nodup := List.nodup_nil
  overrides_nodup := List.nodup_nil
  polarity_disjoint := by simp
  families := [("FAM-CREDENTIAL-REQUEST", requestCues)]
  indicatorPolarity := []
  negativeStatus := []

def sampleSubmission (message : String) : Submission where
  data := message.toUTF8
  inputId := "TL-INPUT:1"
  inputType := "SMS"

def sampleExtraction (message : String) : Except ExtractionFault GovernedInput :=
  extractText sampleUnicode samplePack (some sampleActive) (sampleSubmission message)

example : (sampleExtraction "please share your otp now").toOption.map (fun g =>
    (g.inputSupportStatus, (g.indicatorObservations.filterMap IndicatorObservation.decode).map
      fun io => (io.indicatorId, io.confidence))) =
    some ("SUPPORTED", [("CREDENTIAL_REQUEST_OTP", some .HIGH)]) := by
  decide +kernel

lemma exists_sampleExtraction (message : String)
    (h : (sampleExtraction message).toOption.isSome = true) :
    ∃ g, sampleExtraction message = .ok g := by
  obtain ⟨g, hg⟩ := Option.isSome_iff_exists.mp h
  exact ⟨g, eq_ok_of_toOption hg⟩

theorem positive_only_when_affirmed_sample :
    ∃ g os, sampleExtraction "please share your otp now" = .ok g ∧
      g.observations.map Observation.fromDict = os.map some ∧
      ∀ j ∈ g.indicatorObservations, ∃ io, IndicatorObservation.decode j = some io ∧
        ∀ ref ∈ io.observationRefs, Grounds g os io ref := by
  obtain ⟨g, hg⟩ := exists_sampleExtraction "please share your otp now" (by decide +kernel)
  obtain ⟨os, hos⟩ := positive_only_when_affirmed sampleUnicode samplePack sampleActive
    (by decide) (sampleSubmission "please share your otp now") hg
  exact ⟨g, os, hg, hos⟩

theorem cuesLive_iff_sample :
    ∃ g, sampleExtraction "please share your otp now" = .ok g ∧ CuesLive g := by
  obtain ⟨g, hg⟩ := exists_sampleExtraction "please share your otp now" (by decide +kernel)
  exact ⟨g, hg, (cuesLive_iff sampleUnicode samplePack sampleActive (by decide) (by decide)
    (sampleSubmission "please share your otp now") hg).mpr (by decide +kernel)⟩

/-- A request described for a purpose is projected as positive, and counts as absent. -/
theorem described_request_not_live :
    ¬∀ (U : Unicode) (P : Pack) (K : ActiveKnowledge) (s : Submission) (g : GovernedInput),
      (∀ id ∈ safetyCues, K.isPositive id = false) →
      (∀ id ∈ requestCues, K.isPositive id = true) →
      extractText U P (some K) s = .ok g → CuesLive g := by
  intro h
  have hdead : ((sampleExtraction "to secure your account share your otp now").toOption.map
      fun g => decide (CuesLive g)) = some false := by decide +kernel
  obtain ⟨g, hg, hfalse⟩ := Option.map_eq_some_iff.mp hdead
  have hlive := h sampleUnicode samplePack sampleActive
    (sampleSubmission "to secure your account share your otp now") g (by decide) (by decide)
    (eq_ok_of_toOption hg)
  exact of_decide_eq_false hfalse hlive

end TrustLens.Backend.Extraction
