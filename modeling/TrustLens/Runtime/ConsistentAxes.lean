import TrustLens.Runtime.RiskMonotone

/-!
# The axes of a decision agree

Severity, strength, risk, confidence, corroboration and classification are computed apart.
They agree: all of them speak of one governing rule when a rule fires, and all of them are
empty when none does.
-/

namespace TrustLens.Runtime

namespace Aggregation

variable {rk : RuntimeKnowledge}

/-! ### What counts -/

/-- An eligible match counts in a decision that evaluates its input. -/
def Counts (support : Support) (wholeErrors : List Json) (rs : List RuleResult) (r : RuleResult) :
    Prop :=
  Evaluable support wholeErrors ∧ r ∈ rs ∧ r.isEligibleMatched = true

/-- The governed strength of an indicator. -/
def governedStrength (rk : RuntimeKnowledge) (id : String) : Option Strength :=
  (rk.indicator id).bind fun ind => Strength.ofIndicator? ind.strength

/-- The strongest of the matched indicators; WEAK when there is none. -/
def Strongest (rk : RuntimeKnowledge) (ids : List String) (s : Strength) : Prop :=
  (ids = [] ∧ s = .WEAK) ∨
    (∃ id ∈ ids, governedStrength rk id = some s) ∧
      ∀ id ∈ ids, ∃ t, governedStrength rk id = some t ∧ t ≤ s

/-- What a decision shows of the rule that governs it. -/
structure GovernedBy (rk : RuntimeKnowledge) (rs : List RuleResult) (d : DecisionResult)
    (g : RuleResult) : Prop where
  governing : d.governingRuleId = some g.ruleId
  severity : ∃ s, g.severity? = some s ∧ d.decisionSeverity = (s : Severity) ∧
    ∀ r ∈ rs, r.isEligibleMatched = true → ∀ t, r.severity? = some t → t ≤ s
  strength : ∃ verdict strongest, g.verdict? = some verdict ∧
    Strongest rk g.matchedPositiveIndicators strongest ∧
    d.matchedEvidenceStrength =
      if g.activeOverrides = [] then min strongest verdict.strengthCap
      else max (min strongest verdict.strengthCap) .MODERATE
  risk : ∃ s risk, d.decisionSeverity = (s : Severity) ∧
    riskMatrix s d.matchedEvidenceStrength = some risk ∧ d.riskLevel = (risk : Severity)
  limited : g.verdict? = some .PARTIAL ∨ g.verdict? = some .HEURISTIC →
    d.detectionConfidence ≠ .HIGH ∧ d.corroboration.band ≠ .HIGH
  flagged : ∃ x, d.ruleResults.filter DecidedResult.governing = [x] ∧ x.result.ruleId = g.ruleId

/-- What a decision shows when no rule counts. -/
structure NotGoverned (d : DecisionResult) : Prop where
  governing : d.governingRuleId = none ∧ d.governingReason = none
  severity : d.decisionSeverity = ⊥
  strength : d.matchedEvidenceStrength = .NONE
  risk : d.riskLevel = ⊥
  confidence : d.detectionConfidence = .NOT_APPLICABLE
  corroboration : d.corroboration.evidenceClassCount = 0 ∧
    d.corroboration.independentEvidenceClasses = [] ∧
    (d.corroboration.band = .NONE ∨ d.corroboration.band = .LOW)
  matched : d.matchedRules = [] ∧ d.matchedPositiveIndicators = []
  flagged : d.ruleResults.filter DecidedResult.governing = []

structure Consistent (rk : RuntimeKnowledge) (support : Support) (wholeErrors : List Json)
    (rs : List RuleResult) (d : DecisionResult) : Prop where
  governed : (∃ r, Counts support wholeErrors rs r) →
    ∃ g, Counts support wholeErrors rs g ∧ GovernedBy rk rs d g
  quiet : (¬∃ r, Counts support wholeErrors rs r) → NotGoverned d
  suspected : d.classification = .SCAM_PATTERN_SUSPECTED ↔
    (∃ r, Counts support wholeErrors rs r) ∧ d.detectionConfidence = .LOW
  detected : d.classification = .SCAM_PATTERN_DETECTED ↔
    (∃ r, Counts support wholeErrors rs r) ∧ d.detectionConfidence ≠ .LOW
  degraded : d.degraded = true → d.detectionConfidence ≠ .HIGH

/-! ### Strengths -/

lemma strengths_ok {ruleId : String} {ids : List String} {found : List Strength}
    (h : strengths rk ruleId ids = .ok found) :
    List.Forall₂ (fun id s => governedStrength rk id = some s) ids found := by
  induction ids generalizing found with
  | nil =>
    cases h
    exact List.Forall₂.nil
  | cons id rest ih =>
    unfold strengths at h
    split at h
    · cases h
    · rename_i ind hind
      split at h
      · cases h
      · rename_i s hs
        obtain ⟨more, hmore, h⟩ := bind_ok h
        cases h
        refine List.Forall₂.cons ?_ (ih hmore)
        rw [governedStrength, hind, Option.bind_some, hs]

lemma strongest_max {ids : List String} {found : List Strength}
    (h : List.Forall₂ (fun id s => governedStrength rk id = some s) ids found) :
    Strongest rk ids (found.max?.getD .WEAK) := by
  cases hmax : found.max? with
  | none =>
    rw [List.max?_eq_none_iff] at hmax
    subst hmax
    exact .inl ⟨List.forall₂_nil_right_iff.mp h, rfl⟩
  | some m =>
    rw [List.max?_eq_some_iff] at hmax
    refine .inr ⟨?_, fun id hid => ?_⟩
    · obtain ⟨id, hid, hm⟩ := exists_left_of_forall₂ h hmax.1
      exact ⟨id, hid, hm⟩
    · obtain ⟨t, ht, hget⟩ := exists_right_of_forall₂ h hid
      exact ⟨t, hget, hmax.2 t ht⟩

lemma Strongest.congr {ids ids' : List String} (h : ∀ id, id ∈ ids ↔ id ∈ ids') {s : Strength}
    (hs : Strongest rk ids s) : Strongest rk ids' s := by
  simp only [Strongest, List.eq_nil_iff_forall_not_mem, h] at hs ⊢
  exact hs

/-- The strength of a rule is the strongest of its indicators under the cap of its verdict. -/
lemma ruleEvidenceStrength_ok {r : RuleResult} {s : Strength}
    (h : ruleEvidenceStrength rk r = .ok s) {verdict : EvidenceVerdict}
    (hverdict : r.verdict? = some verdict) :
    ∃ strongest, Strongest rk r.matchedPositiveIndicators strongest ∧
      s = if r.activeOverrides = [] then min strongest verdict.strengthCap
        else max (min strongest verdict.strengthCap) .MODERATE := by
  obtain ⟨found, hfound, h⟩ := bind_ok h
  refine ⟨_, strongest_max (strengths_ok hfound), ?_⟩
  rw [← Except.ok.inj h, hverdict, Option.map_some, Option.getD_some, ite_not]

lemma strength_of_candidate {rs : List RuleResult} {cs : List Candidate}
    (h : candidates rk rs = .ok cs) :
    ∀ c ∈ cs, ruleEvidenceStrength rk c.result = .ok c.strength := by
  induction rs generalizing cs with
  | nil =>
    cases h
    simp
  | cons head rest ih =>
    unfold candidates at h
    split at h
    · obtain ⟨strength, hs, h⟩ := bind_ok h
      obtain ⟨more, hmore, h⟩ := bind_ok h
      cases h
      exact List.forall_mem_cons.mpr ⟨hs, ih hmore⟩
    · exact ih h

/-! ### Confidence and corroboration -/

lemma verdict_of_confidence {r : RuleResult} {count : ℕ}
    (h : detectionConfidence r count = .HIGH) : r.verdict? = some .SUPPORTED := by
  simp only [detectionConfidence] at h
  split_ifs at h with hhigh
  exact hhigh.1

lemma band_ne_HIGH {proven : Independence.Independent} {verdict : Option EvidenceVerdict}
    (h : verdict = some .PARTIAL ∨ verdict = some .HEURISTIC) :
    (corroboration proven verdict).band ≠ .HIGH := by
  simp only [corroboration]
  split_ifs <;> decide

lemma classify_eq_SUSPECTED {support : Support} {eligible : Bool} {results : List RuleResult}
    {confidence : Confidence} {degraded wholeError : Bool} :
    classify support eligible results confidence degraded wholeError = .SCAM_PATTERN_SUSPECTED ↔
      IsScam (classify support eligible results confidence degraded wholeError) ∧
        confidence = .LOW := by
  unfold classify IsScam
  cases support <;> split_ifs <;> simp_all

lemma classify_eq_DETECTED {support : Support} {eligible : Bool} {results : List RuleResult}
    {confidence : Confidence} {degraded wholeError : Bool} :
    classify support eligible results confidence degraded wholeError = .SCAM_PATTERN_DETECTED ↔
      IsScam (classify support eligible results confidence degraded wholeError) ∧
        confidence ≠ .LOW := by
  unfold classify IsScam
  cases support <;> split_ifs <;> simp_all

/-! ### The canonical copies -/

section Checked

variable {r copy : RuleResult}

lemma Checked.eligible_eq (h : Checked rk r copy) :
    copy.isEligibleMatched = r.isEligibleMatched := by
  rw [h.copy_eq]
  rfl

lemma Checked.verdict_eq (h : Checked rk r copy) : copy.verdict? = r.verdict? := by
  rw [h.copy_eq]
  rfl

lemma Checked.overrides_eq (h : Checked rk r copy) :
    copy.activeOverrides = [] ↔ r.activeOverrides = [] := by
  rw [h.copy_eq]
  exact sortedUnique_eq_nil

lemma Checked.mem_matched (h : Checked rk r copy) (id : String) :
    id ∈ copy.matchedPositiveIndicators ↔ id ∈ r.matchedPositiveIndicators := by
  rw [h.copy_eq]
  exact mem_sortedUnique

/-- A match that counts was given a verdict. -/
lemma Checked.exists_verdict (h : Checked rk r copy) (heligible : r.isEligibleMatched = true) :
    ∃ verdict, r.verdict? = some verdict := by
  rw [← h.eligible_eq] at heligible
  have hinv := h.invariants
  simp only [RuleResult.isEligibleMatched, Bool.and_eq_true, beq_iff_eq] at heligible
  obtain ⟨⟨⟨hcomposite, hstate⟩, -⟩, -⟩ := heligible
  unfold checkSemanticInvariants at hinv
  split_ifs at hinv with h1 h2 h3 h4
  rw [← h.verdict_eq, ← Option.ne_none_iff_exists']
  exact fun hnone => h4 ⟨hcomposite, by rw [hstate]; decide, hnone⟩

end Checked

/-! ### The decision -/

/-- The fields of a decision in which a rule fires. -/
structure Fires (rk : RuntimeKnowledge) (support : Support) (results : List RuleResult)
    (eligible : List Candidate) (g : Candidate) (degraded : Bool) (d : DecisionResult) : Prop where
  shown : FiredBy d g
  classification : d.classification =
    classify support true results d.detectionConfidence degraded false
  confidence : d.detectionConfidence = .HIGH → degraded = false ∧
    g.result.verdict? = some .SUPPORTED
  corroboration : ∃ proven, d.corroboration = corroboration proven g.result.verdict?
  degraded : d.degraded = degraded
  flags : (d.ruleResults.filter DecidedResult.governing).Perm
    (((results.filter fun r => r.ruleId == g.result.ruleId && r.isEligibleMatched)).map fun r =>
      { result := r
        ruleEvidenceStrength := (eligible.find? (·.result.ruleId == r.ruleId)).map Candidate.strength
        governing := true
        governingReason := d.governingReason
        ruleDetectionConfidence := some d.detectionConfidence })

lemma fire_fires {profile : EvaluationProfile} {support : Support} {results : List RuleResult}
    {degraded : Bool} {errors : List ErrorEntry} {eligible : List Candidate} {g : Candidate}
    (hg : selectGoverning eligible = some g) (hs : g.strength ≠ .NONE) :
    ∃ d, fire rk profile support results eligible g degraded false errors = .ok d ∧
      Fires rk support results eligible g degraded d := by
  obtain ⟨risk, hrisk⟩ := exists_riskMatrix g.severity hs
  simp only [fire, foldl_max_governing hg, hrisk]
  refine ⟨_, rfl, ⟨rfl, rfl, rfl, risk, hrisk, rfl⟩, rfl, fun hhigh => ?_, ⟨_, rfl⟩, rfl, ?_⟩
  · change (if degraded = true ∧ _ = Confidence.HIGH then Confidence.MEDIUM else _) = _ at hhigh
    split_ifs at hhigh with hcap
    rw [hhigh] at hcap
    exact ⟨Bool.eq_false_iff.mpr fun hd => hcap ⟨hd, rfl⟩, verdict_of_confidence hhigh⟩
  · refine ((List.perm_insertionSort _ _).filter _).trans ?_
    rw [List.filter_map]
    refine List.Perm.of_eq ?_
    refine List.map_congr_left fun r hr => ?_
    have hflag := (List.mem_filter.mp hr).2
    simp only [Function.comp_apply] at hflag
    simp only [hflag, if_true]
    rfl

/-- The eligible matches and the candidates are the same rules. -/
lemma exists_candidate_of_eligible {rs copies : List RuleResult} {cs : List Candidate}
    (hchecked : List.Forall₂ (Checked rk) rs copies) (hcs : candidates rk copies = .ok cs)
    {r : RuleResult} (hr : r ∈ rs) (heligible : r.isEligibleMatched = true) :
    ∃ c ∈ cs, Checked rk r c.result ∧ r.severity? = some c.severity := by
  obtain ⟨copy, hcopy, h⟩ := exists_right_of_forall₂ hchecked hr
  obtain ⟨severity, hsev⟩ : ∃ severity, r.severity? = some severity := by
    rw [← Option.isSome_iff_exists]
    simp only [RuleResult.isEligibleMatched, Bool.and_eq_true] at heligible
    exact heligible.2
  obtain ⟨c, hc, rfl, rfl⟩ := (mem_candidates hcs copy severity).mpr
    ⟨hcopy, h.eligible_eq.trans heligible, h.severity_eq.trans hsev⟩
  exact ⟨c, hc, h, hsev⟩

lemma exists_eligible_of_candidate {rs copies : List RuleResult} {cs : List Candidate}
    (hchecked : List.Forall₂ (Checked rk) rs copies) (hcs : candidates rk copies = .ok cs)
    {c : Candidate} (hc : c ∈ cs) :
    ∃ r ∈ rs, Checked rk r c.result ∧ r.isEligibleMatched = true ∧
      r.severity? = some c.severity := by
  obtain ⟨hmem, heligible, hsev⟩ :=
    (mem_candidates hcs c.result c.severity).mp ⟨c, hc, rfl, rfl⟩
  obtain ⟨r, hr, h⟩ := exists_left_of_forall₂ hchecked hmem
  exact ⟨r, hr, h, h.eligible_eq.symm.trans heligible, h.severity_eq.symm.trans hsev⟩

/-- With distinct rule ids, one result carries the flag. -/
lemma filter_governing {results : List RuleResult} {g : RuleResult}
    (hn : (results.map RuleResult.ruleId).Nodup) (hg : g ∈ results)
    (heligible : g.isEligibleMatched = true) :
    (results.filter fun r => r.ruleId == g.ruleId && r.isEligibleMatched) = [g] := by
  induction results with
  | nil => cases hg
  | cons r rest ih =>
    obtain ⟨hfresh, hrest⟩ := List.nodup_cons.mp hn
    rcases List.mem_cons.mp hg with rfl | hmem
    · rw [List.filter_cons_of_pos (by simp [heligible])]
      congr 1
      refine List.filter_eq_nil_iff.mpr fun r hr hflag => hfresh ?_
      rw [Bool.and_eq_true, beq_iff_eq] at hflag
      exact hflag.1 ▸ List.mem_map_of_mem hr
    · rw [List.filter_cons_of_neg, ih hrest hmem]
      intro hflag
      rw [Bool.and_eq_true, beq_iff_eq] at hflag
      exact hfresh (hflag.1 ▸ List.mem_map_of_mem hmem)

lemma governedBy_of_fires {support : Support} {rs copies : List RuleResult} {cs : List Candidate}
    {g : Candidate} {degraded : Bool} {d : DecisionResult}
    (hn : (copies.map RuleResult.ruleId).Nodup) (hchecked : List.Forall₂ (Checked rk) rs copies)
    (hcs : candidates rk copies = .ok cs) (hg : selectGoverning cs = some g)
    (h : Fires rk support copies cs g degraded d) :
    ∃ r ∈ rs, r.isEligibleMatched = true ∧ GovernedBy rk rs d r := by
  have hmem := mem_of_selectGoverning hg
  obtain ⟨r, hr, hcopy, heligible, hsev⟩ := exists_eligible_of_candidate hchecked hcs hmem
  obtain ⟨verdict, hverdict⟩ := hcopy.exists_verdict heligible
  refine ⟨r, hr, heligible, ⟨?_, ⟨g.severity, hsev, h.shown.severity, ?_⟩, ?_, ?_, ?_, ?_⟩⟩
  · rw [h.shown.governing, hcopy.ruleId_eq]
  · intro r' hr' heligible' t ht
    obtain ⟨c, hc, -, hsev'⟩ := exists_candidate_of_eligible hchecked hcs hr' heligible'
    obtain rfl := Option.some.inj (hsev'.symm.trans ht)
    exact severity_le_of_governingKey (selectGoverning_le hg c hc)
  · obtain ⟨strongest, hstrongest, hstrength⟩ := ruleEvidenceStrength_ok
      (strength_of_candidate hcs g hmem) (hcopy.verdict_eq.trans hverdict)
    refine ⟨verdict, strongest, hverdict, hstrongest.congr hcopy.mem_matched, ?_⟩
    rw [h.shown.strength, hstrength]
    simp only [hcopy.overrides_eq]
  · obtain ⟨risk, hrisk, hshown⟩ := h.shown.risk
    exact ⟨g.severity, risk, h.shown.severity, h.shown.strength ▸ hrisk, hshown⟩
  · intro hlimited
    rw [← hcopy.verdict_eq] at hlimited
    refine ⟨fun hhigh => ?_, ?_⟩
    · obtain ⟨-, hsupported⟩ := h.confidence hhigh
      rw [hsupported] at hlimited
      exact absurd hlimited (by decide)
    · obtain ⟨proven, hcorroboration⟩ := h.corroboration
      rw [hcorroboration]
      exact band_ne_HIGH hlimited
  · obtain ⟨hcopies, hflag, -⟩ := (mem_candidates hcs g.result g.severity).mp ⟨g, hmem, rfl, rfl⟩
    have hflags := h.flags
    rw [filter_governing hn hcopies hflag, List.map_singleton] at hflags
    exact ⟨_, List.perm_singleton.mp hflags, hcopy.ruleId_eq⟩

lemma filter_governing_plain (results : List RuleResult) :
    (((results.map fun r => { result := r : DecidedResult }).insertionSort
      fun a b => a.result.ruleId ≤ b.result.ruleId).filter DecidedResult.governing) = [] := by
  refine List.filter_eq_nil_iff.mpr fun x hx => ?_
  rw [List.mem_insertionSort, List.mem_map] at hx
  obtain ⟨r, -, rfl⟩ := hx
  exact Bool.false_ne_true

lemma corroborationNoFire_eq (results : List RuleResult) (classification : Classification) :
    (corroborationNoFire results classification).evidenceClassCount = 0 ∧
      (corroborationNoFire results classification).independentEvidenceClasses = [] ∧
      ((corroborationNoFire results classification).band = .NONE ∨
        (corroborationNoFire results classification).band = .LOW) := by
  unfold corroborationNoFire
  split_ifs
  · exact ⟨rfl, rfl, .inr rfl⟩
  · exact ⟨rfl, rfl, .inl rfl⟩

/-- A decision in which no rule fires shows nothing, whatever is in its results. -/
lemma notGoverned_of_noFire (support : Support) (classification : Classification)
    {corroboration : Corroboration} (results : List RuleResult) (degraded : Bool)
    (errors : List ErrorEntry) (profile : EvaluationProfile)
    (hcorroboration : corroboration.evidenceClassCount = 0 ∧
      corroboration.independentEvidenceClasses = [] ∧
      (corroboration.band = .NONE ∨ corroboration.band = .LOW)) :
    NotGoverned (assemble support (noFire classification corroboration) []
      (results.map fun r => { result := r : DecidedResult }) degraded errors profile) where
  governing := ⟨rfl, rfl⟩
  severity := rfl
  strength := rfl
  risk := rfl
  confidence := rfl
  corroboration := hcorroboration
  matched := ⟨rfl, rfl⟩
  flagged := filter_governing_plain results

/-- The decision over checked results. -/
lemma aggregateChecked_cases {profile : EvaluationProfile} {support : Support}
    {wholeErrors : List Json} {results : List RuleResult} {d : DecisionResult}
    (h : aggregateChecked rk profile support wholeErrors results = .ok d) :
    (NotGoverned d ∧ ¬IsScam d.classification ∧
      (Evaluable support wholeErrors → candidates rk results = .ok [])) ∨
    (Evaluable support wholeErrors ∧ ∃ cs g, candidates rk results = .ok cs ∧
      selectGoverning cs = some g ∧
      Fires rk support results cs g (results.any RuleResult.isDegraded) d) := by
  have hquiet : ∀ confidence degraded wholeError,
      ¬IsScam (classify support false results confidence degraded wholeError) := by
    intro confidence degraded wholeError hscam
    exact absurd (isScam_classify.mp hscam).2.2 Bool.false_ne_true
  by_cases hok : Evaluable support wholeErrors
  · have hblocked := evaluable_iff.mp hok
    simp only [aggregateChecked, if_neg hblocked] at h
    obtain ⟨cs, hcs, h⟩ := bind_ok h
    have hnil := hok.1
    subst hnil
    cases hg : selectGoverning cs with
    | none =>
      simp only [hg] at h
      cases h
      refine .inl ⟨notGoverned_of_noFire _ _ _ _ _ _ (corroborationNoFire_eq _ _), hquiet _ _ _, ?_⟩
      rw [hcs, selectGoverning_eq_none.mp hg]
      exact fun _ => rfl
    | some g =>
      simp only [hg] at h
      have hstrength := strength_of_mem_candidates hcs g (mem_of_selectGoverning hg)
      obtain ⟨d', hd', hfires⟩ := @fire_fires rk profile _ results _ _ cs g hg hstrength
      obtain rfl := Except.ok.inj (hd'.symm.trans h)
      exact .inr ⟨hok, cs, g, hcs, hg, hfires⟩
  · have hblocked := evaluable_iff.not_left.mp hok
    simp only [aggregateChecked, if_pos hblocked] at h
    cases h
    exact .inl ⟨notGoverned_of_noFire _ _ _ _ _ _ ⟨rfl, rfl, .inl rfl⟩, hquiet _ _ _,
      fun hok' => absurd hok' hok⟩

/-- Every accepted decision is consistent. -/
theorem consistent_of_aggregateDecision {profile : EvaluationProfile} {rs : List RuleResult}
    {status : String} {wholeErrors : List Json} {d : DecisionResult}
    (h : aggregateDecision rk profile rs status wholeErrors = .ok d) :
    ∃ support, Support.ofString? status = some support ∧
      Consistent rk support wholeErrors rs d := by
  obtain ⟨support, copies, hsupport, -, hcopies, hn, hd⟩ := aggregateDecision_inputs h
  have hchecked := materialise_ok hcopies
  refine ⟨support, hsupport, ?_⟩
  rcases aggregateChecked_cases hd with ⟨hquiet, hscam, hnil⟩ | ⟨hok, cs, g, hcs, hg, hfires⟩
  · have hnone : ¬∃ r, Counts support wholeErrors rs r := by
      rintro ⟨r, hok, hr, heligible⟩
      obtain ⟨c, hc, -⟩ := exists_candidate_of_eligible hchecked (hnil hok) hr heligible
      cases hc
    refine ⟨fun hsome => absurd hsome hnone, fun _ => hquiet, ?_, ?_, fun _ => ?_⟩
    · exact iff_of_false (fun heq => hscam (.inl heq)) fun hsome => hnone hsome.1
    · exact iff_of_false (fun heq => hscam (.inr heq)) fun hsome => hnone hsome.1
    · rw [hquiet.confidence]
      decide
  · rw [← map_ruleId_of_checked hchecked] at hn
    obtain ⟨r, hr, heligible, hgoverned⟩ := governedBy_of_fires hn hchecked hcs hg hfires
    have hsome : ∃ r, Counts support wholeErrors rs r := ⟨r, hok, hr, heligible⟩
    have hscam : IsScam d.classification := by
      rw [hfires.classification]
      exact isScam_classify.mpr ⟨rfl, hok.2, rfl⟩
    refine ⟨fun _ => ⟨r, ⟨hok, hr, heligible⟩, hgoverned⟩, fun hnone => absurd hsome hnone,
      ?_, ?_, fun hdegraded hhigh => ?_⟩
    · rw [and_iff_right hsome]
      rw [hfires.classification] at hscam ⊢
      rw [classify_eq_SUSPECTED, and_iff_right hscam]
    · rw [and_iff_right hsome]
      rw [hfires.classification] at hscam ⊢
      rw [classify_eq_DETECTED, and_iff_right hscam]
    · obtain ⟨hnot, -⟩ := hfires.confidence hhigh
      rw [hfires.degraded, hnot] at hdegraded
      cases hdegraded

/-! ### The matrix never refuses -/

lemma strengths_ne_illegalCell {ruleId : String} {ids : List String} (severity : Severity)
    (strength : Strength) : strengths rk ruleId ids ≠ .error (.illegalCell severity strength) := by
  induction ids with
  | nil => nofun
  | cons id rest ih =>
    intro h
    unfold strengths at h
    split at h
    · cases h
    · split at h
      · cases h
      · rcases bind_error h with h | ⟨_, -, h⟩
        · exact ih h
        · cases h

lemma candidates_ne_illegalCell {rs : List RuleResult} (severity : Severity) (strength : Strength) :
    candidates rk rs ≠ .error (.illegalCell severity strength) := by
  induction rs with
  | nil => nofun
  | cons r rest ih =>
    intro h
    unfold candidates at h
    split at h
    · rcases bind_error h with h | ⟨_, -, h⟩
      · rcases bind_error h with h | ⟨_, -, h⟩
        · exact strengths_ne_illegalCell severity strength h
        · cases h
      · rcases bind_error h with h | ⟨_, -, h⟩
        · exact ih h
        · cases h
    · exact ih h

lemma checkSemanticInvariants_ne_illegalCell {r : RuleResult} (severity : Severity)
    (strength : Strength) :
    checkSemanticInvariants rk r ≠ .error (.illegalCell severity strength) := by
  intro h
  unfold checkSemanticInvariants at h
  split_ifs at h
  any_goals cases h
  split at h
  · cases h
  · split at h
    · cases h
    · cases h

lemma materialise_ne_illegalCell {rs : List RuleResult} (severity : Severity) (strength : Strength) :
    materialise rk rs ≠ .error (.illegalCell severity strength) := by
  intro h
  rcases bind_error h with h | ⟨_, -, h⟩
  · obtain ⟨r, -, h⟩ := exists_of_mapM_error h
    unfold validateAndCanonicalCopy at h
    split_ifs at h
    cases h
  · rcases bind_error h with h | ⟨_, -, h⟩
    · obtain ⟨r, -, h⟩ := exists_of_forM_error h
      exact checkSemanticInvariants_ne_illegalCell severity strength h
    · cases h

lemma aggregateChecked_ne_illegalCell {profile : EvaluationProfile} {support : Support}
    {wholeErrors : List Json} {results : List RuleResult} (severity : Severity)
    (strength : Strength) : aggregateChecked rk profile support wholeErrors results ≠
      .error (.illegalCell severity strength) := by
  intro h
  by_cases hok : Evaluable support wholeErrors
  · cases hcs : candidates rk results with
    | error e =>
      simp only [aggregateChecked, if_neg (evaluable_iff.mp hok), hcs, bind, Except.bind] at h
      rw [Except.error.inj h] at hcs
      exact candidates_ne_illegalCell severity strength hcs
    | ok cs =>
      obtain ⟨d, hd, -⟩ := aggregateChecked_total profile hok hcs
      rw [hd] at h
      cases h
  · obtain ⟨d, hd, -⟩ := @aggregateChecked_blocked rk profile _ _ results hok
    rw [hd] at h
    cases h

lemma aggregateDecision_ne_illegalCell {profile : EvaluationProfile} {rs : List RuleResult}
    {status : String} {wholeErrors : List Json} (severity : Severity) (strength : Strength) :
    aggregateDecision rk profile rs status wholeErrors ≠
      .error (.illegalCell severity strength) := by
  intro h
  unfold aggregateDecision at h
  split at h
  · cases h
  · split_ifs at h
    · cases h
    · rcases bind_error h with h | ⟨_, -, h⟩
      · exact materialise_ne_illegalCell severity strength h
      · split at h
        · cases h
        · exact aggregateChecked_ne_illegalCell severity strength h

/-- The axes of every accepted decision agree, and no input reaches a cell outside the matrix. -/
theorem decision_consistent (rk : RuntimeKnowledge) (profile : EvaluationProfile)
    (rs : List RuleResult) (status : String) (wholeErrors : List Json) :
    (∀ severity strength, aggregateDecision rk profile rs status wholeErrors ≠
      .error (.illegalCell severity strength)) ∧
    ∀ d, aggregateDecision rk profile rs status wholeErrors = .ok d →
      ∃ support, Support.ofString? status = some support ∧
        Consistent rk support wholeErrors rs d :=
  ⟨aggregateDecision_ne_illegalCell, fun _ => consistent_of_aggregateDecision⟩

/-- An eligible match in an input of an unsupported kind is neither shown nor flagged. -/
theorem eligible_not_governing :
    ¬∀ (rk : RuntimeKnowledge) (profile : EvaluationProfile) (rs : List RuleResult) (status : String)
      (wholeErrors : List Json) (d : DecisionResult),
      aggregateDecision rk profile rs status wholeErrors = .ok d →
      (∃ r ∈ rs, r.isEligibleMatched = true) →
      (∀ r ∈ rs, r.isEligibleMatched = true → ∀ s : Severity, r.severity? = some s →
        s ≤ d.decisionSeverity) ∧
      (d.classification = .SCAM_PATTERN_SUSPECTED ∨ d.classification = .SCAM_PATTERN_DETECTED) ∧
      ∃ x, d.ruleResults.filter DecidedResult.governing = [x] := by
  intro h
  have hmatch : (sampleMatch "TL-URG-001" "URGENCY" "SUPPORTED").isEligibleMatched = true := by decide
  obtain ⟨d, hd⟩ : ∃ d, (aggregateDecision sampleStrengths {}
      [sampleMatch "TL-URG-001" "URGENCY" "SUPPORTED"] "UNSUPPORTED" []).toOption = some d := by
    rw [← Option.isSome_iff_exists]
    decide +kernel
  replace hd := eq_ok_of_toOption hd
  obtain ⟨support, hsupport, hconsistent⟩ := consistent_of_aggregateDecision hd
  obtain ⟨-, -, x, hx⟩ := h _ _ _ _ _ d hd ⟨_, List.mem_singleton.mpr rfl, hmatch⟩
  have hnone : ¬∃ r, Counts support [] [sampleMatch "TL-URG-001" "URGENCY" "SUPPORTED"] r := by
    rintro ⟨r, ⟨-, hsupported⟩, -⟩
    obtain rfl : Support.UNSUPPORTED = support := Option.some.inj hsupport
    exact absurd hsupported (by decide)
  rw [(hconsistent.quiet hnone).flagged] at hx
  cases hx

end Aggregation
end TrustLens.Runtime
