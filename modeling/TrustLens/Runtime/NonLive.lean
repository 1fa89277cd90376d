import TrustLens.Runtime.ConditionMono
import TrustLens.Runtime.Extension

/-!
# Structural semantics are not overridable

Occurrences without a live backing never make an indicator TRUE, so adding any
number of them leaves the set of TRUE indicators alone, before suppression and
after it. The overrides and the required combination of a rule are evaluated on
those sets, and a value that is computed both times is TRUE both times or not at all.
-/

namespace TrustLens.Runtime.NonLive

open Evaluator
open Condition (evalCondition evalCondition_TRUE_congr)

/-- Between two results of one rule: no new match, override, matched indicator or provenance. -/
structure GainsNothing (r r' : RuleResult) : Prop where
  matched : r'.evaluationState = .MATCHED → r.evaluationState = .MATCHED
  overrides : r'.activeOverrides ⊆ r.activeOverrides
  positives : r'.matchedPositiveIndicators ⊆ r.matchedPositiveIndicators
  provenance : r'.provenanceIds ⊆ r.provenanceIds

lemma gainsNothing_notApplicable (r : RuleResult) (id version : String) (kind : RuleKind)
    (required : Truth) (code : ErrorCode) (message : ErrorMessage) :
    GainsNothing r (.notApplicable id version kind required code message) :=
  ⟨nofun, List.nil_subset _, List.nil_subset _, List.nil_subset _⟩

section Contexts

variable {rk : RuntimeKnowledge} {gate : Level} {ctx ctx' : Context}
  {new : List IndicatorObservation}

lemma exists_fires_iff (h : Extends ctx ctx' new) (hdead : ∀ io ∈ new, ctx'.verdict io ≠ .LIVE)
    {suppressors suppressors' : List IndicatorObservation}
    (hs : ∀ s, s ∈ suppressors' ↔ s ∈ suppressors) (id : String) :
    (∃ io ∈ ctx'.observationsFor id, Fires gate ctx' suppressors' io) ↔
      ∃ io ∈ ctx.observationsFor id, Fires gate ctx suppressors io := by
  have hfires : ∀ io ∈ ctx.indicatorObservations,
      (Fires gate ctx' suppressors' io ↔ Fires gate ctx suppressors io) := by
    intro io hio
    rw [h.fires_iff hio, Fires, Fires, untouched_congr hs]
  constructor
  · rintro ⟨io, hio, hf⟩
    rcases h.mem_observationsFor.mp hio with hold | ⟨hnew, -⟩
    · exact ⟨io, hold, (hfires io (Context.mem_observationsFor.mp hold).1).mp hf⟩
    · exact absurd hf.2.2.1 (hdead io hnew)
  · rintro ⟨io, hio, hf⟩
    exact ⟨io, h.mem_observationsFor.mpr (Or.inl hio),
      (hfires io (Context.mem_observationsFor.mp hio).1).mpr hf⟩

/-- The raw live set is unchanged. -/
lemma rawTruth_iff (h : Extends ctx ctx' new) (hdead : ∀ io ∈ new, ctx'.verdict io ≠ .LIVE)
    (id : String) :
    truthOf (rawPositive rk gate ctx') id = .TRUE ↔ truthOf (rawPositive rk gate ctx) id = .TRUE := by
  rw [truthOf_rawPositive, truthOf_rawPositive, exists_fires_iff h hdead fun _ => Iff.rfl]

/-- So is the set after suppression, which the same suppressors produce. -/
lemma suppressedTruth_iff (h : Extends ctx ctx' new) (hnew : ∀ io ∈ new, IsPositiveRead rk io)
    (hdead : ∀ io ∈ new, ctx'.verdict io ≠ .LIVE) (categories : List String)
    (overrides : List Override) (id : String) :
    truthOf (suppressedPositive rk gate ctx' categories overrides) id = .TRUE ↔
      truthOf (suppressedPositive rk gate ctx categories overrides) id = .TRUE := by
  rw [truthOf_suppressedPositive, truthOf_suppressedPositive,
    exists_fires_iff h hdead (h.mem_suppressorsFor hnew categories overrides id)]

/-- Overrides read the same TRUE indicators, so the active ones are the same. -/
lemma activeAmong_congr {truth truth' : String → Truth}
    (h : ∀ id, truth id = .TRUE ↔ truth' id = .TRUE) {os active active' : List Override}
    (ha : activeAmong truth os = .ok active) (ha' : activeAmong truth' os = .ok active') :
    active = active' := by
  induction os generalizing active active' with
  | nil =>
    cases ha
    cases ha'
    rfl
  | cons o rest ih =>
    obtain ⟨v, hv, ha⟩ := bind_ok ha
    obtain ⟨as, has, ha⟩ := bind_ok ha
    obtain ⟨v', hv', ha'⟩ := bind_ok ha'
    obtain ⟨as', has', ha'⟩ := bind_ok ha'
    cases ha
    cases ha'
    rw [ih has has']
    have hiff := evalCondition_TRUE_congr h hv hv'
    simp only [hiff]

theorem composite_congr (h : Extends ctx ctx' new) (hnew : ∀ io ∈ new, IsPositiveRead rk io)
    (hdead : ∀ io ∈ new, ctx'.verdict io ≠ .LIVE) {rule : Rule} {r r' : RuleResult}
    (hr : evaluateComposite rk gate ctx rule = .ok r)
    (hr' : evaluateComposite rk gate ctx' rule = .ok r') : GainsNothing r r' := by
  obtain ⟨logic, minClasses, overrides, required, operandIds, effective, run, rfl⟩ :=
    evaluateComposite_ok hr
  obtain ⟨logic', minClasses', overrides', required', operandIds', effective', run', rfl⟩ :=
    evaluateComposite_ok hr'
  cases Except.ok.inj (run.logic_eq.symm.trans run'.logic_eq)
  cases Except.ok.inj (run.minClasses_eq.symm.trans run'.minClasses_eq)
  cases Except.ok.inj (run.operands_eq.symm.trans run'.operands_eq)
  cases activeAmong_congr (fun id => (rawTruth_iff h hdead id).symm) run.overrides_eq
    run'.overrides_eq
  have htruth : ∀ id,
      truthOf (suppressedPositive rk gate ctx' rule.categories overrides) id = .TRUE ↔
        truthOf (suppressedPositive rk gate ctx rule.categories overrides) id = .TRUE :=
    suppressedTruth_iff h hnew hdead rule.categories overrides
  have hrequired : required = .TRUE ↔ required' = .TRUE :=
    evalCondition_TRUE_congr (fun id => (htruth id).symm) run.required_eq run'.required_eq
  have hmatched : matchedPositive rk gate ctx' rule overrides operandIds =
      matchedPositive rk gate ctx rule overrides operandIds := by
    apply List.filter_congr
    intro id _
    rw [Bool.eq_iff_iff, beq_iff_eq, beq_iff_eq]
    exact htruth id
  constructor
  · rw [compositeResult_same.evaluationState, compositeResult_same.evaluationState]
    simp only [compositeBase, hmatched, compositeState_eq_MATCHED]
    rintro ⟨htrue, hmet⟩
    exact ⟨hrequired.mpr htrue, hmet⟩
  · rw [compositeResult_same.overrides, compositeResult_same.overrides]
    exact List.Subset.refl _
  · rw [compositeResult_same.matchedPositive, compositeResult_same.matchedPositive]
    show matchedPositive rk gate ctx' rule overrides operandIds ⊆ _
    exact hmatched ▸ List.Subset.refl _
  · rw [provenanceIds_compositeResult, provenanceIds_compositeResult]
    exact hmatched ▸ List.Subset.refl _

theorem suppression_congr (h : Extends ctx ctx' new) (hnew : ∀ io ∈ new, IsPositiveRead rk io)
    {rule : Rule} {r r' : RuleResult} (hr : evaluateSuppression rk gate ctx rule = .ok r)
    (hr' : evaluateSuppression rk gate ctx' rule = .ok r') : GainsNothing r r' := by
  obtain ⟨logic, required, operandIds, run, rfl⟩ := evaluateSuppression_ok hr
  obtain ⟨logic', required', operandIds', run', rfl⟩ := evaluateSuppression_ok hr'
  cases Except.ok.inj (run.logic_eq.symm.trans run'.logic_eq)
  have hrequired : required = .TRUE ↔ required' = .TRUE := evalCondition_TRUE_congr
    (fun id => (h.negativeTruth_iff hnew id).symm) run.required_eq run'.required_eq
  constructor
  · rw [suppressionResult_same.evaluationState, suppressionResult_same.evaluationState]
    simp only [suppressionBase, suppressionState_eq_MATCHED]
    exact hrequired.mpr
  · rw [suppressionResult_same.overrides]
    exact List.nil_subset _
  · rw [suppressionResult_same.matchedPositive]
    exact List.nil_subset _
  · rw [RuleResult.provenanceIds, suppressionResult_same.provenance]
    exact List.nil_subset _

/-- A rule that was evaluated gains nothing from occurrences that are not live. -/
theorem rule_congr (h : Extends ctx ctx' new) (hnew : ∀ io ∈ new, IsPositiveRead rk io)
    (hdead : ∀ io ∈ new, ctx'.verdict io ≠ .LIVE) {rule : Rule} {r r' : RuleResult}
    (hr : runIsolated rk gate ctx rule = .ok r) (hr' : runIsolated rk gate ctx' rule = .ok r')
    (hclean : ∀ m, r.evaluationError ≠ some ⟨.RULE_EVALUATION_ERROR, m⟩) : GainsNothing r r' := by
  have hscope := h.scopeCheck_eq rule
  rcases runIsolated_ok hr' with hrun' | ⟨_, _, rfl⟩
  swap
  · exact gainsNothing_notApplicable ..
  rcases runIsolated_ok hr with hrun | ⟨fault, _, rfl⟩
  swap
  · exact absurd rfl (hclean _)
  -- both runs take the same branch, since scope and kind are the rule's own
  rcases runRule_ok hrun' with ⟨_, rfl⟩ | ⟨hs', hk', hr'⟩ | ⟨hs', hk', hr'⟩
  · exact gainsNothing_notApplicable ..
  · rcases runRule_ok hrun with ⟨hs, -⟩ | ⟨-, -, hr⟩ | ⟨-, hk, -⟩
    · cases hs'.symm.trans (hscope.trans hs)
    · exact suppression_congr h hnew hr hr'
    · cases hk'.symm.trans hk
  · rcases runRule_ok hrun with ⟨hs, -⟩ | ⟨-, hk, -⟩ | ⟨-, -, hr⟩
    · cases hs'.symm.trans (hscope.trans hs)
    · cases hk'.symm.trans hk
    · exact composite_congr h hnew hdead hr hr'

/-- An indicator without a live occurrence is matched in no result. -/
theorem not_mem_matchedPositive {id : String}
    (hdead : ∀ io ∈ ctx.observationsFor id, ctx.verdict io ≠ .LIVE) {rule : Rule} {r : RuleResult}
    (hr : runIsolated rk gate ctx rule = .ok r) : id ∉ r.matchedPositiveIndicators := by
  rcases runIsolated_ok hr with hrun | ⟨_, _, rfl⟩
  swap
  · exact List.not_mem_nil
  rcases runRule_ok hrun with ⟨_, rfl⟩ | ⟨_, _, hr⟩ | ⟨_, _, hr⟩
  · exact List.not_mem_nil
  · obtain ⟨_, _, _, _, rfl⟩ := evaluateSuppression_ok hr
    rw [suppressionResult_same.matchedPositive]
    exact List.not_mem_nil
  · obtain ⟨_, _, overrides, _, operandIds, _, _, rfl⟩ := evaluateComposite_ok hr
    rw [compositeResult_same.matchedPositive]
    intro hmem
    obtain ⟨-, -, io, hio, hf⟩ := mem_matchedPositive.mp hmem
    exact hdead io hio hf.2.2.1

end Contexts

/-- Every observation the occurrence cites is structurally non-live. -/
def BackedNonLive (observations : List Observation) (io : IndicatorObservation) : Prop :=
  ∀ ref ∈ io.observationRefs, ∀ o ∈ observations, o.observationId = ref →
    observationVerdict o = .NON_LIVE

instance (observations : List Observation) (io : IndicatorObservation) :
    Decidable (BackedNonLive observations io) :=
  inferInstanceAs (Decidable (∀ ref ∈ io.observationRefs, ∀ o ∈ observations, _ → _))

lemma not_live_of_backedNonLive {ctx : Context} {io : IndicatorObservation}
    (hio : io ∈ ctx.indicatorObservations) (h : BackedNonLive ctx.observations io) :
    ctx.verdict io ≠ .LIVE := by
  intro hlive
  obtain ⟨ref, href⟩ := List.exists_mem_of_ne_nil _ (refs_ne_nil_of_live hlive)
  obtain ⟨o, ho, -⟩ := ctx.refs_resolve io hio ref href
  have hdead := h ref href o (List.mem_of_find?_eq_some ho) (by simpa using List.find?_some ho)
  have hall : ∀ o ∈ io.observationRefs.filterMap (observationById ctx.observations),
      observationVerdict o = .LIVE := by
    unfold Context.verdict structuralVerdict at hlive
    simp only at hlive
    split_ifs at hlive with _ _ hall
    exact hall
  rw [hall o (List.mem_filterMap.mpr ⟨ref, href, ho⟩)] at hdead
  cases hdead

/-- Adding positive occurrences with a non-live backing to governed data: a rule that was
evaluated gains no match, override, matched indicator or provenance, and an indicator all of
whose occurrences are non-live is matched nowhere. -/
theorem structural_semantics_not_overridable (rk : RuntimeKnowledge) (profile : EvaluationProfile)
    {inds newInds inds' obs newObs obs' : List Json} {language script : String}
    (hinds : inds'.Perm (inds ++ newInds)) (hobs : obs'.Perm (obs ++ newObs))
    (hnew : ∀ io ∈ newInds.filterMap IndicatorObservation.decode, IsPositiveRead rk io ∧
      BackedNonLive (obs'.filterMap Observation.fromDict) io)
    {rs rs' : List RuleResult}
    (h : evaluateRulesFromGoverned rk profile inds obs language script = .ok rs)
    (h' : evaluateRulesFromGoverned rk profile inds' obs' language script = .ok rs') :
    (∀ r ∈ rs, (∀ m, r.evaluationError ≠ some ⟨.RULE_EVALUATION_ERROR, m⟩) →
      ∀ r' ∈ rs', r'.ruleId = r.ruleId → GainsNothing r r') ∧
    ∀ id, (∀ io ∈ inds.filterMap IndicatorObservation.decode, io.indicatorId = id →
        structuralVerdict (obs.filterMap Observation.fromDict) io = .NON_LIVE) →
      ∀ r ∈ rs, id ∉ r.matchedPositiveIndicators := by
  obtain ⟨ctx, hctx, hrs⟩ := evaluateRulesFromGoverned_ok h
  obtain ⟨ctx', hctx', hrs'⟩ := evaluateRulesFromGoverned_ok h'
  have hext := Extends.of_documents hinds hobs hctx hctx'
  obtain ⟨hi, ho, -⟩ := buildValidatedContext_ok hctx
  obtain ⟨-, ho', -⟩ := buildValidatedContext_ok hctx'
  constructor
  · intro r hr hclean r' hr' hid
    obtain ⟨rule, hmem, -, hrun⟩ := (mem_evaluateRules hrs r).mp hr
    obtain ⟨rule', hmem', -, hrun'⟩ := (mem_evaluateRules hrs' r').mp hr'
    have hrule : rule' = rule := by
      rw [ruleId_of_runIsolated hrun, ruleId_of_runIsolated hrun'] at hid
      have heq := RuntimeKnowledge.rule_of_mem hmem'
      rw [hid, RuntimeKnowledge.rule_of_mem hmem] at heq
      exact (Option.some.inj heq).symm
    subst hrule
    refine rule_congr hext (fun io hio => (hnew io hio).1) ?_ hrun hrun' hclean
    intro io hio
    exact not_live_of_backedNonLive ((hext.occurrences io).mpr (Or.inr hio))
      (ho' ▸ (hnew io hio).2)
  · intro id hdead r hr
    obtain ⟨rule, -, -, hrun⟩ := (mem_evaluateRules hrs r).mp hr
    refine not_mem_matchedPositive ?_ hrun
    intro io hio hlive
    rw [Context.mem_observationsFor, hi] at hio
    have hnon := hdead io hio.1 hio.2
    rw [← ho] at hnon
    cases hnon.symm.trans hlive

def sampleInds : List Json :=
  [sampleIndicator "OTP_REQUEST" "o-1", sampleIndicator "URGENCY" "o-1"]

def sampleObs : List Json := [sampleObservation "o-1" "DIRECTIVE"]

/-- A remote-access cue that is only mentioned. -/
def mentionedInds : List Json := [sampleIndicator "REMOTE_ACCESS" "o-2"]

def mentionedObs : List Json := [sampleObservation "o-2" "DESCRIPTIVE"]

def sampleResults (rk : RuntimeKnowledge) (inds obs : List Json) : List RuleResult :=
  resultsOf (evaluateRulesFromGoverned rk {} inds obs "en" "Latn")

theorem structural_semantics_not_overridable_sample :
    sampleResults sampleKnowledge sampleInds sampleObs ≠ [] ∧
    ∀ r ∈ sampleResults sampleKnowledge sampleInds sampleObs,
      ∀ r' ∈ sampleResults sampleKnowledge (sampleInds ++ mentionedInds) (sampleObs ++ mentionedObs),
        r'.ruleId = r.ruleId → GainsNothing r r' := by
  refine ⟨by decide +kernel, ?_⟩
  intro r hr
  have hclean : ∀ r ∈ sampleResults sampleKnowledge sampleInds sampleObs,
      r.evaluationError = none := by decide +kernel
  refine (structural_semantics_not_overridable sampleKnowledge {} (List.Perm.refl _)
    (List.Perm.refl _) (by decide +kernel) (eq_ok_of_resultsOf (by decide +kernel))
    (eq_ok_of_resultsOf (by decide +kernel))).1 r hr ?_
  intro m
  rw [hclean r hr]
  exact nofun

/-- The loader does not read override conditions, so one may hold a number. -/
def malformedOverride : Override where
  id := "HR_REMOTE"
  condition := .obj [("all_of", .arr [.str "REMOTE_ACCESS", .int 5])]
  appliesToRules := ["TL-OTP-001"]
  appliesToFamilies := []
  blocksSuppressionCategories := some ["BENIGN"]

def malformedKnowledge : RuntimeKnowledge :=
  { sampleKnowledge with overrides := [malformedOverride], overrides_nodup := by decide }

/-- A non-live occurrence that hides the malformed operand turns the faulted rule into a match. -/
theorem nonlive_unmasks_faulted_rule :
    ¬∀ (rk : RuntimeKnowledge) (profile : EvaluationProfile)
        (inds newInds obs newObs : List Json) (language script : String)
        (rs rs' : List RuleResult),
      (∀ io ∈ newInds.filterMap IndicatorObservation.decode, IsPositiveRead rk io ∧
        io.matched = .OBSERVED ∧
        structuralVerdict ((obs ++ newObs).filterMap Observation.fromDict) io = .NON_LIVE) →
      evaluateRulesFromGoverned rk profile inds obs language script = .ok rs →
      evaluateRulesFromGoverned rk profile (inds ++ newInds) (obs ++ newObs) language script =
        .ok rs' →
      ∀ r ∈ rs, ∀ r' ∈ rs', r'.ruleId = r.ruleId →
        (r'.evaluationState = .MATCHED → r.evaluationState = .MATCHED) := by
  intro h
  have hmatched := h malformedKnowledge {} sampleInds mentionedInds sampleObs mentionedObs "en"
    "Latn" _ _ (by decide +kernel)
    (eq_ok_of_resultsOf (by decide +kernel)) (eq_ok_of_resultsOf (by decide +kernel))
  revert hmatched
  decide +kernel

end TrustLens.Runtime.NonLive
