import TrustLens.Runtime.BlockedSuppressors
import TrustLens.Runtime.ConditionMono
import TrustLens.Runtime.DecisionSpec
import TrustLens.Runtime.Extension

/-!
# More positive evidence never weakens a match

Adding occurrences of positive indicators keeps every TRUE indicator TRUE. It can
switch overrides on, which only takes suppressors and caps away. So a rule that
matched, and survived suppression, matches again with a severity that is no lower,
as long as the knowledge it meets on the way is well formed: a malformed condition or
override that the smaller input did not reach degrades the rule instead.
-/

namespace TrustLens.Runtime.LiveMonotone

open Evaluator
open Condition (evalCondition evalCondition_keepsTrue evalCondition_of_parse parse)

/-- What a rule and the overrides that apply to it must satisfy not to be degraded when more
of them is reached. -/
structure WellGoverned (rk : RuntimeKnowledge) (rule : Rule) : Prop where
  require : ∀ logic, logicOf rule = .ok logic → (parse (logic.get "require")).isSome = true
  condition : ∀ o ∈ rk.overrides, overrideApplies o rule = true → (parse o.condition).isSome = true
  blocks : ∀ o ∈ rk.overrides, overrideApplies o rule = true →
    ∃ categories, o.blocksSuppressionCategories = some categories ∧ "" ∉ categories

/-- A rule-level effect is blockable when some override blocks its category. -/
def SoftBlockable (rk : RuntimeKnowledge) : Prop :=
  ∀ neg ∈ rk.negatives, SuppressionExecutor.IsSoft neg → ∀ o ∈ rk.overrides,
    isIn neg.category (o.blocksSuppressionCategories.getD []) = true →
      neg.blockableByOverrides = .bool true

section Overrides

variable {rk : RuntimeKnowledge} {rule : Rule}

lemma evalCondition_total {c : Json} (h : (parse c).isSome = true) (truth : String → Truth) :
    ∃ v, evalCondition truth c = .ok v := by
  obtain ⟨f, hf⟩ := Option.isSome_iff_exists.mp h
  exact ⟨_, evalCondition_of_parse truth c f hf⟩

lemma activeAmong_total {os : List Override} (h : ∀ o ∈ os, (parse o.condition).isSome = true)
    (truth : String → Truth) : ∃ active, activeAmong truth os = .ok active := by
  induction os with
  | nil => exact ⟨[], rfl⟩
  | cons o rest ih =>
    rw [List.forall_mem_cons] at h
    obtain ⟨v, hv⟩ := evalCondition_total h.1 truth
    obtain ⟨active, ha⟩ := ih h.2
    exact ⟨_, by rw [activeAmong, hv, ha]; rfl⟩

lemma activeOverrides_total (hgov : WellGoverned rk rule) (truth : String → Truth) :
    ∃ active, activeOverrides rk rule truth = .ok active := by
  apply activeAmong_total
  intro o ho
  obtain ⟨hmem, happlies⟩ := List.mem_filter.mp ho
  obtain ⟨id, -, hid⟩ := List.mem_filterMap.mp hmem
  exact hgov.condition o (RuntimeKnowledge.mem_of_override hid) happlies

/-- More TRUE indicators keep every active override active. -/
lemma activeAmong_subset {truth truth' : String → Truth}
    (h : ∀ id, truth id = .TRUE → truth' id = .TRUE) {os active active' : List Override}
    (ha : activeAmong truth os = .ok active) (ha' : activeAmong truth' os = .ok active') :
    active ⊆ active' := by
  induction os generalizing active active' with
  | nil =>
    cases ha
    exact List.nil_subset _
  | cons o rest ih =>
    obtain ⟨v, hv, ha⟩ := bind_ok ha
    obtain ⟨as, has, ha⟩ := bind_ok ha
    obtain ⟨v', hv', ha'⟩ := bind_ok ha'
    obtain ⟨as', has', ha'⟩ := bind_ok ha'
    cases ha
    cases ha'
    have hrest := ih has has'
    by_cases htrue : v = .TRUE
    · have htrue' : v' = .TRUE := (evalCondition_keepsTrue h o.condition).1 (htrue ▸ hv) v' hv'
      rw [if_pos htrue, if_pos htrue']
      exact List.cons_subset_cons o hrest
    · rw [if_neg htrue]
      split_ifs
      · exact List.subset_cons_of_subset o hrest
      · exact hrest

/-- An active override is the registered one of its id, and applies to the rule. -/
lemma activeOverrides_registered {truth : String → Truth} {active : List Override}
    (h : activeOverrides rk rule truth = .ok active) :
    ∀ o ∈ active, rk.override o.id = some o ∧ overrideApplies o rule = true := by
  intro o ho
  obtain ⟨hmem, happlies, -⟩ := (SuppressionExecutor.mem_activeOverrides h o).mp ho
  exact ⟨RuntimeKnowledge.override_of_mem hmem, happlies⟩

end Overrides

section Contexts

variable {rk : RuntimeKnowledge} {gate : Level} {ctx ctx' : Context}
  {new : List IndicatorObservation} {rule : Rule}

lemma untouched_mono {suppressors suppressors' : List IndicatorObservation}
    (h : suppressors' ⊆ suppressors) {io : IndicatorObservation} (hio : Untouched suppressors io) :
    Untouched suppressors' io :=
  fun s hs => hio s (h hs)

/-- An occurrence that fired still fires, among more occurrences and fewer suppressors. -/
lemma exists_fires_mono (h : Extends ctx ctx' new) {suppressors suppressors' : List IndicatorObservation}
    (hsub : suppressors' ⊆ suppressors) {id : String}
    (hf : ∃ io ∈ ctx.observationsFor id, Fires gate ctx suppressors io) :
    ∃ io ∈ ctx'.observationsFor id, Fires gate ctx' suppressors' io := by
  obtain ⟨io, hio, hf⟩ := hf
  refine ⟨io, h.mem_observationsFor.mpr (Or.inl hio), ?_⟩
  rw [h.fires_iff (Context.mem_observationsFor.mp hio).1]
  exact ⟨hf.1, hf.2.1, hf.2.2.1, untouched_mono hsub hf.2.2.2⟩

lemma rawTruth_mono (h : Extends ctx ctx' new) {id : String}
    (htrue : truthOf (rawPositive rk gate ctx) id = .TRUE) :
    truthOf (rawPositive rk gate ctx') id = .TRUE := by
  rw [truthOf_rawPositive] at htrue ⊢
  exact ⟨htrue.1, exists_fires_mono h (List.Subset.refl _) htrue.2⟩

lemma suppressorBlocked_mono {overrides overrides' : List Override} (hsub : overrides ⊆ overrides')
    {neg : NegativeIndicator} (hb : suppressorBlocked neg overrides = true) :
    suppressorBlocked neg overrides' = true := by
  simp only [suppressorBlocked, Bool.and_eq_true, Bool.not_eq_true'] at hb ⊢
  obtain ⟨⟨hne, hflag⟩, hin⟩ := hb
  refine ⟨⟨?_, hflag⟩, SuppressionExecutor.isIn_mono ?_ hin⟩
  · rw [List.isEmpty_eq_false_iff] at hne ⊢
    intro hnil
    exact hne (List.subset_nil.mp (hnil ▸ hsub))
  · intro c hc
    obtain ⟨o, ho, hmem⟩ := List.mem_flatMap.mp hc
    exact List.mem_flatMap.mpr ⟨o, hsub ho, hmem⟩

/-- More overrides leave a target fewer suppressors. -/
lemma suppressorsFor_subset (h : Extends ctx ctx' new) (hnew : ∀ io ∈ new, IsPositiveRead rk io)
    {overrides overrides' : List Override} (hsub : overrides ⊆ overrides') (categories : List String)
    (target : String) :
    suppressorsFor rk gate ctx' categories overrides' target ⊆
      suppressorsFor rk gate ctx categories overrides target := by
  intro io hio
  rw [h.mem_suppressorsFor hnew] at hio
  simp only [suppressorsFor, List.mem_flatMap] at hio ⊢
  obtain ⟨id, hid, hmem⟩ := hio
  refine ⟨id, hid, ?_⟩
  unfold suppressorsOf at hmem ⊢
  split at hmem
  · exact absurd hmem List.not_mem_nil
  · rename_i neg hneg
    split_ifs at hmem with heffect hblocked
    · exact absurd hmem List.not_mem_nil
    · exact absurd hmem List.not_mem_nil
    · have hfree : ¬suppressorBlocked neg overrides = true :=
        fun hb => hblocked (suppressorBlocked_mono hsub hb)
      rw [if_neg heffect, if_neg hfree]
      exact hmem

lemma suppressedTruth_mono (h : Extends ctx ctx' new) (hnew : ∀ io ∈ new, IsPositiveRead rk io)
    {overrides overrides' : List Override} (hsub : overrides ⊆ overrides') (categories : List String)
    {id : String} (htrue : truthOf (suppressedPositive rk gate ctx categories overrides) id = .TRUE) :
    truthOf (suppressedPositive rk gate ctx' categories overrides') id = .TRUE := by
  rw [truthOf_suppressedPositive] at htrue ⊢
  exact ⟨htrue.1, exists_fires_mono h (suppressorsFor_subset h hnew hsub categories id) htrue.2⟩

/-- A well-governed composite that was evaluated is evaluated again, with at least as many
overrides and with its combination at least as TRUE. -/
theorem compositeRun_mono (h : Extends ctx ctx' new) (hnew : ∀ io ∈ new, IsPositiveRead rk io)
    (hgov : WellGoverned rk rule) {logic : Json} {minClasses : ℤ} {overrides : List Override}
    {required : Truth} {operandIds : List String} {effective : Option Json}
    (run : CompositeRun rk gate ctx rule logic minClasses overrides required operandIds effective) :
    ∃ overrides' required',
      CompositeRun rk gate ctx' rule logic minClasses overrides' required' operandIds effective ∧
        overrides ⊆ overrides' ∧ (required = .TRUE → required' = .TRUE) := by
  obtain ⟨overrides', hoverrides'⟩ :=
    activeOverrides_total hgov (truthOf (rawPositive rk gate ctx'))
  obtain ⟨required', hrequired'⟩ := evalCondition_total (hgov.require logic run.logic_eq)
    (truthOf (suppressedPositive rk gate ctx' rule.categories overrides'))
  have hsub : overrides ⊆ overrides' :=
    activeAmong_subset (fun _ => rawTruth_mono h) run.overrides_eq hoverrides'
  refine ⟨overrides', required', ⟨run.logic_eq, run.minClasses_eq, hoverrides', hrequired',
    run.operands_eq, run.effective_eq⟩, hsub, ?_⟩
  rintro rfl
  exact (evalCondition_keepsTrue (fun _ => suppressedTruth_mono h hnew hsub rule.categories) _).1
    run.required_eq required' hrequired'

lemma matchedPositive_subset (h : Extends ctx ctx' new) (hnew : ∀ io ∈ new, IsPositiveRead rk io)
    {overrides overrides' : List Override} (hsub : overrides ⊆ overrides')
    (operandIds : List String) :
    matchedPositive rk gate ctx rule overrides operandIds ⊆
      matchedPositive rk gate ctx' rule overrides' operandIds := by
  intro id hid
  obtain ⟨hop, hpos, hf⟩ := mem_matchedPositive.mp hid
  exact mem_matchedPositive.mpr ⟨hop, hpos,
    exists_fires_mono h (suppressorsFor_subset h hnew hsub rule.categories id) hf⟩

/-- The matched indicators span no fewer evidence classes. -/
lemma evidenceClasses_length_mono {ids ids' : List String} (hsub : ids ⊆ ids') :
    (evidenceClasses rk ids).length ≤ (evidenceClasses rk ids').length :=
  length_sortedUnique_le (List.filterMap_subset _ hsub)

/-- A match of the evaluator stays a match. -/
theorem compositeResult_mono (h : Extends ctx ctx' new) (hnew : ∀ io ∈ new, IsPositiveRead rk io)
    {minClasses : ℤ} {overrides overrides' : List Override} {required required' : Truth}
    {operandIds : List String} {effective : Option Json} (hsub : overrides ⊆ overrides')
    (hrequired : required = .TRUE → required' = .TRUE)
    (hm : (compositeResult rk gate ctx rule minClasses overrides required operandIds
      effective).evaluationState = .MATCHED) :
    (compositeResult rk gate ctx' rule minClasses overrides' required' operandIds
      effective).evaluationState = .MATCHED := by
  rw [compositeResult_same.evaluationState] at hm ⊢
  simp only [compositeBase, compositeState_eq_MATCHED, decide_eq_true_eq] at hm ⊢
  have hlen : (evidenceClasses rk (matchedPositive rk gate ctx rule overrides operandIds)).length ≤
      (evidenceClasses rk (matchedPositive rk gate ctx' rule overrides' operandIds)).length :=
    evidenceClasses_length_mono (matchedPositive_subset h hnew hsub operandIds)
  exact ⟨hrequired hm.1, by omega⟩

end Contexts

section Suppression

open SuppressionExecutor (Exposes Resolves isIn_flatMap crossCheckBlocked)

variable {rk : RuntimeKnowledge}

/-- With blockable rule-level effects the two stages block the same negatives. -/
theorem crossCheck_ok (hsoft : SoftBlockable rk) {overrides : List Override} {r : RuleResult}
    (hexp : Exposes rk r overrides) {ruleId : String} {blocked : List String}
    {res : SuppressionExecutor.Resolution}
    (hblocked : SuppressionExecutor.blockedCategories rk r.canonical.activeOverrides = .ok blocked)
    (hres : Resolves rk ruleId blocked r.canonical.matchedNegativeIndicators res) :
    crossCheckBlocked r.canonical res = .ok () := by
  rw [SuppressionExecutor.crossCheck_iff hexp hblocked hres, hexp.agree_iff hblocked hres]
  intro id _ neg hneg hs hin
  obtain ⟨o, ho, hc⟩ := isIn_flatMap.mp hin
  exact hsoft neg (RuntimeKnowledge.mem_of_negative hneg) hs o
    (RuntimeKnowledge.mem_of_override (hexp.registered o ho)) hc

end Suppression

section Rules

variable {rk : RuntimeKnowledge} {gate : Level} {ctx ctx' : Context}
  {new : List IndicatorObservation} {rule : Rule}

/-- The rule was matched and is matched again, at a severity that is no lower. -/
def StaysMatched (final final' : RuleResult) : Prop :=
  final'.evaluationState = .MATCHED ∧
    ∃ s s', final.severity? = some s ∧ final'.severity? = some s' ∧ s ≤ s'

/-- What the second stage reads of the two evaluations of a rule. -/
lemma relaxed_of_runs (h : Extends ctx ctx' new) (hnew : ∀ io ∈ new, IsPositiveRead rk io)
    {minClasses : ℤ} {overrides overrides' : List Override} {required required' : Truth}
    {operandIds : List String} {effective : Option Json} {r r' : RuleResult}
    (hr : r = compositeResult rk gate ctx rule minClasses overrides required operandIds effective)
    (hr' : r' = compositeResult rk gate ctx' rule minClasses overrides' required' operandIds
      effective)
    (hsub : overrides ⊆ overrides') (hm : r'.evaluationState = .MATCHED) :
    SuppressionExecutor.Relaxed r r' := by
  have hs : r.SameFindings (compositeBase rk gate ctx rule minClasses overrides required operandIds
      effective) := hr ▸ compositeResult_same
  have hs' : r'.SameFindings (compositeBase rk gate ctx' rule minClasses overrides' required'
      operandIds effective) := hr' ▸ compositeResult_same
  have hstate := hs'.evaluationState.symm.trans hm
  simp only [compositeBase, compositeState_eq_MATCHED] at hstate
  refine ⟨?_, ⟨hs.kind, hs'.kind⟩, hm, hs'.required.trans hstate.1, ?_, ?_, ?_, ?_⟩
  · rw [hs.ruleId, hs'.ruleId]
    rfl
  · rw [hs.effective, hs'.effective]
    rfl
  · rw [hs.matchedNegative, hs'.matchedNegative]
    exact h.matchedNegative_eq hnew rule.categories
  · rw [hs.overrides, hs'.overrides]
    exact List.map_subset _ hsub
  · exact SuppressionExecutor.not_preApplied hs'.suppression

/-- The step of one composite through both stages. -/
theorem composite_staysMatched (h : Extends ctx ctx' new) (hnew : ∀ io ∈ new, IsPositiveRead rk io)
    (hsoft : SoftBlockable rk) (hgov : WellGoverned rk rule) {r : RuleResult}
    (hr : evaluateComposite rk gate ctx rule = .ok r)
    (hm : (SuppressionExecutor.apply rk r).evaluationState = .MATCHED) :
    ∃ r', evaluateComposite rk gate ctx' rule = .ok r' ∧
      StaysMatched (SuppressionExecutor.apply rk r) (SuppressionExecutor.apply rk r') := by
  obtain ⟨logic, minClasses, overrides, required, operandIds, effective, run, hr⟩ :=
    evaluateComposite_ok hr
  obtain ⟨overrides', required', run', hsub, hrequired⟩ := compositeRun_mono h hnew hgov run
  refine ⟨_, run'.evaluate, ?_⟩
  generalize hr' : compositeResult rk gate ctx' rule minClasses overrides' required' operandIds
    effective = r'
  have hmatched : r'.evaluationState = .MATCHED := by
    rw [← hr']
    exact compositeResult_mono h hnew hsub hrequired
      (hr ▸ SuppressionExecutor.matched_of_apply hm)
  have hs' : r'.SameFindings (compositeBase rk gate ctx' rule minClasses overrides' required'
      operandIds effective) := hr' ▸ compositeResult_same
  have hreg := activeOverrides_registered run'.overrides_eq
  refine SuppressionExecutor.apply_relaxed (relaxed_of_runs h hnew hr hr'.symm hsub hmatched) ?_ ?_
    hm
  · intro id hid
    rw [hs'.overrides] at hid
    obtain ⟨o, ho, rfl⟩ := List.mem_map.mp hid
    obtain ⟨hfound, happlies⟩ := hreg o ho
    obtain ⟨categories, hcs, hne⟩ :=
      hgov.blocks o (RuntimeKnowledge.mem_of_override hfound) happlies
    exact ⟨categories, by simp [SuppressionExecutor.blockedBy, hfound, hcs, hne]⟩
  · intro blocked res hblocked hres
    have hexp : SuppressionExecutor.Exposes rk r' overrides' :=
      hr' ▸ SuppressionExecutor.exposes_compositeResult run'.overrides_eq
    exact crossCheck_ok hsoft hexp hblocked (SuppressionExecutor.resolve_ok hres)

/-- A published composite that came out MATCHED comes out MATCHED of the larger input. -/
theorem rule_staysMatched (h : Extends ctx ctx' new) (hnew : ∀ io ∈ new, IsPositiveRead rk io)
    (hsoft : SoftBlockable rk) (hgov : WellGoverned rk rule) (hk : kindOf rule = .COMPOSITE)
    {r r' : RuleResult} (hr : runIsolated rk gate ctx rule = .ok r)
    (hr' : runIsolated rk gate ctx' rule = .ok r')
    (hm : (SuppressionExecutor.apply rk r).evaluationState = .MATCHED) :
    StaysMatched (SuppressionExecutor.apply rk r) (SuppressionExecutor.apply rk r') := by
  have hmatched := SuppressionExecutor.matched_of_apply hm
  rcases runIsolated_ok hr with hrun | ⟨_, _, rfl⟩
  swap
  · cases hmatched
  rcases runRule_ok hrun with ⟨_, rfl⟩ | ⟨_, hs, _⟩ | ⟨hscope, _, heval⟩
  · cases hmatched
  · cases hk.symm.trans hs
  · obtain ⟨s, heval', hstays⟩ := composite_staysMatched h hnew hsoft hgov heval hm
    have hrun' : runRule rk gate ctx' rule = .ok s := by
      rw [runRule_inScope ((h.scopeCheck_eq rule).trans hscope), hk]
      exact heval'
    unfold runIsolated at hr'
    rw [hrun'] at hr'
    cases hr'
    exact hstays

/-! ### The larger evaluation returns -/

/-- A well-governed composite raises the same faults on every context. -/
lemma evaluateComposite_fault (hgov : WellGoverned rk rule) {fault : Fault}
    (hf : evaluateComposite rk gate ctx rule = .error fault) (ctx' : Context) :
    evaluateComposite rk gate ctx' rule = .error fault := by
  obtain ⟨overrides, hover⟩ := activeOverrides_total hgov (truthOf (rawPositive rk gate ctx))
  obtain ⟨overrides', hover'⟩ := activeOverrides_total hgov (truthOf (rawPositive rk gate ctx'))
  simp only [evaluateComposite, hover, hover', bind, Except.bind] at hf ⊢
  cases hlogic : logicOf rule with
  | error e =>
    simp only [hlogic] at hf ⊢
    exact hf
  | ok logic =>
    obtain ⟨v, hv⟩ := evalCondition_total (hgov.require logic hlogic)
      (truthOf (suppressedPositive rk gate ctx rule.categories overrides))
    obtain ⟨v', hv'⟩ := evalCondition_total (hgov.require logic hlogic)
      (truthOf (suppressedPositive rk gate ctx' rule.categories overrides'))
    simp only [hlogic, hv, hv'] at hf ⊢
    -- the steps that are left read the rule only
    cases hn : pyInt ((logic.get? "min_evidence_classes").getD (.int 2)) with
    | error e =>
      simp only [hn] at hf ⊢
      exact hf
    | ok n =>
      cases hops : Condition.operands (logic.get "require") with
      | error e =>
        simp only [hn, hops] at hf ⊢
        exact hf
      | ok ids =>
        cases heff : effectiveSeverity rule with
        | error e =>
          simp only [hn, hops, heff] at hf ⊢
          exact hf
        | ok effective =>
          simp only [hn, hops, heff] at hf
          cases hf

lemma evaluateSuppression_fault (hgov : WellGoverned rk rule) {fault : Fault}
    (hf : evaluateSuppression rk gate ctx rule = .error fault) (ctx' : Context) :
    evaluateSuppression rk gate ctx' rule = .error fault := by
  simp only [evaluateSuppression, bind, Except.bind] at hf ⊢
  cases hlogic : logicOf rule with
  | error e =>
    simp only [hlogic] at hf ⊢
    exact hf
  | ok logic =>
    obtain ⟨v, hv⟩ := evalCondition_total (hgov.require logic hlogic) (negativeTruth rk gate ctx)
    obtain ⟨v', hv'⟩ := evalCondition_total (hgov.require logic hlogic) (negativeTruth rk gate ctx')
    simp only [hlogic, hv, hv'] at hf ⊢
    cases hops : Condition.operands (logic.get "require") with
    | error e =>
      simp only [hops] at hf ⊢
      exact hf
    | ok ids =>
      simp only [hops] at hf
      cases hf

/-- The fault of a well-governed rule does not depend on the evidence. -/
theorem runRule_fault (h : Extends ctx ctx' new) (hgov : WellGoverned rk rule) {fault : Fault}
    (hf : runRule rk gate ctx' rule = .error fault) : runRule rk gate ctx rule = .error fault := by
  by_cases hscope : scopeCheck ctx rule = .ok true
  · rw [runRule_inScope hscope]
    rw [runRule_inScope ((h.scopeCheck_eq rule).trans hscope)] at hf
    cases hk : kindOf rule with
    | SUPPRESSION =>
      rw [hk] at hf
      exact evaluateSuppression_fault hgov hf ctx
    | COMPOSITE =>
      rw [hk] at hf
      exact evaluateComposite_fault hgov hf ctx
  · rwa [runRule_outOfScope h.language_eq h.script_eq hscope] at hf

/-- A well-governed rule that was isolated once is isolated again. -/
theorem runIsolated_returns (h : Extends ctx ctx' new) (hgov : WellGoverned rk rule)
    {r : RuleResult} (hr : runIsolated rk gate ctx rule = .ok r) :
    ∃ r', runIsolated rk gate ctx' rule = .ok r' := by
  unfold runIsolated at hr ⊢
  cases hrun' : runRule rk gate ctx' rule with
  | ok r' => exact ⟨r', rfl⟩
  | error fault =>
    rw [runRule_fault h hgov hrun'] at hr
    simp only at hr ⊢
    split_ifs at hr ⊢
    exact ⟨_, rfl⟩

end Rules

section Decisions

variable {rk : RuntimeKnowledge} {gate : Level} {ctx ctx' : Context}
  {new : List IndicatorObservation}

/-- Every published rule is well governed. -/
def AllGoverned (rk : RuntimeKnowledge) : Prop :=
  ∀ rule ∈ rk.rules, RuntimeKnowledge.isPublished rule = true → WellGoverned rk rule

/-- Composite matches of the first list are matches of the second, no less severe. -/
def MatchesStay (finals finals' : List RuleResult) : Prop :=
  ∀ final ∈ finals, final.kind = .COMPOSITE → final.evaluationState = .MATCHED →
    ∃ final' ∈ finals', final'.ruleId = final.ruleId ∧ final'.kind = .COMPOSITE ∧
      StaysMatched final final'

theorem evaluateRules_returns (h : Extends ctx ctx' new) (hgov : AllGoverned rk)
    {rs : List RuleResult} (hrs : evaluateRules rk gate ctx = .ok rs) :
    ∃ rs', evaluateRules rk gate ctx' = .ok rs' := by
  apply mapM_total
  intro id hid
  simp only [RuntimeKnowledge.publishedRuleIds, mem_sortedUnique, List.mem_map,
    List.mem_filter] at hid
  obtain ⟨rule, ⟨hmem, hpub⟩, rfl⟩ := hid
  obtain ⟨r, -, hr⟩ := exists_evaluateRules hrs hmem hpub
  rw [evaluateValidated_of_mem hmem hpub]
  exact runIsolated_returns h (hgov rule hmem hpub) hr

theorem matchesStay_applyAll (h : Extends ctx ctx' new) (hnew : ∀ io ∈ new, IsPositiveRead rk io)
    (hsoft : SoftBlockable rk) (hgov : AllGoverned rk) {rs rs' : List RuleResult}
    (hrs : evaluateRules rk gate ctx = .ok rs) (hrs' : evaluateRules rk gate ctx' = .ok rs') :
    MatchesStay (SuppressionExecutor.applyAll rk rs) (SuppressionExecutor.applyAll rk rs') := by
  intro final hfinal hk hm
  obtain ⟨r, hr, rfl⟩ := List.mem_map.mp hfinal
  obtain ⟨rule, hmem, hpub, hrun⟩ := (mem_evaluateRules hrs r).mp hr
  obtain ⟨r', hr', hrun'⟩ := exists_evaluateRules hrs' hmem hpub
  obtain ⟨hid, hkind, -⟩ := SuppressionExecutor.apply_same rk r
  obtain ⟨hid', hkind', -⟩ := SuppressionExecutor.apply_same rk r'
  have hkindOf : kindOf rule = .COMPOSITE :=
    (kind_of_runIsolated hrun).symm.trans (hkind.symm.trans hk)
  refine ⟨_, List.mem_map_of_mem hr', ?_, ?_, ?_⟩
  · rw [hid', hid, ruleId_of_runIsolated hrun, ruleId_of_runIsolated hrun']
  · rw [hkind', kind_of_runIsolated hrun', hkindOf]
  · exact rule_staysMatched h hnew hsoft (hgov rule hmem hpub) hkindOf hrun hrun' hm

open Aggregation (Checked Candidate candidates exists_candidate Decided DecisionResult IsScam
  aggregateDecision aggregateDecision_ok isScam_classify materialise_ok foldl_max_le)

/-- The candidates of the larger evaluation reach every severity of the smaller one. -/
lemma exists_higher_candidate {finals finals' results results' : List RuleResult}
    {cs cs' : List Candidate} (hstay : MatchesStay finals finals')
    (hchecked : List.Forall₂ (Checked rk) finals results)
    (hchecked' : List.Forall₂ (Checked rk) finals' results')
    (hcs : candidates rk results = .ok cs) (hcs' : candidates rk results' = .ok cs')
    {c : Candidate} (hc : c ∈ cs) : ∃ c' ∈ cs', c.severity ≤ c'.severity := by
  obtain ⟨final, hfinal, hk, hm, hsev⟩ :=
    (exists_candidate hchecked hcs c.severity).mp ⟨c, hc, rfl⟩
  obtain ⟨final', hfinal', -, hk', hm', s, s', hs, hs', hle⟩ := hstay final hfinal hk hm
  obtain ⟨c', hc', rfl⟩ :=
    (exists_candidate hchecked' hcs' s').mpr ⟨final', hfinal', hk', hm', hs'⟩
  rw [Option.some.inj (hsev.symm.trans hs)]
  exact ⟨c', hc', hle⟩

theorem decision_mono {profile : EvaluationProfile} {finals finals' : List RuleResult}
    (hstay : MatchesStay finals finals') {status : String} {wholeErrors : List Json}
    {d d' : DecisionResult} (h : aggregateDecision rk profile finals status wholeErrors = .ok d)
    (h' : aggregateDecision rk profile finals' status wholeErrors = .ok d') :
    d.decisionSeverity ≤ d'.decisionSeverity ∧
      (IsScam d.classification → IsScam d'.classification) := by
  obtain ⟨support, results, hsupport, hresults, hd⟩ := aggregateDecision_ok h
  obtain ⟨support', results', hsupport', hresults', hd'⟩ := aggregateDecision_ok h'
  cases Option.some.inj (hsupport.symm.trans hsupport')
  cases hd with
  | blocked _ hclass hsev | quiet _ _ hclass hsev =>
    rw [hsev, hclass, isScam_classify]
    exact ⟨bot_le, fun hscam => absurd hscam.2.2 (by decide)⟩
  | fired ok eligible governing confidence heligible hgoverning hclass hsev =>
    cases hd' with
    | blocked no => exact absurd ok no
    | quiet _ hnone =>
      obtain ⟨c', hc', -⟩ := exists_higher_candidate hstay (materialise_ok hresults)
        (materialise_ok hresults') heligible hnone hgoverning
      exact absurd hc' List.not_mem_nil
    | fired _ eligible' governing' _ heligible' _ hclass' hsev' =>
      have hbound : ∀ c ∈ eligible,
          c.severity ≤ (eligible'.map Candidate.severity).foldl max governing'.severity := by
        intro c hc
        obtain ⟨c', hc', hle⟩ := exists_higher_candidate hstay (materialise_ok hresults)
          (materialise_ok hresults') heligible heligible' hc
        exact hle.trans ((foldl_max_le.mp le_rfl).2 _ (List.mem_map_of_mem hc'))
      constructor
      · rw [hsev, hsev', WithBot.coe_le_coe, foldl_max_le, List.forall_mem_map]
        exact ⟨hbound governing hgoverning, hbound⟩
      · intro _
        rw [hclass', isScam_classify]
        exact ⟨rfl, ok.2, rfl⟩

end Decisions

open Aggregation (evaluateDecision evaluateDecision_ok IsScam DecisionResult)
open SuppressionExecutor (evaluateWithSuppression)

/-- A remote-access cue switches the override on, which may list what it blocks. -/
def remoteOverride (blocks : Option (List String)) : Override where
  id := "HR_REMOTE"
  condition := .str "REMOTE_ACCESS"
  appliesToRules := ["TL-OTP-001"]
  appliesToFamilies := []
  blocksSuppressionCategories := blocks

def remoteKnowledge (blocks : Option (List String)) : RuntimeKnowledge :=
  { sampleKnowledge with overrides := [remoteOverride blocks], overrides_nodup := by simp }

def pressureInds : List Json :=
  [sampleIndicator "OTP_REQUEST" "o-1", sampleIndicator "URGENCY" "o-1"]

def pressureObs : List Json := [sampleObservation "o-1" "DIRECTIVE"]

def remoteInd : Json := sampleIndicator "REMOTE_ACCESS" "o-2"

def remoteObs : Json := sampleObservation "o-2" "DIRECTIVE"

def resultsOfStages (rk : RuntimeKnowledge) (inds obs : List Json) : List RuleResult :=
  resultsOf (evaluateWithSuppression rk {} inds obs "en" "Latn")

lemma softBlockable_remote (blocks : Option (List String)) :
    SoftBlockable (remoteKnowledge blocks) :=
  fun _ hneg => absurd hneg List.not_mem_nil

lemma allGoverned_remote : AllGoverned (remoteKnowledge (some ["BENIGN"])) := by
  intro rule hmem _
  cases List.mem_singleton.mp hmem
  refine ⟨?_, ?_, ?_⟩
  · intro logic hlogic
    cases hlogic
    decide +kernel
  · intro o ho _
    cases List.mem_singleton.mp ho
    decide +kernel
  · intro o ho _
    cases List.mem_singleton.mp ho
    exact ⟨["BENIGN"], rfl, by decide⟩

/-- One live occurrence of a positive indicator, backed by a fresh first-party request, whose
suppressors all have references. -/
structure LiveAddition (rk : RuntimeKnowledge) (gate : Level) (inds obs : List Json)
    (io : IndicatorObservation) (o : Observation) : Prop where
  positive : rk.isPositive io.indicatorId = true ∧ io.polarity = some .POSITIVE
  observed : io.matched = .OBSERVED
  confident : ∃ level ∈ io.confidence, gate ≤ level
  ref : io.observationRefs = [o.observationId]
  fresh : ∀ old ∈ obs.filterMap Observation.fromDict, old.observationId ≠ o.observationId
  live : o.status = .OBSERVED ∧ o.polarity = .AFFIRMED ∧ o.attribution = .FIRST_PARTY ∧
    o.mood = .DIRECTIVE
  suppressors : ∀ neg ∈ rk.negatives, io.indicatorId ∈ neg.suppressesIndicators →
    ∀ s ∈ inds.filterMap IndicatorObservation.decode, s.indicatorId = neg.id →
      s.observationRefs ≠ []

end TrustLens.Runtime.LiveMonotone
