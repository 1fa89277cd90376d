import TrustLens.Runtime.DecisionSpec

/-!
# The reassuring classification is never reached on uncertainty

A decision that reports no scam pattern rests on results that are all accounted for:
every published rule was evaluated in scope without a fault, none of them matched,
what stayed undetermined is undetermined for want of evidence only, and some rule was
cleared in so many words.
-/

namespace TrustLens.Runtime

namespace Evaluator

variable {rk : RuntimeKnowledge} {gate : Level} {ctx : Context} {rule : Rule}

lemma uncertainty_text (id : String) (entry : Combined) (h : entry.value = .UNKNOWN) :
    ambiguityText id entry ≠ none ∨ unknownText id entry ≠ none := by
  by_cases hamb : ambiguityText id entry = none
  · right
    simp [unknownText, h, hamb]
  · exact Or.inl hamb

/-- A composite result without recorded uncertainty has no present operand that is UNKNOWN. -/
theorem compositeResult_certain {minClasses : ℤ} {overrides : List Override} {required : Truth}
    {operandIds : List String} {effective : Option Json} {r : RuleResult}
    (hr : r = compositeResult rk gate ctx rule minClasses overrides required operandIds effective)
    (hamb : r.ambiguities = []) (hunk : r.unknowns = []) {id : String} (hid : id ∈ operandIds)
    (hpos : rk.isPositive id = true) (hpresent : ctx.observationsFor id ≠ []) :
    truthOf (suppressedPositive rk gate ctx rule.categories overrides) id ≠ .UNKNOWN := by
  intro hvalue
  rw [hr, compositeResult_same.ambiguities] at hamb
  rw [hr, compositeResult_same.unknowns] at hunk
  simp only [compositeBase, sortedUnique_eq_nil, List.filterMap_eq_nil_iff, List.mem_filter,
    mem_sortedUnique] at hamb hunk
  have hraw : rawPositive rk gate ctx id = some (combinePositive gate ctx id []) :=
    if_pos ⟨hpos, hpresent⟩
  have hentry : suppressedPositive rk gate ctx rule.categories overrides id =
      some (combinePositive gate ctx id
        (suppressorsFor rk gate ctx rule.categories overrides id)) := by
    rw [suppressedPositive, hraw, Option.map_some]
  have hno := hamb id ⟨hid, hpos⟩
  have hno' := hunk id ⟨hid, hpos⟩
  rw [hentry, Option.bind_some] at hno hno'
  rw [truthOf, hentry] at hvalue
  exact (uncertainty_text id _ hvalue).elim (absurd hno) (absurd hno')

end Evaluator

namespace Aggregation

open Evaluator (scopeCheck kindOf runRule runIsolated logicOf activeOverrides truthOf rawPositive
  suppressedPositive)
open Condition (operands)

/-- What the reassuring classification asserts of one published rule: it is in scope, neither
stage raised on it, and its final result leaves no doubt that was observed. -/
structure Settled (rk : RuntimeKnowledge) (gate : Level) (ctx : Context) (rule : Rule)
    (final : RuleResult) : Prop where
  inScope : scopeCheck ctx rule = .ok true
  evaluated : ∃ r, runRule rk gate ctx rule = .ok r ∧
    SuppressionExecutor.applyCore rk r = .ok final
  applicable : final.evaluationState ≠ .NOT_APPLICABLE
  unmatched : kindOf rule = .COMPOSITE → final.evaluationState ≠ .MATCHED
  certain : kindOf rule = .COMPOSITE → final.evaluationState = .INDETERMINATE →
    ∀ logic overrides ids, logicOf rule = .ok logic →
      activeOverrides rk rule (truthOf (rawPositive rk gate ctx)) = .ok overrides →
      operands (logic.get "require") = .ok ids →
      ∀ id ∈ ids, rk.isPositive id = true → ctx.observationsFor id ≠ [] →
        truthOf (suppressedPositive rk gate ctx rule.categories overrides) id ≠ .UNKNOWN

/-- The final result clears its rule: it was suppressed, or its combination is exactly FALSE. -/
def Clears (final : RuleResult) : Prop :=
  final.evaluationState = .SUPPRESSED ∨ final.requiredCombinationResult = .FALSE

variable {rk : RuntimeKnowledge} {gate : Level} {ctx : Context}

/-- What the results of a decision must look like for the reassuring classification. -/
structure Reassuring (rk : RuntimeKnowledge) (finals results : List RuleResult) : Prop where
  checked : List.Forall₂ (Checked rk) finals results
  noEligible : ∀ copy ∈ results, copy.isEligibleMatched = false
  notDegraded : results.any RuleResult.isDegraded = false
  noHarm : results.any RuleResult.isUnresolvedHarmful = false
  clear : results.any RuleResult.isBenignClear = true

/-- Only an evaluable input whose results are reassuring gets the classification. -/
theorem reassuring_of_noScam {profile : EvaluationProfile} {finals : List RuleResult}
    {status : String} {wholeErrors : List Json} {d : DecisionResult}
    (h : aggregateDecision rk profile finals status wholeErrors = .ok d)
    (hclass : d.classification = .NO_SCAM_PATTERN) :
    (status = "SUPPORTED" ∨ status = "PARTIALLY_SUPPORTED") ∧ wholeErrors = [] ∧
      ∃ results, Reassuring rk finals results := by
  obtain ⟨support, results, hsupport, hresults, hdecided⟩ := aggregateDecision_ok h
  cases hdecided with
  | blocked no hc _ =>
    obtain ⟨hw, hs, -⟩ := classify_eq_NO_SCAM_PATTERN.mp (hc.symm.trans hclass)
    exact absurd ⟨by simpa using hw, hs⟩ no
  | quiet ok hnone hc _ =>
    obtain ⟨-, -, -, hdegraded, hharm, hclear⟩ :=
      classify_eq_NO_SCAM_PATTERN.mp (hc.symm.trans hclass)
    refine ⟨?_, ok.1, results, materialise_ok hresults, candidates_eq_nil hnone, hdegraded, hharm,
      hclear⟩
    have hs := Support.ofString?_eq_some hsupport
    rcases ok.2 with rfl | rfl
    · exact Or.inl hs
    · exact Or.inr hs
  | fired ok _ _ _ _ _ hc _ =>
    obtain ⟨-, -, hfalse, -⟩ := classify_eq_NO_SCAM_PATTERN.mp (hc.symm.trans hclass)
    cases hfalse

/-- The final result of a settled rule was computed by both stages, in scope. -/
lemma evaluated_of_applicable {rule : Rule} {r : RuleResult}
    (hrun : runIsolated rk gate ctx rule = .ok r)
    (h : (SuppressionExecutor.apply rk r).evaluationState ≠ .NOT_APPLICABLE) :
    scopeCheck ctx rule = .ok true ∧ runRule rk gate ctx rule = .ok r ∧
      SuppressionExecutor.applyCore rk r = .ok (SuppressionExecutor.apply rk r) := by
  have hstate : r.evaluationState ≠ .NOT_APPLICABLE :=
    fun hna => h (SuppressionExecutor.apply_notApplicable hna)
  rcases Evaluator.runIsolated_ok hrun with hrule | ⟨fault, -, rfl⟩
  · refine ⟨?_, hrule, SuppressionExecutor.applyCore_of_apply h⟩
    rcases Evaluator.runRule_ok hrule with ⟨-, rfl⟩ | ⟨hscope, -⟩ | ⟨hscope, -⟩
    · exact absurd rfl hstate
    · exact hscope
    · exact hscope
  · exact absurd rfl hstate

/-- Under a reassuring decision every published rule is settled. -/
theorem Reassuring.settled {wp3 results : List RuleResult}
    (h : Reassuring rk (SuppressionExecutor.applyAll rk wp3) results) {rule : Rule} {r : RuleResult}
    (hr : r ∈ wp3) (hrun : runIsolated rk gate ctx rule = .ok r) :
    Settled rk gate ctx rule (SuppressionExecutor.apply rk r) := by
  obtain ⟨copy, hcopy, hchecked⟩ :=
    exists_right_of_forall₂ h.checked (List.mem_map_of_mem hr)
  have happlicable : (SuppressionExecutor.apply rk r).evaluationState ≠ .NOT_APPLICABLE := by
    intro hna
    have hdegraded := List.any_eq_false.mp h.notDegraded copy hcopy
    exact hdegraded (hchecked.isDegraded hna)
  obtain ⟨hscope, hrule, hcore⟩ := evaluated_of_applicable hrun happlicable
  have hkind : (SuppressionExecutor.apply rk r).kind = kindOf rule :=
    (SuppressionExecutor.apply_same rk r).2.1.trans (Evaluator.kind_of_runRule hrule)
  refine ⟨hscope, ⟨r, hrule, hcore⟩, happlicable, ?_, ?_⟩
  · intro hk hm
    have heligible := hchecked.eligible (hkind.trans hk) hm
    rw [h.noEligible copy hcopy] at heligible
    cases heligible
  · intro hk hi logic overrides ids hlogic hover hids id hid hpos hpresent
    have hharm := List.any_eq_false.mp h.noHarm copy hcopy
    obtain ⟨hamb, hunk⟩ :=
      hchecked.no_uncertainty (hkind.trans hk) hi (Bool.eq_false_of_not_eq_true hharm)
    rw [SuppressionExecutor.apply_indeterminate hi] at hamb hunk
    -- only the composite branch of the evaluator is left, and it read these very operands
    rcases Evaluator.runRule_ok hrule with ⟨-, rfl⟩ | ⟨-, hs, -⟩ | ⟨-, -, heval⟩
    · exact absurd (SuppressionExecutor.apply_notApplicable rfl) happlicable
    · exact absurd (hk.symm.trans hs) (by decide)
    · obtain ⟨_, _, _, _, _, _, run, hr⟩ := Evaluator.evaluateComposite_ok heval
      cases hlogic.symm.trans run.logic_eq
      cases hover.symm.trans run.overrides_eq
      cases hids.symm.trans run.operands_eq
      exact Evaluator.compositeResult_certain hr (sortedUnique_eq_nil.mp hamb)
        (sortedUnique_eq_nil.mp hunk) hid hpos hpresent

/-- Under a reassuring decision some composite was cleared. -/
theorem Reassuring.cleared {finals results : List RuleResult} (h : Reassuring rk finals results) :
    ∃ final ∈ finals, final.kind = .COMPOSITE ∧ Clears final := by
  obtain ⟨copy, hcopy, hbenign⟩ := List.any_eq_true.mp h.clear
  obtain ⟨final, hfinal, hchecked⟩ := exists_left_of_forall₂ h.checked hcopy
  simp only [RuleResult.isBenignClear, RuleResult.isComposite, Bool.and_eq_true, Bool.or_eq_true,
    beq_iff_eq, hchecked.kind_eq, hchecked.state_eq, hchecked.required_eq] at hbenign
  exact ⟨final, hfinal, hbenign.1, hbenign.2.imp_right And.right⟩

/-- A decision reports no scam pattern only for an evaluable input on which every published rule
is settled and a published composite is cleared. -/
theorem noScam_never_on_uncertainty (rk : RuntimeKnowledge) (profile : EvaluationProfile)
    (inds obs : List Json) (status language script : String) (wholeErrors : List Json)
    (d : DecisionResult)
    (h : evaluateDecision rk profile inds obs status language script wholeErrors = .ok d)
    (hclass : d.classification = .NO_SCAM_PATTERN) :
    (status = "SUPPORTED" ∨ status = "PARTIALLY_SUPPORTED") ∧ wholeErrors = [] ∧
      ∃ ctx finals, buildValidatedContext inds obs language script = .ok ctx ∧
        SuppressionExecutor.evaluateWithSuppression rk profile inds obs language script =
          .ok finals ∧
        (∀ rule ∈ rk.rules, RuntimeKnowledge.isPublished rule = true → ∃ final ∈ finals,
          final.ruleId = rule.id ∧
            Settled rk profile.extractionConfidenceGate ctx rule final) ∧
        ∃ rule ∈ rk.rules, RuntimeKnowledge.isPublished rule = true ∧ kindOf rule = .COMPOSITE ∧
          ∃ final ∈ finals, final.ruleId = rule.id ∧ Clears final := by
  obtain ⟨ctx, wp3, hctx, hrules, hfinals, hagg⟩ := evaluateDecision_ok h
  obtain ⟨hstatus, hwhole, results, hreassuring⟩ := reassuring_of_noScam hagg hclass
  refine ⟨hstatus, hwhole, ctx, _, hctx, hfinals, ?_, ?_⟩
  · intro rule hmem hpub
    obtain ⟨r, hr, hrun⟩ := Evaluator.exists_evaluateRules hrules hmem hpub
    exact ⟨_, List.mem_map_of_mem hr,
      (SuppressionExecutor.apply_same rk r).1.trans (Evaluator.ruleId_of_runIsolated hrun),
      hreassuring.settled hr hrun⟩
  · obtain ⟨_, hfinal, hkind, hclears⟩ := hreassuring.cleared
    obtain ⟨r, hr, rfl⟩ := List.mem_map.mp hfinal
    obtain ⟨rule, hmem, hpub, hrun⟩ := (Evaluator.mem_evaluateRules hrules r).mp hr
    obtain ⟨-, hrule, -⟩ := evaluated_of_applicable hrun (hreassuring.settled hr hrun).applicable
    obtain ⟨hid, hk, -⟩ := SuppressionExecutor.apply_same rk r
    refine ⟨rule, hmem, hpub, ?_, _, hfinal, ?_, hclears⟩
    · exact (Evaluator.kind_of_runRule hrule).symm.trans (hk.symm.trans hkind)
    · exact hid.trans (Evaluator.ruleId_of_runIsolated hrun)

/-- A descriptive mention of the credential request clears the rule. -/
theorem noScam_never_on_uncertainty_sample :
    ∃ finals, SuppressionExecutor.evaluateWithSuppression Evaluator.sampleKnowledge {}
        [Evaluator.sampleIndicator "OTP_REQUEST" "o-1"]
        [Evaluator.sampleObservation "o-1" "DESCRIPTIVE"] "en" "Latn" = .ok finals ∧
      ∃ rule ∈ Evaluator.sampleKnowledge.rules, kindOf rule = .COMPOSITE ∧
        ∃ final ∈ finals, final.ruleId = rule.id ∧ Clears final := by
  have hclass : ((evaluateDecision Evaluator.sampleKnowledge {}
      [Evaluator.sampleIndicator "OTP_REQUEST" "o-1"]
      [Evaluator.sampleObservation "o-1" "DESCRIPTIVE"] "SUPPORTED" "en" "Latn" []).toOption.map
        DecisionResult.classification) = some .NO_SCAM_PATTERN := by decide +kernel
  obtain ⟨d, hd, hclass⟩ := Option.map_eq_some_iff.mp hclass
  have hrun := eq_ok_of_toOption hd
  obtain ⟨-, -, ctx, finals, -, hfinals, -, rule, hmem, -, hkind, hclears⟩ :=
    noScam_never_on_uncertainty Evaluator.sampleKnowledge {} _ _ _ _ _ _ d hrun hclass
  exact ⟨finals, hfinals, rule, hmem, hkind, hclears⟩

end Aggregation
end TrustLens.Runtime
