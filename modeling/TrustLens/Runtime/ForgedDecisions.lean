import TrustLens.Runtime.GenuineDecisions
import TrustLens.Runtime.Snapshot

/-!
# The trust boundary against genuine and forged decisions

Which decisions of the aggregation pass the boundary, and what a decision of any origin that
passes it can still claim.
-/

namespace TrustLens.Runtime.Explanation

open Aggregation (Checked Candidate Evaluable assemble ErrorEntry evaluateDecision)

variable {render : ErrorMessage → String} {rk : RuntimeKnowledge}

/-! ### Genuine decisions -/

/-- No rule matched once suppressed, and no error of the whole evaluation claims to be a rule's. -/
def NothingToShow (finals : List RuleResult) (wholeErrors : List Json) : Prop :=
  (∀ r ∈ finals, ¬(r.kind = .COMPOSITE ∧ r.evaluationState = .MATCHED)) ∧
    ∀ e ∈ wholeErrors, e.get "scope" ≠ .str "SINGLE_RULE"

lemma eligible_iff_of_checked {r copy : RuleResult} (h : Checked rk r copy) :
    copy.isEligibleMatched = true ↔ r.kind = .COMPOSITE ∧ r.evaluationState = .MATCHED := by
  constructor
  · intro heligible
    simp only [RuleResult.isEligibleMatched, RuleResult.isComposite, Bool.and_eq_true,
      beq_iff_eq] at heligible
    exact ⟨h.kind_eq.symm.trans heligible.1.1.1, h.state_eq.symm.trans heligible.1.1.2⟩
  · rintro ⟨hk, hm⟩
    exact h.eligible hk hm

lemma shown_iff {support : Support} {wholeErrors : List Json} {finals results : List RuleResult}
    (hchecked : List.Forall₂ (Checked rk) finals results) :
    Shown support wholeErrors results ↔
      Evaluable support wholeErrors ∨ NothingToShow finals wholeErrors := by
  have hresults : (∀ r ∈ results, r.isEligibleMatched = false) ↔
      ∀ r ∈ finals, ¬(r.kind = .COMPOSITE ∧ r.evaluationState = .MATCHED) := by
    constructor
    · intro hno r hr
      obtain ⟨copy, hcopy, hc⟩ := exists_right_of_forall₂ hchecked hr
      rw [← eligible_iff_of_checked hc, hno copy hcopy]
      exact Bool.false_ne_true
    · intro hno copy hcopy
      obtain ⟨r, hr, hc⟩ := exists_left_of_forall₂ hchecked hcopy
      have := hno r hr
      rwa [← eligible_iff_of_checked hc, Bool.not_eq_true] at this
  have herrors : singleScoped wholeErrors = [] ↔
      ∀ e ∈ wholeErrors, e.get "scope" ≠ .str "SINGLE_RULE" := by
    simp [singleScoped, List.filter_eq_nil_iff]
  rw [Shown, NothingToShow, hresults, herrors]

/-! ### Forged decisions -/

/-- The rollups of a decision, as it lists them. -/
def listedRollups (d : SuppliedDecision) : List (List String) := (rollupChecks d).map fun c => c.2.1

/-- What a decision that passes the boundary has from its rule results and from the knowledge. -/
structure Backed (render : ErrorMessage → String) (rk : RuntimeKnowledge) (d : SuppliedDecision) :
    Prop where
  derived : ∀ (support : Support) (axes : Aggregation.Axes) (profile : EvaluationProfile)
    (candidates : List Candidate), candidates.map Candidate.result = d.eligible →
    Derived render d (assemble support axes candidates d.ruleResults
      (d.results.any RuleResult.isDegraded) (ruleErrors d.results) profile)
  sources : ∀ r ∈ d.eligible, ∃ rule, rk.rule r.ruleId = some rule ∧
    RuntimeKnowledge.isPublished rule = true ∧
    r.sourceReferences.Perm (authoritativeSourceRefs (some rule))
  published : ∀ id ∈ contributingRuleIds d, ∃ rule, rk.rule id = some rule ∧
    RuntimeKnowledge.isPublished rule = true
  noScam : d.classification = "NO_SCAM_PATTERN" → d.eligible = []

theorem Accepted.backed {d : SuppliedDecision} (h : Accepted render rk true d) :
    Backed render rk d := by
  refine ⟨fun support axes profile cs hcs => h.derived support axes profile hcs,
    fun r hr => h.governedSources hr, fun id hid => h.published hid, fun hclass => ?_⟩
  have hchecks := h.classification
  simp [classificationChecks, hclass, isScamClass] at hchecks
  exact hchecks.2.2.2.1

/-- The aggregation lists each rollup in order, so a decision lists the same ones exactly when it
keeps that order too. -/
theorem Accepted.rollups_eq_iff {d : SuppliedDecision} {live : Bool}
    (h : Accepted render rk live d) (support : Support) (axes : Aggregation.Axes)
    (profile : EvaluationProfile) {candidates : List Candidate}
    (hcandidates : candidates.map Candidate.result = d.eligible) :
    listedRollups d = listedRollups ((assemble support axes candidates d.ruleResults
        (d.results.any RuleResult.isDegraded) (ruleErrors d.results) profile).supply render) ↔
      ∀ xs ∈ listedRollups d, xs.Pairwise (· ≤ ·) := by
  have hids : candidates.map (·.result.ruleId) = d.eligible.map RuleResult.ruleId := by
    rw [← hcandidates, List.map_map]
    rfl
  have hpositive : candidates.flatMap (·.result.matchedPositiveIndicators) =
      d.eligible.flatMap RuleResult.matchedPositiveIndicators := by
    rw [← hcandidates, List.flatMap_map]
  have hassembled : listedRollups ((assemble support axes candidates d.ruleResults
      (d.results.any RuleResult.isDegraded) (ruleErrors d.results) profile).supply render) =
      (rollupChecks d).map fun c => c.2.2 := by
    show [sortedUnique (candidates.map (·.result.ruleId)),
      sortedUnique (candidates.flatMap (·.result.matchedPositiveIndicators)), _, _, _, _, _] = _
    rw [hids, hpositive]
    rfl
  rw [hassembled, listedRollups, List.map_inj_left, List.forall_mem_map]
  refine forall₂_congr fun c hc => ?_
  have hsorted := (h.rollups c hc).2
  constructor
  · intro heq
    rw [heq, ← hsorted]
    exact List.pairwise_insertionSort _ _
  · intro hpairwise
    exact hpairwise.insertionSort_eq.symm.trans hsorted

/-! ### The boundary -/

section Sample

open Detection (governedKnowledge placedObservation pressureItems)

/-- A decision built by hand: the input failed, yet the conclusion is only left open. -/
def forgedOpen : SuppliedDecision where
  inputSupportStatus := "ERROR"
  classification := "INSUFFICIENT_EVIDENCE"
  decisionSeverity := "NONE"
  matchedEvidenceStrength := "NONE"
  riskLevel := "NONE"
  detectionConfidence := "NOT_APPLICABLE"
  corroboration := {}
  governingRuleId := none
  governingReason := none
  matchedRules := []
  matchedPositiveIndicators := []
  matchedNegativeIndicators := []
  suppressedIndicators := []
  activeOverrides := []
  ambiguities := []
  unknowns := []
  degraded := false
  errors := []
  ruleResults := []
  evaluationProfile := {}

lemma forgedOpen_passes : validateInput (fun _ => "") governedKnowledge true forgedOpen = .ok () := by
  decide +kernel

/-- The aggregation on the sample, in which the only rule matches. -/
def sampleDecision (status : String) : Except Aggregation.Failure Aggregation.DecisionResult :=
  evaluateDecision governedKnowledge {} pressureItems [placedObservation] status "en" "Latn" []

lemma sampleDecision_unsupported : (sampleDecision "UNSUPPORTED").toOption.map
    (fun d => validateInput (fun _ => "") governedKnowledge true (d.supply fun _ => "")) =
      some (.error (.rollupMismatch "matched_rules")) := by decide +kernel

lemma sampleDecision_supported : (sampleDecision "SUPPORTED").toOption.map
    Aggregation.DecisionResult.matchedRules = some ["TL-OTP-001"] := by decide +kernel

end Sample

end TrustLens.Runtime.Explanation
