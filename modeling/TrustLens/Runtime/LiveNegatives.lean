import TrustLens.Runtime.SuppressionSpec

/-!
# Retired negatives still act

The index of the negatives a rule may meet keeps the ACTIVE ones. The evaluator does not
consult it: a negative applies by its families alone, whatever its status, so a retired one
acts on every rule it was written for as soon as an observation asserts it.
-/

namespace TrustLens.Runtime.Evaluator

open SuppressionExecutor (apply)

variable {rk : RuntimeKnowledge} {gate : Level} {ctx : Context} {rule : Rule}
  {status : String → Option String}

/-- `negative_indicators_by_rule` for one rule, by the status the library states. -/
def negativeIndicatorsByRule (rk : RuntimeKnowledge) (status : String → Option String)
    (rule : Rule) : List String :=
  sortedUnique (((rk.negatives.filter fun n => status n.id == some "ACTIVE").filter fun n =>
    n.applicableRuleFamilies.contains "*" ||
      n.applicableRuleFamilies.any rule.categories.contains).map NegativeIndicator.id)

lemma mem_negativeIndicatorsByRule {id : String} :
    id ∈ negativeIndicatorsByRule rk status rule ↔ rk.isNegative id = true ∧
      status id = some "ACTIVE" ∧ negativeApplies rk id rule.categories = true := by
  simp only [negativeIndicatorsByRule, mem_sortedUnique, List.mem_map, List.mem_filter,
    beq_iff_eq]
  constructor
  · rintro ⟨n, ⟨⟨hmem, hactive⟩, happlies⟩, rfl⟩
    have hfound := RuntimeKnowledge.negative_of_mem hmem
    refine ⟨RuntimeKnowledge.isNegative_iff.mpr ⟨n, hfound⟩, hactive, ?_⟩
    simp only [negativeApplies, hfound, Option.map_some, Option.getD_some]
    exact happlies
  · rintro ⟨hneg, hactive, happlies⟩
    obtain ⟨n, hfound⟩ := RuntimeKnowledge.isNegative_iff.mp hneg
    obtain rfl := RuntimeKnowledge.id_of_negative hfound
    simp only [negativeApplies, hfound, Option.map_some, Option.getD_some] at happlies
    exact ⟨n, ⟨⟨RuntimeKnowledge.mem_of_negative hfound, hactive⟩, happlies⟩, rfl⟩

/-- `SUPPRESS_INDICATOR` of a negative was executed on an indicator of the context while the
rule was evaluated. -/
def Executed (rk : RuntimeKnowledge) (gate : Level) (ctx : Context) (rule : Rule) (id : String) :
    Prop :=
  ∃ overrides target, activeOverrides rk rule (truthOf (rawPositive rk gate ctx)) = .ok overrides ∧
    (rawPositive rk gate ctx target).isSome = true ∧
    id ∈ matchedNegative rk gate ctx rule.categories ∧
    suppressorsOf rk gate ctx overrides target id ≠ []

/-- Only negatives of the index are matched, executed, or applied to the rule as a whole. -/
structure OnlyLive (rk : RuntimeKnowledge) (status : String → Option String) (gate : Level)
    (ctx : Context) (rule : Rule) (r : RuleResult) : Prop where
  matched : ∀ id ∈ r.matchedNegativeIndicators, id ∈ negativeIndicatorsByRule rk status rule
  executed : ∀ id, Executed rk gate ctx rule id → id ∈ negativeIndicatorsByRule rk status rule
  applied : ∀ s, (apply rk r).suppression = some s →
    ∀ id ∈ s.appliedSuppressors ++ s.appliedSeverityCaps,
      id ∈ negativeIndicatorsByRule rk status rule

/-- Every negative written for the rule that the data asserts is ACTIVE. -/
def LiveAsserted (rk : RuntimeKnowledge) (status : String → Option String) (gate : Level)
    (ctx : Context) (rule : Rule) : Prop :=
  ∀ n ∈ rk.negatives, negativeApplies rk n.id rule.categories = true →
    negativeTruth rk gate ctx n.id = .TRUE → status n.id = some "ACTIVE"

lemma mem_matchedNegative {id : String} {categories : List String} :
    id ∈ matchedNegative rk gate ctx categories ↔
      negativeTruth rk gate ctx id = .TRUE ∧ negativeApplies rk id categories = true := by
  rw [matchedNegative, List.mem_filter, mem_activeNegatives]

/-- The evaluator's matched negatives are in the index when the asserted ones are ACTIVE. -/
lemma matchedNegative_subset_iff :
    (∀ id ∈ matchedNegative rk gate ctx rule.categories,
      id ∈ negativeIndicatorsByRule rk status rule) ↔ LiveAsserted rk status gate ctx rule := by
  constructor
  · intro h n hn happlies htrue
    exact (mem_negativeIndicatorsByRule.mp
      (h n.id (mem_matchedNegative.mpr ⟨htrue, happlies⟩))).2.1
  · intro h id hid
    obtain ⟨htrue, happlies⟩ := mem_matchedNegative.mp hid
    have hneg := (negativeTruth_eq_TRUE.mp htrue).1
    obtain ⟨n, hfound⟩ := RuntimeKnowledge.isNegative_iff.mp hneg
    obtain rfl := RuntimeKnowledge.id_of_negative hfound
    exact mem_negativeIndicatorsByRule.mpr
      ⟨hneg, h n (RuntimeKnowledge.mem_of_negative hfound) happlies htrue, happlies⟩

/-- A degraded result names no negatives, and none acts on it. -/
lemma negatives_of_notApplicable {rs : List RuleResult} (hrs : evaluateRules rk gate ctx = .ok rs)
    {r : RuleResult} (hr : r ∈ rs) (hs : r.evaluationState = .NOT_APPLICABLE) :
    r.matchedNegativeIndicators = [] ∧ (apply rk r).suppression = none := by
  have hplain : r.matchedNegativeIndicators = [] ∧ r.suppression = none := by
    obtain ⟨rule, -, -, hrun⟩ := (mem_evaluateRules hrs r).mp hr
    rcases runIsolated_ok hrun with hok | ⟨fault, -, rfl⟩
    · rcases runRule_ok hok with ⟨-, rfl⟩ | ⟨-, -, heval⟩ | ⟨-, -, heval⟩
      · exact ⟨rfl, rfl⟩
      · obtain ⟨_, required, _, -, rfl⟩ := evaluateSuppression_ok heval
        rw [suppressionResult_same.evaluationState] at hs
        cases required <;> cases hs
      · obtain ⟨_, minClasses, _, required, _, _, -, rfl⟩ := evaluateComposite_ok heval
        rw [compositeResult_same.evaluationState] at hs
        simp only [compositeBase, compositeState] at hs
        split at hs
        · split_ifs at hs
        · cases hs
        · cases hs
    · exact ⟨rfl, rfl⟩
  refine ⟨hplain.1, ?_⟩
  have hpass : r.kind ≠ .COMPOSITE ∨ r.evaluationState ≠ .MATCHED := by
    right
    rw [hs]
    decide
  simp only [apply, SuppressionExecutor.applyCore_passthrough hpass, RuleResult.canonical, hplain.2,
    Option.map_none]

/-- The evaluator only lists candidates, it applies none. -/
lemma suppressionCandidates_unapplied {negatives : List String} {overrides : List Override} :
    ∀ s, suppressionCandidates rk negatives overrides = some s →
      s.appliedSuppressors = [] ∧ s.appliedSeverityCaps = [] := by
  intro s h
  simp only [suppressionCandidates] at h
  split_ifs at h
  cases h
  exact ⟨rfl, rfl⟩

/-- A composite result is served by live negatives exactly when the data asserts no other ones
that were written for the rule. -/
theorem live_negatives_iff (rk : RuntimeKnowledge) (status : String → Option String)
    (profile : EvaluationProfile) {inds obs : List Json} {language script : String} {ctx : Context}
    (hctx : buildValidatedContext inds obs language script = .ok ctx) {rs : List RuleResult}
    (hrs : evaluateRulesFromGoverned rk profile inds obs language script = .ok rs) {rule : Rule}
    (hmem : rule ∈ rk.rules) {r : RuleResult} (hr : r ∈ rs) (hid : r.ruleId = rule.id)
    (hk : r.kind = .COMPOSITE) :
    (r.evaluationState = .NOT_APPLICABLE →
      r.matchedNegativeIndicators = [] ∧ (apply rk r).suppression = none) ∧
    (r.evaluationState ≠ .NOT_APPLICABLE →
      (OnlyLive rk status profile.extractionConfidenceGate ctx rule r ↔
        LiveAsserted rk status profile.extractionConfidenceGate ctx rule)) := by
  obtain ⟨ctx', hctx', heval⟩ := evaluateRulesFromGoverned_ok hrs
  obtain rfl := Except.ok.inj (hctx'.symm.trans hctx)
  refine ⟨negatives_of_notApplicable heval hr, fun hs => ?_⟩
  obtain ⟨_, minClasses, overrides, required, operandIds, effective, run, hres⟩ :=
    exists_compositeRun heval hmem hr hid hk hs
  have hnegs : r.matchedNegativeIndicators =
      matchedNegative rk profile.extractionConfidenceGate ctx' rule.categories := by
    rw [hres, compositeResult_same.matchedNegative]
    rfl
  rw [← matchedNegative_subset_iff]
  constructor
  · intro h
    rw [← hnegs]
    exact h.matched
  · intro h
    refine ⟨hnegs ▸ h, ?_, ?_⟩
    · rintro id ⟨_, _, -, -, hid, -⟩
      exact h id hid
    · intro s happly id hid
      apply h id
      rw [← hnegs]
      exact SuppressionExecutor.applied_subset happly
        (by rw [hres, compositeResult_same.suppression]; exact suppressionCandidates_unapplied) hid

/-! ### A retired warning -/

/-- The credential request of the small bundle, with a safety warning that cancels it. -/
def retiredKnowledge : RuntimeKnowledge :=
  { sampleKnowledge with
    negatives := [⟨"BANK_WARNING", ["*"], some "SUPPRESS_RULE", some "BENIGN", [], .bool false,
      none⟩]
    negatives_nodup := by simp
    polarity_disjoint := by simp [sampleKnowledge] }

def retiredInds : List Json :=
  [sampleIndicator "OTP_REQUEST" "o-1", sampleIndicator "URGENCY" "o-1",
    .obj [("indicator_id", .str "BANK_WARNING"), ("polarity", .str "NEGATIVE"),
      ("matched", .str "OBSERVED"), ("confidence", .obj [("level", .str "HIGH")]),
      ("observation_refs", .arr [.str "o-1"]), ("input_id", .str "in-1"),
      ("provenance", sampleProvenance)]]

def retiredResults : List RuleResult :=
  resultsOf (evaluateRulesFromGoverned retiredKnowledge {} retiredInds
    [sampleObservation "o-1" "DIRECTIVE"] "en" "Latn")

/-- A DEPRECATED warning is in no index and still cancels the match. -/
theorem retired_negative_suppresses :
    negativeIndicatorsByRule retiredKnowledge (fun _ => some "DEPRECATED") sampleRule = [] ∧
      retiredResults.map (fun r => (r.evaluationState, r.matchedNegativeIndicators,
        (apply retiredKnowledge r).evaluationState,
        (apply retiredKnowledge r).suppression.map Suppression.appliedSuppressors)) =
      [(.MATCHED, ["BANK_WARNING"], .SUPPRESSED, some ["BANK_WARNING"])] := by
  decide +kernel

/-- The equivalence on that bundle, whose warning is live here. -/
theorem live_negatives_iff_sample :
    retiredResults ≠ [] ∧
      ∀ ctx, buildValidatedContext retiredInds [sampleObservation "o-1" "DIRECTIVE"] "en" "Latn" =
          .ok ctx → ∀ r ∈ retiredResults,
        (OnlyLive retiredKnowledge (fun _ => some "ACTIVE") .MEDIUM ctx sampleRule r ↔
          LiveAsserted retiredKnowledge (fun _ => some "ACTIVE") .MEDIUM ctx sampleRule) := by
  have hne : retiredResults ≠ [] := by decide +kernel
  have hresults : ∀ r ∈ retiredResults, r.ruleId = sampleRule.id ∧ r.kind = .COMPOSITE ∧
      r.evaluationState ≠ .NOT_APPLICABLE := by
    decide +kernel
  refine ⟨hne, fun ctx hctx r hr => ?_⟩
  obtain ⟨hid, hk, hs⟩ := hresults r hr
  exact (live_negatives_iff retiredKnowledge (fun _ => some "ACTIVE") {} hctx
    (eq_ok_of_resultsOf hne) List.mem_cons_self hr hid hk).2 hs

end TrustLens.Runtime.Evaluator
