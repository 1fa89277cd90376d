import TrustLens.Runtime.Aggregation
import TrustLens.Runtime.SuppressionSpec

/-!
# What the aggregation computes

What its checks establish about the results they let through, and how a decision
comes out of the checked results.
-/

namespace TrustLens.Runtime

namespace Aggregation

variable {rk : RuntimeKnowledge}

/-- A result that passed the checks, next to the result it is the canonical copy of. -/
structure Checked (rk : RuntimeKnowledge) (r copy : RuleResult) : Prop where
  copied : validateAndCanonicalCopy r = .ok copy
  invariants : checkSemanticInvariants rk copy = .ok ()

lemma forall₂_checked {rs copies : List RuleResult}
    (hcopies : List.Forall₂ (fun r copy => validateAndCanonicalCopy r = .ok copy) rs copies)
    (hchecks : ∀ copy ∈ copies, checkSemanticInvariants rk copy = .ok ()) :
    List.Forall₂ (Checked rk) rs copies := by
  induction hcopies with
  | nil => exact List.Forall₂.nil
  | cons hcopy _ ih =>
    rw [List.forall_mem_cons] at hchecks
    exact List.Forall₂.cons ⟨hcopy, hchecks.1⟩ (ih hchecks.2)

/-- Every result that reaches the decision passed the checks. -/
theorem materialise_ok {rs copies : List RuleResult} (h : materialise rk rs = .ok copies) :
    List.Forall₂ (Checked rk) rs copies := by
  obtain ⟨cs, hcopies, h⟩ := bind_ok h
  obtain ⟨⟨⟩, hchecks, h⟩ := bind_ok h
  cases h
  exact forall₂_checked (forall₂_of_mapM_ok hcopies) (ok_of_forM hchecks)

section Checked

variable {r copy : RuleResult}

lemma Checked.copy_eq (h : Checked rk r copy) : copy =
    { r.canonical with
      livePositiveProvenance := (r.livePositiveProvenance.insertionSort
        fun a b => a.1 ≤ b.1).map fun e => (e.1, sortedUnique (e.2.map sortedUnique)) } := by
  have hcopied := h.copied
  unfold validateAndCanonicalCopy at hcopied
  split_ifs at hcopied
  exact (Except.ok.inj hcopied).symm

/-- What one pass of the semantic matrix establishes. -/
theorem checkSemanticInvariants_ok (h : checkSemanticInvariants rk r = .ok ()) :
    r.requiredCombinationResult ∈ requiredAllowed r.evaluationState ∧
      (r.evaluationState = .NOT_APPLICABLE ↔ r.evaluationError ≠ none) ∧
      (r.isComposite = true → r.evaluationState = .MATCHED → r.severity? ≠ none) := by
  unfold checkSemanticInvariants at h
  split_ifs at h with h1 h2 h3 h4 h5
  refine ⟨h1, ⟨fun hstate herr => h2 ⟨hstate, by simp [herr]⟩, fun herr => ?_⟩,
    fun hk hm hnone => h5 ⟨hk, hm, hnone⟩⟩
  by_contra hstate
  exact h3 ⟨hstate, herr⟩

lemma Checked.state_eq (h : Checked rk r copy) : copy.evaluationState = r.evaluationState := by
  rw [h.copy_eq]
  rfl

lemma Checked.kind_eq (h : Checked rk r copy) : copy.kind = r.kind := by
  rw [h.copy_eq]
  rfl

lemma Checked.required_eq (h : Checked rk r copy) :
    copy.requiredCombinationResult = r.requiredCombinationResult := by
  rw [h.copy_eq]
  rfl

lemma Checked.severity_eq (h : Checked rk r copy) : copy.severity? = r.severity? := by
  rw [h.copy_eq]
  rfl

/-- A matched composite is always eligible: its pairing and its severity were checked. -/
theorem Checked.eligible (h : Checked rk r copy) (hk : r.kind = .COMPOSITE)
    (hm : r.evaluationState = .MATCHED) : copy.isEligibleMatched = true := by
  obtain ⟨hpair, -, hsev⟩ := checkSemanticInvariants_ok h.invariants
  have hcomposite : copy.isComposite = true := by simp [RuleResult.isComposite, h.kind_eq, hk]
  have hmatched : copy.evaluationState = .MATCHED := h.state_eq.trans hm
  have htrue : copy.requiredCombinationResult = .TRUE := by
    rw [hmatched] at hpair
    simpa [requiredAllowed] using hpair
  simp [RuleResult.isEligibleMatched, hcomposite, hmatched, htrue,
    Option.isSome_iff_ne_none.mpr (hsev hcomposite hmatched)]

/-- A rule that was not evaluated normally is always counted as degraded. -/
theorem Checked.isDegraded (h : Checked rk r copy) (hna : r.evaluationState = .NOT_APPLICABLE) :
    copy.isDegraded = true := by
  obtain ⟨-, herr, -⟩ := checkSemanticInvariants_ok h.invariants
  have hstate := h.state_eq.trans hna
  simp [RuleResult.isDegraded, hstate, Option.isSome_iff_ne_none.mpr (herr.mp hstate)]

/-- An undetermined composite that is not unresolved harm records no uncertainty at all. -/
theorem Checked.no_uncertainty (h : Checked rk r copy) (hk : r.kind = .COMPOSITE)
    (hi : r.evaluationState = .INDETERMINATE) (hno : copy.isUnresolvedHarmful = false) :
    r.ambiguities = [] ∧ r.unknowns = [] := by
  obtain ⟨hpair, -, -⟩ := checkSemanticInvariants_ok h.invariants
  have hstate := h.state_eq.trans hi
  have hunknown : copy.requiredCombinationResult = .UNKNOWN := by
    rw [hstate] at hpair
    simpa [requiredAllowed] using hpair
  have hamb : copy.ambiguities = sortedUnique r.ambiguities := by
    rw [h.copy_eq]
    rfl
  have hunk : copy.unknowns = sortedUnique r.unknowns := by
    rw [h.copy_eq]
    rfl
  simpa [RuleResult.isUnresolvedHarmful, RuleResult.isComposite, h.kind_eq, hk, hstate, hunknown,
    hamb, hunk] using hno

end Checked

/-- The only way to the reassuring classification. -/
theorem classify_eq_NO_SCAM_PATTERN {support : Support} {eligible : Bool}
    {results : List RuleResult} {confidence : Confidence} {degraded wholeError : Bool} :
    classify support eligible results confidence degraded wholeError = .NO_SCAM_PATTERN ↔
      wholeError = false ∧ (support = .SUPPORTED ∨ support = .PARTIALLY_SUPPORTED) ∧
        eligible = false ∧ degraded = false ∧
        results.any RuleResult.isUnresolvedHarmful = false ∧
        results.any RuleResult.isBenignClear = true := by
  unfold classify
  cases support <;> split_ifs <;> simp_all

/-- The two classifications of a decision in which a rule fires. -/
def IsScam (c : Classification) : Prop := c = .SCAM_PATTERN_SUSPECTED ∨ c = .SCAM_PATTERN_DETECTED

theorem isScam_classify {support : Support} {eligible : Bool} {results : List RuleResult}
    {confidence : Confidence} {degraded wholeError : Bool} :
    IsScam (classify support eligible results confidence degraded wholeError) ↔
      wholeError = false ∧ (support = .SUPPORTED ∨ support = .PARTIALLY_SUPPORTED) ∧
        eligible = true := by
  unfold classify IsScam
  cases support <;> split_ifs <;> simp_all

lemma Support.ofString?_eq_some {s : String} {support : Support} :
    Support.ofString? s = some support → s = match support with
      | .SUPPORTED => "SUPPORTED"
      | .PARTIALLY_SUPPORTED => "PARTIALLY_SUPPORTED"
      | .UNSUPPORTED => "UNSUPPORTED"
      | .INSUFFICIENT_INFORMATION => "INSUFFICIENT_INFORMATION"
      | .ERROR => "ERROR" := by
  unfold Support.ofString?
  split <;> rintro ⟨⟩ <;> rfl

/-- The candidates are the eligible results, each at its effective severity. -/
theorem mem_candidates {rs : List RuleResult} {cs : List Candidate} (h : candidates rk rs = .ok cs)
    (r : RuleResult) (severity : Severity) :
    (∃ c ∈ cs, c.result = r ∧ c.severity = severity) ↔
      r ∈ rs ∧ r.isEligibleMatched = true ∧ r.severity? = some severity := by
  induction rs generalizing cs with
  | nil =>
    cases h
    simp
  | cons head rest ih =>
    unfold candidates at h
    split at h
    · rename_i sev heligible hsev
      obtain ⟨strength, -, h⟩ := bind_ok h
      obtain ⟨more, hmore, h⟩ := bind_ok h
      cases h
      rw [List.exists_mem_cons_iff, ih hmore, List.mem_cons, or_and_right]
      apply or_congr_left
      constructor
      · rintro ⟨rfl, rfl⟩
        exact ⟨rfl, heligible, hsev⟩
      · rintro ⟨rfl, -, hsev'⟩
        exact ⟨rfl, Option.some.inj (hsev.symm.trans hsev')⟩
    · rename_i hno
      rw [ih h, List.mem_cons, or_and_right]
      refine (or_iff_right ?_).symm
      rintro ⟨rfl, heligible, hsev⟩
      exact hno severity heligible hsev

/-- The severities of the candidates are those of the matched composites. -/
theorem exists_candidate {finals results : List RuleResult} {cs : List Candidate}
    (hchecked : List.Forall₂ (Checked rk) finals results) (hcs : candidates rk results = .ok cs)
    (severity : Severity) : (∃ c ∈ cs, c.severity = severity) ↔
      ∃ final ∈ finals, final.kind = .COMPOSITE ∧ final.evaluationState = .MATCHED ∧
        final.severity? = some severity := by
  constructor
  · rintro ⟨c, hc, hsev⟩
    obtain ⟨hmem, heligible, hcsev⟩ :=
      (mem_candidates hcs c.result severity).mp ⟨c, hc, rfl, hsev⟩
    obtain ⟨final, hfinal, hcopy⟩ := exists_left_of_forall₂ hchecked hmem
    simp only [RuleResult.isEligibleMatched, RuleResult.isComposite, Bool.and_eq_true,
      beq_iff_eq] at heligible
    rw [hcopy.kind_eq, hcopy.state_eq] at heligible
    exact ⟨final, hfinal, heligible.1.1.1, heligible.1.1.2, hcopy.severity_eq.symm.trans hcsev⟩
  · rintro ⟨final, hfinal, hk, hm, hsev⟩
    obtain ⟨copy, hmem, hcopy⟩ := exists_right_of_forall₂ hchecked hfinal
    obtain ⟨c, hc, -, hcsev⟩ := (mem_candidates hcs copy severity).mpr
      ⟨hmem, hcopy.eligible hk hm, hcopy.severity_eq.trans hsev⟩
    exact ⟨c, hc, hcsev⟩

lemma candidates_eq_nil {rs : List RuleResult} (h : candidates rk rs = .ok []) :
    ∀ r ∈ rs, r.isEligibleMatched = false := by
  intro r hr
  by_contra heligible
  rw [Bool.not_eq_false] at heligible
  obtain ⟨severity, hsev⟩ : ∃ severity, r.severity? = some severity := by
    rw [← Option.isSome_iff_exists]
    simp only [RuleResult.isEligibleMatched, Bool.and_eq_true] at heligible
    exact heligible.2
  obtain ⟨c, hc, -⟩ := (mem_candidates h r severity).mpr ⟨hr, heligible, hsev⟩
  exact absurd hc List.not_mem_nil

lemma selectGoverning_eq_none {eligible : List Candidate} :
    selectGoverning eligible = none ↔ eligible = [] := by
  rw [selectGoverning, List.head?_eq_none_iff, ← List.length_eq_zero_iff,
    List.length_insertionSort, List.length_eq_zero_iff]

lemma mem_of_selectGoverning {eligible : List Candidate} {c : Candidate}
    (h : selectGoverning eligible = some c) : c ∈ eligible :=
  (List.mem_insertionSort _).mp (List.mem_of_head? h)

/-- Whether the input of a decision is evaluated at all. -/
def Evaluable (support : Support) (wholeErrors : List Json) : Prop :=
  wholeErrors = [] ∧ (support = .SUPPORTED ∨ support = .PARTIALLY_SUPPORTED)

/-- How a decision comes out of the checked results: no rule fires, or the eligible ones
do and carry the highest of their severities. -/
inductive Decided (rk : RuntimeKnowledge) (support : Support) (results : List RuleResult)
    (wholeErrors : List Json) (d : DecisionResult) : Prop where
  | blocked (no : ¬Evaluable support wholeErrors)
      (classification : d.classification = classify support false results .NOT_APPLICABLE
        (results.any RuleResult.isDegraded) (!wholeErrors.isEmpty))
      (severity : d.decisionSeverity = ⊥)
  | quiet (ok : Evaluable support wholeErrors) (none : candidates rk results = .ok [])
      (classification : d.classification = classify support false results .NOT_APPLICABLE
        (results.any RuleResult.isDegraded) false)
      (severity : d.decisionSeverity = ⊥)
  | fired (ok : Evaluable support wholeErrors) (eligible : List Candidate) (governing : Candidate)
      (confidence : Confidence) (some : candidates rk results = .ok eligible)
      (mem : governing ∈ eligible)
      (classification : d.classification = classify support true results confidence
        (results.any RuleResult.isDegraded) false)
      (severity : d.decisionSeverity =
        ((eligible.map Candidate.severity).foldl max governing.severity : Severity))

lemma foldl_max_le {base c : Severity} {severities : List Severity} :
    severities.foldl max base ≤ c ↔ base ≤ c ∧ ∀ x ∈ severities, x ≤ c := by
  induction severities generalizing base with
  | nil => simp
  | cons x rest ih => simp [ih, and_assoc]

lemma fire_ok {profile : EvaluationProfile} {support : Support} {results : List RuleResult}
    {eligible : List Candidate} {governing : Candidate} {degraded wholeError : Bool}
    {errors : List ErrorEntry} {d : DecisionResult}
    (h : fire rk profile support results eligible governing degraded wholeError errors = .ok d) :
    (∃ confidence,
      d.classification = classify support true results confidence degraded wholeError) ∧
      d.decisionSeverity =
        ((eligible.map Candidate.severity).foldl max governing.severity : Severity) := by
  simp only [fire] at h
  split at h
  · cases h
  · cases h
    exact ⟨⟨_, rfl⟩, rfl⟩

lemma aggregateChecked_ok {profile : EvaluationProfile} {support : Support}
    {wholeErrors : List Json} {results : List RuleResult} {d : DecisionResult}
    (h : aggregateChecked rk profile support wholeErrors results = .ok d) :
    Decided rk support results wholeErrors d := by
  simp only [aggregateChecked] at h
  split_ifs at h with hblocked
  · cases h
    refine .blocked ?_ rfl rfl
    rintro ⟨rfl, hsupport⟩
    rcases hblocked with hw | ⟨h1, h2⟩
    · cases hw
    · exact hsupport.elim h1 h2
  · push Not at hblocked
    obtain ⟨hw, hsupport⟩ := hblocked
    have hok : Evaluable support wholeErrors :=
      ⟨by simpa using hw, or_iff_not_imp_left.mpr hsupport⟩
    obtain ⟨eligible, heligible, h⟩ := bind_ok h
    have hfalse : (!wholeErrors.isEmpty) = false := by simp [hok.1]
    rw [hfalse] at h
    split at h
    · rename_i hnone
      cases h
      rw [selectGoverning_eq_none.mp hnone] at heligible
      exact .quiet hok heligible rfl rfl
    · rename_i governing hsome
      obtain ⟨⟨confidence, hclass⟩, hsev⟩ := fire_ok h
      exact .fired hok eligible governing confidence heligible (mem_of_selectGoverning hsome)
        hclass hsev

theorem aggregateDecision_ok {profile : EvaluationProfile} {rs : List RuleResult} {status : String}
    {wholeErrors : List Json} {d : DecisionResult}
    (h : aggregateDecision rk profile rs status wholeErrors = .ok d) :
    ∃ support results, Support.ofString? status = some support ∧
      materialise rk rs = .ok results ∧ Decided rk support results wholeErrors d := by
  unfold aggregateDecision at h
  split at h
  · cases h
  · rename_i support hsupport
    split_ifs at h
    obtain ⟨results, hresults, h⟩ := bind_ok h
    split at h
    · cases h
    · exact ⟨support, results, hsupport, hresults, aggregateChecked_ok h⟩

/-- A whole decision is the two evaluation stages and their aggregation. -/
lemma evaluateDecision_ok {profile : EvaluationProfile} {inds obs : List Json}
    {status language script : String} {wholeErrors : List Json} {d : DecisionResult}
    (h : evaluateDecision rk profile inds obs status language script wholeErrors = .ok d) :
    ∃ ctx wp3, buildValidatedContext inds obs language script = .ok ctx ∧
      Evaluator.evaluateRules rk profile.extractionConfidenceGate ctx = .ok wp3 ∧
      SuppressionExecutor.evaluateWithSuppression rk profile inds obs language script =
        .ok (SuppressionExecutor.applyAll rk wp3) ∧
      aggregateDecision rk profile (SuppressionExecutor.applyAll rk wp3) status wholeErrors =
        .ok d := by
  unfold evaluateDecision at h
  split at h
  · cases h
  · rename_i finals hfinals
    unfold SuppressionExecutor.evaluateWithSuppression at hfinals ⊢
    cases heval : Evaluator.evaluateRulesFromGoverned rk profile inds obs language script with
    | error e =>
      rw [heval] at hfinals
      cases hfinals
    | ok wp3 =>
      rw [heval] at hfinals
      cases hfinals
      obtain ⟨ctx, hctx, hrules⟩ := Evaluator.evaluateRulesFromGoverned_ok heval
      refine ⟨ctx, wp3, hctx, hrules, rfl, ?_⟩
      cases hagg : aggregateDecision rk profile (SuppressionExecutor.applyAll rk wp3) status
        wholeErrors with
      | error e =>
        rw [hagg] at h
        cases h
      | ok d' =>
        rw [hagg] at h
        cases h
        rfl

/-! ### Strengths -/

lemma WEAK_le_of_ofIndicator? {strength : Option String} {s : Strength}
    (h : Strength.ofIndicator? strength = some s) : Strength.WEAK ≤ s := by
  unfold Strength.ofIndicator? at h
  split at h <;> cases h <;> decide

lemma WEAK_le_of_strengths {ruleId : String} {ids : List String} {found : List Strength}
    (h : strengths rk ruleId ids = .ok found) : ∀ s ∈ found, Strength.WEAK ≤ s := by
  induction ids generalizing found with
  | nil =>
    cases h
    simp
  | cons id rest ih =>
    unfold strengths at h
    split at h
    · cases h
    · split at h
      · cases h
      · rename_i s hs
        obtain ⟨more, hmore, h⟩ := bind_ok h
        cases h
        exact List.forall_mem_cons.mpr ⟨WEAK_le_of_ofIndicator? hs, ih hmore⟩

/-- The strength of an eligible rule is never NONE. -/
lemma ruleEvidenceStrength_ne_NONE {r : RuleResult} {s : Strength}
    (h : ruleEvidenceStrength rk r = .ok s) : s ≠ .NONE := by
  obtain ⟨found, hfound, h⟩ := bind_ok h
  have hcap : Strength.WEAK ≤ (r.verdict?.map EvidenceVerdict.strengthCap).getD .WEAK := by
    cases r.verdict? with
    | none => decide
    | some v => cases v <;> decide
  have hmax : Strength.WEAK ≤ found.max?.getD .WEAK := by
    cases hm : found.max? with
    | none => decide
    | some m => exact WEAK_le_of_strengths hfound m (List.max?_mem hm)
  have hcomposite := le_min hmax hcap
  have hle : Strength.WEAK ≤ s := by
    rw [← Except.ok.inj h]
    split_ifs
    · exact hcomposite.trans (le_max_left _ _)
    · exact hcomposite
  rintro rfl
  exact absurd hle (by decide)

end Aggregation
end TrustLens.Runtime
