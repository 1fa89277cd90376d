import TrustLens.Runtime.DecisionSpec
import TrustLens.Runtime.TrustBoundary

/-!
# What the trust boundary lets through

Genuine decisions pass it, and whatever passes agrees with its own rule results and with
the governed knowledge.
-/

namespace TrustLens.Runtime

open Aggregation (DecidedResult DecisionResult ErrorEntry Candidate Checked checkSemanticInvariants)

namespace Explanation

variable {render : ErrorMessage → String} {rk : RuntimeKnowledge} {live : Bool}
variable {d : SuppliedDecision}

/-! ### The checks, one by one -/

lemma checkAxis_ok_iff {axis : String × String × List String} :
    checkAxis axis = .ok () ↔ axis.2.1 ∈ axis.2.2 := by
  unfold checkAxis
  split_ifs with h <;> simp [h]

/-- What the pass over the rule results requires of each of them. -/
structure Sound (rk : RuntimeKnowledge) (r : DecidedResult) : Prop where
  conforms : resultConforms r = true
  invariants : checkSemanticInvariants rk r.result = .ok ()
  resolves : ∃ rule, rk.rule r.result.ruleId = some rule

lemma checkResults_ok_iff {seen : List String} {rs : List DecidedResult} :
    checkResults rk seen rs = .ok () ↔ (∀ r ∈ rs, Sound rk r) ∧
      (rs.map (·.result.ruleId)).Nodup ∧ ∀ r ∈ rs, r.result.ruleId ∉ seen := by
  induction rs generalizing seen with
  | nil => simp [checkResults]
  | cons r rest ih =>
    have hstep : checkResults rk seen (r :: rest) = .ok () ↔ Sound rk r ∧
        r.result.ruleId ∉ seen ∧ checkResults rk (r.result.ruleId :: seen) rest = .ok () := by
      rw [checkResults]
      by_cases hconforms : resultConforms r = true
      · rw [if_neg (by simp [hconforms])]
        cases hinv : checkSemanticInvariants rk r.result with
        | error e =>
          refine iff_of_false nofun ?_
          rintro ⟨h, -⟩
          cases hinv.symm.trans h.invariants
        | ok =>
          cases hrule : rk.rule r.result.ruleId with
          | none =>
            rw [if_pos rfl]
            refine iff_of_false nofun ?_
            rintro ⟨h, -⟩
            obtain ⟨rule, h⟩ := h.resolves
            cases hrule.symm.trans h
          | some rule =>
            rw [if_neg nofun]
            have hsound : Sound rk r := ⟨hconforms, hinv, rule, hrule⟩
            split_ifs with hseen <;> simp [hsound, hseen]
      · rw [if_pos (by simpa using hconforms)]
        exact iff_of_false nofun fun h => hconforms h.1.conforms
    rw [hstep, ih]
    rw [List.forall_mem_cons, List.forall_mem_cons, List.map_cons, List.nodup_cons]
    simp only [List.mem_map, List.mem_cons, not_or, not_exists, not_and]
    constructor
    · rintro ⟨hr, hnew, hrest, hnodup, hdisjoint⟩
      exact ⟨⟨hr, hrest⟩, ⟨fun x hx => (hdisjoint x hx).1, hnodup⟩, hnew, fun x hx => (hdisjoint x hx).2⟩
    · rintro ⟨⟨hr, hrest⟩, ⟨hne, hnodup⟩, hnew, hdisjoint⟩
      exact ⟨hr, hnew, hrest, hnodup, fun x hx => ⟨hne x hx, hdisjoint x hx⟩⟩

lemma checkRollup_ok_iff {rollup : String × List String × List String} :
    checkRollup rollup = .ok () ↔
      rollup.2.1.Nodup ∧ rollup.2.1.insertionSort (· ≤ ·) = rollup.2.2 := by
  unfold checkRollup
  split_ifs with h1 h2 <;> simp_all

lemma validateRollups_ok_iff : validateRollups render d = .ok () ↔
    (∀ c ∈ rollupChecks d, checkRollup c = .ok ()) ∧
      d.degraded = d.results.any RuleResult.isDegraded ∧
      d.errors.all Aggregation.wholeErrorSchema = true ∧
      (actualSingle d).Perm ((ruleErrors d.results).map fun e => canonicalError (e.toJson render)) := by
  unfold validateRollups
  rw [bind_unit_ok_iff, forM_ok_iff]
  refine and_congr_right fun _ => ?_
  rw [← List.isPerm_iff]
  split_ifs with h1 h2 h3 <;> simp_all

lemma validateClassification_ok_iff :
    validateClassification d = .ok () ↔ ∀ c ∈ classificationChecks d, c.1 = false := by
  unfold validateClassification
  split
  · rename_i check hfind
    refine iff_of_false nofun fun h => ?_
    have hfalse := h check (List.mem_of_find?_eq_some hfind)
    rw [List.find?_some hfind] at hfalse
    cases hfalse
  · rename_i hfind
    simpa using hfind

lemma checkContributing_ok_iff {id : String} :
    checkContributing rk live id = .ok () ↔ ∃ rule, ruleOf rk live id = some rule := by
  unfold checkContributing
  rw [← Option.isSome_iff_exists]
  split_ifs with h1 h2 <;> simp [h1]

lemma checkOverride_ok_iff {id : String} :
    checkOverride rk id = .ok () ↔ ∃ o, rk.override id = some o := by
  unfold checkOverride
  rw [← Option.isSome_iff_exists]
  split_ifs with h <;> simp [h]

lemma checkSources_ok_iff {r : RuleResult} : checkSources rk live r = .ok () ↔
    r.sourceReferences.Perm (authoritativeSourceRefs (ruleOf rk live r.ruleId)) := by
  unfold checkSources
  rw [← List.isPerm_iff]
  split_ifs with h <;> simp [h]

/-- Everything a decision that passes the boundary satisfies. -/
structure Accepted (render : ErrorMessage → String) (rk : RuntimeKnowledge) (live : Bool)
    (d : SuppliedDecision) : Prop where
  policy : rk.hasActionPolicy = true
  axes : ∀ axis ∈ axisChecks d, axis.2.1 ∈ axis.2.2
  results : ∀ r ∈ d.ruleResults, Sound rk r
  distinct : (d.ruleResults.map (·.result.ruleId)).Nodup
  rollups : ∀ c ∈ rollupChecks d, c.2.1.Nodup ∧ c.2.1.insertionSort (· ≤ ·) = c.2.2
  degraded : d.degraded = d.results.any RuleResult.isDegraded
  errors : ∀ e ∈ d.errors, Aggregation.wholeErrorSchema e = true
  single : (actualSingle d).Perm
    ((ruleErrors d.results).map fun e => canonicalError (e.toJson render))
  classification : ∀ c ∈ classificationChecks d, c.1 = false
  contributing : ∀ id ∈ contributingRuleIds d, ∃ rule, ruleOf rk live id = some rule
  overrides : ∀ id ∈ d.activeOverrides, ∃ o, rk.override id = some o
  sources : ∀ r ∈ d.eligible,
    r.sourceReferences.Perm (authoritativeSourceRefs (ruleOf rk live r.ruleId))

theorem validateInput_ok_iff : validateInput render rk live d = .ok () ↔ Accepted render rk live d := by
  unfold validateInput
  simp only [bind_unit_ok_iff, forM_ok_iff, checkAxis_ok_iff, checkResults_ok_iff,
    validateRollups_ok_iff, checkRollup_ok_iff, validateClassification_ok_iff,
    checkContributing_ok_iff, checkOverride_ok_iff, checkSources_ok_iff, List.not_mem_nil,
    not_false_eq_true, implies_true, and_true, List.all_eq_true]
  have hpolicy : checkPolicy rk = .ok () ↔ rk.hasActionPolicy = true := by
    unfold checkPolicy
    split_ifs with h <;> simp [h]
  rw [hpolicy]
  constructor
  · rintro ⟨h1, h2, ⟨h3, h4⟩, ⟨h5, h6, h7, h8⟩, h9, h10, h11, h12⟩
    exact ⟨h1, h2, h3, h4, h5, h6, h7, h8, h9, h10, h11, h12⟩
  · rintro ⟨h1, h2, h3, h4, h5, h6, h7, h8, h9, h10, h11, h12⟩
    exact ⟨h1, h2, ⟨h3, h4⟩, ⟨h5, h6, h7, h8⟩, h9, h10, h11, h12⟩

/-! ### Accepted decisions -/

/-- Agreement of a supplied decision with an assembled one on everything that is derived from the
rule results; the order within a rollup is free. -/
structure Derived (render : ErrorMessage → String) (d : SuppliedDecision) (a : DecisionResult) :
    Prop where
  matchedRules : d.matchedRules.Perm a.matchedRules
  matchedPositive : d.matchedPositiveIndicators.Perm a.matchedPositiveIndicators
  matchedNegative : d.matchedNegativeIndicators.Perm a.matchedNegativeIndicators
  suppressed : d.suppressedIndicators.Perm a.suppressedIndicators
  overrides : d.activeOverrides.Perm a.activeOverrides
  ambiguities : d.ambiguities.Perm a.ambiguities
  unknowns : d.unknowns.Perm a.unknowns
  degraded : d.degraded = a.degraded
  single : (actualSingle d).Perm (actualSingle (a.supply render))

lemma perm_of_insertionSort_eq {xs ys : List String} (h : xs.insertionSort (· ≤ ·) = ys) :
    xs.Perm ys :=
  h ▸ (List.perm_insertionSort _ xs).symm

/-- The errors of rules all have the scope of one rule. -/
lemma actualSingle_of_ruleErrors (errors : List ErrorEntry)
    (h : ∀ e ∈ errors, ∃ id error, e = .rule id error) :
    ((errors.map (ErrorEntry.toJson render)).filter fun e =>
        e.get "scope" == .str "SINGLE_RULE").map canonicalError =
      errors.map fun e => canonicalError (e.toJson render) := by
  rw [List.filter_eq_self.mpr, List.map_map]
  · rfl
  · intro e he
    obtain ⟨entry, hentry, rfl⟩ := List.mem_map.mp he
    obtain ⟨id, error, rfl⟩ := h entry hentry
    exact beq_self_eq_true _

lemma mem_ruleErrors {results : List RuleResult} {e : ErrorEntry} (h : e ∈ ruleErrors results) :
    ∃ r ∈ results, ∃ error, r.evaluationError = some error ∧ e = .rule r.ruleId error := by
  obtain ⟨r, hr, he⟩ := List.mem_filterMap.mp h
  split_ifs at he
  obtain ⟨error, herror, rfl⟩ := Option.map_eq_some_iff.mp he
  exact ⟨r, hr, error, herror, rfl⟩

/-- An accepted decision has exactly the rollups and errors the aggregation assembles from its rule
results, whatever the axes the aggregation is given. -/
theorem Accepted.derived (h : Accepted render rk live d) (support : Support)
    (axes : Aggregation.Axes) (profile : EvaluationProfile) {candidates : List Candidate}
    (hcandidates : candidates.map Candidate.result = d.eligible) :
    Derived render d (Aggregation.assemble support axes candidates d.ruleResults
      (d.results.any RuleResult.isDegraded) (ruleErrors d.results) profile) := by
  have hrollup := fun c hc => perm_of_insertionSort_eq (h.rollups c hc).2
  have hids : candidates.map (·.result.ruleId) = d.eligible.map RuleResult.ruleId := by
    rw [← hcandidates, List.map_map]
    rfl
  have hpositive : candidates.flatMap (·.result.matchedPositiveIndicators) =
      d.eligible.flatMap RuleResult.matchedPositiveIndicators := by
    rw [← hcandidates, List.flatMap_map]
  simp only [rollupChecks, List.forall_mem_cons] at hrollup
  obtain ⟨h1, h2, h3, h4, h5, h6, h7, -⟩ := hrollup
  refine ⟨?_, ?_, h3, h4, h5, h6, h7, h.degraded, ?_⟩
  · rw [← hids] at h1
    exact h1
  · rw [← hpositive] at h2
    exact h2
  · refine h.single.trans ?_
    rw [actualSingle]
    show List.Perm _ (((List.map (ErrorEntry.toJson render) ((ruleErrors d.results).insertionSort
      _)).filter fun e => e.get "scope" == .str "SINGLE_RULE").map canonicalError)
    rw [actualSingle_of_ruleErrors]
    · exact (List.perm_insertionSort _ _).symm.map _
    · intro e he
      obtain ⟨r, -, error, -, rfl⟩ := mem_ruleErrors ((List.mem_insertionSort _).mp he)
      exact ⟨_, _, rfl⟩

/-- Every rule whose finding or action is shown is a published one. -/
theorem Accepted.published (h : Accepted render rk true d) {id : String}
    (hid : id ∈ contributingRuleIds d) :
    ∃ rule, rk.rule id = some rule ∧ RuntimeKnowledge.isPublished rule = true := by
  obtain ⟨rule, hrule⟩ := h.contributing id hid
  obtain ⟨hrule, hpublished⟩ := Option.filter_eq_some_iff.mp hrule
  exact ⟨rule, hrule, hpublished⟩

lemma Accepted.mem_matchedRules (h : Accepted render rk live d) {r : RuleResult}
    (hr : r ∈ d.eligible) : r.ruleId ∈ d.matchedRules := by
  have hrollup := (h.rollups _ List.mem_cons_self).2
  rw [← List.mem_insertionSort (· ≤ ·), hrollup, mem_sortedUnique]
  exact List.mem_map_of_mem hr

lemma Accepted.mem_contributing (h : Accepted render rk live d) {r : RuleResult}
    (hr : r ∈ d.eligible) : r.ruleId ∈ contributingRuleIds d := by
  rw [contributingRuleIds, mem_sortedUnique]
  exact List.mem_append_left _ (List.mem_append_left _ (h.mem_matchedRules hr))

/-- The sources of every eligible result are those its published rule governs. -/
theorem Accepted.governedSources (h : Accepted render rk true d) {r : RuleResult}
    (hr : r ∈ d.eligible) : ∃ rule, rk.rule r.ruleId = some rule ∧
      RuntimeKnowledge.isPublished rule = true ∧
      r.sourceReferences.Perm (authoritativeSourceRefs (some rule)) := by
  obtain ⟨rule, hrule, hpublished⟩ := h.published (h.mem_contributing hr)
  refine ⟨rule, hrule, hpublished, ?_⟩
  have hsources := h.sources r hr
  rwa [ruleOf, if_pos rfl, RuntimeKnowledge.publishedRule, hrule, Option.filter_some,
    if_pos hpublished] at hsources

/-! ### Which classifications are possible -/

/-- Some results bring the aggregation to this classification, given the support status, the
confidence, whether an eligible rule is there and whether the whole evaluation failed; and the
other axes are there exactly when a rule fires. -/
def Possible (d : SuppliedDecision) : Prop :=
  ∃ (support : Support) (confidence : Confidence) (results : List RuleResult) (degraded : Bool),
    d.inputSupportStatus = support.name ∧ d.detectionConfidence = confidence.name ∧
      d.classification = (Aggregation.classify support (!d.eligible.isEmpty) results confidence
        degraded d.hasWholeError).name ∧
      if isScamClass d.classification then
        d.decisionSeverity ≠ "NONE" ∧ d.matchedEvidenceStrength ≠ "NONE" ∧ d.riskLevel ≠ "NONE" ∧
          d.detectionConfidence ≠ "NOT_APPLICABLE"
      else axesPresent d = false

lemma Accepted.exists_support (h : Accepted render rk live d) :
    ∃ support : Support, d.inputSupportStatus = support.name := by
  have haxis := h.axes _ List.mem_cons_self
  simp only [List.mem_cons, List.not_mem_nil, or_false] at haxis
  rcases haxis with hs | hs | hs | hs | hs
  · exact ⟨.SUPPORTED, hs⟩
  · exact ⟨.PARTIALLY_SUPPORTED, hs⟩
  · exact ⟨.UNSUPPORTED, hs⟩
  · exact ⟨.INSUFFICIENT_INFORMATION, hs⟩
  · exact ⟨.ERROR, hs⟩

lemma Accepted.exists_confidence (h : Accepted render rk live d) :
    ∃ confidence : Confidence, d.detectionConfidence = confidence.name := by
  have haxis := h.axes ("detection_confidence", d.detectionConfidence,
    ["NOT_APPLICABLE", "LOW", "MEDIUM", "HIGH"]) (by simp [axisChecks])
  simp only [List.mem_cons, List.not_mem_nil, or_false] at haxis
  rcases haxis with hc | hc | hc | hc
  · exact ⟨.NOT_APPLICABLE, hc⟩
  · exact ⟨.LOW, hc⟩
  · exact ⟨.MEDIUM, hc⟩
  · exact ⟨.HIGH, hc⟩

lemma Accepted.exists_classification (h : Accepted render rk live d) :
    ∃ c : Classification, d.classification = c.name := by
  have haxis := h.axes ("classification", d.classification, ["NO_SCAM_PATTERN",
    "INSUFFICIENT_EVIDENCE", "SCAM_PATTERN_SUSPECTED", "SCAM_PATTERN_DETECTED", "UNSUPPORTED",
    "ERROR"]) (by simp [axisChecks])
  simp only [List.mem_cons, List.not_mem_nil, or_false] at haxis
  rcases haxis with hc | hc | hc | hc | hc | hc
  · exact ⟨.NO_SCAM_PATTERN, hc⟩
  · exact ⟨.INSUFFICIENT_EVIDENCE, hc⟩
  · exact ⟨.SCAM_PATTERN_SUSPECTED, hc⟩
  · exact ⟨.SCAM_PATTERN_DETECTED, hc⟩
  · exact ⟨.UNSUPPORTED, hc⟩
  · exact ⟨.ERROR, hc⟩

lemma name_injective {c c' : Classification} (h : c.name = c'.name) : c = c' := by
  cases c <;> cases c' <;> first | rfl | exact absurd h (by decide)

/-- A result that clears its rule. -/
def clearedResult : RuleResult where
  ruleId := ""
  ruleVersion := ""
  kind := .COMPOSITE
  evaluationState := .NOT_MATCHED
  requiredCombinationResult := .FALSE

/-- An accepted classification is a possible one, except that an open conclusion is accepted with
a support status that never leads to it. -/
theorem Accepted.possible_iff (h : Accepted render rk live d) :
    Possible d ↔ ¬(d.classification = "INSUFFICIENT_EVIDENCE" ∧
      (d.inputSupportStatus = "UNSUPPORTED" ∨ d.inputSupportStatus = "ERROR")) := by
  obtain ⟨support, hsupport⟩ := h.exists_support
  obtain ⟨confidence, hconfidence⟩ := h.exists_confidence
  obtain ⟨c, hc⟩ := h.exists_classification
  have hchecks := h.classification
  constructor
  · rintro ⟨support', confidence', results, degraded, hs, -, hclass, -⟩ ⟨hi, hbad⟩
    rw [hi] at hclass
    have hclassify := name_injective (c := .INSUFFICIENT_EVIDENCE) hclass
    have hbad' : support' = .UNSUPPORTED ∨ support' = .ERROR := by
      rw [hs] at hbad
      revert hbad
      cases support' <;> decide
    rcases hbad' with rfl | rfl
    · cases hw : d.hasWholeError <;> rw [hw] at hclassify <;> cases hclassify
    · simp [Aggregation.classify] at hclassify
  · intro hgood
    rw [classificationChecks, List.forall_mem_cons] at hchecks
    obtain ⟨hwhole, hchecks⟩ := hchecks
    unfold Possible
    rw [hc] at hwhole hchecks hgood ⊢
    rw [hsupport] at hchecks hgood ⊢
    cases c with
    | NO_SCAM_PATTERN =>
      have hw : d.hasWholeError = false := by simpa [Classification.name] using hwhole
      simp [isScamClass, Classification.name, evaluableSupport] at hchecks
      obtain ⟨hev, -, hnone, haxes⟩ := hchecks
      refine ⟨support, confidence, [clearedResult], false, rfl, hconfidence, ?_, haxes⟩
      rw [hw, hnone]
      revert hev
      cases support <;> cases confidence <;> decide
    | INSUFFICIENT_EVIDENCE =>
      have hw : d.hasWholeError = false := by simpa [Classification.name] using hwhole
      simp [isScamClass, Classification.name] at hchecks
      obtain ⟨-, hnone, haxes⟩ := hchecks
      refine ⟨support, confidence, [], false, rfl, hconfidence, ?_, haxes⟩
      rw [hw, hnone]
      revert hgood
      cases support <;> cases confidence <;> decide
    | SCAM_PATTERN_SUSPECTED =>
      have hw : d.hasWholeError = false := by simpa [Classification.name] using hwhole
      simp [isScamClass, Classification.name, evaluableSupport] at hchecks
      obtain ⟨hev, -, -, hsome, -, -, ⟨⟨hsev, hstrength⟩, hrisk⟩, hconf, hlow⟩ := hchecks
      refine ⟨support, confidence, [], false, rfl, hconfidence, ?_, hsev, hstrength, hrisk, hconf⟩
      have hfires : (!d.eligible.isEmpty) = true := by simpa using hsome
      rw [hw, hfires]
      rw [hconfidence] at hlow
      revert hev hlow
      cases support <;> cases confidence <;> decide
    | SCAM_PATTERN_DETECTED =>
      have hw : d.hasWholeError = false := by simpa [Classification.name] using hwhole
      simp [isScamClass, Classification.name, evaluableSupport] at hchecks
      obtain ⟨hev, -, -, hsome, -, -, ⟨⟨hsev, hstrength⟩, hrisk⟩, hconf, hlow⟩ := hchecks
      refine ⟨support, confidence, [], false, rfl, hconfidence, ?_, hsev, hstrength, hrisk, hconf⟩
      have hfires : (!d.eligible.isEmpty) = true := by simpa using hsome
      rw [hw, hfires]
      rw [hconfidence] at hlow
      revert hev hlow
      cases support <;> cases confidence <;> decide
    | UNSUPPORTED =>
      have hw : d.hasWholeError = false := by simpa [Classification.name] using hwhole
      simp [isScamClass, Classification.name] at hchecks
      obtain ⟨hs, ⟨-, hnone⟩, haxes⟩ := hchecks
      refine ⟨support, confidence, [], false, rfl, hconfidence, ?_, haxes⟩
      rw [hw, hnone]
      revert hs
      cases support <;> cases confidence <;> decide
    | ERROR =>
      simp [isScamClass, Classification.name] at hchecks
      obtain ⟨hs, ⟨-, hnone⟩, haxes⟩ := hchecks
      refine ⟨support, confidence, [], false, rfl, hconfidence, ?_, haxes⟩
      rw [hnone]
      revert hs
      cases d.hasWholeError <;> cases support <;> cases confidence <;> decide

end Explanation
end TrustLens.Runtime
