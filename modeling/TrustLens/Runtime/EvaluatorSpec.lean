import TrustLens.Lib.Except
import TrustLens.Runtime.Evaluator

/-!
# What the evaluator computes

One lemma for each operation of the evaluator, so that later proofs do not unfold
it: when an occurrence makes an indicator TRUE, what a successful evaluation of a
rule consists of, and which results a whole evaluation returns.
-/

namespace TrustLens.Runtime.Evaluator

open Condition (evalCondition operands)

section Truth

variable {rk : RuntimeKnowledge} {gate : Level} {ctx : Context}

/-- No suppressor touches the occurrence: each has refs, and none of them is shared. -/
def Untouched (suppressors : List IndicatorObservation) (io : IndicatorObservation) : Prop :=
  ∀ s ∈ suppressors, s.observationRefs ≠ [] ∧ ∀ ref ∈ io.observationRefs, ref ∉ s.observationRefs

lemma untouched_congr {suppressors suppressors' : List IndicatorObservation}
    (h : ∀ s, s ∈ suppressors' ↔ s ∈ suppressors) (io : IndicatorObservation) :
    Untouched suppressors' io ↔ Untouched suppressors io :=
  forall_congr' fun s => by rw [h s]

/-- The occurrence alone makes its positive indicator TRUE. -/
def Fires (gate : Level) (ctx : Context) (suppressors : List IndicatorObservation)
    (io : IndicatorObservation) : Prop :=
  (io.polarity = none ∨ io.polarity = some .POSITIVE) ∧
    (gateSingle gate io.matched io.confidence).1 = .TRUE ∧
    ctx.verdict io = .LIVE ∧ Untouched suppressors io

lemma refs_ne_nil_of_live {io : IndicatorObservation} (h : ctx.verdict io = .LIVE) :
    io.observationRefs ≠ [] := by
  intro hnil
  rw [Context.verdict, structuralVerdict, if_pos hnil] at h
  exact absurd h (by decide)

lemma suppressionAssociation_eq_free {io : IndicatorObservation} (hio : io.observationRefs ≠ [])
    (unresolved : Bool) (suppressors : List IndicatorObservation) :
    suppressionAssociation io unresolved suppressors = (false, false) ↔
      unresolved = false ∧ Untouched suppressors io := by
  induction suppressors generalizing unresolved with
  | nil => simp [suppressionAssociation, Untouched]
  | cons s rest ih =>
    simp only [suppressionAssociation, Untouched, List.forall_mem_cons]
    by_cases hs : s.observationRefs = []
    · rw [if_pos (Or.inr hs), ih]
      simp [hs]
    · rw [if_neg (by simp [hio, hs])]
      split_ifs with hshare
      · obtain ⟨ref, href, hmem⟩ := hshare
        constructor
        · intro h
          cases h
        · rintro ⟨-, ⟨-, hdisj⟩, -⟩
          exact absurd hmem (hdisj ref href)
      · push Not at hshare
        rw [ih]
        simp only [Untouched]
        exact and_congr_right fun _ => ⟨fun h => ⟨⟨hs, hshare⟩, h⟩, fun h => h.2⟩

lemma structuralRead_value {io : IndicatorObservation} :
    (structuralRead gate ctx io).value = .TRUE ↔
      (gateSingle gate io.matched io.confidence).1 = .TRUE ∧ ctx.verdict io = .LIVE := by
  unfold structuralRead
  cases ctx.verdict io with
  | LIVE => simp
  | NON_LIVE => simp
  | UNRESOLVED =>
    simp only [reduceCtorEq, and_false, iff_false]
    split_ifs <;> simp

/-- An occurrence reads TRUE exactly when it fires. -/
theorem positiveRead_value {suppressors : List IndicatorObservation} {io : IndicatorObservation} :
    (positiveRead gate ctx suppressors io).value = .TRUE ↔ Fires gate ctx suppressors io := by
  unfold positiveRead Fires
  by_cases hp : io.polarity ≠ none ∧ io.polarity ≠ some .POSITIVE
  · rw [if_pos hp]
    simp only [reduceCtorEq, false_iff]
    rintro ⟨hor, -⟩
    exact hor.elim hp.1 hp.2
  · have hpol : io.polarity = none ∨ io.polarity = some .POSITIVE := by tauto
    rw [if_neg hp]
    simp only [hpol, true_and]
    by_cases hread : (structuralRead gate ctx io).value = .TRUE
    · obtain ⟨hg, hv⟩ := structuralRead_value.mp hread
      have hassoc := suppressionAssociation_eq_free (refs_ne_nil_of_live hv) false suppressors
      by_cases hsup : suppressors = []
      · subst hsup
        simp [hread, hg, hv, Untouched]
      · rw [if_pos ⟨by simp [hread], hsup⟩]
        simp only [hg, hv, true_and] at hassoc ⊢
        rw [← hassoc]
        split <;> simp_all
    · have hno : ¬((gateSingle gate io.matched io.confidence).1 = .TRUE ∧
          ctx.verdict io = .LIVE ∧ Untouched suppressors io) :=
        fun h => hread (structuralRead_value.mpr ⟨h.1, h.2.1⟩)
      simp only [hno, iff_false]
      split_ifs
      · split <;> simp_all
      · exact hread

/-- A positive indicator is TRUE exactly when one of its occurrences fires. -/
theorem combinePositive_value {id : String} {suppressors : List IndicatorObservation} :
    (combinePositive gate ctx id suppressors).value = .TRUE ↔
      ∃ io ∈ ctx.observationsFor id, Fires gate ctx suppressors io := by
  simp only [combinePositive, Truth.any_eq_TRUE, List.map_map, List.mem_map, Function.comp,
    positiveRead_value]

lemma mem_groups {id : String} {suppressors : List IndicatorObservation} {group : List String} :
    group ∈ (combinePositive gate ctx id suppressors).groups ↔
      ∃ io ∈ ctx.observationsFor id, Fires gate ctx suppressors io ∧
        sortedUnique io.observationRefs = group := by
  simp only [combinePositive, mem_sortedUnique, List.mem_filterMap, liveGroup]
  refine exists_congr fun io => and_congr_right fun _ => ?_
  constructor
  · intro h
    split_ifs at h with hf
    exact ⟨positiveRead_value.mp hf.1, Option.some.inj h⟩
  · rintro ⟨hf, heq⟩
    rw [if_pos ⟨positiveRead_value.mpr hf, refs_ne_nil_of_live hf.2.2.1⟩, heq]

/-- The provenance of an indicator is empty exactly when it is not TRUE. -/
lemma groups_ne_nil {id : String} {suppressors : List IndicatorObservation} :
    (combinePositive gate ctx id suppressors).groups ≠ [] ↔
      (combinePositive gate ctx id suppressors).value = .TRUE := by
  rw [combinePositive_value]
  constructor
  · intro h
    obtain ⟨group, hg⟩ := List.exists_mem_of_ne_nil _ h
    obtain ⟨io, hio, hf, -⟩ := mem_groups.mp hg
    exact ⟨io, hio, hf⟩
  · rintro ⟨io, hio, hf⟩
    exact List.ne_nil_of_mem (mem_groups.mpr ⟨io, hio, hf, rfl⟩)

theorem truthOf_rawPositive {id : String} :
    truthOf (rawPositive rk gate ctx) id = .TRUE ↔
      rk.isPositive id = true ∧ ∃ io ∈ ctx.observationsFor id, Fires gate ctx [] io := by
  unfold truthOf rawPositive
  by_cases h : rk.isPositive id = true ∧ ctx.observationsFor id ≠ []
  · rw [if_pos h]
    simp only [combinePositive_value, h.1, true_and]
  · simp only [if_neg h, reduceCtorEq, false_iff]
    rintro ⟨hp, io, hio, -⟩
    exact h ⟨hp, List.ne_nil_of_mem hio⟩

theorem truthOf_suppressedPositive {id : String} {categories : List String}
    {overrides : List Override} :
    truthOf (suppressedPositive rk gate ctx categories overrides) id = .TRUE ↔
      rk.isPositive id = true ∧ ∃ io ∈ ctx.observationsFor id,
        Fires gate ctx (suppressorsFor rk gate ctx categories overrides id) io := by
  unfold truthOf suppressedPositive rawPositive
  by_cases h : rk.isPositive id = true ∧ ctx.observationsFor id ≠ []
  · rw [if_pos h]
    simp only [Option.map_some, combinePositive_value, h.1, true_and]
  · simp only [if_neg h, Option.map_none, reduceCtorEq, false_iff]
    rintro ⟨hp, io, hio, -⟩
    exact h ⟨hp, List.ne_nil_of_mem hio⟩

lemma mem_activeOccurrences {id : String} {io : IndicatorObservation} :
    io ∈ activeOccurrences gate ctx id ↔ io ∈ ctx.observationsFor id ∧
      (io.polarity = none ∨ io.polarity = some .NEGATIVE) ∧
        (gateSingle gate io.matched io.confidence).1 = .TRUE := by
  simp [activeOccurrences]

/-- A negative indicator is TRUE exactly when it has an active occurrence. -/
theorem negativeTruth_eq_TRUE {id : String} :
    negativeTruth rk gate ctx id = .TRUE ↔
      rk.isNegative id = true ∧ ∃ io, io ∈ activeOccurrences gate ctx id := by
  have hread : ∀ io, (negativeRead gate io).1 = .TRUE ↔
      (io.polarity = none ∨ io.polarity = some .NEGATIVE) ∧
        (gateSingle gate io.matched io.confidence).1 = .TRUE := by
    intro io
    unfold negativeRead
    split_ifs with hp
    · simp only [false_iff]
      rintro ⟨hor, -⟩
      exact hor.elim hp.1 hp.2
    · have hpol : io.polarity = none ∨ io.polarity = some .NEGATIVE := by tauto
      simp [hpol]
  have hvalue : (combineNegative gate ctx id).1 = .TRUE ↔
      ∃ io, io ∈ activeOccurrences gate ctx id := by
    have hany : Truth.any (((ctx.observationsFor id).map (negativeRead gate)).map Prod.fst) = .TRUE ↔
        ∃ io ∈ ctx.observationsFor id, (negativeRead gate io).1 = .TRUE := by
      simp only [Truth.any_eq_TRUE, List.map_map, List.mem_map, Function.comp]
    simp only [mem_activeOccurrences, ← hread]
    rw [← hany]
    simp only [combineNegative]
    cases Truth.any (((ctx.observationsFor id).map (negativeRead gate)).map Prod.fst) <;> simp
  unfold negativeTruth negativeEntry
  by_cases h : rk.isNegative id = true ∧ ctx.observationsFor id ≠ []
  · rw [if_pos h]
    simp only [h.1, true_and, hvalue]
  · simp only [if_neg h, reduceCtorEq, false_iff]
    rintro ⟨hn, io, hio⟩
    exact h ⟨hn, List.ne_nil_of_mem (mem_activeOccurrences.mp hio).1⟩

lemma mem_activeNegatives {id : String} :
    id ∈ activeNegatives rk gate ctx ↔ negativeTruth rk gate ctx id = .TRUE := by
  rw [activeNegatives, List.mem_filter, Context.mem_presentIndicatorIds, negativeTruth]
  cases hentry : negativeEntry rk gate ctx id with
  | none => simp
  | some entry =>
    have hpresent : ctx.observationsFor id ≠ [] := by
      unfold negativeEntry at hentry
      split_ifs at hentry with h
      exact h.2
    simp [hpresent]

/-- The active negatives depend only on which negatives are TRUE. -/
lemma activeNegatives_congr {ctx' : Context}
    (h : ∀ id, negativeTruth rk gate ctx' id = .TRUE ↔ negativeTruth rk gate ctx id = .TRUE) :
    activeNegatives rk gate ctx' = activeNegatives rk gate ctx := by
  apply eq_of_sorted_of_mem_iff ((nodup_sortedUnique _).filter _)
    ((pairwise_sortedUnique _).filter _) ((nodup_sortedUnique _).filter _)
    ((pairwise_sortedUnique _).filter _)
  intro id
  exact mem_activeNegatives.trans ((h id).trans mem_activeNegatives.symm)

end Truth

section Fields

variable {rk : RuntimeKnowledge} {gate : Level} {ctx : Context} {rule : Rule} {minClasses : ℤ}
  {overrides : List Override} {required : Truth} {operandIds : List String}
  {effective : Option Json}

/-- Attaching the sources of a match leaves every other field as computed. -/
lemma attachMatchProvenance_same (r : RuleResult) : (attachMatchProvenance rule r).SameFindings r := by
  constructor <;> rfl

lemma compositeResult_same :
    (compositeResult rk gate ctx rule minClasses overrides required operandIds effective).SameFindings
      (compositeBase rk gate ctx rule minClasses overrides required operandIds effective) := by
  simp only [compositeResult]
  split_ifs
  · exact attachMatchProvenance_same _
  · exact .refl _

lemma suppressionResult_same :
    (suppressionResult rk gate ctx rule required operandIds).SameFindings
      (suppressionBase rk gate ctx rule required operandIds) := by
  simp only [suppressionResult]
  split_ifs
  · exact attachMatchProvenance_same _
  · exact .refl _

lemma mem_matchedPositive {id : String} :
    id ∈ matchedPositive rk gate ctx rule overrides operandIds ↔
      id ∈ operandIds ∧ rk.isPositive id = true ∧
        ∃ io ∈ ctx.observationsFor id,
          Fires gate ctx (suppressorsFor rk gate ctx rule.categories overrides id) io := by
  simp only [matchedPositive, List.mem_filter, mem_sortedUnique, beq_iff_eq,
    truthOf_suppressedPositive]
  tauto

/-- A matched indicator always has provenance, and nothing else has any. -/
theorem provenanceIds_compositeResult :
    (compositeResult rk gate ctx rule minClasses overrides required operandIds
      effective).provenanceIds = matchedPositive rk gate ctx rule overrides operandIds := by
  rw [RuleResult.provenanceIds, compositeResult_same.provenance]
  simp only [compositeBase, List.map_filterMap]
  refine Eq.trans (List.filterMap_congr (g := some) fun id hid => ?_) (List.filterMap_some)
  obtain ⟨-, hpos, hfires⟩ := mem_matchedPositive.mp hid
  obtain ⟨io, hio, hf⟩ := hfires
  have hentry : rawPositive rk gate ctx id = some (combinePositive gate ctx id []) :=
    if_pos ⟨hpos, List.ne_nil_of_mem hio⟩
  have hgroups : (combinePositive gate ctx id
      (suppressorsFor rk gate ctx rule.categories overrides id)).groups ≠ [] :=
    groups_ne_nil.mpr (combinePositive_value.mpr ⟨io, hio, hf⟩)
  simp only [suppressedPositive, hentry, Option.map_some]
  split
  · rfl
  · rename_i hne
    cases hg : (combinePositive gate ctx id
      (suppressorsFor rk gate ctx rule.categories overrides id)).groups with
    | nil => exact absurd hg hgroups
    | cons group groups => exact absurd (congrArg some hg) (hne group groups)

end Fields

section Runs

variable {rk : RuntimeKnowledge} {gate : Level} {ctx : Context} {rule : Rule}

/-- What a composite rule that did not fault computed on the way to its result. -/
structure CompositeRun (rk : RuntimeKnowledge) (gate : Level) (ctx : Context) (rule : Rule)
    (logic : Json) (minClasses : ℤ) (overrides : List Override) (required : Truth)
    (operandIds : List String) (effective : Option Json) : Prop where
  logic_eq : logicOf rule = .ok logic
  minClasses_eq : pyInt ((logic.get? "min_evidence_classes").getD (.int 2)) = .ok minClasses
  overrides_eq : activeOverrides rk rule (truthOf (rawPositive rk gate ctx)) = .ok overrides
  required_eq : evalCondition
    (truthOf (suppressedPositive rk gate ctx rule.categories overrides)) (logic.get "require") =
      .ok required
  operands_eq : operands (logic.get "require") = .ok operandIds
  effective_eq : effectiveSeverity rule = .ok effective

theorem evaluateComposite_ok {r : RuleResult} (h : evaluateComposite rk gate ctx rule = .ok r) :
    ∃ logic minClasses overrides required operandIds effective,
      CompositeRun rk gate ctx rule logic minClasses overrides required operandIds effective ∧
        r = compositeResult rk gate ctx rule minClasses overrides required operandIds effective := by
  obtain ⟨logic, h1, h⟩ := bind_ok h
  obtain ⟨minClasses, h2, h⟩ := bind_ok h
  obtain ⟨overrides, h3, h⟩ := bind_ok h
  obtain ⟨required, h4, h⟩ := bind_ok h
  obtain ⟨operandIds, h5, h⟩ := bind_ok h
  obtain ⟨effective, h6, h⟩ := bind_ok h
  cases h
  exact ⟨logic, minClasses, overrides, required, operandIds, effective,
    ⟨h1, h2, h3, h4, h5, h6⟩, rfl⟩

theorem CompositeRun.evaluate {logic : Json} {minClasses : ℤ} {overrides : List Override}
    {required : Truth} {operandIds : List String} {effective : Option Json}
    (run : CompositeRun rk gate ctx rule logic minClasses overrides required operandIds effective) :
    evaluateComposite rk gate ctx rule =
      .ok (compositeResult rk gate ctx rule minClasses overrides required operandIds effective) := by
  simp only [evaluateComposite, run.logic_eq, run.minClasses_eq, run.overrides_eq,
    run.required_eq, run.operands_eq, run.effective_eq, bind, Except.bind, pure, Except.pure]

structure SuppressionRun (rk : RuntimeKnowledge) (gate : Level) (ctx : Context) (rule : Rule)
    (logic : Json) (required : Truth) (operandIds : List String) : Prop where
  logic_eq : logicOf rule = .ok logic
  required_eq : evalCondition (negativeTruth rk gate ctx) (logic.get "require") = .ok required
  operands_eq : operands (logic.get "require") = .ok operandIds

theorem evaluateSuppression_ok {r : RuleResult} (h : evaluateSuppression rk gate ctx rule = .ok r) :
    ∃ logic required operandIds, SuppressionRun rk gate ctx rule logic required operandIds ∧
      r = suppressionResult rk gate ctx rule required operandIds := by
  obtain ⟨logic, h1, h⟩ := bind_ok h
  obtain ⟨required, h2, h⟩ := bind_ok h
  obtain ⟨operandIds, h3, h⟩ := bind_ok h
  cases h
  exact ⟨logic, required, operandIds, ⟨h1, h2, h3⟩, rfl⟩

/-- The scope check that precedes the evaluation proper. -/
def scopeCheck (ctx : Context) (rule : Rule) : Except Fault Bool := do
  let scope := rule.languageScope.getD (.obj [])
  if !scope.isObj then throw (.evaluatorError (.scopeNotObject rule.id))
  languageInScope scope ctx.language ctx.script

/-- A rule is out of scope, or evaluated as its kind says. -/
theorem runRule_ok {r : RuleResult} (h : runRule rk gate ctx rule = .ok r) :
    (scopeCheck ctx rule = .ok false ∧
      r = .notApplicable rule.id rule.version (kindOf rule) .UNKNOWN .LANGUAGE_OUT_OF_SCOPE
        (.outOfScope ctx.language ctx.script)) ∨
    (scopeCheck ctx rule = .ok true ∧ kindOf rule = .SUPPRESSION ∧
      evaluateSuppression rk gate ctx rule = .ok r) ∨
    (scopeCheck ctx rule = .ok true ∧ kindOf rule = .COMPOSITE ∧
      evaluateComposite rk gate ctx rule = .ok r) := by
  unfold runRule at h
  unfold scopeCheck
  simp only at h ⊢
  by_cases hobj : (rule.languageScope.getD (.obj [])).isObj = true
  · simp only [hobj, Bool.not_true, Bool.false_eq_true, if_false] at h ⊢
    obtain ⟨inScope, hscope, h⟩ := bind_ok h
    rw [hscope]
    cases inScope with
    | false =>
      left
      cases h
      exact ⟨rfl, rfl⟩
    | true =>
      right
      cases hk : kindOf rule with
      | SUPPRESSION =>
        rw [hk] at h
        exact Or.inl ⟨rfl, rfl, h⟩
      | COMPOSITE =>
        rw [hk] at h
        exact Or.inr ⟨rfl, rfl, h⟩
  · simp only [hobj, Bool.not_false, if_true] at h
    cases h

/-- In scope, a rule is what its kind evaluates to. -/
lemma runRule_inScope (hscope : scopeCheck ctx rule = .ok true) :
    runRule rk gate ctx rule = match kindOf rule with
      | .SUPPRESSION => evaluateSuppression rk gate ctx rule
      | .COMPOSITE => evaluateComposite rk gate ctx rule := by
  unfold scopeCheck at hscope
  unfold runRule
  simp only at hscope ⊢
  by_cases hobj : (rule.languageScope.getD (.obj [])).isObj = true
  · simp only [hobj, Bool.not_true, Bool.false_eq_true, if_false] at hscope ⊢
    have hin : languageInScope (rule.languageScope.getD (.obj [])) ctx.language ctx.script =
        .ok true := hscope
    rw [hin]
    rfl
  · simp only [hobj, Bool.not_false, if_true] at hscope
    cases hscope

/-- Out of scope, a rule depends on the context through its scope only. -/
lemma runRule_outOfScope {ctx' : Context} (hl : ctx'.language = ctx.language)
    (hs : ctx'.script = ctx.script) (hscope : scopeCheck ctx rule ≠ .ok true) :
    runRule rk gate ctx' rule = runRule rk gate ctx rule := by
  unfold scopeCheck at hscope
  unfold runRule
  simp only [hl, hs] at hscope ⊢
  by_cases hobj : (rule.languageScope.getD (.obj [])).isObj = true
  · simp only [hobj, Bool.not_true, Bool.false_eq_true, if_false] at hscope ⊢
    cases hin : languageInScope (rule.languageScope.getD (.obj [])) ctx.language ctx.script with
    | error e => simp only [bind, Except.bind]
    | ok inScope =>
      cases inScope with
      | false => simp only [bind, Except.bind, Bool.not_false, if_true]
      | true => exact absurd hin hscope
  · simp only [hobj, Bool.not_false, if_true, throw, throwThe, MonadExceptOf.throw, bind,
      Except.bind]

/-- A rule's isolated result is its own, or records the fault it raised. -/
theorem runIsolated_ok {r : RuleResult} (h : runIsolated rk gate ctx rule = .ok r) :
    runRule rk gate ctx rule = .ok r ∨
      ∃ fault, runRule rk gate ctx rule = .error fault ∧
        r = .notApplicable rule.id rule.version (kindOf rule) .UNKNOWN .RULE_EVALUATION_ERROR
          (.raised fault) := by
  unfold runIsolated at h
  cases hrun : runRule rk gate ctx rule with
  | ok result =>
    rw [hrun] at h
    exact Or.inl h
  | error fault =>
    rw [hrun] at h
    simp only at h
    split_ifs at h
    cases h
    exact Or.inr ⟨fault, rfl, rfl⟩

/-- The evaluation of a published rule is its isolated run. -/
lemma evaluateValidated_of_mem (hmem : rule ∈ rk.rules)
    (hpub : RuntimeKnowledge.isPublished rule = true) :
    evaluateValidated rk gate ctx rule.id = runIsolated rk gate ctx rule := by
  simp [evaluateValidated, RuntimeKnowledge.rule_of_mem hmem, hpub]

/-- Every outcome of a rule carries its id. -/
lemma ruleId_of_runIsolated {r : RuleResult} (h : runIsolated rk gate ctx rule = .ok r) :
    r.ruleId = rule.id := by
  rcases runIsolated_ok h with hrun | ⟨fault, -, rfl⟩
  · rcases runRule_ok hrun with ⟨-, rfl⟩ | ⟨-, -, hr⟩ | ⟨-, -, hr⟩
    · rfl
    · obtain ⟨_, _, _, -, rfl⟩ := evaluateSuppression_ok hr
      exact suppressionResult_same.ruleId
    · obtain ⟨_, _, _, _, _, _, -, rfl⟩ := evaluateComposite_ok hr
      exact compositeResult_same.ruleId
  · rfl

/-- Every outcome of a rule reports the kind it was evaluated as. -/
lemma kind_of_runRule {r : RuleResult} (h : runRule rk gate ctx rule = .ok r) :
    r.kind = kindOf rule := by
  rcases runRule_ok h with ⟨-, rfl⟩ | ⟨-, hk, hr⟩ | ⟨-, hk, hr⟩
  · rfl
  · obtain ⟨_, _, _, -, rfl⟩ := evaluateSuppression_ok hr
    exact suppressionResult_same.kind.trans hk.symm
  · obtain ⟨_, _, _, _, _, _, -, rfl⟩ := evaluateComposite_ok hr
    exact compositeResult_same.kind.trans hk.symm

lemma kind_of_runIsolated {r : RuleResult} (h : runIsolated rk gate ctx rule = .ok r) :
    r.kind = kindOf rule := by
  rcases runIsolated_ok h with hrun | ⟨fault, -, rfl⟩
  · exact kind_of_runRule hrun
  · rfl

/-- An evaluation returns the isolated results of the published rules. -/
theorem mem_evaluateRules {rs : List RuleResult} (h : evaluateRules rk gate ctx = .ok rs)
    (r : RuleResult) : r ∈ rs ↔ ∃ rule ∈ rk.rules, RuntimeKnowledge.isPublished rule = true ∧
      runIsolated rk gate ctx rule = .ok r := by
  rw [mem_of_mapM_ok h, RuntimeKnowledge.publishedRuleIds]
  simp only [mem_sortedUnique, List.mem_map, List.mem_filter]
  constructor
  · rintro ⟨_, ⟨rule, ⟨hmem, hpub⟩, rfl⟩, hr⟩
    exact ⟨rule, hmem, hpub, (evaluateValidated_of_mem hmem hpub).symm.trans hr⟩
  · rintro ⟨rule, hmem, hpub, hr⟩
    exact ⟨rule.id, ⟨rule, ⟨hmem, hpub⟩, rfl⟩, (evaluateValidated_of_mem hmem hpub).trans hr⟩

/-- A composite result that is not degraded is what its rule evaluates to. -/
theorem exists_compositeRun {rs : List RuleResult} (hrs : evaluateRules rk gate ctx = .ok rs)
    (hmem : rule ∈ rk.rules) {r : RuleResult} (hr : r ∈ rs) (hid : r.ruleId = rule.id)
    (hk : r.kind = .COMPOSITE) (hs : r.evaluationState ≠ .NOT_APPLICABLE) :
    ∃ logic minClasses overrides required operandIds effective,
      CompositeRun rk gate ctx rule logic minClasses overrides required operandIds effective ∧
        r = compositeResult rk gate ctx rule minClasses overrides required operandIds effective := by
  obtain ⟨rule', hmem', -, hrun⟩ := (mem_evaluateRules hrs r).mp hr
  have heq : rule' = rule := by
    apply Option.some.inj
    rw [← RuntimeKnowledge.rule_of_mem hmem', ← RuntimeKnowledge.rule_of_mem hmem, ← hid,
      ruleId_of_runIsolated hrun]
  subst heq
  rcases runIsolated_ok hrun with hok | ⟨fault, -, rfl⟩
  · rcases runRule_ok hok with ⟨-, rfl⟩ | ⟨-, hsup, -⟩ | ⟨-, -, heval⟩
    · exact absurd rfl hs
    · cases (hk.symm.trans (kind_of_runIsolated hrun)).trans hsup
    · exact evaluateComposite_ok heval
  · exact absurd rfl hs

/-- An evaluation that returned has a result for every published rule. -/
theorem exists_evaluateRules {rs : List RuleResult} (h : evaluateRules rk gate ctx = .ok rs)
    (hmem : rule ∈ rk.rules) (hpub : RuntimeKnowledge.isPublished rule = true) :
    ∃ r ∈ rs, runIsolated rk gate ctx rule = .ok r := by
  have hid : rule.id ∈ rk.publishedRuleIds := by
    simp only [RuntimeKnowledge.publishedRuleIds, mem_sortedUnique, List.mem_map, List.mem_filter]
    exact ⟨rule, ⟨hmem, hpub⟩, rfl⟩
  obtain ⟨r, hr, heval⟩ := exists_of_mapM_ok h hid
  exact ⟨r, hr, (evaluateValidated_of_mem hmem hpub).symm.trans heval⟩

/-- A whole evaluation is an accepted context and the evaluation of the rules over it. -/
lemma evaluateRulesFromGoverned_ok {profile : EvaluationProfile} {inds obs : List Json}
    {language script : String} {rs : List RuleResult}
    (h : evaluateRulesFromGoverned rk profile inds obs language script = .ok rs) :
    ∃ ctx, buildValidatedContext inds obs language script = .ok ctx ∧
      evaluateRules rk profile.extractionConfidenceGate ctx = .ok rs := by
  unfold evaluateRulesFromGoverned at h
  split at h
  · cases h
  · rename_i ctx hctx
    cases heval : evaluateRules rk profile.extractionConfidenceGate ctx with
    | error f =>
      rw [heval] at h
      cases h
    | ok rs' =>
      rw [heval] at h
      cases h
      exact ⟨ctx, hctx, heval⟩

end Runs
end TrustLens.Runtime.Evaluator
