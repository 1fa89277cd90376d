import Mathlib.Data.List.Lex
import TrustLens.Runtime.RuleResult

/-!
# The rule evaluator

One published rule against one context. The raw truth of the positive indicators
comes first, the hard-risk overrides are computed from it, and only then are the
directional suppressors executed on the occurrences they share an observation
with. `evaluateComposite` keeps that order.
-/

namespace TrustLens.Runtime

/-- The pinned knobs of one evaluation. -/
structure EvaluationProfile where
  profileId : String := "mvp-default"
  extractionConfidenceGate : Level := .MEDIUM
  riskMatrixId : String := "risk-matrix-v1"
  confidencePolicyId : String := "confidence-policy-v1"
deriving DecidableEq

namespace Evaluator

open Condition (evalCondition operands)

/-- Why an occurrence, or an indicator, has its truth value. -/
inductive Reason where
  | observed
  | observed_live
  | not_observed
  | neutralised
  | structural_nonlive
  | associated_suppression
  | unresolved_suppression_association
  | ambiguous
  | unresolved_structure
  | polarity_mismatch
  | low_confidence
  | confidence_absent
  | unknown_extraction
deriving DecidableEq

/-- The first reason of a preference order that occurs. -/
def prefer (order reasons : List Reason) : Reason :=
  (order.find? (reasons.contains ·)).getD .unknown_extraction

/-- The reading of one occurrence of a positive indicator. -/
structure Occurrence where
  value : Truth
  reason : Reason
  neutralised : Bool
deriving DecidableEq

/-- All occurrences of one positive indicator combined. -/
structure Combined where
  value : Truth
  reason : Reason
  neutralised : Bool
  groups : List (List String)
deriving DecidableEq

/-- `_suppression_association`: whether one of the suppressors is associated, and whether an
association met before it stayed unresolved. -/
def suppressionAssociation (positive : IndicatorObservation) (unresolved : Bool) :
    List IndicatorObservation → Bool × Bool
  | [] => (false, unresolved)
  | suppressor :: rest =>
    if positive.observationRefs = [] ∨ suppressor.observationRefs = [] then
      suppressionAssociation positive true rest
    else if ∃ ref ∈ positive.observationRefs, ref ∈ suppressor.observationRefs then
      (true, unresolved)
    else suppressionAssociation positive unresolved rest

section Occurrences

variable (gate : Level) (ctx : Context)

/-- `_gate_single`: the confidence gate never turns a weak reading into an absence. -/
def gateSingle (matched : Status) (confidence : Option Level) : Truth × Reason :=
  match matched with
  | .OBSERVED =>
    match confidence with
    | none => (.UNKNOWN, .confidence_absent)
    | some level => if gate ≤ level then (.TRUE, .observed) else (.UNKNOWN, .low_confidence)
  | .NOT_OBSERVED => (.FALSE, .not_observed)
  | .NOT_APPLICABLE => (.FALSE, .not_observed)
  | .AMBIGUOUS => (.UNKNOWN, .ambiguous)
  | .UNKNOWN => (.UNKNOWN, .unknown_extraction)

/-- The gate truth of an occurrence under its structural verdict. -/
def structuralRead (io : IndicatorObservation) : Occurrence :=
  let (g, gr) := gateSingle gate io.matched io.confidence
  match ctx.verdict io with
  | .NON_LIVE => ⟨.FALSE, .structural_nonlive, g != .FALSE⟩
  | .LIVE => ⟨g, gr, false⟩
  | .UNRESOLVED =>
    if g = .FALSE then ⟨.FALSE, gr, false⟩ else ⟨.UNKNOWN, .unresolved_structure, false⟩

/-- The loop body of `_combine_positive`. -/
def positiveRead (suppressors : List IndicatorObservation) (io : IndicatorObservation) :
    Occurrence :=
  if io.polarity ≠ none ∧ io.polarity ≠ some .POSITIVE then
    ⟨.UNKNOWN, .polarity_mismatch, false⟩
  else
    let read := structuralRead gate ctx io
    -- structure and explicit absence are final: suppression only acts on the rest
    if read.value ≠ .FALSE ∧ suppressors ≠ [] then
      match suppressionAssociation io false suppressors with
      | (true, _) => ⟨.FALSE, .associated_suppression, true⟩
      | (false, true) => ⟨.UNKNOWN, .unresolved_suppression_association, read.neutralised⟩
      | (false, false) => read
    else read

/-- The refs an occurrence contributes to the live provenance. -/
def liveGroup (suppressors : List IndicatorObservation) (io : IndicatorObservation) :
    Option (List String) :=
  if (positiveRead gate ctx suppressors io).value = .TRUE ∧ io.observationRefs ≠ [] then
    some (sortedUnique io.observationRefs)
  else none

/-- `_combine_positive` -/
def combinePositive (id : String) (suppressors : List IndicatorObservation) : Combined :=
  let reads := (ctx.observationsFor id).map (positiveRead gate ctx suppressors)
  let value := Truth.any (reads.map Occurrence.value)
  let neutralised := reads.any Occurrence.neutralised
  let unknownReasons := (reads.filter (·.value == .UNKNOWN)).map Occurrence.reason
  { value := value
    reason :=
      match value with
      | .TRUE => .observed_live
      | .UNKNOWN => prefer [.unresolved_suppression_association, .ambiguous, .unresolved_structure,
          .polarity_mismatch, .low_confidence, .confidence_absent, .unknown_extraction]
          unknownReasons
      | .FALSE => if neutralised then .neutralised else .not_observed
    neutralised := neutralised
    groups := sortedUnique ((ctx.observationsFor id).filterMap (liveGroup gate ctx suppressors)) }

/-- A reading of a negative indicator: structural eligibility does not apply. -/
def negativeRead (io : IndicatorObservation) : Truth × Reason :=
  if io.polarity ≠ none ∧ io.polarity ≠ some .NEGATIVE then (.UNKNOWN, .polarity_mismatch)
  else gateSingle gate io.matched io.confidence

/-- `_combine_negative` -/
def combineNegative (id : String) : Truth × Reason :=
  let reads := (ctx.observationsFor id).map (negativeRead gate)
  match Truth.any (reads.map Prod.fst) with
  | .TRUE => (.TRUE, .observed)
  | .UNKNOWN =>
    (.UNKNOWN, prefer [.ambiguous, .polarity_mismatch, .low_confidence, .confidence_absent,
      .unknown_extraction] ((reads.filter (·.1 == .UNKNOWN)).map Prod.snd))
  | .FALSE => (.FALSE, .not_observed)

end Occurrences

section Maps

variable (rk : RuntimeKnowledge) (gate : Level) (ctx : Context)

/-- An entry of `_positive_truth_map`. -/
def rawPositive (id : String) : Option Combined :=
  if rk.isPositive id = true ∧ ctx.observationsFor id ≠ [] then
    some (combinePositive gate ctx id [])
  else none

/-- An operand without an entry is UNKNOWN, never FALSE. -/
def truthOf (map : String → Option Combined) (id : String) : Truth :=
  match map id with
  | some entry => entry.value
  | none => .UNKNOWN

/-- An entry of `_negative_truth_map`. -/
def negativeEntry (id : String) : Option (Truth × Reason) :=
  if rk.isNegative id = true ∧ ctx.observationsFor id ≠ [] then
    some (combineNegative gate ctx id)
  else none

def negativeTruth (id : String) : Truth :=
  match negativeEntry rk gate ctx id with
  | some entry => entry.1
  | none => .UNKNOWN

/-- `_active_negatives` -/
def activeNegatives : List String :=
  ctx.presentIndicatorIds.filter fun id => (negativeEntry rk gate ctx id).map Prod.fst == some .TRUE

/-- `_negative_applies` -/
def negativeApplies (id : String) (ruleCategories : List String) : Bool :=
  let families := ((rk.negativeIndicator id).map (·.applicableRuleFamilies)).getD []
  families.contains "*" || families.any ruleCategories.contains

def matchedNegative (ruleCategories : List String) : List String :=
  (activeNegatives rk gate ctx).filter (negativeApplies rk · ruleCategories)

/-- `_override_applies` -/
def overrideApplies (o : Override) (rule : Rule) : Bool :=
  o.appliesToRules.contains rule.id || o.appliesToFamilies.any rule.categories.contains

/-- The overrides of a list whose condition holds. -/
def activeAmong (truth : String → Truth) : List Override → Except Fault (List Override)
  | [] => .ok []
  | o :: rest => do
    let value ← evalCondition truth o.condition
    let active ← activeAmong truth rest
    return if value = .TRUE then o :: active else active

/-- `_active_overrides`, in the order of their ids. -/
def activeOverrides (rule : Rule) (truth : String → Truth) : Except Fault (List Override) :=
  activeAmong truth ((rk.overrideIds.filterMap rk.override).filter (overrideApplies · rule))

/-- The categories the active overrides block; an absent list blocks none. -/
def blockedCategories (overrides : List Override) : List String :=
  overrides.flatMap fun o => o.blocksSuppressionCategories.getD []

/-- Membership of an optional text in a set of texts. -/
def isIn (x : Option String) (xs : List String) : Bool :=
  match x with
  | some s => xs.contains s
  | none => false

/-- `_suppressor_blocked` -/
def suppressorBlocked (neg : NegativeIndicator) (overrides : List Override) : Bool :=
  !overrides.isEmpty && neg.blockableByOverrides.truthy &&
    isIn neg.category (blockedCategories overrides)

/-- The occurrences with which a negative indicator is active. -/
def activeOccurrences (id : String) : List IndicatorObservation :=
  (ctx.observationsFor id).filter fun io =>
    (io.polarity = none ∨ io.polarity = some .NEGATIVE) ∧
      (gateSingle gate io.matched io.confidence).1 = .TRUE

/-- What one matched negative adds to the suppressors of a target. -/
def suppressorsOf (overrides : List Override) (target id : String) :
    List IndicatorObservation :=
  match rk.negativeIndicator id with
  | none => []
  | some neg =>
    if neg.suppressionEffect ≠ some "SUPPRESS_INDICATOR" then []
    else if suppressorBlocked neg overrides then []
    else (neg.suppressesIndicators.filter (· == target)).flatMap fun _ =>
      activeOccurrences gate ctx id

/-- `_active_suppressor_occurrences` for one target. -/
def suppressorsFor (categories : List String) (overrides : List Override) (target : String) :
    List IndicatorObservation :=
  (matchedNegative rk gate ctx categories).flatMap (suppressorsOf rk gate ctx overrides target)

/-- The truth map once the directional suppressors are executed. -/
def suppressedPositive (categories : List String) (overrides : List Override) (id : String) :
    Option Combined :=
  (rawPositive rk gate ctx id).map fun _ =>
    combinePositive gate ctx id (suppressorsFor rk gate ctx categories overrides id)

/-- Whether an indicator ends up in `neutralised_indicators`: a suppressed reading adds it or
takes it out, and leaves a structurally neutralised absence in. -/
def neutralisedAfter (before after : Combined) : Bool :=
  if after.value = .FALSE ∧ after.neutralised = true then true
  else if after.value ≠ .FALSE then false
  else before.value == .FALSE && before.neutralised

def isNeutralised (categories : List String) (overrides : List Override) (id : String) : Bool :=
  match rawPositive rk gate ctx id, suppressedPositive rk gate ctx categories overrides id with
  | some before, some after => neutralisedAfter before after
  | _, _ => false

end Maps

/-! ### Assembling a result -/

/-- `value in container` for a scope attribute. -/
def pyIn (s : String) : Json → Except Fault Bool
  | .arr items => .ok (items.contains (.str s))
  | .str text => .ok (PyText.isInfix s text)
  | .obj entries => .ok ((entries.map Prod.fst).contains s)
  | _ => .error (.typeError "argument is not iterable")

/-- `_language_in_scope` -/
def languageInScope (scope : Json) (language script : String) : Except Fault Bool := do
  let langs := scope.get "languages"
  let scripts := scope.get "scripts"
  if !langs.truthy && !scripts.truthy then return true
  let langOk ← if langs.truthy then pyIn (PyText.beforeFirst '-' language) langs else .ok true
  let scriptOk ← if scripts.truthy then pyIn script scripts else .ok true
  return langOk && scriptOk

/-- `_sev_min`: an absent cap returns the declared severity unchecked. -/
def sevMin (declared cap : Json) : Except Fault Json :=
  if cap = .null then .ok declared
  else
    match Severity.ofJson? declared, Severity.ofJson? cap with
    | some a, some b => .ok (if a ≤ b then declared else cap)
    | _, _ => .error (.valueError "tuple.index(x): x not in tuple")

/-- The base severity of a result, absent when the rule declares none. -/
def effectiveSeverity (rule : Rule) : Except Fault (Option Json) :=
  if rule.severity.truthy then (sevMin rule.severity rule.severityCap).map some else .ok none

/-- `_uncertainty`: the ambiguity an operand records. -/
def ambiguityText (id : String) (entry : Combined) : Option String :=
  if entry.value ≠ .UNKNOWN then none
  else
    match entry.reason with
    | .ambiguous => some (id ++ ": decisive operand AMBIGUOUS")
    | .unresolved_structure => some (id ++ ": decisive operand occurrence association unresolved " ++
        "(live vs negated/reported cannot be established)")
    | .unresolved_suppression_association =>
      some (id ++ ": decisive suppression occurrence association unresolved")
    | .polarity_mismatch => some (id ++ ": decisive operand polarity mismatch vs registry")
    | _ => none

def Reason.text : Reason → String
  | .observed => "observed"
  | .observed_live => "observed_live"
  | .not_observed => "not_observed"
  | .neutralised => "neutralised"
  | .structural_nonlive => "structural_nonlive"
  | .associated_suppression => "associated_suppression"
  | .unresolved_suppression_association => "unresolved_suppression_association"
  | .ambiguous => "ambiguous"
  | .unresolved_structure => "unresolved_structure"
  | .polarity_mismatch => "polarity_mismatch"
  | .low_confidence => "low_confidence"
  | .confidence_absent => "confidence_absent"
  | .unknown_extraction => "unknown_extraction"

/-- `_uncertainty`: the unknown an operand records when it is no ambiguity. -/
def unknownText (id : String) (entry : Combined) : Option String :=
  if entry.value ≠ .UNKNOWN ∨ (ambiguityText id entry).isSome then none
  else some (id ++ ": decisive operand UNKNOWN (" ++ entry.reason.text ++ ")")

/-- `_representative_confidence` -/
def representativeConfidence (occurrences : List IndicatorObservation) : Option Level :=
  ((occurrences.filter (·.matched == .OBSERVED)).filterMap (·.confidence)).max?

/-- A text that is present and not empty. -/
def nonEmpty? (s : Option String) : Option String := s.filter (· ≠ "")

/-- `_attach_match_provenance` -/
def attachMatchProvenance (rule : Rule) (result : RuleResult) : RuleResult :=
  let fragment : ExplanationFragment :=
    ⟨nonEmpty? rule.plain, nonEmpty? rule.technical, nonEmpty? rule.whyConfidenceLimited⟩
  { result with
    sourceReferences := rule.sourceReferences.map fun ref =>
      ⟨ref.sourceId, ref.issuingBody, ref.verificationStatus, nonEmpty? ref.authority,
        nonEmpty? ref.evidenceClass, nonEmpty? ref.quote⟩
    evidenceIds := sortedUnique (rule.sourceReferences.flatMap (·.evidenceIds))
    explanationFragment := if fragment = ⟨none, none, none⟩ then none else some fragment }

section Results

variable (rk : RuntimeKnowledge) (gate : Level) (ctx : Context)

/-- `_suppression_candidates`: what the evaluator exposes to the suppression stage. -/
def suppressionCandidates (matchedNegative : List String) (overrides : List Override) :
    Option Suppression :=
  let effectOf (id : String) := (rk.negativeIndicator id).bind (·.suppressionEffect)
  let categoryOf (id : String) := (rk.negativeIndicator id).bind (·.category)
  let blocked := matchedNegative.filter fun id =>
    !overrides.isEmpty &&
      (effectOf id == some "SUPPRESS_RULE" || effectOf id == some "CAP_SEVERITY") &&
      isIn (categoryOf id) (blockedCategories overrides)
  let contextOnly := matchedNegative.filter fun id => effectOf id == some "CONTEXT_ONLY"
  if blocked = [] ∧ contextOnly = [] then none
  else some { blockedSuppressors := blocked, contextOnlyPresent := contextOnly }

/-- `_collect_refs` -/
def collectRefs (ids : List String) : List String :=
  sortedUnique (ids.flatMap fun id => (ctx.observationsFor id).flatMap (·.observationRefs))

def compositeState (required : Truth) (diversityMet : Bool) : EvaluationState :=
  match required with
  | .TRUE => if diversityMet then .MATCHED else .NOT_MATCHED
  | .FALSE => .NOT_MATCHED
  | .UNKNOWN => .INDETERMINATE

lemma compositeState_eq_MATCHED {required : Truth} {diversityMet : Bool} :
    compositeState required diversityMet = .MATCHED ↔ required = .TRUE ∧ diversityMet = true := by
  cases required <;> cases diversityMet <;> simp [compositeState]

/-- The positive operands of a rule that are TRUE once suppression is executed. -/
def matchedPositive (rule : Rule) (overrides : List Override) (operandIds : List String) :
    List String :=
  ((sortedUnique operandIds).filter rk.isPositive).filter fun id =>
    truthOf (suppressedPositive rk gate ctx rule.categories overrides) id == .TRUE

/-- The distinct evidence classes a list of indicators spans. -/
def evidenceClasses (ids : List String) : List String :=
  sortedUnique (ids.filterMap fun id => nonEmpty? ((rk.indicator id).bind (·.evidenceClass)))

/-- The result before a match attaches its sources. -/
def compositeBase (rule : Rule) (minClasses : ℤ) (overrides : List Override) (required : Truth)
    (operandIds : List String) (effective : Option Json) : RuleResult :=
  let map := suppressedPositive rk gate ctx rule.categories overrides
  let posOperands := (sortedUnique operandIds).filter rk.isPositive
  let positives := matchedPositive rk gate ctx rule overrides operandIds
  let classes := evidenceClasses rk positives
  let diversityMet := decide (minClasses ≤ classes.length)
  let negatives := matchedNegative rk gate ctx rule.categories
  { ruleId := rule.id
    ruleVersion := rule.version
    kind := .COMPOSITE
    evaluationState := compositeState required diversityMet
    requiredCombinationResult := required
    matchedPositiveIndicators := positives
    matchedNegativeIndicators := negatives
    neutralisedIndicators := ctx.presentIndicatorIds.filter
      (isNeutralised rk gate ctx rule.categories overrides)
    evidenceClassesSpanned := classes
    minEvidenceClassesRequired := some minClasses
    evidenceClassDiversityMet := some diversityMet
    ruleEvidenceVerdict := some rule.verdict
    ruleSeverityDeclared := some rule.severity
    effectiveSeverity := effective
    activeOverrides := overrides.map Override.id
    suppression := suppressionCandidates rk negatives overrides
    extractionConfidenceInputs := (posOperands.filter (ctx.observationsFor · ≠ [])).map fun id =>
      (id, representativeConfidence (ctx.observationsFor id))
    observationRefs := collectRefs ctx (posOperands ++ negatives)
    livePositiveProvenance := positives.filterMap fun id =>
      match (map id).map Combined.groups with
      | some (group :: groups) => some (id, group :: groups)
      | _ => none
    ambiguities := sortedUnique (posOperands.filterMap fun id => (map id).bind (ambiguityText id))
    unknowns := sortedUnique (posOperands.filterMap fun id => (map id).bind (unknownText id)) }

/-- The result once everything that can fault is computed. -/
def compositeResult (rule : Rule) (minClasses : ℤ) (overrides : List Override) (required : Truth)
    (operandIds : List String) (effective : Option Json) : RuleResult :=
  let base := compositeBase rk gate ctx rule minClasses overrides required operandIds effective
  if base.evaluationState = .MATCHED then attachMatchProvenance rule base else base

def logicOf (rule : Rule) : Except Fault Json :=
  let logic := rule.logic.getD (.obj [])
  if logic.isObj then .ok logic else .error (.evaluatorError (.logicNotObject rule.id))

/-- `_evaluate_composite` -/
def evaluateComposite (rule : Rule) : Except Fault RuleResult := do
  let logic ← logicOf rule
  let require := logic.get "require"
  let minClasses ← pyInt ((logic.get? "min_evidence_classes").getD (.int 2))
  let overrides ← activeOverrides rk rule (truthOf (rawPositive rk gate ctx))
  let required ← evalCondition
    (truthOf (suppressedPositive rk gate ctx rule.categories overrides)) require
  let operandIds ← operands require
  let effective ← effectiveSeverity rule
  return compositeResult rk gate ctx rule minClasses overrides required operandIds effective

def suppressionState : Truth → EvaluationState
  | .TRUE => .MATCHED
  | .FALSE => .NOT_MATCHED
  | .UNKNOWN => .INDETERMINATE

lemma suppressionState_eq_MATCHED {required : Truth} :
    suppressionState required = .MATCHED ↔ required = .TRUE := by
  cases required <;> simp [suppressionState]

def suppressionBase (rule : Rule) (required : Truth) (operandIds : List String) : RuleResult :=
  let negatives := (sortedUnique operandIds).filter (negativeTruth rk gate ctx · == .TRUE)
  { ruleId := rule.id
    ruleVersion := rule.version
    kind := .SUPPRESSION
    evaluationState := suppressionState required
    requiredCombinationResult := required
    ruleEvidenceVerdict := some rule.verdict
    matchedNegativeIndicators := negatives
    observationRefs := collectRefs ctx negatives }

def suppressionResult (rule : Rule) (required : Truth) (operandIds : List String) : RuleResult :=
  let base := suppressionBase rk gate ctx rule required operandIds
  if base.evaluationState = .MATCHED then attachMatchProvenance rule base else base

/-- `_evaluate_suppression`: a suppression rule reads negative indicators only. -/
def evaluateSuppression (rule : Rule) : Except Fault RuleResult := do
  let logic ← logicOf rule
  let require := logic.get "require"
  let required ← evalCondition (negativeTruth rk gate ctx) require
  let operandIds ← operands require
  return suppressionResult rk gate ctx rule required operandIds

/-- The kind a result reports; anything but `SUPPRESSION` is evaluated as a composite. -/
def kindOf (rule : Rule) : RuleKind :=
  if rule.kind = some "SUPPRESSION" then .SUPPRESSION else .COMPOSITE

/-- The body of `_run_isolated`. -/
def runRule (rule : Rule) : Except Fault RuleResult := do
  let scope := rule.languageScope.getD (.obj [])
  if !scope.isObj then throw (.evaluatorError (.scopeNotObject rule.id))
  if !(← languageInScope scope ctx.language ctx.script) then
    return .notApplicable rule.id rule.version (kindOf rule) .UNKNOWN .LANGUAGE_OUT_OF_SCOPE
      (.outOfScope ctx.language ctx.script)
  match kindOf rule with
  | .SUPPRESSION => evaluateSuppression rk gate ctx rule
  | .COMPOSITE => evaluateComposite rk gate ctx rule

/-- `_run_isolated`: a per-rule fault degrades that rule, any other one escapes. -/
def runIsolated (rule : Rule) : Except Fault RuleResult :=
  match runRule rk gate ctx rule with
  | .ok result => .ok result
  | .error fault =>
    if fault.perRule then
      .ok (.notApplicable rule.id rule.version (kindOf rule) .UNKNOWN .RULE_EVALUATION_ERROR
        (.raised fault))
    else .error fault

/-- `_evaluate_validated` -/
def evaluateValidated (ruleId : String) : Except Fault RuleResult :=
  match rk.rule ruleId with
  | none => .ok (.notApplicable ruleId "0.0.0" .COMPOSITE .UNKNOWN .RULE_NOT_FOUND
      (.notFound ruleId))
  | some rule =>
    if RuntimeKnowledge.isPublished rule = false then
      .ok (.notApplicable ruleId rule.version (kindOf rule) .UNKNOWN .RULE_NOT_PUBLISHED
        (.notPublished ruleId rule.status))
    else runIsolated rk gate ctx rule

/-- `evaluate_rules_from_governed` over a built context. -/
def evaluateRules : Except Fault (List RuleResult) :=
  rk.publishedRuleIds.mapM (evaluateValidated rk gate ctx)

end Results

/-- What an evaluation of governed data raises. -/
inductive Failure where
  | context (e : ContextError)
  | fault (f : Fault)
deriving DecidableEq

/-- `evaluate_rules_from_governed` -/
def evaluateRulesFromGoverned (rk : RuntimeKnowledge) (profile : EvaluationProfile)
    (indicatorObservations observations : List Json) (language script : String) :
    Except Failure (List RuleResult) :=
  match buildValidatedContext indicatorObservations observations language script with
  | .error e => .error (.context e)
  | .ok ctx => (evaluateRules rk profile.extractionConfidenceGate ctx).mapError .fault

/-! ### A small bundle -/

/-- A credential request under pressure. -/
def sampleRule : Rule where
  id := "TL-OTP-001"
  ruleVersion := some "1.0.0"
  schemaVersion := some "1.0.0"
  name := some "Credential request under pressure"
  kind := some "COMPOSITE"
  status := some "PUBLISHED"
  languageScope := some (.obj [("languages", .arr [.str "en"]), ("scripts", .arr [.str "Latn"]),
    ("on_unsupported_input", .str "FLAG_UNSUPPORTED")])
  logic := some (.obj [
    ("require", .obj [("all_of", .arr [.str "OTP_REQUEST", .str "URGENCY"])]),
    ("min_evidence_classes", .int 2)])
  taxonomyRefs := ["TAX-01-01"]
  severity := .str "HIGH"
  verdict := .str "SUPPORTED"
  severityCap := .null
  sourceReferences := []
  plain := some "Someone is pressing you for a one-time password."
  technical := some "Credential request combined with a pressure cue."
  whyConfidenceLimited := none
  verificationSteps := []

def sampleKnowledge : RuntimeKnowledge where
  rules := [sampleRule]
  indicators := [⟨"OTP_REQUEST", some "CREDENTIAL_ACTION", some "STRONG"⟩,
    ⟨"URGENCY", some "PRESSURE", some "MODERATE"⟩,
    ⟨"REMOTE_ACCESS", some "DEVICE_ACTION", some "STRONG"⟩]
  negatives := []
  overrides := []
  taxonomy := []
  actionPolicy := []
  bundleVersion := "1.0.0"
  contentDigest := ""
  commitSha := "unknown"
  componentVersions := []
  rules_nodup := by decide
  indicators_nodup := by decide
  negatives_nodup := List.nodup_nil
  overrides_nodup := List.nodup_nil
  polarity_disjoint := by simp

def sampleProvenance : Json :=
  .obj [("extractor_id", .str "text"), ("extractor_type", .str "PARSER"),
    ("extractor_version", .str "1")]

/-- A first-party observation of the given mood. -/
def sampleObservation (id mood : String) : Json :=
  .obj [("observation_id", .str id), ("observation_type", .str "REQUEST"),
    ("source_input_id", .str "in-1"), ("status", .str "OBSERVED"), ("mood", .str mood),
    ("provenance", sampleProvenance)]

def sampleIndicator (id ref : String) : Json :=
  .obj [("indicator_id", .str id), ("polarity", .str "POSITIVE"), ("matched", .str "OBSERVED"),
    ("confidence", .obj [("level", .str "HIGH")]), ("observation_refs", .arr [.str ref]),
    ("input_id", .str "in-1"), ("provenance", sampleProvenance)]

/-- The results of an evaluation, none when it raises. -/
def resultsOf (outcome : Except Failure (List RuleResult)) : List RuleResult :=
  match outcome with
  | .ok rs => rs
  | .error _ => []

lemma eq_ok_of_resultsOf {outcome : Except Failure (List RuleResult)} (h : resultsOf outcome ≠ []) :
    outcome = .ok (resultsOf outcome) := by
  cases outcome with
  | ok rs => rfl
  | error e => exact absurd rfl h

example : (resultsOf (evaluateRulesFromGoverned sampleKnowledge {}
    [sampleIndicator "OTP_REQUEST" "o-1", sampleIndicator "URGENCY" "o-1"]
    [sampleObservation "o-1" "DIRECTIVE"] "en" "Latn")).map RuleResult.evaluationState =
      [.MATCHED] := by decide +kernel

end Evaluator
end TrustLens.Runtime
