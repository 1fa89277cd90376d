import Mathlib.Data.List.Infix
import TrustLens.Runtime.Explanation

/-!
# The final detection result

Joins a decision, its explanation and the pinned versions into one envelope, and checks
the envelope again as a whole before it leaves the engine.
-/

namespace TrustLens.Runtime

open Aggregation (DecisionResult Corroboration DecidedResult)

/-- `engine.ENGINE_VERSION` -/
def engineVersion : String := "1.0.0"

/-- `DEFAULT_PROFILE` -/
def defaultProfile : EvaluationProfile := {}

structure Provenance where
  bundleVersion : String
  bundleContentDigest : String
  commitSha : String
  engineVersion : String
  evaluationProfile : EvaluationProfile
  componentVersions : List (String × String)
deriving DecidableEq

/-- The identity and input context that are trusted as they come. -/
structure Envelope where
  evaluationId : String
  evaluationTimestamp : String
  inputId : String
  language : List String
  script : List String
deriving DecidableEq

/-- `DetectionResult`: the decision with everything the envelope adds. -/
structure DetectionResult where
  envelope : Envelope
  decision : DecisionResult
  provenance : Provenance
  explanation : ExplanationText
  recommendedActions : List RecommendedAction
deriving DecidableEq

namespace Detection

/-- What `semantic_violations` reports. -/
inductive Violation where
  /-- matched_rules != MATCHED rule_results -/
  | matchedRules (matched fired : List String)
  /-- illegal (severity, strength) for the risk matrix -/
  | illegalCell
  /-- risk_level differs from the matrix -/
  | riskLevel
  /-- UNSUPPORTED, ERROR or INSUFFICIENT_INFORMATION input with another classification -/
  | supportClassification
  /-- fired rules present but no scam classification -/
  | firedClassification
  /-- LOW confidence with a fired rule must be SUSPECTED -/
  | lowNotSuspected
  /-- MEDIUM or HIGH confidence with a fired rule must be DETECTED -/
  | highNotDetected
  /-- fired rules present but decision_severity is NONE -/
  | firedSeverity
  /-- no fired rules but a scam classification -/
  | quietClassification
  /-- no fired rules must yield severity/risk NONE and confidence NOT_APPLICABLE -/
  | quietAxes
  /-- recommended action not in the controlled vocabulary -/
  | actionCode (code : String)
  /-- no provenance.component_versions.action_policy pin -/
  | policyUnpinned
  /-- malformed action_policy pin -/
  | policyMalformed (version : String)
  /-- probability-like field -/
  | probabilityKey (key : String)
deriving DecidableEq

/-- `DetectionResultError` -/
inductive DetectionResultError where
  /-- evaluation_id, input_id or evaluation_timestamp -/
  | identity (field : String)
  /-- language, script, support status, or a whole-evaluation error without ERROR support -/
  | inputContext (field : String)
  /-- bundle component_versions is missing a required key -/
  | missingComponent (key : String)
  /-- action-policy pin disagreement -/
  | policyPin
  /-- fails detection-result.schema.json -/
  | schema
  | semantic (violation : Violation)
  /-- evaluation_profile is not the production one -/
  | profile
deriving DecidableEq

/-- `DetectionResultError.code` -/
def DetectionResultError.code : DetectionResultError → String
  | .identity _ => "INVALID_IDENTITY"
  | .inputContext _ => "INVALID_INPUT_CONTEXT"
  | .missingComponent _ => "PROVENANCE_MISMATCH"
  | .policyPin => "ACTION_POLICY_MISMATCH"
  | .schema => "RESULT_SCHEMA_INVALID"
  | .semantic _ => "RESULT_SEMANTIC_INVALID"
  | .profile => "PROFILE_MISMATCH"

/-! ### Semantic invariants -/

/-- `matched_rule_ids`: of every kind of rule. -/
def matchedRuleIds (d : DecisionResult) : List String :=
  sortedUnique ((d.ruleResults.filter (·.result.evaluationState == .MATCHED)).map (·.result.ruleId))

/-- `RISK_MATRIX` with its NONE row. -/
def riskCell : WithBot Severity → Strength → Option (WithBot Severity)
  | none, .NONE => some ⊥
  | none, _ => none
  | some severity, strength => (Aggregation.riskMatrix severity strength).map fun r => (r : WithBot Severity)

/-- The tests of `semantic_violations` on the decision, in their order. -/
def decisionChecks (d : DecisionResult) : List (Bool × Violation) :=
  let fired := matchedRuleIds d
  let scam := d.classification == .SCAM_PATTERN_DETECTED || d.classification == .SCAM_PATTERN_SUSPECTED
  [(sortedUnique d.matchedRules != fired, .matchedRules (sortedUnique d.matchedRules) fired),
   ((riskCell d.decisionSeverity d.matchedEvidenceStrength).isNone, .illegalCell),
   ((riskCell d.decisionSeverity d.matchedEvidenceStrength).any (· != d.riskLevel), .riskLevel),
   (d.inputSupportStatus == .UNSUPPORTED && d.classification != .UNSUPPORTED,
      .supportClassification),
   (d.inputSupportStatus == .ERROR && d.classification != .ERROR, .supportClassification),
   (d.inputSupportStatus == .INSUFFICIENT_INFORMATION && d.classification != .INSUFFICIENT_EVIDENCE,
      .supportClassification)] ++
  if fired ≠ [] then
    [(!scam, .firedClassification),
     (d.detectionConfidence == .LOW && d.classification != .SCAM_PATTERN_SUSPECTED,
        .lowNotSuspected),
     ((d.detectionConfidence == .MEDIUM || d.detectionConfidence == .HIGH) &&
        d.classification != .SCAM_PATTERN_DETECTED, .highNotDetected),
     (d.decisionSeverity == ⊥, .firedSeverity)]
  else
    [(scam, .quietClassification),
     (d.decisionSeverity != ⊥ || d.riskLevel != ⊥ || d.detectionConfidence != .NOT_APPLICABLE,
        .quietAxes)]

/-- The pin a result of contract 1.1.0 must carry. -/
def pinChecks (r : DetectionResult) : List (Bool × Violation) :=
  match (r.provenance.componentVersions.find? (·.1 == "action_policy")).map Prod.snd with
  | none => [(true, .policyUnpinned)]
  | some v => [(!Aggregation.versionPattern v, .policyMalformed v)]

/-- The letters of a key, upper case; the schema leaves no other case in an indicator id. -/
def asciiUpper (c : Char) : Char :=
  if 'a' ≤ c ∧ c ≤ 'z' then Char.ofNat (c.toNat - 32) else c

/-- `_PROBABILITY_KEY` or exactly `score`. -/
def probabilityLike (key : String) : Bool :=
  let text := key.toList.map asciiUpper
  ["PROBAB", "LIKELIHOOD", "PERCENT"].any (fun word => word.toList <:+: text) ||
    text == "SCORE".toList

/-- The keys of an envelope that its schema does not fix. -/
def openKeys (d : DecisionResult) : List String :=
  d.ruleResults.flatMap fun r =>
    r.result.livePositiveProvenance.map Prod.fst ++ r.result.extractionConfidenceInputs.map Prod.fst

/-- `probability_keys` -/
def probabilityKeys (r : DetectionResult) : List String :=
  (openKeys r.decision).filter probabilityLike

/-- `semantic_violations`, then the probability keys. -/
def violations (r : DetectionResult) : List Violation :=
  (((decisionChecks r.decision).filter Prod.fst).map Prod.snd) ++
    ((r.recommendedActions.filter fun a => !actionOrder.contains a.actionCode).map
      fun a => .actionCode a.actionCode) ++
    (((pinChecks r).filter Prod.fst).map Prod.snd) ++
    (probabilityKeys r).map .probabilityKey

/-! ### The result schema -/

section Schema

open Schema (anchored isAsciiDigit)
open Aggregation (ruleIdPattern overrideIdPattern instanceRef numbered evidenceClassNames
  versionPattern)
open Condition (indicatorId)

def hexDigit (c : Char) : Bool := isAsciiDigit c || ('a' ≤ c && c ≤ 'f')

/-- `^[0-9a-f]{64}$` -/
def digestPattern : String → Bool := anchored fun cs => cs.length == 64 && cs.all hexDigit

/-- `^[0-9a-f]{7,40}$|^unknown$` -/
def commitPattern (s : String) : Bool :=
  anchored (fun cs => 7 ≤ cs.length && cs.length ≤ 40 && cs.all hexDigit) s ||
    anchored (· == "unknown".toList) s

def corroborationConforms (c : Corroboration) : Bool :=
  decide c.independentEvidenceClasses.Nodup &&
    c.independentEvidenceClasses.all evidenceClassNames.contains &&
    c.sharedObservationRefs.all instanceRef

def spanConforms (s : Span) : Bool :=
  Schema.integerFrom 0 s.start && Schema.integerFrom 0 s.stop

def basisConforms (s : SourceEcho) : Bool :=
  s.sourceId.any (numbered "SRC-") && s.issuingBody.isSome && s.verificationStatus.isSome

def explanationConforms (e : ExplanationText) : Bool :=
  e.supportingObservations.all (fun o => instanceRef o.1 && o.2.all spanConforms) &&
    e.matchedIndicators.all indicatorId && e.suppressionConsidered.all (indicatorId ·.1) &&
    e.overridesApplied.all (overrideIdPattern ·.overrideId) && e.rulesFired.all ruleIdPattern &&
    e.evidenceBasis.all basisConforms

def actionConforms (a : RecommendedAction) : Bool :=
  actionOrder.contains a.actionCode && a.reasonRuleIds.all ruleIdPattern &&
    a.reasonIndicatorIds.all indicatorId && a.reasonOverrideIds.all overrideIdPattern &&
    a.evidenceRefs.all (numbered "SRC-")

/-- The engine version may carry a suffix; the runtime's own does not. -/
def provenanceConforms (p : Provenance) : Bool :=
  versionPattern p.bundleVersion && digestPattern p.bundleContentDigest &&
    commitPattern p.commitSha && versionPattern p.engineVersion &&
    p.evaluationProfile.profileId != "" && p.evaluationProfile.riskMatrixId != "" &&
    p.evaluationProfile.confidencePolicyId != "" && p.componentVersions.all (·.2 != "")

variable (render : ErrorMessage → String)

/-- `detection-result.schema.json` on a typed result: the keywords that its type does not
already guarantee. -/
def resultConforms (r : DetectionResult) : Bool :=
  r.envelope.evaluationId != "" && r.envelope.inputId != "" &&
    provenanceConforms r.provenance &&
    decide r.decision.matchedRules.Nodup && r.decision.matchedRules.all ruleIdPattern &&
    r.decision.ruleResults.all Explanation.resultConforms &&
    r.decision.matchedPositiveIndicators.all indicatorId &&
    r.decision.matchedNegativeIndicators.all indicatorId &&
    r.decision.suppressedIndicators.all indicatorId &&
    r.decision.activeOverrides.all overrideIdPattern &&
    corroborationConforms r.decision.corroboration &&
    explanationConforms r.explanation && r.recommendedActions.all actionConforms &&
    r.decision.errors.all fun e => Aggregation.wholeErrorSchema (e.toJson render)

end Schema

/-! ### Assembly -/

/-- `_COMPONENT_KEY_MAP` without the action policy. -/
def requiredComponents : List (String × String) :=
  [("rule_schema", "rule_schema"), ("indicator_registry", "indicator_registry"),
    ("indicator_families", "indicator_families"), ("negative_library", "negative_library"),
    ("taxonomy", "taxonomy"), ("dimensions", "dimensions"),
    ("extraction_schemas", "extraction_contracts")]

/-- `_translate_component_versions` -/
def translateComponentVersions (rk : RuntimeKnowledge) :
    Except DetectionResultError (List (String × String)) := do
  let required ← requiredComponents.mapM fun key =>
    match rk.componentVersion key.1 with
    | some v => .ok (key.2, v)
    | none => .error (.missingComponent key.1)
  return required ++
    ((Evaluator.nonEmpty? (rk.componentVersion "action_policy")).map ("action_policy", ·)).toList

/-- `_build_provenance` -/
def buildProvenance (rk : RuntimeKnowledge) (d : DecisionResult) (e : ExplanationResult) :
    Except DetectionResultError Provenance := do
  let versions ← translateComponentVersions rk
  let pin := (versions.find? (·.1 == "action_policy")).map Prod.snd
  if pin = none ∨ rk.actionPolicyVersion ≠ e.actionPolicyVersion ∨ e.actionPolicyVersion ≠ pin then
    .error .policyPin
  else
    return {
      bundleVersion := rk.bundleVersion
      bundleContentDigest := rk.contentDigest
      commitSha := rk.commitSha
      engineVersion := engineVersion
      evaluationProfile := d.evaluationProfile
      componentVersions := versions }

variable (isInstant : String → Bool) (render : ErrorMessage → String)

/-- `_validate_identity`; `isInstant` is the parser of timestamps. -/
def validateIdentity (e : Envelope) : Except DetectionResultError Unit :=
  if e.evaluationId = "" then .error (.identity "evaluation_id")
  else if e.inputId = "" then .error (.identity "input_id")
  else if isInstant e.evaluationTimestamp = false then .error (.identity "evaluation_timestamp")
  else .ok ()

/-- `_validate_seq` -/
def validateSeq (name : String) (values : List String) : Except DetectionResultError Unit :=
  if values = [] ∨ "" ∈ values then .error (.inputContext name) else .ok ()

/-- `_validate_and_freeze`. Of the reconciliation only the profile is left to check: every other
comparison is between a field and the value it was just copied from. -/
def validateAndFreeze (r : DetectionResult) : Except DetectionResultError DetectionResult :=
  if resultConforms render r = false then .error .schema
  else
    match violations r with
    | v :: _ => .error (.semantic v)
    | [] => if r.decision.evaluationProfile ≠ defaultProfile then .error .profile else .ok r

lemma validateAndFreeze_ok_iff {r r' : DetectionResult} :
    validateAndFreeze render r = .ok r' ↔ r' = r ∧ resultConforms render r = true ∧
      violations r = [] ∧ r.decision.evaluationProfile = defaultProfile := by
  unfold validateAndFreeze
  by_cases hschema : resultConforms render r = true
  · rw [if_neg (by simp [hschema])]
    cases violations r with
    | nil =>
      by_cases hprofile : r.decision.evaluationProfile = defaultProfile
      · simp [hschema, hprofile, eq_comm]
      · simp [hprofile]
    | cons v rest => simp
  · simp [hschema]

/-- `assemble_detection_result` -/
def assembleDetectionResult (rk : RuntimeKnowledge) (d : DecisionResult) (e : ExplanationResult)
    (envelope : Envelope) : Except DetectionResultError DetectionResult := do
  validateIdentity isInstant envelope
  validateSeq "language" envelope.language
  validateSeq "script" envelope.script
  let provenance ← buildProvenance rk d e
  validateAndFreeze render
    { envelope := envelope
      decision := d
      provenance := provenance
      explanation := e.explanation
      recommendedActions := e.recommendedActions }

/-- What the whole evaluation raises. -/
inductive Failure where
  | decision (e : Aggregation.Failure)
  | explanation (e : Explanation.ExplanationError)
  | result (e : DetectionResultError)
deriving DecidableEq

/-- What a caller passes as an iterable: the items it yields at each traversal, the first of
which is traversal 0. -/
abbrev Traversals := ℕ → List Json

/-- A list yields the same items however often it is traversed. -/
def Traversals.ofList (items : List Json) : Traversals := fun _ => items

/-- A generator is exhausted by its first traversal. -/
def Traversals.once (items : List Json) : Traversals
  | 0 => items
  | _ => []

/-- The checks of the trusted context, before anything runs. -/
def validateContext (envelope : Envelope) (status : String) (wholeErrors : List Json) :
    Except DetectionResultError Unit := do
  validateIdentity isInstant envelope
  validateSeq "language" envelope.language
  validateSeq "script" envelope.script
  if Support.ofString? status = none then .error (.inputContext "input_support_status")
  else if wholeErrors ≠ [] ∧ status ≠ "ERROR" then .error (.inputContext "whole_evaluation_errors")
  else .ok ()

/-- `_single_scalar` -/
def singleScalar (envelope : Envelope) : Except DetectionResultError (String × String) :=
  match envelope.language, envelope.script with
  | [l], [s] => .ok (l, s)
  | _, _ => .error (.inputContext "language, script")

/-- The decision, and the traversal of the observations that is left for the explanation. -/
def runDecision (rk : RuntimeKnowledge) (indicatorObservations observations : Traversals)
    (envelope : Envelope) (status : String) (wholeErrors : List Json) :
    Except Failure (DecisionResult × List Json) :=
  if wholeErrors ≠ [] then
    ((Aggregation.aggregateDecision rk defaultProfile [] "ERROR" wholeErrors).mapError
      (.decision ∘ .aggregation)).map (·, [])
  else if status = "SUPPORTED" ∨ status = "PARTIALLY_SUPPORTED" then do
    let (language, script) ← (singleScalar envelope).mapError .result
    let d ← (Aggregation.evaluateDecision rk defaultProfile (indicatorObservations 0)
      (observations 0) status language script []).mapError .decision
    -- the explanation iterates the caller's own object, a second time
    return (d, observations 1)
  else
    ((Aggregation.aggregateDecision rk defaultProfile [] status []).mapError
      (.decision ∘ .aggregation)).map (·, [])

/-- The explanation of a decision and the envelope around both. -/
def conclude (rk : RuntimeKnowledge) (d : DecisionResult) (observations : List Json)
    (envelope : Envelope) : Except Failure DetectionResult := do
  let e ← (Explanation.buildExplanation render rk true (d.supply render) observations).mapError
    .explanation
  (assembleDetectionResult isInstant render rk d e envelope).mapError .result

/-- `evaluate_detection_from_governed` -/
def evaluateDetection (rk : RuntimeKnowledge) (indicatorObservations observations : Traversals)
    (envelope : Envelope) (status : String) (wholeErrors : List Json) :
    Except Failure DetectionResult := do
  (validateContext isInstant envelope status wholeErrors).mapError .result
  let (d, remaining) ←
    runDecision rk indicatorObservations observations envelope status wholeErrors
  conclude isInstant render rk d remaining envelope

end Detection
end TrustLens.Runtime
