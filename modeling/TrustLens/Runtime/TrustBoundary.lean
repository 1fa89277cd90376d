import TrustLens.Runtime.Aggregation

/-!
# The trust boundary of the explanation

A decision is a plain record that any caller can fill in. Before anything of it is
explained, it is checked against the loaded knowledge and against what its own rule
results imply.
-/

namespace TrustLens.Runtime

open Aggregation (Corroboration DecidedResult DecisionResult ErrorEntry)

def Support.name : Support → String
  | .SUPPORTED => "SUPPORTED"
  | .PARTIALLY_SUPPORTED => "PARTIALLY_SUPPORTED"
  | .UNSUPPORTED => "UNSUPPORTED"
  | .INSUFFICIENT_INFORMATION => "INSUFFICIENT_INFORMATION"
  | .ERROR => "ERROR"

def Classification.name : Classification → String
  | .NO_SCAM_PATTERN => "NO_SCAM_PATTERN"
  | .INSUFFICIENT_EVIDENCE => "INSUFFICIENT_EVIDENCE"
  | .SCAM_PATTERN_SUSPECTED => "SCAM_PATTERN_SUSPECTED"
  | .SCAM_PATTERN_DETECTED => "SCAM_PATTERN_DETECTED"
  | .UNSUPPORTED => "UNSUPPORTED"
  | .ERROR => "ERROR"

def Strength.name : Strength → String
  | .NONE => "NONE"
  | .WEAK => "WEAK"
  | .MODERATE => "MODERATE"
  | .STRONG => "STRONG"

def Confidence.name : Confidence → String
  | .NOT_APPLICABLE => "NOT_APPLICABLE"
  | .LOW => "LOW"
  | .MEDIUM => "MEDIUM"
  | .HIGH => "HIGH"

/-- A severity or risk of a decision. -/
def levelName : WithBot Severity → String
  | none => "NONE"
  | some s => s.name

namespace RuntimeKnowledge

variable (rk : RuntimeKnowledge)

/-- The pinned version of a component. -/
def componentVersion (key : String) : Option String :=
  (rk.componentVersions.find? (·.1 == key)).map Prod.snd

/-- `has_action_policy`: a pin and a policy that has entries. -/
def hasActionPolicy : Bool :=
  (Evaluator.nonEmpty? (rk.componentVersion "action_policy")).isSome && !rk.actionPolicy.isEmpty

/-- `action_policy_version` -/
def actionPolicyVersion : Option String :=
  if rk.hasActionPolicy then rk.componentVersion "action_policy" else none

/-- `published_rule` -/
def publishedRule (id : String) : Option Rule := (rk.rule id).filter isPublished

end RuntimeKnowledge

/-- A `DecisionResult` as a caller may build it: the record with the field types its class
declares, and no relation between the fields. -/
structure SuppliedDecision where
  inputSupportStatus : String
  classification : String
  decisionSeverity : String
  matchedEvidenceStrength : String
  riskLevel : String
  detectionConfidence : String
  corroboration : Corroboration
  governingRuleId : Option String
  governingReason : Option String
  matchedRules : List String
  matchedPositiveIndicators : List String
  matchedNegativeIndicators : List String
  suppressedIndicators : List String
  activeOverrides : List String
  ambiguities : List String
  unknowns : List String
  degraded : Bool
  errors : List Json
  ruleResults : List DecidedResult
  evaluationProfile : EvaluationProfile
deriving DecidableEq

/-- An `errors` entry as the mapping it is; `render` gives the text of a message. -/
def Aggregation.ErrorEntry.toJson (render : ErrorMessage → String) : ErrorEntry → Json
  | .whole e => e
  | .rule ruleId error => .obj
      [("scope", .str "SINGLE_RULE"), ("stage", .str "RULE_EVALUATION"),
       ("code", .str error.code.name), ("message", .str (render error.message)),
       ("rule_id", .str ruleId)]

/-- A decision of the aggregation, handed on as the plain record. -/
def Aggregation.DecisionResult.supply (render : ErrorMessage → String) (d : DecisionResult) :
    SuppliedDecision where
  inputSupportStatus := d.inputSupportStatus.name
  classification := d.classification.name
  decisionSeverity := levelName d.decisionSeverity
  matchedEvidenceStrength := d.matchedEvidenceStrength.name
  riskLevel := levelName d.riskLevel
  detectionConfidence := d.detectionConfidence.name
  corroboration := d.corroboration
  governingRuleId := d.governingRuleId
  governingReason := d.governingReason
  matchedRules := d.matchedRules
  matchedPositiveIndicators := d.matchedPositiveIndicators
  matchedNegativeIndicators := d.matchedNegativeIndicators
  suppressedIndicators := d.suppressedIndicators
  activeOverrides := d.activeOverrides
  ambiguities := d.ambiguities
  unknowns := d.unknowns
  degraded := d.degraded
  errors := d.errors.map (ErrorEntry.toJson render)
  ruleResults := d.ruleResults
  evaluationProfile := d.evaluationProfile

namespace SuppliedDecision

variable (d : SuppliedDecision)

def results : List RuleResult := d.ruleResults.map DecidedResult.result

def eligible : List RuleResult := d.results.filter RuleResult.isEligibleMatched

def composites : List RuleResult := d.results.filter RuleResult.isComposite

/-- `whole_error` -/
def hasWholeError : Bool := d.errors.any fun e => e.get "scope" == .str "WHOLE_EVALUATION"

end SuppliedDecision

namespace Explanation

/-- Why a classification cannot go with the axes of its decision. -/
inductive Inconsistency where
  /-- cannot carry a WHOLE_EVALUATION error -/
  | wholeError
  /-- decision axes must be NONE/NOT_APPLICABLE -/
  | axesPresent
  /-- non-evaluable input_support_status -/
  | nonEvaluable
  /-- no governing rule -/
  | noGoverning
  /-- governing rule not in matched_rules -/
  | governingNotMatched
  /-- no eligible MATCHED composite rule -/
  | noEligible
  /-- governing rule absent from rule_results -/
  | governingAbsent
  /-- governing rule is not an eligible MATCHED composite -/
  | governingNotEligible
  /-- severity/strength/risk must be non-NONE -/
  | axesAbsent
  /-- detection_confidence must be applicable -/
  | confidenceAbsent
  /-- SCAM_PATTERN_DETECTED with LOW detection_confidence -/
  | detectedLow
  /-- SCAM_PATTERN_SUSPECTED requires LOW detection_confidence -/
  | suspectedNotLow
  /-- a governing rule -/
  | governingPresent
  /-- an eligible MATCHED harmful rule -/
  | eligiblePresent
  /-- UNSUPPORTED classification requires input_support_status UNSUPPORTED -/
  | supportMismatch
  /-- a governing/eligible harmful rule -/
  | governingOrEligible
  /-- ERROR requires input_support_status ERROR or a WHOLE_EVALUATION error -/
  | errorUnbacked
  /-- unknown classification -/
  | unknownClassification
deriving DecidableEq

/-- `ExplanationError` -/
inductive ExplanationError where
  /-- the executed RuntimeKnowledge pins no governed action policy -/
  | policyUnavailable
  /-- invalid axis value -/
  | invalidAxis (field value : String)
  /-- fails rule-evaluation-result.schema.json -/
  | resultSchema (ruleId : String)
  /-- rule_result semantic invariant -/
  | resultInvariant (e : Aggregation.AggregationError)
  /-- rule_id does not resolve in RuntimeKnowledge -/
  | resultUnresolved (ruleId : String)
  /-- duplicate rule_id in rule_results -/
  | resultDuplicate (ruleId : String)
  /-- contains duplicate members -/
  | duplicateMembers (field : String)
  /-- does not match the WP5 rollup implied by rule_results -/
  | rollupMismatch (field : String)
  /-- malformed decision error -/
  | malformedError
  /-- SINGLE_RULE errors do not match NOT_APPLICABLE rule_results -/
  | singleRuleErrors
  | inconsistent (classification : String) (reason : Inconsistency)
  /-- contributing rule is not PUBLISHED -/
  | unpublished (ruleId : String)
  /-- contributing rule does not resolve in RuntimeKnowledge -/
  | contributingUnresolved (ruleId : String)
  /-- active override does not resolve in RuntimeKnowledge -/
  | overrideUnresolved (overrideId : String)
  /-- source_references are not an exact echo of governed authority -/
  | sourceMismatch (ruleId : String)
  /-- malformed decision/knowledge for explanation: a caught `TypeError` -/
  | malformed
deriving DecidableEq

/-- `ExplanationError.code` -/
def ExplanationError.code : ExplanationError → String
  | .policyUnavailable => "ACTION_POLICY_UNAVAILABLE"
  | .invalidAxis _ _ => "INVALID_DECISION"
  | .resultSchema _ => "RULE_RESULT_INVALID"
  | .resultInvariant _ => "RULE_RESULT_INVALID"
  | .resultUnresolved _ => "REFERENCE_INVALID"
  | .resultDuplicate _ => "RULE_RESULT_INVALID"
  | .duplicateMembers _ => "ROLLUP_MISMATCH"
  | .rollupMismatch _ => "ROLLUP_MISMATCH"
  | .malformedError => "INVALID_DECISION"
  | .singleRuleErrors => "ROLLUP_MISMATCH"
  | .inconsistent _ _ => "CLASSIFICATION_INCONSISTENT"
  | .unpublished _ => "UNPUBLISHED_RULE"
  | .contributingUnresolved _ => "REFERENCE_INVALID"
  | .overrideUnresolved _ => "REFERENCE_INVALID"
  | .sourceMismatch _ => "SOURCE_REFERENCE_MISMATCH"
  | .malformed => "EXPLANATION_ERROR"

/-! ### Axes and rule results -/

def evaluableSupport : List String := ["SUPPORTED", "PARTIALLY_SUPPORTED"]

def levelValues : List String := ["NONE", "LOW", "MEDIUM", "HIGH", "CRITICAL"]

/-- Each axis with its vocabulary, in the order they are checked. -/
def axisChecks (d : SuppliedDecision) : List (String × String × List String) :=
  [("input_support_status", d.inputSupportStatus,
      ["SUPPORTED", "PARTIALLY_SUPPORTED", "UNSUPPORTED", "INSUFFICIENT_INFORMATION", "ERROR"]),
   ("classification", d.classification,
      ["NO_SCAM_PATTERN", "INSUFFICIENT_EVIDENCE", "SCAM_PATTERN_SUSPECTED",
       "SCAM_PATTERN_DETECTED", "UNSUPPORTED", "ERROR"]),
   ("decision_severity", d.decisionSeverity, levelValues),
   ("matched_evidence_strength", d.matchedEvidenceStrength, ["NONE", "WEAK", "MODERATE", "STRONG"]),
   ("risk_level", d.riskLevel, levelValues),
   ("detection_confidence", d.detectionConfidence, ["NOT_APPLICABLE", "LOW", "MEDIUM", "HIGH"])]

def checkAxis (axis : String × String × List String) : Except ExplanationError Unit :=
  if axis.2.1 ∈ axis.2.2 then .ok () else .error (.invalidAxis axis.1 axis.2.1)

/-- The result schema, with the fields the decision adds. -/
def resultConforms (r : DecidedResult) : Bool :=
  Aggregation.conforms r.result && r.ruleDetectionConfidence != some .NOT_APPLICABLE

/-- The pass over `rule_results`; `seen` are the ids so far. -/
def checkResults (rk : RuntimeKnowledge) (seen : List String) :
    List DecidedResult → Except ExplanationError Unit
  | [] => .ok ()
  | r :: rest =>
    if resultConforms r = false then .error (.resultSchema r.result.ruleId)
    else
      match Aggregation.checkSemanticInvariants rk r.result with
      | .error e => .error (.resultInvariant e)
      | .ok () =>
        if rk.rule r.result.ruleId = none then .error (.resultUnresolved r.result.ruleId)
        else if r.result.ruleId ∈ seen then .error (.resultDuplicate r.result.ruleId)
        else checkResults rk (r.result.ruleId :: seen) rest

/-! ### Rollups -/

/-- Each rollup with the value the rule results imply for it. -/
def rollupChecks (d : SuppliedDecision) : List (String × List String × List String) :=
  [("matched_rules", d.matchedRules, sortedUnique (d.eligible.map RuleResult.ruleId)),
   ("matched_positive_indicators", d.matchedPositiveIndicators,
      sortedUnique (d.eligible.flatMap RuleResult.matchedPositiveIndicators)),
   ("matched_negative_indicators", d.matchedNegativeIndicators,
      sortedUnique (d.composites.flatMap RuleResult.matchedNegativeIndicators)),
   ("suppressed_indicators", d.suppressedIndicators,
      sortedUnique (d.composites.flatMap RuleResult.neutralisedIndicators)),
   ("active_overrides", d.activeOverrides,
      sortedUnique (d.composites.flatMap RuleResult.activeOverrides)),
   ("ambiguities", d.ambiguities, sortedUnique (d.composites.flatMap RuleResult.ambiguities)),
   ("unknowns", d.unknowns, sortedUnique (d.composites.flatMap RuleResult.unknowns))]

/-- `_canonical_rollup` and its comparison: order is ignored, a repetition is not. -/
def checkRollup (rollup : String × List String × List String) : Except ExplanationError Unit :=
  if ¬rollup.2.1.Nodup then .error (.duplicateMembers rollup.1)
  else if rollup.2.1.insertionSort (· ≤ ·) ≠ rollup.2.2 then .error (.rollupMismatch rollup.1)
  else .ok ()

/-- What `_canon` prints of an error that passed its schema: the schema allows no other key. -/
def canonicalError (e : Json) : List (Option String) :=
  ["code", "message", "rule_id", "scope", "stage"].map fun key => (e.get key).str?

/-- The SINGLE_RULE errors a decision carries. -/
def actualSingle (d : SuppliedDecision) : List (List (Option String)) :=
  (d.errors.filter fun e => e.get "scope" == .str "SINGLE_RULE").map canonicalError

/-- The errors of the rules that were not evaluated normally. -/
def ruleErrors (results : List RuleResult) : List ErrorEntry :=
  results.filterMap fun r =>
    if r.isDegraded then r.evaluationError.map (.rule r.ruleId) else none

variable (render : ErrorMessage → String)

/-- `_validate_wp5_rollups` -/
def validateRollups (d : SuppliedDecision) : Except ExplanationError Unit := do
  (rollupChecks d).forM checkRollup
  if d.degraded ≠ d.results.any RuleResult.isDegraded then .error (.rollupMismatch "degraded")
  else if d.errors.all Aggregation.wholeErrorSchema = false then .error .malformedError
  else if (actualSingle d).isPerm
      ((ruleErrors d.results).map fun e => canonicalError (e.toJson render)) = false then
    .error .singleRuleErrors
  else .ok ()

/-! ### Classification -/

/-- The `_none_axes` test. -/
def axesPresent (d : SuppliedDecision) : Bool :=
  d.decisionSeverity != "NONE" || d.matchedEvidenceStrength != "NONE" || d.riskLevel != "NONE" ||
    d.detectionConfidence != "NOT_APPLICABLE"

def isScamClass (c : String) : Bool :=
  ["SCAM_PATTERN_DETECTED", "SCAM_PATTERN_SUSPECTED"].contains c

/-- The first entry of `rule_results` with the governing id. -/
def governingResult (d : SuppliedDecision) : Option RuleResult :=
  d.governingRuleId.bind fun id => d.results.find? (·.ruleId == id)

/-- What each classification rules out, in the order it is tested. -/
def classificationChecks (d : SuppliedDecision) : List (Bool × Inconsistency) :=
  (d.classification != "ERROR" && d.hasWholeError, .wholeError) ::
  if isScamClass d.classification then
    [(!evaluableSupport.contains d.inputSupportStatus, .nonEvaluable),
     (d.governingRuleId.isNone, .noGoverning),
     (!d.governingRuleId.any d.matchedRules.contains, .governingNotMatched),
     (d.eligible.isEmpty, .noEligible),
     ((governingResult d).isNone, .governingAbsent),
     (!(governingResult d).any RuleResult.isEligibleMatched, .governingNotEligible),
     (d.decisionSeverity == "NONE" || d.matchedEvidenceStrength == "NONE" ||
        d.riskLevel == "NONE", .axesAbsent),
     (d.detectionConfidence == "NOT_APPLICABLE", .confidenceAbsent),
     (d.classification == "SCAM_PATTERN_DETECTED" && d.detectionConfidence == "LOW", .detectedLow),
     (d.classification == "SCAM_PATTERN_SUSPECTED" && d.detectionConfidence != "LOW",
        .suspectedNotLow)]
  else if d.classification = "NO_SCAM_PATTERN" then
    [(!evaluableSupport.contains d.inputSupportStatus, .nonEvaluable),
     (d.governingRuleId.isSome, .governingPresent),
     (!d.eligible.isEmpty, .eligiblePresent),
     (axesPresent d, .axesPresent)]
  -- the support status is not looked at here
  else if d.classification = "INSUFFICIENT_EVIDENCE" then
    [(d.governingRuleId.isSome, .governingPresent),
     (!d.eligible.isEmpty, .eligiblePresent),
     (axesPresent d, .axesPresent)]
  else if d.classification = "UNSUPPORTED" then
    [(d.inputSupportStatus != "UNSUPPORTED", .supportMismatch),
     (d.governingRuleId.isSome || !d.eligible.isEmpty, .governingOrEligible),
     (axesPresent d, .axesPresent)]
  else if d.classification = "ERROR" then
    [(!(d.inputSupportStatus == "ERROR" || d.hasWholeError), .errorUnbacked),
     (d.governingRuleId.isSome || !d.eligible.isEmpty, .governingOrEligible),
     (axesPresent d, .axesPresent)]
  else [(true, .unknownClassification)]

/-- `_validate_classification` -/
def validateClassification (d : SuppliedDecision) : Except ExplanationError Unit :=
  match (classificationChecks d).find? Prod.fst with
  | some check => .error (.inconsistent d.classification check.2)
  | none => .ok ()

/-! ### References -/

/-- The rules of the live path are the published ones. -/
def ruleOf (rk : RuntimeKnowledge) (live : Bool) (id : String) : Option Rule :=
  if live then rk.publishedRule id else rk.rule id

/-- `_contributing_rule_ids` -/
def contributingRuleIds (d : SuppliedDecision) : List String :=
  sortedUnique (d.matchedRules ++ d.governingRuleId.toList ++
    if d.classification = "INSUFFICIENT_EVIDENCE" then
      (d.results.filter RuleResult.isUnresolvedHarmful).map RuleResult.ruleId
    else [])

def checkContributing (rk : RuntimeKnowledge) (live : Bool) (id : String) :
    Except ExplanationError Unit :=
  if (ruleOf rk live id).isSome then .ok ()
  else if live = true ∧ (rk.rule id).isSome then .error (.unpublished id)
  else .error (.contributingUnresolved id)

def checkOverride (rk : RuntimeKnowledge) (id : String) : Except ExplanationError Unit :=
  if (rk.override id).isSome then .ok () else .error (.overrideUnresolved id)

/-- `_authoritative_source_refs` -/
def authoritativeSourceRefs (rule : Option Rule) : List SourceEcho :=
  ((rule.map Rule.sourceReferences).getD []).map fun ref =>
    { sourceId := ref.sourceId
      issuingBody := ref.issuingBody
      verificationStatus := ref.verificationStatus
      authority := Evaluator.nonEmpty? ref.authority
      evidenceClass := Evaluator.nonEmpty? ref.evidenceClass
      quote := Evaluator.nonEmpty? ref.quote }

/-- The echo of a rule's sources, compared as a collection with repetitions. -/
def checkSources (rk : RuntimeKnowledge) (live : Bool) (r : RuleResult) :
    Except ExplanationError Unit :=
  if r.sourceReferences.isPerm (authoritativeSourceRefs (ruleOf rk live r.ruleId)) then .ok ()
  else .error (.sourceMismatch r.ruleId)

def checkPolicy (rk : RuntimeKnowledge) : Except ExplanationError Unit :=
  if rk.hasActionPolicy then .ok () else .error .policyUnavailable

/-- `_validate_explanation_input` -/
def validateInput (rk : RuntimeKnowledge) (live : Bool) (d : SuppliedDecision) :
    Except ExplanationError Unit := do
  checkPolicy rk
  (axisChecks d).forM checkAxis
  checkResults rk [] d.ruleResults
  validateRollups render d
  validateClassification d
  (contributingRuleIds d).forM (checkContributing rk live)
  d.activeOverrides.forM (checkOverride rk)
  d.eligible.forM (checkSources rk live)

end Explanation
end TrustLens.Runtime
