import Mathlib.Data.Prod.Lex
import Mathlib.Order.WithBot
import TrustLens.Runtime.Independence
import TrustLens.Runtime.Suppression

/-!
# Decision aggregation

Folds the results of all rules into one decision. Every incoming result is checked
against the result schema and the semantic matrix first, so that nothing malformed
can end in a reassuring classification.
-/

namespace TrustLens.Runtime

/-- `_SUPPORT_STATES` -/
inductive Support where
  | SUPPORTED
  | PARTIALLY_SUPPORTED
  | UNSUPPORTED
  | INSUFFICIENT_INFORMATION
  | ERROR
deriving DecidableEq

def Support.ofString? : String → Option Support
  | "SUPPORTED" => some .SUPPORTED
  | "PARTIALLY_SUPPORTED" => some .PARTIALLY_SUPPORTED
  | "UNSUPPORTED" => some .UNSUPPORTED
  | "INSUFFICIENT_INFORMATION" => some .INSUFFICIENT_INFORMATION
  | "ERROR" => some .ERROR
  | _ => none

inductive Classification where
  | NO_SCAM_PATTERN
  | INSUFFICIENT_EVIDENCE
  | SCAM_PATTERN_SUSPECTED
  | SCAM_PATTERN_DETECTED
  | UNSUPPORTED
  | ERROR
deriving DecidableEq

inductive Confidence where
  | NOT_APPLICABLE
  | LOW
  | MEDIUM
  | HIGH
deriving DecidableEq

/-- `CORROBORATION_BANDS` -/
inductive Band where
  | NONE
  | LOW
  | MEDIUM
  | HIGH
deriving DecidableEq

/-- `STRENGTH_ORDER` -/
inductive Strength where
  | NONE
  | WEAK
  | MODERATE
  | STRONG
deriving DecidableEq

namespace Strength

def index : Strength → ℕ
  | NONE => 0
  | WEAK => 1
  | MODERATE => 2
  | STRONG => 3

lemma index_injective : Function.Injective index := by
  intro a b h
  cases a <;> cases b <;> simp_all [index]

instance : LinearOrder Strength := LinearOrder.lift' index index_injective

/-- Membership in `INDICATOR_STRENGTH_ORDER`. -/
def ofIndicator? : Option String → Option Strength
  | some "WEAK" => some WEAK
  | some "MODERATE" => some MODERATE
  | some "STRONG" => some STRONG
  | _ => none

end Strength

/-- `_VALID_VERDICTS` -/
inductive EvidenceVerdict where
  | SUPPORTED
  | PARTIAL
  | HEURISTIC
  | UNSUPPORTED
deriving DecidableEq

namespace EvidenceVerdict

def ofJson? : Json → Option EvidenceVerdict
  | .str "SUPPORTED" => some SUPPORTED
  | .str "PARTIAL" => some PARTIAL
  | .str "HEURISTIC" => some HEURISTIC
  | .str "UNSUPPORTED" => some UNSUPPORTED
  | _ => none

/-- `_VERDICT_RANK` -/
def rank : EvidenceVerdict → ℤ
  | SUPPORTED => 3
  | PARTIAL => 2
  | HEURISTIC => 1
  | UNSUPPORTED => 0

/-- `_VERDICT_STRENGTH_CAP` -/
def strengthCap : EvidenceVerdict → Strength
  | SUPPORTED => .STRONG
  | PARTIAL => .MODERATE
  | HEURISTIC => .WEAK
  | UNSUPPORTED => .WEAK

end EvidenceVerdict

namespace RuleResult

variable (r : RuleResult)

def severity? : Option Severity := r.effectiveSeverity.bind Severity.ofJson?

def verdict? : Option EvidenceVerdict := r.ruleEvidenceVerdict.bind EvidenceVerdict.ofJson?

def isComposite : Bool := r.kind == .COMPOSITE

/-- `_is_eligible_matched` -/
def isEligibleMatched : Bool :=
  r.isComposite && r.evaluationState == .MATCHED && r.requiredCombinationResult == .TRUE &&
    r.severity?.isSome

/-- `_is_unresolved_harmful`: a sparse INDETERMINATE is inert. -/
def isUnresolvedHarmful : Bool :=
  r.isComposite && r.evaluationState == .INDETERMINATE && r.requiredCombinationResult == .UNKNOWN &&
    (!r.ambiguities.isEmpty || !r.unknowns.isEmpty)

/-- One step of `_has_affirmative_benign_clear`. -/
def isBenignClear : Bool :=
  r.isComposite && (r.evaluationState == .SUPPRESSED ||
    (r.evaluationState == .NOT_MATCHED && r.requiredCombinationResult == .FALSE))

/-- A rule that was not evaluated normally. -/
def isDegraded : Bool := r.evaluationState == .NOT_APPLICABLE && r.evaluationError.isSome

end RuleResult

namespace Aggregation

/-! ### The result schema -/

section Schema

open Schema (anchored headTail isUpper isAsciiDigit isAlpha)

/-- `^TL-[A-Z]{3,5}-\d{3}$` -/
def ruleIdPattern : String → Bool :=
  anchored fun cs =>
    cs.take 3 == "TL-".toList &&
      (let letters := (cs.drop 3).takeWhile isUpper
       let tail := (cs.drop 3).dropWhile isUpper
       3 ≤ letters.length && letters.length ≤ 5 && tail.head? == some '-' &&
        tail.length == 4 && tail.tail.all PyText.isDigit)

/-- `\d+` in each of the parts between full stops. -/
def digitParts (n : ℕ) (cs : List Char) : Bool :=
  let parts := cs.splitOn '.'
  parts.length == n && parts.all fun p => !p.isEmpty && p.all PyText.isDigit

/-- `^\d+\.\d+\.\d+$` -/
def versionPattern : String → Bool := anchored (digitParts 3)

/-- `^HR_[A-Z_]+$` -/
def overrideIdPattern : String → Bool :=
  anchored fun cs =>
    cs.take 3 == "HR_".toList && !(cs.drop 3).isEmpty &&
      (cs.drop 3).all fun c => isUpper c || c == '_'

def instanceRef : String → Bool :=
  anchored (headTail (fun c => isAlpha c || isAsciiDigit c)
    (fun c => isAlpha c || isAsciiDigit c || "_.:-".toList.contains c) 1 127)

/-- A fixed lead followed by three digits. -/
def numbered (lead : String) : String → Bool :=
  anchored fun cs =>
    cs.take lead.length == lead.toList && (cs.drop lead.length).length == 3 &&
      (cs.drop lead.length).all PyText.isDigit

def evidenceClassNames : List String :=
  ["PRETEXT", "PRESSURE", "IDENTITY_CLAIM", "CREDENTIAL_ACTION", "PAYMENT_ACTION",
    "DEVICE_ACTION", "FINANCIAL_CLAIM", "CHANNEL_ARTIFACT"]

def oneOf (names : List String) : Option String → Bool
  | none => true
  | some s => names.contains s

def suppressionConforms (s : Suppression) : Bool :=
  let ids (xs : List String) := decide xs.Nodup && xs.all Condition.indicatorId
  s.suppressedBy.all Condition.indicatorId && ids s.appliedSuppressors &&
    decide s.severityCapsApplied.Nodup && s.severityCapsApplied.all (· ≠ .CRITICAL) &&
    ids s.appliedSeverityCaps && ids s.blockedSuppressors && ids s.blockedSeverityCaps &&
    ids s.contextOnlyPresent

def sourceConforms (s : SourceEcho) : Bool :=
  s.sourceId.any (numbered "SRC-") && s.issuingBody.isSome &&
    s.verificationStatus.any (["PRIMARY_VERIFIED", "PRIMARY_CITED_UNVERIFIED", "INDEX_ONLY",
      "RETRIEVAL_FAILED"].contains ·) &&
    oneOf ["OFFICIAL_REGULATOR", "OFFICIAL_GOVERNMENT", "OFFICIAL_PAYMENT_OPERATOR",
      "FOREIGN_OFFICIAL", "INDUSTRY"] s.authority &&
    oneOf ["PRIMARY", "OFFICIAL_ALTERNATE", "OFFICIAL_REPLACEMENT", "INDUSTRY", "SECONDARY"]
      s.evidenceClass

def provenanceConforms (groups : List (List String)) : Bool :=
  !groups.isEmpty && decide groups.Nodup &&
    groups.all fun g => !g.isEmpty && decide g.Nodup && g.all instanceRef

/-- `rule-evaluation-result.schema.json` on a typed result: the keywords that its type does not
already guarantee. -/
def conforms (r : RuleResult) : Bool :=
  ruleIdPattern r.ruleId && versionPattern r.ruleVersion &&
    r.matchedPositiveIndicators.all Condition.indicatorId &&
    r.matchedNegativeIndicators.all Condition.indicatorId &&
    r.neutralisedIndicators.all Condition.indicatorId &&
    r.observationRefs.all instanceRef &&
    (r.livePositiveProvenance.all fun e => Condition.indicatorId e.1 && provenanceConforms e.2) &&
    decide r.evidenceClassesSpanned.Nodup &&
    r.evidenceClassesSpanned.all evidenceClassNames.contains &&
    r.minEvidenceClassesRequired.all (2 ≤ ·) &&
    r.suppression.all suppressionConforms &&
    r.activeOverrides.all overrideIdPattern &&
    (r.extractionConfidenceInputs.all fun e => Condition.indicatorId e.1) &&
    r.ruleEvidenceVerdict.all (fun v => (EvidenceVerdict.ofJson? v).isSome) &&
    r.ruleSeverityDeclared.all (fun s => (Severity.ofJson? s).isSome) &&
    r.effectiveSeverity.all (fun s => (Severity.ofJson? s).isSome) &&
    r.sourceReferences.all sourceConforms &&
    r.evidenceIds.all (numbered "MR-EVID-") &&
    (r.evaluationState != .SUPPRESSED || (r.requiredCombinationResult == .TRUE &&
      r.suppression.any fun s => !s.appliedSuppressors.isEmpty && s.suppressedBy.isSome)) &&
    (!(r.suppression.any fun s => !s.appliedSuppressors.isEmpty) ||
      (r.evaluationState == .SUPPRESSED && r.requiredCombinationResult == .TRUE))

end Schema

/-- `AggregationError` -/
inductive AggregationError where
  /-- unknown input_support_status -/
  | unknownSupport (status : String)
  /-- malformed whole_evaluation_errors entry -/
  | malformedWholeError
  /-- WP4 result fails rule-evaluation-result.schema.json -/
  | schema (ruleId : String)
  /-- state with a required_combination_result it does not allow -/
  | statePairing (ruleId : String)
  /-- NOT_APPLICABLE needs a well-formed evaluation_error -/
  | missingError (ruleId : String)
  /-- evaluation_error present on a normal result -/
  | unexpectedError (ruleId : String)
  /-- COMPOSITE result has missing/invalid rule_evidence_verdict -/
  | invalidVerdict (ruleId : String)
  /-- MATCHED composite has invalid effective_severity -/
  | invalidSeverity (ruleId : String)
  /-- a governed reference does not resolve -/
  | unresolved (ruleId id : String)
  /-- live_positive_provenance key not in matched_positive_indicators -/
  | strayProvenance (ruleId id : String)
  /-- duplicate rule_id in the WP4 result set -/
  | duplicateRule (ruleId : String)
  /-- indicator has invalid governed strength -/
  | invalidStrength (ruleId id : String)
  /-- illegal severity and strength for the risk matrix -/
  | illegalCell (severity : Severity) (strength : Strength)
deriving DecidableEq

/-- The `$defs/evaluationError` contract of the whole-evaluation errors. -/
def wholeErrorSchema : Schema.Validator :=
  Schema.object ["scope", "code", "message"]
    [("scope", Schema.enum ["WHOLE_EVALUATION", "SINGLE_RULE"]),
     ("stage", Schema.enum ["BUNDLE_INTEGRITY", "BUNDLE_VERSION", "SCHEMA_COMPATIBILITY",
       "PROVENANCE_MISSING", "EXTRACTION_MALFORMED", "RULE_EVALUATION", "OTHER"]),
     ("code", Schema.string),
     ("message", Schema.string),
     ("rule_id", Schema.pattern ruleIdPattern)]

/-- `_validate_and_canonical_copy` -/
def validateAndCanonicalCopy (r : RuleResult) : Except AggregationError RuleResult :=
  if conforms r = false then .error (.schema r.ruleId)
  else
    .ok { r.canonical with
      livePositiveProvenance := (r.livePositiveProvenance.insertionSort
        fun a b => a.1 ≤ b.1).map fun e => (e.1, sortedUnique (e.2.map sortedUnique)) }

/-- `_REQUIRED_FOR_STATE` -/
def requiredAllowed : EvaluationState → List Truth
  | .MATCHED => [.TRUE]
  | .SUPPRESSED => [.TRUE]
  | .INDETERMINATE => [.UNKNOWN]
  | .NOT_MATCHED => [.TRUE, .FALSE]
  | .NOT_APPLICABLE => [.TRUE, .FALSE, .UNKNOWN]

/-- Every reference of a result that must resolve, with the registry it resolves in. -/
def unresolvedReference (rk : RuntimeKnowledge) (r : RuleResult) : Option String :=
  ((r.matchedPositiveIndicators ++ r.neutralisedIndicators).find? fun id =>
      (rk.indicator id).isNone).orElse fun _ =>
    (r.matchedNegativeIndicators.find? fun id => (rk.negativeIndicator id).isNone).orElse fun _ =>
      r.activeOverrides.find? fun id => (rk.override id).isNone

/-- `_check_semantic_invariants` -/
def checkSemanticInvariants (rk : RuntimeKnowledge) (r : RuleResult) :
    Except AggregationError Unit :=
  if r.requiredCombinationResult ∉ requiredAllowed r.evaluationState then
    .error (.statePairing r.ruleId)
  else if r.evaluationState = .NOT_APPLICABLE ∧
      (r.evaluationError.any fun e => e.code.name != "") = false then
    .error (.missingError r.ruleId)
  else if r.evaluationState ≠ .NOT_APPLICABLE ∧ r.evaluationError ≠ none then
    .error (.unexpectedError r.ruleId)
  else if r.isComposite = true ∧ r.evaluationState ≠ .NOT_APPLICABLE ∧ r.verdict? = none then
    .error (.invalidVerdict r.ruleId)
  else if r.isComposite = true ∧ r.evaluationState = .MATCHED ∧ r.severity? = none then
    .error (.invalidSeverity r.ruleId)
  else
    match unresolvedReference rk r with
    | some id => .error (.unresolved r.ruleId id)
    | none =>
      match r.provenanceIds.find? (· ∉ r.matchedPositiveIndicators) with
      | some id => .error (.strayProvenance r.ruleId id)
      | none => .ok ()

/-- All results copied before the first of them is checked further. -/
def materialise (rk : RuntimeKnowledge) (results : List RuleResult) :
    Except AggregationError (List RuleResult) := do
  let copies ← results.mapM validateAndCanonicalCopy
  copies.forM (checkSemanticInvariants rk)
  return copies

/-- The first id that occurs again. -/
def firstDuplicate (seen : List String) : List RuleResult → Option String
  | [] => none
  | r :: rest => if r.ruleId ∈ seen then some r.ruleId else firstDuplicate (r.ruleId :: seen) rest

/-! ### The axes of the decision -/

/-- The strengths of the matched indicators, which must all be governed ones. -/
def strengths (rk : RuntimeKnowledge) (ruleId : String) :
    List String → Except AggregationError (List Strength)
  | [] => .ok []
  | id :: rest =>
    match rk.indicator id with
    | none => .error (.unresolved ruleId id)
    | some ind =>
      match Strength.ofIndicator? ind.strength with
      | none => .error (.invalidStrength ruleId id)
      | some s => do return s :: (← strengths rk ruleId rest)

/-- `_rule_evidence_strength` -/
def ruleEvidenceStrength (rk : RuntimeKnowledge) (r : RuleResult) :
    Except AggregationError Strength := do
  let cap := (r.verdict?.map EvidenceVerdict.strengthCap).getD .WEAK
  let found ← strengths rk r.ruleId r.matchedPositiveIndicators
  let composite := min (found.max?.getD .WEAK) cap
  return if r.activeOverrides ≠ [] then max composite .MODERATE else composite

/-- An eligible rule with its effective severity and its strength. -/
structure Candidate where
  result : RuleResult
  severity : Severity
  strength : Strength
deriving DecidableEq

/-- The sort key of `_select_governing`. -/
def governingKey (c : Candidate) : ℤ ×ₗ ℤ ×ₗ ℤ ×ₗ String :=
  toLex (-(c.severity.index : ℤ), toLex (-((c.result.verdict?.map EvidenceVerdict.rank).getD 0),
    toLex (-(c.result.evidenceClassesSpanned.length : ℤ), c.result.ruleId)))

/-- `_select_governing` -/
def selectGoverning (eligible : List Candidate) : Option Candidate :=
  (eligible.insertionSort fun a b => governingKey a ≤ governingKey b).head?

/-- `_governing_reason` -/
def verdictText (r : RuleResult) : String :=
  match r.ruleEvidenceVerdict with
  | some (.str s) => s
  | _ => "None"

def governingReason (c : Candidate) (eligible : ℕ) : String :=
  "highest effective severity " ++ c.severity.name ++ "; evidence verdict " ++
    verdictText c.result ++ "; " ++ toString c.result.evidenceClassesSpanned.length ++
    " independent evidence class(es)" ++
    if 1 < eligible then "; selected over ties by severity > verdict (SUPPORTED>PARTIAL) > " ++
      "class breadth > lexical rule id" else ""

/-- The evidence class of each live occurrence group of the eligible rules. -/
def provenanceEntries (rk : RuntimeKnowledge) (eligible : List Candidate) :
    List (String × List String) :=
  eligible.flatMap fun c => c.result.matchedPositiveIndicators.flatMap fun id =>
    match Evaluator.nonEmpty? ((rk.indicator id).bind (·.evidenceClass)) with
    | none => []
    | some cls => (((c.result.livePositiveProvenance.find? (·.1 == id)).map Prod.snd).getD []).filterMap
        fun group => if group = [] then none else some (cls, sortedUnique group)

structure Corroboration where
  independentEvidenceClasses : List String := []
  evidenceClassCount : ℕ := 0
  band : Band := .NONE
  sharedObservationRefs : List String := []
deriving DecidableEq

/-- `_corroboration`: a partial or heuristic verdict caps the band. -/
def corroboration (proven : Independence.Independent) (verdict : Option EvidenceVerdict) :
    Corroboration where
  independentEvidenceClasses := proven.classes
  evidenceClassCount := proven.count
  band :=
    if proven.count = 0 then .NONE
    else if proven.count = 1 then .LOW
    else if proven.count = 2 then .MEDIUM
    else if verdict = some .PARTIAL ∨ verdict = some .HEURISTIC then .MEDIUM
    else .HIGH
  sharedObservationRefs := proven.sharedRefs

/-- `_corroboration_no_fire` -/
def corroborationNoFire (results : List RuleResult) (classification : Classification) :
    Corroboration :=
  if classification = .INSUFFICIENT_EVIDENCE ∧ results.any RuleResult.isUnresolvedHarmful = false ∧
      (results.any fun r => r.isComposite && !r.matchedPositiveIndicators.isEmpty) = true then
    { band := .LOW }
  else {}

/-- The extraction level of a matched indicator, as a rank; UNKNOWN has none. -/
def confidenceRank (r : RuleResult) (id : String) : ℕ :=
  match (r.extractionConfidenceInputs.find? (·.1 == id)).bind Prod.snd with
  | some level => level.rank
  | none => 0

/-- `_detection_confidence` -/
def detectionConfidence (governing : RuleResult) (provenCount : ℕ) : Confidence :=
  let ranks := governing.matchedPositiveIndicators.map (confidenceRank governing)
  if governing.verdict? = some .SUPPORTED ∧ governing.ambiguities = [] ∧
      Level.MEDIUM.rank ≤ ranks.min?.getD 0 ∧ (3 ≤ provenCount ∨ governing.activeOverrides ≠ []) then
    .HIGH
  else if (governing.suppression.any fun s => !s.contextOnlyPresent.isEmpty) = true ∨
      governing.verdict? = some .HEURISTIC ∨ governing.verdict? = some .UNSUPPORTED then .LOW
  else .MEDIUM

/-- `_classify` -/
def classify (support : Support) (eligible : Bool) (results : List RuleResult)
    (confidence : Confidence) (degraded wholeError : Bool) : Classification :=
  if wholeError = true ∨ support = .ERROR then .ERROR
  else if support = .UNSUPPORTED then .UNSUPPORTED
  else if support = .INSUFFICIENT_INFORMATION then .INSUFFICIENT_EVIDENCE
  else if eligible = true then
    if confidence = .LOW then .SCAM_PATTERN_SUSPECTED else .SCAM_PATTERN_DETECTED
  else if degraded = true then .INSUFFICIENT_EVIDENCE
  else if results.any RuleResult.isUnresolvedHarmful = true then .INSUFFICIENT_EVIDENCE
  else if results.any RuleResult.isBenignClear = true then .NO_SCAM_PATTERN
  else .INSUFFICIENT_EVIDENCE

/-- `RISK_MATRIX`; its NONE row is `_risk_level`'s first test. -/
def riskMatrix : Severity → Strength → Option Severity
  | .LOW, .WEAK => some .LOW
  | .LOW, .MODERATE => some .LOW
  | .LOW, .STRONG => some .MEDIUM
  | .MEDIUM, .WEAK => some .LOW
  | .MEDIUM, .MODERATE => some .MEDIUM
  | .MEDIUM, .STRONG => some .MEDIUM
  | .HIGH, .WEAK => some .MEDIUM
  | .HIGH, .MODERATE => some .HIGH
  | .HIGH, .STRONG => some .HIGH
  | .CRITICAL, .WEAK => some .HIGH
  | .CRITICAL, .MODERATE => some .HIGH
  | .CRITICAL, .STRONG => some .CRITICAL
  | _, .NONE => none

/-! ### The decision -/

/-- An entry of `errors`. -/
inductive ErrorEntry where
  | whole (e : Json)
  | rule (ruleId : String) (error : EvaluationError)
deriving DecidableEq

/-- The sort key of an error, up to the message that only breaks ties within one rule. -/
def ErrorEntry.key : ErrorEntry → List String
  | .whole e => ["scope", "stage", "code", "rule_id"].map fun k => ((e.get k).str?).getD ""
  | .rule ruleId error => ["SINGLE_RULE", "RULE_EVALUATION", ErrorCode.name error.code, ruleId]

/-- A rule result with what the decision adds to it. -/
structure DecidedResult where
  result : RuleResult
  ruleEvidenceStrength : Option Strength := none
  governing : Bool := false
  governingReason : Option String := none
  ruleDetectionConfidence : Option Confidence := none
deriving DecidableEq

/-- `DecisionResult`; a severity or risk of `⊥` is NONE. -/
structure DecisionResult where
  inputSupportStatus : Support
  classification : Classification
  decisionSeverity : WithBot Severity
  matchedEvidenceStrength : Strength
  riskLevel : WithBot Severity
  detectionConfidence : Confidence
  corroboration : Corroboration
  governingRuleId : Option String
  governingReason : Option String
  matchedRules : List String
  matchedPositiveIndicators : List String
  matchedNegativeIndicators : List String
  suppressedIndicators : List String
  activeOverrides : List String
  ambiguities : List String
  unknowns : List String
  degraded : Bool
  errors : List ErrorEntry
  ruleResults : List DecidedResult
  evaluationProfile : EvaluationProfile
deriving DecidableEq

/-- What `_assemble` receives beyond the results. -/
structure Axes where
  classification : Classification
  severity : WithBot Severity
  strength : Strength
  risk : WithBot Severity
  confidence : Confidence
  corroboration : Corroboration
  governingId : Option String
  governingReason : Option String

/-- `_assemble` -/
def assemble (support : Support) (axes : Axes) (eligible : List Candidate)
    (results : List DecidedResult) (degraded : Bool) (errors : List ErrorEntry)
    (profile : EvaluationProfile) : DecisionResult :=
  let composites := (results.map DecidedResult.result).filter RuleResult.isComposite
  { inputSupportStatus := support
    classification := axes.classification
    decisionSeverity := axes.severity
    matchedEvidenceStrength := axes.strength
    riskLevel := axes.risk
    detectionConfidence := axes.confidence
    corroboration := axes.corroboration
    governingRuleId := axes.governingId
    governingReason := axes.governingReason
    matchedRules := sortedUnique (eligible.map (·.result.ruleId))
    matchedPositiveIndicators := sortedUnique (eligible.flatMap (·.result.matchedPositiveIndicators))
    matchedNegativeIndicators := sortedUnique (composites.flatMap (·.matchedNegativeIndicators))
    suppressedIndicators := sortedUnique (composites.flatMap (·.neutralisedIndicators))
    activeOverrides := sortedUnique (composites.flatMap (·.activeOverrides))
    ambiguities := sortedUnique (composites.flatMap (·.ambiguities))
    unknowns := sortedUnique (composites.flatMap (·.unknowns))
    degraded := degraded
    errors := errors.insertionSort fun a b => a.key ≤ b.key
    ruleResults := results.insertionSort fun a b => a.result.ruleId ≤ b.result.ruleId
    evaluationProfile := profile }

/-- The axes of a decision in which no rule fires. -/
def noFire (classification : Classification) (corroboration : Corroboration) : Axes where
  classification := classification
  severity := ⊥
  strength := .NONE
  risk := ⊥
  confidence := .NOT_APPLICABLE
  corroboration := corroboration
  governingId := none
  governingReason := none

/-- The eligible rules, with the strength that must be computable for each. -/
def candidates (rk : RuntimeKnowledge) : List RuleResult → Except AggregationError (List Candidate)
  | [] => .ok []
  | r :: rest =>
    match r.isEligibleMatched, r.severity? with
    | true, some severity => do
      let strength ← ruleEvidenceStrength rk r
      return ⟨r, severity, strength⟩ :: (← candidates rk rest)
    | _, _ => candidates rk rest

/-- A decision in which a rule fires. -/
def fire (rk : RuntimeKnowledge) (profile : EvaluationProfile) (support : Support)
    (results : List RuleResult) (eligible : List Candidate) (governing : Candidate)
    (degraded wholeError : Bool) (errors : List ErrorEntry) :
    Except AggregationError DecisionResult :=
  let severity := (eligible.map Candidate.severity).foldl max governing.severity
  let proven := Independence.provenIndependence (provenanceEntries rk eligible)
  let uncapped := detectionConfidence governing.result proven.count
  let confidence := if degraded = true ∧ uncapped = .HIGH then .MEDIUM else uncapped
  match riskMatrix severity governing.strength with
  | none => .error (.illegalCell severity governing.strength)
  | some risk =>
    let reason := governingReason governing eligible.length
    let decided := results.map fun r =>
      let isGoverning := r.ruleId == governing.result.ruleId && r.isEligibleMatched
      { result := r
        ruleEvidenceStrength := (eligible.find? (·.result.ruleId == r.ruleId)).map Candidate.strength
        governing := isGoverning
        governingReason := if isGoverning then some reason else none
        ruleDetectionConfidence := if isGoverning then some confidence else none }
    .ok (assemble support
      { classification := classify support true results confidence degraded wholeError
        severity := severity
        strength := governing.strength
        risk := (risk : Severity)
        confidence := confidence
        corroboration := corroboration proven governing.result.verdict?
        governingId := some governing.result.ruleId
        governingReason := some reason }
      eligible decided degraded errors profile)

/-- The part of `aggregate_decision` after every check of its input. -/
def aggregateChecked (rk : RuntimeKnowledge) (profile : EvaluationProfile) (support : Support)
    (wholeErrors : List Json) (results : List RuleResult) : Except AggregationError DecisionResult :=
  let degraded := results.any RuleResult.isDegraded
  let errors := wholeErrors.map ErrorEntry.whole ++ results.filterMap fun r =>
    if r.isDegraded then r.evaluationError.map (.rule r.ruleId) else none
  let wholeError := !wholeErrors.isEmpty
  let plain := results.map fun r => { result := r : DecidedResult }
  let classification := classify support false results .NOT_APPLICABLE degraded wholeError
  if wholeError = true ∨ (support ≠ .SUPPORTED ∧ support ≠ .PARTIALLY_SUPPORTED) then
    .ok (assemble support (noFire classification {}) [] plain degraded errors profile)
  else do
    let eligible ← candidates rk results
    match selectGoverning eligible with
    | none => .ok (assemble support
        (noFire classification (corroborationNoFire results classification)) [] plain degraded errors
        profile)
    | some governing =>
      fire rk profile support results eligible governing degraded wholeError errors

/-- `aggregate_decision` -/
def aggregateDecision (rk : RuntimeKnowledge) (profile : EvaluationProfile)
    (ruleResults : List RuleResult) (inputSupportStatus : String) (wholeErrors : List Json) :
    Except AggregationError DecisionResult :=
  match Support.ofString? inputSupportStatus with
  | none => .error (.unknownSupport inputSupportStatus)
  | some support =>
    if wholeErrors.all wholeErrorSchema = false then .error .malformedWholeError
    else do
      let results ← materialise rk ruleResults
      match firstDuplicate [] results with
      | some id => .error (.duplicateRule id)
      | none => aggregateChecked rk profile support wholeErrors results

/-- What the pipeline up to the decision raises. -/
inductive Failure where
  | evaluation (e : Evaluator.Failure)
  | aggregation (e : AggregationError)
deriving DecidableEq

/-- `evaluate_decision_from_governed` -/
def evaluateDecision (rk : RuntimeKnowledge) (profile : EvaluationProfile)
    (indicatorObservations observations : List Json) (inputSupportStatus language script : String)
    (wholeErrors : List Json) : Except Failure DecisionResult :=
  match SuppressionExecutor.evaluateWithSuppression rk profile indicatorObservations observations
      language script with
  | .error e => .error (.evaluation e)
  | .ok results =>
    (aggregateDecision rk profile results inputSupportStatus wholeErrors).mapError .aggregation

end Aggregation
end TrustLens.Runtime
