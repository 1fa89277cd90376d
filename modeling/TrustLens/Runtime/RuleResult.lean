import TrustLens.Runtime.Knowledge
import TrustLens.Runtime.Observations

/-!
# Rule evaluation results

The record every stage after the evaluator reads and extends. An array or object
the source leaves out when it is empty is an empty list here; a field whose
absence and presence differ is an `Option`.
-/

namespace TrustLens.Runtime

inductive RuleKind where
  | COMPOSITE
  | SUPPRESSION
deriving DecidableEq

inductive EvaluationState where
  | MATCHED
  | NOT_MATCHED
  | INDETERMINATE
  | SUPPRESSED
  | NOT_APPLICABLE
deriving DecidableEq

/-- `SEVERITY_ORDER` -/
inductive Severity where
  | LOW
  | MEDIUM
  | HIGH
  | CRITICAL
deriving DecidableEq

namespace Severity

def index : Severity → ℕ
  | LOW => 0
  | MEDIUM => 1
  | HIGH => 2
  | CRITICAL => 3

lemma index_injective : Function.Injective index := by
  intro a b h
  cases a <;> cases b <;> simp_all [index]

instance : LinearOrder Severity := LinearOrder.lift' index index_injective

lemma le_iff (a b : Severity) : a ≤ b ↔ a.index ≤ b.index := Iff.rfl

def name : Severity → String
  | LOW => "LOW"
  | MEDIUM => "MEDIUM"
  | HIGH => "HIGH"
  | CRITICAL => "CRITICAL"

def ofString? : String → Option Severity
  | "LOW" => some LOW
  | "MEDIUM" => some MEDIUM
  | "HIGH" => some HIGH
  | "CRITICAL" => some CRITICAL
  | _ => none

lemma ofString?_name (s : Severity) : ofString? s.name = some s := by
  cases s <;> rfl

/-- Membership in `SEVERITY_ORDER`. -/
def ofJson? : Json → Option Severity
  | .str s => ofString? s
  | _ => none

end Severity

/-- The effect a rule-level suppression ends up with. -/
inductive Effect where
  | SUPPRESS_RULE
  | CAP_SEVERITY
  | CONTEXT_ONLY
  | NONE
deriving DecidableEq

/-- The `suppression` object: the evaluator fills the blocked and context lists, the
suppression stage rebuilds all of it. -/
structure Suppression where
  suppressedBy : Option String := none
  effect : Option Effect := none
  appliedSuppressors : List String := []
  severityCapsApplied : List Severity := []
  appliedSeverityCaps : List String := []
  blockedSuppressors : List String := []
  blockedSeverityCaps : List String := []
  contextOnlyPresent : List String := []
deriving DecidableEq

/-- The texts of `SuppressionExecutionError`; each names the rule or record at fault. -/
inductive SuppressionError where
  /-- MATCHED WP3 result must have required_combination_result='TRUE' -/
  | requiredNotTrue (ruleId : String)
  /-- MATCHED WP3 result has invalid/missing base effective_severity -/
  | invalidBaseSeverity (ruleId : String)
  /-- WP3 result contains pre-applied WP4 metadata -/
  | preApplied (ruleId : String)
  /-- active override does not resolve in RuntimeKnowledge -/
  | unresolvedOverride (overrideId : String)
  /-- active override has invalid blocks_suppression_categories -/
  | invalidBlockedCategories (overrideId : String)
  /-- matched negative does not resolve in RuntimeKnowledge -/
  | unresolvedNegative (ruleId negativeId : String)
  /-- negative has unknown suppression_effect -/
  | unknownEffect (ruleId negativeId : String)
  /-- negative has invalid blockable_by_overrides -/
  | invalidBlockable (ruleId negativeId : String)
  /-- negative has invalid suppression category -/
  | invalidCategory (ruleId negativeId : String)
  /-- CAP_SEVERITY has invalid severity_cap -/
  | invalidSeverityCap (ruleId negativeId : String)
  /-- WP3 informational blocked_suppressors disagree with WP4 governed resolution -/
  | blockedDisagree (ruleId : String)
deriving DecidableEq

/-- `evaluation_error.code`: the codes of this engine, and any other a caller writes. -/
inductive ErrorCode where
  | RULE_NOT_FOUND
  | RULE_NOT_PUBLISHED
  | LANGUAGE_OUT_OF_SCOPE
  | RULE_EVALUATION_ERROR
  | SUPPRESSION_EXECUTION_ERROR
  | other (code : String)
deriving DecidableEq

def ErrorCode.name : ErrorCode → String
  | .RULE_NOT_FOUND => "RULE_NOT_FOUND"
  | .RULE_NOT_PUBLISHED => "RULE_NOT_PUBLISHED"
  | .LANGUAGE_OUT_OF_SCOPE => "LANGUAGE_OUT_OF_SCOPE"
  | .RULE_EVALUATION_ERROR => "RULE_EVALUATION_ERROR"
  | .SUPPRESSION_EXECUTION_ERROR => "SUPPRESSION_EXECUTION_ERROR"
  | .other code => code

inductive ErrorMessage where
  /-- no rule in RuntimeKnowledge -/
  | notFound (ruleId : String)
  /-- status is not PUBLISHED (not executable live) -/
  | notPublished (ruleId : String) (status : Option String)
  /-- input language/script outside rule language_scope -/
  | outOfScope (language script : String)
  | raised (fault : Fault)
  | suppression (e : SuppressionError)
  /-- a text no stage of the engine wrote -/
  | other (text : String)
deriving DecidableEq

structure EvaluationError where
  code : ErrorCode
  message : ErrorMessage
deriving DecidableEq

/-- A source reference as a matched result echoes it. -/
structure SourceEcho where
  sourceId : Option String
  issuingBody : Option String
  verificationStatus : Option String
  authority : Option String
  evidenceClass : Option String
  quote : Option String
deriving DecidableEq

structure ExplanationFragment where
  plain : Option String
  technical : Option String
  whyConfidenceLimited : Option String
deriving DecidableEq

structure RuleResult where
  ruleId : String
  ruleVersion : String
  kind : RuleKind
  evaluationState : EvaluationState
  requiredCombinationResult : Truth
  matchedPositiveIndicators : List String := []
  matchedNegativeIndicators : List String := []
  neutralisedIndicators : List String := []
  evidenceClassesSpanned : List String := []
  minEvidenceClassesRequired : Option ℤ := none
  evidenceClassDiversityMet : Option Bool := none
  ruleEvidenceVerdict : Option Json := none
  ruleSeverityDeclared : Option Json := none
  effectiveSeverity : Option Json := none
  activeOverrides : List String := []
  suppression : Option Suppression := none
  /-- the representative level of each operand; `none` is UNKNOWN -/
  extractionConfidenceInputs : List (String × Option Level) := []
  observationRefs : List String := []
  livePositiveProvenance : List (String × List (List String)) := []
  ambiguities : List String := []
  unknowns : List String := []
  sourceReferences : List SourceEcho := []
  evidenceIds : List String := []
  explanationFragment : Option ExplanationFragment := none
  evaluationError : Option EvaluationError := none
deriving DecidableEq

namespace RuleResult

/-- `_not_applicable` -/
def notApplicable (ruleId ruleVersion : String) (kind : RuleKind) (required : Truth)
    (code : ErrorCode) (message : ErrorMessage) : RuleResult where
  ruleId := ruleId
  ruleVersion := ruleVersion
  kind := kind
  evaluationState := .NOT_APPLICABLE
  requiredCombinationResult := required
  evaluationError := some ⟨code, message⟩

/-- The indicators whose live occurrences a result gives provenance for. -/
def provenanceIds (r : RuleResult) : List String := r.livePositiveProvenance.map Prod.fst

/-- Agreement on everything but the sources a match attaches. -/
structure SameFindings (r base : RuleResult) : Prop where
  ruleId : r.ruleId = base.ruleId
  ruleVersion : r.ruleVersion = base.ruleVersion
  kind : r.kind = base.kind
  evaluationState : r.evaluationState = base.evaluationState
  required : r.requiredCombinationResult = base.requiredCombinationResult
  matchedPositive : r.matchedPositiveIndicators = base.matchedPositiveIndicators
  matchedNegative : r.matchedNegativeIndicators = base.matchedNegativeIndicators
  neutralised : r.neutralisedIndicators = base.neutralisedIndicators
  classes : r.evidenceClassesSpanned = base.evidenceClassesSpanned
  minClasses : r.minEvidenceClassesRequired = base.minEvidenceClassesRequired
  diversityMet : r.evidenceClassDiversityMet = base.evidenceClassDiversityMet
  verdict : r.ruleEvidenceVerdict = base.ruleEvidenceVerdict
  declared : r.ruleSeverityDeclared = base.ruleSeverityDeclared
  effective : r.effectiveSeverity = base.effectiveSeverity
  overrides : r.activeOverrides = base.activeOverrides
  suppression : r.suppression = base.suppression
  confidence : r.extractionConfidenceInputs = base.extractionConfidenceInputs
  refs : r.observationRefs = base.observationRefs
  provenance : r.livePositiveProvenance = base.livePositiveProvenance
  ambiguities : r.ambiguities = base.ambiguities
  unknowns : r.unknowns = base.unknowns
  error : r.evaluationError = base.evaluationError

lemma SameFindings.refl (r : RuleResult) : SameFindings r r := by
  constructor <;> rfl

end RuleResult
end TrustLens.Runtime
