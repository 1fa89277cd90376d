import TrustLens.Runtime.EvaluatorSpec

/-!
# Rule-level suppression

Cancels a matched composite rule, or caps its severity, by the governed effects of
its matched negative indicators, unless an active override blocks them. Malformed
governed metadata degrades the rule instead of letting it through.
-/

namespace TrustLens.Runtime

namespace RuleResult

/-- `_canonicalize_result`: the set-like arrays sorted and without repeats. -/
def canonical (r : RuleResult) : RuleResult :=
  { r with
    matchedPositiveIndicators := sortedUnique r.matchedPositiveIndicators
    matchedNegativeIndicators := sortedUnique r.matchedNegativeIndicators
    activeOverrides := sortedUnique r.activeOverrides
    neutralisedIndicators := sortedUnique r.neutralisedIndicators
    evidenceClassesSpanned := sortedUnique r.evidenceClassesSpanned
    observationRefs := sortedUnique r.observationRefs
    ambiguities := sortedUnique r.ambiguities
    unknowns := sortedUnique r.unknowns
    evidenceIds := sortedUnique r.evidenceIds
    suppression := r.suppression.map fun s =>
      { s with
        appliedSuppressors := sortedUnique s.appliedSuppressors
        severityCapsApplied := sortedUnique s.severityCapsApplied
        appliedSeverityCaps := sortedUnique s.appliedSeverityCaps
        blockedSuppressors := sortedUnique s.blockedSuppressors
        blockedSeverityCaps := sortedUnique s.blockedSeverityCaps
        contextOnlyPresent := sortedUnique s.contextOnlyPresent } }

end RuleResult

namespace SuppressionExecutor

/-- What one matched negative does to the rule. -/
inductive Outcome where
  /-- `SUPPRESS_INDICATOR` was executed by the evaluator -/
  | alreadyResolved
  | suppressor (blocked : Bool)
  | cap (ceiling : Severity) (blocked : Bool)
  | contextOnly
deriving DecidableEq

/-- The lists the loop over the matched negatives fills. -/
structure Resolution where
  appliedSuppressors : List String := []
  blockedSuppressors : List String := []
  appliedCaps : List String := []
  blockedCaps : List String := []
  contextOnly : List String := []
  survivingCeilings : List Severity := []
deriving DecidableEq

def Resolution.add (id : String) (res : Resolution) : Outcome → Resolution
  | .alreadyResolved => res
  | .suppressor true => { res with blockedSuppressors := id :: res.blockedSuppressors }
  | .suppressor false => { res with appliedSuppressors := id :: res.appliedSuppressors }
  | .cap _ true => { res with blockedCaps := id :: res.blockedCaps }
  | .cap ceiling false =>
    { res with
      appliedCaps := id :: res.appliedCaps
      survivingCeilings := ceiling :: res.survivingCeilings }
  | .contextOnly => { res with contextOnly := id :: res.contextOnly }

section

variable (rk : RuntimeKnowledge)

/-- Whether a result already carries what this stage owns. -/
def preApplied (s : Suppression) : Bool :=
  s.suppressedBy.isSome || s.effect.isSome || !s.appliedSuppressors.isEmpty ||
    !s.severityCapsApplied.isEmpty || !s.appliedSeverityCaps.isEmpty ||
    !s.blockedSeverityCaps.isEmpty

/-- `_validate_matched_input`; the base severity is what it establishes. -/
def validateMatchedInput (r : RuleResult) : Except SuppressionError Severity :=
  if r.requiredCombinationResult ≠ .TRUE then .error (.requiredNotTrue r.ruleId)
  else
    match r.effectiveSeverity.bind Severity.ofJson? with
    | none => .error (.invalidBaseSeverity r.ruleId)
    | some base =>
      if (r.suppression.map preApplied).getD false then .error (.preApplied r.ruleId)
      else .ok base

/-- The categories one active override blocks. -/
def blockedBy (overrideId : String) : Except SuppressionError (List String) :=
  match rk.override overrideId with
  | none => .error (.unresolvedOverride overrideId)
  | some o =>
    match o.blocksSuppressionCategories with
    | none => .error (.invalidBlockedCategories overrideId)
    | some categories =>
      if "" ∈ categories then .error (.invalidBlockedCategories overrideId) else .ok categories

/-- `_blocked_categories` -/
def blockedCategories : List String → Except SuppressionError (List String)
  | [] => .ok []
  | id :: rest => do
    let here ← blockedBy rk id
    let more ← blockedCategories rest
    return here ++ more

def severityCap? (cap : Option String) : Option Severity :=
  match cap with
  | some "LOW" => some .LOW
  | some "MEDIUM" => some .MEDIUM
  | some "HIGH" => some .HIGH
  | _ => none

/-- The body of the loop over the matched negatives, up to the bookkeeping. -/
def outcomeOf (ruleId : String) (blocked : List String) (id : String) :
    Except SuppressionError Outcome :=
  match rk.negativeIndicator id with
  | none => .error (.unresolvedNegative ruleId id)
  | some neg =>
    if neg.suppressionEffect ∉ [some "SUPPRESS_RULE", some "CAP_SEVERITY", some "CONTEXT_ONLY",
        some "SUPPRESS_INDICATOR"] then .error (.unknownEffect ruleId id)
    else
      match neg.blockableByOverrides with
      | .bool blockable =>
        if neg.category = none ∨ neg.category = some "" then .error (.invalidCategory ruleId id)
        else
          let isBlocked := blockable && Evaluator.isIn neg.category blocked
          if neg.suppressionEffect = some "SUPPRESS_INDICATOR" then .ok .alreadyResolved
          else if neg.suppressionEffect = some "SUPPRESS_RULE" then .ok (.suppressor isBlocked)
          else if neg.suppressionEffect = some "CAP_SEVERITY" then
            match severityCap? neg.severityCap with
            | none => .error (.invalidSeverityCap ruleId id)
            | some ceiling => .ok (.cap ceiling isBlocked)
          else .ok .contextOnly
      | _ => .error (.invalidBlockable ruleId id)

def resolve (ruleId : String) (blocked : List String) :
    List String → Except SuppressionError Resolution
  | [] => .ok {}
  | id :: rest => do
    let outcome ← outcomeOf rk ruleId blocked id
    let res ← resolve ruleId blocked rest
    return res.add id outcome

/-- `_cross_check_blocked`: the evaluator's list, when it gave one, is the governed one. -/
def crossCheckBlocked (r : RuleResult) (res : Resolution) : Except SuppressionError Unit :=
  match r.suppression.map Suppression.blockedSuppressors with
  | none => .ok ()
  | some exposed =>
    if exposed = [] then .ok ()
    else if sortedUnique exposed = sortedUnique (res.blockedSuppressors ++ res.blockedCaps) then
      .ok ()
    else .error (.blockedDisagree r.ruleId)

/-- `_attach_suppression` -/
def suppressionOf (res : Resolution) : Suppression where
  suppressedBy := (sortedUnique res.appliedSuppressors).head?
  effect := some <|
    if res.appliedSuppressors ≠ [] then .SUPPRESS_RULE
    else if res.appliedCaps ≠ [] then .CAP_SEVERITY
    else if res.contextOnly ≠ [] then .CONTEXT_ONLY
    else .NONE
  appliedSuppressors := sortedUnique res.appliedSuppressors
  severityCapsApplied := sortedUnique res.survivingCeilings
  appliedSeverityCaps := sortedUnique res.appliedCaps
  blockedSuppressors := sortedUnique res.blockedSuppressors
  blockedSeverityCaps := sortedUnique res.blockedCaps
  contextOnlyPresent := sortedUnique res.contextOnly

/-- The result of a matched rule under its resolution: caps never raise the severity, and any
applied suppressor turns the match into a suppression. -/
def resolved (r : RuleResult) (base : Severity) (res : Resolution) : RuleResult :=
  { r with
    effectiveSeverity := some (.str (res.survivingCeilings.foldl min base).name)
    evaluationState := if res.appliedSuppressors ≠ [] then .SUPPRESSED else r.evaluationState
    suppression := some (suppressionOf res) }

/-- `_apply` -/
def applyCore (result : RuleResult) : Except SuppressionError RuleResult :=
  let r := result.canonical
  if r.kind ≠ .COMPOSITE ∨ r.evaluationState ≠ .MATCHED then .ok r
  else do
    let base ← validateMatchedInput r
    let blocked ← blockedCategories rk r.activeOverrides
    let res ← resolve rk r.ruleId blocked r.matchedNegativeIndicators
    crossCheckBlocked r res
    return resolved r base res

/-- `apply`: a malformed governed effect degrades the rule, its combination truth kept. -/
def apply (result : RuleResult) : RuleResult :=
  match applyCore rk result with
  | .ok r => r
  | .error e => .notApplicable result.ruleId result.ruleVersion result.kind
      result.requiredCombinationResult .SUPPRESSION_EXECUTION_ERROR (.suppression e)

/-- `apply_all` -/
def applyAll (results : List RuleResult) : List RuleResult := results.map (apply rk)

end

/-- `evaluate_rules_with_suppression_from_governed` -/
def evaluateWithSuppression (rk : RuntimeKnowledge) (profile : EvaluationProfile)
    (indicatorObservations observations : List Json) (language script : String) :
    Except Evaluator.Failure (List RuleResult) :=
  (Evaluator.evaluateRulesFromGoverned rk profile indicatorObservations observations language
    script).map (applyAll rk)

end SuppressionExecutor
end TrustLens.Runtime
