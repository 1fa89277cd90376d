import TrustLens.Lib.JsonText
import TrustLens.Runtime.TrustBoundary

/-!
# The explanation and the recommended actions

Fixed templates over the facts of a validated decision, and the actions the governed
policy attaches to them.
-/

namespace TrustLens.Runtime

/-- `_ACTION_ORDER` -/
def actionOrder : List String :=
  ["DO_NOT_SHARE_CREDENTIALS", "DO_NOT_ENTER_PIN", "DO_NOT_TRANSFER_MONEY", "DO_NOT_INSTALL_APP",
    "DO_NOT_CONNECT_WALLET", "DO_NOT_DIAL_CODE", "DISCONNECT_REMOTE_ACCESS", "VERIFY_INDEPENDENTLY",
    "CONTACT_BANK", "CONTACT_OFFICIAL_CHANNEL", "REPORT_CYBERCRIME", "PRESERVE_EVIDENCE",
    "PROCEED_WITH_CAUTION", "SEEK_HUMAN_REVIEW", "RESUBMIT_IN_SUPPORTED_LANGUAGE"]

structure RecommendedAction where
  actionCode : String
  reasonRuleIds : List String
  reasonIndicatorIds : List String
  reasonOverrideIds : List String
  evidenceRefs : List String
deriving DecidableEq

/-- The outcome of a suppressor, in the order the entries are listed. -/
inductive SuppressionOutcome where
  | APPLIED
  | BLOCKED_BY_OVERRIDE
  | RECORDED_CONTEXT_ONLY
deriving DecidableEq

def SuppressionOutcome.rank : SuppressionOutcome → ℕ
  | APPLIED => 0
  | BLOCKED_BY_OVERRIDE => 1
  | RECORDED_CONTEXT_ONLY => 2

/-- The offsets of an observation as the caller's data has them. -/
structure Span where
  start : Json
  stop : Json
deriving DecidableEq

structure OverrideApplied where
  overrideId : String
  blockedCategories : List String
deriving DecidableEq

/-- The `explanation` block; a list the source leaves out when it is empty is empty here. -/
structure ExplanationText where
  whatWasDetected : String
  why : String
  summary : String
  detectionConfidenceReason : String
  matchedIndicators : List String
  rulesFired : List String
  overridesApplied : List OverrideApplied
  suppressionConsidered : List (String × SuppressionOutcome)
  evidenceBasis : List SourceEcho
  supportingObservations : List (String × Option Span)
  verificationSteps : List String
  remainingUnknowns : List String
  limitations : List String
deriving DecidableEq

/-- `ExplanationResult` -/
structure ExplanationResult where
  explanation : ExplanationText
  recommendedActions : List RecommendedAction
  actionPolicyVersion : Option String
deriving DecidableEq

namespace Explanation

/-! ### Recommended actions -/

/-- `_taxonomy_parent_map`: a subcategory listed under two categories keeps the later one. -/
def taxonomyParent (rk : RuntimeKnowledge) (id : String) : Option String :=
  (rk.taxonomy.reverse.find? (·.subcategories.contains id)).map TaxonomyCategory.id

/-- `_rule_taxonomy_ids` -/
def ruleTaxonomyIds (rk : RuntimeKnowledge) (rule : Option Rule) : List String :=
  let refs := (rule.map Rule.taxonomyRefs).getD []
  refs ++ refs.filterMap (taxonomyParent rk)

def hasSteps (rk : RuntimeKnowledge) (live : Bool) (id : String) : Bool :=
  (ruleOf rk live id).any fun rule => !rule.verificationSteps.isEmpty

/-- The rules a decision that stays open turns on. -/
def decisiveUnresolved (d : SuppliedDecision) : List String :=
  if d.classification = "INSUFFICIENT_EVIDENCE" then
    (d.results.filter RuleResult.isUnresolvedHarmful).map RuleResult.ruleId
  else []

/-- `verif_rules` -/
def verificationRules (rk : RuntimeKnowledge) (live : Bool) (d : SuppliedDecision) : List String :=
  sortedUnique ((d.matchedRules ++ decisiveUnresolved d).filter (hasSteps rk live))

/-- The reasons an entry of the policy contributes, when its trigger holds: the ids of rules,
indicators and overrides. -/
def triggered (rk : RuntimeKnowledge) (live : Bool) (d : SuppliedDecision)
    (e : ActionPolicyEntry) : Option (List String × List String × List String) :=
  if e.classifications.any (fun allowed => !allowed.contains d.classification) then none
  else
    match e.triggerType, e.triggerId with
    | .OVERRIDE, some id => if id ∈ d.activeOverrides then some ([], [], [id]) else none
    | .RULE, some id => if id ∈ d.matchedRules then some ([id], [], []) else none
    | .TAXONOMY, some id =>
      let matching := d.matchedRules.filter fun rid =>
        (ruleTaxonomyIds rk (ruleOf rk live rid)).contains id
      if matching = [] then none else some (matching, [], [])
    | .NEGATIVE_INDICATOR, some id =>
      if id ∈ d.matchedNegativeIndicators then some ([], [id], []) else none
    | .RULE_VERIFICATION_POLICY, _ =>
      if verificationRules rk live d = [] then none
      else some (verificationRules rk live d, [], [])
    | .SYSTEM_CLASSIFICATION, some id => if id = d.classification then some ([], [], []) else none
    | .SYSTEM_SUPPORT_STATUS, some id => if id = d.inputSupportStatus then some ([], [], []) else none
    -- a trigger without an id equals nothing it could be compared with
    | _, none => none

/-- The entries of the policy for one action that hold, each with its reasons. -/
def firing (rk : RuntimeKnowledge) (live : Bool) (d : SuppliedDecision) (code : String) :
    List (ActionPolicyEntry × List String × List String × List String) :=
  (rk.actionPolicy.filter (·.actionCode == code)).filterMap fun e =>
    (triggered rk live d e).map (e, ·)

/-- `_recommended_actions` -/
def recommendedActions (rk : RuntimeKnowledge) (live : Bool) (d : SuppliedDecision) :
    List RecommendedAction :=
  actionOrder.filterMap fun code =>
    let entries := firing rk live d code
    if entries = [] then none
    else some
      { actionCode := code
        reasonRuleIds := sortedUnique (entries.flatMap (·.2.1))
        reasonIndicatorIds := sortedUnique (entries.flatMap (·.2.2.1))
        reasonOverrideIds := sortedUnique (entries.flatMap (·.2.2.2))
        evidenceRefs := sortedUnique (entries.flatMap (·.1.evidenceRefs)) }

/-! ### Texts -/

/-- `_WHAT` -/
def whatText : String → Option String
  | "NO_SCAM_PATTERN" => some "No governed scam pattern was established from the evidence evaluated."
  | "INSUFFICIENT_EVIDENCE" => some "The available evidence does not support a definitive conclusion."
  | "UNSUPPORTED" => some
      "This input was not evaluated: its language/script is outside the supported scope (en/Latn)."
  | "ERROR" => some "The evaluation could not be completed."
  | _ => none

/-- `_SUMMARY` -/
def summaryText : String → Option String
  | "NO_SCAM_PATTERN" => some "No governed scam pattern was established from the evidence evaluated."
  | "INSUFFICIENT_EVIDENCE" => some
      "Insufficient evidence for a definitive conclusion; routed to human review."
  | "UNSUPPORTED" => some
      "Input not evaluated — unsupported language/script; resubmit in a supported language."
  | "ERROR" => some "Evaluation could not be completed; routed to human review."
  | _ => none

/-- `_WHY` -/
def whyText : String → Option String
  | "NO_SCAM_PATTERN" => some
      "No governed composite rule matched, or every matched rule was cancelled by governed benign context."
  | "INSUFFICIENT_EVIDENCE" => some
      "No governed rule combination was satisfied, and/or a decisive question remained unresolved."
  | "UNSUPPORTED" => some
      "Deterministic detection runs only within the supported language/script scope; this input is out of scope."
  | "ERROR" => some "A fail-closed integrity or runtime condition prevented a decision."
  | _ => none

/-- The verdict of the governing result, when it is one of the two that cap. -/
def cappingVerdict (governing : Option RuleResult) : Option String :=
  (governing.map Aggregation.verdictText).filter fun v => v == "PARTIAL" || v == "HEURISTIC"

/-- `_confidence_reason` -/
def confidenceReason (d : SuppliedDecision) (governing : Option RuleResult) : String :=
  let band := d.detectionConfidence
  if band = "NOT_APPLICABLE" then
    "Detection confidence is not applicable for classification " ++ d.classification ++ "."
  else
    let verdict := (governing.map Aggregation.verdictText).getD "None"
    let parts := ["Detection confidence is " ++ band, "governing evidence verdict " ++ verdict] ++
      (if governing.any (fun r => !r.activeOverrides.isEmpty) then
        ["an active governed hard-risk override supports the finding"] else []) ++
      ((cappingVerdict governing).map fun v =>
        "evidence verdict " ++ v ++ " caps confidence at MEDIUM").toList ++
      if d.degraded then ["a degraded per-rule evaluation caps confidence at MEDIUM"] else []
    String.intercalate "; " parts ++ ". Categorical, not a probability."

/-- `_suppression_considered`: an outcome already noted gives way to APPLIED alone. -/
def noteSuppression (seen : List (String × SuppressionOutcome)) (r : RuleResult) :
    List (String × SuppressionOutcome) :=
  match r.suppression with
  | none => seen
  | some s =>
    let applied := seen.filter (fun e => !s.appliedSuppressors.contains e.1) ++
      (sortedUnique s.appliedSuppressors).map (·, SuppressionOutcome.APPLIED)
    let add (acc : List (String × SuppressionOutcome)) (outcome : SuppressionOutcome)
        (ids : List String) :=
      acc ++ (sortedUnique (ids.filter fun id => !(acc.map Prod.fst).contains id)).map (·, outcome)
    add (add applied .BLOCKED_BY_OVERRIDE (s.blockedSuppressors ++ s.blockedSeverityCaps))
      .RECORDED_CONTEXT_ONLY s.contextOnlyPresent

def byRuleId (rs : List RuleResult) : List RuleResult :=
  rs.insertionSort fun a b => a.ruleId ≤ b.ruleId

def suppressionConsidered (d : SuppliedDecision) : List (String × SuppressionOutcome) :=
  ((byRuleId d.results).foldl noteSuppression []).insertionSort fun a b =>
    toLex (a.2.rank, a.1) ≤ toLex (b.2.rank, b.1)

/-- A source reference as the mapping it is. -/
def sourceJson (s : SourceEcho) : Json :=
  .obj <| [("source_id", s.sourceId), ("issuing_body", s.issuingBody),
    ("verification_status", s.verificationStatus), ("authority", s.authority),
    ("evidence_class", s.evidenceClass), ("quote", s.quote)].filterMap fun e =>
      e.2.map fun text => (e.1, Json.str text)

/-- `_canon` of a source reference, which holds no number. -/
def canon (s : SourceEcho) : String := Json.dumps (fun _ => "") (sourceJson s)

/-- `_evidence_basis` -/
def evidenceBasis (rk : RuntimeKnowledge) (live : Bool) (eligible : List RuleResult) :
    List SourceEcho :=
  let refs := eligible.flatMap fun r => authoritativeSourceRefs (ruleOf rk live r.ruleId)
  (sortedUnique (refs.map canon)).filterMap fun key => refs.reverse.find? (canon · == key)

/-- One entry of `obs_by_id`; an unhashable id is a `TypeError`. -/
def indexObservation (o : Json) : Except ExplanationError (Option (String × Json)) :=
  match o with
  | .obj entries =>
    match Json.get "observation_id" (.obj entries) with
    | .str id => .ok (if id = "" then none else some (id, o))
    | .arr items => if items = [] then .ok none else .error .malformed
    | .obj es => if es = [] then .ok none else .error .malformed
    -- a number or a Boolean is a key no reference equals
    | _ => .ok none
  | _ => .ok none

/-- `isinstance(value, int)`, which a Boolean also is. -/
def isPyInt : Json → Bool
  | .int _ => true
  | .bool _ => true
  | _ => false

/-- The span of an observation whose offsets are integers. -/
def spanOf (o : Json) : Option Span :=
  let offsets := o.get "offsets"
  if isPyInt (offsets.get "start") && isPyInt (offsets.get "end") then
    some ⟨offsets.get "start", offsets.get "end"⟩
  else none

/-- The observation references behind the eligible results. -/
def supportingRefs (eligible : List RuleResult) : List String :=
  sortedUnique (eligible.flatMap fun r => r.livePositiveProvenance.flatMap fun e => e.2.flatten)

/-- The span found for a reference; of two observations with one id the later one counts. -/
def spanFor (observations : List (String × Json)) (ref : String) : Option Span :=
  ((observations.reverse.find? (·.1 == ref)).map Prod.snd).bind spanOf

/-- `_supporting_observations` -/
def supportingObservations (eligible : List RuleResult) (observations : List Json) :
    Except ExplanationError (List (String × Option Span)) := do
  let index ← observations.mapM indexObservation
  return (supportingRefs eligible).map fun ref => (ref, spanFor (index.filterMap id) ref)

/-- The first occurrence of each member. -/
def firstOccurrences (seen : List String) : List String → List String
  | [] => []
  | s :: rest =>
    if s ∈ seen then firstOccurrences seen rest else s :: firstOccurrences (s :: seen) rest

/-- `_verification_steps` -/
def verificationSteps (rk : RuntimeKnowledge) (live : Bool) (d : SuppliedDecision) : List String :=
  let others := (d.matchedRules.filter fun id => some id != d.governingRuleId).insertionSort (· ≤ ·)
  let ordered := d.governingRuleId.toList.filter (· ≠ "") ++ others ++
    sortedUnique (decisiveUnresolved d)
  firstOccurrences [] (ordered.flatMap fun id =>
    ((ruleOf rk live id).map Rule.verificationSteps).getD [])

/-- `_limitations` -/
def limitations (d : SuppliedDecision) (governing : Option RuleResult) : List String :=
  d.ambiguities ++
    (if d.degraded then
      ["Evaluation was degraded: a per-rule error occurred; the case is routed to review."] else []) ++
    ((cappingVerdict governing).map fun v => "The governing rule's evidence verdict is " ++ v ++
      "; severity and confidence are capped accordingly.").toList ++
    ["Synthetic-only validation; no accuracy/precision/recall claim (G-09)."]

def overridesApplied (rk : RuntimeKnowledge) (d : SuppliedDecision) : List OverrideApplied :=
  (d.activeOverrides.insertionSort (· ≤ ·)).map fun id =>
    ⟨id, (((rk.override id).bind Override.blocksSuppressionCategories).getD []).insertionSort (· ≤ ·)⟩

/-- What was detected, why, and the summary. -/
def headline (rk : RuntimeKnowledge) (live : Bool) (d : SuppliedDecision) :
    Except ExplanationError (String × String × String) :=
  if isScamClass d.classification then
    match d.governingRuleId.bind (ruleOf rk live) with
    | none => .error .malformed
    | some rule =>
      let name := rule.name.getD "None"
      .ok ("TrustLens identified the governed scam pattern: " ++ name ++ ".",
        "The required indicator combination for this governed pattern matched.",
        (if d.classification = "SCAM_PATTERN_DETECTED" then "Scam pattern detected"
          else "Scam pattern suspected") ++ ": " ++ name ++ " — risk " ++ d.riskLevel ++
          ", confidence " ++ d.detectionConfidence ++ ".")
  else
    match whatText d.classification, whyText d.classification, summaryText d.classification with
    | some what, some why, some summary => .ok (what, why, summary)
    | _, _, _ => .error .malformed

/-- The results that are explained; without the severity the aggregation also asks for, which
the trust boundary has checked. -/
def explained (d : SuppliedDecision) : List RuleResult :=
  byRuleId (d.results.filter fun r =>
    r.isComposite && r.evaluationState == .MATCHED && r.requiredCombinationResult == .TRUE)

/-- Everything that is written once the decision is validated. -/
def compose (rk : RuntimeKnowledge) (live : Bool) (d : SuppliedDecision)
    (head : String × String × String) (supporting : List (String × Option Span)) :
    ExplanationResult where
  explanation :=
    { whatWasDetected := head.1
      why := head.2.1
      summary := head.2.2
      detectionConfidenceReason := confidenceReason d (governingResult d)
      matchedIndicators := d.matchedPositiveIndicators.insertionSort (· ≤ ·)
      rulesFired := d.matchedRules.insertionSort (· ≤ ·)
      overridesApplied := overridesApplied rk d
      suppressionConsidered := suppressionConsidered d
      evidenceBasis := evidenceBasis rk live (explained d)
      supportingObservations := supporting
      verificationSteps := verificationSteps rk live d
      remainingUnknowns := d.unknowns
      limitations := limitations d (governingResult d) }
  recommendedActions := recommendedActions rk live d
  actionPolicyVersion := rk.actionPolicyVersion

/-- `_build_explanation`; observations the caller leaves out are no observations. -/
def buildExplanation (render : ErrorMessage → String) (rk : RuntimeKnowledge) (live : Bool)
    (d : SuppliedDecision) (observations : List Json) :
    Except ExplanationError ExplanationResult := do
  validateInput render rk live d
  let head ← headline rk live d
  let supporting ← supportingObservations (explained d) observations
  return compose rk live d head supporting

end Explanation
end TrustLens.Runtime
