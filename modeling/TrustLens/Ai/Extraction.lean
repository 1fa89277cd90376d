import TrustLens.Lib.PyJson
import TrustLens.Lib.PyObject
import Mathlib.Data.List.Lex
import Mathlib.Data.List.Sort

/-!
# Validating an extraction response

What a provider answered, an untrusted text, becomes proposals that are checked against the
request, the submitted text and the runtime knowledge, or is rejected as a whole.
-/

namespace TrustLens.Ai.Extraction

open PyJson

def MAX_RAW_RESPONSE_BYTES : ℕ := 1048576

def MAX_JSON_NESTING_DEPTH : ℕ := 16

/-- The closed taxonomy. The detail of a schema error is the path and the rule of the first of the
library's errors. -/
inductive ValidationError where
  | AIResponseTooLargeError (detail : String)
  | AIResponseMalformedError (detail : String)
  | AISchemaInvalidError
  | AIDecisionFieldRejectedError (detail : String)
  | AIUnknownIndicatorError (detail : String)
  | AIReferenceInvalidError (detail : String)
  | AIGroundingFailedError (detail : String)
deriving DecidableEq

/-- `_CODE` -/
def ValidationError.code : ValidationError → String
  | AIResponseTooLargeError _ => "AI_RESPONSE_TOO_LARGE"
  | AIResponseMalformedError _ => "AI_RESPONSE_MALFORMED"
  | AISchemaInvalidError => "AI_SCHEMA_INVALID"
  | AIDecisionFieldRejectedError _ => "AI_DECISION_FIELD_REJECTED"
  | AIUnknownIndicatorError _ => "AI_UNKNOWN_INDICATOR"
  | AIReferenceInvalidError _ => "AI_REFERENCE_INVALID"
  | AIGroundingFailedError _ => "AI_GROUNDING_FAILED"

abbrev Checked (α : Type) := Except (Raised ValidationError) α

/-- A check that fails with an error. -/
def require (holds : Prop) [Decidable holds] (error : ValidationError) : Checked Unit :=
  if holds then .ok () else .error (.typed error)

/-- The provider's answer; its metadata is not read. -/
structure RawAIExtractionResponse where
  request_id : PyStr
  raw_text : PyStr

structure ValidatedAIExtraction where
  input_id : PyStr
  observations : List PyJson
  indicators : List PyJson
deriving DecidableEq

/-- What the validation asks of the runtime knowledge: the `polarity` of the positive indicator of
an id, the `status` of the negative one, null where the record has none. -/
structure Registry where
  indicator : PyStr → Option PyJson
  negative_indicator : PyStr → Option PyJson

def _FORBIDDEN_FIELDS : List PyStr :=
  ["classification", "decision_severity", "matched_evidence_strength", "risk_level",
    "detection_confidence", "fraud_probability", "scam_probability", "score", "safety_score",
    "recommended_actions", "rule_results", "governing_rule", "official_evidence_basis", "safe",
    "legitimate", "fraud_verdict", "confidence", "probability", "certainty", "token_probability",
    "self_score", "fraud_confidence", "scam_confidence"].map PyStr.of

/-! ### The schema -/

def isIdentifier (s : String) : Bool :=
  Schema.anchored (Schema.headTail (fun c => Schema.isAlpha c || Schema.isAsciiDigit c)
    (fun c => Schema.isAlpha c || Schema.isAsciiDigit c || ['_', '.', ':', '-'].contains c) 1 127) s

def isIndicatorId (s : String) : Bool :=
  Schema.anchored (Schema.headTail Schema.isUpper
    (fun c => Schema.isUpper c || Schema.isAsciiDigit c || c == '_') 2 63) s

def statuses : List String := ["OBSERVED", "NOT_OBSERVED", "UNKNOWN", "AMBIGUOUS", "NOT_APPLICABLE"]

def observationProposal : Validator :=
  object ["proposal_id", "observation_type", "status", "polarity", "attribution", "mood",
      "source_input_id", "start", "end"]
    [("proposal_id", pattern isIdentifier),
      ("observation_type", enum ["ENTITY", "ACTION", "CLAIM", "REQUEST", "THREAT", "PROMISE",
        "IDENTITY_ASSERTION", "PAYMENT_CONTEXT", "DEVICE_ACTION", "LINK_ACTION",
        "AUTHENTICATION_ACTION", "TEMPORAL_PRESSURE", "RELATIONSHIP_CONTEXT"]),
      ("status", enum statuses), ("polarity", enum ["AFFIRMED", "NEGATED"]),
      ("attribution", enum ["FIRST_PARTY", "REPORTED", "QUOTED", "HYPOTHETICAL"]),
      ("mood", enum ["DIRECTIVE", "DESCRIPTIVE", "INTERROGATIVE"]),
      ("canonical_value", stringUpTo 256), ("source_input_id", pattern isIdentifier),
      ("start", integerFrom 0), ("end", integerFrom 0), ("evidence_excerpt", stringUpTo 2048)]

def indicatorProposal : Validator :=
  object ["indicator_id", "polarity", "matched", "input_id"]
    [("proposal_id", pattern isIdentifier), ("indicator_id", pattern isIndicatorId),
      ("polarity", enum ["POSITIVE", "NEGATIVE"]), ("matched", enum statuses),
      ("observation_refs", uniqueUpTo 64 (pattern isIdentifier)), ("input_id", pattern isIdentifier)]

/-- `ai-extraction.schema.json` -/
def aiExtraction : Validator :=
  object ["ai_extraction_version", "input_id", "observations", "indicators"]
    [("ai_extraction_version", enum ["1.0.0"]), ("input_id", pattern isIdentifier),
      ("observations", arrayUpTo 128 observationProposal),
      ("indicators", arrayUpTo 128 indicatorProposal)]

/-! ### The stages -/

/-- The text of a payload that is strict UTF-8 and not too long. -/
def payload (raw_text : PyStr) : Checked String :=
  match encode raw_text with
  | none => .error (.typed (.AIResponseMalformedError "provider payload is not valid UTF-8"))
  | some text =>
    if MAX_RAW_RESPONSE_BYTES < text.utf8ByteSize then
      .error (.typed (.AIResponseTooLargeError "raw response exceeds the maximum size"))
    else .ok text

/-- `json.loads`, whose `RecursionError` on a text nested too deeply is the same error. -/
def parse (text : String) : Checked PyJson :=
  if PyText.strip text.toList = [] then
    .error (.typed (.AIResponseMalformedError "empty provider payload"))
  else match loads text.toList with
    | none => .error (.typed (.AIResponseMalformedError "provider payload is not valid JSON"))
    | some data => .ok data

mutual
/-- The depth of the deepest value, the root being at one. -/
def nesting : PyJson → ℕ
  | arr items => nestingItems items + 1
  | obj entries => nestingEntries entries + 1
  | _ => 1

def nestingItems : List PyJson → ℕ
  | [] => 0
  | j :: js => max (nesting j) (nestingItems js)

def nestingEntries : List (PyStr × PyJson) → ℕ
  | [] => 0
  | (_, j) :: es => max (nesting j) (nestingEntries es)
end

/-- The loop over a stack visits every value with its depth. -/
def _check_depth (root : PyJson) : Checked Unit :=
  require (nesting root ≤ MAX_JSON_NESTING_DEPTH)
    (.AIResponseMalformedError "JSON nesting depth exceeds limit 16")

mutual
/-- The keys at any depth. -/
def keys : PyJson → List PyStr
  | arr items => keysItems items
  | obj entries => keysEntries entries
  | _ => []

def keysItems : List PyJson → List PyStr
  | [] => []
  | j :: js => keys j ++ keysItems js

def keysEntries : List (PyStr × PyJson) → List PyStr
  | [] => []
  | (k, j) :: es => k :: keys j ++ keysEntries es
end

def _scan_forbidden (root : PyJson) : Checked Unit :=
  require (∀ k ∈ keys root, k ∉ _FORBIDDEN_FIELDS)
    (.AIDecisionFieldRejectedError "forbidden decision-owned field detected")

/-- The authoritative text of the expected input. -/
def currentInput (expected_input_id : PyStr) (normalized_inputs : List (PyStr × PyJson)) :
    Checked PyStr :=
  match lookup expected_input_id normalized_inputs with
  | some (str normalized) => .ok normalized
  | _ => .error (.typed (.AIReferenceInvalidError
      "expected_input_id does not resolve to authoritative submitted input"))

/-- `sorted(values, key=key)` -/
def sortedBy (key : PyJson → List PyStr) (values : List PyJson) : List PyJson :=
  values.insertionSort fun a b => key a ≤ key b

def proposal_id (j : PyJson) : PyJson := j.get "proposal_id"

/-- `ind.get("observation_refs", [])` -/
def observation_refs (ind : PyJson) : List PyJson := (ind.get "observation_refs").elements

/-- `(i["indicator_id"], i.get("proposal_id", ""))` -/
def indicatorKey (ind : PyJson) : List PyStr := [(ind.get "indicator_id").text, (proposal_id ind).text]

mutual
/-- Whether Python hashes the frozen value. -/
def hashable : PyJson → Bool
  | arr items => hashableItems items
  | obj _ => false
  | _ => true

def hashableItems : List PyJson → Bool
  | [] => true
  | j :: js => hashable j && hashableItems js
end

def checkSource (expected_input_id : PyStr) (obs : PyJson) : Checked Unit :=
  require (obs.get "source_input_id" = str expected_input_id)
    (.AIReferenceInvalidError "observation source-input correlation failed")

def checkInput (expected_input_id : PyStr) (ind : PyJson) : Checked Unit :=
  require (ind.get "input_id" = str expected_input_id)
    (.AIReferenceInvalidError "indicator input correlation failed")

/-- Membership, polarity and live status. -/
def checkRegistered (rk : Registry) (ind : PyJson) : Checked Unit :=
  if ind.get "polarity" = str (.of "POSITIVE") then
    match rk.indicator (ind.get "indicator_id").text with
    | none => .error (.typed (.AIUnknownIndicatorError
        "indicator membership validation failed (POSITIVE registry)"))
    | some polarity => require (polarity = null ∨ polarity = str (.of "POSITIVE"))
        (.AIUnknownIndicatorError "indicator polarity does not match the governed registry")
  else
    match rk.negative_indicator (ind.get "indicator_id").text with
    | none => .error (.typed (.AIUnknownIndicatorError
        "indicator membership validation failed (NEGATIVE library)"))
    | some status =>
      if status = null then .ok ()
      -- a status that is no member of any set
      else if hashable status = false then .error (.escaped .TypeError)
      else require (status = str (.of "ACTIVE"))
        (.AIUnknownIndicatorError "negative indicator is not live and may not be emitted")

def checkReferences (obs_ids : List PyJson) (ind : PyJson) : Checked Unit := do
  (sortedBy (fun ref => [ref.text]) (observation_refs ind)).forM fun ref =>
    require (ref ∈ obs_ids) (.AIReferenceInvalidError "observation reference does not resolve")
  require (¬(ind.get "matched" = str (.of "OBSERVED") ∧ observation_refs ind = []))
    (.AIReferenceInvalidError "OBSERVED indicator has no supporting observation reference")

/-- `normalized[start:end]` -/
def slice (normalized : PyStr) (first last : ℤ) : PyStr :=
  (normalized.take last.toNat).drop first.toNat

/-- Offsets in range, and the excerpt where there is one; a slice between floats raises. -/
def checkGrounded (normalized : PyStr) (obs : PyJson) : Checked Unit :=
  match (obs.get "start").integer?, (obs.get "end").integer? with
  | some first, some last =>
    if 0 ≤ first ∧ first < last ∧ last ≤ normalized.length then
      match obs.get? "evidence_excerpt" with
      | none | some null => .ok ()
      | some excerpt =>
        if obs.get "start" = int first ∧ obs.get "end" = int last then
          require (str (slice normalized first last) = excerpt)
            (.AIGroundingFailedError "grounding excerpt does not match the source slice")
        else .error (.escaped .TypeError)
    else .error (.typed (.AIGroundingFailedError "grounding offset range invalid"))
  | _, _ => .error (.escaped .TypeError)

/-- `{k: v for k, v in o.items() if k != "evidence_excerpt"}` -/
def withoutExcerpt : PyJson → PyJson
  | obj entries => obj (entries.filter fun e => e.1 ≠ .of "evidence_excerpt")
  | j => j

/-- What is checked of a payload that satisfies the schema, in the order of the stages. -/
def checkProposals (expected_input_id normalized : PyStr) (rk : Registry)
    (observations indicators : List PyJson) : Checked Unit := do
  let obs_ids := observations.map proposal_id
  require obs_ids.Nodup (.AIReferenceInvalidError "duplicate observation proposal identifier")
  require (indicators.filterMap (get? "proposal_id")).Nodup
    (.AIReferenceInvalidError "duplicate indicator proposal identifier")
  (sortedBy (fun o => [(proposal_id o).text]) observations).forM (checkSource expected_input_id)
  (sortedBy (fun i => [(proposal_id i).text, (i.get "indicator_id").text]) indicators).forM
    (checkInput expected_input_id)
  (sortedBy indicatorKey indicators).forM (checkRegistered rk)
  (sortedBy indicatorKey indicators).forM (checkReferences obs_ids)
  (sortedBy (fun o => [(proposal_id o).text]) observations).forM (checkGrounded normalized)

def validate_ai_extraction (raw : RawAIExtractionResponse)
    (expected_request_id expected_input_id : PyStr) (normalized_inputs : List (PyStr × PyJson))
    (rk : Registry) : Checked ValidatedAIExtraction :=
  if expected_request_id = [] ∨ expected_input_id = [] then .error (.escaped .TypeError)
  else do
    let text ← payload raw.raw_text
    require (raw.request_id = expected_request_id)
      (.AIReferenceInvalidError "request correlation failed")
    let data ← parse text
    _check_depth data
    _scan_forbidden data
    require (aiExtraction data = true) .AISchemaInvalidError
    let normalized ← currentInput expected_input_id normalized_inputs
    require (data.get "input_id" = str expected_input_id)
      (.AIReferenceInvalidError "payload input_id does not match the expected current input")
    let observations := (data.get "observations").elements
    let indicators := (data.get "indicators").elements
    checkProposals expected_input_id normalized rk observations indicators
    .ok ⟨expected_input_id, observations.map withoutExcerpt, indicators⟩

end TrustLens.Ai.Extraction
