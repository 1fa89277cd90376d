import TrustLens.Ai.Extraction
import TrustLens.Ai.ReplaySnapshot
import TrustLens.Lib.PyJsonText
import TrustLens.Runtime.DetectionResult

/-!
# Optional extraction

The host's evidence is captured once. Where extraction is enabled and the input is evaluable, a
provider is asked, its answer is validated, capped and mapped onto evidence of its own, and the two
together are pinned for replay; a failure of any of these steps leaves the host's evidence as it is.
The engine then evaluates what there is, once.
-/

namespace TrustLens.Ai.Integration

open TrustLens.Runtime (Envelope RuntimeKnowledge Level Status DetectionResult ErrorMessage
  buildValidatedContext engineVersion defaultProfile)
open TrustLens.Runtime.Detection (evaluateDetection)
open Extraction (RawAIExtractionResponse Registry Checked validate_ai_extraction)

inductive AIFallbackReason where
  | DISABLED
  | HOST_NOT_EVALUABLE
  | PROVIDER_FAILED
  | RESPONSE_REJECTED
  | GOVERNANCE_FAILED
  | MAPPING_FAILED
deriving DecidableEq

/-- A step of the optional path: a typed failure is the reason to fall back. -/
abbrev Attempt (α : Type) := Except (Raised AIFallbackReason) α

/-- `except error: reason = …`, of the errors of one kind. -/
def failing {ε α : Type} (reason : AIFallbackReason) : Except (Raised ε) α → Attempt α
  | .ok a => .ok a
  | .error (.typed _) => .error (.typed reason)
  | .error (.escaped e) => .error (.escaped e)

/-! ### The governed artifact -/

structure EvaluationContext where
  envelope : Envelope
  input_support_status : String
  whole_evaluation_errors : List Json
deriving DecidableEq

/-- What the engine is given. -/
structure GovernedArtifact where
  observations : List Json
  indicator_observations : List Json
  evaluation_context : EvaluationContext
deriving DecidableEq

def EvaluationContext.toJson (c : EvaluationContext) : Json :=
  .obj [("evaluation_id", .str c.envelope.evaluationId),
    ("evaluation_timestamp", .str c.envelope.evaluationTimestamp),
    ("input_id", .str c.envelope.inputId), ("language", .arr (c.envelope.language.map .str)),
    ("script", .arr (c.envelope.script.map .str)),
    ("input_support_status", .str c.input_support_status),
    ("whole_evaluation_errors", .arr c.whole_evaluation_errors)]

def GovernedArtifact.toJson (a : GovernedArtifact) : Json :=
  .obj [("observations", .arr a.observations),
    ("indicator_observations", .arr a.indicator_observations),
    ("evaluation_context", a.evaluation_context.toJson)]

/-- The keyword arguments of the engine in a document. -/
def EvaluationContext.ofJson? (j : Json) : Option EvaluationContext := do
  let envelope : Envelope := {
    evaluationId := ← (j.get "evaluation_id").str?
    evaluationTimestamp := ← (j.get "evaluation_timestamp").str?
    inputId := ← (j.get "input_id").str?
    language := ← (j.get "language").strings?
    script := ← (j.get "script").strings? }
  return ⟨envelope, ← (j.get "input_support_status").str?, (j.get "whole_evaluation_errors").items⟩

def GovernedArtifact.ofJson? (j : Json) : Option GovernedArtifact :=
  (EvaluationContext.ofJson? (j.get "evaluation_context")).map fun context =>
    ⟨(j.get "observations").items, (j.get "indicator_observations").items, context⟩

/-- The evidence with a contribution at its end. -/
def GovernedArtifact.extend (a : GovernedArtifact) (observations indicators : List Json) :
    GovernedArtifact :=
  { a with
    observations := a.observations ++ observations
    indicator_observations := a.indicator_observations ++ indicators }

/-! ### Requests -/

def MAX_CONTENT_CHARS : ℕ := 100000

/-- The submitted text as data, with the identities and the pointers it is extracted under. -/
structure AIExtractionRequest where
  request_id : String
  input_id : String
  normalized_content : PyStr
  prompt_template_id : Option String
  response_contract_id : Option String
  named : request_id ≠ "" ∧ input_id ≠ ""
  bounded : normalized_content.length ≤ MAX_CONTENT_CHARS

/-- A pointer is absent, or not blank. -/
def pointerAllowed (pointer : Option String) : Bool :=
  pointer.all fun p => PyText.strip p.toList ≠ []

/-- The constructor of a request, none where it raises its `ValueError`. -/
def AIExtractionRequest.make (request_id : Json) (input_id : String)
    (normalized_content : Option PyStr) (prompt_template_id response_contract_id : Option String) :
    Option AIExtractionRequest :=
  match request_id, normalized_content with
  | .str request_id, some content =>
    if named : request_id ≠ "" ∧ input_id ≠ "" then
      if bounded : content.length ≤ MAX_CONTENT_CHARS then
        if pointerAllowed prompt_template_id && pointerAllowed response_contract_id then
          some ⟨request_id, input_id, content, prompt_template_id, response_contract_id, named, bounded⟩
        else none
      else none
    else none
  | _, _ => none

/-- The field of a configuration that holds one of the repository's identities. -/
def pinned (name : String) : Option String := (PINNED.find? (·.1 = name)).map Prod.snd

structure PreparedAIRequest where
  config : AIConfiguration
  request : AIExtractionRequest
  request_identified : isIdentifier request.request_id = true
  input_identified : isIdentifier request.input_id = true
  pointers : request.prompt_template_id = pinned "prompt_template_id" ∧
    request.response_contract_id = pinned "response_schema_id"

def PreparedAIRequest.make (config : AIConfiguration) (request : AIExtractionRequest) :
    Run PreparedAIRequest :=
  if hrequest : isIdentifier request.request_id = true then
    if hinput : isIdentifier request.input_id = true then
      if hpointers : request.prompt_template_id = pinned "prompt_template_id" ∧
          request.response_contract_id = pinned "response_schema_id" then
        .ok ⟨config, request, hrequest, hinput, hpointers⟩
      else .error (.typed .AIPromptPolicyViolationError)
    else .error (.typed .AIPromptPolicyViolationError)
  else .error (.typed .AIPromptPolicyViolationError)

def prepare_ai_request (config : Option AIConfiguration) (request_id : Json) (input_id : String)
    (normalized_content : Option PyStr) : Run PreparedAIRequest :=
  match config with
  | none => .error (.typed .AIPromptPolicyViolationError)
  | some config =>
    match AIExtractionRequest.make request_id input_id normalized_content
        (pinned "prompt_template_id") (pinned "response_schema_id") with
    | none => .error (.typed .AIPromptPolicyViolationError)
    | some request => PreparedAIRequest.make config request

/-! ### Proposals with their caps -/

/-- The state of a proposal; the level is derived from it and from nothing else. -/
structure CappedAIProposal where
  collection : String
  index : ℕ
  proposal_id : Option Identifier
  state : Status
  identified : collection = "observations" → proposal_id ≠ none

namespace CappedAIProposal

def level (p : CappedAIProposal) : Level :=
  if p.state = .UNKNOWN ∨ p.state = .AMBIGUOUS then .LOW else .MEDIUM

def review_required (p : CappedAIProposal) : Bool := p.level = .LOW

/-- The identifier of a proposal that has one. -/
def named (proposal_id : Json) : Run (Option Identifier) :=
  if proposal_id = .null then .ok none else (_identifier proposal_id).map some

def make (collection : String) (index : ℕ) (proposal_id state : Json) : Run CappedAIProposal := do
  let proposal_id ← named proposal_id
  if identified : collection = "observations" → proposal_id ≠ none then
    match state.str? >>= Status.ofString? with
    | some state => .ok ⟨collection, index, proposal_id, state, identified⟩
    | none => provenanceInvalid
  else provenanceInvalid

/-- The cap of one item; a missing key or an item that is no dictionary is the same error. -/
def ofItem (collection state_key : String) (item : Json × ℕ) : Run (Json × CappedAIProposal) :=
  match item.1.get? state_key with
  | some state => (make collection item.2 (item.1.get "proposal_id") state).map (item.1, ·)
  | none => provenanceInvalid

end CappedAIProposal

/-- A copy of validated output, each proposal with its cap. -/
structure PreparedAIExtraction where
  config : AIConfiguration
  input_id : Identifier
  observations : List (Json × CappedAIProposal)
  indicators : List (Json × CappedAIProposal)

/-- `validated.as_dict()` -/
def as_dict (validated : Extraction.ValidatedAIExtraction) : PyJson :=
  .obj [(.of "input_id", .str validated.input_id), (.of "observations", .arr validated.observations),
    (.of "indicators", .arr validated.indicators)]

section

variable (lib : Library)

def PreparedAIExtraction.make (validated : Extraction.ValidatedAIExtraction)
    (config : AIConfiguration) : Run PreparedAIExtraction :=
  match (as_dict validated).json? with
  | none => provenanceInvalid
  | some document => do
    let data ← copied document
    let _ ← canonical_json lib data
    let input_id ← _identifier (data.get "input_id")
    let observations ← ((data.get "observations").items.zipIdx).mapM
      (CappedAIProposal.ofItem "observations" "status")
    let indicators ← ((data.get "indicators").items.zipIdx).mapM
      (CappedAIProposal.ofItem "indicators" "matched")
    .ok ⟨config, input_id, observations, indicators⟩

def prepare_ai_extraction (validated : Extraction.ValidatedAIExtraction)
    (prepared_request : PreparedAIRequest) (run_id evaluation_id : Json) :
    Run (PreparedAIExtraction × AIExtractionResult) :=
  if validated.input_id = .of prepared_request.request.input_id then do
    let prepared ← PreparedAIExtraction.make lib validated prepared_request.config
    let audit ← _new_ai_extraction_result run_id evaluation_id prepared_request.config
      ⟨.str prepared.input_id.1, .arr (prepared.observations.map Prod.fst),
        .arr (prepared.indicators.map Prod.fst)⟩
    .ok (prepared, audit)
  else provenanceInvalid

/-! ### Mapping -/

/-- `AIProvenanceDescriptor.as_dict` -/
def provenance (config : AIConfiguration) : Run Json := do
  let digest ← canonical_digest lib config.as_dict
  .ok (.obj [("extractor_id", .str "ai-extraction-adapter"), ("extractor_type", .str "LLM"),
    ("extractor_version", .str "1.0.0"), ("config_ref", .str ("ai-config:sha256:" ++ digest))])

/-- `{key: proposal[key] for key in names}` -/
def kept (names : List String) (proposal : Json) : Run (List (String × Json)) :=
  names.mapM fun key => do
    let value ← Py.item proposal key
    .ok (key, value)

def confidence (capped : CappedAIProposal) : Json := .obj [("level", .str capped.level.name)]

def OBSERVATION_KEYS : List String :=
  ["observation_type", "source_input_id", "status", "polarity", "attribution", "mood"]

def INDICATOR_KEYS : List String := ["indicator_id", "polarity", "matched", "input_id"]

/-- `obs.update(…)`, and the canonical value of a proposal that has one. -/
def observationUpdate (observation_id : String) (first last : Json) (capped : CappedAIProposal)
    (provenance : Json) (value : Option Json) : List (String × Json) :=
  [("observation_id", .str observation_id), ("offsets", .obj [("start", first), ("end", last)]),
    ("confidence", confidence capped), ("provenance", provenance)] ++
    (value.map ("canonical_value", ·)).toList

/-- `ind.update(…)` -/
def indicatorUpdate (refs : List Json) (capped : CappedAIProposal) (provenance : Json) :
    List (String × Json) :=
  [("observation_refs", .arr refs), ("confidence", confidence capped),
    ("extraction_method", .str "LLM"), ("review_required", .bool capped.review_required),
    ("provenance", provenance)]

/-- An observation that was mapped, with the id of its proposal and its own. -/
structure MappedObservation where
  proposal_id : Json
  observation_id : String
  record : Json

def mapObservation (run_id : Identifier) (config : AIConfiguration)
    (proposal : Json × CappedAIProposal) : Run MappedObservation := do
  let proposal_id ← Py.item proposal.1 "proposal_id"
  let digest ← canonical_digest lib (.obj [("run_id", .str run_id.1), ("proposal_id", proposal_id)])
  let own ← kept OBSERVATION_KEYS proposal.1
  let first ← Py.item proposal.1 "start"
  let last ← Py.item proposal.1 "end"
  let provenance ← provenance lib config
  .ok ⟨proposal_id, "AI-OBS-" ++ digest,
    .obj (own ++ observationUpdate ("AI-OBS-" ++ digest) first last proposal.2 provenance
      (proposal.1.get? "canonical_value"))⟩

/-- `refs[ref]`, of the observations that were mapped. -/
def resolve (mapped : List MappedObservation) (ref : Json) : Run Json :=
  match mapped.find? (·.proposal_id = ref) with
  | some observation => .ok (.str observation.observation_id)
  | none => .error (.escaped .KeyError)

def mapIndicator (config : AIConfiguration) (mapped : List MappedObservation)
    (proposal : Json × CappedAIProposal) : Run Json := do
  let own ← kept INDICATOR_KEYS proposal.1
  let given ← Py.getD proposal.1 "observation_refs" (.arr [])
  let refs ← (← Py.iter given).mapM (resolve mapped)
  let provenance ← provenance lib config
  .ok (.obj (own ++ indicatorUpdate refs proposal.2 provenance))

mutual
/-- Whether Python hashes the frozen value: a tuple of what it hashes, no mapping. -/
def hashable : Json → Bool
  | .arr items => hashableItems items
  | .obj _ => false
  | _ => true

def hashableItems : List Json → Bool
  | [] => true
  | j :: js => hashable j && hashableItems js
end

/-- A member of `host_ids`. -/
def hostId (observation : Json) : Run Json := do
  let id ← Py.getD observation "observation_id" .null
  if hashable id then .ok id else .error (.escaped .TypeError)

/-- `except (KeyError, TypeError, ValueError, AttributeError): raise AIMappingError()` -/
def mapping {α : Type} : Run α → Attempt α
  | .ok a => .ok a
  | .error (.typed _) => .error (.typed .GOVERNANCE_FAILED)
  | .error (.escaped e) =>
    if e ∈ [PyException.KeyError, .TypeError, .ValueError, .AttributeError] then
      .error (.typed .MAPPING_FAILED)
    else .error (.escaped e)

/-- Whether the host's evidence is about one input only, as it has to be beside a contribution. -/
def aboutInput (input_id : Identifier) (host : GovernedArtifact) : Bool :=
  host.observations.all (fun o => o.get "source_input_id" = .str input_id.1) &&
    host.indicator_observations.all fun i => i.get "input_id" = .str input_id.1

/-- The observations and indicators that the proposals become. -/
def _map_ai (prepared : PreparedAIExtraction) (run_id : Identifier) (host : GovernedArtifact) :
    Attempt (List Json × List Json) := do
  let mapped ← mapping (prepared.observations.mapM (mapObservation lib run_id prepared.config))
  let indicators ← mapping (prepared.indicators.mapM (mapIndicator lib prepared.config mapped))
  let host_ids ← mapping (host.observations.mapM hostId)
  if mapped.any fun o => host_ids.contains (.str o.observation_id) then
    .error (.typed .MAPPING_FAILED)
  else if (!mapped.isEmpty || !indicators.isEmpty) && !aboutInput prepared.input_id host then
    .error (.typed .MAPPING_FAILED)
  else
    match buildValidatedContext indicators (mapped.map MappedObservation.record) "en" "Latn" with
    | .error _ => .error (.typed .MAPPING_FAILED)
    | .ok _ => .ok (mapped.map MappedObservation.record, indicators)

end

/-! ### One evaluation with optional extraction -/

/-- The records of the runtime knowledge, and the attributes of them that validation reads. -/
structure Knowledge where
  runtime : RuntimeKnowledge
  registry : Registry
  positive : ∀ id, (registry.indicator (.of id)).isSome = runtime.isPositive id
  negative : ∀ id, (registry.negative_indicator (.of id)).isSome = runtime.isNegative id

/-- What asking a provider comes to. -/
inductive Answer where
  | response (raw : RawAIExtractionResponse)
  /-- an object of another type -/
  | other
  | raised (e : Raised AIFallbackReason)

/-- What the caller passes besides the evidence. -/
structure Options where
  extraction_enabled : Bool
  provider : Option (AIExtractionRequest → Answer)
  config : Option AIConfiguration
  normalized_content : Option PyStr
  request_id : Json
  run_id : Json

inductive IntegrationError where
  | AIIntegrationInputError
  | AIGovernanceError (e : GovernanceError)
  /-- what the engine raises -/
  | evaluation (e : Runtime.Detection.Failure)
deriving DecidableEq

/-- `provider.extract(request)`, and the check of what it returns. -/
def extract (provider : Option (AIExtractionRequest → Answer)) (request : AIExtractionRequest) :
    Attempt RawAIExtractionResponse :=
  match provider with
  | none => .error (.typed .PROVIDER_FAILED)
  | some ask =>
    match ask request with
    | .response raw => .ok raw
    | .other => .error (.typed .RESPONSE_REJECTED)
    | .raised e => .error e

section

variable (lib : Library) (isInstant : String → Bool) (render : ErrorMessage → String) (kb : Knowledge)

/-- The optional path, up to the snapshot that pins what the engine is given. -/
def attempt (host : GovernedArtifact) (options : Options) : Attempt (AIReplaySnapshot lib) := do
  let envelope := host.evaluation_context.envelope
  let request ← failing .GOVERNANCE_FAILED (prepare_ai_request options.config options.request_id
    envelope.inputId options.normalized_content)
  let raw ← extract options.provider request.request
  let validated ← failing .RESPONSE_REJECTED (validate_ai_extraction raw
    (.of request.request.request_id) (.of envelope.inputId)
    [(.of envelope.inputId, .str request.request.normalized_content)] kb.registry)
  let (prepared, audit) ← failing .GOVERNANCE_FAILED (prepare_ai_extraction lib validated request
    options.run_id (.str envelope.evaluationId))
  let (observations, indicators) ← _map_ai lib prepared audit.runId host
  failing .GOVERNANCE_FAILED (pin_replay_snapshot lib audit
    (host.extend observations indicators).toJson (.str kb.runtime.contentDigest)
    (.str engineVersion) (.str defaultProfile.profileId))

/-- What the optional part leaves to the evaluation. -/
structure Consulted where
  ai_attempted : Bool
  fallback_reason : Option AIFallbackReason
  governed_artifact : Json
  replay_snapshot : Option (AIReplaySnapshot lib)

def evaluable (context : EvaluationContext) : Bool :=
  (context.input_support_status = "SUPPORTED" ||
    context.input_support_status = "PARTIALLY_SUPPORTED") &&
  context.whole_evaluation_errors = [] && context.envelope.language = ["en"] &&
  context.envelope.script = ["Latn"]

def consult (host : GovernedArtifact) (options : Options) :
    Except (Raised IntegrationError) (Consulted lib) :=
  if options.extraction_enabled = false then .ok ⟨false, some .DISABLED, host.toJson, none⟩
  else if evaluable host.evaluation_context = false then
    .ok ⟨false, some .HOST_NOT_EVALUABLE, host.toJson, none⟩
  else
    match attempt lib kb host options with
    | .ok replay => .ok ⟨true, none, replay.governedArtifact, some replay⟩
    | .error (.typed reason) => .ok ⟨true, some reason, host.toJson, none⟩
    | .error (.escaped e) => .error (.escaped e)

/-- The host's evidence is canonical material, or is refused. -/
def capture (host : GovernedArtifact) : Except (Raised IntegrationError) Unit :=
  match (do let copy ← copied host.toJson; canonical_json lib copy : Run String) with
  | .ok _ => .ok ()
  | .error _ => .error (.typed .AIIntegrationInputError)

/-- `evaluate_detection_from_governed` on what was copied. -/
def evaluateGoverned (consumed : Json) : Except (Raised IntegrationError) DetectionResult :=
  match GovernedArtifact.ofJson? consumed with
  | none => .error (.escaped .TypeError)
  | some a =>
    (evaluateDetection isInstant render kb.runtime (.ofList a.indicator_observations)
      (.ofList a.observations) a.evaluation_context.envelope
      a.evaluation_context.input_support_status
      a.evaluation_context.whole_evaluation_errors).mapError fun e => .typed (.evaluation e)

structure AIIntegrationOutcome extends Consulted lib where
  detection_result : DetectionResult

def evaluate_with_optional_ai (host : GovernedArtifact) (options : Options) :
    Except (Raised IntegrationError) (AIIntegrationOutcome lib) := do
  capture lib host
  let consulted ← consult lib kb host options
  let consumed ← match copied consulted.governed_artifact with
    | .ok consumed => .ok consumed
    | .error (.typed e) => .error (.typed (.AIGovernanceError e))
    | .error (.escaped e) => .error (.escaped e)
  let detection ← evaluateGoverned isInstant render kb consumed
  .ok ⟨consulted, detection⟩

/-- Verifies all pins and gives the artifact back. -/
def prepare_replay {lib : Library} (snapshot : AIReplaySnapshot lib) : Run Json := do
  snapshot.toFields.verify lib
  .ok snapshot.governedArtifact

end

end TrustLens.Ai.Integration
