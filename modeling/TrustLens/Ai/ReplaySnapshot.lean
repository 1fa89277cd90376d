import TrustLens.Ai.CanonicalJson
import TrustLens.Lib.JsonSchema
import TrustLens.Lib.PyObject

/-!
# Replay snapshots

An extraction audit, the governed artifact it led to and the pins of its run, held
together by one digest. A snapshot is pinned once from the material itself and restored
from the dictionary it gives, which carries the digest it was pinned with.
-/

namespace TrustLens.Ai

open Json Schema

inductive GovernanceError where
  | AIPromptPolicyViolationError
  | AIProvenanceInvalidError
  | AIReplayIntegrityError
deriving DecidableEq

abbrev Run (α : Type) := Except (Raised GovernanceError) α

def provenanceInvalid {α : Type} : Run α := .error (.typed .AIProvenanceInvalidError)

def integrityFailed {α : Type} : Run α := .error (.typed .AIReplayIntegrityError)

/-- What the digests are made with. -/
structure Library where
  /-- how `json.dumps` writes a float -/
  number : PyFloat → String
  /-- `hashlib.sha256(text.encode("utf-8")).hexdigest()` -/
  sha256 : String → String

variable (lib : Library)

def canonical_json (value : Json) : Run String :=
  match canonicalJson lib.number value with
  | some text => .ok text
  | none => provenanceInvalid

def canonical_digest (value : Json) : Run String := do
  let text ← canonical_json lib value
  .ok (lib.sha256 text)

/-- `_json_copy` of a value on its own. -/
def copied (value : Json) : Run Json :=
  match jsonCopy value 0 NODE_BUDGET with
  | some _ => .ok value
  | none => provenanceInvalid

/-- `[A-Za-z0-9][A-Za-z0-9_.:-]{1,127}` -/
def isIdentifier (s : String) : Bool :=
  headTail (fun c => isAlpha c || isAsciiDigit c)
    (fun c => isAlpha c || isAsciiDigit c || ['_', '.', ':', '-'].contains c) 1 127 s.toList

abbrev Identifier := { s : String // isIdentifier s = true }

def _identifier (value : Json) : Run Identifier :=
  match value with
  | .str s => if h : isIdentifier s = true then .ok ⟨s, h⟩ else provenanceInvalid
  | _ => provenanceInvalid

/-- `[0-9a-f]{64}` -/
def isDigest (s : String) : Bool :=
  s.toList.length == 64 && s.toList.all fun c => isAsciiDigit c || ('a' ≤ c && c ≤ 'f')

def _digest (value : Json) : Run Unit :=
  match value with
  | .str s => if isDigest s then .ok () else provenanceInvalid
  | _ => provenanceInvalid

/-! ### Configurations -/

def AI_EXTRACTION_VERSION : String := "1.0.0"

def CONFIDENCE_POLICY_VERSION : String := "1.0.0"

/-- The fields that may hold nothing but the repository's identities. -/
def PINNED : List (String × String) :=
  [("prompt_template_id", "ai-extraction-data-only"), ("prompt_template_version", "1.0.0"),
   ("response_schema_id", "ai-extraction"), ("response_schema_version", AI_EXTRACTION_VERSION),
   ("ai_adapter_id", "ai-extraction-adapter"), ("ai_adapter_version", "1.0.0")]

def REQUIRED : List String :=
  ["config_id", "provider_adapter_id", "provider_adapter_version", "model_id", "model_version"]

def DECODING : List String := ["temperature", "top_p", "max_output_tokens", "seed"]

/-- The check of one decoding parameter's value. -/
def decodingAllowed (entry : String × Json) : Bool :=
  match entry.2 with
  | .int n =>
    if entry.1 = "temperature" then 0 ≤ n && n ≤ 2
    else if entry.1 = "top_p" then 0 ≤ n && n ≤ 1
    else (if entry.1 = "max_output_tokens" then 1 else 0) ≤ n && n ≤ 2 ^ 31 - 1
  | .float (.finite q) =>
    if entry.1 = "temperature" then 0 ≤ q && q ≤ 2 else entry.1 = "top_p" && 0 ≤ q && q ≤ 1
  | .float .negZero => entry.1 = "temperature" || entry.1 = "top_p"
  | _ => false

/-- A configuration, without the fields of `PINNED`. -/
structure AIConfiguration where
  configId : Identifier
  providerAdapterId : Identifier
  providerAdapterVersion : Identifier
  modelId : Identifier
  modelVersion : Identifier
  decodingParameters : List (String × Json)
  bounded : jsonCopy (.obj decodingParameters) 0 NODE_BUDGET ≠ none
  known : decodingParameters.all (DECODING.contains ·.1) = true
  allowed : decodingParameters.all decodingAllowed = true

/-- The keyword arguments of `AIConfiguration(**value)`, if the signature admits them. -/
def keywords (value : Json) : Run (List (String × Json)) :=
  match value with
  | .obj entries =>
    if entries.all (fun e => (REQUIRED ++ "decoding_parameters" :: PINNED.map Prod.fst).contains e.1) &&
        REQUIRED.all (fun name => (lookup name entries).isSome) then
      .ok entries
    else .error (.escaped .TypeError)
  | _ => .error (.escaped .TypeError)

/-- The checks of `__post_init__` on the decoding parameters. -/
def AIConfiguration.withParameters (configId providerAdapterId providerAdapterVersion modelId
    modelVersion : Identifier) (parameters : Json) : Run AIConfiguration :=
  match parameters with
  | .obj entries =>
    if hbounded : jsonCopy (.obj entries) 0 NODE_BUDGET ≠ none then
      if hknown : entries.all (DECODING.contains ·.1) = true then
        if hallowed : entries.all decodingAllowed = true then
          .ok ⟨configId, providerAdapterId, providerAdapterVersion, modelId, modelVersion, entries,
            hbounded, hknown, hallowed⟩
        else provenanceInvalid
      else .error (.typed .AIPromptPolicyViolationError)
    else provenanceInvalid
  | _ => provenanceInvalid

def AIConfiguration.make (value : Json) : Run AIConfiguration := do
  let given ← keywords value
  let configId ← _identifier ((lookup "config_id" given).getD .null)
  let providerAdapterId ← _identifier ((lookup "provider_adapter_id" given).getD .null)
  let providerAdapterVersion ← _identifier ((lookup "provider_adapter_version" given).getD .null)
  let modelId ← _identifier ((lookup "model_id" given).getD .null)
  let modelVersion ← _identifier ((lookup "model_version" given).getD .null)
  if PINNED.all fun (name, expected) => (lookup name given).all (· = .str expected) then
    AIConfiguration.withParameters configId providerAdapterId providerAdapterVersion modelId modelVersion
      ((lookup "decoding_parameters" given).getD (.obj []))
  else .error (.typed .AIPromptPolicyViolationError)

def AIConfiguration.as_dict (c : AIConfiguration) : Json :=
  .obj ([("config_id", .str c.configId.1), ("provider_adapter_id", .str c.providerAdapterId.1),
    ("provider_adapter_version", .str c.providerAdapterVersion.1), ("model_id", .str c.modelId.1),
    ("model_version", .str c.modelVersion.1),
    ("decoding_parameters", .obj c.decodingParameters)] ++
    PINNED.map fun (name, expected) => (name, .str expected))

/-! ### Audits -/

/-- `ValidatedAIExtraction`, whose constructor checks nothing. -/
structure ValidatedAIExtraction where
  inputId : Json
  observations : Json
  indicators : Json

def extractionDict (inputId : Json) (observations indicators : List Json) : Json :=
  .obj [("input_id", inputId), ("observations", .arr observations), ("indicators", .arr indicators)]

def ValidatedAIExtraction.as_dict (v : ValidatedAIExtraction) : Run Json := do
  let observations ← Py.iter v.observations
  let indicators ← Py.iter v.indicators
  .ok (extractionDict v.inputId observations indicators)

/-- The sealed audit of a run, made by its factory only. -/
structure AIExtractionResult where
  runId : Identifier
  evaluationId : Identifier
  config : AIConfiguration
  inputId : Identifier
  observations : List Json
  indicators : List Json
  bounded : jsonCopy (extractionDict (.str inputId.1) observations indicators) 0 NODE_BUDGET ≠ none

def AIExtractionResult.extraction (r : AIExtractionResult) : Json :=
  extractionDict (.str r.inputId.1) r.observations r.indicators

def AIExtractionResult.as_dict (r : AIExtractionResult) : Run Json := do
  let configRef ← canonical_digest lib r.config.as_dict
  let digest ← canonical_digest lib r.extraction
  .ok (.obj [("run_id", .str r.runId.1), ("evaluation_id", .str r.evaluationId.1),
    ("config_ref", .str ("ai-config:sha256:" ++ configRef)), ("config", r.config.as_dict),
    ("validated_extraction", r.extraction), ("validated_extraction_digest", .str digest),
    ("governed_artifact_digest", .null), ("response_schema_version", .str AI_EXTRACTION_VERSION),
    ("confidence_policy_version", .str CONFIDENCE_POLICY_VERSION)])

def _new_ai_extraction_result (runId evaluationId : Json) (config : AIConfiguration)
    (validated : ValidatedAIExtraction) : Run AIExtractionResult := do
  let runId ← _identifier runId
  let evaluationId ← _identifier evaluationId
  let observations ← Py.iter validated.observations
  let indicators ← Py.iter validated.indicators
  let data ← copied (extractionDict validated.inputId observations indicators)
  let inputId ← _identifier (data.get "input_id")
  if h : jsonCopy (extractionDict (.str inputId.1) observations indicators) 0 NODE_BUDGET ≠ none then
    .ok ⟨runId, evaluationId, config, inputId, observations, indicators, h⟩
  else provenanceInvalid

/-- `_is_sealed_ai_extraction_result`, on what the factory made. -/
def isSealed (r : AIExtractionResult) : Bool :=
  match canonical_digest lib r.extraction with
  | .ok digest => isDigest digest
  | .error _ => false

/-! ### Snapshots -/

/-- `except AIProvenanceInvalidError: raise AIReplayIntegrityError() from None` -/
def asIntegrity {α : Type} : Run α → Run α
  | .error (.typed .AIProvenanceInvalidError) => integrityFailed
  | x => x

/-- The fields of a snapshot, checked or not. -/
structure Fields where
  extractionResult : AIExtractionResult
  governedArtifact : Json
  contentDigest : Json
  engineVersion : Json
  profile : Json
  snapshotDigest : Json

def Fields._material (s : Fields) : Run (List (String × Json)) := do
  let audit ← s.extractionResult.as_dict lib
  let artifact ← copied s.governedArtifact
  let artifactDigest ← canonical_digest lib s.governedArtifact
  .ok [("snapshot_version", .str "1.0.0"), ("extraction_result", audit),
    ("governed_artifact", artifact), ("governed_artifact_digest", .str artifactDigest),
    ("content_digest", s.contentDigest), ("engine_version", s.engineVersion),
    ("profile", s.profile)]

/-- The body of `verify`; `self.governed_artifact_digest` is the digest it is compared with. -/
def Fields.checks (s : Fields) : Run Unit :=
  if isSealed lib s.extractionResult then do
    _digest s.contentDigest
    _digest s.snapshotDigest
    let _ ← _identifier s.engineVersion
    let _ ← _identifier s.profile
    let artifactDigest ← canonical_digest lib s.governedArtifact
    _digest (.str artifactDigest)
    let material ← s._material lib
    let digest ← canonical_digest lib (.obj material)
    if s.snapshotDigest = .str digest then .ok () else integrityFailed
  else integrityFailed

def Fields.verify (s : Fields) : Run Unit := asIntegrity (s.checks lib)

structure AIReplaySnapshot extends Fields where
  verified : toFields.verify lib = .ok ()

variable {lib} in
def AIReplaySnapshot.as_dict (s : AIReplaySnapshot lib) : Run Json := do
  s.verify lib
  let material ← s._material lib
  .ok (.obj (material ++ [("snapshot_digest", s.snapshotDigest)]))

def Fields.seal (s : Fields) : Run (AIReplaySnapshot lib) :=
  match h : s.verify lib with
  | .ok () => .ok ⟨s, h⟩
  | .error e => .error e

/-- The constructor of a snapshot, with its `__post_init__`. -/
def AIReplaySnapshot.make (s : Fields) : Run (AIReplaySnapshot lib) := asIntegrity do
  let artifact ← copied s.governedArtifact
  if artifact.isObj then
    let _ ← canonical_json lib artifact
    s.seal lib
  else integrityFailed

def pin_replay_snapshot (result : AIExtractionResult)
    (governedArtifact contentDigest engineVersion profile : Json) : Run (AIReplaySnapshot lib) :=
  if isSealed lib result then do
    let artifact ← copied governedArtifact
    if artifact.isObj then
      let artifactDigest ← canonical_digest lib artifact
      let audit ← result.as_dict lib
      let digest ← canonical_digest lib (.obj [("snapshot_version", .str "1.0.0"),
        ("extraction_result", audit), ("governed_artifact", artifact),
        ("content_digest", contentDigest), ("governed_artifact_digest", .str artifactDigest),
        ("engine_version", engineVersion), ("profile", profile)])
      AIReplaySnapshot.make lib ⟨result, artifact, contentDigest, engineVersion, profile, .str digest⟩
    else provenanceInvalid
  else provenanceInvalid

def SNAPSHOT_KEYS : List String :=
  ["snapshot_version", "extraction_result", "governed_artifact", "governed_artifact_digest",
   "content_digest", "engine_version", "profile", "snapshot_digest"]

/-- `type(value) is dict and set(value) == set(names)` -/
def hasKeys (names : List String) : Json → Bool
  | .obj entries =>
    entries.all (fun e => names.contains e.1) && names.all (entries.map Prod.fst).contains
  | _ => false

/-- The audit that `restore_replay_snapshot` builds from the data of one. -/
def restoreAudit (auditData : Json) : Run AIExtractionResult := do
  let config ← AIConfiguration.make (← Py.item auditData "config")
  let validatedData ← Py.item auditData "validated_extraction"
  if hasKeys ["input_id", "observations", "indicators"] validatedData then
    let runId ← Py.item auditData "run_id"
    let evaluationId ← Py.item auditData "evaluation_id"
    _new_ai_extraction_result runId evaluationId config
      ⟨validatedData.get "input_id", validatedData.get "observations",
        validatedData.get "indicators"⟩
  else integrityFailed

/-- The body of `restore_replay_snapshot`. -/
def restoring (payload : Json) : Run (AIReplaySnapshot lib) := do
  let data ← copied payload
  if hasKeys SNAPSHOT_KEYS data && data.get "snapshot_version" = .str "1.0.0" then
    let audit ← restoreAudit (data.get "extraction_result")
    let rebuilt ← canonical_json lib (← audit.as_dict lib)
    let given ← canonical_json lib (data.get "extraction_result")
    if rebuilt = given then
      let artifactDigest ← canonical_digest lib (data.get "governed_artifact")
      if data.get "governed_artifact_digest" = .str artifactDigest then
        AIReplaySnapshot.make lib ⟨audit, data.get "governed_artifact",
          data.get "content_digest", data.get "engine_version", data.get "profile", data.get "snapshot_digest"⟩
      else integrityFailed
    else integrityFailed
  else integrityFailed

/-- `restore_replay_snapshot`, with its handler. -/
def restore_replay_snapshot (payload : Json) : Run (AIReplaySnapshot lib) :=
  match restoring lib payload with
  | .error (.typed _) | .error (.escaped .KeyError) | .error (.escaped .TypeError) =>
    integrityFailed
  | result => result

end TrustLens.Ai
