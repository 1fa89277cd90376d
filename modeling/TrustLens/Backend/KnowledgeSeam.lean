import Mathlib.Logic.Function.Basic
import TrustLens.Backend.AuditChain
import TrustLens.Backend.Idempotency
import TrustLens.Lib.Transaction
import TrustLens.Loader.LoadBundle

/-!
# The knowledge seam

Verification of a bundle by its digest, the readiness of evaluation, and the activation of a
bundle. Any number of processes serve calls of readiness and of activation; a step of a call is one
statement outside a transaction, or one transaction. The files under a process may change at any
time, and the owner of the database may withdraw a bundle.
-/

namespace TrustLens.Backend.KnowledgeSeam

open AuditChain (_DEPLOYMENT _REFERENCE _SHA256)
open Idempotency (ExecutionState FinishKind Outcome Record Time Token)
open Loader (Directory ErrorClass Libraries LoadedKnowledge loadBundle)
open Schema (anchored headTail isAlpha isAsciiDigit isLower)

abbrev Digest := String
abbrev ProcessId := ℕ

/-- A call is named by the claim token it draws. -/
abbrev CallId := Token

/-- What the program computes with and this development leaves open. -/
structure Functions where
  libraries : Libraries
  /-- `key_digest` -/
  keyDigest : String → String
  /-- `semantic_digest` of an activation -/
  semanticDigest : List (String × Json) → String

/-! ### Tables -/

inductive Eligibility where
  | ELIGIBLE
  | WITHDRAWN
  | UNKNOWN
deriving DecidableEq

inductive OperationalState where
  | NO_ACTIVE_BUNDLE
  | ACTIVE
  | ACTIVE_BUNDLE_WITHDRAWN
deriving DecidableEq

inductive ActionKind where
  | ACTIVATION
  | ROLLBACK
  | WITHDRAWAL_REMEDIATION
  | REJECTED_ACTIVATION
deriving DecidableEq

inductive LifecycleState where
  | PUBLISHED
  | DISTRIBUTED
  | VALIDATED
  | ACTIVE
  | REJECTED
  | ACTIVE_BUNDLE_WITHDRAWN
deriving DecidableEq

inductive ActivationOutcome where
  | SUCCEEDED
  | FAILED
deriving DecidableEq

/-- `knowledge_bundle_reference`, of one content digest. -/
structure BundleReference where
  bundleVersion : String
  manifestSchemaVersion : String
  releaseRecordRef : Option String
  governanceEligibility : Eligibility
deriving DecidableEq

/-- `knowledge_activation_record` -/
structure ActivationRecord where
  id : String
  deploymentRef : String
  bundleContentDigest : Digest
  previousBundleContentDigest : Option Digest
  actionKind : ActionKind
  lifecycleState : LifecycleState
  actorPrincipalId : String
  reasonRef : String
  outcome : ActivationOutcome
  recordedAt : Time
deriving DecidableEq

/-- `knowledge_deployment_state`, of one deployment. -/
structure DeploymentState where
  operationalState : OperationalState
  activeBundleContentDigest : Option Digest
  currentActivationRecordId : Option String
deriving DecidableEq

/-- An audit event of an activation, with its safe metadata. -/
structure AuditEntry where
  eventType : String
  outcome : String
  actorPrincipalId : String
  metadata : List (String × String)
deriving DecidableEq

structure Db where
  /-- migration 0005 is applied -/
  schemaActive : Bool
  references : Digest → Option BundleReference
  /-- append-only -/
  activations : List ActivationRecord
  deployments : String → Option DeploymentState
  /-- the idempotency records of a principal and a key digest, for activations -/
  idempotency : String × String → List Record
  audit : List AuditEntry

namespace Db

def activation (db : Db) (id : String) : Option ActivationRecord :=
  db.activations.find? (·.id == id)

def setRows (db : Db) (scope : String × String) (rows : List Record) : Db :=
  { db with idempotency := Function.update db.idempotency scope rows }

def append (db : Db) (event : AuditEntry) : Db := { db with audit := db.audit ++ [event] }

/-- `INSERT … ON CONFLICT (content_digest) DO NOTHING` -/
def register (db : Db) (digest : Digest) (reference : BundleReference) : Db :=
  match db.references digest with
  | some _ => db
  | none => { db with references := Function.update db.references digest (some reference) }

def addActivation (db : Db) (record : ActivationRecord) : Db :=
  { db with activations := db.activations ++ [record] }

/-- The pointer `UPDATE` of an activation. -/
def point (db : Db) (deployment : String) (digest : Digest) (record : String) : Db :=
  { db with
    deployments := Function.update db.deployments deployment (some ⟨.ACTIVE, some digest, some record⟩) }

/-- The owner withdraws a bundle. -/
def withdraw (db : Db) (digest : Digest) : Db :=
  { db with
    references := Function.update db.references digest
      ((db.references digest).map fun r => { r with governanceEligibility := .WITHDRAWN }) }

end Db

/-! ### Verification -/

/-- The reason of a loader failure, by its class. -/
def REJECTION : ErrorClass → String
  | .BundleNotFoundError => "BUNDLE_MISSING"
  | .UnsafePathError => "BUNDLE_TAMPERED"
  | .IntegrityError => "BUNDLE_TAMPERED"
  | .ManifestError => "BUNDLE_INVALID"
  | .MemberSchemaError => "BUNDLE_INVALID"
  | .DuplicateIdError => "BUNDLE_INVALID"
  | .ReferenceIntegrityError => "BUNDLE_INVALID"
  | .CompatibilityError => "BUNDLE_INCOMPATIBLE"

/-- A release record as it is read: none, unreadable or no JSON, or a document. -/
inductive ReleaseFile where
  | missing
  | unreadable
  | document (record : Json)

/-- The verified knowledge by its digest. -/
abbrev Cache := Digest → Option LoadedKnowledge

/-- A process of a deployment, with the files it reads. -/
structure Process where
  deploymentRef : String
  /-- the cache of the verifier, where a store is configured -/
  verifier : Option Cache
  /-- the directories under the root, none where the system raises an error -/
  store : String → Option Directory
  releases : String → ReleaseFile

/-- `KnowledgeVerifier.verify`: a run that is refused for a reason raises it. -/
def verify (lib : Libraries) (store : String → Option Directory) (cache : Cache) (digest : Digest) :
    Cache × Except (Raised String) LoadedKnowledge :=
  if _SHA256 digest = false then (cache, .error (.typed "DIGEST_INVALID"))
  else
    match cache digest with
    | some knowledge => (cache, .ok knowledge)
    | none =>
      match store digest with
      | none => (cache, .error (.typed "BUNDLE_MISSING"))
      | some dir =>
        match loadBundle lib dir with
        | .error (.typed e) => (cache, .error (.typed (REJECTION e.errorClass)))
        | .error (.escaped e) => (cache, .error (.escaped e))
        | .ok knowledge =>
          if knowledge.contentDigest ≠ digest then (cache, .error (.typed "BUNDLE_TAMPERED"))
          else (Function.update cache digest (some knowledge), .ok knowledge)

/-- `verify` of a process that has a verifier. -/
def Process.verify (lib : Libraries) (process : Process) (digest : Digest) :
    Process × Except (Raised String) LoadedKnowledge :=
  match process.verifier with
  | none => (process, .error (.typed "KNOWLEDGE_STORE_UNCONFIGURED"))
  | some cache =>
    let (cache', result) := KnowledgeSeam.verify lib process.store cache digest
    ({ process with verifier := some cache' }, result)

/-! ### Readiness -/

structure Readiness where
  ready : Bool
  reason : String
  deploymentState : Option OperationalState
  contentDigest : Option Digest
  knowledge : Option LoadedKnowledge
deriving DecidableEq

def OperationalState.text : OperationalState → String
  | NO_ACTIVE_BUNDLE => "NO_ACTIVE_BUNDLE"
  | ACTIVE => "ACTIVE"
  | ACTIVE_BUNDLE_WITHDRAWN => "ACTIVE_BUNDLE_WITHDRAWN"

/-- Where a call of `evaluation_readiness` stands before its next statement. -/
inductive ReadingPhase where
  | reading
  | referencing (state : DeploymentState)
  | recording (state : DeploymentState) (reference : BundleReference)
  | verifying (state : DeploymentState) (reference : BundleReference)
  | answered (readiness : Readiness)
  /-- a statement raised -/
  | failed
  | raised (e : PyException)

def notReady (reason : String) (state : DeploymentState) : ReadingPhase :=
  .answered ⟨false, reason, some state.operationalState, state.activeBundleContentDigest, none⟩

/-- `SELECT operational_state, …` -/
def readState (db : Db) (deployment : String) : ReadingPhase :=
  if db.schemaActive = false then .answered ⟨false, "KNOWLEDGE_SCHEMA_MISSING", none, none, none⟩
  else
    match db.deployments deployment with
    | none => .answered ⟨false, "NO_DEPLOYMENT_STATE", none, none, none⟩
    | some state =>
      if state.operationalState ≠ .ACTIVE then notReady state.operationalState.text state
      else .referencing state

/-- `SELECT bundle_version, …` -/
def readReference (db : Db) (state : DeploymentState) : ReadingPhase :=
  match state.activeBundleContentDigest.bind db.references with
  | none => notReady "BUNDLE_REFERENCE_MISSING" state
  | some reference =>
    match reference.governanceEligibility with
    | .ELIGIBLE => .recording state reference
    | .WITHDRAWN => notReady "BUNDLE_WITHDRAWN" state
    | .UNKNOWN => notReady "ELIGIBILITY_UNKNOWN" state

/-- The activation record of the pointer is one of its digest, active and successful. -/
def consistent (db : Db) (state : DeploymentState) : Bool :=
  match state.currentActivationRecordId.bind db.activation with
  | none => false
  | some activation => some activation.bundleContentDigest == state.activeBundleContentDigest &&
      activation.lifecycleState == .ACTIVE && activation.outcome == .SUCCEEDED

/-- `SELECT bundle_content_digest, …` -/
def readRecord (db : Db) (state : DeploymentState) (reference : BundleReference) : ReadingPhase :=
  if consistent db state then .verifying state reference
  else notReady "ACTIVATION_RECORD_INCONSISTENT" state

/-- The verification, and the versions of the bundle against those of its reference. -/
def readBundle (lib : Libraries) (process : Process) (state : DeploymentState)
    (reference : BundleReference) : Process × ReadingPhase :=
  match process.verify lib (state.activeBundleContentDigest.getD "") with
  | (process', .error (.typed reason)) => (process', notReady reason state)
  | (process', .error (.escaped e)) => (process', .raised e)
  | (process', .ok knowledge) =>
    (process',
      if (knowledge.bundleVersion, knowledge.manifestSchemaVersion) ≠
          (reference.bundleVersion, reference.manifestSchemaVersion) then
        notReady "BUNDLE_REFERENCE_MISMATCH" state
      else .answered ⟨true, "READY", some state.operationalState, state.activeBundleContentDigest,
        some knowledge⟩)

/-! ### The release record -/

def SYNTHETIC_ONLY_PROFILE : Bool := true

def LOCAL_PROFILE : String := "SINGLE_MACHINE_SYNTHETIC_DEVELOPMENT"

structure ReleaseEntry where
  releaseRecordRef : String
  bundleVersion : String
  manifestSchemaVersion : String
deriving DecidableEq

/-- `re.fullmatch(r"[a-z0-9][a-z0-9-]{0,62}", …)` -/
def isDeployment (text : String) : Bool :=
  headTail (fun c => isLower c || isAsciiDigit c) (fun c => isLower c || isAsciiDigit c || c == '-')
    0 62 text.toList

/-- `re.fullmatch(r"\d+\.\d+\.\d+", …)` -/
def isVersion (text : String) : Bool :=
  (text.toList.splitOn '.').length == 3 && (text.toList.splitOn '.').all fun part =>
    !part.isEmpty && part.all PyText.isDigit

/-- The checks on the policy and the list of a release record. -/
def checkRecord (record policy : Json) (deployment : String) :
    Except (Raised String) (List Json) := do
  if record.get "release_record_schema_version" ≠ .str "1.0" ∨
      record.get "deployment_ref" ≠ .str deployment ∨ record.get "profile" ≠ .str LOCAL_PROFILE then
    .error (.typed "RELEASE_RECORD_INVALID")
  else if (← Py.getD policy "decision" .null) ≠ .str "DEC-012" then
    .error (.typed "RELEASE_RECORD_INVALID")
  else if (← Py.getD policy "outcome" .null) ≠ .str "NOT_REQUIRED_BY_POLICY" then
    .error (.typed "RELEASE_RECORD_INVALID")
  else
    match record.get "approved_bundles" with
    | .arr bundles => return bundles
    | _ => .error (.typed "RELEASE_RECORD_INVALID")

/-- The checks on an approved bundle; the text of a version that is no string is no version. -/
def readRelease (bundle : Json) : Except (Raised String) ReleaseEntry :=
  match bundle.get "release_record_ref", bundle.get "bundle_version",
      bundle.get "manifest_schema_version" with
  | .str ref, .str version, .str manifestVersion =>
    if _REFERENCE ref ∧ isVersion version ∧ manifestVersion ∈ ["1.0.0", "1.1.0"] then
      .ok ⟨ref, version, manifestVersion⟩
    else .error (.typed "RELEASE_RECORD_INVALID")
  | _, _, _ => .error (.typed "RELEASE_RECORD_INVALID")

/-- `release_entry` -/
def release_entry (process : Process) (digest : Digest) : Except (Raised String) ReleaseEntry :=
  if isDeployment process.deploymentRef = false then .error (.typed "RELEASE_RECORD_INVALID")
  else
    match process.releases (process.deploymentRef ++ ".json") with
    | .missing => .error (.typed "NO_RELEASE_RECORD")
    | .unreadable => .error (.typed "RELEASE_RECORD_INVALID")
    | .document record => do
      let policy ← Py.getD record "authenticity_policy" .null
      let bundles ← checkRecord record (if policy.truthy then policy else .obj [])
        process.deploymentRef
      match bundles.filter fun b => b.get? "content_digest" == some (.str digest) with
      | [bundle] => readRelease bundle
      | _ => .error (.typed "NOT_APPROVED_FOR_DEPLOYMENT")

/-- The checks of `prevalidate` on the verified knowledge. -/
def approve (entry : ReleaseEntry) (knowledge : LoadedKnowledge) :
    Except (Raised String) (ReleaseEntry × LoadedKnowledge) :=
  if knowledge.gate ≠ .str "PASS" then .error (.typed "NOT_GOVERNED_PUBLICATION")
  else if (knowledge.bundleVersion, knowledge.manifestSchemaVersion) ≠
      (entry.bundleVersion, entry.manifestSchemaVersion) then
    .error (.typed "RELEASE_RECORD_MISMATCH")
  else .ok (entry, knowledge)

/-- `prevalidate` -/
def prevalidate (lib : Libraries) (process : Process) (digest : Digest) :
    Process × Except (Raised String) (ReleaseEntry × LoadedKnowledge) :=
  if SYNTHETIC_ONLY_PROFILE = false then (process, .error (.typed "AUTHENTICITY_REQUIRED"))
  else
    match release_entry process digest with
    | .error e => (process, .error e)
    | .ok entry =>
      match process.verify lib digest with
      | (process', .error e) => (process', .error e)
      | (process', .ok knowledge) => (process', approve entry knowledge)

/-! ### Activation -/

structure FieldError where
  field : String
  code : String
  message : String
deriving DecidableEq

/-- `_activation_view` -/
structure ActivationView where
  activationId : String
  actionKind : ActionKind
  contentDigest : Digest
  previousContentDigest : Option Digest
  lifecycleState : LifecycleState
  outcome : ActivationOutcome
  recordedAt : Time
deriving DecidableEq

def _activation_view (r : ActivationRecord) : ActivationView :=
  ⟨r.id, r.actionKind, r.bundleContentDigest, r.previousBundleContentDigest, r.lifecycleState,
    r.outcome, r.recordedAt⟩

inductive Response where
  /-- 202 -/
  | accepted (view : ActivationView)
  | error (code : String) (fieldErrors : List FieldError)
deriving DecidableEq

/-- `KEY_PATTERN`, `^[A-Za-z0-9._~-]{16,255}$` -/
def valid_key (key : String) : Bool :=
  anchored (fun cs => 16 ≤ cs.length && cs.length ≤ 255 && cs.all fun c =>
    isAlpha c || isAsciiDigit c || ['.', '_', '~', '-'].contains c) key

def isDigest : Json → Bool
  | .str s => _SHA256 s
  | _ => false

/-- `_validate_activation` -/
def _validate_activation (body : List (String × Json)) : List FieldError :=
  ((body.filter fun e => !(["content_digest", "expected_active_content_digest",
      "governance_change_ref"].contains e.1)).map fun e =>
    ⟨e.1, "UNKNOWN_FIELD", "Field is not accepted."⟩) ++
  (if isDigest ((Json.lookup "content_digest" body).getD .null) then []
    else [⟨"content_digest", "INVALID_DIGEST", "Use the exact lowercase SHA-256 digest."⟩]) ++
  (match (Json.lookup "expected_active_content_digest" body).getD .null with
    | .null => []
    | expected => if isDigest expected then [] else
      [⟨"expected_active_content_digest", "INVALID_DIGEST", "Use a digest or null."⟩]) ++
  (match (Json.lookup "governance_change_ref" body).getD .null with
    | .str ref => if _REFERENCE ref then [] else
      [⟨"governance_change_ref", "INVALID_VALUE", "Use an uppercase governance reference."⟩]
    | _ => [⟨"governance_change_ref", "INVALID_VALUE", "Use an uppercase governance reference."⟩])

/-- A request that was let in. -/
structure ActivationRequest where
  principal : String
  key : String
  body : List (String × Json)
deriving DecidableEq

namespace ActivationRequest

variable (q : ActivationRequest)

def digest : Digest := (((Json.lookup "content_digest" q.body).getD .null).str?).getD ""

def ref : String := (((Json.lookup "governance_change_ref" q.body).getD .null).str?).getD ""

/-- `body["expected_active_content_digest"]`, where the body has it. -/
def expected : Option (Option Digest) :=
  (Json.lookup "expected_active_content_digest" q.body).map Json.str?

def scope (F : Functions) : String × String := (q.principal, F.keyDigest q.key)

end ActivationRequest

/-- `activate_knowledge_bundle` up to `_activate`. -/
def activate_knowledge_bundle (principal : String) (roles : List String) (key : Option String)
    (body : Except (List FieldError) (List (String × Json))) : Except Response ActivationRequest :=
  if "ADMINISTRATOR" ∉ roles then .error (.error "FORBIDDEN" [])
  else
    match key with
    | none => .error (.error "INVALID_REQUEST" [⟨"Idempotency-Key", "REQUIRED",
        "Send a high-entropy key (16-255 URL-safe characters)."⟩])
    | some key =>
      if valid_key key = false then .error (.error "INVALID_REQUEST" [⟨"Idempotency-Key", "REQUIRED",
        "Send a high-entropy key (16-255 URL-safe characters)."⟩])
      else
        match body with
        | .error problems => .error (.error "INVALID_REQUEST" problems)
        | .ok body =>
          if _validate_activation body = [] then .ok ⟨principal, key, body⟩
          else .error (.error "INVALID_REQUEST" (_validate_activation body))

structure Claim where
  recordId : ℕ
  token : Token
deriving DecidableEq

inductive TxError where
  | psycopg
  | staleClaim
  | raised (e : PyException)
deriving DecidableEq

/-- What a claim resolves to. -/
inductive Claimed where
  | claim (c : Claim)
  | replay (o : Option Outcome)
  | keyReused
  | inProgress

/-- `claim`, its statements in one transaction; supersession comes with the schema. -/
def claim (rows : List Record) (token : Token) (digest : String) (now : Time) : List Record × Claimed :=
  match rows.findIdx? (·.supersededAt.isNone) with
  | none => (rows ++ [.fresh digest token now], .claim ⟨rows.length, token⟩)
  | some i =>
    match rows[i]? with
    | none => (rows, .inProgress)
    | some r =>
      if r.activeUntil ≤ now then
        (rows.set i (r.superseded now) ++ [.fresh digest token now], .claim ⟨rows.length, token⟩)
      else if r.requestSemanticDigest ≠ digest then (rows, .keyReused)
      else if r.isTerminal then (rows, .replay r.outcome)
      else if r.executionState = .IN_PROGRESS ∧ r.leaseLive now then (rows, .inProgress)
      else (rows.set i (r.taken token now), .claim ⟨i, token⟩)

/-- `_finish` -/
def finish (db : Db) (scope : String × String) (c : Claim) (kind : FinishKind) (o : Outcome)
    (now : Time) : Except TxError Db :=
  match (db.idempotency scope)[c.recordId]? with
  | none => .error .staleClaim
  | some r =>
    if r.claimToken = c.token ∧ r.executionState = .IN_PROGRESS then
      if r.supersededAt.isSome then .error .psycopg
      else .ok (db.setRows scope ((db.idempotency scope).set c.recordId (r.finished kind.state o now)))
    else .error .staleClaim

/-- `audit_append`, which may raise something else than an error of the database. -/
def appendAudit (db : Db) (raises : Option PyException) (event : AuditEntry) : Except TxError Db :=
  match raises with
  | some e => .error (.raised e)
  | none => .ok (db.append event)

def failed (status : ℕ) (code : String) (h : 100 ≤ status ∧ status ≤ 599) : Outcome :=
  ⟨status, some code, none, none, h⟩

/-- The status a refusal is stored with. -/
def outcomeOf (code : String) : Outcome :=
  if code = "PRECONDITION_FAILED" then failed 412 code (by decide) else failed 409 code (by decide)

section Transactions

variable (F : Functions) (db : Db) (deployment : String) (q : ActivationRequest) (c : Claim)
  (now : Time) (raises : Option PyException)

/-- `reject` -/
def reject (reason code : String) : Except TxError (Db × Response) := do
  let db ← appendAudit db raises ⟨"KNOWLEDGE_ACTIVATION_REJECTED", "DENIED", q.principal,
    [("content_digest", q.digest), ("deployment", deployment), ("reason", reason),
      ("governance_change_ref", q.ref)]⟩
  let db ← finish db (q.scope F) c .failTerminal (outcomeOf code) now
  return (db, .error code [])

/-- The row of a new activation. -/
def newRecord (previous : Option Digest) (recordId : String) : ActivationRecord where
  id := recordId
  deploymentRef := deployment
  bundleContentDigest := q.digest
  previousBundleContentDigest := previous
  actionKind := .ACTIVATION
  lifecycleState := .ACTIVE
  actorPrincipalId := q.principal
  reasonRef := q.ref
  outcome := .SUCCEEDED
  recordedAt := now

/-- The writes of an activation that is not refused. -/
def write (previous : Option Digest) (recordId : String) : Except TxError (Db × Response) := do
  -- the primary key
  if (db.activation recordId).isSome then .error .psycopg
  else
    let record := newRecord deployment q now previous recordId
    let db ← appendAudit ((db.addActivation record).point deployment q.digest recordId) raises
      ⟨"KNOWLEDGE_ACTIVATED", "SUCCEEDED", q.principal,
        [("content_digest", q.digest)] ++
          (previous.map fun d => ("previous_content_digest", d)).toList ++
          [("activation_id", recordId), ("deployment", deployment),
            ("governance_change_ref", q.ref), ("authenticity", "NOT_REQUIRED_BY_POLICY")]⟩
    let db ← finish db (q.scope F) c .complete
      ⟨202, none, some "knowledge_activation_record", some recordId, by decide⟩ now
    return (db, .accepted (_activation_view record))

/-- The bundle the request found registered, or registered. -/
def reference (entry : ReleaseEntry) (knowledge : LoadedKnowledge) : BundleReference :=
  ⟨knowledge.bundleVersion, knowledge.manifestSchemaVersion, some entry.releaseRecordRef, .ELIGIBLE⟩

/-- The transaction of `_activate` after the validation. -/
def activateTx (entry : ReleaseEntry) (knowledge : LoadedKnowledge) (recordId : String) :
    Except TxError (Db × Response) :=
  match db.deployments deployment with
  | none => reject F db deployment q c now raises "NO_DEPLOYMENT_STATE" "KNOWLEDGE_NOT_ELIGIBLE"
  | some state =>
    if q.expected.any (· ≠ state.activeBundleContentDigest) then
      reject F db deployment q c now raises "PRECONDITION_FAILED" "PRECONDITION_FAILED"
    else
      let db := db.register q.digest (reference entry knowledge)
      match db.references q.digest with
      | none => .error (.raised .TypeError)
      | some r =>
        match r.governanceEligibility with
        | .WITHDRAWN =>
          reject F db deployment q c now raises "BUNDLE_WITHDRAWN" "KNOWLEDGE_NOT_ELIGIBLE"
        | .UNKNOWN =>
          reject F db deployment q c now raises "ELIGIBILITY_UNKNOWN" "KNOWLEDGE_NOT_ELIGIBLE"
        | .ELIGIBLE =>
          if (r.bundleVersion, r.manifestSchemaVersion, r.releaseRecordRef) ≠
              (entry.bundleVersion, entry.manifestSchemaVersion, some entry.releaseRecordRef) then
            reject F db deployment q c now raises "REFERENCE_MISMATCH" "KNOWLEDGE_NOT_ELIGIBLE"
          else write F db deployment q c now raises state.activeBundleContentDigest recordId

end Transactions

/-- Where a call of `_activate` stands before its next transaction. -/
inductive ActivationPhase where
  | claiming
  | replaying (resourceId : Option String)
  | validating (c : Claim)
  | rejecting (c : Claim) (reason : String)
  | activating (c : Claim) (entry : ReleaseEntry) (knowledge : LoadedKnowledge)
  | releasing (c : Claim)
  | answered (response : Response)
  | raised (e : PyException)

/-- A stored refusal is answered at once; of an activation its record is read. -/
def replay (o : Option Outcome) : ActivationPhase :=
  match o.bind (·.errorCode) with
  | some code => .answered (.error code [])
  | none => .replaying (o.bind (·.resourceId))

/-- The activation a key stands for. -/
def replayed (db : Db) (resourceId : Option String) : ActivationPhase :=
  match resourceId.bind db.activation with
  | none => .raised .TypeError
  | some record => .answered (.accepted (_activation_view record))

/-- `schema_active` and `claim`. -/
def claimTx (F : Functions) (db : Db) (q : ActivationRequest) (token : Token) (now : Time) :
    Db × ActivationPhase :=
  if db.schemaActive = false then (db, .answered (.error "DEPENDENCY_UNAVAILABLE" []))
  else
    match claim (db.idempotency (q.scope F)) token (F.semanticDigest q.body) now with
    | (rows, .claim c) => (db.setRows (q.scope F) rows, .validating c)
    | (_, .replay o) => (db, replay o)
    | (_, .keyReused) => (db, .answered (.error "IDEMPOTENCY_KEY_REUSED" []))
    | (_, .inProgress) => (db, .answered (.error "IDEMPOTENCY_IN_PROGRESS" []))

/-- What follows a transaction under a claim. -/
def after (c : Claim) : Seen TxError Response → ActivationPhase
  | .done response => .answered response
  | .error .staleClaim => .answered (.error "IDEMPOTENCY_IN_PROGRESS" [])
  | .error .psycopg => .releasing c
  | .error (.raised e) => .raised e
  | .fault => .releasing c

/-! ### Calls and steps -/

structure ReadingCall where
  process : ProcessId
  phase : ReadingPhase

structure ActivationCall where
  process : ProcessId
  request : ActivationRequest
  phase : ActivationPhase

structure World where
  db : Db
  now : Time
  processes : ProcessId → Process
  readings : CallId → Option ReadingCall
  activations : CallId → Option ActivationCall

inductive Action where
  | tick (d : Time)
  | writeStore (p : ProcessId) (store : String → Option Directory)
  | writeReleases (p : ProcessId) (releases : String → ReleaseFile)
  | withdraw (digest : Digest)
  | verify (p : ProcessId) (digest : Digest)
  | beginReading (c : CallId) (p : ProcessId)
  | read (c : CallId) (fails : Bool)
  | request (c : CallId) (p : ProcessId) (principal : String) (roles : List String)
      (key : Option String) (body : Except (List FieldError) (List (String × Json)))
  | activate (c : CallId) (delivery : Delivery) (raises : Option PyException) (recordId : String)

namespace World

def setDb (w : World) (db : Db) : World := { w with db := db }

def setProcess (w : World) (p : ProcessId) (process : Process) : World :=
  { w with processes := Function.update w.processes p process }

def setReading (w : World) (c : CallId) (call : ReadingCall) : World :=
  { w with readings := Function.update w.readings c (some call) }

def setActivation (w : World) (c : CallId) (call : ActivationCall) : World :=
  { w with activations := Function.update w.activations c (some call) }

end World

open World

/-- The next statement of a call of `evaluation_readiness`, unless it fails. -/
def readStep (F : Functions) (w : World) (c : CallId) (call : ReadingCall) : Option World :=
  let process := w.processes call.process
  match call.phase with
  | .reading => some (w.setReading c { call with phase := readState w.db process.deploymentRef })
  | .referencing state => some (w.setReading c { call with phase := readReference w.db state })
  | .recording state reference =>
    some (w.setReading c { call with phase := readRecord w.db state reference })
  | .verifying state reference =>
    let (process', phase) := readBundle F.libraries process state reference
    some ((w.setProcess call.process process').setReading c { call with phase := phase })
  | .answered _ | .failed | .raised _ => none

/-- The next transaction of a call of `_activate`. -/
def activateStep (F : Functions) (w : World) (c : CallId) (call : ActivationCall)
    (delivery : Delivery) (raises : Option PyException) (recordId : String) : Option World :=
  let q := call.request
  let process := w.processes call.process
  match call.phase with
  | .claiming =>
    let (db, phase) := claimTx F w.db q c w.now
    some (match delivery with
      | .committed => (w.setDb db).setActivation c { call with phase := phase }
      | .rolledBack => w.setActivation c
          { call with phase := .answered (.error "DEPENDENCY_UNAVAILABLE" []) }
      | .unconfirmed => (w.setDb db).setActivation c
          { call with phase := .answered (.error "DEPENDENCY_UNAVAILABLE" []) })
  | .replaying resourceId =>
    -- the read of the record is outside every handler
    some (w.setActivation c { call with phase :=
      if delivery = .committed then replayed w.db resourceId else .raised .Other })
  | .validating claim =>
    let (process', result) := prevalidate F.libraries process q.digest
    some ((w.setProcess call.process process').setActivation c { call with phase :=
      match result with
      | .ok (entry, knowledge) => .activating claim entry knowledge
      | .error (.typed reason) => .rejecting claim reason
      | .error (.escaped e) => .raised e })
  | .rejecting claim reason =>
    let (db, seen) := deliver w.db (reject F w.db process.deploymentRef q claim w.now raises reason
      "KNOWLEDGE_NOT_ELIGIBLE") delivery
    some ((w.setDb db).setActivation c { call with phase := after claim seen })
  | .activating claim entry knowledge =>
    let (db, seen) := deliver w.db (activateTx F w.db process.deploymentRef q claim w.now raises
      entry knowledge recordId) delivery
    some ((w.setDb db).setActivation c { call with phase := after claim seen })
  | .releasing claim =>
    let (db, _) := deliver w.db ((finish w.db (q.scope F) claim .release
      (failed 503 "DEPENDENCY_UNAVAILABLE" (by decide)) w.now).map (·, ())) delivery
    some ((w.setDb db).setActivation c
      { call with phase := .answered (.error "DEPENDENCY_UNAVAILABLE" []) })
  | .answered _ | .raised _ => none

/-- A step, and the response to a request that is not let in. -/
def step (F : Functions) (w : World) : Action → Option (World × Option Response)
  | .tick d => some ({ w with now := w.now + d }, none)
  | .writeStore p store => some (w.setProcess p { w.processes p with store := store }, none)
  | .writeReleases p releases =>
    some (w.setProcess p { w.processes p with releases := releases }, none)
  | .withdraw digest => some (w.setDb (w.db.withdraw digest), none)
  | .verify p digest => some (w.setProcess p ((w.processes p).verify F.libraries digest).1, none)
  | .beginReading c p =>
    match w.readings c with
    | none => some (w.setReading c ⟨p, .reading⟩, none)
    | some _ => none
  | .read c fails =>
    match w.readings c with
    | none => none
    | some call => (readStep F w c call).map fun w' =>
      (if fails then w.setReading c { call with phase := .failed } else w', none)
  | .request c p principal roles key body =>
    match w.activations c with
    | some _ => none
    | none =>
      match activate_knowledge_bundle principal roles key body with
      | .error response => some (w, some response)
      | .ok request => some (w.setActivation c ⟨p, request, .claiming⟩, none)
  | .activate c delivery raises recordId =>
    match w.activations c with
    | none => none
    | some call => (activateStep F w c call delivery raises recordId).map (·, none)

/-- The deployments of one database, from a first state on. -/
def deployments (F : Functions) (first : World) : System World Action (Option Response) where
  init := first
  step := step F

end TrustLens.Backend.KnowledgeSeam
