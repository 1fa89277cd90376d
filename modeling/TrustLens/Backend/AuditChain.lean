import TrustLens.Ai.CanonicalJson
import TrustLens.Lib.JsonSchema
import TrustLens.Lib.Transition

/-!
# The audit chain

Events are appended behind a head that names the last sequence number and hash. An
appended row is hashed as it is written and verified as it is read back, so what the
columns of the table do to a value is part of the model.
-/

namespace TrustLens.Backend.AuditChain

open TrustLens.Ai Schema

/-- Microseconds since the epoch. -/
abbrev Time := ℕ

def CHAIN_ID : String := "deployment"

def EVENT_SCHEMA_VERSION : String := "1"

def GENESIS_HASH : String := String.ofList (List.replicate 64 '0')

/-! ### Events -/

inductive Kind where
  | category
  | uuid
  | reference
  | sha256
  | deployment
deriving DecidableEq

/-- The keys of `safe_metadata` each event may carry. -/
def SAFE_METADATA : List (String × List (String × Kind)) :=
  [("AUTHENTICATION_SUCCEEDED", [("method", .category)]),
   ("AUTHENTICATION_FAILED", [("method", .category), ("reason", .category)]),
   ("AUTHORIZATION_DENIED", [("reason", .category), ("operation", .category)]),
   ("CASE_CREATED", []),
   ("EVIDENCE_RECEIVED", []),
   ("EVIDENCE_STORED", [("stage", .category)]),
   ("INTEGRITY_FAILURE", [("stage", .category)]),
   ("EVIDENCE_ACCESSED", [("stage", .category)]),
   ("EVALUATION_STARTED", [("origin", .category)]),
   ("EVALUATION_COMPLETED", []),
   ("EVALUATION_FAILED", [("reason", .category)]),
   ("RESULT_PERSISTED", [("result_digest", .sha256)]),
   ("USER_CORRECTION", [("reason", .category)]),
   ("REPLAY_EXECUTED", [("stage", .category), ("outcome", .category)]),
   ("PROVIDER_POLICY_SELECTED", [("provider_policy_digest", .sha256)]),
   ("ENRICHMENT_REQUESTED", [("indicator_type", .category), ("provider_policy_digest", .sha256)]),
   ("ENRICHMENT_ACCEPTED", [("lookup_outcome", .category), ("provider_policy_digest", .sha256)]),
   ("EGRESS_DENIED", [("reason", .category), ("provider_policy_digest", .sha256)]),
   ("CREDENTIAL_REFERENCE_FAILURE", [("provider_policy_digest", .sha256)]),
   ("ROLE_ASSIGNED", [("role", .category), ("principal_id", .uuid), ("reason_ref", .reference)]),
   ("ROLE_REVOKED", [("role", .category), ("principal_id", .uuid), ("reason_ref", .reference)]),
   ("KNOWLEDGE_ACTIVATED",
     [("content_digest", .sha256), ("previous_content_digest", .sha256), ("activation_id", .uuid),
      ("deployment", .deployment), ("governance_change_ref", .reference),
      ("authenticity", .category)]),
   ("KNOWLEDGE_ACTIVATION_REJECTED",
     [("content_digest", .sha256), ("deployment", .deployment), ("reason", .category),
      ("governance_change_ref", .reference)])]

def isLowerHex (c : Char) : Bool := isAsciiDigit c || ('a' ≤ c && c ≤ 'f')

def hexGroup (n : ℕ) (cs : List Char) : Bool := cs.length == n && cs.all isLowerHex

/-- The groups of a version 4 UUID in lower case. -/
def isUuid (cs : List Char) : Bool :=
  match cs.splitOn '-' with
  | [a, b, c, d, e] =>
    hexGroup 8 a && hexGroup 4 b && hexGroup 4 c && c.head? == some '4' && hexGroup 4 d &&
      d.head?.any (['8', '9', 'a', 'b'].contains ·) && hexGroup 12 e
  | _ => false

def _UUID : String → Bool := anchored isUuid

/-- `^[A-Z][A-Z0-9_]{0,63}$` -/
def _CATEGORY : String → Bool :=
  anchored (headTail isUpper (fun c => isUpper c || isAsciiDigit c || c == '_') 0 63)

/-- `^[A-Z0-9][A-Z0-9:_-]{0,79}$` -/
def _REFERENCE : String → Bool :=
  anchored (headTail (fun c => isUpper c || isAsciiDigit c)
    (fun c => isUpper c || isAsciiDigit c || [':', '_', '-'].contains c) 0 79)

/-- `^[0-9a-f]{64}$` -/
def _SHA256 : String → Bool := anchored (hexGroup 64)

/-- `^[a-z0-9][a-z0-9-]{0,62}$` -/
def _DEPLOYMENT : String → Bool :=
  anchored (headTail (fun c => isLower c || isAsciiDigit c)
    (fun c => isLower c || isAsciiDigit c || c == '-') 0 62)

def Kind.allows : Kind → String → Bool
  | category => _CATEGORY
  | uuid => _UUID
  | reference => _REFERENCE
  | sha256 => _SHA256
  | deployment => _DEPLOYMENT

/-- A dict with string keys. -/
abbrev Dict := { entries : List (String × Json) // (entries.map Prod.fst).Nodup }

structure AuditEvent where
  eventType : String
  outcome : String
  actorKind : String
  targetKind : String
  correlationId : String
  actorPrincipalId : Option String
  targetId : Option String
  safeMetadata : Option Dict
  occurredAt : Option Time
  caseRecordId : Option String
  evidenceItemId : Option String
  evaluationId : Option String
  bundleContentDigest : Option String

/-- Whether an entry of `safe_metadata` is one its event may carry. -/
def permitted (allowed : List (String × Kind)) (entry : String × Json) : Bool :=
  match allowed.lookup entry.1, entry.2 with
  | some kind, .str s => kind.allows s
  | _, _ => false

/-- `_validate`, which raises a `ValueError` where this is false. -/
def validate (event : AuditEvent) : Bool :=
  match SAFE_METADATA.lookup event.eventType with
  | none => false
  | some allowed =>
    event.safeMetadata.all (fun metadata => metadata.1.all (permitted allowed)) &&
    [event.actorPrincipalId, event.targetId, event.caseRecordId, event.evidenceItemId,
      event.evaluationId].all (fun ref => ref.all _UUID) &&
    event.bundleContentDigest.all _SHA256 && _UUID event.correlationId

/-! ### Rows and their hashes -/

/-- A row as the program holds it. -/
structure Row where
  auditEventId : String
  chainId : String
  chainSequence : ℤ
  eventSchemaVersion : String
  eventType : String
  occurredAt : String
  recordedAt : String
  actorPrincipalId : Option String
  actorKind : String
  outcome : String
  targetKind : String
  targetId : Option String
  caseRecordId : Option String
  evaluationId : Option String
  evidenceItemId : Option String
  bundleContentDigest : Option String
  correlationId : String
  safeMetadata : Json
  previousEventHash : String
  eventHash : String

def optional : Option String → Json
  | none => .null
  | some s => .str s

/-- `{k: v for k, v in row.items() if k != "event_hash"}` -/
def Row.members (row : Row) : List (String × Json) :=
  [("audit_event_id", .str row.auditEventId), ("chain_id", .str row.chainId),
   ("chain_sequence", .int row.chainSequence),
   ("event_schema_version", .str row.eventSchemaVersion), ("event_type", .str row.eventType),
   ("occurred_at", .str row.occurredAt), ("recorded_at", .str row.recordedAt),
   ("actor_principal_id", optional row.actorPrincipalId), ("actor_kind", .str row.actorKind),
   ("outcome", .str row.outcome), ("target_kind", .str row.targetKind),
   ("target_id", optional row.targetId), ("case_record_id", optional row.caseRecordId),
   ("evaluation_id", optional row.evaluationId), ("evidence_item_id", optional row.evidenceItemId),
   ("bundle_content_digest", optional row.bundleContentDigest),
   ("correlation_id", .str row.correlationId), ("safe_metadata", row.safeMetadata),
   ("previous_event_hash", .str row.previousEventHash)]

def Row.body (row : Row) : Json := .obj row.members

/-- What the chain takes from the libraries and from the columns of its table. -/
structure Library where
  /-- how `json.dumps` writes a float -/
  number : PyFloat → String
  /-- `hashlib.sha256(data).hexdigest()` of ASCII data -/
  sha256 : List Char → String
  /-- `_instant` -/
  instant : Time → String
  /-- the instant a `timestamptz` column keeps of a text -/
  timestamptz : String → Option Time
  /-- the text of the UUID a `uuid` column keeps of a text -/
  uuid : String → Option String
  /-- the document a `jsonb` column gives back -/
  jsonb : Json → Option Json

variable (lib : Library)

def event_hash (row : Row) : Option String :=
  (canonicalJson lib.number row.body).bind fun text =>
    if row.previousEventHash.toList.all (·.toNat < 128) then
      some (lib.sha256 (text.toList ++ row.previousEventHash.toList))
    else none

/-! ### Verifying -/

inductive Break where
  /-- audit chain broken at sequence -/
  | at (sequence : ℤ)
  /-- a row that has no canonical text -/
  | unhashable
  /-- audit chain head does not match the last event -/
  | head
deriving DecidableEq

/-- The loop of `verify_rows`, from the previous hash and the expected sequence on. -/
def verifyFrom (previous : String) (expected : ℤ) : List Row → Except Break String
  | [] => .ok previous
  | row :: rows =>
    if row.chainSequence ≠ expected ∨ row.previousEventHash ≠ previous then
      .error (.at row.chainSequence)
    else
      match event_hash lib row with
      | none => .error .unhashable
      | some hash =>
        if hash = row.eventHash then verifyFrom row.eventHash (expected + 1) rows
        else .error (.at row.chainSequence)

def verify_rows (rows : List Row) (head : Option (ℤ × String)) : Except Break ℕ :=
  match verifyFrom lib GENESIS_HASH 1 rows with
  | .error e => .error e
  | .ok previous => if head = some ((rows.length : ℤ), previous) then .ok rows.length else .error .head

/-! ### The table -/

/-- A row as the table holds it. -/
structure Stored where
  auditEventId : String
  chainId : String
  chainSequence : ℤ
  eventSchemaVersion : String
  eventType : String
  occurredAt : Time
  recordedAt : Time
  actorPrincipalId : Option String
  actorKind : String
  outcome : String
  targetKind : String
  targetId : Option String
  caseRecordId : Option String
  evaluationId : Option String
  evidenceItemId : Option String
  bundleContentDigest : Option String
  correlationId : String
  safeMetadata : Option Json
  previousEventHash : String
  eventHash : String
deriving DecidableEq

/-- A row of `stored_rows`. -/
def Stored.row (s : Stored) : Row where
  auditEventId := s.auditEventId
  chainId := s.chainId
  chainSequence := s.chainSequence
  eventSchemaVersion := s.eventSchemaVersion
  eventType := s.eventType
  occurredAt := lib.instant s.occurredAt
  recordedAt := lib.instant s.recordedAt
  actorPrincipalId := s.actorPrincipalId
  actorKind := s.actorKind
  outcome := s.outcome
  targetKind := s.targetKind
  targetId := s.targetId
  caseRecordId := s.caseRecordId
  evaluationId := s.evaluationId
  evidenceItemId := s.evidenceItemId
  bundleContentDigest := s.bundleContentDigest
  correlationId := s.correlationId
  safeMetadata := s.safeMetadata.getD .null
  previousEventHash := s.previousEventHash
  eventHash := s.eventHash

/-- A nullable column: null stays null. -/
def nullable {α β : Type} (column : α → Option β) : Option α → Option (Option β)
  | none => some none
  | some a => (column a).map some

/-- What the columns make of a row's values. -/
def store (row : Row) : Option Stored := do
  let auditEventId ← lib.uuid row.auditEventId
  let occurredAt ← lib.timestamptz row.occurredAt
  let recordedAt ← lib.timestamptz row.recordedAt
  let actorPrincipalId ← nullable lib.uuid row.actorPrincipalId
  let targetId ← nullable lib.uuid row.targetId
  let caseRecordId ← nullable lib.uuid row.caseRecordId
  let evaluationId ← nullable lib.uuid row.evaluationId
  let evidenceItemId ← nullable lib.uuid row.evidenceItemId
  let safeMetadata ← nullable lib.jsonb (if row.safeMetadata = .null then none else row.safeMetadata)
  some { auditEventId, chainId := row.chainId, chainSequence := row.chainSequence
         eventSchemaVersion := row.eventSchemaVersion, eventType := row.eventType, occurredAt
         recordedAt, actorPrincipalId, actorKind := row.actorKind, outcome := row.outcome
         targetKind := row.targetKind, targetId, caseRecordId, evaluationId, evidenceItemId
         bundleContentDigest := row.bundleContentDigest, correlationId := row.correlationId
         safeMetadata, previousEventHash := row.previousEventHash, eventHash := row.eventHash }

def EVENT_TYPES : List String :=
  ["AUTHENTICATION_SUCCEEDED", "AUTHENTICATION_FAILED", "AUTHORIZATION_DENIED", "ROLE_ASSIGNED",
   "ROLE_REVOKED", "CASE_ACCESS_GRANTED", "CASE_ACCESS_REVOKED", "BREAK_GLASS_ACTIVATED",
   "BREAK_GLASS_EXPIRED", "BREAK_GLASS_REVIEWED", "SECRET_OR_KEY_ADMINISTERED", "EGRESS_DENIED",
   "CASE_CREATED", "CASE_STATE_CHANGED", "EVIDENCE_ACCESSED", "EVIDENCE_RECEIVED",
   "EVIDENCE_STORED", "EVIDENCE_DERIVED", "EVALUATION_STARTED", "EVALUATION_COMPLETED",
   "EVALUATION_FAILED", "AI_ATTEMPTED", "AI_REJECTED_OR_FAILED", "RESULT_PERSISTED",
   "USER_CORRECTION", "ANALYST_ADJUDICATION", "REPORT_GENERATED", "REPORT_EXPORTED",
   "REPLAY_EXECUTED", "DELETION_REQUESTED", "CONTENT_DELETED", "RETENTION_ACTION",
   "INTEGRITY_FAILURE", "KNOWLEDGE_PUBLISHED", "KNOWLEDGE_DISTRIBUTED", "KNOWLEDGE_ACTIVATED",
   "KNOWLEDGE_ROLLED_BACK", "KNOWLEDGE_WITHDRAWN", "KNOWLEDGE_ACTIVATION_REJECTED",
   "ACTIVE_BUNDLE_WITHDRAWN_REMEDIATED", "RESTORE_REQUESTED", "RESTORE_AUTHORIZED",
   "RESTORE_STARTED", "RESTORE_VERIFIED", "RESTORE_PROMOTED_OR_REJECTED",
   "CHECKPOINT_SIGNING_TERMINAL_FAILURE", "ENRICHMENT_REQUESTED", "PROVIDER_POLICY_SELECTED",
   "ENRICHMENT_ACCEPTED", "CREDENTIAL_REFERENCE_FAILURE", "PROVIDER_POLICY_PUBLISHED",
   "PROVIDER_POLICY_ACTIVATED", "PROVIDER_POLICY_WITHDRAWN", "AUDIT_LOG_ACCESSED"]

def ACTOR_KINDS : List String := ["HUMAN", "WORKLOAD", "SYSTEM"]

def OUTCOMES : List String := ["SUCCEEDED", "FAILED", "DENIED", "REJECTED"]

def TARGET_KINDS : List String :=
  ["PRINCIPAL", "ROLE_ASSIGNMENT", "CASE_ACCESS_GRANT", "BREAK_GLASS_GRANT", "CASE", "SUBMISSION",
   "EVIDENCE_ITEM", "EVIDENCE_DERIVATIVE", "EVALUATION", "DETECTION_RESULT", "ADJUDICATION",
   "REPORT", "REPLAY", "KNOWLEDGE_BUNDLE", "DELETION_REQUEST", "DELETION_ACTION",
   "AUDIT_CHECKPOINT", "RESTORE", "OTHER", "EXTERNAL_ENRICHMENT", "PROVIDER_POLICY", "AUDIT_LOG"]

/-- The constraints of `audit_event` on a new row. -/
def constraintsHold (events : List Stored) (s : Stored) : Bool :=
  events.all (fun e => e.auditEventId != s.auditEventId && e.eventHash != s.eventHash &&
    !(e.chainId == s.chainId && e.chainSequence == s.chainSequence)) &&
  1 ≤ s.chainSequence && (s.chainSequence == 1) == (s.previousEventHash == GENESIS_HASH) &&
  EVENT_TYPES.contains s.eventType && ACTOR_KINDS.contains s.actorKind &&
  OUTCOMES.contains s.outcome && TARGET_KINDS.contains s.targetKind &&
  s.bundleContentDigest.all (fun d => hexGroup 64 d.toList) &&
  hexGroup 64 s.previousEventHash.toList && hexGroup 64 s.eventHash.toList &&
  s.safeMetadata.all Json.isObj

/-- The tables `audit_event` and `audit_chain_head`, which has the one row. -/
structure Chain where
  events : List Stored
  lastChainSequence : ℤ
  lastEventHash : String

def genesis : Chain := ⟨[], 0, GENESIS_HASH⟩

def Chain.head (c : Chain) (chainId : String) : Option (ℤ × String) :=
  if chainId = CHAIN_ID then some (c.lastChainSequence, c.lastEventHash) else none

def stored_rows (c : Chain) (chainId : String) : List Row :=
  (c.events.filter (·.chainId == chainId)).map (Stored.row lib)

/-! ### Appending -/

inductive Fault where
  | ValueError
  | AuditUnavailable
  | AIProvenanceInvalidError
  | DatabaseError
deriving DecidableEq

/-- The row an append writes, before its hash. -/
def newRow (event : AuditEvent) (id chainId : String) (now : Time) (head : ℤ × String) : Row where
  auditEventId := id
  chainId := chainId
  chainSequence := head.1 + 1
  eventSchemaVersion := EVENT_SCHEMA_VERSION
  eventType := event.eventType
  occurredAt := lib.instant (event.occurredAt.getD now)
  recordedAt := lib.instant now
  actorPrincipalId := event.actorPrincipalId
  actorKind := event.actorKind
  outcome := event.outcome
  targetKind := event.targetKind
  targetId := event.targetId
  caseRecordId := event.caseRecordId
  evaluationId := event.evaluationId
  evidenceItemId := event.evidenceItemId
  bundleContentDigest := event.bundleContentDigest
  correlationId := event.correlationId
  safeMetadata := match event.safeMetadata with
    | none | some ⟨[], _⟩ => .null
    | some metadata => .obj metadata.1
  previousEventHash := head.2
  eventHash := ""

/-- `append`, with the identifier `uuid4` draws and the time the clock shows. -/
def append (c : Chain) (event : AuditEvent) (id chainId : String) (now : Time) :
    Except Fault (Chain × Row) :=
  if !validate event then .error .ValueError
  else match c.head chainId with
    | none => .error .AuditUnavailable
    | some head =>
      let unhashed := newRow lib event id chainId now head
      match event_hash lib unhashed with
      | none => .error .AIProvenanceInvalidError
      | some hash =>
        let row := { unhashed with eventHash := hash }
        match store lib row with
        | none => .error .DatabaseError
        | some s =>
          if constraintsHold c.events s then
            .ok (⟨c.events ++ [s], row.chainSequence, row.eventHash⟩, row)
          else .error .DatabaseError

/-- What `str(uuid.uuid4())` gives. -/
abbrev Uuid := { s : String // isUuid s.toList = true }

/-- One append operation; one that raises is rolled back. -/
structure Append where
  event : AuditEvent
  id : Uuid
  chainId : String
  now : Time

def system : System Chain Append (Except Fault Row) where
  init := genesis
  step c a :=
    match append lib c a.event a.id.1 a.chainId a.now with
    | .ok (c', row) => some (c', .ok row)
    | .error e => some (c, .error e)

end TrustLens.Backend.AuditChain
