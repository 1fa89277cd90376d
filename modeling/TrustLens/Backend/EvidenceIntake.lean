import TrustLens.Lib.Transaction
import TrustLens.Lib.Transition
import Mathlib.Algebra.Group.Nat.Defs
import Mathlib.Data.List.Basic

/-!
# Evidence intake

One evidence item with its upload intent and its EVIDENCE_INGEST operation, under any
number of content PUTs and finalize requests. The store is outside every transaction:
a write succeeds, fails or never reports back, and a read returns whatever it returns.
`attempt_count` is the fencing token of a write, `next_attempt_not_before` its lease
while the operation is CONTENT_PENDING and the back-off while it is FAILED_RETRYABLE.
-/

namespace TrustLens.Backend.EvidenceIntake

abbrev Time := ℕ
abbrev Bytes := List UInt8
abbrev Locator := String

def SECOND : Time := 1000000
def MAX_EVIDENCE_BYTES : ℕ := 64 * 1024
def MAX_WRITE_ATTEMPTS : ℕ := 3
def WRITE_LEASE : Time := 30 * SECOND
def VERIFIED_MEDIA_TYPE : String := "text/plain; charset=utf-8"

def backoffSeconds (attempt : ℕ) : ℕ := max 1 (min 30 (2 ^ (attempt - 1)))

inductive ContentState where
  | RECEIVED
  | CONTENT_PENDING
  | CONTENT_STORED
  | INTEGRITY_VERIFIED
  | FINALIZED
  | FAILED_RETRYABLE
  | FAILED_TERMINAL
  | ORPHAN_DETECTED
  | INTEGRITY_FAILED
  | QUARANTINED
  | DELETION_PENDING
  | DELETED
deriving DecidableEq

namespace ContentState

/-- The transitions `tg_evidence_item_guard` allows. -/
def transitionAllowed : ContentState → ContentState → Bool
  | RECEIVED, CONTENT_PENDING => true
  | CONTENT_PENDING, CONTENT_STORED => true
  | CONTENT_PENDING, FAILED_RETRYABLE => true
  | CONTENT_STORED, INTEGRITY_VERIFIED => true
  | CONTENT_STORED, FAILED_RETRYABLE => true
  | CONTENT_STORED, INTEGRITY_FAILED => true
  | INTEGRITY_VERIFIED, FINALIZED => true
  | FAILED_RETRYABLE, CONTENT_PENDING => true
  | FAILED_RETRYABLE, FAILED_TERMINAL => true
  | FINALIZED, INTEGRITY_FAILED => true
  | INTEGRITY_FAILED, QUARANTINED => true
  | ORPHAN_DETECTED, QUARANTINED => true
  | ORPHAN_DETECTED, FINALIZED => true
  | FINALIZED, DELETION_PENDING => true
  | DELETION_PENDING, DELETED => true
  | _, _ => false

/-- `IN ('RECEIVED', 'CONTENT_PENDING', 'FAILED_RETRYABLE')` -/
def writable : ContentState → Bool
  | RECEIVED | CONTENT_PENDING | FAILED_RETRYABLE => true
  | _ => false

/-- `ck_cross_store_operation_terminal` -/
def isTerminal : ContentState → Bool
  | FINALIZED | FAILED_TERMINAL | QUARANTINED | DELETED => true
  | _ => false

end ContentState

inductive FailureCategory where
  | CONTENT_STORE_UNAVAILABLE
  | DIGEST_OR_AUTHENTICATION_FAILED
deriving DecidableEq

inductive Rejection where
  | SIZE_EXCEEDED
  | MEDIA_INVALID
  | LENGTH_MISMATCH
  | DIGEST_MISMATCH
deriving DecidableEq

/-- `evidence_upload_intent`; the declared media type as `supported_media` sees it. -/
structure Intent where
  declaredByteLength : ℕ
  clientDeclaredSha256 : Option String
  mediaSupported : Bool
  materialized : Bool
  lastRejectionCategory : Option Rejection
deriving DecidableEq

/-- `evidence_item` -/
structure Item where
  contentSha256 : String
  byteLength : ℕ
  contentState : ContentState
  ecsLocator : Option Locator
  verifiedAt : Option Time
  verifiedMediaType : Option String
  finalizedAt : Option Time
deriving DecidableEq

/-- `cross_store_operation`, of kind EVIDENCE_INGEST -/
structure Operation where
  state : ContentState
  attemptCount : ℕ
  nextAttemptNotBefore : Option Time
  ecsObjectRef : Option Locator
  lastFailureCategory : Option FailureCategory
  terminalAt : Option Time
deriving DecidableEq

structure Db where
  intent : Intent
  item : Option Item
  operation : Operation
deriving DecidableEq

/-- Why a transaction is rolled back. -/
inductive TxError where
  /-- a trigger, a constraint or a raised `psycopg.Error` -/
  | database
  /-- `_Refused` -/
  | refused
deriving DecidableEq

def writeOnce {α : Type} [DecidableEq α] (old new : Option α) : Bool :=
  old.isNone || new == old

/-- `tg_evidence_item_guard` and `ck_evidence_item_finalized_requires_verified` -/
def itemGuard (old new : Item) : Bool :=
  new.contentSha256 == old.contentSha256 && new.byteLength == old.byteLength
    && writeOnce old.ecsLocator new.ecsLocator && writeOnce old.verifiedAt new.verifiedAt
    && writeOnce old.finalizedAt new.finalizedAt
    && writeOnce old.verifiedMediaType new.verifiedMediaType
    && (new.contentState == old.contentState
      || old.contentState.transitionAllowed new.contentState)
    && (!(new.contentState == .CONTENT_STORED || new.contentState == .INTEGRITY_VERIFIED
        || new.contentState == .FINALIZED) || new.ecsLocator.isSome)
    && (!(new.contentState == .INTEGRITY_VERIFIED || new.contentState == .FINALIZED)
      || new.verifiedAt.isSome)
    && (new.contentState != .FINALIZED || new.finalizedAt.isSome)

/-- `tg_cross_store_operation_guard` and `ck_cross_store_operation_terminal` -/
def operationGuard (old new : Operation) : Bool :=
  old.terminalAt.isNone && decide (old.attemptCount ≤ new.attemptCount)
    && decide (new.attemptCount ≤ old.attemptCount + 1)
    && (new.state.isTerminal == new.terminalAt.isSome)

namespace Operation

/-- `coalesce(next_attempt_not_before > now(), false)` -/
def waiting (o : Operation) (now : Time) : Bool := o.nextAttemptNotBefore.any (now < ·)

/-- The operation still runs this attempt. -/
def heldBy (o : Operation) (number : ℕ) : Bool :=
  o.attemptCount == number && o.state == .CONTENT_PENDING

/-- The row `createEvidenceUpload` inserts. -/
def received : Operation :=
  { state := .RECEIVED
    attemptCount := 0
    nextAttemptNotBefore := none
    ecsObjectRef := none
    lastFailureCategory := none
    terminalAt := none }

def begun (o : Operation) (now : Time) : Operation :=
  { o with
    state := .CONTENT_PENDING
    attemptCount := o.attemptCount + 1
    nextAttemptNotBefore := some (now + WRITE_LEASE) }

/-- The columns `_fenced_update` sets. -/
def recorded (o : Operation) (state : ContentState) (objectRef : Option Locator)
    (failure : Option FailureCategory) (backoff : Option ℕ) (now : Time) : Operation :=
  { o with
    state := state
    ecsObjectRef := objectRef.orElse fun _ => o.ecsObjectRef
    lastFailureCategory := failure.orElse fun _ => o.lastFailureCategory
    nextAttemptNotBefore := backoff.map fun seconds => now + seconds * SECOND
    terminalAt := if state = .FAILED_TERMINAL then some now else none }

end Operation

namespace Db

def updateItem (db : Db) (p : Item → Bool) (f : Item → Item) : Except TxError (Db × Bool) :=
  match db.item with
  | none => .ok (db, false)
  | some item =>
    if p item then
      if itemGuard item (f item) then .ok ({ db with item := some (f item) }, true)
      else .error .database
    else .ok (db, false)

def updateOperation (db : Db) (p : Operation → Bool) (f : Operation → Operation) :
    Except TxError (Db × Bool) :=
  if p db.operation then
    if operationGuard db.operation (f db.operation) then
      .ok ({ db with operation := f db.operation }, true)
    else .error .database
  else .ok (db, false)

/-- `UPDATE evidence_item SET content_state` by its id alone -/
def moveItem (db : Db) (state : ContentState) : Except TxError (Db × Bool) :=
  db.updateItem (fun _ => true) fun item => { item with contentState := state }

/-- `_reject_put` -/
def reject (db : Db) (category : Rejection) : Db :=
  { db with intent := { db.intent with lastRejectionCategory := some category } }

/-- A refused body is noted on the intent while no item exists. -/
def refuse (db : Db) (category : Rejection) : Db :=
  if db.item.isNone then db.reject category else db

/-- The item of the first accepted bytes, and the materialized intent. -/
def materialize (db : Db) (sha256 : String) (length : ℕ) : Db :=
  { db with
    item := some
      { contentSha256 := sha256
        byteLength := length
        contentState := .RECEIVED
        ecsLocator := none
        verifiedAt := none
        verifiedMediaType := none
        finalizedAt := none }
    intent := { db.intent with materialized := true, lastRejectionCategory := none } }

/-- `_fenced_update` -/
def fencedUpdate (db : Db) (number : ℕ) (state : ContentState) (objectRef : Option Locator)
    (failure : Option FailureCategory) (backoff : Option ℕ) (now : Time) :
    Except TxError (Db × Bool) :=
  db.updateOperation (·.heldBy number) (·.recorded state objectRef failure backoff now)

/-- FAILED_TERMINAL is reached only through FAILED_RETRYABLE. -/
def failItem (db : Db) (terminal : Bool) : Except TxError (Db × Bool) := do
  let (db₁, _) ← db.moveItem .FAILED_RETRYABLE
  if terminal then db₁.moveItem .FAILED_TERMINAL else .ok (db₁, true)

/-- `_terminate` -/
def terminate (db : Db) (count : ℕ) (now : Time) : Except TxError (Db × Bool) := do
  let (db₁, _) ← db.fencedUpdate count .FAILED_TERMINAL none (some .CONTENT_STORE_UNAVAILABLE) none
    now
  db₁.failItem true

/-- `_begin_attempt`: the new attempt's number, unless it is refused. -/
def beginAttempt (db : Db) (now : Time) : Except TxError (Db × Option ℕ) :=
  if (db.operation.state == .CONTENT_PENDING || db.operation.state == .FAILED_RETRYABLE)
      && db.operation.waiting now then .ok (db, none)
  else if db.operation.state == .CONTENT_PENDING
      && decide (MAX_WRITE_ATTEMPTS ≤ db.operation.attemptCount) then do
    let (db₁, _) ← db.terminate db.operation.attemptCount now
    .ok (db₁, none)
  else do
    let (db₁, advanced) ← db.updateOperation
      (fun o => o.attemptCount == db.operation.attemptCount && o.state.writable) (·.begun now)
    if advanced then do
      let (db₂, moved) ← db₁.updateItem (·.contentState.writable)
        fun item => { item with contentState := .CONTENT_PENDING }
      if moved then .ok (db₂, some db₂.operation.attemptCount) else .error .database
    else .error .refused

end Db

/-! ## The transactions -/

structure PutRequest where
  body : Bytes
  mediaOk : Bool
deriving DecidableEq

def utf8 (bytes : Bytes) : Bool := (ByteArray.mk bytes.toArray).validateUTF8

variable (sha256 : Bytes → String)

/-- A PUT while an item exists: only its own bytes are written again. -/
def putAgain (db : Db) (item : Item) (r : PutRequest) (now : Time) :
    Except TxError (Db × Option ℕ) :=
  if (item.contentSha256, item.byteLength) ≠ (sha256 r.body, r.body.length) then .ok (db, none)
  else if !item.contentState.writable then .ok (db, none)
  else db.beginAttempt now

/-- A PUT while no item exists: the bytes must be what the intent declared. -/
def putFirst (db : Db) (r : PutRequest) (now : Time) : Except TxError (Db × Option ℕ) :=
  if !utf8 r.body then .ok (db.reject .MEDIA_INVALID, none)
  else if r.body.length ≠ db.intent.declaredByteLength then .ok (db.reject .LENGTH_MISMATCH, none)
  else if db.intent.clientDeclaredSha256.any (· != sha256 r.body) then
    .ok (db.reject .DIGEST_MISMATCH, none)
  else (db.materialize (sha256 r.body) r.body.length).beginAttempt now

/-- The first transaction of `_put_evidence_content`. -/
def putTx (db : Db) (r : PutRequest) (now : Time) : Except TxError (Db × Option ℕ) :=
  if MAX_EVIDENCE_BYTES < r.body.length then .ok (db.refuse .SIZE_EXCEEDED, none)
  else if !r.mediaOk || !db.intent.mediaSupported then .ok (db.refuse .MEDIA_INVALID, none)
  else
    match db.item with
    | some item => putAgain sha256 db item r now
    | none => putFirst sha256 db r now

/-- The second transaction: the stored locator, by the attempt that holds the fence. -/
def recordTx (db : Db) (number : ℕ) (locator : Locator) (now : Time) :
    Except TxError (Db × Bool) := do
  let (db₁, held) ← db.fencedUpdate number .CONTENT_STORED (some locator) none none now
  if held then do
    let (db₂, moved) ← db₁.updateItem
      (fun item => item.contentState == .CONTENT_PENDING && item.ecsLocator.isNone)
      fun item => { item with contentState := .CONTENT_STORED, ecsLocator := some locator }
    if moved then .ok (db₂, true) else .error .database
  else .ok (db₁, false)

/-- The transaction of `_write_failed`. -/
def writeFailedTx (db : Db) (number : ℕ) (now : Time) : Except TxError (Db × Bool) :=
  if MAX_WRITE_ATTEMPTS ≤ number then do
    let (db₁, held) ← db.fencedUpdate number .FAILED_TERMINAL none
      (some .CONTENT_STORE_UNAVAILABLE) none now
    if held then db₁.failItem true else .ok (db₁, false)
  else do
    let (db₁, held) ← db.fencedUpdate number .FAILED_RETRYABLE none
      (some .CONTENT_STORE_UNAVAILABLE) (some (backoffSeconds number)) now
    if held then db₁.failItem false else .ok (db₁, false)

/-- `_release_attempt` -/
def releaseTx (db : Db) (number : ℕ) (now : Time) : Except TxError (Db × Bool) :=
  db.updateOperation (·.heldBy number) fun o => { o with nextAttemptNotBefore := some now }

/-- INTEGRITY_VERIFIED, on the way to FINALIZED. -/
def verifyItem (db : Db) (item : Item) (now : Time) : Except TxError (Db × Bool) :=
  if item.contentState == .CONTENT_STORED then
    db.updateItem (fun _ => true) fun item =>
      { item with
        contentState := .INTEGRITY_VERIFIED
        verifiedAt := some now
        verifiedMediaType := some VERIFIED_MEDIA_TYPE }
  else .ok (db, true)

/-- The last transaction of `_finalize_evidence`. -/
def finalizeTx (db : Db) (verified : Bool) (now : Time) : Except TxError (Db × Bool) :=
  match db.item with
  | none => .error .database
  | some item =>
    if item.contentState == .FINALIZED then .ok (db, true)
    else if item.contentState != .CONTENT_STORED && item.contentState != .INTEGRITY_VERIFIED then
      .ok (db, false)
    else if !verified then do
      let (db₁, _) ← db.moveItem .INTEGRITY_FAILED
      let (db₂, _) ← db₁.updateOperation (fun _ => true) fun o =>
        { o with
          state := .INTEGRITY_FAILED
          lastFailureCategory := some .DIGEST_OR_AUTHENTICATION_FAILED }
      .ok (db₂, false)
    else do
      let (db₁, _) ← verifyItem db item now
      let (db₂, _) ← db₁.updateItem (fun _ => true) fun item =>
        { item with contentState := .FINALIZED, finalizedAt := some now }
      let (db₃, _) ← db₂.updateOperation (fun _ => true) fun o =>
        { o with state := .FINALIZED, terminalAt := some now }
      .ok (db₃, true)

/-! ## Requests -/

inductive PutPhase where
  | receiving (request : PutRequest)
  /-- `store.put`, outside any transaction -/
  | storing (number : ℕ)
  | recording (number : ℕ) (locator : Locator)
  | failing (number : ℕ)
  | releasing (number : ℕ)
  /-- answered, crashed, or waiting for a write that never reports back -/
  | ended
deriving DecidableEq

/-- The attempt a PUT has been given. -/
def PutPhase.attempt? : PutPhase → Option ℕ
  | .storing n | .recording n _ | .failing n | .releasing n => some n
  | _ => none

inductive FinalizePhase where
  | looking
  /-- `store.get` and `store.verify`, outside any transaction -/
  | verifying (locator : Option Locator) (sha256 : String) (length : ℕ)
  | deciding (verified : Bool)
  | ended
deriving DecidableEq

/-- What the store answers to one read. -/
inductive Read where
  | data (bytes : Bytes)
  | integrityFailure
  | unavailable
deriving DecidableEq

structure Sys where
  db : Db
  now : Time
  puts : ℕ → Option PutPhase
  finalizers : ℕ → Option FinalizePhase
  /-- for each attempt in turn, when its lease ends or ended -/
  leases : List Time
  /-- what `store.verify` read, and where -/
  reads : List (Locator × Bytes)

inductive Action where
  | tick (d : Time)
  | put (p : ℕ) (request : PutRequest)
  | finalize (f : ℕ)
  /-- the store's answer to the write of `p`: its locator, or that it failed -/
  | store (p : ℕ) (stored : Option Locator)
  /-- the next transaction of `p`; `start` is its `now()` -/
  | transact (p : ℕ) (delivery : Delivery) (start : Time)
  | crash (p : ℕ)
  | look (f : ℕ)
  /-- the two reads of `f`: `store.get`, and the one of `store.verify` behind it -/
  | read (f : ℕ) (got verified : Read)
  | decide (f : ℕ) (delivery : Delivery) (start : Time)
  | crashFinalize (f : ℕ)
deriving DecidableEq

def Action.put? : Action → Option ℕ
  | .put p _ | .store p _ | .transact p _ _ | .crash p => some p
  | _ => none

namespace Sys

def init (intent : Intent) : Sys :=
  { db := ⟨intent, none, .received⟩
    now := 0
    puts := fun _ => none
    finalizers := fun _ => none
    leases := []
    reads := [] }

def setPut (s : Sys) (p : ℕ) (phase : PutPhase) : Sys :=
  { s with puts := fun q => if q = p then some phase else s.puts q }

def setFinalizer (s : Sys) (f : ℕ) (phase : FinalizePhase) : Sys :=
  { s with finalizers := fun g => if g = f then some phase else s.finalizers g }

def setDb (s : Sys) (db : Db) : Sys := { s with db := db }

/-- The lease of the attempt that just began. -/
def grant (s : Sys) (lease : Time) : Sys := { s with leases := s.leases ++ [lease] }

/-- The lease of an attempt that recorded an outcome, or gave the lease back. -/
def endLease (s : Sys) (number : ℕ) (now : Time) : Sys :=
  { s with leases := s.leases.set (number - 1) now }

end Sys

/-- The PUT after its first transaction. -/
def afterPut : Seen TxError (Option ℕ) → PutPhase
  | .done (some number) => .storing number
  | _ => .ended

/-- The PUT after its second transaction: a database error releases the lease. -/
def afterRecord (number : ℕ) : Seen TxError Bool → PutPhase
  | .done _ => .ended
  | _ => .releasing number

/-- A new attempt is granted its lease. -/
def grantNew (s : Sys) (db : Db) (start : Time) : Sys :=
  if s.db.operation.attemptCount < db.operation.attemptCount then
    (s.setDb db).grant (start + WRITE_LEASE)
  else s.setDb db

/-- The lease ends where the transaction changed the operation. -/
def settle (s : Sys) (db : Db) (number : ℕ) (start : Time) : Sys :=
  if s.db.operation = db.operation then s.setDb db
  else (s.setDb db).endLease number start

def transact (s : Sys) (p : ℕ) (delivery : Delivery) (start : Time) : PutPhase → Option Sys
  | .receiving request =>
    let out := deliver s.db (putTx sha256 s.db request start) delivery
    some ((grantNew s out.1 start).setPut p (afterPut out.2))
  | .recording number locator =>
    let out := deliver s.db (recordTx s.db number locator start) delivery
    some ((settle s out.1 number start).setPut p (afterRecord number out.2))
  | .failing number =>
    let out := deliver s.db (writeFailedTx s.db number start) delivery
    some ((settle s out.1 number start).setPut p (afterRecord number out.2))
  | .releasing number =>
    let out := deliver s.db (releaseTx s.db number start) delivery
    some ((settle s out.1 number start).setPut p .ended)
  | _ => none

/-- `data = store.get(..)`, `store.verify(..)` and `data.decode("utf-8")`. -/
def verdict (sha : String) (length : ℕ) : Read → Read → Option Bool
  | .unavailable, _ => none
  | .integrityFailure, _ => some false
  | .data _, .unavailable => none
  | .data _, .integrityFailure => some false
  | .data got, .data bytes =>
    some (bytes.length == length && sha256 bytes == sha && utf8 got)

def step (s : Sys) : Action → Option (Sys × Unit)
  | .tick d => some ({ s with now := s.now + d }, ())
  | .put p request =>
    match s.puts p with
    | none => some (s.setPut p (.receiving request), ())
    | some _ => none
  | .finalize f =>
    match s.finalizers f with
    | none => some (s.setFinalizer f .looking, ())
    | some _ => none
  | .store p stored =>
    match s.puts p with
    | some (.storing number) =>
      match stored with
      | some locator => some (s.setPut p (.recording number locator), ())
      | none => some (s.setPut p (.failing number), ())
    | _ => none
  | .transact p delivery start =>
    match s.puts p with
    | some phase =>
      if start ≤ s.now then (transact sha256 s p delivery start phase).map (·, ()) else none
    | none => none
  | .crash p =>
    match s.puts p with
    | some _ => some (s.setPut p .ended, ())
    | none => none
  | .look f =>
    match s.finalizers f with
    | some .looking =>
      match s.db.item with
      | none => some (s.setFinalizer f .ended, ())
      | some item =>
        if item.contentState == .FINALIZED then some (s.setFinalizer f (.deciding false), ())
        else if item.contentState == .CONTENT_STORED || item.contentState == .INTEGRITY_VERIFIED then
          some (s.setFinalizer f
            (.verifying item.ecsLocator item.contentSha256 item.byteLength), ())
        else some (s.setFinalizer f .ended, ())
    | _ => none
  | .read f got verified =>
    match s.finalizers f with
    | some (.verifying (some locator) sha length) =>
      match verdict sha256 sha length got verified with
      | none => some (s.setFinalizer f .ended, ())
      | some ok =>
        let s' := s.setFinalizer f (.deciding ok)
        match got, verified with
        | .data _, .data bytes => some ({ s' with reads := s.reads ++ [(locator, bytes)] }, ())
        | _, _ => some (s', ())
    | some (.verifying none _ _) => some (s.setFinalizer f .ended, ())
    | _ => none
  | .decide f delivery start =>
    match s.finalizers f with
    | some (.deciding verified) =>
      if start ≤ s.now then
        some ((s.setDb (deliver s.db (finalizeTx s.db verified start) delivery).1).setFinalizer f
          .ended, ())
      else none
    | _ => none
  | .crashFinalize f =>
    match s.finalizers f with
    | some _ => some (s.setFinalizer f .ended, ())
    | none => none

/-- One evidence item with any number of PUT and finalize requests. -/
def intake (intent : Intent) : System Sys Action Unit :=
  { init := Sys.init intent, step := step sha256 }

end TrustLens.Backend.EvidenceIntake
