import TrustLens.Lib.Transaction
import TrustLens.Lib.Transition
import Mathlib.Data.List.Basic
import Mathlib.Data.List.Count
import Mathlib.Data.List.Nodup

/-!
# Evaluation workers

Any number of `run_evaluation` calls over the evaluation, result and audit tables.
A worker is named by the fence token it draws, an evaluation by its position. Each
transaction is a function of the database that either gives the next one or raises,
and a raised one is rolled back; the triggers and constraints of the schema are part
of it. What the kernel and the bundle verification return is not restricted.
-/

namespace TrustLens.Backend.EvaluationWorker

abbrev Time := ℕ
abbrev Token := ℕ
abbrev EvaluationId := ℕ

def EXECUTION_LEASE : Time := 60 * 1000000

inductive Status where
  | REQUESTED
  | RUNNING
  | RESULT_COMPUTED_PERSISTENCE_PENDING
  | COMPLETED
  | FAILED_PRECONDITION
  | FAILED_INTEGRITY
  | FAILED_INFRASTRUCTURE
deriving DecidableEq

namespace Status

def isFailed : Status → Bool
  | FAILED_PRECONDITION | FAILED_INTEGRITY | FAILED_INFRASTRUCTURE => true
  | _ => false

def isTerminal (s : Status) : Bool := s == COMPLETED || s.isFailed

/-- `status IN ('RUNNING', 'RESULT_COMPUTED_PERSISTENCE_PENDING')` -/
def isExecuting : Status → Bool
  | RUNNING | RESULT_COMPUTED_PERSISTENCE_PENDING => true
  | _ => false

/-- The declared transitions of `tg_evaluation_transition_guard`. -/
def transitionAllowed : Status → Status → Bool
  | REQUESTED, RUNNING => true
  | REQUESTED, FAILED_PRECONDITION => true
  | RUNNING, RESULT_COMPUTED_PERSISTENCE_PENDING => true
  | RUNNING, COMPLETED => true
  | RUNNING, FAILED_INTEGRITY => true
  | RUNNING, FAILED_INFRASTRUCTURE => true
  | RESULT_COMPUTED_PERSISTENCE_PENDING, COMPLETED => true
  | RESULT_COMPUTED_PERSISTENCE_PENDING, FAILED_INFRASTRUCTURE => true
  | _, _ => false

end Status

inductive FailureCategory where
  | NO_VALID_ACTIVE_BUNDLE
  | ACTIVE_BUNDLE_WITHDRAWN
  | BUNDLE_INTEGRITY
  | ARTIFACT_INTEGRITY
  | RESULT_ASSEMBLY_REJECTED
  | PERSISTENCE_FAILED
  | EXECUTION_LEASE_EXPIRED
deriving DecidableEq

/-- The dict of `_pins`; component versions are listed by key. -/
structure Pins where
  bundleContentDigest : String
  bundleVersion : String
  manifestSchemaVersion : String
  commitSha : Option String
  engineVersion : String
  resultContractVersion : String
  evaluationProfileId : String
  extractionConfidenceGate : String
  riskMatrixId : String
  confidencePolicyId : String
  actionPolicyVersion : String
  componentVersions : List (String × String)
deriving DecidableEq

/-- What the worker reads of the artifact's evaluation context. -/
structure Context where
  inputId : String
  inputSupportStatus : String
  language : List String
  script : List String
deriving DecidableEq

/-- The write-once columns an evaluation is given on entering RUNNING. -/
structure Pinned where
  pins : Pins
  evaluationTimestamp : Time
  inputSupportStatus : String
  language : List String
  script : List String
deriving DecidableEq

/-- An evaluation row, joined with the context of its governed input artifact. -/
structure Evaluation where
  inputId : String
  context : Context
  status : Status
  failureCategory : Option FailureCategory
  executionFenceToken : Option Token
  executionLeaseExpiresAt : Option Time
  pinned : Option Pinned
  startedAt : Option Time
  resultComputedAt : Option Time
  completedAt : Option Time
  failedAt : Option Time
  replayMaterialDigest : Option String
deriving DecidableEq

/-- What `_check_document` and `_complete` read of the kernel's document. -/
structure Document where
  evaluationId : EvaluationId
  inputId : String
  inputSupportStatus : String
  language : List String
  script : List String
  resultContractVersion : String
  bundleContentDigest : String
  bundleVersion : String
  commitSha : Option String
  engineVersion : String
  profileId : String
  extractionConfidenceGate : String
  riskMatrixId : String
  confidencePolicyId : String
  componentVersions : List (String × String)
  /-- the rest of the document, as its canonical text shows it -/
  body : String
deriving DecidableEq

structure DetectionResult where
  evaluationId : EvaluationId
  executionFenceToken : Token
  resultDigest : String
  resultContractVersion : String
  engineVersion : String
  bundleVersion : String
  bundleContentDigest : String
  commitSha : Option String
  evaluationProfileId : String
  extractionConfidenceGate : String
  riskMatrixId : String
  confidencePolicyId : String
  actionPolicyVersion : String
  componentVersions : List (String × String)
  evaluationTimestamp : Time
  inputId : String
  inputSupportStatus : String
  language : List String
  script : List String
  document : Document
deriving DecidableEq

inductive EventType where
  | EVALUATION_STARTED
  | RESULT_PERSISTED
  | EVALUATION_COMPLETED
  | EVALUATION_FAILED
deriving DecidableEq

structure AuditEvent where
  eventType : EventType
  evaluationId : EvaluationId
  reason : Option FailureCategory
  resultDigest : Option String
  bundleContentDigest : Option String
deriving DecidableEq

structure Db where
  evaluations : List Evaluation
  results : List DetectionResult
  audit : List AuditEvent
deriving DecidableEq

/-- Why a transaction is rolled back. -/
inductive TxError where
  /-- `_Stale` -/
  | stale
  /-- a trigger or a constraint raised -/
  | refused
  /-- `ValueError` of `material_digest` -/
  | incomplete
deriving DecidableEq

/-- The digests of `_complete`; the material record is read from the stored rows. -/
structure Commitments where
  resultDigest : Document → String
  materialDigest : Db → EvaluationId → String → Option String

/-! ## Triggers and constraints -/

/-- A write-once column keeps a value it has. -/
def writeOnce {α : Type} [DecidableEq α] (old new : Option α) : Bool :=
  old.isNone || new == old

/-- `tg_evaluation_transition_guard` -/
def transitionGuard (old new : Evaluation) : Bool :=
  new.inputId == old.inputId && !old.status.isTerminal
    && (new.status == old.status || old.status.transitionAllowed new.status)
    && writeOnce old.pinned new.pinned && writeOnce old.startedAt new.startedAt
    && writeOnce old.resultComputedAt new.resultComputedAt
    && writeOnce old.completedAt new.completedAt && writeOnce old.failedAt new.failedAt
    && writeOnce old.replayMaterialDigest new.replayMaterialDigest
    && (new.executionFenceToken == old.executionFenceToken
      || (old.status == .REQUESTED && new.status == .RUNNING && new.executionFenceToken.isSome)
      || (new.status.isFailed && new.executionFenceToken.isNone))

/-- The CHECK constraints that couple the status with other columns. -/
def rowChecks (r : Evaluation) : Bool :=
  (r.status == .REQUESTED || r.status == .FAILED_PRECONDITION || r.pinned.isSome)
    && (r.status != .COMPLETED
      || (r.completedAt.isSome && r.resultComputedAt.isSome && r.replayMaterialDigest.isSome))
    && (r.status.isFailed == (r.failedAt.isSome && r.failureCategory.isSome))
    && (!r.status.isExecuting || r.executionFenceToken.isSome)
    && (!r.status.isFailed || r.executionFenceToken.isNone)

namespace Db

def empty : Db := ⟨[], [], []⟩

def setEvaluation (db : Db) (e : EvaluationId) (r : Evaluation) : Db :=
  { db with evaluations := db.evaluations.set e r }

def addResult (db : Db) (d : DetectionResult) : Db := { db with results := db.results ++ [d] }

def append (db : Db) (a : AuditEvent) : Db := { db with audit := db.audit ++ [a] }

/-- An UPDATE of the evaluation where it meets the predicate, and `cur.rowcount == 1`. -/
def updateWhere (db : Db) (e : EvaluationId) (p : Evaluation → Bool)
    (f : Evaluation → Evaluation) : Except TxError (Db × Bool) :=
  match db.evaluations[e]? with
  | none => .ok (db, false)
  | some r =>
    if p r then
      if transitionGuard r (f r) && rowChecks (f r) then .ok (db.setEvaluation e (f r), true)
      else .error .refused
    else .ok (db, false)

end Db

/-- `tg_detection_result_insert_guard` -/
def insertGuard (db : Db) (d : DetectionResult) : Bool :=
  match db.evaluations[d.evaluationId]? with
  | none => false
  | some e =>
    match e.pinned with
    | none => false
    | some p =>
      e.status.isExecuting && e.executionFenceToken == some d.executionFenceToken
        && d.bundleContentDigest == p.pins.bundleContentDigest
        && d.bundleVersion == p.pins.bundleVersion && d.engineVersion == p.pins.engineVersion
        && d.resultContractVersion == p.pins.resultContractVersion
        && d.evaluationProfileId == p.pins.evaluationProfileId
        && d.extractionConfidenceGate == p.pins.extractionConfidenceGate
        && d.riskMatrixId == p.pins.riskMatrixId
        && d.confidencePolicyId == p.pins.confidencePolicyId
        && d.actionPolicyVersion == p.pins.actionPolicyVersion
        && d.componentVersions == p.pins.componentVersions
        && d.evaluationTimestamp == p.evaluationTimestamp && d.inputId == e.inputId
        && d.inputSupportStatus == p.inputSupportStatus && d.language == p.language
        && d.script == p.script
        && (d.commitSha.isNone || d.commitSha == p.pins.commitSha)

/-- `INSERT INTO detection_result`, under `uq_detection_result_evaluation` too. -/
def Db.insertResult (db : Db) (d : DetectionResult) : Except TxError Db :=
  if insertGuard db d && !db.results.any (·.evaluationId == d.evaluationId)
  then .ok (db.addResult d) else .error .refused

/-- The deferred constraint triggers between an evaluation and its result. -/
def deferredChecks (db : Db) (e : EvaluationId) : Bool :=
  match db.evaluations[e]? with
  | none => false
  | some r => (r.status == .COMPLETED) == db.results.any (·.evaluationId == e)

/-! ## The transactions -/

/-- The row and the audit event `_start_evaluation` commits. -/
def requestTx (db : Db) (context : Context) : Db :=
  { db with
    evaluations := db.evaluations ++
      [{ inputId := context.inputId
         context := context
         status := .REQUESTED
         failureCategory := none
         executionFenceToken := none
         executionLeaseExpiresAt := none
         pinned := none
         startedAt := none
         resultComputedAt := none
         completedAt := none
         failedAt := none
         replayMaterialDigest := none }]
    audit := db.audit ++ [⟨.EVALUATION_STARTED, db.evaluations.length, none, none, none⟩] }

/-- What a worker keeps from the claim to the end. -/
structure Job where
  context : Context
  pins : Pins
  timestamp : Time
deriving DecidableEq

def Job.pinned (j : Job) : Pinned :=
  { pins := j.pins
    evaluationTimestamp := j.timestamp
    inputSupportStatus := j.context.inputSupportStatus
    language := j.context.language
    script := j.context.script }

def Evaluation.running (r : Evaluation) (token : Token) (j : Job) (now : Time) : Evaluation :=
  { r with
    status := .RUNNING
    startedAt := some now
    executionFenceToken := some token
    executionLeaseExpiresAt := some (now + EXECUTION_LEASE)
    pinned := some j.pinned }

/-- UPDATE ... SET status = 'RUNNING' ... WHERE status = 'REQUESTED' -/
def claimTx (db : Db) (e : EvaluationId) (token : Token) (j : Job) (now : Time) :
    Except TxError (Db × Bool) :=
  db.updateWhere e (·.status == .REQUESTED) (·.running token j now)

/-- The failed row; a failure out of RUNNING also clears the token, which a requested
row does not have. -/
def Evaluation.failed (r : Evaluation) (status : Status) (category : FailureCategory)
    (now : Time) : Evaluation :=
  { r with
    status := status
    failureCategory := some category
    failedAt := some now
    executionFenceToken := if status = .FAILED_PRECONDITION then r.executionFenceToken else none }

def failedEvent (e : EvaluationId) (category : FailureCategory) : AuditEvent :=
  ⟨.EVALUATION_FAILED, e, some category, none, none⟩

/-- `_fail_precondition` -/
def failPreconditionTx (db : Db) (e : EvaluationId) (category : FailureCategory) (now : Time) :
    Except TxError (Db × Unit) := do
  let (db', updated) ← db.updateWhere e (·.status == .REQUESTED)
    (·.failed .FAILED_PRECONDITION category now)
  return (if updated then db'.append (failedEvent e category) else db', ())

/-- The live token: executing under it. -/
def Evaluation.heldBy (r : Evaluation) (token : Token) : Bool :=
  r.status.isExecuting && r.executionFenceToken == some token

/-- `_fail_running` -/
def failRunningTx (db : Db) (e : EvaluationId) (token : Token) (status : Status)
    (category : FailureCategory) (now : Time) : Except TxError (Db × Unit) := do
  let (db', updated) ← db.updateWhere e (·.heldBy token) (·.failed status category now)
  return (if updated then db'.append (failedEvent e category) else db', ())

/-- `_check_document` -/
def checkDocument (d : Document) (pins : Pins) (e : EvaluationId) (context : Context) : Bool :=
  pins.bundleContentDigest == d.bundleContentDigest && pins.bundleVersion == d.bundleVersion
    && pins.commitSha == d.commitSha && pins.engineVersion == d.engineVersion
    && pins.resultContractVersion == d.resultContractVersion
    && pins.evaluationProfileId == d.profileId
    && pins.extractionConfidenceGate == d.extractionConfidenceGate
    && pins.riskMatrixId == d.riskMatrixId && pins.confidencePolicyId == d.confidencePolicyId
    && some pins.actionPolicyVersion == d.componentVersions.lookup "action_policy"
    && pins.componentVersions == d.componentVersions && d.evaluationId == e
    && d.inputId == context.inputId && d.inputSupportStatus == context.inputSupportStatus

def resultRow (K : Commitments) (e : EvaluationId) (token : Token) (j : Job) (d : Document) :
    DetectionResult :=
  { evaluationId := e
    executionFenceToken := token
    resultDigest := K.resultDigest d
    resultContractVersion := d.resultContractVersion
    engineVersion := d.engineVersion
    bundleVersion := d.bundleVersion
    bundleContentDigest := d.bundleContentDigest
    commitSha := d.commitSha
    evaluationProfileId := d.profileId
    extractionConfidenceGate := d.extractionConfidenceGate
    riskMatrixId := d.riskMatrixId
    confidencePolicyId := d.confidencePolicyId
    actionPolicyVersion := j.pins.actionPolicyVersion
    componentVersions := d.componentVersions
    evaluationTimestamp := j.timestamp
    inputId := d.inputId
    inputSupportStatus := d.inputSupportStatus
    language := d.language
    script := d.script
    document := d }

def Evaluation.completed (r : Evaluation) (material : String) (now : Time) : Evaluation :=
  { r with
    status := .COMPLETED
    resultComputedAt := some now
    completedAt := some now
    replayMaterialDigest := some material }

/-- The audit rows of `_complete`. -/
def Db.auditCompleted (db : Db) (e : EvaluationId) (digest bundle : String) : Db :=
  (db.append ⟨.RESULT_PERSISTED, e, none, some digest, some bundle⟩).append
    ⟨.EVALUATION_COMPLETED, e, none, none, some bundle⟩

/-- UPDATE ... SET status = 'COMPLETED', and the deferred triggers of the commit. -/
def markCompleted (K : Commitments) (db : Db) (e : EvaluationId) (token : Token) (digest : String)
    (now : Time) : Except TxError (Db × Unit) :=
  match K.materialDigest db e digest with
  | none => .error .incomplete
  | some material => do
    let (db', updated) ← db.updateWhere e (·.heldBy token) (·.completed material now)
    if updated then
      if deferredChecks db' e then .ok (db', ()) else .error .refused
    else .error .stale

/-- `_complete`, from its SELECT ... FOR UPDATE on. -/
def completeTx (K : Commitments) (db : Db) (e : EvaluationId) (token : Token) (j : Job)
    (d : Document) (now : Time) : Except TxError (Db × Unit) :=
  if db.evaluations[e]?.any (·.heldBy token) then do
    let inserted ← db.insertResult (resultRow K e token j d)
    markCompleted K
      (inserted.auditCompleted e (K.resultDigest d) j.pins.bundleContentDigest) e token
      (K.resultDigest d) now
  else .error .stale

/-- RUNNING work whose lease ended before the transaction began. -/
def Evaluation.leaseExpired (r : Evaluation) (now : Time) : Bool :=
  r.status.isExecuting && r.executionLeaseExpiresAt.any (· < now)

def Evaluation.fenced (r : Evaluation) (now : Time) : Evaluation :=
  if r.leaseExpired now then r.failed .FAILED_INFRASTRUCTURE .EXECUTION_LEASE_EXPIRED now else r

/-- The rows the UPDATE of `recover` returns. -/
def Db.expired (db : Db) (now : Time) : List EvaluationId :=
  (List.range db.evaluations.length).filter fun e =>
    db.evaluations[e]?.any (·.leaseExpired now)

/-- The fencing transaction of `recover`. -/
def recoverTx (db : Db) (now : Time) : Except TxError (Db × Unit) :=
  if db.evaluations.all fun r =>
      !r.leaseExpired now || (transitionGuard r (r.fenced now) && rowChecks (r.fenced now)) then
    .ok ({ db with
      evaluations := db.evaluations.map (·.fenced now)
      audit := db.audit ++ (db.expired now).map (failedEvent · .EXECUTION_LEASE_EXPIRED) }, ())
  else .error .refused

/-! ## Workers -/

inductive Phase where
  /-- before the SELECT of the evaluation and its artifact -/
  | reading
  /-- artifact, eligibility and bundle are checked outside any transaction -/
  | checking (context : Context)
  | failingPrecondition (category : FailureCategory)
  | claiming (job : Job)
  | computing (job : Job)
  | completing (job : Job) (document : Document)
  | failingRunning (status : Status) (category : FailureCategory)
  /-- returned, or raised out of `run_evaluation`, or crashed -/
  | ended
deriving DecidableEq

structure Worker where
  evaluation : EvaluationId
  phase : Phase
deriving DecidableEq

structure Sys where
  db : Db
  now : Time
  workers : Token → Option Worker

/-- What the checks before the claim find. -/
inductive Verdict where
  | precondition (category : FailureCategory)
  | verified (pins : Pins) (timestamp : Time)
deriving DecidableEq

inductive Action where
  | tick (d : Time)
  | request (context : Context)
  | spawn (w : Token) (e : EvaluationId)
  | read (w : Token)
  | check (w : Token) (verdict : Verdict)
  /-- the kernel's document, or that it raised -/
  | compute (w : Token) (document : Option Document)
  /-- the next transaction of the worker; `start` is its `now()` -/
  | transact (w : Token) (delivery : Delivery) (start : Time)
  | crash (w : Token)
  | recover (delivery : Delivery) (start : Time)
deriving DecidableEq

def Action.worker? : Action → Option Token
  | .spawn w _ | .read w | .check w _ | .compute w _ | .transact w _ _ | .crash w => some w
  | _ => none

namespace Sys

def init : Sys := { db := .empty, now := 0, workers := fun _ => none }

def setWorker (s : Sys) (w : Token) (worker : Worker) : Sys :=
  { s with workers := fun w' => if w' = w then some worker else s.workers w' }

def setPhase (s : Sys) (w : Token) (worker : Worker) (phase : Phase) : Sys :=
  s.setWorker w { worker with phase := phase }

def setDb (s : Sys) (db : Db) : Sys := { s with db := db }

end Sys

/-- The worker after the claiming transaction; `rowcount = 0` where another claimed first. -/
def afterClaim (job : Job) : Seen TxError Bool → Phase
  | .done true => .computing job
  | _ => .ended

/-- The worker after `_complete`: `_Stale` ends it, every other error it handles leads to
`_fail_running`. -/
def afterComplete : Seen TxError Unit → Phase
  | .done _ => .ended
  | .error .stale => .ended
  | .error .refused => .failingRunning .FAILED_INFRASTRUCTURE .PERSISTENCE_FAILED
  | .error .incomplete => .failingRunning .FAILED_INFRASTRUCTURE .PERSISTENCE_FAILED
  | .fault => .failingRunning .FAILED_INFRASTRUCTURE .PERSISTENCE_FAILED

def transact (K : Commitments) (s : Sys) (w : Token) (worker : Worker) (delivery : Delivery)
    (start : Time) : Option Sys :=
  match worker.phase with
  | .failingPrecondition category =>
    let out := deliver s.db (failPreconditionTx s.db worker.evaluation category start) delivery
    some ((s.setDb out.1).setPhase w worker .ended)
  | .claiming job =>
    let out := deliver s.db (claimTx s.db worker.evaluation w job start) delivery
    some ((s.setDb out.1).setPhase w worker (afterClaim job out.2))
  | .completing job document =>
    let out := deliver s.db (completeTx K s.db worker.evaluation w job document start) delivery
    some ((s.setDb out.1).setPhase w worker (afterComplete out.2))
  | .failingRunning status category =>
    let out := deliver s.db (failRunningTx s.db worker.evaluation w status category start) delivery
    some ((s.setDb out.1).setPhase w worker .ended)
  | _ => none

def step (K : Commitments) (s : Sys) : Action → Option (Sys × Unit)
  | .tick d => some ({ s with now := s.now + d }, ())
  | .request context => some (s.setDb (requestTx s.db context), ())
  | .spawn w e =>
    match s.workers w with
    | none => some (s.setWorker w ⟨e, .reading⟩, ())
    | some _ => none
  | .read w =>
    match s.workers w with
    | some ⟨e, .reading⟩ =>
      match s.db.evaluations[e]? with
      | some r =>
        some (s.setWorker w
          ⟨e, if r.status = .REQUESTED then .checking r.context else .ended⟩, ())
      | none => some (s.setWorker w ⟨e, .ended⟩, ())
    | _ => none
  | .check w verdict =>
    match s.workers w with
    | some ⟨e, .checking context⟩ =>
      match verdict with
      | .precondition category => some (s.setWorker w ⟨e, .failingPrecondition category⟩, ())
      | .verified pins timestamp =>
        some (s.setWorker w ⟨e, .claiming ⟨context, pins, timestamp⟩⟩, ())
    | _ => none
  | .compute w document =>
    match s.workers w with
    | some ⟨e, .computing job⟩ =>
      match document with
      | some d =>
        if checkDocument d job.pins e job.context then
          some (s.setWorker w ⟨e, .completing job d⟩, ())
        else some (s.setWorker w ⟨e, .failingRunning .FAILED_INTEGRITY .RESULT_ASSEMBLY_REJECTED⟩, ())
      | none =>
        some (s.setWorker w ⟨e, .failingRunning .FAILED_INTEGRITY .RESULT_ASSEMBLY_REJECTED⟩, ())
    | _ => none
  | .transact w delivery start =>
    match s.workers w with
    | some worker =>
      if start ≤ s.now then (transact K s w worker delivery start).map (·, ()) else none
    | none => none
  | .crash w =>
    match s.workers w with
    | some worker => some (s.setPhase w worker .ended, ())
    | none => none
  | .recover delivery start =>
    if start ≤ s.now then some (s.setDb (deliver s.db (recoverTx s.db start) delivery).1, ())
    else none

/-- The evaluation tables with any number of workers. -/
def evaluations (K : Commitments) : System Sys Action Unit :=
  { init := Sys.init, step := step K }

end TrustLens.Backend.EvaluationWorker
