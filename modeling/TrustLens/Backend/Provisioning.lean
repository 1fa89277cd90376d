import TrustLens.Backend.AuditChain

/-!
# Role provisioning

Transactions that grant and revoke roles, statement by statement: a statement sees what is committed
and what its own transaction wrote, and waits for a row or a key that another one holds. Any
transaction can fail between two statements; what it wrote is then gone.
-/

namespace TrustLens.Backend.Provisioning

open AuditChain (AuditEvent validate)

def PROVISIONER_ISSUER : String := "urn:trustlens:workload:local-provisioning"

def PROVISIONER_SUBJECT : String := "role-provisioning-cli"

def GRANT_REASON : String := "DEC-009:S2-LOCAL-ROLE-PROVISIONING"

def REVOKE_REASON : String := "DEC-009:S2-LOCAL-ROLE-REVOCATION"

def ADMIN_GRANT_REASON : String := "DEC-013:S3-LOCAL-ADMINISTRATOR-PROVISIONING"

def ADMIN_REVOKE_REASON : String := "DEC-013:S3-LOCAL-ADMINISTRATOR-REVOCATION"

/-- `_KEYCLOAK_SUBJECT` -/
def _KEYCLOAK_SUBJECT : String → Bool :=
  Schema.anchored fun cs => match cs.splitOn '-' with
    | [a, b, c, d, e] => AuditChain.hexGroup 8 a && AuditChain.hexGroup 4 b &&
        AuditChain.hexGroup 4 c && AuditChain.hexGroup 4 d && AuditChain.hexGroup 12 e
    | _ => false

/-! ### Tables -/

inductive PrincipalKind where
  | HUMAN
  | WORKLOAD
deriving DecidableEq

inductive PrincipalStatus where
  | ACTIVE
  | DEACTIVATED
  | MINIMIZED
deriving DecidableEq

inductive Role where
  | USER
  | ANALYST
  | KNOWLEDGE_EDITOR
  | KNOWLEDGE_APPROVER
  | ADMINISTRATOR
deriving DecidableEq

def Role.text : Role → String
  | USER => "USER"
  | ANALYST => "ANALYST"
  | KNOWLEDGE_EDITOR => "KNOWLEDGE_EDITOR"
  | KNOWLEDGE_APPROVER => "KNOWLEDGE_APPROVER"
  | ADMINISTRATOR => "ADMINISTRATOR"

structure PrincipalReference where
  principal_reference_id : String
  principal_kind : PrincipalKind
  /-- the issuer and the subject, none once they are minimized -/
  external_identity : Option (String × String)
  status : PrincipalStatus
deriving DecidableEq

/-- Who revoked an assignment, and why. -/
structure Revocation where
  revoked_by_principal_id : String
  revocation_reason_ref : String
deriving DecidableEq

structure RoleAssignment where
  role_assignment_id : String
  principal_reference_id : String
  role : Role
  assigned_by_principal_id : String
  assignment_reason_ref : String
  revocation : Option Revocation
deriving DecidableEq

def RoleAssignment.active (a : RoleAssignment) : Bool := a.revocation.isNone

/-- The committed tables. -/
structure Db where
  principals : List PrincipalReference
  roles : List RoleAssignment
  events : List AuditEvent

/-! ### Transactions -/

inductive Procedure where
  | grant_user
  | revoke_user
  | grant_administrator
  | revoke_administrator
deriving DecidableEq

namespace Procedure

def role : Procedure → Role
  | grant_user | revoke_user => .USER
  | grant_administrator | revoke_administrator => .ADMINISTRATOR

def grants : Procedure → Bool
  | grant_user | grant_administrator => true
  | revoke_user | revoke_administrator => false

def reason : Procedure → String
  | grant_user => GRANT_REASON
  | revoke_user => REVOKE_REASON
  | grant_administrator => ADMIN_GRANT_REASON
  | revoke_administrator => ADMIN_REVOKE_REASON

/-- `_admin_subject`, which only the administrator procedures call. -/
def acceptsSubject (subject : String) : Procedure → Bool
  | grant_user | revoke_user => true
  | grant_administrator | revoke_administrator => _KEYCLOAK_SUBJECT subject

/-- Whether the active roles of the account refuse the grant. -/
def refuses (active : List Role) : Procedure → Bool
  | grant_user => active.contains .ADMINISTRATOR
  | grant_administrator => active.any (· ≠ .ADMINISTRATOR)
  | revoke_user | revoke_administrator => false

end Procedure

inductive Outcome where
  | granted
  | revoked
  /-- no change made -/
  | unchanged
  /-- `ProvisioningRefused` -/
  | refused
  /-- any other exception -/
  | failed
deriving DecidableEq

/-- The statement a transaction is at. -/
inductive Phase where
  | provisioner
  | insertProvisioner
  | principal (provisioner : String)
  | insertPrincipal (provisioner : String)
  | roles (provisioner principal : String)
  | assign (provisioner principal : String)
  | audit (provisioner principal : String) (assignments : List String)
  | commit (outcome : Outcome)
  | ended (outcome : Outcome)
deriving DecidableEq

/-- A transaction with what it wrote and the principal rows it locked. -/
structure Tx where
  procedure : Procedure
  issuer : String
  subject : String
  correlation_id : String
  phase : Phase
  locks : List String
  principals : List PrincipalReference
  roles : List RoleAssignment
  revocations : List (String × Revocation)
  events : List AuditEvent

def Tx.start (procedure : Procedure) (issuer subject correlation_id : String) : Tx where
  procedure := procedure
  issuer := issuer
  subject := subject
  correlation_id := correlation_id
  phase := if procedure.acceptsSubject subject then .provisioner else .ended .refused
  locks := []
  principals := []
  roles := []
  revocations := []
  events := []

/-- A transaction that is over: its locks are released. -/
def Tx.finish (tx : Tx) (outcome : Outcome) : Tx :=
  { tx with phase := .ended outcome, locks := [], principals := [], roles := [], revocations := []
            events := [] }

/-- An assignment with the revocation that a transaction wrote for it. -/
def RoleAssignment.revise (revocations : List (String × Revocation)) (a : RoleAssignment) :
    RoleAssignment :=
  match revocations.lookup a.role_assignment_id with
  | some r => { a with revocation := some r }
  | none => a

/-- What a transaction sees of the tables. -/
def Tx.view (tx : Tx) (db : Db) : Db where
  principals := db.principals ++ tx.principals
  roles := db.roles.map (RoleAssignment.revise tx.revocations) ++ tx.roles
  events := db.events ++ tx.events

/-- What a `_principal` lookup does: wait, find no row, refuse the row, or lock it. -/
inductive Lookup where
  | blocked
  | missing
  | mismatch
  | locked (id : String)

/-- `SELECT … FOR UPDATE` of `_principal` and its checks. -/
def lookupPrincipal (db : Db) (others : List Tx) (tx : Tx) (issuer subject : String)
    (kind : PrincipalKind) : Lookup :=
  match (tx.view db).principals.find? (·.external_identity = some (issuer, subject)) with
  | none => .missing
  | some row =>
    if others.any fun t => t.locks.contains row.principal_reference_id then .blocked
    else if row.principal_kind = kind ∧ row.status = .ACTIVE then
      .locked row.principal_reference_id
    else .mismatch

/-- `INSERT INTO principal_reference`: none while another transaction is inserting the identity or the
key, false where one of them exists. -/
def insertPrincipal (db : Db) (others : List Tx) (tx : Tx) (row : PrincipalReference) : Option Bool :=
  let clashes := fun p : PrincipalReference =>
    p.external_identity = row.external_identity ||
      p.principal_reference_id = row.principal_reference_id
  if others.any fun t => t.principals.any clashes then none
  else some (!(tx.view db).principals.any clashes)

/-- `INSERT INTO role_assignment`, under its key and the unique index over active assignments. -/
def insertRole (db : Db) (others : List Tx) (tx : Tx) (row : RoleAssignment) : Option Bool :=
  let clashes := fun a : RoleAssignment =>
    a.role_assignment_id = row.role_assignment_id ||
      (a.active && a.principal_reference_id = row.principal_reference_id && a.role = row.role)
  if others.any fun t => t.roles.any clashes then none
  else some (!(tx.view db).roles.any clashes)

/-- The active roles of a principal. -/
def activeRoles (roles : List RoleAssignment) (principal : String) : List Role :=
  (roles.filter fun a => a.active && a.principal_reference_id = principal).map RoleAssignment.role

/-- `_audit_role` -/
def roleEvent (tx : Tx) (provisioner principal assignment : String) : AuditEvent where
  eventType := if tx.procedure.grants then "ROLE_ASSIGNED" else "ROLE_REVOKED"
  outcome := "SUCCEEDED"
  actorKind := "WORKLOAD"
  targetKind := "ROLE_ASSIGNMENT"
  correlationId := tx.correlation_id
  actorPrincipalId := some provisioner
  targetId := some assignment
  safeMetadata := some ⟨[("role", .str tx.procedure.role.text), ("principal_id", .str principal),
    ("reason_ref", .str tx.procedure.reason)], by simp⟩
  occurredAt := none
  caseRecordId := none
  evidenceItemId := none
  evaluationId := none
  bundleContentDigest := none

/-- The tables after a commit. -/
def Tx.commit (tx : Tx) (db : Db) : Db := tx.view db

/-- The next statement of a transaction, with the identifier `uuid4` draws; none while it waits. -/
def advance (db : Db) (others : List Tx) (tx : Tx) (fresh : String) : Option (Db × Tx) :=
  match tx.phase with
  | .provisioner =>
    match lookupPrincipal db others tx PROVISIONER_ISSUER PROVISIONER_SUBJECT .WORKLOAD with
    | .blocked => none
    | .missing => some (db, { tx with phase := .insertProvisioner })
    | .mismatch => some (db, tx.finish .failed)
    | .locked id => some (db, { tx with phase := .principal id, locks := id :: tx.locks })
  | .insertProvisioner =>
    let row : PrincipalReference :=
      ⟨fresh, .WORKLOAD, some (PROVISIONER_ISSUER, PROVISIONER_SUBJECT), .ACTIVE⟩
    match insertPrincipal db others tx row with
    | none => none
    | some false => some (db, tx.finish .failed)
    | some true =>
      some (db, { tx with phase := .principal fresh, principals := row :: tx.principals })
  | .principal provisioner =>
    match lookupPrincipal db others tx tx.issuer tx.subject .HUMAN with
    | .blocked => none
    | .missing =>
      if tx.procedure.grants then some (db, { tx with phase := .insertPrincipal provisioner })
      else some (db, { tx with phase := .commit .unchanged })
    | .mismatch => some (db, tx.finish .failed)
    | .locked id => some (db, { tx with phase := .roles provisioner id, locks := id :: tx.locks })
  | .insertPrincipal provisioner =>
    let row : PrincipalReference := ⟨fresh, .HUMAN, some (tx.issuer, tx.subject), .ACTIVE⟩
    match insertPrincipal db others tx row with
    | none => none
    | some false => some (db, tx.finish .failed)
    | some true => some (db, { tx with
        phase := .roles provisioner fresh, principals := row :: tx.principals })
  | .roles provisioner principal =>
    if tx.procedure.grants then
      let active := activeRoles (tx.view db).roles principal
      if tx.procedure.refuses active then some (db, tx.finish .refused)
      else if active.contains tx.procedure.role then
        some (db, { tx with phase := .commit .unchanged })
      else some (db, { tx with phase := .assign provisioner principal })
    else
      let rows := (tx.view db).roles.filter fun a =>
        a.principal_reference_id = principal && a.role = tx.procedure.role && a.active
      let ids := rows.map RoleAssignment.role_assignment_id
      if others.any fun t => t.revocations.any fun r => ids.contains r.1 then none
      else if ids = [] then some (db, { tx with phase := .commit .unchanged })
      else some (db, { tx with
        phase := .audit provisioner principal ids
        revocations := ids.map (·, ⟨provisioner, tx.procedure.reason⟩) ++ tx.revocations })
  | .assign provisioner principal =>
    let row : RoleAssignment :=
      ⟨fresh, principal, tx.procedure.role, provisioner, tx.procedure.reason, none⟩
    match insertRole db others tx row with
    | none => none
    | some false => some (db, tx.finish .failed)
    | some true => some (db, { tx with
        phase := .audit provisioner principal [fresh], roles := row :: tx.roles })
  | .audit provisioner principal assignments =>
    match assignments with
    | [] => some (db, { tx with
        phase := .commit (if tx.procedure.grants then .granted else .revoked) })
    | assignment :: rest =>
      -- the head of the chain is locked by the transaction that appended to it
      if others.any fun t => !t.events.isEmpty then none
      else
        let event := roleEvent tx provisioner principal assignment
        if validate event then some (db, { tx with
          phase := .audit provisioner principal rest, events := tx.events ++ [event] })
        else some (db, tx.finish .failed)
  | .commit outcome => some (tx.commit db, tx.finish outcome)
  | .ended _ => none

structure Sys where
  db : Db
  txs : List Tx

inductive Action where
  | begin (procedure : Procedure) (issuer subject correlation_id : String)
  | next (tx : ℕ) (fresh : String)
  /-- a fault of the connection, a timeout or a deadlock -/
  | fail (tx : ℕ)

/-- Whether a transaction is still running. -/
def Tx.running (tx : Tx) : Bool :=
  match tx.phase with
  | .ended _ => false
  | _ => true

def step (s : Sys) : Action → Option Sys
  | .begin procedure issuer subject correlation_id =>
    some { s with txs := s.txs ++ [.start procedure issuer subject correlation_id] }
  | .next i fresh =>
    match s.txs[i]? with
    | none => none
    | some tx =>
      (advance s.db (s.txs.eraseIdx i) tx fresh).map fun r => ⟨r.1, s.txs.set i r.2⟩
  | .fail i =>
    match s.txs[i]? with
    | none => none
    | some tx => if tx.running then some { s with txs := s.txs.set i (tx.finish .failed) } else none

/-- The transactions over some tables. -/
def system (db : Db) : System Sys Action Unit where
  init := ⟨db, []⟩
  step s a := (step s a).map (·, ())

end TrustLens.Backend.Provisioning
