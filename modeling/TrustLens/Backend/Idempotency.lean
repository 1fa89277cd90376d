import TrustLens.Lib.Transition
import Mathlib.Data.List.Basic

/-!
# Idempotency claims

One scope (principal, operation, target, key digest) with supersession. The
steps are the SQL statements of `claim`, each on the latest committed rows, and
the `UPDATE` of `complete`, `fail_terminal` and `release`. A call is named by the
claim token it draws; a record by its position, since no record is deleted.
Times are microseconds of the database clock, and `now()` is the start of the
transaction that reads it.
-/

namespace TrustLens.Backend.Idempotency

abbrev Time := ℕ
abbrev Token := ℕ
abbrev RecordId := ℕ

def ACTIVE_WINDOW : Time := 24 * 60 * 60 * 1000000
def CLAIM_LEASE : Time := 30 * 1000000

inductive ExecutionState where
  | IN_PROGRESS
  | COMPLETED
  | FAILED_TERMINAL
  | RELEASED
deriving DecidableEq

/-- A stored outcome; its status meets `ck_api_idempotency_http_status`. -/
structure Outcome where
  status : ℕ
  errorCode : Option String
  resourceKind : Option String
  resourceId : Option String
  statusRange : 100 ≤ status ∧ status ≤ 599
deriving DecidableEq

structure Record where
  requestSemanticDigest : String
  executionState : ExecutionState
  claimToken : Token
  inProgressLeaseUntil : Option Time
  createdAt : Time
  activeUntil : Time
  terminalAt : Option Time
  outcome : Option Outcome
  supersededAt : Option Time
deriving DecidableEq

namespace Record

def isTerminal (r : Record) : Bool :=
  r.executionState == .COMPLETED || r.executionState == .FAILED_TERMINAL

/-- `coalesce(in_progress_lease_until > now(), false)`. -/
def leaseLive (r : Record) (now : Time) : Bool :=
  match r.inProgressLeaseUntil with
  | some t => now < t
  | none => false

/-- The row `_INSERT` writes. -/
def fresh (digest : String) (token : Token) (now : Time) : Record :=
  { requestSemanticDigest := digest
    executionState := .IN_PROGRESS
    claimToken := token
    inProgressLeaseUntil := some (now + CLAIM_LEASE)
    createdAt := now
    activeUntil := now + ACTIVE_WINDOW
    terminalAt := none
    outcome := none
    supersededAt := none }

/-- The takeover `UPDATE` of `claim`. -/
def taken (r : Record) (token : Token) (now : Time) : Record :=
  { r with
    executionState := .IN_PROGRESS
    claimToken := token
    inProgressLeaseUntil := some (now + CLAIM_LEASE)
    terminalAt := none
    outcome := none }

/-- The `UPDATE` of `_finish`. -/
def finished (r : Record) (state : ExecutionState) (o : Outcome) (now : Time) : Record :=
  { r with
    executionState := state
    terminalAt := some now
    inProgressLeaseUntil := none
    outcome := some o }

def superseded (r : Record) (now : Time) : Record :=
  { r with supersededAt := some now }

end Record

inductive Result where
  | claim (record : RecordId) (token : Token)
  | replay (o : Option Outcome)
  | keyReused
  | inProgress
  /-- the write-once trigger raised -/
  | refused
deriving DecidableEq

/-- Where a call of `claim` stands between two of its statements. -/
inductive Phase where
  | inserting
  | selecting
  | takingOver (record : RecordId) (oldToken : Token)
  | superseding (record : RecordId)
  | done (result : Result)
deriving DecidableEq

structure Call where
  digest : String
  start : Time
  phase : Phase
deriving DecidableEq

structure Sys where
  rows : List Record
  now : Time
  calls : Token → Option Call
  /-- the records under which a governed effect committed -/
  effects : List RecordId

inductive FinishKind where
  | complete
  | failTerminal
  | release
deriving DecidableEq

def FinishKind.state : FinishKind → ExecutionState
  | complete => .COMPLETED
  | failTerminal => .FAILED_TERMINAL
  | release => .RELEASED

inductive Action where
  | tick (d : Time)
  | begin (c : Token) (digest : String)
  | insert (c : Token)
  | select (c : Token)
  | takeOver (c : Token)
  | supersede (c : Token)
  | finish (c : Token) (kind : FinishKind) (o : Outcome) (start : Time)
deriving DecidableEq

inductive Output where
  | ok
  | staleClaim
  | refused
deriving DecidableEq

namespace Sys

def init : Sys := { rows := [], now := 0, calls := fun _ => none, effects := [] }

def setCall (s : Sys) (c : Token) (call : Call) : Sys :=
  { s with calls := fun c' => if c' = c then some call else s.calls c' }

def setPhase (s : Sys) (c : Token) (call : Call) (phase : Phase) : Sys :=
  s.setCall c { call with phase := phase }

def setRow (s : Sys) (i : RecordId) (r : Record) : Sys := { s with rows := s.rows.set i r }

def addRow (s : Sys) (r : Record) : Sys := { s with rows := s.rows ++ [r] }

/-- The record of the partial unique index `WHERE superseded_at IS NULL`. -/
def governing (s : Sys) : Option RecordId := s.rows.findIdx? (·.supersededAt.isNone)

end Sys

open Sys

/-- What the `SELECT` of `claim` decides about the governing record. -/
def resolve (r : Record) (i : RecordId) (call : Call) : Phase :=
  if r.activeUntil ≤ call.start then .superseding i
  else if r.requestSemanticDigest ≠ call.digest then .done .keyReused
  else if r.isTerminal then .done (.replay r.outcome)
  else if r.executionState = .IN_PROGRESS ∧ r.leaseLive call.start then .done .inProgress
  else .takingOver i r.claimToken

/-- INSERT ... ON CONFLICT DO NOTHING -/
def insertStep (s : Sys) (c : Token) (call : Call) : Sys :=
  match s.governing with
  | some _ => s.setPhase c call .selecting
  | none =>
    (s.addRow (.fresh call.digest c call.start)).setPhase c call
      (.done (.claim s.rows.length c))

def selectStep (s : Sys) (c : Token) (call : Call) : Sys :=
  match s.governing with
  | none => s.setPhase c call (.done .inProgress)
  | some i =>
    match s.rows[i]? with
    | none => s.setPhase c call (.done .inProgress)
    | some r => s.setPhase c call (resolve r i call)

/-- UPDATE ... WHERE id AND claim_token: the state of the row is not compared. -/
def takeOverStep (s : Sys) (c : Token) (call : Call) (i : RecordId) (old : Token) : Sys :=
  match s.rows[i]? with
  | none => s.setPhase c call (.done .inProgress)
  | some r =>
    if r.claimToken = old then
      if r.supersededAt.isSome then s.setPhase c call (.done .refused)
      else (s.setRow i (r.taken c call.start)).setPhase c call (.done (.claim i c))
    else s.setPhase c call (.done .inProgress)

/-- The superseding UPDATE and the INSERT behind it: the row lock the first one takes
is held to the commit, so no statement of another call comes between them. -/
def supersedeStep (s : Sys) (c : Token) (call : Call) (i : RecordId) : Sys :=
  match s.rows[i]? with
  | none => s.setPhase c call (.done .inProgress)
  | some r =>
    if r.supersededAt.isNone ∧ r.activeUntil ≤ call.start then
      let s' := s.setRow i (r.superseded call.start)
      match s'.governing with
      | some _ => s.setPhase c call (.done .inProgress)
      | none =>
        (s'.addRow (.fresh call.digest c call.start)).setPhase c call
          (.done (.claim s.rows.length c))
    else s.setPhase c call (.done .inProgress)

/-- `_finish` in the transaction of the effect; `release` drops the StaleClaim it raises. -/
def finishStep (s : Sys) (i : RecordId) (token : Token) (kind : FinishKind) (o : Outcome)
    (start : Time) : Sys × Output :=
  match s.rows[i]? with
  | none => (s, .staleClaim)
  | some r =>
    if r.claimToken = token ∧ r.executionState = .IN_PROGRESS then
      if r.supersededAt.isSome then (s, .refused)
      else
        let s' := s.setRow i (r.finished kind.state o start)
        (if kind = .complete then { s' with effects := s.effects ++ [i] } else s', .ok)
    else (s, .staleClaim)

def step (s : Sys) : Action → Option (Sys × Output)
  | .tick d => some ({ s with now := s.now + d }, .ok)
  | .begin c digest =>
    match s.calls c with
    | none => some (s.setCall c ⟨digest, s.now, .inserting⟩, .ok)
    | some _ => none
  | .insert c =>
    match s.calls c with
    | some call => if call.phase = .inserting then some (insertStep s c call, .ok) else none
    | none => none
  | .select c =>
    match s.calls c with
    | some call => if call.phase = .selecting then some (selectStep s c call, .ok) else none
    | none => none
  | .takeOver c =>
    match s.calls c with
    | some call =>
      match call.phase with
      | .takingOver i old => some (takeOverStep s c call i old, .ok)
      | _ => none
    | none => none
  | .supersede c =>
    match s.calls c with
    | some call =>
      match call.phase with
      | .superseding i => some (supersedeStep s c call i, .ok)
      | _ => none
    | none => none
  | .finish c kind o start =>
    match s.calls c with
    | some call =>
      match call.phase with
      | .done (.claim i token) =>
        if start ≤ s.now then some (finishStep s i token kind o start) else none
      | _ => none
    | none => none

/-- The scope with any number of calls. -/
def scope : System Sys Action Output := { init := Sys.init, step := step }

lemma governing_some {s : Sys} {i : RecordId} (h : s.governing = some i) :
    ∃ r, s.rows[i]? = some r ∧ r.supersededAt = none := by
  obtain ⟨hi, hr, -⟩ := List.findIdx?_eq_some_iff_getElem.mp h
  exact ⟨s.rows[i], List.getElem?_eq_getElem hi, by simpa using hr⟩

lemma governing_none {s : Sys} (h : s.governing = none) {i : RecordId} {r : Record}
    (hr : s.rows[i]? = some r) : r.supersededAt ≠ none := by
  have hm := List.findIdx?_eq_none_iff.mp h r (List.mem_of_getElem? hr)
  intro hs
  simp [hs] at hm

/-- Everything a statement can do. -/
inductive Move (s : Sys) : Action → Sys → Output → Prop where
  | tick (d : Time) : Move s (.tick d) { s with now := s.now + d } .ok
  | begin (c : Token) (digest : String) (idle : s.calls c = none) :
      Move s (.begin c digest) (s.setCall c ⟨digest, s.now, .inserting⟩) .ok
  | blocked (c : Token) (call : Call) (i : RecordId) (hc : s.calls c = some call)
      (hp : call.phase = .inserting) (hg : s.governing = some i) :
      Move s (.insert c) (s.setPhase c call .selecting) .ok
  | inserted (c : Token) (call : Call) (hc : s.calls c = some call)
      (hp : call.phase = .inserting) (hg : s.governing = none) :
      Move s (.insert c) ((s.addRow (.fresh call.digest c call.start)).setPhase c call
        (.done (.claim s.rows.length c))) .ok
  | missed (c : Token) (call : Call) (hc : s.calls c = some call)
      (hp : call.phase = .selecting) (hg : s.governing = none) :
      Move s (.select c) (s.setPhase c call (.done .inProgress)) .ok
  | resolved (c : Token) (call : Call) (i : RecordId) (r : Record) (hc : s.calls c = some call)
      (hp : call.phase = .selecting) (hg : s.governing = some i) (hr : s.rows[i]? = some r) :
      Move s (.select c) (s.setPhase c call (resolve r i call)) .ok
  | lost (c : Token) (call : Call) (a : Action) (result : Result) (hc : s.calls c = some call)
      (ha : a = .takeOver c ∨ a = .supersede c) (hw : ∀ r, call.phase ≠ .done r)
      (hn : call.phase ≠ .inserting ∧ call.phase ≠ .selecting)
      (hres : result = .inProgress ∨ result = .refused) :
      Move s a (s.setPhase c call (.done result)) .ok
  | taken (c : Token) (call : Call) (i : RecordId) (r : Record) (hc : s.calls c = some call)
      (hp : call.phase = .takingOver i r.claimToken) (hr : s.rows[i]? = some r)
      (hs : r.supersededAt = none) :
      Move s (.takeOver c) ((s.setRow i (r.taken c call.start)).setPhase c call
        (.done (.claim i c))) .ok
  | superseded (c : Token) (call : Call) (i : RecordId) (r : Record) (hc : s.calls c = some call)
      (hp : call.phase = .superseding i) (hr : s.rows[i]? = some r)
      (hs : r.supersededAt = none) (he : r.activeUntil ≤ call.start)
      (hg : (s.setRow i (r.superseded call.start)).governing = none) :
      Move s (.supersede c)
        (((s.setRow i (r.superseded call.start)).addRow
          (.fresh call.digest c call.start)).setPhase c call
            (.done (.claim s.rows.length c))) .ok
  | completed (c : Token) (call : Call) (i : RecordId) (r : Record) (o : Outcome) (start : Time)
      (hc : s.calls c = some call) (hp : call.phase = .done (.claim i r.claimToken))
      (hle : start ≤ s.now) (hr : s.rows[i]? = some r)
      (hst : r.executionState = .IN_PROGRESS) (hs : r.supersededAt = none) :
      Move s (.finish c .complete o start)
        { s.setRow i (r.finished .COMPLETED o start) with effects := s.effects ++ [i] } .ok
  | settled (c : Token) (call : Call) (i : RecordId) (r : Record) (kind : FinishKind) (o : Outcome)
      (start : Time) (hk : kind ≠ .complete)
      (hc : s.calls c = some call) (hp : call.phase = .done (.claim i r.claimToken))
      (hle : start ≤ s.now) (hr : s.rows[i]? = some r)
      (hst : r.executionState = .IN_PROGRESS) (hs : r.supersededAt = none) :
      Move s (.finish c kind o start) (s.setRow i (r.finished kind.state o start)) .ok
  | rejected (c : Token) (kind : FinishKind) (o : Outcome) (start : Time) (out : Output)
      (hout : out ≠ .ok) : Move s (.finish c kind o start) s out

theorem step_cases {s s' : Sys} {a : Action} {out : Output} (h : step s a = some (s', out)) :
    Move s a s' out := by
  cases a with
  | tick d =>
    simp only [step, Option.some.injEq, Prod.mk.injEq] at h
    obtain ⟨rfl, rfl⟩ := h
    exact .tick d
  | begin c digest =>
    simp only [step] at h
    split at h
    · rename_i hc
      simp only [Option.some.injEq, Prod.mk.injEq] at h
      obtain ⟨rfl, rfl⟩ := h
      exact .begin c digest hc
    · exact absurd h (by simp)
  | insert c =>
    simp only [step] at h
    split at h
    · rename_i call hc
      split_ifs at h with hp
      simp only [Option.some.injEq, Prod.mk.injEq] at h
      obtain ⟨rfl, rfl⟩ := h
      unfold insertStep
      split
      · exact .blocked c call _ hc hp ‹_›
      · exact .inserted c call hc hp ‹_›
    · exact absurd h (by simp)
  | select c =>
    simp only [step] at h
    split at h
    · rename_i call hc
      split_ifs at h with hp
      simp only [Option.some.injEq, Prod.mk.injEq] at h
      obtain ⟨rfl, rfl⟩ := h
      unfold selectStep
      split
      · exact .missed c call hc hp ‹_›
      · split
        · rename_i i hg _ hr
          obtain ⟨r, hr', -⟩ := governing_some hg
          exact absurd (hr.symm.trans hr') (by simp)
        · exact .resolved c call _ _ hc hp ‹_› ‹_›
    · exact absurd h (by simp)
  | takeOver c =>
    simp only [step] at h
    split at h
    · rename_i call hc
      split at h
      · rename_i i old hp
        simp only [Option.some.injEq, Prod.mk.injEq] at h
        obtain ⟨rfl, rfl⟩ := h
        have hw : ∀ r, call.phase ≠ .done r := by simp [hp]
        have hn : call.phase ≠ .inserting ∧ call.phase ≠ .selecting := by simp [hp]
        unfold takeOverStep
        split
        · exact .lost c call _ _ hc (.inl rfl) hw hn (.inl rfl)
        · rename_i r hr
          split_ifs with ht hs
          · exact .lost c call _ _ hc (.inl rfl) hw hn (.inr rfl)
          · subst ht
            exact .taken c call i r hc hp hr (by simpa using hs)
          · exact .lost c call _ _ hc (.inl rfl) hw hn (.inl rfl)
      · exact absurd h (by simp)
    · exact absurd h (by simp)
  | supersede c =>
    simp only [step] at h
    split at h
    · rename_i call hc
      split at h
      · rename_i i hp
        simp only [Option.some.injEq, Prod.mk.injEq] at h
        obtain ⟨rfl, rfl⟩ := h
        have hw : ∀ r, call.phase ≠ .done r := by simp [hp]
        have hn : call.phase ≠ .inserting ∧ call.phase ≠ .selecting := by simp [hp]
        unfold supersedeStep
        split
        · exact .lost c call _ _ hc (.inr rfl) hw hn (.inl rfl)
        · rename_i r hr
          split_ifs with he
          · dsimp only
            split
            · exact .lost c call _ _ hc (.inr rfl) hw hn (.inl rfl)
            · exact .superseded c call i r hc hp hr (by simpa using he.1) he.2 ‹_›
          · exact .lost c call _ _ hc (.inr rfl) hw hn (.inl rfl)
      · exact absurd h (by simp)
    · exact absurd h (by simp)
  | finish c kind o start =>
    simp only [step] at h
    split at h
    · rename_i call hc
      split at h
      · rename_i i token hp
        split_ifs at h with hle
        simp only [Option.some.injEq] at h
        unfold finishStep at h
        split at h
        · obtain ⟨rfl, rfl⟩ := Prod.mk.inj h
          exact .rejected c kind o start _ (by decide)
        · rename_i r hr
          split_ifs at h with ht hs hk
          · obtain ⟨rfl, rfl⟩ := Prod.mk.inj h
            exact .rejected c kind o start _ (by decide)
          · obtain ⟨rfl, rfl⟩ := Prod.mk.inj h
            obtain ⟨rfl, hst⟩ := ht
            subst hk
            exact .completed c call i r o start hc hp hle hr hst (by simpa using hs)
          · obtain ⟨rfl, rfl⟩ := Prod.mk.inj h
            obtain ⟨rfl, hst⟩ := ht
            exact .settled c call i r kind o start hk hc hp hle hr hst (by simpa using hs)
          · obtain ⟨rfl, rfl⟩ := Prod.mk.inj h
            exact .rejected c kind o start _ (by decide)
      · exact absurd h (by simp)
    · exact absurd h (by simp)

/-- The columns the write-once trigger guards, and a supersession mark once set. -/
def WriteOnce (r r' : Record) : Prop :=
  r'.requestSemanticDigest = r.requestSemanticDigest ∧ r'.createdAt = r.createdAt ∧
    r'.activeUntil = r.activeUntil ∧ (r.supersededAt ≠ none → r' = r)

lemma WriteOnce.refl (r : Record) : WriteOnce r r := ⟨rfl, rfl, rfl, fun _ => rfl⟩

lemma getElem?_setRow {s : Sys} {i j : RecordId} {r r' : Record} (hr : s.rows[i]? = some r) :
    (s.setRow i r').rows[j]? = if i = j then some r' else s.rows[j]? := by
  have hi : i < s.rows.length := (List.getElem?_eq_some_iff.mp hr).1
  by_cases h : i = j
  · subst h
    simp [setRow, hi]
  · simp [setRow, h]

lemma getElem?_addRow {s : Sys} {j : ℕ} {r : Record} :
    (s.addRow r).rows[j]? =
      if j < s.rows.length then s.rows[j]? else if j = s.rows.length then some r else none := by
  simp only [addRow, List.getElem?_append]
  split_ifs with h1 h2
  · rfl
  · simp [h2]
  · have hlen : [r].length ≤ j - s.rows.length := by
      rw [List.length_singleton]
      omega
    exact List.getElem?_eq_none hlen

lemma writeOnce_setRow {s : Sys} {i j : RecordId} {r q : Record} (r' : Record)
    (hr : s.rows[i]? = some r) (hw : WriteOnce r r') (hq : s.rows[j]? = some q) :
    ∃ q', (s.setRow i r').rows[j]? = some q' ∧ WriteOnce q q' := by
  rw [getElem?_setRow hr]
  split_ifs with h
  · subst h
    rw [hr, Option.some.injEq] at hq
    exact ⟨r', rfl, hq ▸ hw⟩
  · exact ⟨q, hq, .refl q⟩

/-- No statement deletes a record or changes a write-once column. -/
theorem step_writeOnce {s s' : Sys} {a : Action} {out : Output} (h : step s a = some (s', out))
    {j : RecordId} {q : Record} (hq : s.rows[j]? = some q) :
    ∃ q', s'.rows[j]? = some q' ∧ WriteOnce q q' := by
  have hj : j < s.rows.length := (List.getElem?_eq_some_iff.mp hq).1
  cases step_cases h with
  | tick | begin | blocked | missed | resolved | lost | rejected => exact ⟨q, hq, .refl q⟩
  | inserted c call hc hp hg =>
    refine ⟨q, ?_, .refl q⟩
    change (s.addRow _).rows[j]? = some q
    rw [getElem?_addRow, if_pos hj, hq]
  | taken c call i r hc hp hr hs =>
    exact writeOnce_setRow _ hr ⟨rfl, rfl, rfl, fun h => absurd hs h⟩ hq
  | superseded c call i r hc hp hr hs he hg =>
    obtain ⟨q', hq', hw⟩ := writeOnce_setRow (r.superseded call.start) hr
      ⟨rfl, rfl, rfl, fun h => absurd hs h⟩ hq
    refine ⟨q', ?_, hw⟩
    change ((s.setRow i _).addRow _).rows[j]? = some q'
    have hl : (s.setRow i (r.superseded call.start)).rows.length = s.rows.length := by
      simp [setRow]
    rw [getElem?_addRow, hl, if_pos hj, hq']
  | completed c call i r o start hc hp hle hr hst hs =>
    exact writeOnce_setRow _ hr ⟨rfl, rfl, rfl, fun h => absurd hs h⟩ hq
  | settled c call i r kind o start hk hc hp hle hr hst hs =>
    exact writeOnce_setRow _ hr ⟨rfl, rfl, rfl, fun h => absurd hs h⟩ hq

/-- The record of a finished call of `claim`, or of one about to take over. -/
def Phase.names : Phase → RecordId → Prop
  | .takingOver i _, j => i = j
  | .superseding _, _ => False
  | .done (.claim i _), j => i = j
  | _, _ => False

/-- What holds however the statements of all calls are interleaved. -/
structure Consistent (s : Sys) : Prop where
  /-- at most one record governs the scope -/
  unique : ∀ (i j : RecordId) (r q : Record), s.rows[i]? = some r → s.rows[j]? = some q →
    r.supersededAt = none → q.supersededAt = none → i = j
  started : ∀ c call, s.calls c = some call → call.start ≤ s.now
  /-- supersession comes after the active window -/
  expired : ∀ (i : RecordId) (r : Record), s.rows[i]? = some r → r.supersededAt ≠ none → r.activeUntil ≤ s.now
  /-- a call holds or takes over only records of its own digest -/
  digests : ∀ c call i, s.calls c = some call → call.phase.names i →
    ∃ r, s.rows[i]? = some r ∧ r.requestSemanticDigest = call.digest
  effects : ∀ i ∈ s.effects, i < s.rows.length

lemma consistent_init : Consistent Sys.init where
  unique := by simp [Sys.init]
  started := by simp [Sys.init]
  expired := by simp [Sys.init]
  digests := by simp [Sys.init]
  effects := by simp [Sys.init]

lemma calls_setPhase {s : Sys} {c c' : Token} {call call' : Call} {p : Phase}
    (h : (s.setPhase c call p).calls c' = some call') :
    (c' = c ∧ call' = { call with phase := p }) ∨ (c' ≠ c ∧ s.calls c' = some call') := by
  simp only [setPhase, setCall] at h
  split_ifs at h with hc
  · exact .inl ⟨hc, (Option.some.inj h).symm⟩
  · exact .inr ⟨hc, h⟩

/-- Moving one call on leaves the invariant, if the call's new phase names only records of
its digest. -/
lemma Consistent.setPhase {s : Sys} (hs : Consistent s) {c : Token} {call : Call} {p : Phase}
    (hstart : call.start ≤ s.now)
    (hp : ∀ i, p.names i → ∃ r, s.rows[i]? = some r ∧ r.requestSemanticDigest = call.digest) :
    Consistent (s.setPhase c call p) where
  unique := hs.unique
  started := by
    intro c' call' h
    rcases calls_setPhase h with ⟨-, rfl⟩ | ⟨-, h'⟩
    · exact hstart
    · exact hs.started c' call' h'
  expired := hs.expired
  digests := by
    intro c' call' i h hn
    rcases calls_setPhase h with ⟨-, rfl⟩ | ⟨-, h'⟩
    · exact hp i hn
    · exact hs.digests c' call' i h' hn
  effects := hs.effects

/-- Rewriting the governing record within the write-once rule leaves the invariant. -/
lemma Consistent.setRow {s : Sys} (hs : Consistent s) {i : RecordId} {r : Record} (r' : Record)
    (hr : s.rows[i]? = some r) (hu : r.supersededAt = none)
    (hd : r'.requestSemanticDigest = r.requestSemanticDigest)
    (he : r'.supersededAt ≠ none → r'.activeUntil ≤ s.now) : Consistent (s.setRow i r') where
  unique := by
    intro j k q p hq hp hq0 hp0
    rw [getElem?_setRow hr] at hq hp
    split_ifs at hq hp with h1 h2 h2
    · exact h1.symm.trans h2
    · exact h1.symm.trans (hs.unique i k r p hr hp hu hp0)
    · exact (hs.unique j i q r hq hr hq0 hu).trans h2
    · exact hs.unique j k q p hq hp hq0 hp0
  started := hs.started
  expired := by
    intro j q hq hq0
    rw [getElem?_setRow hr] at hq
    split_ifs at hq with h
    · obtain rfl := Option.some.inj hq
      exact he hq0
    · exact hs.expired j q hq hq0
  digests := by
    intro c call j hc hn
    obtain ⟨q, hq, hqd⟩ := hs.digests c call j hc hn
    rw [getElem?_setRow hr]
    split_ifs with h
    · subst h
      rw [hr, Option.some.injEq] at hq
      exact ⟨r', rfl, hd.trans (hq ▸ hqd)⟩
    · exact ⟨q, hq, hqd⟩
  effects := by
    intro j hj
    simpa [Sys.setRow] using hs.effects j hj

/-- Inserting a record where none governs leaves the invariant. -/
lemma Consistent.addRow {s : Sys} (hs : Consistent s) (hg : s.governing = none)
    (digest : String) (c : Token) (start : Time) : Consistent (s.addRow (.fresh digest c start)) where
  unique := by
    intro i j r q hr hq hr0 hq0
    rw [getElem?_addRow] at hr hq
    split_ifs at hr hq with h1 h2 h3 h4 h5
    · exact absurd hr0 (governing_none hg hr)
    · exact absurd hr0 (governing_none hg hr)
    · exact absurd hq0 (governing_none hg hq)
    · exact Eq.trans ‹i = _› (Eq.symm ‹j = _›)
  started := hs.started
  expired := by
    intro i r hr hr0
    rw [getElem?_addRow] at hr
    split_ifs at hr with h1 h2
    · exact hs.expired i r hr hr0
    · obtain rfl := Option.some.inj hr
      exact absurd rfl hr0
  digests := by
    intro c call i hc hn
    obtain ⟨r, hr, hd⟩ := hs.digests c call i hc hn
    refine ⟨r, ?_, hd⟩
    rw [getElem?_addRow, if_pos (List.getElem?_eq_some_iff.mp hr).1, hr]
  effects := by
    intro i hi
    simp only [Sys.addRow, List.length_append, List.length_singleton]
    exact Nat.lt_succ_of_lt (hs.effects i hi)

lemma names_resolve {r : Record} {i j : RecordId} {call : Call}
    (h : (resolve r i call).names j) :
    i = j ∧ r.requestSemanticDigest = call.digest ∧ r.isTerminal = false := by
  unfold resolve at h
  split_ifs at h with h1 h2 h3 h4
  · exact h.elim
  · exact h.elim
  · exact h.elim
  · exact h.elim
  · exact ⟨h, not_not.mp h2, by simpa using h3⟩

lemma getElem?_addRow_self {s : Sys} {r : Record} : (s.addRow r).rows[s.rows.length]? = some r := by
  rw [getElem?_addRow, if_neg (Nat.lt_irrefl _), if_pos rfl]

theorem step_consistent {s s' : Sys} {a : Action} {out : Output} (hs : Consistent s)
    (h : step s a = some (s', out)) : Consistent s' := by
  cases step_cases h with
  | tick d =>
    exact ⟨hs.unique, fun c call hc => Nat.le_add_right_of_le (hs.started c call hc),
      fun i r hr h0 => Nat.le_add_right_of_le (hs.expired i r hr h0), hs.digests, hs.effects⟩
  | begin c digest idle =>
    change Consistent (s.setPhase c ⟨digest, s.now, .inserting⟩ .inserting)
    exact hs.setPhase (Nat.le_refl _) fun i hn => hn.elim
  | blocked c call i hc hp hg =>
    exact hs.setPhase (hs.started c call hc) fun i hn => hn.elim
  | inserted c call hc hp hg =>
    refine (hs.addRow hg _ _ _).setPhase (hs.started c call hc) ?_
    rintro i rfl
    exact ⟨_, getElem?_addRow_self, rfl⟩
  | missed c call hc hp hg =>
    exact hs.setPhase (hs.started c call hc) fun i hn => hn.elim
  | resolved c call i r hc hp hg hr =>
    refine hs.setPhase (hs.started c call hc) ?_
    intro j hn
    obtain ⟨rfl, hd, -⟩ := names_resolve hn
    exact ⟨r, hr, hd⟩
  | lost c call a result hc ha hw hn hres =>
    refine hs.setPhase (hs.started c call hc) ?_
    intro j hj
    rcases hres with rfl | rfl <;> exact hj.elim
  | taken c call i r hc hp hr hu =>
    refine (hs.setRow (r.taken c call.start) hr hu rfl fun h0 => absurd hu h0).setPhase
      (hs.started c call hc) ?_
    rintro j rfl
    obtain ⟨q, hq, hd⟩ := hs.digests c call i hc (by rw [hp]; rfl)
    rw [hr, Option.some.injEq] at hq
    subst hq
    exact ⟨r.taken c call.start, (getElem?_setRow hr).trans (if_pos rfl), hd⟩
  | superseded c call i r hc hp hr hu he hg =>
    have hnow := hs.started c call hc
    have hi := (hs.setRow (r.superseded call.start) hr hu rfl
      fun _ => Nat.le_trans he hnow).addRow hg call.digest c call.start
    refine hi.setPhase hnow ?_
    rintro j rfl
    have hl : (s.setRow i (r.superseded call.start)).rows.length = s.rows.length := by
      simp [Sys.setRow]
    exact ⟨_, by rw [← hl]; exact getElem?_addRow_self, rfl⟩
  | completed c call i r o start hc hp hle hr hst hu =>
    have hi := hs.setRow (r.finished .COMPLETED o start) hr hu rfl fun h0 => absurd hu h0
    refine ⟨hi.unique, hi.started, hi.expired, hi.digests, ?_⟩
    intro j hj
    rcases List.mem_append.mp hj with hj | hj
    · exact hi.effects j hj
    · obtain rfl := List.mem_singleton.mp hj
      simpa [Sys.setRow] using (List.getElem?_eq_some_iff.mp hr).1
  | settled c call i r kind o start hk hc hp hle hr hst hu =>
    exact hs.setRow _ hr hu rfl fun h0 => absurd hu h0
  | rejected => exact hs

/-- A takeover does not meet a record its executor finished after the `SELECT` that
decided on the takeover. -/
def Undisturbed (s : Sys) : Action → Prop
  | .takeOver c => ∀ call i r, s.calls c = some call →
      call.phase = .takingOver i r.claimToken → s.rows[i]? = some r → r.supersededAt = none →
      r.isTerminal = false
  | _ => True

lemma not_terminal_of_inProgress {r : Record} (h : r.executionState = .IN_PROGRESS) :
    r.isTerminal = false := by
  simp [Record.isTerminal, h]

/-- A guarded statement keeps the state and the outcome of every finished record. -/
theorem step_keeps {s s' : Sys} {a : Action} {out : Output} (hg : Undisturbed s a)
    (h : step s a = some (s', out)) {j : RecordId} {q : Record} (hq : s.rows[j]? = some q)
    (ht : q.isTerminal = true) :
    ∃ q', s'.rows[j]? = some q' ∧ q'.executionState = q.executionState ∧
      q'.outcome = q.outcome := by
  have hj : j < s.rows.length := (List.getElem?_eq_some_iff.mp hq).1
  have hset : ∀ {i : RecordId} {r : Record} (r' : Record), s.rows[i]? = some r →
      (r.isTerminal = true → r'.executionState = r.executionState ∧ r'.outcome = r.outcome) →
      ∃ q', (s.setRow i r').rows[j]? = some q' ∧ q'.executionState = q.executionState ∧
        q'.outcome = q.outcome := by
    intro i r r' hr hk
    rw [getElem?_setRow hr]
    split_ifs with hij
    · subst hij
      rw [hr, Option.some.injEq] at hq
      subst hq
      exact ⟨r', rfl, hk ht⟩
    · exact ⟨q, hq, rfl, rfl⟩
  cases step_cases h with
  | tick | begin | blocked | missed | resolved | lost | rejected => exact ⟨q, hq, rfl, rfl⟩
  | inserted c call hc hp hgov =>
    exact ⟨q, (@getElem?_addRow s j _).trans ((if_pos hj).trans hq), rfl, rfl⟩
  | taken c call i r hc hp hr hu =>
    exact hset _ hr fun hrt => absurd hrt (by simp [hg call i r hc hp hr hu])
  | superseded c call i r hc hp hr hu he hgov =>
    obtain ⟨q', hq', hk⟩ := hset (r.superseded call.start) hr fun _ => ⟨rfl, rfl⟩
    have hj' : j < (s.setRow i (r.superseded call.start)).rows.length := by
      simpa [Sys.setRow] using hj
    exact ⟨q', getElem?_addRow.trans ((if_pos hj').trans hq'), hk⟩
  | completed c call i r o start hc hp hle hr hst hu =>
    exact hset _ hr fun hrt => absurd hrt (by simp [not_terminal_of_inProgress hst])
  | settled c call i r kind o start hk hc hp hle hr hst hu =>
    exact hset _ hr fun hrt => absurd hrt (by simp [not_terminal_of_inProgress hst])

/-- Each completed record committed one effect, every other record none. -/
def Committed (s : Sys) : Prop :=
  ∀ (i : RecordId) (r : Record), s.rows[i]? = some r →
    s.effects.count i = if r.executionState = .COMPLETED then 1 else 0

lemma Committed.setRow {s : Sys} (hs : Committed s) {i : RecordId} {r : Record} (r' : Record)
    (hr : s.rows[i]? = some r)
    (he : r'.executionState = .COMPLETED ↔ r.executionState = .COMPLETED) :
    Committed (s.setRow i r') := by
  intro j q hq
  rw [getElem?_setRow hr] at hq
  change s.effects.count j = _
  split_ifs at hq with h
  · subst h
    obtain rfl := Option.some.inj hq
    simp only [he, hs i r hr]
  · exact hs j q hq

lemma Committed.addRow {s : Sys} (hs : Committed s) (hb : ∀ i ∈ s.effects, i < s.rows.length)
    {r : Record} (hr : r.executionState = .IN_PROGRESS) : Committed (s.addRow r) := by
  intro j q hq
  rw [getElem?_addRow] at hq
  split_ifs at hq with h1 h2
  · exact hs j q hq
  · obtain rfl := Option.some.inj hq
    have hj : j ∉ s.effects := fun hj => h1 (hb j hj)
    change s.effects.count j = _
    rw [List.count_eq_zero.mpr hj, hr]
    rfl

theorem step_committed {s s' : Sys} {a : Action} {out : Output} (hc : Consistent s)
    (hs : Committed s) (hg : Undisturbed s a) (h : step s a = some (s', out)) :
    Committed s' := by
  cases step_cases h with
  | tick | begin | blocked | missed | resolved | lost | rejected => exact hs
  | inserted c call hcall hp hgov => exact hs.addRow hc.effects rfl
  | taken c call i r hcall hp hr hu =>
    have hnt := hg call i r hcall hp hr hu
    exact hs.setRow _ hr ⟨fun h => by simp [Record.taken] at h,
      fun h => by simp [Record.isTerminal, h] at hnt⟩
  | superseded c call i r hcall hp hr hu he hgov =>
    have hb : ∀ j ∈ s.effects, j < (s.setRow i (r.superseded call.start)).rows.length := by
      simpa [Sys.setRow] using hc.effects
    exact (hs.setRow (r.superseded call.start) hr Iff.rfl).addRow hb rfl
  | completed c call i r o start hcall hp hle hr hst hu =>
    intro j q hq
    rw [show _ = (s.setRow i _).rows[j]? from rfl, getElem?_setRow hr] at hq
    rw [List.count_append]
    split_ifs at hq with hij
    · subst hij
      obtain rfl := Option.some.inj hq
      simp [hs i r hr, hst, Record.finished]
    · have hji : j ∉ [i] := by simpa using Ne.symm hij
      rw [hs j q hq, List.count_eq_zero.mpr hji, Nat.add_zero]
  | settled c call i r kind o start hk hcall hp hle hr hst hu =>
    refine hs.setRow _ hr ⟨fun h => ?_, fun h => by simp [hst] at h⟩
    cases kind <;> simp_all [Record.finished, FinishKind.state]

/-- The call obtains a claim of the record in the step between the two states. -/
def Obtains (s s' : Sys) (c : Token) (call : Call) (i : RecordId) : Prop :=
  s'.calls c = some call ∧ call.phase = .done (.claim i c) ∧
    ∀ before, s.calls c = some before → before.phase ≠ call.phase

/-- Exactly-once over a run from `t` to `u`. -/
structure ExactlyOnce (t u : Sys) : Prop where
  /-- a finished record stays as it is while its window lasts -/
  kept : ∀ (i : RecordId) (r : Record), t.rows[i]? = some r → r.isTerminal = true →
    u.now < r.activeUntil → ∃ q, u.rows[i]? = some q ∧ q.executionState = r.executionState ∧
      q.outcome = r.outcome
  /-- a claim begun afterwards with the same digest can only end in the stored outcome -/
  replayed : ∀ (i : RecordId) (r : Record) (c : Token) (call : Call) (result : Result),
    t.rows[i]? = some r → r.isTerminal = true → r.supersededAt = none → t.calls c = none →
    u.now < r.activeUntil → u.calls c = some call → call.digest = r.requestSemanticDigest →
    call.phase = .done result → result = .replay r.outcome
  /-- at most one governed effect commits under a record -/
  once : ∀ i, u.effects.count i ≤ 1
  /-- within the window only the governing digest obtains a claim -/
  exclusive : ∀ (i : RecordId) (r : Record) (a : Action) (out : Output) (u' : Sys) (c : Token)
    (call : Call) (j : RecordId), u.rows[i]? = some r → r.supersededAt = none →
    u.now < r.activeUntil → step u a = some (u', out) → Obtains u u' c call j →
    call.digest = r.requestSemanticDigest
  /-- a finish under a token the record no longer carries raises StaleClaim -/
  fenced : ∀ (c : Token) (call : Call) (i : RecordId) (token : Token) (kind : FinishKind)
    (o : Outcome) (start : Time), u.calls c = some call →
    call.phase = .done (.claim i token) → start ≤ u.now →
    (∀ r, u.rows[i]? = some r → r.claimToken ≠ token) →
    step u (.finish c kind o start) = some (u, .staleClaim)

lemma step_now {s s' : Sys} {a : Action} {out : Output} (h : step s a = some (s', out)) :
    s.now ≤ s'.now := by
  cases step_cases h <;> first | exact Nat.le_refl _ | exact Nat.le_add_right _ _

lemma governing_eq {s : Sys} (hs : Consistent s) {i j : RecordId} {r : Record}
    (hr : s.rows[i]? = some r) (hu : r.supersededAt = none) (hg : s.governing = some j) :
    j = i := by
  obtain ⟨q, hq, hq0⟩ := governing_some hg
  exact hs.unique j i q r hq hr hq0 hu

lemma governing_ne_none {s : Sys} {i : RecordId} {r : Record} (hr : s.rows[i]? = some r)
    (hu : r.supersededAt = none) : s.governing ≠ none :=
  fun hg => governing_none hg hr hu

/-- In any interleaving, no call of another digest obtains a claim within the window. -/
theorem step_exclusive {s s' : Sys} (hs : Consistent s) {a : Action} {out : Output}
    (h : step s a = some (s', out)) {i j : RecordId} {r : Record} (hr : s.rows[i]? = some r)
    (hu : r.supersededAt = none) (hw : s.now < r.activeUntil) {c : Token} {call : Call}
    (ho : Obtains s s' c call j) : call.digest = r.requestSemanticDigest := by
  obtain ⟨hcall, hphase, hnew⟩ := ho
  have hother : ∀ {c' : Token} (call' : Call) (p : Phase), (∀ k t, p ≠ .done (.claim k t)) →
      (s.setPhase c' call' p).calls c = some call → False := by
    intro c' call' p hp hc
    rcases calls_setPhase hc with ⟨-, rfl⟩ | ⟨-, hc⟩
    · exact hp _ _ hphase
    · exact hnew call hc rfl
  cases step_cases h with
  | tick | rejected | completed | settled => exact absurd rfl (hnew call hcall)
  | begin c' digest idle =>
    exact (hother ⟨digest, s.now, .inserting⟩ .inserting (by simp) hcall).elim
  | blocked | missed => exact (hother _ _ (by simp) hcall).elim
  | inserted c' call' hc hp hg => exact absurd hg (governing_ne_none hr hu)
  | resolved c' call' k q hc hp hg hq =>
    refine (hother _ _ ?_ hcall).elim
    intro k t
    unfold resolve
    split_ifs <;> simp
  | lost c' call' a result hc ha hw' hn hres =>
    refine (hother _ _ ?_ hcall).elim
    rcases hres with rfl | rfl <;> simp
  | taken c' call' k q hc hp hq hq0 =>
    obtain rfl := hs.unique k i q r hq hr hq0 hu
    obtain ⟨q', hq', hd⟩ := hs.digests c' call' k hc (by rw [hp]; rfl)
    rcases calls_setPhase hcall with ⟨-, rfl⟩ | ⟨-, hc'⟩
    · rw [hr, Option.some.injEq] at hq'
      exact hq' ▸ hd.symm
    · exact absurd rfl (hnew call hc')
  | superseded c' call' k q hc hp hq hq0 he hg =>
    obtain rfl := hs.unique k i q r hq hr hq0 hu
    rw [hq, Option.some.injEq] at hr
    subst hr
    exact absurd (Nat.le_trans he (hs.started c' call' hc)) (Nat.not_le_of_lt hw)

/-- Where a call stands that began after the record was finished. -/
def Late (r : Record) (call : Call) : Prop :=
  call.phase = .inserting ∨ call.phase = .selecting ∨
    (call.phase = .done (.replay r.outcome) ∧ call.digest = r.requestSemanticDigest) ∨
    (call.phase = .done .keyReused ∧ call.digest ≠ r.requestSemanticDigest)

/-- The record `r` of position `i` as a later state shows it within its window. -/
def Settled (i : RecordId) (r : Record) (s : Sys) : Prop :=
  ∃ q, s.rows[i]? = some q ∧ q.isTerminal = true ∧ q.executionState = r.executionState ∧
    q.outcome = r.outcome ∧ q.requestSemanticDigest = r.requestSemanticDigest ∧
    q.activeUntil = r.activeUntil

lemma step_settled {s s' : Sys} {a : Action} {out : Output} (hg : Undisturbed s a)
    (h : step s a = some (s', out)) {i : RecordId} {r : Record} (hs : Settled i r s) :
    Settled i r s' := by
  obtain ⟨q, hq, ht, he, ho, hd, hw⟩ := hs
  obtain ⟨q', hq', he', ho'⟩ := step_keeps hg h hq ht
  obtain ⟨q'', hq'', hd', -, hw', -⟩ := step_writeOnce h hq
  rw [hq', Option.some.injEq] at hq''
  subst hq''
  refine ⟨q', hq', ?_, he'.trans he, ho'.trans ho, hd'.trans hd, hw'.trans hw⟩
  simpa [Record.isTerminal, he'] using ht

lemma resolve_late {r q : Record} {i : RecordId} {call : Call} (ht : q.isTerminal = true)
    (ho : q.outcome = r.outcome) (hd : q.requestSemanticDigest = r.requestSemanticDigest)
    (hw : call.start < q.activeUntil) : Late r { call with phase := resolve q i call } := by
  have hw' : ¬q.activeUntil ≤ call.start := Nat.not_le_of_lt hw
  unfold resolve
  rw [if_neg hw', ht, ho, hd]
  by_cases hdig : r.requestSemanticDigest = call.digest
  · exact .inr (.inr (.inl ⟨by simp [hdig], hdig.symm⟩))
  · exact .inr (.inr (.inr ⟨by simp [hdig], Ne.symm hdig⟩))

/-- A call that began after the record was finished stays on the path to its outcome. -/
theorem step_late {s s' : Sys} (hs : Consistent s) {a : Action} {out : Output}
    (h : step s a = some (s', out)) {i : RecordId} {r : Record} (hset : Settled i r s)
    (hw : s.now < r.activeUntil) {c : Token}
    (hl : ∀ call, s.calls c = some call → Late r call) :
    ∀ call, s'.calls c = some call → Late r call := by
  obtain ⟨q, hq, ht, he, ho, hd, haw⟩ := hset
  have hq0 : q.supersededAt = none := by
    by_contra h0
    exact absurd (hs.expired i q hq h0) (Nat.not_le_of_lt (haw ▸ hw))
  have hmove : ∀ {c' : Token} (call' : Call) (p : Phase),
      (c = c' → Late r { call' with phase := p }) →
      ∀ call, (s.setPhase c' call' p).calls c = some call → Late r call := by
    intro c' call' p hp call hc
    rcases calls_setPhase hc with ⟨hcc, rfl⟩ | ⟨-, hc⟩
    · exact hp hcc
    · exact hl call hc
  have hout : ∀ {c' : Token} {call' : Call}, s.calls c' = some call' → c = c' →
      call'.phase ≠ .inserting ∧ call'.phase ≠ .selecting →
      (∀ r, call'.phase ≠ .done r) → False := by
    rintro c' call' hc rfl hn hd
    rcases hl call' hc with h | h | ⟨h, -⟩ | ⟨h, -⟩
    · exact hn.1 h
    · exact hn.2 h
    · exact hd _ h
    · exact hd _ h
  cases step_cases h with
  | tick | rejected | completed | settled => exact hl
  | begin c' digest idle =>
    exact hmove ⟨digest, s.now, .inserting⟩ .inserting fun _ => .inl rfl
  | blocked c' call' k hc hp hg => exact hmove _ _ fun _ => .inr (.inl rfl)
  | inserted c' call' hc hp hg => exact absurd hg (governing_ne_none hq hq0)
  | missed c' call' hc hp hg => exact absurd hg (governing_ne_none hq hq0)
  | resolved c' call' k q' hc hp hg hq' =>
    obtain rfl := governing_eq hs hq hq0 hg
    rw [hq, Option.some.injEq] at hq'
    subst hq'
    refine hmove _ _ fun _ => resolve_late ht ho hd ?_
    exact haw ▸ Nat.lt_of_le_of_lt (hs.started c' call' hc) hw
  | lost c' call' a result hc ha hw' hn hres =>
    exact hmove _ _ fun hcc => (hout hc hcc hn hw').elim
  | taken c' call' k q' hc hp hq' hu' =>
    exact hmove _ (.done (.claim k c')) fun hcc =>
      (hout hc hcc (by simp [hp]) (by simp [hp])).elim
  | superseded c' call' k q' hc hp hq' hu' he' hg =>
    exact hmove _ (.done (.claim s.rows.length c')) fun hcc =>
      (hout hc hcc (by simp [hp]) (by simp [hp])).elim

theorem finish_stale {s : Sys} {c : Token} {call : Call} {i : RecordId} {token : Token}
    {kind : FinishKind} {o : Outcome} {start : Time} (hc : s.calls c = some call)
    (hp : call.phase = .done (.claim i token)) (hle : start ≤ s.now)
    (hr : ∀ r, s.rows[i]? = some r → r.claimToken ≠ token) :
    step s (.finish c kind o start) = some (s, .staleClaim) := by
  simp only [step, hc, hp, if_pos hle, finishStep]
  split
  · rfl
  · rename_i r hri
    rw [if_neg fun h => hr r hri h.1]

theorem reachable_consistent {guard : Sys → Action → Prop} {s : Sys}
    (h : scope.Reachable guard s) : Consistent s := by
  refine h.invariant consistent_init ?_
  intro s a s' out hs _ hstep
  exact step_consistent hs hstep

theorem reachable_committed {s : Sys} (h : scope.Reachable Undisturbed s) : Committed s := by
  refine (h.invariant (P := fun s => Consistent s ∧ Committed s)
    ⟨consistent_init, by simp [Committed, scope, Sys.init]⟩ ?_).2
  intro s a s' out hs hg hstep
  exact ⟨step_consistent hs.1 hstep, step_committed hs.1 hs.2 hg hstep⟩

lemma Committed.count_le {s : Sys} (hs : Committed s) (hc : Consistent s) (i : RecordId) :
    s.effects.count i ≤ 1 := by
  by_cases hi : i ∈ s.effects
  · rw [hs i _ (List.getElem?_eq_getElem (hc.effects i hi))]
    split_ifs <;> simp
  · rw [List.count_eq_zero.mpr hi]
    exact Nat.zero_le 1

/-- Along a guarded run a finished record stays settled, and the calls begun afterwards
stay on the path to its outcome. -/
theorem steps_settled {t u : Sys} (ht : Consistent t) (h : scope.Steps Undisturbed t u)
    {i : RecordId} {r : Record} (hr : t.rows[i]? = some r) (hterm : r.isTerminal = true) :
    Settled i r u ∧ ∀ c, t.calls c = none → u.now < r.activeUntil →
      ∀ call, u.calls c = some call → Late r call := by
  have hrun : Consistent u ∧ Settled i r u ∧ ∀ c, t.calls c = none → u.now < r.activeUntil →
      ∀ call, u.calls c = some call → Late r call := by
    refine h.preserves (P := fun u => Consistent u ∧ Settled i r u ∧ ∀ c, t.calls c = none →
      u.now < r.activeUntil → ∀ call, u.calls c = some call → Late r call)
      ?_ ⟨ht, ⟨r, hr, hterm, rfl, rfl, rfl, rfl⟩, ?_⟩
    · rintro s a s' out ⟨hs, hset, hl⟩ hg hstep
      refine ⟨step_consistent hs hstep, step_settled hg hstep hset, ?_⟩
      intro c hc hw
      have hw' : s.now < r.activeUntil := Nat.lt_of_le_of_lt (step_now hstep) hw
      exact step_late hs hstep hset hw' (hl c hc hw')
    · intro c hc _ call hcall
      exact absurd (hc.symm.trans hcall) (by simp)
  exact hrun.2

/-- A takeover that meets a finished record reopens it and discards its outcome. -/
theorem takeOver_reopens {t u : Sys} {a : Action} {out : Output}
    (h : step t a = some (u, out)) (hg : ¬Undisturbed t a) :
    ∃ (i : RecordId) (r q : Record), t.rows[i]? = some r ∧ r.isTerminal = true ∧
      u.rows[i]? = some q ∧ q.executionState = .IN_PROGRESS ∧ q.outcome = none := by
  cases a with
  | takeOver c =>
    simp only [Undisturbed, not_forall] at hg
    obtain ⟨call, i, r, hc, hp, hr, hu, ht⟩ := hg
    simp only [step, hc, hp, takeOverStep, hr, if_true, hu, Option.isSome_none, if_false,
      Option.some.injEq, Prod.mk.injEq, Bool.false_eq_true] at h
    obtain ⟨rfl, -⟩ := h
    exact ⟨i, r, r.taken c call.start, hr, by simpa using ht,
      (getElem?_setRow hr).trans (if_pos rfl), rfl, rfl⟩
  | tick | begin | insert | select | supersede | finish => exact absurd trivial hg

/-- Exactly-once holds over every run in which no takeover meets a record finished behind
its `SELECT`; and the first takeover that does meet one reopens it and discards its outcome. -/
theorem exactly_once (t u : Sys) (ht : scope.Reachable Undisturbed t)
    (h : scope.Steps Undisturbed t u) :
    ExactlyOnce t u ∧ ∀ a v out, scope.step u a = some (v, out) → ¬Undisturbed u a →
      ∃ (i : RecordId) (r q : Record), u.rows[i]? = some r ∧ r.isTerminal = true ∧
        v.rows[i]? = some q ∧ q.executionState = .IN_PROGRESS ∧ q.outcome = none := by
  refine ⟨?_, fun a v out hstep hg => takeOver_reopens hstep hg⟩
  have htc := reachable_consistent ht
  have huc : Consistent u := reachable_consistent (System.Steps.trans ht h)
  have hue : Committed u := reachable_committed (System.Steps.trans ht h)
  refine ⟨?_, ?_, hue.count_le huc, ?_, ?_⟩
  · intro i r hr hterm _
    obtain ⟨q, hq, -, he, ho, -⟩ := (steps_settled htc h hr hterm).1
    exact ⟨q, hq, he, ho⟩
  · intro i r c call result hr hterm _ hc hw hcall hd hres
    rcases (steps_settled htc h hr hterm).2 c hc hw call hcall with hp | hp | ⟨hp, -⟩ | ⟨-, hne⟩
    · exact absurd (hres.symm.trans hp) (by simp)
    · exact absurd (hres.symm.trans hp) (by simp)
    · exact Phase.done.inj (hres.symm.trans hp)
    · exact absurd hd hne
  · intro i r a out u' c call j hr hu hw hstep ho
    exact step_exclusive huc hstep hr hu hw ho
  · intro c call i token kind o start hc hp hle hr
    exact finish_stale hc hp hle hr

/-- The executor outlives its lease and completes between the `SELECT` and the `UPDATE` of
the call that takes over. -/
def lateCompletion : List Action :=
  [.begin 0 "request", .insert 0, .tick CLAIM_LEASE, .begin 1 "request", .insert 1, .select 1,
   .finish 0 .complete ⟨201, none, some "CASE", some "case-1", by decide⟩ CLAIM_LEASE]

def completedRecord : Record :=
  (Record.fresh "request" 0 0).finished .COMPLETED
    ⟨201, none, some "CASE", some "case-1", by decide⟩ CLAIM_LEASE

def completedState : Sys := (scope.exec Sys.init lateCompletion).getD Sys.init

def reopenedState : Sys := (scope.exec completedState [.takeOver 1]).getD Sys.init

def replay : List Action := [.begin 2 "request", .insert 2, .select 2]

def replayedState : Sys := (scope.exec completedState replay).getD Sys.init

theorem exactly_once_replay :
    ExactlyOnce completedState replayedState ∧
      ∃ (i : RecordId) (r q : Record), completedState.rows[i]? = some r ∧
        r.isTerminal = true ∧ reopenedState.rows[i]? = some q ∧
        q.executionState = .IN_PROGRESS ∧ q.outcome = none := by
  have ht : scope.exec Sys.init lateCompletion = some completedState := rfl
  have hr : scope.exec completedState replay = some replayedState := rfl
  have hu : scope.step completedState (.takeOver 1) = some (reopenedState, .ok) := rfl
  have hguard : ∀ a ∈ lateCompletion ++ replay, ∀ s, Undisturbed s a := by
    simp [lateCompletion, replay, Undisturbed]
  have hreach : scope.Reachable Undisturbed completedState :=
    System.steps_of_exec (fun a ha => hguard a (List.mem_append_left _ ha)) ht
  have hrun : scope.Steps Undisturbed completedState replayedState :=
    System.steps_of_exec (fun a ha => hguard a (List.mem_append_right _ ha)) hr
  refine ⟨(exactly_once _ _ hreach hrun).1, (exactly_once _ _ hreach (.refl _)).2 _ _ _ hu ?_⟩
  intro h
  have hterm := h ⟨"request", CLAIM_LEASE, .takingOver 0 0⟩ 0 completedRecord
    (by decide) (by decide) (by decide) (by decide)
  exact absurd hterm (by decide)

/-- Unrestricted interleavings lose a completed record. -/
theorem not_exactly_once :
    ¬∀ t u, scope.Reachable System.anyStep t → scope.Steps System.anyStep t u →
      ExactlyOnce t u := by
  intro hall
  have ht : scope.exec Sys.init lateCompletion = some completedState := rfl
  have hu : scope.exec completedState [.takeOver 1] = some reopenedState := rfl
  have h := hall completedState reopenedState
    (System.steps_of_exec (fun _ _ _ => trivial) ht) (System.steps_of_exec (fun _ _ _ => trivial) hu)
  have hrow : completedState.rows[0]? = some completedRecord := by decide
  obtain ⟨q, hq, he, -⟩ := h.kept 0 completedRecord hrow (by decide) (by decide)
  have hq' : (reopenedState.rows[0]?).map Record.executionState = some .IN_PROGRESS := by decide
  rw [hq, Option.map_some, he] at hq'
  exact absurd hq' (by decide)

end TrustLens.Backend.Idempotency
