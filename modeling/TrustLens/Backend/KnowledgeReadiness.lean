import TrustLens.Backend.KnowledgeSeam
import TrustLens.Lib.Except

/-!
# What readiness and activation keep

What one transaction can change of the bundles, the activations and the pointers, what therefore
holds in every state of a run, and what a call of readiness that returned READY has read.
-/

namespace TrustLens.Backend.KnowledgeSeam

open Loader (Directory Libraries LoadedKnowledge loadBundle)
open Idempotency (ExecutionState FinishKind Outcome Record Time Token)

variable {F : Functions} {db db' : Db} {deployment : String} {q : ActivationRequest} {c : Claim}
  {now : Time} {raises : Option PyException} {response : Response}

/-! ### What a transaction can change -/

/-- The bundles, activations and pointers are left alone. -/
structure Keeps (db db' : Db) : Prop where
  references : db'.references = db.references
  activations : db'.activations = db.activations
  deployments : db'.deployments = db.deployments

namespace Keeps

lemma refl (db : Db) : Keeps db db := ⟨rfl, rfl, rfl⟩

lemma trans {db'' : Db} (h : Keeps db db') (h' : Keeps db' db'') : Keeps db db'' :=
  ⟨h'.references.trans h.references, h'.activations.trans h.activations,
    h'.deployments.trans h.deployments⟩

lemma setRows (db : Db) (scope : String × String) (rows : List Record) : Keeps db (db.setRows scope rows) :=
  ⟨rfl, rfl, rfl⟩

lemma append (db : Db) (event : AuditEntry) : Keeps db (db.append event) := ⟨rfl, rfl, rfl⟩

end Keeps

lemma appendAudit_ok {event : AuditEntry} (h : appendAudit db raises event = .ok db') :
    db' = db.append event := by
  unfold appendAudit at h
  split at h
  · cases h
  · exact (Except.ok.inj h).symm

/-- A claim is finished once, by the token that holds it. -/
lemma finish_ok {scope : String × String} {kind : FinishKind} {o : Outcome}
    (h : finish db scope c kind o now = .ok db') :
    ∃ r, (db.idempotency scope)[c.recordId]? = some r ∧ db' = db.setRows scope
      ((db.idempotency scope).set c.recordId (r.finished kind.state o now)) := by
  unfold finish at h
  split at h
  · cases h
  · rename_i r hr
    split_ifs at h with hlive hsuperseded
    exact ⟨r, hr, (Except.ok.inj h).symm⟩

/-- A refusal is a stored failure, and changes nothing else. -/
structure Refused (F : Functions) (q : ActivationRequest) (c : Claim) (db db' : Db)
    (response : Response) : Prop where
  keeps : Keeps db db'
  code : ∃ code, response = .error code []
  stored : ∃ r o now, (db.idempotency (q.scope F))[c.recordId]? = some r ∧ o.errorCode.isSome ∧
    db'.idempotency = Function.update db.idempotency (q.scope F)
      ((db.idempotency (q.scope F)).set c.recordId (r.finished .FAILED_TERMINAL o now))

lemma outcomeOf_errorCode (code : String) : (outcomeOf code).errorCode.isSome := by
  unfold outcomeOf
  split_ifs <;> rfl

lemma reject_ok {reason code : String}
    (h : reject F db deployment q c now raises reason code = .ok (db', response)) :
    Refused F q c db db' response := by
  unfold reject at h
  obtain ⟨db₁, haudit, h⟩ := bind_ok h
  obtain ⟨db₂, hfinish, h⟩ := bind_ok h
  obtain ⟨rfl, rfl⟩ := Prod.mk.inj (Except.ok.inj h)
  obtain rfl := appendAudit_ok haudit
  obtain ⟨r, hr, rfl⟩ := finish_ok hfinish
  exact ⟨(Keeps.append _ _).trans (Keeps.setRows _ _ _), ⟨code, rfl⟩,
    ⟨r, outcomeOf code, now, hr, outcomeOf_errorCode code, rfl⟩⟩

/-- The activation of a bundle: the pointer was where the request expects it, the bundle is not
withdrawn, and its record is new. -/
structure Activated (F : Functions) (deployment : String) (q : ActivationRequest) (c : Claim)
    (entry : ReleaseEntry) (knowledge : LoadedKnowledge) (recordId : String) (now : Time)
    (db db' : Db) (response : Response) (state : DeploymentState) : Prop where
  pointer : db.deployments deployment = some state
  expected : ∀ e, q.expected = some e → e = state.activeBundleContentDigest
  eligible : ∀ r, db.references q.digest = some r → r.governanceEligibility = .ELIGIBLE
  fresh : db.activation recordId = none
  keeps : Keeps (((db.register q.digest (reference entry knowledge)).addActivation
    (newRecord deployment q now state.activeBundleContentDigest recordId)).point deployment q.digest
      recordId) db'
  response : response = .accepted
    (_activation_view (newRecord deployment q now state.activeBundleContentDigest recordId))
  stored : ∃ r o, (db.idempotency (q.scope F))[c.recordId]? = some r ∧ o.errorCode = none ∧
    o.resourceId = some recordId ∧
    db'.idempotency = Function.update db.idempotency (q.scope F)
      ((db.idempotency (q.scope F)).set c.recordId (r.finished .COMPLETED o now))

@[simp] lemma register_idempotency (db : Db) (digest : Digest) (r : BundleReference) :
    (db.register digest r).idempotency = db.idempotency := by
  unfold Db.register
  split <;> rfl

@[simp] lemma register_activations (db : Db) (digest : Digest) (r : BundleReference) :
    (db.register digest r).activations = db.activations := by
  unfold Db.register
  split <;> rfl

@[simp] lemma register_deployments (db : Db) (digest : Digest) (r : BundleReference) :
    (db.register digest r).deployments = db.deployments := by
  unfold Db.register
  split <;> rfl

lemma point_self (db : Db) (deployment : String) (digest : Digest) (record : String) :
    (db.point deployment digest record).deployments deployment =
      some ⟨.ACTIVE, some digest, some record⟩ := Function.update_self _ _ _

lemma point_of_ne (db : Db) {deployment other : String} (h : other ≠ deployment) (digest : Digest)
    (record : String) : (db.point deployment digest record).deployments other = db.deployments other :=
  Function.update_of_ne h _ _

lemma withdraw_self (db : Db) (digest : Digest) : (db.withdraw digest).references digest =
    (db.references digest).map fun r => { r with governanceEligibility := .WITHDRAWN } :=
  Function.update_self _ _ _

lemma withdraw_of_ne (db : Db) {digest other : Digest} (h : other ≠ digest) :
    (db.withdraw digest).references other = db.references other := Function.update_of_ne h _ _

/-- What the transaction of `_activate` does when it commits. -/
lemma activateTx_ok {entry : ReleaseEntry} {knowledge : LoadedKnowledge} {recordId : String}
    (h : activateTx F db deployment q c now raises entry knowledge recordId = .ok (db', response)) :
    Refused F q c db db' response ∨
      Refused F q c (db.register q.digest (reference entry knowledge)) db' response ∨
      ∃ state, Activated F deployment q c entry knowledge recordId now db db' response state := by
  unfold activateTx at h
  split at h
  · exact .inl (reject_ok h)
  · rename_i state hstate
    split_ifs at h with hexpected
    · exact .inl (reject_ok h)
    · refine .inr ?_
      simp only at h
      split at h
      · cases h
      · rename_i r hr
        split at h
        · exact .inl (reject_ok h)
        · exact .inl (reject_ok h)
        · rename_i heligible
          split_ifs at h with hidentity
          · exact .inl (reject_ok h)
          · refine .inr ⟨state, ?_⟩
            unfold write at h
            split_ifs at h with hfresh
            obtain ⟨db₁, haudit, h⟩ := bind_ok h
            obtain ⟨db₂, hfinish, h⟩ := bind_ok h
            obtain ⟨rfl, rfl⟩ := Prod.mk.inj (Except.ok.inj h)
            obtain rfl := appendAudit_ok haudit
            obtain ⟨row, hrow, rfl⟩ := finish_ok hfinish
            have hrow' : (db.idempotency (q.scope F))[c.recordId]? = some row := by
              rw [← register_idempotency db q.digest (reference entry knowledge)]
              exact hrow
            refine ⟨hstate, ?_, ?_, ?_, (Keeps.append _ _).trans (Keeps.setRows _ _ _), rfl, ?_⟩
            · intro e he
              rw [he] at hexpected
              simpa using hexpected
            · intro r' hr'
              unfold Db.register at hr
              simp only [hr'] at hr
              rw [← heligible, Option.some.inj hr]
            · simpa [Db.activation] using hfresh
            · refine ⟨row, ⟨202, none, some "knowledge_activation_record", some recordId, by decide⟩,
                hrow', rfl, rfl, ?_⟩
              simp [Db.setRows, Db.append, Db.point, Db.addActivation, FinishKind.state]

/-! ### What a step of a call of `_activate` does -/

variable {w w' : World} {id : CallId} {call : ActivationCall} {delivery : Delivery} {recordId : String}

/-- The next tables, process and phase of a call, by its phase. -/
inductive Advances (F : Functions) (w : World) (id : CallId) (call : ActivationCall)
    (delivery : Delivery) : Db → Process → ActivationPhase → Prop where
  | claimed (hphase : call.phase = .claiming) :
      Advances F w id call delivery (claimTx F w.db call.request id w.now).1
        (w.processes call.process) (claimTx F w.db call.request id w.now).2
  | unclaimed (db : Db) (hphase : call.phase = .claiming)
      (hdb : db = w.db ∨ db = (claimTx F w.db call.request id w.now).1) :
      Advances F w id call delivery db (w.processes call.process)
        (.answered (.error "DEPENDENCY_UNAVAILABLE" []))
  | replayed (resourceId : Option String) (hphase : call.phase = .replaying resourceId) :
      Advances F w id call delivery w.db (w.processes call.process) (replayed w.db resourceId)
  | unread (resourceId : Option String) (hphase : call.phase = .replaying resourceId) :
      Advances F w id call delivery w.db (w.processes call.process) (.raised .Other)
  | validated (c : Claim) (phase : ActivationPhase) (hphase : call.phase = .validating c)
      (hnext : (∃ entry knowledge, phase = .activating c entry knowledge) ∨
        (∃ reason, phase = .rejecting c reason) ∨ ∃ e, phase = .raised e) :
      Advances F w id call delivery w.db
        (prevalidate F.libraries (w.processes call.process) call.request.digest).1 phase
  | undone (c : Claim) (phase : ActivationPhase)
      (hphase : (∃ reason, call.phase = .rejecting c reason) ∨
        ∃ entry knowledge, call.phase = .activating c entry knowledge)
      (hnext : phase = .releasing c ∨ phase = .answered (.error "IDEMPOTENCY_IN_PROGRESS" []) ∨
        ∃ e, phase = .raised e) :
      Advances F w id call delivery w.db (w.processes call.process) phase
  | refused (c : Claim) (before db : Db) (response : Response) (phase : ActivationPhase)
      (hphase : (∃ reason, call.phase = .rejecting c reason) ∨
        ∃ entry knowledge, call.phase = .activating c entry knowledge)
      (hbefore : before = w.db ∨ ∃ digest r, r.governanceEligibility = .ELIGIBLE ∧
        before = w.db.register digest r)
      (hrefused : Refused F call.request c before db response)
      (hnext : phase = .answered response ∨ phase = .releasing c) :
      Advances F w id call delivery db (w.processes call.process) phase
  | activated (c : Claim) (entry : ReleaseEntry) (knowledge : LoadedKnowledge) (recordId : String)
      (db : Db) (response : Response) (state : DeploymentState) (phase : ActivationPhase)
      (hphase : call.phase = .activating c entry knowledge)
      (hactivated : Activated F (w.processes call.process).deploymentRef call.request c entry
        knowledge recordId w.now w.db db response state)
      (hnext : phase = .answered response ∨ (phase = .releasing c ∧ delivery = .unconfirmed)) :
      Advances F w id call delivery db (w.processes call.process) phase
  | released (c : Claim) (db : Db) (hphase : call.phase = .releasing c)
      (hdb : db = w.db ∨ ∃ r o, (w.db.idempotency (call.request.scope F))[c.recordId]? = some r ∧
        db = w.db.setRows (call.request.scope F) ((w.db.idempotency (call.request.scope F)).set
          c.recordId (r.finished .RELEASED o w.now))) :
      Advances F w id call delivery db (w.processes call.process)
        (.answered (.error "DEPENDENCY_UNAVAILABLE" []))

/-- A transaction under a claim that left the tables alone. -/
lemma after_of_not_done (c : Claim) {seen : Seen TxError Response} (h : ∀ r, seen ≠ .done r) :
    after c seen = .releasing c ∨ after c seen = .answered (.error "IDEMPOTENCY_IN_PROGRESS" []) ∨
      ∃ e, after c seen = .raised e := by
  cases seen with
  | done r => exact absurd rfl (h r)
  | fault => exact .inl rfl
  | error e =>
    cases e with
    | psycopg => exact .inl rfl
    | staleClaim => exact .inr (.inl rfl)
    | raised e => exact .inr (.inr ⟨e, rfl⟩)

/-- A call that leaves its process as it is. -/
lemma setProcess_self (w : World) (db : Db) (p : ProcessId) :
    (w.setDb db).setProcess p (w.processes p) = w.setDb db := by
  rw [World.setProcess, show w.processes p = (w.setDb db).processes p from rfl,
    Function.update_eq_self]

lemma unconfirmed_of_fault {db db' : Db} {tx : Except TxError (Db × Response)} {r : Response}
    (htx : tx = .ok (db', r)) (h : deliver db tx delivery = (db', .fault)) (hne : db' ≠ db) :
    delivery = .unconfirmed := by
  subst htx
  cases delivery with
  | committed => exact absurd (Prod.mk.inj h).2 nofun
  | rolledBack => exact absurd (Prod.mk.inj h).1.symm hne
  | unconfirmed => rfl

/-- An activation changes the tables. -/
lemma Activated.ne {entry : ReleaseEntry} {knowledge : LoadedKnowledge} {state : DeploymentState}
    (h : Activated F deployment q c entry knowledge recordId now db db' response state) : db' ≠ db := by
  rintro rfl
  have hlength := congrArg List.length h.keeps.activations
  simp [Db.point, Db.addActivation] at hlength

lemma activateStep_advances (h : activateStep F w id call delivery raises recordId = some w') :
    ∃ db process phase, Advances F w id call delivery db process phase ∧
      w' = ((w.setDb db).setProcess call.process process).setActivation id
        { call with phase := phase } := by
  unfold activateStep at h
  simp only at h
  split at h
  · rename_i hphase
    obtain rfl := Option.some.inj h
    cases delivery with
    | committed =>
      refine ⟨_, _, _, .claimed hphase, ?_⟩
      rw [setProcess_self]
    | rolledBack =>
      refine ⟨_, _, _, .unclaimed w.db hphase (.inl rfl), ?_⟩
      rw [setProcess_self]
      rfl
    | unconfirmed =>
      refine ⟨_, _, _, .unclaimed _ hphase (.inr rfl), ?_⟩
      rw [setProcess_self]
  · rename_i resourceId hphase
    obtain rfl := Option.some.inj h
    split_ifs with hdelivery
    · refine ⟨_, _, _, .replayed resourceId hphase, ?_⟩
      rw [setProcess_self]
      rfl
    · refine ⟨_, _, _, .unread resourceId hphase, ?_⟩
      rw [setProcess_self]
      rfl
  · rename_i c hphase
    obtain rfl := Option.some.inj h
    refine ⟨w.db, _, _, .validated c _ hphase ?_, rfl⟩
    split
    · exact .inl ⟨_, _, rfl⟩
    · exact .inr (.inl ⟨_, rfl⟩)
    · exact .inr (.inr ⟨_, rfl⟩)
  · rename_i c reason hphase
    obtain rfl := Option.some.inj h
    have hrunning : (∃ reason, call.phase = .rejecting c reason) ∨
        ∃ entry knowledge, call.phase = .activating c entry knowledge := .inl ⟨reason, hphase⟩
    rcases deliver_cases w.db (reject F w.db (w.processes call.process).deploymentRef call.request c
      w.now raises reason "KNOWLEDGE_NOT_ELIGIBLE") delivery with
      ⟨seen, hseen, hdone⟩ | ⟨db', r, seen, htx, hseen, hr⟩
    · refine ⟨w.db, _, _, .undone c _ hrunning (after_of_not_done c hdone), ?_⟩
      rw [hseen, setProcess_self]
    · refine ⟨db', _, after c seen, .refused c w.db db' r _ hrunning (.inl rfl) (reject_ok htx) ?_, ?_⟩
      · rcases hr with rfl | rfl
        · exact .inl rfl
        · exact .inr rfl
      · rw [hseen, setProcess_self]
  · rename_i c entry knowledge hphase
    obtain rfl := Option.some.inj h
    have hrunning : (∃ reason, call.phase = .rejecting c reason) ∨
        ∃ entry knowledge, call.phase = .activating c entry knowledge :=
      .inr ⟨entry, knowledge, hphase⟩
    rcases deliver_cases w.db (activateTx F w.db (w.processes call.process).deploymentRef call.request
      c w.now raises entry knowledge recordId) delivery with
      ⟨seen, hseen, hdone⟩ | ⟨db', r, seen, htx, hseen, hr⟩
    · refine ⟨w.db, _, _, .undone c _ hrunning (after_of_not_done c hdone), ?_⟩
      rw [hseen, setProcess_self]
    · have hnext : after c seen = .answered r ∨ after c seen = .releasing c := by
        rcases hr with rfl | rfl
        · exact .inl rfl
        · exact .inr rfl
      refine ⟨db', _, after c seen, ?_, by rw [hseen, setProcess_self]⟩
      rcases activateTx_ok htx with href | href | ⟨state, hact⟩
      · exact .refused c w.db db' r _ hrunning (.inl rfl) href hnext
      · exact .refused c _ db' r _ hrunning (.inr ⟨_, _, rfl, rfl⟩) href hnext
      · refine .activated c entry knowledge recordId db' r state _ hphase hact ?_
        rcases hr with rfl | rfl
        · exact .inl rfl
        · exact .inr ⟨rfl, unconfirmed_of_fault htx hseen hact.ne⟩
  · rename_i c hphase
    obtain rfl := Option.some.inj h
    rcases deliver_cases w.db ((finish w.db (call.request.scope F) c .release
      (failed 503 "DEPENDENCY_UNAVAILABLE" (by decide)) w.now).map (·, ())) delivery with
      ⟨seen, hseen, -⟩ | ⟨db', r, seen, htx, hseen, -⟩
    · refine ⟨w.db, _, _, .released c w.db hphase (.inl rfl), ?_⟩
      rw [hseen, setProcess_self]
    · refine ⟨db', _, _, .released c db' hphase (.inr ?_), ?_⟩
      · cases hfinish : finish w.db (call.request.scope F) c .release
          (failed 503 "DEPENDENCY_UNAVAILABLE" (by decide)) w.now with
        | error e =>
          rw [hfinish] at htx
          cases htx
        | ok db₁ =>
          rw [hfinish] at htx
          obtain rfl : db₁ = db' := (Prod.mk.inj (Except.ok.inj htx)).1
          obtain ⟨r, hr, hdb⟩ := finish_ok hfinish
          exact ⟨r, _, hr, hdb⟩
      · rw [hseen, setProcess_self]
  · cases h
  · cases h

/-! ### What a step does to the tables -/

/-- Bundles are registered and withdrawn, and activations happen. -/
inductive Touches (F : Functions) (db db' : Db) : Prop where
  | kept (h : Keeps db db')
  | registered (digest : Digest) (r : BundleReference) (h : Keeps (db.register digest r) db')
  | withdrawn (digest : Digest) (h : Keeps (db.withdraw digest) db')
  | activated (deployment : String) (q : ActivationRequest) (c : Claim) (entry : ReleaseEntry)
      (knowledge : LoadedKnowledge) (recordId : String) (now : Time) (response : Response)
      (state : DeploymentState)
      (h : Activated F deployment q c entry knowledge recordId now db db' response state)

lemma Refused.touches {before : Db} (hbefore : before = db ∨ ∃ digest r,
    r.governanceEligibility = .ELIGIBLE ∧ before = db.register digest r)
    (h : Refused F q c before db' response) : Touches F db db' := by
  rcases hbefore with rfl | ⟨digest, r, -, rfl⟩
  · exact .kept h.keeps
  · exact .registered digest r h.keeps

lemma claimTx_keeps (F : Functions) (db : Db) (q : ActivationRequest) (token : Token) (now : Time) :
    Keeps db (claimTx F db q token now).1 := by
  unfold claimTx
  split_ifs
  · exact .refl db
  · split
    · exact Keeps.setRows _ _ _
    · exact .refl db
    · exact .refl db
    · exact .refl db

lemma Advances.touches {db : Db} {process : Process} {phase : ActivationPhase}
    (h : Advances F w id call delivery db process phase) : Touches F w.db db := by
  cases h with
  | claimed hphase => exact .kept (claimTx_keeps F _ _ _ _)
  | unclaimed _ hphase hdb =>
    rcases hdb with rfl | rfl
    · exact .kept (.refl _)
    · exact .kept (claimTx_keeps F _ _ _ _)
  | replayed | unread | validated | undone => exact .kept (.refl _)
  | refused c before _ response _ hphase hbefore hrefused hnext => exact hrefused.touches hbefore
  | activated c entry knowledge recordId _ response state _ hphase hactivated hnext =>
    exact .activated _ _ c entry knowledge recordId _ response state hactivated
  | released c _ hphase hdb =>
    rcases hdb with rfl | ⟨r, o, -, rfl⟩
    · exact .kept (.refl _)
    · exact .kept (Keeps.setRows _ _ _)

lemma readStep_db {id : CallId} {call : ReadingCall} (h : readStep F w id call = some w') :
    w'.db = w.db := by
  unfold readStep at h
  simp only at h
  split at h
  all_goals cases h
  all_goals rfl

lemma step_touches {a : Action} {out : Option Response} (h : step F w a = some (w', out)) :
    Touches F w.db w'.db := by
  cases a with
  | tick | writeStore | writeReleases | verify =>
    obtain ⟨rfl, -⟩ := Prod.mk.inj (Option.some.inj h)
    exact .kept (.refl _)
  | withdraw digest =>
    obtain ⟨rfl, -⟩ := Prod.mk.inj (Option.some.inj h)
    exact .withdrawn digest (.refl _)
  | beginReading id p =>
    rw [step] at h
    split at h
    · obtain ⟨rfl, -⟩ := Prod.mk.inj (Option.some.inj h)
      exact .kept (.refl _)
    · cases h
  | read id fails =>
    rw [step] at h
    split at h
    · cases h
    · obtain ⟨w₁, hread, hw⟩ := Option.map_eq_some_iff.mp h
      obtain rfl := (Prod.mk.inj hw).1
      split_ifs
      · exact .kept (.refl _)
      · rw [readStep_db hread]
        exact .kept (.refl _)
  | request id p principal roles key body =>
    rw [step] at h
    split at h
    · cases h
    · split at h
      all_goals
        obtain ⟨rfl, -⟩ := Prod.mk.inj (Option.some.inj h)
        exact .kept (.refl _)
  | activate id delivery raises recordId =>
    rw [step] at h
    split at h
    · cases h
    · obtain ⟨w₁, hstep, hw⟩ := Option.map_eq_some_iff.mp h
      obtain rfl := (Prod.mk.inj hw).1
      obtain ⟨db, process, phase, hadvances, rfl⟩ := activateStep_advances hstep
      exact hadvances.touches

/-! ### What only grows -/

/-- Bundles and activations stay, and a bundle that is eligible was so before. -/
structure Grows (db db' : Db) : Prop where
  references : ∀ digest r, db.references digest = some r → ∃ r', db'.references digest = some r' ∧
    r'.bundleVersion = r.bundleVersion ∧ r'.manifestSchemaVersion = r.manifestSchemaVersion ∧
    (r'.governanceEligibility = .ELIGIBLE → r.governanceEligibility = .ELIGIBLE)
  activations : ∀ id r, db.activation id = some r → db'.activation id = some r

namespace Grows

lemma refl (db : Db) : Grows db db := ⟨fun _ r h => ⟨r, h, rfl, rfl, id⟩, fun _ _ h => h⟩

lemma trans {db'' : Db} (h : Grows db db') (h' : Grows db' db'') : Grows db db'' := by
  refine ⟨fun digest r hr => ?_, fun id r hr => h'.activations id r (h.activations id r hr)⟩
  obtain ⟨r', hr', hversion, hmanifest, heligible⟩ := h.references digest r hr
  obtain ⟨r'', hr'', hversion', hmanifest', heligible'⟩ := h'.references digest r' hr'
  exact ⟨r'', hr'', hversion'.trans hversion, hmanifest'.trans hmanifest, heligible ∘ heligible'⟩

end Grows

lemma Keeps.grows (h : Keeps db db') : Grows db db' := by
  refine ⟨fun digest r hr => ⟨r, by rw [h.references, hr], rfl, rfl, id⟩, fun id r hr => ?_⟩
  rw [Db.activation, h.activations]
  exact hr

lemma grows_register (db : Db) (digest : Digest) (reference : BundleReference) :
    Grows db (db.register digest reference) := by
  refine ⟨fun d r hr => ⟨r, ?_, rfl, rfl, id⟩, fun id r hr => ?_⟩
  · unfold Db.register
    split
    · exact hr
    · rename_i hnone
      have hne : d ≠ digest := by
        rintro rfl
        rw [hnone] at hr
        cases hr
      rw [← hr]
      exact Function.update_of_ne hne _ _
  · rw [Db.activation, register_activations]
    exact hr

lemma grows_withdraw (db : Db) (digest : Digest) : Grows db (db.withdraw digest) := by
  refine ⟨fun d r hr => ?_, fun _ _ hr => hr⟩
  by_cases hd : d = digest
  · subst hd
    refine ⟨{ r with governanceEligibility := .WITHDRAWN }, ?_, rfl, rfl, nofun⟩
    rw [withdraw_self, hr]
    rfl
  · exact ⟨r, by rw [withdraw_of_ne db hd, hr], rfl, rfl, id⟩

lemma grows_addActivation (db : Db) (record : ActivationRecord) : Grows db (db.addActivation record) := by
  refine ⟨fun _ r hr => ⟨r, hr, rfl, rfl, id⟩, fun id r hr => ?_⟩
  rw [Db.activation, Db.addActivation, List.find?_append, show db.activations.find? _ = some r from hr]
  rfl

lemma Touches.grows (h : Touches F db db') : Grows db db' := by
  cases h with
  | kept h => exact h.grows
  | registered digest r h => exact (grows_register db digest r).trans h.grows
  | withdrawn digest h => exact (grows_withdraw db digest).trans h.grows
  | activated deployment q c entry knowledge recordId now response state h =>
    refine Grows.trans ?_ h.keeps.grows
    have hadded := (grows_register db q.digest (reference entry knowledge)).trans
      (grows_addActivation _ (newRecord deployment q now state.activeBundleContentDigest recordId))
    exact ⟨hadded.references, hadded.activations⟩

/-! ### The foreign keys of a pointer -/

/-- A pointer names a registered bundle and a recorded activation. -/
structure WellFormed (db : Db) : Prop where
  bundle : ∀ deployment state digest, db.deployments deployment = some state →
    state.activeBundleContentDigest = some digest → (db.references digest).isSome
  record : ∀ deployment state id, db.deployments deployment = some state →
    state.currentActivationRecordId = some id → (db.activation id).isSome

lemma WellFormed.of_grows (h : WellFormed db) (hgrows : Grows db db')
    (hdeployments : db'.deployments = db.deployments) : WellFormed db' := by
  constructor
  · intro deployment state digest hstate hdigest
    rw [hdeployments] at hstate
    obtain ⟨r, hr⟩ := Option.isSome_iff_exists.mp (h.bundle deployment state digest hstate hdigest)
    obtain ⟨r', hr', -⟩ := hgrows.references digest r hr
    rw [hr']
    rfl
  · intro deployment state id hstate hid
    rw [hdeployments] at hstate
    obtain ⟨r, hr⟩ := Option.isSome_iff_exists.mp (h.record deployment state id hstate hid)
    rw [hgrows.activations id r hr]
    rfl

lemma register_self (db : Db) (digest : Digest) (reference : BundleReference) :
    ((db.register digest reference).references digest).isSome := by
  unfold Db.register
  split
  · rename_i r hr
    rw [hr]
    rfl
  · simp only [Function.update_self]
    rfl

lemma activation_addActivation (record : ActivationRecord) (h : db.activation record.id = none) :
    (db.addActivation record).activation record.id = some record := by
  rw [Db.activation, Db.addActivation, List.find?_append,
    show db.activations.find? _ = none from h]
  simp

lemma Touches.wellFormed (h : Touches F db db') (hdb : WellFormed db) : WellFormed db' := by
  have hgrows := h.grows
  cases h with
  | kept h => exact hdb.of_grows hgrows h.deployments
  | registered digest r h =>
    exact hdb.of_grows hgrows (by rw [h.deployments, register_deployments])
  | withdrawn digest h => exact hdb.of_grows hgrows h.deployments
  | activated deployment q c entry knowledge recordId now response state h =>
    constructor
    · intro deployment' state' digest hstate' hdigest
      rw [h.keeps.references]
      rw [h.keeps.deployments] at hstate'
      by_cases hdeployment : deployment' = deployment
      · subst hdeployment
        rw [point_self] at hstate'
        obtain rfl := Option.some.inj hstate'
        obtain rfl := Option.some.inj hdigest
        exact register_self db _ _
      · rw [point_of_ne _ hdeployment] at hstate'
        have hold := hdb.bundle deployment' state' digest
          (by rwa [← register_deployments db q.digest (reference entry knowledge)]) hdigest
        obtain ⟨r, hr⟩ := Option.isSome_iff_exists.mp hold
        obtain ⟨r', hr', -⟩ := (grows_register db q.digest (reference entry knowledge)).references _ r hr
        exact Option.isSome_iff_exists.mpr ⟨r', hr'⟩
    · intro deployment' state' id hstate' hid
      have hfresh : (db.register q.digest (reference entry knowledge)).activation recordId = none := by
        rw [Db.activation, register_activations]
        exact h.fresh
      rw [h.keeps.deployments] at hstate'
      rw [Db.activation, h.keeps.activations]
      by_cases hdeployment : deployment' = deployment
      · subst hdeployment
        rw [point_self] at hstate'
        obtain rfl := Option.some.inj hstate'
        obtain rfl := Option.some.inj hid
        exact Option.isSome_iff_exists.mpr ⟨_, activation_addActivation
          (newRecord deployment' q now state.activeBundleContentDigest recordId) hfresh⟩
      · rw [point_of_ne _ hdeployment] at hstate'
        have hold := hdb.record deployment' state' id
          (by rwa [← register_deployments db q.digest (reference entry knowledge)]) hid
        obtain ⟨r, hr⟩ := Option.isSome_iff_exists.mp hold
        refine Option.isSome_iff_exists.mpr ⟨r, ?_⟩
        exact ((grows_register db _ _).trans (grows_addActivation _ _)).activations id r hr

/-! ### Withdrawn bundles -/

def Withdrawn (db : Db) (digest : Digest) : Prop :=
  ∃ r, db.references digest = some r ∧ r.governanceEligibility = .WITHDRAWN

lemma withdrawn_register {digest : Digest} (h : Withdrawn db digest) (other : Digest)
    (reference : BundleReference) : Withdrawn (db.register other reference) digest := by
  obtain ⟨r, hr, hwithdrawn⟩ := h
  refine ⟨r, ?_, hwithdrawn⟩
  unfold Db.register
  split
  · exact hr
  · rename_i hnone
    have hne : digest ≠ other := by
      rintro rfl
      rw [hnone] at hr
      cases hr
    rw [← hr]
    exact Function.update_of_ne hne _ _

/-- A withdrawn bundle stays so, and a pointer to it is an old one. -/
lemma Touches.keeps_withdrawn {digest : Digest} (h : Touches F db db') (hdb : Withdrawn db digest) :
    Withdrawn db' digest ∧ ∀ deployment state, db'.deployments deployment = some state →
      state.activeBundleContentDigest = some digest → db.deployments deployment = some state := by
  cases h with
  | kept h =>
    rw [Withdrawn, h.references, h.deployments]
    exact ⟨hdb, fun _ _ hstate _ => hstate⟩
  | registered other r h =>
    rw [Withdrawn, h.references, h.deployments, register_deployments]
    exact ⟨withdrawn_register hdb other r, fun _ _ hstate _ => hstate⟩
  | withdrawn other h =>
    rw [Withdrawn, h.references, h.deployments]
    refine ⟨?_, fun _ _ hstate _ => hstate⟩
    obtain ⟨r, hr, hwithdrawn⟩ := hdb
    by_cases hother : digest = other
    · subst hother
      exact ⟨_, by rw [withdraw_self, hr]; rfl, rfl⟩
    · exact ⟨r, by rw [withdraw_of_ne db hother, hr], hwithdrawn⟩
  | activated deployment q c entry knowledge recordId now response state h =>
    rw [Withdrawn, h.keeps.references, h.keeps.deployments]
    refine ⟨withdrawn_register hdb _ _, fun deployment' state' hstate' hdigest => ?_⟩
    have hne : q.digest ≠ digest := by
      rintro rfl
      obtain ⟨r, hr, hwithdrawn⟩ := hdb
      cases hwithdrawn.symm.trans (h.eligible r hr)
    by_cases hdeployment : deployment' = deployment
    · subst hdeployment
      rw [point_self] at hstate'
      obtain rfl := Option.some.inj hstate'
      exact absurd (Option.some.inj hdigest) hne
    · rw [point_of_ne _ hdeployment] at hstate'
      rwa [← register_deployments db q.digest (reference entry knowledge)]

/-! ### Runs -/

section Runs

variable {first : World}

/-- The runs of the deployments. -/
abbrev Runs (F : Functions) (first w w' : World) : Prop :=
  (deployments F first).Steps (System.anyStep) w w'

/-- A state that a run went through. -/
structure Passed (F : Functions) (first w' w : World) : Prop where
  before : Runs F first first w'
  since : Runs F first w' w

lemma Passed.tail {w₁ : World} (h : Passed F first w₁ w) {a : Action} {out : Option Response}
    (hstep : step F w a = some (w', out)) : Passed F first w₁ w' :=
  ⟨h.before, h.since.tail trivial hstep⟩

lemma grows_of_runs (h : Runs F first w w') : Grows w.db w'.db := by
  refine System.Steps.preserves (P := fun w' => Grows w.db w'.db) ?_ h (.refl _)
  intro w₁ a w₂ out hgrows _ hstep
  exact hgrows.trans (step_touches hstep).grows

lemma wellFormed_of_runs (h : Runs F first w w') (hw : WellFormed w.db) : WellFormed w'.db := by
  refine System.Steps.preserves (P := fun w' => WellFormed w'.db) ?_ h hw
  intro w₁ a w₂ out hdb _ hstep
  exact (step_touches hstep).wellFormed hdb

/-- No activation makes a withdrawn bundle active. -/
theorem withdrawn_of_runs {digest : Digest} (h : Runs F first w w') (hw : Withdrawn w.db digest) :
    Withdrawn w'.db digest ∧ ∀ deployment state, w'.db.deployments deployment = some state →
      state.activeBundleContentDigest = some digest → w.db.deployments deployment = some state := by
  refine System.Steps.preserves (P := fun w' => Withdrawn w'.db digest ∧ ∀ deployment state,
    w'.db.deployments deployment = some state → state.activeBundleContentDigest = some digest →
      w.db.deployments deployment = some state) ?_ h ⟨hw, fun _ _ hstate _ => hstate⟩
  intro w₁ a w₂ out ⟨hwithdrawn, hold⟩ _ hstep
  obtain ⟨hnow, hpointer⟩ := (step_touches hstep).keeps_withdrawn hwithdrawn
  exact ⟨hnow, fun deployment state hstate hdigest =>
    hold deployment state (hpointer deployment state hstate hdigest) hdigest⟩

/-! ### Loaded knowledge -/

/-- A bundle that passed the loader under its digest, from the files the process had at the time. -/
def Loaded (F : Functions) (first w : World) (p : ProcessId) (digest : Digest)
    (knowledge : LoadedKnowledge) : Prop :=
  knowledge.contentDigest = digest ∧ ∃ w' dir, Passed F first w' w ∧
    (w'.processes p).store digest = some dir ∧ loadBundle F.libraries dir = .ok knowledge

lemma Loaded.tail {p : ProcessId} {digest : Digest} {knowledge : LoadedKnowledge}
    (h : Loaded F first w p digest knowledge) {a : Action} {out : Option Response}
    (hstep : step F w a = some (w', out)) : Loaded F first w' p digest knowledge := by
  obtain ⟨hdigest, w₁, dir, hpassed, hstore, hload⟩ := h
  exact ⟨hdigest, w₁, dir, hpassed.tail hstep, hstore, hload⟩

/-- What a verifier has in its cache was loaded. -/
def CacheLoaded (F : Functions) (first w : World) : Prop :=
  ∀ p cache digest knowledge, (w.processes p).verifier = some cache → cache digest = some knowledge →
    Loaded F first w p digest knowledge

end Runs

lemma verify_cache {lib : Libraries} {store : String → Option Directory} {cache : Cache}
    {digest other : Digest} {knowledge : LoadedKnowledge}
    (h : (verify lib store cache digest).1 other = some knowledge) : cache other = some knowledge ∨
      (other = digest ∧ knowledge.contentDigest = digest ∧
        ∃ dir, store digest = some dir ∧ loadBundle lib dir = .ok knowledge) := by
  unfold verify at h
  split_ifs at h with hdigest
  · exact .inl h
  · split at h
    · exact .inl h
    · split at h
      · exact .inl h
      · rename_i dir hdir
        split at h
        · exact .inl h
        · exact .inl h
        · rename_i loaded hload
          split_ifs at h with hcontent
          · exact .inl h
          · simp only at h
            by_cases hother : other = digest
            · subst hother
              rw [Function.update_self] at h
              obtain rfl := Option.some.inj h
              exact .inr ⟨rfl, not_not.mp hcontent, dir, hdir, hload⟩
            · rw [Function.update_of_ne hother] at h
              exact .inl h

/-- What `verify` returns is in its cache. -/
lemma verify_ok {lib : Libraries} {store : String → Option Directory} {cache : Cache}
    {digest : Digest} {knowledge : LoadedKnowledge}
    (h : (verify lib store cache digest).2 = .ok knowledge) :
    (verify lib store cache digest).1 digest = some knowledge := by
  unfold verify at h ⊢
  split_ifs at h ⊢ with hdigest
  cases hcached : cache digest with
  | some cached =>
    simp only [hcached] at h ⊢
    exact congrArg some (Except.ok.inj h)
  | none =>
    simp only [hcached] at h ⊢
    cases hdir : store digest with
    | none =>
      rw [hdir] at h
      cases h
    | some dir =>
      simp only [hdir] at h ⊢
      cases hload : loadBundle lib dir with
      | error e =>
        rw [hload] at h
        cases e <;> cases h
      | ok loaded =>
        simp only [hload] at h ⊢
        split_ifs at h ⊢ with hcontent
        obtain rfl := Except.ok.inj h
        exact Function.update_self _ _ _

/-- What a step does to a process: its files change, or its verifier is asked. -/
inductive Serves (lib : Libraries) (process process' : Process) : Prop where
  | same (h : process'.verifier = process.verifier) (hd : process'.deploymentRef = process.deploymentRef)
  | asked (digest : Digest) (h : process' = (process.verify lib digest).1)

lemma prevalidate_serves (lib : Libraries) (process : Process) (digest : Digest) :
    Serves lib process (prevalidate lib process digest).1 := by
  unfold prevalidate
  split_ifs
  · exact .same rfl rfl
  · split
    · exact .same rfl rfl
    · split
      · rename_i process' e hverify
        exact .asked digest (by rw [hverify])
      · rename_i process' knowledge hverify
        exact .asked digest (by rw [hverify])

lemma readBundle_fst (lib : Libraries) (process : Process) (state : DeploymentState)
    (reference : BundleReference) : (readBundle lib process state reference).1 =
      (process.verify lib (state.activeBundleContentDigest.getD "")).1 := by
  unfold readBundle
  split <;> simp_all

lemma serves_update {lib : Libraries} {processes : ProcessId → Process} {p : ProcessId}
    (process : Process) (h : Serves lib (processes p) process) (other : ProcessId) :
    Serves lib (processes other) (Function.update processes p process other) := by
  by_cases hother : other = p
  · subst hother
    rwa [Function.update_self]
  · rw [Function.update_of_ne hother]
    exact .same rfl rfl

lemma readStep_serves {id : CallId} {call : ReadingCall} (h : readStep F w id call = some w')
    (p : ProcessId) : Serves F.libraries (w.processes p) (w'.processes p) := by
  unfold readStep at h
  simp only at h
  split at h
  · cases h
    exact .same rfl rfl
  · cases h
    exact .same rfl rfl
  · cases h
    exact .same rfl rfl
  · cases h
    exact serves_update _ (.asked _ (readBundle_fst _ _ _ _)) p
  all_goals cases h

lemma Advances.serves {db : Db} {process : Process} {phase : ActivationPhase}
    (h : Advances F w id call delivery db process phase) :
    Serves F.libraries (w.processes call.process) process := by
  cases h with
  | validated c _ hphase hnext => exact prevalidate_serves _ _ _
  | claimed | unclaimed | replayed | unread | undone | refused | activated | released =>
    exact .same rfl rfl

lemma step_serves {a : Action} {out : Option Response} (h : step F w a = some (w', out))
    (p : ProcessId) : Serves F.libraries (w.processes p) (w'.processes p) := by
  cases a with
  | tick | withdraw =>
    obtain ⟨rfl, -⟩ := Prod.mk.inj (Option.some.inj h)
    exact .same rfl rfl
  | writeStore p' store =>
    obtain ⟨rfl, -⟩ := Prod.mk.inj (Option.some.inj h)
    exact serves_update { w.processes p' with store := store } (.same rfl rfl) p
  | writeReleases p' releases =>
    obtain ⟨rfl, -⟩ := Prod.mk.inj (Option.some.inj h)
    exact serves_update { w.processes p' with releases := releases } (.same rfl rfl) p
  | verify p' digest =>
    obtain ⟨rfl, -⟩ := Prod.mk.inj (Option.some.inj h)
    exact serves_update _ (.asked digest rfl) p
  | beginReading id p' =>
    rw [step] at h
    split at h
    · obtain ⟨rfl, -⟩ := Prod.mk.inj (Option.some.inj h)
      exact .same rfl rfl
    · cases h
  | read id fails =>
    rw [step] at h
    split at h
    · cases h
    · obtain ⟨w₁, hread, hw⟩ := Option.map_eq_some_iff.mp h
      obtain rfl := (Prod.mk.inj hw).1
      split_ifs
      · exact .same rfl rfl
      · exact readStep_serves hread p
  | request id p' principal roles key body =>
    rw [step] at h
    split at h
    · cases h
    · split at h
      all_goals
        obtain ⟨rfl, -⟩ := Prod.mk.inj (Option.some.inj h)
        exact .same rfl rfl
  | activate id delivery raises recordId =>
    rw [step] at h
    split at h
    · cases h
    · obtain ⟨w₁, hstep, hw⟩ := Option.map_eq_some_iff.mp h
      obtain rfl := (Prod.mk.inj hw).1
      obtain ⟨db, process, phase, hadvances, rfl⟩ := activateStep_advances hstep
      exact serves_update _ hadvances.serves p

end TrustLens.Backend.KnowledgeSeam
