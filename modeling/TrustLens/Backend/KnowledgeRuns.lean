import TrustLens.Backend.KnowledgeReadiness

/-!
# Runs of the knowledge seam

What holds along every run: a call of readiness that answers READY has read a pointer at which all
its facts held at once, and a request that is accepted stands for an activation at the pointer it
expected.
-/

namespace TrustLens.Backend.KnowledgeSeam

open Loader (Directory Libraries LoadedKnowledge loadBundle)
open Idempotency (ExecutionState FinishKind Outcome Record Time Token)

variable {F : Functions} {first w w' : World} {a : Action} {out : Option Response}

/-! ### The caches -/

lemma Process.verify_cache {lib : Libraries} {process : Process} {digest other : Digest}
    {cache' : Cache} {knowledge : LoadedKnowledge}
    (hcache : (process.verify lib digest).1.verifier = some cache')
    (h : cache' other = some knowledge) :
    (∃ cache, process.verifier = some cache ∧ cache other = some knowledge) ∨
      (other = digest ∧ knowledge.contentDigest = digest ∧
        ∃ dir, process.store digest = some dir ∧ loadBundle lib dir = .ok knowledge) := by
  unfold Process.verify at hcache
  split at hcache
  · exact .inl ⟨cache', hcache, h⟩
  · rename_i cache hverifier
    obtain rfl := Option.some.inj hcache
    exact (KnowledgeSeam.verify_cache h).imp_left fun hold => ⟨cache, hverifier, hold⟩

/-- What a process returns it has in its cache. -/
lemma Process.verify_ok {lib : Libraries} {process process' : Process} {digest : Digest}
    {knowledge : LoadedKnowledge} (h : process.verify lib digest = (process', .ok knowledge)) :
    ∃ cache, process'.verifier = some cache ∧ cache digest = some knowledge := by
  unfold Process.verify at h
  split at h
  · cases (Prod.mk.inj h).2
  · rename_i cache hverifier
    obtain ⟨rfl, hresult⟩ := Prod.mk.inj h
    exact ⟨_, rfl, KnowledgeSeam.verify_ok hresult⟩

lemma cacheLoaded_step (hrun : Runs F first first w) (h : CacheLoaded F first w)
    (hstep : step F w a = some (w', out)) : CacheLoaded F first w' := by
  intro p cache digest knowledge hverifier hcache
  cases step_serves hstep p with
  | same hsame hdeployment =>
    rw [hsame] at hverifier
    exact (h p cache digest knowledge hverifier hcache).tail hstep
  | asked asked hprocess =>
    rw [hprocess] at hverifier
    rcases Process.verify_cache hverifier hcache with ⟨old, hold, hknowledge⟩ | ⟨rfl, hdigest, dir, hstore, hload⟩
    · exact (h p old digest knowledge hold hknowledge).tail hstep
    · exact ⟨hdigest, w, dir, ⟨hrun, (System.Steps.refl w).tail trivial hstep⟩, hstore, hload⟩

/-! ### What a call of readiness has read -/

/-- The next phase of a call of readiness. -/
inductive Reads (F : Functions) (w w' : World) (call : ReadingCall) : ReadingPhase → Prop where
  | failed : Reads F w w' call .failed
  | pointer (hphase : call.phase = .reading) :
      Reads F w w' call (readState w.db (w.processes call.process).deploymentRef)
  | reference (state : DeploymentState) (hphase : call.phase = .referencing state) :
      Reads F w w' call (readReference w.db state)
  | record (state : DeploymentState) (reference : BundleReference)
      (hphase : call.phase = .recording state reference) :
      Reads F w w' call (readRecord w.db state reference)
  | bundle (state : DeploymentState) (reference : BundleReference)
      (hphase : call.phase = .verifying state reference)
      (hprocess : w'.processes call.process =
        (readBundle F.libraries (w.processes call.process) state reference).1) :
      Reads F w w' call (readBundle F.libraries (w.processes call.process) state reference).2

lemma readStep_reads {id : CallId} (other : CallId) {call : ReadingCall}
    (h : readStep F w id call = some w') (hcall : w.readings id = some call) :
    w'.readings other = w.readings other ∨ (other = id ∧
      ∃ phase, w'.readings id = some { call with phase := phase } ∧ Reads F w w' call phase) := by
  by_cases hother : other = id
  · subst hother
    refine .inr ⟨rfl, ?_⟩
    unfold readStep at h
    simp only at h
    split at h
    · rename_i hphase
      cases h
      exact ⟨_, Function.update_self _ _ _, .pointer hphase⟩
    · rename_i state hphase
      cases h
      exact ⟨_, Function.update_self _ _ _, .reference state hphase⟩
    · rename_i state reference hphase
      cases h
      exact ⟨_, Function.update_self _ _ _, .record state reference hphase⟩
    · rename_i state reference hphase
      cases h
      exact ⟨_, Function.update_self _ _ _, .bundle state reference hphase (Function.update_self _ _ _)⟩
    all_goals cases h
  · refine .inl ?_
    unfold readStep at h
    simp only at h
    split at h
    all_goals cases h
    all_goals exact Function.update_of_ne hother _ _

/-- What a step does to a call of readiness. -/
lemma step_readings (h : step F w a = some (w', out)) (id : CallId) :
    w'.readings id = w.readings id ∨ (∃ p, w'.readings id = some ⟨p, .reading⟩) ∨
      ∃ call phase, w.readings id = some call ∧ w'.readings id = some { call with phase := phase } ∧
        Reads F w w' call phase := by
  cases a with
  | tick | withdraw | writeStore | writeReleases | verify =>
    obtain ⟨rfl, -⟩ := Prod.mk.inj (Option.some.inj h)
    exact .inl rfl
  | beginReading other p =>
    rw [step] at h
    split at h
    · obtain ⟨rfl, -⟩ := Prod.mk.inj (Option.some.inj h)
      by_cases hid : id = other
      · subst hid
        exact .inr (.inl ⟨p, Function.update_self _ _ _⟩)
      · exact .inl (Function.update_of_ne hid _ _)
    · cases h
  | read other fails =>
    rw [step] at h
    split at h
    · cases h
    · rename_i call hcall
      obtain ⟨w₁, hread, hw⟩ := Option.map_eq_some_iff.mp h
      obtain rfl := (Prod.mk.inj hw).1
      split_ifs
      · by_cases hid : id = other
        · subst hid
          exact .inr (.inr ⟨call, .failed, hcall, Function.update_self _ _ _, .failed⟩)
        · exact .inl (Function.update_of_ne hid _ _)
      · rcases readStep_reads id hread hcall with hsame | ⟨rfl, phase, hnext, hreads⟩
        · exact .inl hsame
        · exact .inr (.inr ⟨call, phase, hcall, hnext, hreads⟩)
  | request other p principal roles key body =>
    rw [step] at h
    split at h
    · cases h
    · split at h
      all_goals
        obtain ⟨rfl, -⟩ := Prod.mk.inj (Option.some.inj h)
        exact .inl rfl
  | activate other delivery raises recordId =>
    rw [step] at h
    split at h
    · cases h
    · obtain ⟨w₁, hstep, hw⟩ := Option.map_eq_some_iff.mp h
      obtain rfl := (Prod.mk.inj hw).1
      obtain ⟨db, process, phase, hadvances, rfl⟩ := activateStep_advances hstep
      exact .inl rfl

/-- The state of the run at which a call read the pointer, and what it read. -/
structure Pointed (F : Functions) (first w : World) (id : CallId) (p : ProcessId)
    (state : DeploymentState) (w₀ : World) : Prop where
  passed : Passed F first w₀ w
  asked : w₀.readings id = some ⟨p, .reading⟩
  pointer : w₀.db.deployments (w₀.processes p).deploymentRef = some state
  active : state.operationalState = .ACTIVE

/-- The bundle of a pointer is registered, eligible, under these versions. -/
def Registered (db : Db) (state : DeploymentState) (digest : Digest) (versions : String × String) : Prop :=
  state.activeBundleContentDigest = some digest ∧ ∃ r, db.references digest = some r ∧
    r.governanceEligibility = .ELIGIBLE ∧ (r.bundleVersion, r.manifestSchemaVersion) = versions

/-- The activation of a pointer is one of its bundle, active and successful. -/
def Recorded (db : Db) (state : DeploymentState) (digest : Digest) : Prop :=
  ∃ id record, state.currentActivationRecordId = some id ∧ db.activation id = some record ∧
    record.bundleContentDigest = digest ∧ record.lifecycleState = .ACTIVE ∧ record.outcome = .SUCCEEDED

/-- What READY stands for: the facts held together when the pointer was read. -/
def Ready (F : Functions) (first w : World) (id : CallId) (p : ProcessId) (r : Readiness) : Prop :=
  ∃ w₀ state digest knowledge, Pointed F first w id p state w₀ ∧
    Registered w₀.db state digest (knowledge.bundleVersion, knowledge.manifestSchemaVersion) ∧
    Recorded w₀.db state digest ∧ r.contentDigest = some digest ∧ r.knowledge = some knowledge ∧
    Loaded F first w p digest knowledge

/-- What a call of readiness may rely on, by its phase. -/
def ReadingOk (F : Functions) (first w : World) (id : CallId) (call : ReadingCall) : Prop :=
  match call.phase with
  | .referencing state => ∃ w₀, Pointed F first w id call.process state w₀
  | .recording state reference => ∃ w₀ digest, Pointed F first w id call.process state w₀ ∧
      Registered w₀.db state digest (reference.bundleVersion, reference.manifestSchemaVersion)
  | .verifying state reference => ∃ w₀ digest, Pointed F first w id call.process state w₀ ∧
      Registered w₀.db state digest (reference.bundleVersion, reference.manifestSchemaVersion) ∧
      Recorded w₀.db state digest
  | .answered r => r.ready = true → Ready F first w id call.process r
  | .reading | .failed | .raised _ => True

lemma Pointed.tail {id : CallId} {p : ProcessId} {state : DeploymentState} {w₀ : World}
    (h : Pointed F first w id p state w₀) (hstep : step F w a = some (w', out)) :
    Pointed F first w' id p state w₀ :=
  ⟨h.passed.tail hstep, h.asked, h.pointer, h.active⟩

lemma ReadingOk.tail {id : CallId} {call : ReadingCall} (h : ReadingOk F first w id call)
    (hstep : step F w a = some (w', out)) : ReadingOk F first w' id call := by
  obtain ⟨p, phase⟩ := call
  cases phase with
  | reading | failed | raised => trivial
  | referencing state =>
    obtain ⟨w₀, hpointed⟩ := h
    exact ⟨w₀, hpointed.tail hstep⟩
  | recording state reference =>
    obtain ⟨w₀, digest, hpointed, hregistered⟩ := h
    exact ⟨w₀, digest, hpointed.tail hstep, hregistered⟩
  | verifying state reference =>
    obtain ⟨w₀, digest, hpointed, hregistered, hrecorded⟩ := h
    exact ⟨w₀, digest, hpointed.tail hstep, hregistered, hrecorded⟩
  | answered r =>
    intro hready
    obtain ⟨w₀, state, digest, knowledge, hpointed, hregistered, hrecorded, hdigest, hknowledge, hloaded⟩ :=
      h hready
    exact ⟨w₀, state, digest, knowledge, hpointed.tail hstep, hregistered, hrecorded, hdigest,
      hknowledge, hloaded.tail hstep⟩

lemma readingOk_notReady (F : Functions) (first w : World) (id : CallId) (p : ProcessId)
    (reason : String) (state : DeploymentState) : ReadingOk F first w id ⟨p, notReady reason state⟩ :=
  nofun

/-- A bundle that is eligible now was so when the pointer was read. -/
lemma registered_of_grows {db db' : Db} {state : DeploymentState} {digest : Digest}
    {reference : BundleReference} (hgrows : Grows db db')
    (hdigest : state.activeBundleContentDigest = some digest) (hknown : (db.references digest).isSome)
    (hnow : db'.references digest = some reference)
    (heligible : reference.governanceEligibility = .ELIGIBLE) :
    Registered db state digest (reference.bundleVersion, reference.manifestSchemaVersion) := by
  obtain ⟨r, hr⟩ := Option.isSome_iff_exists.mp hknown
  obtain ⟨r', hr', hversion, hmanifest, hback⟩ := hgrows.references digest r hr
  obtain rfl := Option.some.inj (hr'.symm.trans hnow)
  exact ⟨hdigest, r, hr, hback heligible, by rw [hversion, hmanifest]⟩

lemma recorded_of_consistent {db db' : Db} {state : DeploymentState} {digest : Digest}
    (hgrows : Grows db db') (hdigest : state.activeBundleContentDigest = some digest)
    (hknown : ∀ id, state.currentActivationRecordId = some id → (db.activation id).isSome)
    (h : consistent db' state = true) : Recorded db state digest := by
  unfold consistent at h
  split at h
  · cases h
  · rename_i record hrecord
    obtain ⟨id, hid, hnow⟩ := Option.bind_eq_some_iff.mp hrecord
    obtain ⟨old, hold⟩ := Option.isSome_iff_exists.mp (hknown id hid)
    obtain rfl := Option.some.inj ((hgrows.activations id old hold).symm.trans hnow)
    simp only [hdigest, Bool.and_eq_true, beq_iff_eq, Option.some.injEq] at h
    exact ⟨id, old, hid, hold, h.1.1, h.1.2, h.2⟩

/-- One statement of a call of readiness. -/
lemma ReadingOk.reads {id : CallId} {call : ReadingCall} {phase : ReadingPhase}
    (hfirst : WellFormed first.db) (hrun : Runs F first first w)
    (hcall : w.readings id = some call) (h : ReadingOk F first w id call)
    (hstep : step F w a = some (w', out)) (hcache : CacheLoaded F first w')
    (hreads : Reads F w w' call phase) : ReadingOk F first w' id { call with phase := phase } := by
  have hone : Runs F first w w' := (System.Steps.refl w).tail trivial hstep
  cases hreads with
  | failed => trivial
  | pointer hphase =>
    unfold readState
    split_ifs
    · exact nofun
    · split
      · exact nofun
      · rename_i state hstate
        split_ifs with hactive
        · exact readingOk_notReady _ _ _ _ _ _ _
        · obtain ⟨p, phase⟩ := call
          obtain rfl : phase = .reading := hphase
          exact ⟨w, ⟨hrun, hone⟩, hcall, hstate, not_not.mp hactive⟩
  | reference state hphase =>
    simp only [ReadingOk, hphase] at h
    obtain ⟨w₀, hpointed⟩ := h
    unfold readReference
    split
    · exact readingOk_notReady _ _ _ _ _ _ _
    · rename_i reference href
      split
      · rename_i heligible
        obtain ⟨digest, hdigest, hnow⟩ := Option.bind_eq_some_iff.mp href
        have hknown := (wellFormed_of_runs hpointed.passed.before hfirst).bundle _ state digest
          hpointed.pointer hdigest
        exact ⟨w₀, digest, hpointed.tail hstep,
          registered_of_grows (grows_of_runs hpointed.passed.since) hdigest hknown hnow heligible⟩
      · exact readingOk_notReady _ _ _ _ _ _ _
      · exact readingOk_notReady _ _ _ _ _ _ _
  | record state reference hphase =>
    simp only [ReadingOk, hphase] at h
    obtain ⟨w₀, digest, hpointed, hregistered⟩ := h
    unfold readRecord
    split_ifs with hconsistent
    · refine ⟨w₀, digest, hpointed.tail hstep, hregistered, ?_⟩
      refine recorded_of_consistent (grows_of_runs hpointed.passed.since) hregistered.1 ?_ hconsistent
      exact fun id hid => (wellFormed_of_runs hpointed.passed.before hfirst).record _ state id
        hpointed.pointer hid
    · exact readingOk_notReady _ _ _ _ _ _ _
  | bundle state reference hphase hprocess =>
    simp only [ReadingOk, hphase] at h
    obtain ⟨w₀, digest, hpointed, hregistered, hrecorded⟩ := h
    unfold readBundle at hprocess ⊢
    split
    · exact readingOk_notReady _ _ _ _ _ _ _
    · trivial
    · rename_i process' knowledge hverify
      simp only [hverify] at hprocess
      split_ifs with hversions
      · exact readingOk_notReady _ _ _ _ _ _ _
      · intro _
        obtain ⟨cache, hverifier, hknowledge⟩ := Process.verify_ok hverify
        rw [← hprocess] at hverifier
        rw [hregistered.1, Option.getD_some] at hknowledge
        refine ⟨w₀, state, digest, knowledge, hpointed.tail hstep, ?_, hrecorded, hregistered.1, rfl,
          hcache call.process cache digest knowledge hverifier hknowledge⟩
        rw [not_not.mp hversions]
        exact hregistered

/-- The first state of the deployments: no call, no cache and no key yet. -/
structure Fresh (first : World) : Prop where
  wellFormed : WellFormed first.db
  readings : ∀ id, first.readings id = none
  activations : ∀ id, first.activations id = none
  caches : ∀ p cache, (first.processes p).verifier = some cache → ∀ digest, cache digest = none
  keys : ∀ scope, first.db.idempotency scope = []

/-- Along every run a cache holds what was loaded, and a call of readiness what it has read. -/
theorem readingOk_of_runs (hfirst : Fresh first) (h : Runs F first first w) :
    CacheLoaded F first w ∧ ∀ id call, w.readings id = some call → ReadingOk F first w id call := by
  induction h with
  | refl =>
    refine ⟨fun p cache digest knowledge hverifier hcache => ?_, fun id call hcall => ?_⟩
    · rw [hfirst.caches p cache hverifier digest] at hcache
      cases hcache
    · rw [hfirst.readings id] at hcall
      cases hcall
  | @tail w w' a out hrun _ hstep ih =>
    obtain ⟨hcache, hreadings⟩ := ih
    have hcache' := cacheLoaded_step hrun hcache hstep
    refine ⟨hcache', fun id call' hcall' => ?_⟩
    rcases step_readings hstep id with hsame | ⟨p, hnew⟩ | ⟨call, phase, hcall, hnext, hreads⟩
    · rw [hsame] at hcall'
      exact (hreadings id call' hcall').tail hstep
    · rw [hnew] at hcall'
      obtain rfl := Option.some.inj hcall'
      trivial
    · rw [hnext] at hcall'
      obtain rfl := Option.some.inj hcall'
      exact (hreadings id call hcall).reads hfirst.wellFormed hrun hcall hstep hcache' hreads

/-! ### What an accepted request stands for -/

/-- A request made the record between these states, its pointer before being the one it expects. -/
structure Makes (F : Functions) (q : ActivationRequest) (w₀ w₁ : World) (record : ActivationRecord) :
    Prop where
  one : ∃ a out, step F w₀ a = some (w₁, out)
  state : ∃ p state, w₀.db.deployments (w₀.processes p).deploymentRef = some state ∧
    (∀ e, q.expected = some e → e = state.activeBundleContentDigest) ∧
    record = newRecord (w₀.processes p).deploymentRef q w₀.now state.activeBundleContentDigest record.id ∧
    w₁.db.deployments (w₀.processes p).deploymentRef = some ⟨.ACTIVE, some q.digest, some record.id⟩
  added : w₁.db.activations = w₀.db.activations ++ [record]

/-- An activation of the run, by a request of this semantic digest. -/
def Made (F : Functions) (first w : World) (digest : String) (record : ActivationRecord) : Prop :=
  ∃ q w₀ w₁, F.semanticDigest q.body = digest ∧ Passed F first w₀ w ∧ Passed F first w₁ w ∧
    Makes F q w₀ w₁ record

/-- A recorded activation of the run. -/
def Stands (F : Functions) (first w : World) (digest : String) (record : ActivationRecord) : Prop :=
  w.db.activation record.id = some record ∧ Made F first w digest record

/-- A terminal record holds the activation it stands for, or its refusal. -/
def RowOk (F : Functions) (first w : World) (r : Record) : Prop :=
  match r.executionState with
  | .COMPLETED => r.outcome.bind (·.errorCode) = none ∧ ∃ record,
      r.outcome.bind (·.resourceId) = some record.id ∧ Stands F first w r.requestSemanticDigest record
  | .FAILED_TERMINAL => (r.outcome.bind (·.errorCode)).isSome
  | .IN_PROGRESS | .RELEASED => True

def RowsOk (F : Functions) (first w : World) : Prop :=
  ∀ scope, ∀ r ∈ w.db.idempotency scope, RowOk F first w r

/-- The record of a claim is one of the request. -/
def ClaimOk (F : Functions) (w : World) (q : ActivationRequest) (c : Claim) : Prop :=
  ∃ r, (w.db.idempotency (q.scope F))[c.recordId]? = some r ∧
    r.requestSemanticDigest = F.semanticDigest q.body

/-- What a call of `_activate` may rely on, by its phase. -/
def ActivationOk (F : Functions) (first w : World) (call : ActivationCall) : Prop :=
  match call.phase with
  | .replaying resourceId => ∃ record, resourceId = some record.id ∧
      Stands F first w (F.semanticDigest call.request.body) record
  | .validating c | .rejecting c _ | .activating c _ _ | .releasing c => ClaimOk F w call.request c
  | .answered (.accepted view) => ∃ record, view = _activation_view record ∧
      Stands F first w (F.semanticDigest call.request.body) record
  | .claiming | .answered (.error _ _) | .raised _ => True

lemma Stands.tail {digest : String} {record : ActivationRecord} (h : Stands F first w digest record)
    (hstep : step F w a = some (w', out)) : Stands F first w' digest record := by
  obtain ⟨hrecord, q, w₀, w₁, hdigest, hbefore, hafter, hmakes⟩ := h
  exact ⟨(step_touches hstep).grows.activations _ _ hrecord, q, w₀, w₁, hdigest, hbefore.tail hstep,
    hafter.tail hstep, hmakes⟩

lemma RowOk.tail {r : Record} (h : RowOk F first w r) (hstep : step F w a = some (w', out)) :
    RowOk F first w' r := by
  unfold RowOk at h ⊢
  cases hstate : r.executionState with
  | COMPLETED =>
    rw [hstate] at h
    obtain ⟨hcode, record, hresource, hstands⟩ := h
    exact ⟨hcode, record, hresource, hstands.tail hstep⟩
  | FAILED_TERMINAL =>
    rw [hstate] at h
    exact h
  | IN_PROGRESS | RELEASED => trivial

/-- What a record says does not depend on its claim, nor on whether it was superseded. -/
lemma RowOk.congr {r r' : Record} (h : RowOk F first w r) (hstate : r'.executionState = r.executionState)
    (houtcome : r'.outcome = r.outcome)
    (hdigest : r'.requestSemanticDigest = r.requestSemanticDigest) : RowOk F first w r' := by
  unfold RowOk at h ⊢
  rwa [hstate, houtcome, hdigest]

/-- Records are added or rewritten, each keeping its semantic digest. -/
def RowsGrow (rows rows' : List Record) : Prop :=
  ∀ (i : ℕ) (r : Record), rows[i]? = some r → ∃ r' : Record, rows'[i]? = some r' ∧
    r'.requestSemanticDigest = r.requestSemanticDigest

lemma RowsGrow.refl (rows : List Record) : RowsGrow rows rows := fun _ r hr => ⟨r, hr, rfl⟩

lemma RowsGrow.trans {rows rows' rows'' : List Record} (h : RowsGrow rows rows')
    (h' : RowsGrow rows' rows'') : RowsGrow rows rows'' := by
  intro i r hr
  obtain ⟨r', hr', hdigest⟩ := h i r hr
  obtain ⟨r'', hr'', hdigest'⟩ := h' i r' hr'
  exact ⟨r'', hr'', hdigest'.trans hdigest⟩

lemma rowsGrow_append (rows more : List Record) : RowsGrow rows (rows ++ more) := by
  intro i r hr
  exact ⟨r, by rw [List.getElem?_append_left (List.getElem?_eq_some_iff.mp hr).1, hr], rfl⟩

lemma rowsGrow_set {rows : List Record} {i : ℕ} {r r' : Record} (hr : rows[i]? = some r)
    (hdigest : r'.requestSemanticDigest = r.requestSemanticDigest) : RowsGrow rows (rows.set i r') := by
  intro j s hs
  by_cases hij : i = j
  · subst hij
    obtain rfl := Option.some.inj (hs.symm.trans hr)
    exact ⟨r', by rw [List.getElem?_set_self (List.getElem?_eq_some_iff.mp hr).1], hdigest⟩
  · exact ⟨s, by rw [List.getElem?_set_ne hij, hs], rfl⟩

/-- What `claim` does to the records, and what it resolves to. -/
structure Resolves (digest : String) (rows rows' : List Record) (claimed : Claimed) : Prop where
  grow : RowsGrow rows rows'
  kept : ∀ r ∈ rows', r.executionState = .IN_PROGRESS ∨ ∃ r₀ ∈ rows,
    r.executionState = r₀.executionState ∧ r.outcome = r₀.outcome ∧
      r.requestSemanticDigest = r₀.requestSemanticDigest
  claim : ∀ c, claimed = .claim c → ∃ r, rows'[c.recordId]? = some r ∧ r.requestSemanticDigest = digest
  replay : ∀ o, claimed = .replay o → ∃ r ∈ rows, r.isTerminal = true ∧ r.outcome = o ∧
    r.requestSemanticDigest = digest

lemma Resolves.unchanged {digest : String} {rows : List Record} {claimed : Claimed}
    (hclaim : ∀ c, claimed ≠ .claim c)
    (hreplay : ∀ o, claimed = .replay o → ∃ r ∈ rows, r.isTerminal = true ∧ r.outcome = o ∧
      r.requestSemanticDigest = digest) : Resolves digest rows rows claimed :=
  ⟨.refl _, fun r hr => .inr ⟨r, hr, rfl, rfl, rfl⟩, fun c hc => absurd hc (hclaim c), hreplay⟩

lemma claim_resolves (rows : List Record) (token : Token) (digest : String) (now : Time) :
    Resolves digest rows (claim rows token digest now).1 (claim rows token digest now).2 := by
  have hfresh : (Record.fresh digest token now).executionState = .IN_PROGRESS := rfl
  unfold claim
  split
  · refine ⟨rowsGrow_append _ _, fun r hr => ?_, ?_, nofun⟩
    · rcases List.mem_append.mp hr with hr | hr
      · exact .inr ⟨r, hr, rfl, rfl, rfl⟩
      · rw [List.mem_singleton.mp hr]
        exact .inl hfresh
    · rintro c hc
      cases hc
      exact ⟨_, List.getElem?_concat_length, rfl⟩
  · rename_i i hi
    split
    · exact .unchanged nofun nofun
    · rename_i r hr
      have hmem : r ∈ rows := List.mem_of_getElem? hr
      split_ifs with hexpired hdigest hterminal hlive
      · have hset : RowsGrow rows (rows.set i (r.superseded now)) := rowsGrow_set hr rfl
        refine ⟨hset.trans (rowsGrow_append _ _), fun s hs => ?_, ?_, nofun⟩
        · rcases List.mem_append.mp hs with hs | hs
          · rcases List.mem_or_eq_of_mem_set hs with hs | rfl
            · exact .inr ⟨s, hs, rfl, rfl, rfl⟩
            · exact .inr ⟨r, hmem, rfl, rfl, rfl⟩
          · rw [List.mem_singleton.mp hs]
            exact .inl hfresh
        · rintro c hc
          cases hc
          refine ⟨Record.fresh digest token now, ?_, rfl⟩
          rw [← List.length_set (i := i) (a := r.superseded now)]
          exact List.getElem?_concat_length
      · exact .unchanged nofun nofun
      · refine .unchanged nofun ?_
        rintro o ho
        cases ho
        exact ⟨r, hmem, hterminal, rfl, not_not.mp hdigest⟩
      · exact .unchanged nofun nofun
      · refine ⟨rowsGrow_set hr rfl, fun s hs => ?_, ?_, nofun⟩
        · rcases List.mem_or_eq_of_mem_set hs with hs | rfl
          · exact .inr ⟨s, hs, rfl, rfl, rfl⟩
          · exact .inl rfl
        · rintro c hc
          cases hc
          refine ⟨r.taken token now, ?_, not_not.mp hdigest⟩
          exact List.getElem?_set_self (List.getElem?_eq_some_iff.mp hr).1

/-- One record of one scope is rewritten. -/
lemma rewritten {old new : String × String → List Record} {scope : String × String} {i : ℕ}
    {r r' : Record} (hr : (old scope)[i]? = some r)
    (hdigest : r'.requestSemanticDigest = r.requestSemanticDigest)
    (hnew : new = Function.update old scope ((old scope).set i r')) :
    (∀ s, RowsGrow (old s) (new s)) ∧ ∀ s, ∀ x ∈ new s, x = r' ∨ x ∈ old s := by
  subst hnew
  constructor
  · intro s
    by_cases hs : s = scope
    · subst hs
      rw [Function.update_self]
      exact rowsGrow_set hr hdigest
    · rw [Function.update_of_ne hs]
      exact .refl _
  · intro s x hx
    by_cases hs : s = scope
    · subst hs
      rw [Function.update_self] at hx
      exact (List.mem_or_eq_of_mem_set hx).symm
    · rw [Function.update_of_ne hs] at hx
      exact .inr hx

/-- What a step of a call does to the records, and what the call may rely on next. -/
structure Secures (F : Functions) (first w w' : World) (call : ActivationCall) (db : Db)
    (phase : ActivationPhase) : Prop where
  grow : ∀ scope, RowsGrow (w.db.idempotency scope) (db.idempotency scope)
  rows : ∀ scope, ∀ r ∈ db.idempotency scope, RowOk F first w' r
  next : ActivationOk F first w' { call with phase := phase }

lemma Secures.unchanged {call : ActivationCall} {phase : ActivationPhase} (hrows : RowsOk F first w)
    (hstep : step F w a = some (w', out))
    (hnext : ActivationOk F first w' { call with phase := phase }) :
    Secures F first w w' call w.db phase :=
  ⟨fun _ => .refl _, fun scope r hr => (hrows scope r hr).tail hstep, hnext⟩

lemma ClaimOk.of_grow {q : ActivationRequest} {c : Claim} (h : ClaimOk F w q c)
    (hgrow : ∀ scope, RowsGrow (w.db.idempotency scope) (w'.db.idempotency scope)) :
    ClaimOk F w' q c := by
  obtain ⟨r, hr, hdigest⟩ := h
  obtain ⟨r', hr', hdigest'⟩ := hgrow _ _ _ hr
  exact ⟨r', hr', hdigest'.trans hdigest⟩

lemma replay_ok {q : ActivationRequest} {p : ProcessId} {r : Record} (hr : RowOk F first w r)
    (hterminal : r.isTerminal = true) (hdigest : r.requestSemanticDigest = F.semanticDigest q.body) :
    ActivationOk F first w ⟨p, q, replay r.outcome⟩ := by
  unfold RowOk at hr
  unfold replay
  cases hstate : r.executionState with
  | COMPLETED =>
    rw [hstate] at hr
    obtain ⟨hcode, record, hresource, hstands⟩ := hr
    simp only [hcode]
    exact ⟨record, hresource, hdigest ▸ hstands⟩
  | FAILED_TERMINAL =>
    rw [hstate] at hr
    obtain ⟨code, hcode⟩ := Option.isSome_iff_exists.mp hr
    simp only [hcode]
    trivial
  | IN_PROGRESS | RELEASED => simp [Record.isTerminal, hstate] at hterminal

lemma claimTx_secures {id : CallId} {call : ActivationCall} (hrows : RowsOk F first w)
    (hstep : step F w a = some (w', out))
    (hdb : w'.db = (claimTx F w.db call.request id w.now).1) :
    Secures F first w w' call (claimTx F w.db call.request id w.now).1
      (claimTx F w.db call.request id w.now).2 := by
  have hresolves := claim_resolves (w.db.idempotency (call.request.scope F)) id
    (F.semanticDigest call.request.body) w.now
  revert hdb
  unfold claimTx
  split_ifs
  · exact fun _ => .unchanged hrows hstep trivial
  · generalize claim (w.db.idempotency (call.request.scope F)) id
      (F.semanticDigest call.request.body) w.now = claimed at hresolves
    obtain ⟨rows', claimed⟩ := claimed
    cases claimed with
    | claim c =>
      intro hdb
      refine ⟨fun scope => ?_, fun scope r hr => ?_, ?_⟩
      · by_cases hscope : scope = call.request.scope F
        · subst hscope
          simpa only [Db.setRows, Function.update_self] using hresolves.grow
        · simp only [Db.setRows, Function.update_of_ne hscope]
          exact .refl _
      · by_cases hscope : scope = call.request.scope F
        · subst hscope
          simp only [Db.setRows, Function.update_self] at hr
          rcases hresolves.kept r hr with hprogress | ⟨r₀, hr₀, hstate, houtcome, hdigest⟩
          · simp only [RowOk, hprogress]
          · exact ((hrows _ r₀ hr₀).congr hstate houtcome hdigest).tail hstep
        · simp only [Db.setRows, Function.update_of_ne hscope] at hr
          exact (hrows scope r hr).tail hstep
      · obtain ⟨r, hr, hdigest⟩ := hresolves.claim c rfl
        refine ⟨r, ?_, hdigest⟩
        rw [hdb]
        simpa only [Db.setRows, Function.update_self] using hr
    | replay o =>
      intro _
      obtain ⟨r, hr, hterminal, rfl, hdigest⟩ := hresolves.replay o rfl
      exact .unchanged hrows hstep (replay_ok ((hrows _ r hr).tail hstep) hterminal hdigest)
    | keyReused => exact fun _ => .unchanged hrows hstep trivial
    | inProgress => exact fun _ => .unchanged hrows hstep trivial

/-- A step of a call keeps the records right. -/
lemma Advances.secures {id : CallId} {call : ActivationCall} {delivery : Delivery} {db : Db}
    {process : Process} {phase : ActivationPhase} (hrun : Runs F first first w)
    (hcall : w.activations id = some call) (hrows : RowsOk F first w)
    (hok : ActivationOk F first w call) (hstep : step F w a = some (w', out)) (hdb : w'.db = db)
    (h : Advances F w id call delivery db process phase) : Secures F first w w' call db phase := by
  have hpassed : Passed F first w w' := ⟨hrun, (System.Steps.refl w).tail trivial hstep⟩
  have hreached : Passed F first w' w' := ⟨hrun.tail trivial hstep, .refl _⟩
  cases h with
  | claimed hphase => exact claimTx_secures hrows hstep hdb
  | unclaimed _ hphase hclaimed =>
    rcases hclaimed with rfl | rfl
    · exact .unchanged hrows hstep trivial
    · have hsecures := claimTx_secures hrows hstep hdb
      exact ⟨hsecures.grow, hsecures.rows, trivial⟩
  | replayed resourceId hphase =>
    simp only [ActivationOk, hphase] at hok
    obtain ⟨record, rfl, hstands⟩ := hok
    refine .unchanged hrows hstep ?_
    simp only [KnowledgeSeam.replayed, Option.bind_some, hstands.1]
    exact ⟨record, rfl, hstands.tail hstep⟩
  | unread => exact .unchanged hrows hstep trivial
  | validated c _ hphase hnext =>
    simp only [ActivationOk, hphase] at hok
    have hclaim : ClaimOk F w' call.request c := hok.of_grow fun scope => by
      rw [hdb]
      exact .refl _
    refine .unchanged hrows hstep ?_
    rcases hnext with ⟨entry, knowledge, rfl⟩ | ⟨reason, rfl⟩ | ⟨e, rfl⟩
    · exact hclaim
    · exact hclaim
    · trivial
  | undone c _ hphase hnext =>
    have hclaim : ClaimOk F w' call.request c := by
      refine ClaimOk.of_grow (w := w) ?_ fun scope => by rw [hdb]; exact .refl _
      rcases hphase with ⟨reason, hphase⟩ | ⟨entry, knowledge, hphase⟩
      all_goals
        simp only [ActivationOk, hphase] at hok
        exact hok
    refine .unchanged hrows hstep ?_
    rcases hnext with rfl | rfl | ⟨e, rfl⟩
    · exact hclaim
    · trivial
    · trivial
  | refused c before _ response _ hphase hbefore hrefused hnext =>
    have hsame : before.idempotency = w.db.idempotency := by
      rcases hbefore with rfl | ⟨digest, r, -, rfl⟩
      · rfl
      · exact register_idempotency _ digest r
    have hclaim : ClaimOk F w call.request c := by
      rcases hphase with ⟨reason, hphase⟩ | ⟨entry, knowledge, hphase⟩
      all_goals
        simp only [ActivationOk, hphase] at hok
        exact hok
    obtain ⟨r, o, now, hr, hcode, hstored⟩ := hrefused.stored
    rw [hsame] at hr hstored
    have hkept : (r.finished .FAILED_TERMINAL o now).requestSemanticDigest =
        r.requestSemanticDigest := rfl
    obtain ⟨hgrow, hmem⟩ := rewritten hr hkept hstored
    refine ⟨hgrow, fun scope x hx => ?_, ?_⟩
    · rcases hmem scope x hx with rfl | hx
      · exact hcode
      · exact (hrows scope x hx).tail hstep
    · rcases hnext with rfl | rfl
      · obtain ⟨code, rfl⟩ := hrefused.code
        trivial
      · exact hclaim.of_grow (by rwa [hdb])
  | activated c entry knowledge recordId _ response state _ hphase hactivated hnext =>
    obtain ⟨claimed, hclaimed, hdigest⟩ : ClaimOk F w call.request c := by
      simp only [ActivationOk, hphase] at hok
      exact hok
    obtain ⟨r, o, hr, hcode, hresource, hstored⟩ := hactivated.stored
    obtain rfl := Option.some.inj (hclaimed.symm.trans hr)
    have hkept : (claimed.finished .COMPLETED o w.now).requestSemanticDigest =
        claimed.requestSemanticDigest := rfl
    obtain ⟨hgrow, hmem⟩ := rewritten hr hkept hstored
    obtain ⟨p, q, phase₀⟩ := call
    obtain rfl : phase₀ = .activating c entry knowledge := hphase
    have hfresh : (w.db.register q.digest (reference entry knowledge)).activation recordId = none := by
      rw [Db.activation, register_activations]
      exact hactivated.fresh
    have hstands : Stands F first w' (F.semanticDigest q.body) (newRecord
        (w.processes p).deploymentRef q w.now state.activeBundleContentDigest recordId) := by
      refine ⟨?_, q, w, w', rfl, hpassed, hreached, ⟨a, out, hstep⟩,
        ⟨p, state, hactivated.pointer, hactivated.expected, rfl, ?_⟩, ?_⟩
      · rw [Db.activation, hdb, hactivated.keeps.activations]
        exact activation_addActivation (newRecord (w.processes p).deploymentRef q w.now
          state.activeBundleContentDigest recordId) hfresh
      · rw [hdb, hactivated.keeps.deployments, point_self]
        rfl
      · rw [hdb, hactivated.keeps.activations]
        exact congrArg (· ++ _) (register_activations _ _ _)
    refine ⟨hgrow, fun scope x hx => ?_, ?_⟩
    · rcases hmem scope x hx with rfl | hx
      · refine ⟨hcode, newRecord (w.processes p).deploymentRef q w.now
          state.activeBundleContentDigest recordId, hresource, ?_⟩
        rw [hkept, hdigest]
        exact hstands
      · exact (hrows scope x hx).tail hstep
    · rcases hnext with rfl | ⟨rfl, -⟩
      · rw [hactivated.response]
        exact ⟨_, rfl, hstands⟩
      · exact ClaimOk.of_grow ⟨claimed, hclaimed, hdigest⟩ (by rwa [hdb])
  | released c _ hphase hreleased =>
    rcases hreleased with rfl | ⟨r, o, hr, rfl⟩
    · exact .unchanged hrows hstep trivial
    · have hkept : (r.finished .RELEASED o w.now).requestSemanticDigest =
          r.requestSemanticDigest := rfl
      obtain ⟨hgrow, hmem⟩ := rewritten hr hkept rfl
      refine ⟨hgrow, fun scope x hx => ?_, trivial⟩
      rcases hmem scope x hx with rfl | hx
      · trivial
      · exact (hrows scope x hx).tail hstep

/-- What a step does to the calls of `_activate` and to the keys. -/
inductive Calls (F : Functions) (w w' : World) : Prop where
  | idle (hkeys : w'.db.idempotency = w.db.idempotency)
      (hcalls : ∀ id, w'.activations id = w.activations id ∨
        ∃ p q, w'.activations id = some ⟨p, q, .claiming⟩)
  | advanced (id : CallId) (call : ActivationCall) (delivery : Delivery) (db : Db)
      (process : Process) (phase : ActivationPhase) (hcall : w.activations id = some call)
      (h : Advances F w id call delivery db process phase)
      (hw : w' = ((w.setDb db).setProcess call.process process).setActivation id
        { call with phase := phase })

lemma readStep_activations {id : CallId} {call : ReadingCall} (h : readStep F w id call = some w') :
    w'.activations = w.activations := by
  unfold readStep at h
  simp only at h
  split at h
  all_goals cases h
  all_goals rfl

lemma step_calls (h : step F w a = some (w', out)) : Calls F w w' := by
  cases a with
  | tick | withdraw | writeStore | writeReleases | verify =>
    obtain ⟨rfl, -⟩ := Prod.mk.inj (Option.some.inj h)
    exact .idle rfl fun _ => .inl rfl
  | beginReading other p =>
    rw [step] at h
    split at h
    · obtain ⟨rfl, -⟩ := Prod.mk.inj (Option.some.inj h)
      exact .idle rfl fun _ => .inl rfl
    · cases h
  | read other fails =>
    rw [step] at h
    split at h
    · cases h
    · obtain ⟨w₁, hread, hw⟩ := Option.map_eq_some_iff.mp h
      obtain rfl := (Prod.mk.inj hw).1
      split_ifs
      · exact .idle rfl fun _ => .inl rfl
      · exact .idle (by rw [readStep_db hread]) fun id =>
          .inl (congrFun (readStep_activations hread) id)
  | request other p principal roles key body =>
    rw [step] at h
    split at h
    · cases h
    · split at h
      · obtain ⟨rfl, -⟩ := Prod.mk.inj (Option.some.inj h)
        exact .idle rfl fun _ => .inl rfl
      · rename_i q hq
        obtain ⟨rfl, -⟩ := Prod.mk.inj (Option.some.inj h)
        refine .idle rfl fun id => ?_
        by_cases hid : id = other
        · subst hid
          exact .inr ⟨p, q, Function.update_self _ _ _⟩
        · exact .inl (Function.update_of_ne hid _ _)
  | activate other delivery raises recordId =>
    rw [step] at h
    split at h
    · cases h
    · rename_i call hcall
      obtain ⟨w₁, hstep, hw⟩ := Option.map_eq_some_iff.mp h
      obtain rfl := (Prod.mk.inj hw).1
      obtain ⟨db, process, phase, hadvances, rfl⟩ := activateStep_advances hstep
      exact .advanced other call delivery db process phase hcall hadvances rfl

/-- What another call does leaves the phase of a call right. -/
lemma ActivationOk.tail {call : ActivationCall} (h : ActivationOk F first w call)
    (hstep : step F w a = some (w', out))
    (hgrow : ∀ scope, RowsGrow (w.db.idempotency scope) (w'.db.idempotency scope)) :
    ActivationOk F first w' call := by
  obtain ⟨p, q, phase⟩ := call
  cases phase with
  | claiming | raised => trivial
  | replaying resourceId =>
    obtain ⟨record, hresource, hstands⟩ := h
    exact ⟨record, hresource, hstands.tail hstep⟩
  | validating | rejecting | activating | releasing => exact ClaimOk.of_grow h hgrow
  | answered response =>
    cases response with
    | error => trivial
    | accepted view =>
      obtain ⟨record, hview, hstands⟩ := h
      exact ⟨record, hview, hstands.tail hstep⟩

lemma setActivation_self (w : World) (id : CallId) (call : ActivationCall) :
    (w.setActivation id call).activations id = some call := Function.update_self _ _ _

lemma setActivation_of_ne (w : World) {id other : CallId} (h : other ≠ id) (call : ActivationCall) :
    (w.setActivation id call).activations other = w.activations other := Function.update_of_ne h _ _

/-- Along every run the keys stand for activations of the run, and so do the accepted requests. -/
theorem activationOk_of_runs (hfirst : Fresh first) (h : Runs F first first w) :
    RowsOk F first w ∧ ∀ id call, w.activations id = some call → ActivationOk F first w call := by
  induction h with
  | refl =>
    refine ⟨fun scope r hr => ?_, fun id call hcall => ?_⟩
    · rw [hfirst.keys scope] at hr
      cases hr
    · rw [hfirst.activations id] at hcall
      cases hcall
  | @tail w w' a out hrun _ hstep ih =>
    obtain ⟨hrows, hcalls⟩ := ih
    cases step_calls hstep with
    | idle hkeys hidle =>
      refine ⟨fun scope r hr => ?_, fun id call hcall => ?_⟩
      · rw [hkeys] at hr
        exact (hrows scope r hr).tail hstep
      · rcases hidle id with hsame | ⟨p, q, hnew⟩
        · rw [hsame] at hcall
          exact (hcalls id call hcall).tail hstep fun scope => by rw [hkeys]; exact .refl _
        · rw [hnew] at hcall
          obtain rfl := Option.some.inj hcall
          trivial
    | advanced id call delivery db process phase hcall hadvances hw =>
      have hdb : w'.db = db := by
        rw [hw]
        rfl
      have hsecures := hadvances.secures hrun hcall hrows (hcalls id call hcall) hstep hdb
      refine ⟨fun scope r hr => hsecures.rows scope r (hdb ▸ hr), fun other call' hcall' => ?_⟩
      by_cases hother : other = id
      · subst hother
        rw [hw, setActivation_self] at hcall'
        obtain rfl := Option.some.inj hcall'
        exact hsecures.next
      · rw [hw, setActivation_of_ne _ hother] at hcall'
        have hold : w.activations other = some call' := hcall'
        exact (hcalls other call' hold).tail hstep (hdb ▸ hsecures.grow)

end TrustLens.Backend.KnowledgeSeam
