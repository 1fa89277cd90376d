import TrustLens.Backend.EvaluationWorker
import TrustLens.Lib.Except

/-!
# Fencing of evaluation workers

What one transaction can change, what one step can do, and what holds in every
reachable state: one terminal transition an evaluation, one result under the live
token exactly for the completed ones, one terminal audit event, and nothing from a
worker that lost its token.
-/

namespace TrustLens.Backend.EvaluationWorker

/-! ## What a transaction can do -/

lemma updateWhere_ok {db db' : Db} {e : EvaluationId} {p : Evaluation → Bool}
    {f : Evaluation → Evaluation} {updated : Bool}
    (h : db.updateWhere e p f = .ok (db', updated)) :
    (db' = db ∧ updated = false) ∨ ∃ r, db.evaluations[e]? = some r ∧ p r = true ∧
      rowChecks (f r) = true ∧ db' = db.setEvaluation e (f r) ∧ updated = true := by
  unfold Db.updateWhere at h
  split at h
  · obtain ⟨rfl, rfl⟩ := Prod.mk.inj (Except.ok.inj h)
    exact .inl ⟨rfl, rfl⟩
  · rename_i r hr
    split_ifs at h with hp hg
    · obtain ⟨rfl, rfl⟩ := Prod.mk.inj (Except.ok.inj h)
      simp only [Bool.and_eq_true] at hg
      exact .inr ⟨r, hr, hp, hg.2, rfl, rfl⟩
    · obtain ⟨rfl, rfl⟩ := Prod.mk.inj (Except.ok.inj h)
      exact .inl ⟨rfl, rfl⟩

lemma claimTx_ok {db db' : Db} {e : EvaluationId} {w : Token} {j : Job} {now : Time}
    {updated : Bool} (h : claimTx db e w j now = .ok (db', updated)) :
    (db' = db ∧ updated = false) ∨ ∃ r, db.evaluations[e]? = some r ∧ r.status = .REQUESTED ∧
      db' = db.setEvaluation e (r.running w j now) ∧ updated = true := by
  rcases updateWhere_ok h with h | ⟨r, hr, hs, -, rfl, rfl⟩
  · exact .inl h
  · exact .inr ⟨r, hr, by simpa using hs, rfl, rfl⟩

lemma isFailed_of_checks {r : Evaluation} {status : Status} {category : FailureCategory}
    {now : Time} (h : rowChecks (r.failed status category now) = true) :
    status.isFailed = true := by
  simp only [rowChecks, Evaluation.failed, Option.isSome_some, Bool.and_true, Bool.and_eq_true,
    beq_true] at h
  exact h.1.1.2

lemma failPreconditionTx_ok {db db' : Db} {e : EvaluationId} {category : FailureCategory}
    {now : Time} (h : failPreconditionTx db e category now = .ok (db', ())) :
    db' = db ∨ ∃ r, db.evaluations[e]? = some r ∧ r.status = .REQUESTED ∧
      db' = (db.setEvaluation e (r.failed .FAILED_PRECONDITION category now)).append
        (failedEvent e category) := by
  unfold failPreconditionTx at h
  obtain ⟨⟨db₁, updated⟩, hu, h⟩ := bind_ok h
  obtain rfl := (Prod.mk.inj (Except.ok.inj h)).1
  rcases updateWhere_ok hu with ⟨rfl, rfl⟩ | ⟨r, hr, hs, -, rfl, rfl⟩
  · exact .inl rfl
  · exact .inr ⟨r, hr, by simpa using hs, rfl⟩

lemma failRunningTx_ok {db db' : Db} {e : EvaluationId} {w : Token} {status : Status}
    {category : FailureCategory} {now : Time}
    (h : failRunningTx db e w status category now = .ok (db', ())) :
    db' = db ∨ ∃ r, db.evaluations[e]? = some r ∧ r.heldBy w = true ∧ status.isFailed = true ∧
      db' = (db.setEvaluation e (r.failed status category now)).append
        (failedEvent e category) := by
  unfold failRunningTx at h
  obtain ⟨⟨db₁, updated⟩, hu, h⟩ := bind_ok h
  obtain rfl := (Prod.mk.inj (Except.ok.inj h)).1
  rcases updateWhere_ok hu with ⟨rfl, rfl⟩ | ⟨r, hr, hs, hc, rfl, rfl⟩
  · exact .inl rfl
  · exact .inr ⟨r, hr, hs, isFailed_of_checks hc, rfl⟩

/-- The tables after `_complete` commits. -/
def completion (K : Commitments) (db : Db) (e : EvaluationId) (w : Token) (j : Job)
    (d : Document) (r : Evaluation) : Db :=
  { evaluations := db.evaluations.set e r
    results := db.results ++ [resultRow K e w j d]
    audit := db.audit ++
      [⟨.RESULT_PERSISTED, e, none, some (K.resultDigest d), some j.pins.bundleContentDigest⟩,
       ⟨.EVALUATION_COMPLETED, e, none, none, some j.pins.bundleContentDigest⟩] }

lemma completeTx_ok {K : Commitments} {db db' : Db} {e : EvaluationId} {w : Token} {j : Job}
    {d : Document} {now : Time} (h : completeTx K db e w j d now = .ok (db', ())) :
    ∃ r material, db.evaluations[e]? = some r ∧ r.heldBy w = true ∧
      insertGuard db (resultRow K e w j d) = true ∧
      db' = completion K db e w j d (r.completed material now) := by
  unfold completeTx at h
  split_ifs at h with hs
  obtain ⟨inserted, hi, h⟩ := bind_ok h
  unfold Db.insertResult at hi
  split_ifs at hi with hg
  obtain rfl := Except.ok.inj hi
  unfold markCompleted at h
  split at h
  · exact absurd h (by simp)
  · rename_i material _
    obtain ⟨⟨db₁, updated⟩, hu, h⟩ := bind_ok h
    rcases updateWhere_ok hu with ⟨rfl, rfl⟩ | ⟨r, hr, hh, -, rfl, rfl⟩
    · exact absurd h (by simp)
    · simp only [if_true] at h
      split_ifs at h
      obtain rfl := (Prod.mk.inj (Except.ok.inj h)).1
      simp only [Bool.and_eq_true] at hg
      refine ⟨r, material, hr, hh, hg.1, ?_⟩
      simp [completion, Db.setEvaluation, Db.auditCompleted, Db.append, Db.addResult, resultRow]

lemma recoverTx_ok {db db' : Db} {now : Time} (h : recoverTx db now = .ok (db', ())) :
    db' = { db with
      evaluations := db.evaluations.map (·.fenced now)
      audit := db.audit ++ (db.expired now).map (failedEvent · .EXECUTION_LEASE_EXPIRED) } := by
  unfold recoverTx at h
  split_ifs at h
  exact (Prod.mk.inj (Except.ok.inj h)).1.symm

/-! ## What a step can do -/

/-- The phases a worker reaches only after it drew its token for a claim. -/
def Phase.claimed : Phase → Bool
  | .computing _ | .completing _ _ | .failingRunning _ _ | .ended => true
  | _ => false

def Phase.job? : Phase → Option Job
  | .computing job | .completing job _ => some job
  | _ => none

/-- A worker on its way: once past the claim it stays past it, with the job it claimed,
and it completes only with a document that passed the check. -/
structure Follows (e : EvaluationId) (p p' : Phase) : Prop where
  claimed : p.claimed = true → p'.claimed = true
  job : ∀ j, p'.job? = some j → p.job? = some j ∨ p.claimed = false
  checked : ∀ j d, p' = .completing j d → p = p' ∨ checkDocument d j.pins e j.context = true

/-- Everything a step can do. -/
inductive Move (K : Commitments) (s : Sys) : Action → Sys → Prop where
  | tick (d : Time) : Move K s (.tick d) { s with now := s.now + d }
  | requested (context : Context) :
      Move K s (.request context) (s.setDb (requestTx s.db context))
  | spawned (w : Token) (e : EvaluationId) (hw : s.workers w = none) :
      Move K s (.spawn w e) (s.setWorker w ⟨e, .reading⟩)
  | moved (a : Action) (w : Token) (worker : Worker) (p : Phase)
      (hw : s.workers w = some worker) (ha : a.worker? = some w)
      (hp : Follows worker.evaluation worker.phase p) : Move K s a (s.setPhase w worker p)
  | claimed (w : Token) (delivery : Delivery) (start : Time) (worker : Worker) (job : Job)
      (r : Evaluation) (p : Phase) (hw : s.workers w = some worker)
      (hphase : worker.phase = .claiming job) (hr : s.db.evaluations[worker.evaluation]? = some r)
      (hs : r.status = .REQUESTED) (hp : p = .computing job ∨ p = .ended) :
      Move K s (.transact w delivery start)
        ((s.setDb (s.db.setEvaluation worker.evaluation (r.running w job start))).setPhase
          w worker p)
  | preconditionFailed (w : Token) (delivery : Delivery) (start : Time) (worker : Worker)
      (category : FailureCategory) (r : Evaluation) (hw : s.workers w = some worker)
      (hphase : worker.phase = .failingPrecondition category)
      (hr : s.db.evaluations[worker.evaluation]? = some r) (hs : r.status = .REQUESTED) :
      Move K s (.transact w delivery start)
        ((s.setDb ((s.db.setEvaluation worker.evaluation
          (r.failed .FAILED_PRECONDITION category start)).append
            (failedEvent worker.evaluation category))).setPhase w worker .ended)
  | completed (w : Token) (delivery : Delivery) (start : Time) (worker : Worker) (job : Job)
      (d : Document) (r : Evaluation) (material : String) (p : Phase)
      (hw : s.workers w = some worker) (hphase : worker.phase = .completing job d)
      (hr : s.db.evaluations[worker.evaluation]? = some r) (hh : r.heldBy w = true)
      (hg : insertGuard s.db (resultRow K worker.evaluation w job d) = true)
      (hp : p.claimed = true ∧ p.job? = none) :
      Move K s (.transact w delivery start)
        ((s.setDb (completion K s.db worker.evaluation w job d
          (r.completed material start))).setPhase w worker p)
  | failed (w : Token) (delivery : Delivery) (start : Time) (worker : Worker) (status : Status)
      (category : FailureCategory) (r : Evaluation) (hw : s.workers w = some worker)
      (hphase : worker.phase = .failingRunning status category)
      (hr : s.db.evaluations[worker.evaluation]? = some r) (hh : r.heldBy w = true)
      (hf : status.isFailed = true) :
      Move K s (.transact w delivery start)
        ((s.setDb ((s.db.setEvaluation worker.evaluation (r.failed status category start)).append
            (failedEvent worker.evaluation category))).setPhase w worker .ended)
  | recovered (delivery : Delivery) (start : Time) :
      Move K s (.recover delivery start)
        (s.setDb { s.db with
          evaluations := s.db.evaluations.map (·.fenced start)
          audit := s.db.audit ++
            (s.db.expired start).map (failedEvent · .EXECUTION_LEASE_EXPIRED) })
  | idle (delivery : Delivery) (start : Time) : Move K s (.recover delivery start) s

lemma follows_ended (e : EvaluationId) (p : Phase) : Follows e p .ended :=
  ⟨fun _ => rfl, fun j h => absurd h (by simp [Phase.job?]), fun j d h => absurd h (by simp)⟩

/-- Leaving a phase before the claim for another one before it. -/
lemma follows_unclaimed {e : EvaluationId} {p p' : Phase} (h : p.claimed = false)
    (h' : p'.claimed = false) : Follows e p p' := by
  refine ⟨fun hp => absurd hp (by simp [h]), fun j hj => .inr h, ?_⟩
  rintro j d rfl
  exact absurd h' (by simp [Phase.claimed])

lemma afterComplete_claimed (seen : Seen TxError Unit) :
    (afterComplete seen).claimed = true ∧ (afterComplete seen).job? = none := by
  rcases seen with _ | (_ | _ | _) | _ <;> exact ⟨rfl, rfl⟩

lemma afterClaim_ended {job : Job} {seen : Seen TxError Bool} (h : seen ≠ .done true) :
    afterClaim job seen = .ended := by
  rcases seen with (_ | _) | _ | _
  · rfl
  · exact absurd rfl h
  · rfl
  · rfl

lemma afterClaim_cases (job : Job) (seen : Seen TxError Bool) :
    afterClaim job seen = .computing job ∨ afterClaim job seen = .ended := by
  by_cases h : seen = .done true
  · exact .inl (h ▸ rfl)
  · exact .inr (afterClaim_ended h)

lemma follows_afterComplete {e : EvaluationId} {p : Phase} (seen : Seen TxError Unit) :
    Follows e p (afterComplete seen) := by
  refine ⟨fun _ => (afterComplete_claimed seen).1, fun j h => ?_, fun j d h => ?_⟩
  · exact absurd h (by simp [(afterComplete_claimed seen).2])
  · have hj := congrArg Phase.job? h
    rw [(afterComplete_claimed seen).2] at hj
    exact absurd hj (by simp [Phase.job?])

lemma transact_cases {K : Commitments} {s s' : Sys} {w : Token} {worker : Worker}
    {delivery : Delivery} {start : Time} (hw : s.workers w = some worker)
    (h : transact K s w worker delivery start = some s') :
    Move K s (.transact w delivery start) s' := by
  have ha : (Action.transact w delivery start).worker? = some w := rfl
  have hend : Move K s (.transact w delivery start) (s.setPhase w worker .ended) :=
    .moved _ w worker .ended hw ha (follows_ended _ _)
  unfold transact at h
  split at h
  · rename_i category hphase
    obtain rfl := Option.some.inj h
    rcases deliver_cases s.db (failPreconditionTx s.db worker.evaluation category start) delivery
      with ⟨seen, hout, -⟩ | ⟨db', ⟨⟩, seen, hd, hout, -⟩
    · rw [hout]
      exact hend
    · rw [hout]
      rcases failPreconditionTx_ok hd with rfl | ⟨r, hr, hs, rfl⟩
      · exact hend
      · exact .preconditionFailed w delivery start worker category r hw hphase hr hs
  · rename_i job hphase
    obtain rfl := Option.some.inj h
    rcases deliver_cases s.db (claimTx s.db worker.evaluation w job start) delivery
      with ⟨seen, hout, hn⟩ | ⟨db', updated, seen, hd, hout, hseen⟩
    · rw [hout, afterClaim_ended (hn true)]
      exact hend
    · rw [hout]
      rcases claimTx_ok hd with ⟨rfl, rfl⟩ | ⟨r, hr, hs, rfl, rfl⟩
      · rw [afterClaim_ended (by rcases hseen with rfl | rfl <;> simp)]
        exact hend
      · exact .claimed w delivery start worker job r _ hw hphase hr hs (afterClaim_cases job _)
  · rename_i job d hphase
    obtain rfl := Option.some.inj h
    rcases deliver_cases s.db (completeTx K s.db worker.evaluation w job d start) delivery
      with ⟨seen, hout, -⟩ | ⟨db', ⟨⟩, seen, hd, hout, -⟩
    · rw [hout]
      exact .moved _ w worker _ hw ha (follows_afterComplete _)
    · rw [hout]
      obtain ⟨r, material, hr, hh, hg, rfl⟩ := completeTx_ok hd
      exact .completed w delivery start worker job d r material _ hw hphase hr hh hg
        (afterComplete_claimed _)
  · rename_i status category hphase
    obtain rfl := Option.some.inj h
    rcases deliver_cases s.db (failRunningTx s.db worker.evaluation w status category start)
      delivery with ⟨seen, hout, -⟩ | ⟨db', ⟨⟩, seen, hd, hout, -⟩
    · rw [hout]
      exact hend
    · rw [hout]
      rcases failRunningTx_ok hd with rfl | ⟨r, hr, hh, hf, rfl⟩
      · exact hend
      · exact .failed w delivery start worker status category r hw hphase hr hh hf
  · exact absurd h (by simp)

theorem step_cases {K : Commitments} {s s' : Sys} {a : Action} {out : Unit}
    (h : step K s a = some (s', out)) : Move K s a s' := by
  cases a with
  | tick d =>
    simp only [step, Option.some.injEq, Prod.mk.injEq, and_true] at h
    exact h ▸ .tick d
  | request context =>
    simp only [step, Option.some.injEq, Prod.mk.injEq, and_true] at h
    exact h ▸ .requested context
  | spawn w e =>
    simp only [step] at h
    split at h
    · rename_i hw
      simp only [Option.some.injEq, Prod.mk.injEq, and_true] at h
      exact h ▸ .spawned w e hw
    · exact absurd h (by simp)
  | read w =>
    simp only [step] at h
    split at h
    · rename_i e hw
      split at h
      · rename_i r hr
        simp only [Option.some.injEq, Prod.mk.injEq, and_true] at h
        subst h
        refine .moved (.read w) w ⟨e, .reading⟩ _ hw rfl ?_
        split_ifs
        · exact follows_unclaimed rfl rfl
        · exact follows_ended _ _
      · simp only [Option.some.injEq, Prod.mk.injEq, and_true] at h
        exact h ▸ .moved (.read w) w ⟨e, .reading⟩ .ended hw rfl (follows_ended _ _)
    · exact absurd h (by simp)
  | check w verdict =>
    simp only [step] at h
    split at h
    · rename_i e context hw
      split at h
      · simp only [Option.some.injEq, Prod.mk.injEq, and_true] at h
        exact h ▸ .moved (.check w _) w ⟨e, .checking context⟩ _ hw rfl (follows_unclaimed rfl rfl)
      · simp only [Option.some.injEq, Prod.mk.injEq, and_true] at h
        exact h ▸ .moved (.check w _) w ⟨e, .checking context⟩ _ hw rfl (follows_unclaimed rfl rfl)
    · exact absurd h (by simp)
  | compute w document =>
    simp only [step] at h
    split at h
    · rename_i e job hw
      have hfail : ∀ status category, Follows e (.computing job) (.failingRunning status category) :=
        fun _ _ => ⟨fun _ => rfl, fun j h => absurd h (by simp [Phase.job?]),
          fun j d h => absurd h (by simp)⟩
      split at h
      · rename_i d
        split_ifs at h with hd
        · simp only [Option.some.injEq, Prod.mk.injEq, and_true] at h
          subst h
          refine .moved (.compute w _) w ⟨e, .computing job⟩ (.completing job d) hw rfl
            ⟨fun _ => rfl, fun j hj => .inl hj, ?_⟩
          intro j d' hj
          obtain ⟨rfl, rfl⟩ := Phase.completing.inj hj
          exact .inr hd
        · simp only [Option.some.injEq, Prod.mk.injEq, and_true] at h
          exact h ▸ .moved (.compute w _) w ⟨e, .computing job⟩ _ hw rfl (hfail _ _)
      · simp only [Option.some.injEq, Prod.mk.injEq, and_true] at h
        exact h ▸ .moved (.compute w _) w ⟨e, .computing job⟩ _ hw rfl (hfail _ _)
    · exact absurd h (by simp)
  | transact w delivery start =>
    simp only [step] at h
    split at h
    · rename_i worker hw
      split_ifs at h with hle
      obtain ⟨t, ht, h⟩ := Option.map_eq_some_iff.mp h
      simp only [Prod.mk.injEq, and_true] at h
      exact h ▸ transact_cases hw ht
    · exact absurd h (by simp)
  | crash w =>
    simp only [step] at h
    split at h
    · rename_i worker hw
      simp only [Option.some.injEq, Prod.mk.injEq, and_true] at h
      exact h ▸ .moved (.crash w) w worker .ended hw rfl (follows_ended _ _)
    · exact absurd h (by simp)
  | recover delivery start =>
    simp only [step] at h
    split_ifs at h with hle
    simp only [Option.some.injEq, Prod.mk.injEq, and_true] at h
    rcases deliver_cases s.db (recoverTx s.db start) delivery
      with ⟨seen, hout, -⟩ | ⟨db', ⟨⟩, seen, hd, hout, -⟩
    · rw [hout] at h
      exact h ▸ .idle delivery start
    · rw [hout, recoverTx_ok hd] at h
      exact h ▸ .recovered delivery start

/-! ## Who holds a token -/

/-- A token stands in a row only while its worker is past the claim of that evaluation,
with the pins the worker claimed it with. -/
structure Held (s : Sys) : Prop where
  holder : ∀ (e : EvaluationId) (r : Evaluation) (w : Token),
    s.db.evaluations[e]? = some r → r.executionFenceToken = some w →
    ∃ worker, s.workers w = some worker ∧ worker.evaluation = e ∧
      worker.phase.claimed = true ∧ ∀ j, worker.phase.job? = some j → r.pinned = some j.pinned
  checked : ∀ w worker j d, s.workers w = some worker → worker.phase = .completing j d →
    checkDocument d j.pins worker.evaluation j.context = true

lemma held_init : Held Sys.init where
  holder := by simp [Sys.init, Db.empty]
  checked := by simp [Sys.init]

lemma workers_setPhase {s : Sys} {w w' : Token} {worker worker' : Worker} {p : Phase}
    (h : (s.setPhase w worker p).workers w' = some worker') :
    (w' = w ∧ worker' = { worker with phase := p }) ∨ (w' ≠ w ∧ s.workers w' = some worker') := by
  simp only [Sys.setPhase, Sys.setWorker] at h
  split_ifs at h with hw
  · exact .inl ⟨hw, (Option.some.inj h).symm⟩
  · exact .inr ⟨hw, h⟩

lemma workers_setPhase_self {s : Sys} {w : Token} {worker : Worker} {p : Phase} :
    (s.setPhase w worker p).workers w = some { worker with phase := p } := if_pos rfl

lemma workers_setPhase_ne {s : Sys} {w w' : Token} {worker : Worker} {p : Phase} (h : w' ≠ w) :
    (s.setPhase w worker p).workers w' = s.workers w' := if_neg h

/-- Tables whose rows carry no token but old ones, with their old pins, under a worker
that moves on. -/
lemma Held.advance {s : Sys} (hs : Held s) {db : Db} {w : Token} {worker : Worker} {p : Phase}
    (hw : s.workers w = some worker) (hp : Follows worker.evaluation worker.phase p)
    (hdb : ∀ (e : EvaluationId) (r : Evaluation) (t : Token), db.evaluations[e]? = some r →
      r.executionFenceToken = some t → ∃ q, s.db.evaluations[e]? = some q ∧ q.executionFenceToken = some t ∧
        q.pinned = r.pinned) : Held ((s.setDb db).setPhase w worker p) where
  holder := by
    intro e r t hr ht
    obtain ⟨q, hq, hqt, hqp⟩ := hdb e r t hr ht
    obtain ⟨worker', hw', he, hc, hj⟩ := hs.holder e q t hq hqt
    by_cases htw : t = w
    · subst htw
      obtain rfl := Option.some.inj (hw.symm.trans hw')
      refine ⟨_, workers_setPhase_self, he, hp.claimed hc, ?_⟩
      intro j hjp
      rcases hp.job j hjp with hjp | hn
      · exact hqp ▸ hj j hjp
      · exact absurd hc (by simp [hn])
    · exact ⟨worker', (workers_setPhase_ne htw).trans hw', he, hc, fun j hjp => hqp ▸ hj j hjp⟩
  checked := by
    intro t worker' j d hw' hphase
    rcases workers_setPhase hw' with ⟨rfl, rfl⟩ | ⟨-, hw'⟩
    · rcases hp.checked j d hphase with heq | hc
      · exact hs.checked t worker j d hw (heq.trans hphase)
      · exact hc
    · exact hs.checked t worker' j d hw' hphase

lemma getElem?_setEvaluation {db : Db} {e e' : EvaluationId} {r r' : Evaluation}
    (hr : db.evaluations[e]? = some r) :
    (db.setEvaluation e r').evaluations[e']? = if e = e' then some r' else db.evaluations[e']? := by
  have he : e < db.evaluations.length := (List.getElem?_eq_some_iff.mp hr).1
  by_cases h : e = e'
  · subst h
    simp [Db.setEvaluation, he]
  · simp [Db.setEvaluation, h]

/-- The rows after one of them was rewritten without a new token. -/
lemma tokens_set {db db' : Db} {e : EvaluationId} {r v : Evaluation}
    (hr : db.evaluations[e]? = some r)
    (hdb : db'.evaluations = (db.setEvaluation e v).evaluations)
    (ht : v.executionFenceToken = none ∨
      v.executionFenceToken = r.executionFenceToken ∧ v.pinned = r.pinned) :
    ∀ (e' : EvaluationId) (q : Evaluation) (t : Token), db'.evaluations[e']? = some q →
      q.executionFenceToken = some t → ∃ q', db.evaluations[e']? = some q' ∧ q'.executionFenceToken = some t ∧
        q'.pinned = q.pinned := by
  intro e' q t hq hqt
  rw [hdb, getElem?_setEvaluation hr] at hq
  split_ifs at hq with h
  · subst h
    obtain rfl := Option.some.inj hq
    rcases ht with ht | ⟨ht, hp⟩
    · exact absurd (ht.symm.trans hqt) (by simp)
    · exact ⟨r, hr, ht.symm.trans hqt, hp.symm⟩
  · exact ⟨q, hq, hqt, rfl⟩

lemma tokens_request {db : Db} {context : Context} {e : EvaluationId} {r : Evaluation} {t : Token}
    (hr : (requestTx db context).evaluations[e]? = some r)
    (ht : r.executionFenceToken = some t) : db.evaluations[e]? = some r := by
  simp only [requestTx, List.getElem?_append] at hr
  split_ifs at hr with h
  · exact hr
  · obtain rfl := List.mem_singleton.mp (List.mem_of_getElem? hr)
    exact absurd ht (by simp)

lemma fenced_token {r : Evaluation} {now : Time} {t : Token}
    (h : (r.fenced now).executionFenceToken = some t) : r.fenced now = r := by
  unfold Evaluation.fenced at h ⊢
  split_ifs at h ⊢
  · exact absurd h (by simp [Evaluation.failed])
  · rfl

theorem step_held {K : Commitments} {s s' : Sys} {a : Action} {out : Unit} (hs : Held s)
    (h : step K s a = some (s', out)) : Held s' := by
  cases step_cases h with
  | tick d => exact ⟨hs.holder, hs.checked⟩
  | requested context =>
    exact ⟨fun e r w hr ht => hs.holder e r w (tokens_request hr ht) ht, hs.checked⟩
  | spawned w e hw =>
    refine ⟨?_, ?_⟩
    · intro e' r t hr ht
      obtain ⟨worker, hw', hrest⟩ := hs.holder e' r t hr ht
      refine ⟨worker, ?_, hrest⟩
      have hne : t ≠ w := by
        rintro rfl
        exact absurd (hw.symm.trans hw') (by simp)
      exact (if_neg hne).trans hw'
    · intro t worker j d hw' hp
      simp only [Sys.setWorker] at hw'
      split_ifs at hw' with ht
      · obtain rfl := Option.some.inj hw'
        exact absurd hp (by simp)
      · exact hs.checked t worker j d hw' hp
  | moved _ w worker p hw ha hp =>
    have hkept : ∀ (e : EvaluationId) (r : Evaluation) (t : Token), s.db.evaluations[e]? = some r →
        r.executionFenceToken = some t → ∃ q, s.db.evaluations[e]? = some q ∧
          q.executionFenceToken = some t ∧ q.pinned = r.pinned :=
      fun e r t hr ht => ⟨r, hr, ht, rfl⟩
    exact hs.advance hw hp hkept
  | claimed w delivery start worker job r p hw hphase hr hst hp =>
    have hfresh : ∀ (e : EvaluationId) (q : Evaluation), s.db.evaluations[e]? = some q → q.executionFenceToken ≠ some w := by
      intro e q hq ht
      obtain ⟨worker', hw', -, hc, -⟩ := hs.holder e q w hq ht
      obtain rfl := Option.some.inj (hw.symm.trans hw')
      exact absurd hc (by simp [hphase, Phase.claimed])
    refine ⟨?_, ?_⟩
    · intro e q t hq ht
      change (s.db.setEvaluation _ _).evaluations[e]? = some q at hq
      rw [getElem?_setEvaluation hr] at hq
      split_ifs at hq with he
      · obtain rfl := Option.some.inj hq
        obtain rfl := Option.some.inj ht
        refine ⟨_, workers_setPhase_self, he, ?_, ?_⟩
        · rcases hp with rfl | rfl <;> rfl
        · intro j hj
          rcases hp with rfl | rfl
          · obtain rfl := Option.some.inj hj
            rfl
          · exact absurd hj (by simp [Phase.job?])
      · have htw : t ≠ w := by
          rintro rfl
          exact hfresh e q hq ht
        obtain ⟨worker', hw', hrest⟩ := hs.holder e q t hq ht
        exact ⟨worker', (workers_setPhase_ne htw).trans hw', hrest⟩
    · intro t worker' j d hw' hd
      rcases workers_setPhase hw' with ⟨rfl, rfl⟩ | ⟨-, hw'⟩
      · rcases hp with rfl | rfl <;> exact absurd hd (by simp)
      · exact hs.checked t worker' j d hw' hd
  | preconditionFailed w delivery start worker category r hw hphase hr hst =>
    exact hs.advance hw (follows_ended _ _) (tokens_set hr rfl (.inr ⟨rfl, rfl⟩))
  | completed w delivery start worker job d r material p hw hphase hr hh hg hp =>
    refine hs.advance hw ⟨fun _ => hp.1, fun j hj => ?_, fun j d' hj => ?_⟩
      (tokens_set (v := r.completed material start) hr rfl (.inr ⟨rfl, rfl⟩))
    · exact absurd hj (by simp [hp.2])
    · exact absurd hp.2 (by simp [hj, Phase.job?])
  | failed w delivery start worker status category r hw hphase hr hh hf =>
    refine hs.advance hw (follows_ended _ _) (tokens_set hr rfl ?_)
    by_cases hst : status = .FAILED_PRECONDITION
    · exact .inr ⟨if_pos hst, rfl⟩
    · exact .inl (if_neg hst)
  | recovered delivery start =>
    refine ⟨fun e r w hr ht => ?_, hs.checked⟩
    change (s.db.evaluations.map _)[e]? = some r at hr
    rw [List.getElem?_map] at hr
    obtain ⟨q, hq, rfl⟩ := Option.map_eq_some_iff.mp hr
    have hkept : q.fenced start = q := fenced_token ht
    rw [hkept] at ht ⊢
    exact hs.holder e q w hq ht
  | idle => exact hs

/-! ## What the tables record -/

namespace Db

/-- The evaluation exists and its status meets the predicate. -/
def statusIs (db : Db) (e : EvaluationId) (p : Status → Bool) : Bool :=
  db.evaluations[e]?.any fun r => p r.status

def resultsOf (db : Db) (e : EvaluationId) : ℕ := db.results.countP (·.evaluationId == e)

def events (db : Db) (t : EventType) (e : EvaluationId) : ℕ :=
  db.audit.countP fun a => a.eventType == t && a.evaluationId == e

end Db

/-- The result carries the pins of the row, under the row's token. -/
def Carries (d : DetectionResult) (r : Evaluation) : Prop :=
  r.executionFenceToken = some d.executionFenceToken ∧ d.inputId = r.inputId ∧
    ∃ p, r.pinned = some p ∧ d.bundleContentDigest = p.pins.bundleContentDigest ∧
      d.bundleVersion = p.pins.bundleVersion ∧ d.commitSha = p.pins.commitSha ∧
      d.engineVersion = p.pins.engineVersion ∧
      d.resultContractVersion = p.pins.resultContractVersion ∧
      d.evaluationProfileId = p.pins.evaluationProfileId ∧
      d.extractionConfidenceGate = p.pins.extractionConfidenceGate ∧
      d.riskMatrixId = p.pins.riskMatrixId ∧ d.confidencePolicyId = p.pins.confidencePolicyId ∧
      d.actionPolicyVersion = p.pins.actionPolicyVersion ∧
      d.componentVersions = p.pins.componentVersions ∧
      d.evaluationTimestamp = p.evaluationTimestamp ∧
      d.inputSupportStatus = p.inputSupportStatus ∧ d.language = p.language ∧
      d.script = p.script

/-- Results and terminal audit events, evaluation by evaluation. -/
structure Recorded (db : Db) : Prop where
  results : ∀ e, db.resultsOf e = (db.statusIs e (· == .COMPLETED)).toNat
  completed : ∀ e, db.events .EVALUATION_COMPLETED e = (db.statusIs e (· == .COMPLETED)).toNat
  failed : ∀ e, db.events .EVALUATION_FAILED e = (db.statusIs e Status.isFailed).toNat
  carried : ∀ d ∈ db.results, ∃ r, db.evaluations[d.evaluationId]? = some r ∧ Carries d r

lemma recorded_empty : Recorded .empty := by
  constructor <;> simp [Db.empty, Db.resultsOf, Db.events, Db.statusIs]

lemma Recorded.completed_of_mem {db : Db} (h : Recorded db) {d : DetectionResult}
    (hd : d ∈ db.results) {r : Evaluation} (hr : db.evaluations[d.evaluationId]? = some r) :
    r.status = .COMPLETED := by
  have hpos : 0 < db.resultsOf d.evaluationId :=
    List.countP_pos_iff.mpr ⟨d, hd, by simp⟩
  rw [h.results] at hpos
  by_contra hne
  have hfalse : db.statusIs d.evaluationId (· == .COMPLETED) = false := by
    simpa [Db.statusIs, hr] using hne
  exact absurd hpos (by simp [hfalse])

lemma statusIs_of_row {db : Db} {e : EvaluationId} {r : Evaluation}
    (hr : db.evaluations[e]? = some r) (p : Status → Bool) : db.statusIs e p = p r.status := by
  simp [Db.statusIs, hr]

lemma statusIs_set {db db' : Db} {e e' : EvaluationId} {r r' : Evaluation}
    (hr : db.evaluations[e]? = some r) (p : Status → Bool)
    (hdb : db'.evaluations = (db.setEvaluation e r').evaluations) :
    db'.statusIs e' p = if e = e' then p r'.status else db.statusIs e' p := by
  unfold Db.statusIs
  rw [hdb, getElem?_setEvaluation hr]
  split_ifs <;> rfl

/-- Moving one evaluation out of a state that is not terminal, with the result and the
audit events that belong to its new state. -/
lemma Recorded.transition {db : Db} (h : Recorded db) {e : EvaluationId} {r v : Evaluation}
    (hr : db.evaluations[e]? = some r) (hn : r.status.isTerminal = false)
    (R : List DetectionResult) (A : List AuditEvent) (hR : ∀ d ∈ R, d.evaluationId = e)
    (hA : ∀ a ∈ A, a.evaluationId = e) (hcount : R.length = (v.status == .COMPLETED).toNat)
    (hcompleted : A.countP (·.eventType == .EVALUATION_COMPLETED) =
      (v.status == .COMPLETED).toNat)
    (hfailed : A.countP (·.eventType == .EVALUATION_FAILED) = v.status.isFailed.toNat)
    (hcarry : ∀ d ∈ R, Carries d v) :
    Recorded ⟨db.evaluations.set e v, db.results ++ R, db.audit ++ A⟩ := by
  have hstatus : ∀ (e' : EvaluationId) (p : Status → Bool),
      Db.statusIs ⟨db.evaluations.set e v, db.results ++ R, db.audit ++ A⟩ e' p =
        if e = e' then p v.status else db.statusIs e' p :=
    fun e' p => statusIs_set hr p rfl
  simp only [Status.isTerminal, Bool.or_eq_false_iff] at hn
  have hevents : ∀ (t : EventType) (e' : EvaluationId),
      A.countP (fun a => a.eventType == t && a.evaluationId == e') =
        if e = e' then A.countP (·.eventType == t) else 0 := by
    intro t e'
    split_ifs with he
    · exact List.countP_congr fun a ha => by simp [hA a ha, he]
    · refine List.countP_eq_zero.mpr fun a ha => ?_
      simp [hA a ha, he]
  refine ⟨fun e' => ?_, fun e' => ?_, fun e' => ?_, fun d hd => ?_⟩
  · rw [hstatus, Db.resultsOf, List.countP_append]
    change db.resultsOf e' + _ = _
    rw [h.results]
    split_ifs with he
    · subst he
      rw [statusIs_of_row hr, hn.1, List.countP_eq_length.mpr fun d hd => by simp [hR d hd], hcount]
      simp
    · rw [List.countP_eq_zero.mpr fun d hd => by simp [hR d hd, he], Nat.add_zero]
  · rw [hstatus, Db.events, List.countP_append]
    change db.events _ e' + _ = _
    rw [h.completed, hevents]
    split_ifs with he
    · subst he
      rw [statusIs_of_row hr, hn.1, hcompleted]
      simp
    · rfl
  · rw [hstatus, Db.events, List.countP_append]
    change db.events _ e' + _ = _
    rw [h.failed, hevents]
    split_ifs with he
    · subst he
      rw [statusIs_of_row hr, hn.2, hfailed]
      simp
    · rfl
  · rcases List.mem_append.mp hd with hd | hd
    · obtain ⟨q, hq, hc⟩ := h.carried d hd
      have hne : e ≠ d.evaluationId := by
        intro he
        have hcomp := h.completed_of_mem hd (he ▸ hr)
        exact absurd hn.1 (by simp [hcomp])
      exact ⟨q, by simpa [hne] using hq, hc⟩
    · refine ⟨v, ?_, hcarry d hd⟩
      have hlt : e < db.evaluations.length := (List.getElem?_eq_some_iff.mp hr).1
      simp [hR d hd, hlt]

lemma Recorded.request {db : Db} (h : Recorded db) (context : Context) :
    Recorded (requestTx db context) := by
  have hstatus : ∀ (e : EvaluationId) (p : Status → Bool), p .REQUESTED = false →
      (requestTx db context).statusIs e p = db.statusIs e p := by
    intro e p hp
    simp only [Db.statusIs, requestTx, List.getElem?_append]
    split_ifs with he
    · rfl
    · rw [List.getElem?_eq_none (Nat.le_of_not_lt he)]
      rcases e - db.evaluations.length with _ | n <;> simp [hp]
  have hevents : ∀ (t : EventType) (e : EvaluationId), t ≠ .EVALUATION_STARTED →
      (requestTx db context).events t e = db.events t e := by
    intro t e ht
    simp [Db.events, requestTx, List.countP_append, Ne.symm ht]
  refine ⟨fun e => ?_, fun e => ?_, fun e => ?_, fun d hd => ?_⟩
  · rw [hstatus e _ rfl]
    exact h.results e
  · rw [hstatus e _ rfl, hevents _ e (by decide)]
    exact h.completed e
  · rw [hstatus e _ rfl, hevents _ e (by decide)]
    exact h.failed e
  · obtain ⟨r, hr, hc⟩ := h.carried d hd
    refine ⟨r, ?_, hc⟩
    have hlt : d.evaluationId < db.evaluations.length := (List.getElem?_eq_some_iff.mp hr).1
    simpa [requestTx, List.getElem?_append, hlt] using hr

lemma fenced_of_terminal {r : Evaluation} {now : Time} (h : r.status.isTerminal = true) :
    r.fenced now = r := by
  unfold Evaluation.fenced
  rw [if_neg]
  cases hr : r.status <;> simp_all [Evaluation.leaseExpired, Status.isTerminal, Status.isExecuting,
    Status.isFailed]

lemma isFailed_fenced (r : Evaluation) (now : Time) :
    (r.fenced now).status.isFailed.toNat =
      r.status.isFailed.toNat + (r.leaseExpired now).toNat := by
  unfold Evaluation.fenced
  split_ifs with hl
  · have hx : r.status.isExecuting = true := by
      simp only [Evaluation.leaseExpired, Bool.and_eq_true] at hl
      exact hl.1
    cases hr : r.status <;> simp_all [Evaluation.failed, Status.isFailed, Status.isExecuting]
  · simp [hl]

lemma completed_fenced (r : Evaluation) (now : Time) :
    ((r.fenced now).status == .COMPLETED) = (r.status == .COMPLETED) := by
  unfold Evaluation.fenced
  split_ifs with hl
  · have hx : r.status.isExecuting = true := by
      simp only [Evaluation.leaseExpired, Bool.and_eq_true] at hl
      exact hl.1
    cases hr : r.status <;> simp_all [Evaluation.failed, Status.isExecuting]
  · rfl

/-- The rows `recover` fences, each once. -/
lemma count_expired (db : Db) (now : Time) (e : EvaluationId) :
    (db.expired now).count e = (db.evaluations[e]?.any (·.leaseExpired now)).toNat := by
  have hnd : (db.expired now).Nodup := List.nodup_range.filter _
  by_cases h : db.evaluations[e]?.any (·.leaseExpired now) = true
  · have hmem : e ∈ db.expired now := by
      refine List.mem_filter.mpr ⟨List.mem_range.mpr ?_, h⟩
      by_contra hlt
      rw [List.getElem?_eq_none (Nat.le_of_not_lt hlt)] at h
      exact absurd h (by simp)
    rw [List.count_eq_one_of_mem hnd hmem, h]
    rfl
  · have hmem : e ∉ db.expired now := fun hm => h (List.mem_filter.mp hm).2
    rw [List.count_eq_zero.mpr hmem, eq_false_of_ne_true h]
    rfl

lemma Recorded.recover {db : Db} (h : Recorded db) (now : Time) :
    Recorded { db with
      evaluations := db.evaluations.map (·.fenced now)
      audit := db.audit ++ (db.expired now).map (failedEvent · .EXECUTION_LEASE_EXPIRED) } := by
  refine ⟨fun e => ?_, fun e => ?_, fun e => ?_, fun d hd => ?_⟩
  · refine (h.results e).trans ?_
    simp only [Db.statusIs, List.getElem?_map]
    cases db.evaluations[e]? with
    | none => rfl
    | some r => simp [completed_fenced]
  · simp only [Db.events, List.countP_append]
    have hnone : ((db.expired now).map (failedEvent · .EXECUTION_LEASE_EXPIRED)).countP
        (fun a => a.eventType == .EVALUATION_COMPLETED && a.evaluationId == e) = 0 := by
      refine List.countP_eq_zero.mpr fun a ha => ?_
      obtain ⟨e', -, rfl⟩ := List.mem_map.mp ha
      simp [failedEvent]
    rw [hnone, Nat.add_zero]
    refine (h.completed e).trans ?_
    simp only [Db.statusIs, List.getElem?_map]
    cases db.evaluations[e]? with
    | none => rfl
    | some r => simp [completed_fenced]
  · simp only [Db.events, List.countP_append]
    have hfenced : ((db.expired now).map (failedEvent · .EXECUTION_LEASE_EXPIRED)).countP
        (fun a => a.eventType == .EVALUATION_FAILED && a.evaluationId == e) =
          (db.expired now).count e := by
      rw [List.countP_map]
      exact List.countP_congr fun e' _ => by simp [failedEvent]
    rw [hfenced, count_expired]
    change db.events .EVALUATION_FAILED e + _ = _
    rw [h.failed]
    simp only [Db.statusIs, List.getElem?_map]
    cases db.evaluations[e]? with
    | none => rfl
    | some r => simp [isFailed_fenced]
  · obtain ⟨r, hr, hc⟩ := h.carried d hd
    have ht : r.status.isTerminal = true := by
      simp [Status.isTerminal, h.completed_of_mem hd hr]
    refine ⟨r, ?_, hc⟩
    simp [hr, fenced_of_terminal ht]

/-- The result `_complete` inserts carries what the row held: the trigger compares every pin
but a missing commit, which `_check_document` compared. -/
lemma carries_of_guard {K : Commitments} {db : Db} {e : EvaluationId} {w : Token} {j : Job}
    {d : Document} {r : Evaluation} (hr : db.evaluations[e]? = some r)
    (hp : r.pinned = some j.pinned) (hc : checkDocument d j.pins e j.context = true)
    (hg : insertGuard db (resultRow K e w j d) = true) : Carries (resultRow K e w j d) r := by
  have hsha : d.commitSha = j.pins.commitSha := by
    simp only [checkDocument, Bool.and_eq_true, beq_iff_eq] at hc
    exact hc.1.1.1.1.1.1.1.1.1.1.1.2.symm
  simp only [insertGuard] at hg
  rw [show db.evaluations[(resultRow K e w j d).evaluationId]? = some r from hr] at hg
  simp only [hp, Bool.and_eq_true, beq_iff_eq] at hg
  obtain ⟨⟨⟨⟨⟨⟨⟨⟨⟨⟨⟨⟨⟨⟨⟨⟨⟨-, ht⟩, h1⟩, h2⟩, h3⟩, h4⟩, h5⟩, h6⟩, h7⟩, h8⟩, h9⟩, h10⟩, h11⟩, h12⟩,
    h13⟩, h14⟩, h15⟩, -⟩ := hg
  exact ⟨ht, h12, j.pinned, hp, h1, h2, hsha, h3, h4, h5, h6, h7, h8, h9, h10, h11, h13, h14, h15⟩

lemma not_terminal_of_requested {r : Evaluation} (h : r.status = .REQUESTED) :
    r.status.isTerminal = false := by
  rw [h]
  rfl

lemma not_terminal_of_held {r : Evaluation} {w : Token} (h : r.heldBy w = true) :
    r.status.isTerminal = false := by
  simp only [Evaluation.heldBy, Bool.and_eq_true] at h
  cases hs : r.status <;> simp_all [Status.isTerminal, Status.isExecuting, Status.isFailed]

lemma token_of_held {r : Evaluation} {w : Token} (h : r.heldBy w = true) :
    r.executionFenceToken = some w := by
  simp only [Evaluation.heldBy, Bool.and_eq_true, beq_iff_eq] at h
  exact h.2

/-- A worker completing under its live token completes with the pins of the row. -/
lemma Held.carries {K : Commitments} {s : Sys} (hs : Held s) {w : Token} {worker : Worker}
    {job : Job} {d : Document} {r : Evaluation} (hw : s.workers w = some worker)
    (hphase : worker.phase = .completing job d)
    (hr : s.db.evaluations[worker.evaluation]? = some r) (hh : r.heldBy w = true)
    (hg : insertGuard s.db (resultRow K worker.evaluation w job d) = true) :
    r.pinned = some job.pinned ∧ Carries (resultRow K worker.evaluation w job d) r := by
  obtain ⟨worker', hw', -, -, hj⟩ := hs.holder _ r w hr (token_of_held hh)
  obtain rfl := Option.some.inj (hw.symm.trans hw')
  have hp : r.pinned = some job.pinned := hj job (by rw [hphase]; rfl)
  exact ⟨hp, carries_of_guard hr hp (hs.checked w worker job d hw hphase) hg⟩

theorem step_recorded {K : Commitments} {s s' : Sys} {a : Action} {out : Unit} (hs : Held s)
    (hdb : Recorded s.db) (h : step K s a = some (s', out)) : Recorded s'.db := by
  cases step_cases h with
  | tick | spawned | moved | idle => exact hdb
  | requested context => exact hdb.request context
  | claimed w delivery start worker job r p hw hphase hr hst hp =>
    have ht := hdb.transition (v := r.running w job start) hr (not_terminal_of_requested hst)
      [] [] (by simp) (by simp) rfl rfl rfl (by simp)
    simp only [List.append_nil] at ht
    exact ht
  | preconditionFailed w delivery start worker category r hw hphase hr hst =>
    have ht := hdb.transition (v := r.failed .FAILED_PRECONDITION category start) hr
      (not_terminal_of_requested hst) [] [failedEvent worker.evaluation category] (by simp)
      (by simp [failedEvent]) rfl rfl rfl (by simp)
    simp only [List.append_nil] at ht
    exact ht
  | completed w delivery start worker job d r material p hw hphase hr hh hg hp =>
    obtain ⟨-, hc⟩ := hs.carries hw hphase hr hh hg
    exact hdb.transition (v := r.completed material start) hr (not_terminal_of_held hh)
      [resultRow K worker.evaluation w job d] _ (by simp [resultRow]) (by simp) rfl rfl rfl
      (by simpa [Carries, Evaluation.completed] using hc)
  | failed w delivery start worker status category r hw hphase hr hh hf =>
    have hne : (status == .COMPLETED) = false := by
      cases status <;> simp_all [Status.isFailed]
    have ht := hdb.transition (v := r.failed status category start) hr (not_terminal_of_held hh)
      [] [failedEvent worker.evaluation category] (by simp) (by simp [failedEvent])
      (by simp [Evaluation.failed, hne]) (by simp [Evaluation.failed, failedEvent, hne])
      (by simp [Evaluation.failed, failedEvent, hf]) (by simp)
    simp only [List.append_nil] at ht
    exact ht
  | recovered delivery start => exact hdb.recover start

/-! ## Along a run -/

/-- A terminal row stays, and results and audit events are only appended. -/
structure Kept (db db' : Db) : Prop where
  terminal : ∀ (e : EvaluationId) (r : Evaluation), db.evaluations[e]? = some r →
    r.status.isTerminal = true → db'.evaluations[e]? = some r
  results : db.results <+: db'.results
  audit : db.audit <+: db'.audit

lemma Kept.refl (db : Db) : Kept db db := ⟨fun _ _ h _ => h, List.prefix_rfl, List.prefix_rfl⟩

lemma Kept.trans {db db' db'' : Db} (h : Kept db db') (h' : Kept db' db'') : Kept db db'' :=
  ⟨fun e r hr ht => h'.terminal e r (h.terminal e r hr ht) ht, h.results.trans h'.results,
    h.audit.trans h'.audit⟩

lemma kept_set {db : Db} {e : EvaluationId} {r : Evaluation} (r' : Evaluation)
    (hr : db.evaluations[e]? = some r) (hn : r.status.isTerminal = false)
    (R : List DetectionResult) (A : List AuditEvent) :
    Kept db ⟨db.evaluations.set e r', db.results ++ R, db.audit ++ A⟩ := by
  refine ⟨fun e' q hq ht => ?_, List.prefix_append _ _, List.prefix_append _ _⟩
  have hne : e ≠ e' := by
    rintro rfl
    obtain rfl := Option.some.inj (hr.symm.trans hq)
    exact absurd ht (by simp [hn])
  simpa [hne] using hq

theorem step_kept {K : Commitments} {s s' : Sys} {a : Action} {out : Unit}
    (h : step K s a = some (s', out)) : Kept s.db s'.db := by
  cases step_cases h with
  | tick | spawned | moved | idle => exact .refl _
  | requested context =>
    refine ⟨fun e r hr _ => ?_, List.prefix_rfl, List.prefix_append _ _⟩
    have hlt : e < s.db.evaluations.length := (List.getElem?_eq_some_iff.mp hr).1
    change (s.db.evaluations ++ _)[e]? = some r
    rw [List.getElem?_append_left hlt, hr]
  | claimed w delivery start worker job r p hw hphase hr hst hp =>
    have hk := kept_set (r.running w job start) hr (not_terminal_of_requested hst) [] []
    simp only [List.append_nil] at hk
    exact hk
  | preconditionFailed w delivery start worker category r hw hphase hr hst =>
    have hk := kept_set (r.failed .FAILED_PRECONDITION category start) hr
      (not_terminal_of_requested hst) [] [failedEvent worker.evaluation category]
    simp only [List.append_nil] at hk
    exact hk
  | completed w delivery start worker job d r material p hw hphase hr hh hg hp =>
    exact kept_set (r.completed material start) hr (not_terminal_of_held hh) _ _
  | failed w delivery start worker status category r hw hphase hr hh hf =>
    have hk := kept_set (r.failed status category start) hr (not_terminal_of_held hh) []
      [failedEvent worker.evaluation category]
    simp only [List.append_nil] at hk
    exact hk
  | recovered delivery start =>
    refine ⟨fun e r hr ht => ?_, List.prefix_rfl, List.prefix_append _ _⟩
    change (s.db.evaluations.map _)[e]? = some r
    rw [List.getElem?_map, hr, Option.map_some, fenced_of_terminal ht]

/-- The worker's token stands in a row that is being executed. -/
def Live (db : Db) (w : Token) : Prop :=
  ∃ (e : EvaluationId) (r : Evaluation), db.evaluations[e]? = some r ∧ r.heldBy w = true

/-- A worker past the claim whose token is not live changes no table. -/
theorem step_stale {K : Commitments} {s s' : Sys} {a : Action} {out : Unit} {w : Token}
    {worker : Worker} (hw : s.workers w = some worker) (hc : worker.phase.claimed = true)
    (hl : ¬Live s.db w) (ha : a.worker? = some w) (h : step K s a = some (s', out)) :
    s'.db = s.db := by
  cases step_cases h with
  | tick | requested | recovered | idle => exact absurd ha (by simp [Action.worker?])
  | spawned | moved => rfl
  | claimed w' delivery start worker' job r p hw' hphase hr hst hp =>
    obtain rfl := Option.some.inj ha
    obtain rfl := Option.some.inj (hw.symm.trans hw')
    exact absurd hc (by simp [hphase, Phase.claimed])
  | preconditionFailed w' delivery start worker' category r hw' hphase hr hst =>
    obtain rfl := Option.some.inj ha
    obtain rfl := Option.some.inj (hw.symm.trans hw')
    exact absurd hc (by simp [hphase, Phase.claimed])
  | completed w' delivery start worker' job d r material p hw' hphase hr hh hg hp =>
    obtain rfl := Option.some.inj ha
    exact absurd ⟨_, r, hr, hh⟩ hl
  | failed w' delivery start worker' status category r hw' hphase hr hh hf =>
    obtain rfl := Option.some.inj ha
    exact absurd ⟨_, r, hr, hh⟩ hl

lemma live_set {db db' : Db} {e : EvaluationId} {r v : Evaluation} {w : Token}
    (hr : db.evaluations[e]? = some r) (hr' : v.heldBy w = false)
    (hdb : db'.evaluations = (db.setEvaluation e v).evaluations) (h : Live db' w) :
    Live db w := by
  obtain ⟨e', q, hq, hh⟩ := h
  rw [hdb, getElem?_setEvaluation hr] at hq
  split_ifs at hq
  · obtain rfl := Option.some.inj hq
    exact absurd hh (by simp [hr'])
  · exact ⟨e', q, hq, hh⟩

lemma not_held_of_failed {r : Evaluation} {status : Status} {category : FailureCategory}
    {now : Time} {w : Token} (h : status.isFailed = true) :
    (r.failed status category now).heldBy w = false := by
  cases status <;> simp_all [Evaluation.heldBy, Evaluation.failed, Status.isExecuting,
    Status.isFailed]

lemma claimed_setPhase {s : Sys} {w w' : Token} {worker worker' : Worker} {p : Phase}
    (hw : s.workers w = some worker) (hc : worker.phase.claimed = true)
    (hw' : s.workers w' = some worker') (hp : worker'.phase.claimed = true → p.claimed = true) :
    ∃ after, (s.setPhase w' worker' p).workers w = some after ∧ after.phase.claimed = true := by
  by_cases h : w = w'
  · subst h
    obtain rfl := Option.some.inj (hw.symm.trans hw')
    exact ⟨_, workers_setPhase_self, hp hc⟩
  · exact ⟨worker, (workers_setPhase_ne h).trans hw, hc⟩

/-- A worker past the claim never comes to hold a live token again. -/
theorem step_not_live {K : Commitments} {s s' : Sys} {a : Action} {out : Unit} {w : Token}
    {worker : Worker} (hw : s.workers w = some worker) (hc : worker.phase.claimed = true)
    (hl : ¬Live s.db w) (h : step K s a = some (s', out)) :
    (∃ worker', s'.workers w = some worker' ∧ worker'.phase.claimed = true) ∧ ¬Live s'.db w := by
  cases step_cases h with
  | tick | idle => exact ⟨⟨worker, hw, hc⟩, hl⟩
  | requested context =>
    refine ⟨⟨worker, hw, hc⟩, ?_⟩
    rintro ⟨e, r, hr, hh⟩
    exact hl ⟨e, r, tokens_request hr (token_of_held hh), hh⟩
  | spawned w' e hw' =>
    have hne : w ≠ w' := by
      rintro rfl
      exact absurd (hw.symm.trans hw') (by simp)
    exact ⟨⟨worker, (if_neg hne).trans hw, hc⟩, hl⟩
  | moved _ w' worker' p hw' ha hp => exact ⟨claimed_setPhase hw hc hw' hp.claimed, hl⟩
  | claimed w' delivery start worker' job r p hw' hphase hr hst hp =>
    have hne : w' ≠ w := by
      rintro rfl
      obtain rfl := Option.some.inj (hw.symm.trans hw')
      exact absurd hc (by simp [hphase, Phase.claimed])
    refine ⟨claimed_setPhase (s := s.setDb _) hw hc hw' fun hc' => ?_, fun hlive => hl ?_⟩
    · exact absurd hc' (by simp [hphase, Phase.claimed])
    · exact live_set hr (v := r.running w' job start)
        (by simp [Evaluation.heldBy, Evaluation.running, hne]) rfl hlive
  | preconditionFailed w' delivery start worker' category r hw' hphase hr hst =>
    exact ⟨claimed_setPhase (s := s.setDb _) hw hc hw' fun _ => rfl,
      fun hlive => hl (live_set hr (not_held_of_failed (by rfl)) rfl hlive)⟩
  | completed w' delivery start worker' job d r material p hw' hphase hr hh hg hp =>
    refine ⟨claimed_setPhase (s := s.setDb _) hw hc hw' fun _ => hp.1, fun hlive => hl ?_⟩
    exact live_set hr (v := r.completed material start) (by rfl) rfl hlive
  | failed w' delivery start worker' status category r hw' hphase hr hh hf =>
    exact ⟨claimed_setPhase (s := s.setDb _) hw hc hw' fun _ => rfl,
      fun hlive => hl (live_set hr (not_held_of_failed hf) rfl hlive)⟩
  | recovered delivery start =>
    refine ⟨⟨worker, hw, hc⟩, ?_⟩
    rintro ⟨e, r, hr, hh⟩
    change (s.db.evaluations.map _)[e]? = some r at hr
    rw [List.getElem?_map] at hr
    obtain ⟨q, hq, rfl⟩ := Option.map_eq_some_iff.mp hr
    rw [fenced_token (token_of_held hh)] at hh
    exact hl ⟨e, q, hq, hh⟩

/-- A step that adds a result adds it under the live token of its row, with the row's pins. -/
theorem step_result {K : Commitments} {s s' : Sys} {a : Action} {out : Unit} (hs : Held s)
    (h : step K s a = some (s', out)) {d : DetectionResult} (hd : d ∈ s'.db.results)
    (hnew : d ∉ s.db.results) :
    ∃ r, s.db.evaluations[d.evaluationId]? = some r ∧ r.heldBy d.executionFenceToken = true ∧
      Carries d r := by
  cases step_cases h with
  | completed w delivery start worker job doc r material p hw hphase hr hh hg hp =>
    rcases List.mem_append.mp hd with hd | hd
    · exact absurd hd hnew
    · obtain rfl := List.mem_singleton.mp hd
      exact ⟨r, hr, hh, (hs.carries hw hphase hr hh hg).2⟩
  | _ => exact absurd hd hnew

/-- Fencing, in a state and along every run from it. -/
structure Fenced (K : Commitments) (s : Sys) : Prop where
  /-- the first terminal state of an evaluation is its last, whatever runs afterwards -/
  once : ∀ t, (evaluations K).Steps System.anyStep s t → Kept s.db t.db
  /-- one result for a completed evaluation, none for any other -/
  result : ∀ e, s.db.resultsOf e = if s.db.statusIs e (· == .COMPLETED) then 1 else 0
  carried : ∀ d ∈ s.db.results, ∃ r, s.db.evaluations[d.evaluationId]? = some r ∧ Carries d r
  written : ∀ a s' out, step K s a = some (s', out) → ∀ d ∈ s'.db.results, d ∉ s.db.results →
    ∃ r, s.db.evaluations[d.evaluationId]? = some r ∧ r.heldBy d.executionFenceToken = true ∧
      Carries d r
  /-- one terminal audit event for a terminal evaluation, none for any other -/
  audited : ∀ e,
    s.db.events .EVALUATION_COMPLETED e = (if s.db.statusIs e (· == .COMPLETED) then 1 else 0) ∧
    s.db.events .EVALUATION_FAILED e = (if s.db.statusIs e Status.isFailed then 1 else 0)
  /-- a worker that lost its token never holds one again, and none of its steps changes a table -/
  stale : ∀ w worker, s.workers w = some worker → worker.phase.claimed = true → ¬Live s.db w →
    ∀ t, (evaluations K).Steps System.anyStep s t → ¬Live t.db w ∧
      ∀ a t' out, a.worker? = some w → step K t a = some (t', out) → t'.db = t.db

lemma toNat_eq_ite (b : Bool) : b.toNat = if b then 1 else 0 := by
  cases b <;> rfl

theorem evaluation_fencing (K : Commitments) (s : Sys)
    (h : (evaluations K).Reachable System.anyStep s) : Fenced K s := by
  obtain ⟨hheld, hrec⟩ : Held s ∧ Recorded s.db :=
    h.invariant (P := fun s => Held s ∧ Recorded s.db) ⟨held_init, recorded_empty⟩
      fun t a t' out ht _ hstep => ⟨step_held ht.1 hstep, step_recorded ht.1 ht.2 hstep⟩
  refine ⟨fun t ht => ?_, fun e => ?_, hrec.carried, fun a s' out hstep d hd hnew => ?_,
    fun e => ⟨?_, ?_⟩, fun w worker hw hc hl t ht => ?_⟩
  · exact ht.preserves (P := fun t => Kept s.db t.db)
      (fun u a u' out hu _ hstep => hu.trans (step_kept hstep)) (.refl _)
  · exact (hrec.results e).trans (toNat_eq_ite _)
  · exact step_result hheld hstep hd hnew
  · exact (hrec.completed e).trans (toNat_eq_ite _)
  · exact (hrec.failed e).trans (toNat_eq_ite _)
  · obtain ⟨⟨worker', hw', hc'⟩, hl'⟩ := ht.preserves
      (P := fun t => (∃ worker', t.workers w = some worker' ∧ worker'.phase.claimed = true) ∧
        ¬Live t.db w)
      (by
        rintro u a u' out ⟨⟨worker', hw', hc'⟩, hl'⟩ _ hstep
        exact step_not_live hw' hc' hl' hstep)
      ⟨⟨worker, hw, hc⟩, hl⟩
    exact ⟨hl', fun a t' out ha hstep => step_stale hw' hc' hl' ha hstep⟩

def sampleContext : Context := ⟨"input-1", "SUPPORTED", ["en"], ["Latn"]⟩

def samplePins : Pins :=
  { bundleContentDigest := "b0"
    bundleVersion := "1.0.0"
    manifestSchemaVersion := "1.1.0"
    commitSha := none
    engineVersion := "1.0.0"
    resultContractVersion := "1.1.0"
    evaluationProfileId := "profile-v1"
    extractionConfidenceGate := "MEDIUM"
    riskMatrixId := "matrix-v1"
    confidencePolicyId := "confidence-v1"
    actionPolicyVersion := "1.0.0"
    componentVersions := [("action_policy", "1.0.0")] }

def sampleDocument (e : EvaluationId) : Document :=
  { evaluationId := e
    inputId := "input-1"
    inputSupportStatus := "SUPPORTED"
    language := ["en"]
    script := ["Latn"]
    resultContractVersion := "1.1.0"
    bundleContentDigest := "b0"
    bundleVersion := "1.0.0"
    commitSha := none
    engineVersion := "1.0.0"
    profileId := "profile-v1"
    extractionConfidenceGate := "MEDIUM"
    riskMatrixId := "matrix-v1"
    confidencePolicyId := "confidence-v1"
    componentVersions := [("action_policy", "1.0.0")]
    body := "body" }

def sampleCommitments : Commitments :=
  ⟨fun d => d.body, fun _ _ digest => some digest⟩

/-- Worker 0 outlives its lease on evaluation 0 and completes too late; worker 1 completes
evaluation 1. -/
def takeover : List Action :=
  [.request sampleContext, .request sampleContext, .spawn 0 0, .read 0,
   .check 0 (.verified samplePins 5), .transact 0 .committed 0, .compute 0 (some (sampleDocument 0)),
   .tick (EXECUTION_LEASE + 1), .recover .committed (EXECUTION_LEASE + 1),
   .transact 0 .committed (EXECUTION_LEASE + 1), .spawn 1 1, .read 1,
   .check 1 (.verified samplePins 7), .transact 1 .committed 3, .compute 1 (some (sampleDocument 1)),
   .transact 1 .committed 3]

def takenOver : Sys :=
  ((evaluations sampleCommitments).exec Sys.init takeover).getD Sys.init

theorem evaluation_fencing_takeover :
    takenOver.db.evaluations.map (·.status) = [.FAILED_INFRASTRUCTURE, .COMPLETED] ∧
      takenOver.db.resultsOf 1 = 1 ∧ Fenced sampleCommitments takenOver := by
  have hrun : (evaluations sampleCommitments).exec Sys.init takeover = some takenOver := rfl
  exact ⟨by decide, by decide,
    evaluation_fencing _ _ (System.steps_of_exec (fun _ _ _ => trivial) hrun)⟩

end TrustLens.Backend.EvaluationWorker
