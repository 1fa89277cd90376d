import TrustLens.Backend.SessionLifetimes
import TrustLens.Backend.SignInSteps

/-!
# What the stores of the boundary say of its log

Whatever the order in which the threads performed their operations: a transaction that is kept was begun
and not consumed since, a session that is kept was created and not ended since, and the documents that
are kept were stored by a thread.
-/

namespace TrustLens.Backend.SignIn

open Sessions (Transaction Session Fresh NewSession TransactionLimits SessionLimits TransactionOp SessionOp
  isToken)

variable {digest : String → String} {tl : TransactionLimits} {sl : SessionLimits} {s s' : Shared}
  {log : List (ℕ × Entry)}

/-! ### One operation -/

/-- What an operation answers and leaves. -/
inductive Acts (digest : String → String) (tl : TransactionLimits) (sl : SessionLimits) (s : Shared) :
    Entry → Shared → Prop where
  | begin_login (fresh : Fresh) (t : ℚ) :
    Acts digest tl sl s ⟨.begin_login, (Sessions.begin digest tl fresh t s.transactions).1⟩
      { s with transactions := TransactionOp.run digest tl s.transactions (t, .begin fresh) }
  | consume (state : String) (binding : Option String) (t : ℚ) :
    Acts digest tl sl s
      ⟨.consume state binding, (Sessions.consume digest tl state binding t s.transactions).1⟩
      { s with transactions := TransactionOp.run digest tl s.transactions (t, .consume state binding) }
  | create (new : Sessions.NewSession) (t : ℚ) :
    Acts digest tl sl s
      ⟨.create new.principal_reference_id new.id_token new.refresh_token new.replaces,
        (Sessions.create digest sl new t s.sessions).1⟩
      { s with sessions := SessionOp.run digest sl s.sessions (t, .create new) }
  | get (session_id : Option String) (t : ℚ) :
    Acts digest tl sl s ⟨.get session_id, (Sessions.get digest sl session_id t s.sessions).1⟩
      { s with sessions := SessionOp.run digest sl s.sessions (t, .get session_id) }
  | invalidate (session_id : Option String) :
    Acts digest tl sl s ⟨.invalidate session_id, (Sessions.invalidate digest session_id s.sessions).1⟩
      { s with sessions := SessionOp.run digest sl s.sessions (0, .invalidate session_id) }
  | invalidate_principal (principal : String) :
    Acts digest tl sl s
      ⟨.invalidate_principal principal, (Sessions.invalidate_principal principal s.sessions).1⟩
      { s with sessions := SessionOp.run digest sl s.sessions (0, .invalidate_principal principal) }
  | request (request : HttpRequest) (answer : HttpAnswer) : Acts digest tl sl s ⟨.request request, answer⟩ s
  | time (t : ℚ) : Acts digest tl sl s ⟨.time, t⟩ s
  | read_metadata : Acts digest tl sl s ⟨.read_metadata, s.metadata⟩ s
  | write_metadata (doc : Json) :
    Acts digest tl sl s ⟨.write_metadata doc, ()⟩ { s with metadata := some doc }
  | read_jwks (refresh : Bool) (now : ℚ) (keep : List Jwk × ℚ → Bool) :
    Acts digest tl sl s ⟨.read_jwks refresh now, (s.jwks.filter keep).map Prod.fst⟩ s
  | write_jwks (keys : List Jwk) (now : ℚ) :
    Acts digest tl sl s ⟨.write_jwks keys now, ()⟩ { s with jwks := some (keys, now) }
  | query (query : PrincipalQuery) (answer : PrincipalAnswer) :
    Acts digest tl sl s ⟨.query query, answer⟩ s
  | record (event : AuditEvent) (committed : Bool) :
    Acts digest tl sl s ⟨.record event, committed⟩
      { s with audit := if committed = true then s.audit ++ [event] else s.audit }
  | respond (response : Response) : Acts digest tl sl s ⟨.respond response, ()⟩ s

lemma acts_of_act {op : Op} {choice : Choice} {answer : op.Answer}
    (h : act digest tl sl s op choice = some (answer, s')) : Acts digest tl sl s ⟨op, answer⟩ s' := by
  cases op <;> cases choice <;> cases h
  · exact .begin_login _ _
  · exact .consume _ _ _
  · exact .create ⟨_, _, _, _, _, _⟩ _
  · exact .get _ _
  · exact .invalidate _
  · exact .invalidate_principal _
  · exact .request _ _
  · exact .time _
  · exact .read_metadata
  · exact .write_metadata _
  · exact .read_jwks _ _ _
  · exact .write_jwks _ _
  · exact .query _ _
  · exact .record _ _
  · exact .respond _

lemma eq_of_entry_eq {op : Op} {a b : op.Answer} (h : (⟨op, a⟩ : Entry) = ⟨op, b⟩) : a = b :=
  eq_of_heq (Performed.mk.inj h).2

/-- Metadata that is read is kept. -/
lemma Acts.of_read_metadata {doc : Json} (h : Acts digest tl sl s ⟨.read_metadata, some doc⟩ s') :
    s.metadata = some doc := by
  generalize hentry : (⟨.read_metadata, some doc⟩ : Entry) = e at h
  cases h with
  | read_metadata => exact (eq_of_entry_eq hentry).symm
  | _ => cases hentry

/-- Keys that are read are kept. -/
lemma Acts.of_read_jwks {refresh : Bool} {now : ℚ} {keys : List Jwk}
    (h : Acts digest tl sl s ⟨.read_jwks refresh now, some keys⟩ s') :
    ∃ fetched, s.jwks = some (keys, fetched) := by
  generalize hentry : (⟨.read_jwks refresh now, some keys⟩ : Entry) = e at h
  cases h with
  | read_jwks refresh' now' keep =>
    obtain ⟨rfl, rfl⟩ := Op.read_jwks.inj (Performed.mk.inj hentry).1
    obtain ⟨cached, hcached, rfl⟩ := Option.map_eq_some_iff.mp (eq_of_entry_eq hentry).symm
    exact ⟨cached.2, (Option.filter_eq_some_iff.mp hcached).1⟩
  | _ => cases hentry

/-- A transaction that is handed out is kept, and bound to the browser that presents the state. -/
lemma Acts.of_consume {state : String} {binding : Option String} {tx : Transaction}
    (h : Acts digest tl sl s ⟨.consume state binding, some tx⟩ s') :
    s.transactions.get? (digest state) = some tx ∧
      ∃ presented, binding = some presented ∧ tx.browser_binding = digest presented := by
  generalize hentry : (⟨.consume state binding, some tx⟩ : Entry) = e at h
  cases h with
  | consume state' binding' now =>
    obtain ⟨rfl, rfl⟩ := Op.consume.inj (Performed.mk.inj hentry).1
    obtain ⟨-, hget, -, presented, hpresented, -, hbinding⟩ :=
      Sessions.consume_eq_some (eq_of_entry_eq hentry).symm
    exact ⟨hget, presented, hpresented, hbinding⟩
  | _ => cases hentry

/-- A session that is read is kept under the token that is presented. -/
lemma Acts.of_get {presented : Option String} {found : Session}
    (h : Acts digest tl sl s ⟨.get presented, some found⟩ s') :
    ∃ session_id kept, presented = some session_id ∧ isToken session_id = true ∧
      s.sessions.get? (digest session_id) = some kept ∧
      kept.principal_reference_id = found.principal_reference_id := by
  generalize hentry : (⟨.get presented, some found⟩ : Entry) = e at h
  cases h with
  | get presented' now =>
    obtain rfl := Op.get.inj (Performed.mk.inj hentry).1
    obtain ⟨session_id, kept, hpresented, htoken, hget, hfound, -⟩ :=
      Sessions.get_eq_some (eq_of_entry_eq hentry).symm
    exact ⟨session_id, kept, hpresented, htoken, hget, hfound ▸ rfl⟩
  | _ => cases hentry

/-- What is stored after a sign-in is begun was stored before, or is what was answered. -/
lemma get?_begin {fresh : Fresh} {t : ℚ} {items : Sessions.Transactions} {key : String} {tx : Transaction}
    (h : (Sessions.begin digest tl fresh t items).2.get? key = some tx) :
    items.get? key = some tx ∨ (key = digest tx.state ∧ ∃ binding, tx.browser_binding = digest binding ∧
      (Sessions.begin digest tl fresh t items).1 = some (tx, binding)) := by
  unfold Sessions.begin at h ⊢
  dsimp only at h ⊢
  split_ifs at h ⊢ with hfull
  · exact .inl (Sessions.get?_sweep h)
  · by_cases hkey : key = digest fresh.state
    · subst hkey
      rw [OrderedDict.get?_insertLast_self] at h
      cases h
      exact .inr ⟨rfl, fresh.binding, rfl, rfl⟩
    · rw [OrderedDict.get?_insertLast_of_ne _ _ hkey] at h
      exact .inl (Sessions.get?_sweep h)

/-- What is stored after a session is created is that session, or was stored and is not replaced. -/
lemma get?_created (hdigest : Function.Injective digest) {items : Sessions.SessionItems} {new : NewSession}
    {t : ℚ} {session_id : String} {kept : Session} (hid : session_id ≠ "")
    (h : (Sessions.create digest sl new t items).2.get? (digest session_id) = some kept) :
    ((Sessions.create digest sl new t items).1 = some session_id ∧ kept = new.session t) ∨
      items.get? (digest session_id) = some kept ∧ new.replaces ≠ some session_id := by
  cases hanswer : (Sessions.create digest sl new t items).1 with
  | some created =>
    have hcreated : created = new.session_id := by
      unfold Sessions.create at hanswer
      dsimp only at hanswer
      split_ifs at hanswer with hfull
      exact (Option.some.inj hanswer).symm
    subst hcreated
    exact (Sessions.get?_create hdigest hid h).imp_left fun ⟨heq, hkept⟩ => ⟨congrArg some heq, hkept⟩
  | none =>
    -- a store that is full does not read the value that was drawn
    have hsame : Sessions.create digest sl { new with session_id := "" } t items =
        Sessions.create digest sl new t items := by
      unfold Sessions.create at hanswer ⊢
      dsimp only at hanswer ⊢
      split_ifs at hanswer ⊢ with hfull
      rfl
    rw [← hsame] at h
    exact .inr ((Sessions.get?_create hdigest hid h).resolve_left fun ⟨heq, _⟩ => hid heq.symm)

/-! ### Transactions -/

/-- The transaction was begun, with the value that binds it to its browser. -/
def Begins (digest : String → String) (tx : Transaction) (x : ℕ × Entry) : Prop :=
  ∃ binding, x.2 = ⟨.begin_login, some (tx, binding)⟩ ∧ tx.browser_binding = digest binding

/-- The transaction of a state was handed to a callback. -/
def Consumes (state : String) (x : ℕ × Entry) : Prop :=
  ∃ binding tx, x.2 = ⟨.consume state binding, some tx⟩

/-- A transaction that is kept was begun, and not consumed since. -/
lemma begun_of_answered (hdigest : Function.Injective digest) (h : Answered .empty (act digest tl sl) log s)
    {state : String} {tx : Transaction} (hget : s.transactions.get? (digest state) = some tx) :
    tx.state = state ∧ Since (Begins digest tx) (Consumes state) log := by
  induction h generalizing tx with
  | nil => cases hget
  | @snoc log t s' i e choice h he ih =>
    -- an operation that leaves the transaction where it was
    have hkeep : t.transactions.get? (digest state) = some tx → ¬Consumes state (i, e) →
        tx.state = state ∧ Since (Begins digest tx) (Consumes state) (log ++ [(i, e)]) :=
      fun hget hx => ⟨(ih hget).1, (ih hget).2.snoc hx⟩
    obtain ⟨op, answer⟩ := e
    cases acts_of_act he with
    | begin_login fresh now =>
      rcases get?_begin hget with hget | ⟨hkey, binding, hbinding, hanswer⟩
      · refine hkeep hget ?_
        rintro ⟨_, _, heq⟩
        cases heq
      · exact ⟨(hdigest hkey).symm,
          .now ⟨binding, congrArg (Performed.mk Op.begin_login) hanswer, hbinding⟩⟩
    | consume presented binding now =>
      rcases Sessions.get?_run hget with hkept | ⟨fresh, hbegin, -⟩
      · refine hkeep hkept ?_
        -- what is consumed is kept no longer
        rintro ⟨binding', tx', heq⟩
        obtain ⟨rfl, rfl⟩ := Op.consume.inj (Performed.mk.inj heq).1
        obtain ⟨hstate, -, -, b, rfl, hb, -⟩ := Sessions.consume_eq_some (eq_of_entry_eq heq)
        have hburnt : (Sessions.consume digest tl presented (some b) now t.transactions).2.get?
            (digest presented) = none := Sessions.consume_burns hstate hb
        exact Option.some_ne_none _ (hget.symm.trans hburnt)
      · cases hbegin
    | _ =>
      refine hkeep hget ?_
      rintro ⟨_, _, heq⟩
      cases heq

/-- The states of the transactions that were begun. -/
def begunStates (log : List (ℕ × Entry)) : List String :=
  log.filterMap fun x => match x.2 with
    | ⟨.begin_login, some (tx, _)⟩ => some tx.state
    | _ => none

lemma mem_begunStates {i : ℕ} {tx : Transaction} {binding : String}
    (h : (i, (⟨.begin_login, some (tx, binding)⟩ : Entry)) ∈ log) : tx.state ∈ begunStates log :=
  List.mem_filterMap.mpr ⟨_, h, rfl⟩

/-! ### Sessions -/

/-- The session was created for a principal. -/
def CreatesSession (session_id principal : String) (x : ℕ × Entry) : Prop :=
  ∃ id_token refresh_token replaces,
    x.2 = ⟨.create principal id_token refresh_token replaces, some session_id⟩

/-- The session was ended: itself, with its principal, or by a sign-in that replaces it. -/
def EndsSession (session_id principal : String) (x : ℕ × Entry) : Prop :=
  match x.2.op with
  | .create _ _ _ replaces => replaces = some session_id
  | .invalidate ended => ended = some session_id
  | .invalidate_principal ended => ended = principal
  | _ => False

/-- A session that is kept was created, and not ended since. -/
lemma created_of_answered (hdigest : Function.Injective digest)
    (h : Answered .empty (act digest tl sl) log s) {session_id : String} {kept : Session}
    (hid : isToken session_id = true) (hget : s.sessions.get? (digest session_id) = some kept) :
    Since (CreatesSession session_id kept.principal_reference_id)
      (EndsSession session_id kept.principal_reference_id) log := by
  have hne : session_id ≠ "" := by
    rintro rfl
    cases hid
  induction h generalizing kept with
  | nil => cases hget
  | @snoc log t s' i e choice h he ih =>
    obtain ⟨op, answer⟩ := e
    cases acts_of_act he with
    | create new now =>
      rcases get?_created hdigest hne hget with ⟨hanswer, rfl⟩ | ⟨hkept, hreplaces⟩
      · exact .now ⟨_, _, _, congrArg (Performed.mk (Op.create _ _ _ _)) hanswer⟩
      · exact (ih hkept).snoc hreplaces
    | get presented now =>
      obtain ⟨s₀, hs₀, rfl⟩ := Sessions.get?_get hdigest hid hget
      exact (ih hs₀).snoc id
    | invalidate ended =>
      obtain ⟨new, hop, -⟩ | ⟨s₀, hs₀, rfl, hends⟩ := Sessions.get?_runSession hdigest hid hget
      · cases hop
      · exact (ih hs₀).snoc hends
    | invalidate_principal ended =>
      obtain ⟨new, hop, -⟩ | ⟨s₀, hs₀, rfl, hends⟩ := Sessions.get?_runSession hdigest hid hget
      · cases hop
      · exact (ih hs₀).snoc hends
    | _ => exact (ih hget).snoc id

/-! ### Documents -/

lemma metadata_of_answered (h : Answered .empty (act digest tl sl) log s) {doc : Json}
    (hdoc : s.metadata = some doc) : ∃ i, (i, (⟨.write_metadata doc, ()⟩ : Entry)) ∈ log := by
  induction h with
  | nil => cases hdoc
  | @snoc log t s' i e choice h he ih =>
    have hkeep : t.metadata = some doc → ∃ j, (j, (⟨.write_metadata doc, ()⟩ : Entry)) ∈ log ++ [(i, e)] :=
      fun hdoc => (ih hdoc).imp fun _ hmem => List.mem_append_left _ hmem
    obtain ⟨op, answer⟩ := e
    cases acts_of_act he with
    | write_metadata written =>
      cases hdoc
      exact ⟨i, List.mem_append_right _ (List.mem_singleton_self _)⟩
    | _ => exact hkeep hdoc

lemma jwks_of_answered (h : Answered .empty (act digest tl sl) log s) {keys : List Jwk} {fetched : ℚ}
    (hkeys : s.jwks = some (keys, fetched)) :
    ∃ i now, (i, (⟨.write_jwks keys now, ()⟩ : Entry)) ∈ log := by
  induction h with
  | nil => cases hkeys
  | @snoc log t s' i e choice h he ih =>
    have hkeep : t.jwks = some (keys, fetched) →
        ∃ j now, (j, (⟨.write_jwks keys now, ()⟩ : Entry)) ∈ log ++ [(i, e)] :=
      fun hkeys => (ih hkeys).imp fun _ ⟨now, hmem⟩ => ⟨now, List.mem_append_left _ hmem⟩
    obtain ⟨op, answer⟩ := e
    cases acts_of_act he with
    | write_jwks written now =>
      cases hkeys
      exact ⟨i, _, List.mem_append_right _ (List.mem_singleton_self _)⟩
    | _ => exact hkeep hkeys

/-! ### Audit -/

/-- The events that are kept are those whose recording was answered as committed. -/
lemma audit_of_answered (h : Answered .empty (act digest tl sl) log s) (event : AuditEvent) :
    event ∈ s.audit ↔ ∃ i, (i, (⟨.record event, true⟩ : Entry)) ∈ log := by
  induction h with
  | nil => exact ⟨fun h => absurd h List.not_mem_nil, fun ⟨_, h⟩ => absurd h List.not_mem_nil⟩
  | @snoc log t s' i e choice h he ih =>
    have hkeep : (∀ j, (j, (⟨.record event, true⟩ : Entry)) ≠ (i, e)) →
        (event ∈ t.audit ↔ ∃ j, (j, (⟨.record event, true⟩ : Entry)) ∈ log ++ [(i, e)]) := by
      intro hne
      rw [ih]
      refine exists_congr fun j => ?_
      rw [List.mem_append, List.mem_singleton, or_iff_left (hne j)]
    obtain ⟨op, answer⟩ := e
    cases acts_of_act he with
    | record recorded =>
      cases answer with
      | true =>
        dsimp only
        rw [if_pos rfl, List.mem_append, List.mem_singleton, ih]
        constructor
        · rintro (⟨j, hj⟩ | rfl)
          · exact ⟨j, List.mem_append_left _ hj⟩
          · exact ⟨i, List.mem_append_right _ (List.mem_singleton_self _)⟩
        · rintro ⟨j, hj⟩
          rcases List.mem_append.mp hj with hj | hj
          · exact .inl ⟨j, hj⟩
          · cases List.mem_singleton.mp hj
            exact .inr rfl
      | false => exact hkeep fun j heq => by cases heq
    | _ => exact hkeep fun j heq => by cases heq

end TrustLens.Backend.SignIn
