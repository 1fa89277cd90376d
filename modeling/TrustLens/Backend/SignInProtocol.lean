import TrustLens.Backend.SignInProvider

/-!
# What each request may do

The protocol of the boundary: for every kind of request the operations it may perform, by what it has
performed itself before. A session is created for a callback only, at the end of a trail of operations
that authenticated a person; the handlers keep to the protocol.
-/

namespace TrustLens.Backend.SignIn

open Thread
open Sessions (Transaction Session)

variable (lib : Libraries) (settings : AuthSettings)

/-! ### Operations of interest -/

def Op.Creates : Op → Prop
  | .create _ _ _ _ => True
  | _ => False

/-- A request of tokens for a code. -/
def Op.Redeems : Op → Prop
  | .request sent => ("grant_type", "authorization_code") ∈ sent.data
  | _ => False

/-- An operation on the sessions or the principals, or a request of tokens for a code. -/
def Op.Touches : Op → Prop
  | .create _ _ _ _ => True
  | .get _ => True
  | .invalidate _ => True
  | .invalidate_principal _ => True
  | .query _ => True
  | op => op.Redeems

/-- Every session that was created by the thread was audited or ended after it. -/
def Settled (past : List Entry) : Prop :=
  ∀ principal id_token refresh_token replaces session_id,
    (⟨.create principal id_token refresh_token replaces, some session_id⟩ : Entry) ∈ past →
    [(⟨.create principal id_token refresh_token replaces, some session_id⟩ : Entry),
      ⟨.record (succeeded_event principal), true⟩].Sublist past ∨
    ∃ ended, [(⟨.create principal id_token refresh_token replaces, some session_id⟩ : Entry),
      ⟨.invalidate (some session_id), ended⟩].Sublist past

/-! ### Signing in -/

/-- What a callback presents. -/
structure Presented where
  items : List (String × String)
  session : Option String
  binding : Option String

def Presented.request (c : Presented) : Request := .callback c.items c.session c.binding

lemma Presented.request_injective : Function.Injective Presented.request := by
  rintro ⟨items, session, binding⟩ ⟨items', session', binding'⟩ heq
  cases heq
  rfl

/-- The first that the callback did was to consume the transaction of its browser. -/
structure Bound (c : Presented) (params : List (String × String)) (tx : Transaction) (past : List Entry) :
    Prop where
  parameters : _callback_parameters c.items = some params
  consumed : ∃ state, parameter params "state" = some state ∧
    past.head? = some (⟨.consume state c.binding, some tx⟩ : Entry)

/-- What a sign-in goes through. -/
structure Trail where
  params : List (String × String)
  state : String
  code : String
  tx : Transaction
  doc : Json
  body : ByteArray
  id_token : String
  tokens : Json
  keys : List Jwk
  claims : Json
  issuer : Json
  subject : Json
  row : PrincipalRow
  principal : Principal

namespace Trail

def refresh_token (t : Trail) : Option String := (t.tokens.get "refresh_token").str?

def consumed (t : Trail) (c : Presented) : Entry := ⟨.consume t.state c.binding, some t.tx⟩

def redeemed (t : Trail) : Entry :=
  ⟨.request (redemption lib settings t.doc t.code t.tx.code_verifier), .response 200 t.body⟩

def found (t : Trail) : Entry := ⟨.query (.subject t.issuer t.subject), .row (some t.row)⟩

def created (t : Trail) (c : Presented) (session_id : String) : Entry :=
  ⟨.create t.principal.principal_reference_id t.id_token t.refresh_token c.session, some session_id⟩

def audited (t : Trail) : Entry := ⟨.record (succeeded_event t.principal.principal_reference_id), true⟩

/-- The transaction of the browser, the code that was redeemed with its verifier, the claims of the
token for its nonce, and the person they name. -/
structure Authenticates (t : Trail) (c : Presented) (past : List Entry) : Prop where
  bound : Bound c t.params t.tx past
  state : parameter t.params "state" = some t.state
  code : parameter t.params "code" = some t.code
  performed : [t.consumed c, t.redeemed lib settings, t.found].Sublist past
  doc : GivenDoc past t.doc
  read : _read lib t.body = .ok t.tokens
  tokens : accepted_tokens lib 200 (some t.tokens) = .ok (t.id_token, t.tokens)
  keys : GivenKeys past t.keys
  claims : Validated lib settings t.keys t.id_token t.tx.nonce t.claims
  issuer : t.claims.get? "iss" = some t.issuer
  subject : t.claims.get? "sub" = some t.subject
  principal : principal_of t.row = some t.principal

end Trail

/-- A session of a person that was authenticated, with the record of it. -/
structure Issued (c : Presented) (t : Trail) (session_id : String) (past : List Entry) : Prop where
  authenticated : t.Authenticates lib settings c past
  performed : [t.consumed c, t.redeemed lib settings, t.found, t.created c session_id,
    t.audited].Sublist past

/-! ### Requests of a session -/

/-- The request presents a session. -/
inductive Presents : Request → Option String → Prop where
  | csrf_token {session : Option String} : Presents (.csrf_token session) session
  | get_me {session : Option String} : Presents (.get_me session) session
  | logout {credentials : Credentials} : Presents (.logout credentials) credentials.session
  | changing {credentials : Credentials} {operation : String} :
    Presents (.changing credentials operation) credentials.session

/-- The request came from the application, with the token of its session. -/
def Guarded (credentials : Credentials) (past : List Entry) : Prop :=
  trusted_origin settings credentials = true ∧ ∃ session : Session,
    (⟨.get credentials.session, some session⟩ : Entry) ∈ past ∧
    credentials.csrf_header = some session.csrf_token

/-- The person of a session, read for this request. -/
def Acting (session : Option String) (principal : Principal) (past : List Entry) : Prop :=
  ∃ (s : Session) (row : PrincipalRow), (⟨.get session, some s⟩ : Entry) ∈ past ∧
    (⟨.query (.id s.principal_reference_id), .row (some row)⟩ : Entry) ∈ past ∧
    principal_of row = some principal

/-- The person of a session that has no role or is not active. -/
def Inactive (session : Option String) (principal : String) (past : List Entry) : Prop :=
  ∃ (s : Session) (row : Option PrincipalRow), (⟨.get session, some s⟩ : Entry) ∈ past ∧
    s.principal_reference_id = principal ∧ (⟨.query (.id principal), .row row⟩ : Entry) ∈ past ∧
    row.bind principal_of = none

def me (principal : Principal) : Response :=
  ⟨200, none, [("principal_id", .str principal.principal_reference_id),
    ("principal_kind", .str principal.principal_kind), ("roles", .arr (principal.roles.map .str)),
    ("capabilities", .arr [])], [], []⟩

/-! ### The protocol -/

/-- The operations a request may perform after those it has performed. -/
inductive Permitted : Request → List Entry → Entry → Prop where
  | talks {request : Request} {past : List Entry} {e : Entry} (h : Talks lib settings past e) :
    Permitted request past e
  | refuse {request : Request} {past : List Entry} {event : AuditEvent} {committed : Bool}
      (h : event.outcome ≠ "SUCCEEDED") : Permitted request past ⟨.record event, committed⟩
  | fail {request : Request} {past : List Entry} : Permitted request past ⟨.respond server_error, ()⟩
  -- login
  | begin {begun : Option (Transaction × String)} : Permitted .login [] ⟨.begin_login, begun⟩
  | send {past : List Entry} {tx : Transaction} {binding location : String}
      (h : (⟨.begin_login, some (tx, binding)⟩ : Entry) ∈ past) :
    Permitted .login past ⟨.respond ⟨303, some location, [], [(TRANSACTION_COOKIE, binding)], []⟩, ()⟩
  | send_back {past : List Entry} :
    Permitted .login past ⟨.respond (_back_to_app settings (some "unavailable")), ()⟩
  -- callback
  | consume {c : Presented} {params : List (String × String)} {state : String}
      {found : Option Transaction} (hparams : _callback_parameters c.items = some params)
      (hstate : parameter params "state" = some state) :
    Permitted c.request [] ⟨.consume state c.binding, found⟩
  | redeem {c : Presented} {past : List Entry} {params : List (String × String)} {tx : Transaction}
      {code : String} {doc : Json} {answer : HttpAnswer} (hbound : Bound c params tx past)
      (hcode : parameter params "code" = some code) (hdoc : GivenDoc past doc)
      (honce : ∀ e ∈ past, ¬e.op.Redeems) :
    Permitted c.request past ⟨.request (redemption lib settings doc code tx.code_verifier), answer⟩
  | look_up {c : Presented} {past : List Entry} {params : List (String × String)} {tx : Transaction}
      {issuer subject : Json} {answer : PrincipalAnswer} (hbound : Bound c params tx past) :
    Permitted c.request past ⟨.query (.subject issuer subject), answer⟩
  | create {c : Presented} {past : List Entry} {t : Trail} {created : Option String}
      (h : t.Authenticates lib settings c past) (honce : ∀ e ∈ past, ¬e.op.Creates) :
    Permitted c.request past
      ⟨.create t.principal.principal_reference_id t.id_token t.refresh_token c.session, created⟩
  | audit {c : Presented} {past : List Entry} {t : Trail} {session_id : String} {committed : Bool}
      (h : t.created c session_id ∈ past) :
    Permitted c.request past
      ⟨.record (succeeded_event t.principal.principal_reference_id), committed⟩
  | revoke {c : Presented} {past : List Entry} {t : Trail} {session_id : String} {ended : Option Session}
      (h : t.created c session_id ∈ past) :
    Permitted c.request past ⟨.invalidate (some session_id), ended⟩
  | replace {c : Presented} {past : List Entry} {params : List (String × String)} {tx : Transaction}
      {ended : Option Session} (hbound : Bound c params tx past) :
    Permitted c.request past ⟨.invalidate c.session, ended⟩
  | reject {c : Presented} {past : List Entry} (h : ∀ params tx, ¬Bound c params tx past) :
    Permitted c.request past ⟨.respond (_back_to_app settings (some "failed")), ()⟩
  | sign_in {c : Presented} {past : List Entry} {t : Trail} {session_id : String}
      (h : Issued lib settings c t session_id past) :
    Permitted c.request past ⟨.respond (signed_in settings session_id), ()⟩
  | sign_out {c : Presented} {past : List Entry} {params : List (String × String)} {tx : Transaction}
      {outcome : String} {ended : Option Session} (hbound : Bound c params tx past)
      (hsettled : Settled past) (h : (⟨.invalidate c.session, ended⟩ : Entry) ∈ past) :
    Permitted c.request past ⟨.respond (signed_out settings outcome), ()⟩
  -- requests of a session
  | read {request : Request} {past : List Entry} {session : Option String} {found : Option Session}
      (h : Presents request session) : Permitted request past ⟨.get session, found⟩
  | look_up_id {request : Request} {past : List Entry} {session : Option String} {s : Session}
      {answer : PrincipalAnswer} (h : Presents request session)
      (hget : (⟨.get session, some s⟩ : Entry) ∈ past) :
    Permitted request past ⟨.query (.id s.principal_reference_id), answer⟩
  | end_principal {request : Request} {past : List Entry} {session : Option String} {principal : String}
      {count : ℕ} (h : Presents request session) (hinactive : Inactive session principal past) :
    Permitted request past ⟨.invalidate_principal principal, count⟩
  | deny {request : Request} {past : List Entry} {session : Option String} {code : String} {clear : Bool}
      (h : Presents request session) : Permitted request past ⟨.respond (api_error settings code clear), ()⟩
  | give_token {past : List Entry} {session : Option String} {s : Session}
      (h : (⟨.get session, some s⟩ : Entry) ∈ past) :
    Permitted (.csrf_token session) past
      ⟨.respond ⟨200, none, [("csrf_token", .str s.csrf_token)], [], []⟩, ()⟩
  | tell {past : List Entry} {session : Option String} {principal : Principal}
      (h : Acting session principal past) : Permitted (.get_me session) past ⟨.respond (me principal), ()⟩
  | change {past : List Entry} {credentials : Credentials} {operation : String} {principal : Principal}
      (hguarded : Guarded settings credentials past) (h : Acting credentials.session principal past) :
    Permitted (.changing credentials operation) past ⟨.respond ⟨200, none, [], [], []⟩, ()⟩
  | end_session {past : List Entry} {credentials : Credentials} {ended : Option Session}
      (hguarded : Guarded settings credentials past) :
    Permitted (.logout credentials) past ⟨.invalidate credentials.session, ended⟩
  | end_provider {past : List Entry} {credentials : Credentials} {s : Session} {refresh_token : String}
      {doc : Json} {answer : HttpAnswer}
      (h : (⟨.invalidate credentials.session, some s⟩ : Entry) ∈ past)
      (hrefresh : s.refresh_token = some refresh_token) (hdoc : GivenDoc past doc) :
    Permitted (.logout credentials) past
      ⟨.request ⟨"POST", endpoint doc "end_session_endpoint", some (_client_auth lib settings),
        [("refresh_token", refresh_token)]⟩, answer⟩
  | bid_farewell {past : List Entry} {credentials : Credentials} {ended : Option Session} {status : String}
      (h : (⟨.invalidate credentials.session, ended⟩ : Entry) ∈ past) :
    Permitted (.logout credentials) past
      ⟨.respond ⟨200, none, [("status", .str "SIGNED_OUT"), ("provider_session", .str status)], [],
        [session_cookie settings]⟩, ()⟩

/-! ### What a permitted operation says -/

variable {lib settings} {request : Request} {past : List Entry} {e : Entry}

lemma Quiet.plain (h : Quiet lib settings e) : ¬e.op.Creates ∧ ¬e.op.Redeems := by
  obtain ⟨past, h⟩ := h
  cases h with
  | fetch => exact ⟨id, List.not_mem_nil⟩
  | _ => exact ⟨id, id⟩

namespace Permitted

lemma of_write_metadata {doc : Json} (h : Permitted lib settings request past ⟨.write_metadata doc, ()⟩) :
    Fetched lib past (metadata_url settings) doc ∧
      accepted_metadata lib settings 200 (some doc) = .ok doc := by
  cases h with
  | talks h =>
    cases h with
    | write_metadata hfetched haccepted => exact ⟨hfetched, haccepted⟩

lemma of_write_jwks {keys : List Jwk} {now : ℚ}
    (h : Permitted lib settings request past ⟨.write_jwks keys now, ()⟩) :
    ∃ doc body, GivenDoc past doc ∧ Fetched lib past (endpoint doc "jwks_uri") body ∧
      accepted_keys lib 200 (some body) = .ok keys := by
  cases h with
  | talks h =>
    cases h with
    | write_jwks hdoc hfetched haccepted => exact ⟨_, _, hdoc, hfetched, haccepted⟩

lemma of_begin_login {begun : Option (Transaction × String)}
    (h : Permitted lib settings request past ⟨.begin_login, begun⟩) : request = .login := by
  cases h with
  | talks h => cases h
  | begin => rfl

/-- Sessions are created for callbacks only, once and after their transaction. -/
lemma of_creates (h : Permitted lib settings request past e) (hcreates : e.op.Creates) :
    ∃ (c : Presented) (params : List (String × String)) (tx : Transaction), request = c.request ∧
      Bound c params tx past ∧ ∀ e ∈ past, ¬e.op.Creates := by
  cases h with
  | talks h => exact absurd hcreates (Quiet.plain ⟨past, h⟩).1
  | create h honce => exact ⟨_, _, _, rfl, h.bound, honce⟩
  | _ => cases hcreates

/-- A session is created once in a callback, for a person who was authenticated. -/
lemma of_create {principal id_token : String} {refresh_token replaces created : Option String}
    (h : Permitted lib settings request past
      ⟨.create principal id_token refresh_token replaces, created⟩) :
    ∃ (c : Presented) (t : Trail), request = c.request ∧ t.Authenticates lib settings c past ∧
      (∀ e ∈ past, ¬e.op.Creates) ∧ principal = t.principal.principal_reference_id ∧
      id_token = t.id_token ∧ refresh_token = t.refresh_token ∧ replaces = c.session := by
  cases h with
  | talks h => cases h
  | create hauthenticates honce => exact ⟨_, _, rfl, hauthenticates, honce, rfl, rfl, rfl, rfl⟩

/-- A code is redeemed once in a callback, with the verifier of its transaction. -/
lemma of_redeems (h : Permitted lib settings request past e) (hredeems : e.op.Redeems) :
    ∃ (c : Presented) (params : List (String × String)) (tx : Transaction), request = c.request ∧
      Bound c params tx past ∧ ∀ e ∈ past, ¬e.op.Redeems := by
  cases h with
  | talks h => exact absurd hredeems (Quiet.plain ⟨past, h⟩).2
  | redeem hbound hcode hdoc honce => exact ⟨_, _, _, rfl, hbound, honce⟩
  | end_provider =>
    have hkey : "grant_type" = "refresh_token" := congrArg Prod.fst (List.mem_singleton.mp hredeems)
    exact absurd hkey (by decide)
  | _ => cases hredeems

lemma session_cookie_ne : session_cookie settings ≠ TRANSACTION_COOKIE := by
  unfold session_cookie
  split_ifs
  · decide
  · decide

/-- The cookie of a session is set only for a session that was issued. -/
lemma of_cookie {response : Response} {session_id : String}
    (h : Permitted lib settings request past ⟨.respond response, ()⟩)
    (hcookie : (session_cookie settings, session_id) ∈ response.set_cookies) :
    ∃ (c : Presented) (t : Trail), request = c.request ∧ Issued lib settings c t session_id past := by
  cases h with
  | talks h => cases h
  | send =>
    exact absurd (congrArg Prod.fst (List.mem_singleton.mp hcookie)) session_cookie_ne
  | sign_in h =>
    obtain rfl := congrArg Prod.snd (List.mem_singleton.mp hcookie)
    exact ⟨_, _, rfl, h⟩
  | _ => exact absurd hcookie List.not_mem_nil

lemma api_error_status_ne {code : String} {clear : Bool} :
    (api_error settings code clear).status ≠ 200 := by
  have hcodes : ∀ error ∈ ERRORS, error.2.1 ≠ 200 := by decide
  unfold api_error
  dsimp only
  cases hlookup : ERRORS.lookup code with
  | none => exact (by decide)
  | some error =>
    obtain ⟨before, after, heq, -⟩ := List.lookup_eq_some_iff.mp hlookup
    exact hcodes (code, error) (heq ▸ List.mem_append_right _ List.mem_cons_self)

/-- A change is carried out under the guard, for the person of the session. -/
lemma of_change {credentials : Credentials} {operation : String} {response : Response}
    (h : Permitted lib settings (.changing credentials operation) past ⟨.respond response, ()⟩)
    (hstatus : response.status = 200) :
    Guarded settings credentials past ∧ ∃ principal, Acting credentials.session principal past := by
  cases h with
  | talks h => cases h
  | fail => cases hstatus
  | deny h => exact absurd hstatus api_error_status_ne
  | change hguarded h => exact ⟨hguarded, _, h⟩

lemma of_tell {session : Option String} {response : Response}
    (h : Permitted lib settings (.get_me session) past ⟨.respond response, ()⟩)
    (hstatus : response.status = 200) : ∃ principal, Acting session principal past := by
  cases h with
  | talks h => cases h
  | fail => cases hstatus
  | deny h => exact absurd hstatus api_error_status_ne
  | tell h => exact ⟨_, h⟩

/-- A logout ends its own session, under the guard. -/
lemma of_logout {credentials : Credentials} {session : Option String} {ended : Option Session}
    (h : Permitted lib settings (.logout credentials) past ⟨.invalidate session, ended⟩) :
    session = credentials.session ∧ Guarded settings credentials past := by
  cases h with
  | talks h => cases h
  | end_session hguarded => exact ⟨rfl, hguarded⟩

/-- A callback touches nothing before its transaction, or what it created after it. -/
lemma of_touches {c : Presented} (h : Permitted lib settings c.request past e) (htouches : e.op.Touches) :
    (∃ params tx, Bound c params tx past) ∨ ∃ e ∈ past, e.op.Creates := by
  generalize hrequest : c.request = request at h
  cases h with
  | talks h =>
    cases h with
    | fetch => exact absurd htouches List.not_mem_nil
    | _ => cases htouches
  | redeem hbound =>
    obtain rfl := Presented.request_injective hrequest
    exact .inl ⟨_, _, hbound⟩
  | look_up hbound =>
    obtain rfl := Presented.request_injective hrequest
    exact .inl ⟨_, _, hbound⟩
  | create h =>
    obtain rfl := Presented.request_injective hrequest
    exact .inl ⟨_, _, h.bound⟩
  | replace hbound =>
    obtain rfl := Presented.request_injective hrequest
    exact .inl ⟨_, _, hbound⟩
  | revoke h => exact .inr ⟨_, h, trivial⟩
  | read h => cases h <;> cases hrequest
  | look_up_id h => cases h <;> cases hrequest
  | end_principal h => cases h <;> cases hrequest
  | end_session => cases hrequest
  | end_provider => cases hrequest
  | _ => cases htouches

/-- What the browser of a callback is answered. -/
lemma of_answer {c : Presented} {response : Response}
    (h : Permitted lib settings c.request past ⟨.respond response, ()⟩) :
    (∃ t session_id, response = signed_in settings session_id ∧ Issued lib settings c t session_id past) ∨
    (∃ outcome params tx ended, response = signed_out settings outcome ∧ Bound c params tx past ∧
      Settled past ∧ (⟨.invalidate c.session, ended⟩ : Entry) ∈ past) ∨
    (response = _back_to_app settings (some "failed") ∧ ∀ params tx, ¬Bound c params tx past) ∨
    response = server_error := by
  generalize hrequest : c.request = request at h
  cases h with
  | talks h => cases h
  | fail => exact .inr (.inr (.inr rfl))
  | send => cases hrequest
  | send_back => cases hrequest
  | reject h =>
    obtain rfl := Presented.request_injective hrequest
    exact .inr (.inr (.inl ⟨rfl, h⟩))
  | sign_in h =>
    obtain rfl := Presented.request_injective hrequest
    exact .inl ⟨_, _, rfl, h⟩
  | sign_out hbound hsettled h =>
    obtain rfl := Presented.request_injective hrequest
    exact .inr (.inl ⟨_, _, _, _, rfl, hbound, hsettled, h⟩)
  | deny h => cases h <;> cases hrequest
  | give_token => cases hrequest
  | tell => cases hrequest
  | change => cases hrequest
  | bid_farewell => cases hrequest

end Permitted

end TrustLens.Backend.SignIn
