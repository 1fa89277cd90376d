import TrustLens.Backend.Oidc

/-!
# The sign-in boundary

The handlers of the authentication routes as threads over the two stores, the provider, the principals
and the audit sink, and the system in which any number of them run.
-/

namespace TrustLens.Backend.SignIn

open Sessions (Transaction Session Fresh NewSession TransactionLimits SessionLimits)

variable (lib : Libraries) (settings : AuthSettings)

def TRANSACTION_COOKIE : String := "tl_oidc_tx"

def session_cookie : String := if settings.secure_cookies then "__Host-tl_session" else "tl_session"

/-! ### Responses -/

/-- `ERRORS`, as far as the boundary answers with them -/
def ERRORS : List (String × ℕ × String × String) :=
  [("UNAUTHENTICATED", 401, "RETRY_WITH_CHANGES", "Sign in to continue."),
   ("FORBIDDEN", 403, "NOT_RETRYABLE", "This request is not permitted."),
   ("DEPENDENCY_UNAVAILABLE", 503, "RETRYABLE", "Sign-in is temporarily unavailable.")]

def api_error (code : String) (clear_session : Bool) : Response :=
  let error := (ERRORS.lookup code).getD (500, "RETRYABLE", "Something went wrong.")
  { status := error.1
    location := none
    body := [("code", .str code), ("message", .str error.2.2), ("retryability", .str error.2.1)]
    set_cookies := []
    clear_cookies := if clear_session then [session_cookie settings] else [] }

def _back_to_app (outcome : Option String) : Response where
  status := 303
  location := some (settings.app_origin ++ "/" ++ (outcome.map ("?signin=" ++ ·)).getD "")
  body := []
  set_cookies := []
  clear_cookies := []

/-- What is answered where an exception escapes a handler. -/
def server_error : Response := ⟨500, none, [], [], []⟩

def respond (response : Response) : Handler Unit := ask (.respond response)

/-! ### Audit -/

def _audit (event : AuditEvent) (required : Bool) : Handler Bool := do
  let recorded : Bool ← ask (.record event)
  if recorded = false ∧ required = true then throw .AuditUnavailable
  else return recorded

def failed_event (reason : String) : AuditEvent :=
  ⟨"AUTHENTICATION_FAILED", "FAILED", some reason, none, none⟩

def denied_event (reason : String) (principal_id : Option String) (operation : String) : AuditEvent :=
  ⟨"AUTHORIZATION_DENIED", "DENIED", some reason, principal_id, some operation⟩

def succeeded_event (principal_id : String) : AuditEvent :=
  ⟨"AUTHENTICATION_SUCCEEDED", "SUCCEEDED", none, some principal_id, none⟩

/-! ### Principals -/

def ROLES : List String := ["USER", "ANALYST", "KNOWLEDGE_EDITOR", "KNOWLEDGE_APPROVER", "ADMINISTRATOR"]

structure Principal where
  principal_reference_id : String
  principal_kind : String
  roles : List String
deriving DecidableEq

/-- A person with an active role. -/
def principal_of (row : PrincipalRow) : Option Principal :=
  let roles := ROLES.filter fun role => row.roles.contains role
  if roles = [] ∨ row.principal_kind ≠ "HUMAN" then none
  else some ⟨row.principal_reference_id, row.principal_kind, roles⟩

/-- `_query` -/
def _query (query : PrincipalQuery) : Handler (Option Principal) := do
  match ← ask (.query query) with
  | .unavailable => throw .PrincipalStoreUnavailable
  | .row row => return row.bind principal_of

/-! ### Cross-site requests -/

/-- The headers and the cookie a state-changing request is checked by. -/
structure Credentials where
  origin : Option String
  sec_fetch_site : Option String
  csrf_header : Option String
  session : Option String
deriving DecidableEq

def trusted_origin (credentials : Credentials) : Bool :=
  credentials.origin == some settings.app_origin &&
    (credentials.sec_fetch_site == none || credentials.sec_fetch_site == some "same-origin")

/-- `csrf_valid` -/
def csrf_valid (credentials : Credentials) : Handler Bool := do
  match ← ask (.get credentials.session) with
  | none => return false
  | some session =>
    return credentials.csrf_header.any (fun header => tokens_equal (.str header) session.csrf_token)

/-- Why a request is refused before it is served, if it is. -/
def refusal (credentials : Credentials) : Handler (Option String) := do
  if trusted_origin settings credentials = false then return some "UNTRUSTED_ORIGIN"
  else
    let valid ← csrf_valid credentials
    return if valid = true then none else some "CSRF_TOKEN_INVALID"

/-- `csrf_middleware` of a request under `/api/` or of a logout. -/
def csrf_middleware (credentials : Credentials) (operation : String) (call_next : Handler Unit) :
    Handler Unit := do
  match ← refusal settings credentials with
  | none => call_next
  | some reason =>
    let session : Option Session ← ask (.get credentials.session)
    let _ ← _audit (denied_event reason (session.map (·.principal_reference_id)) operation) false
    respond (api_error settings "FORBIDDEN" false)

/-! ### Sign-in -/

/-- A transaction that is begun, with where its browser goes and what binds it. -/
def begun : Handler (Option (String × String)) := do
  match ← ask .begin_login with
  | none => throw .CapacityExceeded
  | some (tx, binding) =>
    let location ← authorization_url lib settings tx
    return some (location, binding)

/-- No sign-in where the store or the provider failed. -/
def unavailable (fault : Fault) : Handler (Option (String × String)) :=
  match fault with
  | .CapacityExceeded => return none
  | .OIDCError _ => return none
  | fault => throw fault

def login : Handler Unit := do
  match ← tryCatch (begun lib settings) unavailable with
  | none => respond (_back_to_app settings (some "unavailable"))
  | some (location, binding) =>
    respond ⟨303, some location, [], [(TRANSACTION_COOKIE, binding)], []⟩

def MAX_CALLBACK_PARAMETER_LENGTH : List (String × ℕ) :=
  [("code", 4096), ("state", 128), ("iss", 512), ("error", 64), ("session_state", 256)]

def _callback_parameters (items : List (String × String)) : Option (List (String × String)) :=
  let allowed := MAX_CALLBACK_PARAMETER_LENGTH.map Prod.fst ++ ["error_description", "error_uri"]
  if ¬(items.map Prod.fst).Nodup ∨ ¬(items.map Prod.fst ⊆ allowed) then none
  else if MAX_CALLBACK_PARAMETER_LENGTH.any fun limit =>
      decide (limit.2 < ((items.lookup limit.1).getD "").length) then none
  else some items

/-- A parameter that is there and not empty. -/
def parameter (params : List (String × String)) (name : String) : Option String :=
  (params.lookup name).filter (· ≠ "")

/-- The issuer a response names is the one configured, and is named where the provider says so. -/
def check_issuer (params : List (String × String)) : Handler Unit := do
  match params.lookup "iss" with
  | some iss =>
    if iss ≠ settings.issuer then throw (.OIDCError "ISSUER_MISMATCH")
    else
      let _ ← metadata lib settings
      return ()
  | none =>
    let doc ← metadata lib settings
    if (doc.get "authorization_response_iss_parameter_supported").truthy = true then
      throw (.OIDCError "ISSUER_MISMATCH")
    else return ()

/-- The session of a principal that is found: audited, or ended again. -/
def issue_session (principal : Principal) (tokens : String × Json) (previous_session : Option String) :
    Handler String := do
  let refresh_token := (tokens.2.get "refresh_token").str?
  match ← ask (.create principal.principal_reference_id tokens.1 refresh_token previous_session) with
  | none => throw .CapacityExceeded
  | some session_id =>
    let _ ← tryCatch (_audit (succeeded_event principal.principal_reference_id) true) fun fault =>
      match fault with
      | .AuditUnavailable => do
        let _ ← ask (.invalidate (some session_id))
        throw .AuditUnavailable
      | fault => throw fault
    return session_id

/-- A code that was returned to the browser of its transaction: a session, or none where the principal
is not provisioned. -/
def sign_in (params : List (String × String)) (tx : Transaction) (code : String)
    (previous_session : Option String) : Handler (Option String) := do
  check_issuer lib settings params
  let tokens ← exchange_code lib settings code tx.code_verifier
  let claims ← validate_id_token lib settings tokens.1 tx.nonce
  let issuer ← lift (claim claims "iss")
  let subject ← lift (claim claims "sub")
  match ← _query (.subject issuer subject) with
  | none =>
    let _ ← ask (.invalidate previous_session)
    let _ ← _audit (denied_event "PRINCIPAL_NOT_PROVISIONED" none "SIGN_IN") false
    return none
  | some principal =>
    let session_id ← issue_session principal tokens previous_session
    return some session_id

/-- What a sign-in comes to: a session, or an outcome with the reason that is audited. -/
inductive Verdict where
  | issued (session_id : String)
  | refused (outcome : String) (reason : Option String)
deriving DecidableEq

/-- The outcome of a fault that is caught. -/
def verdict_of (fault : Fault) : Handler Verdict :=
  match fault with
  | .OIDCError category =>
    return .refused (if category = "PROVIDER_UNAVAILABLE" then "unavailable" else "failed") (some category)
  | .PrincipalStoreUnavailable => return .refused "unavailable" (some "DEPENDENCY_UNAVAILABLE")
  | .CapacityExceeded => return .refused "unavailable" (some "DEPENDENCY_UNAVAILABLE")
  | .AuditUnavailable => return .refused "unavailable" none
  | .escaped => throw .escaped

/-- The verdict on a callback that is bound to the transaction of its browser. -/
def bound_verdict (params : List (String × String)) (tx : Transaction)
    (previous_session : Option String) : Handler Verdict :=
  if (params.lookup "error").isSome then return .refused "failed" (some "PROVIDER_ERROR_RESPONSE")
  else
    match parameter params "code" with
    | none => return .refused "failed" (some "CODE_MISSING")
    | some code => tryCatch (do
        match ← sign_in lib settings params tx code previous_session with
        | none => return .refused "denied" none
        | some session_id => return .issued session_id) verdict_of

def signed_in (session_id : String) : Response :=
  { _back_to_app settings none with
    set_cookies := [(session_cookie settings, session_id)]
    clear_cookies := [TRANSACTION_COOKIE] }

def signed_out (outcome : String) : Response :=
  { _back_to_app settings (some outcome) with
    clear_cookies := [session_cookie settings, TRANSACTION_COOKIE] }

/-- A reason that is audited, where there is one. -/
def audit_reason (reason : Option String) : Handler Unit :=
  match reason with
  | none => return ()
  | some reason => do
    let _ ← _audit (failed_event reason) false
    return ()

/-- The answer to a callback that is bound. -/
def bound_callback (params : List (String × String)) (tx : Transaction)
    (previous_session : Option String) : Handler Unit := do
  match ← bound_verdict lib settings params tx previous_session with
  | .issued session_id => respond (signed_in settings session_id)
  | .refused outcome reason =>
    let _ ← ask (.invalidate previous_session)
    let () ← audit_reason reason
    respond (signed_out settings outcome)

/-- A callback of no sign-in that its browser started, which touches no session and no cookie. -/
def reject (reason : String) : Handler Unit := do
  let _ ← _audit (failed_event reason) false
  respond (_back_to_app settings (some "failed"))

def callback (items : List (String × String)) (previous_session binding : Option String) :
    Handler Unit :=
  match _callback_parameters items with
  | none => reject settings "CALLBACK_INVALID"
  | some params =>
    match parameter params "state" with
    | none => reject settings "CALLBACK_INVALID"
    | some state => do
      match ← ask (.consume state binding) with
      | none => reject settings "STATE_INVALID"
      | some tx => bound_callback lib settings params tx previous_session

/-! ### Signed in -/

def csrf_token (session : Option String) : Handler Unit := do
  match ← ask (.get session) with
  | none => respond (api_error settings "UNAUTHENTICATED" true)
  | some session => respond ⟨200, none, [("csrf_token", .str session.csrf_token)], [], []⟩

def logout (session : Option String) : Handler Unit := do
  let ended ← ask (.invalidate session)
  let provider ← match ended with
    | some session => end_provider_session lib settings session.refresh_token
    | none => pure false
  respond ⟨200, none, [("status", .str "SIGNED_OUT"),
    ("provider_session", .str (if provider then "ENDED" else "NOT_CONFIRMED"))], [],
    [session_cookie settings]⟩

/-- `get_active`, none where the principals are unavailable. -/
def get_active (principal_reference_id : String) : Handler (Option (Option Principal)) :=
  tryCatch (do
    let principal ← _query (.id principal_reference_id)
    return some principal)
    fun fault => match fault with
      | .PrincipalStoreUnavailable => return none
      | fault => throw fault

/-- `current_principal`: the principal of the session, or the response that refuses the request. -/
def current_principal (session_id : Option String) (operation : String) :
    Handler (Except Response Principal) := do
  match ← ask (.get session_id) with
  | none => return .error (api_error settings "UNAUTHENTICATED" (session_id.any (· ≠ "")))
  | some session =>
    match ← get_active session.principal_reference_id with
    | none => return .error (api_error settings "DEPENDENCY_UNAVAILABLE" false)
    | some (some principal) => return .ok principal
    | some none =>
      let _ ← ask (.invalidate_principal session.principal_reference_id)
      let _ ← _audit (denied_event "PRINCIPAL_INACTIVE_OR_NO_ROLE" (some session.principal_reference_id)
        operation) false
      return .error (api_error settings "UNAUTHENTICATED" true)

def get_me (session : Option String) : Handler Unit := do
  match ← current_principal settings session "GET_ME" with
  | .error refused => respond refused
  | .ok principal => respond ⟨200, none,
      [("principal_id", .str principal.principal_reference_id),
       ("principal_kind", .str principal.principal_kind),
       ("roles", .arr (principal.roles.map .str)), ("capabilities", .arr [])], [], []⟩

/-- A state-changing request under `/api/`: an operation of the product follows, which sees no session. -/
def changing (session : Option String) (operation : String) : Handler Unit := do
  match ← current_principal settings session operation with
  | .error refused => respond refused
  | .ok _ => respond ⟨200, none, [], [], []⟩

/-! ### The system -/

/-- A request to the boundary, with the cookies and headers it presents. -/
inductive Request where
  | login
  | callback (items : List (String × String)) (session binding : Option String)
  | csrf_token (session : Option String)
  | logout (credentials : Credentials)
  | get_me (session : Option String)
  | changing (credentials : Credentials) (operation : String)
deriving DecidableEq

def handler (request : Request) : Handler Unit :=
  match request with
  | .login => login lib settings
  | .callback items session binding => callback lib settings items session binding
  | .csrf_token session => csrf_token settings session
  | .logout credentials =>
    csrf_middleware settings credentials "LOGOUT" (logout lib settings credentials.session)
  | .get_me session => get_me settings session
  | .changing credentials operation =>
    csrf_middleware settings credentials "STATE_CHANGING_REQUEST"
      (changing settings credentials.session operation)

/-- A request is handled; an exception that escapes is answered as an error of the server. -/
def serve (request : Request) : Handler Unit :=
  tryCatch (handler lib settings request) fun _ => respond server_error

/-- What the handlers share; of the audit chain, the events that were committed. -/
structure Shared where
  transactions : Sessions.Transactions
  sessions : Sessions.SessionItems
  metadata : Option Json
  jwks : Option (List Jwk × ℚ)
  audit : List AuditEvent

def Shared.empty : Shared := ⟨.empty, .empty, none, none, []⟩

/-- What the surroundings contribute to an operation: clocks, drawn values, answers and failures. -/
inductive Choice where
  | now (t : ℚ)
  | drawn (fresh : Fresh) (t : ℚ)
  | session (session_id csrf_token : String) (t : ℚ)
  | answer (answer : HttpAnswer)
  | principal (answer : PrincipalAnswer)
  | recorded (committed : Bool)
  | nothing

variable (digest : String → String) (tl : TransactionLimits) (sl : SessionLimits)

/-- One operation, by what is shared and by a choice of the surroundings. -/
def act (s : Shared) : (op : Op) → Choice → Option (op.Answer × Shared)
  | .begin_login, .drawn fresh t =>
    let r := Sessions.begin digest tl fresh t s.transactions
    some (r.1, { s with transactions := r.2 })
  | .consume state binding, .now t =>
    let r := Sessions.consume digest tl state binding t s.transactions
    some (r.1, { s with transactions := r.2 })
  | .create principal id_token refresh_token replaces, .session session_id csrf_token t =>
    let r := Sessions.create digest sl
      ⟨principal, id_token, refresh_token, replaces, session_id, csrf_token⟩ t s.sessions
    some (r.1, { s with sessions := r.2 })
  | .get session_id, .now t =>
    let r := Sessions.get digest sl session_id t s.sessions
    some (r.1, { s with sessions := r.2 })
  | .invalidate session_id, .nothing =>
    let r := Sessions.invalidate digest session_id s.sessions
    some (r.1, { s with sessions := r.2 })
  | .invalidate_principal principal, .nothing =>
    let r := Sessions.invalidate_principal principal s.sessions
    some (r.1, { s with sessions := r.2 })
  | .request _, .answer answer => some (answer, s)
  | .time, .now t => some (t, s)
  | .read_metadata, .nothing => some (s.metadata, s)
  | .write_metadata doc, .nothing => some ((), { s with metadata := some doc })
  | .read_jwks refresh now, .nothing =>
    some ((s.jwks.filter fun cached =>
      !(refresh && decide (JWKS_REFRESH_INTERVAL_SECONDS ≤ now - cached.2))).map Prod.fst, s)
  | .write_jwks keys now, .nothing => some ((), { s with jwks := some (keys, now) })
  | .query _, .principal answer => some (answer, s)
  | .record event, .recorded committed =>
    some (committed, { s with audit := if committed = true then s.audit ++ [event] else s.audit })
  | .respond _, .nothing => some ((), s)
  | _, _ => none

/-- Any number of requests that are served side by side. -/
def boundary : System (Pool Shared Request Op Op.Answer Fault Unit) (PoolAction Request Choice) Unit :=
  System.pool .empty (act digest tl sl) (serve lib settings)

end TrustLens.Backend.SignIn
