import TrustLens.Backend.Sessions
import TrustLens.Lib.PyObject
import TrustLens.Lib.PyText
import TrustLens.Lib.Threads

/-!
# The relying party of the identity provider

The operations of the sign-in boundary, and the client of the provider over them. A failure the client
knows is an `OIDCError` with a category; any other exception of a library escapes it.
-/

namespace TrustLens.Backend.SignIn

open Sessions (Transaction Session isToken)

/-! ### Operations -/

/-- What is raised: an error that a handler catches, or another exception. -/
inductive Fault where
  | OIDCError (category : String)
  | CapacityExceeded
  | PrincipalStoreUnavailable
  | AuditUnavailable
  | escaped
deriving DecidableEq

structure HttpRequest where
  method : String
  url : String
  auth : Option (String × String)
  data : List (String × String)
deriving DecidableEq

/-- What a request to the provider comes to: the transport fails, something else does, or a response. -/
inductive HttpAnswer where
  | failed
  | raised
  | response (status : ℤ) (body : ByteArray)

/-- A key of the provider. -/
structure Jwk where
  key_id : Json
  public_key_use : Json
  key : String
deriving DecidableEq

/-- A row of `principal_reference` that is ACTIVE, with the roles that are assigned and not revoked. -/
structure PrincipalRow where
  principal_reference_id : String
  principal_kind : String
  roles : List String
deriving DecidableEq

inductive PrincipalQuery where
  | subject (issuer subject : Json)
  | id (principal_reference_id : String)
deriving DecidableEq

/-- What a query for a principal comes to. -/
inductive PrincipalAnswer where
  | unavailable
  | row (row : Option PrincipalRow)
deriving DecidableEq

/-- A security event, as far as the handlers fill it in. -/
structure AuditEvent where
  event_type : String
  outcome : String
  reason : Option String
  principal_id : Option String
  operation : Option String
deriving DecidableEq

/-- A response: its status, where it redirects to, its body, and the cookies it sets and clears. -/
structure Response where
  status : ℕ
  location : Option String
  body : List (String × Json)
  set_cookies : List (String × String)
  clear_cookies : List String
deriving DecidableEq

/-- The atomic operations of the handlers. Each store holds its lock for one of them. -/
inductive Op where
  | begin_login
  | consume (state : String) (binding : Option String)
  | create (principal_reference_id id_token : String) (refresh_token replaces : Option String)
  | get (session_id : Option String)
  | invalidate (session_id : Option String)
  | invalidate_principal (principal_reference_id : String)
  | request (request : HttpRequest)
  | time
  | read_metadata
  | write_metadata (doc : Json)
  | read_jwks (refresh : Bool) (now : ℚ)
  | write_jwks (keys : List Jwk) (now : ℚ)
  | query (query : PrincipalQuery)
  | record (event : AuditEvent)
  | respond (response : Response)
deriving DecidableEq

def Op.Answer : Op → Type
  | .begin_login => Option (Transaction × String)
  | .consume _ _ => Option Transaction
  | .create _ _ _ _ => Option String
  | .get _ => Option Session
  | .invalidate _ => Option Session
  | .invalidate_principal _ => ℕ
  | .request _ => HttpAnswer
  | .time => ℚ
  | .read_metadata => Option Json
  | .write_metadata _ => Unit
  | .read_jwks _ _ => Option (List Jwk)
  | .write_jwks _ _ => Unit
  | .query _ => PrincipalAnswer
  | .record _ => Bool
  | .respond _ => Unit

abbrev Handler := Thread Op Op.Answer Fault

/-- An operation that was performed. -/
abbrev Entry := Performed Op Op.Answer

def ask (op : Op) : Handler op.Answer := Thread.ask op

/-- A value, or the exception that was raised for it. -/
def lift {α : Type} (x : Except Fault α) : Handler α := .ended x

/-! ### The libraries -/

/-- The exceptions of the token library: its own, or others. -/
inductive JwtFault where
  | PyJWTError
  | other
deriving DecidableEq

structure Libraries where
  /-- `json.loads` of a body -/
  loads : ByteArray → Except PyException Json
  /-- the scheme and the host of a URL, none where `urlsplit` raises -/
  origin : String → Option String
  urlencode : List (String × String) → String
  /-- `quote` with no safe characters -/
  quote : String → String
  pkce_challenge : String → String
  lower : String → String
  isprintable : String → Bool
  get_unverified_header : String → Except JwtFault Json
  /-- `PyJWKSet.from_dict`, whose faults are those that are caught or others -/
  from_dict : Json → Except JwtFault (List Jwk)
  /-- `jwt.decode` of a token with a key, an algorithm, an audience and an issuer, at an instant -/
  decode : String → Jwk → String → String → String → ℚ → Except JwtFault Json

structure AuthSettings where
  issuer : String
  client_id : String
  client_secret : String
  redirect_uri : String
  app_origin : String
  secure_cookies : Bool
deriving DecidableEq

def MAX_PROVIDER_RESPONSE_BYTES : ℕ := 256 * 1024

def ALLOWED_ID_TOKEN_ALGORITHMS : List String :=
  ["RS256", "RS384", "RS512", "PS256", "PS384", "PS512", "ES256", "ES384", "EdDSA"]

def CLOCK_LEEWAY_SECONDS : ℚ := 30

def JWKS_REFRESH_INTERVAL_SECONDS : ℚ := 60

def MAX_SUBJECT_LENGTH : ℕ := 255

/-! ### Values -/

/-- `text in value`, none where the value is no container. -/
def holds (text : String) : Json → Option Bool
  | .arr items => some (items.contains (.str text))
  | .str s => some (PyText.isInfix text s)
  | .obj entries => some (entries.any (·.1 == text))
  | _ => none

/-- `value > bound`, none where the value is no number. -/
def exceeds (value : Json) (bound : ℚ) : Option Bool :=
  match value with
  | .int n => some (decide (bound < n))
  | .bool b => some (decide (bound < if b then 1 else 0))
  | .float (.finite q) => some (decide (bound < q))
  | .float .negZero => some (decide (bound < 0))
  | .float .inf => some true
  | .float .negInf => some false
  | .float .nan => some false
  | _ => none

/-- `tokens_equal` of a value of a claim. -/
def tokens_equal (presented : Json) (expected : String) : Bool :=
  match presented with
  | .str s => isToken s && isToken expected && s == expected
  | _ => false

variable (lib : Libraries) (settings : AuthSettings)

/-! ### Provider documents -/

/-- `_read` -/
def _read (body : ByteArray) : Except Fault Json :=
  if MAX_PROVIDER_RESPONSE_BYTES < body.size then .error (.OIDCError "PROVIDER_RESPONSE_INVALID")
  else
    match lib.loads body with
    | .ok (.obj entries) => .ok (.obj entries)
    | .ok _ => .error (.OIDCError "PROVIDER_RESPONSE_INVALID")
    | .error .ValueError => .error (.OIDCError "PROVIDER_RESPONSE_INVALID")
    | .error _ => .error .escaped

/-- `_request` -/
def _request (request : HttpRequest) : Handler (ℤ × Option Json) := do
  match ← ask (.request request) with
  | .failed => throw (.OIDCError "PROVIDER_UNAVAILABLE")
  | .raised => throw .escaped
  | .response status body =>
    if status = 204 then return (status, none)
    else
      let doc ← lift (_read lib body)
      return (status, some doc)

/-- An endpoint of the metadata stays on the origin of the issuer. -/
def check_endpoint (issuer_origin : String) (endpoint : Json) : Except Fault Unit :=
  match endpoint with
  | .str url =>
    match lib.origin url with
    | none => .error .escaped
    | some origin =>
      if origin = issuer_origin then .ok () else .error (.OIDCError "PROVIDER_RESPONSE_INVALID")
  | _ => .error (.OIDCError "PROVIDER_RESPONSE_INVALID")

/-- The metadata of a response that is accepted. -/
def accepted_metadata (status : ℤ) (doc : Option Json) : Except Fault Json :=
  match doc with
  | none => .error (.OIDCError "PROVIDER_RESPONSE_INVALID")
  | some doc =>
    if status ≠ 200 ∨ doc.get "issuer" ≠ .str settings.issuer then
      .error (.OIDCError "PROVIDER_RESPONSE_INVALID")
    else
      match lib.origin settings.issuer with
      | none => .error .escaped
      | some issuer_origin => do
        ["authorization_endpoint", "token_endpoint", "jwks_uri", "end_session_endpoint"].forM fun key =>
          check_endpoint lib issuer_origin (doc.get key)
        match holds "S256" ((doc.get? "code_challenge_methods_supported").getD (.arr [])) with
        | none => .error .escaped
        | some false => .error (.OIDCError "PROVIDER_RESPONSE_INVALID")
        | some true => .ok doc

/-- `metadata` -/
def metadata : Handler Json := do
  match ← ask .read_metadata with
  | some doc => return doc
  | none =>
    let answered ← _request lib ⟨"GET", settings.issuer ++ "/.well-known/openid-configuration", none, []⟩
    let doc ← lift (accepted_metadata lib settings answered.1 answered.2)
    let () ← ask (.write_metadata doc)
    return doc

/-- An endpoint of the metadata, which is a text. -/
def endpoint (doc : Json) (key : String) : String := ((doc.get key).str?).getD ""

/-- The key set of a response that is accepted. -/
def accepted_keys (status : ℤ) (doc : Option Json) : Except Fault (List Jwk) :=
  if status ≠ 200 then .error (.OIDCError "PROVIDER_RESPONSE_INVALID")
  else
    match lib.from_dict (doc.getD .null) with
    | .ok keys => .ok keys
    | .error .PyJWTError => .error (.OIDCError "PROVIDER_RESPONSE_INVALID")
    | .error .other => .error .escaped

/-- `_keys` -/
def _keys (refresh : Bool) : Handler (List Jwk) := do
  let now ← ask .time
  match ← ask (.read_jwks refresh now) with
  | some keys => return keys
  | none =>
    let doc ← metadata lib settings
    let answered ← _request lib ⟨"GET", endpoint doc "jwks_uri", none, []⟩
    let keys ← lift (accepted_keys lib answered.1 answered.2)
    let () ← ask (.write_jwks keys now)
    return keys

/-! ### Authorization request -/

def authorization_url (tx : Transaction) : Handler String := do
  let params := [("response_type", "code"), ("client_id", settings.client_id),
    ("redirect_uri", settings.redirect_uri), ("scope", "openid"), ("state", tx.state),
    ("nonce", tx.nonce), ("code_challenge", lib.pkce_challenge tx.code_verifier),
    ("code_challenge_method", "S256")]
  let doc ← metadata lib settings
  return endpoint doc "authorization_endpoint" ++ "?" ++ lib.urlencode params

def _client_auth : String × String := (lib.quote settings.client_id, lib.quote settings.client_secret)

/-! ### Token exchange and validation -/

/-- The request that redeems a code. -/
def redemption (doc : Json) (code code_verifier : String) : HttpRequest where
  method := "POST"
  url := endpoint doc "token_endpoint"
  auth := some (_client_auth lib settings)
  data := [("grant_type", "authorization_code"), ("code", code),
    ("redirect_uri", settings.redirect_uri), ("code_verifier", code_verifier)]

/-- The tokens of a response that is accepted. -/
def accepted_tokens (status : ℤ) (body : Option Json) : Except Fault (String × Json) :=
  if status = 400 ∨ status = 401 then .error (.OIDCError "CODE_EXCHANGE_REJECTED")
  else if status ≠ 200 then .error (.OIDCError "PROVIDER_RESPONSE_INVALID")
  else
    match (body.getD .null).get "id_token" with
    | .str id_token =>
      -- the text of anything but a string is no `bearer`
      if ((body.getD .null).get "token_type").str?.map lib.lower = some "bearer" then
        .ok (id_token, body.getD .null)
      else .error (.OIDCError "PROVIDER_RESPONSE_INVALID")
    | _ => .error (.OIDCError "PROVIDER_RESPONSE_INVALID")

/-- `exchange_code`, with the id token apart -/
def exchange_code (code code_verifier : String) : Handler (String × Json) := do
  let doc ← metadata lib settings
  let answered ← _request lib (redemption lib settings doc code code_verifier)
  lift (accepted_tokens lib answered.1 answered.2)

/-- The algorithm and the key id of a token's header. -/
def accepted_header (id_token : String) : Except Fault (String × String) :=
  match lib.get_unverified_header id_token with
  | .error .PyJWTError => .error (.OIDCError "ID_TOKEN_INVALID")
  | .error .other => .error .escaped
  | .ok header =>
    match header.get "alg", header.get "kid" with
    | .str algorithm, .str kid =>
      if algorithm ∈ ALLOWED_ID_TOKEN_ALGORITHMS then .ok (algorithm, kid)
      else .error (.OIDCError "ID_TOKEN_INVALID")
    | _, _ => .error (.OIDCError "ID_TOKEN_INVALID")

/-- A key of the set by its id, for signatures. -/
def signing_key (kid : String) (keys : List Jwk) : Option Jwk :=
  keys.find? fun key => key.key_id == .str kid &&
    (key.public_key_use == .null || key.public_key_use == .str "sig")

/-- `_find_key` -/
def _find_key (kid : String) (refresh : Bool) : Handler (Option Jwk) := do
  let keys ← _keys lib settings refresh
  return signing_key kid keys

/-- The claims a token is verified to make. -/
def decoded (id_token : String) (key : Jwk) (algorithm : String) (now : ℚ) : Except Fault Json :=
  match lib.decode id_token key algorithm settings.client_id settings.issuer now with
  | .ok claims => .ok claims
  | .error .PyJWTError => .error (.OIDCError "ID_TOKEN_INVALID")
  | .error .other => .error .escaped

/-- `claims[key]` -/
def claim (claims : Json) (key : String) : Except Fault Json :=
  match claims.get? key with
  | some value => .ok value
  | none => .error .escaped

/-- The checks of the authorized party and of the nonce. -/
def check_party (claims : Json) (expected_nonce : String) : Except Fault Unit := do
  let aud ← claim claims "aud"
  let audiences := match aud with
    | .arr items => items
    | aud => [aud]
  let azp := claims.get "azp"
  if (1 < audiences.length ∨ azp ≠ .null) ∧ azp ≠ .str settings.client_id then
    .error (.OIDCError "ID_TOKEN_INVALID")
  else
    let nonce ← claim claims "nonce"
    if tokens_equal nonce expected_nonce then .ok () else .error (.OIDCError "ID_TOKEN_INVALID")

/-- The checks of the issuing instant and of the subject. -/
def check_subject (claims : Json) (now : ℚ) : Except Fault Unit := do
  let iat ← claim claims "iat"
  match exceeds iat (now + CLOCK_LEEWAY_SECONDS) with
  | none => .error .escaped
  | some true => .error (.OIDCError "ID_TOKEN_INVALID")
  | some false =>
    match ← claim claims "sub" with
    | .str subject =>
      if 0 < subject.length ∧ subject.length ≤ MAX_SUBJECT_LENGTH ∧ lib.isprintable subject = true then
        .ok ()
      else .error (.OIDCError "ID_TOKEN_INVALID")
    | _ => .error (.OIDCError "ID_TOKEN_INVALID")

/-- The claims of a token whose key was looked for. -/
def verified_claims (id_token expected_nonce algorithm : String) (found : Option Jwk) : Handler Json :=
  match found with
  | none => throw (.OIDCError "ID_TOKEN_INVALID")
  | some key => do
    let verified ← ask .time
    let claims ← lift (decoded lib settings id_token key algorithm verified)
    let () ← lift (check_party settings claims expected_nonce)
    let now ← ask .time
    let () ← lift (check_subject lib claims now)
    return claims

def validate_id_token (id_token expected_nonce : String) : Handler Json := do
  let header ← lift (accepted_header lib id_token)
  match ← _find_key lib settings header.2 false with
  | some key => verified_claims lib settings id_token expected_nonce header.1 (some key)
  | none =>
    let found ← _find_key lib settings header.2 true
    verified_claims lib settings id_token expected_nonce header.1 found

/-- A failure of the provider's does not fail a logout. -/
def unended (fault : Fault) : Handler Bool :=
  match fault with
  | .OIDCError _ => return false
  | fault => throw fault

/-- `end_provider_session`, best effort -/
def end_provider_session (refresh_token : Option String) : Handler Bool :=
  match refresh_token with
  | none => return false
  | some refresh_token =>
    if refresh_token = "" then return false
    else tryCatch (do
      let doc ← metadata lib settings
      let answered ← _request lib ⟨"POST", endpoint doc "end_session_endpoint",
        some (_client_auth lib settings), [("refresh_token", refresh_token)]⟩
      return decide (answered.1 = 200 ∨ answered.1 = 204)) unended

end TrustLens.Backend.SignIn
