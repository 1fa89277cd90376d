import Mathlib.Data.List.DropRight
import TrustLens.Ai.CanonicalJson
import TrustLens.Lib.JsonLoads
import TrustLens.Lib.JsonSchema
import TrustLens.Lib.Oracle
import TrustLens.Lib.PyDatetime
import TrustLens.Lib.PyText

/-!
# The lookup of an indicator

One indicator is sent to the destination of one policy. What the network, the clock and the
credential store answer is asked, question after question; what the standard library decides by the
syntax of a text is a parameter.
-/

namespace TrustLens.Backend.Egress

open Py (DateTime)
open Ai (canonicalJson)

/-! ### Outcomes -/

structure Failure where
  outcome : String
  status : String
  category : String
  retry : Bool
deriving DecidableEq

def FAILURES : List (String × Failure) :=
  [("DNS_FAILURE", ⟨"UNAVAILABLE", "FAILED", "DNS_FAILURE", true⟩),
   ("CONNECTION_FAILURE", ⟨"UNAVAILABLE", "FAILED", "CONNECTION_FAILURE", true⟩),
   ("TLS_FAILURE", ⟨"UNAVAILABLE", "FAILED", "TLS_FAILURE", false⟩),
   ("TIMEOUT", ⟨"UNAVAILABLE", "TIMED_OUT", "TIMEOUT", true⟩),
   ("PROVIDER_CLIENT_ERROR", ⟨"UNAVAILABLE", "FAILED", "PROVIDER_CLIENT_ERROR", false⟩),
   ("PROVIDER_SERVER_ERROR", ⟨"UNAVAILABLE", "FAILED", "PROVIDER_SERVER_ERROR", true⟩),
   ("RATE_LIMITED", ⟨"UNAVAILABLE", "FAILED", "RATE_LIMITED", true⟩),
   ("INVALID_CONTENT_TYPE", ⟨"INVALID_RESPONSE", "FAILED", "INVALID_CONTENT_TYPE", false⟩),
   ("OVERSIZED_RESPONSE", ⟨"INVALID_RESPONSE", "FAILED", "OVERSIZED_RESPONSE", false⟩),
   ("DECOMPRESSION_LIMIT_EXCEEDED",
     ⟨"INVALID_RESPONSE", "FAILED", "DECOMPRESSION_LIMIT_EXCEEDED", false⟩),
   ("SCHEMA_INVALID_RESPONSE", ⟨"INVALID_RESPONSE", "FAILED", "SCHEMA_INVALID_RESPONSE", false⟩),
   ("POLICY_REJECTION", ⟨"POLICY_REJECTED", "REJECTED", "POLICY_REJECTION", false⟩),
   ("REDIRECT_POLICY_REJECTION",
     ⟨"POLICY_REJECTED", "REJECTED", "REDIRECT_POLICY_REJECTION", false⟩),
   ("DESTINATION_ADDRESS_REJECTION",
     ⟨"POLICY_REJECTED", "REJECTED", "DESTINATION_ADDRESS_REJECTION", false⟩),
   ("PROXY_ENFORCEMENT_UNVERIFIED",
     ⟨"POLICY_REJECTED", "REJECTED", "PROXY_ENFORCEMENT_UNVERIFIED", false⟩),
   ("CREDENTIAL_UNAVAILABLE", ⟨"UNAVAILABLE", "FAILED", "CREDENTIAL_UNAVAILABLE", false⟩),
   ("PROVIDER_UNAVAILABLE", ⟨"UNAVAILABLE", "FAILED", "PROVIDER_UNAVAILABLE", false⟩)]

inductive Raised where
  /-- `Refused` -/
  | refused (category response_category : String)
  /-- any other exception -/
  | escaped
deriving DecidableEq

abbrev Run := Program Raised

def refuse {α : Type} (category response_category : String) : Run α :=
  throw (.refused category response_category)

structure LookupResult where
  outcome : String
  status : String
  safe_error_category : Option String
  provider_response_category : String
  reputation_result : String
  allowlist_result : String
  domain_matches_claimed_brand : String
  responded_at : Option DateTime
  artifact : Option Json
  attempts : ℕ
deriving DecidableEq

/-- `_failed`: a `KeyError` for a category that is none. -/
def _failed (category response_category : String) (attempts : ℕ) (responded_at : Option DateTime) :
    Run LookupResult :=
  match FAILURES.lookup category with
  | none => throw .escaped
  | some f => pure ⟨f.outcome, f.status, some f.category, response_category, "NOT_EVALUATED",
      "NOT_EVALUATED", "UNKNOWN", responded_at, none, attempts⟩

/-! ### Limits and policies -/

structure Limits where
  connect_timeout : ℚ
  read_timeout : ℚ
  overall_deadline : ℚ
  max_attempts : ℕ
  backoff_initial : ℚ
  backoff_max : ℚ
  max_redirect_hops : ℕ
  wire_max_bytes : ℕ
  decoded_max_bytes : ℕ
  waits : ∀ q ∈ [connect_timeout, read_timeout, overall_deadline, backoff_initial, backoff_max],
    0 < q ∧ q < 600
  bounds : ∀ n ∈ [max_attempts, max_redirect_hops, wire_max_bytes, decoded_max_bytes],
    n ≤ 10 * 1024 * 1024
  attempted : 1 ≤ max_attempts
  backoff : backoff_initial ≤ backoff_max

def LOCAL_TEST_PROFILE : Limits where
  connect_timeout := 3
  read_timeout := 5
  overall_deadline := 10
  max_attempts := 2
  backoff_initial := 1 / 5
  backoff_max := 1
  max_redirect_hops := 2
  wire_max_bytes := 32 * 1024
  decoded_max_bytes := 64 * 1024
  waits := by decide +kernel
  bounds := by decide
  attempted := by decide
  backoff := by decide +kernel

structure ProxyPolicy where
  host : String
  port : ℤ
  final_hop_enforcement_verified : Bool
deriving DecidableEq

structure ProviderPolicy where
  provider_policy_ref : String
  provider_policy_version : String
  provider_ref : String
  provider_category : String
  indicator_type : String
  host : String
  port : ℤ
  path_prefix : String
  method : String
  indicator_parameter : String
  expected_media_type : String
  parser_schema_version : String
  redirect_policy : String
  retry_safe : Bool
  enabled : Bool
  /-- the header and the reference of the credential, which are governed together -/
  credential : Option (String × String)
  freshness_policy_ref : Option String
  raw_provider_content_policy_ref : String
  proxy : Option ProxyPolicy
  document : Json
deriving DecidableEq

structure Indicator where
  indicator_type : String
  value : String
deriving DecidableEq

def INDICATOR_TYPES : List String := ["URL", "HOSTNAME", "REGISTERED_DOMAIN"]

/-! ### The outside -/

/-- `ipaddress.ip_address` -/
structure IpAddress where
  version : ℕ
  value : ℕ
  has_scope : Bool
  ipv4_mapped : Bool
  is_global : Bool
  is_multicast : Bool
deriving DecidableEq

/-- `urlsplit` -/
structure SplitUrl where
  scheme : String
  netloc : String
  path : String
  query : String
  username : Option String
  password : Option String
  hostname : Option String
  /-- none where it raises a `ValueError` -/
  port : Option (Option ℤ)
deriving DecidableEq

/-- `decompressobj(…).decompress` -/
structure Inflated where
  data : List UInt8
  unconsumed_tail : Bool
  eof : Bool
  unused_data : Bool
deriving DecidableEq

structure Libraries where
  lower : String → String
  /-- `name.encode("idna").decode("ascii")` -/
  idna : String → Option String
  ip_address : String → Option IpAddress
  /-- `quote(text, safe="")` -/
  quote : String → String
  urlsplit : String → Option SplitUrl
  urljoin : String → String → Option String
  inflate : String → List UInt8 → ℕ → Option Inflated
  /-- `_strict_json`, none where it raises -/
  strict_json : List UInt8 → Option Json
  sha256 : String → String
  /-- `float.__repr__` -/
  number : PyFloat → String

def ProviderPolicy.digest (lib : Libraries) (policy : ProviderPolicy) : Option String :=
  (canonicalJson lib.number policy.document).map lib.sha256

def Indicator.ref (lib : Libraries) (indicator : Indicator) : Option String :=
  (canonicalJson lib.number (.obj [("indicator_type", .str indicator.indicator_type),
    ("normalized_value", .str indicator.value)])).map lib.sha256

def LookupResult.artifact_digest (lib : Libraries) (result : LookupResult) : Option (Option String) :=
  match result.artifact with
  | none => some none
  | some artifact => ((canonicalJson lib.number artifact).map lib.sha256).map some

structure TransportResponse where
  status : ℤ
  headers : List (String × String)
  body : List UInt8
deriving DecidableEq

inductive Resolved where
  /-- `ResolverError` -/
  | error
  | raised
  /-- none for what is no list, and for an address that is no string -/
  | answers (addresses : Option (List (Option String)))

inductive Connected where
  /-- `TransportError` -/
  | error (kind : String)
  | raised
  | channel (peer_address : Option String)

inductive Exchanged where
  | error (kind : String)
  | raised
  | response (response : TransportResponse)

/-- What the outside answers, question after question. -/
structure World where
  clock : ℕ → ℚ
  now : ℕ → DateTime
  resolve : ℕ → Resolved
  connect : ℕ → Connected
  exchange : ℕ → Exchanged
  credential : ℕ → Option String
  uuid4 : ℕ → String

/-! ### Destinations -/

/-- A network by its version, its first address and the length of its prefix. -/
structure Network where
  version : ℕ
  first : ℕ
  prefixlen : ℕ

def Network.contains (n : Network) (a : IpAddress) : Bool :=
  let hostBits := (if n.version = 4 then 32 else 128) - n.prefixlen
  a.version == n.version && a.value / 2 ^ hostBits == n.first / 2 ^ hostBits

def v4 (a b c d prefixlen : ℕ) : Network := ⟨4, ((a * 256 + b) * 256 + c) * 256 + d, prefixlen⟩

def _EMBEDDED_V4 : List Network :=
  [⟨6, 0xFFFF00000000, 96⟩, ⟨6, 0, 96⟩, ⟨6, 0x64FF9B * 2 ^ 96, 96⟩, ⟨6, 0x2002 * 2 ^ 112, 16⟩,
   ⟨6, 0x20010000 * 2 ^ 96, 32⟩]

def _DENIED : List Network :=
  [v4 127 0 0 0 8, v4 10 0 0 0 8, v4 172 16 0 0 12, v4 192 168 0 0 16, v4 169 254 0 0 16,
   v4 224 0 0 0 4, v4 0 0 0 0 8, v4 100 64 0 0 10, v4 192 0 0 0 24, v4 192 0 2 0 24,
   v4 198 18 0 0 15, v4 198 51 100 0 24, v4 203 0 113 0 24, v4 240 0 0 0 4, v4 255 255 255 255 32,
   ⟨6, 1, 128⟩, ⟨6, 0xFE80 * 2 ^ 112, 10⟩, ⟨6, 0xFF00 * 2 ^ 112, 8⟩, ⟨6, 0, 128⟩,
   ⟨6, 0x0100 * 2 ^ 112, 64⟩, ⟨6, 0x20010DB8 * 2 ^ 96, 32⟩, ⟨6, 0xFC00 * 2 ^ 112, 7⟩]

/-- `METADATA` -/
def isMetadata (a : IpAddress) : Bool := (v4 169 254 169 254 32).contains a

def address_permitted (lib : Libraries) (extra_metadata : List IpAddress) (text : String) : Bool :=
  match lib.ip_address text with
  | none => false
  | some a =>
    !(a.version == 6 && (a.has_scope || _EMBEDDED_V4.any (·.contains a) || a.ipv4_mapped)) &&
      !_DENIED.any (·.contains a) && !(isMetadata a || extra_metadata.contains a) &&
      a.is_global && !a.is_multicast

/-- `_LABEL` -/
def _LABEL : String → Bool := Schema.anchored fun cs =>
  let inner := fun c => Schema.isLower c || Schema.isAsciiDigit c || c == '-'
  let edge := fun c => Schema.isLower c || Schema.isAsciiDigit c
  match cs with
  | [] => false
  | c :: rest => edge c && (rest.isEmpty ||
      (rest.length ≤ 62 && rest.dropLast.all inner && rest.getLast?.any edge))

def forbiddenHostChars : List Char :=
  ['@', '%', '\\', '/', '?', '#', '[', ']', ':', ' ', '\t', '\r', '\n']

/-- `canonical_host`, none where it refuses. -/
def canonical_host (lib : Libraries) (host : String) : Option String :=
  if host.isEmpty || 253 < host.length then none
  else if host.toList.any fun c => forbiddenHostChars.contains c || c.toNat < 0x21 then none
  else
    let name := if host.toList.getLast? == some '.' then String.ofList host.toList.dropLast else host
    match (lib.idna name).map lib.lower with
    | none => none
    | some name =>
      let labels := (name.toList.splitOn '.').map String.ofList
      let numeric := labels.getLast?.any fun l => !l.isEmpty && l.toList.all Schema.isAsciiDigit
      if labels.length < 2 || !labels.all _LABEL || numeric then none
      else if (lib.ip_address name).isSome then none
      else some name

/-! ### Responses -/

def _response_category (status : ℤ) : String :=
  if status = 429 then "HTTP_429"
  else if status / 100 = 2 then "HTTP_2XX"
  else if status / 100 = 3 then "HTTP_3XX"
  else if status / 100 = 4 then "HTTP_4XX"
  else if status / 100 = 5 then "HTTP_5XX"
  else "NO_RESPONSE"

def stripLower (lib : Libraries) (s : String) : String :=
  lib.lower (String.ofList (PyText.strip s.toList))

def _decode_body (lib : Libraries) (limits : Limits) (response : TransportResponse) :
    Run (List UInt8) :=
  let encoding :=
    stripLower lib ((response.headers.lookup "content-encoding").getD "identity")
  if limits.wire_max_bytes < response.body.length then refuse "OVERSIZED_RESPONSE" "HTTP_2XX"
  else if encoding = "" ∨ encoding = "identity" then
    if limits.decoded_max_bytes < response.body.length then refuse "OVERSIZED_RESPONSE" "HTTP_2XX"
    else pure response.body
  else if encoding = "gzip" ∨ encoding = "deflate" then
    match lib.inflate encoding response.body (limits.decoded_max_bytes + 1) with
    | none => refuse "SCHEMA_INVALID_RESPONSE" "HTTP_2XX"
    | some inflated =>
      if limits.decoded_max_bytes < inflated.data.length || inflated.unconsumed_tail then
        refuse "DECOMPRESSION_LIMIT_EXCEEDED" "HTTP_2XX"
      else if !inflated.eof || inflated.unused_data then refuse "SCHEMA_INVALID_RESPONSE" "HTTP_2XX"
      else pure inflated.data
  else refuse "INVALID_CONTENT_TYPE" "HTTP_2XX"

/-- `text.split("=", 1)` of a text with the sign -/
def splitAssignment (s : String) : String × String :=
  (String.ofList (s.toList.takeWhile (· != '=')), String.ofList (s.toList.dropWhile (· != '=')).tail)

def stripQuotes (s : String) : String :=
  String.ofList ((s.toList.dropWhile (· == '"')).rdropWhile (· == '"'))

def _media_type_ok (lib : Libraries) (value : Option String) (expected : String) : Bool :=
  match value with
  | none => false
  | some value =>
    if value.isEmpty then false
    else
      let parts := (value.toList.splitOn ';').map fun cs => stripLower lib (String.ofList cs)
      let params := (parts.tail.filter (·.toList.contains '=')).map splitAssignment
      parts.head? == some expected &&
        stripQuotes ((params.reverse.lookup "charset").getD "utf-8") == "utf-8" && parts.length ≤ 2

/-! ### The parser -/

/-- `_RFC3339` -/
def _RFC3339 : String → Bool := Schema.anchored fun cs =>
  let shaped (shape : List Char) (cs : List Char) : Bool :=
    cs.length == shape.length && (shape.zip cs).all fun p =>
      if p.1 == '0' then PyText.isDigit p.2 else p.1 == p.2
  let zone (cs : List Char) : Bool :=
    cs == ['Z'] || shaped "+00:00".toList cs || shaped "-00:00".toList cs
  let rest := cs.drop 19
  shaped "0000-00-00T00:00:00".toList (cs.take 19) &&
    match rest with
    | '.' :: fraction =>
      let digits := fraction.takeWhile PyText.isDigit
      1 ≤ digits.length && digits.length ≤ 6 && zone (fraction.drop digits.length)
    | rest => zone rest

/-- The microseconds up to `datetime.max`. -/
def maxMicros : ℤ := Py.ordinal 9999 12 31 * Py.dayMicros + Py.dayMicros - 1

/-- A moment that is read and is not past the next five minutes; what cannot be compared is not. -/
def timely (observed : String) (now : DateTime) : Bool :=
  let text := observed.toList.flatMap fun c => if c = 'Z' then Py.utc else [c]
  match Py.fromisoformat text with
  | some (moment, some offset) => now.micros + 5 * 60 * 1000000 ≤ maxMicros &&
      moment.micros - offset ≤ now.micros + 5 * 60 * 1000000
  | some (_, none) | none => false

def documentKeys : List String :=
  ["schema_version", "provider_ref", "indicator", "observed_at", "entry", "reputation", "allowlist",
   "brand_match"]

/-- The reputations, allow-list results and brand matches of an entry. -/
def allowedResults : List (String × List String × List String × List String) :=
  [("FOUND", ["MALICIOUS", "SUSPICIOUS", "CLEAN", "UNKNOWN"],
     ["ALLOWLISTED", "NOT_ALLOWLISTED", "NOT_EVALUATED"], ["MATCH", "MISMATCH", "UNKNOWN"]),
   ("NOT_FOUND", ["UNKNOWN"], ["NOT_ALLOWLISTED", "NOT_EVALUATED"], ["UNKNOWN"])]

structure Normalized where
  lookup_outcome : String
  reputation_result : String
  allowlist_result : String
  domain_matches_claimed_brand : String
  provider_observed_at : String
deriving DecidableEq

def sameKeys (entries : List (String × Json)) (keys : List String) : Bool :=
  entries.all (fun e => keys.contains e.1) && keys.all fun k => (entries.map Prod.fst).contains k

/-- A result whose values its entry may have. -/
def allowedResult (entry reputation allowlist brand observed : String) : Option Normalized :=
  match allowedResults.lookup entry with
  | none => none
  | some (reputations, allowlists, brands) =>
    if reputations.contains reputation && allowlists.contains allowlist && brands.contains brand then
      some ⟨entry, reputation, allowlist, brand, observed⟩
    else none

/-- `fixture_parser_v1`, none where it refuses the document or raises. -/
def fixture_parser_v1 (document : Json) (policy : ProviderPolicy) (indicator : Indicator)
    (now : DateTime) : Option Normalized :=
  match document, document.get "indicator" with
  | .obj entries, .obj echoed =>
    -- every field's type before any comparison
    let texts := ["schema_version", "provider_ref", "observed_at", "entry", "reputation",
      "allowlist", "brand_match"].mapM fun key => (document.get key).str?
    let echo := ["type", "value"].mapM fun key => ((document.get "indicator").get key).str?
    match texts, echo with
    | some [schema_version, provider_ref, observed, entry, reputation, allowlist, brand],
        some [type, value] =>
      if !sameKeys entries documentKeys || !sameKeys echoed ["type", "value"] then none
      else if schema_version ≠ "1.0.0" ∨ provider_ref ≠ policy.provider_ref ∨
          type ≠ indicator.indicator_type ∨ value ≠ indicator.value then none
      else if !_RFC3339 observed || !timely observed now then none
      else allowedResult entry reputation allowlist brand observed
    | _, _ => none
  | _, _ => none

/-- `PARSERS[policy.parser_schema_version](…)`: whatever it raises is refused. -/
def parse (document : Json) (policy : ProviderPolicy) (indicator : Indicator) (now : DateTime) :
    Option Normalized :=
  if policy.parser_schema_version = "TL-FIXTURE-PARSER-1.0.0" then
    fixture_parser_v1 document policy indicator now
  else none

/-! ### The lookup -/

/-- `_TRANSPORT_FAILURES.get(kind, "CONNECTION_FAILURE")` -/
def transportFailure (kind : String) : String :=
  (([("TLS", "TLS_FAILURE"), ("TIMEOUT", "TIMEOUT"),
    ("PROXY_UNSUPPORTED", "PROXY_ENFORCEMENT_UNVERIFIED")] : List (String × String)).lookup
      kind).getD "CONNECTION_FAILURE"

lemma transportFailure_known (kind : String) :
    (FAILURES.lookup (transportFailure kind)).isSome = true := by
  unfold transportFailure
  simp only [List.lookup_cons, List.lookup_nil]
  split
  · rfl
  · split
    · rfl
    · split <;> rfl

structure OutgoingRequest where
  host : String
  target : String
  body : Option String
  headers : List (String × String)

structure Adapter where
  lib : Libraries
  world : World
  limits : Limits
  extra_metadata_addresses : List IpAddress

namespace Adapter

variable (adapter : Adapter)

def clock : Run ℚ := Program.ask adapter.world.clock

def _remaining (deadline : ℚ) : Run Unit := do
  let t ← adapter.clock
  if deadline - t ≤ 0 then refuse "TIMEOUT" "NO_RESPONSE"

def hostHeader (policy : ProviderPolicy) (host : String) : String :=
  if policy.port = 443 then host else s!"{host}:{policy.port}"

/-- The value of the authentication header, none where the policy has no credential. -/
def authentication (policy : ProviderPolicy) : Run (List (String × String)) :=
  match policy.credential with
  | none => pure []
  | some (header, _) => do
    match ← Program.ask adapter.world.credential with
    | none => refuse "CREDENTIAL_UNAVAILABLE" "NO_RESPONSE"
    | some value =>
      if value.isEmpty then refuse "CREDENTIAL_UNAVAILABLE" "NO_RESPONSE"
      else pure [(header, value)]

/-- A carriage return, a line feed or a null character -/
def breaksHeader (s : String) : Bool :=
  s.toList.any fun c => c == '\r' || c == '\n' || c.toNat == 0

/-- The indicator goes into the query of a `GET`. -/
def requestTarget (policy : ProviderPolicy) (indicator : Indicator) : String :=
  if policy.method = "GET" then
    policy.path_prefix ++ "?" ++ adapter.lib.quote policy.indicator_parameter ++ "=" ++
      adapter.lib.quote indicator.value
  else policy.path_prefix

/-- The body of a request that is no `GET`. -/
def requestBody (policy : ProviderPolicy) (indicator : Indicator) : Run (Option String) :=
  if policy.method = "GET" then pure none
  else match canonicalJson adapter.lib.number (.obj (Json.upsert "indicator_type"
      (.str indicator.indicator_type) [(policy.indicator_parameter, .str indicator.value)])) with
    | none => throw .escaped
    | some text => pure (some text)

def _prepare (policy : ProviderPolicy) (indicator : Indicator) : Run OutgoingRequest :=
  if !policy.enabled then refuse "POLICY_REJECTION" "NO_RESPONSE"
  else if indicator.indicator_type ≠ policy.indicator_type ∨
      indicator.indicator_type ∉ INDICATOR_TYPES then refuse "POLICY_REJECTION" "NO_RESPONSE"
  else if policy.proxy.any (!·.final_hop_enforcement_verified) then
    refuse "PROXY_ENFORCEMENT_UNVERIFIED" "NO_RESPONSE"
  else match canonical_host adapter.lib policy.host with
    | none => refuse "POLICY_REJECTION" "NO_RESPONSE"
    | some host => do
      let body ← adapter.requestBody policy indicator
      let correlation ← Program.ask adapter.world.uuid4
      let authenticated ← adapter.authentication policy
      let headers := [("Host", hostHeader policy host), ("Accept", policy.expected_media_type),
        ("User-Agent", "TrustLens-IndicatorLookup/1.0.0"), ("X-Correlation-Id", correlation)] ++
        (match body with
          | none => []
          | some text => [("Content-Type", "application/json"),
              ("Content-Length", toString text.utf8ByteSize)]) ++ authenticated
      if headers.any fun h => breaksHeader h.1 || breaksHeader h.2 then
        refuse "POLICY_REJECTION" "NO_RESPONSE"
      else pure ⟨host, adapter.requestTarget policy indicator, body, headers⟩

def _resolve_validated (deadline : ℚ) : Run String := do
  adapter._remaining deadline
  match ← Program.ask adapter.world.resolve with
  | .error => refuse "DNS_FAILURE" "NO_RESPONSE"
  | .raised => throw .escaped
  | .answers addresses =>
    adapter._remaining deadline
    match addresses with
    | none | some [] => refuse "DNS_FAILURE" "NO_RESPONSE"
    | some (first :: rest) =>
      match (first :: rest).mapM id with
      | none => refuse "DESTINATION_ADDRESS_REJECTION" "NO_RESPONSE"
      | some texts =>
        if texts.all (address_permitted adapter.lib adapter.extra_metadata_addresses) then
          pure ((texts.mergeSort).headD "")
        else refuse "DESTINATION_ADDRESS_REJECTION" "NO_RESPONSE"

def _canonical_path (path : String) (allow_empty : Bool) : Bool :=
  if path.isEmpty then allow_empty
  else if path.toList.any fun c => c == '%' || c == '\\' then false
  else
    let segments := path.toList.splitOn '/'
    let segments := if segments.head? == some [] then segments.tail else segments
    segments.all (fun s => s != ['.'] && s != ['.', '.']) && segments.dropLast.all (!·.isEmpty)

def _withinPrefix (path root : String) : Bool :=
  let base := root.toList.rdropWhile (· == '/')
  path.toList.head? == some '/' && _canonical_path path false &&
    (path == root || path.toList == base || (base ++ ['/']).isPrefixOf path.toList)

def _redirect_target (policy : ProviderPolicy) (host target : String) (location : Option String) :
    Run (String × String) :=
  match location with
  | none => refuse "REDIRECT_POLICY_REJECTION" "HTTP_3XX"
  | some location =>
    if location.isEmpty || location.toList.any (fun c => breaksHeader (String.ofList [c]) ||
        c == '\\' || c == '%' || c == ';') then
      refuse "REDIRECT_POLICY_REJECTION" "HTTP_3XX"
    else match adapter.lib.urlsplit location with
      | none => throw .escaped
      | some split =>
        if !_canonical_path split.path true then refuse "REDIRECT_POLICY_REJECTION" "HTTP_3XX"
        else match (adapter.lib.urljoin ("https://" ++ hostHeader policy host ++ target)
            location).bind adapter.lib.urlsplit with
          | none => throw .escaped
          | some parts =>
            match parts.port, canonical_host adapter.lib (parts.hostname.getD "") with
            | some port, some next_host =>
              let port := match port with
                | some p => if p = 0 then 443 else p
                | none => 443
              let credentials := parts.username.any (!·.isEmpty) || parts.password.any (!·.isEmpty)
              if parts.scheme ≠ "https" || credentials || parts.netloc.toList.contains '@' ||
                  next_host ≠ policy.host || port ≠ policy.port ||
                  !_withinPrefix parts.path policy.path_prefix then
                refuse "REDIRECT_POLICY_REJECTION" "HTTP_3XX"
              else pure (next_host,
                parts.path ++ if parts.query.isEmpty then "" else "?" ++ parts.query)
            | _, _ => refuse "REDIRECT_POLICY_REJECTION" "HTTP_3XX"

/-- `strftime("%Y-%m-%dT%H:%M:%S.%fZ")` -/
def stamp (d : DateTime) : String :=
  String.ofList (Py.isoDate d ++ 'T' :: (Py.fixed 2 d.hour ++ ':' :: (Py.fixed 2 d.minute ++
    ':' :: (Py.fixed 2 d.second ++ '.' :: (Py.fixed 6 d.microsecond ++ ['Z'])))))

/-- A response that is no redirect: its status, its media type, its body and its document. -/
def accept (policy : ProviderPolicy) (indicator : Indicator) (deadline : ℚ) (attempts : ℕ)
    (response : TransportResponse) : Run LookupResult := do
  let category := _response_category response.status
  if response.status = 429 then refuse "RATE_LIMITED" category
  else if 400 ≤ response.status ∧ response.status < 500 then
    refuse "PROVIDER_CLIENT_ERROR" category
  else if 500 ≤ response.status then refuse "PROVIDER_SERVER_ERROR" category
  else if response.status ≠ 200 then refuse "SCHEMA_INVALID_RESPONSE" category
  else if !_media_type_ok adapter.lib (response.headers.lookup "content-type")
      policy.expected_media_type then refuse "INVALID_CONTENT_TYPE" category
  else do
    let data ← _decode_body adapter.lib adapter.limits response
    adapter._remaining deadline
    match adapter.lib.strict_json data with
    | none => refuse "SCHEMA_INVALID_RESPONSE" category
    | some document =>
      let now ← Program.ask adapter.world.now
      match parse document policy indicator now with
      | none => refuse "SCHEMA_INVALID_RESPONSE" category
      | some normalized =>
        adapter._remaining deadline
        let responded_at ← Program.ask adapter.world.now
        match policy.digest adapter.lib, indicator.ref adapter.lib with
        | some digest, some ref =>
          let artifact : Json := .obj [("provider_ref", .str policy.provider_ref),
            ("provider_policy_version", .str policy.provider_policy_version),
            ("provider_policy_digest", .str digest),
            ("parser_schema_version", .str policy.parser_schema_version),
            ("indicator_type", .str indicator.indicator_type),
            ("normalized_indicator_ref", .str ref),
            ("observed_at", .str (stamp responded_at)),
            ("normalized_payload", .obj [("lookup_outcome", .str normalized.lookup_outcome),
              ("reputation_result", .str normalized.reputation_result),
              ("allowlist_result", .str normalized.allowlist_result),
              ("domain_matches_claimed_brand", .str normalized.domain_matches_claimed_brand),
              ("provider_observed_at", .str normalized.provider_observed_at)])]
          pure ⟨normalized.lookup_outcome, "SUCCEEDED", none, category,
            normalized.reputation_result, normalized.allowlist_result,
            normalized.domain_matches_claimed_brand, some responded_at, some artifact, attempts⟩
        | _, _ => throw .escaped

/-- The response of one hop, from an address that was validated. -/
def exchange (deadline : ℚ) : Run TransportResponse := do
  let address ← adapter._resolve_validated deadline
  adapter._remaining deadline
  match ← Program.ask adapter.world.connect with
  | .error kind => refuse (transportFailure kind) "NO_RESPONSE"
  | .raised => throw .escaped
  | .channel peer =>
    if peer ≠ some address ∨
        address_permitted adapter.lib adapter.extra_metadata_addresses address = false then
      refuse "DESTINATION_ADDRESS_REJECTION" "NO_RESPONSE"
    else do
      adapter._remaining deadline
      match ← Program.ask adapter.world.exchange with
      | .error kind => refuse (transportFailure kind) "NO_RESPONSE"
      | .raised => throw .escaped
      | .response response =>
        adapter._remaining deadline
        pure response

/-- `_attempt`, with the hops that may still follow -/
def _attempt (policy : ProviderPolicy) (indicator : Indicator) (deadline : ℚ) (attempts : ℕ) :
    ℕ → String → String → Run LookupResult
  | hops, host, target => do
    let response ← adapter.exchange deadline
    if 300 ≤ response.status ∧ response.status < 400 then
      match hops with
      | 0 => refuse "REDIRECT_POLICY_REJECTION" (_response_category response.status)
      | hops + 1 =>
        if policy.redirect_policy = "DO_NOT_FOLLOW" then
          refuse "REDIRECT_POLICY_REJECTION" (_response_category response.status)
        else do
          let next ← adapter._redirect_target policy host target (response.headers.lookup "location")
          _attempt policy indicator deadline attempts hops next.1 next.2
    else adapter.accept policy indicator deadline attempts response

/-- One attempt, unless the deadline is over. -/
def once (policy : ProviderPolicy) (indicator : Indicator) (request : OutgoingRequest)
    (deadline : ℚ) (attempts : ℕ) : Run LookupResult := do
  let t ← adapter.clock
  if deadline ≤ t then refuse "TIMEOUT" "NO_RESPONSE"
  else
    adapter._attempt policy indicator deadline attempts adapter.limits.max_redirect_hops
      request.host request.target

/-- The result of a failure that is not tried again. -/
def settled (category response_category : String) (attempts : ℕ) : Run LookupResult :=
  if response_category = "NO_RESPONSE" then _failed category response_category attempts none
  else do
    let now ← Program.ask adapter.world.now
    _failed category response_category attempts (some now)

/-- What follows a failed attempt, and the next attempt if there may be one. -/
def recover (policy : ProviderPolicy) (deadline : ℚ) (attempts : ℕ)
    (again : Option (Run LookupResult)) : Raised → Run LookupResult
  | .escaped => throw .escaped
  | .refused category response_category =>
    match FAILURES.lookup category, again with
    | none, _ => throw .escaped
    | some failure, some again =>
      if failure.retry && policy.retry_safe then do
        let wait := min (adapter.limits.backoff_initial * 2 ^ (attempts - 1))
          adapter.limits.backoff_max
        let t ← adapter.clock
        if deadline ≤ t + wait then _failed category response_category attempts none
        else again
      else adapter.settled category response_category attempts
    | some _, none => adapter.settled category response_category attempts

/-- The attempts, with the number of those that may still follow. -/
def attempting (policy : ProviderPolicy) (indicator : Indicator) (request : OutgoingRequest)
    (deadline : ℚ) : ℕ → ℕ → Run LookupResult
  | 0, attempts => tryCatch (adapter.once policy indicator request deadline attempts)
      (adapter.recover policy deadline attempts none)
  | left + 1, attempts => tryCatch (adapter.once policy indicator request deadline attempts)
      (adapter.recover policy deadline attempts
        (some (attempting policy indicator request deadline left (attempts + 1))))

def lookup (policy : ProviderPolicy) (indicator : Indicator) : Run LookupResult := do
  let start ← adapter.clock
  let prepared : Except (String × String) OutgoingRequest ←
    tryCatch (do return .ok (← adapter._prepare policy indicator)) fun raised => match raised with
      | .escaped => throw .escaped
      | .refused category response_category => pure (.error (category, response_category))
  match prepared with
  | .error (category, response_category) => _failed category response_category 0 none
  | .ok request =>
    adapter.attempting policy indicator request (start + adapter.limits.overall_deadline)
      (adapter.limits.max_attempts - 1) 1

end Adapter

end TrustLens.Backend.Egress
