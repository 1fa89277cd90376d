import TrustLens.Backend.Egress

/-!
# Provider policies

A policy is loaded from a governed document. What is loaded names a canonical host, a fixed path, a
port and a parser, and has a digest.
-/

namespace TrustLens.Backend.Egress

open Ai (canonicalJson)

def METHODS : List String := ["GET", "POST"]

def PROVIDER_CATEGORIES : List String :=
  ["REPUTATION_LOOKUP", "ALLOWLIST_LOOKUP", "BRAND_DOMAIN_LOOKUP"]

def REDIRECT_POLICIES : List String := ["DO_NOT_FOLLOW", "REVALIDATE_WITHIN_PROVIDER_ALLOWLIST"]

def AUTH_HEADERS : List String := ["Authorization", "X-Api-Key"]

def RAW_CONTENT_POLICY : String := "NO_RAW_PROVIDER_CONTENT_RETAINED"

def PARSERS : List String := ["TL-FIXTURE-PARSER-1.0.0"]

/-- `_REF` -/
def _REF : String → Bool := Schema.anchored fun cs =>
  let first := fun c => Schema.isAlpha c || Schema.isAsciiDigit c
  Schema.headTail first (fun c => first c || ['.', '_', ':', '-'].contains c) 0 79 cs

def _POLICY_FIELDS : List String :=
  ["provider_policy_ref", "provider_policy_version", "provider_ref", "provider_category",
   "provider_operation", "indicator_type", "scheme", "host", "port", "path_prefix", "method",
   "indicator_parameter", "expected_media_type", "parser_schema_version", "redirect_policy",
   "url_query_transmission", "retry_safe", "enabled", "authentication_header", "credential_ref",
   "freshness_policy_ref", "raw_provider_content_policy_ref", "proxy"]

def referenceKeys : List String :=
  ["provider_policy_ref", "provider_policy_version", "provider_ref", "provider_operation",
   "parser_schema_version", "indicator_parameter"]

/-- The keys with the values they may have. -/
def policyVocabulary : List (String × List String) :=
  [("scheme", ["https"]), ("method", METHODS), ("indicator_type", INDICATOR_TYPES),
   ("provider_category", PROVIDER_CATEGORIES), ("redirect_policy", REDIRECT_POLICIES),
   ("url_query_transmission", ["PERMITTED", "NOT_PERMITTED"]),
   ("expected_media_type", ["application/json"]), ("parser_schema_version", PARSERS)]

/-- A fixed absolute path -/
def isPathPrefix (path : String) : Bool :=
  path.toList.head? == some '/' &&
    !(path.toList.any fun c => ['?', '#', '%', '\\', ' ', '\r', '\n', '@'].contains c) &&
    !(path.toList.tails.any fun cs => ['.', '.'].isPrefixOf cs)

/-- The header and the reference of the credential are governed together. -/
def loadCredential (document : Json) : Option (Option (String × String)) :=
  match document.get "authentication_header", document.get "credential_ref" with
  | .null, .null => some none
  | .str header, .str ref =>
    if AUTH_HEADERS.contains header && _REF ref then some (some (header, ref)) else none
  | _, _ => none

def loadProxy (lib : Libraries) (document : Json) : Option (Option ProxyPolicy) :=
  match document.get "proxy" with
  | .null => some none
  | .obj entries =>
    let proxy := Json.obj entries
    match (proxy.get "host").str?.bind (canonical_host lib), proxy.get "port" with
    | some host, .int port =>
      if sameKeys entries ["host", "port", "final_hop_enforcement_verified"] then
        some (some ⟨host, port, proxy.get "final_hop_enforcement_verified" == .bool true⟩)
      else none
    | _, _ => none
  | _ => none

/-- `load_policy`, none where it raises. -/
def load_policy (lib : Libraries) (document : Json) : Option ProviderPolicy :=
  let text := fun key => ((document.get key).str?).getD ""
  match document, document.get "port", document.get "retry_safe", document.get "enabled",
    loadCredential document, loadProxy lib document with
  | .obj entries, .int port, .bool retry_safe, .bool enabled, some credential, some proxy =>
    if !(entries.all fun e => _POLICY_FIELDS.contains e.1) then none
    else if !(referenceKeys.all fun key => (document.get key).str?.any _REF) then none
    else if !(policyVocabulary.all fun v => (document.get v.1).str?.any v.2.contains) then none
    else if ¬(1 ≤ port ∧ port ≤ 65535) then none
    else if !((document.get "path_prefix").str?.any isPathPrefix) then none
    else if !((document.get "host").str?.any fun host => canonical_host lib host == some host) then none
    else if (canonicalJson lib.number document).isNone then none
    else some
      { provider_policy_ref := text "provider_policy_ref"
        provider_policy_version := text "provider_policy_version"
        provider_ref := text "provider_ref"
        provider_category := text "provider_category"
        indicator_type := text "indicator_type"
        host := text "host"
        port := port
        path_prefix := text "path_prefix"
        method := text "method"
        indicator_parameter := text "indicator_parameter"
        expected_media_type := text "expected_media_type"
        parser_schema_version := text "parser_schema_version"
        redirect_policy := text "redirect_policy"
        retry_safe := retry_safe
        enabled := enabled
        credential := credential
        freshness_policy_ref := (document.get "freshness_policy_ref").str?
        raw_provider_content_policy_ref :=
          ((document.get "raw_provider_content_policy_ref").str?).getD RAW_CONTENT_POLICY
        proxy := proxy
        document := document }
  | _, _, _, _, _, _ => none

/-- What is made sure of when a policy is loaded. -/
structure ProviderPolicy.Governed (lib : Libraries) (policy : ProviderPolicy) : Prop where
  host : canonical_host lib policy.host = some policy.host
  path_prefix : isPathPrefix policy.path_prefix = true
  port : 1 ≤ policy.port ∧ policy.port ≤ 65535
  media_type : policy.expected_media_type = "application/json"
  digest : (policy.digest lib).isSome = true

lemma getD_of_any {s : Option String} {q : String → Bool} (h : s.any q = true) : q (s.getD "") = true := by
  cases s with
  | none => cases h
  | some s => exact h

theorem governed_of_load_policy {lib : Libraries} {document : Json} {policy : ProviderPolicy}
    (h : load_policy lib document = some policy) : policy.Governed lib := by
  unfold load_policy at h
  dsimp only at h
  split at h
  · split_ifs at h with hfields hrefs hwords hport hpath hhost hdocument
    cases h
    simp only [Bool.not_eq_true', Bool.not_eq_false, List.all_eq_true] at hwords hpath hhost
    refine ⟨?_, getD_of_any hpath, hport, ?_, ?_⟩
    · exact beq_iff_eq.mp (getD_of_any hhost)
    · have hmedia := getD_of_any (hwords ("expected_media_type", ["application/json"]) (by decide))
      exact List.mem_singleton.mp (List.contains_iff_mem.mp hmedia)
    · rw [ProviderPolicy.digest, Option.isSome_map]
      simpa [Option.isSome_iff_ne_none] using hdocument
  · cases h

end TrustLens.Backend.Egress
