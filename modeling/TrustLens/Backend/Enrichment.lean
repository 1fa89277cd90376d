import TrustLens.Backend.AuditChain
import TrustLens.Backend.Egress
import TrustLens.Lib.ThreeValued

/-!
# Enrichment records

The row that records a lookup, the checks of its table and the view of a stored row. A check passes
unless it is false: one about an absent value is unknown.
-/

namespace TrustLens.Backend.Enrichment

open AuditChain (AuditEvent hexGroup)
open Egress (Indicator Libraries LookupResult ProviderPolicy)
open Py (DateTime)

/-! ### Rows -/

/-- `external_enrichment_result`, the columns that a check or the view reads -/
structure Record where
  external_enrichment_result_id : String
  evaluation_id : Option String
  target_evidence_item_id : Option String
  target_evidence_derivative_id : Option String
  provider_ref : String
  responded_at : Option DateTime
  status : String
  safe_error_category : Option String
  reputation_result : String
  allowlist_result : String
  domain_matches_claimed_brand : String
  consumed_in_governed_artifact : Bool
  indicator_type : String
  normalized_indicator_ref : String
  lookup_outcome : Option String
  provider_response_category : Option String
  freshness_state : String
  provider_policy_ref : String
  provider_policy_version : String
  provider_policy_digest : String
  response_artifact_digest : Option String
  retained_provider_artifact_ecs_locator : Option String
deriving DecidableEq

/-- The row that `_lookup_and_record` inserts, none where a digest cannot be taken. -/
def recorded (lib : Libraries) (record_id evaluation_id : String) (policy : ProviderPolicy)
    (indicator : Indicator) (result : LookupResult) : Option Record := do
  let digest ← policy.digest lib
  let ref ← indicator.ref lib
  let artifact_digest ← result.artifact_digest lib
  return {
    external_enrichment_result_id := record_id
    evaluation_id := some evaluation_id
    target_evidence_item_id := none
    target_evidence_derivative_id := none
    provider_ref := policy.provider_ref
    responded_at := result.responded_at
    status := result.status
    safe_error_category := result.safe_error_category
    reputation_result := result.reputation_result
    allowlist_result := result.allowlist_result
    domain_matches_claimed_brand := result.domain_matches_claimed_brand
    consumed_in_governed_artifact := false
    indicator_type := indicator.indicator_type
    normalized_indicator_ref := ref
    lookup_outcome := some result.outcome
    provider_response_category := some result.provider_response_category
    freshness_state := "UNKNOWN"
    provider_policy_ref := policy.provider_policy_ref
    provider_policy_version := policy.provider_policy_version
    provider_policy_digest := digest
    response_artifact_digest := artifact_digest
    retained_provider_artifact_ecs_locator := none }

/-- The event beside the row, if the outcome has one. -/
def outcomeEvent (record_id case_id evaluation_id correlation digest : String)
    (result : LookupResult) : Option AuditEvent :=
  let event (eventType outcome : String) (metadata : AuditChain.Dict) : AuditEvent :=
    { eventType := eventType
      outcome := outcome
      actorKind := "SYSTEM"
      targetKind := "EXTERNAL_ENRICHMENT"
      correlationId := correlation
      actorPrincipalId := none
      targetId := some record_id
      safeMetadata := some metadata
      occurredAt := none
      caseRecordId := some case_id
      evidenceItemId := none
      evaluationId := some evaluation_id
      bundleContentDigest := none }
  if result.outcome = "FOUND" ∨ result.outcome = "NOT_FOUND" then
    some (event "ENRICHMENT_ACCEPTED" "SUCCEEDED"
      ⟨[("provider_policy_digest", .str digest), ("lookup_outcome", .str result.outcome)],
        by simp⟩)
  else if result.outcome = "POLICY_REJECTED" then
    some (event "EGRESS_DENIED" "DENIED" ⟨[("provider_policy_digest", .str digest),
      ("reason", (result.safe_error_category.map Json.str).getD .null)], by simp⟩)
  else if result.safe_error_category = some "CREDENTIAL_UNAVAILABLE" then
    some (event "CREDENTIAL_REFERENCE_FAILURE" "FAILED"
      ⟨[("provider_policy_digest", .str digest)], by simp⟩)
  else none

/-! ### The checks of the table -/

def ofBool (b : Bool) : Truth := if b then .TRUE else .FALSE

/-- `value = text`, of a column that may be absent -/
def equals (value : Option String) (text : String) : Truth :=
  match value with
  | none => .UNKNOWN
  | some v => ofBool (v == text)

/-- `value IN (…)` -/
def within (value : Option String) (texts : List String) : Truth :=
  match value with
  | none => .UNKNOWN
  | some v => ofBool (texts.contains v)

/-- `value NOT IN (…)` -/
def outside (value : Option String) (texts : List String) : Truth :=
  match value with
  | none => .UNKNOWN
  | some v => ofBool (!texts.contains v)

/-- `text ~ '^[0-9a-f]{64}$'` -/
def isDigest (text : String) : Bool := hexGroup 64 text.toList

def STATUSES : List String := ["SUCCEEDED", "FAILED", "TIMED_OUT", "REJECTED", "NOT_EVALUATED"]

def SAFE_ERROR_CATEGORIES : List String :=
  ["DNS_FAILURE", "CONNECTION_FAILURE", "TLS_FAILURE", "TIMEOUT", "PROVIDER_CLIENT_ERROR",
   "PROVIDER_SERVER_ERROR", "RATE_LIMITED", "INVALID_CONTENT_TYPE", "OVERSIZED_RESPONSE",
   "DECOMPRESSION_LIMIT_EXCEEDED", "SCHEMA_INVALID_RESPONSE", "POLICY_REJECTION",
   "REDIRECT_POLICY_REJECTION", "DESTINATION_ADDRESS_REJECTION", "PROXY_ENFORCEMENT_UNVERIFIED",
   "CREDENTIAL_UNAVAILABLE", "PROVIDER_UNAVAILABLE"]

def RESPONSE_CATEGORIES : List String :=
  ["HTTP_2XX", "HTTP_3XX", "HTTP_4XX", "HTTP_429", "HTTP_5XX", "NO_RESPONSE"]

/-- The outcomes that a failure has. -/
def FAILED_OUTCOMES : List String := ["UNAVAILABLE", "POLICY_REJECTED", "INVALID_RESPONSE"]

/-- The named checks of the migration, without the key and the references. -/
def CHECKS : List (String × (Record → Truth)) :=
  [("status", fun r => within (some r.status) STATUSES),
   ("safe_error_category", fun r => within r.safe_error_category SAFE_ERROR_CATEGORIES),
   ("reputation_result", fun r => within (some r.reputation_result)
     ["MALICIOUS", "SUSPICIOUS", "CLEAN", "UNKNOWN", "NOT_EVALUATED"]),
   ("allowlist_result", fun r => within (some r.allowlist_result)
     ["ALLOWLISTED", "NOT_ALLOWLISTED", "NOT_EVALUATED"]),
   ("domain_matches_claimed_brand", fun r => within (some r.domain_matches_claimed_brand)
     ["MATCH", "MISMATCH", "UNKNOWN"]),
   ("indicator_type", fun r => within (some r.indicator_type) Egress.INDICATOR_TYPES),
   ("normalized_indicator_ref_pattern", fun r => ofBool (isDigest r.normalized_indicator_ref)),
   ("lookup_outcome", fun r => within r.lookup_outcome
     ["FOUND", "NOT_FOUND", "UNAVAILABLE", "POLICY_REJECTED", "INVALID_RESPONSE"]),
   ("provider_response_category", fun r => within r.provider_response_category RESPONSE_CATEGORIES),
   ("freshness_state", fun r => within (some r.freshness_state) ["FRESH", "STALE", "UNKNOWN"]),
   ("provider_policy_digest_pattern", fun r => ofBool (isDigest r.provider_policy_digest)),
   ("response_artifact_digest_pattern", fun r => ofBool (r.response_artifact_digest.all isDigest)),
   ("failure_not_clean", fun r => .any [equals (some r.status) "SUCCEEDED",
     .all [equals (some r.reputation_result) "NOT_EVALUATED",
       equals (some r.allowlist_result) "NOT_EVALUATED",
       equals (some r.domain_matches_claimed_brand) "UNKNOWN"]]),
   ("not_consumed", fun r => ofBool (!r.consumed_in_governed_artifact)),
   ("target", fun r => ofBool (r.evaluation_id.isSome || r.target_evidence_item_id.isSome ||
     r.target_evidence_derivative_id.isSome)),
   ("outcome_status", fun r => .any [
     .all [equals (some r.status) "NOT_EVALUATED", ofBool r.lookup_outcome.isNone],
     .all [within r.lookup_outcome ["FOUND", "NOT_FOUND"], equals (some r.status) "SUCCEEDED"],
     .all [equals r.lookup_outcome "UNAVAILABLE", within (some r.status) ["FAILED", "TIMED_OUT"]],
     .all [equals r.lookup_outcome "POLICY_REJECTED", equals (some r.status) "REJECTED"],
     .all [equals r.lookup_outcome "INVALID_RESPONSE", equals (some r.status) "FAILED"]]),
   ("not_found_unknown", fun r => .any [ofBool (r.lookup_outcome != some "NOT_FOUND"),
     .all [equals (some r.reputation_result) "UNKNOWN",
       within (some r.allowlist_result) ["NOT_ALLOWLISTED", "NOT_EVALUATED"],
       equals (some r.domain_matches_claimed_brand) "UNKNOWN"]]),
   ("error_category", fun r => .any [
     .all [within r.lookup_outcome FAILED_OUTCOMES, ofBool r.safe_error_category.isSome],
     .all [.any [ofBool r.lookup_outcome.isNone, outside r.lookup_outcome FAILED_OUTCOMES],
       ofBool r.safe_error_category.isNone]]),
   ("artifact", fun r => .any [ofBool r.lookup_outcome.isNone,
     outside r.lookup_outcome ["FOUND", "NOT_FOUND"],
     ofBool r.response_artifact_digest.isSome]),
   ("retained_artifact", fun r => .any [ofBool r.retained_provider_artifact_ecs_locator.isNone,
     ofBool r.response_artifact_digest.isSome])]

def passes (check : String × (Record → Truth)) (r : Record) : Bool := check.2 r != .FALSE

/-! ### The view -/

def UNRESOLVED_CATEGORY : String := "NOT_RESOLVED"

/-- `EnrichmentRuntime`, the policies by their keys -/
structure EnrichmentRuntime where
  policies : List (String × ProviderPolicy)

/-- `attributed_policy`, none where the digest of the policy cannot be taken. -/
def attributed_policy (lib : Libraries) (config : Option EnrichmentRuntime)
    (digest provider_ref policy_ref policy_version : String) : Option (Option ProviderPolicy) :=
  match config with
  | none => some none
  | some config =>
    if !isDigest digest then some none
    else match config.policies.lookup digest with
      | none => some none
      | some policy =>
        match policy.digest lib with
        | none => none
        | some recomputed =>
          if recomputed ≠ digest then some none
          else if policy.provider_ref = provider_ref ∧ policy.provider_policy_ref = policy_ref ∧
              policy.provider_policy_version = policy_version then some (some policy)
          else some none

structure EnrichmentView where
  enrichment_id : String
  provider_category : String
  status : String
  reputation_result : String
  observed_at : Option DateTime
  advisory : Bool
deriving DecidableEq

/-- `_view` -/
def _view (lib : Libraries) (config : Option EnrichmentRuntime) (r : Record) :
    Option EnrichmentView :=
  (attributed_policy lib config r.provider_policy_digest r.provider_ref r.provider_policy_ref
    r.provider_policy_version).map fun policy =>
      match policy with
      | none => ⟨r.external_enrichment_result_id, UNRESOLVED_CATEGORY, r.status, "NOT_EVALUATED",
          r.responded_at, true⟩
      | some policy => ⟨r.external_enrichment_result_id, policy.provider_category, r.status,
          r.reputation_result, r.responded_at, true⟩

end TrustLens.Backend.Enrichment
