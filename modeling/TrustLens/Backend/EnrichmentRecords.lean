import TrustLens.Backend.Enrichment
import TrustLens.Lib.Except

/-!
# Enrichment attribution

Whatever the outside answers, a lookup returns a failure of the table of failures or a result that
the parser allows, and its row passes the checks. A view shows the reputation of a row only where the
registry holds the very policy that the row names.
-/

namespace TrustLens.Backend.Enrichment

open AuditChain (AuditEvent hexGroup)
open Egress

/-! ### What a lookup returns -/

/-- A failure of the table with nothing asserted. -/
structure Failed (r : LookupResult) : Prop where
  failure : ∃ f ∈ FAILURES.map Prod.snd, r.outcome = f.outcome ∧ r.status = f.status ∧
    r.safe_error_category = some f.category
  reputation : r.reputation_result = "NOT_EVALUATED"
  allowlist : r.allowlist_result = "NOT_EVALUATED"
  brand : r.domain_matches_claimed_brand = "UNKNOWN"

/-- An answer that the parser allows. -/
structure Answered (r : LookupResult) : Prop where
  allowed : ∃ a ∈ allowedResults, r.outcome = a.1 ∧ r.reputation_result ∈ a.2.1 ∧
    r.allowlist_result ∈ a.2.2.1 ∧ r.domain_matches_claimed_brand ∈ a.2.2.2
  status : r.status = "SUCCEEDED"
  category : r.safe_error_category = none
  artifact : r.artifact ≠ none

structure Genuine (r : LookupResult) : Prop where
  response : r.provider_response_category ∈ RESPONSE_CATEGORIES
  result : Failed r ∨ Answered r

/-- A refusal of a known category, after a response of a known category. -/
def Known : Egress.Raised → Prop
  | .refused category response_category =>
    (FAILURES.lookup category).isSome = true ∧ response_category ∈ RESPONSE_CATEGORIES
  | .escaped => True

/-- A program whose refusals are known. -/
def Asks {α : Type} (x : Run α) : Prop := Program.Post x (fun _ => True) Known

section

open Program

variable {α β : Type} {P : α → Prop} {Q : β → Prop}

lemma post_refuse {category response_category : String}
    (hcategory : (FAILURES.lookup category).isSome = true)
    (hresponse : response_category ∈ RESPONSE_CATEGORIES) :
    Post (refuse category response_category : Run α) P Known :=
  Post.throw ⟨hcategory, hresponse⟩

lemma post_escaped : Post (throw .escaped : Run α) P Known := Post.throw trivial

lemma mem_no_response : "NO_RESPONSE" ∈ RESPONSE_CATEGORIES := by decide

lemma Asks.bind {x : Run α} {f : α → Run β} (hx : Asks x) (hf : ∀ a, Post (f a) Q Known) :
    Post (x >>= f) Q Known :=
  Post.bind hx fun a _ => hf a

lemma asks_ask (answers : ℕ → α) : Asks (ask answers) := Post.ask fun _ => trivial

lemma asks_pure (a : α) : Asks (pure a) := Post.pure trivial

lemma response_category_mem (status : ℤ) : _response_category status ∈ RESPONSE_CATEGORIES := by
  unfold _response_category
  split_ifs <;> decide

lemma mem_of_lookup {γ : Type} {xs : List (String × γ)} {k : String} {c : γ}
    (h : xs.lookup k = some c) : (k, c) ∈ xs := by
  obtain ⟨before, after, rfl, -⟩ := List.lookup_eq_some_iff.mp h
  exact List.mem_append_right _ List.mem_cons_self

lemma failed_genuine {category response_category : String} {attempts : ℕ}
    {responded_at : Option Py.DateTime} (hresponse : response_category ∈ RESPONSE_CATEGORIES) :
    Post (_failed category response_category attempts responded_at) Genuine Known := by
  unfold _failed
  cases hlookup : FAILURES.lookup category with
  | none => exact post_escaped
  | some f =>
    refine Post.pure ⟨hresponse, .inl ⟨⟨f, ?_, rfl, rfl, rfl⟩, rfl, rfl, rfl⟩⟩
    exact List.mem_map.mpr ⟨_, mem_of_lookup hlookup, rfl⟩

variable (adapter : Adapter)

lemma asks_remaining (deadline : ℚ) : Asks (adapter._remaining deadline) := by
  unfold Adapter._remaining Adapter.clock
  refine (asks_ask _).bind fun t => ?_
  split_ifs
  · exact post_refuse rfl mem_no_response
  · exact asks_pure ()

lemma asks_resolve_validated (deadline : ℚ) : Asks (adapter._resolve_validated deadline) := by
  unfold Adapter._resolve_validated
  refine (asks_remaining adapter deadline).bind fun _ => ?_
  refine (asks_ask _).bind fun resolved => ?_
  split
  · exact post_refuse rfl mem_no_response
  · exact post_escaped
  · refine (asks_remaining adapter deadline).bind fun _ => ?_
    split
    · exact post_refuse rfl mem_no_response
    · exact post_refuse rfl mem_no_response
    · split
      · exact post_refuse rfl mem_no_response
      · split_ifs
        · exact asks_pure _
        · exact post_refuse rfl mem_no_response

lemma asks_exchange (deadline : ℚ) : Asks (adapter.exchange deadline) := by
  unfold Adapter.exchange
  refine (asks_resolve_validated adapter deadline).bind fun address => ?_
  refine (asks_remaining adapter deadline).bind fun _ => ?_
  refine (asks_ask _).bind fun connected => ?_
  split
  · exact post_refuse (transportFailure_known _) mem_no_response
  · exact post_escaped
  · split_ifs
    · exact post_refuse rfl mem_no_response
    · refine (asks_remaining adapter deadline).bind fun _ => ?_
      refine (asks_ask _).bind fun exchanged => ?_
      split
      · exact post_refuse (transportFailure_known _) mem_no_response
      · exact post_escaped
      · exact (asks_remaining adapter deadline).bind fun _ => asks_pure _

lemma asks_decode_body (lib : Libraries) (limits : Limits) (response : TransportResponse) :
    Asks (_decode_body lib limits response) := by
  have hcategory : "HTTP_2XX" ∈ RESPONSE_CATEGORIES := by decide
  unfold _decode_body
  dsimp only
  split_ifs
  · exact post_refuse rfl hcategory
  · exact post_refuse rfl hcategory
  · exact asks_pure _
  · split
    · exact post_refuse rfl hcategory
    · split_ifs
      · exact post_refuse rfl hcategory
      · exact post_refuse rfl hcategory
      · exact asks_pure _
  · exact post_refuse rfl hcategory

lemma asks_redirect_target (policy : ProviderPolicy) (host target : String)
    (location : Option String) : Asks (adapter._redirect_target policy host target location) := by
  have hcategory : "HTTP_3XX" ∈ RESPONSE_CATEGORIES := by decide
  unfold Adapter._redirect_target
  split
  · exact post_refuse rfl hcategory
  · split_ifs
    · exact post_refuse rfl hcategory
    · split
      · exact post_escaped
      · split_ifs
        · exact post_refuse rfl hcategory
        · split
          · exact post_escaped
          · split
            · dsimp only
              split_ifs
              · exact post_refuse rfl hcategory
              · exact asks_pure _
              · exact asks_pure _
            · exact post_refuse rfl hcategory

lemma allowedResult_allowed {entry reputation allowlist brand observed : String} {n : Normalized}
    (h : allowedResult entry reputation allowlist brand observed = some n) :
    ∃ a ∈ allowedResults, n.lookup_outcome = a.1 ∧ n.reputation_result ∈ a.2.1 ∧
      n.allowlist_result ∈ a.2.2.1 ∧ n.domain_matches_claimed_brand ∈ a.2.2.2 := by
  unfold allowedResult at h
  split at h
  · cases h
  · rename_i as bs cs hlookup
    split_ifs at h with hallowed
    cases h
    rw [Bool.and_eq_true, Bool.and_eq_true, List.contains_iff_mem, List.contains_iff_mem,
      List.contains_iff_mem] at hallowed
    exact ⟨_, mem_of_lookup hlookup, rfl, hallowed.1.1, hallowed.1.2, hallowed.2⟩

/-- What the parser returns is one of the results that it allows. -/
lemma parse_allowed {document : Json} {policy : ProviderPolicy} {indicator : Indicator}
    {now : Py.DateTime} {n : Normalized} (h : parse document policy indicator now = some n) :
    ∃ a ∈ allowedResults, n.lookup_outcome = a.1 ∧ n.reputation_result ∈ a.2.1 ∧
      n.allowlist_result ∈ a.2.2.1 ∧ n.domain_matches_claimed_brand ∈ a.2.2.2 := by
  unfold parse at h
  split_ifs at h
  unfold fixture_parser_v1 at h
  split at h
  · dsimp only at h
    split at h
    · split_ifs at h
      exact allowedResult_allowed h
    · cases h
  · cases h

lemma post_accept (policy : ProviderPolicy) (indicator : Indicator) (deadline : ℚ) (attempts : ℕ)
    (response : TransportResponse) :
    Post (adapter.accept policy indicator deadline attempts response) Genuine Known := by
  have hcategory := response_category_mem response.status
  unfold Adapter.accept
  dsimp only
  split_ifs
  · exact post_refuse rfl hcategory
  · exact post_refuse rfl hcategory
  · exact post_refuse rfl hcategory
  · exact post_refuse rfl hcategory
  · exact post_refuse rfl hcategory
  · refine (asks_decode_body _ _ _).bind fun data => ?_
    refine (asks_remaining adapter deadline).bind fun _ => ?_
    split
    · exact post_refuse rfl hcategory
    · refine (asks_ask _).bind fun now => ?_
      split
      · exact post_refuse rfl hcategory
      · rename_i normalized hparse
        refine (asks_remaining adapter deadline).bind fun _ => ?_
        refine (asks_ask _).bind fun responded_at => ?_
        split
        · exact Post.pure ⟨hcategory, .inr ⟨parse_allowed hparse, rfl, rfl, nofun⟩⟩
        · exact post_escaped

/-- By the hops that may still follow. -/
lemma post_attempt (policy : ProviderPolicy) (indicator : Indicator) (deadline : ℚ) (attempts hops : ℕ)
    (host target : String) :
    Post (adapter._attempt policy indicator deadline attempts hops host target) Genuine Known := by
  induction hops generalizing host target with
  | zero =>
    unfold Adapter._attempt
    refine (asks_exchange adapter deadline).bind fun response => ?_
    dsimp only
    split_ifs
    · exact post_refuse rfl (response_category_mem _)
    · exact post_accept adapter policy indicator deadline attempts response
  | succ hops ih =>
    unfold Adapter._attempt
    refine (asks_exchange adapter deadline).bind fun response => ?_
    dsimp only
    split_ifs
    · exact post_refuse rfl (response_category_mem _)
    · exact (asks_redirect_target adapter policy host target _).bind fun next => ih next.1 next.2
    · exact post_accept adapter policy indicator deadline attempts response

lemma post_once (policy : ProviderPolicy) (indicator : Indicator) (request : OutgoingRequest)
    (deadline : ℚ) (attempts : ℕ) :
    Post (adapter.once policy indicator request deadline attempts) Genuine Known := by
  unfold Adapter.once Adapter.clock
  refine (asks_ask _).bind fun t => ?_
  split_ifs
  · exact post_refuse rfl mem_no_response
  · exact post_attempt adapter policy indicator deadline attempts _ _ _

lemma post_settled {category response_category : String} (attempts : ℕ)
    (hresponse : response_category ∈ RESPONSE_CATEGORIES) :
    Post (adapter.settled category response_category attempts) Genuine Known := by
  unfold Adapter.settled
  split_ifs
  · exact failed_genuine hresponse
  · exact (asks_ask _).bind fun now => failed_genuine hresponse

lemma post_recover {policy : ProviderPolicy} {deadline : ℚ} {attempts : ℕ}
    {again : Option (Run LookupResult)} (hagain : ∀ x ∈ again, Post x Genuine Known)
    (raised : Egress.Raised) (hraised : Known raised) :
    Post (adapter.recover policy deadline attempts again raised) Genuine Known := by
  unfold Adapter.recover Adapter.clock
  cases raised with
  | escaped => exact post_escaped
  | refused category response_category =>
    dsimp only
    split
    · exact post_escaped
    · split_ifs
      · refine (asks_ask _).bind fun t => ?_
        split_ifs
        · exact failed_genuine hraised.2
        · exact hagain _ rfl
      · exact post_settled adapter attempts hraised.2
    · exact post_settled adapter attempts hraised.2

/-- By the attempts that may still follow. -/
lemma post_attempting (policy : ProviderPolicy) (indicator : Indicator) (request : OutgoingRequest)
    (deadline : ℚ) (left attempts : ℕ) :
    Post (adapter.attempting policy indicator request deadline left attempts) Genuine Known := by
  induction left generalizing attempts with
  | zero =>
    exact Post.tryCatch (post_once adapter policy indicator request deadline attempts)
      (post_recover adapter nofun)
  | succ left ih =>
    refine Post.tryCatch (post_once adapter policy indicator request deadline attempts)
      (post_recover adapter fun x hx => ?_)
    cases hx
    exact ih (attempts + 1)

lemma asks_authentication (policy : ProviderPolicy) : Asks (adapter.authentication policy) := by
  unfold Adapter.authentication
  split
  · exact asks_pure _
  · refine (asks_ask _).bind fun credential => ?_
    split
    · exact post_refuse rfl mem_no_response
    · split_ifs
      · exact post_refuse rfl mem_no_response
      · exact asks_pure _

lemma asks_requestBody (policy : ProviderPolicy) (indicator : Indicator) :
    Asks (adapter.requestBody policy indicator) := by
  unfold Adapter.requestBody
  split_ifs
  · exact asks_pure _
  · split
    · exact post_escaped
    · exact asks_pure _

lemma asks_prepare (policy : ProviderPolicy) (indicator : Indicator) :
    Asks (adapter._prepare policy indicator) := by
  unfold Adapter._prepare
  split_ifs
  · exact post_refuse rfl mem_no_response
  · exact post_refuse rfl mem_no_response
  · exact post_refuse rfl mem_no_response
  · split
    · exact post_refuse rfl mem_no_response
    · refine (asks_requestBody adapter policy indicator).bind fun body => ?_
      refine (asks_ask _).bind fun correlation => ?_
      refine (asks_authentication adapter policy).bind fun authenticated => ?_
      dsimp only
      split_ifs
      · exact post_refuse rfl mem_no_response
      · exact asks_pure _

/-- Whatever the outside answers, a lookup that returns is genuine. -/
theorem post_lookup (policy : ProviderPolicy) (indicator : Indicator) :
    Post (adapter.lookup policy indicator) Genuine Known := by
  unfold Adapter.lookup Adapter.clock
  refine (asks_ask _).bind fun start => ?_
  refine Post.bind (P := fun prepared => ∀ category response_category,
    prepared = .error (category, response_category) → response_category ∈ RESPONSE_CATEGORIES) ?_ ?_
  · refine Post.tryCatch (R := Known) ?_ fun raised hraised => ?_
    · exact (asks_prepare adapter policy indicator).bind fun request => Post.pure nofun
    · cases raised with
      | escaped => exact post_escaped
      | refused category response_category =>
        refine Post.pure fun c r heq => ?_
        cases heq
        exact hraised.2
  · intro prepared hprepared
    split
    · exact failed_genuine (hprepared _ _ rfl)
    · exact post_attempting adapter policy indicator _ _ _ _

end

/-! ### The checks -/

/-- What the documents of a library's digests are: 64 lower-case hexadecimal digits. -/
def HexDigests (lib : Libraries) : Prop := ∀ text, isDigest (lib.sha256 text) = true

lemma isDigest_of_map {lib : Libraries} (hlib : HexDigests lib) {text : Option String}
    {digest : String} (h : text.map lib.sha256 = some digest) : isDigest digest = true := by
  obtain ⟨t, -, rfl⟩ := Option.map_eq_some_iff.mp h
  exact hlib t

/-- A row holds the values of its result and digests. -/
structure Holds (r : Record) (result : LookupResult) (indicator_type : String) : Prop where
  indicator_type : r.indicator_type = indicator_type
  evaluation : r.evaluation_id.isSome = true
  consumed : r.consumed_in_governed_artifact = false
  freshness : r.freshness_state = "UNKNOWN"
  retained : r.retained_provider_artifact_ecs_locator = none
  status : r.status = result.status
  category : r.safe_error_category = result.safe_error_category
  reputation : r.reputation_result = result.reputation_result
  allowlist : r.allowlist_result = result.allowlist_result
  brand : r.domain_matches_claimed_brand = result.domain_matches_claimed_brand
  outcome : r.lookup_outcome = some result.outcome
  response : r.provider_response_category = some result.provider_response_category
  policy : isDigest r.provider_policy_digest = true
  ref : isDigest r.normalized_indicator_ref = true
  digests : r.response_artifact_digest.all isDigest = true
  artifact : result.artifact ≠ none → r.response_artifact_digest.isSome = true

lemma holds_recorded {lib : Libraries} (hlib : HexDigests lib) {record_id evaluation_id : String}
    {policy : ProviderPolicy} {indicator : Indicator} {result : LookupResult} {r : Record}
    (h : recorded lib record_id evaluation_id policy indicator result = some r) :
    Holds r result indicator.indicator_type := by
  obtain ⟨digest, hdigest, h⟩ := Option.bind_eq_some_iff.mp h
  obtain ⟨ref, href, h⟩ := Option.bind_eq_some_iff.mp h
  obtain ⟨artifact_digest, hartifact, h⟩ := Option.bind_eq_some_iff.mp h
  cases h
  have hartifacts : (artifact_digest.all isDigest = true) ∧
      (result.artifact ≠ none → artifact_digest.isSome = true) := by
    unfold LookupResult.artifact_digest at hartifact
    cases hresult : result.artifact with
    | none =>
      rw [hresult] at hartifact
      cases hartifact
      exact ⟨rfl, fun hne => absurd rfl hne⟩
    | some artifact =>
      rw [hresult] at hartifact
      obtain ⟨d, hd, rfl⟩ := Option.map_eq_some_iff.mp hartifact
      exact ⟨isDigest_of_map hlib hd, fun _ => rfl⟩
  exact ⟨rfl, rfl, rfl, rfl, rfl, rfl, rfl, rfl, rfl, rfl, rfl, rfl, isDigest_of_map hlib hdigest,
    isDigest_of_map hlib href, hartifacts.1, hartifacts.2⟩

/-! When a check is true, as a statement about the values. -/

@[simp] lemma ofBool_iff {b : Bool} : ofBool b = .TRUE ↔ b = true := by cases b <;> decide

@[simp] lemma within_iff {v : String} {texts : List String} :
    within (some v) texts = .TRUE ↔ v ∈ texts := by
  rw [within, ofBool_iff, List.contains_iff_mem]

@[simp] lemma outside_iff {v : String} {texts : List String} :
    outside (some v) texts = .TRUE ↔ v ∉ texts := by
  rw [outside, ofBool_iff, Bool.not_eq_true', Bool.eq_false_iff, Ne, List.contains_iff_mem]

@[simp] lemma equals_iff {v text : String} : equals (some v) text = .TRUE ↔ v = text := by
  rw [equals, ofBool_iff, beq_iff_eq]

@[simp] lemma any_cons_iff {t : Truth} {ts : List Truth} :
    Truth.any (t :: ts) = .TRUE ↔ t = .TRUE ∨ Truth.any ts = .TRUE := by
  simp only [← Truth.lo_eq_true, Truth.lo_any, List.any_cons, Bool.or_eq_true]

@[simp] lemma all_cons_iff {t : Truth} {ts : List Truth} :
    Truth.all (t :: ts) = .TRUE ↔ t = .TRUE ∧ Truth.all ts = .TRUE := by
  simp only [← Truth.lo_eq_true, Truth.lo_all, List.all_cons, Bool.and_eq_true]

@[simp] lemma any_nil_iff : Truth.any [] = .TRUE ↔ False := by decide

@[simp] lemma all_nil_iff : Truth.all [] = .TRUE ↔ True := by decide

/-- The vocabularies of the failures and of the checks agree. -/
lemma failures_fit : ∀ f ∈ FAILURES.map Prod.snd, f.status ∈ STATUSES ∧
    f.category ∈ SAFE_ERROR_CATEGORIES ∧ f.outcome ∈ FAILED_OUTCOMES ∧
    ((f.outcome = "UNAVAILABLE" ∧ f.status ∈ ["FAILED", "TIMED_OUT"]) ∨
      (f.outcome = "POLICY_REJECTED" ∧ f.status = "REJECTED") ∨
      f.outcome = "INVALID_RESPONSE" ∧ f.status = "FAILED") := by
  decide

/-- So do those of the results that are allowed. -/
lemma allowed_fit : ∀ a ∈ allowedResults, a.1 ∈ ["FOUND", "NOT_FOUND"] ∧
    (∀ v ∈ a.2.1, v ∈ ["MALICIOUS", "SUSPICIOUS", "CLEAN", "UNKNOWN", "NOT_EVALUATED"]) ∧
    (∀ v ∈ a.2.2.1, v ∈ ["ALLOWLISTED", "NOT_ALLOWLISTED", "NOT_EVALUATED"]) ∧
    (∀ v ∈ a.2.2.2, v ∈ ["MATCH", "MISMATCH", "UNKNOWN"]) ∧
    (a.1 = "NOT_FOUND" → (∀ v ∈ a.2.1, v = "UNKNOWN") ∧
      (∀ v ∈ a.2.2.1, v ∈ ["NOT_ALLOWLISTED", "NOT_EVALUATED"]) ∧
        ∀ v ∈ a.2.2.2, v = "UNKNOWN") := by
  decide

/-- The matrix of outcomes, statuses and errors, and the vocabularies of what is reported. -/
structure Fits (result : LookupResult) : Prop where
  status : result.status ∈ STATUSES
  category : within result.safe_error_category SAFE_ERROR_CATEGORIES ≠ .FALSE
  reputation : result.reputation_result ∈
    ["MALICIOUS", "SUSPICIOUS", "CLEAN", "UNKNOWN", "NOT_EVALUATED"]
  allowlist : result.allowlist_result ∈ ["ALLOWLISTED", "NOT_ALLOWLISTED", "NOT_EVALUATED"]
  brand : result.domain_matches_claimed_brand ∈ ["MATCH", "MISMATCH", "UNKNOWN"]
  outcome : result.outcome ∈
    ["FOUND", "NOT_FOUND", "UNAVAILABLE", "POLICY_REJECTED", "INVALID_RESPONSE"]
  clean : result.status = "SUCCEEDED" ∨ result.reputation_result = "NOT_EVALUATED" ∧
    result.allowlist_result = "NOT_EVALUATED" ∧ result.domain_matches_claimed_brand = "UNKNOWN"
  matrix : (result.outcome ∈ ["FOUND", "NOT_FOUND"] ∧ result.status = "SUCCEEDED") ∨
    (result.outcome = "UNAVAILABLE" ∧ result.status ∈ ["FAILED", "TIMED_OUT"]) ∨
    (result.outcome = "POLICY_REJECTED" ∧ result.status = "REJECTED") ∨
    result.outcome = "INVALID_RESPONSE" ∧ result.status = "FAILED"
  unknown : result.outcome ≠ "NOT_FOUND" ∨ result.reputation_result = "UNKNOWN" ∧
    result.allowlist_result ∈ ["NOT_ALLOWLISTED", "NOT_EVALUATED"] ∧
      result.domain_matches_claimed_brand = "UNKNOWN"
  error : (result.outcome ∈ FAILED_OUTCOMES ∧ result.safe_error_category.isSome = true) ∨
    result.outcome ∉ FAILED_OUTCOMES ∧ result.safe_error_category = none
  artifact : result.outcome ∉ ["FOUND", "NOT_FOUND"] ∨ result.artifact ≠ none

lemma Failed.fits {result : LookupResult} (h : Failed result) : Fits result := by
  obtain ⟨⟨f, hf, houtcome, hstatus, hcategory⟩, hreputation, hallowlist, hbrand⟩ := h
  obtain ⟨hstatuses, hcategories, hfailed, hmatrix⟩ := failures_fit f hf
  have hnot : ∀ o ∈ FAILED_OUTCOMES, o ∉ ["FOUND", "NOT_FOUND"] ∧ o ≠ "NOT_FOUND" ∧
      o ∈ ["FOUND", "NOT_FOUND", "UNAVAILABLE", "POLICY_REJECTED", "INVALID_RESPONSE"] := by
    decide
  obtain ⟨hunanswered, hfound, hknown⟩ := hnot f.outcome hfailed
  constructor
  · exact hstatus ▸ hstatuses
  · rw [hcategory, within_iff.mpr hcategories]
    nofun
  · rw [hreputation]
    decide
  · rw [hallowlist]
    decide
  · rw [hbrand]
    decide
  · exact houtcome ▸ hknown
  · exact .inr ⟨hreputation, hallowlist, hbrand⟩
  · rw [houtcome, hstatus]
    exact .inr hmatrix
  · exact .inl (houtcome ▸ hfound)
  · rw [houtcome, hcategory]
    exact .inl ⟨hfailed, rfl⟩
  · exact .inl (houtcome ▸ hunanswered)

lemma Answered.fits {result : LookupResult} (h : Answered result) : Fits result := by
  obtain ⟨⟨a, ha, houtcome, hreputation, hallowlist, hbrand⟩, hstatus, hcategory, hartifact⟩ := h
  obtain ⟨hfound, hreputations, hallowlists, hbrands, hunknown⟩ := allowed_fit a ha
  have hnot : ∀ o ∈ ["FOUND", "NOT_FOUND"], o ∉ FAILED_OUTCOMES ∧
      o ∈ ["FOUND", "NOT_FOUND", "UNAVAILABLE", "POLICY_REJECTED", "INVALID_RESPONSE"] := by
    decide
  obtain ⟨hsucceeded, hknown⟩ := hnot a.1 hfound
  constructor
  · rw [hstatus]
    decide
  · rw [hcategory]
    nofun
  · exact hreputations _ hreputation
  · exact hallowlists _ hallowlist
  · exact hbrands _ hbrand
  · exact houtcome ▸ hknown
  · exact .inl hstatus
  · exact .inl ⟨houtcome ▸ hfound, hstatus⟩
  · by_cases hnotfound : a.1 = "NOT_FOUND"
    · obtain ⟨hr, hw, hb⟩ := hunknown hnotfound
      exact .inr ⟨hr _ hreputation, hw _ hallowlist, hb _ hbrand⟩
    · exact .inl (houtcome ▸ hnotfound)
  · exact .inr ⟨houtcome ▸ hsucceeded, hcategory⟩
  · exact .inr hartifact

/-- The row of a genuine result passes every check that is about the outcome, and the others where
the indicator's type is known. -/
lemma passes_of_holds {r : Record} {result : LookupResult} {indicator_type : String}
    (h : Holds r result indicator_type) (hgenuine : Genuine result) :
    ∀ c ∈ CHECKS, c.1 ≠ "indicator_type" ∨ indicator_type ∈ INDICATOR_TYPES →
      passes c r = true := by
  have hfits : Fits result := by
    rcases hgenuine.result with hfailed | hanswered
    · exact hfailed.fits
    · exact hanswered.fits
  have hpasses : ∀ {name : String} {check : Record → Truth}, check r = .TRUE →
      (name ≠ "indicator_type" ∨ indicator_type ∈ INDICATOR_TYPES →
        passes (name, check) r = true) := by
    intro name check htrue _
    unfold passes
    dsimp only
    rw [htrue]
    rfl
  unfold CHECKS
  simp only [List.forall_mem_cons, List.not_mem_nil, IsEmpty.forall_iff, implies_true, and_true]
  refine ⟨?_, ?_, ?_, ?_, ?_, ?_, ?_, ?_, ?_, ?_, ?_, ?_, ?_, ?_, ?_, ?_, ?_, ?_, ?_, ?_⟩
  · exact hpasses (within_iff.mpr (h.status ▸ hfits.status))
  · intro _
    have hcategory := hfits.category
    rw [← h.category] at hcategory
    exact bne_iff_ne.mpr hcategory
  · exact hpasses (within_iff.mpr (h.reputation ▸ hfits.reputation))
  · exact hpasses (within_iff.mpr (h.allowlist ▸ hfits.allowlist))
  · exact hpasses (within_iff.mpr (h.brand ▸ hfits.brand))
  · rintro (hne | htype)
    · exact absurd rfl hne
    · exact hpasses (within_iff.mpr (h.indicator_type ▸ htype)) (.inr htype)
  · exact hpasses (ofBool_iff.mpr h.ref)
  · exact hpasses (h.outcome ▸ within_iff.mpr hfits.outcome)
  · exact hpasses (h.response ▸ within_iff.mpr hgenuine.response)
  · exact hpasses (by rw [h.freshness]; rfl)
  · exact hpasses (ofBool_iff.mpr h.policy)
  · exact hpasses (ofBool_iff.mpr h.digests)
  · refine hpasses ?_
    simpa [h.status, h.reputation, h.allowlist, h.brand] using hfits.clean
  · exact hpasses (by rw [h.consumed]; rfl)
  · exact hpasses (by rw [h.evaluation]; rfl)
  · refine hpasses ?_
    simpa [h.status, h.outcome] using hfits.matrix
  · refine hpasses ?_
    simpa [h.outcome, h.reputation, h.allowlist, h.brand] using hfits.unknown
  · refine hpasses ?_
    simpa [h.outcome, h.category] using hfits.error
  · refine hpasses ?_
    have hartifact : result.outcome ∉ ["FOUND", "NOT_FOUND"] ∨
        r.response_artifact_digest.isSome = true := hfits.artifact.imp_right h.artifact
    simpa [h.outcome] using hartifact
  · exact hpasses (by rw [h.retained]; rfl)

lemma categories_named : ∀ f ∈ FAILURES.map Prod.snd, AuditChain._CATEGORY f.category = true := by
  decide +kernel

lemma outcomes_named : ∀ a ∈ allowedResults, AuditChain._CATEGORY a.1 = true ∧
    (a.1 = "FOUND" ∨ a.1 = "NOT_FOUND") := by
  decide +kernel

/-- The event beside the row is one that the audit takes. -/
lemma validate_outcomeEvent {record_id case_id evaluation_id correlation digest : String}
    {result : LookupResult} (hgenuine : Genuine result) (hdigest : isDigest digest = true)
    (hids : ∀ id ∈ [record_id, case_id, evaluation_id, correlation], AuditChain._UUID id = true)
    {e : AuditEvent}
    (he : outcomeEvent record_id case_id evaluation_id correlation digest result = some e) :
    AuditChain.validate e = true := by
  have hsha : AuditChain._SHA256 digest = true := by
    unfold AuditChain._SHA256 Schema.anchored
    rw [show hexGroup 64 digest.toList = true from hdigest, Bool.true_or]
  have hrecord := hids record_id (by simp)
  have hcase := hids case_id (by simp)
  have hevaluation := hids evaluation_id (by simp)
  have hcorrelation := hids correlation (by simp)
  unfold outcomeEvent at he
  dsimp only at he
  split_ifs at he with hfound hrejected hcredential
  · cases he
    have hnamed : AuditChain._CATEGORY result.outcome = true := by
      rcases hfound with heq | heq <;> rw [heq] <;> decide +kernel
    simp [AuditChain.validate, AuditChain.SAFE_METADATA, List.lookup_cons, hrecord, hcase,
      hevaluation, hcorrelation, AuditChain.permitted, AuditChain.Kind.allows, hnamed, hsha]
  · cases he
    rcases hgenuine.result with hfailed | hanswered
    · obtain ⟨f, hf, -, -, hcategory⟩ := hfailed.failure
      have hnamed := categories_named f hf
      simp [AuditChain.validate, AuditChain.SAFE_METADATA, List.lookup_cons, hcategory, hrecord, hcase,
        hevaluation, hcorrelation, AuditChain.permitted, AuditChain.Kind.allows, hnamed, hsha]
    · obtain ⟨a, ha, houtcome, -⟩ := hanswered.allowed
      exact absurd (houtcome ▸ (outcomes_named a ha).2) hfound
  · cases he
    simp [AuditChain.validate, AuditChain.SAFE_METADATA, List.lookup_cons, hrecord, hcase,
      hevaluation, hcorrelation, AuditChain.permitted, AuditChain.Kind.allows, hsha]

/-! ### The view -/

/-- A policy that the registry holds under the digest that it has now, and that a row names. -/
def Attributes (lib : Libraries) (config : Option EnrichmentRuntime) (r : Record)
    (policy : ProviderPolicy) : Prop :=
  (∃ c, config = some c ∧ c.policies.lookup r.provider_policy_digest = some policy) ∧
    policy.digest lib = some r.provider_policy_digest ∧ policy.provider_ref = r.provider_ref ∧
    policy.provider_policy_ref = r.provider_policy_ref ∧
    policy.provider_policy_version = r.provider_policy_version

lemma attributes_of_attributed {lib : Libraries} {config : Option EnrichmentRuntime} {r : Record}
    {policy : ProviderPolicy}
    (h : attributed_policy lib config r.provider_policy_digest r.provider_ref r.provider_policy_ref
      r.provider_policy_version = some (some policy)) : Attributes lib config r policy := by
  unfold attributed_policy at h
  split at h
  · cases h
  · rename_i c
    by_cases hdigest : (!isDigest r.provider_policy_digest) = true
    · rw [if_pos hdigest] at h
      cases h
    · rw [if_neg hdigest] at h
      split at h
      · cases h
      · rename_i found hlookup
        split at h
        · cases h
        · rename_i recomputed hrecomputed
          split_ifs at h with hchanged hnamed
          · cases h
          · cases h
            rw [not_not.mp hchanged] at hrecomputed
            exact ⟨⟨c, rfl, hlookup⟩, hrecomputed, hnamed.1, hnamed.2.1, hnamed.2.2⟩
          · cases h

/-- A reputation is shown for a row whose policy is the registry's. -/
lemma attributes_of_view {lib : Libraries} {config : Option EnrichmentRuntime} {r : Record}
    {v : EnrichmentView} (h : _view lib config r = some v)
    (hreputation : v.reputation_result ≠ "NOT_EVALUATED") :
    (∃ policy, Attributes lib config r policy) ∧ v.reputation_result = r.reputation_result := by
  obtain ⟨attributed, hattributed, rfl⟩ := Option.map_eq_some_iff.mp h
  cases attributed with
  | none => exact absurd rfl hreputation
  | some policy => exact ⟨⟨policy, attributes_of_attributed hattributed⟩, rfl⟩

lemma year_bounds_sampleMoment : 1 ≤ 2026 ∧ 2026 ≤ 9999 := by decide

def sampleMoment : Py.DateTime :=
  ⟨2026, 1, 2, 3, 4, 5, 0, year_bounds_sampleMoment, by decide, by decide, by decide⟩

def samplePolicy : ProviderPolicy where
  provider_policy_ref := "policy"
  provider_policy_version := "1"
  provider_ref := "provider"
  provider_category := "REPUTATION_LOOKUP"
  indicator_type := "HOSTNAME"
  host := "lookup.example"
  port := 443
  path_prefix := "/v1"
  method := "GET"
  indicator_parameter := "q"
  expected_media_type := "application/json"
  parser_schema_version := "TL-FIXTURE-PARSER-1.0.0"
  redirect_policy := "DO_NOT_FOLLOW"
  retry_safe := true
  enabled := true
  credential := none
  freshness_policy_ref := none
  raw_provider_content_policy_ref := "NONE"
  proxy := none
  document := .obj [("provider_policy_ref", .str "policy")]

def sampleIndicator : Indicator := ⟨"HOSTNAME", "shop.example"⟩

def sampleDocument : Json :=
  .obj [("schema_version", .str "1.0.0"), ("provider_ref", .str "provider"),
    ("indicator", .obj [("type", .str "HOSTNAME"), ("value", .str "shop.example")]),
    ("observed_at", .str "2026-01-02T03:00:00Z"), ("entry", .str "FOUND"),
    ("reputation", .str "MALICIOUS"), ("allowlist", .str "NOT_ALLOWLISTED"),
    ("brand_match", .str "MISMATCH")]

/-- One address resolves, and it answers with the sample document. -/
def sampleLibraries : Libraries where
  lower s := s
  idna s := some s
  ip_address s := if s = "8.8.8.8" then some ⟨4, 134744072, false, false, true, false⟩ else none
  quote s := s
  urlsplit _ := none
  urljoin _ _ := none
  inflate _ _ _ := none
  strict_json _ := some sampleDocument
  sha256 _ := String.ofList (List.replicate 64 'a')
  number _ := ""

def sampleWorld : World where
  clock _ := 0
  now _ := sampleMoment
  resolve _ := .answers (some [some "8.8.8.8"])
  connect _ := .channel (some "8.8.8.8")
  exchange _ := .response ⟨200, [("content-type", "application/json")], []⟩
  credential _ := none
  uuid4 _ := "correlation"

def sampleResult : Except Egress.Raised LookupResult :=
  (Adapter.lookup ⟨sampleLibraries, sampleWorld, LOCAL_TEST_PROFILE, []⟩ samplePolicy
    sampleIndicator 0).1

def sampleRecord : Option Record :=
  sampleResult.toOption.bind (recorded sampleLibraries "record" "evaluation" samplePolicy
    sampleIndicator)

def sampleRegistry : Option EnrichmentRuntime :=
  some ⟨[(String.ofList (List.replicate 64 'a'), samplePolicy)]⟩

end TrustLens.Backend.Enrichment
