import TrustLens.Backend.Egress
import TrustLens.Lib.OracleLog

/-!
# The lookup with its log

The lookup again, with an entry for each attempt, each hop, each request that is sent, each redirect
that is followed and each wait. Without the entries it is the lookup.
-/

namespace TrustLens.Backend.Egress

/-- Where a hop connects to, by the address that was validated. -/
structure Connection where
  address : String
  port : ℤ
  server_hostname : String
  proxy : Option ProxyPolicy
deriving DecidableEq

/-- A request exchange: what the resolver answered for its hop, where its channel goes, the peer of
that channel, and what is asked. -/
structure Sending where
  answers : List String
  connection : Connection
  peer_address : Option String
  target : String
deriving DecidableEq

inductive Event where
  | attempted (number : ℕ)
  /-- a hop of an attempt -/
  | hopped (number : ℕ)
  | sent (sending : Sending)
  | redirected (host target : String) (location : Option String)
  | slept (started wait : ℚ)
deriving DecidableEq

namespace Adapter

open Logged (say lift)

variable (adapter : Adapter)

abbrev Noted := Logged Event Raised

/-- `_resolve_validated`, with all the answers -/
def noted_resolve_validated (deadline : ℚ) : Noted (List String × String) := do
  lift (adapter._remaining deadline)
  match ← lift (Program.ask adapter.world.resolve) with
  | .error => lift (refuse "DNS_FAILURE" "NO_RESPONSE")
  | .raised => lift (throw .escaped)
  | .answers addresses =>
    lift (adapter._remaining deadline)
    match addresses with
    | none | some [] => lift (refuse "DNS_FAILURE" "NO_RESPONSE")
    | some (first :: rest) =>
      match (first :: rest).mapM id with
      | none => lift (refuse "DESTINATION_ADDRESS_REJECTION" "NO_RESPONSE")
      | some texts =>
        if texts.all (address_permitted adapter.lib adapter.extra_metadata_addresses) then
          pure (texts, (texts.mergeSort).headD "")
        else lift (refuse "DESTINATION_ADDRESS_REJECTION" "NO_RESPONSE")

def noted_exchange (policy : ProviderPolicy) (deadline : ℚ) (host target : String) :
    Noted TransportResponse := do
  let found ← adapter.noted_resolve_validated deadline
  lift (adapter._remaining deadline)
  match ← lift (Program.ask adapter.world.connect) with
  | .error kind => lift (refuse (transportFailure kind) "NO_RESPONSE")
  | .raised => lift (throw .escaped)
  | .channel peer =>
    if peer ≠ some found.2 ∨
        address_permitted adapter.lib adapter.extra_metadata_addresses found.2 = false then
      lift (refuse "DESTINATION_ADDRESS_REJECTION" "NO_RESPONSE")
    else do
      lift (adapter._remaining deadline)
      say (.sent ⟨found.1, ⟨found.2, policy.port, host, policy.proxy⟩, peer, target⟩)
      match ← lift (Program.ask adapter.world.exchange) with
      | .error kind => lift (refuse (transportFailure kind) "NO_RESPONSE")
      | .raised => lift (throw .escaped)
      | .response response =>
        lift (adapter._remaining deadline)
        pure response

def noted_attempt (policy : ProviderPolicy) (indicator : Indicator) (deadline : ℚ) (attempts : ℕ) :
    ℕ → String → String → Noted LookupResult
  | hops, host, target => do
    say (.hopped attempts)
    let response ← adapter.noted_exchange policy deadline host target
    if 300 ≤ response.status ∧ response.status < 400 then
      match hops with
      | 0 => lift (refuse "REDIRECT_POLICY_REJECTION" (_response_category response.status))
      | hops + 1 =>
        if policy.redirect_policy = "DO_NOT_FOLLOW" then
          lift (refuse "REDIRECT_POLICY_REJECTION" (_response_category response.status))
        else do
          say (.redirected host target (response.headers.lookup "location"))
          let next ← lift (adapter._redirect_target policy host target
            (response.headers.lookup "location"))
          noted_attempt policy indicator deadline attempts hops next.1 next.2
    else lift (adapter.accept policy indicator deadline attempts response)

def noted_once (policy : ProviderPolicy) (indicator : Indicator) (request : OutgoingRequest)
    (deadline : ℚ) (attempts : ℕ) : Noted LookupResult := do
  say (.attempted attempts)
  let t ← lift adapter.clock
  if deadline ≤ t then lift (refuse "TIMEOUT" "NO_RESPONSE")
  else
    adapter.noted_attempt policy indicator deadline attempts adapter.limits.max_redirect_hops
      request.host request.target

def noted_recover (policy : ProviderPolicy) (deadline : ℚ) (attempts : ℕ)
    (again : Option (Noted LookupResult)) : Raised → Noted LookupResult
  | .escaped => lift (throw .escaped)
  | .refused category response_category =>
    match FAILURES.lookup category, again with
    | none, _ => lift (throw .escaped)
    | some failure, some again =>
      if failure.retry && policy.retry_safe then do
        let wait := min (adapter.limits.backoff_initial * 2 ^ (attempts - 1))
          adapter.limits.backoff_max
        let t ← lift adapter.clock
        if deadline ≤ t + wait then lift (_failed category response_category attempts none)
        else do
          say (.slept t wait)
          again
      else lift (adapter.settled category response_category attempts)
    | some _, none => lift (adapter.settled category response_category attempts)

def noted_attempting (policy : ProviderPolicy) (indicator : Indicator) (request : OutgoingRequest)
    (deadline : ℚ) : ℕ → ℕ → Noted LookupResult
  | 0, attempts => tryCatch (adapter.noted_once policy indicator request deadline attempts)
      (adapter.noted_recover policy deadline attempts none)
  | left + 1, attempts => tryCatch (adapter.noted_once policy indicator request deadline attempts)
      (adapter.noted_recover policy deadline attempts
        (some (noted_attempting policy indicator request deadline left (attempts + 1))))

def noted_until (policy : ProviderPolicy) (indicator : Indicator) (deadline : ℚ) :
    Noted LookupResult := do
  let prepared : Except (String × String) OutgoingRequest ← lift
    (tryCatch (do return .ok (← adapter._prepare policy indicator)) fun raised => match raised with
      | .escaped => throw .escaped
      | .refused category response_category => pure (.error (category, response_category)))
  match prepared with
  | .error (category, response_category) => lift (_failed category response_category 0 none)
  | .ok request =>
    adapter.noted_attempting policy indicator request deadline (adapter.limits.max_attempts - 1) 1

def noted_lookup (policy : ProviderPolicy) (indicator : Indicator) : Noted LookupResult := do
  let start ← lift adapter.clock
  adapter.noted_until policy indicator (start + adapter.limits.overall_deadline)

/-! ### Without the entries -/

open Logged (Shows shows_lift shows_raise shows_pure)

variable (policy : ProviderPolicy) (indicator : Indicator) (deadline : ℚ) (attempts : ℕ)

lemma shows_resolve_validated : Shows Prod.snd (adapter.noted_resolve_validated deadline)
    (adapter._resolve_validated deadline) := by
  unfold noted_resolve_validated _resolve_validated
  refine (shows_lift _).bind fun _ => (shows_lift _).bind fun resolved => ?_
  cases resolved with
  | error => exact shows_raise _
  | raised => exact shows_raise _
  | answers addresses =>
    refine (shows_lift _).bind fun _ => ?_
    cases addresses with
    | none => exact shows_raise _
    | some addresses =>
      cases addresses with
      | nil => exact shows_raise _
      | cons first rest =>
        dsimp only
        cases (first :: rest).mapM id with
        | none => exact shows_raise _
        | some texts =>
          dsimp only
          split_ifs
          · exact shows_pure rfl
          · exact shows_raise _

lemma shows_exchange (host target : String) : Shows id
    (adapter.noted_exchange policy deadline host target) (adapter.exchange deadline) := by
  unfold noted_exchange exchange
  refine (adapter.shows_resolve_validated deadline).bind fun found => ?_
  refine (shows_lift _).bind fun _ => (shows_lift _).bind fun connected => ?_
  cases connected with
  | error kind => exact shows_raise _
  | raised => exact shows_raise _
  | channel peer =>
    dsimp only [id]
    split_ifs
    · exact shows_raise _
    · refine (shows_lift _).bind fun _ => Logged.Shows.say_bind ?_
      refine (shows_lift _).bind fun exchanged => ?_
      cases exchanged with
      | error kind => exact shows_raise _
      | raised => exact shows_raise _
      | response response => exact (shows_lift _).bind fun _ => shows_pure rfl

lemma shows_attempt (hops : ℕ) (host target : String) : Shows id
    (adapter.noted_attempt policy indicator deadline attempts hops host target)
    (adapter._attempt policy indicator deadline attempts hops host target) := by
  induction hops generalizing host target with
  | zero =>
    unfold noted_attempt _attempt
    refine Logged.Shows.say_bind ((adapter.shows_exchange policy deadline host target).bind fun response => ?_)
    dsimp only [id]
    split_ifs
    · exact shows_raise _
    · exact shows_lift _
  | succ hops ih =>
    unfold noted_attempt _attempt
    refine Logged.Shows.say_bind ((adapter.shows_exchange policy deadline host target).bind fun response => ?_)
    dsimp only [id]
    split_ifs
    · exact shows_raise _
    · exact Logged.Shows.say_bind ((shows_lift _).bind fun next => ih next.1 next.2)
    · exact shows_lift _

lemma shows_once (request : OutgoingRequest) : Shows id
    (adapter.noted_once policy indicator request deadline attempts)
    (adapter.once policy indicator request deadline attempts) := by
  unfold noted_once once
  refine Logged.Shows.say_bind ((shows_lift _).bind fun t => ?_)
  dsimp only [id]
  split_ifs
  · exact shows_raise _
  · exact adapter.shows_attempt policy indicator deadline attempts _ _ _

lemma shows_recover {again : Option (Noted LookupResult)} {again' : Option (Run LookupResult)}
    (hagain : Option.Rel (Shows id) again again') (raised : Raised) : Shows id
      (adapter.noted_recover policy deadline attempts again raised)
      (adapter.recover policy deadline attempts again' raised) := by
  unfold noted_recover recover
  cases raised with
  | escaped => exact shows_raise _
  | refused category response_category =>
    dsimp only
    cases FAILURES.lookup category with
    | none => cases hagain <;> exact shows_raise _
    | some failure =>
      cases hagain with
      | none => exact shows_lift _
      | some hshows =>
        dsimp only
        split_ifs
        · refine (shows_lift _).bind fun t => ?_
          dsimp only [id]
          split_ifs
          · exact shows_lift _
          · exact Logged.Shows.say_bind hshows
        · exact shows_lift _

lemma shows_attempting (request : OutgoingRequest) (left : ℕ) : Shows id
    (adapter.noted_attempting policy indicator request deadline left attempts)
    (adapter.attempting policy indicator request deadline left attempts) := by
  induction left generalizing attempts with
  | zero =>
    exact (adapter.shows_once policy indicator deadline attempts request).tryCatch
      (adapter.shows_recover policy deadline attempts .none)
  | succ left ih =>
    exact (adapter.shows_once policy indicator deadline attempts request).tryCatch
      (adapter.shows_recover policy deadline attempts (.some (ih (attempts + 1))))

/-- Without its entries the noted lookup is the lookup. -/
theorem shows_lookup : Shows id (adapter.noted_lookup policy indicator)
    (adapter.lookup policy indicator) := by
  unfold noted_lookup noted_until lookup
  refine (shows_lift _).bind fun start => (shows_lift _).bind fun prepared => ?_
  cases prepared with
  | error failure => exact shows_lift _
  | ok request => exact adapter.shows_attempting policy indicator _ _ request _

end Adapter

end TrustLens.Backend.Egress
