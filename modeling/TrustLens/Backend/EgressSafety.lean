import TrustLens.Backend.EgressLog
import TrustLens.Backend.LoadPolicy

/-!
# What a lookup sends

Whatever the resolver, the network, the clock and the provider do, a request is only sent on a channel
to an address that was validated for its hop, under the name, the port and the path of the policy; the
attempts, the hops and the waits are bounded; and a reputation is only returned from an answer that the
parser of the policy read in time.
-/

namespace TrustLens.Backend.Egress

open Adapter (_withinPrefix)
open Logged (Emits Weighs lift emits_lift weighs_lift)

/-! ### Targets -/

/-- A path is the root itself or below it on a segment boundary. -/
def Under (root path : String) : Prop :=
  path = root ∨ path.toList = root.toList.rdropWhile (· == '/') ∨
    root.toList.rdropWhile (· == '/') ++ ['/'] <+: path.toList

/-- A path under the root, and a query. -/
def TargetUnder (root target : String) : Prop :=
  ∃ path query, target = path ++ query ∧ Under root path ∧ (query = "" ∨ ∃ q, query = "?" ++ q)

lemma under_of_withinPrefix {path root : String} (h : _withinPrefix path root = true) :
    Under root path := by
  simp only [_withinPrefix, Bool.and_eq_true, Bool.or_eq_true, beq_iff_eq] at h
  rcases h.2 with (h | h) | h
  · exact .inl h
  · exact .inr (.inl h)
  · exact .inr (.inr (List.isPrefixOf_iff_prefix.mp h))

/-- The addresses, the channel and the target of a request are the policy's. -/
structure Sending.Permitted (adapter : Adapter) (policy : ProviderPolicy) (s : Sending) : Prop where
  answered : ∃ k, adapter.world.resolve k = .answers (some (s.answers.map some))
  permitted : ∀ a ∈ s.answers,
    address_permitted adapter.lib adapter.extra_metadata_addresses a = true
  validated : s.connection.address ∈ s.answers
  peer : s.peer_address = some s.connection.address
  port : s.connection.port = policy.port
  server_hostname : s.connection.server_hostname = policy.host
  target : TargetUnder policy.path_prefix s.target

def Event.Permitted (adapter : Adapter) (policy : ProviderPolicy) (deadline : ℚ) : Event → Prop
  | .attempted number => 1 ≤ number ∧ number ≤ adapter.limits.max_attempts
  | .hopped number => 1 ≤ number ∧ number ≤ adapter.limits.max_attempts
  | .sent sending => sending.Permitted adapter policy
  | .redirected host target _ => host = policy.host ∧ TargetUnder policy.path_prefix target
  | .slept started wait => started + wait < deadline

/-- What a result was read from: an answer with the status 200, which the parser of the policy read
while the deadline held, two questions before the lookup was over. -/
structure ReadFrom (adapter : Adapter) (policy : ProviderPolicy) (indicator : Indicator)
    (deadline : ℚ) (result : LookupResult) (asked : ℕ) : Prop where
  answer : ∃ k n m response data document normalized now,
    adapter.world.exchange k = .response response ∧ response.status = 200 ∧
    _decode_body adapter.lib adapter.limits response n = (.ok data, m) ∧
    adapter.lib.strict_json data = some document ∧
    parse document policy indicator now = some normalized ∧
    result.outcome = normalized.lookup_outcome ∧
    result.reputation_result = normalized.reputation_result
  intime : ∃ k, asked = k + 2 ∧ adapter.world.clock k < deadline

section

variable (adapter : Adapter) {policy : ProviderPolicy} {indicator : Indicator} {deadline : ℚ}
  {attempts : ℕ}

/-! ### Programs -/

lemma ok_bind {α β : Type} {x : Run α} {f : α → Run β} {n m : ℕ} {b : β}
    (h : (x >>= f) n = (.ok b, m)) : ∃ a k, x n = (.ok a, k) ∧ f a k = (.ok b, m) := by
  rw [Program.bind_run] at h
  generalize x n = r at h
  obtain ⟨result, k⟩ := r
  cases result with
  | ok a => exact ⟨a, k, rfl, h⟩
  | error e => cases h

lemma remaining_ok {n m : ℕ} {u : Unit} (h : adapter._remaining deadline n = (.ok u, m)) :
    m = n + 1 ∧ adapter.world.clock n < deadline := by
  obtain ⟨t, k, hclock, hrest⟩ := ok_bind h
  cases hclock
  split_ifs at hrest with hover
  · cases hrest
  · cases hrest
    exact ⟨rfl, sub_pos.mp (not_le.mp hover)⟩

/-- A result that is accepted was read from its response in time. -/
lemma accept_ok {response : TransportResponse} {result : LookupResult} {n m k : ℕ}
    (hresponse : adapter.world.exchange k = .response response)
    (h : adapter.accept policy indicator deadline attempts response n = (.ok result, m)) :
    ReadFrom adapter policy indicator deadline result m := by
  unfold Adapter.accept at h
  dsimp only at h
  split_ifs at h with hlimited hclient hserver hstatus hmedia
  · cases h
  · cases h
  · cases h
  · cases h
  · cases h
  · obtain ⟨data, n₁, hdata, h⟩ := ok_bind h
    obtain ⟨_, n₂, -, h⟩ := ok_bind h
    cases hdocument : adapter.lib.strict_json data with
    | none =>
      rw [hdocument] at h
      cases h
    | some document =>
      rw [hdocument] at h
      obtain ⟨now, n₃, -, h⟩ := ok_bind h
      cases hparse : parse document policy indicator now with
      | none =>
        rw [hparse] at h
        cases h
      | some normalized =>
        rw [hparse] at h
        obtain ⟨_, n₄, hremaining, h⟩ := ok_bind h
        obtain ⟨responded_at, n₅, hnow, h⟩ := ok_bind h
        obtain ⟨rfl, hintime⟩ := remaining_ok adapter hremaining
        cases hnow
        cases hdigest : policy.digest adapter.lib with
        | none =>
          rw [hdigest] at h
          cases h
        | some digest =>
          rw [hdigest] at h
          cases href : indicator.ref adapter.lib with
          | none =>
            rw [href] at h
            cases h
          | some ref =>
            rw [href] at h
            cases h
            exact ⟨⟨k, n, n₁, response, data, document, normalized, now, hresponse,
              not_not.mp hstatus, hdata, hdocument, hparse, rfl, rfl⟩, _, rfl, hintime⟩

/-! ### One hop -/

/-- A redirect that is followed stays with the host and below the path of the policy. -/
lemma post_redirect_target (host target : String) (location : Option String) :
    Program.Post (adapter._redirect_target policy host target location)
      (fun next => next.1 = policy.host ∧ TargetUnder policy.path_prefix next.2) fun _ => True := by
  have hrefuse : ∀ response_category : String, Program.Post
      (refuse "REDIRECT_POLICY_REJECTION" response_category : Run (String × String))
      (fun next => next.1 = policy.host ∧ TargetUnder policy.path_prefix next.2) fun _ => True :=
    fun _ => Program.Post.throw trivial
  unfold Adapter._redirect_target
  cases location with
  | none => exact hrefuse _
  | some location =>
    dsimp only
    split_ifs with hunsafe
    · exact hrefuse _
    · cases adapter.lib.urlsplit location with
      | none => exact Program.Post.throw trivial
      | some split =>
        dsimp only
        split_ifs with hpath
        · exact hrefuse _
        · cases (adapter.lib.urljoin ("https://" ++ Adapter.hostHeader policy host ++ target)
            location).bind adapter.lib.urlsplit with
          | none => exact Program.Post.throw trivial
          | some parts =>
            dsimp only
            cases parts.port with
            | none => exact hrefuse _
            | some port =>
              cases canonical_host adapter.lib (parts.hostname.getD "") with
              | none => exact hrefuse _
              | some next_host =>
                dsimp only
                split_ifs with hchecked hquery
                · exact hrefuse _
                all_goals
                  simp only [Bool.or_eq_true, decide_eq_true_eq, not_or, ne_eq, not_not,
                    Bool.not_eq_true', Bool.not_eq_false] at hchecked
                  refine Program.Post.pure ⟨hchecked.1.1.2, _, _, rfl, under_of_withinPrefix hchecked.2, ?_⟩
                · exact .inl rfl
                · exact .inr ⟨_, rfl⟩

lemma eq_map_some_of_mapM {α : Type} {xs : List (Option α)} {ys : List α}
    (h : xs.mapM id = some ys) : xs = ys.map some := by
  induction xs generalizing ys with
  | nil =>
    cases h
    rfl
  | cons x xs ih =>
    rw [List.mapM_cons] at h
    obtain ⟨y, hy, h⟩ := Option.bind_eq_some_iff.mp h
    obtain ⟨rest, hrest, h⟩ := Option.bind_eq_some_iff.mp h
    cases h
    rw [List.map_cons, ← ih hrest]
    exact congrArg (· :: xs) hy

lemma headD_mem {xs : List String} (h : xs.mergeSort ≠ []) : xs.mergeSort.headD "" ∈ xs := by
  cases hsorted : xs.mergeSort with
  | nil => exact absurd hsorted h
  | cons first rest =>
    have hmem : first ∈ xs.mergeSort := hsorted ▸ List.mem_cons_self
    exact List.mem_mergeSort.1 hmem

/-- The address that is connected to is one of the answers, which are all permitted. -/
lemma post_resolve_validated : Logged.Post (fun _ => True) (adapter.noted_resolve_validated deadline)
    (fun found _ => (∃ k, adapter.world.resolve k = .answers (some (found.1.map some))) ∧
      (∀ a ∈ found.1, address_permitted adapter.lib adapter.extra_metadata_addresses a = true) ∧
      found.2 ∈ found.1) fun _ => True := by
  unfold Adapter.noted_resolve_validated
  refine Logged.Post.any.bind fun _ _ _ => Logged.Post.asked.bind fun resolved _ hresolved => ?_
  cases resolved with
  | error => exact Logged.Post.raise trivial
  | raised => exact Logged.Post.raise trivial
  | answers addresses =>
    refine Logged.Post.any.bind fun _ _ _ => ?_
    cases addresses with
    | none => exact Logged.Post.raise trivial
    | some addresses =>
      cases addresses with
      | nil => exact Logged.Post.raise trivial
      | cons first rest =>
        dsimp only
        cases htexts : (first :: rest).mapM id with
        | none => exact Logged.Post.raise trivial
        | some texts =>
          dsimp only
          split_ifs with hpermitted
          · have hanswers := eq_map_some_of_mapM htexts
            refine Logged.Post.pure fun _ => ⟨?_, List.all_eq_true.mp hpermitted, ?_⟩
            · rw [← hanswers]
              exact hresolved
            · refine headD_mem fun hnil => ?_
              have hempty := congrArg List.length hnil
              rw [List.length_mergeSort, ← List.length_map some, ← hanswers] at hempty
              exact Nat.succ_ne_zero _ hempty
          · exact Logged.Post.raise trivial

lemma post_exchange (host target : String) :
    Logged.Post (fun _ => True) (adapter.noted_exchange policy deadline host target)
      (fun response _ => ∃ k, adapter.world.exchange k = .response response) fun _ => True := by
  unfold Adapter.noted_exchange
  refine Logged.Post.any.bind fun _ _ _ => Logged.Post.any.bind fun _ _ _ => ?_
  refine Logged.Post.any.bind fun connected _ _ => ?_
  cases connected with
  | error kind => exact Logged.Post.raise trivial
  | raised => exact Logged.Post.raise trivial
  | channel peer =>
    dsimp only
    split_ifs
    · exact Logged.Post.raise trivial
    · refine Logged.Post.any.bind fun _ _ _ => Logged.Post.say_bind fun _ => ?_
      refine Logged.Post.asked.bind fun exchanged _ hexchanged => ?_
      cases exchanged with
      | error kind => exact Logged.Post.raise trivial
      | raised => exact Logged.Post.raise trivial
      | response response =>
        exact Logged.Post.any.bind fun _ _ _ => Logged.Post.pure fun _ => hexchanged

lemma emits_resolve_validated {E : Event → Prop} :
    Emits (adapter.noted_resolve_validated deadline) E := by
  unfold Adapter.noted_resolve_validated
  refine Emits.lift_bind fun _ => Emits.lift_bind fun resolved => ?_
  cases resolved with
  | error => exact emits_lift _
  | raised => exact emits_lift _
  | answers addresses =>
    refine Emits.lift_bind fun _ => ?_
    cases addresses with
    | none => exact emits_lift _
    | some addresses =>
      cases addresses with
      | nil => exact emits_lift _
      | cons first rest =>
        dsimp only
        cases (first :: rest).mapM id with
        | none => exact emits_lift _
        | some texts =>
          dsimp only
          split_ifs
          · exact Logged.emits_pure _
          · exact emits_lift _

/-- The one request of a hop goes to its validated address. -/
lemma emits_exchange {target : String} (htarget : TargetUnder policy.path_prefix target) :
    Emits (adapter.noted_exchange policy deadline policy.host target)
      (Event.Permitted adapter policy deadline) := by
  unfold Adapter.noted_exchange
  refine (emits_resolve_validated adapter).bind (post_resolve_validated adapter) fun found _ hfound => ?_
  obtain ⟨hanswers, hpermitted, hmem⟩ := hfound
  refine Emits.lift_bind fun _ => Emits.lift_bind fun connected => ?_
  cases connected with
  | error kind => exact emits_lift _
  | raised => exact emits_lift _
  | channel peer =>
    dsimp only
    split_ifs with hpeer
    · exact emits_lift _
    · rw [not_or, ne_eq, not_not] at hpeer
      refine Emits.lift_bind fun _ => Emits.say_bind ?_ (Emits.lift_bind fun exchanged => ?_)
      · exact ⟨hanswers, hpermitted, hmem, hpeer.1, rfl, rfl, htarget⟩
      · cases exchanged with
        | error kind => exact emits_lift _
        | raised => exact emits_lift _
        | response response => exact Emits.lift_bind fun _ => Logged.emits_pure _

/-! ### Attempts -/

/-- By the hops that may still follow. -/
lemma emits_attempt (hattempts : 1 ≤ attempts ∧ attempts ≤ adapter.limits.max_attempts) (hops : ℕ)
    {target : String} (htarget : TargetUnder policy.path_prefix target) :
    Emits (adapter.noted_attempt policy indicator deadline attempts hops policy.host target)
      (Event.Permitted adapter policy deadline) := by
  induction hops generalizing target with
  | zero =>
    unfold Adapter.noted_attempt
    refine Emits.say_bind hattempts ((emits_exchange adapter htarget).bind Logged.Post.any ?_)
    intro response _ _
    dsimp only
    split_ifs <;> exact emits_lift _
  | succ hops ih =>
    unfold Adapter.noted_attempt
    refine Emits.say_bind hattempts ((emits_exchange adapter htarget).bind Logged.Post.any ?_)
    intro response _ _
    dsimp only
    split_ifs
    · exact emits_lift _
    · refine Emits.say_bind ⟨rfl, htarget⟩ ((emits_lift _).bind
        (Logged.Post.lift (post_redirect_target adapter _ _ _)) fun next _ hnext => ?_)
      rw [hnext.1]
      exact ih hnext.2
    · exact emits_lift _

/-- Every result of an attempt was read from a response. -/
lemma post_noted_attempt (hops : ℕ) (host target : String) : Logged.Post (fun _ => True)
    (adapter.noted_attempt policy indicator deadline attempts hops host target)
    (ReadFrom adapter policy indicator deadline) fun _ => True := by
  have haccept : ∀ response, (∃ k, adapter.world.exchange k = .response response) →
      Logged.Post (fun _ => True)
        (lift (adapter.accept policy indicator deadline attempts response) : Adapter.Noted LookupResult)
        (ReadFrom adapter policy indicator deadline) fun _ => True := by
    rintro response ⟨k, hk⟩ n -
    refine ⟨fun result h => ?_, fun _ _ => trivial⟩
    exact accept_ok adapter hk (n := n) (Prod.ext h rfl)
  induction hops generalizing host target with
  | zero =>
    unfold Adapter.noted_attempt
    refine Logged.Post.say_bind fun _ => (post_exchange adapter host target).bind ?_
    intro response _ hresponse
    dsimp only
    split_ifs
    · exact Logged.Post.raise trivial
    · exact haccept response hresponse
  | succ hops ih =>
    unfold Adapter.noted_attempt
    refine Logged.Post.say_bind fun _ => (post_exchange adapter host target).bind ?_
    intro response _ hresponse
    dsimp only
    split_ifs
    · exact Logged.Post.raise trivial
    · exact Logged.Post.say_bind fun _ => Logged.Post.any.bind fun next _ _ => ih next.1 next.2
    · exact haccept response hresponse

/-- A request that is sent first stays with the policy. -/
def OutgoingRequest.Of (policy : ProviderPolicy) (request : OutgoingRequest) : Prop :=
  request.host = policy.host ∧ TargetUnder policy.path_prefix request.target

lemma emits_once {request : OutgoingRequest} (hrequest : request.Of policy)
    (hattempts : 1 ≤ attempts ∧ attempts ≤ adapter.limits.max_attempts) :
    Emits (adapter.noted_once policy indicator request deadline attempts)
      (Event.Permitted adapter policy deadline) := by
  unfold Adapter.noted_once
  refine Emits.say_bind hattempts (Emits.lift_bind fun t => ?_)
  split_ifs
  · exact emits_lift _
  · rw [hrequest.1]
    exact emits_attempt adapter hattempts _ hrequest.2

/-- Nothing is asserted, or it was read from a response. -/
def Sourced (adapter : Adapter) (policy : ProviderPolicy) (indicator : Indicator) (deadline : ℚ)
    (result : LookupResult) (asked : ℕ) : Prop :=
  result.reputation_result = "NOT_EVALUATED" ∨
    ReadFrom adapter policy indicator deadline result asked

lemma post_once (request : OutgoingRequest) : Logged.Post (fun _ => True)
    (adapter.noted_once policy indicator request deadline attempts)
    (Sourced adapter policy indicator deadline) fun _ => True := by
  unfold Adapter.noted_once
  refine Logged.Post.say_bind fun _ => Logged.Post.any.bind fun t _ _ => ?_
  split_ifs
  · exact Logged.Post.raise trivial
  · exact (post_noted_attempt adapter _ _ _).mono (fun _ _ => .inr) fun _ => id

lemma post_failed (category response_category : String) (responded_at : Option Py.DateTime) :
    Logged.Post (fun _ => True)
      (lift (_failed category response_category attempts responded_at) : Adapter.Noted LookupResult)
      (Sourced adapter policy indicator deadline) fun _ => True := by
  unfold _failed
  cases FAILURES.lookup category with
  | none => exact Logged.Post.raise trivial
  | some f => exact Logged.Post.pure fun _ => .inl rfl

lemma post_settled (category response_category : String) : Logged.Post (fun _ => True)
    (lift (adapter.settled category response_category attempts) : Adapter.Noted LookupResult)
    (Sourced adapter policy indicator deadline) fun _ => True := by
  unfold Adapter.settled
  split_ifs
  · exact post_failed adapter _ _ _
  · intro n hlog
    exact post_failed adapter category response_category (some (adapter.world.now n)) (n + 1) hlog

section

variable {again : Option (Adapter.Noted LookupResult)}

/-- A wait ends before the deadline. -/
lemma emits_recover (hagain : ∀ x ∈ again, Emits x (Event.Permitted adapter policy deadline))
    (raised : Raised) : Emits (adapter.noted_recover policy deadline attempts again raised)
      (Event.Permitted adapter policy deadline) := by
  unfold Adapter.noted_recover
  cases raised with
  | escaped => exact emits_lift _
  | refused category response_category =>
    dsimp only
    cases FAILURES.lookup category with
    | none => exact emits_lift _
    | some failure =>
      cases again with
      | none => exact emits_lift _
      | some again =>
        dsimp only
        split_ifs
        · refine Emits.lift_bind fun t => ?_
          split_ifs with hover
          · exact emits_lift _
          · exact Emits.say_bind (not_le.mp hover) (hagain _ rfl)
        · exact emits_lift _

lemma post_recover (hagain : ∀ x ∈ again, Logged.Post (fun _ => True) x
      (Sourced adapter policy indicator deadline) fun _ => True)
    (raised : Raised) : Logged.Post (fun _ => True)
      (adapter.noted_recover policy deadline attempts again raised)
      (Sourced adapter policy indicator deadline) fun _ => True := by
  unfold Adapter.noted_recover
  cases raised with
  | escaped => exact Logged.Post.raise trivial
  | refused category response_category =>
    dsimp only
    cases FAILURES.lookup category with
    | none => exact Logged.Post.raise trivial
    | some failure =>
      cases again with
      | none => exact post_settled adapter _ _
      | some again =>
        dsimp only
        split_ifs
        · refine Logged.Post.any.bind fun t _ _ => ?_
          split_ifs
          · exact post_failed adapter _ _ _
          · exact Logged.Post.say_bind fun _ => hagain _ rfl
        · exact post_settled adapter _ _

lemma weighs_recover {cost : Event → ℕ} {c : ℕ} (hslept : ∀ started wait, cost (.slept started wait) = 0)
    (hagain : ∀ x ∈ again, Weighs cost x c) (raised : Raised) :
    Weighs cost (adapter.noted_recover policy deadline attempts again raised) c := by
  have hnone : ∀ y : Run LookupResult, Weighs cost (lift y : Adapter.Noted LookupResult) c := fun y =>
    (weighs_lift y).mono (Nat.zero_le c)
  unfold Adapter.noted_recover
  cases raised with
  | escaped => exact hnone _
  | refused category response_category =>
    dsimp only
    cases FAILURES.lookup category with
    | none => exact hnone _
    | some failure =>
      cases again with
      | none => exact hnone _
      | some again =>
        dsimp only
        split_ifs
        · refine Weighs.lift_bind fun t => ?_
          split_ifs
          · exact hnone _
          · exact Weighs.say_bind_of_eq_zero (hslept _ _) (hagain _ rfl)
        · exact hnone _

end

/-- By the attempts that may still follow. -/
lemma emits_attempting {request : OutgoingRequest} (hrequest : request.Of policy) (left : ℕ)
    (hattempts : 1 ≤ attempts) (hleft : attempts + left ≤ adapter.limits.max_attempts) :
    Emits (adapter.noted_attempting policy indicator request deadline left attempts)
      (Event.Permitted adapter policy deadline) := by
  induction left generalizing attempts with
  | zero =>
    exact (emits_once adapter hrequest ⟨hattempts, hleft⟩).tryCatch (emits_recover adapter nofun)
  | succ left ih =>
    refine (emits_once adapter hrequest ⟨hattempts, by omega⟩).tryCatch
      (emits_recover adapter fun x hx => ?_)
    cases hx
    exact ih (by omega) (by omega)

lemma post_attempting (request : OutgoingRequest) (left : ℕ) : Logged.Post (fun _ => True)
    (adapter.noted_attempting policy indicator request deadline left attempts)
    (Sourced adapter policy indicator deadline) fun _ => True := by
  induction left generalizing attempts with
  | zero =>
    refine (post_once adapter request).tryCatch fun raised _ =>
      post_recover adapter (fun x hx => ?_) raised
    cases hx
  | succ left ih =>
    refine (post_once adapter request).tryCatch fun raised _ =>
      post_recover adapter (fun x hx => ?_) raised
    cases hx
    exact ih

/-! ### Bounds -/

/-- An attempt that starts -/
def Event.isAttempt : Event → Bool
  | .attempted _ => true
  | _ => false

/-- A hop of the attempt of this number -/
def Event.isHopOf (number : ℕ) : Event → Bool
  | .hopped k => k == number
  | _ => false

/-- Each entry that is counted weighs one. -/
def weight (counted : Event → Bool) (event : Event) : ℕ := if counted event then 1 else 0

lemma countP_eq_sum (counted : Event → Bool) (log : List Event) :
    log.countP counted = (log.map (weight counted)).sum := by
  induction log with
  | nil => rfl
  | cons event log ih =>
    rw [List.countP_cons, List.map_cons, List.sum_cons, ih, Nat.add_comm]
    rfl

lemma weighs_resolve_validated {cost : Event → ℕ} :
    Weighs cost (adapter.noted_resolve_validated deadline) 0 := fun n => by
  have hnone : ∀ w ∈ (adapter.noted_resolve_validated deadline n).2.2, cost w = 0 :=
    fun w hw => (emits_resolve_validated adapter (E := fun _ => False) n w hw).elim
  exact (List.sum_eq_zero (List.forall_mem_map.mpr hnone)).le

lemma weighs_exchange {cost : Event → ℕ} (hsent : ∀ sending, cost (.sent sending) = 0)
    (host target : String) : Weighs cost (adapter.noted_exchange policy deadline host target) 0 := by
  unfold Adapter.noted_exchange
  refine (weighs_resolve_validated adapter).zero_bind fun found => ?_
  refine Weighs.lift_bind fun _ => Weighs.lift_bind fun connected => ?_
  cases connected with
  | error kind => exact weighs_lift _
  | raised => exact weighs_lift _
  | channel peer =>
    dsimp only
    split_ifs
    · exact weighs_lift _
    · refine Weighs.lift_bind fun _ => ?_
      refine Weighs.say_bind_of_eq_zero (hsent _) (Weighs.lift_bind fun exchanged => ?_)
      cases exchanged with
      | error kind => exact weighs_lift _
      | raised => exact weighs_lift _
      | response response => exact Weighs.lift_bind fun _ => Logged.weighs_pure _

/-- A cost that only counts attempts and hops -/
structure Counts (cost : Event → ℕ) : Prop where
  sent : ∀ sending, cost (.sent sending) = 0
  redirected : ∀ host target location, cost (.redirected host target location) = 0
  slept : ∀ started wait, cost (.slept started wait) = 0

lemma counts_isAttempt : Counts (weight Event.isAttempt) :=
  ⟨fun _ => rfl, fun _ _ _ => rfl, fun _ _ => rfl⟩

lemma counts_isHopOf (number : ℕ) : Counts (weight (Event.isHopOf number)) :=
  ⟨fun _ => rfl, fun _ _ _ => rfl, fun _ _ => rfl⟩

section

variable {cost : Event → ℕ} (hcost : Counts cost)
include hcost

/-- By the hops that may still follow, each of which weighs as much as its entry. -/
lemma weighs_attempt (hops : ℕ) (host target : String) : Weighs cost
    (adapter.noted_attempt policy indicator deadline attempts hops host target)
    ((hops + 1) * cost (.hopped attempts)) := by
  induction hops generalizing host target with
  | zero =>
    unfold Adapter.noted_attempt
    rw [Nat.zero_add, Nat.one_mul]
    refine Weighs.say_bind (c := 0) ?_
    refine (weighs_exchange adapter hcost.sent host target).zero_bind fun response => ?_
    dsimp only
    split_ifs <;> exact weighs_lift _
  | succ hops ih =>
    unfold Adapter.noted_attempt
    have hsum : (hops + 1 + 1) * cost (.hopped attempts) =
        cost (.hopped attempts) + (hops + 1) * cost (.hopped attempts) := by
      rw [Nat.succ_mul, Nat.add_comm]
    rw [hsum]
    refine Weighs.say_bind ?_
    refine (weighs_exchange adapter hcost.sent host target).zero_bind fun response => ?_
    dsimp only
    split_ifs
    · exact (weighs_lift _).mono (Nat.zero_le _)
    · exact Weighs.say_bind_of_eq_zero (hcost.redirected _ _ _) (Weighs.lift_bind fun next =>
        ih next.1 next.2)
    · exact (weighs_lift _).mono (Nat.zero_le _)

lemma weighs_once (request : OutgoingRequest) : Weighs cost
    (adapter.noted_once policy indicator request deadline attempts)
    (cost (.attempted attempts) +
      (adapter.limits.max_redirect_hops + 1) * cost (.hopped attempts)) := by
  unfold Adapter.noted_once
  refine Weighs.say_bind (Weighs.lift_bind fun t => ?_)
  split_ifs
  · exact (weighs_lift _).mono (Nat.zero_le _)
  · exact weighs_attempt adapter hcost _ _ _

/-- All attempts together weigh what each of them does. -/
lemma weighs_attempting (request : OutgoingRequest) (left : ℕ) : Weighs cost
    (adapter.noted_attempting policy indicator request deadline left attempts)
    ((List.range' attempts (left + 1)).map fun number => cost (.attempted number) +
      (adapter.limits.max_redirect_hops + 1) * cost (.hopped number)).sum := by
  induction left generalizing attempts with
  | zero =>
    have hrecover : ∀ raised, Weighs cost
        (adapter.noted_recover policy deadline attempts none raised) 0 :=
      weighs_recover adapter hcost.slept nofun
    exact (weighs_once adapter hcost request).tryCatch hrecover
  | succ left ih =>
    rw [List.range'_succ, List.map_cons, List.sum_cons]
    refine (weighs_once adapter hcost request).tryCatch (weighs_recover adapter hcost.slept ?_)
    intro x hx
    cases hx
    exact ih

end

/-- Numbers that differ hit one number once at most. -/
lemma sum_hits_le {numbers : List ℕ} (hnodup : numbers.Nodup) (k c : ℕ) :
    (numbers.map fun number => if number = k then c else 0).sum ≤ c := by
  induction numbers with
  | nil => exact Nat.zero_le c
  | cons number numbers ih =>
    obtain ⟨hnew, hnodup⟩ := List.nodup_cons.mp hnodup
    rw [List.map_cons, List.sum_cons]
    split_ifs with hhit
    · subst hhit
      have hrest : ∀ other ∈ numbers, (if other = number then c else 0) = 0 := by
        intro other hmem
        rw [if_neg]
        rintro rfl
        exact hnew hmem
      rw [List.sum_eq_zero (List.forall_mem_map.mpr hrest), Nat.add_zero]
    · rw [Nat.zero_add]
      exact ih hnodup

/-! ### The lookup -/

/-- What every run of a lookup keeps to. -/
structure SafeRun (adapter : Adapter) (policy : ProviderPolicy) (indicator : Indicator)
    (deadline : ℚ) (run : Except Raised LookupResult × ℕ × List Event) : Prop where
  events : ∀ event ∈ run.2.2, event.Permitted adapter policy deadline
  attempts : run.2.2.countP Event.isAttempt ≤ adapter.limits.max_attempts
  hops : ∀ number, run.2.2.countP (Event.isHopOf number) ≤ adapter.limits.max_redirect_hops + 1
  result : ∀ result, run.1 = .ok result →
    Sourced adapter policy indicator deadline result run.2.1

lemma post_prepare (hpolicy : policy.Governed adapter.lib) :
    Program.Post (adapter._prepare policy indicator) (OutgoingRequest.Of policy) fun _ => True := by
  have htarget : TargetUnder policy.path_prefix (adapter.requestTarget policy indicator) := by
    unfold Adapter.requestTarget
    split_ifs
    · refine ⟨policy.path_prefix, "?" ++ (adapter.lib.quote policy.indicator_parameter ++
        ("=" ++ adapter.lib.quote indicator.value)), ?_, .inl rfl, .inr ⟨_, rfl⟩⟩
      simp only [String.append_assoc]
    · exact ⟨policy.path_prefix, "", (String.append_empty).symm, .inl rfl, .inl rfl⟩
  have hany : ∀ {α : Type} {x : Run α}, Program.Post x (fun _ => True) fun _ => True :=
    fun _ => ⟨fun _ _ => trivial, fun _ _ => trivial⟩
  unfold Adapter._prepare
  rw [hpolicy.host]
  split_ifs
  · exact Program.Post.throw trivial
  · exact Program.Post.throw trivial
  · exact Program.Post.throw trivial
  · refine hany.bind fun body _ => hany.bind fun correlation _ => hany.bind fun authenticated _ => ?_
    dsimp only
    split_ifs
    · exact Program.Post.throw trivial
    · exact Program.Post.pure ⟨rfl, htarget⟩

lemma post_prepared (hpolicy : policy.Governed adapter.lib) :
    Logged.Post (fun _ => True) (lift (tryCatch
      (do return .ok (← adapter._prepare policy indicator)) fun raised => match raised with
        | .escaped => throw .escaped
        | .refused category response_category => pure (.error (category, response_category))) :
      Adapter.Noted (Except (String × String) OutgoingRequest))
      (fun prepared _ => ∀ request, prepared = .ok request → request.Of policy) fun _ => True := by
  refine Logged.Post.lift (Program.Post.tryCatch (R := fun _ => True) ?_ fun raised _ => ?_)
  · refine (post_prepare adapter hpolicy).bind fun request hrequest => Program.Post.pure ?_
    intro request' heq
    cases heq
    exact hrequest
  · cases raised with
    | escaped => exact Program.Post.throw trivial
    | refused category response_category => exact Program.Post.pure nofun

lemma emits_until (hpolicy : policy.Governed adapter.lib) :
    Emits (adapter.noted_until policy indicator deadline)
      (Event.Permitted adapter policy deadline) := by
  unfold Adapter.noted_until
  refine (emits_lift _).bind (post_prepared adapter hpolicy) fun prepared _ hprepared => ?_
  cases prepared with
  | error failure => exact emits_lift _
  | ok request =>
    have hattempted := adapter.limits.attempted
    exact emits_attempting adapter (hprepared request rfl) _ le_rfl (by omega)

lemma post_until : Logged.Post (fun _ => True) (adapter.noted_until policy indicator deadline)
    (Sourced adapter policy indicator deadline) fun _ => True := by
  unfold Adapter.noted_until
  refine Logged.Post.any.bind fun prepared _ _ => ?_
  cases prepared with
  | error failure => exact post_failed adapter _ _ _
  | ok request => exact post_attempting adapter request _

lemma weighs_until {cost : Event → ℕ} (hcost : Counts cost) :
    Weighs cost (adapter.noted_until policy indicator deadline)
      ((List.range' 1 adapter.limits.max_attempts).map fun number => cost (.attempted number) +
        (adapter.limits.max_redirect_hops + 1) * cost (.hopped number)).sum := by
  unfold Adapter.noted_until
  refine Weighs.lift_bind fun prepared => ?_
  cases prepared with
  | error failure => exact (weighs_lift _).mono (Nat.zero_le _)
  | ok request =>
    have h : Weighs cost (adapter.noted_attempting policy indicator request deadline
        (adapter.limits.max_attempts - 1) 1) _ :=
      weighs_attempting adapter hcost request (adapter.limits.max_attempts - 1)
    rwa [Nat.sub_add_cancel adapter.limits.attempted] at h

/-- Every lookup of a loaded policy keeps to the policy, to the limits and to the deadline. -/
theorem lookup_safe {document : Json} (hpolicy : load_policy adapter.lib document = some policy)
    (indicator : Indicator) (n : ℕ) :
    adapter.lookup policy indicator n = ((adapter.noted_lookup policy indicator n).1,
        (adapter.noted_lookup policy indicator n).2.1) ∧
      SafeRun adapter policy indicator (adapter.world.clock n + adapter.limits.overall_deadline)
        (adapter.noted_lookup policy indicator n) := by
  have hgoverned := governed_of_load_policy hpolicy
  set deadline := adapter.world.clock n + adapter.limits.overall_deadline
  -- the first question is the clock, from which the deadline is counted
  have hrun : adapter.noted_lookup policy indicator n =
      adapter.noted_until policy indicator deadline (n + 1) := rfl
  have hshows := adapter.shows_lookup policy indicator n
  rw [hrun] at hshows ⊢
  refine ⟨?_, ?_, ?_, fun number => ?_, ?_⟩
  · rw [hshows]
    cases (adapter.noted_until policy indicator deadline (n + 1)).1 <;> rfl
  · exact emits_until adapter hgoverned (n + 1)
  · have hweighs : Weighs _ (adapter.noted_until policy indicator deadline) _ :=
      weighs_until adapter counts_isAttempt
    have hsum := hweighs (n + 1)
    rw [← countP_eq_sum] at hsum
    simpa [weight, Event.isAttempt] using hsum
  · have hweighs : Weighs _ (adapter.noted_until policy indicator deadline) _ :=
      weighs_until adapter (counts_isHopOf number)
    have hsum := hweighs (n + 1)
    rw [← countP_eq_sum] at hsum
    have hnodup : (List.range' 1 adapter.limits.max_attempts).Nodup := List.nodup_range' ..
    refine hsum.trans (le_trans (le_of_eq ?_)
      (sum_hits_le hnodup number (adapter.limits.max_redirect_hops + 1)))
    refine congrArg List.sum (List.map_congr_left fun k _ => ?_)
    simp [weight, Event.isHopOf]
  · exact ((post_until adapter) (n + 1) fun _ _ => trivial).1

end

section Sample

def redirectingDocument : Json :=
  .obj [("provider_policy_ref", .str "policy"), ("provider_policy_version", .str "1"),
    ("provider_ref", .str "provider"), ("provider_category", .str "REPUTATION_LOOKUP"),
    ("provider_operation", .str "lookup"), ("indicator_type", .str "HOSTNAME"),
    ("scheme", .str "https"), ("host", .str "lookup.example"), ("port", .int 443),
    ("path_prefix", .str "/v1"), ("method", .str "GET"), ("indicator_parameter", .str "q"),
    ("expected_media_type", .str "application/json"),
    ("parser_schema_version", .str "TL-FIXTURE-PARSER-1.0.0"),
    ("redirect_policy", .str "REVALIDATE_WITHIN_PROVIDER_ALLOWLIST"),
    ("url_query_transmission", .str "NOT_PERMITTED"), ("retry_safe", .bool false),
    ("enabled", .bool true)]

def redirectingPolicy : ProviderPolicy where
  provider_policy_ref := "policy"
  provider_policy_version := "1"
  provider_ref := "provider"
  provider_category := "REPUTATION_LOOKUP"
  indicator_type := "HOSTNAME"
  host := "lookup.example"
  port := 443
  path_prefix := "/v1"
  method := "GET"
  indicator_parameter := "q"
  expected_media_type := "application/json"
  parser_schema_version := "TL-FIXTURE-PARSER-1.0.0"
  redirect_policy := "REVALIDATE_WITHIN_PROVIDER_ALLOWLIST"
  retry_safe := false
  enabled := true
  credential := none
  freshness_policy_ref := none
  raw_provider_content_policy_ref := "NO_RAW_PROVIDER_CONTENT_RETAINED"
  proxy := none
  document := redirectingDocument

/-- Texts that are split, joined and encoded as they are, up to the path of a redirect. -/
def plainLibraries : Libraries where
  lower s := s
  idna s := some s
  ip_address s := if s = "8.8.8.8" then some ⟨4, 134744072, false, false, true, false⟩ else none
  quote s := s
  urlsplit s :=
    if s = "/v1/next" then some ⟨"", "", "/v1/next", "", none, none, none, some none⟩
    else some ⟨"https", "lookup.example", "/v1/next", "", none, none, some "lookup.example", some none⟩
  urljoin _ location := some ("https://lookup.example" ++ location)
  inflate _ _ _ := none
  strict_json _ := none
  sha256 _ := ""
  number _ := ""

lemma redirect_year : 1 ≤ 2026 ∧ 2026 ≤ 9999 := by decide

lemma redirect_bounds : 1 ≤ 1 ∧ 1 ≤ 12 := by decide

/-- Every answer is a redirect. -/
def redirectingWorld : World where
  clock _ := 0
  now _ := ⟨2026, 1, 1, 0, 0, 0, 0, redirect_year, redirect_bounds, by decide, by decide⟩
  resolve _ := .answers (some [some "8.8.8.8"])
  connect _ := .channel (some "8.8.8.8")
  exchange _ := .response ⟨302, [("location", "/v1/next")], []⟩
  credential _ := none
  uuid4 _ := "correlation"

def redirectingAdapter : Adapter := ⟨plainLibraries, redirectingWorld, LOCAL_TEST_PROFILE, []⟩

/-- Three hops are taken, and no fourth. -/
theorem lookup_safe_redirecting : SafeRun redirectingAdapter redirectingPolicy
    ⟨"HOSTNAME", "shop.example"⟩ (0 + 10)
    (redirectingAdapter.noted_lookup redirectingPolicy ⟨"HOSTNAME", "shop.example"⟩ 0) ∧
    (redirectingAdapter.noted_lookup redirectingPolicy ⟨"HOSTNAME", "shop.example"⟩ 0).2.2.countP
      (Event.isHopOf 1) = 3 := by
  have hloads : load_policy plainLibraries redirectingDocument = some redirectingPolicy := by
    decide +kernel
  exact ⟨(lookup_safe redirectingAdapter hloads
    ⟨"HOSTNAME", "shop.example"⟩ 0).2, by decide +kernel⟩

end Sample

end TrustLens.Backend.Egress
