import TrustLens.Backend.EgressSafety

/-!
# What a lookup raises

Where the resolver, the network and the canonical forms raise nothing of their own, a lookup returns a
result unless the provider redirects it to a location that cannot be split.
-/

namespace TrustLens.Backend.Egress

open Ai (canonicalJson)
open Logged (Emits EmitsUnless lift emits_lift)

/-- A location that is refused as it is written -/
def refusedOutright (location : String) : Bool :=
  location.isEmpty || location.toList.any (fun c => Adapter.breaksHeader (String.ofList [c]) ||
    c == '\\' || c == '%' || c == ';')

/-- The location is split, and the location it is joined to is too. -/
structure Adapter.Splits (adapter : Adapter) (policy : ProviderPolicy) (host target location : String) :
    Prop where
  alone : ∃ split, adapter.lib.urlsplit location = some split
  joined : ∀ split, adapter.lib.urlsplit location = some split →
    Adapter._canonical_path split.path true = true →
      ∃ parts, (adapter.lib.urljoin ("https://" ++ Adapter.hostHeader policy host ++ target)
        location).bind adapter.lib.urlsplit = some parts

/-- A redirect is to a location that is refused as it is written, or to one that is split. -/
def Event.Splits (adapter : Adapter) (policy : ProviderPolicy) : Event → Prop
  | .redirected host target location => ∀ l ∈ location, refusedOutright l = false →
      adapter.Splits policy host target l
  | _ => True

/-- The outside raises nothing of its own. -/
structure World.Calm (world : World) : Prop where
  resolve : ∀ k, world.resolve k ≠ .raised
  connect : ∀ k, world.connect k ≠ .raised
  exchange : ∀ k, world.exchange k ≠ .raised

/-- What is sent and what is recorded has a canonical form. -/
structure Indicator.Canonical (adapter : Adapter) (policy : ProviderPolicy) (indicator : Indicator) :
    Prop where
  ref : (indicator.ref adapter.lib).isSome = true
  body : policy.method ≠ "GET" → (canonicalJson adapter.lib.number (.obj (Json.upsert "indicator_type"
    (.str indicator.indicator_type) [(policy.indicator_parameter, .str indicator.value)]))).isSome = true

/-- A refusal of a known category -/
def Refusal : Raised → Prop
  | .refused category _ => (FAILURES.lookup category).isSome = true
  | .escaped => False

section

open Program

variable {α β : Type} {P : α → Prop} {Q : β → Prop}

/-- A program that only refuses -/
def Refuses (x : Run α) : Prop := Post x (fun _ => True) Refusal

lemma refuses_refuse {category response_category : String}
    (hcategory : (FAILURES.lookup category).isSome = true) :
    Refuses (refuse category response_category : Run α) := Post.throw hcategory

lemma refuses_pure (a : α) : Refuses (pure a) := Post.pure trivial

lemma refuses_ask (answers : ℕ → α) : Refuses (ask answers) := Post.ask fun _ => trivial

lemma Refuses.bind {x : Run α} {f : α → Run β} (hx : Refuses x) (hf : ∀ a, Refuses (f a)) :
    Refuses (x >>= f) := Post.bind hx fun a _ => hf a

variable (adapter : Adapter) {policy : ProviderPolicy} {indicator : Indicator} {deadline : ℚ}
  {attempts : ℕ}

lemma refuses_remaining : Refuses (adapter._remaining deadline) := by
  unfold Adapter._remaining Adapter.clock
  refine (refuses_ask _).bind fun t => ?_
  split_ifs
  · exact refuses_refuse rfl
  · exact refuses_pure ()

lemma refuses_failed {category : String} (hcategory : (FAILURES.lookup category).isSome = true)
    (response_category : String) (responded_at : Option Py.DateTime) :
    Post (_failed category response_category attempts responded_at) (fun _ => True) fun _ => False := by
  unfold _failed
  cases hlookup : FAILURES.lookup category with
  | none =>
    rw [hlookup] at hcategory
    cases hcategory
  | some f => exact Post.pure trivial

lemma refuses_settled {category : String} (hcategory : (FAILURES.lookup category).isSome = true)
    (response_category : String) :
    Post (adapter.settled category response_category attempts) (fun _ => True) fun _ => False := by
  unfold Adapter.settled
  split_ifs
  · exact refuses_failed hcategory _ _
  · exact Post.bind (Post.ask fun _ => trivial) fun now (_ : True) => refuses_failed hcategory _ _

lemma refuses_decode_body (lib : Libraries) (limits : Limits) (response : TransportResponse) :
    Refuses (_decode_body lib limits response) := by
  unfold _decode_body
  dsimp only
  split_ifs
  · exact refuses_refuse rfl
  · exact refuses_refuse rfl
  · exact refuses_pure _
  · split
    · exact refuses_refuse rfl
    · split_ifs
      · exact refuses_refuse rfl
      · exact refuses_refuse rfl
      · exact refuses_pure _
  · exact refuses_refuse rfl

lemma refuses_accept (hpolicy : policy.Governed adapter.lib) (hindicator : indicator.Canonical adapter policy)
    (response : TransportResponse) :
    Refuses (adapter.accept policy indicator deadline attempts response) := by
  obtain ⟨digest, hdigest⟩ := Option.isSome_iff_exists.mp hpolicy.digest
  obtain ⟨ref, href⟩ := Option.isSome_iff_exists.mp hindicator.ref
  unfold Adapter.accept
  dsimp only
  split_ifs
  · exact refuses_refuse rfl
  · exact refuses_refuse rfl
  · exact refuses_refuse rfl
  · exact refuses_refuse rfl
  · exact refuses_refuse rfl
  · refine (refuses_decode_body _ _ _).bind fun data => (refuses_remaining adapter).bind fun _ => ?_
    cases adapter.lib.strict_json data with
    | none => exact refuses_refuse rfl
    | some document =>
      refine (refuses_ask _).bind fun now => ?_
      cases parse document policy indicator now with
      | none => exact refuses_refuse rfl
      | some normalized =>
        refine (refuses_remaining adapter).bind fun _ => (refuses_ask _).bind fun responded_at => ?_
        rw [hdigest, href]
        exact refuses_pure _

lemma refuses_prepare (hindicator : indicator.Canonical adapter policy) :
    Refuses (adapter._prepare policy indicator) := by
  have hbody : Refuses (adapter.requestBody policy indicator) := by
    unfold Adapter.requestBody
    split_ifs with hget
    · exact refuses_pure _
    · obtain ⟨text, htext⟩ := Option.isSome_iff_exists.mp (hindicator.body hget)
      rw [htext]
      exact refuses_pure _
  have hauthentication : Refuses (adapter.authentication policy) := by
    unfold Adapter.authentication
    cases policy.credential with
    | none => exact refuses_pure _
    | some credential =>
      refine (refuses_ask _).bind fun value => ?_
      cases value with
      | none => exact refuses_refuse rfl
      | some value =>
        dsimp only
        split_ifs
        · exact refuses_refuse rfl
        · exact refuses_pure _
  unfold Adapter._prepare
  split_ifs
  · exact refuses_refuse rfl
  · exact refuses_refuse rfl
  · exact refuses_refuse rfl
  · cases canonical_host adapter.lib policy.host with
    | none => exact refuses_refuse rfl
    | some host =>
      refine hbody.bind fun body => (refuses_ask _).bind fun correlation => ?_
      refine hauthentication.bind fun authenticated => ?_
      dsimp only
      split_ifs
      · exact refuses_refuse rfl
      · exact refuses_pure _

/-! ### Redirects -/

lemma refuses_redirect_target {host target : String} {location : Option String}
    (hsplits : (Event.redirected host target location).Splits adapter policy) :
    Refuses (adapter._redirect_target policy host target location) := by
  unfold Adapter._redirect_target
  cases location with
  | none => exact refuses_refuse rfl
  | some location =>
    dsimp only
    split_ifs with hunsafe
    · exact refuses_refuse rfl
    · obtain ⟨⟨split, hsplit⟩, hjoined⟩ := hsplits location rfl (Bool.eq_false_iff.mpr hunsafe)
      rw [hsplit]
      dsimp only
      split_ifs with hpath
      · exact refuses_refuse rfl
      · rw [Bool.not_eq_true', Bool.not_eq_false] at hpath
        obtain ⟨parts, hparts⟩ := hjoined split hsplit hpath
        rw [hparts]
        dsimp only
        cases parts.port with
        | none => exact refuses_refuse rfl
        | some port =>
          cases canonical_host adapter.lib (parts.hostname.getD "") with
          | none => exact refuses_refuse rfl
          | some next_host =>
            dsimp only
            split_ifs
            · exact refuses_refuse rfl
            · exact refuses_pure _
            · exact refuses_pure _

/-- A location that cannot be split is raised over. -/
lemma redirect_target_escapes {host target : String} {location : Option String}
    (hsplits : ¬(Event.redirected host target location).Splits adapter policy) :
    adapter._redirect_target policy host target location = throw .escaped := by
  simp only [Event.Splits, not_forall] at hsplits
  obtain ⟨l, hl, hsafe, hnot⟩ := hsplits
  obtain rfl : location = some l := hl
  unfold Adapter._redirect_target
  dsimp only
  rw [refusedOutright] at hsafe
  rw [if_neg (Bool.eq_false_iff.mp hsafe)]
  cases hsplit : adapter.lib.urlsplit l with
  | none => rfl
  | some split =>
    dsimp only
    by_cases hpath : Adapter._canonical_path split.path true = true
    · rw [if_neg (by simp [hpath])]
      cases hparts : (adapter.lib.urljoin ("https://" ++ Adapter.hostHeader policy host ++ target)
          l).bind adapter.lib.urlsplit with
      | none => rfl
      | some parts =>
        refine absurd ⟨⟨split, hsplit⟩, fun split' _ _ => ⟨parts, hparts⟩⟩ hnot
    · refine absurd ⟨⟨split, hsplit⟩, fun split' hsplit' hpath' => ?_⟩ hnot
      rw [hsplit] at hsplit'
      cases hsplit'
      exact absurd hpath' hpath

/-! ### What is raised -/

section

variable (hworld : adapter.world.Calm)
include hworld

lemma post_noted_resolve {C : Event → Prop} : Logged.Post C
    (adapter.noted_resolve_validated deadline) (fun _ _ => True) Refusal := by
  unfold Adapter.noted_resolve_validated
  refine (Logged.Post.lift (refuses_remaining adapter)).bind fun _ _ _ => ?_
  refine Logged.Post.asked.bind fun resolved _ hresolved => ?_
  obtain ⟨k, rfl⟩ := hresolved
  cases hk : adapter.world.resolve k with
  | error => exact Logged.Post.raise rfl
  | raised => exact absurd hk (hworld.resolve k)
  | answers addresses =>
    refine (Logged.Post.lift (refuses_remaining adapter)).bind fun _ _ _ => ?_
    cases addresses with
    | none => exact Logged.Post.raise rfl
    | some addresses =>
      cases addresses with
      | nil => exact Logged.Post.raise rfl
      | cons first rest =>
        dsimp only
        cases (first :: rest).mapM id with
        | none => exact Logged.Post.raise rfl
        | some texts =>
          dsimp only
          split_ifs
          · exact Logged.Post.pure fun _ => trivial
          · exact Logged.Post.raise rfl

lemma post_noted_exchange {C : Event → Prop} (host target : String) : Logged.Post C
    (adapter.noted_exchange policy deadline host target) (fun _ _ => True) Refusal := by
  unfold Adapter.noted_exchange
  refine (post_noted_resolve adapter hworld).bind fun found _ _ => ?_
  refine (Logged.Post.lift (refuses_remaining adapter)).bind fun _ _ _ => ?_
  refine Logged.Post.asked.bind fun connected _ hconnected => ?_
  obtain ⟨k, rfl⟩ := hconnected
  cases hk : adapter.world.connect k with
  | error kind => exact Logged.Post.raise (transportFailure_known kind)
  | raised => exact absurd hk (hworld.connect k)
  | channel peer =>
    dsimp only
    split_ifs
    · exact Logged.Post.raise rfl
    · refine (Logged.Post.lift (refuses_remaining adapter)).bind fun _ _ _ => ?_
      refine Logged.Post.say_bind fun _ => Logged.Post.asked.bind fun exchanged _ hexchanged => ?_
      obtain ⟨k', rfl⟩ := hexchanged
      cases hk' : adapter.world.exchange k' with
      | error kind => exact Logged.Post.raise (transportFailure_known kind)
      | raised => exact absurd hk' (hworld.exchange k')
      | response response =>
        exact (Logged.Post.lift (refuses_remaining adapter)).bind fun _ _ _ =>
          Logged.Post.pure fun _ => trivial

variable (hpolicy : policy.Governed adapter.lib) (hindicator : indicator.Canonical adapter policy)
include hpolicy hindicator

/-- By the hops that may still follow. -/
lemma refuses_attempt (hops : ℕ) (host target : String) : Logged.Post (Event.Splits adapter policy)
    (adapter.noted_attempt policy indicator deadline attempts hops host target)
    (fun _ _ => True) Refusal := by
  induction hops generalizing host target with
  | zero =>
    unfold Adapter.noted_attempt
    refine Logged.Post.say_bind fun _ => (post_noted_exchange adapter hworld _ _).bind fun response _ _ => ?_
    dsimp only
    split_ifs
    · exact Logged.Post.raise rfl
    · exact Logged.Post.lift (refuses_accept adapter hpolicy hindicator response)
  | succ hops ih =>
    unfold Adapter.noted_attempt
    refine Logged.Post.say_bind fun _ => (post_noted_exchange adapter hworld _ _).bind fun response _ _ => ?_
    dsimp only
    split_ifs
    · exact Logged.Post.raise rfl
    · refine Logged.Post.say_bind fun hsplits => ?_
      exact (Logged.Post.lift (refuses_redirect_target adapter hsplits)).bind fun next _ _ =>
        ih next.1 next.2
    · exact Logged.Post.lift (refuses_accept adapter hpolicy hindicator response)

lemma refuses_once (request : OutgoingRequest) : Logged.Post (Event.Splits adapter policy)
    (adapter.noted_once policy indicator request deadline attempts) (fun _ _ => True) Refusal := by
  unfold Adapter.noted_once
  refine Logged.Post.say_bind fun _ => (Logged.Post.lift (refuses_ask _)).bind fun t _ _ => ?_
  split_ifs
  · exact Logged.Post.raise rfl
  · exact refuses_attempt adapter hworld hpolicy hindicator _ _ _

end

/-- A refusal is answered with a result, or tried again. -/
lemma returns_recover {C : Event → Prop} {again : Option (Adapter.Noted LookupResult)}
    (hagain : ∀ x ∈ again, Logged.Post C x (fun _ _ => True) fun _ => False) {raised : Raised}
    (hraised : Refusal raised) : Logged.Post C
      (adapter.noted_recover policy deadline attempts again raised) (fun _ _ => True) fun _ => False := by
  unfold Adapter.noted_recover
  cases raised with
  | escaped => exact hraised.elim
  | refused category response_category =>
    have hsettled : Logged.Post C (Logged.lift (adapter.settled category response_category attempts))
        (fun _ _ => True) fun _ => False :=
      Logged.Post.lift (refuses_settled adapter hraised response_category)
    dsimp only
    cases hlookup : FAILURES.lookup category with
    | none => exact absurd (hraised.symm.trans (congrArg Option.isSome hlookup)) (by decide)
    | some failure =>
      cases again with
      | none => exact hsettled
      | some again =>
        dsimp only
        split_ifs
        · refine (Logged.Post.lift (Post.ask fun _ => trivial)).bind fun t _ (_ : True) => ?_
          split_ifs
          · exact Logged.Post.lift (refuses_failed hraised _ _)
          · exact Logged.Post.say_bind fun _ => hagain _ rfl
        · exact hsettled

/-- By the attempts that may still follow. -/
lemma returns_attempting (hworld : adapter.world.Calm) (hpolicy : policy.Governed adapter.lib)
    (hindicator : indicator.Canonical adapter policy) (request : OutgoingRequest) (left : ℕ) :
    Logged.Post (Event.Splits adapter policy)
      (adapter.noted_attempting policy indicator request deadline left attempts)
      (fun _ _ => True) fun _ => False := by
  induction left generalizing attempts with
  | zero =>
    refine (refuses_once adapter hworld hpolicy hindicator request).tryCatch fun raised hraised =>
      returns_recover adapter (fun x hx => ?_) hraised
    cases hx
  | succ left ih =>
    refine (refuses_once adapter hworld hpolicy hindicator request).tryCatch fun raised hraised =>
      returns_recover adapter (fun x hx => ?_) hraised
    cases hx
    exact ih

lemma returns_until (hworld : adapter.world.Calm) (hpolicy : policy.Governed adapter.lib)
    (hindicator : indicator.Canonical adapter policy) : Logged.Post (Event.Splits adapter policy)
      (adapter.noted_until policy indicator deadline) (fun _ _ => True) fun _ => False := by
  unfold Adapter.noted_until
  refine Logged.Post.bind (P := fun prepared _ => ∀ failure, prepared = .error failure →
    (FAILURES.lookup failure.1).isSome = true) (Logged.Post.lift
      (Post.tryCatch (R := Refusal) ?_ fun raised hraised => ?_)) fun prepared _ hfailure => ?_
  · exact Post.bind (refuses_prepare adapter hindicator) fun request _ =>
      Post.pure fun failure h => by cases h
  · cases raised with
    | escaped => exact hraised.elim
    | refused category response_category =>
      refine Post.pure fun failure heq => ?_
      cases heq
      exact hraised
  cases prepared with
  | error failure => exact Logged.Post.lift (refuses_failed (hfailure failure rfl) _ _)
  | ok request => exact returns_attempting adapter hworld hpolicy hindicator request _

/-! ### What is written down -/

/-- Entries of other kinds split. -/
lemma splits_exchange (host target : String) : Emits
    (adapter.noted_exchange policy deadline host target) (Event.Splits adapter policy) := by
  unfold Adapter.noted_exchange
  refine (emits_resolve_validated adapter).bind Logged.Post.any fun found _ _ => ?_
  refine Emits.lift_bind fun _ => Emits.lift_bind fun connected => ?_
  cases connected with
  | error kind => exact emits_lift _
  | raised => exact emits_lift _
  | channel peer =>
    dsimp only
    split_ifs
    · exact emits_lift _
    · refine Emits.lift_bind fun _ => Emits.say_bind trivial (Emits.lift_bind fun exchanged => ?_)
      cases exchanged with
      | error kind => exact emits_lift _
      | raised => exact emits_lift _
      | response response => exact Emits.lift_bind fun _ => Logged.emits_pure _

/-- By the hops that may still follow. -/
lemma splits_attempt (hops : ℕ) (host target : String) : EmitsUnless .escaped
    (adapter.noted_attempt policy indicator deadline attempts hops host target)
    (Event.Splits adapter policy) := by
  induction hops generalizing host target with
  | zero =>
    unfold Adapter.noted_attempt
    refine EmitsUnless.say_bind (fun h => (h trivial).elim) ?_
    refine (splits_exchange adapter host target).unless.bind fun response => ?_
    dsimp only
    split_ifs <;> exact (emits_lift _).unless
  | succ hops ih =>
    unfold Adapter.noted_attempt
    refine EmitsUnless.say_bind (fun h => (h trivial).elim) ?_
    refine (splits_exchange adapter host target).unless.bind fun response => ?_
    dsimp only
    split_ifs
    · exact (emits_lift _).unless
    · refine EmitsUnless.say_bind (fun hnot n => ?_)
        ((emits_lift _).unless.bind fun next => ih next.1 next.2)
      rw [redirect_target_escapes adapter hnot]
      rfl
    · exact (emits_lift _).unless

lemma splits_once (request : OutgoingRequest) : EmitsUnless .escaped
    (adapter.noted_once policy indicator request deadline attempts)
    (Event.Splits adapter policy) := by
  unfold Adapter.noted_once
  refine EmitsUnless.say_bind (fun h => (h trivial).elim) ((emits_lift _).unless.bind fun t => ?_)
  split_ifs
  · exact (emits_lift _).unless
  · exact splits_attempt adapter _ _ _

lemma splits_recover {again : Option (Adapter.Noted LookupResult)}
    (hagain : ∀ x ∈ again, EmitsUnless .escaped x (Event.Splits adapter policy)) (raised : Raised) :
    EmitsUnless .escaped (adapter.noted_recover policy deadline attempts again raised)
      (Event.Splits adapter policy) := by
  unfold Adapter.noted_recover
  cases raised with
  | escaped => exact (emits_lift _).unless
  | refused category response_category =>
    dsimp only
    cases FAILURES.lookup category with
    | none => exact (emits_lift _).unless
    | some failure =>
      cases again with
      | none => exact (emits_lift _).unless
      | some again =>
        dsimp only
        split_ifs
        · refine (emits_lift _).unless.bind fun t => ?_
          split_ifs
          · exact (emits_lift _).unless
          · exact EmitsUnless.say_bind (fun h => (h trivial).elim) (hagain _ rfl)
        · exact (emits_lift _).unless

/-- By the attempts that may still follow. -/
lemma splits_attempting (request : OutgoingRequest) (left : ℕ) : EmitsUnless .escaped
    (adapter.noted_attempting policy indicator request deadline left attempts)
    (Event.Splits adapter policy) := by
  induction left generalizing attempts with
  | zero =>
    refine (splits_once adapter request).tryCatch (splits_recover adapter fun x hx => ?_) fun n => rfl
    cases hx
  | succ left ih =>
    refine (splits_once adapter request).tryCatch (splits_recover adapter fun x hx => ?_) fun n => rfl
    cases hx
    exact ih

lemma splits_until : EmitsUnless .escaped (adapter.noted_until policy indicator deadline)
    (Event.Splits adapter policy) := by
  unfold Adapter.noted_until
  refine (emits_lift _).unless.bind fun prepared => ?_
  cases prepared with
  | error failure => exact (emits_lift _).unless
  | ok request => exact splits_attempting adapter request _

/-- A lookup returns a result exactly where every redirect it follows is to a location that is refused
as it is written or can be split. -/
theorem lookup_returns_iff {document : Json} (hpolicy : load_policy adapter.lib document = some policy)
    (hworld : adapter.world.Calm) (hindicator : indicator.Canonical adapter policy) (n : ℕ) :
    (∃ result, (adapter.lookup policy indicator n).1 = .ok result) ↔
      ∀ event ∈ (adapter.noted_lookup policy indicator n).2.2, event.Splits adapter policy := by
  have hgoverned := governed_of_load_policy hpolicy
  set deadline := adapter.world.clock n + adapter.limits.overall_deadline
  have hrun : adapter.noted_lookup policy indicator n =
      adapter.noted_until policy indicator deadline (n + 1) := rfl
  have hshows := adapter.shows_lookup policy indicator n
  have hreturns : Logged.Post _ (adapter.noted_until policy indicator deadline) _ _ :=
    returns_until adapter hworld hgoverned hindicator
  have hsplits : EmitsUnless .escaped (adapter.noted_until policy indicator deadline) _ :=
    splits_until adapter
  rw [hrun] at hshows ⊢
  rw [hshows]
  specialize hreturns (n + 1)
  specialize hsplits (n + 1)
  generalize adapter.noted_until policy indicator deadline (n + 1) = run at hreturns hsplits ⊢
  obtain ⟨result, m, log⟩ := run
  cases result with
  | ok result => exact iff_of_true ⟨result, rfl⟩ (hsplits fun h => by cases h)
  | error raised =>
    refine iff_of_false ?_ fun hlog => (hreturns hlog).2 raised rfl
    rintro ⟨result, h⟩
    cases h

end

section Sample

lemma redirecting_calm : redirectingAdapter.world.Calm where
  resolve _ h := by cases h
  connect _ h := by cases h
  exchange _ h := by cases h

/-- The same redirects, to a location that is not split. -/
def bracketAdapter : Adapter :=
  { redirectingAdapter with lib := { plainLibraries with urlsplit := fun _ => none } }

theorem lookup_returns_iff_redirecting :
    ((∃ result, (redirectingAdapter.lookup redirectingPolicy ⟨"HOSTNAME", "shop.example"⟩ 0).1 =
        .ok result) ↔
      ∀ event ∈ (redirectingAdapter.noted_lookup redirectingPolicy
        ⟨"HOSTNAME", "shop.example"⟩ 0).2.2, event.Splits redirectingAdapter redirectingPolicy) ∧
      (bracketAdapter.lookup redirectingPolicy ⟨"HOSTNAME", "shop.example"⟩ 0).1 =
        .error .escaped := by
  have hloads : load_policy plainLibraries redirectingDocument = some redirectingPolicy := by
    decide +kernel
  have hcanonical : Indicator.Canonical redirectingAdapter redirectingPolicy
      ⟨"HOSTNAME", "shop.example"⟩ := ⟨by decide +kernel, fun h => absurd rfl h⟩
  exact ⟨lookup_returns_iff redirectingAdapter hloads redirecting_calm hcanonical 0, by decide +kernel⟩

end Sample

end TrustLens.Backend.Egress
