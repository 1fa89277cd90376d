import Mathlib.Data.List.Pairwise
import TrustLens.Backend.SignInStores

/-!
# Safety of the sign-in boundary

What holds in every state that the boundary reaches, whatever requests are served side by side and
however their operations interleave: a browser is given a session only for a person the provider
authenticated to the transaction of that browser, a transaction serves one sign-in, and every session
that is kept is answered for by the audit.
-/

namespace TrustLens.Backend.SignIn

open Sessions (Transaction Session TransactionLimits SessionLimits isToken)

variable {lib : Libraries} {settings : AuthSettings} {digest : String → String} {tl : TransactionLimits}
  {sl : SessionLimits} {p : Pool Shared Request Op Op.Answer Fault Unit}
  {before after : List (ℕ × Entry)} {i : ℕ} {e : Entry}

/-! ### A sample run -/

def sampleMetadata : Json := .obj [("issuer", .str "https://idp"),
  ("authorization_endpoint", .str "https://idp/auth"), ("token_endpoint", .str "https://idp/token"),
  ("jwks_uri", .str "https://idp/jwks"), ("end_session_endpoint", .str "https://idp/logout"),
  ("code_challenge_methods_supported", .arr [.str "S256"])]

def sampleClaims : Json := .obj [("iss", .str "https://idp"), ("sub", .str "subject-1"),
  ("aud", .str "trustlens"), ("exp", .int 600), ("iat", .int 5), ("nonce", .str "nonce-1")]

def sampleTokens : Json :=
  .obj [("id_token", .str "header.claims.signature"), ("token_type", .str "Bearer")]

def sampleSet : Json := .obj [("keys", .arr [.obj [("kty", .str "RSA"), ("kid", .str "k1")]])]

/-- The documents of the provider, as it sends them. -/
def sampleDocuments : List (String × Json) :=
  [("\x7b\"issuer\":\"https://idp\",\"authorization_endpoint\":\"https://idp/auth\"," ++
      "\"token_endpoint\":\"https://idp/token\",\"jwks_uri\":\"https://idp/jwks\"," ++
      "\"end_session_endpoint\":\"https://idp/logout\"," ++
      "\"code_challenge_methods_supported\":[\"S256\"]\x7d",
    sampleMetadata),
   ("\x7b\"id_token\":\"header.claims.signature\",\"token_type\":\"Bearer\"\x7d", sampleTokens),
   ("\x7b\"keys\":[\x7b\"kty\":\"RSA\",\"kid\":\"k1\"\x7d]\x7d", sampleSet)]

def sampleBody (doc : ℕ) : HttpAnswer :=
  .response 200 ((sampleDocuments[doc]?.map Prod.fst).getD "").toUTF8

def sampleKey : Jwk := ⟨.str "k1", .null, "k1"⟩

/-- Libraries as they behave on the values of the sample. -/
def sampleLibraries : Libraries where
  loads body :=
    match sampleDocuments.find? fun doc => decide (doc.1.toUTF8.data.toList = body.data.toList) with
    | some doc => .ok doc.2
    | none => .error .ValueError
  origin url := some (String.ofList (url.toList.take 11))
  urlencode params := "&".intercalate (params.map fun param => param.1 ++ "=" ++ param.2)
  quote text := text
  pkce_challenge _ := "E9Melhoa2OwvFrEMTJguCHaoeK1t8URWbuGJSstw-cM"
  lower text := String.ofList (text.toList.map Char.toLower)
  isprintable text := text.toList.all fun c => decide (32 ≤ c.toNat) && decide (c.toNat < 127)
  get_unverified_header _ := .ok (.obj [("alg", .str "RS256"), ("kid", .str "k1")])
  from_dict _ := .ok [sampleKey]
  decode _ _ _ _ _ _ := .ok sampleClaims

def sampleSettings : AuthSettings where
  issuer := "https://idp"
  client_id := "trustlens"
  client_secret := "secret"
  redirect_uri := "https://app/auth/callback"
  app_origin := "https://app"
  secure_cookies := true

def samplePresented : Presented := ⟨[("code", "code-1"), ("state", "state-1")], none, some "binding-1"⟩

def sampleCredentials : Credentials :=
  ⟨some "https://app", some "same-origin", some "csrf-1", some "session-1"⟩

def sampleRow : PrincipalRow := ⟨"p1", "HUMAN", ["USER"]⟩

/-- A login; its callback, which is presented twice; a change in the session that was issued. -/
def sampleActions : List (PoolAction Request Choice) :=
  [.start .login, .step 0 (.drawn Sessions.sampleFresh 0), .step 0 .nothing,
   .step 0 (.answer (sampleBody 0)), .step 0 .nothing, .step 0 .nothing,
   .start samplePresented.request, .start samplePresented.request,
   .step 1 (.now 5), .step 2 (.now 5), .step 1 .nothing, .step 2 (.recorded true), .step 2 .nothing,
   .step 1 .nothing, .step 1 (.answer (sampleBody 1)), .step 1 (.now 5), .step 1 .nothing, .step 1 .nothing,
   .step 1 (.answer (sampleBody 2)), .step 1 .nothing, .step 1 (.now 5), .step 1 (.now 5),
   .step 1 (.principal (.row (some sampleRow))), .step 1 (.session "session-1" "csrf-1" 6),
   .step 1 (.recorded true), .step 1 .nothing,
   .start (.changing sampleCredentials "CREATE_CASE"), .step 3 (.now 7), .step 3 (.now 7),
   .step 3 (.principal (.row (some sampleRow))), .step 3 .nothing]

def sampleSystem :=
  boundary sampleLibraries sampleSettings Sessions.sampleDigest ⟨600, 10⟩ ⟨3600, 28800, 10⟩

/-- The thread and the response of an entry of a log. -/
def answeredAt (log : List (ℕ × Entry)) (n : ℕ) : Option (ℕ × Response) :=
  log[n]?.bind fun x => match x.2 with
    | ⟨.respond response, _⟩ => some (x.1, response)
    | _ => none

lemma eq_append_of_answeredAt {log : List (ℕ × Entry)} {n i : ℕ} {response : Response}
    (h : answeredAt log n = some (i, response)) :
    log = log.take n ++ (i, ⟨.respond response, ()⟩) :: log.drop (n + 1) := by
  obtain ⟨⟨j, e⟩, hget, heq⟩ := Option.bind_eq_some_iff.mp h
  obtain ⟨hn, hget⟩ := List.getElem?_eq_some_iff.mp hget
  split at heq
  next sent answer he =>
    cases heq
    obtain rfl : e = ⟨.respond response, answer⟩ := he
    have hrest := List.drop_eq_getElem_cons hn
    rw [hget] at hrest
    exact (List.take_append_drop n log).symm.trans (congrArg (log.take n ++ ·) hrest)
  · cases heq

def sampleSession : Session := ⟨"p1", "csrf-1", 6, 7, "header.claims.signature", none⟩

/-- What the sample run comes to. -/
def sampleOutcome (p : Pool Shared Request Op Op.Answer Fault Unit) : Bool :=
  decide (p.threads.map Prod.fst = [.login, samplePresented.request, samplePresented.request,
    .changing sampleCredentials "CREATE_CASE"]) &&
  decide (begunStates p.log = ["state-1"]) &&
  decide (answeredAt p.log 9 = some (2, _back_to_app sampleSettings (some "failed"))) &&
  decide (answeredAt p.log 22 = some (1, signed_in sampleSettings "session-1")) &&
  decide (answeredAt p.log 26 = some (3, ⟨200, none, [], [], []⟩)) &&
  decide (p.shared.sessions.get? (Sessions.sampleDigest "session-1") = some sampleSession)

lemma sampleOutcome_of_run :
    (sampleSystem.exec sampleSystem.init sampleActions).any sampleOutcome = true := by
  decide +kernel

/-- The state that the sample run reaches. -/
lemma exists_sampleState : ∃ p, sampleSystem.Reachable System.anyStep p ∧
    p.threads.map Prod.fst = [.login, samplePresented.request, samplePresented.request,
      .changing sampleCredentials "CREATE_CASE"] ∧ begunStates p.log = ["state-1"] ∧
    answeredAt p.log 9 = some (2, _back_to_app sampleSettings (some "failed")) ∧
    answeredAt p.log 22 = some (1, signed_in sampleSettings "session-1") ∧
    answeredAt p.log 26 = some (3, ⟨200, none, [], [], []⟩) ∧
    p.shared.sessions.get? (Sessions.sampleDigest "session-1") = some sampleSession := by
  obtain ⟨p, hexec, houtcome⟩ := (Option.any_eq_true _ _).mp sampleOutcome_of_run
  simp only [sampleOutcome, Bool.and_eq_true, decide_eq_true_eq] at houtcome
  obtain ⟨⟨⟨⟨⟨hthreads, hstates⟩, hrejected⟩, hsigned⟩, hchanged⟩, hsession⟩ := houtcome
  exact ⟨p, System.steps_of_exec (fun _ _ _ => trivial) hexec, hthreads, hstates, hrejected, hsigned,
    hchanged, hsession⟩

lemma exists_thread {requests : List Request} {request : Request}
    (h : p.threads.map Prod.fst = requests) (hget : requests[i]? = some request) :
    ∃ rest, p.threads[i]? = some (request, rest) := by
  rw [← h, List.getElem?_map] at hget
  obtain ⟨⟨_, rest⟩, hthread, rfl⟩ := Option.map_eq_some_iff.mp hget
  exact ⟨rest, hthread⟩

/-! ### Threads and their operations -/

section

variable (h : (boundary lib settings digest tl sl).Reachable System.anyStep p)

include h

lemma kept_protocol : Kept (Permitted lib settings) (fun _ _ past => Settled past) (fun _ _ _ => False) p :=
  kept_of_reachable (fun _ => does_serve) h

/-- An operation that was performed was permitted, and answered by the state it was performed in. -/
lemma performed_at (hlog : p.log = before ++ (i, e) :: after) :
    (∃ request t, p.threads[i]? = some (request, t) ∧ Permitted lib settings request (ownLog i before) e) ∧
      ∃ s s', Answered .empty (act digest tl sl) before s ∧ Acts digest tl sl s e s' := by
  refine ⟨(kept_protocol h).entries before i e after hlog, ?_⟩
  have hanswered := answered_of_reachable h
  rw [hlog] at hanswered
  obtain ⟨s, choice, s', hbefore, hact⟩ := hanswered.split
  exact ⟨s, s', hbefore, acts_of_act hact⟩

lemma performed_of_mem (hlog : p.log = before ++ after) (hmem : (i, e) ∈ before) :
    ∃ past later, before = past ++ (i, e) :: later ∧
      (∃ request t, p.threads[i]? = some (request, t) ∧ Permitted lib settings request (ownLog i past) e) ∧
      ∃ s s', Answered .empty (act digest tl sl) past s ∧ Acts digest tl sl s e s' := by
  obtain ⟨past, later, rfl⟩ := List.append_of_mem hmem
  rw [List.append_assoc, List.cons_append] at hlog
  exact ⟨past, later, rfl, performed_at h hlog⟩

end

/-! ### What the provider published -/

/-- Metadata that the issuer published, with its endpoints on the origin of the issuer. -/
structure PublishedDoc (lib : Libraries) (settings : AuthSettings) (log : List (ℕ × Entry)) (doc : Json) :
    Prop where
  fetched : ∃ i body,
    (i, (⟨.request ⟨"GET", metadata_url settings, none, []⟩, .response 200 body⟩ : Entry)) ∈ log ∧
    _read lib body = .ok doc
  issuer : doc.get "issuer" = .str settings.issuer
  endpoints : ∀ key ∈ ["authorization_endpoint", "token_endpoint", "jwks_uri", "end_session_endpoint"],
    ∃ url origin, doc.get key = .str url ∧ lib.origin url = some origin ∧
      lib.origin settings.issuer = some origin

lemma PublishedDoc.mono {log log' : List (ℕ × Entry)} {doc : Json}
    (h : PublishedDoc lib settings log doc) (hsub : log ⊆ log') : PublishedDoc lib settings log' doc := by
  obtain ⟨⟨i, body, hmem, hread⟩, hissuer, hendpoints⟩ := h
  exact ⟨⟨i, body, hsub hmem, hread⟩, hissuer, hendpoints⟩

/-- Keys that the issuer published where its metadata says. -/
def PublishedKeys (lib : Libraries) (settings : AuthSettings) (log : List (ℕ × Entry)) (keys : List Jwk) :
    Prop :=
  ∃ doc, PublishedDoc lib settings log doc ∧ ∃ i body set,
    (i, (⟨.request ⟨"GET", endpoint doc "jwks_uri", none, []⟩, .response 200 body⟩ : Entry)) ∈ log ∧
    _read lib body = .ok set ∧ lib.from_dict set = .ok keys

lemma accepted_keys_eq_ok {set : Json} {keys : List Jwk} (h : accepted_keys lib 200 (some set) = .ok keys) :
    lib.from_dict set = .ok keys := by
  unfold accepted_keys at h
  rw [if_neg fun hne => hne rfl] at h
  split at h
  next hset =>
    cases h
    exact hset
  · cases h
  · cases h

lemma check_endpoint_eq_ok {issuer_origin : String} {value : Json}
    (h : check_endpoint lib issuer_origin value = .ok ()) :
    ∃ url, value = .str url ∧ lib.origin url = some issuer_origin := by
  unfold check_endpoint at h
  split at h
  next url =>
    split at h
    · cases h
    next origin horigin =>
      split_ifs at h with heq
      exact ⟨url, rfl, heq ▸ horigin⟩
  · cases h

lemma accepted_metadata_origin {doc : Json} (h : accepted_metadata lib settings 200 (some doc) = .ok doc) :
    doc.get "issuer" = .str settings.issuer ∧
      ∀ key ∈ ["authorization_endpoint", "token_endpoint", "jwks_uri", "end_session_endpoint"],
        ∃ url origin, doc.get key = .str url ∧ lib.origin url = some origin ∧
          lib.origin settings.issuer = some origin := by
  unfold accepted_metadata at h
  dsimp only at h
  split_ifs at h with hchecks
  push Not at hchecks
  cases horigin : lib.origin settings.issuer with
  | none => rw [horigin] at h; cases h
  | some issuer_origin =>
    rw [horigin] at h
    obtain ⟨_, hendpoints, -⟩ := bind_ok h
    refine ⟨hchecks.2, fun key hkey => ?_⟩
    obtain ⟨url, hurl, hsame⟩ := check_endpoint_eq_ok (ok_of_forM hendpoints key hkey)
    exact ⟨url, issuer_origin, hurl, hsame, rfl⟩

section

variable (h : (boundary lib settings digest tl sl).Reachable System.anyStep p)

include h

lemma published_doc (hlog : p.log = before ++ after) {doc : Json} (hdoc : GivenDoc (ownLog i before) doc) :
    PublishedDoc lib settings before doc := by
  -- whoever was given the document, a thread stored it
  obtain ⟨j, hj⟩ : ∃ j, (j, (⟨.write_metadata doc, ()⟩ : Entry)) ∈ before := by
    rcases hdoc with hread | hwritten
    · obtain ⟨past, later, rfl, -, s, s', hpast, hacts⟩ := performed_of_mem h hlog (mem_ownLog.mp hread)
      obtain ⟨j, hj⟩ := metadata_of_answered hpast hacts.of_read_metadata
      exact ⟨j, List.mem_append_left _ hj⟩
    · exact ⟨i, mem_ownLog.mp hwritten⟩
  obtain ⟨past, later, rfl, ⟨request, t, -, hpermitted⟩, -⟩ := performed_of_mem h hlog hj
  obtain ⟨⟨body, hmem, hread⟩, haccepted⟩ := hpermitted.of_write_metadata
  obtain ⟨hissuer, hendpoints⟩ := accepted_metadata_origin haccepted
  exact ⟨⟨j, body, List.mem_append_left _ (mem_ownLog.mp hmem), hread⟩, hissuer, hendpoints⟩

lemma published_keys (hlog : p.log = before ++ after) {keys : List Jwk}
    (hkeys : GivenKeys (ownLog i before) keys) : PublishedKeys lib settings before keys := by
  obtain ⟨j, now, hj⟩ : ∃ j now, (j, (⟨.write_jwks keys now, ()⟩ : Entry)) ∈ before := by
    rcases hkeys with ⟨refresh, now, hread⟩ | ⟨now, hwritten⟩
    · obtain ⟨past, later, rfl, -, s, s', hpast, hacts⟩ := performed_of_mem h hlog (mem_ownLog.mp hread)
      obtain ⟨fetched, hcached⟩ := hacts.of_read_jwks
      obtain ⟨j, now, hj⟩ := jwks_of_answered hpast hcached
      exact ⟨j, now, List.mem_append_left _ hj⟩
    · exact ⟨i, now, mem_ownLog.mp hwritten⟩
  obtain ⟨past, later, rfl, ⟨request, t, -, hpermitted⟩, -⟩ := performed_of_mem h hlog hj
  obtain ⟨doc, set, hdoc, ⟨body, hmem, hread⟩, haccepted⟩ := hpermitted.of_write_jwks
  rw [List.append_assoc, List.cons_append] at hlog
  refine ⟨doc, (published_doc h hlog hdoc).mono (List.subset_append_left _ _), j, body, set,
    List.mem_append_left _ (mem_ownLog.mp hmem), hread, ?_⟩
  exact accepted_keys_eq_ok haccepted

/-! ### Authentication -/

/-- A transaction that a thread was handed was begun by a login, whose browser presents what binds it. -/
lemma begun_of_consumed (hdigest : Function.Injective digest) (hlog : p.log = before ++ after)
    {state : String} {binding : Option String} {tx : Transaction}
    (hmem : (i, (⟨.consume state binding, some tx⟩ : Entry)) ∈ before) :
    tx.state = state ∧ ∃ j presented t, (j, (⟨.begin_login, some (tx, presented)⟩ : Entry)) ∈ before ∧
      binding = some presented ∧ p.threads[j]? = some (.login, t) := by
  obtain ⟨past, later, rfl, -, s, s', hpast, hacts⟩ := performed_of_mem h hlog hmem
  obtain ⟨hget, presented, rfl, hpresented⟩ := hacts.of_consume
  obtain ⟨hstate, earlier, ⟨j, e⟩, rest, hearlier, ⟨begun, he, hbegun⟩, -⟩ :=
    begun_of_answered hdigest hpast hget
  obtain rfl : e = ⟨.begin_login, some (tx, begun)⟩ := he
  obtain rfl : begun = presented := hdigest (hbegun.symm.trans hpresented)
  have hj : (j, (⟨.begin_login, some (tx, begun)⟩ : Entry)) ∈ past := by
    rw [hearlier]
    exact List.mem_append_right _ List.mem_cons_self
  refine ⟨hstate, j, begun, ?_⟩
  rw [List.append_assoc] at hlog
  obtain ⟨_, _, -, ⟨request, t, ht, hpermitted⟩, -⟩ := performed_of_mem h hlog hj
  obtain rfl := hpermitted.of_begin_login
  exact ⟨t, List.mem_append_left _ hj, rfl, ht⟩

/-- What a session that was created goes back to: a login of the same browser, a code redeemed with the
verifier of its transaction, a token for its nonce under the published keys, and a person in a role. -/
structure SignedIn (lib : Libraries) (settings : AuthSettings)
    (p : Pool Shared Request Op Op.Answer Fault Unit) (log : List (ℕ × Entry)) (i : ℕ) (c : Presented)
    (t : Trail) : Prop where
  callback : ∃ rest, p.threads[i]? = some (c.request, rest)
  authenticated : t.Authenticates lib settings c (ownLog i log)
  metadata : PublishedDoc lib settings log t.doc
  keys : PublishedKeys lib settings log t.keys
  login : t.tx.state = t.state ∧ ∃ j binding rest,
    (j, (⟨.begin_login, some (t.tx, binding)⟩ : Entry)) ∈ log ∧ c.binding = some binding ∧
    p.threads[j]? = some (.login, rest)

lemma signedIn_of_authenticates (hdigest : Function.Injective digest) (hlog : p.log = before ++ after)
    {c : Presented} {t : Trail} {rest : Handler Unit} (hthread : p.threads[i]? = some (c.request, rest))
    (ht : t.Authenticates lib settings c (ownLog i before)) : SignedIn lib settings p before i c t where
  callback := ⟨rest, hthread⟩
  authenticated := ht
  metadata := published_doc h hlog ht.doc
  keys := published_keys h hlog ht.keys
  login := begun_of_consumed h hdigest hlog (mem_ownLog.mp (ht.performed.subset List.mem_cons_self))

end

/-- A browser is given a session only at the end of a callback that authenticated a person to the
transaction of that browser, and that recorded the sign-in. -/
theorem sessions_authenticated (hdigest : Function.Injective digest)
    (h : (boundary lib settings digest tl sl).Reachable System.anyStep p) {response : Response}
    {session_id : String} (hlog : p.log = before ++ (i, ⟨.respond response, ()⟩) :: after)
    (hcookie : (session_cookie settings, session_id) ∈ response.set_cookies) :
    ∃ (c : Presented) (t : Trail), SignedIn lib settings p before i c t ∧
      [t.consumed c, t.redeemed lib settings, t.found, t.created c session_id, t.audited].Sublist
        (ownLog i before) ∧
      succeeded_event t.principal.principal_reference_id ∈ p.shared.audit := by
  obtain ⟨request, rest, hthread, hpermitted⟩ := (kept_protocol h).entries before i _ after hlog
  obtain ⟨c, t, rfl, ht, hperformed⟩ := hpermitted.of_cookie hcookie
  refine ⟨c, t, signedIn_of_authenticates h hdigest hlog hthread ht, hperformed, ?_⟩
  rw [audit_of_answered (answered_of_reachable h)]
  refine ⟨i, ?_⟩
  rw [hlog]
  exact List.mem_append_left _ (mem_ownLog.mp (hperformed.subset (by simp [Trail.audited])))

/-- The callback of the sample is answered with a session of the person it authenticated. -/
theorem sessions_authenticated_sample : ∃ (p : Pool Shared Request Op Op.Answer Fault Unit)
    (before after : List (ℕ × Entry)) (c : Presented) (t : Trail),
    p.log = before ++ (1, ⟨.respond (signed_in sampleSettings "session-1"), ()⟩) :: after ∧
    SignedIn sampleLibraries sampleSettings p before 1 c t ∧
    [t.consumed c, t.redeemed sampleLibraries sampleSettings, t.found, t.created c "session-1",
      t.audited].Sublist (ownLog 1 before) := by
  obtain ⟨p, hreachable, -, -, -, hsigned, -, -⟩ := exists_sampleState
  have hlog := eq_append_of_answeredAt hsigned
  obtain ⟨c, t, hsignedIn, hperformed, -⟩ := sessions_authenticated Sessions.sampleDigest_injective
    hreachable hlog (List.mem_singleton_self _)
  exact ⟨p, _, _, c, t, hlog, hsignedIn, hperformed⟩

/-! ### A transaction serves one sign-in -/

/-- Of two that do not both happen, the later has only others before it. -/
lemma pairwise_of_later {α : Type} {P : α → Prop} {log : List α}
    (h : ∀ before y after, log = before ++ y :: after → P y → ∀ x ∈ before, ¬P x) :
    log.Pairwise fun x y => ¬(P x ∧ P y) := by
  rw [List.pairwise_iff_forall_sublist]
  rintro x y hsub ⟨hx, hy⟩
  obtain ⟨before, after, rfl, hbefore, hafter⟩ := List.append_sublist_iff.mp
    (show ([x] ++ [y]).Sublist log from hsub)
  obtain ⟨between, rest, rfl⟩ := List.append_of_mem (List.singleton_sublist.mp hafter)
  exact h (before ++ between) y rest (by rw [List.append_assoc]) hy x
    (List.mem_append_left _ (List.singleton_sublist.mp hbefore)) hx

/-- A callback presents the state. -/
def PresentsState (p : Pool Shared Request Op Op.Answer Fault Unit) (state : String) (i : ℕ) : Prop :=
  ∃ (c : Presented) (params : List (String × String)) (rest : Handler Unit),
    p.threads[i]? = some (c.request, rest) ∧ _callback_parameters c.items = some params ∧
    parameter params "state" = some state

/-- A code was redeemed for a callback that presents the state. -/
def RedeemsFor (p : Pool Shared Request Op Op.Answer Fault Unit) (state : String) (x : ℕ × Entry) : Prop :=
  x.2.op.Redeems ∧ PresentsState p state x.1

/-- The creation of a session was tried for a callback that presents the state. -/
def CreatesFor (p : Pool Shared Request Op Op.Answer Fault Unit) (state : String) (x : ℕ × Entry) : Prop :=
  x.2.op.Creates ∧ PresentsState p state x.1

section

variable (h : (boundary lib settings digest tl sl).Reachable System.anyStep p)

include h

/-- The transaction that an entry consumes was begun before it, and not consumed since. -/
lemma begun_before (hdigest : Function.Injective digest) {state : String} {y : ℕ × Entry}
    (hlog : p.log = before ++ y :: after) (hy : Consumes state y) :
    ∃ past j binding later, ∃ tx : Transaction,
      before = past ++ (j, ⟨.begin_login, some (tx, binding)⟩) :: later ∧ tx.state = state ∧
      ∀ x ∈ later, ¬Consumes state x := by
  obtain ⟨k, e⟩ := y
  obtain ⟨binding, tx, rfl⟩ : ∃ binding tx, e = ⟨.consume state binding, some tx⟩ := hy
  obtain ⟨-, s, s', hbefore, hacts⟩ := performed_at h hlog
  obtain ⟨hstate, past, ⟨j, e⟩, later, rfl, ⟨presented, he, -⟩, hlater⟩ :=
    begun_of_answered hdigest hbefore hacts.of_consume.1
  obtain rfl : e = ⟨.begin_login, some (tx, presented)⟩ := he
  exact ⟨past, j, presented, later, tx, rfl, hstate, hlater⟩

/-- The transaction of a state is handed to one callback. -/
lemma consumed_once (hdigest : Function.Injective digest) (hfresh : (begunStates p.log).Nodup)
    (state : String) : p.log.Pairwise fun x y => ¬(Consumes state x ∧ Consumes state y) := by
  refine pairwise_of_later fun before y after hlog hy x hx hconsumes => ?_
  obtain ⟨past, j, binding, later, tx, rfl, hstate, hlater⟩ := begun_before h hdigest hlog hy
  -- what was consumed before was begun before that, a second time
  have hpast : x ∈ past := by
    rcases List.mem_append.mp hx with hx | hx
    · exact hx
    · rcases List.mem_cons.mp hx with rfl | hx
      · obtain ⟨_, _, heq⟩ := hconsumes
        cases heq
      · exact absurd hconsumes (hlater x hx)
  obtain ⟨first, rest, rfl⟩ := List.append_of_mem hpast
  have hlog' : p.log =
      first ++ x :: (rest ++ (j, ⟨.begin_login, some (tx, binding)⟩) :: later ++ y :: after) := by
    rw [hlog]
    simp only [List.append_assoc, List.cons_append]
  obtain ⟨past', j', binding', later', tx', rfl, hstate', -⟩ := begun_before h hdigest hlog' hconsumes
  rw [hlog, begunStates, List.append_assoc, List.filterMap_append] at hfresh
  have hfirst : (j', (⟨.begin_login, some (tx', binding')⟩ : Entry)) ∈
      past' ++ (j', ⟨.begin_login, some (tx', binding')⟩) :: later' ++ x :: rest :=
    List.mem_append_left _ (List.mem_append_right _ List.mem_cons_self)
  have hsecond : (j, (⟨.begin_login, some (tx, binding)⟩ : Entry)) ∈
      (j, ⟨.begin_login, some (tx, binding)⟩) :: later ++ y :: after := List.mem_cons_self
  exact (List.nodup_append.mp hfresh).2.2 state (hstate' ▸ mem_begunStates hfirst) state
    (hstate ▸ mem_begunStates hsecond) rfl

end

/-- A callback that is bound consumed the transaction of the state it presents. -/
lemma consumes_of_bound {state : String} {c : Presented} {params : List (String × String)}
    {tx : Transaction} {rest : Handler Unit} (hlog : p.log = before ++ after)
    (hthread : p.threads[i]? = some (c.request, rest)) (hbound : Bound c params tx (ownLog i before))
    (hstate : PresentsState p state i) : ∃ e, Consumes state (i, e) ∧ (i, e) ∈ p.log := by
  obtain ⟨c', params', rest', hthread', hparams, hstate⟩ := hstate
  obtain ⟨consumed, hconsumed, hhead⟩ := hbound.consumed
  have hsame := (Prod.mk.inj (Option.some.inj (hthread.symm.trans hthread'))).1
  obtain ⟨hitems, -, -⟩ := Request.callback.inj hsame
  rw [← hitems, hbound.parameters] at hparams
  cases hparams
  obtain rfl : consumed = state := Option.some.inj (hconsumed.symm.trans hstate)
  refine ⟨_, ⟨c.binding, tx, rfl⟩, ?_⟩
  rw [hlog]
  exact List.mem_append_left _ (mem_ownLog.mp (List.mem_of_head? hhead))

/-- Of the operations of one kind that callbacks perform for a state, each after its own transaction and
once, one is performed at all. -/
lemma pairwise_of_bound (h : (boundary lib settings digest tl sl).Reachable System.anyStep p)
    (hdigest : Function.Injective digest) (hfresh : (begunStates p.log).Nodup) {state : String}
    {K : Op → Prop} (hpermitted : ∀ request past e, Permitted lib settings request past e → K e.op →
      ∃ (c : Presented) (params : List (String × String)) (tx : Transaction), request = c.request ∧
        Bound c params tx past ∧ ∀ e ∈ past, ¬K e.op) :
    p.log.Pairwise fun x y => ¬((K x.2.op ∧ PresentsState p state x.1) ∧
      K y.2.op ∧ PresentsState p state y.1) := by
  have honce := consumed_once h hdigest hfresh state
  have hbound : ∀ {before x after}, p.log = before ++ x :: after → K x.2.op → PresentsState p state x.1 →
      (∃ e, Consumes state (x.1, e) ∧ (x.1, e) ∈ p.log) ∧ ∀ e ∈ ownLog x.1 before, ¬K e.op := by
    rintro before ⟨i, e⟩ after hlog hK hstate
    obtain ⟨⟨request, rest, hthread, hallowed⟩, -⟩ := performed_at h hlog
    obtain ⟨c, params, tx, rfl, hbound, hfirst⟩ := hpermitted _ _ _ hallowed hK
    exact ⟨consumes_of_bound hlog hthread hbound hstate, hfirst⟩
  refine pairwise_of_later fun before y after hlog hy x hx hxs => ?_
  obtain ⟨⟨ey, hcy, hmemy⟩, hfirst⟩ := hbound hlog hy.1 hy.2
  obtain ⟨past, later, rfl⟩ := List.append_of_mem hx
  rw [List.append_assoc, List.cons_append] at hlog
  obtain ⟨⟨ex, hcx, hmemx⟩, -⟩ := hbound hlog hxs.1 hxs.2
  by_cases hthread : x.1 = y.1
  · refine hfirst x.2 (mem_ownLog.mpr ?_) hxs.1
    rw [← hthread]
    exact List.mem_append_right _ List.mem_cons_self
  · have hsymm : Std.Symm fun x y : ℕ × Entry => ¬(Consumes state x ∧ Consumes state y) :=
      ⟨fun _ _ hab hba => hab hba.symm⟩
    exact honce.forall hmemx hmemy (fun heq => hthread (Prod.mk.inj heq).1) ⟨hcx, hcy⟩

/-- A transaction is handed to one callback, and serves one redemption of a code and one session. -/
theorem transactions_serve_once (hdigest : Function.Injective digest)
    (h : (boundary lib settings digest tl sl).Reachable System.anyStep p)
    (hfresh : (begunStates p.log).Nodup) (state : String) :
    (p.log.Pairwise fun x y => ¬(Consumes state x ∧ Consumes state y)) ∧
      (p.log.Pairwise fun x y => ¬(RedeemsFor p state x ∧ RedeemsFor p state y)) ∧
      p.log.Pairwise fun x y => ¬(CreatesFor p state x ∧ CreatesFor p state y) := by
  refine ⟨consumed_once h hdigest hfresh state, ?_, ?_⟩
  · exact pairwise_of_bound h hdigest hfresh fun _ _ _ hpermitted hredeems => hpermitted.of_redeems hredeems
  · exact pairwise_of_bound h hdigest hfresh fun _ _ _ hpermitted hcreates => hpermitted.of_creates hcreates

/-- The state of the sample is presented by two callbacks, and serves one of them. -/
theorem transactions_serve_once_sample : ∃ p : Pool Shared Request Op Op.Answer Fault Unit,
    begunStates p.log = ["state-1"] ∧
    p.threads.map Prod.fst = [.login, samplePresented.request, samplePresented.request,
      .changing sampleCredentials "CREATE_CASE"] ∧
    p.log.Pairwise fun x y => ¬(CreatesFor p "state-1" x ∧ CreatesFor p "state-1" y) := by
  obtain ⟨p, hreachable, hthreads, hstates, -⟩ := exists_sampleState
  obtain ⟨-, -, hcreates⟩ := transactions_serve_once Sessions.sampleDigest_injective hreachable
    (by rw [hstates]; exact List.nodup_singleton _) "state-1"
  exact ⟨p, hstates, hthreads, hcreates⟩

/-! ### Every session is answered for -/

section

variable (h : (boundary lib settings digest tl sl).Reachable System.anyStep p)

include h

/-- A session that is kept after some operations was created by a callback that signed in, and was not
ended since. -/
lemma signedIn_of_kept (hdigest : Function.Injective digest) (hlog : p.log = before ++ after) {s : Shared}
    (hbefore : Answered .empty (act digest tl sl) before s) {session_id : String} {kept : Session}
    (hid : isToken session_id = true) (hget : s.sessions.get? (digest session_id) = some kept) :
    ∃ past j later c t, before = past ++ (j, t.created c session_id) :: later ∧
      SignedIn lib settings p past j c t ∧
      kept.principal_reference_id = t.principal.principal_reference_id ∧
      (∀ y ∈ later, ¬EndsSession session_id kept.principal_reference_id y) ∧
      ∀ e ∈ ownLog j past, ¬e.op.Creates := by
  obtain ⟨past, ⟨j, e⟩, later, rfl, ⟨id_token, refresh_token, replaces, he⟩, hlater⟩ :=
    created_of_answered hdigest hbefore hid hget
  rw [List.append_assoc, List.cons_append] at hlog
  obtain ⟨⟨request, rest, hthread, hpermitted⟩, -⟩ := performed_at h hlog
  obtain rfl :
      e = ⟨.create kept.principal_reference_id id_token refresh_token replaces, some session_id⟩ := he
  obtain ⟨c, t, rfl, ht, hcalm, hprincipal, rfl, rfl, rfl⟩ := hpermitted.of_create
  refine ⟨past, j, later, c, t, ?_, signedIn_of_authenticates h hdigest hlog hthread ht, hprincipal, hlater,
    hcalm⟩
  rw [Trail.created, ← hprincipal]

end

lemma mem_of_pair_sublist {α : Type} {a b : α} {before after : List α}
    (h : [a, b].Sublist (before ++ a :: after)) (ha : a ∉ before) : b ∈ after := by
  obtain ⟨first, second, heq, hfirst, hsecond⟩ := List.sublist_append_iff.mp h
  cases first with
  | nil =>
    obtain rfl : second = [a, b] := heq.symm
    exact List.singleton_sublist.mp (List.cons_sublist_cons.mp hsecond)
  | cons x first =>
    obtain rfl : a = x := (List.cons.inj heq).1
    exact absurd (hfirst.subset List.mem_cons_self) ha

/-- Every session that is kept was created by a callback that authenticated its principal and was not
ended since; when the callback is over, its sign-in is on the audit. -/
theorem kept_sessions_audited (hdigest : Function.Injective digest)
    (h : (boundary lib settings digest tl sl).Reachable System.anyStep p) {session_id : String}
    {kept : Session} (hid : isToken session_id = true)
    (hget : p.shared.sessions.get? (digest session_id) = some kept) :
    ∃ past j later c t, p.log = past ++ (j, t.created c session_id) :: later ∧
      SignedIn lib settings p past j c t ∧
      kept.principal_reference_id = t.principal.principal_reference_id ∧
      (∀ y ∈ later, ¬EndsSession session_id kept.principal_reference_id y) ∧
      ∀ request result, p.threads[j]? = some (request, .ended result) →
        (j, t.audited) ∈ later ∧ succeeded_event kept.principal_reference_id ∈ p.shared.audit := by
  have hanswered := answered_of_reachable h
  obtain ⟨past, j, later, c, t, hlog, hsigned, hprincipal, hlater, hcalm⟩ :=
    signedIn_of_kept h hdigest (List.append_nil _).symm hanswered hid hget
  refine ⟨past, j, later, c, t, hlog, hsigned, hprincipal, hlater, fun request result hthread => ?_⟩
  -- a thread that is over settled what it created
  have hover := (kept_protocol h).threads j request _ hthread
  cases result with
  | error fault => exact False.elim hover
  | ok _ =>
    have hsettled : Settled (ownLog j p.log) := hover
    have hown : ownLog j p.log = ownLog j past ++ t.created c session_id :: ownLog j later := by
      rw [hlog, List.append_cons, ownLog_append, ownLog_append, ownLog_self, List.append_assoc]
      rfl
    rw [hown] at hsettled
    have hfirst : t.created c session_id ∉ ownLog j past := fun hmem => hcalm _ hmem trivial
    rcases hsettled _ _ _ _ _ (List.mem_append_right _ List.mem_cons_self) with hrecord | ⟨answer, hended⟩
    · have hmem := mem_ownLog.mp (mem_of_pair_sublist hrecord hfirst)
      refine ⟨hmem, ?_⟩
      rw [audit_of_answered hanswered, hprincipal, hlog]
      exact ⟨j, List.mem_append_right _ (List.mem_cons_of_mem _ hmem)⟩
    · exact absurd rfl (hlater _ (mem_ownLog.mp (mem_of_pair_sublist hended hfirst)))

/-- The session of the sample goes back to a callback that signed in. -/
theorem kept_sessions_audited_sample : ∃ (p : Pool Shared Request Op Op.Answer Fault Unit)
    (past : List (ℕ × Entry)) (j : ℕ) (later : List (ℕ × Entry)) (c : Presented) (t : Trail),
    p.log = past ++ (j, t.created c "session-1") :: later ∧
    SignedIn sampleLibraries sampleSettings p past j c t ∧ t.principal.principal_reference_id = "p1" := by
  obtain ⟨p, hreachable, -, -, -, -, -, hsession⟩ := exists_sampleState
  obtain ⟨past, j, later, c, t, hlog, hsigned, hprincipal, -⟩ := kept_sessions_audited
    Sessions.sampleDigest_injective hreachable (by decide) hsession
  exact ⟨p, past, j, later, c, t, hlog, hsigned, hprincipal.symm⟩

/-! ### Requests of a session -/

/-- A session that a thread read: it was created by a sign-in, and nothing had ended it by then. -/
def LiveRead (lib : Libraries) (settings : AuthSettings) (p : Pool Shared Request Op Op.Answer Fault Unit)
    (log : List (ℕ × Entry)) (i : ℕ) (presented : Option String) (s : Session) : Prop :=
  ∃ (session_id : String) (past : List (ℕ × Entry)) (j : ℕ) (later rest : List (ℕ × Entry)) (c : Presented)
    (t : Trail), presented = some session_id ∧
    log = past ++ (j, t.created c session_id) :: later ++ (i, ⟨.get presented, some s⟩) :: rest ∧
    SignedIn lib settings p past j c t ∧ s.principal_reference_id = t.principal.principal_reference_id ∧
    ∀ y ∈ later, ¬EndsSession session_id s.principal_reference_id y

/-- The request came from the application, with the token of a session that was live when it was read. -/
def GuardedBy (lib : Libraries) (settings : AuthSettings) (p : Pool Shared Request Op Op.Answer Fault Unit)
    (log : List (ℕ × Entry)) (i : ℕ) (credentials : Credentials) : Prop :=
  trusted_origin settings credentials = true ∧ ∃ s : Session,
    LiveRead lib settings p log i credentials.session s ∧ credentials.csrf_header = some s.csrf_token

/-- The request is for the person of a session that was live when it was read, and whose roles were read
for this request. -/
def ActsFor (lib : Libraries) (settings : AuthSettings) (p : Pool Shared Request Op Op.Answer Fault Unit)
    (log : List (ℕ × Entry)) (i : ℕ) (session : Option String) : Prop :=
  ∃ (s : Session) (row : PrincipalRow), LiveRead lib settings p log i session s ∧
    (i, (⟨.query (.id s.principal_reference_id), .row (some row)⟩ : Entry)) ∈ log ∧
    (principal_of row).isSome = true

section

variable (h : (boundary lib settings digest tl sl).Reachable System.anyStep p)

include h

lemma liveRead_of_mem (hdigest : Function.Injective digest) (hlog : p.log = before ++ after)
    {presented : Option String} {s : Session}
    (hmem : (⟨.get presented, some s⟩ : Entry) ∈ ownLog i before) :
    LiveRead lib settings p before i presented s := by
  obtain ⟨earlier, rest, rfl, -, shared, shared', hearlier, hacts⟩ :=
    performed_of_mem h hlog (mem_ownLog.mp hmem)
  obtain ⟨session_id, kept, rfl, hid, hget, hprincipal⟩ := hacts.of_get
  rw [List.append_assoc] at hlog
  obtain ⟨past, j, later, c, t, rfl, hsigned, hcreated, hlater, -⟩ :=
    signedIn_of_kept h hdigest hlog hearlier hid hget
  exact ⟨session_id, past, j, later, rest, c, t, rfl, rfl, hsigned, hprincipal ▸ hcreated,
    hprincipal ▸ hlater⟩

lemma guardedBy_of_guarded (hdigest : Function.Injective digest) (hlog : p.log = before ++ after)
    {credentials : Credentials} (hguarded : Guarded settings credentials (ownLog i before)) :
    GuardedBy lib settings p before i credentials := by
  obtain ⟨horigin, s, hget, htoken⟩ := hguarded
  exact ⟨horigin, s, liveRead_of_mem h hdigest hlog hget, htoken⟩

lemma actsFor_of_acting (hdigest : Function.Injective digest) (hlog : p.log = before ++ after)
    {session : Option String} {principal : Principal}
    (hacting : Acting session principal (ownLog i before)) : ActsFor lib settings p before i session := by
  obtain ⟨s, row, hget, hquery, hprincipal⟩ := hacting
  exact ⟨s, row, liveRead_of_mem h hdigest hlog hget, mem_ownLog.mp hquery, hprincipal ▸ rfl⟩

end

/-- A state-changing request is carried out, and a logout ends a session, only with the token of a live
session and from the application; what is answered of a person is for the person of a live session. -/
theorem requests_guarded (hdigest : Function.Injective digest)
    (h : (boundary lib settings digest tl sl).Reachable System.anyStep p) {rest : Handler Unit} :
    (∀ credentials operation response, p.threads[i]? = some (.changing credentials operation, rest) →
      p.log = before ++ (i, ⟨.respond response, ()⟩) :: after → response.status = 200 →
      GuardedBy lib settings p before i credentials ∧ ActsFor lib settings p before i credentials.session) ∧
    (∀ credentials session ended, p.threads[i]? = some (.logout credentials, rest) →
      p.log = before ++ (i, ⟨.invalidate session, ended⟩) :: after →
      session = credentials.session ∧ GuardedBy lib settings p before i credentials) ∧
    ∀ session response, p.threads[i]? = some (.get_me session, rest) →
      p.log = before ++ (i, ⟨.respond response, ()⟩) :: after → response.status = 200 →
      ActsFor lib settings p before i session := by
  -- the request of a thread, and what it was permitted
  have hpermitted : ∀ {request e}, p.threads[i]? = some (request, rest) →
      p.log = before ++ (i, e) :: after → Permitted lib settings request (ownLog i before) e := by
    intro request e hthread hlog
    obtain ⟨request', rest', hthread', hpermitted⟩ := (kept_protocol h).entries before i e after hlog
    cases hthread.symm.trans hthread'
    exact hpermitted
  refine ⟨fun credentials operation response hthread hlog hstatus => ?_,
    fun credentials session ended hthread hlog => ?_, fun session response hthread hlog hstatus => ?_⟩
  · obtain ⟨hguarded, principal, hacting⟩ := (hpermitted hthread hlog).of_change hstatus
    exact ⟨guardedBy_of_guarded h hdigest hlog hguarded, actsFor_of_acting h hdigest hlog hacting⟩
  · obtain ⟨rfl, hguarded⟩ := (hpermitted hthread hlog).of_logout
    exact ⟨rfl, guardedBy_of_guarded h hdigest hlog hguarded⟩
  · obtain ⟨principal, hacting⟩ := (hpermitted hthread hlog).of_tell hstatus
    exact actsFor_of_acting h hdigest hlog hacting

/-- The change of the sample is carried out under the guard. -/
theorem requests_guarded_sample : ∃ (p : Pool Shared Request Op Op.Answer Fault Unit)
    (before : List (ℕ × Entry)), GuardedBy sampleLibraries sampleSettings p before 3 sampleCredentials ∧
    ActsFor sampleLibraries sampleSettings p before 3 (some "session-1") := by
  obtain ⟨p, hreachable, hthreads, -, -, -, hchanged, -⟩ := exists_sampleState
  obtain ⟨rest, hthread⟩ := exists_thread (i := 3) hthreads rfl
  obtain ⟨hguarded, hacts⟩ := (requests_guarded Sessions.sampleDigest_injective hreachable).1 _ _ _ hthread
    (eq_append_of_answeredAt hchanged) rfl
  exact ⟨p, _, hguarded, hacts⟩

/-! ### Callbacks -/

/-- A callback that is not bound to a sign-in of its browser touches nothing. -/
lemma untouched (h : (boundary lib settings digest tl sl).Reachable System.anyStep p) {c : Presented}
    {rest : Handler Unit} (hthread : p.threads[i]? = some (c.request, rest))
    (hlog : p.log = before ++ after) (hbound : ∀ params tx, ¬Bound c params tx (ownLog i before)) (hmem : (i, e) ∈ before) :
    ¬e.op.Touches := by
  intro htouches
  -- an operation of the callback that comes after its transaction
  have hno : ∀ {e past later}, before = past ++ (i, e) :: later →
      ∀ params tx, ¬Bound c params tx (ownLog i past) := by
    rintro e past later rfl params tx hpast
    refine hbound params tx (hpast.mono ?_)
    rw [ownLog_append]
    exact List.prefix_append _ _
  have hpermitted : ∀ {e}, (i, e) ∈ before → ∃ past later, before = past ++ (i, e) :: later ∧
      Permitted lib settings c.request (ownLog i past) e := by
    intro e hmem
    obtain ⟨past, later, heq, ⟨request, rest', hthread', hpermitted⟩, -⟩ := performed_of_mem h hlog hmem
    cases hthread.symm.trans hthread'
    exact ⟨past, later, heq, hpermitted⟩
  obtain ⟨past, later, heq, hallowed⟩ := hpermitted hmem
  rcases hallowed.of_touches htouches with ⟨params, tx, hpast⟩ | ⟨created, hcreated, hcreates⟩
  · exact hno heq params tx hpast
  · have hbefore : (i, created) ∈ before := by
      rw [heq]
      exact List.mem_append_left _ (mem_ownLog.mp hcreated)
    obtain ⟨past', later', heq', hallowed'⟩ := hpermitted hbefore
    obtain ⟨c', params, tx, hrequest, hpast, -⟩ := hallowed'.of_creates hcreates
    obtain rfl := Presented.request_injective hrequest
    exact hno heq' params tx hpast

/-- A callback is answered with a session that it issued; or, bound to a sign-in that failed, after it
ended the session its browser presented and all it created; or it leaves every cookie, and unless an
exception escaped it, it touched no session, no principal and no code. -/
theorem callbacks_answered (h : (boundary lib settings digest tl sl).Reachable System.anyStep p)
    {c : Presented} {rest : Handler Unit} {response : Response}
    (hthread : p.threads[i]? = some (c.request, rest))
    (hlog : p.log = before ++ (i, ⟨.respond response, ()⟩) :: after) :
    (∃ t session_id, response = signed_in settings session_id ∧
      Issued lib settings c t session_id (ownLog i before)) ∨
    (∃ outcome ended, response = signed_out settings outcome ∧
      (i, (⟨.invalidate c.session, ended⟩ : Entry)) ∈ before ∧ Settled (ownLog i before)) ∨
    (response.set_cookies = [] ∧ response.clear_cookies = []) ∧
      (response = server_error ∨ ∀ e, (i, e) ∈ before → ¬e.op.Touches) := by
  obtain ⟨request, rest', hthread', hpermitted⟩ := (kept_protocol h).entries before i _ after hlog
  cases hthread.symm.trans hthread'
  rcases hpermitted.of_answer with hissued | ⟨outcome, params, tx, ended, heq, -, hsettled, hended⟩ |
      ⟨rfl, hbound⟩ | rfl
  · exact .inl hissued
  · exact .inr (.inl ⟨outcome, ended, heq, mem_ownLog.mp hended, hsettled⟩)
  · exact .inr (.inr ⟨⟨rfl, rfl⟩, .inr fun e hmem => untouched h hthread hlog hbound hmem⟩)
  · exact .inr (.inr ⟨⟨rfl, rfl⟩, .inl rfl⟩)

/-- The callback of the sample that comes second touches nothing. -/
theorem callbacks_answered_sample : ∃ (p : Pool Shared Request Op Op.Answer Fault Unit)
    (before after : List (ℕ × Entry)),
    p.log = before ++ (2, ⟨.respond (_back_to_app sampleSettings (some "failed")), ()⟩) :: after ∧
    ∀ e, (2, e) ∈ before → ¬e.op.Touches := by
  obtain ⟨p, hreachable, hthreads, -, hrejected, -⟩ := exists_sampleState
  obtain ⟨rest, hthread⟩ := exists_thread (i := 2) hthreads rfl
  have hlog := eq_append_of_answeredAt hrejected
  refine ⟨p, _, _, hlog, ?_⟩
  rcases callbacks_answered hreachable hthread hlog with ⟨_, _, hresponse, -⟩ | ⟨_, _, hresponse, -⟩ |
      ⟨-, hresponse | huntouched⟩
  · cases congrArg (·.set_cookies) hresponse
  · cases congrArg (·.clear_cookies) hresponse
  · exact absurd (congrArg (·.status) hresponse) (by decide)
  · exact huntouched

end TrustLens.Backend.SignIn
