import TrustLens.Backend.SignIn

/-!
# What the client of the provider does

The client performs only quiet operations by itself: it reads clocks and caches, fetches documents, and
stores what it accepted of a document it had fetched. Claims that it returns were verified with a key
of a set it was given.
-/

namespace TrustLens.Backend.SignIn

open Thread
open Sessions (isToken)

variable (lib : Libraries) (settings : AuthSettings)

/-! ### What is given, and what is fetched -/

/-- Metadata of the provider that the thread read or stored. -/
def GivenDoc (past : List Entry) (doc : Json) : Prop :=
  (⟨.read_metadata, some doc⟩ : Entry) ∈ past ∨ (⟨.write_metadata doc, ()⟩ : Entry) ∈ past

/-- Keys of the provider that the thread read or stored. -/
def GivenKeys (past : List Entry) (keys : List Jwk) : Prop :=
  (∃ refresh now, (⟨.read_jwks refresh now, some keys⟩ : Entry) ∈ past) ∨
    ∃ now, (⟨.write_jwks keys now, ()⟩ : Entry) ∈ past

def metadata_url : String := settings.issuer ++ "/.well-known/openid-configuration"

/-- A document that the thread requested and was answered. -/
def Fetched (past : List Entry) (url : String) (doc : Json) : Prop :=
  ∃ body, (⟨.request ⟨"GET", url, none, []⟩, .response 200 body⟩ : Entry) ∈ past ∧
    _read lib body = .ok doc

/-- What the client of the provider performs by itself. -/
inductive Talks (past : List Entry) : Entry → Prop where
  | time {now : ℚ} : Talks past ⟨.time, now⟩
  | read_metadata {doc : Option Json} : Talks past ⟨.read_metadata, doc⟩
  | read_jwks {refresh : Bool} {now : ℚ} {keys : Option (List Jwk)} :
    Talks past ⟨.read_jwks refresh now, keys⟩
  | fetch {url : String} {answer : HttpAnswer} : Talks past ⟨.request ⟨"GET", url, none, []⟩, answer⟩
  | write_metadata {doc : Json} (hfetched : Fetched lib past (metadata_url settings) doc)
      (haccepted : accepted_metadata lib settings 200 (some doc) = .ok doc) :
    Talks past ⟨.write_metadata doc, ()⟩
  | write_jwks {doc body : Json} {keys : List Jwk} {now : ℚ} (hdoc : GivenDoc past doc)
      (hfetched : Fetched lib past (endpoint doc "jwks_uri") body)
      (haccepted : accepted_keys lib 200 (some body) = .ok keys) :
    Talks past ⟨.write_jwks keys now, ()⟩

/-- An operation of the client of the provider at some time. -/
def Quiet (e : Entry) : Prop := ∃ past, Talks lib settings past e

variable {lib settings} {past past' : List Entry}

lemma GivenDoc.mono {doc : Json} (h : GivenDoc past doc) (hsub : past ⊆ past') : GivenDoc past' doc :=
  h.imp (hsub ·) (hsub ·)

lemma GivenKeys.mono {keys : List Jwk} (h : GivenKeys past keys) (hsub : past ⊆ past') :
    GivenKeys past' keys :=
  h.imp (fun ⟨refresh, now, he⟩ => ⟨refresh, now, hsub he⟩) fun ⟨now, he⟩ => ⟨now, hsub he⟩

section

variable {α β : Type} {G : List Entry → Entry → Prop} {Q : α → List Entry → Prop}
  {R : Fault → List Entry → Prop}

lemma does_lift {x : Except Fault α} (hok : ∀ a, x = .ok a → Q a past)
    (herror : ∀ fault, x = .error fault → R fault past) : Does G Q R (lift x) past := by
  cases x with
  | ok a => exact hok a rfl
  | error fault => exact herror fault rfl

/-- A value or an exception, and what follows the value. -/
lemma does_lift_bind {x : Except Fault β} {f : β → Handler α}
    (hok : ∀ b, x = .ok b → Does G Q R (f b) past)
    (herror : ∀ fault, x = .error fault → R fault past) : Does G Q R (lift x >>= f) past :=
  Does.bind (does_lift hok herror)

end

/-- What follows an operation of the client. -/
lemma does_talk {α : Type} {op : Op} {f : op.Answer → Handler α} {Q : α → List Entry → Prop}
    {R : Fault → List Entry → Prop} (htalks : ∀ answer, Talks lib settings past ⟨op, answer⟩)
    (h : ∀ answer, Does (Talks lib settings) Q R (f answer) (past ++ [⟨op, answer⟩])) :
    Does (Talks lib settings) Q R (ask op >>= f) past :=
  does_ask_bind fun answer => ⟨htalks answer, h answer⟩

/-! ### Documents -/

/-- What a request returns is read of the response to it. -/
lemma does_request {G : List Entry → Entry → Prop} {request : HttpRequest}
    (hG : ∀ answer, G past ⟨.request request, answer⟩) :
    Does G (fun answered past' => ∃ body,
        past' = past ++ [(⟨.request request, .response answered.1 body⟩ : Entry)] ∧
        (answered.1 = 204 ∨ ∃ doc, _read lib body = .ok doc ∧ answered.2 = some doc))
      (fun _ past' => ∃ answer, past' = past ++ [(⟨.request request, answer⟩ : Entry)])
      (_request lib request) past := by
  refine does_ask_bind fun answer => ⟨hG answer, ?_⟩
  cases answer with
  | failed => exact ⟨.failed, rfl⟩
  | raised => exact ⟨.raised, rfl⟩
  | response status body =>
    dsimp only
    split_ifs with hstatus
    · exact ⟨body, rfl, .inl hstatus⟩
    · exact does_lift_bind (fun doc hdoc => ⟨body, rfl, .inr ⟨doc, hdoc, rfl⟩⟩)
        fun fault _ => ⟨.response status body, rfl⟩

lemma accepted_metadata_eq_ok {status : ℤ} {doc : Option Json} {accepted : Json}
    (h : accepted_metadata lib settings status doc = .ok accepted) :
    status = 200 ∧ doc = some accepted := by
  unfold accepted_metadata at h
  cases doc with
  | none => cases h
  | some doc =>
    dsimp only at h
    split_ifs at h with hchecks
    push Not at hchecks
    cases horigin : lib.origin settings.issuer with
    | none => rw [horigin] at h; cases h
    | some issuer_origin =>
      rw [horigin] at h
      obtain ⟨-, -, h⟩ := bind_ok h
      split at h
      · cases h
      · cases h
      · exact ⟨hchecks.1, congrArg some (Except.ok.inj h)⟩

lemma accepted_keys_status {status : ℤ} {doc : Option Json} {keys : List Jwk}
    (h : accepted_keys lib status doc = .ok keys) : status = 200 := by
  unfold accepted_keys at h
  split_ifs at h with hstatus
  exact of_not_not hstatus

lemma does_metadata : Does (Talks lib settings) (fun doc past' => GivenDoc past' doc)
    (fun _ _ => True) (metadata lib settings) past := by
  refine does_talk (fun _ => .read_metadata) fun cached => ?_
  cases cached with
  | some doc => exact .inl (List.mem_append_right _ (List.mem_singleton_self _))
  | none =>
    refine (does_request fun _ => .fetch).then ?_ fun _ _ _ => trivial
    rintro ⟨status, answered⟩ _ ⟨body, rfl, hread⟩
    refine does_lift_bind (fun doc hdoc => ?_) fun _ _ => trivial
    obtain ⟨rfl, rfl⟩ := accepted_metadata_eq_ok hdoc
    obtain h204 | ⟨doc', hread, heq⟩ := hread
    · cases h204
    · cases heq
      refine does_talk (fun _ => .write_metadata
        ⟨body, List.mem_append_right _ (List.mem_singleton_self _), hread⟩ hdoc) fun _ => ?_
      exact .inr (List.mem_append_right _ (List.mem_singleton_self _))

/-- The keys that are returned were read or stored. -/
lemma does_keys {refresh : Bool} : Does (Talks lib settings) (fun keys past' => GivenKeys past' keys)
    (fun _ _ => True) (_keys lib settings refresh) past := by
  refine does_talk (fun _ => .time) fun now => ?_
  refine does_talk (fun _ => .read_jwks) fun cached => ?_
  cases cached with
  | some keys => exact .inl ⟨refresh, now, List.mem_append_right _ (List.mem_singleton_self _)⟩
  | none =>
    refine does_metadata.then (fun doc past' hdoc => ?_) fun _ _ _ => trivial
    refine (does_request fun _ => .fetch).then ?_ fun _ _ _ => trivial
    rintro ⟨status, answered⟩ _ ⟨body, rfl, hread⟩
    refine does_lift_bind (fun keys hkeys => ?_) fun _ _ => trivial
    obtain rfl := accepted_keys_status hkeys
    obtain h204 | ⟨doc', hread, rfl⟩ := hread
    · cases h204
    · refine does_talk (fun _ => .write_jwks (hdoc.mono (List.subset_append_left _ _))
        ⟨body, List.mem_append_right _ (List.mem_singleton_self _), hread⟩ hkeys) fun _ => ?_
      exact .inr ⟨now, List.mem_append_right _ (List.mem_singleton_self _)⟩

/-! ### Tokens -/

variable (lib settings)

/-- The claims of a token for this client and a nonce, signed with a key of a set. -/
structure Validated (keys : List Jwk) (id_token nonce : String) (claims : Json) : Prop where
  signed : ∃ algorithm kid key now, algorithm ∈ ALLOWED_ID_TOKEN_ALGORITHMS ∧ key ∈ keys ∧
    key.key_id = .str kid ∧ (key.public_key_use = .null ∨ key.public_key_use = .str "sig") ∧
    lib.decode id_token key algorithm settings.client_id settings.issuer now = .ok claims
  nonce : claims.get? "nonce" = some (.str nonce) ∧ isToken nonce = true
  party : claims.get "azp" = .null ∨ claims.get "azp" = .str settings.client_id
  sole_party : ∀ audiences, claims.get? "aud" = some (.arr audiences) → 1 < audiences.length →
    claims.get "azp" = .str settings.client_id
  issued : ∃ iat now, claims.get? "iat" = some iat ∧ exceeds iat (now + CLOCK_LEEWAY_SECONDS) = some false
  subject : ∃ subject, claims.get? "sub" = some (.str subject) ∧ 0 < subject.length ∧
    subject.length ≤ MAX_SUBJECT_LENGTH ∧ lib.isprintable subject = true

variable {lib settings}

lemma accepted_header_eq_ok {id_token algorithm kid : String}
    (h : accepted_header lib id_token = .ok (algorithm, kid)) :
    algorithm ∈ ALLOWED_ID_TOKEN_ALGORITHMS := by
  unfold accepted_header at h
  split at h
  · cases h
  · cases h
  · split at h
    · split_ifs at h with halgorithm
      cases h
      exact halgorithm
    · cases h

lemma signing_key_eq_some {kid : String} {keys : List Jwk} {key : Jwk}
    (h : signing_key kid keys = some key) : key ∈ keys ∧ key.key_id = .str kid ∧
      (key.public_key_use = .null ∨ key.public_key_use = .str "sig") := by
  have hchecks := List.find?_some h
  rw [Bool.and_eq_true, Bool.or_eq_true, beq_iff_eq, beq_iff_eq, beq_iff_eq] at hchecks
  exact ⟨List.mem_of_find?_eq_some h, hchecks⟩

lemma decoded_eq_ok {id_token algorithm : String} {key : Jwk} {now : ℚ} {claims : Json}
    (h : decoded lib settings id_token key algorithm now = .ok claims) :
    lib.decode id_token key algorithm settings.client_id settings.issuer now = .ok claims := by
  unfold decoded at h
  split at h
  next hdecode =>
    cases h
    exact hdecode
  · cases h
  · cases h

lemma claim_eq_ok {claims value : Json} {key : String} (h : claim claims key = .ok value) :
    claims.get? key = some value := by
  unfold claim at h
  split at h
  next hget =>
    cases h
    exact hget
  · cases h

lemma eq_of_tokens_equal {presented : Json} {expected : String}
    (h : tokens_equal presented expected = true) :
    presented = .str expected ∧ isToken expected = true := by
  unfold tokens_equal at h
  split at h
  · rw [Bool.and_eq_true, Bool.and_eq_true, beq_iff_eq] at h
    exact ⟨congrArg Json.str h.2, h.1.2⟩
  · cases h

/-- The authorized party is this client, and is named where there are other audiences. -/
lemma check_party_eq_ok {claims : Json} {nonce : String} (h : check_party settings claims nonce = .ok ()) :
    (claims.get "azp" = .null ∨ claims.get "azp" = .str settings.client_id) ∧
      (∀ audiences, claims.get? "aud" = some (.arr audiences) → 1 < audiences.length →
        claims.get "azp" = .str settings.client_id) ∧
      claims.get? "nonce" = some (.str nonce) ∧ isToken nonce = true := by
  obtain ⟨aud, haud, h⟩ := bind_ok h
  dsimp only at h
  split_ifs at h with hparty
  obtain ⟨presented, hpresented, h⟩ := bind_ok h
  split_ifs at h with hequal
  obtain ⟨rfl, htoken⟩ := eq_of_tokens_equal hequal
  refine ⟨?_, fun audiences haudiences hlength => ?_, claim_eq_ok hpresented, htoken⟩
  · by_contra hother
    push Not at hother
    exact hparty ⟨.inr hother.1, hother.2⟩
  · by_contra hother
    obtain rfl : aud = .arr audiences := Option.some.inj ((claim_eq_ok haud).symm.trans haudiences)
    exact hparty ⟨.inl hlength, hother⟩

lemma check_subject_eq_ok {claims : Json} {now : ℚ} (h : check_subject lib claims now = .ok ()) :
    (∃ iat, claims.get? "iat" = some iat ∧ exceeds iat (now + CLOCK_LEEWAY_SECONDS) = some false) ∧
      ∃ subject, claims.get? "sub" = some (.str subject) ∧ 0 < subject.length ∧
        subject.length ≤ MAX_SUBJECT_LENGTH ∧ lib.isprintable subject = true := by
  obtain ⟨iat, hiat, h⟩ := bind_ok h
  split at h
  · cases h
  · cases h
  next hexceeds =>
    obtain ⟨value, hvalue, h⟩ := bind_ok h
    split at h
    · split_ifs at h with hsubject
      exact ⟨⟨iat, claim_eq_ok hiat, hexceeds⟩, _, claim_eq_ok hvalue, hsubject⟩
    · cases h

lemma does_verified_claims {id_token nonce algorithm kid : String} {found : Option Jwk}
    (halgorithm : algorithm ∈ ALLOWED_ID_TOKEN_ALGORITHMS)
    (hfound : ∀ key, found = some key → ∃ keys, GivenKeys past keys ∧ signing_key kid keys = some key) :
    Does (Talks lib settings)
      (fun claims past' => ∃ keys, GivenKeys past' keys ∧ Validated lib settings keys id_token nonce claims)
      (fun _ _ => True) (verified_claims lib settings id_token nonce algorithm found) past := by
  cases found with
  | none => exact does_throw trivial
  | some key =>
    obtain ⟨keys, hkeys, hkey⟩ := hfound key rfl
    obtain ⟨hmem, hkid, huse⟩ := signing_key_eq_some hkey
    refine does_talk (fun _ => .time) fun verified => ?_
    refine does_lift_bind (fun claims hclaims => ?_) fun _ _ => trivial
    refine does_lift_bind (fun _ hparty => ?_) fun _ _ => trivial
    refine does_talk (fun _ => .time) fun now => ?_
    refine does_lift_bind (fun _ hsubject => ?_) fun _ _ => trivial
    obtain ⟨hazp, hsole, hnonce⟩ := check_party_eq_ok hparty
    obtain ⟨⟨iat, hiat, hissued⟩, hsubject⟩ := check_subject_eq_ok hsubject
    exact ⟨keys, (hkeys.mono (List.subset_append_left _ _)).mono (List.subset_append_left _ _),
      ⟨algorithm, kid, key, verified, halgorithm, hmem, hkid, huse, decoded_eq_ok hclaims⟩, hnonce, hazp,
      hsole, ⟨iat, now, hiat, hissued⟩, hsubject⟩

/-- Claims that are returned were verified with a key that the provider published to the thread. -/
lemma does_validate_id_token {id_token nonce : String} : Does (Talks lib settings)
    (fun claims past' => ∃ keys, GivenKeys past' keys ∧ Validated lib settings keys id_token nonce claims)
    (fun _ _ => True) (validate_id_token lib settings id_token nonce) past := by
  refine does_lift_bind (fun header hheader => ?_) fun _ _ => trivial
  obtain ⟨algorithm, kid⟩ := header
  have halgorithm := accepted_header_eq_ok hheader
  -- a key that is found is one of a set that was given
  have hfind : ∀ {refresh past}, Does (Talks lib settings)
      (fun found past' => ∀ key, found = some key →
        ∃ keys, GivenKeys past' keys ∧ signing_key kid keys = some key)
      (fun _ _ => True) (_find_key lib settings kid refresh) past :=
    does_keys.then (fun keys _ hkeys _ hkey => ⟨keys, hkeys, hkey⟩) fun _ _ _ => trivial
  refine hfind.then (fun found past' hfirst => ?_) fun _ _ _ => trivial
  cases found with
  | some key => exact does_verified_claims halgorithm hfirst
  | none =>
    exact hfind.then (fun _ _ hsecond => does_verified_claims halgorithm hsecond) fun _ _ _ => trivial

end TrustLens.Backend.SignIn
