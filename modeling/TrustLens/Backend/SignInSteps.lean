import TrustLens.Backend.SignInProtocol

/-!
# The handlers keep to the protocol

Handler by handler: what it performs is permitted, and what holds of the operations of a callback when
a step of its sign-in returns or raises.
-/

namespace TrustLens.Backend.SignIn

open Thread
open Sessions (Transaction Session)

variable {lib : Libraries} {settings : AuthSettings} {request : Request} {c : Presented}
  {params : List (String × String)} {tx : Transaction} {past past' : List Entry}

/-! ### Operations that create no session -/

def Calm (past : List Entry) : Prop := ∀ e ∈ past, ¬e.op.Creates

lemma Calm.extends (h : Calm past) (hmore : Extends (fun e => ¬e.op.Creates) past past') : Calm past' :=
  fun e he => (hmore.mem he).elim (h e) id

lemma Calm.settled (h : Calm past) : Settled past :=
  fun _ _ _ _ _ hmem => absurd trivial (h _ hmem)

lemma Settled.extends (h : Settled past) (hmore : Extends (fun e => ¬e.op.Creates) past past') :
    Settled past' := by
  intro principal id_token refresh_token replaces session_id hmem
  have hpast := (hmore.mem hmem).resolve_right fun hcreates => hcreates trivial
  exact (h _ _ _ _ _ hpast).imp (·.trans hmore.sublist)
    fun ⟨answer, hended⟩ => ⟨answer, hended.trans hmore.sublist⟩

/-- A session that was created, with what followed it. -/
lemma settled_created {principal id_token session_id : String} {refresh_token replaces : Option String}
    {rest : List Entry} (hpast : Calm past) (hrest : Calm rest)
    (h : (⟨.record (succeeded_event principal), true⟩ : Entry) ∈ rest ∨
      ∃ ended, (⟨.invalidate (some session_id), ended⟩ : Entry) ∈ rest) :
    Settled (past ++ (⟨.create principal id_token refresh_token replaces, some session_id⟩ :: rest)) := by
  intro principal' id_token' refresh_token' replaces' session_id' hmem
  rcases List.mem_append.mp hmem with hmem | hmem
  · exact absurd trivial (hpast _ hmem)
  · rcases List.mem_cons.mp hmem with heq | hmem
    · cases heq
      exact h.imp (fun hrecord => (List.Sublist.cons_cons _ (List.singleton_sublist.mpr hrecord)).trans
          (List.sublist_append_right _ _))
        fun ⟨answer, hended⟩ =>
          ⟨answer, (List.Sublist.cons_cons _ (List.singleton_sublist.mpr hended)).trans
          (List.sublist_append_right _ _)⟩
    · exact absurd trivial (hrest _ hmem)

lemma Bound.mono (h : Bound c params tx past) (hmore : past <+: past') : Bound c params tx past' := by
  obtain ⟨more, rfl⟩ := hmore
  obtain ⟨state, hstate, hhead⟩ := h.consumed
  exact ⟨h.parameters, state, hstate, by rw [List.head?_append, hhead]; rfl⟩

/-! ### What the handlers share -/

section

variable {α : Type} {Q : α → List Entry → Prop} {R : Fault → List Entry → Prop}

/-- What the client of the provider does is permitted to every request. -/
lemma does_chat {x : Handler α} (h : Does (Talks lib settings) Q R x past) :
    Does (Permitted lib settings request)
      (fun a past' => Q a past' ∧ Extends (Quiet lib settings) past past')
      (fun fault past' => R fault past' ∧ Extends (Quiet lib settings) past past') x past :=
  h.extends.mono (fun _ _ htalks => .talks htalks) (fun _ _ hQ => hQ) fun _ _ hR => hR

end

/-- An event that need not be recorded. -/
lemma does_audit {event : AuditEvent} {required : Bool} {G : List Entry → Entry → Prop}
    (hG : ∀ committed, G past ⟨.record event, committed⟩) :
    Does G (fun committed past' => past' = past ++ [(⟨.record event, committed⟩ : Entry)] ∧
        (required = true → committed = true))
      (fun fault past' => fault = .AuditUnavailable ∧ required = true ∧
        past' = past ++ [(⟨.record event, false⟩ : Entry)]) (_audit event required) past := by
  refine does_ask_bind fun committed => ⟨hG committed, ?_⟩
  cases committed with
  | true => exact ⟨rfl, fun _ => rfl⟩
  | false =>
    cases required with
    | true => exact ⟨rfl, rfl, rfl⟩
    | false => exact ⟨rfl, id⟩

/-- An event of a refusal, which raises nothing. -/
lemma does_audit_refusal {event : AuditEvent} (h : event.outcome ≠ "SUCCEEDED") :
    Does (Permitted lib settings request)
      (fun committed past' => past' = past ++ [(⟨.record event, committed⟩ : Entry)])
      (fun _ _ => False) (_audit event false) past :=
  (does_audit fun _ => .refuse h).mono (fun _ _ hG => hG) (fun _ _ hQ => hQ.1) fun _ _ hR =>
    Bool.false_ne_true hR.2.1

/-- A query for a principal. -/
lemma does_query {query : PrincipalQuery} {G : List Entry → Entry → Prop}
    (hG : ∀ answer, G past ⟨.query query, answer⟩) :
    Does G (fun found past' => ∃ row, past' = past ++ [(⟨.query query, .row row⟩ : Entry)] ∧
        found = row.bind principal_of)
      (fun fault past' => fault = .PrincipalStoreUnavailable ∧
        past' = past ++ [(⟨.query query, .unavailable⟩ : Entry)]) (_query query) past := by
  refine does_ask_bind fun answer => ⟨hG answer, ?_⟩
  cases answer with
  | unavailable => exact ⟨rfl, rfl⟩
  | row row => exact ⟨row, rfl, rfl⟩

/-! ### Login -/

lemma does_login : Does (Permitted lib settings .login) (fun _ _ => True) (fun _ _ => True)
    (login lib settings) [] := by
  have hbegun : Does (Permitted lib settings .login)
      (fun found past' => ∀ location binding, found = some (location, binding) →
        ∃ tx, (⟨.begin_login, some (tx, binding)⟩ : Entry) ∈ past')
      (fun _ _ => True) (tryCatch (begun lib settings) unavailable) [] := by
    refine Does.tryCatch (does_ask_bind fun answer => ⟨.begin, ?_⟩)
    have hcaught : ∀ fault past, Does (Permitted lib settings .login)
        (fun found past' => ∀ location binding, found = some (location, binding) →
          ∃ tx, (⟨.begin_login, some (tx, binding)⟩ : Entry) ∈ past')
        (fun _ _ => True) (unavailable fault) past := by
      intro fault past
      cases fault with
      | OIDCError category => exact does_pure fun _ _ h => by cases h
      | CapacityExceeded => exact does_pure fun _ _ h => by cases h
      | _ => exact does_throw trivial
    cases answer with
    | none => exact hcaught _ _
    | some answer =>
      obtain ⟨tx, binding⟩ := answer
      have hurl : ∀ past, Does (Talks lib settings) (fun _ _ => True) (fun _ _ => True)
          (authorization_url lib settings tx) past :=
        fun past => does_metadata.then (fun _ _ _ => does_pure trivial) fun _ _ _ => trivial
      refine (does_chat (hurl _)).then ?_ fun fault past _ => hcaught fault past
      rintro location past' ⟨-, hmore⟩
      refine does_pure fun location' binding' h => ?_
      cases h
      exact ⟨tx, hmore.sublist.subset (List.mem_singleton_self _)⟩
  refine hbegun.then (fun found past' hfound => ?_) fun _ _ _ => trivial
  cases found with
  | none => exact does_ask fun _ => ⟨.send_back, trivial⟩
  | some found =>
    obtain ⟨location, binding⟩ := found
    obtain ⟨tx, htx⟩ := hfound location binding rfl
    exact does_ask fun _ => ⟨.send htx, trivial⟩

/-! ### Callback -/

lemma does_check_issuer : Does (Talks lib settings) (fun _ _ => True) (fun _ _ => True)
    (check_issuer lib settings params) past := by
  unfold check_issuer
  split
  · split_ifs with hissuer
    · exact does_throw trivial
    · exact does_metadata.then (fun _ _ _ => does_pure trivial) fun _ _ _ => trivial
  · refine does_metadata.then (fun doc past' _ => ?_) fun _ _ _ => trivial
    split_ifs with hsupported
    · exact does_throw trivial
    · exact does_pure trivial

lemma accepted_tokens_eq_ok {status : ℤ} {body : Option Json} {tokens : String × Json}
    (h : accepted_tokens lib status body = .ok tokens) : status = 200 ∧ tokens.2 = body.getD .null := by
  unfold accepted_tokens at h
  split_ifs at h with hrejected hstatus htype
  · split at h
    · cases h
      exact ⟨of_not_not hstatus, rfl⟩
    · cases h
  · split at h <;> cases h

lemma redeems_redemption {doc : Json} {code verifier : String} :
    (Op.request (redemption lib settings doc code verifier)).Redeems := List.mem_cons_self

/-- A code is redeemed once, and what is returned is read of the response to it. -/
lemma does_exchange_code {code : String} (hbound : Bound c params tx past)
    (hcode : parameter params "code" = some code) (honce : ∀ e ∈ past, ¬e.op.Redeems) :
    Does (Permitted lib settings c.request)
      (fun tokens past' => Extends (fun e => ¬e.op.Creates) past past' ∧ ∃ doc body,
        (past ++ [(⟨.request (redemption lib settings doc code tx.code_verifier), .response 200 body⟩ :
          Entry)]).Sublist past' ∧ GivenDoc past' doc ∧ _read lib body = .ok tokens.2 ∧
        accepted_tokens lib 200 (some tokens.2) = .ok tokens)
      (fun _ past' => Extends (fun e => ¬e.op.Creates) past past')
      (exchange_code lib settings code tx.code_verifier) past := by
  have hplain : ∀ {past'}, Extends (Quiet lib settings) past past' →
      Extends (fun e => ¬e.op.Creates) past past' := fun hmore => hmore.mono fun _ hquiet => hquiet.plain.1
  refine (does_chat does_metadata).then ?_ fun _ _ hmore => hplain hmore.2
  rintro doc mid ⟨hdoc, hmore⟩
  have hbound' := hbound.mono hmore.isPrefix
  have honce' : ∀ e ∈ mid, ¬e.op.Redeems := fun e he =>
    (hmore.mem he).elim (honce e) fun hquiet => hquiet.plain.2
  refine (does_request fun answer => .redeem hbound' hcode hdoc honce').then ?_ ?_
  · rintro ⟨status, answered⟩ _ ⟨body, rfl, hread⟩
    have hmore' : Extends (fun e => ¬e.op.Creates) past
        (mid ++ [(⟨.request (redemption lib settings doc code tx.code_verifier), .response status body⟩ :
          Entry)]) := (hplain hmore).trans (.snoc id)
    refine does_lift (fun tokens htokens => ⟨hmore', doc, body, ?_⟩) fun _ _ => hmore'
    obtain ⟨rfl, htokens2⟩ := accepted_tokens_eq_ok htokens
    obtain h204 | ⟨doc', hread, rfl⟩ := hread
    · cases h204
    · rw [Option.getD_some] at htokens2
      rw [htokens2]
      exact ⟨hmore.sublist.append (List.Sublist.refl _), hdoc.mono (List.subset_append_left _ _), hread,
        htokens⟩
  · rintro fault _ ⟨answer, rfl⟩
    exact (hplain hmore).trans (.snoc id)

/-- What holds of a callback that is bound, whenever a step of its sign-in ends. -/
def Orderly (c : Presented) (params : List (String × String)) (tx : Transaction) (past : List Entry) :
    Prop := Bound c params tx past ∧ Settled past

lemma Trail.Authenticates.mono {t : Trail} (h : t.Authenticates lib settings c past)
    (hmore : past <+: past') :
    t.Authenticates lib settings c past' where
  bound := h.bound.mono hmore
  state := h.state
  code := h.code
  performed := h.performed.trans hmore.sublist
  doc := h.doc.mono hmore.sublist.subset
  read := h.read
  tokens := h.tokens
  keys := h.keys.mono hmore.sublist.subset
  claims := h.claims
  issuer := h.issuer
  subject := h.subject
  principal := h.principal

/-- A session is returned after it was audited, and ended where it could not be. -/
lemma does_issue_session {t : Trail} (hbound : Bound c params tx past) (hcalm : Calm past)
    (ht : t.Authenticates lib settings c past) : Does (Permitted lib settings c.request)
      (fun session_id past' => Issued lib settings c t session_id past' ∧ Orderly c params tx past')
      (fun _ past' => Orderly c params tx past')
      (issue_session t.principal (t.id_token, t.tokens) c.session) past := by
  refine does_ask_bind fun created => ⟨.create ht hcalm, ?_⟩
  cases created with
  | none =>
    refine does_throw ⟨hbound.mono (List.prefix_append _ _), fun _ _ _ _ _ hmem => ?_⟩
    rcases List.mem_append.mp hmem with hmem | hmem
    · exact absurd trivial (hcalm _ hmem)
    · cases List.mem_singleton.mp hmem
  | some session_id =>
    have hcreated : t.created c session_id ∈ past ++ [t.created c session_id] :=
      List.mem_append_right _ (List.mem_singleton_self _)
    refine Does.bind (Does.tryCatch ((does_audit fun _ => .audit hcreated).mono (fun _ _ hG => hG) ?_ ?_))
    · rintro committed _ ⟨rfl, hcommitted⟩
      obtain rfl := hcommitted rfl
      have hmore := (List.prefix_append past [t.created c session_id]).trans
        (List.prefix_append _ [t.audited])
      refine does_pure ⟨⟨ht.mono hmore, ?_⟩, hbound.mono hmore, ?_⟩
      · exact (ht.performed.append (List.Sublist.refl [_])).append (List.Sublist.refl [_])
      · rw [List.append_assoc]
        exact settled_created hcalm (List.forall_mem_singleton.mpr id) (.inl (List.mem_singleton_self _))
    · rintro fault _ ⟨rfl, -, rfl⟩
      refine does_ask_bind fun answer => ⟨.revoke (List.mem_append_left _ hcreated), does_throw ⟨?_, ?_⟩⟩
      · exact hbound.mono (((List.prefix_append _ _).trans (List.prefix_append _ _)).trans
          (List.prefix_append _ _))
      · rw [List.append_assoc, List.append_assoc]
        refine settled_created hcalm (fun e he => ?_)
          (.inr ⟨answer, List.mem_cons_of_mem _ (List.mem_singleton_self _)⟩)
        rcases List.mem_pair.mp he with rfl | rfl
        · exact id
        · exact id

/-- The callback is given a session that was issued, and raises or refuses in good order. -/
lemma does_sign_in {state code : String}
    (hparams : _callback_parameters c.items = some params) (hstate : parameter params "state" = some state)
    (hcode : parameter params "code" = some code) :
    Does (Permitted lib settings c.request)
      (fun issued past' => (∀ session_id, issued = some session_id →
        ∃ t, Issued lib settings c t session_id past') ∧ Orderly c params tx past')
      (fun _ past' => Orderly c params tx past') (sign_in lib settings params tx code c.session)
      [⟨.consume state c.binding, some tx⟩] := by
  have hbound : Bound c params tx [⟨.consume state c.binding, some tx⟩] := ⟨hparams, state, hstate, rfl⟩
  have hplain : ∀ {past past'}, Extends (Quiet lib settings) past past' →
      Extends (fun e => ¬e.op.Creates) past past' := fun hmore => hmore.mono fun _ hquiet => hquiet.plain.1
  have hcalm₀ : Calm [(⟨.consume state c.binding, some tx⟩ : Entry)] := List.forall_mem_singleton.mpr id
  refine (does_chat does_check_issuer).then ?_ fun fault past₁ hmore => ?_
  swap
  · exact ⟨hbound.mono hmore.2.isPrefix, (hcalm₀.extends (hplain hmore.2)).settled⟩
  rintro - past₁ ⟨-, hmore₁⟩
  have hcalm₁ := hcalm₀.extends (hplain hmore₁)
  have hbound₁ := hbound.mono hmore₁.isPrefix
  have honce : ∀ e ∈ past₁, ¬e.op.Redeems := fun e he =>
    (hmore₁.mem he).elim (fun hfirst => List.mem_singleton.mp hfirst ▸ id) fun hquiet => hquiet.plain.2
  refine (does_exchange_code hbound₁ hcode honce).then ?_ fun fault past₂ hmore => ?_
  swap
  · exact ⟨hbound₁.mono hmore.isPrefix, (hcalm₁.extends hmore).settled⟩
  rintro ⟨id_token, tokens⟩ past₂ ⟨hmore₂, doc, body, hredeemed, hdoc, hread, htokens⟩
  have hcalm₂ := hcalm₁.extends hmore₂
  have hbound₂ := hbound₁.mono hmore₂.isPrefix
  refine (does_chat does_validate_id_token).then ?_ fun fault past₃ hmore => ?_
  swap
  · exact ⟨hbound₂.mono hmore.2.isPrefix, (hcalm₂.extends (hplain hmore.2)).settled⟩
  rintro claims past₃ ⟨⟨keys, hkeys, hclaims⟩, hmore₃⟩
  have hcalm₃ := hcalm₂.extends (hplain hmore₃)
  have hbound₃ := hbound₂.mono hmore₃.isPrefix
  refine does_lift_bind (fun issuer hissuer => ?_) fun _ _ => ⟨hbound₃, hcalm₃.settled⟩
  refine does_lift_bind (fun subject hsubject => ?_) fun _ _ => ⟨hbound₃, hcalm₃.settled⟩
  refine (does_query fun answer => .look_up hbound₃).then ?_ ?_
  swap
  · rintro fault _ ⟨-, rfl⟩
    exact ⟨hbound₃.mono (List.prefix_append _ _), (hcalm₃.extends (.snoc id)).settled⟩
  rintro found past₄ ⟨row, rfl, rfl⟩
  have hcalm₄ := hcalm₃.extends (.snoc (e := ⟨.query (.subject issuer subject), .row row⟩) id)
  have hbound₄ := hbound₃.mono (List.prefix_append past₃ [⟨.query (.subject issuer subject), .row row⟩])
  cases hfound : row.bind principal_of with
  | none =>
    refine does_ask_bind fun answer => ⟨.replace hbound₄, ?_⟩
    refine (does_audit_refusal (by decide)).then ?_ fun _ _ hfalse => hfalse.elim
    rintro committed _ rfl
    refine does_pure ⟨fun _ h => (by cases h), ?_, ?_⟩
    · exact hbound₄.mono ((List.prefix_append _ _).trans (List.prefix_append _ _))
    · exact ((hcalm₄.extends (.snoc id)).extends (.snoc id)).settled
  | some principal =>
    obtain ⟨row, rfl, hprincipal⟩ := Option.bind_eq_some_iff.mp hfound
    let t : Trail := ⟨params, state, code, tx, doc, body, id_token, tokens, keys, claims, issuer, subject,
      row, principal⟩
    have ht : t.Authenticates lib settings c (past₃ ++ [t.found]) :=
      { bound := hbound₄
        state := hstate
        code := hcode
        performed := (((hmore₁.sublist.append (List.Sublist.refl [_])).trans hredeemed).trans
          hmore₃.sublist).append (List.Sublist.refl [_])
        doc := (hdoc.mono hmore₃.sublist.subset).mono (List.subset_append_left _ _)
        read := hread
        tokens := htokens
        keys := hkeys.mono (List.subset_append_left _ _)
        claims := hclaims
        issuer := claim_eq_ok hissuer
        subject := claim_eq_ok hsubject
        principal := hprincipal }
    refine (does_issue_session (t := t) hbound₄ hcalm₄ ht).then ?_ fun _ _ horderly => horderly
    rintro session_id past₅ ⟨hissued, horderly⟩
    refine does_pure ⟨fun session_id' h => ?_, horderly⟩
    cases h
    exact ⟨t, hissued⟩

/-- A verdict is reached in good order; it is a session only if one was issued. -/
lemma does_bound_verdict {state : String} (hparams : _callback_parameters c.items = some params)
    (hstate : parameter params "state" = some state) :
    Does (Permitted lib settings c.request)
      (fun verdict past' => (∀ session_id, verdict = .issued session_id →
        ∃ t, Issued lib settings c t session_id past') ∧ Orderly c params tx past')
      (fun _ past' => Orderly c params tx past') (bound_verdict lib settings params tx c.session)
      [⟨.consume state c.binding, some tx⟩] := by
  have hcalm : Calm [(⟨.consume state c.binding, some tx⟩ : Entry)] := List.forall_mem_singleton.mpr id
  have hstart : Orderly c params tx [⟨.consume state c.binding, some tx⟩] :=
    ⟨⟨hparams, state, hstate, rfl⟩, hcalm.settled⟩
  unfold bound_verdict
  split_ifs with herror
  · exact does_pure ⟨fun _ h => (by cases h), hstart⟩
  · cases hcode : parameter params "code" with
    | none => exact does_pure ⟨fun _ h => (by cases h), hstart⟩
    | some code =>
      refine Does.tryCatch ((does_sign_in hparams hstate hcode).then ?_ fun fault past' horderly => ?_)
      · rintro issued past' ⟨hissued, horderly⟩
        cases issued with
        | none => exact does_pure ⟨fun _ h => (by cases h), horderly⟩
        | some session_id =>
          refine does_pure ⟨fun session_id' h => ?_, horderly⟩
          cases h
          exact hissued session_id rfl
      · cases fault with
        | escaped => exact does_throw horderly
        | _ => exact does_pure ⟨fun _ h => (by cases h), horderly⟩

lemma does_bound_callback {state : String} (hparams : _callback_parameters c.items = some params)
    (hstate : parameter params "state" = some state) :
    Does (Permitted lib settings c.request) (fun _ past' => Settled past') (fun _ past' => Settled past')
      (bound_callback lib settings params tx c.session) [⟨.consume state c.binding, some tx⟩] := by
  refine (does_bound_verdict hparams hstate).then ?_ fun _ _ horderly => horderly.2
  rintro verdict past₁ ⟨hissued, hbound₁, hsettled₁⟩
  cases verdict with
  | issued session_id =>
    obtain ⟨t, ht⟩ := hissued session_id rfl
    exact does_ask fun _ => ⟨.sign_in ht, hsettled₁.extends (.snoc id)⟩
  | refused outcome reason =>
    refine does_ask_bind fun answer => ⟨.replace hbound₁, ?_⟩
    have hbound₂ := hbound₁.mono (List.prefix_append past₁ [⟨.invalidate c.session, answer⟩])
    have hsettled₂ : Settled (past₁ ++ [⟨.invalidate c.session, answer⟩]) := hsettled₁.extends (.snoc id)
    have hended : (⟨.invalidate c.session, answer⟩ : Entry) ∈ past₁ ++ [⟨.invalidate c.session, answer⟩] :=
      List.mem_append_right _ (List.mem_singleton_self _)
    cases reason with
    | none => exact does_ask fun _ => ⟨.sign_out hbound₂ hsettled₂ hended, hsettled₂.extends (.snoc id)⟩
    | some reason =>
      refine Does.then (Q := fun _ past' => ∃ committed,
        past' = past₁ ++ [⟨.invalidate c.session, answer⟩] ++ [⟨.record (failed_event reason), committed⟩])
        ((does_audit_refusal (ne_of_beq_false rfl)).then ?_ fun _ _ hfalse => hfalse.elim) ?_
        fun _ _ hfalse => False.elim hfalse
      · rintro committed _ rfl
        exact does_pure ⟨committed, rfl⟩
      · rintro - _ ⟨committed, rfl⟩
        have hsettled₃ := hsettled₂.extends (.snoc (e := ⟨.record (failed_event reason), committed⟩) id)
        exact does_ask fun _ => ⟨.sign_out (hbound₂.mono (List.prefix_append _ _)) hsettled₃
          (List.mem_append_left _ hended), hsettled₃.extends (.snoc id)⟩

/-- A callback that consumed no transaction. -/
lemma does_reject {reason : String} (hcalm : Calm past) (hbound : ∀ params tx, ¬Bound c params tx past) :
    Does (Permitted lib settings c.request) (fun _ past' => Settled past') (fun _ past' => Settled past')
      (reject settings reason) past := by
  refine (does_audit_refusal (ne_of_beq_false rfl)).then ?_ fun _ _ hfalse => hfalse.elim
  rintro committed _ rfl
  refine does_ask fun _ => ⟨.reject fun params tx hbound' => ?_,
    ((hcalm.extends (.snoc id)).extends (.snoc id)).settled⟩
  obtain ⟨state, hstate, hhead⟩ := hbound'.consumed
  cases past with
  | nil => cases hhead
  | cons e past => exact hbound params tx ⟨hbound'.parameters, state, hstate, hhead⟩

lemma does_callback : Does (Permitted lib settings c.request) (fun _ past' => Settled past')
    (fun _ past' => Settled past') (callback lib settings c.items c.session c.binding) [] := by
  have hstart : ∀ params tx, ¬Bound c params tx [] := by
    intro params tx hbound
    obtain ⟨_, _, hhead⟩ := hbound.consumed
    cases hhead
  unfold callback
  cases hparams : _callback_parameters c.items with
  | none => exact does_reject (List.forall_mem_nil _) hstart
  | some params =>
    dsimp only
    cases hstate : parameter params "state" with
    | none => exact does_reject (List.forall_mem_nil _) hstart
    | some state =>
      refine does_ask_bind fun consumed => ⟨.consume hparams hstate, ?_⟩
      cases consumed with
      | none =>
        refine does_reject (List.forall_mem_singleton.mpr id) fun params tx hbound => ?_
        obtain ⟨_, _, hhead⟩ := hbound.consumed
        cases hhead
      | some tx => exact does_bound_callback hparams hstate

/-! ### Requests of a session -/

/-- A request without the token of its session, or from elsewhere, goes no further. -/
lemma does_csrf_middleware {credentials : Credentials} {operation : String} {next : Handler Unit}
    (hpresents : Presents request credentials.session)
    (hnext : ∀ past, Guarded settings credentials past → Does (Permitted lib settings request)
      (fun _ _ => True) (fun _ _ => True) next past) :
    Does (Permitted lib settings request) (fun _ _ => True) (fun _ _ => True)
      (csrf_middleware settings credentials operation next) [] := by
  have hrefusal : Does (Permitted lib settings request)
      (fun reason past' => reason = none → Guarded settings credentials past') (fun _ _ => True)
      (refusal settings credentials) [] := by
    unfold refusal
    split_ifs with horigin
    · exact does_pure fun h => (by cases h)
    · refine does_ask_bind fun found => ⟨.read hpresents, ?_⟩
      cases found with
      | none => exact does_pure fun h => (by cases h)
      | some session =>
        refine does_pure fun hvalid => ⟨Bool.of_not_eq_false horigin, session,
          List.mem_append_right _ (List.mem_singleton_self _), ?_⟩
        split_ifs at hvalid with hheader
        obtain ⟨presented, hpresented, hequal⟩ := (Option.any_eq_true _ _).mp hheader
        obtain ⟨heq, -⟩ := eq_of_tokens_equal hequal
        cases heq
        exact hpresented
  refine hrefusal.then (fun reason past' hguarded => ?_) fun _ _ _ => trivial
  cases reason with
  | none => exact hnext past' (hguarded rfl)
  | some reason =>
    refine does_ask_bind fun session => ⟨.read hpresents, ?_⟩
    refine (does_audit_refusal (by simp [denied_event])).then (fun _ _ _ => ?_)
      fun _ _ hfalse => hfalse.elim
    exact does_ask fun _ => ⟨.deny hpresents, trivial⟩

/-- The principal of a request is read for it. -/
lemma does_current_principal {session : Option String} {operation : String}
    (hpresents : Presents request session) : Does (Permitted lib settings request)
      (fun found past' => past <+: past' ∧ (∀ principal, found = .ok principal →
          Acting session principal past') ∧
        ∀ refused, found = .error refused → ∃ code clear, refused = api_error settings code clear)
      (fun _ _ => True) (current_principal settings session operation) past := by
  refine does_ask_bind fun found => ⟨.read hpresents, ?_⟩
  cases found with
  | none =>
    refine does_pure ⟨List.prefix_append _ _, fun _ h => (by cases h), fun refused h => ?_⟩
    cases h
    exact ⟨_, _, rfl⟩
  | some s =>
    have hget : (⟨.get session, some s⟩ : Entry) ∈ past ++ [⟨.get session, some s⟩] :=
      List.mem_append_right _ (List.mem_singleton_self _)
    have hactive : Does (Permitted lib settings request)
        (fun found past' => (past ++ [⟨.get session, some s⟩]) <+: past' ∧
          ∀ principal, found = some principal → ∃ row : Option PrincipalRow,
            (⟨.query (.id s.principal_reference_id), .row row⟩ : Entry) ∈ past' ∧
            principal = row.bind principal_of)
        (fun _ _ => True) (get_active s.principal_reference_id) (past ++ [⟨.get session, some s⟩]) := by
      refine Does.tryCatch ((does_query fun answer => .look_up_id hpresents hget).then ?_ ?_)
      · rintro found _ ⟨row, rfl, rfl⟩
        refine does_pure ⟨List.prefix_append _ _, fun principal h => ?_⟩
        cases h
        exact ⟨row, List.mem_append_right _ (List.mem_singleton_self _), rfl⟩
      · rintro fault _ ⟨rfl, rfl⟩
        exact does_pure ⟨List.prefix_append _ _, fun _ h => (by cases h)⟩
    refine hactive.then ?_ fun _ _ _ => trivial
    rintro found past' ⟨hmore, hfound⟩
    have hpast := (List.prefix_append past [⟨.get session, some s⟩]).trans hmore
    cases found with
    | none =>
      refine does_pure ⟨hpast, fun _ h => (by cases h), fun refused h => ?_⟩
      cases h
      exact ⟨_, _, rfl⟩
    | some found =>
      obtain ⟨row, hrow, rfl⟩ := hfound found rfl
      cases hprincipal : row.bind principal_of with
      | some principal =>
        refine does_pure ⟨hpast, fun principal' h => ?_, fun _ h => (by cases h)⟩
        cases h
        obtain ⟨row, rfl, hprincipal⟩ := Option.bind_eq_some_iff.mp hprincipal
        exact ⟨s, row, hmore.subset hget, hrow, hprincipal⟩
      | none =>
        refine does_ask_bind fun count => ⟨.end_principal hpresents
          ⟨s, row, hmore.subset hget, rfl, hrow, hprincipal⟩, ?_⟩
        refine (does_audit_refusal (by simp [denied_event])).then ?_ fun _ _ hfalse => hfalse.elim
        rintro committed _ rfl
        refine does_pure ⟨(hpast.trans (List.prefix_append _ _)).trans (List.prefix_append _ _),
          fun _ h => (by cases h), fun refused h => ?_⟩
        cases h
        exact ⟨_, _, rfl⟩

lemma does_csrf_token {session : Option String} : Does (Permitted lib settings (.csrf_token session))
    (fun _ _ => True) (fun _ _ => True) (csrf_token settings session) [] := by
  refine does_ask_bind fun found => ⟨.read .csrf_token, ?_⟩
  cases found with
  | none => exact does_ask fun _ => ⟨.deny .csrf_token, trivial⟩
  | some s =>
    exact does_ask fun _ => ⟨.give_token (List.mem_append_right _ (List.mem_singleton_self _)), trivial⟩

lemma does_get_me {session : Option String} : Does (Permitted lib settings (.get_me session))
    (fun _ _ => True) (fun _ _ => True) (get_me settings session) [] := by
  refine (does_current_principal .get_me).then ?_ fun _ _ _ => trivial
  rintro found past ⟨-, hacting, hrefused⟩
  cases found with
  | error refused =>
    obtain ⟨code, clear, rfl⟩ := hrefused refused rfl
    exact does_ask fun _ => ⟨.deny .get_me, trivial⟩
  | ok principal => exact does_ask fun _ => ⟨.tell (hacting principal rfl), trivial⟩

lemma Guarded.mono {credentials : Credentials} (h : Guarded settings credentials past)
    (hmore : past <+: past') : Guarded settings credentials past' := by
  obtain ⟨horigin, session, hget, htoken⟩ := h
  exact ⟨horigin, session, hmore.subset hget, htoken⟩

lemma does_changing {credentials : Credentials} {operation : String}
    (hguarded : Guarded settings credentials past) :
    Does (Permitted lib settings (.changing credentials operation)) (fun _ _ => True) (fun _ _ => True)
      (changing settings credentials.session operation) past := by
  refine (does_current_principal .changing).then ?_ fun _ _ _ => trivial
  rintro found past' ⟨hmore, hacting, hrefused⟩
  cases found with
  | error refused =>
    obtain ⟨code, clear, rfl⟩ := hrefused refused rfl
    exact does_ask fun _ => ⟨.deny .changing, trivial⟩
  | ok principal =>
    exact does_ask fun _ => ⟨.change (hguarded.mono hmore) (hacting principal rfl), trivial⟩

/-- The provider's session is ended with the token of the session that was ended here. -/
lemma does_end_provider_session {credentials : Credentials} {s : Session}
    (h : (⟨.invalidate credentials.session, some s⟩ : Entry) ∈ past) :
    Does (Permitted lib settings (.logout credentials)) (fun _ past' => past <+: past') (fun _ _ => True)
      (end_provider_session lib settings s.refresh_token) past := by
  cases hrefresh : s.refresh_token with
  | none => exact does_pure (List.prefix_refl _)
  | some refresh_token =>
    unfold end_provider_session
    dsimp only
    split_ifs with hempty
    · exact does_pure (List.prefix_refl _)
    · have hcaught : ∀ fault past', past <+: past' → Does (Permitted lib settings (.logout credentials))
          (fun _ past' => past <+: past') (fun _ _ => True) (unended fault) past' := by
        intro fault past' hmore
        cases fault with
        | OIDCError category => exact does_pure hmore
        | _ => exact does_throw trivial
      refine Does.tryCatch ((does_chat does_metadata).then ?_ fun fault past' hmore =>
        hcaught fault past' hmore.2.isPrefix)
      rintro doc past' ⟨hdoc, hmore⟩
      refine (does_request fun answer => .end_provider (hmore.isPrefix.subset h) hrefresh hdoc).then ?_ ?_
      · rintro answered _ ⟨body, rfl, -⟩
        exact does_pure (hmore.isPrefix.trans (List.prefix_append _ _))
      · rintro fault _ ⟨answer, rfl⟩
        exact hcaught fault _ (hmore.isPrefix.trans (List.prefix_append _ _))

lemma does_logout {credentials : Credentials} (hguarded : Guarded settings credentials past) :
    Does (Permitted lib settings (.logout credentials)) (fun _ _ => True) (fun _ _ => True)
      (logout lib settings credentials.session) past := by
  refine does_ask_bind fun ended => ⟨.end_session hguarded, ?_⟩
  have hended : (⟨.invalidate credentials.session, ended⟩ : Entry) ∈
      past ++ [⟨.invalidate credentials.session, ended⟩] :=
    List.mem_append_right _ (List.mem_singleton_self _)
  cases ended with
  | none => exact does_ask fun _ => ⟨.bid_farewell hended, trivial⟩
  | some s =>
    refine (does_end_provider_session hended).then (fun provider past' hmore => ?_) fun _ _ _ => trivial
    exact does_ask fun _ => ⟨.bid_farewell (hmore.subset hended), trivial⟩

/-! ### Every request -/

lemma Does.settled {x : Handler Unit} (hother : ∀ c : Presented, request ≠ c.request)
    (h : Does (Permitted lib settings request) (fun _ _ => True) (fun _ _ => True) x []) :
    Does (Permitted lib settings request) (fun _ past' => Settled past') (fun _ past' => Settled past') x
      [] := by
  have hsettled : ∀ {past : List Entry},
      Extends (fun e => ∃ before, Permitted lib settings request before e) [] past → Settled past := by
    intro past hmore
    refine Calm.settled fun e he hcreates => ?_
    obtain ⟨before, hpermitted⟩ := (hmore.mem he).resolve_left List.not_mem_nil
    obtain ⟨c, -, -, hc, -⟩ := hpermitted.of_creates hcreates
    exact hother c hc
  exact h.extends.mono (fun _ _ hG => hG) (fun _ _ hQ => hsettled hQ.2) fun _ _ hR => hsettled hR.2

/-- Every handler keeps to the protocol, and leaves no session that was neither audited nor ended. -/
lemma does_handler : Does (Permitted lib settings request) (fun _ past' => Settled past')
    (fun _ past' => Settled past') (handler lib settings request) [] := by
  cases request with
  | login => exact Does.settled (fun c h => by cases h) does_login
  | callback items session binding => exact does_callback (c := ⟨items, session, binding⟩)
  | csrf_token session => exact Does.settled (fun c h => by cases h) does_csrf_token
  | logout credentials =>
    exact Does.settled (fun c h => by cases h)
      (does_csrf_middleware .logout fun past hguarded => does_logout hguarded)
  | get_me session => exact Does.settled (fun c h => by cases h) does_get_me
  | changing credentials operation =>
    exact Does.settled (fun c h => by cases h)
      (does_csrf_middleware .changing fun past hguarded => does_changing hguarded)

theorem does_serve : Does (Permitted lib settings request) (fun _ past' => Settled past')
    (fun _ _ => False) (serve lib settings request) [] :=
  Does.tryCatch (does_handler.mono (fun _ _ hG => hG) (fun _ _ hQ => hQ) fun _ _ hsettled =>
    does_ask fun _ => ⟨.fail, hsettled.extends (.snoc id)⟩)

end TrustLens.Backend.SignIn
