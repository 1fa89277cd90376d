import TrustLens.Backend.Extraction

/-!
# What the findings rest on

A finding that projects a scam cue is meant to be live: affirmed and first party. The
evaluator asks for more, a mood that is not descriptive. Each recogniser keeps the first;
the second it keeps where it looks at the mood, and the requests that are read without
looking are listed here.
-/

namespace TrustLens.Backend.Extraction

open TrustLens.Runtime (Level Status StructuralPolarity Attribution Mood)

/-- The negative indicators the extractor emits. -/
def safetyCues : List String :=
  ["NEGATED_CREDENTIAL_REQUEST", "EDUCATIONAL_CONTENT", "SUPPORT_NEVER_ASKS",
   "SELF_PROTECTIVE_WARNING", "OTP_DELIVERED_NOT_REQUESTED", "PAY_MERCHANT_DIRECTION",
   "EXPLICIT_NO_FEE", "IT_SUPPORT_CONTEXT", "REPORTED_SCAM_NARRATIVE"]

/-- An affirmed, first-party occurrence that is described, not made. -/
def Structure.described (s : Structure) : Bool := s.live && s.mood == .DESCRIPTIVE

namespace Finding

/-- Whether the evaluator reads the occurrence as live, once it is observed. -/
def heard (f : Finding) : Bool :=
  f.live && (f.status != .OBSERVED || f.struct.all fun s => !s.described)

/-- Each scam cue of a finding is its own, and projected under a condition. -/
def Rests (f : Finding) (condition : Bool) : Prop :=
  ∀ e ∈ f.indicators, e.indicatorId ∉ safetyCues → e.cites = none ∧ condition = true

variable {f : Finding} {condition c : Bool} {id : String} {level : Level}

@[simp] lemma emitReviewed_struct {r : Bool} : (f.emitReviewed id level r).struct = f.struct := by
  unfold emitReviewed
  split <;> rfl

@[simp] lemma emitReviewed_status {r : Bool} : (f.emitReviewed id level r).status = f.status := by
  unfold emitReviewed
  split <;> rfl

@[simp] lemma emitReviewed_canonical {r : Bool} :
    (f.emitReviewed id level r).canonical = f.canonical := by
  unfold emitReviewed
  split <;> rfl

@[simp] lemma emit_struct : (f.emit id level).struct = f.struct := emitReviewed_struct

@[simp] lemma emit_status : (f.emit id level).status = f.status := emitReviewed_status

@[simp] lemma emit_canonical : (f.emit id level).canonical = f.canonical := emitReviewed_canonical

@[simp] lemma emitIf_struct : (f.emitIf c id level).struct = f.struct := by
  cases c <;> simp [emitIf]

@[simp] lemma emitIf_status : (f.emitIf c id level).status = f.status := by
  cases c <;> simp [emitIf]

@[simp] lemma emitIf_canonical : (f.emitIf c id level).canonical = f.canonical := by
  cases c <;> simp [emitIf]

lemma live_congr {f g : Finding} (h : f.struct = g.struct) : f.live = g.live := by
  simp only [live, h]

lemma heard_congr {f g : Finding} (h : f.struct = g.struct) (hs : f.status = g.status) :
    f.heard = g.heard := by
  simp only [heard, live_congr h, h, hs]

@[simp] lemma emitIf_live : (f.emitIf c id level).live = f.live := live_congr emitIf_struct

@[simp] lemma emitIf_heard : (f.emitIf c id level).heard = f.heard :=
  heard_congr emitIf_struct emitIf_status

@[simp] lemma emit_live : (f.emit id level).live = f.live := live_congr emit_struct

@[simp] lemma emit_heard : (f.emit id level).heard = f.heard := heard_congr emit_struct emit_status

@[simp] lemma emitReviewed_live {r : Bool} : (f.emitReviewed id level r).live = f.live :=
  live_congr emitReviewed_struct

@[simp] lemma emitReviewed_heard {r : Bool} : (f.emitReviewed id level r).heard = f.heard :=
  heard_congr emitReviewed_struct emitReviewed_status

lemma live_of_heard (h : f.heard = true) : f.live = true := by
  simp only [heard, Bool.and_eq_true] at h
  exact h.1

lemma heard_of_struct_none (h : f.struct = none) : f.heard = true := by
  simp [heard, live, h]

lemma rests_nil (h : f.indicators = []) : f.Rests condition := by
  simp [Rests, h]

lemma Rests.mono {d : Bool} (h : f.Rests condition) (hd : condition = true → d = true) :
    f.Rests d := by
  intro e he hcue
  obtain ⟨hown, hc⟩ := h e he hcue
  exact ⟨hown, hd hc⟩

lemma Rests.emitReviewed {r : Bool} (h : f.Rests condition)
    (hid : id ∈ safetyCues ∨ condition = true) : (f.emitReviewed id level r).Rests condition := by
  unfold Finding.emitReviewed
  split
  · intro e he hcue
    rcases List.mem_append.mp he with he | he
    · exact h e he hcue
    · rw [List.mem_singleton] at he
      subst he
      exact ⟨rfl, hid.resolve_left hcue⟩
  · exact h

lemma Rests.emit (h : f.Rests condition) (hid : id ∈ safetyCues ∨ condition = true) :
    (f.emit id level).Rests condition :=
  h.emitReviewed hid

lemma Rests.emitIf (h : f.Rests condition) (hid : c = true → id ∈ safetyCues ∨ condition = true) :
    (f.emitIf c id level).Rests condition := by
  cases hc : c
  · exact h
  · exact h.emit (hid hc)

/-- An emission that was made is there. -/
lemma mem_emitReviewed {r : Bool} :
    ∃ e ∈ (f.emitReviewed id level r).indicators, e.indicatorId = id := by
  unfold Finding.emitReviewed
  split
  · exact ⟨⟨id, level, r, none⟩, by simp, rfl⟩
  · rename_i h
    simp only [List.all_eq_true, bne_iff_ne, ne_eq, not_forall, not_not] at h
    obtain ⟨e, he, heq⟩ := h
    exact ⟨e, he, heq⟩

lemma mem_emit (f : Finding) (id : String) (level : Level) :
    ∃ e ∈ (f.emit id level).indicators, e.indicatorId = id :=
  mem_emitReviewed

lemma mem_emitReviewed_of_mem {r : Bool} {e : Emission} (h : e ∈ f.indicators) :
    e ∈ (f.emitReviewed id level r).indicators := by
  unfold Finding.emitReviewed
  split
  · exact List.mem_append_left _ h
  · exact h

lemma mem_emitIf_of_mem {e : Emission} (h : e ∈ f.indicators) :
    e ∈ (f.emitIf c id level).indicators := by
  cases c
  · exact h
  · exact mem_emitReviewed_of_mem h

end Finding

section

open Finding

variable (U : Unicode) (P : Pack) (msg : Message)

/-! ### Claims -/

/-- A structure that is not described is heard as soon as it is live. -/
lemma heard_of_live {f : Finding} {s : Structure} (hs : f.struct = some s)
    (hd : s.described = false) (hlive : f.live = true) : f.heard = true := by
  simp [heard, hs, hd, hlive]

/-- A claim that is live carries no structure. -/
lemma heard_of_claim {f : Finding} {pos : ℕ} (hs : f.struct = claimStructure P msg pos)
    (hlive : f.live = true) : f.heard = true := by
  apply heard_of_struct_none
  rw [hs]
  unfold claimStructure at hs ⊢
  simp only at hs ⊢
  split
  · rfl
  · rename_i h
    rw [if_neg h] at hs
    simp only [Finding.live, hs] at hlive
    exact absurd hlive h

/-- What a claim projects under a condition that includes its being live. -/
lemma rests_claim {f : Finding} {pos : ℕ} (hs : f.struct = claimStructure P msg pos)
    (h : f.Rests f.heard) {c : Bool} (hc : c = true → f.live = true) {id : String} {level : Level} :
    (f.emitIf c id level).Rests (f.emitIf c id level).heard := by
  rw [emitIf_heard]
  exact h.emitIf fun hcond => Or.inr (heard_of_claim P msg hs (hc hcond))

lemma struct_claim {obsType : ObsType} {canonical : String} {pos start stop : ℕ} {frame : Frame}
    {risky : Bool} :
    (claim P msg obsType canonical pos start stop frame risky).struct = claimStructure P msg pos :=
  rfl

lemma struct_plainClaim {obsType : ObsType} {canonical indicator : String} {confidence : Level}
    {frame : Frame} {risky : Bool} {m : Match} :
    (plainClaim P msg obsType canonical indicator confidence frame risky m).struct =
      claimStructure P msg m.start := by
  simp only [plainClaim, claimAt, emitIf_struct, struct_claim]

lemma rests_plainClaim {obsType : ObsType} {canonical indicator : String} {confidence : Level}
    {frame : Frame} {risky : Bool} (m : Match) :
    (plainClaim P msg obsType canonical indicator confidence frame risky m).Rests
      (plainClaim P msg obsType canonical indicator confidence frame risky m).heard :=
  rests_claim P msg (struct_claim P msg) (rests_nil rfl) id

/-- A call of `_simple` projects on live claims and on requests that are made. -/
lemma rests_site (site : Site) (m : Match) :
    (site.finding P msg m).Rests (site.finding P msg m).heard := by
  unfold Site.finding
  simp only [emitIf_heard]
  refine (rests_nil rfl).emitIf fun hcond => Or.inr ?_
  rw [Bool.and_eq_true] at hcond
  obtain ⟨hlive, hmood⟩ := hcond
  rcases Bool.eq_false_or_eq_true site.request with hreq | hreq
  · -- the mood of a request is looked at
    simp only [hreq, if_true, Bool.not_true, Bool.false_or, Option.map_some, Option.getD_some,
      bne_iff_ne, ne_eq] at hlive hmood ⊢
    refine heard_of_live rfl ?_ hlive
    simp [Structure.described, hmood]
  · simp only [hreq, Bool.false_eq_true, if_false] at hlive ⊢
    exact heard_of_claim P msg rfl hlive

lemma rests_siteFindings (site : Site) (skip : List (ℕ × ℕ)) {f : Finding}
    (hf : f ∈ site.findings P msg skip) : f.Rests f.heard := by
  simp only [Site.findings, List.mem_map, List.mem_filter] at hf
  obtain ⟨m, -, rfl⟩ := hf
  exact rests_site P msg site m

/-! ### Requests -/

/-- A request that projects whenever it is live. -/
lemma rests_request {f : Finding} {s : Structure} (hs : f.struct = some s)
    (h : f.indicators = []) {id : String} {level : Level} :
    (f.emitIf s.live id level).Rests f.live := by
  apply (rests_nil h).emitIf
  intro hlive
  exact Or.inr (by simpa [Finding.live, hs] using hlive)

/-- Whether the sentence states a direction. -/
def Direction.stated (d : Direction) : Bool := d.receive.isSome || d.pay.isSome

/-- The requests that project a scam cue whatever their mood. -/
def unguardedRequests : List Match :=
  ((credentialRequests P msg).filter fun m =>
      ((credentialKind msg m).indicator (P.occursIn .verificationContext msg.view)).isSome) ++
    msg.find P .upiPin ++ msg.find P .immediatePayment ++ msg.find P .depositForEarnings ++
    msg.find P .screenShare ++
    if (qrMarker P msg).isSome then
      (msg.find P .qrScan).filter fun m => (directionAfter P msg m.stop).stated
    else []

/-- The scam cues those requests project. -/
def requestCues : List String :=
  ["CREDENTIAL_REQUEST_OTP", "CREDENTIAL_REQUEST_CVV", "CREDENTIAL_REQUEST_CARD",
   "VERIFICATION_PROMPT", "UPI_PIN_PROMPT", "IMMEDIATE_PAYMENT_DEMAND", "PAYMENT_DEMAND",
   "DEPOSIT_FOR_EARNINGS", "SCREEN_SHARE_APP_REQUEST", "QR_SCAN_REQUEST"]

lemma requestCues_disjoint : ∀ id ∈ requestCues, id ∉ safetyCues := by decide

/-- A finding is heard wherever it projects a cue, or comes from a request read unguarded. -/
def Accounted (f : Finding) : Prop :=
  f.Rests f.heard ∨
    ∃ m ∈ unguardedRequests P msg, f.struct = some (msg.structureAt P m.start true) ∧
      f.Rests f.live

variable {P msg}

lemma Accounted.rests_live {f : Finding} (h : Accounted P msg f) : f.Rests f.live := by
  rcases h with h | ⟨m, -, -, h⟩
  · exact h.mono live_of_heard
  · exact h

lemma Accounted.rests_heard {f : Finding} (h : Accounted P msg f)
    (hd : ∀ m ∈ unguardedRequests P msg, (msg.structureAt P m.start true).described = false) :
    f.Rests f.heard := by
  rcases h with h | ⟨m, hm, hs, h⟩
  · exact h
  · exact h.mono (heard_of_live hs (hd m hm))

lemma accounted_request {f : Finding} {m : Match} (hm : m ∈ unguardedRequests P msg)
    (hs : f.struct = some (msg.structureAt P m.start true)) (hf : f.indicators = []) {id : String}
    {level : Level} :
    Accounted P msg (f.emitIf (msg.structureAt P m.start true).live id level) := by
  refine Or.inr ⟨m, hm, by rw [emitIf_struct, hs], ?_⟩
  rw [emitIf_live]
  exact rests_request hs hf

variable (P msg)

/-! ### Credentials -/

@[simp] lemma credential_struct {start stop : ℕ} {kind : CredentialKind} {vc : Bool} :
    (credential P msg start stop kind vc).struct = some (msg.structureAt P start true) := by
  unfold credential
  simp only
  split
  · split <;> simp
  · split
    · cases kind.indicator vc <;> simp
    · rfl

/-- A credential request projects a cue only when it is not denied and first party. -/
lemma rests_credential {start stop : ℕ} {kind : CredentialKind} {vc c : Bool}
    (hc : (msg.structureAt P start true).live = true → (kind.indicator vc).isSome = true →
      c = true) :
    (credential P msg start stop kind vc).Rests c := by
  unfold credential
  simp only
  split
  · split
    · refine (((rests_nil rfl).emit (Or.inl ?_)).emit (Or.inl ?_)).emit (Or.inl ?_) <;> decide
    · refine ((rests_nil rfl).emit (Or.inl ?_)).emit (Or.inl ?_) <;> decide
  · rename_i hneg
    split
    · rename_i hfirst
      cases hk : kind.indicator vc with
      | none => exact rests_nil rfl
      | some id =>
        refine (rests_nil rfl).emit (Or.inr (hc ?_ (by simp [hk])))
        cases hp : (msg.structureAt P start true).polarity
        · simp [Structure.live, hp, hfirst]
        · exact absurd hp hneg
    · exact rests_nil rfl

lemma accounted_credentialFindings {f : Finding} (hf : f ∈ credentialFindings P msg) :
    Accounted P msg f := by
  simp only [credentialFindings, List.mem_append, List.mem_map] at hf
  rcases hf with ⟨m, hm, rfl⟩ | ⟨m, hm, rfl⟩
  · by_cases hk : ((credentialKind msg m).indicator
        (P.occursIn .verificationContext msg.view)).isSome
    · refine Or.inr ⟨m, ?_, credential_struct P msg, rests_credential P msg ?_⟩
      · simp [unguardedRequests, hm, hk]
      · intro hlive _
        simpa [Finding.live] using hlive
    · exact Or.inl (rests_credential P msg fun _ h => absurd h hk)
  · -- a pronoun is only read in a denial
    simp only [List.mem_filter, Bool.and_eq_true, beq_iff_eq] at hm
    refine Or.inl (rests_credential P msg fun hlive _ => ?_)
    simp [Structure.live, hm.2.1.2] at hlive

/-! ### Payments -/

lemma accounted_upiPin {m : Match} (hm : m ∈ msg.find P .upiPin) {f : Finding}
    (hf : f ∈ upiPinFindings P msg m) : Accounted P msg f := by
  have hmem : m ∈ unguardedRequests P msg := by simp [unguardedRequests, hm]
  unfold upiPinFindings at hf
  simp only at hf
  split at hf <;> simp only [List.mem_cons, List.not_mem_nil, or_false] at hf
  · rcases hf with rfl | rfl <;> exact accounted_request hmem rfl rfl
  · rcases hf with rfl | rfl
    · exact accounted_request hmem rfl rfl
    · refine Or.inl ?_
      exact (rests_nil rfl).emitIf fun _ => Or.inl (by decide)
  · subst hf
    exact accounted_request hmem rfl rfl

/-- A demand that is projected is not descriptive. -/
lemma rests_demand (canonical indicator : String) (m : Match) :
    (demand P msg canonical indicator m).Rests (demand P msg canonical indicator m).heard := by
  unfold demand
  simp only [emitIf_heard]
  refine (rests_nil rfl).emitIf fun hcond => Or.inr ?_
  rw [Bool.and_eq_true] at hcond
  refine heard_of_live rfl ?_ hcond.1
  have hmood := hcond.2
  simp only [bne_iff_ne, ne_eq] at hmood
  simp [Structure.described, hmood]

lemma rests_demandsFrom {covered : List (ℕ × ℕ)} {demands : List (String × String × Match)}
    {f : Finding} (hf : f ∈ demandsFrom P msg covered demands) : f.Rests f.heard := by
  induction demands generalizing covered with
  | nil => simp [demandsFrom] at hf
  | cons d rest ih =>
    obtain ⟨canonical, indicator, m⟩ := d
    simp only [demandsFrom] at hf
    split_ifs at hf
    · exact ih hf
    · rcases List.mem_cons.mp hf with rfl | hf
      · exact rests_demand P msg canonical indicator m
      · exact ih hf

lemma rests_reviewed {f : Finding} {pos : ℕ} (hs : f.struct = claimStructure P msg pos)
    (hnil : f.indicators = []) {id : String} {level : Level} {r : Bool} :
    (if f.live then f.emitReviewed id level r else f).Rests
      (if f.live then f.emitReviewed id level r else f).heard := by
  split_ifs with hlive
  · rw [emitReviewed_heard]
    exact (rests_nil hnil).emitReviewed (Or.inr (heard_of_claim P msg hs hlive))
  · exact rests_nil hnil

lemma rests_paymentContext (qrPresent : Bool) (m : Match) :
    (paymentContext P msg qrPresent m).Rests (paymentContext P msg qrPresent m).heard :=
  rests_reviewed P msg rfl rfl

lemma accounted_paymentFindings {qrPresent threatPresent : Bool} {f : Finding}
    (hf : f ∈ paymentFindings P msg qrPresent threatPresent) : Accounted P msg f := by
  simp only [paymentFindings, List.mem_append, List.mem_map, List.mem_flatMap] at hf
  rcases hf with (((⟨m, hm, hf⟩ | ⟨m, hm, rfl⟩) | hf) | ⟨m, -, rfl⟩) | ⟨m, hm, rfl⟩
  · exact accounted_upiPin P msg hm hf
  · exact accounted_request (by simp [unguardedRequests, hm]) rfl rfl
  · exact Or.inl (rests_demandsFrom P msg hf)
  · exact Or.inl (rests_paymentContext P msg qrPresent m)
  · exact accounted_request (by simp [unguardedRequests, hm]) rfl rfl

/-! ### The other recognisers -/

lemma rests_otpDelivered (m : Match) : (otpDelivered P msg m).Rests (otpDelivered P msg m).heard := by
  refine (rests_nil rfl).emitIf fun _ => Or.inl ?_
  decide

lemma rests_threatFindings {f : Finding} (hf : f ∈ threatFindings P msg) : f.Rests f.heard := by
  simp only [threatFindings, List.mem_append] at hf
  rcases hf with (((hf | hf) | hf) | hf) | hf
  · exact rests_siteFindings P msg _ _ hf
  · split_ifs at hf
    · exact rests_siteFindings P msg _ _ hf
    · simp at hf
  all_goals exact rests_siteFindings P msg _ _ hf

lemma rests_urgencyFindings {out : List Finding} {f : Finding}
    (hf : f ∈ urgencyFindings P msg out) : f.Rests f.heard := by
  simp only [urgencyFindings, List.mem_append, List.mem_map] at hf
  rcases hf with (hf | hf) | ⟨g, hg, rfl⟩
  · exact rests_siteFindings P msg _ _ hf
  · exact rests_siteFindings P msg _ _ hf
  · split_ifs
    · exact rests_siteFindings P msg _ _ hg
    · exact rests_nil rfl

lemma rests_coercionFindings {f : Finding} (hf : f ∈ coercionFindings P msg) :
    f.Rests f.heard := by
  simp only [coercionFindings, List.mem_append] at hf
  rcases hf with (hf | hf) | hf <;> exact rests_siteFindings P msg _ _ hf

lemma rests_returnGuarantee (m : Match) :
    (returnGuarantee P msg m).Rests (returnGuarantee P msg m).heard := by
  refine rests_claim P msg (struct_plainClaim P msg) (rests_plainClaim P msg m) fun hcond => ?_
  simp only [Bool.and_eq_true] at hcond
  exact hcond.1.1

lemma rests_pretextFindings {f : Finding} (hf : f ∈ pretextFindings P msg) :
    f.Rests f.heard := by
  simp only [pretextFindings, List.mem_append, List.mem_map] at hf
  rcases hf with ((((((((((⟨m, -, rfl⟩ | hf) | hf) | hf) | hf) | hf) | hf) | ⟨m, -, rfl⟩) |
    ⟨m, -, rfl⟩) | hf) | ⟨m, -, rfl⟩) | ⟨m, -, rfl⟩
  · exact rests_claim P msg (struct_claim P msg) (rests_nil rfl) id
  · exact rests_siteFindings P msg _ _ hf
  · exact rests_siteFindings P msg _ _ hf
  · exact rests_siteFindings P msg _ _ hf
  · exact rests_siteFindings P msg _ _ hf
  · exact rests_siteFindings P msg _ _ hf
  · exact rests_siteFindings P msg _ _ hf
  · exact rests_plainClaim P msg m
  · exact rests_plainClaim P msg m
  · exact rests_siteFindings P msg _ _ hf
  · exact rests_plainClaim P msg m
  · exact rests_returnGuarantee P msg m

lemma accounted_technicalFindings {f : Finding} (hf : f ∈ technicalFindings U P msg) :
    Accounted P msg f := by
  simp only [technicalFindings, List.mem_append, List.mem_map] at hf
  rcases hf with (((⟨m, hm, rfl⟩ | hf) | hf) | hf) | hf
  · exact accounted_request (by simp [unguardedRequests, hm]) rfl rfl
  all_goals exact Or.inl (rests_siteFindings P msg _ _ hf)

lemma rests_itSupportFinding (sensitive : Bool) (m : Match) :
    (itSupportFinding P msg sensitive m).Rests (itSupportFinding P msg sensitive m).heard := by
  unfold itSupportFinding
  simp only
  apply rests_claim P msg
  · rw [emitIf_struct, struct_claim]
  · exact rests_claim P msg (struct_claim P msg) (rests_nil rfl) id
  · intro hcond
    rw [Bool.and_eq_true] at hcond
    exact hcond.1

lemma rests_benignCover (liveTechnical : Bool) (m : Match) :
    (benignCover P msg liveTechnical m).Rests (benignCover P msg liveTechnical m).heard := by
  refine rests_claim P msg (struct_claim P msg) (rests_nil rfl) fun hcond => ?_
  rw [Bool.and_eq_true] at hcond
  exact hcond.1

lemma rests_coverFindings {technical : List Finding} {sensitive : Bool} {f : Finding}
    (hf : f ∈ coverFindings P msg technical sensitive) : f.Rests f.heard := by
  unfold coverFindings at hf
  generalize (if P.occursIn .itSupportTask msg.view then msg.find P .itSupport else []) = support
    at hf
  simp only at hf
  split_ifs at hf
  · simp at hf
  · obtain ⟨m, -, rfl⟩ := List.mem_map.mp hf
    exact rests_itSupportFinding P msg sensitive m
  · obtain ⟨m, -, rfl⟩ := List.mem_map.mp hf
    exact rests_benignCover P msg _ m

lemma accounted_scanRequest {m : Match} (hm : m ∈ msg.find P .qrScan)
    (hpresent : (qrMarker P msg).isSome = true) {f : Finding} (hf : scanRequest P msg m = some f) :
    Accounted P msg f := by
  have hmem : (directionAfter P msg m.stop).stated = true → m ∈ unguardedRequests P msg := by
    intro hstated
    simp [unguardedRequests, hpresent, hm, hstated]
  unfold scanRequest at hf
  simp only at hf
  split at hf
  · rename_i hreceive
    obtain rfl := Option.some.inj hf
    refine Or.inr ⟨m, hmem (by simp [Direction.stated, hreceive]), by simp, ?_⟩
    simp only [emitIf_live]
    exact (rests_request rfl rfl).emitIf fun hlive => Or.inr (by simpa [Finding.live] using hlive)
  · rename_i hpay
    obtain rfl := Option.some.inj hf
    refine Or.inr ⟨m, hmem (by simp [Direction.stated, hpay]), by simp, ?_⟩
    simp only [emitIf_live]
    exact (rests_request rfl rfl).emitIf fun _ => Or.inl (by decide)
  · simp at hf

lemma accounted_qrFindings {f : Finding} (hf : f ∈ qrFindings P msg) : Accounted P msg f := by
  unfold qrFindings at hf
  split at hf
  · simp at hf
  · rename_i hmarker
    rcases List.mem_cons.mp hf with rfl | hf
    · refine Or.inl fun e he _ => ?_
      simp only [List.mem_singleton] at he
      subst he
      exact ⟨rfl, heard_of_struct_none rfl⟩
    · obtain ⟨m, hm, hf⟩ := List.mem_filterMap.mp hf
      exact accounted_scanRequest P msg hm (by simp [hmarker]) hf

lemma rests_linkFinding (inputId : String) (n : ℕ) (span : ℕ × ℕ) :
    (linkFinding U P msg inputId n span).Rests (linkFinding U P msg inputId n span).heard := by
  unfold linkFinding
  simp only
  -- each emission asks for the claim to be live
  apply rests_claim P msg
  · simp only [emitIf_struct]
    exact rfl
  · apply rests_claim P msg
    · rw [emitIf_struct]
      exact rfl
    · refine rests_claim P msg rfl (rests_nil rfl) fun hcond => ?_
      rw [Bool.and_eq_true] at hcond
      exact hcond.1
    · exact id
  · intro hcond
    rw [Bool.and_eq_true] at hcond
    exact hcond.1

lemma rests_officeClaim {canonical identity indicator : String} {heeded : Bool} (m : Match) :
    (officeClaim P msg canonical identity indicator heeded m).Rests
      (officeClaim P msg canonical identity indicator heeded m).heard := by
  refine rests_claim P msg (struct_claim P msg) (rests_nil rfl) fun hcond => ?_
  rw [Bool.and_eq_true] at hcond
  exact hcond.1

lemma rests_identityFindings {directive threat : Bool} {f : Finding}
    (hf : f ∈ identityFindings P msg directive threat) : f.Rests f.heard := by
  simp only [identityFindings, List.mem_append, List.mem_map] at hf
  rcases hf with ((⟨m, -, rfl⟩ | ⟨m, -, rfl⟩) | ⟨m, -, rfl⟩) | ⟨m, -, rfl⟩
  · exact rests_plainClaim P msg m
  · exact rests_plainClaim P msg m
  · exact rests_officeClaim P msg m
  · exact rests_officeClaim P msg m

lemma rests_safetyFindings {f : Finding} (hf : f ∈ safetyFindings P msg) : f.Rests f.heard := by
  simp only [safetyFindings, List.mem_append, List.mem_map] at hf
  rcases hf with ⟨m, -, rfl⟩ | ⟨m, -, rfl⟩
  · exact (rests_nil rfl).emit (Or.inl (by decide))
  · exact rests_nil rfl

/-! ### The whole message -/

variable {P msg}

/-- Coercion that was read as denied is recorded as affirmed before it is projected. -/
lemma accounted_affirmCoercion {f : Finding} (h : Accounted P msg f) :
    Accounted P msg (affirmCoercion f) := by
  unfold affirmCoercion
  split
  · rename_i indicator s _ hs
    by_cases hneg : s.polarity = .NEGATED
    · -- a denied finding projects no cue of its own
      have hdead : f.Rests false := by
        apply h.rests_live.mono
        simp [Finding.live, hs, Structure.live, hneg]
      rw [if_pos hneg]
      refine Or.inl ?_
      simp only [emitIf_heard]
      refine Rests.emitIf (fun e he hcue => absurd (hdead e he hcue).2 (by simp)) fun hlive =>
        Or.inr ?_
      by_cases hfirst : s.attribution = .FIRST_PARTY
      · exact heard_of_struct_none (by simp [hfirst])
      · simp [Finding.live, hfirst, Structure.live] at hlive
    · rw [if_neg hneg]
      exact h
  · exact h

lemma accounted_narrate {f : Finding} (h : Accounted P msg f) (cites : List ℕ) :
    Accounted P msg (narrate cites f) := by
  have hkeep : ∀ {c : Bool}, f.Rests c → (narrate cites f).Rests c := by
    intro c hc e he hcue
    rcases List.mem_append.mp he with he | he
    · exact hc e he hcue
    · rw [List.mem_singleton] at he
      subst he
      exact absurd (show "REPORTED_SCAM_NARRATIVE" ∈ safetyCues by decide) hcue
  rcases h with h | ⟨m, hm, hs, h⟩
  · exact Or.inl (hkeep h)
  · exact Or.inr ⟨m, hm, hs, hkeep h⟩

lemma mem_reportNarrative {out : List Finding} {f : Finding} (hf : f ∈ reportNarrative out) :
    f ∈ out ∨ ∃ g ∈ out, ∃ cites, f = narrate cites g := by
  unfold reportNarrative at hf
  split at hf
  · exact Or.inl hf
  · rename_i first rest _
    obtain ⟨i, hi, rfl⟩ := List.mem_iff_getElem.mp hf
    rw [List.length_modify] at hi
    rw [List.getElem_modify]
    split_ifs
    · exact Or.inr ⟨_, List.getElem_mem _, _, rfl⟩
    · exact Or.inl (List.getElem_mem _)

variable (P msg)

lemma accounted_requestFindings {f : Finding} (hf : f ∈ requestFindings P msg) :
    Accounted P msg f := by
  simp only [requestFindings, List.mem_append, List.mem_map] at hf
  rcases hf with ((hf | ⟨m, -, rfl⟩) | hf) | hf
  · exact accounted_credentialFindings P msg hf
  · exact Or.inl (rests_otpDelivered P msg m)
  · exact Or.inl (rests_threatFindings P msg hf)
  · exact accounted_paymentFindings P msg hf

lemma accounted_pressureFindings {f : Finding} (hf : f ∈ pressureFindings P msg) :
    Accounted P msg f := by
  simp only [pressureFindings, List.mem_map, List.mem_append] at hf
  obtain ⟨g, hg, rfl⟩ := hf
  apply accounted_affirmCoercion
  rcases hg with (hg | hg) | hg
  · exact accounted_requestFindings P msg hg
  · exact Or.inl (rests_urgencyFindings P msg hg)
  · exact Or.inl (rests_coercionFindings P msg hg)

lemma accounted_actionFindings {f : Finding} (hf : f ∈ actionFindings U P msg) :
    Accounted P msg f := by
  simp only [actionFindings, List.mem_append] at hf
  rcases hf with ((((hf | hf) | hf) | hf) | hf) | hf
  · exact accounted_pressureFindings P msg hf
  · exact Or.inl (rests_pretextFindings P msg hf)
  · exact accounted_technicalFindings U P msg hf
  · exact Or.inl (rests_siteFindings P msg _ _ hf)
  · exact Or.inl (rests_coverFindings P msg hf)
  · exact accounted_qrFindings P msg hf

/-- What is recognised before the reported occurrences are put together. -/
def recognised (inputId : String) : List Finding :=
  let out := actionFindings U P msg ++ linkFindings U P msg inputId
  out ++ identityFindings P msg (liveDirective out) ((threatFindings P msg).any Finding.live) ++
    safetyFindings P msg

lemma findAll_eq (inputId : String) :
    findAll U P msg inputId = reportNarrative (recognised U P msg inputId) :=
  rfl

/-- Every finding is accounted for. -/
theorem accounted_findAll (inputId : String) {f : Finding} (hf : f ∈ findAll U P msg inputId) :
    Accounted P msg f := by
  rw [findAll_eq] at hf
  have hall : ∀ g ∈ recognised U P msg inputId, Accounted P msg g := by
    intro g hg
    simp only [recognised, List.mem_append] at hg
    rcases hg with ((hg | hg) | hg) | hg
    · exact accounted_actionFindings U P msg hg
    · obtain ⟨e, -, rfl⟩ := List.mem_map.mp hg
      exact Or.inl (rests_linkFinding U P msg inputId e.2 e.1)
    · exact Or.inl (rests_identityFindings P msg hg)
    · exact Or.inl (rests_safetyFindings P msg hg)
  rcases mem_reportNarrative hf with hf | ⟨g, hg, cites, rfl⟩
  · exact hall f hf
  · exact accounted_narrate (hall g hg) cites

/-! ### Requests that are described -/

/-- A finding of a described request that the evaluator does not hear. -/
def Misheard (f : Finding) : Prop :=
  f.status = .OBSERVED ∧ (∃ s, f.struct = some s ∧ s.described = true) ∧
    coercionIndicator f.canonical = none ∧ ∃ e ∈ f.indicators, e.indicatorId ∈ requestCues

lemma Misheard.narrate {f : Finding} (h : Misheard f) (cites : List ℕ) :
    Misheard (narrate cites f) := by
  obtain ⟨hobs, hs, hc, e, he, hcue⟩ := h
  exact ⟨hobs, hs, hc, e, List.mem_append_left _ he, hcue⟩

lemma affirmCoercion_of_none {f : Finding} (h : coercionIndicator f.canonical = none) :
    affirmCoercion f = f := by
  simp [affirmCoercion, h]

lemma misheard_request {f : Finding} {s : Structure} (hs : f.struct = some s)
    (hobs : f.status = .OBSERVED) (hd : s.described = true)
    (hc : coercionIndicator f.canonical = none) {id : String} (hid : id ∈ requestCues)
    {level : Level} : Misheard (f.emitIf s.live id level) := by
  have hlive : s.live = true := by
    simp only [Structure.described, Bool.and_eq_true] at hd
    exact hd.1
  obtain ⟨e, he, heq⟩ := mem_emit f id level
  refine ⟨by simpa using hobs, ⟨s, by simpa using hs, hd⟩, by simpa using hc, e, ?_, heq ▸ hid⟩
  simpa [Finding.emitIf, hlive] using he

lemma Misheard.emitIf {f : Finding} (h : Misheard f) {c : Bool} {id : String} {level : Level} :
    Misheard (f.emitIf c id level) := by
  obtain ⟨hobs, hs, hc, e, he, hcue⟩ := h
  exact ⟨by simpa using hobs, by simpa using hs, by simpa using hc, e, mem_emitIf_of_mem he, hcue⟩

/-- A live credential request is a plain finding with its indicator. -/
lemma credential_of_live {start : ℕ} (stop : ℕ) {kind : CredentialKind} {vc : Bool} {id : String}
    (hlive : (msg.structureAt P start true).live = true) (hid : kind.indicator vc = some id) :
    ∃ f level, credential P msg start stop kind vc = Finding.emit f id level ∧
      f.status = .OBSERVED ∧ f.canonical = kind.canonical := by
  simp only [Structure.live, Bool.and_eq_true, beq_iff_eq] at hlive
  have hneg : (msg.structureAt P start true).polarity ≠ .NEGATED := by simp [hlive.1]
  unfold credential
  simp only [if_neg hneg, if_pos hlive.2, hid]
  exact ⟨_, _, rfl, rfl, rfl⟩

lemma indicator_mem_requestCues {kind : CredentialKind} {vc : Bool} {id : String}
    (hid : kind.indicator vc = some id) : id ∈ requestCues := by
  cases kind <;> simp only [CredentialKind.indicator] at hid
  case PASSWORD =>
    split_ifs at hid
    obtain rfl := Option.some.inj hid
    decide
  all_goals
    obtain rfl := Option.some.inj hid
    decide

lemma misheard_credential {start : ℕ} (stop : ℕ) {kind : CredentialKind} {vc : Bool}
    (hd : (msg.structureAt P start true).described = true)
    (hk : (kind.indicator vc).isSome = true) : Misheard (credential P msg start stop kind vc) := by
  obtain ⟨id, hid⟩ := Option.isSome_iff_exists.mp hk
  have hlive : (msg.structureAt P start true).live = true := by
    simp only [Structure.described, Bool.and_eq_true] at hd
    exact hd.1
  obtain ⟨f, level, hf, hobs, hcanonical⟩ := credential_of_live P msg stop hlive hid
  have hs : (credential P msg start stop kind vc).struct = some (msg.structureAt P start true) :=
    credential_struct P msg
  obtain ⟨e, he, heq⟩ := mem_emit f id level
  rw [hf] at hs ⊢
  refine ⟨by simpa using hobs, ⟨_, hs, hd⟩, ?_, e, he, heq ▸ indicator_mem_requestCues hid⟩
  rw [emit_canonical, hcanonical]
  cases kind <;> rfl

/-- Each request read without looking at its mood is misheard where it is described. -/
lemma exists_misheard {m : Match} (hm : m ∈ unguardedRequests P msg)
    (hd : (msg.structureAt P m.start true).described = true) :
    ∃ f ∈ actionFindings U P msg, Misheard f := by
  have hpressure : ∀ f ∈ requestFindings P msg, Misheard f →
      ∃ f ∈ actionFindings U P msg, Misheard f := by
    intro f hf hmis
    refine ⟨f, ?_, hmis⟩
    have : f ∈ pressureFindings P msg := by
      rw [pressureFindings, List.mem_map]
      exact ⟨f, by simp [hf], affirmCoercion_of_none hmis.2.2.1⟩
    simp [actionFindings, this]
  have hpay : ∀ f, f ∈ paymentFindings P msg (qrMarker P msg).isSome
      ((threatFindings P msg).any Finding.live) → Misheard f →
      ∃ f ∈ actionFindings U P msg, Misheard f := by
    intro f hf
    exact hpressure f (by simp [requestFindings, hf])
  simp only [unguardedRequests, List.mem_append, List.mem_filter] at hm
  rcases hm with ((((⟨hm, hk⟩ | hm) | hm) | hm) | hm) | hm
  · apply hpressure _ _ (misheard_credential P msg m.stop hd hk)
    simp only [requestFindings, credentialFindings, List.mem_append, List.mem_map]
    exact Or.inl (Or.inl (Or.inl (Or.inl ⟨m, hm, rfl⟩)))
  · obtain ⟨f, hf, hmis⟩ : ∃ f ∈ upiPinFindings P msg m, Misheard f := by
      unfold upiPinFindings
      simp only
      split <;>
        exact ⟨_, List.mem_cons_self, misheard_request rfl rfl hd rfl (by decide)⟩
    refine hpay f ?_ hmis
    simp only [paymentFindings, List.mem_append, List.mem_flatMap]
    exact Or.inl (Or.inl (Or.inl (Or.inl ⟨m, hm, hf⟩)))
  · refine hpay (immediatePayment P msg ((threatFindings P msg).any Finding.live) m) ?_
      (misheard_request rfl rfl hd rfl ?_)
    · simp only [paymentFindings, List.mem_append, List.mem_map]
      exact Or.inl (Or.inl (Or.inl (Or.inr ⟨m, hm, rfl⟩)))
    · split <;> decide
  · refine hpay (depositForEarnings P msg m) ?_ (misheard_request rfl rfl hd rfl (by decide))
    simp only [paymentFindings, List.mem_append, List.mem_map]
    exact Or.inr ⟨m, hm, rfl⟩
  · refine ⟨screenShare U P msg m, ?_, misheard_request rfl rfl hd rfl (by decide)⟩
    have : screenShare U P msg m ∈ technicalFindings U P msg := by
      simp only [technicalFindings, List.mem_append, List.mem_map]
      exact Or.inl (Or.inl (Or.inl (Or.inl ⟨m, hm, rfl⟩)))
    simp [actionFindings, this]
  · split_ifs at hm with hpresent
    · obtain ⟨hscan, hstated⟩ := List.mem_filter.mp hm
      obtain ⟨f, hf, hmis⟩ : ∃ f, scanRequest P msg m = some f ∧ Misheard f := by
        unfold scanRequest
        simp only
        split
        · exact ⟨_, rfl, (misheard_request rfl rfl hd rfl (by decide)).emitIf⟩
        · exact ⟨_, rfl, (misheard_request rfl rfl hd rfl (by decide)).emitIf⟩
        · rename_i hr hp
          simp [Direction.stated, hr, hp] at hstated
      refine ⟨f, ?_, hmis⟩
      have : f ∈ qrFindings P msg := by
        obtain ⟨marker, hmarker⟩ := Option.isSome_iff_exists.mp hpresent
        simp only [qrFindings, hmarker]
        exact List.mem_cons_of_mem _ (List.mem_filterMap.mpr ⟨m, hscan, hf⟩)
      simp [actionFindings, this]
    · simp at hm

lemma mem_reportNarrative_of_mem {out : List Finding} {f : Finding} (hf : f ∈ out) :
    f ∈ reportNarrative out ∨ ∃ cites, narrate cites f ∈ reportNarrative out := by
  unfold reportNarrative
  split
  · exact Or.inl hf
  · rename_i first rest _
    obtain ⟨i, hi, rfl⟩ := List.mem_iff_getElem.mp hf
    by_cases hfirst : first = i
    · refine Or.inr ⟨first :: rest, List.mem_iff_getElem.mpr ⟨i, by simpa using hi, ?_⟩⟩
      simp [hfirst]
    · refine Or.inl (List.mem_iff_getElem.mpr ⟨i, by simpa using hi, ?_⟩)
      simp [hfirst]

/-- A described request that is read unguarded leaves a misheard finding. -/
theorem exists_misheard_findAll (inputId : String) {m : Match} (hm : m ∈ unguardedRequests P msg)
    (hd : (msg.structureAt P m.start true).described = true) :
    ∃ f ∈ findAll U P msg inputId, Misheard f := by
  obtain ⟨f, hf, hmis⟩ := exists_misheard U P msg hm hd
  have hmem : f ∈ recognised U P msg inputId := by
    simp [recognised, hf]
  rw [findAll_eq]
  rcases mem_reportNarrative_of_mem hmem with hf | ⟨cites, hf⟩
  · exact ⟨f, hf, hmis⟩
  · exact ⟨_, hf, hmis.narrate cites⟩

end
end TrustLens.Backend.Extraction
