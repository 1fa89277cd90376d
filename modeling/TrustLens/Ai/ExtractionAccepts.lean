import TrustLens.Ai.Extraction
import TrustLens.Lib.JsonRoundTrip
import Mathlib.Data.List.TakeWhile

/-!
# What the extraction validation accepts

A response passes exactly when its payload is well formed and each proposal is bound to the current
input, registered, supported and anchored in the text; the proposals are then returned as they are,
without their excerpts.
-/

namespace TrustLens.Ai.Extraction

open PyJson

/-! ### One check at a time -/

@[simp] lemma require_eq_ok {P : Prop} [Decidable P] {e : ValidationError} :
    require P e = .ok () ↔ P := by
  unfold require
  split_ifs with h
  · exact iff_of_true rfl h
  · exact iff_of_false nofun h

lemma not_escapes_require {P : Prop} [Decidable P] {e : ValidationError} :
    ¬Escapes (require P e) := by
  unfold require
  split_ifs
  · exact escapes_ok
  · exact escapes_typed

lemma mem_sortedBy {key : PyJson → List PyStr} {values : List PyJson} {j : PyJson} :
    j ∈ sortedBy key values ↔ j ∈ values := List.mem_insertionSort _

/-- A loop over the sorted values passes exactly when every value does. -/
lemma forM_sortedBy {key : PyJson → List PyStr} {values : List PyJson}
    {check : PyJson → Checked Unit} :
    (sortedBy key values).forM check = .ok () ↔ ∀ j ∈ values, check j = .ok () := by
  rw [forM_ok_iff]
  exact forall_congr' fun j => imp_congr_left mem_sortedBy

/-- An indicator of the polarity's registry that is live. -/
def Registered (rk : Registry) (ind : PyJson) : Prop :=
  if ind.get "polarity" = str (.of "POSITIVE") then
    ∃ polarity, rk.indicator (ind.get "indicator_id").text = some polarity ∧
      (polarity = null ∨ polarity = str (.of "POSITIVE"))
  else
    ∃ status, rk.negative_indicator (ind.get "indicator_id").text = some status ∧
      (status = null ∨ status = str (.of "ACTIVE"))

/-- The references of an indicator are observations of the response, and an observed indicator has
one. -/
def Supported (observations : List PyJson) (ind : PyJson) : Prop :=
  (∀ ref ∈ observation_refs ind, ∃ obs ∈ observations, proposal_id obs = ref) ∧
    (ind.get "matched" = str (.of "OBSERVED") → observation_refs ind ≠ [])

/-- The span lies in the text, and an excerpt is what stands there. -/
def Anchored (normalized : PyStr) (obs : PyJson) : Prop :=
  ∃ first last : ℤ, (obs.get "start").integer? = some first ∧ (obs.get "end").integer? = some last ∧
    0 ≤ first ∧ first < last ∧ last ≤ normalized.length ∧
    ∀ excerpt, obs.get? "evidence_excerpt" = some excerpt →
      excerpt = str (slice normalized first last)

lemma checkRegistered_eq_ok {rk : Registry} {ind : PyJson} :
    checkRegistered rk ind = .ok () ↔ Registered rk ind := by
  unfold checkRegistered Registered
  split_ifs with hpolarity
  · cases rk.indicator (ind.get "indicator_id").text with
    | none => simp
    | some polarity => simp
  · cases rk.negative_indicator (ind.get "indicator_id").text with
    | none => simp
    | some status =>
      have hactive : hashable (str (.of "ACTIVE")) = true := rfl
      simp only [Option.some.injEq, exists_eq_left']
      split_ifs with hnull hhash
      · exact iff_of_true rfl (.inl hnull)
      · refine iff_of_false nofun ?_
        rintro (h | rfl)
        · exact hnull h
        · rw [hactive] at hhash
          cases hhash
      · rw [require_eq_ok, or_iff_right hnull]

lemma checkReferences_eq_ok {observations : List PyJson} {ind : PyJson} :
    checkReferences (observations.map proposal_id) ind = .ok () ↔ Supported observations ind := by
  unfold checkReferences Supported
  rw [bind_unit_ok_iff, forM_sortedBy, require_eq_ok, not_and]
  simp only [require_eq_ok, List.mem_map]

/-- What a loop over integers makes of an anchored observation: it passes, or slices by a float. -/
lemma checkGrounded_of_anchored {normalized : PyStr} {obs : PyJson} (h : Anchored normalized obs) :
    checkGrounded normalized obs = .ok () ∨ Escapes (checkGrounded normalized obs) := by
  obtain ⟨first, last, hstart, hend, hfirst, hlt, hlast, hexcerpt⟩ := h
  unfold checkGrounded
  rw [hstart, hend]
  simp only
  rw [if_pos ⟨hfirst, hlt, hlast⟩]
  cases hget : obs.get? "evidence_excerpt" with
  | none => exact .inl rfl
  | some excerpt =>
    rw [hexcerpt excerpt hget]
    simp only
    split_ifs with hint
    · exact .inl (require_eq_ok.mpr trivial)
    · exact .inr ⟨_, rfl⟩

lemma anchored_of_checkGrounded {normalized : PyStr} {obs : PyJson}
    (hnull : obs.get? "evidence_excerpt" ≠ some null)
    (h : checkGrounded normalized obs = .ok ()) : Anchored normalized obs := by
  unfold checkGrounded at h
  split at h
  · rename_i first last hstart hend
    by_cases hrange : 0 ≤ first ∧ first < last ∧ last ≤ normalized.length
    · rw [if_pos hrange] at h
      refine ⟨first, last, hstart, hend, hrange.1, hrange.2.1, hrange.2.2, fun excerpt hget => ?_⟩
      rw [hget] at h
      split at h
      · rename_i hnone
        cases hnone
      · rename_i hsome
        exact absurd (hget.trans hsome) hnull
      · rename_i hsome
        cases hsome
        split_ifs at h
        exact (require_eq_ok.mp h).symm
    · rw [if_neg hrange] at h
      cases h
  · cases h

/-! ### The payload -/

lemma payload_eq_ok {raw_text : PyStr} {text : String} : payload raw_text = .ok text ↔
    encode raw_text = some text ∧ text.utf8ByteSize ≤ MAX_RAW_RESPONSE_BYTES := by
  unfold payload
  cases encode raw_text with
  | none => simp
  | some t =>
    dsimp only
    split_ifs with hsize
    · refine iff_of_false nofun ?_
      rintro ⟨h, hle⟩
      cases h
      omega
    · rw [Except.ok.injEq, Option.some.injEq]
      refine ⟨fun h => ⟨h, ?_⟩, And.left⟩
      subst h
      omega

lemma isSpace_of_strip {cs : List Char} (h : PyText.strip cs = []) :
    ∀ c ∈ cs, PyText.isSpace c = true := by
  have hrest : cs.dropWhile PyText.isSpace = [] := by
    rw [PyText.strip, List.reverse_eq_nil_iff, List.dropWhile_eq_nil_iff] at h
    cases hdrop : cs.dropWhile PyText.isSpace with
    | nil => rfl
    | cons c rest =>
      have hspace := h c (by rw [hdrop]; simp)
      have hhead := List.head_dropWhile_not PyText.isSpace (l := cs) (by rw [hdrop]; simp)
      simp only [hdrop, List.head_cons] at hhead
      rw [hspace] at hhead
      cases hhead
  exact List.dropWhile_eq_nil_iff.mp hrest

/-- A text of white space holds no value. -/
lemma loads_of_strip {cs : List Char} (h : PyText.strip cs = []) : loads cs = none := by
  have hspace := isSpace_of_strip h
  have hatom : ∀ rest : List Char, (∀ c ∈ rest, PyText.isSpace c = true) → ∀ fuel,
      readValue fuel rest = none := by
    intro rest hrest fuel
    cases fuel with
    | zero => rfl
    | succ fuel =>
      have hunsigned : Json.readUnsigned rest = none := by
        refine Json.readUnsigned_none fun c hc => ?_
        have hc := hrest c (List.mem_of_mem_head? hc)
        by_contra hdigit
        rw [Bool.not_eq_false] at hdigit
        have hrange : 48 ≤ c.toNat ∧ c.toNat ≤ 57 := by
          simpa [Char.isDigit, UInt32.le_iff_toNat_le] using hdigit
        simp [PyText.isSpace] at hc
        omega
      have hne : ∀ c ∈ rest, c ≠ '"' ∧ c ≠ '{' ∧ c ≠ '[' ∧ c ≠ 'n' ∧ c ≠ 't' ∧ c ≠ 'f' ∧ c ≠ 'N' ∧
          c ≠ 'I' ∧ c ≠ '-' := by
        intro c hc
        refine ⟨?_, ?_, ?_, ?_, ?_, ?_, ?_, ?_, ?_⟩
        all_goals (rintro rfl; exact absurd (hrest _ hc) (by decide))
      cases rest with
      | nil => rfl
      | cons c rest =>
        obtain ⟨hq, hb, hk, hn, ht, hf, hN, hI, hminus⟩ := hne c List.mem_cons_self
        have hnames : names.find? (fun e => e.1.isPrefixOf (c :: rest)) = none := by
          simp [names, hn.symm, ht.symm, hf.symm, hN.symm, hI.symm, hminus.symm]
        rw [readValue.eq_def]
        simp only
        split
        · rename_i heq
          exact absurd (List.cons.inj heq).1 hq
        · rename_i heq
          exact absurd (List.cons.inj heq).1 hb
        · rename_i heq
          exact absurd (List.cons.inj heq).1 hk
        · unfold readAtom
          rw [hnames]
          simp only
          split
          · rename_i heq
            exact absurd (List.cons.inj heq).1 hminus
          · rw [hunsigned]
            rfl
  have hsub : ∀ c ∈ Json.skipBlanks cs, PyText.isSpace c = true := fun c hc =>
    hspace c ((List.dropWhile_sublist _).subset hc)
  rw [loads, hatom _ hsub]

lemma parse_eq_ok {text : String} {data : PyJson} :
    parse text = .ok data ↔ loads text.toList = some data := by
  unfold parse
  split_ifs with hstrip
  · rw [loads_of_strip hstrip]
    exact iff_of_false nofun nofun
  · cases loads text.toList with
    | none => exact iff_of_false nofun nofun
    | some d => simp

lemma currentInput_eq_ok {input normalized : PyStr} {inputs : List (PyStr × PyJson)} :
    currentInput input inputs = .ok normalized ↔ lookup input inputs = some (str normalized) := by
  unfold currentInput
  split
  · rename_i t ht
    rw [ht]
    simp
  · rename_i hno
    refine iff_of_false nofun fun h => ?_
    exact hno normalized h

/-! ### What the schema gives the checks -/

lemma validator_of_object {required : List String} {properties : List (String × Validator)}
    {j v : PyJson} {key : String} {validator : Validator} (h : object required properties j = true)
    (hget : j.get? key = some v) (hproperty : property (.of key) properties = some validator) :
    validator v = true := by
  have hmem : ∀ {es : List (PyStr × PyJson)}, lookup (.of key) es = some v → (.of key, v) ∈ es := by
    intro es
    induction es with
    | nil => exact nofun
    | cons e es ih =>
      obtain ⟨k, w⟩ := e
      rw [lookup]
      split_ifs with hk
      · rintro h
        cases h
        rw [hk]
        exact List.mem_cons_self
      · exact fun h => List.mem_cons_of_mem _ (ih h)
  cases j with
  | obj es =>
    have hall := List.all_eq_true.mp (Bool.and_eq_true_iff.mp h).2 _ (hmem hget)
    rw [hproperty] at hall
    exact hall
  | null | bool | int | float | str | arr => cases hget

/-- An observation's excerpt is a string. -/
lemma excerpt_ne_null {obs : PyJson} (h : observationProposal obs = true) :
    obs.get? "evidence_excerpt" ≠ some null := by
  intro hnull
  have hstring : stringUpTo 2048 null = true := validator_of_object h hnull rfl
  cases hstring

lemma observation_of_schema {data obs : PyJson} (h : aiExtraction data = true)
    (hobs : obs ∈ (data.get "observations").elements) : observationProposal obs = true := by
  have harray : ∀ v, data.get? "observations" = some v →
      arrayUpTo 128 observationProposal v = true := fun v hv =>
    validator_of_object h hv rfl
  unfold PyJson.get at hobs
  cases hget : data.get? "observations" with
  | none =>
    rw [hget] at hobs
    cases hobs
  | some v =>
    have hv := harray v hget
    rw [hget] at hobs
    cases v with
    | arr items => exact List.all_eq_true.mp (Bool.and_eq_true_iff.mp hv).2 obs hobs
    | null | bool | int | float | str | obj => cases hv

/-! ### The whole response -/

/-- The proposals of a response are its own, of the current input, and each stands on its own. -/
structure Proposals (input normalized : PyStr) (rk : Registry)
    (observations indicators : List PyJson) : Prop where
  observation_ids : (observations.map proposal_id).Nodup
  indicator_ids : (indicators.filterMap (get? "proposal_id")).Nodup
  sources : ∀ obs ∈ observations, obs.get "source_input_id" = str input
  inputs : ∀ ind ∈ indicators, ind.get "input_id" = str input
  registered : ∀ ind ∈ indicators, Registered rk ind
  supported : ∀ ind ∈ indicators, Supported observations ind
  anchored : ∀ obs ∈ observations, Anchored normalized obs

/-- A response that is what it should be: of the request, well formed, without a decision, and about
the current input. -/
structure Grounded (raw : RawAIExtractionResponse) (request input : PyStr)
    (inputs : List (PyStr × PyJson)) (rk : Registry) (data : PyJson) (normalized : PyStr) :
    Prop where
  payload : ∃ text, encode raw.raw_text = some text ∧ text.utf8ByteSize ≤ MAX_RAW_RESPONSE_BYTES ∧
    loads text.toList = some data
  requested : raw.request_id = request
  depth : nesting data ≤ MAX_JSON_NESTING_DEPTH
  undecided : ∀ k ∈ keys data, k ∉ _FORBIDDEN_FIELDS
  schema : aiExtraction data = true
  current : lookup input inputs = some (str normalized)
  bound : data.get "input_id" = str input
  proposals : Proposals input normalized rk (data.get "observations").elements
    (data.get "indicators").elements

/-- What is returned for the proposals. -/
def proposed (input : PyStr) (data : PyJson) : ValidatedAIExtraction :=
  ⟨input, (data.get "observations").elements.map withoutExcerpt, (data.get "indicators").elements⟩

lemma proposals_of_check {input normalized : PyStr} {rk : Registry}
    {observations indicators : List PyJson}
    (hschema : ∀ obs ∈ observations, observationProposal obs = true)
    (h : checkProposals input normalized rk observations indicators = .ok ()) :
    Proposals input normalized rk observations indicators := by
  unfold checkProposals at h
  simp only [bind_unit_ok_iff, require_eq_ok, forM_sortedBy] at h
  obtain ⟨hobs, hind, hsource, hinput, hregistered, hsupported, hgrounded⟩ := h
  exact ⟨hobs, hind, fun o ho => require_eq_ok.mp (hsource o ho),
    fun i hi => require_eq_ok.mp (hinput i hi), fun i hi => checkRegistered_eq_ok.mp (hregistered i hi),
    fun i hi => checkReferences_eq_ok.mp (hsupported i hi),
    fun o ho => anchored_of_checkGrounded (excerpt_ne_null (hschema o ho)) (hgrounded o ho)⟩

lemma forM_ok_or_escapes {check : PyJson → Checked Unit} {values : List PyJson}
    (h : ∀ j ∈ values, check j = .ok () ∨ Escapes (check j)) :
    values.forM check = .ok () ∨ Escapes (values.forM check) := by
  induction values with
  | nil => exact .inl rfl
  | cons j values ih =>
    rw [List.forall_mem_cons] at h
    rcases h.1 with hj | hj
    · rcases ih h.2 with hrest | hrest
      · exact .inl (bind_unit_ok_iff.mpr ⟨hj, hrest⟩)
      · exact .inr (escapes_bind.mpr (.inr ⟨(), hj, hrest⟩))
    · exact .inr (escapes_bind.mpr (.inl hj))

/-- A sequence passes or escapes if its first part passes and the rest does one of both. -/
lemma bind_ok_or_escapes {α β : Type} {x : Checked α} {a : α} {f : α → Checked β} {b : β}
    (hx : x = .ok a) (hf : f a = .ok b ∨ Escapes (f a)) :
    x >>= f = .ok b ∨ Escapes (x >>= f) := by
  subst hx
  exact hf

/-- Sound proposals pass, unless an excerpt is sliced between floats. -/
lemma check_of_proposals {input normalized : PyStr} {rk : Registry}
    {observations indicators : List PyJson}
    (h : Proposals input normalized rk observations indicators) :
    checkProposals input normalized rk observations indicators = .ok () ∨
      Escapes (checkProposals input normalized rk observations indicators) := by
  unfold checkProposals
  refine bind_ok_or_escapes (require_eq_ok.mpr h.observation_ids) ?_
  refine bind_ok_or_escapes (require_eq_ok.mpr h.indicator_ids) ?_
  refine bind_ok_or_escapes (forM_sortedBy.mpr fun o ho => require_eq_ok.mpr (h.sources o ho)) ?_
  refine bind_ok_or_escapes (forM_sortedBy.mpr fun i hi => require_eq_ok.mpr (h.inputs i hi)) ?_
  refine bind_ok_or_escapes
    (forM_sortedBy.mpr fun i hi => checkRegistered_eq_ok.mpr (h.registered i hi)) ?_
  refine bind_ok_or_escapes
    (forM_sortedBy.mpr fun i hi => checkReferences_eq_ok.mpr (h.supported i hi)) ?_
  exact forM_ok_or_escapes fun o ho => checkGrounded_of_anchored (h.anchored o (mem_sortedBy.mp ho))

variable {raw : RawAIExtractionResponse} {request input : PyStr} {inputs : List (PyStr × PyJson)}
  {rk : Registry}

/-- What is returned was sound, and is what was proposed. -/
theorem grounded_of_validate {v : ValidatedAIExtraction}
    (h : validate_ai_extraction raw request input inputs rk = .ok v) :
    ∃ data normalized, Grounded raw request input inputs rk data normalized ∧
      v = proposed input data := by
  unfold validate_ai_extraction at h
  split_ifs at h
  obtain ⟨text, htext, h⟩ := bind_ok h
  obtain ⟨_, hrequest, h⟩ := bind_ok h
  obtain ⟨data, hdata, h⟩ := bind_ok h
  obtain ⟨_, hdepth, h⟩ := bind_ok h
  obtain ⟨_, hallowed, h⟩ := bind_ok h
  obtain ⟨_, hschema, h⟩ := bind_ok h
  obtain ⟨normalized, hcurrent, h⟩ := bind_ok h
  obtain ⟨_, hbound, h⟩ := bind_ok h
  obtain ⟨_, hproposals, h⟩ := bind_ok h
  rw [require_eq_ok] at hrequest hschema hbound
  obtain ⟨hencode, hsize⟩ := payload_eq_ok.mp htext
  refine ⟨data, normalized, ?_, (Except.ok.inj h).symm⟩
  exact {
    payload := ⟨text, hencode, hsize, parse_eq_ok.mp hdata⟩
    requested := hrequest
    depth := require_eq_ok.mp hdepth
    undecided := require_eq_ok.mp hallowed
    schema := hschema
    current := currentInput_eq_ok.mp hcurrent
    bound := hbound
    proposals := proposals_of_check (fun o ho => observation_of_schema hschema ho) hproposals }

/-- Of a sound response only the proposals are left to check. -/
lemma validate_eq_check {data : PyJson} {normalized : PyStr}
    (h : Grounded raw request input inputs rk data normalized)
    (hids : ¬(request = [] ∨ input = [])) :
    validate_ai_extraction raw request input inputs rk =
      (checkProposals input normalized rk (data.get "observations").elements
        (data.get "indicators").elements >>= fun _ => .ok (proposed input data)) := by
  obtain ⟨text, hencode, hsize, hloads⟩ := h.payload
  unfold validate_ai_extraction
  rw [if_neg hids]
  refine bind_eq_of_ok (payload_eq_ok.mpr ⟨hencode, hsize⟩) ?_
  refine bind_eq_of_ok (require_eq_ok.mpr h.requested) ?_
  refine bind_eq_of_ok (parse_eq_ok.mpr hloads) ?_
  refine bind_eq_of_ok (require_eq_ok.mpr h.depth) ?_
  refine bind_eq_of_ok (require_eq_ok.mpr h.undecided) ?_
  refine bind_eq_of_ok (require_eq_ok.mpr h.schema) ?_
  refine bind_eq_of_ok (currentInput_eq_ok.mpr h.current) ?_
  exact bind_eq_of_ok (require_eq_ok.mpr h.bound) rfl

/-- What is sound is returned, unless something untyped is raised. -/
theorem validate_of_grounded {data : PyJson} {normalized : PyStr}
    (h : Grounded raw request input inputs rk data normalized) :
    validate_ai_extraction raw request input inputs rk = .ok (proposed input data) ∨
      Escapes (validate_ai_extraction raw request input inputs rk) := by
  by_cases hids : request = [] ∨ input = []
  · refine .inr ⟨.TypeError, ?_⟩
    rw [validate_ai_extraction, if_pos hids]
  · rw [validate_eq_check h hids]
    rcases check_of_proposals h.proposals with hproposals | hproposals
    · exact .inl (bind_eq_of_ok hproposals rfl)
    · exact .inr (escapes_bind.mpr (.inl hproposals))

end TrustLens.Ai.Extraction
