import Mathlib.Data.List.Perm.Basic
import TrustLens.Runtime.EvidenceOrder
import TrustLens.Runtime.Snapshot

/-!
# Rearranged submissions

The governed data of a submission in another order, with occurrences repeated and with
their references in another order. It is accepted when the original is, as the same
evidence, and the whole evaluation answers the same.
-/

namespace TrustLens.Runtime

/-- The same document, the references under `observation_refs` in some order. -/
inductive RefsPermuted : Json → Json → Prop where
  | same (raw : Json) : RefsPermuted raw raw
  | refs (before after : List (String × Json)) {items items' : List Json}
      (h : items.Perm items') :
      RefsPermuted (.obj (before ++ ("observation_refs", .arr items) :: after))
        (.obj (before ++ ("observation_refs", .arr items') :: after))

/-- The same occurrences up to the order of their references, in any order and any number of
times, and the same observations in any order. -/
structure Rearranged (inds obs inds' obs' : List Json) : Prop where
  indicators : SameMembers RefsPermuted inds inds'
  observations : obs.Perm obs'

namespace Rearranged

variable {inds obs inds' obs' : List Json}

/-- Permuting and repeating occurrences, and permuting observations. -/
lemma of_members (h : ∀ raw, raw ∈ inds ↔ raw ∈ inds') (hobs : obs.Perm obs') :
    Rearranged inds obs inds' obs' :=
  ⟨⟨fun raw hraw => ⟨raw, (h raw).mp hraw, .same raw⟩,
    fun raw hraw => ⟨raw, (h raw).mpr hraw, .same raw⟩⟩, hobs⟩

/-- Permuting the references of occurrences, each in its place. -/
lemma of_refs (h : List.Forall₂ RefsPermuted inds inds') : Rearranged inds obs inds' obs :=
  ⟨⟨fun _ hraw => exists_right_of_forall₂ h hraw, fun _ hraw => exists_left_of_forall₂ h hraw⟩,
    List.Perm.refl obs⟩

end Rearranged

/-! ### One document -/

namespace RefsPermuted

variable {raw raw' : Json}

lemma lookup_insert (key : String) (before after : List (String × Json)) (k : String) (v : Json) :
    Json.lookup key (before ++ (k, v) :: after) =
      (Json.lookup key before).or (if k = key then some v else Json.lookup key after) := by
  induction before with
  | nil => rw [List.nil_append, Json.lookup, Json.lookup, Option.none_or]
  | cons e rest ih =>
    obtain ⟨k', w⟩ := e
    rw [List.cons_append, Json.lookup, Json.lookup, ih]
    split_ifs <;> rfl

lemma get_eq (h : RefsPermuted raw raw') {key : String} (hkey : key ≠ "observation_refs") :
    raw'.get key = raw.get key := by
  cases h with
  | same => rfl
  | refs before after h =>
    simp only [Json.get, Json.get?, lookup_insert, if_neg hkey.symm]

/-- The references of both documents, when the original's are texts. -/
lemma refs_perm (h : RefsPermuted raw raw')
    (htexts : ∀ j ∈ (raw.get "observation_refs").items, ∃ s, j = .str s) :
    ((raw.get "observation_refs").strings?.getD []).Perm
      ((raw'.get "observation_refs").strings?.getD []) := by
  have hstrings : ∀ items : List Json, (∀ j ∈ items, ∃ s, j = .str s) →
      items.mapM Json.str? = some (items.filterMap Json.str?) := by
    intro items
    induction items with
    | nil => exact fun _ => rfl
    | cons j rest ih =>
      intro hall
      obtain ⟨⟨s, rfl⟩, hrest⟩ := List.forall_mem_cons.mp hall
      rw [List.mapM_cons, ih hrest]
      rfl
  cases h with
  | same => exact List.Perm.refl _
  | refs before after h =>
    rename_i items items'
    simp only [Json.get, Json.get?, lookup_insert, if_true] at htexts ⊢
    cases hlookup : Json.lookup "observation_refs" before with
    | some v => exact List.Perm.refl _
    | none =>
      simp only [hlookup, Option.none_or, Option.getD_some, Json.items] at htexts
      simp only [Option.none_or, Option.getD_some, Json.strings?]
      rw [hstrings items htexts, hstrings items' fun j hj => htexts j (h.mem_iff.mpr hj)]
      exact h.filterMap _

lemma isFinite_eq (h : RefsPermuted raw raw') : raw'.isFinite = raw.isFinite := by
  cases h with
  | same => rfl
  | refs before after h =>
    rename_i items items'
    have hitems : Json.itemsFinite items' = Json.itemsFinite items := by
      rw [Bool.eq_iff_iff, Json.itemsFinite_iff, Json.itemsFinite_iff]
      simp only [h.mem_iff]
    simp only [Json.isFinite]
    rw [Bool.eq_iff_iff, Json.entriesFinite_iff, Json.entriesFinite_iff]
    simp only [List.forall_mem_append, List.forall_mem_cons, Json.isFinite, hitems]

lemma isObj_eq (h : RefsPermuted raw raw') : raw'.isObj = raw.isObj := by
  cases h <;> rfl

/-- A repetition-free array of ids stays one. -/
lemma contract (h : RefsPermuted raw raw') (hraw : Contract.indicatorObservation raw = true) :
    Contract.indicatorObservation raw' = true := by
  cases h with
  | same => exact hraw
  | refs before after h =>
    rename_i items items'
    obtain ⟨hrequired, hentries⟩ := Schema.object_obj.mp hraw
    refine Schema.object_obj.mpr ⟨fun k hk => ?_, fun e he => ?_⟩
    · have hk := hrequired k hk
      rw [lookup_insert] at hk ⊢
      cases hb : Json.lookup k before with
      | some v => rfl
      | none =>
        rw [hb] at hk
        split_ifs at hk ⊢
        · rfl
        · exact hk
    · rcases List.mem_append.mp he with hb | hb
      · exact hentries e (List.mem_append_left _ hb)
      · rcases List.mem_cons.mp hb with rfl | ha
        · obtain ⟨v, hv, hvalid⟩ := hentries ("observation_refs", .arr items) (by simp)
          refine ⟨v, hv, ?_⟩
          have hid : v = Schema.uniqueArray Contract.id 0 := by
            simpa [Schema.property] using hv.symm
          subst hid
          simp only [Schema.uniqueArray, Bool.and_eq_true, List.all_eq_true, h.mem_iff,
            h.nodup_iff, h.length_eq] at hvalid ⊢
          exact hvalid
        · exact hentries e (List.mem_append_right _ (List.mem_cons_of_mem _ ha))

lemma texts_of_contract (hraw : Contract.indicatorObservation raw = true) :
    ∀ j ∈ (raw.get "observation_refs").items, ∃ s, j = .str s := by
  cases raw with
  | obj entries =>
    obtain ⟨-, hentries⟩ := Schema.object_obj.mp hraw
    intro j hj
    simp only [Json.get, Json.get?] at hj
    cases hlookup : Json.lookup "observation_refs" entries with
    | none =>
      rw [hlookup] at hj
      cases hj
    | some v =>
      rw [hlookup] at hj
      obtain ⟨e, he, hkey, rfl⟩ := Json.exists_entry_of_lookup hlookup
      obtain ⟨validator, hv, hvalid⟩ := hentries e he
      have hid : validator = Schema.uniqueArray Contract.id 0 := by
        simpa [hkey, Schema.property] using hv.symm
      subst hid
      obtain ⟨key, v⟩ := e
      cases v with
      | arr items =>
        simp only [Schema.uniqueArray, Bool.and_eq_true, List.all_eq_true] at hvalid
        have hid := hvalid.1.2 j hj
        cases j with
        | str s => exact ⟨s, rfl⟩
        | _ => cases hid
      | _ => cases hvalid
  | _ => cases hraw

/-- The documents decode to the same occurrence. -/
lemma decode (h : RefsPermuted raw raw') (hraw : Contract.indicatorObservation raw = true)
    {io : IndicatorObservation} (hio : IndicatorObservation.decode raw = some io) :
    ∃ io', IndicatorObservation.decode raw' = some io' ∧ SameReading io io' := by
  have hrefs := h.refs_perm (texts_of_contract hraw)
  have hget : ∀ key, key ≠ "observation_refs" → raw'.get key = raw.get key :=
    fun key hkey => h.get_eq hkey
  have hdecode : IndicatorObservation.decode raw' = some
        { io with observationRefs := (raw'.get "observation_refs").strings?.getD [] } ∧
      io.observationRefs = (raw.get "observation_refs").strings?.getD [] := by
    unfold IndicatorObservation.decode at hio ⊢
    rw [hget "confidence" (by decide), hget "indicator_id" (by decide), hget "id" (by decide),
      hget "matched" (by decide), hget "polarity" (by decide), hget "supporting_spans" (by decide),
      hget "extraction_method" (by decide), hget "input_id" (by decide)]
    simp only [Option.bind_eq_bind, Option.bind_eq_some_iff, Option.pure_def] at hio ⊢
    obtain ⟨id, hid, text, htext, status, hstatus, hio⟩ := hio
    generalize (if (raw.get "confidence").isObj = true then (raw.get "confidence").get "level"
      else raw.get "confidence") = conf at hio ⊢
    by_cases hconf : conf = .null
    · simp only [if_pos hconf] at hio ⊢
      cases hio
      exact ⟨⟨id, hid, text, htext, status, hstatus, rfl⟩, rfl⟩
    · simp only [if_neg hconf] at hio ⊢
      obtain ⟨level, hlevel, hio⟩ := Option.bind_eq_some_iff.mp hio
      cases hio
      exact ⟨⟨id, hid, text, htext, status, hstatus, by rw [hlevel]; rfl⟩, rfl⟩
  exact ⟨_, hdecode.1, _, hdecode.2 ▸ hrefs, rfl⟩

end RefsPermuted

/-! ### The decoded records -/

lemma decodeObservations_ok_iff {seen : List String} {raws : List Json} {os : List Observation} :
    decodeObservations seen raws = .ok os ↔
      List.Forall₂ (fun raw o => raw.isObj = true ∧ Contract.observation raw = true ∧
          Observation.fromDict raw = some o) raws os ∧
        (os.map Observation.observationId).Nodup ∧ ∀ o ∈ os, o.observationId ∉ seen := by
  constructor
  · intro h
    refine ⟨?_, observations_nodup_of_decode h⟩
    induction raws generalizing seen os with
    | nil =>
      cases h
      exact List.Forall₂.nil
    | cons raw rest ih =>
      rw [decodeObservations] at h
      split_ifs at h with hobj hcontract
      split at h
      · cases h
      · rename_i o ho
        split_ifs at h
        split at h
        · cases h
        · rename_i hrest
          cases h
          exact List.Forall₂.cons ⟨by simpa using hobj, by simpa using hcontract, ho⟩ (ih hrest)
  · rintro ⟨hall, hnodup, hunseen⟩
    induction hall generalizing seen with
    | nil => rfl
    | @cons raw o rest os hhead _ ih =>
      rw [List.map_cons, List.nodup_cons] at hnodup
      rw [List.forall_mem_cons] at hunseen
      have hrest : decodeObservations (o.observationId :: seen) rest = .ok os := by
        refine ih hnodup.2 fun o' ho' hmem => ?_
        rcases List.mem_cons.mp hmem with heq | hmem
        · exact hnodup.1 (heq ▸ List.mem_map_of_mem ho')
        · exact hunseen.2 o' ho' hmem
      simp only [decodeObservations, hhead.1, hhead.2.1, hhead.2.2, hrest]
      rw [if_neg Bool.noConfusion, if_neg Bool.noConfusion, if_neg hunseen.1]

lemma decodeIndicators_ok_iff {raws : List Json} {ios : List IndicatorObservation} :
    decodeIndicators raws = .ok ios ↔
      List.Forall₂ (fun raw io => raw.isObj = true ∧ Contract.indicatorObservation raw = true ∧
        IndicatorObservation.decode raw = some io) raws ios := by
  constructor
  · intro h
    induction raws generalizing ios with
    | nil =>
      cases h
      exact List.Forall₂.nil
    | cons raw rest ih =>
      rw [decodeIndicators] at h
      split_ifs at h with hobj hcontract
      split at h
      · cases h
      · rename_i io hio
        split at h
        · cases h
        · rename_i hrest
          cases h
          exact List.Forall₂.cons ⟨by simpa using hobj, by simpa using hcontract, hio⟩ (ih hrest)
  · intro hall
    induction hall with
    | nil => rfl
    | cons hhead _ ih =>
      simp only [decodeIndicators, hhead.1, hhead.2.1, hhead.2.2, ih]
      rw [if_neg Bool.noConfusion, if_neg Bool.noConfusion]

/-- Related documents decode to the same occurrences. -/
lemma exists_decodeIndicators {inds inds' : List Json} {ios : List IndicatorObservation}
    (h : SameMembers RefsPermuted inds inds') (hios : decodeIndicators inds = .ok ios) :
    ∃ ios', decodeIndicators inds' = .ok ios' ∧ SameMembers SameReading ios ios' := by
  have hall := decodeIndicators_ok_iff.mp hios
  have hsome : ∀ raw' ∈ inds', ∃ io', raw'.isObj = true ∧
      Contract.indicatorObservation raw' = true ∧ IndicatorObservation.decode raw' = some io' := by
    intro raw' hraw'
    obtain ⟨raw, hraw, hr⟩ := h.2 raw' hraw'
    obtain ⟨io, -, hobj, hcontract, hio⟩ := exists_right_of_forall₂ hall hraw
    obtain ⟨io', hio', -⟩ := hr.decode hcontract hio
    exact ⟨io', hr.isObj_eq.trans hobj, hr.contract hcontract, hio'⟩
  obtain ⟨ios', hall'⟩ : ∃ ios', List.Forall₂ (fun raw io => raw.isObj = true ∧
      Contract.indicatorObservation raw = true ∧ IndicatorObservation.decode raw = some io)
      inds' ios' := by
    clear h
    induction inds' with
    | nil => exact ⟨[], List.Forall₂.nil⟩
    | cons raw' rest ih =>
      rw [List.forall_mem_cons] at hsome
      obtain ⟨io', hio'⟩ := hsome.1
      obtain ⟨ios', hios'⟩ := ih hsome.2
      exact ⟨io' :: ios', List.Forall₂.cons hio' hios'⟩
  refine ⟨ios', decodeIndicators_ok_iff.mpr hall', fun io hio => ?_, fun io' hio' => ?_⟩
  · obtain ⟨raw, hraw, -, hcontract, hdecode⟩ := exists_left_of_forall₂ hall hio
    obtain ⟨raw', hraw', hr⟩ := h.1 raw hraw
    obtain ⟨io'', hio'', -, -, hdecode''⟩ := exists_right_of_forall₂ hall' hraw'
    obtain ⟨io', hdecode', hsame⟩ := hr.decode hcontract hdecode
    obtain rfl : io' = io'' := Option.some.inj (hdecode'.symm.trans hdecode'')
    exact ⟨io', hio'', hsame⟩
  · obtain ⟨raw', hraw', -, -, hdecode'⟩ := exists_left_of_forall₂ hall' hio'
    obtain ⟨raw, hraw, hr⟩ := h.2 raw' hraw'
    obtain ⟨io, hio, -, hcontract, hdecode⟩ := exists_right_of_forall₂ hall hraw
    obtain ⟨io'', hdecode'', hsame⟩ := hr.decode hcontract hdecode
    obtain rfl : io'' = io' := Option.some.inj (hdecode''.symm.trans hdecode')
    exact ⟨io, hio, hsame⟩

/-! ### The context -/

/-- The checks a submission passes, and the records it decodes to. -/
structure Admitted (inds obs : List Json) (ios : List IndicatorObservation)
    (os : List Observation) : Prop where
  finiteIndicators : inds.all Json.isFinite = true
  finiteObservations : obs.all Json.isFinite = true
  observations : decodeObservations [] obs = .ok os
  indicators : decodeIndicators inds = .ok ios
  oneInput : (sortedUnique (ios.filterMap IndicatorObservation.inputId ++
    os.filterMap Observation.sourceInputId)).length ≤ 1
  references : refFaults os ios = []

theorem buildValidatedContext_ok_iff {inds obs : List Json} {language script : String}
    {ctx : Context} : buildValidatedContext inds obs language script = .ok ctx ↔
      Admitted inds obs ctx.indicatorObservations ctx.observations ∧
        ctx.contextInputId = (sortedUnique
          (ctx.indicatorObservations.filterMap IndicatorObservation.inputId ++
            ctx.observations.filterMap Observation.sourceInputId)).head? ∧
        ctx.language = language ∧ ctx.script = script := by
  constructor
  · intro h
    unfold buildValidatedContext at h
    split_ifs at h with hinds hobs
    split at h
    · cases h
    · rename_i os hos
      split at h
      · cases h
      · rename_i ios hios
        simp only at h
        split_ifs at h with hone
        split at h
        · cases h
        · rename_i hrefs
          cases h
          exact ⟨⟨by simpa using hinds, by simpa using hobs, hos, hios, not_lt.mp hone, hrefs⟩,
            rfl, rfl, rfl⟩
  · rintro ⟨h, hid, rfl, rfl⟩
    unfold buildValidatedContext
    rw [if_neg (by simp [h.finiteIndicators]), if_neg (by simp [h.finiteObservations])]
    split
    · rename_i e he
      cases h.observations.symm.trans he
    · rename_i os hos
      obtain rfl : ctx.observations = os := Except.ok.inj (h.observations.symm.trans hos)
      rw [h.indicators]
      simp only [if_neg (not_lt.mpr h.oneInput)]
      split
      · rename_i e _ he
        cases h.references.symm.trans he
      · rw [← hid]

section Rearranged

open Explanation (indexObservation spanIn)

variable {inds obs inds' obs' : List Json} {ios : List IndicatorObservation}
variable {os : List Observation} {language script : String}

lemma refFault_congr {os' : List Observation} {io io' : IndicatorObservation}
    (hlookup : observationById os = observationById os') (hio : SameReading io io') :
    refFault os io = refFault os' io' := by
  obtain ⟨refs, -, rfl⟩ := hio
  funext ref
  simp only [refFault, hlookup]

/-- A rearranged submission passes the same checks, as the same evidence. -/
theorem Admitted.rearranged (h : Admitted inds obs ios os) (hr : Rearranged inds obs inds' obs') :
    ∃ ios' os', Admitted inds' obs' ios' os' ∧ SameMembers SameReading ios ios' ∧ os.Perm os' := by
  obtain ⟨ios', hios', hsame⟩ := exists_decodeIndicators hr.indicators h.indicators
  obtain ⟨hall, hnodup, -⟩ := decodeObservations_ok_iff.mp h.observations
  obtain ⟨os', hall', hperm⟩ := List.perm_comp_forall₂ hr.observations.symm hall
  have hnodup' : (os'.map Observation.observationId).Nodup :=
    (hperm.map Observation.observationId).nodup_iff.mpr hnodup
  refine ⟨ios', os', ⟨?_, ?_, decodeObservations_ok_iff.mpr ⟨hall', hnodup', by simp⟩, hios', ?_, ?_⟩,
    hsame, hperm.symm⟩
  · have hfinite := h.finiteIndicators
    rw [List.all_eq_true] at hfinite ⊢
    intro raw' hraw'
    obtain ⟨raw, hraw, hrefs⟩ := hr.indicators.2 raw' hraw'
    exact hrefs.isFinite_eq.trans (hfinite raw hraw)
  · have hfinite := h.finiteObservations
    rw [List.all_eq_true] at hfinite ⊢
    exact fun raw' hraw' => hfinite raw' (hr.observations.mem_iff.mpr hraw')
  · have hids : sortedUnique (ios'.filterMap IndicatorObservation.inputId ++
        os'.filterMap Observation.sourceInputId) =
        sortedUnique (ios.filterMap IndicatorObservation.inputId ++
          os.filterMap Observation.sourceInputId) := by
      apply sortedUnique_congr
      have hinput : ∀ id, id ∈ ios.filterMap IndicatorObservation.inputId ↔
          id ∈ ios'.filterMap IndicatorObservation.inputId := by
        apply hsame.mem_filterMap
        rintro io - _ - ⟨refs, -, rfl⟩
        rfl
      intro id
      rw [List.mem_append, List.mem_append, hinput id,
        (hperm.filterMap Observation.sourceInputId).mem_iff]
    rw [hids]
    exact h.oneInput
  · have hlookup : observationById os = observationById os' := by
      funext ref
      exact find?_congr_members Observation.observationId hnodup' (fun o => hperm.symm.mem_iff) ref
    have hreferences := h.references
    simp only [refFaults, List.flatMap_eq_nil_iff, List.filterMap_eq_nil_iff] at hreferences ⊢
    intro io' hio' ref href
    obtain ⟨io, hio, hread⟩ := hsame.2 io' hio'
    rw [← congrFun (refFault_congr hlookup hread) ref]
    obtain ⟨refs, hrefs, rfl⟩ := hread
    exact hreferences io hio ref (hrefs.mem_iff.mpr href)

/-- The context of a rearranged submission carries the same evidence. -/
theorem exists_sameEvidence {ctx : Context} (hr : Rearranged inds obs inds' obs')
    (h : buildValidatedContext inds obs language script = .ok ctx) :
    ∃ ctx', buildValidatedContext inds' obs' language script = .ok ctx' ∧ SameEvidence ctx ctx' := by
  obtain ⟨hadmitted, -, rfl, rfl⟩ := buildValidatedContext_ok_iff.mp h
  obtain ⟨ios', os', hadmitted', hsame, hperm⟩ := hadmitted.rearranged hr
  refine ⟨⟨ios', os', (sortedUnique (ios'.filterMap IndicatorObservation.inputId ++
      os'.filterMap Observation.sourceInputId)).head?, ctx.language, ctx.script,
    (observations_nodup_of_decode hadmitted'.observations).1,
    refs_resolve_of_refFaults hadmitted'.references⟩, ?_, rfl, rfl, fun o => hperm.mem_iff, hsame⟩
  exact buildValidatedContext_ok_iff.mpr ⟨hadmitted', rfl, rfl, rfl⟩

/-- The spans of a permuted list of observations are the same. -/
lemma spanIn_perm {ctx : Context} (hperm : obs.Perm obs')
    (h : buildValidatedContext inds obs language script = .ok ctx) : spanIn obs = spanIn obs' := by
  obtain ⟨hadmitted, -⟩ := buildValidatedContext_ok_iff.mp h
  obtain ⟨hall, hnodup, -⟩ := decodeObservations_ok_iff.mp hadmitted.observations
  -- a key of the index is the id the observation decodes to
  have hkeys : ∀ {raws : List Json} {os : List Observation},
      List.Forall₂ (fun raw o => raw.isObj = true ∧ Contract.observation raw = true ∧
        Observation.fromDict raw = some o) raws os →
      ((raws.filterMap fun o => ((indexObservation o).toOption).join).map Prod.fst).Sublist
        (os.map Observation.observationId) := by
    intro raws os hall
    induction hall with
    | nil => exact List.Sublist.slnil
    | @cons raw o _ _ hhead _ ih =>
      obtain ⟨-, hcontract, hdecode⟩ := hhead
      obtain ⟨entries, id, rfl, hid⟩ := exists_id_of_observation hcontract
      have hoid : o.observationId = id := by
        unfold Observation.fromDict at hdecode
        rw [hid] at hdecode
        simp only [Option.bind_eq_bind, Option.bind_eq_some_iff, Option.pure_def,
          Json.str?, Option.some.injEq] at hdecode
        obtain ⟨_, rfl, _, -, _, -, _, -, _, -, rfl⟩ := hdecode
        rfl
      rw [List.filterMap_cons, List.map_cons, hoid]
      simp only [indexObservation, hid]
      by_cases hempty : id = ""
      · rw [if_pos hempty]
        exact ih.cons id
      · rw [if_neg hempty]
        exact ih.cons_cons id
  have hindex := hperm.filterMap fun o => ((indexObservation o).toOption).join
  have hdistinct := (hkeys hall).nodup hnodup
  funext ref
  simp only [spanIn, Explanation.spanFor]
  refine congrArg (fun entry => (Option.map Prod.snd entry).bind Explanation.spanOf)
    (find?_congr_members Prod.fst ?_ ?_ ref)
  · rw [List.map_reverse, List.nodup_reverse]
    exact (hindex.map Prod.fst).nodup_iff.mp hdistinct
  · intro e
    rw [List.mem_reverse, List.mem_reverse, hindex.mem_iff]

end Rearranged

namespace Detection

variable {inds obs inds' obs' : List Json}

lemma evaluateDecision_rearranged {rk : RuntimeKnowledge} {profile : EvaluationProfile}
    {status language script : String} {wholeErrors : List Json}
    (hr : Rearranged inds obs inds' obs') {ctx : Context}
    (h : buildValidatedContext inds obs language script = .ok ctx) :
    Aggregation.evaluateDecision rk profile inds obs status language script wholeErrors =
      Aggregation.evaluateDecision rk profile inds' obs' status language script wholeErrors := by
  obtain ⟨ctx', h', hsame⟩ := exists_sameEvidence hr h
  simp only [Aggregation.evaluateDecision, SuppressionExecutor.evaluateWithSuppression,
    Evaluator.evaluateRulesFromGoverned, h, h', Evaluator.evaluateRules_congr hsame]

/-- The whole evaluation answers the same on a rearranged submission. -/
theorem evaluateDetection_rearranged (isInstant : String → Bool) (render : ErrorMessage → String)
    (rk : RuntimeKnowledge) (envelope : Envelope) (status : String) (wholeErrors : List Json)
    (haccepted : ∀ language script, envelope.language = [language] → envelope.script = [script] →
      ∃ ctx, buildValidatedContext inds obs language script = .ok ctx)
    (hr : Rearranged inds obs inds' obs') :
    evaluateDetection isInstant render rk (.ofList inds) (.ofList obs) envelope status wholeErrors =
      evaluateDetection isInstant render rk (.ofList inds') (.ofList obs') envelope status
        wholeErrors := by
  rcases evaluateDetection_cases isInstant render rk envelope status wholeErrors with
    ⟨e, hrefused⟩ | ⟨-, outcome, hconstant⟩ | ⟨language, script, hevaluated, hcontext, hl, hs⟩
  · rw [hrefused, hrefused]
  · rw [hconstant, hconstant]
  · obtain ⟨ctx, hctx⟩ := haccepted language script hl hs
    rw [evaluateDetection_evaluated hevaluated hcontext hl hs,
      evaluateDetection_evaluated hevaluated hcontext hl hs]
    simp only [Traversals.ofList, evaluateDecision_rearranged hr hctx]
    refine bind_congr fun d => conclude_congr d ?_
    symm
    rw [Explanation.supportingObservations_eq_iff (indexable_of_context hctx)]
    obtain ⟨ctx', hctx', -⟩ := exists_sameEvidence hr hctx
    exact ⟨indexable_of_context hctx', fun ref _ => (congrFun (spanIn_perm hr.observations hctx) ref).symm⟩

section Sample

open Evaluator (sampleIndicator sampleProvenance)

/-- A credential request found in two places. -/
def twicePlaced (refs : List String) : Json :=
  .obj [("indicator_id", .str "OTP_REQUEST"), ("polarity", .str "POSITIVE"),
    ("matched", .str "OBSERVED"), ("confidence", .obj [("level", .str "HIGH")]),
    ("observation_refs", .arr (refs.map .str)), ("input_id", .str "in-1"),
    ("provenance", sampleProvenance)]

def placedAt (id : String) : Json :=
  .obj [("observation_id", .str id), ("observation_type", .str "REQUEST"),
    ("source_input_id", .str "in-1"), ("status", .str "OBSERVED"), ("mood", .str "DIRECTIVE"),
    ("offsets", .obj [("start", .int 0), ("end", .int 12)]), ("provenance", sampleProvenance)]

lemma twicePlaced_accepted : ((buildValidatedContext [twicePlaced ["o-1", "o-2"],
    sampleIndicator "URGENCY" "o-1"] [placedAt "o-1", placedAt "o-2"] "en" "Latn").toOption.map
      Context.language) = some "en" := by decide +kernel

theorem evaluateDetection_rearranged_sample :
    evaluateDetection (fun _ => true) (fun _ => "") governedKnowledge
        (.ofList [twicePlaced ["o-1", "o-2"], sampleIndicator "URGENCY" "o-1"])
        (.ofList [placedAt "o-1", placedAt "o-2"]) sampleEnvelope "SUPPORTED" [] =
      evaluateDetection (fun _ => true) (fun _ => "") governedKnowledge
        (.ofList [sampleIndicator "URGENCY" "o-1", twicePlaced ["o-2", "o-1"],
          sampleIndicator "URGENCY" "o-1"])
        (.ofList [placedAt "o-2", placedAt "o-1"]) sampleEnvelope "SUPPORTED" [] := by
  apply evaluateDetection_rearranged
  · rintro language script ⟨⟩ ⟨⟩
    obtain ⟨ctx, hctx, -⟩ := Option.map_eq_some_iff.mp twicePlaced_accepted
    exact ⟨ctx, eq_ok_of_toOption hctx⟩
  · have hrefs : RefsPermuted (twicePlaced ["o-1", "o-2"]) (twicePlaced ["o-2", "o-1"]) :=
      .refs [("indicator_id", .str "OTP_REQUEST"), ("polarity", .str "POSITIVE"),
        ("matched", .str "OBSERVED"), ("confidence", .obj [("level", .str "HIGH")])]
        [("input_id", .str "in-1"), ("provenance", sampleProvenance)]
        ((List.Perm.swap "o-2" "o-1" []).map Json.str)
    have hurgency := RefsPermuted.same (sampleIndicator "URGENCY" "o-1")
    refine ⟨⟨?_, ?_⟩, List.Perm.swap _ _ []⟩
    · simp only [List.forall_mem_cons, List.not_mem_nil, false_implies, implies_true, and_true]
      exact ⟨⟨_, by simp, hrefs⟩, ⟨_, by simp, hurgency⟩⟩
    · simp only [List.forall_mem_cons, List.not_mem_nil, false_implies, implies_true, and_true]
      exact ⟨⟨_, by simp, hurgency⟩, ⟨_, by simp, hrefs⟩, ⟨_, by simp, hurgency⟩⟩

end Sample

end Detection
end TrustLens.Runtime
