import TrustLens.Runtime.Rearranged
import TrustLens.Runtime.ResultContract

/-!
# What the validation boundary admits

A submission becomes a context exactly when its documents satisfy their schemas and fit
together. Every document of an admitted submission has its one decoded entry, and what refuses
a submission is named by the error.
-/

namespace TrustLens.Runtime

/-! ### One document -/

/-- What `from_dict` reads of a normalized observation. -/
structure DecodesObservation (raw : Json) (o : Observation) : Prop where
  id : raw.get "observation_id" = .str o.observationId
  type : ∃ t, raw.get "observation_type" = .str t ∧ o.observationType = some t
  input : ∃ s, raw.get? "source_input_id" = some (.str s) ∧ o.sourceInputId = some s
  status : raw.get "status" = .str o.status.name
  polarity : (raw.get? "polarity").getD (.str "AFFIRMED") = .str o.polarity.name
  attribution : (raw.get? "attribution").getD (.str "FIRST_PARTY") = .str o.attribution.name
  mood : (raw.get? "mood").getD (.str "DIRECTIVE") = .str o.mood.name

/-- What `_decode` reads of an indicator observation. -/
structure DecodesIndicator (raw : Json) (io : IndicatorObservation) : Prop where
  id : raw.get "indicator_id" = .str io.indicatorId
  matched : raw.get "matched" = .str io.matched.name
  polarity : ∃ p, raw.get "polarity" = .str p.name ∧ io.polarity = some p
  confidence : (raw.get? "confidence").map (·.get "level") = io.confidence.map (.str ·.name)
  refs : (raw.get "observation_refs").items = io.observationRefs.map .str
  spans : io.supportingSpans = (raw.get "supporting_spans").items
  method : raw.get? "extraction_method" = io.extractionMethod.map .str
  input : ∃ s, raw.get? "input_id" = some (.str s) ∧ io.inputId = some s

lemma exists_status {s : String} (h : s ∈ Contract.statuses) :
    ∃ status, Status.ofString? s = some status ∧ status.name = s := by
  simp only [Contract.statuses, List.mem_cons, List.not_mem_nil, or_false] at h
  rcases h with rfl | rfl | rfl | rfl | rfl <;> exact ⟨_, rfl, rfl⟩

/-- The text an optional key counts as, when the schema restricts it to some texts. -/
lemma default_of_enum {required : List String} {properties : List (String × Schema.Validator)}
    {raw : Json} (h : Schema.object required properties raw = true) (key : String) {dflt : String}
    {values : List String} (hkey : Schema.property key properties = some (Schema.enum values))
    (hdflt : dflt ∈ values) : ∃ s ∈ values, (raw.get? key).getD (.str dflt) = .str s := by
  cases hvalue : raw.get? key with
  | none => exact ⟨dflt, hdflt, rfl⟩
  | some value =>
    obtain ⟨s, rfl, hs⟩ := Schema.exists_str_of_enum (Schema.value_of_get? h hvalue hkey)
    exact ⟨s, hs, rfl⟩

lemma exists_polarity {s : String} (h : s ∈ ["AFFIRMED", "NEGATED"]) :
    ∃ p : StructuralPolarity, p.name = s := by
  simp only [List.mem_cons, List.not_mem_nil, or_false] at h
  rcases h with rfl | rfl
  · exact ⟨.AFFIRMED, rfl⟩
  · exact ⟨.NEGATED, rfl⟩

lemma exists_attribution {s : String}
    (h : s ∈ ["FIRST_PARTY", "REPORTED", "QUOTED", "HYPOTHETICAL"]) :
    ∃ a : Attribution, a.name = s := by
  simp only [List.mem_cons, List.not_mem_nil, or_false] at h
  rcases h with rfl | rfl | rfl | rfl
  · exact ⟨.FIRST_PARTY, rfl⟩
  · exact ⟨.REPORTED, rfl⟩
  · exact ⟨.QUOTED, rfl⟩
  · exact ⟨.HYPOTHETICAL, rfl⟩

lemma exists_mood {s : String} (h : s ∈ ["DIRECTIVE", "DESCRIPTIVE", "INTERROGATIVE"]) :
    ∃ m : Mood, m.name = s := by
  simp only [List.mem_cons, List.not_mem_nil, or_false] at h
  rcases h with rfl | rfl | rfl
  · exact ⟨.DIRECTIVE, rfl⟩
  · exact ⟨.DESCRIPTIVE, rfl⟩
  · exact ⟨.INTERROGATIVE, rfl⟩

lemma exists_registryPolarity {s : String} (h : s ∈ ["POSITIVE", "NEGATIVE"]) :
    ∃ p : Polarity, p.name = s := by
  simp only [List.mem_cons, List.not_mem_nil, or_false] at h
  rcases h with rfl | rfl
  · exact ⟨.POSITIVE, rfl⟩
  · exact ⟨.NEGATIVE, rfl⟩

/-- A document that satisfies its schema decodes. -/
theorem exists_fromDict {raw : Json} (h : Contract.observation raw = true) :
    ∃ o, Observation.fromDict raw = some o ∧ DecodesObservation raw o := by
  obtain ⟨_, hid, hidText⟩ := Schema.exists_get? h "observation_id" (by decide) rfl
  obtain ⟨id, rfl, -⟩ := Schema.exists_str_of_pattern hidText
  obtain ⟨_, htype, htypeText⟩ := Schema.exists_get? h "observation_type" (by decide) rfl
  obtain ⟨t, rfl, -⟩ := Schema.exists_str_of_enum htypeText
  obtain ⟨_, hinput, hinputText⟩ := Schema.exists_get? h "source_input_id" (by decide) rfl
  obtain ⟨source, rfl, -⟩ := Schema.exists_str_of_pattern hinputText
  obtain ⟨_, hstatus, hstatusText⟩ := Schema.exists_get? h "status" (by decide) rfl
  obtain ⟨_, rfl, hmem⟩ := Schema.exists_str_of_enum hstatusText
  obtain ⟨status, -, rfl⟩ := exists_status hmem
  obtain ⟨_, hp, hpolarity⟩ := default_of_enum h "polarity" rfl (by decide : "AFFIRMED" ∈ _)
  obtain ⟨polarity, rfl⟩ := exists_polarity hp
  obtain ⟨_, ha, hattribution⟩ := default_of_enum h "attribution" rfl
    (by decide : "FIRST_PARTY" ∈ _)
  obtain ⟨attribution, rfl⟩ := exists_attribution ha
  obtain ⟨_, hm, hmood⟩ := default_of_enum h "mood" rfl (by decide : "DIRECTIVE" ∈ _)
  obtain ⟨mood, rfl⟩ := exists_mood hm
  refine ⟨⟨id, status, some source, polarity, attribution, mood, some t⟩, ?_, ?_⟩
  · simp only [Observation.fromDict, Json.get, hid, htype, hinput, hstatus, hpolarity,
      hattribution, hmood, Option.getD_some, Json.str?, Status.ofString?_name,
      StructuralPolarity.ofString?_name, Attribution.ofString?_name, Mood.ofString?_name]
    rfl
  · exact ⟨by rw [Json.get, hid]; rfl, ⟨t, by rw [Json.get, htype]; rfl, rfl⟩,
      ⟨source, hinput, rfl⟩, by rw [Json.get, hstatus]; rfl, hpolarity, hattribution, hmood⟩

lemma strings_of_ids {js : List Json} (h : ∀ j ∈ js, Contract.id j = true) :
    ∃ refs, js.mapM Json.str? = some refs ∧ js = refs.map .str := by
  induction js with
  | nil => exact ⟨[], rfl, rfl⟩
  | cons j rest ih =>
    obtain ⟨hj, hrest⟩ := List.forall_mem_cons.mp h
    obtain ⟨s, rfl, -⟩ := Schema.exists_str_of_pattern hj
    obtain ⟨refs, hrefs, rfl⟩ := ih hrest
    exact ⟨s :: refs, by rw [List.mapM_cons, hrefs]; rfl, rfl⟩

/-- The references of a document that satisfies its schema are texts. -/
lemma exists_refs {raw : Json} (h : Contract.indicatorObservation raw = true) :
    ∃ refs, (raw.get "observation_refs").strings?.getD [] = refs ∧
      (raw.get "observation_refs").items = refs.map .str := by
  refine ⟨_, rfl, ?_⟩
  cases hvalue : raw.get? "observation_refs" with
  | none =>
    rw [Json.get, hvalue]
    rfl
  | some value =>
    obtain ⟨js, rfl, hall⟩ := Schema.exists_arr_of_uniqueArray (Schema.value_of_get? h hvalue rfl)
    obtain ⟨refs, hrefs, rfl⟩ := strings_of_ids hall
    rw [Json.get, hvalue, Option.getD_some, Json.strings?, hrefs]
    rfl

lemma exists_confidence {raw : Json} (h : Contract.indicatorObservation raw = true) :
    ∃ level : Option Level,
      (if (raw.get "confidence").isObj then (raw.get "confidence").get "level"
        else raw.get "confidence") = (level.map (.str ·.name)).getD .null ∧
      (raw.get? "confidence").map (·.get "level") = level.map (.str ·.name) := by
  cases hvalue : raw.get? "confidence" with
  | none => exact ⟨none, by rw [Json.get, hvalue]; rfl, rfl⟩
  | some value =>
    have hconf : Contract.confidence value = true := Schema.value_of_get? h hvalue rfl
    obtain ⟨_, hlevel, hlevelText⟩ := Schema.exists_get? hconf "level" (by decide) rfl
    obtain ⟨s, rfl, hs⟩ := Schema.exists_str_of_enum hlevelText
    obtain ⟨level, rfl⟩ : ∃ level : Level, level.name = s := by
      simp only [List.mem_cons, List.not_mem_nil, or_false] at hs
      rcases hs with rfl | rfl | rfl
      · exact ⟨.HIGH, rfl⟩
      · exact ⟨.MEDIUM, rfl⟩
      · exact ⟨.LOW, rfl⟩
    obtain ⟨entries, rfl⟩ := Schema.exists_obj_of_object hconf
    have hget : (Json.obj entries).get "level" = .str level.name := by rw [Json.get, hlevel]; rfl
    refine ⟨some level, ?_, by rw [Option.map_some, hget]; rfl⟩
    rw [Json.get, hvalue, Option.getD_some]
    exact hget

/-- A document that satisfies its schema decodes. -/
theorem exists_decode {raw : Json} (h : Contract.indicatorObservation raw = true) :
    ∃ io, IndicatorObservation.decode raw = some io ∧ DecodesIndicator raw io := by
  obtain ⟨_, hid, hidText⟩ := Schema.exists_get? h "indicator_id" (by decide) rfl
  obtain ⟨id, rfl, hidPattern⟩ := Schema.exists_str_of_pattern hidText
  obtain ⟨_, hpolarity, hpolarityText⟩ := Schema.exists_get? h "polarity" (by decide) rfl
  obtain ⟨_, rfl, hp⟩ := Schema.exists_str_of_enum hpolarityText
  obtain ⟨polarity, rfl⟩ : ∃ p : Polarity, p.name = _ := exists_registryPolarity hp
  obtain ⟨_, hmatched, hmatchedText⟩ := Schema.exists_get? h "matched" (by decide) rfl
  obtain ⟨_, rfl, hmem⟩ := Schema.exists_str_of_enum hmatchedText
  obtain ⟨status, -, rfl⟩ := exists_status hmem
  obtain ⟨_, hinput, hinputText⟩ := Schema.exists_get? h "input_id" (by decide) rfl
  obtain ⟨input, rfl, -⟩ := Schema.exists_str_of_pattern hinputText
  obtain ⟨refs, hrefs, hitems⟩ := exists_refs h
  obtain ⟨level, hlevel, hconfidence⟩ := exists_confidence h
  have hmethod : raw.get? "extraction_method" = (raw.get "extraction_method").str?.map .str := by
    cases hvalue : raw.get? "extraction_method" with
    | none =>
      rw [Json.get, hvalue]
      rfl
    | some value =>
      obtain ⟨s, rfl, -⟩ := Schema.exists_str_of_enum (Schema.value_of_get? h hvalue rfl)
      rw [Json.get, hvalue]
      rfl
  have hname : (Json.str id).truthy = true := by
    simpa [Json.truthy] using Evaluator.ne_empty_of_indicatorId hidPattern
  refine ⟨⟨id, status, some polarity, level, refs, (raw.get "supporting_spans").items,
    (raw.get "extraction_method").str?, some input⟩, ?_, ?_⟩
  · have hid' : raw.get "indicator_id" = .str id := by rw [Json.get, hid]; rfl
    have hpolarity' : raw.get "polarity" = .str polarity.name := by rw [Json.get, hpolarity]; rfl
    have hmatched' : raw.get "matched" = .str status.name := by rw [Json.get, hmatched]; rfl
    have hinput' : raw.get "input_id" = .str input := by rw [Json.get, hinput]; rfl
    simp only [IndicatorObservation.decode, hid', hname, if_true, hlevel, hrefs, hpolarity',
      hmatched', hinput', Json.str?, Status.ofString?_name, Option.bind_eq_bind, Option.bind_some,
      Polarity.ofString?_name]
    rcases level with _ | _ | _ | _ <;> rfl
  · exact ⟨by rw [Json.get, hid]; rfl, by rw [Json.get, hmatched]; rfl,
      ⟨polarity, by rw [Json.get, hpolarity]; rfl, rfl⟩, hconfidence, hitems, rfl, hmethod,
      ⟨input, hinput, rfl⟩⟩

/-! ### The documents of a submission -/

/-- The input ids a submission names. -/
def inputIds (inds obs : List Json) : List Json :=
  inds.filterMap (·.get? "input_id") ++ obs.filterMap (·.get? "source_input_id")

/-- What a submission of JSON documents has to satisfy. -/
structure Acceptable (inds obs : List Json) : Prop where
  finiteIndicators : ∀ raw ∈ inds, raw.isFinite = true
  finiteObservations : ∀ raw ∈ obs, raw.isFinite = true
  indicators : ∀ raw ∈ inds, Contract.indicatorObservation raw = true
  observations : ∀ raw ∈ obs, Contract.observation raw = true
  distinct : (obs.map (·.get "observation_id")).Nodup
  oneInput : ∀ i ∈ inputIds inds obs, ∀ j ∈ inputIds inds obs, i = j
  resolved : ∀ raw ∈ inds, ∀ ref ∈ (raw.get "observation_refs").items,
    ∃ o ∈ obs, o.get "observation_id" = ref
  consistent : ∀ raw ∈ inds, raw.get "matched" = .str "OBSERVED" →
    ∀ ref ∈ (raw.get "observation_refs").items, ∀ o ∈ obs, o.get "observation_id" = ref →
      o.get "status" ≠ .str "NOT_OBSERVED" ∧ o.get "status" ≠ .str "NOT_APPLICABLE"

/-- The decoded entries of a submission, one for each document and in its place. -/
structure Decoded (inds obs : List Json) (ios : List IndicatorObservation)
    (os : List Observation) : Prop where
  indicators : List.Forall₂ DecodesIndicator inds ios
  observations : List.Forall₂ DecodesObservation obs os

lemma exists_forall₂ {α β : Type} {R : α → β → Prop} {xs : List α} (h : ∀ x ∈ xs, ∃ y, R x y) :
    ∃ ys, List.Forall₂ R xs ys := by
  induction xs with
  | nil => exact ⟨[], .nil⟩
  | cons x rest ih =>
    obtain ⟨⟨y, hy⟩, hrest⟩ := List.forall_mem_cons.mp h
    obtain ⟨ys, hys⟩ := ih hrest
    exact ⟨y :: ys, .cons hy hys⟩

lemma exists_decodeIndicators_of_schema {inds : List Json}
    (h : ∀ raw ∈ inds, Contract.indicatorObservation raw = true) :
    ∃ ios, decodeIndicators inds = .ok ios ∧ List.Forall₂ DecodesIndicator inds ios := by
  obtain ⟨ios, hios⟩ := exists_forall₂ (R := fun raw io => (raw.isObj = true ∧
      Contract.indicatorObservation raw = true ∧ IndicatorObservation.decode raw = some io) ∧
      DecodesIndicator raw io) fun raw hraw => by
    obtain ⟨io, hio, hdecodes⟩ := exists_decode (h raw hraw)
    obtain ⟨entries, rfl⟩ := Schema.exists_obj_of_object (h raw hraw)
    exact ⟨io, ⟨rfl, h _ hraw, hio⟩, hdecodes⟩
  exact ⟨ios, decodeIndicators_ok_iff.mpr (hios.imp fun _ _ hr => hr.1),
    hios.imp fun _ _ hr => hr.2⟩

lemma exists_decodeObservations_of_schema {obs : List Json}
    (h : ∀ raw ∈ obs, Contract.observation raw = true) :
    ∃ os, List.Forall₂ (fun raw o => raw.isObj = true ∧ Contract.observation raw = true ∧
        Observation.fromDict raw = some o) obs os ∧ List.Forall₂ DecodesObservation obs os := by
  obtain ⟨os, hos⟩ := exists_forall₂ (R := fun raw o => (raw.isObj = true ∧
      Contract.observation raw = true ∧ Observation.fromDict raw = some o) ∧
      DecodesObservation raw o) fun raw hraw => by
    obtain ⟨o, ho, hdecodes⟩ := exists_fromDict (h raw hraw)
    obtain ⟨entries, rfl⟩ := Schema.exists_obj_of_object (h raw hraw)
    exact ⟨o, ⟨rfl, h _ hraw, ho⟩, hdecodes⟩
  exact ⟨os, hos.imp fun _ _ hr => hr.1, hos.imp fun _ _ hr => hr.2⟩

lemma length_sortedUnique_le_one {α : Type} [LinearOrder α] {xs : List α} :
    (sortedUnique xs).length ≤ 1 ↔ ∀ x ∈ xs, ∀ y ∈ xs, x = y := by
  have hnodup := nodup_sortedUnique xs
  have hmem : ∀ x, x ∈ sortedUnique xs ↔ x ∈ xs := fun _ => mem_sortedUnique
  match hys : sortedUnique xs with
  | [] =>
    rw [hys] at hmem
    exact ⟨fun _ x hx => absurd ((hmem x).mpr hx) List.not_mem_nil, fun _ => Nat.zero_le 1⟩
  | [a] =>
    rw [hys] at hmem
    simp only [List.mem_singleton] at hmem
    exact ⟨fun _ x hx y hy => ((hmem x).mpr hx).trans ((hmem y).mpr hy).symm, fun _ => le_rfl⟩
  | a :: b :: rest =>
    rw [hys] at hmem hnodup
    constructor
    · intro hlen
      simp at hlen
    · intro hall
      have hab : a = b := hall a ((hmem a).mp (by simp)) b ((hmem b).mp (by simp))
      simp [hab] at hnodup

section Decoded

variable {inds obs : List Json} {ios : List IndicatorObservation} {os : List Observation}

lemma Decoded.map_ids (h : Decoded inds obs ios os) :
    obs.map (·.get "observation_id") = (os.map Observation.observationId).map .str := by
  have hall := h.observations
  clear h
  induction hall with
  | nil => rfl
  | cons hr _ ih => rw [List.map_cons, List.map_cons, List.map_cons, hr.id, ih]

lemma Decoded.inputIds_eq (h : Decoded inds obs ios os) :
    inputIds inds obs = (ios.filterMap IndicatorObservation.inputId ++
      os.filterMap Observation.sourceInputId).map .str := by
  have hinds : inds.filterMap (·.get? "input_id") =
      (ios.filterMap IndicatorObservation.inputId).map .str := by
    have hall := h.indicators
    clear h
    induction hall with
    | nil => rfl
    | cons hr _ ih =>
      obtain ⟨s, hs, hio⟩ := hr.input
      rw [List.filterMap_cons_some hs, List.filterMap_cons_some hio, List.map_cons, ih]
  have hobs : obs.filterMap (·.get? "source_input_id") =
      (os.filterMap Observation.sourceInputId).map .str := by
    have hall := h.observations
    clear h hinds
    induction hall with
    | nil => rfl
    | cons hr _ ih =>
      obtain ⟨s, hs, ho⟩ := hr.input
      rw [List.filterMap_cons_some hs, List.filterMap_cons_some ho, List.map_cons, ih]
  rw [inputIds, hinds, hobs, List.map_append]

lemma Decoded.oneInput_iff (h : Decoded inds obs ios os) :
    (sortedUnique (ios.filterMap IndicatorObservation.inputId ++
        os.filterMap Observation.sourceInputId)).length ≤ 1 ↔
      ∀ i ∈ inputIds inds obs, ∀ j ∈ inputIds inds obs, i = j := by
  rw [length_sortedUnique_le_one, h.inputIds_eq]
  simp only [List.forall_mem_map, Json.str.injEq]

lemma Decoded.nodup_iff (h : Decoded inds obs ios os) :
    (obs.map (·.get "observation_id")).Nodup ↔ (os.map Observation.observationId).Nodup := by
  rw [h.map_ids, List.nodup_map_iff fun _ _ => Json.str.inj]

lemma observationById_of_mem (hnodup : (os.map Observation.observationId).Nodup)
    {o : Observation} (ho : o ∈ os) : observationById os o.observationId = some o :=
  find?_of_nodup_keys Observation.observationId hnodup ho

lemma mem_of_observationById {ref : String} {o : Observation}
    (h : observationById os ref = some o) : o ∈ os ∧ o.observationId = ref :=
  ⟨List.mem_of_find?_eq_some h, by simpa using List.find?_some h⟩

lemma refFault_eq_none_iff {io : IndicatorObservation} {ref : String} :
    refFault os io ref = none ↔ ∃ o, observationById os ref = some o ∧ Consistent io o := by
  refine ⟨refFault_eq_none, ?_⟩
  rintro ⟨o, ho, hinput, hstatus⟩
  simp only [refFault, ho]
  rw [if_neg, if_neg]
  · rintro ⟨hm, hbad⟩
    obtain ⟨h1, h2⟩ := hstatus hm
    exact hbad.elim h1 h2
  · rintro ⟨hi, hs, hne⟩
    obtain ⟨i, hi⟩ := Option.isSome_iff_exists.mp hi
    obtain ⟨s, hs⟩ := Option.isSome_iff_exists.mp hs
    exact hne (by rw [hi, hs, hinput i s hi hs])

/-- A status text is the name of one status. -/
lemma status_ne_iff {raw : Json} {o : Observation} (h : DecodesObservation raw o) (s : Status) :
    raw.get "status" ≠ .str s.name ↔ o.status ≠ s := by
  rw [h.status, ne_eq, Json.str.injEq, not_iff_not]
  refine ⟨fun hname => ?_, fun hs => by rw [hs]⟩
  have hsome : some o.status = some s := by
    rw [← Status.ofString?_name o.status, hname, Status.ofString?_name]
  exact Option.some.inj hsome

lemma matched_iff {raw : Json} {io : IndicatorObservation} (h : DecodesIndicator raw io) :
    raw.get "matched" = .str "OBSERVED" ↔ io.matched = .OBSERVED := by
  rw [h.matched, Json.str.injEq]
  cases io.matched <;> simp [Status.name]

/-- The references fit exactly when they resolve and contradict nothing. -/
lemma Decoded.refFaults_iff (h : Decoded inds obs ios os)
    (hnodup : (os.map Observation.observationId).Nodup)
    (hone : ∀ i ∈ inputIds inds obs, ∀ j ∈ inputIds inds obs, i = j) :
    refFaults os ios = [] ↔
      (∀ raw ∈ inds, ∀ ref ∈ (raw.get "observation_refs").items,
        ∃ o ∈ obs, o.get "observation_id" = ref) ∧
      ∀ raw ∈ inds, raw.get "matched" = .str "OBSERVED" →
        ∀ ref ∈ (raw.get "observation_refs").items, ∀ o ∈ obs, o.get "observation_id" = ref →
          o.get "status" ≠ .str "NOT_OBSERVED" ∧ o.get "status" ≠ .str "NOT_APPLICABLE" := by
  rw [refFaults, List.flatMap_eq_nil_iff]
  simp only [List.filterMap_eq_nil_iff, refFault_eq_none_iff]
  constructor
  · intro hrefs
    have hbacked : ∀ raw ∈ inds, ∀ ref ∈ (raw.get "observation_refs").items,
        ∃ io o, DecodesIndicator raw io ∧ o ∈ os ∧ .str o.observationId = ref ∧
          Consistent io o := by
      intro raw hraw ref href
      obtain ⟨io, hio, hdecodes⟩ := exists_right_of_forall₂ h.indicators hraw
      rw [hdecodes.refs] at href
      obtain ⟨id, hid, rfl⟩ := List.mem_map.mp href
      obtain ⟨o, ho, hconsistent⟩ := hrefs io hio id hid
      obtain ⟨hmem, rfl⟩ := mem_of_observationById ho
      exact ⟨io, o, hdecodes, hmem, rfl, hconsistent⟩
    constructor
    · intro raw hraw ref href
      obtain ⟨io, o, -, ho, rfl, -⟩ := hbacked raw hraw ref href
      obtain ⟨rawO, hrawO, hdecodesO⟩ := exists_left_of_forall₂ h.observations ho
      exact ⟨rawO, hrawO, hdecodesO.id⟩
    · intro raw hraw hm ref href rawO hrawO hid
      obtain ⟨io, o, hdecodes, ho, rfl, -, hstatus⟩ := hbacked raw hraw ref href
      obtain ⟨o', ho', hdecodesO⟩ := exists_right_of_forall₂ h.observations hrawO
      obtain rfl : o' = o := by
        have hsame : o'.observationId = o.observationId :=
          Json.str.inj (hdecodesO.id.symm.trans hid)
        have hfound := observationById_of_mem hnodup ho'
        rw [hsame, observationById_of_mem hnodup ho] at hfound
        exact (Option.some.inj hfound).symm
      obtain ⟨h1, h2⟩ := hstatus ((matched_iff hdecodes).mp hm)
      exact ⟨(status_ne_iff hdecodesO _).mpr h1, (status_ne_iff hdecodesO _).mpr h2⟩
  · rintro ⟨hresolved, hconsistent⟩ io hio ref href
    obtain ⟨raw, hraw, hdecodes⟩ := exists_left_of_forall₂ h.indicators hio
    have hitem : .str ref ∈ (raw.get "observation_refs").items := by
      rw [hdecodes.refs]
      exact List.mem_map_of_mem href
    obtain ⟨rawO, hrawO, hid⟩ := hresolved raw hraw _ hitem
    obtain ⟨o, ho, hdecodesO⟩ := exists_right_of_forall₂ h.observations hrawO
    obtain rfl : o.observationId = ref := Json.str.inj (hdecodesO.id.symm.trans hid)
    refine ⟨o, observationById_of_mem hnodup ho, ?_, fun hm => ?_⟩
    · intro i s hi hs
      have hids := h.inputIds_eq
      have hmemI : Json.str i ∈ inputIds inds obs := by
        rw [hids]
        exact List.mem_map_of_mem (List.mem_append_left _ (List.mem_filterMap.mpr ⟨io, hio, hi⟩))
      have hmemS : Json.str s ∈ inputIds inds obs := by
        rw [hids]
        exact List.mem_map_of_mem (List.mem_append_right _ (List.mem_filterMap.mpr ⟨o, ho, hs⟩))
      exact Json.str.inj (hone _ hmemS _ hmemI)
    · obtain ⟨h1, h2⟩ := hconsistent raw hraw ((matched_iff hdecodes).mpr hm) _ hitem rawO hrawO hid
      exact ⟨(status_ne_iff hdecodesO .NOT_OBSERVED).mp h1,
        (status_ne_iff hdecodesO .NOT_APPLICABLE).mp h2⟩

end Decoded

/-! ### Acceptance -/

section Boundary

variable {inds obs : List Json} {language script : String}

lemma decoded_of_decode {ios : List IndicatorObservation} {os : List Observation}
    (hios : decodeIndicators inds = .ok ios) (hos : decodeObservations [] obs = .ok os) :
    Decoded inds obs ios os := by
  constructor
  · refine (decodeIndicators_ok_iff.mp hios).imp fun raw io hr => ?_
    obtain ⟨io', hio', hdecodes⟩ := exists_decode hr.2.1
    exact Option.some.inj (hr.2.2.symm.trans hio') ▸ hdecodes
  · refine (decodeObservations_ok_iff.mp hos).1.imp fun raw o hr => ?_
    obtain ⟨o', ho', hdecodes⟩ := exists_fromDict hr.2.1
    exact Option.some.inj (hr.2.2.symm.trans ho') ▸ hdecodes

lemma decoded_of_accepted {ctx : Context}
    (h : buildValidatedContext inds obs language script = .ok ctx) :
    Decoded inds obs ctx.indicatorObservations ctx.observations := by
  obtain ⟨hadmitted, -⟩ := buildValidatedContext_ok_iff.mp h
  exact decoded_of_decode hadmitted.indicators hadmitted.observations

lemma acceptable_of_accepted {ctx : Context}
    (h : buildValidatedContext inds obs language script = .ok ctx) : Acceptable inds obs := by
  have hdecoded := decoded_of_accepted h
  obtain ⟨hadmitted, -⟩ := buildValidatedContext_ok_iff.mp h
  obtain ⟨hobs, hnodup, -⟩ := decodeObservations_ok_iff.mp hadmitted.observations
  have hinds := decodeIndicators_ok_iff.mp hadmitted.indicators
  have hone := hdecoded.oneInput_iff.mp hadmitted.oneInput
  obtain ⟨hresolved, hconsistent⟩ :=
    (hdecoded.refFaults_iff hnodup hone).mp hadmitted.references
  refine ⟨List.all_eq_true.mp hadmitted.finiteIndicators,
    List.all_eq_true.mp hadmitted.finiteObservations, fun raw hraw => ?_, fun raw hraw => ?_,
    hdecoded.nodup_iff.mpr hnodup, hone, hresolved, hconsistent⟩
  · obtain ⟨_, -, -, hschema, -⟩ := exists_right_of_forall₂ hinds hraw
    exact hschema
  · obtain ⟨_, -, -, hschema, -⟩ := exists_right_of_forall₂ hobs hraw
    exact hschema

lemma exists_accepted (h : Acceptable inds obs) :
    ∃ ctx, buildValidatedContext inds obs language script = .ok ctx := by
  obtain ⟨ios, hios, hinds⟩ := exists_decodeIndicators_of_schema h.indicators
  obtain ⟨os, hos, hobs⟩ := exists_decodeObservations_of_schema h.observations
  have hdecoded : Decoded inds obs ios os := ⟨hinds, hobs⟩
  have hnodup := hdecoded.nodup_iff.mp h.distinct
  have hrefs := (hdecoded.refFaults_iff hnodup h.oneInput).mpr ⟨h.resolved, h.consistent⟩
  refine ⟨⟨ios, os, (sortedUnique (ios.filterMap IndicatorObservation.inputId ++
      os.filterMap Observation.sourceInputId)).head?, language, script, hnodup,
      refs_resolve_of_refFaults hrefs⟩,
    buildValidatedContext_ok_iff.mpr ⟨⟨List.all_eq_true.mpr h.finiteIndicators,
      List.all_eq_true.mpr h.finiteObservations, ?_, hios, hdecoded.oneInput_iff.mpr h.oneInput,
      hrefs⟩, rfl, rfl, rfl⟩⟩
  exact decodeObservations_ok_iff.mpr ⟨hos, hnodup, by simp⟩

/-! ### Refusal -/

/-- What an error says is wrong with the submission. No check finds references across inputs once
all ids coincide. -/
def Justified (inds obs : List Json) : ContextError → Prop
  | .nonFinite .indicatorObservation => ∃ raw ∈ inds, raw.isFinite = false
  | .nonFinite .normalizedObservation => ∃ raw ∈ obs, raw.isFinite = false
  | .notAnObject .indicatorObservation => ∃ raw ∈ inds, raw.isObj = false
  | .notAnObject .normalizedObservation => ∃ raw ∈ obs, raw.isObj = false
  | .schema .indicatorObservation => ∃ raw ∈ inds, Contract.indicatorObservation raw = false
  | .schema .normalizedObservation => ∃ raw ∈ obs, Contract.observation raw = false
  | .duplicateObservation id => 2 ≤ (obs.map (·.get "observation_id")).count (.str id)
  | .crossInput ids => 1 < ids.length ∧ ids.Nodup ∧ ∀ id, id ∈ ids ↔ .str id ∈ inputIds inds obs
  | .danglingRef indicator ref => ∃ raw ∈ inds, raw.get "indicator_id" = .str indicator ∧
      .str ref ∈ (raw.get "observation_refs").items ∧
      ∀ o ∈ obs, o.get "observation_id" ≠ .str ref
  | .crossInputRef _ _ => False
  | .contradictory indicator ref => ∃ raw ∈ inds, raw.get "indicator_id" = .str indicator ∧
      .str ref ∈ (raw.get "observation_refs").items ∧ raw.get "matched" = .str "OBSERVED" ∧
      ∃ o ∈ obs, o.get "observation_id" = .str ref ∧
        (o.get "status" = .str "NOT_OBSERVED" ∨ o.get "status" = .str "NOT_APPLICABLE")

lemma decodeObservations_error {seen : List String} {raws : List Json} {e : ContextError}
    (h : decodeObservations seen raws = .error e) :
    (e = .notAnObject .normalizedObservation ∧ ∃ raw ∈ raws, raw.isObj = false) ∨
    (e = .schema .normalizedObservation ∧ ∃ raw ∈ raws, Contract.observation raw = false) ∨
    ∃ id, e = .duplicateObservation id ∧
      2 ≤ (seen.map Json.str ++ raws.map fun raw => raw.get "observation_id").count (.str id) := by
  induction raws generalizing seen with
  | nil => cases h
  | cons raw rest ih =>
    rw [decodeObservations] at h
    split_ifs at h with hobj hschema
    · cases h
      exact .inl ⟨rfl, raw, List.mem_cons_self, hobj⟩
    · cases h
      exact .inr (.inl ⟨rfl, raw, List.mem_cons_self, hschema⟩)
    obtain ⟨o, ho, hdecodes⟩ := exists_fromDict (by simpa using hschema)
    simp only [ho] at h
    split_ifs at h with hseen
    · cases h
      refine .inr (.inr ⟨_, rfl, ?_⟩)
      rw [List.count_append, List.map_cons, hdecodes.id, List.count_cons_self]
      have hpos : 0 < (seen.map Json.str).count (.str o.observationId) :=
        List.count_pos_iff.mpr (List.mem_map_of_mem hseen)
      omega
    · split at h
      · rename_i e' hrest
        cases h
        rcases ih hrest with ⟨he, raw', hraw', hbad⟩ | ⟨he, raw', hraw', hbad⟩ | ⟨id, he, hcount⟩
        · exact .inl ⟨he, raw', List.mem_cons_of_mem _ hraw', hbad⟩
        · exact .inr (.inl ⟨he, raw', List.mem_cons_of_mem _ hraw', hbad⟩)
        · refine .inr (.inr ⟨id, he, ?_⟩)
          -- the id read here moves from the seen ones to the list
          rw [List.map_cons, hdecodes.id, List.perm_middle.count_eq]
          exact hcount
      · cases h

lemma decodeIndicators_error {raws : List Json} {e : ContextError}
    (h : decodeIndicators raws = .error e) :
    (e = .notAnObject .indicatorObservation ∧ ∃ raw ∈ raws, raw.isObj = false) ∨
    (e = .schema .indicatorObservation ∧
      ∃ raw ∈ raws, Contract.indicatorObservation raw = false) := by
  induction raws with
  | nil => cases h
  | cons raw rest ih =>
    rw [decodeIndicators] at h
    split_ifs at h with hobj hschema
    · cases h
      exact .inl ⟨rfl, raw, List.mem_cons_self, hobj⟩
    · cases h
      exact .inr ⟨rfl, raw, List.mem_cons_self, hschema⟩
    obtain ⟨io, hio, -⟩ := exists_decode (by simpa using hschema)
    simp only [hio] at h
    split at h
    · rename_i e' hrest
      cases h
      rcases ih hrest with ⟨he, raw', hraw', hbad⟩ | ⟨he, raw', hraw', hbad⟩
      · exact .inl ⟨he, raw', List.mem_cons_of_mem _ hraw', hbad⟩
      · exact .inr ⟨he, raw', List.mem_cons_of_mem _ hraw', hbad⟩
    · cases h

lemma justified_of_refFault {ios : List IndicatorObservation} {os : List Observation}
    (h : Decoded inds obs ios os) (hone : ∀ i ∈ inputIds inds obs, ∀ j ∈ inputIds inds obs, i = j)
    {io : IndicatorObservation} (hio : io ∈ ios) {ref : String} (href : ref ∈ io.observationRefs)
    {e : ContextError} (he : refFault os io ref = some e) : Justified inds obs e := by
  obtain ⟨raw, hraw, hdecodes⟩ := exists_left_of_forall₂ h.indicators hio
  have hitem : .str ref ∈ (raw.get "observation_refs").items := by
    rw [hdecodes.refs]
    exact List.mem_map_of_mem href
  unfold refFault at he
  split at he
  · rename_i hnone
    cases he
    refine ⟨raw, hraw, hdecodes.id, hitem, fun rawO hrawO hid => ?_⟩
    obtain ⟨o, ho, hdecodesO⟩ := exists_right_of_forall₂ h.observations hrawO
    obtain rfl : o.observationId = ref := Json.str.inj (hdecodesO.id.symm.trans hid)
    have hmiss := List.find?_eq_none.mp hnone o ho
    simp at hmiss
  · rename_i o hfound
    obtain ⟨ho, rfl⟩ := mem_of_observationById hfound
    obtain ⟨rawO, hrawO, hdecodesO⟩ := exists_left_of_forall₂ h.observations ho
    split_ifs at he with hinput hbad
    · obtain ⟨i, hi, hioi⟩ := hdecodes.input
      obtain ⟨s, hs, hos⟩ := hdecodesO.input
      have hmemI : Json.str i ∈ inputIds inds obs :=
        List.mem_append_left _ (List.mem_filterMap.mpr ⟨raw, hraw, hi⟩)
      have hmemS : Json.str s ∈ inputIds inds obs :=
        List.mem_append_right _ (List.mem_filterMap.mpr ⟨rawO, hrawO, hs⟩)
      exact absurd (by rw [hioi, hos, Json.str.inj (hone _ hmemS _ hmemI)]) hinput.2.2
    · cases he
      refine ⟨raw, hraw, hdecodes.id, hitem, (matched_iff hdecodes).mpr hbad.1, rawO, hrawO,
        hdecodesO.id, ?_⟩
      rcases hbad.2 with hs | hs
      · exact .inl (by rw [hdecodesO.status, hs]; rfl)
      · exact .inr (by rw [hdecodesO.status, hs]; rfl)

lemma exists_not_finite {raws : List Json} (h : raws.all Json.isFinite = false) :
    ∃ raw ∈ raws, raw.isFinite = false := by
  simpa using h

/-- What refuses a submission is what the error says. -/
theorem justified_of_refused {e : ContextError}
    (h : buildValidatedContext inds obs language script = .error e) : Justified inds obs e := by
  unfold buildValidatedContext at h
  split_ifs at h with hinds hobs
  · cases h
    exact exists_not_finite hinds
  · cases h
    exact exists_not_finite hobs
  split at h
  · rename_i e' hos
    cases h
    rcases decodeObservations_error hos with ⟨rfl, hbad⟩ | ⟨rfl, hbad⟩ | ⟨id, rfl, hcount⟩
    · exact hbad
    · exact hbad
    · simpa [Justified] using hcount
  · rename_i os hos
    split at h
    · rename_i e' hios
      cases h
      rcases decodeIndicators_error hios with ⟨rfl, hbad⟩ | ⟨rfl, hbad⟩
      · exact hbad
      · exact hbad
    · rename_i ios hios
      have hdecoded := decoded_of_decode hios hos
      simp only at h
      split_ifs at h with hone
      · cases h
        refine ⟨hone, nodup_sortedUnique _, fun id => ?_⟩
        rw [mem_sortedUnique, hdecoded.inputIds_eq, List.mem_map_of_injective fun _ _ => Json.str.inj]
      · split at h
        · rename_i e' rest hfaults
          cases h
          have hmem : e ∈ refFaults os ios := hfaults ▸ List.mem_cons_self
          obtain ⟨io, hio, hmem⟩ := List.mem_flatMap.mp hmem
          obtain ⟨ref, href, hfault⟩ := List.mem_filterMap.mp hmem
          exact justified_of_refFault hdecoded (hdecoded.oneInput_iff.mp (not_lt.mp hone)) hio href
            hfault
        · cases h

/-! ### The context of a submission -/

/-- A context holds each document once: the occurrences in the order they came, grouped by
indicator in that order, and the observations under their ids. No reference is left open, so the
structural verdict finds an observation for each. -/
structure Holds (inds obs : List Json) (ctx : Context) : Prop where
  decoded : Decoded inds obs ctx.indicatorObservations ctx.observations
  grouped : ∀ id, List.Forall₂ DecodesIndicator
    (inds.filter fun raw => decide (raw.get "indicator_id" = .str id)) (ctx.observationsFor id)
  found : ∀ o ∈ ctx.observations, observationById ctx.observations o.observationId = some o
  resolved : ∀ io ∈ ctx.indicatorObservations,
    (io.observationRefs.filterMap (observationById ctx.observations)).length =
      io.observationRefs.length

lemma forall₂_filter {α β : Type} {R : α → β → Prop} {p : α → Bool} {q : β → Bool} {xs : List α}
    {ys : List β} (h : List.Forall₂ R xs ys) (hpq : ∀ x y, R x y → p x = q y) :
    List.Forall₂ R (xs.filter p) (ys.filter q) := by
  induction h with
  | nil => exact .nil
  | cons hr _ ih =>
    rw [List.filter_cons, List.filter_cons, hpq _ _ hr]
    split_ifs
    · exact .cons hr ih
    · exact ih

lemma length_filterMap_of_isSome {α β : Type} {f : α → Option β} {xs : List α}
    (h : ∀ x ∈ xs, ∃ y, f x = some y) : (xs.filterMap f).length = xs.length := by
  induction xs with
  | nil => rfl
  | cons x rest ih =>
    obtain ⟨⟨y, hy⟩, hrest⟩ := List.forall_mem_cons.mp h
    rw [List.filterMap_cons_some hy, List.length_cons, List.length_cons, ih hrest]

lemma holds_of_accepted {ctx : Context}
    (h : buildValidatedContext inds obs language script = .ok ctx) : Holds inds obs ctx := by
  have hdecoded := decoded_of_accepted h
  refine ⟨hdecoded, fun id => ?_, fun o ho => observationById_of_mem ctx.observations_nodup ho,
    fun io hio => ?_⟩
  · refine forall₂_filter hdecoded.indicators fun raw io hr => ?_
    rw [Bool.eq_iff_iff, decide_eq_true_iff, hr.id, Json.str.injEq, beq_iff_eq]
  · refine length_filterMap_of_isSome fun ref href => ?_
    obtain ⟨o, ho, -⟩ := ctx.refs_resolve io hio ref href
    exact ⟨o, ho⟩

/-- The boundary is sound and complete: it admits what fits together, holds every document of it,
and refuses the rest by an error that is justified. -/
theorem validated_context_iff (inds obs : List Json) (language script : String) :
    ((∃ ctx, buildValidatedContext inds obs language script = .ok ctx) ↔ Acceptable inds obs) ∧
    (∀ ctx, buildValidatedContext inds obs language script = .ok ctx → Holds inds obs ctx) ∧
    ∀ e, buildValidatedContext inds obs language script = .error e → Justified inds obs e :=
  ⟨⟨fun ⟨_, h⟩ => acceptable_of_accepted h, exists_accepted⟩, fun _ => holds_of_accepted,
    fun _ => justified_of_refused⟩

end Boundary

end TrustLens.Runtime
