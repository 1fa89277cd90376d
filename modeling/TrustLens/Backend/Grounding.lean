import Mathlib
import TrustLens.Backend.Liveness
import TrustLens.Lib.Except

/-!
# What the governed records say

The records of an extraction decode to what its findings are: the ids are distinct, every
reference resolves to one observation of the same input, and a positive indicator rests on
an observation with the structure of its finding.
-/

namespace TrustLens.Backend.Extraction

open TrustLens.Runtime (RuntimeKnowledge Level Status StructuralPolarity Attribution Mood Polarity
  Observation IndicatorObservation observationById structuralVerdict observationVerdict)

/-! ### Ids -/

lemma observationId_injective (inputId : String) : Function.Injective (observationId inputId) := by
  intro m n h
  simp only [observationId] at h
  exact Nat.repr_inj.mp ((String.append_right_inj _).mp h)

lemma oids_place (inputId : String) (fs : List Finding) :
    ((place inputId fs).map Placed.oid).Nodup := by
  have hoid : (place inputId fs).map Placed.oid =
      (((fs.zipIdx.insertionSort fun a b => a.1.Precedes b.1).zipIdx 1).map Prod.snd).map
        (observationId inputId) := by
    simp only [place, List.map_map]
    rfl
  rw [hoid, List.zipIdx_map_snd]
  exact (List.nodup_range').map (observationId_injective inputId)

lemma finding_mem_of_place {inputId : String} {fs : List Finding} {p : Placed}
    (hp : p ∈ place inputId fs) : p.finding ∈ fs := by
  simp only [place, List.mem_map] at hp
  obtain ⟨e, he, rfl⟩ := hp
  have hmem := List.fst_mem_of_mem_zipIdx he
  rw [List.mem_insertionSort] at hmem
  exact List.fst_mem_of_mem_zipIdx hmem

lemma exists_place_of_mem (inputId : String) {fs : List Finding} {f : Finding} (hf : f ∈ fs) :
    ∃ p ∈ place inputId fs, p.finding = f := by
  obtain ⟨i, hi, rfl⟩ := List.mem_iff_getElem.mp hf
  have hpair : (fs[i], i) ∈ fs.zipIdx.insertionSort fun a b => a.1.Precedes b.1 := by
    rw [List.mem_insertionSort]
    exact List.mk_mem_zipIdx_iff_getElem?.mpr (List.getElem?_eq_getElem hi)
  obtain ⟨k, hk, hpair⟩ := List.mem_iff_getElem.mp hpair
  refine ⟨⟨fs[i], i, observationId inputId (1 + k)⟩, ?_, rfl⟩
  rw [place, List.mem_map]
  refine ⟨((fs[i], i), 1 + k), ?_, rfl⟩
  rw [List.mk_mem_zipIdx_iff_le_and_getElem?_sub]
  rw [Nat.add_sub_cancel_left, List.getElem?_eq_getElem hk, hpair]
  exact ⟨Nat.le_add_right 1 k, rfl⟩

/-! ### Decoding the records -/

lemma lookup_append {key : String} {xs ys : List (String × Json)} :
    Json.lookup key (xs ++ ys) = (Json.lookup key xs).or (Json.lookup key ys) := by
  induction xs with
  | nil => rfl
  | cons e rest ih =>
    obtain ⟨k, v⟩ := e
    simp only [List.cons_append, Json.lookup]
    split_ifs
    · rfl
    · exact ih

lemma lookup_entry {key k : String} {fields : List (String × Json)} (h : k ≠ key) :
    Json.lookup key (entry k fields) = none := by
  unfold entry
  split_ifs
  · rfl
  · simp [Json.lookup, h]

/-- No part of a frame is named like a field of the structure. -/
lemma lookup_frame {key : String} {frame : Frame}
    (h : key ∉ ["actor", "action", "target", "pressure", "pretext", "payment_direction"]) :
    Json.lookup key frame.entries = none := by
  simp only [List.mem_cons, List.not_mem_nil, or_false, not_or] at h
  obtain ⟨h1, h2, h3, h4, h5, h6⟩ := h
  simp only [Frame.entries, lookup_append, lookup_entry (Ne.symm h1), lookup_entry (Ne.symm h2),
    lookup_entry (Ne.symm h3), lookup_entry (Ne.symm h4), lookup_entry (Ne.symm h5), Option.or_none]
  cases frame.paymentDirection <;> simp [Json.lookup, Ne.symm h6]

/-- The typed observation a placed finding becomes, with the defaults of the schema. -/
def Placed.observation (inputId : String) (p : Placed) : Observation where
  observationId := p.oid
  status := p.finding.status
  sourceInputId := some inputId
  polarity := (p.finding.struct.map Structure.polarity).getD .AFFIRMED
  attribution := (p.finding.struct.map Structure.attribution).getD .FIRST_PARTY
  mood := (p.finding.struct.map Structure.mood).getD .DIRECTIVE
  observationType := some p.finding.obsType.name

lemma fromDict_observation (P : Pack) (inputId : String) (raw : Text) (p : Placed) :
    Observation.fromDict (p.finding.observation P inputId p.oid raw) =
      some (p.observation inputId) := by
  have hurl : ∀ key, key ≠ "url_ref" →
      Json.lookup key (p.finding.urlRef.toList.map fun u => ("url_ref", text u)) = none := by
    intro key hkey
    cases p.finding.urlRef <;> simp [Json.lookup, hkey.symm]
  have hframe : ∀ key ∈ ["polarity", "attribution", "mood"],
      Json.lookup key p.finding.frame.entries = none := by
    intro key hkey
    apply lookup_frame
    fin_cases hkey <;> decide
  have hstruct : ∀ key ∈ ["polarity", "attribution", "mood"],
      (p.finding.observation P inputId p.oid raw).get? key =
        Json.lookup key (p.finding.struct.toList.flatMap Structure.entries) := by
    intro key hkey
    have hu : key ≠ "url_ref" := by
      rintro rfl
      simp at hkey
    simp only [Finding.observation, Json.get?, lookup_append, hframe key hkey, hurl key hu,
      Option.or_none]
    fin_cases hkey <;> simp [Json.lookup]
  have hid : (p.finding.observation P inputId p.oid raw).get "observation_id" = text p.oid := rfl
  have hsource : (p.finding.observation P inputId p.oid raw).get "source_input_id" =
      text inputId := rfl
  have htype : (p.finding.observation P inputId p.oid raw).get "observation_type" =
      text p.finding.obsType.name := rfl
  have hstatus : (p.finding.observation P inputId p.oid raw).get? "status" =
      some (text p.finding.status.name) := rfl
  simp only [Observation.fromDict, hid, hsource, htype, hstatus,
    hstruct "polarity" (by simp), hstruct "attribution" (by simp), hstruct "mood" (by simp)]
  cases hs : p.finding.struct with
  | none =>
    simp [Placed.observation, hs, text, Json.str?, Json.lookup, StructuralPolarity.ofString?,
      Attribution.ofString?, Mood.ofString?]
  | some st => simp [Placed.observation, hs, text, Json.str?, Structure.entries, Json.lookup]

/-- The typed indicator observation an emission becomes. -/
def Emission.decoded (K : ActiveKnowledge) (inputId : String) (placed : List Placed) (p : Placed)
    (e : Emission) : IndicatorObservation where
  indicatorId := e.indicatorId
  matched := .OBSERVED
  polarity := some (if K.isPositive e.indicatorId then .POSITIVE else .NEGATIVE)
  confidence := some e.confidence
  observationRefs := refsOf placed p e
  supportingSpans := (supportingSpans placed (refsOf placed p e)).map fun s => spanJson s.1 s.2
  extractionMethod :=
    some (if 1 < (refsOf placed p e).length then "COMPOSED" else "DETERMINISTIC_PATTERN")
  inputId := some inputId

lemma strings?_text (refs : List String) : (Json.arr (refs.map text)).strings? = some refs := by
  simp only [Json.strings?]
  induction refs with
  | nil => rfl
  | cons r rest ih =>
    rw [List.map_cons, List.mapM_cons, ih]
    rfl

lemma decode_observation (P : Pack) (K : ActiveKnowledge) (inputId : String)
    (lang : LanguageAssessment) (placed : List Placed) (p : Placed) {e : Emission}
    (hid : e.indicatorId ≠ "") :
    IndicatorObservation.decode (e.observation P K inputId lang placed p) =
      some (e.decoded K inputId placed p) := by
  generalize hd : e.observation P K inputId lang placed p = d
  have hindicator : d.get "indicator_id" = text e.indicatorId := hd ▸ rfl
  have hpolarity : d.get "polarity" =
      text (if K.isPositive e.indicatorId then Polarity.POSITIVE else .NEGATIVE).name := hd ▸ rfl
  have hmatched : d.get "matched" = text "OBSERVED" := hd ▸ rfl
  have hinput : d.get "input_id" = text inputId := hd ▸ rfl
  have hconfidence : d.get "confidence" =
      .obj [("level", text e.confidence.name), ("method", text "CATEGORICAL")] := hd ▸ rfl
  have hrefs : d.get "observation_refs" = .arr ((refsOf placed p e).map text) := hd ▸ rfl
  have hspans : d.get "supporting_spans" = .arr
      ((supportingSpans placed (refsOf placed p e)).map fun s => spanJson s.1 s.2) := hd ▸ rfl
  have hmethod : d.get "extraction_method" =
      text (if 1 < (refsOf placed p e).length then "COMPOSED" else "DETERMINISTIC_PATTERN") :=
    hd ▸ rfl
  simp only [IndicatorObservation.decode, hindicator, hpolarity, hmatched, hinput, hconfidence,
    hrefs, hspans, hmethod, strings?_text]
  simp [Emission.decoded, text, Json.truthy, hid, Json.str?, Json.isObj, Json.get, Json.get?,
    Json.lookup, Status.ofString?, Json.items]

/-! ### The records of an extraction -/

/-- Selecting a key among distinct ones selects one member. -/
lemma filter_key_eq_singleton {ι κ : Type*} [DecidableEq κ] (key : ι → κ) {xs : List ι}
    (hn : (xs.map key).Nodup) {x : ι} (hx : x ∈ xs) : xs.filter (fun y => key y == key x) = [x] := by
  induction xs with
  | nil => simp at hx
  | cons y rest ih =>
    rw [List.map_cons, List.nodup_cons] at hn
    rcases List.mem_cons.mp hx with rfl | hx
    · have hrest : rest.filter (fun z => key z == key x) = [] := by
        rw [List.filter_eq_nil_iff]
        intro z hz heq
        exact hn.1 (List.mem_map.mpr ⟨z, hz, by simpa using heq⟩)
      simp [hrest]
    · have hne : (key y == key x) = false := by
        rw [beq_eq_false_iff_ne]
        intro heq
        exact hn.1 (List.mem_map.mpr ⟨x, hx, heq.symm⟩)
      rw [List.filter_cons_of_neg (by simp [hne])]
      exact ih hn.2 hx

section

variable (P : Pack)

lemma fromDict_observationsOf {inputId : String} {raw : Text} {origins : List Origin}
    {placed : List Placed} {observations : List Json}
    (h : observationsOf P inputId raw origins placed = .ok observations) :
    observations.map Observation.fromDict =
      (placed.map (Placed.observation inputId)).map some := by
  have hpairs := forall₂_of_mapM_ok h
  clear h
  induction hpairs with
  | nil => rfl
  | cons hp _ ih =>
    obtain ⟨span, -, hspan⟩ := bind_ok hp
    obtain rfl := Except.ok.inj hspan
    simp only [List.map_cons, ih, fromDict_observation]

lemma filterMap_fromDict {observations : List Json} {os : List Observation}
    (h : observations.map Observation.fromDict = os.map some) :
    observations.filterMap Observation.fromDict = os := by
  have := congrArg (List.filterMap id) h
  simpa [List.filterMap_map] using this

/-- The emissions of an extraction, in any order. -/
lemma mem_indicatorsOf {K : ActiveKnowledge} {inputId : String} {lang : LanguageAssessment}
    {placed : List Placed} {j : Json} :
    j ∈ indicatorsOf P K inputId lang placed ↔
      ∃ p ∈ placed, ∃ e ∈ p.finding.indicators, j = e.observation P K inputId lang placed p := by
  simp only [indicatorsOf, List.mem_map, List.mem_insertionSort, List.mem_flatMap]
  constructor
  · rintro ⟨_, ⟨p, hp, e, he, rfl⟩, rfl⟩
    exact ⟨p, hp, e, he, rfl⟩
  · rintro ⟨p, hp, e, he, rfl⟩
    exact ⟨_, ⟨p, hp, e, he, rfl⟩, rfl⟩

/-- Every id an emission refers to is the id of a placed finding. -/
lemma exists_of_mem_refsOf {placed : List Placed} {p : Placed} (hp : p ∈ placed) {e : Emission}
    {ref : String} (h : ref ∈ refsOf placed p e) : ∃ q ∈ placed, q.oid = ref := by
  unfold refsOf at h
  split at h
  · simp only [citedIds, List.mem_filterMap, Option.map_eq_some_iff] at h
    obtain ⟨n, -, q, hq, rfl⟩ := h
    exact ⟨q, List.mem_of_find?_eq_some hq, rfl⟩
  · exact ⟨p, hp, (List.mem_singleton.mp h).symm⟩

lemma refsOf_own (placed : List Placed) (p : Placed) {e : Emission} (h : e.cites = none) :
    refsOf placed p e = [p.oid] := by
  simp [refsOf, h]

end

/-! ### Structural verdicts -/

section

variable {inputId : String} {placed : List Placed} (hn : (placed.map Placed.oid).Nodup)
include hn

lemma filter_placed {p : Placed} (hp : p ∈ placed) :
    (placed.map (Placed.observation inputId)).filter (·.observationId == p.oid) =
      [p.observation inputId] := by
  rw [List.filter_map]
  have := filter_key_eq_singleton Placed.oid hn hp
  simp only [Function.comp_def, Placed.observation] at this ⊢
  rw [this]
  rfl

lemma observationById_placed {p : Placed} (hp : p ∈ placed) :
    observationById (placed.map (Placed.observation inputId)) p.oid =
      some (p.observation inputId) := by
  rw [observationById, ← List.head?_filter, filter_placed hn hp]
  rfl

/-- What refers to one observation takes its verdict. -/
lemma structuralVerdict_own {p : Placed} (hp : p ∈ placed) {io : IndicatorObservation}
    (hrefs : io.observationRefs = [p.oid]) :
    structuralVerdict (placed.map (Placed.observation inputId)) io = .LIVE ↔
      observationVerdict (p.observation inputId) = .LIVE := by
  simp only [structuralVerdict, hrefs, List.filterMap_cons, observationById_placed hn hp,
    List.filterMap_nil, List.mem_singleton, forall_eq]
  simp only [List.cons_ne_nil, if_false, List.length_singleton, ne_eq, not_true_eq_false]
  split_ifs with hlive hdead
  · simp [hlive]
  · simp [hdead]
  · simp [hlive]

end

/-- An observed finding is live for the evaluator exactly when it is heard. -/
lemma observationVerdict_placed {inputId : String} {p : Placed}
    (hobs : p.finding.status = .OBSERVED) :
    observationVerdict (p.observation inputId) = .LIVE ↔ p.finding.heard = true := by
  cases hs : p.finding.struct with
  | none =>
    simp [observationVerdict, Placed.observation, hs, hobs, Finding.heard_of_struct_none hs]
  | some st =>
    obtain ⟨polarity, attribution, mood⟩ := st
    cases polarity <;> cases attribution <;> cases mood <;>
      simp [observationVerdict, Placed.observation, hs, hobs, Finding.heard, Finding.live,
        Structure.live, Structure.described]

/-! ### What `extract_text` returns -/

section

variable (U : Unicode) (P : Pack)

/-- The text a submission is admitted as. -/
def admittedText (s : Submission) : Option Text :=
  if maxTextBytes < s.data.size then none
  else (decode s.data).filter fun raw => !raw.any (malformedControl U)

/-- The message the recognisers read, when the language is supported. -/
def messageRead (s : Submission) : Option Message :=
  (admittedText U s).bind fun raw =>
    if (readingOf U P s raw).assessment.supported then some (readingOf U P s raw).msg else none

/-- The findings behind a submission. -/
def findingsRead (s : Submission) : List Finding :=
  ((messageRead U P s).map fun msg => findAll U P msg s.inputId).getD []

/-- The records are those of the findings, and carry the ids of the submission. -/
structure Records (K : ActiveKnowledge) (s : Submission) (g : GovernedInput) : Prop where
  inputId_eq : g.inputId = s.inputId
  observations_eq : g.observations.map Observation.fromDict =
    ((place s.inputId (findingsRead U P s)).map (Placed.observation s.inputId)).map some
  decoded : ∀ j ∈ g.indicatorObservations, ∃ p ∈ place s.inputId (findingsRead U P s),
    ∃ e ∈ p.finding.indicators, IndicatorObservation.decode j =
      some (e.decoded K s.inputId (place s.inputId (findingsRead U P s)) p)
  emitted : ∀ p ∈ place s.inputId (findingsRead U P s), ∀ e ∈ p.finding.indicators,
    ∃ j ∈ g.indicatorObservations, IndicatorObservation.decode j =
      some (e.decoded K s.inputId (place s.inputId (findingsRead U P s)) p)

variable {U P} {K : ActiveKnowledge} {s : Submission} {g : GovernedInput}

/-- A submission that is not decoded has no records. -/
lemma records_errorInput {code message : String} (hread : messageRead U P s = none)
    (h : errorInput K s code message = .ok g) : Records U P K s g := by
  obtain ⟨_, -, h⟩ := bind_ok h
  obtain rfl := Except.ok.inj h
  have hplace : place s.inputId (findingsRead U P s) = [] := by
    simp [findingsRead, hread, place]
  exact ⟨rfl, by simp [hplace], by simp, by simp [hplace]⟩

/-- The id of an indicator observation that its contract accepts is not empty. -/
lemma indicatorId_ne_empty {placed : List Placed} {p : Placed} {lang : LanguageAssessment}
    {e : Emission}
    (h : Runtime.Contract.indicatorObservation (e.observation P K s.inputId lang placed p) = true) :
    e.indicatorId ≠ "" := by
  rintro hempty
  obtain ⟨-, hall⟩ := Schema.object_obj.mp h
  obtain ⟨v, hv, hok⟩ := hall ("indicator_id", text e.indicatorId) (by simp)
  obtain rfl := Option.some.inj hv
  rw [hempty] at hok
  exact absurd hok (by decide)

lemma findings_readingOf {raw : Text} (hraw : admittedText U s = some raw) :
    (readingOf U P s raw).findings U P s.inputId = findingsRead U P s := by
  rw [findingsRead, messageRead, hraw, Option.bind_some, Reading.findings]
  generalize readingOf U P s raw = r
  cases r.assessment.supported with
  | false => simp only [Bool.false_eq_true, if_false, Option.map_none, Option.getD_none]
  | true => simp only [if_true, Option.map_some, Option.getD_some]

lemma records_extractDecoded {raw : Text} (hraw : admittedText U s = some raw)
    (h : extractDecoded U P K s raw = .ok g) : Records U P K s g := by
  unfold extractDecoded at h
  obtain ⟨urls, -, h⟩ := bind_ok h
  obtain ⟨observations, hobservations, h⟩ := bind_ok h
  obtain ⟨_, -, h⟩ := bind_ok h
  obtain ⟨_, hvalid, h⟩ := bind_ok h
  obtain ⟨_, -, h⟩ := bind_ok h
  obtain ⟨_, -, h⟩ := bind_ok h
  obtain rfl := Except.ok.inj h
  have hplaced : (readingOf U P s raw).placed U P s.inputId =
      place s.inputId (findingsRead U P s) := by
    rw [Reading.placed, findings_readingOf hraw]
  obtain ⟨_, -, hvalid⟩ := bind_ok hvalid
  obtain ⟨_, hindicators, -⟩ := bind_ok hvalid
  have hdecode : ∀ p ∈ place s.inputId (findingsRead U P s), ∀ e ∈ p.finding.indicators,
      e.observation P K s.inputId (readingOf U P s raw).assessment
          (place s.inputId (findingsRead U P s)) p ∈
        (governed U P K s raw (readingOf U P s raw) urls observations).indicatorObservations ∧
      IndicatorObservation.decode (e.observation P K s.inputId (readingOf U P s raw).assessment
          (place s.inputId (findingsRead U P s)) p) =
        some (e.decoded K s.inputId (place s.inputId (findingsRead U P s)) p) := by
    intro p hp e he
    have hmem : e.observation P K s.inputId (readingOf U P s raw).assessment
          (place s.inputId (findingsRead U P s)) p ∈
        (governed U P K s raw (readingOf U P s raw) urls observations).indicatorObservations := by
      rw [governed, hplaced]
      exact (mem_indicatorsOf P).mpr ⟨p, hp, e, he, rfl⟩
    refine ⟨hmem, decode_observation P K _ _ _ _ ?_⟩
    have hok := ok_of_forM hindicators _ hmem
    unfold checkSchema at hok
    split_ifs at hok with hschema
    exact indicatorId_ne_empty hschema
  refine ⟨rfl, ?_, ?_, ?_⟩
  · rw [← hplaced]
    exact fromDict_observationsOf P hobservations
  · intro j hj
    rw [governed, hplaced] at hj
    obtain ⟨p, hp, e, he, rfl⟩ := (mem_indicatorsOf P).mp hj
    exact ⟨p, hp, e, he, (hdecode p hp e he).2⟩
  · intro p hp e he
    exact ⟨_, (hdecode p hp e he).1, (hdecode p hp e he).2⟩

lemma admittedText_of_size (h : maxTextBytes < s.data.size) : admittedText U s = none := by
  rw [admittedText, if_pos h]

/-- What `extract_text` returns are the records of the findings. -/
theorem records_of_extractText (h : extractText U P (some K) s = .ok g) : Records U P K s g := by
  have hnone : admittedText U s = none → messageRead U P s = none := by
    intro hraw
    rw [messageRead, hraw, Option.bind_none]
  unfold extractText at h
  simp only at h
  split_ifs at h with hversion htype hid hsize
  · exact records_errorInput (hnone (admittedText_of_size hsize)) h
  · split at h
    · rename_i hdecode
      refine records_errorInput (hnone ?_) h
      rw [admittedText, if_neg hsize, hdecode, Option.filter_none]
    · rename_i raw hdecode
      split_ifs at h with hcontrol
      · refine records_errorInput (hnone ?_) h
        rw [admittedText, if_neg hsize, hdecode, Option.filter_some, hcontrol]
        rfl
      · refine records_extractDecoded ?_ h
        rw [admittedText, if_neg hsize, hdecode, Option.filter_some,
          (Bool.not_eq_true _).mp hcontrol]
        rfl

end

end TrustLens.Backend.Extraction
