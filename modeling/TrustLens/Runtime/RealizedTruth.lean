import TrustLens.Runtime.LoadedRules

/-!
# Data for any truth of the indicators

Whatever truth values are given to the registered indicators, there is governed data under
which the evaluator reads just these: one live observation, and an assertion on it for each
indicator that is not UNKNOWN.
-/

namespace TrustLens.Runtime.Evaluator

/-- An extractor assertion on the observation `o-1`, at full confidence. -/
def assertion (id : String) (matched : Status) : Json :=
  .obj [("indicator_id", .str id), ("polarity", .str "POSITIVE"), ("matched", .str matched.name),
    ("confidence", .obj [("level", .str "HIGH")]), ("observation_refs", .arr [.str "o-1"]),
    ("input_id", .str "in-1"), ("provenance", sampleProvenance)]

/-- The status that is read as a truth value, none for UNKNOWN. -/
def statusOf : Truth → Option Status
  | .TRUE => some .OBSERVED
  | .FALSE => some .NOT_OBSERVED
  | .UNKNOWN => none

/-- The assertions for the indicators of a list. -/
def assertions (truth : String → Truth) (ids : List String) : List Json :=
  ids.filterMap fun id => (statusOf (truth id)).map (assertion id)

/-- The assertion as it is decoded. -/
def asserted (id : String) (matched : Status) : IndicatorObservation where
  indicatorId := id
  matched := matched
  polarity := some .POSITIVE
  confidence := some .HIGH
  observationRefs := ["o-1"]
  supportingSpans := []
  extractionMethod := none
  inputId := some "in-1"

lemma ne_empty_of_indicatorId {id : String} (h : Condition.indicatorId id = true) : id ≠ "" := by
  rintro rfl
  revert h
  decide

section Assertion

variable {id : String} {matched : Status}

lemma isFinite_assertion : (assertion id matched).isFinite = true := rfl

lemma assertion_conforms (h : Condition.indicatorId id = true) :
    Contract.indicatorObservation (assertion id matched) = true := by
  have hrest : ∀ s : Status, Schema.enum Contract.statuses (.str s.name) = true := by
    intro s
    cases s <;> decide
  rw [Contract.indicatorObservation, assertion, Schema.object_obj]
  simp only [List.forall_mem_cons]
  refine ⟨⟨rfl, rfl, rfl, rfl, rfl, fun _ h => absurd h List.not_mem_nil⟩, ⟨_, rfl, h⟩, ⟨_, rfl, by decide⟩, ⟨_, rfl, hrest matched⟩, ⟨_, rfl, by decide⟩,
    ⟨_, rfl, by decide⟩, ⟨_, rfl, by decide⟩, ⟨_, rfl, by decide⟩, ?_⟩
  exact fun _ h => absurd h List.not_mem_nil

lemma decode_assertion (h : Condition.indicatorId id = true) :
    IndicatorObservation.decode (assertion id matched) = some (asserted id matched) := by
  have hid : (Json.str id).truthy = true := by
    rw [Json.truthy, bne_iff_ne]
    exact ne_empty_of_indicatorId h
  have hget : (assertion id matched).get "indicator_id" = .str id := rfl
  have hmatched : (assertion id matched).get "matched" = .str matched.name := rfl
  simp only [IndicatorObservation.decode, hget, hid, if_true, hmatched, Json.str?,
    Option.bind_eq_bind, Option.bind_some, Status.ofString?_name]
  rfl

end Assertion

lemma decodeIndicators_assertions {truth : String → Truth} {ids : List String}
    (h : ∀ id ∈ ids, truth id ≠ .UNKNOWN → Condition.indicatorId id = true) :
    decodeIndicators (assertions truth ids) =
      .ok (ids.filterMap fun id => (statusOf (truth id)).map (asserted id)) := by
  induction ids with
  | nil => rfl
  | cons id ids ih =>
    rw [List.forall_mem_cons] at h
    have hrest := ih h.2
    rw [assertions, List.filterMap_cons, List.filterMap_cons]
    cases hstatus : statusOf (truth id) with
    | none => exact hrest
    | some matched =>
      have hid : Condition.indicatorId id = true := h.1 fun hunknown => by
        rw [hunknown] at hstatus
        cases hstatus
      rw [assertions] at hrest
      simp only [Option.map_some, decodeIndicators, assertion_conforms hid, decode_assertion hid,
        hrest]
      rfl

/-- The observation the assertions rest on. -/
def liveObservation : Observation where
  observationId := "o-1"
  status := .OBSERVED
  sourceInputId := some "in-1"
  polarity := .AFFIRMED
  attribution := .FIRST_PARTY
  mood := .DIRECTIVE
  observationType := some "REQUEST"

lemma decode_liveObservation :
    decodeObservations [] [sampleObservation "o-1" "DIRECTIVE"] = .ok [liveObservation] := by
  have hconforms : Contract.observation (sampleObservation "o-1" "DIRECTIVE") = true := by
    decide +kernel
  have hdecode : Observation.fromDict (sampleObservation "o-1" "DIRECTIVE") =
      some liveObservation := rfl
  simp only [decodeObservations, hconforms, hdecode]
  rfl

/-- A disjunction of equal values. -/
lemma any_of_const {ts : List Truth} {t : Truth} (h : ∀ x ∈ ts, x = t) (hmem : t ∈ ts) :
    Truth.any ts = t := by
  cases t with
  | TRUE => exact (Truth.any_eq_TRUE ts).mpr hmem
  | FALSE => exact (Truth.any_eq_FALSE ts).mpr h
  | UNKNOWN =>
    refine (Truth.any_eq_UNKNOWN ts).mpr ⟨fun htrue => ?_, hmem⟩
    cases h _ htrue

section Realized

variable {truth : String → Truth} {ids : List String}

/-- Each assertion is of an id of the list, under the status of its truth. -/
lemma exists_of_mem_asserted {io : IndicatorObservation}
    (h : io ∈ ids.filterMap fun id => (statusOf (truth id)).map (asserted id)) :
    ∃ id ∈ ids, ∃ matched, statusOf (truth id) = some matched ∧ io = asserted id matched := by
  obtain ⟨id, hid, hio⟩ := List.mem_filterMap.mp h
  obtain ⟨matched, hmatched, rfl⟩ := Option.map_eq_some_iff.mp hio
  exact ⟨id, hid, matched, hmatched, rfl⟩

lemma refFaults_asserted : refFaults [liveObservation]
    (ids.filterMap fun id => (statusOf (truth id)).map (asserted id)) = [] := by
  rw [refFaults, List.flatMap_eq_nil_iff]
  intro io hio
  obtain ⟨id, -, matched, -, rfl⟩ := exists_of_mem_asserted hio
  cases matched <;> rfl

lemma one_input {ios : List IndicatorObservation} (h : ∀ io ∈ ios, io.inputId = some "in-1") :
    ¬1 < (sortedUnique (ios.filterMap IndicatorObservation.inputId ++
      [liveObservation].filterMap Observation.sourceInputId)).length := by
  rw [Nat.not_lt]
  have hone : sortedUnique (ios.filterMap IndicatorObservation.inputId ++
      [liveObservation].filterMap Observation.sourceInputId) ⊆ ["in-1"] := by
    intro i hi
    rw [mem_sortedUnique, List.mem_append, List.mem_filterMap] at hi
    rw [List.mem_singleton]
    rcases hi with ⟨io, hio, hinput⟩ | hi
    · rw [h io hio] at hinput
      exact (Option.some.inj hinput).symm
    · exact List.mem_singleton.mp hi
  exact ((nodup_sortedUnique _).subperm hone).length_le

/-- The data is accepted. -/
theorem exists_context (h : ∀ id ∈ ids, truth id ≠ .UNKNOWN → Condition.indicatorId id = true)
    (language script : String) :
    ∃ ctx, buildValidatedContext (assertions truth ids) [sampleObservation "o-1" "DIRECTIVE"]
        language script = .ok ctx ∧
      ctx.indicatorObservations =
        ids.filterMap (fun id => (statusOf (truth id)).map (asserted id)) ∧
      ctx.observations = [liveObservation] ∧ ctx.language = language ∧ ctx.script = script := by
  have hfinite : (assertions truth ids).all Json.isFinite = true := by
    rw [List.all_eq_true]
    intro raw hraw
    obtain ⟨id, -, hraw⟩ := List.mem_filterMap.mp hraw
    obtain ⟨matched, -, rfl⟩ := Option.map_eq_some_iff.mp hraw
    exact isFinite_assertion
  have hobs : [sampleObservation "o-1" "DIRECTIVE"].all Json.isFinite = true := rfl
  have hios : ∀ io ∈ ids.filterMap (fun id => (statusOf (truth id)).map (asserted id)),
      io.inputId = some "in-1" := by
    intro io hio
    obtain ⟨id, -, matched, -, rfl⟩ := exists_of_mem_asserted hio
    rfl
  have hinput := one_input hios
  unfold buildValidatedContext
  rw [if_neg (by rw [hfinite]; exact nofun), if_neg (by rw [hobs]; exact nofun)]
  split
  · rename_i e herror
    rw [decode_liveObservation] at herror
    cases herror
  · rename_i os hos
    obtain rfl : [liveObservation] = os := Except.ok.inj (decode_liveObservation.symm.trans hos)
    rw [decodeIndicators_assertions h]
    simp only [if_neg hinput]
    split
    · rename_i e rest hfault
      rw [refFaults_asserted] at hfault
      cases hfault
    · exact ⟨_, rfl, rfl, rfl, rfl, rfl⟩

/-! ### The truth that is read -/

variable {rk : RuntimeKnowledge} {gate : Level} {ctx : Context}

/-- A context of assertions for the registered indicators. -/
structure Realizes (rk : RuntimeKnowledge) (truth : String → Truth) (ctx : Context) : Prop where
  registered : ∀ id, truth id ≠ .UNKNOWN → rk.isPositive id = true
  indicators_eq : ctx.indicatorObservations = (rk.indicators.map Indicator.id).filterMap
    fun id => (statusOf (truth id)).map (asserted id)
  observations_eq : ctx.observations = [liveObservation]

namespace Realizes

lemma verdict_eq (h : Realizes rk truth ctx) (id : String) (matched : Status) :
    ctx.verdict (asserted id matched) = .LIVE := by
  rw [Context.verdict, h.observations_eq]
  rfl

lemma mem_observationsFor (h : Realizes rk truth ctx) {id : String} {io : IndicatorObservation} :
    io ∈ ctx.observationsFor id ↔ ∃ matched, statusOf (truth id) = some matched ∧
      io = asserted id matched := by
  rw [Context.mem_observationsFor, h.indicators_eq]
  constructor
  · rintro ⟨hio, hid⟩
    obtain ⟨id', -, matched, hmatched, rfl⟩ := exists_of_mem_asserted hio
    obtain rfl : id' = id := hid
    exact ⟨matched, hmatched, rfl⟩
  · rintro ⟨matched, hmatched, rfl⟩
    refine ⟨List.mem_filterMap.mpr ⟨id, ?_, by rw [hmatched, Option.map_some]⟩, rfl⟩
    have hpositive := h.registered id fun hunknown => by
      rw [hunknown] at hmatched
      cases hmatched
    simpa [RuntimeKnowledge.isPositive] using hpositive

lemma read_value (h : Realizes rk truth ctx) {id : String} {matched : Status}
    (hmatched : statusOf (truth id) = some matched) :
    (positiveRead gate ctx [] (asserted id matched)).value = truth id := by
  have hpolarity : ¬((asserted id matched).polarity ≠ none ∧
      (asserted id matched).polarity ≠ some .POSITIVE) := fun hp => hp.2 rfl
  rw [positiveRead, if_neg hpolarity]
  simp only [structuralRead, h.verdict_eq]
  cases ht : truth id with
  | TRUE =>
    rw [ht] at hmatched
    obtain rfl := Option.some.inj hmatched
    cases gate <;> rfl
  | FALSE =>
    rw [ht] at hmatched
    obtain rfl := Option.some.inj hmatched
    rfl
  | UNKNOWN =>
    rw [ht] at hmatched
    cases hmatched

/-- The evaluator reads the truth the data was made for. -/
theorem truthOf_eq (h : Realizes rk truth ctx) (id : String) :
    truthOf (rawPositive rk gate ctx) id = truth id := by
  unfold truthOf rawPositive
  cases hstatus : statusOf (truth id) with
  | none =>
    have hnil : ctx.observationsFor id = [] := List.eq_nil_iff_forall_not_mem.mpr fun io hio => by
      obtain ⟨matched, hmatched, -⟩ := h.mem_observationsFor.mp hio
      rw [hstatus] at hmatched
      cases hmatched
    rw [if_neg fun hc => hc.2 hnil]
    cases ht : truth id with
    | UNKNOWN => rfl
    | TRUE | FALSE =>
      rw [ht] at hstatus
      cases hstatus
  | some matched =>
    have hmem : asserted id matched ∈ ctx.observationsFor id :=
      h.mem_observationsFor.mpr ⟨matched, hstatus, rfl⟩
    have hpositive : rk.isPositive id = true := h.registered id fun hunknown => by
      rw [hunknown] at hstatus
      cases hstatus
    rw [if_pos ⟨hpositive, List.ne_nil_of_mem hmem⟩]
    -- every assertion of the indicator reads alike
    have hreads : ∀ t ∈ ((ctx.observationsFor id).map (positiveRead gate ctx [])).map
        Occurrence.value, t = truth id := by
      intro t ht
      rw [List.map_map, List.mem_map] at ht
      obtain ⟨io, hio, rfl⟩ := ht
      obtain ⟨matched, hmatched, rfl⟩ := h.mem_observationsFor.mp hio
      exact h.read_value hmatched
    have hin : truth id ∈ ((ctx.observationsFor id).map (positiveRead gate ctx [])).map
        Occurrence.value := by
      rw [List.map_map, List.mem_map]
      exact ⟨_, hmem, h.read_value hstatus⟩
    exact any_of_const hreads hin

lemma no_negatives (h : Realizes rk truth ctx) : activeNegatives rk gate ctx = [] := by
  rw [List.eq_nil_iff_forall_not_mem]
  intro id hid
  obtain ⟨hnegative, io, hio⟩ := negativeTruth_eq_TRUE.mp (mem_activeNegatives.mp hid)
  obtain ⟨matched, hmatched, -⟩ := h.mem_observationsFor.mp (mem_activeOccurrences.mp hio).1
  have hpositive : rk.isPositive id = true := h.registered id fun hunknown => by
    rw [hunknown] at hmatched
    cases hmatched
  rw [RuntimeKnowledge.not_isPositive_of_isNegative hnegative] at hpositive
  cases hpositive

lemma matchedNegative_eq (h : Realizes rk truth ctx) (categories : List String) :
    matchedNegative rk gate ctx categories = [] := by
  rw [matchedNegative, h.no_negatives]
  rfl

/-- Nothing is suppressed. -/
lemma suppressed_eq (h : Realizes rk truth ctx) (categories : List String)
    (overrides : List Override) (id : String) :
    truthOf (suppressedPositive rk gate ctx categories overrides) id = truth id := by
  have hsame : suppressedPositive rk gate ctx categories overrides = rawPositive rk gate ctx := by
    funext id
    rw [suppressedPositive, suppressorsFor, h.matchedNegative_eq, List.flatMap_nil, rawPositive]
    split_ifs <;> rfl
  rw [hsame, h.truthOf_eq]

end Realizes

end Realized
end TrustLens.Runtime.Evaluator
