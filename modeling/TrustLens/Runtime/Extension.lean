import TrustLens.Runtime.EvaluatorSpec

/-!
# Adding occurrences to a context

Two evaluations of the same knowledge, the second over more occurrences and more
observations. The old occurrences keep their structural verdict, and as long as the
new ones belong to positive indicators every negative indicator, hence every
suppressor, reads the same.
-/

namespace TrustLens.Runtime

/-- `ctx'` is `ctx` with the occurrences `new` and further observations, in any order. -/
structure Extends (ctx ctx' : Context) (new : List IndicatorObservation) : Prop where
  language_eq : ctx'.language = ctx.language
  script_eq : ctx'.script = ctx.script
  observations : ctx.observations ⊆ ctx'.observations
  occurrences : ∀ io, io ∈ ctx'.indicatorObservations ↔
    io ∈ ctx.indicatorObservations ∨ io ∈ new

/-- The occurrence is one of a positive indicator, by its own polarity or by the registry. -/
def IsPositiveRead (rk : RuntimeKnowledge) (io : IndicatorObservation) : Prop :=
  io.polarity = some .POSITIVE ∨ rk.isPositive io.indicatorId = true

instance (rk : RuntimeKnowledge) (io : IndicatorObservation) : Decidable (IsPositiveRead rk io) :=
  inferInstanceAs (Decidable (_ ∨ _))

namespace Extends

open Evaluator

variable {ctx ctx' : Context} {new : List IndicatorObservation}

/-- Extending the documents extends the context they decode to. -/
theorem of_documents {inds inds' newInds obs obs' newObs : List Json} {language script : String}
    (hinds : inds'.Perm (inds ++ newInds)) (hobs : obs'.Perm (obs ++ newObs))
    (h : buildValidatedContext inds obs language script = .ok ctx)
    (h' : buildValidatedContext inds' obs' language script = .ok ctx') :
    Extends ctx ctx' (newInds.filterMap IndicatorObservation.decode) := by
  obtain ⟨hi, ho, hl, hs⟩ := buildValidatedContext_ok h
  obtain ⟨hi', ho', hl', hs'⟩ := buildValidatedContext_ok h'
  refine ⟨hl'.trans hl.symm, hs'.trans hs.symm, ?_, ?_⟩
  · intro o hmem
    rw [ho] at hmem
    rw [ho', (hobs.filterMap Observation.fromDict).mem_iff, List.filterMap_append]
    exact List.mem_append_left _ hmem
  · intro io
    rw [hi, hi', (hinds.filterMap IndicatorObservation.decode).mem_iff, List.filterMap_append,
      List.mem_append]

lemma scopeCheck_eq (h : Extends ctx ctx' new) (rule : Rule) :
    scopeCheck ctx' rule = scopeCheck ctx rule := by
  simp only [scopeCheck, h.language_eq, h.script_eq]

lemma observationById_eq (h : Extends ctx ctx' new) {ref : String} {o : Observation}
    (ho : observationById ctx.observations ref = some o) :
    observationById ctx'.observations ref = some o := by
  have hid : o.observationId = ref := by simpa using List.find?_some ho
  have hmem := h.observations (List.mem_of_find?_eq_some ho)
  have hfind := find?_of_nodup_keys Observation.observationId ctx'.observations_nodup hmem
  rwa [hid] at hfind

/-- The references of an old occurrence resolve as before. -/
theorem verdict_eq (h : Extends ctx ctx' new) {io : IndicatorObservation}
    (hio : io ∈ ctx.indicatorObservations) : ctx'.verdict io = ctx.verdict io := by
  have hresolve : io.observationRefs.filterMap (observationById ctx'.observations) =
      io.observationRefs.filterMap (observationById ctx.observations) := by
    apply List.filterMap_congr
    intro ref href
    obtain ⟨o, ho, -⟩ := ctx.refs_resolve io hio ref href
    rw [ho, h.observationById_eq ho]
  simp only [Context.verdict, structuralVerdict, hresolve]

lemma fires_iff (h : Extends ctx ctx' new) {gate : Level}
    {suppressors : List IndicatorObservation} {io : IndicatorObservation}
    (hio : io ∈ ctx.indicatorObservations) :
    Fires gate ctx' suppressors io ↔ Fires gate ctx suppressors io := by
  rw [Fires, Fires, h.verdict_eq hio]

lemma mem_observationsFor (h : Extends ctx ctx' new) {id : String} {io : IndicatorObservation} :
    io ∈ ctx'.observationsFor id ↔
      io ∈ ctx.observationsFor id ∨ (io ∈ new ∧ io.indicatorId = id) := by
  rw [Context.mem_observationsFor, Context.mem_observationsFor, h.occurrences, or_and_right]

section Negative

variable {rk : RuntimeKnowledge} {gate : Level}

/-- Occurrences of positive indicators are no active occurrences of a negative one. -/
theorem mem_activeOccurrences (h : Extends ctx ctx' new)
    (hnew : ∀ io ∈ new, IsPositiveRead rk io) {id : String} (hid : rk.isNegative id = true)
    (io : IndicatorObservation) :
    io ∈ activeOccurrences gate ctx' id ↔ io ∈ activeOccurrences gate ctx id := by
  rw [Evaluator.mem_activeOccurrences, Evaluator.mem_activeOccurrences, h.mem_observationsFor]
  constructor
  · rintro ⟨hold | ⟨hmem, hio⟩, hpol, hg⟩
    · exact ⟨hold, hpol, hg⟩
    · exfalso
      rcases hnew io hmem with hp | hp
      · rcases hpol with hn | hn <;> rw [hp] at hn <;> cases hn
      · rw [hio, RuntimeKnowledge.not_isPositive_of_isNegative hid] at hp
        cases hp
  · rintro ⟨hold, hrest⟩
    exact ⟨Or.inl hold, hrest⟩

theorem negativeTruth_iff (h : Extends ctx ctx' new) (hnew : ∀ io ∈ new, IsPositiveRead rk io)
    (id : String) :
    negativeTruth rk gate ctx' id = .TRUE ↔ negativeTruth rk gate ctx id = .TRUE := by
  rw [negativeTruth_eq_TRUE, negativeTruth_eq_TRUE]
  refine and_congr_right fun hid => exists_congr fun io => ?_
  exact h.mem_activeOccurrences hnew hid io

/-- The same negative indicators are matched. -/
theorem matchedNegative_eq (h : Extends ctx ctx' new) (hnew : ∀ io ∈ new, IsPositiveRead rk io)
    (categories : List String) :
    matchedNegative rk gate ctx' categories = matchedNegative rk gate ctx categories := by
  rw [matchedNegative, matchedNegative, activeNegatives_congr (h.negativeTruth_iff hnew)]

/-- A target keeps its suppressors, when the overrides stay the same. -/
theorem mem_suppressorsFor (h : Extends ctx ctx' new) (hnew : ∀ io ∈ new, IsPositiveRead rk io)
    (categories : List String) (overrides : List Override) (target : String)
    (io : IndicatorObservation) :
    io ∈ suppressorsFor rk gate ctx' categories overrides target ↔
      io ∈ suppressorsFor rk gate ctx categories overrides target := by
  simp only [suppressorsFor, h.matchedNegative_eq hnew, List.mem_flatMap]
  refine exists_congr fun id => and_congr_right fun _ => ?_
  unfold suppressorsOf
  cases hneg : rk.negativeIndicator id with
  | none => simp
  | some neg =>
    have hid : rk.isNegative id = true := RuntimeKnowledge.isNegative_iff.mpr ⟨neg, hneg⟩
    simp only
    split_ifs
    · rfl
    · rfl
    · simp only [List.mem_flatMap, h.mem_activeOccurrences hnew hid]

end Negative
end Extends
end TrustLens.Runtime
