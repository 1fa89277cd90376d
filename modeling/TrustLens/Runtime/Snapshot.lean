import TrustLens.Runtime.DecisionSpec
import TrustLens.Runtime.DetectionResult

/-!
# One snapshot of the caller's data

The rule results are computed from the snapshot the first traversal takes. The
explanation looks the offsets up in the caller's own object, which it traverses again;
the two agree exactly when the second traversal gives the same offsets.
-/

namespace TrustLens.Runtime

namespace Explanation

/-- An observation whose id can be the key of a dictionary. -/
def Indexable (o : Json) : Prop := indexObservation o ≠ .error .malformed

/-- The spans a traversal of the observations gives. -/
def spanIn (observations : List Json) (ref : String) : Option Span :=
  spanFor (observations.filterMap fun o => ((indexObservation o).toOption).join) ref

lemma indexObservation_error {o : Json} {e : ExplanationError}
    (h : indexObservation o = .error e) : e = .malformed := by
  unfold indexObservation at h
  split at h
  · split at h
    · cases h
    · split_ifs at h
      exact (Except.error.inj h).symm
    · split_ifs at h
      exact (Except.error.inj h).symm
    · cases h
  · cases h

lemma exists_indexObservation {o : Json} (h : Indexable o) : ∃ e, indexObservation o = .ok e := by
  cases he : indexObservation o with
  | error e => exact absurd (he.trans (congrArg _ (indexObservation_error he))) h
  | ok e => exact ⟨e, rfl⟩

lemma filterMap_of_index {observations : List Json} {index : List (Option (String × Json))}
    (h : observations.mapM indexObservation = .ok index) :
    index.filterMap id = observations.filterMap fun o => ((indexObservation o).toOption).join := by
  have hforall := forall₂_of_mapM_ok h
  clear h
  induction hforall with
  | nil => rfl
  | cons hhead _ ih =>
    rw [List.filterMap_cons, List.filterMap_cons, ih, hhead]
    rfl

/-- The supporting observations are a function of the spans of the references they name. -/
theorem supportingObservations_ok_iff {eligible : List RuleResult} {observations : List Json}
    {s : List (String × Option Span)} :
    supportingObservations eligible observations = .ok s ↔
      (∀ o ∈ observations, Indexable o) ∧
        s = (supportingRefs eligible).map fun ref => (ref, spanIn observations ref) := by
  constructor
  · intro h
    obtain ⟨index, hindex, h⟩ := bind_ok h
    refine ⟨fun o ho => ?_, ?_⟩
    · obtain ⟨e, -, he⟩ := exists_of_mapM_ok hindex ho
      rw [Indexable, he]
      exact nofun
    · rw [← Except.ok.inj h, filterMap_of_index hindex]
      rfl
  · rintro ⟨hindexable, rfl⟩
    obtain ⟨index, hindex⟩ := mapM_total fun o ho => exists_indexObservation (hindexable o ho)
    rw [supportingObservations, hindex]
    show Except.ok _ = _
    rw [filterMap_of_index hindex]
    rfl

/-- Two traversals support a decision alike exactly when the second can be indexed and gives the
references of the decision the spans of the first. -/
theorem supportingObservations_eq_iff {eligible : List RuleResult} {first second : List Json}
    (hfirst : ∀ o ∈ first, Indexable o) :
    supportingObservations eligible second = supportingObservations eligible first ↔
      (∀ o ∈ second, Indexable o) ∧
        ∀ ref ∈ supportingRefs eligible, spanIn second ref = spanIn first ref := by
  rw [supportingObservations_ok_iff.mpr ⟨hfirst, rfl⟩, supportingObservations_ok_iff]
  refine and_congr_right fun _ => ?_
  rw [List.map_inj_left]
  refine forall₂_congr fun ref _ => ?_
  rw [Prod.mk.injEq]
  exact ⟨fun h => h.2.symm, fun h => ⟨rfl, h.symm⟩⟩

lemma buildExplanation_ok {render : ErrorMessage → String} {rk : RuntimeKnowledge} {live : Bool}
    {d : SuppliedDecision} {observations : List Json} {e : ExplanationResult}
    (h : buildExplanation render rk live d observations = .ok e) :
    validateInput render rk live d = .ok () ∧ ∃ head supporting, headline rk live d = .ok head ∧
      supportingObservations (explained d) observations = .ok supporting ∧
      e = compose rk live d head supporting := by
  obtain ⟨⟨⟩, hvalid, h⟩ := bind_ok h
  obtain ⟨head, hhead, h⟩ := bind_ok h
  obtain ⟨supporting, hsupporting, h⟩ := bind_ok h
  exact ⟨hvalid, head, supporting, hhead, hsupporting, (Except.ok.inj h).symm⟩

/-- The explanation depends on the observations through the supporting ones alone. -/
lemma buildExplanation_congr (render : ErrorMessage → String) (rk : RuntimeKnowledge) (live : Bool)
    (d : SuppliedDecision) {first second : List Json}
    (h : supportingObservations (explained d) first = supportingObservations (explained d) second) :
    buildExplanation render rk live d first = buildExplanation render rk live d second := by
  unfold buildExplanation
  rw [h]

end Explanation

open Explanation (Indexable spanIn supportingRefs explained supportingObservations indexObservation)

lemma observation_of_decode {seen : List String} {raws : List Json} {os : List Observation}
    (h : decodeObservations seen raws = .ok os) {raw : Json} (hraw : raw ∈ raws) :
    Contract.observation raw = true := by
  induction raws generalizing seen os with
  | nil => cases hraw
  | cons head rest ih =>
    simp only [decodeObservations] at h
    split_ifs at h with _ hschema
    split at h
    · cases h
    · split_ifs at h
      split at h
      · cases h
      · rename_i hrest
        rcases List.mem_cons.mp hraw with rfl | hraw
        · simpa using hschema
        · exact ih hrest hraw

/-- The schema makes the id of an observation a text. -/
lemma exists_id_of_observation {raw : Json} (h : Contract.observation raw = true) :
    ∃ entries id, raw = .obj entries ∧ raw.get "observation_id" = .str id := by
  cases raw with
  | obj entries =>
    obtain ⟨hrequired, hentries⟩ := Schema.object_obj.mp h
    obtain ⟨v, hv⟩ := Option.isSome_iff_exists.mp (hrequired "observation_id" (by simp))
    obtain ⟨e, he, hkey, rfl⟩ := Json.exists_entry_of_lookup hv
    obtain ⟨validator, hproperty, hvalid⟩ := hentries e he
    rw [hkey, Schema.property, if_pos rfl, Option.some.injEq] at hproperty
    subst hproperty
    obtain ⟨key, v⟩ := e
    cases v with
    | str id => exact ⟨entries, id, rfl, by simp only [Json.get, Json.get?, hv, Option.getD_some]⟩
    | _ => cases hvalid
  | _ => cases h

/-- Every observation of an accepted context can be indexed. -/
theorem indexable_of_context {inds obs : List Json} {language script : String} {ctx : Context}
    (h : buildValidatedContext inds obs language script = .ok ctx) : ∀ o ∈ obs, Indexable o := by
  intro o ho
  have hvalid : Contract.observation o = true := by
    unfold buildValidatedContext at h
    split_ifs at h
    split at h
    · cases h
    · rename_i hos
      exact observation_of_decode hos ho
  obtain ⟨entries, id, rfl, hid⟩ := exists_id_of_observation hvalid
  simp only [Indexable, indexObservation, hid]
  exact nofun

namespace Detection

open Aggregation (DecisionResult evaluateDecision)

variable {isInstant : String → Bool} {render : ErrorMessage → String} {rk : RuntimeKnowledge}
variable {envelope : Envelope} {status : String} {wholeErrors : List Json}

/-- Every observation the second traversal yields can be indexed, and gives each reference behind
a matched rule of the decision on the first traversal the offsets of the first. -/
def OffsetsAgree (rk : RuntimeKnowledge) (render : ErrorMessage → String)
    (indicatorObservations observations : Traversals) (envelope : Envelope) (status : String) :
    Prop :=
  ∀ language script d, envelope.language = [language] → envelope.script = [script] →
    evaluateDecision rk defaultProfile (indicatorObservations 0) (observations 0) status language
      script [] = .ok d →
    (∀ o ∈ observations 1, Indexable o) ∧
      ∀ ref ∈ supportingRefs (explained (d.supply render)),
        spanIn (observations 1) ref = spanIn (observations 0) ref

/-- The support states in which rules run, when nothing refused the evaluation before. -/
def Evaluated (status : String) (wholeErrors : List Json) : Prop :=
  wholeErrors = [] ∧ (status = "SUPPORTED" ∨ status = "PARTIALLY_SUPPORTED")

lemma conclude_ok {d : DecisionResult} {observations : List Json} {r : DetectionResult}
    (h : conclude isInstant render rk d observations envelope = .ok r) :
    ∃ e, Explanation.buildExplanation render rk true (d.supply render) observations = .ok e ∧
      r.explanation = e.explanation := by
  obtain ⟨e, he, h⟩ := bind_ok h
  cases hb : Explanation.buildExplanation render rk true (d.supply render) observations with
  | error fault =>
    rw [hb] at he
    cases he
  | ok _ =>
    rw [hb] at he
    cases he
    refine ⟨e, rfl, ?_⟩
    cases ha : assembleDetectionResult isInstant render rk d e envelope with
    | error fault =>
      rw [ha] at h
      cases h
    | ok r' =>
      rw [ha] at h
      cases h
      obtain ⟨_, -, ha⟩ := bind_ok ha
      obtain ⟨_, -, ha⟩ := bind_ok ha
      obtain ⟨_, -, ha⟩ := bind_ok ha
      obtain ⟨provenance, -, ha⟩ := bind_ok ha
      rw [((validateAndFreeze_ok_iff render).mp ha).1]

/-- What the envelope says of the observations is what its decision's explanation found. -/
lemma supporting_of_conclude {d : DecisionResult} {observations : List Json} {r : DetectionResult}
    (h : conclude isInstant render rk d observations envelope = .ok r) :
    supportingObservations (explained (d.supply render)) observations =
      .ok r.explanation.supportingObservations := by
  obtain ⟨e, he, hr⟩ := conclude_ok h
  obtain ⟨-, head, supporting, -, hsupporting, rfl⟩ := Explanation.buildExplanation_ok he
  rw [hr, hsupporting]
  rfl

lemma conclude_congr (d : DecisionResult) {first second : List Json}
    (h : supportingObservations (explained (d.supply render)) first =
      supportingObservations (explained (d.supply render)) second) :
    conclude isInstant render rk d first envelope = conclude isInstant render rk d second envelope := by
  unfold conclude
  rw [Explanation.buildExplanation_congr render rk true _ h]

/-- An evaluated run is the decision on the first traversal, concluded with the second. -/
lemma evaluateDetection_evaluated {inds obs : Traversals} {language script : String}
    (h : Evaluated status wholeErrors)
    (hcontext : validateContext isInstant envelope status wholeErrors = .ok ())
    (hl : envelope.language = [language]) (hs : envelope.script = [script]) :
    evaluateDetection isInstant render rk inds obs envelope status wholeErrors =
      ((evaluateDecision rk defaultProfile (inds 0) (obs 0) status language script []).mapError
        .decision >>= fun d => conclude isInstant render rk d (obs 1) envelope) := by
  have hscalar : singleScalar envelope = .ok (language, script) := by rw [singleScalar, hl, hs]
  unfold evaluateDetection runDecision
  rw [hcontext, if_neg (not_not.mpr h.1), if_pos h.2, hscalar]
  show ((evaluateDecision rk defaultProfile (inds 0) (obs 0) status language script []).mapError
    Failure.decision >>= fun d => Except.ok (d, obs 1)) >>= (fun p =>
      conclude isInstant render rk p.1 p.2 envelope) = _
  cases evaluateDecision rk defaultProfile (inds 0) (obs 0) status language script [] <;> rfl

/-- A run is refused whatever the data, does not read the data at all, or is evaluated in one
language and one script. -/
lemma evaluateDetection_cases (isInstant : String → Bool) (render : ErrorMessage → String)
    (rk : RuntimeKnowledge) (envelope : Envelope) (status : String) (wholeErrors : List Json) :
    (∃ e, ∀ inds obs,
      evaluateDetection isInstant render rk inds obs envelope status wholeErrors = .error e) ∨
    (¬Evaluated status wholeErrors ∧ ∃ outcome, ∀ inds obs,
      evaluateDetection isInstant render rk inds obs envelope status wholeErrors = outcome) ∨
    ∃ language script, Evaluated status wholeErrors ∧
      validateContext isInstant envelope status wholeErrors = .ok () ∧
      envelope.language = [language] ∧ envelope.script = [script] := by
  cases hcontext : validateContext isInstant envelope status wholeErrors with
  | error fault =>
    left
    refine ⟨.result fault, fun inds obs => ?_⟩
    unfold evaluateDetection
    rw [hcontext]
    rfl
  | ok =>
    by_cases hevaluated : Evaluated status wholeErrors
    · cases hscalar : singleScalar envelope with
      | error fault =>
        left
        refine ⟨.result fault, fun inds obs => ?_⟩
        unfold evaluateDetection runDecision
        rw [hcontext, if_neg (not_not.mpr hevaluated.1), if_pos hevaluated.2, hscalar]
        rfl
      | ok scalars =>
        unfold singleScalar at hscalar
        split at hscalar
        · rename_i language script hl hs
          exact Or.inr (Or.inr ⟨language, script, hevaluated, rfl, hl, hs⟩)
        · cases hscalar
    · refine Or.inr (Or.inl ⟨hevaluated, evaluateDetection isInstant render rk (fun _ => [])
        (fun _ => []) envelope status wholeErrors, fun inds obs => ?_⟩)
      unfold evaluateDetection runDecision
      by_cases hw : wholeErrors = []
      · have hno : ¬(status = "SUPPORTED" ∨ status = "PARTIALLY_SUPPORTED") :=
          fun hs => hevaluated ⟨hw, hs⟩
        simp only [if_neg (not_not.mpr hw), if_neg hno]
      · simp only [if_pos hw]

/-- The run that is given a list of the first traversal's items in place of each iterable. -/
def onSnapshot (isInstant : String → Bool) (render : ErrorMessage → String) (rk : RuntimeKnowledge)
    (indicatorObservations observations : Traversals) (envelope : Envelope) (status : String)
    (wholeErrors : List Json) : Except Failure DetectionResult :=
  evaluateDetection isInstant render rk (.ofList (indicatorObservations 0))
    (.ofList (observations 0)) envelope status wholeErrors

/-- A run equals the run on the snapshot of its first traversal exactly when the input is not
evaluated or the second traversal gives the same offsets. -/
theorem evaluateDetection_eq_onSnapshot_iff (isInstant : String → Bool)
    (render : ErrorMessage → String) (rk : RuntimeKnowledge)
    (indicatorObservations observations : Traversals) (envelope : Envelope) (status : String)
    (wholeErrors : List Json)
    (hreturned : ∃ r, evaluateDetection isInstant render rk indicatorObservations observations
        envelope status wholeErrors = .ok r ∨
      onSnapshot isInstant render rk indicatorObservations observations envelope status
        wholeErrors = .ok r) :
    evaluateDetection isInstant render rk indicatorObservations observations envelope status
        wholeErrors =
      onSnapshot isInstant render rk indicatorObservations observations envelope status
        wholeErrors ↔
    (Evaluated status wholeErrors →
      OffsetsAgree rk render indicatorObservations observations envelope status) := by
  rcases evaluateDetection_cases isInstant render rk envelope status wholeErrors with
    ⟨e, hrefused⟩ | ⟨hno, outcome, hconstant⟩ | ⟨language, script, hevaluated, hcontext, hl, hs⟩
  · rw [onSnapshot, hrefused, hrefused] at hreturned
    obtain ⟨r, h | h⟩ := hreturned <;> cases h
  · simp only [onSnapshot, hconstant, true_iff]
    exact fun h => absurd h hno
  · unfold onSnapshot at hreturned ⊢
    rw [evaluateDetection_evaluated hevaluated hcontext hl hs,
      evaluateDetection_evaluated hevaluated hcontext hl hs] at hreturned ⊢
    simp only [Traversals.ofList] at hreturned ⊢
    cases hdecision : evaluateDecision rk defaultProfile (indicatorObservations 0)
      (observations 0) status language script [] with
    | error fault =>
      rw [hdecision] at hreturned
      obtain ⟨r, h | h⟩ := hreturned <;> cases h
    | ok d =>
      rw [hdecision] at hreturned
      have hfirst : ∀ o ∈ observations 0, Indexable o := by
        obtain ⟨ctx, -, hctx, -⟩ := Aggregation.evaluateDecision_ok hdecision
        exact indexable_of_context hctx
      have hagree : OffsetsAgree rk render indicatorObservations observations envelope status ↔
          supportingObservations (explained (d.supply render)) (observations 1) =
            supportingObservations (explained (d.supply render)) (observations 0) := by
        rw [Explanation.supportingObservations_eq_iff hfirst]
        constructor
        · exact fun h => h language script d hl hs hdecision
        · intro h l' s' d' hl' hs' hdecision'
          obtain rfl : language = l' := by simpa [hl] using hl'
          obtain rfl : script = s' := by simpa [hs] using hs'
          obtain rfl : d = d' := Except.ok.inj (hdecision.symm.trans hdecision')
          exact h
      rw [forall_prop_of_true hevaluated, hagree]
      constructor
      · intro heq
        obtain ⟨r, h | h⟩ := hreturned
        · rw [supporting_of_conclude h, supporting_of_conclude (heq.symm.trans h)]
        · rw [supporting_of_conclude h, supporting_of_conclude (heq.trans h)]
      · exact conclude_congr d

/-! ### A one-shot iterator -/

section Sample

open Evaluator (sampleKnowledge sampleIndicator sampleProvenance)

/-- The sample knowledge with the versions and the action policy of a 1.1.0 bundle. -/
def governedKnowledge : RuntimeKnowledge :=
  { sampleKnowledge with
    actionPolicy := [⟨"AP-001", .RULE, some "TL-OTP-001", "DO_NOT_SHARE_CREDENTIALS", none, []⟩]
    contentDigest := String.ofList (List.replicate 64 '0')
    componentVersions := (requiredComponents.map fun key => (key.1, "1.0.0")) ++
      [("action_policy", "1.0.0")] }

/-- An observation that says where in the text it was made. -/
def placedObservation : Json :=
  .obj [("observation_id", .str "o-1"), ("observation_type", .str "REQUEST"),
    ("source_input_id", .str "in-1"), ("status", .str "OBSERVED"), ("mood", .str "DIRECTIVE"),
    ("offsets", .obj [("start", .int 0), ("end", .int 12)]), ("provenance", sampleProvenance)]

def pressureItems : List Json :=
  [sampleIndicator "OTP_REQUEST" "o-1", sampleIndicator "URGENCY" "o-1"]

def sampleEnvelope : Envelope :=
  ⟨"ev-1", "2026-01-01T00:00:00Z", "in-1", ["en"], ["Latn"]⟩

/-- The run on the sample, its observations given as an iterable. -/
def sampleRun (observations : Traversals) : Except Failure DetectionResult :=
  evaluateDetection (fun _ => true) (fun _ => "") governedKnowledge (.ofList pressureItems)
    observations sampleEnvelope "SUPPORTED" []

lemma sampleRun_once : (sampleRun (.once [placedObservation])).toOption.map
    (·.explanation.supportingObservations) = some [("o-1", none)] := by decide +kernel

lemma sampleRun_ofList : (sampleRun (.ofList [placedObservation])).toOption.map
    (·.explanation.supportingObservations) = some [("o-1", some ⟨.int 0, .int 12⟩)] := by
  decide +kernel

/-- The same items as a generator and as a list: the generator's result has lost the span. -/
theorem one_shot_differs : ∃ r r',
    evaluateDetection (fun _ => true) (fun _ => "") governedKnowledge (.ofList pressureItems)
        (.once [placedObservation]) sampleEnvelope "SUPPORTED" [] = .ok r ∧
      onSnapshot (fun _ => true) (fun _ => "") governedKnowledge (.ofList pressureItems)
        (.once [placedObservation]) sampleEnvelope "SUPPORTED" [] = .ok r' ∧ r ≠ r' := by
  obtain ⟨r, hr, hnone⟩ := Option.map_eq_some_iff.mp sampleRun_once
  obtain ⟨r', hr', hsome⟩ := Option.map_eq_some_iff.mp sampleRun_ofList
  refine ⟨r, r', eq_ok_of_toOption hr, eq_ok_of_toOption hr', ?_⟩
  rintro rfl
  rw [hnone] at hsome
  cases hsome

theorem evaluateDetection_eq_onSnapshot_iff_sample :
    evaluateDetection (fun _ => true) (fun _ => "") governedKnowledge (.ofList pressureItems)
        (.ofList [placedObservation]) sampleEnvelope "SUPPORTED" [] =
      onSnapshot (fun _ => true) (fun _ => "") governedKnowledge (.ofList pressureItems)
        (.ofList [placedObservation]) sampleEnvelope "SUPPORTED" [] ↔
    (Evaluated "SUPPORTED" [] → OffsetsAgree governedKnowledge (fun _ => "")
      (.ofList pressureItems) (.ofList [placedObservation]) sampleEnvelope "SUPPORTED") := by
  obtain ⟨r, hr, -⟩ := Option.map_eq_some_iff.mp sampleRun_ofList
  exact evaluateDetection_eq_onSnapshot_iff _ _ _ _ _ _ _ _ ⟨r, Or.inl (eq_ok_of_toOption hr)⟩

end Sample

end Detection
end TrustLens.Runtime
