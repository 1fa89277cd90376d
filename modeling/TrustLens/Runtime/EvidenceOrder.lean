import TrustLens.Lib.SameMembers
import TrustLens.Runtime.EvaluatorSpec

/-!
# The order and the repetition of evidence

Two contexts carry the same evidence when they hold the same observations and the same
occurrences, whatever their order, their repetition and the order of the references of
an occurrence. The evaluator reads the same from both.
-/

namespace TrustLens.Runtime

/-- The same occurrence, its references in some order. -/
def SameReading (io io' : IndicatorObservation) : Prop :=
  ∃ refs, io.observationRefs.Perm refs ∧ io' = { io with observationRefs := refs }

structure SameEvidence (ctx ctx' : Context) : Prop where
  language_eq : ctx'.language = ctx.language
  script_eq : ctx'.script = ctx.script
  observations : ∀ o, o ∈ ctx.observations ↔ o ∈ ctx'.observations
  occurrences : SameMembers SameReading ctx.indicatorObservations ctx'.indicatorObservations

namespace Evaluator

variable {rk : RuntimeKnowledge} {gate : Level} {ctx ctx' : Context}

/-! ### One occurrence -/

section Occurrence

variable {io io' : IndicatorObservation}

lemma verdict_congr (h : SameEvidence ctx ctx') (hio : SameReading io io') :
    ctx.verdict io = ctx'.verdict io' := by
  obtain ⟨refs, hperm, rfl⟩ := hio
  have hlookup : observationById ctx.observations = observationById ctx'.observations := by
    funext ref
    exact find?_congr_members Observation.observationId ctx'.observations_nodup h.observations ref
  have hresolved := hperm.filterMap (observationById ctx'.observations)
  simp only [Context.verdict, structuralVerdict, hlookup, hperm.length_eq, hresolved.length_eq,
    hresolved.mem_iff, ← List.length_eq_zero_iff (l := io.observationRefs),
    ← List.length_eq_zero_iff (l := refs)]

lemma structuralRead_congr (h : SameEvidence ctx ctx') (hio : SameReading io io') :
    structuralRead gate ctx io = structuralRead gate ctx' io' := by
  have hverdict := verdict_congr h hio
  obtain ⟨refs, -, rfl⟩ := hio
  simp only [structuralRead, hverdict]

/-- Whether a suppressor shares an observation with the occurrence. -/
def Touches (positive suppressor : IndicatorObservation) : Prop :=
  ∃ ref ∈ positive.observationRefs, ref ∈ suppressor.observationRefs

/-- Whether the association of an occurrence with a suppressor cannot be decided. -/
def Unlinked (positive suppressor : IndicatorObservation) : Prop :=
  positive.observationRefs = [] ∨ suppressor.observationRefs = []

lemma not_unlinked_of_touches {positive suppressor : IndicatorObservation}
    (h : Touches positive suppressor) : ¬Unlinked positive suppressor := by
  obtain ⟨ref, hp, hs⟩ := h
  rintro (hnil | hnil)
  · rw [hnil] at hp
    cases hp
  · rw [hnil] at hs
    cases hs

lemma suppressionAssociation_fst {positive : IndicatorObservation} (unresolved : Bool)
    (suppressors : List IndicatorObservation) :
    (suppressionAssociation positive unresolved suppressors).1 = true ↔
      ∃ s ∈ suppressors, Touches positive s := by
  induction suppressors generalizing unresolved with
  | nil => simp [suppressionAssociation]
  | cons s rest ih =>
    rw [suppressionAssociation, List.exists_mem_cons_iff]
    split_ifs with hunlinked htouches
    · rw [ih, or_iff_right fun ht => not_unlinked_of_touches ht hunlinked]
    · exact iff_of_true rfl (Or.inl htouches)
    · rw [ih, or_iff_right (a := Touches positive s) htouches]

/-- Once no suppressor is associated, the flag tells whether one could not be decided. -/
lemma suppressionAssociation_snd {positive : IndicatorObservation} (unresolved : Bool)
    {suppressors : List IndicatorObservation} (hno : ∀ s ∈ suppressors, ¬Touches positive s) :
    (suppressionAssociation positive unresolved suppressors).2 = true ↔
      unresolved = true ∨ ∃ s ∈ suppressors, Unlinked positive s := by
  induction suppressors generalizing unresolved with
  | nil => simp [suppressionAssociation]
  | cons s rest ih =>
    rw [List.forall_mem_cons] at hno
    rw [suppressionAssociation, List.exists_mem_cons_iff]
    split_ifs with hunlinked htouches
    · rw [ih _ hno.2]
      exact iff_of_true (Or.inl rfl) (Or.inr (Or.inl hunlinked))
    · exact absurd htouches hno.1
    · rw [ih _ hno.2, or_iff_right (a := Unlinked positive s) hunlinked]

variable {suppressors suppressors' : List IndicatorObservation}

lemma touches_congr {s s' : IndicatorObservation} (hio : SameReading io io')
    (hs : SameReading s s') : Touches io s ↔ Touches io' s' := by
  obtain ⟨refs, hperm, rfl⟩ := hio
  obtain ⟨srefs, hsperm, rfl⟩ := hs
  simp only [Touches, hperm.mem_iff, hsperm.mem_iff]

lemma unlinked_congr {s s' : IndicatorObservation} (hio : SameReading io io')
    (hs : SameReading s s') : Unlinked io s ↔ Unlinked io' s' := by
  obtain ⟨refs, hperm, rfl⟩ := hio
  obtain ⟨srefs, hsperm, rfl⟩ := hs
  simp only [Unlinked, ← List.length_eq_zero_iff, hperm.length_eq, hsperm.length_eq]

lemma exists_congr_members {p q : IndicatorObservation → Prop}
    (hsup : SameMembers SameReading suppressors suppressors')
    (hpq : ∀ s s', SameReading s s' → (p s ↔ q s')) :
    (∃ s ∈ suppressors, p s) ↔ ∃ s ∈ suppressors', q s := by
  constructor
  · rintro ⟨s, hs, hp⟩
    obtain ⟨s', hs', hr⟩ := hsup.1 s hs
    exact ⟨s', hs', (hpq s s' hr).mp hp⟩
  · rintro ⟨s', hs', hq⟩
    obtain ⟨s, hs, hr⟩ := hsup.2 s' hs'
    exact ⟨s, hs, (hpq s s' hr).mpr hq⟩

/-- The association is the same for the same suppressors, except for a flag that an association
makes irrelevant. -/
lemma suppressionAssociation_congr (hio : SameReading io io')
    (hsup : SameMembers SameReading suppressors suppressors') :
    ((suppressionAssociation io false suppressors).1 = true ∧
        (suppressionAssociation io' false suppressors').1 = true) ∨
      suppressionAssociation io false suppressors =
        suppressionAssociation io' false suppressors' := by
  have htouches : (∃ s ∈ suppressors, Touches io s) ↔ ∃ s ∈ suppressors', Touches io' s :=
    exists_congr_members hsup fun _ _ hs => touches_congr hio hs
  have hunlinked : (∃ s ∈ suppressors, Unlinked io s) ↔ ∃ s ∈ suppressors', Unlinked io' s :=
    exists_congr_members hsup fun _ _ hs => unlinked_congr hio hs
  by_cases hsome : ∃ s ∈ suppressors, Touches io s
  · exact Or.inl ⟨(suppressionAssociation_fst false _).mpr hsome,
      (suppressionAssociation_fst false _).mpr (htouches.mp hsome)⟩
  · right
    have hnone : ∀ s ∈ suppressors, ¬Touches io s := fun s hs ht => hsome ⟨s, hs, ht⟩
    have hnone' : ∀ s ∈ suppressors', ¬Touches io' s :=
      fun s hs ht => hsome (htouches.mpr ⟨s, hs, ht⟩)
    refine Prod.ext ?_ ?_
    · rw [Bool.eq_iff_iff, suppressionAssociation_fst, suppressionAssociation_fst, htouches]
    · rw [Bool.eq_iff_iff, suppressionAssociation_snd false hnone,
        suppressionAssociation_snd false hnone', hunlinked]

lemma positiveRead_congr (h : SameEvidence ctx ctx') (hio : SameReading io io')
    (hsup : SameMembers SameReading suppressors suppressors') :
    positiveRead gate ctx suppressors io = positiveRead gate ctx' suppressors' io' := by
  have hread : structuralRead gate ctx io = structuralRead gate ctx' io' :=
    structuralRead_congr h hio
  have hpolarity : io'.polarity = io.polarity := by
    obtain ⟨refs, -, rfl⟩ := hio
    rfl
  have hne : suppressors ≠ [] ↔ suppressors' ≠ [] := not_congr hsup.eq_nil_iff
  simp only [positiveRead, hpolarity, hread, hne]
  split_ifs
  · rfl
  · rcases suppressionAssociation_congr hio hsup with ⟨h1, h2⟩ | heq
    · rcases hs : suppressionAssociation io false suppressors with ⟨a, b⟩
      rcases hs' : suppressionAssociation io' false suppressors' with ⟨a', b'⟩
      rw [hs] at h1
      rw [hs'] at h2
      cases h1
      cases h2
      rfl
    · rw [heq]
  · rfl

lemma liveGroup_congr (h : SameEvidence ctx ctx') (hio : SameReading io io')
    (hsup : SameMembers SameReading suppressors suppressors') :
    liveGroup gate ctx suppressors io = liveGroup gate ctx' suppressors' io' := by
  have hread : positiveRead gate ctx suppressors io = positiveRead gate ctx' suppressors' io' :=
    positiveRead_congr h hio hsup
  obtain ⟨refs, hperm, rfl⟩ := hio
  have hsorted : sortedUnique io.observationRefs = sortedUnique refs :=
    sortedUnique_congr fun _ => hperm.mem_iff
  simp only [liveGroup, hread, hsorted, ← List.length_eq_zero_iff, hperm.length_eq, ne_eq]

end Occurrence

/-! ### One indicator -/

section Indicator

variable {suppressors suppressors' : List IndicatorObservation}

lemma observationsFor_congr (h : SameEvidence ctx ctx') (id : String) :
    SameMembers SameReading (ctx.observationsFor id) (ctx'.observationsFor id) := by
  apply h.occurrences.filter
  rintro io - _ - ⟨refs, -, rfl⟩
  rfl

lemma prefer_congr (order : List Reason) {reasons reasons' : List Reason} (h : ∀ r, r ∈ reasons ↔ r ∈ reasons') :
    prefer order reasons = prefer order reasons' := by
  have hcontains : reasons.contains = reasons'.contains := by
    funext r
    rw [Bool.eq_iff_iff, List.contains_iff_mem, List.contains_iff_mem, h r]
  simp only [prefer, hcontains]

lemma unknown_congr {α : Type} {f g : IndicatorObservation → α} {p : α → Truth}
    {q : α → Reason} {ios ios' : List IndicatorObservation}
    (h : SameMembers SameReading ios ios') (hfg : ∀ io io', SameReading io io' → f io = g io')
    (r : Reason) : r ∈ ((ios.map f).filter (p · == .UNKNOWN)).map q ↔
      r ∈ ((ios'.map g).filter (p · == .UNKNOWN)).map q := by
  have hmem := h.mem_map fun io _ io' _ => hfg io io'
  simp only [List.mem_map, List.mem_filter] at hmem ⊢
  exact exists_congr fun a => and_congr_left fun _ => and_congr_left fun _ => hmem a

theorem combinePositive_congr (h : SameEvidence ctx ctx')
    (hsup : SameMembers SameReading suppressors suppressors') (id : String) :
    combinePositive gate ctx id suppressors = combinePositive gate ctx' id suppressors' := by
  have hios := observationsFor_congr h id
  have hread : ∀ io io', SameReading io io' →
      positiveRead gate ctx suppressors io = positiveRead gate ctx' suppressors' io' :=
    fun _ _ hio => positiveRead_congr h hio hsup
  have hvalue : Truth.any (((ctx.observationsFor id).map
        (positiveRead gate ctx suppressors)).map Occurrence.value) =
      Truth.any (((ctx'.observationsFor id).map
        (positiveRead gate ctx' suppressors')).map Occurrence.value) := by
    apply any_congr_members
    rw [List.map_map, List.map_map]
    exact hios.mem_map fun io _ io' _ hio => congrArg Occurrence.value (hread io io' hio)
  have hneutralised : ((ctx.observationsFor id).map
        (positiveRead gate ctx suppressors)).any Occurrence.neutralised =
      ((ctx'.observationsFor id).map
        (positiveRead gate ctx' suppressors')).any Occurrence.neutralised := by
    rw [List.any_map, List.any_map]
    exact hios.any_eq fun io _ io' _ hio => congrArg Occurrence.neutralised (hread io io' hio)
  have hreasons := fun order => prefer_congr order
    (unknown_congr (p := Occurrence.value) (q := Occurrence.reason) hios hread)
  have hgroups : sortedUnique ((ctx.observationsFor id).filterMap (liveGroup gate ctx suppressors)) =
      sortedUnique ((ctx'.observationsFor id).filterMap (liveGroup gate ctx' suppressors')) :=
    sortedUnique_congr (hios.mem_filterMap fun _ _ _ _ hio => liveGroup_congr h hio hsup)
  simp only [combinePositive, hvalue, hneutralised, hreasons, hgroups]

lemma negativeRead_congr {io io' : IndicatorObservation} (hio : SameReading io io') :
    negativeRead gate io = negativeRead gate io' := by
  obtain ⟨refs, -, rfl⟩ := hio
  rfl

theorem combineNegative_congr (h : SameEvidence ctx ctx') (id : String) :
    combineNegative gate ctx id = combineNegative gate ctx' id := by
  have hios := observationsFor_congr h id
  have hread : ∀ io io', SameReading io io' → negativeRead gate io = negativeRead gate io' :=
    fun _ _ hio => negativeRead_congr hio
  have hvalue : Truth.any (((ctx.observationsFor id).map (negativeRead gate)).map Prod.fst) =
      Truth.any (((ctx'.observationsFor id).map (negativeRead gate)).map Prod.fst) := by
    apply any_congr_members
    rw [List.map_map, List.map_map]
    exact hios.mem_map fun io _ io' _ hio => congrArg Prod.fst (hread io io' hio)
  have hreasons := fun order => prefer_congr order
    (unknown_congr (p := Prod.fst) (q := Prod.snd) hios hread)
  simp only [combineNegative, hvalue, hreasons]

end Indicator

/-! ### What the rules read -/

section Maps

lemma rawPositive_congr (h : SameEvidence ctx ctx') :
    rawPositive rk gate ctx = rawPositive rk gate ctx' := by
  funext id
  have hsup : SameMembers SameReading ([] : List IndicatorObservation) [] := ⟨nofun, nofun⟩
  have hne : ctx.observationsFor id ≠ [] ↔ ctx'.observationsFor id ≠ [] :=
    not_congr (observationsFor_congr h id).eq_nil_iff
  simp only [rawPositive, hne, combinePositive_congr h hsup]

lemma negativeEntry_congr (h : SameEvidence ctx ctx') :
    negativeEntry rk gate ctx = negativeEntry rk gate ctx' := by
  funext id
  have hne : ctx.observationsFor id ≠ [] ↔ ctx'.observationsFor id ≠ [] :=
    not_congr (observationsFor_congr h id).eq_nil_iff
  simp only [negativeEntry, hne, combineNegative_congr h]

lemma presentIndicatorIds_congr (h : SameEvidence ctx ctx') :
    ctx.presentIndicatorIds = ctx'.presentIndicatorIds := by
  apply sortedUnique_congr
  apply h.occurrences.mem_map
  rintro io - _ - ⟨refs, -, rfl⟩
  rfl

lemma matchedNegative_congr (h : SameEvidence ctx ctx') (categories : List String) :
    matchedNegative rk gate ctx categories = matchedNegative rk gate ctx' categories := by
  simp only [matchedNegative, activeNegatives, presentIndicatorIds_congr h,
    negativeEntry_congr h]

lemma activeOccurrences_congr (h : SameEvidence ctx ctx') (id : String) :
    SameMembers SameReading (activeOccurrences gate ctx id) (activeOccurrences gate ctx' id) := by
  apply (observationsFor_congr h id).filter
  rintro io - _ - ⟨refs, -, rfl⟩
  rfl

lemma suppressorsFor_congr (h : SameEvidence ctx ctx') (categories : List String)
    (overrides : List Override) (target : String) :
    SameMembers SameReading (suppressorsFor rk gate ctx categories overrides target)
      (suppressorsFor rk gate ctx' categories overrides target) := by
  have hrefl : ∀ {α : Type} (xs : List α), SameMembers Eq xs xs :=
    fun xs => ⟨fun x hx => ⟨x, hx, rfl⟩, fun x hx => ⟨x, hx, rfl⟩⟩
  rw [suppressorsFor, suppressorsFor, matchedNegative_congr h]
  apply (hrefl (matchedNegative rk gate ctx' categories)).flatMap
  rintro id - _ - rfl
  unfold suppressorsOf
  split
  · exact ⟨nofun, nofun⟩
  · rename_i neg _
    split_ifs
    · exact ⟨nofun, nofun⟩
    · exact ⟨nofun, nofun⟩
    · exact (hrefl (neg.suppressesIndicators.filter (· == target))).flatMap
        fun _ _ _ _ _ => activeOccurrences_congr h id

theorem suppressedPositive_congr (h : SameEvidence ctx ctx') (categories : List String)
    (overrides : List Override) : suppressedPositive rk gate ctx categories overrides =
      suppressedPositive rk gate ctx' categories overrides := by
  funext id
  simp only [suppressedPositive, rawPositive_congr h,
    combinePositive_congr h (suppressorsFor_congr h categories overrides id)]

lemma representativeConfidence_congr (h : SameEvidence ctx ctx') (id : String) :
    representativeConfidence (ctx.observationsFor id) =
      representativeConfidence (ctx'.observationsFor id) := by
  apply max?_congr_members
  have hfilter : SameMembers SameReading
      ((ctx.observationsFor id).filter (·.matched == .OBSERVED))
      ((ctx'.observationsFor id).filter (·.matched == .OBSERVED)) := by
    apply (observationsFor_congr h id).filter
    rintro io - _ - ⟨refs, -, rfl⟩
    rfl
  apply hfilter.mem_filterMap
  rintro io - _ - ⟨refs, -, rfl⟩
  rfl

lemma collectRefs_congr (h : SameEvidence ctx ctx') : collectRefs ctx = collectRefs ctx' := by
  funext ids
  apply sortedUnique_congr
  intro ref
  simp only [List.mem_flatMap]
  refine exists_congr fun id => and_congr_right fun _ => ?_
  exact exists_congr_members (observationsFor_congr h id) fun s s' hs => by
    obtain ⟨refs, hperm, rfl⟩ := hs
    exact hperm.mem_iff

end Maps

/-! ### The results -/

lemma compositeBase_congr (h : SameEvidence ctx ctx') (rule : Rule) (minClasses : ℤ)
    (overrides : List Override) (required : Truth) (operandIds : List String)
    (effective : Option Json) :
    compositeBase rk gate ctx rule minClasses overrides required operandIds effective =
      compositeBase rk gate ctx' rule minClasses overrides required operandIds effective := by
  have hpresent : ∀ ids : List String, ids.filter (ctx.observationsFor · ≠ []) =
      ids.filter (ctx'.observationsFor · ≠ []) := by
    intro ids
    apply List.filter_congr
    intro id _
    rw [decide_eq_decide]
    exact not_congr (observationsFor_congr h id).eq_nil_iff
  have hneutralised : isNeutralised rk gate ctx rule.categories overrides =
      isNeutralised rk gate ctx' rule.categories overrides := by
    funext id
    simp only [isNeutralised, rawPositive_congr h, suppressedPositive_congr h]
  simp only [compositeBase, matchedPositive, suppressedPositive_congr h, matchedNegative_congr h,
    presentIndicatorIds_congr h, hneutralised, collectRefs_congr h,
    representativeConfidence_congr h, hpresent]
  rfl

lemma evaluateComposite_congr (h : SameEvidence ctx ctx') (rule : Rule) :
    evaluateComposite rk gate ctx rule = evaluateComposite rk gate ctx' rule := by
  simp only [evaluateComposite, compositeResult, rawPositive_congr h, suppressedPositive_congr h,
    compositeBase_congr h]

lemma evaluateSuppression_congr (h : SameEvidence ctx ctx') (rule : Rule) :
    evaluateSuppression rk gate ctx rule = evaluateSuppression rk gate ctx' rule := by
  have htruth : negativeTruth rk gate ctx = negativeTruth rk gate ctx' := by
    funext id
    simp only [negativeTruth, negativeEntry_congr h]
  simp only [evaluateSuppression, suppressionResult, suppressionBase, htruth, collectRefs_congr h]
  rfl

/-- Every rule has the same result on the same evidence. -/
theorem evaluateRules_congr (h : SameEvidence ctx ctx') :
    evaluateRules rk gate ctx = evaluateRules rk gate ctx' := by
  have hrun : runIsolated rk gate ctx = runIsolated rk gate ctx' := by
    funext rule
    simp only [runIsolated, runRule, h.language_eq, h.script_eq, evaluateComposite_congr h,
      evaluateSuppression_congr h]
  have hvalidated : evaluateValidated rk gate ctx = evaluateValidated rk gate ctx' := by
    funext id
    simp only [evaluateValidated, hrun]
  rw [evaluateRules, evaluateRules, hvalidated]

end Evaluator
end TrustLens.Runtime
