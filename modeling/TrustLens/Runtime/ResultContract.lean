import TrustLens.Runtime.BlockedSuppressors
import TrustLens.Runtime.GenuineDecisions
import TrustLens.Runtime.OccurrenceScope
import TrustLens.Runtime.RealizedTruth
import TrustLens.Runtime.Rearranged

/-!
# Results that conform to their schema

The ids of an accepted context have the form the result schema asks for, and whatever the
evaluator and the suppression stage list in a result comes from the context or from the
knowledge. So a match conforms as soon as the attributes of its rule do.
-/

namespace TrustLens.Runtime

open Aggregation (instanceRef)

/-! ### The ids of a context -/

/-- The ids of a context are in the form the contracts give them. -/
structure GovernedIds (ctx : Context) : Prop where
  indicator : ∀ io ∈ ctx.indicatorObservations, Condition.indicatorId io.indicatorId = true
  ref : ∀ io ∈ ctx.indicatorObservations, ∀ ref ∈ io.observationRefs, instanceRef ref = true

/-- Where a decoded record has its ids from. -/
lemma ids_of_decode {raw : Json} {io : IndicatorObservation}
    (hio : IndicatorObservation.decode raw = some io) :
    (if (raw.get "indicator_id").truthy then raw.get "indicator_id" else raw.get "id").str? =
        some io.indicatorId ∧
      io.observationRefs = (raw.get "observation_refs").strings?.getD [] := by
  unfold IndicatorObservation.decode at hio
  simp only [Option.bind_eq_bind, Option.bind_eq_some_iff, Option.pure_def] at hio
  obtain ⟨id, hid, text, -, status, -, hio⟩ := hio
  generalize (if (raw.get "confidence").isObj = true then (raw.get "confidence").get "level"
    else raw.get "confidence") = conf at hio
  by_cases hconf : conf = .null
  · simp only [if_pos hconf] at hio
    cases hio
    exact ⟨hid, rfl⟩
  · simp only [if_neg hconf] at hio
    obtain ⟨level, -, hio⟩ := Option.bind_eq_some_iff.mp hio
    cases hio
    exact ⟨hid, rfl⟩

lemma indicatorId_of_decode {raw : Json} {io : IndicatorObservation}
    (hraw : Contract.indicatorObservation raw = true)
    (hio : IndicatorObservation.decode raw = some io) :
    Condition.indicatorId io.indicatorId = true := by
  obtain ⟨value, hvalue, hid⟩ := Schema.exists_get? hraw "indicator_id" (by decide) rfl
  obtain ⟨s, rfl, hs⟩ := Schema.exists_str_of_pattern hid
  have hget : raw.get "indicator_id" = .str s := by rw [Json.get, hvalue, Option.getD_some]
  have htruthy : (Json.str s).truthy = true := by
    simpa [Json.truthy] using Evaluator.ne_empty_of_indicatorId hs
  have hdecode := (ids_of_decode hio).1
  rw [hget, if_pos htruthy] at hdecode
  exact Option.some.inj hdecode ▸ hs

lemma mem_of_mapM_str? {js : List Json} {ss : List String} (h : js.mapM Json.str? = some ss)
    {s : String} (hs : s ∈ ss) : .str s ∈ js := by
  induction js generalizing ss with
  | nil =>
    cases h
    cases hs
  | cons j rest ih =>
    rw [List.mapM_cons] at h
    obtain ⟨t, ht, h⟩ := Option.bind_eq_some_iff.mp h
    obtain ⟨ts, hts, h⟩ := Option.bind_eq_some_iff.mp h
    cases h
    rcases List.mem_cons.mp hs with rfl | hs
    · cases j with
      | str => exact Option.some.inj ht ▸ List.mem_cons_self
      | _ => cases ht
    · exact List.mem_cons_of_mem _ (ih hts hs)

lemma refs_of_decode {raw : Json} {io : IndicatorObservation}
    (hraw : Contract.indicatorObservation raw = true)
    (hio : IndicatorObservation.decode raw = some io) :
    ∀ ref ∈ io.observationRefs, instanceRef ref = true := by
  intro ref href
  rw [(ids_of_decode hio).2] at href
  cases hvalue : raw.get? "observation_refs" with
  | none =>
    rw [Json.get, hvalue] at href
    cases href
  | some value =>
    obtain ⟨js, rfl, hall⟩ :=
      Schema.exists_arr_of_uniqueArray (Schema.value_of_get? hraw hvalue rfl)
    rw [Json.get, hvalue, Option.getD_some] at href
    cases hstrings : js.mapM Json.str? with
    | none =>
      rw [Json.strings?, hstrings] at href
      cases href
    | some ss =>
      rw [Json.strings?, hstrings] at href
      exact hall _ (mem_of_mapM_str? hstrings href)

theorem governedIds_of_accepted {inds obs : List Json} {language script : String} {ctx : Context}
    (h : buildValidatedContext inds obs language script = .ok ctx) : GovernedIds ctx := by
  obtain ⟨hadmitted, -⟩ := buildValidatedContext_ok_iff.mp h
  have hall := decodeIndicators_ok_iff.mp hadmitted.indicators
  constructor
  · intro io hio
    obtain ⟨raw, -, -, hraw, hdecode⟩ := exists_left_of_forall₂ hall hio
    exact indicatorId_of_decode hraw hdecode
  · intro io hio
    obtain ⟨raw, -, -, hraw, hdecode⟩ := exists_left_of_forall₂ hall hio
    exact refs_of_decode hraw hdecode

/-! ### What the suppression stage lists -/

namespace SuppressionExecutor

variable {rk : RuntimeKnowledge} {ruleId : String}

/-- The lists of a resolution name matched negatives only. -/
lemma resolve_subset {blocked ids : List String} {res : Resolution}
    (h : resolve rk ruleId blocked ids = .ok res) :
    res.appliedSuppressors ⊆ ids ∧ res.blockedSuppressors ⊆ ids ∧ res.appliedCaps ⊆ ids ∧
      res.blockedCaps ⊆ ids ∧ res.contextOnly ⊆ ids := by
  induction ids generalizing res with
  | nil =>
    cases h
    simp
  | cons id rest ih =>
    obtain ⟨o, -, h⟩ := bind_ok h
    obtain ⟨res', hres', h⟩ := bind_ok h
    cases h
    have hrest := ih hres'
    rcases o with _ | (_ | _) | ⟨c, (_ | _)⟩ | _ <;> grind [Resolution.add]

/-- No ceiling is the highest severity. -/
lemma ceiling_ne_CRITICAL {blocked : List String} {id : String} {ceiling : Severity} {b : Bool}
    (h : outcomeOf rk ruleId blocked id = .ok (.cap ceiling b)) : ceiling ≠ .CRITICAL := by
  unfold outcomeOf at h
  cases hneg : rk.negativeIndicator id with
  | none =>
    rw [hneg] at h
    cases h
  | some neg =>
    simp only [hneg] at h
    cases hflag : neg.blockableByOverrides with
    | bool blockable =>
      simp only [hflag] at h
      split_ifs at h
      · cases h
      · cases h
      · cases hcap : severityCap? neg.severityCap with
        | none =>
          simp only [hcap] at h
          cases h
        | some c =>
          simp only [hcap] at h
          cases h
          unfold severityCap? at hcap
          split at hcap <;> cases hcap <;> decide
      · cases h
    | _ =>
      simp only [hflag] at h
      split_ifs at h

end SuppressionExecutor

namespace Aggregation

open Evaluator SuppressionExecutor

variable {rk : RuntimeKnowledge} {gate : Level} {ctx : Context} {rule : Rule}

/-- The attributes of a rule, and of the knowledge around it, that its results carry over. -/
structure ResultAttributes (rk : RuntimeKnowledge) (rule : Rule) : Prop where
  ruleId : ruleIdPattern rule.id = true
  version : versionPattern rule.version = true
  verdict : (EvidenceVerdict.ofJson? rule.verdict).isSome = true
  severity : (Severity.ofJson? rule.severity).isSome = true
  classes : ∀ ind ∈ rk.indicators, ∀ c, nonEmpty? ind.evidenceClass = some c →
    evidenceClassNames.contains c = true
  overrides : ∀ o ∈ rk.overrides, overrideIdPattern o.id = true
  sources : ∀ ref ∈ rule.sourceReferences, sourceConforms ⟨ref.sourceId, ref.issuingBody,
    ref.verificationStatus, nonEmpty? ref.authority, nonEmpty? ref.evidenceClass,
    nonEmpty? ref.quote⟩ = true
  evidence : ∀ ref ∈ rule.sourceReferences, ∀ id ∈ ref.evidenceIds, numbered "MR-EVID-" id = true

lemma indicatorId_of_present (hids : GovernedIds ctx) {id : String}
    (h : ctx.observationsFor id ≠ []) : Condition.indicatorId id = true := by
  obtain ⟨io, hio⟩ := List.exists_mem_of_ne_nil _ h
  obtain ⟨hmem, rfl⟩ := Context.mem_observationsFor.mp hio
  exact hids.indicator io hmem

lemma present_of_matchedNegative {categories : List String} {id : String}
    (h : id ∈ matchedNegative rk gate ctx categories) : ctx.observationsFor id ≠ [] := by
  rw [matchedNegative, List.mem_filter, mem_activeNegatives, negativeTruth_eq_TRUE] at h
  obtain ⟨-, io, hio⟩ := h.1
  exact List.ne_nil_of_mem (mem_activeOccurrences.mp hio).1

lemma instanceRef_of_collectRefs (hids : GovernedIds ctx) {ids : List String} {ref : String}
    (h : ref ∈ collectRefs ctx ids) : instanceRef ref = true := by
  rw [collectRefs, mem_sortedUnique, List.mem_flatMap] at h
  obtain ⟨id, -, href⟩ := h
  obtain ⟨io, hio, href⟩ := List.mem_flatMap.mp href
  exact hids.ref io (Context.mem_observationsFor.mp hio).1 ref href

/-- The groups of a TRUE indicator are well formed. -/
lemma provenanceConforms_groups (hids : GovernedIds ctx) {id : String}
    {suppressors : List IndicatorObservation}
    (h : (combinePositive gate ctx id suppressors).value = .TRUE) :
    provenanceConforms (combinePositive gate ctx id suppressors).groups = true := by
  simp only [provenanceConforms, Bool.and_eq_true, decide_eq_true_eq, Bool.not_eq_true',
    List.all_eq_true, List.isEmpty_eq_false_iff]
  refine ⟨⟨groups_ne_nil.mpr h, nodup_sortedUnique _⟩, fun group hgroup => ?_⟩
  obtain ⟨io, hio, hfires, rfl⟩ := mem_groups.mp hgroup
  refine ⟨⟨?_, nodup_sortedUnique _⟩, fun ref href => ?_⟩
  · rw [ne_eq, sortedUnique_eq_nil]
    exact refs_ne_nil_of_live hfires.2.2.1
  · exact hids.ref io (Context.mem_observationsFor.mp hio).1 ref (mem_sortedUnique.mp href)

/-- The suppression of a resolved match is well formed. -/
lemma suppressionConforms_resolved {blocked ids : List String} {res : Resolution}
    (hids : ∀ id ∈ ids, Condition.indicatorId id = true) {ruleId : String}
    (h : resolve rk ruleId blocked ids = .ok res) :
    suppressionConforms (suppressionOf res) = true := by
  obtain ⟨happlied, hblocked, hcaps, hblockedCaps, hcontext⟩ := resolve_subset h
  have hceilings := (resolve_ok h).ceilings
  have hall : ∀ xs : List String, xs ⊆ ids →
      (sortedUnique xs).all Condition.indicatorId = true := by
    intro xs hxs
    rw [List.all_eq_true]
    exact fun id hid => hids id (hxs (mem_sortedUnique.mp hid))
  have hhead : (sortedUnique res.appliedSuppressors).head?.all Condition.indicatorId = true := by
    rw [Option.all_eq_true]
    exact fun id hid => hids id (happlied (mem_sortedUnique.mp (List.mem_of_head? hid)))
  have hcritical : (sortedUnique res.survivingCeilings).all (· ≠ .CRITICAL) = true := by
    rw [List.all_eq_true]
    intro c hc
    obtain ⟨id, -, hid⟩ := (hceilings c).mp (mem_sortedUnique.mp hc)
    simpa using ceiling_ne_CRITICAL hid
  simp only [suppressionConforms, suppressionOf, hall _ happlied, hall _ hblocked, hall _ hcaps,
    hall _ hblockedCaps, hall _ hcontext, hhead, hcritical, nodup_sortedUnique, decide_true,
    Bool.true_and]

/-- A resolved match conforms when the attributes of its rule do. -/
theorem conforms_resolved (hattrs : ResultAttributes rk rule) (hids : GovernedIds ctx)
    {logic : Json} {minClasses : ℤ} {overrides : List Override} {required : Truth}
    {operandIds : List String} {effective : Option Json}
    (run : CompositeRun rk gate ctx rule logic minClasses overrides required operandIds effective)
    (hmin : 2 ≤ minClasses)
    (hmatched : (compositeResult rk gate ctx rule minClasses overrides required operandIds
      effective).evaluationState = .MATCHED)
    {base : Severity} {blocked : List String} {res : Resolution}
    (mrun : MatchedRun rk (compositeResult rk gate ctx rule minClasses overrides required operandIds
      effective) base blocked res) :
    conforms (resolved (compositeResult rk gate ctx rule minClasses overrides required operandIds
      effective).canonical base res) = true := by
  have hstate : (compositeBase rk gate ctx rule minClasses overrides required operandIds
      effective).evaluationState = .MATCHED := compositeResult_same.evaluationState.symm.trans hmatched
  have hresult : compositeResult rk gate ctx rule minClasses overrides required operandIds
      effective = attachMatchProvenance rule (compositeBase rk gate ctx rule minClasses overrides
        required operandIds effective) := by
    simp only [compositeResult, if_pos hstate]
  obtain ⟨rfl, -⟩ := compositeState_eq_MATCHED.mp hstate
  have hpositive : ∀ id ∈ matchedPositive rk gate ctx rule overrides operandIds,
      Condition.indicatorId id = true := by
    intro id hid
    obtain ⟨-, -, io, hio, -⟩ := mem_matchedPositive.mp hid
    exact indicatorId_of_present hids (List.ne_nil_of_mem hio)
  have hnegative : ∀ id ∈ sortedUnique (matchedNegative rk gate ctx rule.categories),
      Condition.indicatorId id = true := fun id hid =>
    indicatorId_of_present hids (present_of_matchedNegative (mem_sortedUnique.mp hid))
  have hsuppression : suppressionConforms (suppressionOf res) = true := by
    refine suppressionConforms_resolved ?_ mrun.res_eq
    rw [hresult]
    exact hnegative
  have hfinal : (resolved (attachMatchProvenance rule (compositeBase rk gate ctx rule minClasses
      overrides .TRUE operandIds effective)).canonical base res).evaluationState =
      if res.appliedSuppressors ≠ [] then .SUPPRESSED else .MATCHED := resolved_state hstate base res
  have hhead : (suppressionOf res).appliedSuppressors = sortedUnique res.appliedSuppressors := rfl
  have hby : (suppressionOf res).suppressedBy = (sortedUnique res.appliedSuppressors).head? := rfl
  rw [hresult]
  simp only [conforms, Bool.and_eq_true]
  refine ⟨⟨⟨⟨⟨⟨⟨⟨⟨⟨⟨⟨⟨⟨⟨⟨⟨⟨⟨hattrs.ruleId, hattrs.version⟩, ?_⟩, ?_⟩, ?_⟩, ?_⟩, ?_⟩, ?_⟩, ?_⟩, ?_⟩, ?_⟩,
    ?_⟩, ?_⟩, ?_⟩, ?_⟩, ?_⟩, ?_⟩, ?_⟩, ?_⟩, ?_⟩
  · exact (all_sortedUnique _ _).trans (List.all_eq_true.mpr hpositive)
  · exact List.all_eq_true.mpr hnegative
  · refine (all_sortedUnique _ _).trans (List.all_eq_true.mpr fun id hid => ?_)
    exact indicatorId_of_present hids
      (Context.mem_presentIndicatorIds.mp (List.mem_filter.mp hid).1)
  · refine (all_sortedUnique _ _).trans (List.all_eq_true.mpr fun ref href => ?_)
    exact instanceRef_of_collectRefs hids href
  · refine List.all_eq_true.mpr fun e he => Bool.and_eq_true_iff.mpr ?_
    rw [mem_livePositiveProvenance (hresult ▸ he)]
    obtain ⟨id, hid, hentry⟩ := List.mem_filterMap.mp he
    obtain ⟨-, -, io, hio, hfires⟩ := mem_matchedPositive.mp hid
    obtain rfl : e.1 = id := by
      split at hentry
      · exact congrArg Prod.fst (Option.some.inj hentry).symm
      · cases hentry
    exact ⟨hpositive _ hid, provenanceConforms_groups hids
      (combinePositive_value.mpr ⟨io, hio, hfires⟩)⟩
  · exact decide_eq_true (nodup_sortedUnique _)
  · refine (all_sortedUnique _ _).trans (List.all_eq_true.mpr fun c hc => ?_)
    obtain ⟨id, -, hclass⟩ := List.mem_filterMap.mp (mem_sortedUnique.mp hc)
    cases hind : rk.indicator id with
    | none =>
      rw [hind] at hclass
      cases hclass
    | some ind =>
      rw [hind] at hclass
      exact hattrs.classes ind (List.mem_of_find?_eq_some hind) c hclass
  · exact decide_eq_true hmin
  · exact hsuppression
  · refine (all_sortedUnique _ _).trans (List.all_eq_true.mpr fun id hid => ?_)
    obtain ⟨o, ho, rfl⟩ := List.mem_map.mp hid
    exact hattrs.overrides o ((SuppressionExecutor.mem_activeOverrides run.overrides_eq o).mp ho).1
  · refine List.all_eq_true.mpr fun e he => ?_
    obtain ⟨id, hid, rfl⟩ := List.mem_map.mp he
    exact indicatorId_of_present hids (by simpa using (List.mem_filter.mp hid).2)
  · exact hattrs.verdict
  · exact hattrs.severity
  · exact Option.isSome_iff_exists.mpr ⟨_, Severity.ofString?_name _⟩
  · refine List.all_eq_true.mpr fun echo hecho => ?_
    obtain ⟨ref, href, rfl⟩ := List.mem_map.mp hecho
    exact hattrs.sources ref href
  · refine (all_sortedUnique _ _).trans (List.all_eq_true.mpr fun id hid => ?_)
    obtain ⟨ref, href, hid⟩ := List.mem_flatMap.mp (mem_sortedUnique.mp hid)
    exact hattrs.evidence ref href id hid
  · rw [hfinal]
    show (_ || (true && ((some (suppressionOf res)).any _))) = true
    simp only [Option.any_some, hhead, hby, isEmpty_sortedUnique]
    cases hnil : sortedUnique res.appliedSuppressors with
    | nil => simp [sortedUnique_eq_nil.mp hnil]
    | cons id rest =>
      have hne : res.appliedSuppressors ≠ [] := fun h => by simp [h] at hnil
      simp [hne]
  · rw [hfinal]
    show (!((some (suppressionOf res)).any _) || (_ && true)) = true
    simp only [Option.any_some, hhead, isEmpty_sortedUnique]
    by_cases hnil : res.appliedSuppressors = []
    · simp [hnil]
    · simp [hnil]

lemma unresolvedReference_eq_none {r : RuleResult}
    (hpositive : ∀ id ∈ r.matchedPositiveIndicators ++ r.neutralisedIndicators,
      rk.isPositive id = true)
    (hnegative : ∀ id ∈ r.matchedNegativeIndicators, rk.isNegative id = true)
    (hoverride : ∀ id ∈ r.activeOverrides, ∃ o, rk.override id = some o) :
    unresolvedReference rk r = none := by
  have hfirst : (r.matchedPositiveIndicators ++ r.neutralisedIndicators).find?
      (fun id => (rk.indicator id).isNone) = none := by
    refine List.find?_eq_none.mpr fun id hid => ?_
    obtain ⟨ind, hind⟩ := RuntimeKnowledge.isPositive_iff.mp (hpositive id hid)
    simp [hind]
  have hsecond : r.matchedNegativeIndicators.find? (fun id => (rk.negativeIndicator id).isNone) =
      none := by
    refine List.find?_eq_none.mpr fun id hid => ?_
    obtain ⟨neg, hneg⟩ := RuntimeKnowledge.isNegative_iff.mp (hnegative id hid)
    simp [hneg]
  have hthird : r.activeOverrides.find? (fun id => (rk.override id).isNone) = none := by
    refine List.find?_eq_none.mpr fun id hid => ?_
    obtain ⟨o, ho⟩ := hoverride id hid
    simp [ho]
  rw [unresolvedReference, hfirst, hsecond, hthird]
  rfl

lemma isPositive_of_isNeutralised {categories : List String} {overrides : List Override}
    {id : String} (h : isNeutralised rk gate ctx categories overrides id = true) :
    rk.isPositive id = true := by
  unfold isNeutralised rawPositive at h
  split_ifs at h with hpos
  exact hpos.1

/-- What a normal result must satisfy to pass the semantic matrix. -/
lemma checkSemanticInvariants_normal {r : RuleResult} (hstate : r.evaluationState ≠ .NOT_APPLICABLE)
    (hpair : r.requiredCombinationResult ∈ requiredAllowed r.evaluationState)
    (herror : r.evaluationError = none) (hverdict : r.verdict? ≠ none) (hseverity : r.severity? ≠ none)
    (hrefs : unresolvedReference rk r = none)
    (hstray : ∀ id ∈ r.provenanceIds, id ∈ r.matchedPositiveIndicators) :
    checkSemanticInvariants rk r = .ok () := by
  have hfound : r.provenanceIds.find? (· ∉ r.matchedPositiveIndicators) = none := by
    refine List.find?_eq_none.mpr fun id hid => ?_
    simpa using hstray id hid
  rw [checkSemanticInvariants, if_neg (not_not.mpr hpair), if_neg fun h => hstate h.1,
    if_neg fun h => h.2 herror, if_neg fun h => hverdict h.2.2, if_neg fun h => hseverity h.2.2,
    hrefs]
  simp only [hfound]

/-- A resolved match whose attributes conform passes every check of the aggregation. -/
theorem checked_resolved (hattrs : ResultAttributes rk rule) (hids : GovernedIds ctx)
    {logic : Json} {minClasses : ℤ} {overrides : List Override} {required : Truth}
    {operandIds : List String} {effective : Option Json}
    (run : CompositeRun rk gate ctx rule logic minClasses overrides required operandIds effective)
    (hmin : 2 ≤ minClasses)
    (hmatched : (compositeResult rk gate ctx rule minClasses overrides required operandIds
      effective).evaluationState = .MATCHED)
    {base : Severity} {blocked : List String} {res : Resolution}
    (mrun : MatchedRun rk (compositeResult rk gate ctx rule minClasses overrides required operandIds
      effective) base blocked res) :
    ∃ copy, Checked rk (resolved (compositeResult rk gate ctx rule minClasses overrides required
      operandIds effective).canonical base res) copy := by
  have hconforms := conforms_resolved hattrs hids run hmin hmatched mrun
  set r := compositeResult rk gate ctx rule minClasses overrides required operandIds effective
    with hr
  have htrue : r.requiredCombinationResult = .TRUE := by
    have hstate := compositeResult_same.evaluationState.symm.trans hmatched
    rw [hr, compositeResult_same.required]
    exact (compositeState_eq_MATCHED.mp hstate).1
  have hstate := resolved_state (r := r.canonical) hmatched base res
  refine ⟨_, by rw [validateAndCanonicalCopy, if_neg (by simp [hconforms])], ?_⟩
  have hpositive : ∀ id ∈ sortedUnique (sortedUnique r.matchedPositiveIndicators) ++
      sortedUnique (sortedUnique r.neutralisedIndicators), rk.isPositive id = true := by
    intro id hid
    simp only [List.mem_append, mem_sortedUnique] at hid
    rcases hid with hid | hid
    · rw [hr, compositeResult_same.matchedPositive] at hid
      exact (mem_matchedPositive.mp hid).2.1
    · rw [hr, compositeResult_same.neutralised] at hid
      exact isPositive_of_isNeutralised (List.mem_filter.mp hid).2
  have hnegative : ∀ id ∈ sortedUnique (sortedUnique r.matchedNegativeIndicators),
      rk.isNegative id = true := by
    intro id hid
    rw [mem_sortedUnique, mem_sortedUnique, hr, compositeResult_same.matchedNegative] at hid
    exact (negativeTruth_eq_TRUE.mp (mem_activeNegatives.mp (List.mem_filter.mp hid).1)).1
  have hoverride : ∀ id ∈ sortedUnique (sortedUnique r.activeOverrides),
      ∃ o, rk.override id = some o := by
    intro id hid
    rw [mem_sortedUnique, mem_sortedUnique, hr, compositeResult_same.overrides] at hid
    obtain ⟨o, ho, rfl⟩ := List.mem_map.mp hid
    exact ⟨o, RuntimeKnowledge.override_of_mem
      ((SuppressionExecutor.mem_activeOverrides run.overrides_eq o).mp ho).1⟩
  have hstray : ∀ e ∈ r.livePositiveProvenance, e.1 ∈ r.matchedPositiveIndicators := by
    intro e he
    have hids : (compositeResult rk gate ctx rule minClasses overrides required operandIds
        effective).provenanceIds = matchedPositive rk gate ctx rule overrides operandIds :=
      provenanceIds_compositeResult
    rw [hr, compositeResult_same.matchedPositive]
    show e.1 ∈ matchedPositive rk gate ctx rule overrides operandIds
    rw [← hids]
    exact List.mem_map_of_mem he
  refine checkSemanticInvariants_normal ?_ ?_ ?_ ?_ ?_
    (unresolvedReference_eq_none hpositive hnegative hoverride) ?_
  · show (resolved r.canonical base res).evaluationState ≠ _
    rw [hstate]
    split_ifs <;> decide
  · show r.requiredCombinationResult ∈ requiredAllowed (resolved r.canonical base res).evaluationState
    rw [hstate, htrue]
    split_ifs <;> decide
  · exact compositeResult_same.error
  · show r.ruleEvidenceVerdict.bind EvidenceVerdict.ofJson? ≠ none
    rw [hr, compositeResult_same.verdict]
    exact Option.isSome_iff_ne_none.mp hattrs.verdict
  · show (resolved r.canonical base res).effectiveSeverity.bind Severity.ofJson? ≠ none
    rw [severity_of_resolved]
    intro hnone
    cases hnone
  · intro id hid
    obtain ⟨e, he, rfl⟩ := List.mem_map.mp hid
    obtain ⟨e', he', rfl⟩ := List.mem_map.mp he
    refine mem_sortedUnique.mpr (mem_sortedUnique.mpr (hstray e' ?_))
    exact (List.mem_insertionSort _).mp he'

end Aggregation
end TrustLens.Runtime
