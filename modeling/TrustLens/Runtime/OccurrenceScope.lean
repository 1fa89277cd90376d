import TrustLens.Runtime.EvidenceOrder

/-!
# Suppression of single occurrences

A directional suppressor acts on the occurrences it shares an observation with and on no
others. What a rule reads of an indicator after suppression is the disjunction of what each
occurrence is worth beside the suppressors in force, and the provenance and the neutralised
indicators of its result say the same.
-/

namespace TrustLens.Runtime

namespace Evaluator

open Condition (evalCondition operands)

variable {rk : RuntimeKnowledge} {gate : Level} {ctx : Context}

/-- An occurrence that was reported with another polarity than its indicator has. -/
def Mismatched (io : IndicatorObservation) : Prop :=
  io.polarity ≠ none ∧ io.polarity ≠ some .POSITIVE

/-- An occurrence that says its indicator is absent. -/
def IsAbsence (io : IndicatorObservation) : Prop :=
  io.matched = .NOT_OBSERVED ∨ io.matched = .NOT_APPLICABLE

instance (io : IndicatorObservation) : Decidable (Mismatched io) :=
  inferInstanceAs (Decidable (_ ∧ _))

instance (io : IndicatorObservation) : Decidable (IsAbsence io) :=
  inferInstanceAs (Decidable (_ ∨ _))

instance (io s : IndicatorObservation) : Decidable (Touches io s) :=
  inferInstanceAs (Decidable (∃ _ ∈ _, _))

/-- What one occurrence is worth beside the suppressors in force on its indicator. -/
def occurrenceTruth (gate : Level) (ctx : Context) (suppressors : List IndicatorObservation)
    (io : IndicatorObservation) : Truth :=
  if Mismatched io then .UNKNOWN
  else if ctx.verdict io = .NON_LIVE ∨ IsAbsence io then .FALSE
  else if ∃ s ∈ suppressors, Touches io s then .FALSE
  else if io.observationRefs = [] ∨ ∃ s ∈ suppressors, s.observationRefs = [] then .UNKNOWN
  else if ctx.verdict io = .LIVE then (gateSingle gate io.matched io.confidence).1
  else .UNKNOWN

/-- An occurrence of a directional suppressor that is in force on an indicator in a rule. -/
def InForce (rk : RuntimeKnowledge) (gate : Level) (ctx : Context) (rule : Rule)
    (overrides : List Override) (target : String) (s : IndicatorObservation) : Prop :=
  ∃ id neg, rk.negativeIndicator id = some neg ∧
    negativeTruth rk gate ctx id = .TRUE ∧ negativeApplies rk id rule.categories = true ∧
    neg.suppressionEffect = some "SUPPRESS_INDICATOR" ∧ suppressorBlocked neg overrides = false ∧
    target ∈ neg.suppressesIndicators ∧ s ∈ activeOccurrences gate ctx id

/-! ### One occurrence -/

lemma gateSingle_FALSE (gate : Level) (io : IndicatorObservation) :
    (gateSingle gate io.matched io.confidence).1 = .FALSE ↔ IsAbsence io := by
  unfold gateSingle IsAbsence
  cases io.matched with
  | OBSERVED =>
    cases io.confidence with
    | none => simp
    | some level =>
      simp only
      split_ifs <;> simp
  | _ => simp

lemma verdict_of_refs_nil {io : IndicatorObservation} (h : io.observationRefs = []) :
    ctx.verdict io = .UNRESOLVED := by
  rw [Context.verdict, structuralVerdict, if_pos h]

/-- The structural reading of an occurrence without its suppressors. -/
lemma structuralRead_eq (io : IndicatorObservation) : (structuralRead gate ctx io).value =
    if ctx.verdict io = .NON_LIVE ∨ IsAbsence io then .FALSE
    else if ctx.verdict io = .LIVE then (gateSingle gate io.matched io.confidence).1
    else .UNKNOWN := by
  have hgate := gateSingle_FALSE gate io
  unfold structuralRead
  cases ctx.verdict io with
  | NON_LIVE => simp
  | LIVE =>
    by_cases habsent : IsAbsence io
    · rw [if_pos (.inr habsent)]
      exact hgate.mpr habsent
    · rw [if_neg (by simpa using habsent), if_pos rfl]
  | UNRESOLVED =>
    by_cases habsent : IsAbsence io
    · simp only [hgate.mpr habsent, habsent, or_true, if_true]
    · simp only [mt hgate.mp habsent, habsent, reduceCtorEq, or_self, if_false]

/-- The evaluator reads of an occurrence what it is worth. -/
theorem positiveRead_eq (suppressors : List IndicatorObservation) (io : IndicatorObservation) :
    (positiveRead gate ctx suppressors io).value = occurrenceTruth gate ctx suppressors io := by
  unfold positiveRead occurrenceTruth
  by_cases hmismatch : Mismatched io
  · have hpolarity : io.polarity ≠ none ∧ io.polarity ≠ some .POSITIVE := hmismatch
    rw [if_pos hpolarity, if_pos hmismatch]
  have hpolarity : ¬(io.polarity ≠ none ∧ io.polarity ≠ some .POSITIVE) := hmismatch
  rw [if_neg hpolarity, if_neg hmismatch]
  have hread : (structuralRead gate ctx io).value = _ := structuralRead_eq io
  by_cases hfalse : ctx.verdict io = .NON_LIVE ∨ IsAbsence io
  · rw [if_pos hfalse] at hread
    rw [if_pos hfalse]
    simp only [hread, ne_eq, not_true_eq_false, false_and, if_false]
  rw [if_neg hfalse] at hread
  rw [if_neg hfalse]
  have hne : (structuralRead gate ctx io).value ≠ .FALSE := by
    rw [hread]
    split_ifs
    · rw [ne_eq, gateSingle_FALSE]
      exact fun habsent => hfalse (.inr habsent)
    · decide
  -- without refs an occurrence reads UNKNOWN whether or not there are suppressors
  have hbare : io.observationRefs = [] → (structuralRead gate ctx io).value = .UNKNOWN := by
    intro hnil
    rw [hread, if_neg (by rw [verdict_of_refs_nil hnil]; decide)]
  have hfst : (suppressionAssociation io false suppressors).1 = true ↔ _ :=
    suppressionAssociation_fst false suppressors
  by_cases htouch : ∃ s ∈ suppressors, Touches io s
  · have hsome : suppressors ≠ [] := by
      rintro rfl
      obtain ⟨s, hs, -⟩ := htouch
      cases hs
    rw [if_pos ⟨hne, hsome⟩, if_pos htouch]
    have htrue := hfst.mpr htouch
    rcases hassoc : suppressionAssociation io false suppressors with ⟨associated, unresolved⟩
    rw [hassoc] at htrue
    obtain rfl : associated = true := htrue
    rfl
  · rw [if_neg htouch]
    push Not at htouch
    have hsnd := suppressionAssociation_snd false htouch
    simp only [Bool.false_eq_true, false_or] at hsnd
    by_cases hsome : suppressors = []
    · subst hsome
      simp only [ne_eq, not_true_eq_false, and_false, if_false, List.not_mem_nil, false_and,
        exists_false, or_false]
      split_ifs with hnil hlive
      · exact hbare hnil
      · rw [hread, if_pos hlive]
      · rw [hread, if_neg hlive]
    · rw [if_pos ⟨hne, hsome⟩]
      have hfalse' : (suppressionAssociation io false suppressors).1 = false := by
        rw [← Bool.not_eq_true, hfst]
        rintro ⟨s, hs, ht⟩
        exact htouch s hs ht
      rcases hassoc : suppressionAssociation io false suppressors with ⟨associated, unresolved⟩
      rw [hassoc] at hfalse' hsnd
      obtain rfl : associated = false := hfalse'
      obtain ⟨s₀, hs₀⟩ := List.exists_mem_of_ne_nil _ hsome
      have hunlinked : unresolved = true ↔
          (io.observationRefs = [] ∨ ∃ s ∈ suppressors, s.observationRefs = []) := by
        rw [hsnd]
        constructor
        · rintro ⟨s, hs, hnil | hnil⟩
          · exact .inl hnil
          · exact .inr ⟨s, hs, hnil⟩
        · rintro (hnil | ⟨s, hs, hnil⟩)
          · exact ⟨s₀, hs₀, .inl hnil⟩
          · exact ⟨s, hs, .inr hnil⟩
      cases unresolved with
      | true => rw [if_pos (hunlinked.mp rfl)]
      | false =>
        rw [if_neg (mt hunlinked.mpr Bool.false_ne_true)]
        exact hread

/-- Suppressors with refs that the occurrence does not share leave it alone. -/
lemma occurrenceTruth_untouched {suppressors : List IndicatorObservation}
    {io : IndicatorObservation} (h : Untouched suppressors io) :
    occurrenceTruth gate ctx suppressors io = occurrenceTruth gate ctx [] io := by
  have hfree : ¬∃ s ∈ suppressors, Touches io s := by
    rintro ⟨s, hs, ref, href, hshared⟩
    exact (h s hs).2 ref href hshared
  have hrefs : ¬∃ s ∈ suppressors, s.observationRefs = [] := by
    rintro ⟨s, hs, hnil⟩
    exact (h s hs).1 hnil
  simp only [occurrenceTruth, hfree, hrefs, List.not_mem_nil, false_and, exists_false, or_false,
    if_false]

/-- Suppression never raises what an occurrence is worth. -/
lemma occurrenceTruth_le (suppressors : List IndicatorObservation) (io : IndicatorObservation) :
    occurrenceTruth gate ctx suppressors io ≤ occurrenceTruth gate ctx [] io := by
  by_cases hmismatch : Mismatched io
  · rw [occurrenceTruth, occurrenceTruth, if_pos hmismatch, if_pos hmismatch]
  by_cases hfalse : ctx.verdict io = .NON_LIVE ∨ IsAbsence io
  · rw [occurrenceTruth, occurrenceTruth, if_neg hmismatch, if_neg hmismatch, if_pos hfalse,
      if_pos hfalse]
  have hplain : Truth.UNKNOWN ≤ occurrenceTruth gate ctx [] io := by
    simp only [occurrenceTruth, if_neg hmismatch, if_neg hfalse, List.not_mem_nil, false_and,
      exists_false, or_false, if_false]
    split_ifs
    · exact le_refl _
    · have hgate : (gateSingle gate io.matched io.confidence).1 ≠ .FALSE := by
        rw [ne_eq, gateSingle_FALSE]
        exact fun habsent => hfalse (.inr habsent)
      revert hgate
      cases (gateSingle gate io.matched io.confidence).1 <;> decide
    · exact le_refl _
  by_cases htouch : ∃ s ∈ suppressors, Touches io s
  · rw [occurrenceTruth, if_neg hmismatch, if_neg hfalse, if_pos htouch]
    exact Truth.FALSE_le _
  by_cases hunlinked : io.observationRefs = [] ∨ ∃ s ∈ suppressors, s.observationRefs = []
  · rw [occurrenceTruth, if_neg hmismatch, if_neg hfalse, if_neg htouch, if_pos hunlinked]
    exact hplain
  · rw [occurrenceTruth_untouched]
    intro s hs
    refine ⟨fun hnil => hunlinked (.inr ⟨s, hs, hnil⟩), fun ref href hshared => ?_⟩
    exact htouch ⟨s, hs, ref, href, hshared⟩

/-- An occurrence that is worth TRUE shares nothing with a suppressor. -/
lemma untouched_of_occurrenceTruth {suppressors : List IndicatorObservation}
    {io : IndicatorObservation} (h : occurrenceTruth gate ctx suppressors io = .TRUE) :
    Untouched suppressors io := by
  rw [← positiveRead_eq, positiveRead_value] at h
  exact h.2.2.2

/-! ### One indicator -/

lemma mem_suppressorsFor_iff {rule : Rule} {overrides : List Override} {target : String}
    {s : IndicatorObservation} :
    s ∈ suppressorsFor rk gate ctx rule.categories overrides target ↔
      InForce rk gate ctx rule overrides target s := by
  simp only [suppressorsFor, matchedNegative, List.mem_flatMap, List.mem_filter,
    mem_activeNegatives, InForce]
  refine exists_congr fun id => ?_
  unfold suppressorsOf
  cases hneg : rk.negativeIndicator id with
  | none => simp
  | some neg =>
    simp only [Option.some.injEq, exists_eq_left']
    constructor
    · rintro ⟨⟨hactive, happlies⟩, hs⟩
      split_ifs at hs with heffect hblocked
      · cases hs
      · cases hs
      · obtain ⟨_, htarget, hs⟩ := List.mem_flatMap.mp hs
        obtain ⟨hmem, heq⟩ := List.mem_filter.mp htarget
        rw [beq_iff_eq] at heq
        exact ⟨hactive, happlies, not_not.mp heffect, (Bool.not_eq_true _).mp hblocked,
          heq ▸ hmem, hs⟩
    · rintro ⟨hactive, happlies, heffect, hblocked, htarget, hs⟩
      refine ⟨⟨hactive, happlies⟩, ?_⟩
      rw [if_neg (not_not.mpr heffect), if_neg (by rw [hblocked]; exact Bool.false_ne_true)]
      exact List.mem_flatMap.mpr ⟨target, List.mem_filter.mpr ⟨htarget, beq_self_eq_true _⟩, hs⟩

lemma rawPositive_of_present {id : String} (hpos : rk.isPositive id = true)
    (hpresent : ctx.observationsFor id ≠ []) :
    rawPositive rk gate ctx id = some (combinePositive gate ctx id []) :=
  if_pos ⟨hpos, hpresent⟩

lemma combinePositive_eq (id : String) (suppressors : List IndicatorObservation) :
    (combinePositive gate ctx id suppressors).value =
      Truth.any ((ctx.observationsFor id).map (occurrenceTruth gate ctx suppressors)) := by
  simp only [combinePositive, List.map_map]
  congr 1
  exact List.map_congr_left fun io _ => positiveRead_eq suppressors io

lemma any_map_mono {α : Type} {xs : List α} {f g : α → Truth} (h : ∀ x ∈ xs, f x ≤ g x) :
    Truth.any (xs.map f) ≤ Truth.any (xs.map g) := by
  rw [Truth.le_iff]
  simp only [Truth.lo_any, Truth.hi_any, List.any_map, List.any_eq_true, Function.comp]
  constructor
  · rintro ⟨x, hx, hlo⟩
    exact ⟨x, hx, ((Truth.le_iff _ _).mp (h x hx)).1 hlo⟩
  · rintro ⟨x, hx, hhi⟩
    exact ⟨x, hx, ((Truth.le_iff _ _).mp (h x hx)).2 hhi⟩

/-! ### The result of a rule -/

/-- What a result says of suppression, beside the truth the rule was evaluated in. -/
structure OccurrenceScoped (rk : RuntimeKnowledge) (gate : Level) (ctx : Context) (rule : Rule)
    (overrides : List Override) (truth : String → Truth) (r : RuleResult) : Prop where
  rule_eq : ∃ logic operandIds, logicOf rule = .ok logic ∧
    evalCondition truth (logic.get "require") = .ok r.requiredCombinationResult ∧
    operands (logic.get "require") = .ok operandIds ∧
    ∀ id, id ∈ r.matchedPositiveIndicators ↔
      id ∈ operandIds ∧ rk.isPositive id = true ∧ truth id = .TRUE
  truth_eq : ∀ id, rk.isPositive id = true → ctx.observationsFor id ≠ [] →
    ∃ S, (∀ s, s ∈ S ↔ InForce rk gate ctx rule overrides id s) ∧
      truth id = Truth.any ((ctx.observationsFor id).map (occurrenceTruth gate ctx S)) ∧
      truth id ≤ Truth.any ((ctx.observationsFor id).map (occurrenceTruth gate ctx [])) ∧
      (∀ io ∈ ctx.observationsFor id, io.observationRefs ≠ [] → (∀ s ∈ S, s.observationRefs ≠ [] ∧
        ∀ ref ∈ io.observationRefs, ref ∉ s.observationRefs) →
        occurrenceTruth gate ctx S io = occurrenceTruth gate ctx [] io) ∧
      ∀ groups, (id, groups) ∈ r.livePositiveProvenance → ∀ g, g ∈ groups ↔
        ∃ io ∈ ctx.observationsFor id, occurrenceTruth gate ctx S io = .TRUE ∧
          sortedUnique io.observationRefs = g
  absent : ∀ id, ctx.observationsFor id = [] → truth id = .UNKNOWN
  disjoint : ∀ id ∈ r.neutralisedIndicators, id ∉ r.matchedPositiveIndicators
  keys : r.livePositiveProvenance.map Prod.fst = r.matchedPositiveIndicators
  separate : ∀ e ∈ r.livePositiveProvenance, ∀ g ∈ e.2, ∀ ref ∈ g,
    ∀ s, InForce rk gate ctx rule overrides e.1 s → ref ∉ s.observationRefs

lemma value_of_isNeutralised {categories : List String} {overrides : List Override} {id : String}
    (h : isNeutralised rk gate ctx categories overrides id = true) :
    truthOf (suppressedPositive rk gate ctx categories overrides) id = .FALSE := by
  unfold isNeutralised suppressedPositive at h
  unfold truthOf suppressedPositive
  cases hraw : rawPositive rk gate ctx id with
  | none =>
    rw [hraw] at h
    cases h
  | some before =>
    simp only [hraw, Option.map_some, neutralisedAfter] at h ⊢
    split_ifs at h with hfalse hne
    · exact hfalse.1
    · exact not_not.mp hne

lemma mem_livePositiveProvenance {rule : Rule} {minClasses : ℤ} {overrides : List Override}
    {required : Truth} {operandIds : List String} {effective : Option Json}
    {e : String × List (List String)}
    (h : e ∈ (compositeResult rk gate ctx rule minClasses overrides required operandIds
      effective).livePositiveProvenance) :
    e.2 = (combinePositive gate ctx e.1
      (suppressorsFor rk gate ctx rule.categories overrides e.1)).groups := by
  rw [compositeResult_same.provenance] at h
  obtain ⟨id, hid, he⟩ := List.mem_filterMap.mp h
  obtain ⟨-, hpos, io, hio, -⟩ := mem_matchedPositive.mp hid
  simp only [suppressedPositive, rawPositive_of_present hpos (List.ne_nil_of_mem hio),
    Option.map_some] at he
  split at he
  · rename_i group groups hgroups
    obtain rfl := Option.some.inj he
    exact (Option.some.inj hgroups).symm
  · cases he

theorem occurrenceScoped_of_run {rule : Rule} {logic : Json} {minClasses : ℤ}
    {overrides : List Override} {required : Truth} {operandIds : List String}
    {effective : Option Json}
    (run : CompositeRun rk gate ctx rule logic minClasses overrides required operandIds effective) :
    OccurrenceScoped rk gate ctx rule overrides
      (truthOf (suppressedPositive rk gate ctx rule.categories overrides))
      (compositeResult rk gate ctx rule minClasses overrides required operandIds effective) := by
  have hmatched : ∀ id, id ∈ (compositeResult rk gate ctx rule minClasses overrides required
      operandIds effective).matchedPositiveIndicators ↔ id ∈ operandIds ∧ rk.isPositive id = true ∧
      truthOf (suppressedPositive rk gate ctx rule.categories overrides) id = .TRUE := by
    intro id
    rw [compositeResult_same.matchedPositive, truthOf_suppressedPositive]
    exact mem_matchedPositive.trans (and_congr_right fun _ => by rw [and_self_left])
  have hgroup : ∀ id, ∀ io ∈ ctx.observationsFor id,
      occurrenceTruth gate ctx (suppressorsFor rk gate ctx rule.categories overrides id) io =
        .TRUE ↔ Fires gate ctx (suppressorsFor rk gate ctx rule.categories overrides id) io :=
    fun id io _ => by rw [← positiveRead_eq, positiveRead_value]
  refine ⟨⟨logic, operandIds, run.logic_eq, ?_, run.operands_eq, hmatched⟩, ?_, ?_, ?_, ?_, ?_⟩
  · rw [compositeResult_same.required]
    exact run.required_eq
  · intro id hpos hpresent
    have hvalue : truthOf (suppressedPositive rk gate ctx rule.categories overrides) id =
        Truth.any ((ctx.observationsFor id).map (occurrenceTruth gate ctx
          (suppressorsFor rk gate ctx rule.categories overrides id))) := by
      simp only [truthOf, suppressedPositive, rawPositive_of_present hpos hpresent, Option.map_some,
        combinePositive_eq]
    refine ⟨suppressorsFor rk gate ctx rule.categories overrides id,
      fun s => mem_suppressorsFor_iff, hvalue, ?_, ?_, ?_⟩
    · rw [hvalue]
      exact any_map_mono fun io _ => occurrenceTruth_le _ io
    · exact fun io _ _ huntouched => occurrenceTruth_untouched huntouched
    · intro groups hgroups g
      rw [show groups = _ from mem_livePositiveProvenance hgroups, mem_groups]
      refine exists_congr fun io => and_congr_right fun hio => and_congr_left fun _ => ?_
      exact (hgroup id io hio).symm
  · intro id hnil
    simp only [truthOf, suppressedPositive, rawPositive, hnil, ne_eq, not_true_eq_false, and_false,
      if_false, Option.map_none]
  · intro id hid hmem
    rw [compositeResult_same.neutralised] at hid
    have hfalse := value_of_isNeutralised (List.mem_filter.mp hid).2
    rw [((hmatched id).mp hmem).2.2] at hfalse
    cases hfalse
  · rw [compositeResult_same.matchedPositive]
    exact provenanceIds_compositeResult
  · intro e he g hg ref href s hs
    rw [mem_livePositiveProvenance he] at hg
    obtain ⟨io, -, hfires, rfl⟩ := mem_groups.mp hg
    exact (hfires.2.2.2 s (mem_suppressorsFor_iff.mpr hs)).2 ref (mem_sortedUnique.mp href)

/-- Every composite result of an evaluation comes from occurrence-scoped suppression. -/
theorem suppression_occurrence_scoped (rk : RuntimeKnowledge) (profile : EvaluationProfile)
    {inds obs : List Json} {language script : String} {results : List RuleResult}
    (h : evaluateRulesFromGoverned rk profile inds obs language script = .ok results)
    {r : RuleResult} (hr : r ∈ results) (hkind : r.kind = .COMPOSITE)
    (hstate : r.evaluationState ≠ .NOT_APPLICABLE) :
    ∃ ctx rule overrides truth, buildValidatedContext inds obs language script = .ok ctx ∧
      rk.rule r.ruleId = some rule ∧ RuntimeKnowledge.isPublished rule = true ∧
      activeOverrides rk rule (truthOf (rawPositive rk profile.extractionConfidenceGate ctx)) =
        .ok overrides ∧
      OccurrenceScoped rk profile.extractionConfidenceGate ctx rule overrides truth r := by
  obtain ⟨ctx, hctx, hrules⟩ := evaluateRulesFromGoverned_ok h
  obtain ⟨rule, hmem, hpub, hrun⟩ := (mem_evaluateRules hrules r).mp hr
  have hid := ruleId_of_runIsolated hrun
  obtain ⟨logic, minClasses, overrides, required, operandIds, effective, run, rfl⟩ :=
    exists_compositeRun hrules hmem hr hid hkind hstate
  refine ⟨ctx, rule, overrides, _, hctx, ?_, hpub, run.overrides_eq, occurrenceScoped_of_run run⟩
  rw [hid]
  exact RuntimeKnowledge.rule_of_mem hmem

/-! ### A suppressor on one of two occurrences -/

/-- The sample bundle with a warning that suppresses credential requests. -/
def warningKnowledge : RuntimeKnowledge :=
  { sampleKnowledge with
    negatives := [⟨"OTP_WARNING", ["*"], some "SUPPRESS_INDICATOR", some "SAFETY_ADVICE",
      ["OTP_REQUEST"], .bool false, none⟩]
    negatives_nodup := by decide
    polarity_disjoint := by decide }

/-- An indicator reported with a polarity and a status. -/
def reportedIndicator (id polarity matched ref : String) : Json :=
  .obj [("indicator_id", .str id), ("polarity", .str polarity), ("matched", .str matched),
    ("confidence", .obj [("level", .str "HIGH")]), ("observation_refs", .arr [.str ref]),
    ("input_id", .str "in-1"), ("provenance", sampleProvenance)]

/-- A request, the same words in a warning, and the cue of the warning. -/
def warnedIndicators : List Json :=
  [sampleIndicator "OTP_REQUEST" "o-1", sampleIndicator "URGENCY" "o-1",
    sampleIndicator "OTP_REQUEST" "o-2", reportedIndicator "OTP_WARNING" "NEGATIVE" "OBSERVED" "o-2"]

def warnedObservations : List Json :=
  [sampleObservation "o-1" "DIRECTIVE", sampleObservation "o-2" "DIRECTIVE"]

theorem suppression_occurrence_scoped_warning :
    ∃ r ∈ resultsOf (evaluateRulesFromGoverned warningKnowledge {} warnedIndicators
        warnedObservations "en" "Latn"),
      r.evaluationState = .MATCHED ∧
      r.livePositiveProvenance = [("OTP_REQUEST", [["o-1"]]), ("URGENCY", [["o-1"]])] ∧
      ∃ ctx rule overrides truth,
        buildValidatedContext warnedIndicators warnedObservations "en" "Latn" = .ok ctx ∧
        warningKnowledge.rule r.ruleId = some rule ∧ RuntimeKnowledge.isPublished rule = true ∧
        activeOverrides warningKnowledge rule
          (truthOf (rawPositive warningKnowledge .MEDIUM ctx)) = .ok overrides ∧
        OccurrenceScoped warningKnowledge .MEDIUM ctx rule overrides truth r := by
  obtain ⟨r, hr, hmatch⟩ : ∃ r ∈ resultsOf (evaluateRulesFromGoverned warningKnowledge {}
      warnedIndicators warnedObservations "en" "Latn"), (r.kind = .COMPOSITE ∧
        r.evaluationState = .MATCHED) ∧
        r.livePositiveProvenance = [("OTP_REQUEST", [["o-1"]]), ("URGENCY", [["o-1"]])] := by
    decide +kernel
  obtain ⟨⟨hkind, hstate⟩, hprovenance⟩ := hmatch
  refine ⟨r, hr, hstate, hprovenance, ?_⟩
  exact suppression_occurrence_scoped warningKnowledge {} (eq_ok_of_resultsOf (List.ne_nil_of_mem hr))
    hr hkind (by rw [hstate]; decide)

/-- An absence reported with the wrong polarity is not read as an absence. -/
theorem mismatched_absence_unknown :
    ¬∀ (rk : RuntimeKnowledge) (gate : Level) (inds obs : List Json) (language script : String)
      (ctx : Context) (rule : Rule) (overrides : List Override) (id : String),
      buildValidatedContext inds obs language script = .ok ctx →
      activeOverrides rk rule (truthOf (rawPositive rk gate ctx)) = .ok overrides →
      rk.isPositive id = true → ctx.observationsFor id ≠ [] →
      (∀ io ∈ ctx.observationsFor id, ctx.verdict io = .NON_LIVE ∨ IsAbsence io) →
      truthOf (suppressedPositive rk gate ctx rule.categories overrides) id = .FALSE := by
  intro h
  obtain ⟨ctx, hctx⟩ : ∃ ctx, (buildValidatedContext
      [reportedIndicator "OTP_REQUEST" "NEGATIVE" "NOT_OBSERVED" "o-1"]
      [sampleObservation "o-1" "DIRECTIVE"] "en" "Latn").toOption = some ctx := by
    rw [← Option.isSome_iff_exists]
    decide +kernel
  have hfacts : ((buildValidatedContext
      [reportedIndicator "OTP_REQUEST" "NEGATIVE" "NOT_OBSERVED" "o-1"]
      [sampleObservation "o-1" "DIRECTIVE"] "en" "Latn").toOption.all fun ctx =>
        decide (ctx.observationsFor "OTP_REQUEST" ≠ [] ∧
          (∀ io ∈ ctx.observationsFor "OTP_REQUEST", IsAbsence io) ∧
          truthOf (suppressedPositive sampleKnowledge .MEDIUM ctx sampleRule.categories [])
            "OTP_REQUEST" = .UNKNOWN)) = true := by
    decide +kernel
  rw [hctx, Option.all_some, decide_eq_true_eq] at hfacts
  obtain ⟨hpresent, habsent, hunknown⟩ := hfacts
  have hfalse := h sampleKnowledge .MEDIUM _ _ _ _ ctx sampleRule [] "OTP_REQUEST"
    (eq_ok_of_toOption hctx) rfl (by decide) hpresent fun io hio => .inr (habsent io hio)
  rw [hunknown] at hfalse
  cases hfalse

end Evaluator
end TrustLens.Runtime
