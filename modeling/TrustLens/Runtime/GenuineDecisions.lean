import TrustLens.Runtime.TrustBoundarySpec

/-!
# Genuine decisions at the trust boundary

A decision of the aggregation passes the boundary exactly when it shows what its rule
results imply: when the input was evaluated, or nothing in it asked to be shown.
-/

namespace TrustLens.Runtime

namespace Aggregation

variable {rk : RuntimeKnowledge}

/-! ### How a decision is assembled -/

lemma detectionConfidence_ne (governing : RuleResult) (count : ℕ) :
    detectionConfidence governing count ≠ .NOT_APPLICABLE := by
  simp only [detectionConfidence]
  split_ifs <;> decide

/-- The candidates are the eligible results in their order. -/
lemma map_result_candidates {rs : List RuleResult} {cs : List Candidate}
    (h : candidates rk rs = .ok cs) :
    cs.map Candidate.result = rs.filter RuleResult.isEligibleMatched := by
  induction rs generalizing cs with
  | nil =>
    cases h
    rfl
  | cons r rest ih =>
    unfold candidates at h
    split at h
    · rename_i heligible _
      obtain ⟨strength, -, h⟩ := bind_ok h
      obtain ⟨more, hmore, h⟩ := bind_ok h
      cases h
      rw [List.filter_cons_of_pos heligible, List.map_cons, ih hmore]
    · rename_i hno
      rw [ih h, List.filter_cons_of_neg]
      intro heligible
      obtain ⟨severity, hsev⟩ : ∃ severity, r.severity? = some severity := by
        rw [← Option.isSome_iff_exists]
        simp only [RuleResult.isEligibleMatched, Bool.and_eq_true] at heligible
        exact heligible.2
      exact hno severity heligible hsev

lemma strength_ne_NONE_of_candidates {rs : List RuleResult} {cs : List Candidate}
    (h : candidates rk rs = .ok cs) : ∀ c ∈ cs, c.strength ≠ .NONE := by
  induction rs generalizing cs with
  | nil =>
    cases h
    simp
  | cons r rest ih =>
    unfold candidates at h
    split at h
    · obtain ⟨strength, hstrength, h⟩ := bind_ok h
      obtain ⟨more, hmore, h⟩ := bind_ok h
      cases h
      exact List.forall_mem_cons.mpr ⟨ruleEvidenceStrength_ne_NONE hstrength, ih hmore⟩
    · exact ih h

/-- What the aggregation gives the assembly: no rule is shown, or the candidates are and one of
them governs. -/
inductive Shape (rk : RuntimeKnowledge) (support : Support) (wholeErrors : List Json)
    (results : List RuleResult) : Axes → List Candidate → Prop where
  | blocked (no : ¬Evaluable support wholeErrors) (corroboration : Corroboration) :
    Shape rk support wholeErrors results
      (noFire (classify support false results .NOT_APPLICABLE (results.any RuleResult.isDegraded)
        (!wholeErrors.isEmpty)) corroboration) []
  | quiet (ok : Evaluable support wholeErrors) (none : candidates rk results = .ok [])
      (corroboration : Corroboration) :
    Shape rk support wholeErrors results
      (noFire (classify support false results .NOT_APPLICABLE (results.any RuleResult.isDegraded)
        false) corroboration) []
  | fired (ok : Evaluable support wholeErrors) {axes : Axes} {cs : List Candidate}
      (governing : Candidate) (some : candidates rk results = .ok cs) (mem : governing ∈ cs)
      (classification : axes.classification = classify support true results axes.confidence
        (results.any RuleResult.isDegraded) false)
      (severity : axes.severity ≠ ⊥) (strength : axes.strength ≠ .NONE) (risk : axes.risk ≠ ⊥)
      (confidence : axes.confidence ≠ .NOT_APPLICABLE)
      (governingId : axes.governingId = Option.some governing.result.ruleId) :
    Shape rk support wholeErrors results axes cs

/-- A decision is assembled from the results it was given, each at most extended. -/
structure Assembled (rk : RuntimeKnowledge) (profile : EvaluationProfile) (support : Support)
    (wholeErrors : List Json) (results : List RuleResult) (d : DecisionResult) : Prop where
  exists_parts : ∃ axes cs decided, Shape rk support wholeErrors results axes cs ∧
    decided.map DecidedResult.result = results ∧
    (∀ x ∈ decided, x.ruleDetectionConfidence ≠ some .NOT_APPLICABLE) ∧
    d = assemble support axes cs decided (results.any RuleResult.isDegraded)
      (wholeErrors.map ErrorEntry.whole ++ Explanation.ruleErrors results) profile

lemma map_result_plain (results : List RuleResult) :
    (results.map fun r => { result := r : DecidedResult }).map DecidedResult.result = results := by
  rw [List.map_map]
  exact List.map_id _

lemma fire_assembled {profile : EvaluationProfile} {support : Support} {wholeErrors : List Json}
    {results : List RuleResult} {cs : List Candidate} {governing : Candidate} {d : DecisionResult}
    (hok : Evaluable support wholeErrors) (hcs : candidates rk results = .ok cs)
    (hmem : governing ∈ cs)
    (h : fire rk profile support results cs governing (results.any RuleResult.isDegraded) false
      (wholeErrors.map ErrorEntry.whole ++ Explanation.ruleErrors results) = .ok d) :
    Assembled rk profile support wholeErrors results d := by
  simp only [fire] at h
  have hconfidence := detectionConfidence_ne governing.result
    (Independence.provenIndependence (provenanceEntries rk cs)).count
  split at h
  · cases h
  · rename_i risk hrisk
    cases h
    refine ⟨_, cs, _, .fired hok governing hcs hmem rfl (WithBot.coe_ne_bot) ?_
      (WithBot.coe_ne_bot) ?_ rfl, ?_, ?_, rfl⟩
    · exact strength_ne_NONE_of_candidates hcs _ hmem
    · show (if _ then Confidence.MEDIUM else _) ≠ _
      split_ifs
      · decide
      · exact hconfidence
    · rw [List.map_map]
      exact List.map_id _
    · intro x hx
      obtain ⟨r, -, rfl⟩ := List.mem_map.mp hx
      show (if _ then some (if _ then Confidence.MEDIUM else _) else none) ≠ _
      split_ifs
      · decide
      · exact fun he => hconfidence (Option.some.inj he)
      · intro he
        cases he

theorem aggregateChecked_assembled {profile : EvaluationProfile} {support : Support}
    {wholeErrors : List Json} {results : List RuleResult} {d : DecisionResult}
    (h : aggregateChecked rk profile support wholeErrors results = .ok d) :
    Assembled rk profile support wholeErrors results d := by
  simp only [aggregateChecked] at h
  split_ifs at h with hblocked
  · cases h
    refine ⟨_, [], _, .blocked ?_ {}, map_result_plain results, ?_, rfl⟩
    · rintro ⟨rfl, hsupport⟩
      rcases hblocked with hw | ⟨h1, h2⟩
      · cases hw
      · exact hsupport.elim h1 h2
    · simp
  · push Not at hblocked
    obtain ⟨hw, hsupport⟩ := hblocked
    have hok : Evaluable support wholeErrors :=
      ⟨by simpa using hw, or_iff_not_imp_left.mpr hsupport⟩
    have hfalse : (!wholeErrors.isEmpty) = false := by simp [hok.1]
    obtain ⟨cs, hcs, h⟩ := bind_ok h
    rw [hfalse] at h
    split at h
    · rename_i hnone
      cases h
      rw [selectGoverning_eq_none.mp hnone] at hcs
      exact ⟨_, [], _, .quiet hok hcs _, map_result_plain results, by simp, rfl⟩
    · rename_i governing hsome
      exact fire_assembled hok hcs (mem_of_selectGoverning hsome) h

/-! ### Canonical copies -/

@[simp] lemma all_sortedUnique {α : Type} [LinearOrder α] (xs : List α) (p : α → Bool) :
    (sortedUnique xs).all p = xs.all p := by
  rw [Bool.eq_iff_iff]
  simp only [List.all_eq_true, mem_sortedUnique]

@[simp] lemma isEmpty_sortedUnique {α : Type} [LinearOrder α] (xs : List α) :
    (sortedUnique xs).isEmpty = xs.isEmpty := by
  rw [Bool.eq_iff_iff, List.isEmpty_iff, List.isEmpty_iff, sortedUnique_eq_nil]

/-- Sorting the groups of an indicator leaves them well formed. -/
lemma provenanceConforms_sorted {groups : List (List String)} (h : provenanceConforms groups = true) :
    provenanceConforms (sortedUnique (groups.map sortedUnique)) = true := by
  simp only [provenanceConforms, Bool.and_eq_true, decide_eq_true_eq, Bool.not_eq_true',
    List.all_eq_true, isEmpty_sortedUnique, mem_sortedUnique, List.mem_map] at h ⊢
  obtain ⟨⟨hsome, -⟩, hgroups⟩ := h
  refine ⟨⟨by simpa using hsome, nodup_sortedUnique _⟩, ?_⟩
  rintro _ ⟨g, hg, rfl⟩
  obtain ⟨⟨hne, -⟩, hrefs⟩ := hgroups g hg
  refine ⟨⟨by simpa using hne, nodup_sortedUnique _⟩, fun ref href => ?_⟩
  exact hrefs ref (mem_sortedUnique.mp href)

lemma suppressionConforms_sorted {s : Suppression} (h : suppressionConforms s = true) :
    suppressionConforms { s with
      appliedSuppressors := sortedUnique s.appliedSuppressors
      severityCapsApplied := sortedUnique s.severityCapsApplied
      appliedSeverityCaps := sortedUnique s.appliedSeverityCaps
      blockedSuppressors := sortedUnique s.blockedSuppressors
      blockedSeverityCaps := sortedUnique s.blockedSeverityCaps
      contextOnlyPresent := sortedUnique s.contextOnlyPresent } = true := by
  simp only [suppressionConforms, all_sortedUnique, nodup_sortedUnique, decide_true,
    Bool.true_and, Bool.and_true, Bool.and_eq_true] at h ⊢
  tauto

/-- Whether a suppression cancelled its rule does not depend on the order of its lists. -/
lemma any_applied_canonical (r : RuleResult) (p : Option String → Bool) :
    (r.canonical.suppression.any fun s => !s.appliedSuppressors.isEmpty && p s.suppressedBy) =
      r.suppression.any fun s => !s.appliedSuppressors.isEmpty && p s.suppressedBy := by
  rw [RuleResult.canonical]
  cases r.suppression <;> simp

/-- A canonical copy conforms to the schema its original conforms to. -/
theorem Checked.conforms {r copy : RuleResult} (h : Checked rk r copy) : conforms copy = true := by
  have hr : Aggregation.conforms r = true := by
    have hcopied := h.copied
    unfold validateAndCanonicalCopy at hcopied
    split_ifs at hcopied with hno
    simpa using hno
  have happlied : (r.canonical.suppression.any fun s => !s.appliedSuppressors.isEmpty) =
      r.suppression.any fun s => !s.appliedSuppressors.isEmpty := by
    simpa using any_applied_canonical r fun _ => true
  have hcancelled := any_applied_canonical r Option.isSome
  rw [h.copy_eq]
  simp only [Aggregation.conforms, Bool.and_eq_true] at hr ⊢
  obtain ⟨⟨⟨⟨⟨⟨⟨⟨⟨⟨⟨⟨⟨⟨⟨⟨⟨⟨⟨h1, h2⟩, h3⟩, h4⟩, h5⟩, h6⟩, h7⟩, h8⟩, h9⟩, h10⟩, h11⟩, h12⟩, h13⟩, h14⟩,
    h15⟩, h16⟩, h17⟩, h18⟩, h19⟩, h20⟩ := hr
  refine ⟨⟨⟨⟨⟨⟨⟨⟨⟨⟨⟨⟨⟨⟨⟨⟨⟨⟨⟨h1, h2⟩, ?_⟩, ?_⟩, ?_⟩, ?_⟩, ?_⟩, ?_⟩, ?_⟩, h10⟩, ?_⟩, ?_⟩, h13⟩, h14⟩,
    h15⟩, h16⟩, h17⟩, ?_⟩, ?_⟩, ?_⟩
  · exact (all_sortedUnique _ _).trans h3
  · exact (all_sortedUnique _ _).trans h4
  · exact (all_sortedUnique _ _).trans h5
  · exact (all_sortedUnique _ _).trans h6
  · rw [List.all_eq_true] at h7 ⊢
    intro e he
    obtain ⟨e', he', rfl⟩ := List.mem_map.mp he
    have hgroups := h7 e' ((List.mem_insertionSort _).mp he')
    rw [Bool.and_eq_true] at hgroups ⊢
    exact ⟨hgroups.1, provenanceConforms_sorted hgroups.2⟩
  · exact decide_eq_true (nodup_sortedUnique _)
  · exact (all_sortedUnique _ _).trans h9
  · show Option.all _ (r.suppression.map _) = true
    rw [Option.all_eq_true] at h11 ⊢
    intro s hs
    obtain ⟨s', hs', rfl⟩ := Option.map_eq_some_iff.mp hs
    exact suppressionConforms_sorted (h11 s' hs')
  · exact (all_sortedUnique _ _).trans h12
  · exact (all_sortedUnique _ _).trans h18
  · rw [← hcancelled] at h19
    exact h19
  · rw [← happlied] at h20
    exact h20

end Aggregation

/-! ### Where the results come from -/

open Aggregation (Checked)
open Explanation (authoritativeSourceRefs)

variable {rk : RuntimeKnowledge} {gate : Level} {ctx : Context}

/-- A matched rule echoes the governed sources. -/
lemma Evaluator.sources_of_runIsolated {rule : Rule} {r : RuleResult}
    (h : Evaluator.runIsolated rk gate ctx rule = .ok r) (hm : r.evaluationState = .MATCHED) :
    r.sourceReferences = authoritativeSourceRefs (some rule) := by
  rcases Evaluator.runIsolated_ok h with hrun | ⟨fault, -, rfl⟩
  · rcases Evaluator.runRule_ok hrun with ⟨-, rfl⟩ | ⟨-, -, hr⟩ | ⟨-, -, hr⟩
    · cases hm
    · obtain ⟨_, _, _, -, rfl⟩ := Evaluator.evaluateSuppression_ok hr
      unfold Evaluator.suppressionResult at hm ⊢
      simp only at hm ⊢
      split_ifs at hm ⊢ with hbase
      · rfl
      · exact absurd hm hbase
    · obtain ⟨_, _, _, _, _, _, -, rfl⟩ := Evaluator.evaluateComposite_ok hr
      unfold Evaluator.compositeResult at hm ⊢
      simp only at hm ⊢
      split_ifs at hm ⊢ with hbase
      · rfl
      · exact absurd hm hbase
  · cases hm

/-- The suppression stage leaves the sources of a match alone. -/
lemma SuppressionExecutor.sources_of_apply {r : RuleResult}
    (h : (SuppressionExecutor.apply rk r).evaluationState = .MATCHED) :
    (SuppressionExecutor.apply rk r).sourceReferences = r.sourceReferences := by
  have hcore : SuppressionExecutor.applyCore rk r = .ok (SuppressionExecutor.apply rk r) := by
    apply SuppressionExecutor.applyCore_of_apply
    rw [h]
    exact nofun
  by_cases hpass : r.kind ≠ .COMPOSITE ∨ r.evaluationState ≠ .MATCHED
  · rw [← Except.ok.inj ((SuppressionExecutor.applyCore_passthrough hpass).symm.trans hcore)]
    rfl
  · push Not at hpass
    obtain ⟨base, _, res, -, heq⟩ := SuppressionExecutor.applyCore_matched hpass.1 hpass.2 hcore
    rw [heq]
    rfl

/-- A checked result of the two evaluation stages: its rule is published, and a match echoes the
sources of that rule. -/
structure GovernedResult (rk : RuntimeKnowledge) (copy : RuleResult) (rule : Rule) : Prop where
  resolves : rk.rule copy.ruleId = some rule
  published : RuntimeKnowledge.isPublished rule = true
  sources : copy.evaluationState = .MATCHED →
    copy.sourceReferences = authoritativeSourceRefs (some rule)

theorem exists_governed {wp3 copies : List RuleResult}
    (hrules : Evaluator.evaluateRules rk gate ctx = .ok wp3)
    (hchecked : List.Forall₂ (Checked rk) (SuppressionExecutor.applyAll rk wp3) copies)
    {copy : RuleResult} (hcopy : copy ∈ copies) : ∃ rule, GovernedResult rk copy rule := by
  obtain ⟨final, hfinal, hc⟩ := exists_left_of_forall₂ hchecked hcopy
  obtain ⟨r, hr, rfl⟩ := List.mem_map.mp hfinal
  obtain ⟨rule, hmem, hpublished, hrun⟩ := (Evaluator.mem_evaluateRules hrules r).mp hr
  have hid : copy.ruleId = rule.id := by
    rw [hc.copy_eq]
    exact (SuppressionExecutor.apply_same rk r).1.trans (Evaluator.ruleId_of_runIsolated hrun)
  refine ⟨rule, by rw [hid]; exact RuntimeKnowledge.rule_of_mem hmem, hpublished, fun hm => ?_⟩
  rw [hc.state_eq] at hm
  rw [hc.copy_eq]
  exact (SuppressionExecutor.sources_of_apply hm).trans
    (Evaluator.sources_of_runIsolated hrun (SuppressionExecutor.matched_of_apply hm))

namespace Explanation

open Aggregation (Assembled Shape DecidedResult DecisionResult ErrorEntry Candidate Evaluable
  assemble noFire classify)

variable {render : ErrorMessage → String} {profile : EvaluationProfile} {support : Support}
variable {wholeErrors : List Json} {results : List RuleResult} {d : DecisionResult}

/-! ### The parts of a genuine decision -/

/-- What the aggregation checked before it assembled a decision. -/
structure Genuine (rk : RuntimeKnowledge) (profile : EvaluationProfile) (support : Support)
    (wholeErrors : List Json) (results : List RuleResult) (d : DecisionResult) : Prop where
  assembled : Assembled rk profile support wholeErrors results d
  whole : ∀ e ∈ wholeErrors, Aggregation.wholeErrorSchema e = true
  distinct : (results.map RuleResult.ruleId).Nodup
  conforms : ∀ r ∈ results, Aggregation.conforms r = true
  invariants : ∀ r ∈ results, Aggregation.checkSemanticInvariants rk r = .ok ()
  governed : ∀ r ∈ results, ∃ rule, GovernedResult rk r rule

lemma scope_of_wholeErrorSchema {e : Json} (h : Aggregation.wholeErrorSchema e = true) :
    e.get "scope" = .str "WHOLE_EVALUATION" ∨ e.get "scope" = .str "SINGLE_RULE" := by
  cases e with
  | obj entries =>
    obtain ⟨hrequired, hentries⟩ := Schema.object_obj.mp h
    obtain ⟨v, hv⟩ := Option.isSome_iff_exists.mp (hrequired "scope" (by simp))
    obtain ⟨⟨key, w⟩, he, rfl, rfl⟩ := Json.exists_entry_of_lookup hv
    obtain ⟨validator, hproperty, hvalid⟩ := hentries _ he
    rw [Schema.property, if_pos rfl, Option.some.injEq] at hproperty
    subst hproperty
    simp only [Json.get, Json.get?, hv, Option.getD_some]
    cases w with
    | str scope => simpa [Schema.enum] using hvalid
    | _ => cases hvalid
  | _ => cases h

/-- The results of the supplied decision are those of the aggregation, sorted. -/
lemma results_perm (render : ErrorMessage → String) {axes : Aggregation.Axes}
    {cs : List Candidate} {decided : List DecidedResult} {degraded : Bool}
    {errors : List ErrorEntry}
    (hd : d = assemble support axes cs decided degraded errors profile) :
    (d.supply render).results.Perm (decided.map DecidedResult.result) := by
  subst hd
  exact (List.perm_insertionSort _ _).map _

lemma rollup_of_perm {xs ys : List RuleResult} (h : xs.Perm ys) (p : RuleResult → Bool)
    (f : RuleResult → List String) :
    sortedUnique ((ys.filter p).flatMap f) = sortedUnique ((xs.filter p).flatMap f) := by
  apply sortedUnique_congr
  intro a
  simp only [List.mem_flatMap, List.mem_filter, h.mem_iff]

lemma insertionSort_sortedUnique (xs : List String) :
    (sortedUnique xs).insertionSort (· ≤ ·) = sortedUnique xs :=
  (pairwise_sortedUnique xs).insertionSort_eq

/-- The rollups of an assembled decision pass, once its candidates are the eligible results. -/
lemma rollups_of_assemble (render : ErrorMessage → String) {axes : Aggregation.Axes}
    {cs : List Candidate} {decided : List DecidedResult} {degraded : Bool}
    {errors : List ErrorEntry}
    (hd : d = assemble support axes cs decided degraded errors profile)
    (hcs : cs.map Candidate.result =
      (decided.map DecidedResult.result).filter RuleResult.isEligibleMatched) :
    ∀ c ∈ rollupChecks (d.supply render),
      c.2.1.Nodup ∧ c.2.1.insertionSort (· ≤ ·) = c.2.2 := by
  have hperm := results_perm render hd
  subst hd
  have hcanonical : ∀ xs ys : List String, sortedUnique xs = sortedUnique ys →
      (sortedUnique xs).Nodup ∧ (sortedUnique xs).insertionSort (· ≤ ·) = sortedUnique ys :=
    fun xs ys h => ⟨nodup_sortedUnique xs, (insertionSort_sortedUnique xs).trans h⟩
  have hcomposite := fun f => rollup_of_perm hperm RuleResult.isComposite f
  have heligible := fun f => rollup_of_perm hperm RuleResult.isEligibleMatched f
  have hids : cs.map (·.result.ruleId) =
      ((decided.map DecidedResult.result).filter RuleResult.isEligibleMatched).flatMap
        fun r => [r.ruleId] := by
    rw [← hcs, List.flatMap_map]
    exact List.map_eq_flatMap
  have hpositive : cs.flatMap (·.result.matchedPositiveIndicators) =
      ((decided.map DecidedResult.result).filter RuleResult.isEligibleMatched).flatMap
        RuleResult.matchedPositiveIndicators := by
    rw [← hcs, List.flatMap_map]
  simp only [rollupChecks, List.forall_mem_cons, List.not_mem_nil, false_implies, implies_true,
    and_true]
  refine ⟨?_, ?_, hcanonical _ _ (hcomposite _), hcanonical _ _ (hcomposite _),
    hcanonical _ _ (hcomposite _), hcanonical _ _ (hcomposite _), hcanonical _ _ (hcomposite _)⟩
  · apply hcanonical
    rw [hids, heligible, List.map_eq_flatMap]
    rfl
  · apply hcanonical
    rw [hpositive, heligible]
    rfl

/-- The errors of the supplied decision: those of the whole evaluation, then those of the rules. -/
lemma errors_perm (render : ErrorMessage → String) {axes : Aggregation.Axes}
    {cs : List Candidate} {decided : List DecidedResult} {degraded : Bool}
    (hd : d = assemble support axes cs decided degraded
      (wholeErrors.map ErrorEntry.whole ++ ruleErrors results) profile) :
    (d.supply render).errors.Perm
      (wholeErrors ++ (ruleErrors results).map (ErrorEntry.toJson render)) := by
  subst hd
  refine ((List.perm_insertionSort _ _).map (ErrorEntry.toJson render)).trans ?_
  rw [List.map_append, List.map_map]
  exact List.Perm.append_right _ (by rw [show ErrorEntry.toJson render ∘ ErrorEntry.whole = id from rfl,
    List.map_id])

lemma scope_of_ruleErrors {e : ErrorEntry} (h : e ∈ ruleErrors results) :
    (e.toJson render).get "scope" = .str "SINGLE_RULE" := by
  obtain ⟨r, -, error, -, rfl⟩ := mem_ruleErrors h
  rfl

/-- The whole-evaluation errors that claim the scope of a single rule. -/
def singleScoped (wholeErrors : List Json) : List Json :=
  wholeErrors.filter fun e => e.get "scope" == .str "SINGLE_RULE"

lemma actualSingle_perm {s : SuppliedDecision}
    (h : s.errors.Perm (wholeErrors ++ (ruleErrors results).map (ErrorEntry.toJson render))) :
    (actualSingle s).Perm ((singleScoped wholeErrors).map canonicalError ++
      (ruleErrors results).map fun e => canonicalError (e.toJson render)) := by
  refine ((h.filter _).map _).trans ?_
  rw [List.filter_append, List.map_append, actualSingle_of_ruleErrors]
  · rfl
  · intro e he
    obtain ⟨r, -, error, -, rfl⟩ := mem_ruleErrors he
    exact ⟨_, _, rfl⟩

lemma ruleErrors_perm {xs ys : List RuleResult} (h : xs.Perm ys) :
    (ruleErrors xs).Perm (ruleErrors ys) :=
  h.filterMap _

/-- The errors agree exactly when no error of the whole evaluation claims to be a rule's. -/
lemma single_iff {s : SuppliedDecision} (hresults : s.results.Perm results)
    (h : s.errors.Perm (wholeErrors ++ (ruleErrors results).map (ErrorEntry.toJson render))) :
    (actualSingle s).Perm ((ruleErrors s.results).map fun e => canonicalError (e.toJson render)) ↔
      singleScoped wholeErrors = [] := by
  have hactual := actualSingle_perm h
  have hexpected := (ruleErrors_perm hresults).map fun e => canonicalError (e.toJson render)
  constructor
  · intro hsingle
    have hlength := (hactual.symm.trans (hsingle.trans hexpected)).length_eq
    simp only [List.length_append, List.length_map] at hlength
    exact List.length_eq_zero_iff.mp (by omega)
  · intro hnil
    rw [hnil] at hactual
    exact hactual.trans hexpected.symm

lemma hasWholeError_iff {s : SuppliedDecision}
    (h : s.errors.Perm (wholeErrors ++ (ruleErrors results).map (ErrorEntry.toJson render)))
    (hwhole : ∀ e ∈ wholeErrors, Aggregation.wholeErrorSchema e = true)
    (hsingle : singleScoped wholeErrors = []) : s.hasWholeError = !wholeErrors.isEmpty := by
  have hscope : ∀ e ∈ wholeErrors, e.get "scope" = .str "WHOLE_EVALUATION" := by
    intro e he
    refine (scope_of_wholeErrorSchema (hwhole e he)).resolve_right fun hs => ?_
    exact List.filter_eq_nil_iff.mp hsingle e he (beq_iff_eq.mpr hs)
  rw [Bool.eq_iff_iff, SuppliedDecision.hasWholeError, List.any_eq_true, Bool.not_eq_true',
    List.isEmpty_eq_false_iff_exists_mem]
  simp only [h.mem_iff, List.mem_append, List.mem_map]
  constructor
  · rintro ⟨e, he | ⟨entry, hentry, rfl⟩, hscope'⟩
    · exact ⟨e, he⟩
    · rw [scope_of_ruleErrors hentry] at hscope'
      exact absurd hscope' (by decide)
  · rintro ⟨e, he⟩
    exact ⟨e, Or.inl he, beq_iff_eq.mpr (hscope e he)⟩

/-- The error of a rule satisfies the contract of the errors. -/
lemma wholeErrorSchema_of_ruleErrors {e : ErrorEntry}
    (hconforms : ∀ r ∈ results, Aggregation.conforms r = true) (h : e ∈ ruleErrors results) :
    Aggregation.wholeErrorSchema (e.toJson render) = true := by
  obtain ⟨r, hr, error, -, rfl⟩ := mem_ruleErrors h
  have hid : Aggregation.ruleIdPattern r.ruleId = true := by
    have hr := hconforms r hr
    simp only [Aggregation.conforms, Bool.and_eq_true] at hr
    tauto
  refine Schema.object_obj.mpr ⟨by simp [Json.lookup], ?_⟩
  simp [Schema.property, Schema.enum, Schema.string, Schema.pattern, hid]

/-! ### The classification of a genuine decision -/

lemma classify_quiet (support : Support) (results : List RuleResult) (degraded whole : Bool) :
    (classify support false results .NOT_APPLICABLE degraded whole = .ERROR ∧
        (whole = true ∨ support = .ERROR)) ∨
      (classify support false results .NOT_APPLICABLE degraded whole = .UNSUPPORTED ∧
        whole = false ∧ support = .UNSUPPORTED) ∨
      (classify support false results .NOT_APPLICABLE degraded whole = .INSUFFICIENT_EVIDENCE ∧
        whole = false) ∨
      (classify support false results .NOT_APPLICABLE degraded whole = .NO_SCAM_PATTERN ∧
        whole = false ∧ (support = .SUPPORTED ∨ support = .PARTIALLY_SUPPORTED)) := by
  unfold classify
  cases whole <;> cases support <;> split_ifs <;> simp_all

/-- A decision in which no rule is shown is consistent. -/
lemma classificationChecks_quiet {s : SuppliedDecision} {whole degraded : Bool}
    (hsupport : s.inputSupportStatus = support.name) (hwhole : s.hasWholeError = whole)
    (hclass : s.classification =
      (classify support false results .NOT_APPLICABLE degraded whole).name)
    (hgoverning : s.governingRuleId = none) (heligible : s.eligible = [])
    (haxes : axesPresent s = false) : ∀ c ∈ classificationChecks s, c.1 = false := by
  rcases classify_quiet support results degraded whole with
    ⟨hc, hor⟩ | ⟨hc, hw, hs⟩ | ⟨hc, hw⟩ | ⟨hc, hw, hs⟩
  · rw [hc] at hclass
    rcases hor with hw | hs
    · simp [classificationChecks, hclass, Classification.name, isScamClass, hgoverning, heligible,
        haxes, hwhole, hw]
    · simp [classificationChecks, hclass, Classification.name, isScamClass, hgoverning, heligible,
        haxes, hsupport, hs, Support.name]
  · rw [hc] at hclass
    simp [classificationChecks, hclass, Classification.name, isScamClass, hgoverning, heligible,
      haxes, hwhole, hw, hsupport, hs, Support.name]
  · rw [hc] at hclass
    simp [classificationChecks, hclass, Classification.name, isScamClass, hgoverning, heligible,
      haxes, hwhole, hw]
  · rw [hc] at hclass
    have hev : s.inputSupportStatus ∈ evaluableSupport := by
      rw [hsupport]
      rcases hs with rfl | rfl <;> decide
    simp [classificationChecks, hclass, Classification.name, isScamClass, hgoverning, heligible,
      haxes, hwhole, hw, hev]

lemma levelName_ne_NONE {severity : WithBot Severity} (h : severity ≠ ⊥) :
    levelName severity ≠ "NONE" := by
  cases severity with
  | bot => exact absurd rfl h
  | coe s => cases s <;> decide

/-- A decision in which rules are shown and one of them governs is consistent. -/
lemma classificationChecks_fired {s : SuppliedDecision} {degraded : Bool} {confidence : Confidence}
    {governing : RuleResult} (hsupport : s.inputSupportStatus = support.name)
    (hevaluable : support = .SUPPORTED ∨ support = .PARTIALLY_SUPPORTED)
    (hwhole : s.hasWholeError = false)
    (hclass : s.classification = (classify support true results confidence degraded false).name)
    (hid : s.governingRuleId = some governing.ruleId) (hmatched : governing.ruleId ∈ s.matchedRules)
    (heligible : governing ∈ s.eligible) (hdistinct : (s.results.map RuleResult.ruleId).Nodup)
    (hseverity : s.decisionSeverity ≠ "NONE") (hstrength : s.matchedEvidenceStrength ≠ "NONE")
    (hrisk : s.riskLevel ≠ "NONE") (hconf : s.detectionConfidence = confidence.name)
    (hconfidence : confidence ≠ .NOT_APPLICABLE) : ∀ c ∈ classificationChecks s, c.1 = false := by
  obtain ⟨hmem, hmatch⟩ := List.mem_filter.mp heligible
  have hfound : governingResult s = some governing := by
    rw [governingResult, hid]
    exact find?_of_nodup_keys RuleResult.ruleId hdistinct hmem
  have hne : s.eligible ≠ [] := List.ne_nil_of_mem heligible
  have hev : s.inputSupportStatus ∈ evaluableSupport := by
    rw [hsupport]
    rcases hevaluable with rfl | rfl <;> decide
  have hclassify : classify support true results confidence degraded false =
      if confidence = .LOW then .SCAM_PATTERN_SUSPECTED else .SCAM_PATTERN_DETECTED := by
    rcases hevaluable with rfl | rfl <;> rfl
  by_cases hlow : confidence = .LOW
  · rw [hclassify, if_pos hlow] at hclass
    simp [classificationChecks, hclass, Classification.name, isScamClass, hwhole, hev, hid,
      hmatched, hne, hfound, hmatch, hseverity, hstrength, hrisk, hconf, hlow, Confidence.name]
  · rw [hclassify, if_neg hlow] at hclass
    have hconf' : s.detectionConfidence ≠ "LOW" ∧ s.detectionConfidence ≠ "NOT_APPLICABLE" := by
      rw [hconf]
      revert hlow hconfidence
      cases confidence <;> decide
    simp [classificationChecks, hclass, Classification.name, isScamClass, hwhole, hev, hid,
      hmatched, hne, hfound, hmatch, hseverity, hstrength, hrisk, hconf'.1, hconf'.2]

/-! ### Acceptance -/

lemma axes_of_supply (d : DecisionResult) :
    ∀ axis ∈ axisChecks (d.supply render), axis.2.1 ∈ axis.2.2 := by
  have hlevel : ∀ severity : WithBot Severity, levelName severity ∈ levelValues := by
    intro severity
    cases severity with
    | bot => decide
    | coe s => cases s <;> decide
  simp only [axisChecks, List.forall_mem_cons, List.not_mem_nil, false_implies, implies_true,
    and_true, DecisionResult.supply]
  refine ⟨?_, ?_, hlevel _, ?_, hlevel _, ?_⟩
  · cases d.inputSupportStatus <;> decide
  · cases d.classification <;> decide
  · cases d.matchedEvidenceStrength <;> decide
  · cases d.detectionConfidence <;> decide

lemma overrides_resolve {r : RuleResult} (h : Aggregation.checkSemanticInvariants rk r = .ok ())
    {id : String} (hid : id ∈ r.activeOverrides) : ∃ o, rk.override id = some o := by
  unfold Aggregation.checkSemanticInvariants at h
  split_ifs at h
  split at h
  · cases h
  · rename_i hnone
    simp only [Aggregation.unresolvedReference, Option.orElse_eq_or, Option.or_eq_none_iff,
      List.find?_eq_none] at hnone
    have hsome := hnone.2.2 id hid
    cases ho : rk.override id with
    | none => simp [ho] at hsome
    | some o => exact ⟨o, rfl⟩

/-- The condition under which a genuine decision shows what its results imply: they were evaluated,
or none of them is a match and no error of the whole evaluation claims to be a rule's. -/
def Shown (support : Support) (wholeErrors : List Json) (results : List RuleResult) : Prop :=
  Evaluable support wholeErrors ∨
    ((∀ r ∈ results, r.isEligibleMatched = false) ∧ singleScoped wholeErrors = [])

theorem genuine_accepted_iff (h : Genuine rk profile support wholeErrors results d)
    (hpolicy : rk.hasActionPolicy = true) :
    Accepted render rk true (d.supply render) ↔ Shown support wholeErrors results := by
  obtain ⟨axes, cs, decided, hshape, hmap, hconfidence, hd⟩ := h.assembled.exists_parts
  have hresults := results_perm render hd
  have herrors := errors_perm render hd
  have hrollups := rollups_of_assemble render hd
  rw [hmap] at hresults hrollups
  subst hd
  constructor
  · intro haccepted
    by_cases hevaluable : Evaluable support wholeErrors
    · exact Or.inl hevaluable
    · right
      -- without an evaluation nothing is shown, so nothing may be there to show
      have hnil : cs = [] := by
        cases hshape with
        | blocked => rfl
        | quiet => rfl
        | fired ok => exact absurd ok hevaluable
      subst hnil
      refine ⟨fun r hr => ?_, (single_iff hresults herrors).mp haccepted.single⟩
      by_contra heligible
      rw [Bool.not_eq_false] at heligible
      have hmem := haccepted.mem_matchedRules
        (List.mem_filter.mpr ⟨hresults.mem_iff.mpr hr, heligible⟩)
      cases hmem
  · intro hshown
    have hsingle : singleScoped wholeErrors = [] := by
      rcases hshown with ⟨rfl, -⟩ | ⟨-, h⟩
      · rfl
      · exact h
    have hcs : cs.map Candidate.result = results.filter RuleResult.isEligibleMatched := by
      cases hshape with
      | blocked no =>
        rcases hshown with ok | ⟨hno, -⟩
        · exact absurd ok no
        · exact (List.filter_eq_nil_iff.mpr fun r hr => by simp [hno r hr]).symm
      | quiet _ hnone => exact Aggregation.map_result_candidates hnone
      | fired _ _ hsome => exact Aggregation.map_result_candidates hsome
    have hdistinct := (hresults.map RuleResult.ruleId).nodup_iff.mpr h.distinct
    have hmem : ∀ r ∈ ((assemble support axes cs decided (results.any RuleResult.isDegraded)
        (wholeErrors.map ErrorEntry.whole ++ ruleErrors results) profile).supply render).ruleResults,
        r ∈ decided ∧ r.result ∈ results := by
      intro r hr
      have hr := (List.mem_insertionSort _).mp hr
      exact ⟨hr, hmap ▸ List.mem_map_of_mem hr⟩
    have hpublished : ∀ r ∈ results, ∃ rule, ruleOf rk true r.ruleId = some rule := by
      intro r hr
      obtain ⟨rule, hrule⟩ := h.governed r hr
      exact ⟨rule, Option.filter_eq_some_iff.mpr ⟨hrule.resolves, hrule.published⟩⟩
    refine ⟨hpolicy, axes_of_supply _, fun r hr => ?_, ?_, hrollups hcs, ?_, fun e he => ?_,
      (single_iff hresults herrors).mpr hsingle, ?_, ?_, ?_, fun r hr => ?_⟩
    · obtain ⟨hdecided, hresult⟩ := hmem r hr
      obtain ⟨rule, hrule⟩ := h.governed _ hresult
      refine ⟨?_, h.invariants _ hresult, rule, hrule.resolves⟩
      rw [resultConforms, Bool.and_eq_true, bne_iff_ne]
      exact ⟨h.conforms _ hresult, hconfidence r hdecided⟩
    · rw [SuppliedDecision.results, List.map_map] at hdistinct
      exact hdistinct
    · exact (hresults.any_eq).symm
    · rcases List.mem_append.mp (herrors.mem_iff.mp he) with he | he
      · exact h.whole e he
      · obtain ⟨entry, hentry, rfl⟩ := List.mem_map.mp he
        exact wholeErrorSchema_of_ruleErrors h.conforms hentry
    · have hwhole := hasWholeError_iff herrors h.whole hsingle
      have heligible := hresults.filter RuleResult.isEligibleMatched
      rw [← hcs] at heligible
      cases hshape with
      | blocked no corroboration =>
        exact classificationChecks_quiet rfl hwhole rfl rfl heligible.eq_nil rfl
      | quiet ok hnone corroboration =>
        have hfalse : (!wholeErrors.isEmpty) = false := by simp [ok.1]
        exact classificationChecks_quiet rfl (hwhole.trans hfalse) rfl rfl heligible.eq_nil rfl
      | fired ok governing hsome hgoverning hclass hseverity hstrength hrisk hconf hid =>
        have hfalse : (!wholeErrors.isEmpty) = false := by simp [ok.1]
        refine @classificationChecks_fired support results _ _ _ governing.result rfl ok.2
          (hwhole.trans hfalse) (congrArg Classification.name hclass) hid (mem_sortedUnique.mpr (List.mem_map_of_mem hgoverning))
          (heligible.mem_iff.mpr (List.mem_map_of_mem hgoverning)) hdistinct
          (levelName_ne_NONE hseverity) ?_ (levelName_ne_NONE hrisk) rfl hconf
        revert hstrength
        show axes.strength ≠ .NONE → axes.strength.name ≠ "NONE"
        cases axes.strength <;> decide
    · intro id hid
      have hcandidate : ∀ c ∈ cs, ∃ rule, ruleOf rk true c.result.ruleId = some rule := by
        intro c hc
        have hmem := List.mem_map_of_mem (f := Candidate.result) hc
        rw [hcs] at hmem
        exact hpublished _ (List.mem_filter.mp hmem).1
      rw [contributingRuleIds, mem_sortedUnique, List.mem_append, List.mem_append] at hid
      rcases hid with (hid | hid) | hid
      · obtain ⟨c, hc, rfl⟩ := List.mem_map.mp (mem_sortedUnique.mp hid)
        exact hcandidate c hc
      · cases hshape with
        | blocked => cases hid
        | quiet => cases hid
        | fired _ governing _ hgoverning _ _ _ _ _ hgid =>
          have hid : id ∈ axes.governingId.toList := hid
          rw [hgid] at hid
          rw [List.mem_singleton.mp hid]
          exact hcandidate governing hgoverning
      · split_ifs at hid
        · obtain ⟨r, hr, rfl⟩ := List.mem_map.mp hid
          exact hpublished r (hresults.mem_iff.mp (List.mem_filter.mp hr).1)
        · cases hid
    · intro id hid
      have hid := mem_sortedUnique.mp hid
      obtain ⟨r, hr, hid⟩ := List.mem_flatMap.mp hid
      have hr := (List.mem_filter.mp hr).1
      rw [hmap] at hr
      exact overrides_resolve (h.invariants r hr) hid
    · obtain ⟨hr, heligible⟩ := List.mem_filter.mp hr
      have hr := hresults.mem_iff.mp hr
      obtain ⟨rule, hrule⟩ := h.governed r hr
      have hruleOf : ruleOf rk true r.ruleId = some rule :=
        Option.filter_eq_some_iff.mpr ⟨hrule.resolves, hrule.published⟩
      simp only [RuleResult.isEligibleMatched, Bool.and_eq_true, beq_iff_eq] at heligible
      rw [hrule.sources heligible.1.1.2, hruleOf]

lemma nodup_of_firstDuplicate {seen : List String} {rs : List RuleResult}
    (h : Aggregation.firstDuplicate seen rs = none) :
    (rs.map RuleResult.ruleId).Nodup ∧ ∀ r ∈ rs, r.ruleId ∉ seen := by
  induction rs generalizing seen with
  | nil => simp
  | cons r rest ih =>
    unfold Aggregation.firstDuplicate at h
    split_ifs at h with hseen
    obtain ⟨hnodup, hdisjoint⟩ := ih h
    rw [List.map_cons, List.nodup_cons, List.forall_mem_cons]
    refine ⟨⟨?_, hnodup⟩, hseen, fun x hx hmem => hdisjoint x hx (List.mem_cons_of_mem _ hmem)⟩
    rintro hr
    obtain ⟨x, hx, hid⟩ := List.mem_map.mp hr
    exact hdisjoint x hx (hid ▸ List.mem_cons_self)

/-- A decision on governed data went through every check of the aggregation, on the results of
published rules. -/
theorem exists_genuine {inds obs : List Json} {status language script : String}
    (h : Aggregation.evaluateDecision rk profile inds obs status language script wholeErrors = .ok d) :
    ∃ support finals results, Support.ofString? status = some support ∧
      SuppressionExecutor.evaluateWithSuppression rk profile inds obs language script = .ok finals ∧
      List.Forall₂ (Checked rk) finals results ∧
      Genuine rk profile support wholeErrors results d := by
  obtain ⟨ctx, wp3, -, hrules, hfinals, hagg⟩ := Aggregation.evaluateDecision_ok h
  unfold Aggregation.aggregateDecision at hagg
  split at hagg
  · cases hagg
  · rename_i support hsupport
    split_ifs at hagg with hwhole
    obtain ⟨results, hresults, hagg⟩ := bind_ok hagg
    split at hagg
    · cases hagg
    · rename_i hdistinct
      have hchecked := Aggregation.materialise_ok hresults
      refine ⟨support, _, results, hsupport, hfinals, hchecked,
        Aggregation.aggregateChecked_assembled hagg, by simpa using hwhole,
        (nodup_of_firstDuplicate hdistinct).1, fun r hr => ?_, fun r hr => ?_,
        fun r hr => exists_governed hrules hchecked hr⟩
      · obtain ⟨_, -, hc⟩ := exists_left_of_forall₂ hchecked hr
        exact hc.conforms
      · obtain ⟨_, -, hc⟩ := exists_left_of_forall₂ hchecked hr
        exact hc.invariants

end Explanation
end TrustLens.Runtime
