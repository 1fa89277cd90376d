import Mathlib.Data.List.Perm.Basic
import TrustLens.Runtime.DecisionSpec

/-!
# Risk and one more matched rule

The risk of a decision is the matrix cell of its governing rule: that rule carries the
decision severity as well as the strength. So one more rule changes the risk only by
becoming the governing one, and lowers it only by matching weaker evidence at the same
severity, or at MEDIUM instead of LOW.
-/

namespace TrustLens.Runtime

namespace Aggregation

variable {rk : RuntimeKnowledge}

/-! ### The governing rule -/

/-- The governing rule comes first among the eligible ones. -/
lemma selectGoverning_le {eligible : List Candidate} {g : Candidate}
    (h : selectGoverning eligible = some g) : ∀ c ∈ eligible, governingKey g ≤ governingKey c := by
  have hsorted := List.pairwise_insertionSort
    (fun a b => governingKey a ≤ governingKey b) eligible
  intro c hc
  rw [← List.mem_insertionSort fun a b => governingKey a ≤ governingKey b] at hc
  unfold selectGoverning at h
  obtain ⟨rest, hrest⟩ := List.head?_eq_some_iff.mp h
  rw [hrest] at hsorted hc
  rcases List.mem_cons.mp hc with rfl | hc
  · exact le_refl _
  · exact (List.pairwise_cons.mp hsorted).1 c hc

lemma severity_le_of_governingKey {a b : Candidate} (h : governingKey a ≤ governingKey b) :
    b.severity ≤ a.severity := by
  have hfirst := (Prod.Lex.toLex_le_toLex.mp h).elim le_of_lt fun h => le_of_eq h.1
  have : b.severity.index ≤ a.severity.index := by omega
  exact this

lemma ruleId_of_governingKey {a b : Candidate} (h : governingKey a = governingKey b) :
    a.result.ruleId = b.result.ruleId := by
  simp only [governingKey, toLex_inj, Prod.mk.injEq] at h
  exact h.2.2.2

/-- The governing rule carries the decision severity. -/
lemma foldl_max_governing {eligible : List Candidate} {g : Candidate}
    (h : selectGoverning eligible = some g) :
    (eligible.map Candidate.severity).foldl max g.severity = g.severity := by
  apply le_antisymm
  · rw [foldl_max_le]
    refine ⟨le_refl _, fun s hs => ?_⟩
    obtain ⟨c, hc, rfl⟩ := List.mem_map.mp hs
    exact severity_le_of_governingKey (selectGoverning_le h c hc)
  · exact (foldl_max_le.mp (le_refl _)).1

/-- Who governs does not depend on the order, when the rule ids are distinct. -/
lemma selectGoverning_unique {eligible eligible' : List Candidate} {g g' : Candidate}
    (hn : (eligible'.map (·.result.ruleId)).Nodup) (h : selectGoverning eligible = some g)
    (h' : selectGoverning eligible' = some g') (hg : g ∈ eligible') (hg' : g' ∈ eligible) :
    g' = g := by
  have hkey := le_antisymm (selectGoverning_le h' g hg) (selectGoverning_le h g' hg')
  exact List.inj_on_of_nodup_map hn (mem_of_selectGoverning h') hg (ruleId_of_governingKey hkey)

/-! ### Candidates of a list -/

lemma strength_of_mem_candidates {rs : List RuleResult} {cs : List Candidate}
    (h : candidates rk rs = .ok cs) : ∀ c ∈ cs, c.strength ≠ .NONE := by
  induction rs generalizing cs with
  | nil =>
    cases h
    simp
  | cons head rest ih =>
    unfold candidates at h
    split at h
    · obtain ⟨strength, hs, h⟩ := bind_ok h
      obtain ⟨more, hmore, h⟩ := bind_ok h
      cases h
      exact List.forall_mem_cons.mpr ⟨ruleEvidenceStrength_ne_NONE hs, ih hmore⟩
    · exact ih h

lemma candidates_cons {r : RuleResult} {rs : List RuleResult} {a b : List Candidate}
    (hr : candidates rk [r] = .ok a) (hrs : candidates rk rs = .ok b) :
    candidates rk (r :: rs) = .ok (a ++ b) := by
  unfold candidates at hr ⊢
  split at hr
  · obtain ⟨strength, hs, hr⟩ := bind_ok hr
    cases hr
    rw [hs, hrs]
    rfl
  · cases hr
    exact hrs

lemma candidates_cons_ok {r : RuleResult} {rs : List RuleResult} {cs : List Candidate}
    (h : candidates rk (r :: rs) = .ok cs) :
    ∃ a b, candidates rk [r] = .ok a ∧ candidates rk rs = .ok b ∧ cs = a ++ b := by
  unfold candidates at h
  split at h
  · rename_i severity heligible hsev
    obtain ⟨strength, hs, h⟩ := bind_ok h
    obtain ⟨more, hmore, h⟩ := bind_ok h
    cases h
    refine ⟨[⟨r, severity, strength⟩], more, ?_, hmore, rfl⟩
    simp only [candidates, heligible, hsev, hs]
    rfl
  · rename_i hno
    refine ⟨[], cs, ?_, h, rfl⟩
    unfold candidates
    split
    · rename_i severity heligible hsev
      exact absurd hsev (hno severity heligible)
    · rfl

lemma candidates_perm {rs rs' : List RuleResult} (hperm : rs.Perm rs') {cs : List Candidate}
    (h : candidates rk rs = .ok cs) : ∃ cs', candidates rk rs' = .ok cs' ∧ cs.Perm cs' := by
  induction hperm generalizing cs with
  | nil => exact ⟨cs, h, List.Perm.refl _⟩
  | cons r _ ih =>
    obtain ⟨a, b, ha, hb, rfl⟩ := candidates_cons_ok h
    obtain ⟨b', hb', hperm⟩ := ih hb
    exact ⟨a ++ b', candidates_cons ha hb', hperm.append_left a⟩
  | swap r r' rs =>
    obtain ⟨a, b, ha, hb, rfl⟩ := candidates_cons_ok h
    obtain ⟨a', b', ha', hb', rfl⟩ := candidates_cons_ok hb
    refine ⟨a' ++ (a ++ b'), candidates_cons ha' (candidates_cons ha hb'), ?_⟩
    rw [← List.append_assoc, ← List.append_assoc]
    exact List.perm_append_comm.append_right b'
  | trans _ _ ih ih' =>
    obtain ⟨cs', hcs', hperm⟩ := ih h
    obtain ⟨cs'', hcs'', hperm'⟩ := ih' hcs'
    exact ⟨cs'', hcs'', hperm.trans hperm'⟩

/-- Distinct results have distinct candidates. -/
lemma ruleIds_sublist_candidates {rs : List RuleResult} {cs : List Candidate}
    (h : candidates rk rs = .ok cs) :
    (cs.map (·.result.ruleId)).Sublist (rs.map RuleResult.ruleId) := by
  induction rs generalizing cs with
  | nil =>
    cases h
    exact List.Sublist.refl _
  | cons head rest ih =>
    unfold candidates at h
    split at h
    · obtain ⟨strength, hs, h⟩ := bind_ok h
      obtain ⟨more, hmore, h⟩ := bind_ok h
      cases h
      exact (ih hmore).cons_cons _
    · exact (ih h).cons _

/-! ### The checks of a list -/

lemma materialise_of_checked {rs copies : List RuleResult}
    (h : List.Forall₂ (Checked rk) rs copies) : materialise rk rs = .ok copies := by
  have hcopies : rs.mapM validateAndCanonicalCopy = .ok copies := by
    induction h with
    | nil => rfl
    | cons hc _ ih =>
      rw [List.mapM_cons, hc.copied, ih]
      rfl
  have hchecks : copies.forM (checkSemanticInvariants rk) = .ok () := by
    clear hcopies
    induction h with
    | nil => rfl
    | cons hc _ ih =>
      simp only [List.forM, hc.invariants, bind, Except.bind]
      exact ih
  simp only [materialise, hcopies, hchecks, bind, Except.bind]
  rfl

/-- The checks look at each result alone, so they keep to a permutation. -/
lemma materialise_perm {rs rs' copies : List RuleResult} (hperm : rs'.Perm rs)
    (h : materialise rk rs = .ok copies) :
    ∃ copies', materialise rk rs' = .ok copies' ∧ copies'.Perm copies := by
  obtain ⟨copies', hchecked, hperm'⟩ := List.perm_comp_forall₂ hperm (materialise_ok h)
  exact ⟨copies', materialise_of_checked hchecked, hperm'⟩

lemma materialise_cons {r copy : RuleResult} {rs copies : List RuleResult}
    (hr : materialise rk [r] = .ok [copy]) (hrs : materialise rk rs = .ok copies) :
    materialise rk (r :: rs) = .ok (copy :: copies) := by
  apply materialise_of_checked
  obtain ⟨hcopy, -⟩ := List.forall₂_cons.mp (materialise_ok hr)
  exact List.Forall₂.cons hcopy (materialise_ok hrs)

lemma firstDuplicate_eq_none {seen : List String} {rs : List RuleResult} :
    firstDuplicate seen rs = none ↔
      (rs.map RuleResult.ruleId).Nodup ∧ ∀ r ∈ rs, r.ruleId ∉ seen := by
  induction rs generalizing seen with
  | nil => simp [firstDuplicate]
  | cons r rest ih =>
    unfold firstDuplicate
    split_ifs with hseen
    · simp [hseen]
    · rw [ih, List.map_cons, List.nodup_cons, List.forall_mem_cons]
      simp only [List.mem_map, not_exists, not_and, List.mem_cons, not_or]
      constructor
      · rintro ⟨hn, hrest⟩
        exact ⟨⟨fun x hx => (hrest x hx).1, hn⟩, hseen, fun x hx => (hrest x hx).2⟩
      · rintro ⟨⟨hfresh, hn⟩, -, hrest⟩
        exact ⟨hn, fun x hx => ⟨hfresh x hx, hrest x hx⟩⟩

lemma Checked.ruleId_eq {r copy : RuleResult} (h : Checked rk r copy) :
    copy.ruleId = r.ruleId := by
  rw [h.copy_eq]
  rfl

lemma map_ruleId_of_checked {rs copies : List RuleResult} (h : List.Forall₂ (Checked rk) rs copies) :
    copies.map RuleResult.ruleId = rs.map RuleResult.ruleId := by
  induction h with
  | nil => rfl
  | cons hc _ ih => rw [List.map_cons, List.map_cons, hc.ruleId_eq, ih]

/-! ### The matrix -/

/-- The decision fires with a governing rule, whose severity, strength and risk it shows. -/
structure FiredBy (d : DecisionResult) (g : Candidate) : Prop where
  governing : d.governingRuleId = some g.result.ruleId
  severity : d.decisionSeverity = g.severity
  strength : d.matchedEvidenceStrength = g.strength
  risk : ∃ risk, riskMatrix g.severity g.strength = some risk ∧ d.riskLevel = (risk : Severity)

lemma exists_riskMatrix (severity : Severity) {strength : Strength} (h : strength ≠ .NONE) :
    ∃ risk, riskMatrix severity strength = some risk := by
  cases severity <;> cases strength <;> first | exact absurd rfl h | exact ⟨_, rfl⟩

lemma fire_of_selectGoverning (profile : EvaluationProfile) (support : Support)
    (results : List RuleResult) (degraded wholeError : Bool) (errors : List ErrorEntry)
    {eligible : List Candidate} {g : Candidate} (hg : selectGoverning eligible = some g) (hs : g.strength ≠ .NONE) :
    ∃ d, fire rk profile support results eligible g degraded wholeError errors = .ok d ∧
      FiredBy d g := by
  obtain ⟨risk, hrisk⟩ := exists_riskMatrix g.severity hs
  simp only [fire, foldl_max_governing hg, hrisk]
  exact ⟨_, rfl, rfl, rfl, rfl, risk, hrisk, rfl⟩

lemma evaluable_iff {support : Support} {wholeErrors : List Json} :
    Evaluable support wholeErrors ↔ ¬((!wholeErrors.isEmpty) = true ∨
      (support ≠ .SUPPORTED ∧ support ≠ .PARTIALLY_SUPPORTED)) := by
  simp only [Evaluable, not_or, not_and_or, not_not, Bool.not_eq_true', Bool.not_eq_false,
    List.isEmpty_iff]

/-- What is not evaluated has no risk. -/
lemma aggregateChecked_blocked (profile : EvaluationProfile) {support : Support}
    {wholeErrors : List Json} (results : List RuleResult) (hno : ¬Evaluable support wholeErrors) :
    ∃ d, aggregateChecked rk profile support wholeErrors results = .ok d ∧ d.riskLevel = ⊥ ∧
      d.decisionSeverity = ⊥ := by
  rw [evaluable_iff, not_not] at hno
  simp only [aggregateChecked, if_pos hno]
  exact ⟨_, rfl, rfl, rfl⟩

/-- The decision over checked results shows the matrix cell of the governing rule, or nothing. -/
lemma aggregateChecked_total (profile : EvaluationProfile) {support : Support}
    {wholeErrors : List Json} (hok : Evaluable support wholeErrors) {results : List RuleResult}
    {cs : List Candidate} (hcs : candidates rk results = .ok cs) :
    ∃ d, aggregateChecked rk profile support wholeErrors results = .ok d ∧
      ((cs = [] ∧ d.riskLevel = ⊥ ∧ d.decisionSeverity = ⊥) ∨
        ∃ g, selectGoverning cs = some g ∧ FiredBy d g) := by
  simp only [aggregateChecked, if_neg (evaluable_iff.mp hok), hcs, bind, Except.bind]
  cases hg : selectGoverning cs with
  | none => exact ⟨_, rfl, Or.inl ⟨selectGoverning_eq_none.mp hg, rfl, rfl⟩⟩
  | some g =>
    obtain ⟨d, hd, hfired⟩ := fire_of_selectGoverning profile support results _ _ _ hg
      (strength_of_mem_candidates hcs g (mem_of_selectGoverning hg))
    exact ⟨d, hd, Or.inr ⟨g, rfl, hfired⟩⟩

/-- The cells a governing rule of no lower severity may lower. -/
theorem riskMatrix_le {severity severity' : Severity} {strength strength' : Strength}
    {risk risk' : Severity} (h : riskMatrix severity strength = some risk)
    (h' : riskMatrix severity' strength' = some risk') (hsev : severity ≤ severity')
    (hno : ¬(strength' < strength ∧ (severity' = severity ∨
      (severity = .LOW ∧ strength = .STRONG ∧ severity' = .MEDIUM ∧ strength' = .WEAK)))) :
    risk ≤ risk' := by
  cases severity <;> cases strength <;> cases severity' <;> cases strength' <;>
    simp only [riskMatrix, Option.some.injEq, reduceCtorEq] at h h' <;> subst h h' <;>
    revert hsev hno <;> decide

/-! ### One more result -/

lemma aggregateDecision_eq {profile : EvaluationProfile} {rs copies : List RuleResult}
    {status : String} {support : Support} {wholeErrors : List Json}
    (hsupport : Support.ofString? status = some support)
    (herrors : wholeErrors.all wholeErrorSchema = true) (hcopies : materialise rk rs = .ok copies)
    (hn : (rs.map RuleResult.ruleId).Nodup) :
    aggregateDecision rk profile rs status wholeErrors =
      aggregateChecked rk profile support wholeErrors copies := by
  have hdup : firstDuplicate [] copies = none := by
    rw [firstDuplicate_eq_none, map_ruleId_of_checked (materialise_ok hcopies)]
    exact ⟨hn, by simp⟩
  simp only [aggregateDecision, hsupport, herrors, hcopies, hdup, Bool.true_eq_false, if_false, bind,
    Except.bind]

/-- What an accepted list of results consists of. -/
lemma aggregateDecision_inputs {profile : EvaluationProfile} {rs : List RuleResult}
    {status : String} {wholeErrors : List Json} {d : DecisionResult}
    (h : aggregateDecision rk profile rs status wholeErrors = .ok d) :
    ∃ support copies, Support.ofString? status = some support ∧
      wholeErrors.all wholeErrorSchema = true ∧ materialise rk rs = .ok copies ∧
      (rs.map RuleResult.ruleId).Nodup ∧
      aggregateChecked rk profile support wholeErrors copies = .ok d := by
  unfold aggregateDecision at h
  split at h
  · cases h
  · rename_i support hsupport
    split_ifs at h with herrors
    obtain ⟨copies, hcopies, h⟩ := bind_ok h
    split at h
    · cases h
    · rename_i hdup
      refine ⟨support, copies, hsupport, (Bool.not_eq_false _).mp herrors, hcopies, ?_, h⟩
      rw [← map_ruleId_of_checked (materialise_ok hcopies)]
      exact (firstDuplicate_eq_none.mp hdup).1

/-- The eligible rules of an accepted, evaluable input are computed. -/
lemma aggregateChecked_candidates {profile : EvaluationProfile} {support : Support}
    {wholeErrors : List Json} {results : List RuleResult} {d : DecisionResult}
    (hok : Evaluable support wholeErrors)
    (h : aggregateChecked rk profile support wholeErrors results = .ok d) :
    ∃ cs, candidates rk results = .ok cs := by
  simp only [aggregateChecked, if_neg (evaluable_iff.mp hok)] at h
  obtain ⟨cs, hcs, -⟩ := bind_ok h
  exact ⟨cs, hcs⟩

/-- The added result became the governing rule, on weaker evidence at no higher a risk class. -/
def Undercuts (d d' : DecisionResult) (r : RuleResult) : Prop :=
  d'.governingRuleId = some r.ruleId ∧ d'.matchedEvidenceStrength < d.matchedEvidenceStrength ∧
    (d'.decisionSeverity = d.decisionSeverity ∨
      (d.decisionSeverity = (Severity.LOW : WithBot Severity) ∧
        d.matchedEvidenceStrength = .STRONG ∧
        d'.decisionSeverity = (Severity.MEDIUM : WithBot Severity) ∧
        d'.matchedEvidenceStrength = .WEAK))

/-- A moderate and a weak indicator. -/
def sampleStrengths : RuntimeKnowledge where
  rules := []
  indicators := [⟨"URGENCY", some "PRESSURE", some "MODERATE"⟩,
    ⟨"PRIZE_CLAIM", some "PRETEXT", some "WEAK"⟩]
  negatives := []
  overrides := []
  taxonomy := []
  actionPolicy := []
  bundleVersion := "1.0.0"
  contentDigest := ""
  commitSha := "unknown"
  componentVersions := []
  rules_nodup := List.nodup_nil
  indicators_nodup := by decide
  negatives_nodup := List.nodup_nil
  overrides_nodup := List.nodup_nil
  polarity_disjoint := by simp

/-- A HIGH match on one indicator, its evidence judged by the verdict. -/
def sampleMatch (ruleId indicatorId verdict : String) : RuleResult where
  ruleId := ruleId
  ruleVersion := "1.0.0"
  kind := .COMPOSITE
  evaluationState := .MATCHED
  requiredCombinationResult := .TRUE
  matchedPositiveIndicators := [indicatorId]
  ruleEvidenceVerdict := some (.str verdict)
  ruleSeverityDeclared := some (.str "HIGH")
  effectiveSeverity := some (.str "HIGH")

def riskOf (results : List RuleResult) : Option (WithBot Severity) :=
  (aggregateDecision sampleStrengths {} results "SUPPORTED" []).toOption.map (·.riskLevel)

lemma exists_ok_of_riskOf {results : List RuleResult} {risk : WithBot Severity}
    (h : riskOf results = some risk) :
    ∃ d, aggregateDecision sampleStrengths {} results "SUPPORTED" [] = .ok d ∧
      d.riskLevel = risk := by
  unfold riskOf at h
  cases hd : aggregateDecision sampleStrengths {} results "SUPPORTED" [] with
  | error e =>
    rw [hd] at h
    cases h
  | ok d =>
    rw [hd] at h
    exact ⟨d, rfl, Option.some.inj h⟩

end Aggregation
end TrustLens.Runtime
