import TrustLens.Runtime.Suppression

/-!
# What the suppression stage computes

What a suppressed result is made of, and how the resolution of the matched negatives
changes when more categories are blocked.
-/

namespace TrustLens.Runtime

namespace SuppressionExecutor

variable {rk : RuntimeKnowledge} {ruleId : String}

/-- Everything but a matched composite passes through. -/
lemma applyCore_passthrough {r : RuleResult}
    (h : r.kind ≠ .COMPOSITE ∨ r.evaluationState ≠ .MATCHED) :
    applyCore rk r = .ok r.canonical := by
  rw [applyCore]
  exact if_pos h

/-- The pieces from which a matched composite is resolved. -/
structure MatchedRun (rk : RuntimeKnowledge) (r : RuleResult) (base : Severity)
    (blocked : List String) (res : Resolution) : Prop where
  base_eq : validateMatchedInput r.canonical = .ok base
  blocked_eq : blockedCategories rk r.canonical.activeOverrides = .ok blocked
  res_eq : resolve rk r.ruleId blocked r.canonical.matchedNegativeIndicators = .ok res
  cross_eq : crossCheckBlocked r.canonical res = .ok ()

/-- A matched composite is resolved against the governed effects of its negatives. -/
theorem applyCore_matched {r r' : RuleResult} (hk : r.kind = .COMPOSITE)
    (hm : r.evaluationState = .MATCHED) (h : applyCore rk r = .ok r') :
    ∃ base blocked res, MatchedRun rk r base blocked res ∧
      r' = resolved r.canonical base res := by
  have hno : ¬(r.canonical.kind ≠ .COMPOSITE ∨ r.canonical.evaluationState ≠ .MATCHED) := by
    rintro (hne | hne)
    · exact hne hk
    · exact hne hm
  simp only [applyCore, if_neg hno] at h
  obtain ⟨base, h1, h⟩ := bind_ok h
  obtain ⟨blocked, h2, h⟩ := bind_ok h
  obtain ⟨res, h3, h⟩ := bind_ok h
  obtain ⟨_, h4, h⟩ := bind_ok h
  cases h
  exact ⟨base, blocked, res, ⟨h1, h2, h3, h4⟩, rfl⟩

/-- A resolved match stays a match or becomes a suppression. -/
lemma resolved_state {r : RuleResult} (hm : r.evaluationState = .MATCHED) (base : Severity)
    (res : Resolution) : (resolved r base res).evaluationState =
      if res.appliedSuppressors ≠ [] then .SUPPRESSED else .MATCHED := by
  rw [← hm]
  rfl

/-- Every outcome keeps the identity, the kind and the combination truth of the rule. -/
lemma apply_same (rk : RuntimeKnowledge) (r : RuleResult) : (apply rk r).ruleId = r.ruleId ∧
    (apply rk r).kind = r.kind ∧
    (apply rk r).requiredCombinationResult = r.requiredCombinationResult := by
  unfold apply
  cases h : applyCore rk r with
  | error e => exact ⟨rfl, rfl, rfl⟩
  | ok r' =>
    by_cases hpass : r.kind ≠ .COMPOSITE ∨ r.evaluationState ≠ .MATCHED
    · cases (applyCore_passthrough hpass).symm.trans h
      exact ⟨rfl, rfl, rfl⟩
    · push Not at hpass
      obtain ⟨base, _, res, -, rfl⟩ := applyCore_matched hpass.1 hpass.2 h
      exact ⟨rfl, rfl, rfl⟩

/-- A result that is not degraded came out of the resolution itself. -/
lemma applyCore_of_apply {r : RuleResult} (h : (apply rk r).evaluationState ≠ .NOT_APPLICABLE) :
    applyCore rk r = .ok (apply rk r) := by
  unfold apply at h ⊢
  cases hcore : applyCore rk r with
  | ok r' => rfl
  | error e =>
    rw [hcore] at h
    exact absurd rfl h

/-- A rule that was not evaluated normally is passed on as it is. -/
lemma apply_notApplicable {r : RuleResult} (h : r.evaluationState = .NOT_APPLICABLE) :
    (apply rk r).evaluationState = .NOT_APPLICABLE := by
  rw [apply, applyCore_passthrough (Or.inr (by rw [h]; exact nofun))]
  exact h

/-- An undetermined result is the evaluator's own. -/
lemma apply_indeterminate {r : RuleResult}
    (h : (apply rk r).evaluationState = .INDETERMINATE) : apply rk r = r.canonical := by
  have hcore : applyCore rk r = .ok (apply rk r) := by
    apply applyCore_of_apply
    rw [h]
    exact nofun
  by_cases hpass : r.kind ≠ .COMPOSITE ∨ r.evaluationState ≠ .MATCHED
  · exact (Except.ok.inj ((applyCore_passthrough hpass).symm.trans hcore)).symm
  · push Not at hpass
    obtain ⟨base, _, res, -, heq⟩ := applyCore_matched hpass.1 hpass.2 hcore
    rw [heq, resolved_state (r := r.canonical) hpass.2] at h
    split_ifs at h

/-! ### More blocked categories -/

/-- Blocking more can only turn an applied effect into a blocked one. -/
inductive Outcome.Relaxes : Outcome → Outcome → Prop where
  | same (o : Outcome) : Relaxes o o
  | suppressor : Relaxes (.suppressor false) (.suppressor true)
  | cap (ceiling : Severity) : Relaxes (.cap ceiling false) (.cap ceiling true)

def Outcome.isBlocked : Outcome → Bool
  | .suppressor blocked => blocked
  | .cap _ blocked => blocked
  | _ => false

/-- Whether a negative has an effect on the rule as a whole that an override can block. -/
def IsSoft (neg : NegativeIndicator) : Prop :=
  neg.suppressionEffect = some "SUPPRESS_RULE" ∨ neg.suppressionEffect = some "CAP_SEVERITY"

lemma isIn_mono {x : Option String} {xs ys : List String} (h : xs ⊆ ys)
    (hx : Evaluator.isIn x xs = true) : Evaluator.isIn x ys = true := by
  cases x with
  | none => cases hx
  | some s => exact List.contains_iff_mem.mpr (h (List.contains_iff_mem.mp hx))

/-- What an outcome computed for one negative says about its record. -/
structure Governed (rk : RuntimeKnowledge) (blocked : List String) (id : String) (o : Outcome)
    (neg : NegativeIndicator) (blockable : Bool) : Prop where
  found : rk.negativeIndicator id = some neg
  flag : neg.blockableByOverrides = .bool blockable
  suppressor_iff : (∃ b, o = .suppressor b) ↔ neg.suppressionEffect = some "SUPPRESS_RULE"
  blocked_iff : o.isBlocked = true ↔
    IsSoft neg ∧ blockable = true ∧ Evaluator.isIn neg.category blocked = true

lemma outcomeOf_ok {blocked : List String} {id : String} {o : Outcome}
    (h : outcomeOf rk ruleId blocked id = .ok o) :
    ∃ neg blockable, Governed rk blocked id o neg blockable := by
  unfold outcomeOf at h
  cases hneg : rk.negativeIndicator id with
  | none =>
    rw [hneg] at h
    cases h
  | some neg =>
    simp only [hneg] at h
    cases hflag : neg.blockableByOverrides with
    | bool blockable =>
      simp only [hflag] at h
      have hkinds : ((∃ b, o = .suppressor b) ↔ neg.suppressionEffect = some "SUPPRESS_RULE") ∧
          (o.isBlocked = true ↔ IsSoft neg ∧ blockable = true ∧
            Evaluator.isIn neg.category blocked = true) := by
        split_ifs at h with _ _ h1 h2 h3
        · cases h
          simp [Outcome.isBlocked, IsSoft, h1]
        · cases h
          simp [Outcome.isBlocked, IsSoft, h2]
        · cases hcap : severityCap? neg.severityCap with
          | none =>
            simp only [hcap] at h
            cases h
          | some ceiling =>
            simp only [hcap] at h
            cases h
            simp [Outcome.isBlocked, IsSoft, h3]
        · cases h
          simp [Outcome.isBlocked, IsSoft, h2, h3]
      exact ⟨neg, blockable, hneg, hflag, hkinds.1, hkinds.2⟩
    | _ =>
      simp only [hflag] at h
      split_ifs at h

/-- An outcome is computed for every set of blocked categories or for none. -/
lemma outcomeOf_total {blocked : List String} (blocked' : List String) {id : String} {o : Outcome}
    (h : outcomeOf rk ruleId blocked id = .ok o) :
    ∃ o', outcomeOf rk ruleId blocked' id = .ok o' := by
  obtain ⟨neg, blockable, hgov⟩ := outcomeOf_ok h
  unfold outcomeOf at h ⊢
  simp only [hgov.found, hgov.flag] at h ⊢
  split_ifs at h ⊢
  · exact ⟨_, rfl⟩
  · exact ⟨_, rfl⟩
  · cases hcap : severityCap? neg.severityCap with
    | none =>
      simp only [hcap] at h
      cases h
    | some ceiling => exact ⟨_, rfl⟩
  · exact ⟨_, rfl⟩

/-- Blocking more relaxes the outcome. -/
theorem outcomeOf_relaxes {blocked blocked' : List String} (hsub : blocked ⊆ blocked') {id : String}
    {o : Outcome} (h : outcomeOf rk ruleId blocked id = .ok o) :
    ∃ o', outcomeOf rk ruleId blocked' id = .ok o' ∧ Outcome.Relaxes o o' := by
  obtain ⟨neg, blockable, hneg, hflag, -, -⟩ := outcomeOf_ok h
  have hmono : (blockable && Evaluator.isIn neg.category blocked) = true →
      (blockable && Evaluator.isIn neg.category blocked') = true := by
    simp only [Bool.and_eq_true]
    exact fun hb => ⟨hb.1, isIn_mono hsub hb.2⟩
  unfold outcomeOf at h ⊢
  simp only [hneg, hflag] at h ⊢
  generalize (blockable && Evaluator.isIn neg.category blocked) = b at h hmono
  generalize (blockable && Evaluator.isIn neg.category blocked') = b' at hmono ⊢
  split_ifs at h ⊢
  · exact ⟨_, rfl, Except.ok.inj h ▸ .same _⟩
  · cases h
    refine ⟨_, rfl, ?_⟩
    cases b <;> cases b'
    · exact .same _
    · exact .suppressor
    · exact absurd (hmono rfl) (by decide)
    · exact .same _
  · cases hcap : severityCap? neg.severityCap with
    | none =>
      simp only [hcap] at h
      cases h
    | some ceiling =>
      simp only [hcap] at h ⊢
      cases h
      refine ⟨_, rfl, ?_⟩
      cases b <;> cases b'
      · exact .same _
      · exact .cap ceiling
      · exact absurd (hmono rfl) (by decide)
      · exact .same _
  · exact ⟨_, rfl, Except.ok.inj h ▸ .same _⟩

/-- What the loop over the matched negatives leaves behind. -/
structure Resolves (rk : RuntimeKnowledge) (ruleId : String) (blocked ids : List String)
    (res : Resolution) : Prop where
  total : ∀ id ∈ ids, ∃ o, outcomeOf rk ruleId blocked id = .ok o
  applied : ∀ id, id ∈ res.appliedSuppressors ↔
    id ∈ ids ∧ outcomeOf rk ruleId blocked id = .ok (.suppressor false)
  caps : ∀ id, id ∈ res.appliedCaps ↔
    id ∈ ids ∧ ∃ c, outcomeOf rk ruleId blocked id = .ok (.cap c false)
  ceilings : ∀ c, c ∈ res.survivingCeilings ↔
    ∃ id ∈ ids, outcomeOf rk ruleId blocked id = .ok (.cap c false)
  blocked : ∀ id, id ∈ res.blockedSuppressors ++ res.blockedCaps ↔
    id ∈ ids ∧ ∃ o, outcomeOf rk ruleId blocked id = .ok o ∧ o.isBlocked = true

lemma Resolves.cons {blocked ids : List String} {res : Resolution} {id : String} {o : Outcome}
    (h : Resolves rk ruleId blocked ids res) (ho : outcomeOf rk ruleId blocked id = .ok o) :
    Resolves rk ruleId blocked (id :: ids) (res.add id o) := by
  constructor
  · exact List.forall_mem_cons.mpr ⟨⟨o, ho⟩, h.total⟩
  all_goals intro x
  · have happlied := h.applied x
    rcases o with _ | (_ | _) | ⟨c, (_ | _)⟩ | _ <;> grind [Resolution.add]
  · have hcaps := h.caps x
    rcases o with _ | (_ | _) | ⟨c, (_ | _)⟩ | _ <;> grind [Resolution.add]
  · have hceilings := h.ceilings x
    rcases o with _ | (_ | _) | ⟨c, (_ | _)⟩ | _ <;> grind [Resolution.add]
  · have hblocked := h.blocked x
    rcases o with _ | (_ | _) | ⟨c, (_ | _)⟩ | _ <;> grind [Resolution.add, Outcome.isBlocked]

theorem resolve_ok {blocked ids : List String} {res : Resolution}
    (h : resolve rk ruleId blocked ids = .ok res) : Resolves rk ruleId blocked ids res := by
  induction ids generalizing res with
  | nil =>
    cases h
    constructor <;> simp
  | cons id rest ih =>
    obtain ⟨o, ho, h⟩ := bind_ok h
    obtain ⟨res', hres', h⟩ := bind_ok h
    cases h
    exact (ih hres').cons ho

lemma exists_resolve {blocked ids : List String}
    (h : ∀ id ∈ ids, ∃ o, outcomeOf rk ruleId blocked id = .ok o) :
    ∃ res, resolve rk ruleId blocked ids = .ok res := by
  induction ids with
  | nil => exact ⟨_, rfl⟩
  | cons id rest ih =>
    rw [List.forall_mem_cons] at h
    obtain ⟨⟨o, ho⟩, hrest⟩ := h
    obtain ⟨res, hres⟩ := ih hrest
    exact ⟨res.add id o, by simp [resolve, ho, hres, bind, Except.bind, pure, Except.pure]⟩

/-! ### The categories of the active overrides -/

lemma blockedBy_ok {id : String} {categories : List String} (h : blockedBy rk id = .ok categories) :
    ∃ o, rk.override id = some o ∧ o.blocksSuppressionCategories = some categories := by
  unfold blockedBy at h
  split at h
  · cases h
  · rename_i o ho
    refine ⟨o, ho, ?_⟩
    split at h
    · cases h
    · rename_i cs hcs
      split_ifs at h
      cases h
      exact hcs

/-- The blocked categories are those the active overrides list. -/
theorem mem_blockedCategories {ids categories : List String}
    (h : SuppressionExecutor.blockedCategories rk ids = .ok categories) (c : String) :
    c ∈ categories ↔ ∃ id ∈ ids, ∃ o, rk.override id = some o ∧
      c ∈ o.blocksSuppressionCategories.getD [] := by
  induction ids generalizing categories with
  | nil =>
    cases h
    simp
  | cons id rest ih =>
    obtain ⟨here, hhere, h⟩ := bind_ok h
    obtain ⟨more, hmore, h⟩ := bind_ok h
    cases h
    obtain ⟨o, ho, hcs⟩ := blockedBy_ok hhere
    simp [ih hmore, ho, hcs]

lemma exists_blockedCategories {ids : List String}
    (h : ∀ id ∈ ids, ∃ categories, blockedBy rk id = .ok categories) :
    ∃ categories, SuppressionExecutor.blockedCategories rk ids = .ok categories := by
  induction ids with
  | nil => exact ⟨_, rfl⟩
  | cons id rest ih =>
    rw [List.forall_mem_cons] at h
    obtain ⟨⟨here, hhere⟩, hrest⟩ := h
    obtain ⟨more, hmore⟩ := ih hrest
    exact ⟨here ++ more, by
      simp [SuppressionExecutor.blockedCategories, hhere, hmore, bind, Except.bind, pure,
        Except.pure]⟩

lemma le_foldl_min {base c : Severity} {ceilings : List Severity} :
    c ≤ ceilings.foldl min base ↔ c ≤ base ∧ ∀ x ∈ ceilings, c ≤ x := by
  induction ceilings generalizing base with
  | nil => simp
  | cons x rest ih => simp [ih, and_assoc]

/-- Only a match stays a match. -/
lemma matched_of_apply {r : RuleResult} (h : (apply rk r).evaluationState = .MATCHED) :
    r.evaluationState = .MATCHED := by
  have hcore : applyCore rk r = .ok (apply rk r) := by
    apply applyCore_of_apply
    rw [h]
    exact nofun
  by_cases hm : r.evaluationState = .MATCHED
  · exact hm
  · rw [Except.ok.inj ((applyCore_passthrough (Or.inr hm)).symm.trans hcore) |>.symm] at h
    exact h

lemma MatchedRun.apply_eq {r : RuleResult} {base : Severity} {blocked : List String}
    {res : Resolution} (run : MatchedRun rk r base blocked res) (hk : r.kind = .COMPOSITE)
    (hm : r.evaluationState = .MATCHED) : apply rk r = resolved r.canonical base res := by
  have hno : ¬(r.canonical.kind ≠ .COMPOSITE ∨ r.canonical.evaluationState ≠ .MATCHED) := by
    rintro (hne | hne)
    · exact hne hk
    · exact hne hm
  have hres : resolve rk r.canonical.ruleId blocked r.canonical.matchedNegativeIndicators =
      .ok res := run.res_eq
  simp only [apply, applyCore, if_neg hno, run.base_eq, run.blocked_eq, hres, run.cross_eq, bind,
    Except.bind, pure, Except.pure]

lemma severity_of_resolved (r : RuleResult) (base : Severity) (res : Resolution) :
    (resolved r base res).effectiveSeverity.bind Severity.ofJson? =
      some (res.survivingCeilings.foldl min base) :=
  Severity.ofString?_name _

/-- What is applied to a rule as a whole are negatives matched for it. -/
lemma applied_subset {r : RuleResult} {s : Suppression} (h : (apply rk r).suppression = some s)
    (hfresh : ∀ s', r.suppression = some s' → s'.appliedSuppressors = [] ∧ s'.appliedSeverityCaps = [])
    {id : String} (hid : id ∈ s.appliedSuppressors ++ s.appliedSeverityCaps) :
    id ∈ r.matchedNegativeIndicators := by
  unfold apply at h
  cases hcore : applyCore rk r with
  | error e =>
    rw [hcore] at h
    cases h
  | ok r' =>
    rw [hcore] at h
    by_cases hpass : r.kind ≠ .COMPOSITE ∨ r.evaluationState ≠ .MATCHED
    · obtain rfl := Except.ok.inj ((applyCore_passthrough hpass).symm.trans hcore)
      obtain ⟨s', hs', rfl⟩ := Option.map_eq_some_iff.mp h
      obtain ⟨hnil, hnil'⟩ := hfresh s' hs'
      simp [hnil, hnil'] at hid
    · push Not at hpass
      obtain ⟨base, blocked, res, run, rfl⟩ := applyCore_matched hpass.1 hpass.2 hcore
      obtain rfl := Option.some.inj h
      have hres := resolve_ok run.res_eq
      rw [← mem_sortedUnique]
      rcases List.mem_append.mp hid with hmem | hmem
      · exact ((hres.applied id).mp (mem_sortedUnique.mp hmem)).1
      · exact ((hres.caps id).mp (mem_sortedUnique.mp hmem)).1

/-- A second match of the rule, with more overrides and nothing else changed that this stage
reads. -/
structure Relaxed (r r' : RuleResult) : Prop where
  ruleId : r'.ruleId = r.ruleId
  composite : r.kind = .COMPOSITE ∧ r'.kind = .COMPOSITE
  matched : r'.evaluationState = .MATCHED
  required : r'.requiredCombinationResult = .TRUE
  severity : r'.effectiveSeverity = r.effectiveSeverity
  negatives : r'.matchedNegativeIndicators = r.matchedNegativeIndicators
  overrides : r.activeOverrides ⊆ r'.activeOverrides
  notApplied : (r'.canonical.suppression.map preApplied).getD false = false

lemma validateMatchedInput_ok {r : RuleResult} {base : Severity} :
    validateMatchedInput r = .ok base ↔ r.requiredCombinationResult = .TRUE ∧
      r.effectiveSeverity.bind Severity.ofJson? = some base ∧
        (r.suppression.map preApplied).getD false = false := by
  unfold validateMatchedInput
  cases r.effectiveSeverity.bind Severity.ofJson? with
  | none =>
    simp only [reduceCtorEq, false_and, and_false, iff_false]
    split_ifs <;> exact nofun
  | some base' => split_ifs <;> simp_all

lemma Relaxed.base_eq {r r' : RuleResult} (h : Relaxed r r') {base : Severity}
    (hbase : validateMatchedInput r.canonical = .ok base) :
    validateMatchedInput r'.canonical = .ok base := by
  obtain ⟨-, hsev, -⟩ := validateMatchedInput_ok.mp hbase
  refine validateMatchedInput_ok.mpr ⟨h.required, ?_, h.notApplied⟩
  rw [← hsev]
  exact congrArg (·.bind Severity.ofJson?) h.severity

/-- More active overrides resolve the same negatives to fewer effects. -/
lemma Resolves.relaxed {blocked blocked' ids : List String} {res : Resolution}
    (h : Resolves rk ruleId blocked ids res) (hsub : blocked ⊆ blocked') :
    ∃ res', resolve rk ruleId blocked' ids = .ok res' ∧
      res'.appliedSuppressors ⊆ res.appliedSuppressors ∧
      res'.survivingCeilings ⊆ res.survivingCeilings := by
  have htotal : ∀ id ∈ ids, ∃ o, outcomeOf rk ruleId blocked' id = .ok o := by
    intro id hid
    obtain ⟨o, ho⟩ := h.total id hid
    obtain ⟨o', ho', -⟩ := outcomeOf_relaxes hsub ho
    exact ⟨o', ho'⟩
  -- an effect that is applied under the larger set was applied under the smaller one
  have hback : ∀ id ∈ ids, ∀ o', outcomeOf rk ruleId blocked' id = .ok o' → o'.isBlocked = false →
      outcomeOf rk ruleId blocked id = .ok o' := by
    intro id hid o' ho' hfree
    obtain ⟨o, ho⟩ := h.total id hid
    obtain ⟨o'', ho'', hrelax⟩ := outcomeOf_relaxes hsub ho
    cases ho''.symm.trans ho'
    cases hrelax with
    | same => exact ho
    | suppressor => cases hfree
    | cap => cases hfree
  obtain ⟨res', hres'⟩ := exists_resolve htotal
  have h' := resolve_ok hres'
  refine ⟨res', hres', ?_, ?_⟩
  · intro id hid
    obtain ⟨hmem, ho⟩ := (h'.applied id).mp hid
    exact (h.applied id).mpr ⟨hmem, hback id hmem _ ho rfl⟩
  · intro c hc
    obtain ⟨id, hmem, ho⟩ := (h'.ceilings c).mp hc
    exact (h.ceilings c).mpr ⟨id, hmem, hback id hmem _ ho rfl⟩

/-- A match that survived suppression survives it with more overrides, at a severity that is
no lower, when the overrides are well formed and the evaluator's list agrees. -/
theorem apply_relaxed {r r' : RuleResult} (h : Relaxed r r')
    (hblocks : ∀ id ∈ r'.activeOverrides, ∃ categories, blockedBy rk id = .ok categories)
    (hcross : ∀ blocked res, blockedCategories rk r'.canonical.activeOverrides = .ok blocked →
      resolve rk r'.ruleId blocked r'.canonical.matchedNegativeIndicators = .ok res →
      crossCheckBlocked r'.canonical res = .ok ())
    (hm : (apply rk r).evaluationState = .MATCHED) :
    (apply rk r').evaluationState = .MATCHED ∧ ∃ s s',
      (apply rk r).effectiveSeverity.bind Severity.ofJson? = some s ∧
      (apply rk r').effectiveSeverity.bind Severity.ofJson? = some s' ∧ s ≤ s' := by
  have hmatched := matched_of_apply hm
  have hcore : applyCore rk r = .ok (apply rk r) := by
    apply applyCore_of_apply
    rw [hm]
    exact nofun
  obtain ⟨base, blocked, res, run, heq⟩ := applyCore_matched h.composite.1 hmatched hcore
  rw [heq] at hm ⊢
  obtain ⟨blocked', hblocked'⟩ : ∃ blocked',
      blockedCategories rk r'.canonical.activeOverrides = .ok blocked' :=
    exists_blockedCategories fun id hid => hblocks id (mem_sortedUnique.mp hid)
  have hsub : blocked ⊆ blocked' := by
    intro c hc
    rw [mem_blockedCategories run.blocked_eq] at hc
    rw [mem_blockedCategories hblocked']
    obtain ⟨id, hid, hrest⟩ := hc
    exact ⟨id, mem_sortedUnique.mpr (h.overrides (mem_sortedUnique.mp hid)), hrest⟩
  have hnegs : r'.canonical.matchedNegativeIndicators = r.canonical.matchedNegativeIndicators :=
    congrArg sortedUnique h.negatives
  obtain ⟨res', hres', happlied, hceilings⟩ := (resolve_ok run.res_eq).relaxed hsub
  rw [← h.ruleId, ← hnegs] at hres'
  have run' : MatchedRun rk r' base blocked' res' :=
    ⟨h.base_eq run.base_eq, hblocked', hres', hcross blocked' res' hblocked' hres'⟩
  rw [run'.apply_eq h.composite.2 h.matched]
  have hnone : res.appliedSuppressors = [] := by
    by_contra hne
    rw [resolved_state (r := r.canonical) hmatched, if_pos hne] at hm
    cases hm
  refine ⟨?_, _, _, severity_of_resolved .., severity_of_resolved .., ?_⟩
  · rw [resolved_state (r := r'.canonical) h.matched, if_neg]
    exact not_not.mpr (List.subset_nil.mp (hnone ▸ happlied))
  · obtain ⟨hbase, hall⟩ := le_foldl_min.mp (le_refl (res.survivingCeilings.foldl min base))
    exact le_foldl_min.mpr ⟨hbase, fun c hc => hall c (hceilings hc)⟩

end SuppressionExecutor
end TrustLens.Runtime
