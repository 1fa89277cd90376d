import TrustLens.Runtime.SuppressionSpec

/-!
# Blocked suppressors, twice

The evaluator lists the negatives an active override would block; the suppression stage
resolves them again and refuses a match on which the two lists differ. The evaluator asks
for the category alone, the second stage also for the blockable flag, so the lists agree
when every negative in a blocked category carries it.
-/

namespace TrustLens.Runtime.SuppressionExecutor

open Condition (evalCondition)
open Evaluator

variable {rk : RuntimeKnowledge} {gate : Level} {ctx : Context} {rule : Rule}

/-! ### Active overrides -/

lemma mem_activeAmong {truth : String → Truth} {os active : List Override}
    (h : activeAmong truth os = .ok active) (o : Override) :
    o ∈ active ↔ o ∈ os ∧ evalCondition truth o.condition = .ok .TRUE := by
  induction os generalizing active with
  | nil =>
    cases h
    simp
  | cons o' rest ih =>
    obtain ⟨v, hv, h⟩ := bind_ok h
    obtain ⟨as, has, h⟩ := bind_ok h
    cases h
    by_cases htrue : v = .TRUE
    · rw [if_pos htrue, List.mem_cons, List.mem_cons, ih has]
      constructor
      · rintro (rfl | ⟨hmem, ho⟩)
        · exact ⟨Or.inl rfl, htrue ▸ hv⟩
        · exact ⟨Or.inr hmem, ho⟩
      · rintro ⟨rfl | hmem, ho⟩
        · exact Or.inl rfl
        · exact Or.inr ⟨hmem, ho⟩
    · rw [if_neg htrue, List.mem_cons, ih has]
      constructor
      · rintro ⟨hmem, ho⟩
        exact ⟨Or.inr hmem, ho⟩
      · rintro ⟨rfl | hmem, ho⟩
        · exact absurd (Except.ok.inj (hv.symm.trans ho)) htrue
        · exact ⟨hmem, ho⟩

/-- The active overrides are the registered ones that apply to the rule and hold. -/
lemma mem_activeOverrides {truth : String → Truth} {active : List Override}
    (h : activeOverrides rk rule truth = .ok active) (o : Override) :
    o ∈ active ↔ o ∈ rk.overrides ∧ overrideApplies o rule = true ∧
      evalCondition truth o.condition = .ok .TRUE := by
  rw [mem_activeAmong h, List.mem_filter, and_assoc]
  refine and_congr_left fun _ => ?_
  rw [List.mem_filterMap]
  constructor
  · rintro ⟨id, -, hid⟩
    exact RuntimeKnowledge.mem_of_override hid
  · intro hmem
    have hfound := RuntimeKnowledge.override_of_mem hmem
    exact ⟨o.id, RuntimeKnowledge.mem_overrideIds.mpr ⟨o, hfound⟩, hfound⟩

/-! ### The evaluator's list -/

/-- The evaluator's blocked negatives: an active override blocks their category. -/
def exposed (rk : RuntimeKnowledge) (negatives : List String) (overrides : List Override) :
    List String :=
  negatives.filter fun id =>
    !overrides.isEmpty &&
      ((rk.negativeIndicator id).bind (·.suppressionEffect) == some "SUPPRESS_RULE" ||
        (rk.negativeIndicator id).bind (·.suppressionEffect) == some "CAP_SEVERITY") &&
      isIn ((rk.negativeIndicator id).bind (·.category)) (Evaluator.blockedCategories overrides)

lemma isIn_nil (x : Option String) : isIn x [] = false := by
  cases x <;> rfl

lemma isIn_congr {x : Option String} {xs ys : List String} (h : ∀ c, c ∈ xs ↔ c ∈ ys) :
    isIn x xs = true ↔ isIn x ys = true :=
  ⟨isIn_mono fun c => (h c).mp, isIn_mono fun c => (h c).mpr⟩

lemma mem_exposed {negatives : List String} {overrides : List Override} {id : String}
    {neg : NegativeIndicator} (hneg : rk.negativeIndicator id = some neg) :
    id ∈ exposed rk negatives overrides ↔ id ∈ negatives ∧ IsSoft neg ∧
      isIn neg.category (Evaluator.blockedCategories overrides) = true := by
  have hempty : isIn neg.category (Evaluator.blockedCategories overrides) = true →
      overrides ≠ [] := by
    rintro hin rfl
    exact absurd hin (by rw [Evaluator.blockedCategories, List.flatMap_nil, isIn_nil]; decide)
  simp only [exposed, List.mem_filter, hneg, Option.bind_some, Bool.and_eq_true, Bool.or_eq_true,
    beq_iff_eq, Bool.not_eq_true', List.isEmpty_eq_false_iff]
  constructor
  · rintro ⟨hmem, ⟨-, hsoft⟩, hin⟩
    exact ⟨hmem, hsoft, hin⟩
  · rintro ⟨hmem, hsoft, hin⟩
    exact ⟨hmem, ⟨hempty hin, hsoft⟩, hin⟩

/-- `suppression.blocked_suppressors`, or the empty set. -/
def exposedBlocked (r : RuleResult) : List String :=
  (r.suppression.map Suppression.blockedSuppressors).getD []

lemma exposedBlocked_eq {r : RuleResult} {negatives : List String} {overrides : List Override}
    (h : r.suppression = suppressionCandidates rk negatives overrides) :
    exposedBlocked r = exposed rk negatives overrides := by
  rw [exposedBlocked, h]
  simp only [suppressionCandidates]
  split_ifs with hnone
  · exact hnone.1.symm
  · rfl

lemma not_preApplied {negatives : List String} {overrides : List Override} {r : RuleResult}
    (h : r.suppression = suppressionCandidates rk negatives overrides) :
    (r.canonical.suppression.map preApplied).getD false = false := by
  simp only [RuleResult.canonical, h, suppressionCandidates]
  split_ifs <;> rfl

/-- What both lists of a match are computed from. -/
structure Exposes (rk : RuntimeKnowledge) (r : RuleResult) (overrides : List Override) : Prop where
  registered : ∀ o ∈ overrides, rk.override o.id = some o
  overrides_eq : r.activeOverrides = overrides.map Override.id
  suppression_eq : r.suppression = suppressionCandidates rk r.matchedNegativeIndicators overrides

lemma exposes_compositeResult {minClasses : ℤ} {overrides : List Override} {required : Truth}
    {operandIds : List String} {effective : Option Json}
    (hover : activeOverrides rk rule (truthOf (rawPositive rk gate ctx)) = .ok overrides) :
    Exposes rk (compositeResult rk gate ctx rule minClasses overrides required operandIds effective)
      overrides := by
  constructor
  · intro o ho
    exact RuntimeKnowledge.override_of_mem ((mem_activeOverrides hover o).mp ho).1
  · rw [compositeResult_same.overrides]
    rfl
  · rw [compositeResult_same.suppression, compositeResult_same.matchedNegative]
    rfl

lemma Exposes.mem_exposedBlocked {r : RuleResult} {overrides : List Override}
    (h : Exposes rk r overrides) {id : String} {neg : NegativeIndicator}
    (hneg : rk.negativeIndicator id = some neg) :
    id ∈ exposedBlocked r ↔ id ∈ r.matchedNegativeIndicators ∧ IsSoft neg ∧
      isIn neg.category (Evaluator.blockedCategories overrides) = true := by
  rw [exposedBlocked_eq h.suppression_eq, mem_exposed hneg]

lemma Exposes.matched_of_exposed {r : RuleResult} {overrides : List Override}
    (h : Exposes rk r overrides) {id : String} (hid : id ∈ exposedBlocked r) :
    id ∈ r.matchedNegativeIndicators := by
  rw [exposedBlocked_eq h.suppression_eq] at hid
  exact List.mem_of_mem_filter hid

/-! ### The list of the second stage -/

/-- The categories both stages take the active overrides to block are the same. -/
lemma Exposes.mem_blocked {r : RuleResult} {overrides : List Override} (h : Exposes rk r overrides)
    {blocked : List String}
    (hblocked : SuppressionExecutor.blockedCategories rk r.canonical.activeOverrides = .ok blocked)
    (c : String) : c ∈ blocked ↔ c ∈ Evaluator.blockedCategories overrides := by
  have hids : ∀ id, id ∈ r.canonical.activeOverrides ↔ ∃ o ∈ overrides, o.id = id := by
    intro id
    show id ∈ sortedUnique r.activeOverrides ↔ _
    rw [mem_sortedUnique, h.overrides_eq, List.mem_map]
  rw [mem_blockedCategories hblocked, Evaluator.blockedCategories, List.mem_flatMap]
  constructor
  · rintro ⟨id, hid, o, ho, hc⟩
    obtain ⟨o', ho', rfl⟩ := (hids id).mp hid
    have heq : o' = o := Option.some.inj ((h.registered o' ho').symm.trans ho)
    exact ⟨o, heq ▸ ho', hc⟩
  · rintro ⟨o, ho, hc⟩
    exact ⟨o.id, (hids o.id).mpr ⟨o, ho, rfl⟩, o, h.registered o ho, hc⟩

/-- Every negative of a match in a blocked category is flagged as blockable. -/
def Flagged (rk : RuntimeKnowledge) (r : RuleResult) (overrides : List Override) : Prop :=
  ∀ id ∈ r.matchedNegativeIndicators, ∀ neg, rk.negativeIndicator id = some neg → IsSoft neg →
    isIn neg.category (Evaluator.blockedCategories overrides) = true →
      neg.blockableByOverrides = .bool true

/-- The two stages block the same negatives exactly when the blocked ones are flagged. -/
theorem Exposes.agree_iff {r : RuleResult} {overrides : List Override} (h : Exposes rk r overrides)
    {ruleId : String} {blocked : List String} {res : Resolution}
    (hblocked : SuppressionExecutor.blockedCategories rk r.canonical.activeOverrides = .ok blocked)
    (hres : Resolves rk ruleId blocked r.canonical.matchedNegativeIndicators res) :
    (∀ id, id ∈ exposedBlocked r ↔ id ∈ res.blockedSuppressors ++ res.blockedCaps) ↔
      Flagged rk r overrides := by
  have hcanon : ∀ id, id ∈ r.canonical.matchedNegativeIndicators ↔
      id ∈ r.matchedNegativeIndicators := fun id => mem_sortedUnique
  have hcats : ∀ neg : NegativeIndicator, isIn neg.category blocked = true ↔
      isIn neg.category (Evaluator.blockedCategories overrides) = true :=
    fun neg => isIn_congr (h.mem_blocked hblocked)
  constructor
  · intro hagree id hid neg hneg hsoft hin
    have hexposed := (h.mem_exposedBlocked hneg).mpr ⟨hid, hsoft, hin⟩
    obtain ⟨-, o, ho, hb⟩ := (hres.blocked id).mp ((hagree id).mp hexposed)
    obtain ⟨neg', blockable, hgov⟩ := outcomeOf_ok ho
    obtain rfl := Option.some.inj (hgov.found.symm.trans hneg)
    rw [hgov.flag, (hgov.blocked_iff.mp hb).2.1]
  · intro hflagged id
    rw [hres.blocked, hcanon]
    constructor
    · intro hid
      have hmatched := h.matched_of_exposed hid
      obtain ⟨o, ho⟩ := hres.total id ((hcanon id).mpr hmatched)
      obtain ⟨neg, blockable, hgov⟩ := outcomeOf_ok ho
      obtain ⟨-, hsoft, hin⟩ := (h.mem_exposedBlocked hgov.found).mp hid
      have hflag := hflagged id hmatched neg hgov.found hsoft hin
      refine ⟨hmatched, o, ho, hgov.blocked_iff.mpr ⟨hsoft, ?_, (hcats neg).mpr hin⟩⟩
      exact Json.bool.inj (hgov.flag.symm.trans hflag)
    · rintro ⟨hmatched, o, ho, hb⟩
      obtain ⟨neg, blockable, hgov⟩ := outcomeOf_ok ho
      obtain ⟨hsoft, -, hin⟩ := hgov.blocked_iff.mp hb
      exact (h.mem_exposedBlocked hgov.found).mpr ⟨hmatched, hsoft, (hcats neg).mp hin⟩

/-- What the second stage blocks the evaluator has listed, so an empty list needs no check. -/
lemma crossCheck_iff {r : RuleResult} {overrides : List Override} (h : Exposes rk r overrides)
    {ruleId : String} {blocked : List String} {res : Resolution}
    (hblocked : SuppressionExecutor.blockedCategories rk r.canonical.activeOverrides = .ok blocked)
    (hres : Resolves rk ruleId blocked r.canonical.matchedNegativeIndicators res) :
    crossCheckBlocked r.canonical res = .ok () ↔
      ∀ id, id ∈ exposedBlocked r ↔ id ∈ res.blockedSuppressors ++ res.blockedCaps := by
  have hlisted : ∀ id ∈ res.blockedSuppressors ++ res.blockedCaps, id ∈ exposedBlocked r := by
    intro id hid
    obtain ⟨hmatched, o, ho, hb⟩ := (hres.blocked id).mp hid
    obtain ⟨neg, blockable, hgov⟩ := outcomeOf_ok ho
    obtain ⟨hsoft, -, hin⟩ := hgov.blocked_iff.mp hb
    rw [h.mem_exposedBlocked hgov.found]
    exact ⟨mem_sortedUnique.mp hmatched, hsoft, (isIn_congr (h.mem_blocked hblocked)).mp hin⟩
  have hnone : exposedBlocked r = [] →
      ∀ id, id ∈ exposedBlocked r ↔ id ∈ res.blockedSuppressors ++ res.blockedCaps := by
    intro hnil id
    constructor
    · intro hid
      rw [hnil] at hid
      cases hid
    · exact hlisted id
  have hsorted : ∀ xs, sortedUnique (sortedUnique xs) =
      sortedUnique (res.blockedSuppressors ++ res.blockedCaps) ↔
        ∀ id, id ∈ xs ↔ id ∈ res.blockedSuppressors ++ res.blockedCaps := by
    intro xs
    constructor
    · intro heq id
      have hmem : id ∈ sortedUnique (sortedUnique xs) ↔ id ∈ xs :=
        mem_sortedUnique.trans mem_sortedUnique
      rw [← hmem, heq, mem_sortedUnique]
    · intro hmem
      exact sortedUnique_congr fun id => mem_sortedUnique.trans (hmem id)
  unfold crossCheckBlocked
  cases hs : r.suppression with
  | none =>
    have hnil : exposedBlocked r = [] := by rw [exposedBlocked, hs]; rfl
    simp only [RuleResult.canonical, hs, Option.map_none, true_iff]
    exact hnone hnil
  | some s =>
    have hlist : exposedBlocked r = s.blockedSuppressors := by rw [exposedBlocked, hs]; rfl
    simp only [RuleResult.canonical, hs, Option.map_some]
    split_ifs with hnil heq
    · simp only [true_iff]
      apply hnone
      rw [hlist, List.eq_nil_iff_forall_not_mem]
      intro id hid
      rw [← mem_sortedUnique, hnil] at hid
      cases hid
    · simp only [true_iff]
      exact hlist ▸ (hsorted _).mp heq
    · simp only [false_iff]
      exact fun hagree => heq ((hsorted _).mpr (hlist ▸ hagree))

/-! ### A match through both stages -/

/-- Every override in force names what it blocks, and that is flagged as blockable. -/
def BlocksFlagged (rk : RuntimeKnowledge) (gate : Level) (ctx : Context) (rule : Rule) : Prop :=
  ∀ o ∈ rk.overrides, overrideApplies o rule = true →
    evalCondition (truthOf (rawPositive rk gate ctx)) o.condition = .ok .TRUE →
      ∃ categories, o.blocksSuppressionCategories = some categories ∧ "" ∉ categories ∧
        ∀ id ∈ matchedNegative rk gate ctx rule.categories, ∀ neg,
          rk.negativeIndicator id = some neg → IsSoft neg → isIn neg.category categories = true →
            neg.blockableByOverrides = .bool true

/-- What the second stage checks of a match apart from the overrides: its base severity and the
governed metadata of its negatives. -/
structure Sound (rk : RuntimeKnowledge) (r : RuleResult) : Prop where
  severity : ∃ base, r.effectiveSeverity.bind Severity.ofJson? = some base
  negatives : ∀ id ∈ r.matchedNegativeIndicators, ∃ o, outcomeOf rk r.ruleId [] id = .ok o

/-- The second stage resolves the negatives, and blocks those the evaluator listed. -/
def BlockedAgree (rk : RuntimeKnowledge) (r : RuleResult) : Prop :=
  ∃ blocked res, blockedCategories rk r.canonical.activeOverrides = .ok blocked ∧
    resolve rk r.ruleId blocked r.canonical.matchedNegativeIndicators = .ok res ∧
    ∀ id, id ∈ exposedBlocked r ↔ id ∈ res.blockedSuppressors ++ res.blockedCaps

lemma blockedBy_total {o : Override} (h : rk.override o.id = some o) :
    (∃ categories, blockedBy rk o.id = .ok categories) ↔
      ∃ categories, o.blocksSuppressionCategories = some categories ∧ "" ∉ categories := by
  simp only [blockedBy, h]
  cases o.blocksSuppressionCategories with
  | none => simp
  | some categories =>
    simp only [Option.some.injEq, exists_eq_left']
    split_ifs with hempty
    · simp [hempty]
    · simp [hempty]

lemma blockedCategories_total_iff {ids : List String} :
    (∃ categories, blockedCategories rk ids = .ok categories) ↔
      ∀ id ∈ ids, ∃ categories, blockedBy rk id = .ok categories := by
  constructor
  · rintro ⟨categories, h⟩
    induction ids generalizing categories with
    | nil => simp
    | cons id rest ih =>
      obtain ⟨here, hhere, h⟩ := bind_ok h
      obtain ⟨more, hmore, -⟩ := bind_ok h
      exact List.forall_mem_cons.mpr ⟨⟨here, hhere⟩, ih more hmore⟩
  · exact exists_blockedCategories

lemma isIn_flatMap {x : Option String} {overrides : List Override} :
    isIn x (Evaluator.blockedCategories overrides) = true ↔
      ∃ o ∈ overrides, isIn x (o.blocksSuppressionCategories.getD []) = true := by
  cases x with
  | none => simp [isIn]
  | some c => simp [isIn, Evaluator.blockedCategories]

/-- The condition, over the overrides the evaluator found active. -/
lemma blocksFlagged_iff {overrides : List Override} {r : RuleResult}
    (hover : activeOverrides rk rule (truthOf (rawPositive rk gate ctx)) = .ok overrides)
    (hexp : Exposes rk r overrides)
    (hnegs : r.matchedNegativeIndicators = matchedNegative rk gate ctx rule.categories) :
    BlocksFlagged rk gate ctx rule ↔
      (∃ blocked, blockedCategories rk r.canonical.activeOverrides = .ok blocked) ∧
        Flagged rk r overrides := by
  have hids : ∀ id, id ∈ r.canonical.activeOverrides ↔ ∃ o ∈ overrides, o.id = id := by
    intro id
    show id ∈ sortedUnique r.activeOverrides ↔ _
    rw [mem_sortedUnique, hexp.overrides_eq, List.mem_map]
  rw [blockedCategories_total_iff]
  constructor
  · intro h
    constructor
    · intro id hid
      obtain ⟨o, ho, rfl⟩ := (hids id).mp hid
      obtain ⟨hmem, happlies, hholds⟩ := (mem_activeOverrides hover o).mp ho
      obtain ⟨categories, hcs, hne, -⟩ := h o hmem happlies hholds
      exact (blockedBy_total (hexp.registered o ho)).mpr ⟨categories, hcs, hne⟩
    · intro id hid neg hneg hsoft hin
      obtain ⟨o, ho, hc⟩ := isIn_flatMap.mp hin
      obtain ⟨hmem, happlies, hholds⟩ := (mem_activeOverrides hover o).mp ho
      obtain ⟨categories, hcs, -, hflag⟩ := h o hmem happlies hholds
      rw [hcs] at hc
      exact hflag id (hnegs ▸ hid) neg hneg hsoft hc
  · rintro ⟨hblocks, hflagged⟩ o hmem happlies hholds
    have ho := (mem_activeOverrides hover o).mpr ⟨hmem, happlies, hholds⟩
    obtain ⟨categories, hcs, hne⟩ :=
      (blockedBy_total (hexp.registered o ho)).mp (hblocks o.id ((hids o.id).mpr ⟨o, ho, rfl⟩))
    refine ⟨categories, hcs, hne, fun id hid neg hneg hsoft hin => ?_⟩
    refine hflagged id (hnegs ▸ hid) neg hneg hsoft (isIn_flatMap.mpr ⟨o, ho, ?_⟩)
    rw [hcs]
    exact hin

/-- What the evaluator leaves to the second stage of a matched composite. -/
structure Matched (rk : RuntimeKnowledge) (gate : Level) (ctx : Context) (rule : Rule)
    (r : RuleResult) (overrides : List Override) : Prop where
  active : activeOverrides rk rule (truthOf (rawPositive rk gate ctx)) = .ok overrides
  exposes : Exposes rk r overrides
  negatives : r.matchedNegativeIndicators = matchedNegative rk gate ctx rule.categories
  required : r.requiredCombinationResult = .TRUE

/-- A matched composite is the result of evaluating its rule. -/
lemma exists_matched {rs : List RuleResult} (hrs : evaluateRules rk gate ctx = .ok rs)
    (hmem : rule ∈ rk.rules) {r : RuleResult} (hr : r ∈ rs) (hid : r.ruleId = rule.id)
    (hk : r.kind = .COMPOSITE) (hm : r.evaluationState = .MATCHED) :
    ∃ overrides, Matched rk gate ctx rule r overrides := by
  have hs : r.evaluationState ≠ .NOT_APPLICABLE := by
    rw [hm]
    exact nofun
  obtain ⟨_, _, overrides, required, _, _, run, rfl⟩ := exists_compositeRun hrs hmem hr hid hk hs
  refine ⟨overrides, run.overrides_eq, exposes_compositeResult run.overrides_eq, ?_, ?_⟩
  · rw [compositeResult_same.matchedNegative]
    rfl
  · rw [compositeResult_same.evaluationState] at hm
    rw [compositeResult_same.required]
    exact (compositeState_eq_MATCHED.mp hm).1

/-- A sound match whose overrides block flagged negatives only is resolved. -/
lemma Matched.exists_run {r : RuleResult} {overrides : List Override}
    (h : Matched rk gate ctx rule r overrides) (hsound : Sound rk r)
    (hflagged : BlocksFlagged rk gate ctx rule) :
    ∃ base blocked res, MatchedRun rk r base blocked res := by
  obtain ⟨⟨blocked, hblocked⟩, hflagged⟩ :=
    (blocksFlagged_iff h.active h.exposes h.negatives).mp hflagged
  obtain ⟨base, hbase⟩ := hsound.severity
  obtain ⟨res, hres⟩ : ∃ res,
      resolve rk r.ruleId blocked r.canonical.matchedNegativeIndicators = .ok res := by
    apply exists_resolve
    intro id hid
    obtain ⟨o, ho⟩ := hsound.negatives id (mem_sortedUnique.mp hid)
    exact outcomeOf_total blocked ho
  have hcross := (crossCheck_iff h.exposes hblocked (resolve_ok hres)).mpr
    ((h.exposes.agree_iff hblocked (resolve_ok hres)).mpr hflagged)
  have hvalid : validateMatchedInput r.canonical = .ok base :=
    validateMatchedInput_ok.mpr ⟨h.required, hbase, not_preApplied h.exposes.suppression_eq⟩
  exact ⟨base, blocked, res, hvalid, hblocked, hres, hcross⟩

/-- A resolved match is sound, and its overrides block flagged negatives only. -/
lemma Matched.of_run {r : RuleResult} {overrides : List Override}
    (h : Matched rk gate ctx rule r overrides) {base : Severity} {blocked : List String}
    {res : Resolution} (run : MatchedRun rk r base blocked res) :
    Sound rk r ∧ BlocksFlagged rk gate ctx rule := by
  have hresolves := resolve_ok run.res_eq
  refine ⟨⟨⟨base, (validateMatchedInput_ok.mp run.base_eq).2.1⟩, ?_⟩, ?_⟩
  · intro id hid
    obtain ⟨o, ho⟩ := hresolves.total id (mem_sortedUnique.mpr hid)
    exact outcomeOf_total [] ho
  · rw [blocksFlagged_iff h.active h.exposes h.negatives]
    refine ⟨⟨blocked, run.blocked_eq⟩, (h.exposes.agree_iff run.blocked_eq hresolves).mp ?_⟩
    exact (crossCheck_iff h.exposes run.blocked_eq hresolves).mp run.cross_eq

/-- A sound match is resolved, and stands, exactly when the overrides in force block flagged
negatives only. -/
theorem blocked_lists_agree_iff (rk : RuntimeKnowledge) (profile : EvaluationProfile)
    {inds obs : List Json} {language script : String} {ctx : Context}
    (hctx : buildValidatedContext inds obs language script = .ok ctx) {rs : List RuleResult}
    (hrs : evaluateRulesFromGoverned rk profile inds obs language script = .ok rs) {rule : Rule}
    (hmem : rule ∈ rk.rules) {r : RuleResult} (hr : r ∈ rs) (hid : r.ruleId = rule.id)
    (hk : r.kind = .COMPOSITE) (hm : r.evaluationState = .MATCHED) (hsound : Sound rk r) :
    (BlockedAgree rk r ∧ (apply rk r).evaluationState ≠ .NOT_APPLICABLE) ↔
      BlocksFlagged rk profile.extractionConfidenceGate ctx rule := by
  obtain ⟨ctx', hctx', heval⟩ := evaluateRulesFromGoverned_ok hrs
  obtain rfl := Except.ok.inj (hctx'.symm.trans hctx)
  obtain ⟨overrides, h⟩ := exists_matched heval hmem hr hid hk hm
  constructor
  · rintro ⟨⟨blocked, res, hblocked, hres, hagree⟩, -⟩
    rw [blocksFlagged_iff h.active h.exposes h.negatives]
    exact ⟨⟨blocked, hblocked⟩, (h.exposes.agree_iff hblocked (resolve_ok hres)).mp hagree⟩
  · intro hflagged
    obtain ⟨base, blocked, res, run⟩ := h.exists_run hsound hflagged
    have hagree := (crossCheck_iff h.exposes run.blocked_eq (resolve_ok run.res_eq)).mp run.cross_eq
    refine ⟨⟨blocked, res, run.blocked_eq, run.res_eq, hagree⟩, ?_⟩
    rw [run.apply_eq hk hm, resolved_state (r := r.canonical) hm]
    split_ifs <;> exact nofun

/-! ### A warning that an override is to block -/

/-- The credential request of the small bundle, with a safety warning that cancels it and a
remote-access override that blocks such warnings. -/
def warningKnowledge (flagged : Bool) : RuntimeKnowledge :=
  { sampleKnowledge with
    negatives := [⟨"BANK_WARNING", ["*"], some "SUPPRESS_RULE", some "BENIGN", [], .bool flagged,
      none⟩]
    overrides := [⟨"HR_REMOTE", .str "REMOTE_ACCESS", ["TL-OTP-001"], [], some ["BENIGN"]⟩]
    negatives_nodup := by simp
    overrides_nodup := by simp
    polarity_disjoint := by simp [sampleKnowledge] }

def warningInd : Json :=
  .obj [("indicator_id", .str "BANK_WARNING"), ("polarity", .str "NEGATIVE"),
    ("matched", .str "OBSERVED"), ("confidence", .obj [("level", .str "HIGH")]),
    ("observation_refs", .arr [.str "o-1"]), ("input_id", .str "in-1"),
    ("provenance", sampleProvenance)]

def warningInds : List Json :=
  [sampleIndicator "OTP_REQUEST" "o-1", sampleIndicator "URGENCY" "o-1",
    sampleIndicator "REMOTE_ACCESS" "o-1", warningInd]

def warningObs : List Json := [sampleObservation "o-1" "DIRECTIVE"]

def warningResults (flagged : Bool) : List RuleResult :=
  resultsOf (evaluateRulesFromGoverned (warningKnowledge flagged) {} warningInds warningObs "en"
    "Latn")

/-- Without the flag the match is lost to the disagreement. -/
theorem unflagged_warning_hides_match :
    (warningResults false).map (fun r =>
      (r.evaluationState, exposedBlocked r, (apply (warningKnowledge false) r).evaluationState,
        (apply (warningKnowledge false) r).evaluationError)) =
      [(.MATCHED, ["BANK_WARNING"], .NOT_APPLICABLE,
        some ⟨.SUPPRESSION_EXECUTION_ERROR, .suppression (.blockedDisagree "TL-OTP-001")⟩)] := by
  decide +kernel

/-- The equivalence on the bundle with the flag, where the match stands. -/
theorem blocked_lists_agree_iff_sample :
    warningResults true ≠ [] ∧
      ∀ ctx, buildValidatedContext warningInds warningObs "en" "Latn" = .ok ctx →
        ∀ r ∈ warningResults true,
          (BlockedAgree (warningKnowledge true) r ∧
            (apply (warningKnowledge true) r).evaluationState ≠ .NOT_APPLICABLE) ↔
          BlocksFlagged (warningKnowledge true) .MEDIUM ctx sampleRule := by
  have hne : warningResults true ≠ [] := by decide +kernel
  have hresults : ∀ r ∈ warningResults true, r.ruleId = sampleRule.id ∧ r.kind = .COMPOSITE ∧
      r.evaluationState = .MATCHED ∧ (r.effectiveSeverity.bind Severity.ofJson?).isSome = true ∧
      ∀ id ∈ r.matchedNegativeIndicators,
        (outcomeOf (warningKnowledge true) r.ruleId [] id).toOption.isSome = true := by
    decide +kernel
  refine ⟨hne, fun ctx hctx r hr => ?_⟩
  obtain ⟨hid, hk, hm, hsev, hnegs⟩ := hresults r hr
  have hsound : Sound (warningKnowledge true) r := by
    refine ⟨Option.isSome_iff_exists.mp hsev, fun id hmem => ?_⟩
    obtain ⟨o, ho⟩ := Option.isSome_iff_exists.mp (hnegs id hmem)
    exact ⟨o, eq_ok_of_toOption ho⟩
  exact blocked_lists_agree_iff (warningKnowledge true) {} hctx (eq_ok_of_resultsOf hne)
    List.mem_cons_self hr hid hk hm hsound

end TrustLens.Runtime.SuppressionExecutor
