import TrustLens.Validation.DeadRules
import TrustLens.Validation.SatisfyingSets

/-!
# The gate of the linter and the gate of the evaluator

The linter checks the classes and the strengths of every enumerated set, the evaluator those of
the indicators that are TRUE. The enumeration is exact, so the one check covers the other, up
to the bounds it cannot read and to a class without a name, which only the linter counts.
-/

namespace TrustLens.Validation

open TrustLens.Runtime (Context EvaluationProfile EvaluationState Indicator Level RuleResult
  RuntimeKnowledge Rule buildValidatedContext pyInt)
open TrustLens.Runtime.Condition (evalCondition evalCondition_of_parse grounded_of_schema
  indicatorId_of_schema operandSchema parse)
open TrustLens.Runtime.Evaluator (CompositeRun Readable Realizes compositeResult compositeResult_same
  compositeState_eq_MATCHED conditionSchema evaluateComposite_ok evidenceClasses exists_context
  exists_in_scope kindOf logicOf logicSchema matchedPositive nonEmpty? readable_of_schema
  requireOf_eq ruleSchema runIsolated runIsolated_ok runRule_ok scopeCheck suppressedPositive
  trueOperands truthOf)

variable {data : ReferenceData} {authored : AuthoredRule}

/-! ### What the gates say -/

/-- The operands of the set are TRUE, the others FALSE, and the condition is TRUE. -/
def Satisfies (require : Json) (T : Finset String) : Prop :=
  (∃ ids, operands require = .ok ids ∧ ∀ id ∈ T, id ∈ ids) ∧
    evalCondition (fun id => if id ∈ T then .TRUE else .FALSE) require = .ok .TRUE

/-- The set spans fewer classes than the rule declares. -/
def Narrow (data : ReferenceData) (authored : AuthoredRule) (T : Finset String) : Prop :=
  ∃ n, pyInt (need authored) = .ok n ∧ ((classesOf data T).card : ℤ) < n

def AllWeak (data : ReferenceData) (T : Finset String) : Prop :=
  ∀ id ∈ T, ∃ i, find id data.indicators = some i ∧ i.strength = WEAK

/-- The linter reports a keyword matcher exactly when the rule is one. -/
def LintExact (data : ReferenceData) (authored : AuthoredRule) : Prop :=
  ∃ errs, lint data authored = .ok errs ∧
    ((∃ e ∈ errs, e.isClassError = true) ↔
      ∃ T, Satisfies (require authored) T ∧ Narrow data authored T) ∧
    ((∃ e ∈ errs, e.isWeakError = true) ↔ ∃ T, Satisfies (require authored) T ∧ AllWeak data T)

/-- The knowledge has the records of the registry for the operands. -/
def SameRegistry (data : ReferenceData) (rk : RuntimeKnowledge) (ids : List String) : Prop :=
  ∀ id ∈ ids, ∀ i, find id data.indicators = some i →
    rk.indicator id = some ⟨id, some i.evidenceClass, some i.strength⟩

/-- A rule the linter accepts is stopped by no class gate, and matches on no weak indicators alone. -/
def RuntimeGate (data : ReferenceData) (authored : AuthoredRule) : Prop :=
  lint data authored = .ok [] → ∀ ids, operands (require authored) = .ok ids →
    ∀ rk, SameRegistry data rk ids → ∀ (gate : Level) (inds obs : List Json) (language script : String)
      (ctx : Context), buildValidatedContext inds obs language script = .ok ctx →
      ∀ r, runIsolated rk gate ctx authored.rule = .ok r →
        ¬(r.evaluationState = .NOT_MATCHED ∧ r.requiredCombinationResult = .TRUE) ∧
        (r.evaluationState = .MATCHED → ∃ id ∈ r.matchedPositiveIndicators,
          ∀ i, find id data.indicators = some i → i.strength ≠ WEAK)

/-- What the linter finds besides keyword matchers. -/
def otherErrors (data : ReferenceData) (authored : AuthoredRule) (triggers : List String) :
    List LintError :=
  idErrors data authored triggers ++ taxonomyErrors data authored ++
    authored.citations.flatMap (sourceErrors data) ++ verdictErrors data authored ++
    reviewErrors authored ++ scopeErrors data authored ++
    (authored.citations.flatMap fun ref =>
      (ref.manualRetrieval.map (manualErrors data authored ref)).getD []) ++
    publicationErrors authored

/-- The class minimum is not reached by a class without a name: where the linter finds nothing
else, every satisfying set spans the minimum and none is weak alone, every one spans it in
named classes. -/
def NamedSuffice (data : ReferenceData) (authored : AuthoredRule) : Prop :=
  (∀ ids, operands (require authored) = .ok ids → otherErrors data authored ids = []) →
  (∀ T, Satisfies (require authored) T → ¬Narrow data authored T ∧ ¬AllWeak data T) →
    ∀ T, Satisfies (require authored) T → ∀ n, pyInt (need authored) = .ok n →
      n ≤ (((classesOf data T).erase "").card : ℤ)

/-! ### A composite under its schema -/

/-- What the schema and the registry make of a composite rule. -/
structure Governed (data : ReferenceData) (authored : AuthoredRule) (f : Formula String) (n : ℤ) :
    Prop where
  composite : authored.rule.kind = some "COMPOSITE"
  schema : ruleSchema authored.rule = true
  parse_eq : parse (require authored) = some f
  grounded : f.Grounded
  need_eq : pyInt (need authored) = .ok n
  atoms : ∀ id ∈ f.atoms, Runtime.Condition.indicatorId id = true
  below : ∀ count, countBelow count (need authored) = .ok (decide ((count : ℤ) < n))
  found : ∀ id ∈ f.atoms, ∃ i, find id data.indicators = some i

lemma countBelow_of_schema {c : Json} (h : Schema.integerFrom 2 c = true) :
    ∃ n, pyInt c = .ok n ∧ ∀ count, countBelow count c = .ok (decide ((count : ℤ) < n)) := by
  cases c with
  | int n => exact ⟨n, rfl, fun _ => rfl⟩
  | float x =>
    cases x with
    | finite q =>
      simp only [Schema.integerFrom, PyFloat.toInt?] at h
      split_ifs at h with hden
      · have hq : q = (q.num : ℚ) := (Rat.den_eq_one_iff q).mp hden |>.symm
        refine ⟨q.num, ?_, fun count => ?_⟩
        · rw [pyInt, hden]
          exact congrArg _ (Int.tdiv_one _)
        · rw [countBelow]
          refine congrArg _ (decide_eq_decide.mpr ?_)
          rw [hq]
          exact_mod_cast Iff.rfl
    | negZero =>
      simp only [Schema.integerFrom, PyFloat.toInt?] at h
      exact absurd h (by decide)
    | inf | negInf | nan => cases h
  | null | bool | str | arr | obj => cases h

lemma governed_of_schema (hk : authored.rule.kind = some "COMPOSITE")
    (hschema : ruleSchema authored.rule = true)
    (hfound : ∀ ids, operands (require authored) = .ok ids → ∀ id ∈ ids,
      ∃ i, find id data.indicators = some i) : ∃ f n, Governed data authored f n := by
  have hvalid := hschema
  simp only [ruleSchema, Bool.and_eq_true, hk] at hvalid
  obtain ⟨⟨⟨⟨⟨-, hlogic⟩, -⟩, -⟩, -⟩, -⟩ := hvalid
  obtain ⟨logic, hl, hlogic⟩ := Runtime.Evaluator.exists_of_any hlogic
  obtain ⟨entries, rfl⟩ := Schema.exists_obj_of_object hlogic
  obtain ⟨c, hc, hcondition⟩ := Schema.value_of_object hlogic (show "require" ∈ _ by decide) rfl
  obtain ⟨least, hleast, hinteger⟩ :=
    Schema.value_of_object hlogic (show "min_evidence_classes" ∈ _ by decide) rfl
  have hrequire : require authored = c := by
    rw [require, logicGet, hl, Option.getD_some, Json.get?, hc, Option.getD_some]
  have hneed : need authored = least := by
    rw [need, logicGet, hl, Option.getD_some, Json.get?, hleast, Option.getD_some]
  have hoperand : operandSchema c = true := by
    cases c with
    | obj entries => exact hcondition
    | null | bool | int | float | str | arr => cases hcondition
  obtain ⟨f, hf⟩ := Runtime.Condition.parse_of_operandSchema c hoperand
  obtain ⟨n, hn, hbelow⟩ := countBelow_of_schema hinteger
  rw [hrequire, operands_of_parse c f hf] at hfound
  exact ⟨f, n, hk, hschema, hrequire ▸ hf, grounded_of_schema c f hf hoperand, hneed ▸ hn,
    indicatorId_of_schema c f hf hoperand, hneed ▸ hbelow, hfound f.atoms rfl⟩

section Sets

variable {f : Formula String} {n : ℤ}

lemma eval_eq_TRUE_iff_holds (v : String → Truth) (f : Formula String) :
    f.eval v = .TRUE ↔ f.holds (fun id => (v id).lo) = true := by
  rw [← Formula.lo_eval]
  cases f.eval v <;> decide

lemma Governed.satisfies_iff (h : Governed data authored f n) (T : Finset String) :
    Satisfies (require authored) T ↔
      (∀ id ∈ T, id ∈ f.atoms) ∧ f.holds (fun id => decide (id ∈ T)) = true := by
  rw [Satisfies, operands_of_parse _ f h.parse_eq, evalCondition_of_parse _ _ f h.parse_eq]
  simp only [Except.ok.injEq, exists_eq_left', eval_eq_TRUE_iff_holds]
  refine and_congr_right fun _ => ?_
  have hlo : (fun id => (if id ∈ T then Truth.TRUE else Truth.FALSE).lo) =
      fun id => decide (id ∈ T) := by
    funext id
    split_ifs with hid <;> simp [hid, Truth.lo]
  rw [hlo]

/-- The enumerated sets satisfy the condition, and every satisfying set includes one. -/
lemma Governed.satisfies_of_mem (h : Governed data authored f n) {S : Finset String}
    (hS : S ∈ f.satisfying) : Satisfies (require authored) S :=
  (h.satisfies_iff S).mpr ⟨fun _ hid => List.mem_toFinset.mp (Formula.subset_atoms f S hS hid),
    Formula.holds_of_mem_satisfying hS⟩

lemma Governed.exists_subset (h : Governed data authored f n) {T : Finset String}
    (hT : Satisfies (require authored) T) : ∃ S ∈ f.satisfying, S ⊆ T :=
  (Formula.exists_satisfying_iff T f).mpr ((h.satisfies_iff T).mp hT).2

lemma mem_classesOf {S : Finset String} {c : String} : c ∈ classesOf data S ↔
    ∃ id ∈ S, ∃ i, find id data.indicators = some i ∧ i.evidenceClass = c := by
  simp only [classesOf, resolved, List.mem_toFinset, List.mem_map, List.mem_filterMap, mem_sorted]
  constructor
  · rintro ⟨i, ⟨id, hid, hi⟩, rfl⟩
    exact ⟨id, hid, i, hi, rfl⟩
  · rintro ⟨id, hid, i, hi, rfl⟩
    exact ⟨i, ⟨id, hid, hi⟩, rfl⟩

lemma classesOf_mono {S T : Finset String} (h : S ⊆ T) : classesOf data S ⊆ classesOf data T := by
  intro c hc
  obtain ⟨id, hid, hi⟩ := mem_classesOf.mp hc
  exact mem_classesOf.mpr ⟨id, h hid, hi⟩

lemma Narrow.anti {S T : Finset String} (h : Narrow data authored T) (hsub : S ⊆ T) :
    Narrow data authored S := by
  obtain ⟨n, hn, hlt⟩ := h
  exact ⟨n, hn, (Int.ofNat_le.mpr (Finset.card_le_card (classesOf_mono hsub))).trans_lt hlt⟩

lemma AllWeak.anti {S T : Finset String} (h : AllWeak data T) (hsub : S ⊆ T) : AllWeak data S :=
  fun id hid => h id (hsub hid)

lemma Governed.narrow_iff (h : Governed data authored f n) (T : Finset String) :
    Narrow data authored T ↔ ((classesOf data T).card : ℤ) < n := by
  rw [Narrow, h.need_eq]
  simp only [Except.ok.injEq, exists_eq_left']

/-! ### The errors of the enumeration -/

lemma length_resolved {S : Finset String} (h : ∀ id ∈ S, ∃ i, find id data.indicators = some i) :
    (resolved data S).length = S.card := by
  rw [← length_sorted S, resolved, List.length_filterMap_eq_countP, List.countP_eq_length]
  intro id hid
  exact Option.isSome_iff_exists.mpr (h id (mem_sorted.mp hid))

lemma weak_iff {S : Finset String} (h : ∀ id ∈ S, ∃ i, find id data.indicators = some i) :
    (resolved data S ≠ [] ∧ ∀ i ∈ resolved data S, i.strength = WEAK) ↔
      S.Nonempty ∧ AllWeak data S := by
  refine and_congr ?_ ?_
  · rw [← List.length_pos_iff, length_resolved h, Finset.card_pos]
  · simp only [resolved, List.mem_filterMap, mem_sorted, forall_exists_index, and_imp, AllWeak]
    constructor
    · intro hall id hid
      obtain ⟨i, hi⟩ := h id hid
      exact ⟨i, hi, hall i id hid hi⟩
    · intro hall i id hid hi
      obtain ⟨i', hi', hweak⟩ := hall id hid
      rw [Option.some.inj (hi.symm.trans hi')]
      exact hweak

/-- What the two checks on a set report. -/
def reports (data : ReferenceData) (authored : AuthoredRule) (n : ℤ) (S : Finset String) :
    List LintError :=
  (if ((classesOf data S).card : ℤ) < n then
    [.tooFewClasses (sorted S) (sorted (classesOf data S)) (need authored)] else []) ++
  (if resolved data S ≠ [] ∧ ∀ i ∈ resolved data S, i.strength = WEAK then
    [.weakAlone (sorted S)] else [])

lemma Governed.found_of_mem (h : Governed data authored f n) {S : Finset String}
    (hS : S ∈ f.satisfying) : ∀ id ∈ S, ∃ i, find id data.indicators = some i :=
  fun id hid => h.found id (List.mem_toFinset.mp (Formula.subset_atoms f S hS hid))

lemma Governed.pathErrors_eq (h : Governed data authored f n) {S : Finset String}
    (hS : S ∈ f.satisfying) : pathErrors data authored S = .ok (reports data authored n S) := by
  rw [pathErrors, if_neg (not_not.mpr (length_resolved (h.found_of_mem hS))), h.below, reports]
  simp only [bind, Except.bind, pure, Except.pure, decide_eq_true_eq]

lemma exists_class_mem_reports {S : Finset String} :
    (∃ e ∈ reports data authored n S, e.isClassError = true) ↔
      ((classesOf data S).card : ℤ) < n := by
  unfold reports
  split_ifs <;> simp [LintError.isClassError, *]

lemma exists_weak_mem_reports {S : Finset String} :
    (∃ e ∈ reports data authored n S, e.isWeakError = true) ↔
      resolved data S ≠ [] ∧ ∀ i ∈ resolved data S, i.strength = WEAK := by
  unfold reports
  split_ifs <;> simp_all [LintError.isWeakError]

lemma mem_reports {S : Finset String} :
    ∀ e ∈ reports data authored n S, e.isClassError = true ∨ e.isWeakError = true := by
  intro e he
  simp only [reports, List.mem_append, List.mem_ite_nil_right, List.mem_singleton] at he
  rcases he with ⟨-, rfl⟩ | ⟨-, rfl⟩
  · exact .inl rfl
  · exact .inr rfl

lemma Governed.keywordErrors_returns (h : Governed data authored f n) :
    Returns (keywordErrors data authored) (Counted (require authored))
      (f.satisfying.flatMap (reports data authored n)) := by
  have hnull : require authored ≠ .null := by
    intro hnull
    have hparse := h.parse_eq
    rw [hnull] at hparse
    cases hparse
  rw [keywordErrors, if_pos ⟨h.composite, hnull⟩]
  have hpaths : Returns (f.satisfying.mapM (pathErrors data authored)) True
      (f.satisfying.map (reports data authored n)) :=
    (Returns.mapM fun S hS => .inl ⟨trivial, h.pathErrors_eq hS⟩).congr
      (iff_of_true (fun _ _ => trivial) trivial)
  refine ((satisfyingSets_returns _ f h.parse_eq).bind fun _ => hpaths.bind
    (f := fun errs => .ok errs.flatten) fun _ => ?_).congr (by rw [and_true, and_true])
  rw [List.flatMap_def]
  exact .ok _

lemma Governed.lint_returns (h : Governed data authored f n) :
    Returns (lint data authored) (Counted (require authored))
      (idErrors data authored f.atoms ++ f.satisfying.flatMap (reports data authored n) ++
        taxonomyErrors data authored ++ authored.citations.flatMap (sourceErrors data) ++
        verdictErrors data authored ++ reviewErrors authored ++ scopeErrors data authored ++
        (authored.citations.flatMap fun ref =>
          (ref.manualRetrieval.map (manualErrors data authored ref)).getD []) ++
        publicationErrors authored) := by
  rw [lint, operands_of_parse _ f h.parse_eq]
  refine Returns.congr (h.keywordErrors_returns.bind
    (f := fun paths => .ok (idErrors data authored f.atoms ++ paths ++ taxonomyErrors data authored ++
      authored.citations.flatMap (sourceErrors data) ++ verdictErrors data authored ++
      reviewErrors authored ++ scopeErrors data authored ++
      (authored.citations.flatMap fun ref =>
        (ref.manualRetrieval.map (manualErrors data authored ref)).getD []) ++
      publicationErrors authored)) fun _ => .ok _) (by rw [and_true])

/-- An error is one of the enumeration or one of the other checks. -/
lemma Governed.mem_lint (h : Governed data authored f n) {errs : List LintError}
    (herrs : lint data authored = .ok errs) (e : LintError) :
    e ∈ errs ↔ e ∈ otherErrors data authored f.atoms ∨
      ∃ S ∈ f.satisfying, e ∈ reports data authored n S := by
  rw [h.lint_returns.eq_of_ok herrs]
  simp only [otherErrors, List.mem_append, ← List.mem_flatMap]
  tauto

/-! ### The other checks -/

/-- An error that is no keyword matcher. -/
def IsOther (e : LintError) : Prop := e.isClassError = false ∧ e.isWeakError = false

lemma isOther_of_citation (ref : Citation) : ∀ e ∈ sourceErrors data ref, IsOther e := by
  intro e he
  unfold sourceErrors at he
  split at he
  · obtain rfl := List.mem_singleton.mp he
    exact ⟨rfl, rfl⟩
  · simp only [List.mem_append, List.mem_ite_nil_right, List.mem_singleton] at he
    rcases he with (⟨-, rfl⟩ | ⟨-, rfl⟩) | ⟨-, rfl⟩ <;> exact ⟨rfl, rfl⟩

lemma isOther_of_manual (ref : Citation) (mr : ManualRetrieval) :
    ∀ e ∈ manualErrors data authored ref mr, IsOther e := by
  intro e he
  simp only [manualErrors, List.mem_append] at he
  rcases he with ((he | he) | he) | he
  · obtain ⟨id, -, he⟩ := List.mem_filterMap.mp he
    split at he
    · obtain rfl := Option.some.inj he
      exact ⟨rfl, rfl⟩
    · split_ifs at he
      obtain rfl := Option.some.inj he
      exact ⟨rfl, rfl⟩
  · split at he
    · obtain rfl := List.mem_singleton.mp he
      exact ⟨rfl, rfl⟩
    · simp only [List.mem_append, List.mem_ite_nil_right, List.mem_singleton] at he
      rcases he with ⟨-, rfl⟩ | ⟨-, rfl⟩ <;> exact ⟨rfl, rfl⟩
  · split_ifs at he
    · obtain ⟨id, -, he⟩ := List.mem_filterMap.mp he
      split_ifs at he
      obtain rfl := Option.some.inj he
      exact ⟨rfl, rfl⟩
    · cases he
  · split_ifs at he
    · obtain rfl := List.mem_singleton.mp he
      exact ⟨rfl, rfl⟩
    · cases he

lemma isOther_of_id {ids : List String} : ∀ e ∈ idErrors data authored ids, IsOther e := by
  intro e he
  simp only [idErrors, List.mem_append] at he
  rcases he with ((he | he) | he) | he
  · obtain ⟨id, -, rfl⟩ := List.mem_map.mp he
    exact ⟨rfl, rfl⟩
  · obtain ⟨id, -, rfl⟩ := List.mem_map.mp he
    exact ⟨rfl, rfl⟩
  · obtain ⟨id, -, he⟩ := List.mem_filterMap.mp he
    obtain ⟨i, -, he⟩ := Option.bind_eq_some_iff.mp he
    obtain ⟨-, he⟩ := Option.ite_none_right_eq_some.mp he
    obtain rfl := Option.some.inj he
    exact ⟨rfl, rfl⟩
  · obtain ⟨id, -, rfl⟩ := List.mem_map.mp he
    exact ⟨rfl, rfl⟩

lemma isOther_of_verdict : ∀ e ∈ verdictErrors data authored, IsOther e := by
  intro e he
  unfold verdictErrors at he
  split at he
  · split at he
    · split_ifs at he
      · obtain rfl := List.mem_singleton.mp he
        exact ⟨rfl, rfl⟩
      · cases he
    · cases he
  · cases he

lemma isOther_of_publication : ∀ e ∈ publicationErrors authored, IsOther e := by
  intro e he
  simp only [publicationErrors] at he
  split at he
  · simp only [List.mem_ite_nil_right, List.mem_append, List.mem_singleton] at he
    rcases he with ⟨-, ⟨-, rfl⟩ | ⟨-, rfl⟩⟩ <;> exact ⟨rfl, rfl⟩
  · cases he

/-- The other checks report no keyword matcher. -/
lemma isOther_of_mem {ids : List String} : ∀ e ∈ otherErrors data authored ids, IsOther e := by
  intro e he
  simp only [otherErrors, List.mem_append, List.mem_flatMap] at he
  rcases he with ((((((he | he) | ⟨ref, -, he⟩) | he) | he) | he) | ⟨ref, -, he⟩) | he
  · exact isOther_of_id e he
  · obtain ⟨t, -, rfl⟩ := List.mem_map.mp he
    exact ⟨rfl, rfl⟩
  · exact isOther_of_citation ref e he
  · exact isOther_of_verdict e he
  · unfold reviewErrors at he
    split at he
    · split_ifs at he
      · obtain rfl := List.mem_singleton.mp he
        exact ⟨rfl, rfl⟩
      · cases he
    · cases he
  · obtain ⟨t, -, rfl⟩ := List.mem_map.mp he
    exact ⟨rfl, rfl⟩
  · cases hmr : ref.manualRetrieval with
    | none =>
      rw [hmr] at he
      cases he
    | some mr =>
      rw [hmr] at he
      exact isOther_of_manual ref mr e he
  · exact isOther_of_publication e he

/-! ### What the linter reports -/

/-- An error of the two kinds comes of the enumeration. -/
lemma Governed.exists_mem_lint (h : Governed data authored f n) {errs : List LintError}
    (herrs : lint data authored = .ok errs) {kind : LintError → Bool}
    (hother : ∀ e, IsOther e → kind e = false) : (∃ e ∈ errs, kind e = true) ↔
      ∃ S ∈ f.satisfying, ∃ e ∈ reports data authored n S, kind e = true := by
  constructor
  · rintro ⟨e, he, hkind⟩
    rcases (h.mem_lint herrs e).mp he with he | ⟨S, hS, he⟩
    · rw [hother e (isOther_of_mem e he)] at hkind
      cases hkind
    · exact ⟨S, hS, e, he, hkind⟩
  · rintro ⟨S, hS, e, he, hkind⟩
    exact ⟨e, (h.mem_lint herrs e).mpr (.inr ⟨S, hS, he⟩), hkind⟩

lemma Governed.exists_narrow_iff (h : Governed data authored f n) {errs : List LintError}
    (herrs : lint data authored = .ok errs) : (∃ e ∈ errs, e.isClassError = true) ↔
      ∃ T, Satisfies (require authored) T ∧ Narrow data authored T := by
  rw [h.exists_mem_lint herrs fun e he => he.1]
  simp only [exists_class_mem_reports, ← h.narrow_iff]
  constructor
  · rintro ⟨S, hS, hnarrow⟩
    exact ⟨S, h.satisfies_of_mem hS, hnarrow⟩
  · rintro ⟨T, hT, hnarrow⟩
    obtain ⟨S, hS, hsub⟩ := h.exists_subset hT
    exact ⟨S, hS, hnarrow.anti hsub⟩

/-- The empty set satisfies no condition that is not vacuous. -/
lemma Governed.nonempty_of_mem (h : Governed data authored f n) {S : Finset String}
    (hS : S ∈ f.satisfying) : S.Nonempty := by
  rw [Finset.nonempty_iff_ne_empty]
  rintro rfl
  have hholds := Formula.holds_of_mem_satisfying hS
  have hempty : (fun id : String => decide (id ∈ (∅ : Finset String))) = fun _ => false :=
    funext fun id => decide_eq_false (Finset.notMem_empty id)
  rw [hempty, h.grounded.not_holds] at hholds
  cases hholds

lemma Governed.exists_allWeak_iff (h : Governed data authored f n) {errs : List LintError}
    (herrs : lint data authored = .ok errs) : (∃ e ∈ errs, e.isWeakError = true) ↔
      ∃ T, Satisfies (require authored) T ∧ AllWeak data T := by
  rw [h.exists_mem_lint herrs fun e he => he.2]
  simp only [exists_weak_mem_reports]
  constructor
  · rintro ⟨S, hS, hweak⟩
    exact ⟨S, h.satisfies_of_mem hS, ((weak_iff (h.found_of_mem hS)).mp hweak).2⟩
  · rintro ⟨T, hT, hweak⟩
    obtain ⟨S, hS, hsub⟩ := h.exists_subset hT
    exact ⟨S, hS, (weak_iff (h.found_of_mem hS)).mpr ⟨h.nonempty_of_mem hS, hweak.anti hsub⟩⟩

/-- The reports are exact where the enumeration comes to its end. -/
theorem Governed.lintExact_iff (h : Governed data authored f n) :
    LintExact data authored ↔ Counted (require authored) := by
  rw [← h.lint_returns.exists_ok_iff]
  constructor
  · rintro ⟨errs, herrs, -⟩
    exact ⟨errs, herrs⟩
  · rintro ⟨errs, herrs⟩
    exact ⟨errs, herrs, h.exists_narrow_iff herrs, h.exists_allWeak_iff herrs⟩

/-- What a rule is that the linter accepts. -/
theorem Governed.accepts_iff (h : Governed data authored f n) :
    lint data authored = .ok [] ↔ Counted (require authored) ∧
      otherErrors data authored f.atoms = [] ∧
      ∀ T, Satisfies (require authored) T → ¬Narrow data authored T ∧ ¬AllWeak data T := by
  constructor
  · intro herrs
    refine ⟨h.lint_returns.exists_ok_iff.mp ⟨_, herrs⟩, ?_, fun T hT => ⟨fun hn => ?_, fun hw => ?_⟩⟩
    · refine List.eq_nil_iff_forall_not_mem.mpr fun e he => ?_
      exact List.not_mem_nil ((h.mem_lint herrs e).mpr (.inl he))
    · obtain ⟨e, he, -⟩ := (h.exists_narrow_iff herrs).mpr ⟨T, hT, hn⟩
      exact List.not_mem_nil he
    · obtain ⟨e, he, -⟩ := (h.exists_allWeak_iff herrs).mpr ⟨T, hT, hw⟩
      exact List.not_mem_nil he
  · rintro ⟨hcounted, hother, hsets⟩
    obtain ⟨errs, herrs⟩ := h.lint_returns.exists_ok_iff.mpr hcounted
    rw [herrs]
    refine congrArg _ (List.eq_nil_iff_forall_not_mem.mpr fun e he => ?_)
    rcases (h.mem_lint herrs e).mp he with ho | ⟨S, hS, hreport⟩
    · rw [hother] at ho
      exact List.not_mem_nil ho
    · rcases mem_reports e hreport with hclass | hweak
      · obtain ⟨T, hT, hn⟩ := (h.exists_narrow_iff herrs).mp ⟨e, he, hclass⟩
        exact (hsets T hT).1 hn
      · obtain ⟨T, hT, hw⟩ := (h.exists_allWeak_iff herrs).mp ⟨e, he, hweak⟩
        exact (hsets T hT).2 hw

/-! ### What the evaluator counts -/

section Evaluation

variable {rk : RuntimeKnowledge} {gate : Level} {ctx : Context}

/-- The evaluator counts the classes with a name. -/
lemma length_evidenceClasses {ids xs : List String} (hreg : SameRegistry data rk ids)
    (hfound : ∀ id ∈ ids, ∃ i, find id data.indicators = some i) (hxs : ∀ id ∈ xs, id ∈ ids) :
    (evidenceClasses rk xs).length = ((classesOf data xs.toFinset).erase "").card := by
  have hnodup : (evidenceClasses rk xs).Nodup := nodup_sortedUnique _
  rw [← List.toFinset_card_of_nodup hnodup]
  congr 1
  ext c
  simp only [evidenceClasses, List.mem_toFinset, mem_sortedUnique, List.mem_filterMap,
    Finset.mem_erase, mem_classesOf]
  constructor
  · rintro ⟨id, hid, hc⟩
    obtain ⟨i, hi⟩ := hfound id (hxs id hid)
    rw [hreg id (hxs id hid) i hi, Option.bind_some, nonEmpty?, Option.filter_eq_some_iff] at hc
    exact ⟨of_decide_eq_true hc.2, id, hid, i, hi, Option.some.inj hc.1⟩
  · rintro ⟨hne, id, hid, i, hi, rfl⟩
    refine ⟨id, hid, ?_⟩
    rw [hreg id (hxs id hid) i hi, Option.bind_some, nonEmpty?, Option.filter_eq_some_iff]
    exact ⟨rfl, decide_eq_true hne⟩

lemma isPositive_of_sameRegistry {ids : List String} (hreg : SameRegistry data rk ids)
    (hfound : ∀ id ∈ ids, ∃ i, find id data.indicators = some i) :
    ∀ id ∈ ids, rk.isPositive id = true := by
  intro id hid
  obtain ⟨i, hi⟩ := hfound id hid
  exact RuntimeKnowledge.isPositive_iff.mpr ⟨_, hreg id hid i hi⟩

lemma require_of_logic {logic : Json} (h : logicOf authored.rule = .ok logic) :
    require authored = logic.get "require" := by
  rw [require, logicGet, Runtime.Evaluator.requireOf_eq h]
  rfl

lemma need_of_logic {logic : Json} (h : logicOf authored.rule = .ok logic) :
    need authored = (logic.get? "min_evidence_classes").getD (.int 2) := by
  rw [need, logicGet, Runtime.Evaluator.requireOf_eq h]

/-- The TRUE operands satisfy a condition that is TRUE. -/
lemma Governed.satisfies_of_eval (h : Governed data authored f n) {truth : String → Truth}
    {T : Finset String} (hT : ∀ id, id ∈ T ↔ id ∈ f.atoms ∧ truth id = .TRUE)
    (heval : f.eval truth = .TRUE) : Satisfies (require authored) T := by
  refine (h.satisfies_iff T).mpr ⟨fun id hid => ((hT id).mp hid).1, ?_⟩
  rw [← (eval_eq_TRUE_iff_holds truth f).mp heval]
  refine Formula.holds_congr f fun id hid => ?_
  have hiff : id ∈ T ↔ (truth id).lo = true := by
    rw [hT, and_iff_right hid]
    cases truth id <;> decide
  exact Bool.eq_iff_iff.mpr (decide_eq_true_iff.trans hiff)

/-- What a run of the rule comes to, by the set of its TRUE operands. -/
lemma Governed.run_eq (h : Governed data authored f n) (hreg : SameRegistry data rk f.atoms)
    {r : RuleResult} (hr : runIsolated rk gate ctx authored.rule = .ok r) :
    r.evaluationState = .NOT_APPLICABLE ∨ ∃ T : Finset String,
      r.matchedPositiveIndicators.toFinset = T ∧
      (r.requiredCombinationResult = .TRUE → Satisfies (require authored) T) ∧
      (r.evaluationState = .MATCHED → r.requiredCombinationResult = .TRUE) ∧
      (r.evaluationState = .NOT_MATCHED → r.requiredCombinationResult = .TRUE →
        (((classesOf data T).erase "").card : ℤ) < n) := by
  have hkind : kindOf authored.rule = .COMPOSITE := by
    rw [kindOf, h.composite]
    rfl
  rcases runIsolated_ok hr with hrun | ⟨fault, -, rfl⟩
  · rcases runRule_ok hrun with ⟨-, rfl⟩ | ⟨-, hsup, -⟩ | ⟨-, -, hr⟩
    · exact .inl rfl
    · rw [hkind] at hsup
      cases hsup
    · right
      obtain ⟨logic, minClasses, overrides, required, ids, effective, run, rfl⟩ :=
        evaluateComposite_ok hr
      have hparse := h.parse_eq
      rw [require_of_logic run.logic_eq] at hparse
      obtain rfl : f.atoms = ids := Except.ok.inj
        ((Runtime.Condition.operands_of_parse _ f hparse).symm.trans run.operands_eq)
      obtain rfl : n = minClasses := by
        have hn := h.need_eq
        rw [need_of_logic run.logic_eq] at hn
        exact Except.ok.inj (hn.symm.trans run.minClasses_eq)
      have heval : f.eval (truthOf (suppressedPositive rk gate ctx authored.rule.categories
          overrides)) = required :=
        Except.ok.inj ((evalCondition_of_parse _ _ f hparse).symm.trans run.required_eq)
      have hpositive := isPositive_of_sameRegistry hreg h.found
      refine ⟨_, rfl, ?_, ?_, ?_⟩
      · rw [compositeResult_same.required, compositeResult_same.matchedPositive]
        rintro rfl
        refine h.satisfies_of_eval (fun id => ?_) heval
        simp only [Runtime.Evaluator.compositeBase, matchedPositive, List.mem_toFinset,
          List.mem_filter, mem_sortedUnique, beq_iff_eq]
        exact ⟨fun hid => ⟨hid.1.1, hid.2⟩, fun hid => ⟨⟨hid.1, hpositive id hid.1⟩, hid.2⟩⟩
      · rw [compositeResult_same.evaluationState, compositeResult_same.required]
        exact fun hstate => (compositeState_eq_MATCHED.mp hstate).1
      · rw [compositeResult_same.evaluationState, compositeResult_same.required,
          compositeResult_same.matchedPositive]
        intro hstate hrequired
        by_contra hle
        have hsub : ∀ id ∈ matchedPositive rk gate ctx authored.rule overrides f.atoms,
            id ∈ f.atoms := fun id hid => (Runtime.Evaluator.mem_matchedPositive.mp hid).1
        have hlen := length_evidenceClasses hreg h.found hsub
        have hmet : n ≤ ((evidenceClasses rk (matchedPositive rk gate ctx authored.rule overrides
            f.atoms)).length : ℤ) := by
          rw [hlen]
          exact not_lt.mp hle
        have hmatched := compositeState_eq_MATCHED.mpr ⟨hrequired, decide_eq_true hmet⟩
        cases hstate.symm.trans hmatched
  · exact .inl rfl

/-- A rule the linter accepts does not go wrong where its sets span the minimum in named classes. -/
theorem Governed.runtimeGate_of_named (h : Governed data authored f n)
    (hnamed : NamedSuffice data authored) : RuntimeGate data authored := by
  intro hlint ids hids rk hreg gate inds obs language script ctx _ r hr
  obtain ⟨-, hother, hsets⟩ := h.accepts_iff.mp hlint
  rw [operands_of_parse _ f h.parse_eq] at hids
  obtain rfl := Except.ok.inj hids
  have hspan : ∀ T, Satisfies (require authored) T →
      n ≤ (((classesOf data T).erase "").card : ℤ) := by
    refine fun T hT => hnamed (fun ids hids => ?_) hsets T hT n h.need_eq
    rw [operands_of_parse _ f h.parse_eq] at hids
    rw [← Except.ok.inj hids]
    exact hother
  rcases h.run_eq hreg hr with hstate | ⟨T, rfl, hsat, hmatched, hnotMatched⟩
  · rw [hstate]
    exact ⟨nofun, nofun⟩
  · refine ⟨fun hbad => ?_, fun hstate => ?_⟩
    · exact absurd (hspan _ (hsat hbad.2)) (not_le.mpr (hnotMatched hbad.1 hbad.2))
    · have hstrong := (hsets _ (hsat (hmatched hstate))).2
      simp only [AllWeak, not_forall, not_exists, not_and] at hstrong
      obtain ⟨id, hid, hweak⟩ := hstrong
      exact ⟨id, List.mem_toFinset.mp hid, hweak⟩

/-! ### The registry as knowledge -/

/-- Knowledge with the records of the registry for the ids of a list. -/
def registryKnowledge (data : ReferenceData) (rule : Rule) (ids : List String) : RuntimeKnowledge where
  rules := [rule]
  indicators := (sortedUnique ids).map fun id =>
    ⟨id, (find id data.indicators).map RegistryIndicator.evidenceClass,
      (find id data.indicators).map RegistryIndicator.strength⟩
  negatives := []
  overrides := []
  taxonomy := []
  actionPolicy := []
  bundleVersion := "1.0.0"
  contentDigest := ""
  commitSha := "unknown"
  componentVersions := []
  rules_nodup := List.nodup_singleton _
  indicators_nodup := by
    rw [List.map_map]
    exact (List.map_id _).symm ▸ nodup_sortedUnique ids
  negatives_nodup := List.nodup_nil
  overrides_nodup := List.nodup_nil
  polarity_disjoint := fun _ _ _ hn => absurd hn List.not_mem_nil

lemma sameRegistry_registryKnowledge (rule : Rule) (ids : List String) :
    SameRegistry data (registryKnowledge data rule ids) ids := by
  intro id hid i hi
  have hmem : (⟨id, some i.evidenceClass, some i.strength⟩ : Indicator) ∈
      (registryKnowledge data rule ids).indicators := by
    refine List.mem_map.mpr ⟨id, mem_sortedUnique.mpr hid, ?_⟩
    rw [hi]
    rfl
  exact find?_of_nodup_keys Indicator.id (registryKnowledge data rule ids).indicators_nodup hmem

/-- Data that makes the operands of a set TRUE. -/
lemma Governed.exists_run (h : Governed data authored f n) {T : Finset String}
    (hT : Satisfies (require authored) T) :
    ∃ inds obs language script ctx r, buildValidatedContext inds obs language script = .ok ctx ∧
      runIsolated (registryKnowledge data authored.rule f.atoms) .MEDIUM ctx authored.rule = .ok r ∧
      r.requiredCombinationResult = .TRUE ∧
      ((((classesOf data T).erase "").card : ℤ) < n → r.evaluationState = .NOT_MATCHED) := by
  have hreg : SameRegistry data (registryKnowledge data authored.rule f.atoms) f.atoms :=
    sameRegistry_registryKnowledge authored.rule f.atoms
  have hpositive := isPositive_of_sameRegistry hreg h.found
  obtain ⟨hsub, hholds⟩ := (h.satisfies_iff T).mp hT
  let truth : String → Truth := fun id => if id ∈ T then .TRUE else .UNKNOWN
  have hmem : ∀ id, truth id ≠ .UNKNOWN → id ∈ T := fun id hne => by
    by_contra hid
    exact hne (if_neg hid)
  obtain ⟨language, script, -, -, hscope⟩ := exists_in_scope h.schema
  obtain ⟨ctx, hctx, hinds, hobs, hlanguage, hscript⟩ := exists_context
    (fun id (_ : id ∈ (registryKnowledge data authored.rule f.atoms).indicators.map Indicator.id)
      (hne : truth id ≠ .UNKNOWN) => h.atoms id (hsub id (hmem id hne))) language script
  have hreal : Realizes (registryKnowledge data authored.rule f.atoms) truth ctx :=
    ⟨fun id hne => hpositive id (hsub id (hmem id hne)), hinds, hobs⟩
  obtain ⟨logic, g, hread⟩ := readable_of_schema h.schema
  have hparse := h.parse_eq
  rw [require_of_logic hread.logic_eq, hread.require_eq] at hparse
  obtain rfl := Option.some.inj hparse
  have hkind : kindOf authored.rule = .COMPOSITE := by
    rw [kindOf, h.composite]
    rfl
  obtain ⟨minClasses, overrides, effective, run, hrun⟩ :=
    hreal.evaluate .MEDIUM hread hkind (hscope ctx hlanguage hscript)
      fun _ ho => absurd ho List.not_mem_nil
  obtain rfl : n = minClasses := by
    have hn := h.need_eq
    rw [need_of_logic run.logic_eq] at hn
    exact Except.ok.inj (hn.symm.trans run.minClasses_eq)
  have heval : g.eval truth = .TRUE := by
    rw [eval_eq_TRUE_iff_holds, ← hholds]
    refine Formula.holds_congr g fun id _ => ?_
    by_cases hid : id ∈ T <;> simp [truth, hid, Truth.lo]
  refine ⟨_, _, language, script, ctx, _, hctx, hrun, ?_, fun hlt => ?_⟩
  · rw [compositeResult_same.required]
    exact heval
  · have hset : (trueOperands (registryKnowledge data authored.rule g.atoms) truth
        g.atoms).toFinset = T := by
      ext id
      simp only [trueOperands, List.mem_toFinset, List.mem_filter, mem_sortedUnique, beq_iff_eq]
      constructor
      · exact fun hid => hmem id (by rw [hid.2]; decide)
      · exact fun hid => ⟨⟨hsub id hid, hpositive id (hsub id hid)⟩, if_pos hid⟩
    have htrue : ∀ id ∈ trueOperands (registryKnowledge data authored.rule g.atoms) truth g.atoms,
        id ∈ g.atoms := fun id hid =>
      mem_sortedUnique.mp (List.mem_of_mem_filter (List.mem_of_mem_filter hid))
    have hlen := length_evidenceClasses hreg h.found htrue
    rw [hset] at hlen
    rw [compositeResult_same.evaluationState]
    have hunmet : decide (n ≤ ((evidenceClasses (registryKnowledge data authored.rule g.atoms)
        (matchedPositive (registryKnowledge data authored.rule g.atoms) .MEDIUM ctx authored.rule
          overrides g.atoms)).length : ℤ)) = false := by
      rw [hreal.matchedPositive_eq, hlen]
      exact decide_eq_false (not_le.mpr hlt)
    simp only [Runtime.Evaluator.compositeBase, heval, hunmet]
    rfl

theorem Governed.named_of_runtimeGate (h : Governed data authored f n)
    (hcounted : Counted (require authored)) (hgate : RuntimeGate data authored) :
    NamedSuffice data authored := by
  intro hother hsets T hT m hm
  obtain rfl : n = m := Except.ok.inj (h.need_eq.symm.trans hm)
  by_contra hlt
  have hoperands := operands_of_parse _ f h.parse_eq
  have hlint := h.accepts_iff.mpr ⟨hcounted, hother _ hoperands, hsets⟩
  obtain ⟨inds, obs, language, script, ctx, r, hctx, hr, hrequired, hstate⟩ := h.exists_run hT
  exact (hgate hlint _ hoperands _ (sameRegistry_registryKnowledge authored.rule f.atoms) .MEDIUM
    inds obs language script ctx hctx r hr).1 ⟨hstate (not_le.mp hlt), hrequired⟩

end Evaluation

end Sets

/-- The operands of the small rule, in the records of the small registry. -/
lemma sample_found : ∀ ids, operands (require ⟨Runtime.Evaluator.sampleRule, [], none, none⟩) = .ok ids →
    ∀ id ∈ ids, ∃ i, find id Runtime.Evaluator.deadReferenceData.indicators = some i ∧
      i.polarity = "POSITIVE" := by
  intro ids hids
  obtain rfl : ["OTP_REQUEST", "URGENCY"] = ids := Except.ok.inj (Eq.trans rfl hids)
  simp only [List.forall_mem_cons]
  exact ⟨⟨_, rfl, rfl⟩, ⟨_, rfl, rfl⟩, fun _ h => absurd h List.not_mem_nil⟩

/-- Two of three, under a minimum of three classes. -/
def doubleBound : AuthoredRule where
  rule := { Runtime.Evaluator.sampleRule with
    logic := some (.obj [("require", .obj [("n_of", .obj [("n", .float (.finite 2)),
        ("of", .arr [.str "OTP_REQUEST", .str "URGENCY", .str "REMOTE_ACCESS"])])]),
      ("min_evidence_classes", .int 3)]) }
  citations := []
  lastReviewed := none
  reviewDue := none

end TrustLens.Validation
