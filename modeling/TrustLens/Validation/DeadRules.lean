import Mathlib.Data.List.TakeWhile
import TrustLens.Loader.LoadBundle
import TrustLens.Runtime.ConditionMono
import TrustLens.Runtime.RealizedTruth
import TrustLens.Validation.RuleLint

/-!
# Rules that can never match

A published rule is alive when some governed data, in a language and a script of its scope,
makes it match after suppression. What can keep it from that is its own condition, the
classes of its indicators, and the overrides that apply to it.
-/

namespace TrustLens.Runtime.Evaluator

open Condition (evalCondition evalCondition_of_parse operands operands_of_parse parse)
open SuppressionExecutor (BlocksFlagged Matched MatchedRun applyCore_matched applyCore_of_apply
  exposes_compositeResult matched_of_apply resolved_state)

variable {rk : RuntimeKnowledge} {gate : Level} {ctx : Context} {rule : Rule} {truth : String → Truth}

/-- The condition of a rule. -/
def requireOf (rule : Rule) : Json := (rule.logic.getD (.obj [])).get "require"

/-- The class minimum of a rule. -/
def minClassesOf (rule : Rule) : Except Fault ℤ :=
  pyInt (((rule.logic.getD (.obj [])).get? "min_evidence_classes").getD (.int 2))

/-- Some governed data in a language and a script of its scope makes the rule match. -/
def CanMatch (rk : RuntimeKnowledge) (profile : EvaluationProfile) (rule : Rule) : Prop :=
  ∃ inds obs language script r,
    .str language ∈ ((rule.languageScope.getD (.obj [])).get "languages").items ∧
    .str script ∈ ((rule.languageScope.getD (.obj [])).get "scripts").items ∧
    evaluateRuleFromGoverned rk profile rule.id inds obs language script = .ok r ∧
    (SuppressionExecutor.apply rk r).evaluationState = .MATCHED

/-- The operands of a rule that are TRUE and registered. -/
def trueOperands (rk : RuntimeKnowledge) (truth : String → Truth) (ids : List String) : List String :=
  ((sortedUnique ids).filter rk.isPositive).filter fun id => truth id == .TRUE

/-- Truth values for the registered indicators under which nothing stands against a match: the
condition is TRUE, its TRUE operands span the classes, and no override that applies raises or,
where it is active, lists its categories badly. -/
structure Unopposed (rk : RuntimeKnowledge) (rule : Rule) (truth : String → Truth) : Prop where
  registered : ∀ id, truth id ≠ .UNKNOWN → rk.isPositive id = true ∧ Condition.indicatorId id = true
  required : evalCondition truth (requireOf rule) = .ok .TRUE
  classes : ∃ ids minClasses, operands (requireOf rule) = .ok ids ∧
    minClassesOf rule = .ok minClasses ∧
    minClasses ≤ (evidenceClasses rk (trueOperands rk truth ids)).length
  overrides : ∀ o ∈ rk.overrides, overrideApplies o rule = true →
    ∃ v, evalCondition truth o.condition = .ok v ∧
      (v = .TRUE → ∃ categories, o.blocksSuppressionCategories = some categories ∧ "" ∉ categories)

/-! ### The scope -/

lemma beforeFirst_of_forall {sep : Char} {s : String} (h : ∀ c ∈ s.toList, c ≠ sep) :
    PyText.beforeFirst sep s = s := by
  have hall : s.toList.takeWhile (· != sep) = s.toList :=
    List.takeWhile_eq_self_iff.mpr fun c hc => bne_iff_ne.mpr (h c hc)
  rw [PyText.beforeFirst, hall, String.ofList_toList]

/-- A code of the schema has no region. -/
lemma ne_hyphen_of_languageCode {s : String} (h : languageCode s = true) : ∀ c ∈ s.toList, c ≠ '-' := by
  have hletters : ∀ cs, Schema.headTail Schema.isLower Schema.isLower 1 2 cs = true →
      ∀ c ∈ cs, c ≠ '-' := by
    intro cs hcs c hc
    cases cs with
    | nil => cases hc
    | cons d ds =>
      simp only [Schema.headTail, Bool.and_eq_true, List.all_eq_true] at hcs
      have hlower : Schema.isLower c = true := by
        rcases List.mem_cons.mp hc with rfl | hc
        · exact hcs.1.1.1
        · exact hcs.2 c hc
      rintro rfl
      revert hlower
      decide
  simp only [languageCode, Schema.anchored, Bool.or_eq_true, Bool.and_eq_true, beq_iff_eq] at h
  rcases h with h | ⟨hlast, h⟩
  · exact hletters _ h
  · intro c hc
    obtain ⟨cs, hcs⟩ := List.getLast?_eq_some_iff.mp hlast
    rw [hcs, List.dropLast_concat] at h
    rw [hcs, List.mem_append, List.mem_singleton] at hc
    rcases hc with hc | rfl
    · exact hletters cs h c hc
    · decide

lemma exists_first_of_uniqueArray {p : String → Bool} {v : Json}
    (h : Schema.uniqueArray (Schema.pattern p) 1 v = true) :
    ∃ s, .str s ∈ v.items ∧ p s = true ∧ ∃ js, v = .arr js ∧ js ≠ [] := by
  cases v with
  | arr js =>
    simp only [Schema.uniqueArray, Bool.and_eq_true, decide_eq_true_eq, List.all_eq_true] at h
    obtain ⟨⟨hlen, hall⟩, -⟩ := h
    have hne : js ≠ [] := List.ne_nil_of_length_pos hlen
    obtain ⟨j, hj⟩ := List.exists_mem_of_ne_nil js hne
    have hpattern := hall j hj
    cases j with
    | str s => exact ⟨s, hj, hpattern, js, rfl, hne⟩
    | null | bool | int | float | arr | obj => cases hpattern
  | null | bool | int | float | str | obj => cases h

/-- The scope of a schema-valid rule names a language and a script that are in it. -/
lemma exists_in_scope (h : ruleSchema rule = true) : ∃ language script,
    .str language ∈ ((rule.languageScope.getD (.obj [])).get "languages").items ∧
    .str script ∈ ((rule.languageScope.getD (.obj [])).get "scripts").items ∧
    ∀ ctx : Context, ctx.language = language → ctx.script = script → scopeCheck ctx rule = .ok true := by
  simp only [ruleSchema, Bool.and_eq_true] at h
  obtain ⟨⟨⟨⟨⟨⟨-, hscope⟩, -⟩, -⟩, -⟩, -⟩, -⟩ := h
  obtain ⟨scope, hs, hscope⟩ := exists_of_any hscope
  obtain ⟨entries, rfl⟩ := Schema.exists_obj_of_object hscope
  obtain ⟨languages, hl, hlanguages⟩ :=
    Schema.value_of_object hscope (show "languages" ∈ _ by decide) rfl
  obtain ⟨scripts, hc, hscripts⟩ := Schema.value_of_object hscope (show "scripts" ∈ _ by decide) rfl
  obtain ⟨language, hlmem, hlcode, ls, rfl, hlne⟩ := exists_first_of_uniqueArray hlanguages
  obtain ⟨script, hcmem, -, cs, rfl, hcne⟩ := exists_first_of_uniqueArray hscripts
  have hlget : (Json.obj entries).get "languages" = .arr ls := by
    rw [Json.get, Json.get?, hl, Option.getD_some]
  have hcget : (Json.obj entries).get "scripts" = .arr cs := by
    rw [Json.get, Json.get?, hc, Option.getD_some]
  refine ⟨language, script, ?_, ?_, ?_⟩
  · rw [hs, Option.getD_some, hlget]
    exact hlmem
  · rw [hs, Option.getD_some, hcget]
    exact hcmem
  · rintro ctx rfl rfl
    have hlin : ls.contains (.str ctx.language) = true := List.contains_iff_mem.mpr hlmem
    have hcin : cs.contains (.str ctx.script) = true := List.contains_iff_mem.mpr hcmem
    have hlt : (Json.arr ls).truthy = true := by simpa [Json.truthy] using hlne
    have hct : (Json.arr cs).truthy = true := by simpa [Json.truthy] using hcne
    simp only [scopeCheck, hs, Option.getD_some, languageInScope, hlget, hcget, hlt, hct, pyIn,
      beforeFirst_of_forall (ne_hyphen_of_languageCode hlcode), hlin, hcin]
    rfl

/-! ### Data that makes the rule match -/

lemma requireOf_eq {logic : Json} (h : logicOf rule = .ok logic) : rule.logic.getD (.obj []) = logic := by
  unfold logicOf at h
  simp only at h
  split_ifs at h
  exact Except.ok.inj h

/-- Made for a truth, the data lets the rule run to its result under that truth. -/
lemma Realizes.evaluate (h : Realizes rk truth ctx) (gate : Level) {logic : Json} {f : Formula String}
    (hread : Readable rule logic f) (hk : kindOf rule = .COMPOSITE)
    (hscope : scopeCheck ctx rule = .ok true)
    (hover : ∀ o ∈ rk.overrides, overrideApplies o rule = true →
      ∃ v, evalCondition truth o.condition = .ok v) :
    ∃ minClasses overrides effective,
      CompositeRun rk gate ctx rule logic minClasses overrides (f.eval truth) f.atoms effective ∧
      runIsolated rk gate ctx rule =
        .ok (compositeResult rk gate ctx rule minClasses overrides (f.eval truth) f.atoms effective) := by
  have htruth : truthOf (rawPositive rk gate ctx) = truth := funext h.truthOf_eq
  obtain ⟨overrides, hoverrides⟩ : ∃ overrides, activeOverrides rk rule
      (truthOf (rawPositive rk gate ctx)) = .ok overrides := by
    rw [activeOverrides_total_iff, ConditionsEvaluate, htruth]
    exact hover
  obtain ⟨n, hn⟩ := hread.minClasses hk
  obtain ⟨effective, heffective⟩ := hread.severity
  have hrequired : evalCondition
      (truthOf (suppressedPositive rk gate ctx rule.categories overrides)) (logic.get "require") =
        .ok (f.eval truth) := by
    rw [evalCondition_of_parse _ _ f hread.require_eq]
    exact congrArg _ (Formula.eval_congr f fun id _ => h.suppressed_eq _ _ id)
  have run : CompositeRun rk gate ctx rule logic n overrides (f.eval truth) f.atoms effective :=
    ⟨hread.logic_eq, hn, hoverrides, hrequired, operands_of_parse _ f hread.require_eq,
      heffective⟩
  refine ⟨n, overrides, effective, run, ?_⟩
  rw [runIsolated, runRule_inScope hscope, hk, run.evaluate]

/-- The positives of the run are the TRUE operands. -/
lemma Realizes.matchedPositive_eq (h : Realizes rk truth ctx) (overrides : List Override)
    (ids : List String) :
    matchedPositive rk gate ctx rule overrides ids = trueOperands rk truth ids := by
  rw [matchedPositive, trueOperands]
  refine List.filter_congr fun id _ => ?_
  rw [h.suppressed_eq]

/-- A schema-valid composite has a severity to start from. -/
lemma severity_of_schema (h : ruleSchema rule = true) (hk : rule.kind = some "COMPOSITE")
    {effective : Option Json} (heffective : effectiveSeverity rule = .ok effective) :
    ∃ base, effective.bind Severity.ofJson? = some base := by
  simp only [ruleSchema, Bool.and_eq_true, hk, bne_self_eq_false, Bool.false_or, bne_iff_ne] at h
  obtain ⟨⟨⟨⟨-, hnull⟩, hs⟩, hc⟩, -⟩ := h
  have hname : ∀ {values : List String} {c : Json}, optionalEnum values c = true →
      c ≠ .null → ∃ s ∈ values, c = .str s := by
    intro values c hc hne
    cases c with
    | null => exact absurd rfl hne
    | str s =>
      simp only [optionalEnum, Schema.enum, Bool.or_eq_true, beq_iff_eq, reduceCtorEq,
        List.contains_iff_mem, false_or] at hc
      exact ⟨s, hc, rfl⟩
    | bool | int | float | arr | obj => simp [optionalEnum, Schema.enum] at hc
  obtain ⟨s, hsmem, hsev⟩ := hname hs hnull
  have htruthy : rule.severity.truthy = true := by
    rw [hsev]
    simp only [List.mem_cons, List.not_mem_nil, or_false] at hsmem
    rcases hsmem with rfl | rfl | rfl | rfl <;> rfl
  rw [effectiveSeverity, if_pos htruthy] at heffective
  by_cases hcap : rule.severityCap = .null
  · rw [sevMin, if_pos hcap, hsev] at heffective
    obtain rfl := Except.ok.inj heffective
    simp only [List.mem_cons, List.not_mem_nil, or_false] at hsmem
    rcases hsmem with rfl | rfl | rfl | rfl <;> exact ⟨_, rfl⟩
  · obtain ⟨c, hcmem, hceiling⟩ := hname hc hcap
    rw [sevMin, if_neg hcap, hsev, hceiling] at heffective
    simp only [List.mem_cons, List.not_mem_nil, or_false] at hsmem hcmem
    rcases hsmem with rfl | rfl | rfl | rfl <;> rcases hcmem with rfl | rfl | rfl <;>
      obtain rfl := Except.ok.inj heffective <;> exact ⟨_, rfl⟩

/-- A match that nothing stands against stays one after suppression. -/
lemma apply_of_unopposed (h : Realizes rk truth ctx) (hun : Unopposed rk rule truth)
    (hschema : ruleSchema rule = true) (hk : rule.kind = some "COMPOSITE") {r : RuleResult}
    {overrides : List Override} (hmatched : Matched rk gate ctx rule r overrides)
    (hkind : r.kind = .COMPOSITE) (hstate : r.evaluationState = .MATCHED)
    (hsev : effectiveSeverity rule = .ok r.effectiveSeverity) :
    (SuppressionExecutor.apply rk r).evaluationState = .MATCHED := by
  have hnone : r.matchedNegativeIndicators = [] := by
    rw [hmatched.negatives, h.matchedNegative_eq]
  have hsound : SuppressionExecutor.Sound rk r := by
    refine ⟨severity_of_schema hschema hk hsev, fun id hid => ?_⟩
    rw [hnone] at hid
    cases hid
  have hflagged : BlocksFlagged rk gate ctx rule := by
    intro o ho happlies hholds
    rw [show truthOf (rawPositive rk gate ctx) = truth from funext h.truthOf_eq] at hholds
    obtain ⟨v, hv, hcategories⟩ := hun.overrides o ho happlies
    obtain ⟨categories, hc, hempty⟩ := hcategories (Except.ok.inj (hv.symm.trans hholds))
    refine ⟨categories, hc, hempty, fun id hid => ?_⟩
    rw [h.matchedNegative_eq] at hid
    cases hid
  obtain ⟨base, blocked, res, run⟩ := hmatched.exists_run hsound hflagged
  have hres : res = {} := by
    have hresolve := run.res_eq
    rw [RuleResult.canonical, hnone] at hresolve
    exact (Except.ok.inj hresolve).symm
  have hcanonical : r.canonical.evaluationState = .MATCHED := hstate
  rw [run.apply_eq hkind hstate, resolved_state hcanonical, hres]
  rfl

theorem canMatch_of_unopposed (profile : EvaluationProfile) (hmem : rule ∈ rk.rules)
    (hpub : RuntimeKnowledge.isPublished rule = true) (hk : rule.kind = some "COMPOSITE")
    (hschema : ruleSchema rule = true) (hun : Unopposed rk rule truth) :
    CanMatch rk profile rule := by
  obtain ⟨language, script, hl, hc, hscope⟩ := exists_in_scope hschema
  obtain ⟨ctx, hctx, hinds, hobs, hlanguage, hscript⟩ :=
    exists_context (fun id (_ : id ∈ rk.indicators.map Indicator.id) (hne : truth id ≠ .UNKNOWN) =>
      (hun.registered id hne).2) language script
  have hreal : Realizes rk truth ctx := ⟨fun id hne => (hun.registered id hne).1, hinds, hobs⟩
  obtain ⟨logic, f, hread⟩ := readable_of_schema hschema
  have hkind : kindOf rule = .COMPOSITE := by
    rw [kindOf, hk]
    rfl
  obtain ⟨minClasses, overrides, effective, run, heval⟩ :=
    hreal.evaluate profile.extractionConfidenceGate hread hkind
      (hscope ctx hlanguage hscript) fun o ho happlies =>
        (hun.overrides o ho happlies).imp fun _ => And.left
  have hrequired : f.eval truth = .TRUE := by
    have hr := hun.required
    rw [requireOf, requireOf_eq hread.logic_eq, evalCondition_of_parse _ _ f hread.require_eq] at hr
    exact Except.ok.inj hr
  have hdiversity : minClasses ≤ (evidenceClasses rk (trueOperands rk truth f.atoms)).length := by
    obtain ⟨ids, n, hids, hn, hle⟩ := hun.classes
    rw [requireOf, requireOf_eq hread.logic_eq, operands_of_parse _ f hread.require_eq] at hids
    rw [minClassesOf, requireOf_eq hread.logic_eq, run.minClasses_eq] at hn
    obtain rfl := Except.ok.inj hids
    obtain rfl := Except.ok.inj hn
    exact hle
  have hstate : (compositeResult rk profile.extractionConfidenceGate ctx rule minClasses overrides
      (f.eval truth) f.atoms effective).evaluationState = .MATCHED := by
    rw [compositeResult_same.evaluationState]
    refine compositeState_eq_MATCHED.mpr ⟨hrequired, decide_eq_true ?_⟩
    rw [hreal.matchedPositive_eq]
    exact hdiversity
  have hmatched : Matched rk profile.extractionConfidenceGate ctx rule (compositeResult rk
      profile.extractionConfidenceGate ctx rule minClasses overrides (f.eval truth) f.atoms effective)
      overrides := by
    refine ⟨run.overrides_eq, exposes_compositeResult run.overrides_eq, ?_, ?_⟩
    · rw [compositeResult_same.matchedNegative]
      rfl
    · rw [compositeResult_same.required]
      exact hrequired
  refine ⟨_, _, language, script, _, hl, hc, (evaluateRuleFromGoverned_ok hctx _).mpr ?_,
    apply_of_unopposed hreal hun hschema hk hmatched ?_ hstate ?_⟩
  · rw [evaluateValidated_of_mem hmem hpub, heval]
  · rw [compositeResult_same.kind]
    rfl
  · rw [compositeResult_same.effective, run.effective_eq]
    rfl

/-! ### What a match shows -/

lemma indicatorId_of_contract {raw : Json} {io : IndicatorObservation}
    (h : Contract.indicatorObservation raw = true)
    (hio : IndicatorObservation.decode raw = some io) :
    Condition.indicatorId io.indicatorId = true := by
  obtain ⟨entries, rfl⟩ := Schema.exists_obj_of_object h
  obtain ⟨value, hvalue, hpattern⟩ :=
    Schema.value_of_object h (show "indicator_id" ∈ _ by decide) rfl
  have hget : (Json.obj entries).get "indicator_id" = value := by
    rw [Json.get, Json.get?, hvalue, Option.getD_some]
  cases value with
  | str s =>
    have hid : Condition.indicatorId s = true := hpattern
    have htruthy : (Json.str s).truthy = true := by
      rw [Json.truthy, bne_iff_ne]
      exact ne_empty_of_indicatorId hid
    simp only [IndicatorObservation.decode, hget, htruthy, if_true, Json.str?, Option.bind_eq_bind,
      Option.bind_some, Option.bind_eq_some_iff] at hio
    obtain ⟨_, -, _, -, hio⟩ := hio
    split_ifs at hio
    · cases hio
      exact hid
    · obtain ⟨_, -, hio⟩ := Option.bind_eq_some_iff.mp hio
      cases hio
      exact hid
    · cases hio
      exact hid
    · obtain ⟨_, -, hio⟩ := Option.bind_eq_some_iff.mp hio
      cases hio
      exact hid
  | null | bool | int | float | arr | obj => cases hpattern

lemma indicatorId_of_decode {raws : List Json} {ios : List IndicatorObservation}
    (h : decodeIndicators raws = .ok ios) :
    ∀ io ∈ ios, Condition.indicatorId io.indicatorId = true := by
  induction raws generalizing ios with
  | nil =>
    obtain rfl := Except.ok.inj h
    exact fun _ hio => absurd hio List.not_mem_nil
  | cons raw rest ih =>
    simp only [decodeIndicators] at h
    split_ifs at h with _ hcontract
    split at h
    · cases h
    · rename_i io hio
      split at h
      · cases h
      · rename_i ios' hrest
        obtain rfl := Except.ok.inj h
        exact List.forall_mem_cons.mpr
          ⟨indicatorId_of_contract (Bool.not_eq_false _ ▸ hcontract) hio, ih hrest⟩

/-- The ids of an accepted context are indicator ids. -/
lemma indicatorId_of_context {inds obs : List Json} {language script : String}
    (h : buildValidatedContext inds obs language script = .ok ctx) :
    ∀ io ∈ ctx.indicatorObservations, Condition.indicatorId io.indicatorId = true := by
  unfold buildValidatedContext at h
  split_ifs at h
  split at h
  · cases h
  · split at h
    · cases h
    · rename_i ios hios
      simp only at h
      split_ifs at h
      split at h
      · cases h
      · obtain rfl := Except.ok.inj h
        exact indicatorId_of_decode hios

lemma TRUE_of_suppressed {categories : List String} {overrides : List Override} {id : String}
    (h : truthOf (suppressedPositive rk gate ctx categories overrides) id = .TRUE) :
    truthOf (rawPositive rk gate ctx) id = .TRUE := by
  obtain ⟨hpositive, io, hio, hpolarity, hgate, hlive, -⟩ := truthOf_suppressedPositive.mp h
  exact truthOf_rawPositive.mpr ⟨hpositive, io, hio, hpolarity, hgate, hlive,
    fun _ hs => absurd hs List.not_mem_nil⟩

/-- Only ids of the registry and of the pattern are read as anything but UNKNOWN. -/
lemma registered_of_truth {inds obs : List Json} {language script : String}
    (hctx : buildValidatedContext inds obs language script = .ok ctx) {id : String}
    (h : truthOf (rawPositive rk gate ctx) id ≠ .UNKNOWN) :
    rk.isPositive id = true ∧ Condition.indicatorId id = true := by
  unfold truthOf rawPositive at h
  by_cases hentry : rk.isPositive id = true ∧ ctx.observationsFor id ≠ []
  · obtain ⟨io, hin⟩ := List.exists_mem_of_ne_nil _ hentry.2
    obtain ⟨hio, rfl⟩ := Context.mem_observationsFor.mp hin
    exact ⟨hentry.1, indicatorId_of_context hctx io hio⟩
  · rw [if_neg hentry] at h
    exact absurd rfl h

/-- A match that survives suppression came of overrides that block flagged negatives only. -/
lemma blocksFlagged_of_apply {logic : Json} {minClasses : ℤ} {overrides : List Override}
    {required : Truth} {ids : List String} {effective : Option Json}
    (run : CompositeRun rk gate ctx rule logic minClasses overrides required ids effective)
    (hrequired : required = .TRUE)
    (h : (SuppressionExecutor.apply rk (compositeResult rk gate ctx rule minClasses overrides
      required ids effective)).evaluationState = .MATCHED) :
    SuppressionExecutor.Sound rk (compositeResult rk gate ctx rule minClasses overrides required ids
      effective) ∧ BlocksFlagged rk gate ctx rule := by
  have hmatched : Matched rk gate ctx rule (compositeResult rk gate ctx rule minClasses overrides
      required ids effective) overrides := by
    refine ⟨run.overrides_eq, exposes_compositeResult run.overrides_eq, ?_, ?_⟩
    · rw [compositeResult_same.matchedNegative]
      rfl
    · rw [compositeResult_same.required]
      exact hrequired
  have hcore : SuppressionExecutor.applyCore rk (compositeResult rk gate ctx rule minClasses overrides
      required ids effective) = .ok _ := applyCore_of_apply (by rw [h]; exact nofun)
  have hkind : (compositeResult rk gate ctx rule minClasses overrides required ids
      effective).kind = .COMPOSITE := by
    rw [compositeResult_same.kind]
    rfl
  obtain ⟨base, blocked, res, hrun, -⟩ := applyCore_matched hkind (matched_of_apply h) hcore
  exact hmatched.of_run hrun

/-- Under the truth the evaluator reads, nothing stood against a rule that matched. -/
theorem unopposed_of_canMatch (profile : EvaluationProfile) (hmem : rule ∈ rk.rules)
    (hpub : RuntimeKnowledge.isPublished rule = true) (hk : rule.kind = some "COMPOSITE")
    (hschema : ruleSchema rule = true) (h : CanMatch rk profile rule) :
    ∃ truth, Unopposed rk rule truth := by
  obtain ⟨inds, obs, language, script, r, -, -, heval, hmatch⟩ := h
  obtain ⟨logic, f, hread⟩ := readable_of_schema hschema
  cases hctx : buildValidatedContext inds obs language script with
  | error e =>
    rw [evaluateRuleFromGoverned, hctx] at heval
    cases heval
  | ok ctx =>
    rw [evaluateRuleFromGoverned_ok hctx, evaluateValidated_of_mem hmem hpub] at heval
    have hstate := matched_of_apply hmatch
    have hrun : runRule rk profile.extractionConfidenceGate ctx rule = .ok r := by
      refine (runIsolated_ok heval).resolve_right ?_
      rintro ⟨fault, -, rfl⟩
      cases hstate
    have hkind : kindOf rule = .COMPOSITE := by
      rw [kindOf, hk]
      rfl
    have hcomposite : evaluateComposite rk profile.extractionConfidenceGate ctx rule = .ok r := by
      rcases runRule_ok hrun with ⟨-, rfl⟩ | ⟨-, hsup, -⟩ | ⟨-, -, hr⟩
      · cases hstate
      · rw [hkind] at hsup
        cases hsup
      · exact hr
    obtain ⟨_, minClasses, overrides, required, ids, effective, run, rfl⟩ :=
      evaluateComposite_ok hcomposite
    obtain rfl := Except.ok.inj (hread.logic_eq.symm.trans run.logic_eq)
    rw [compositeResult_same.evaluationState] at hstate
    obtain ⟨hrequired, hdiversity⟩ := compositeState_eq_MATCHED.mp hstate
    refine ⟨truthOf (rawPositive rk profile.extractionConfidenceGate ctx), ?_, ?_, ?_, ?_⟩
    · exact fun id hne => registered_of_truth hctx hne
    · rw [requireOf, requireOf_eq run.logic_eq]
      have heval := evalCondition_of_parse (truthOf (rawPositive rk profile.extractionConfidenceGate ctx))
        _ f hread.require_eq
      have hkeep := Condition.evalCondition_keepsTrue (fun id
        (h : truthOf (suppressedPositive rk profile.extractionConfidenceGate ctx rule.categories
          overrides) id = .TRUE) => TRUE_of_suppressed h) (logic.get "require")
      have hsuppressed := run.required_eq
      rw [hrequired] at hsuppressed
      rw [heval]
      exact congrArg _ (hkeep.1 hsuppressed _ heval)
    · refine ⟨ids, minClasses, ?_, ?_, (of_decide_eq_true hdiversity).trans ?_⟩
      · rw [requireOf, requireOf_eq run.logic_eq]
        exact run.operands_eq
      · rw [minClassesOf, requireOf_eq run.logic_eq]
        exact run.minClasses_eq
      · refine Int.ofNat_le.mpr (length_sortedUnique_le (List.filterMap_subset _ ?_))
        intro id hid
        obtain ⟨hid, htrue⟩ := List.mem_filter.mp hid
        exact List.mem_filter.mpr ⟨hid, beq_iff_eq.mpr (TRUE_of_suppressed (beq_iff_eq.mp htrue))⟩
    · intro o ho happlies
      obtain ⟨v, hv⟩ := activeOverrides_total_iff.mp ⟨overrides, run.overrides_eq⟩ o ho happlies
      refine ⟨v, hv, ?_⟩
      rintro rfl
      obtain ⟨categories, hc, hempty, -⟩ :=
        (blocksFlagged_of_apply run hrequired hmatch).2 o ho happlies hv
      exact ⟨categories, hc, hempty⟩

/-- Four of three. -/
def deadCondition : Json :=
  .obj [("n_of", .obj [("n", .int 4),
    ("of", .arr [.str "OTP_REQUEST", .str "URGENCY", .str "REMOTE_ACCESS"])])]

def deadLogic : Json := .obj [("require", deadCondition), ("min_evidence_classes", .int 2)]

def deadRule : Rule :=
  { sampleRule with
    logic := some deadLogic
    sourceReferences := [⟨some "SRC-001", some "Regulator", some "OFFICIAL_REGULATOR",
      some "PRIMARY_VERIFIED", none, [], some "Never share a one-time password."⟩] }

def deadKnowledge : RuntimeKnowledge :=
  { sampleKnowledge with
    rules := [deadRule]
    rules_nodup := by simp }

/-- The rule as a member of the bundle. -/
def deadDocument : Json := .obj [
  ("schema_version", .str "1.0.0"), ("rule_version", .str "1.0.0"), ("id", .str "TL-OTP-001"),
  ("name", .str "Credential request under pressure"),
  ("description", .str "A credential request combined with pressure."),
  ("kind", .str "COMPOSITE"), ("taxonomy_refs", .arr [.str "TAX-01-01"]), ("severity", .str "HIGH"),
  ("evidence", .obj [("verdict", .str "SUPPORTED"), ("implementability", .str "YES"),
    ("source_references", .arr [.obj [("source_id", .str "SRC-001"),
      ("issuing_body", .str "Regulator"), ("authority", .str "OFFICIAL_REGULATOR"),
      ("verification_status", .str "PRIMARY_VERIFIED"),
      ("quote", .str "Never share a one-time password.")]])]),
  ("logic", deadLogic),
  ("lifecycle", .obj [("status", .str "PUBLISHED"), ("created", .str "2026-01-01"),
    ("last_reviewed", .str "2026-01-01"), ("review_due", .str "2027-01-01"),
    ("authored_by_role", .str "author"), ("approved_by_role", .str "approver")]),
  ("language_scope", .obj [("languages", .arr [.str "en"]), ("scripts", .arr [.str "Latn"]),
    ("on_unsupported_input", .str "FLAG_UNSUPPORTED")]),
  ("explanation", .obj [("plain", .str "Someone is pressing you for a one-time password."),
    ("technical", .str "Credential request combined with a pressure cue.")])]

def registryRecord (id evidenceClass strength : String) : Json :=
  .obj [("id", .str id), ("polarity", .str "POSITIVE"), ("evidence_class", .str evidenceClass),
    ("strength", .str strength)]

def deadComponents : Loader.Components where
  rules := [deadDocument]
  registry := .obj [("indicators", .arr [registryRecord "OTP_REQUEST" "CREDENTIAL_ACTION" "STRONG",
    registryRecord "URGENCY" "PRESSURE" "MODERATE",
    registryRecord "REMOTE_ACCESS" "DEVICE_ACTION" "STRONG"])]
  families := .obj [("families", .arr [])]
  negatives := .obj [("negative_indicators", .arr []), ("categories", .obj [])]
  taxonomy := .obj [("categories", .arr [.obj [("id", .str "TAX-01"),
    ("subcategories", .arr [.obj [("id", .str "TAX-01-01")]])]])]
  dimensions := .obj [("dimensions", .obj [])]
  sources := .obj [("sources", .arr [.obj [("id", .str "SRC-001"),
    ("status", .str "PRIMARY_VERIFIED"), ("authority", .str "OFFICIAL_REGULATOR")]])]
  evidence := .obj [("records", .arr [])]
  actionPolicy := Loader.noPolicy

/-- The same records as the linter reads them. -/
def deadReferenceData : Validation.ReferenceData where
  indicators := [("OTP_REQUEST", ⟨"POSITIVE", "CREDENTIAL_ACTION", "STRONG", none⟩),
    ("URGENCY", ⟨"POSITIVE", "PRESSURE", "MODERATE", none⟩),
    ("REMOTE_ACCESS", ⟨"POSITIVE", "DEVICE_ACTION", "STRONG", none⟩)]
  sources := [("SRC-001", ⟨"PRIMARY_VERIFIED", "OFFICIAL_REGULATOR", none⟩)]
  taxa := ["TAX-01", "TAX-01-01"]
  matrix := [("TL-OTP-001", "SUPPORTED")]
  mrRecords := []

def deadAuthored : Validation.AuthoredRule where
  rule := deadRule
  citations := [⟨"SRC-001", "OFFICIAL_REGULATOR", "PRIMARY_VERIFIED",
    some "Never share a one-time password.", none⟩]
  lastReviewed := some "2026-01-01"
  reviewDue := some "2027-01-01"

lemma not_canMatch_dead (profile : EvaluationProfile) :
    ¬CanMatch deadKnowledge profile deadRule := by
  intro h
  obtain ⟨truth, hun⟩ := unopposed_of_canMatch profile List.mem_cons_self (by decide) rfl
    (by decide +kernel) h
  have hparse : parse deadCondition =
      some (.atLeast 4 [.atom "OTP_REQUEST", .atom "URGENCY", .atom "REMOTE_ACCESS"]) := rfl
  have hrequired : evalCondition truth deadCondition = .ok .TRUE := hun.required
  rw [evalCondition_of_parse truth _ _ hparse, Except.ok.injEq, Formula.eval] at hrequired
  have hlo := congrArg Truth.lo hrequired
  rw [Truth.lo_atLeast] at hlo
  have hle : 4 ≤ 3 := (of_decide_eq_true hlo).trans List.countP_le_length
  exact absurd hle (by decide)

end TrustLens.Runtime.Evaluator
