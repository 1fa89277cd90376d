import TrustLens.Runtime.BlockedSuppressors

/-!
# What a loaded rule can still fault on

The rule schema fixes everything the evaluator reads of a rule, so within the scope of its
languages a rule cannot fault on itself. The conditions of the overrides are under no
schema: loading asks that they be present and that their operands resolve, and one node the
evaluator does not know degrades every rule the override applies to.
-/

namespace TrustLens.Runtime.Evaluator

open Condition (evalCondition evalCondition_of_parse operands operands_of_parse operandSchema parse
  parse_of_operandSchema)
open Schema (value_of_object exists_obj_of_object)

variable {rk : RuntimeKnowledge} {gate : Level} {ctx : Context} {rule : Rule}

/-! ### The rule schema -/

/-- `^[a-z]{2,3}$` -/
def languageCode : String → Bool := Schema.anchored (Schema.headTail Schema.isLower Schema.isLower 1 2)

/-- `^[A-Z][a-z]{3}$` -/
def scriptCode : String → Bool := Schema.anchored (Schema.headTail Schema.isUpper Schema.isLower 3 3)

def languageScopeSchema : Schema.Validator :=
  Schema.object ["languages", "scripts", "on_unsupported_input"]
    [("languages", Schema.uniqueArray (Schema.pattern languageCode) 1),
      ("scripts", Schema.uniqueArray (Schema.pattern scriptCode) 1),
      ("on_unsupported_input", Schema.enum ["FLAG_UNSUPPORTED"])]

/-- `$defs/condition`: an operand that is no bare id. -/
def conditionSchema : Schema.Validator
  | .obj entries => operandSchema (.obj entries)
  | _ => false

/-- `logic`, with the keywords its rule's kind requires. A `REDUCE` needs a `reduce_by` that the
schema has no property for. -/
def logicSchema (composite : Bool) : Schema.Validator :=
  Schema.object
    (if composite then ["require", "min_evidence_classes"] else ["require", "suppresses", "effect"])
    [("require", conditionSchema),
      ("min_evidence_classes", Schema.integerFrom 2),
      ("suppressed_by", Schema.uniqueArray (Schema.pattern Condition.indicatorId) 0),
      -- no stage reads the scopes, so their pattern is left out
      ("suppresses", Schema.uniqueArray Schema.string 1),
      ("effect", Schema.enum ["SUPPRESS"])]

/-- An enumerated attribute, absent or present. -/
def optionalEnum (values : List String) (value : Json) : Bool :=
  value == .null || Schema.enum values value

/-- The keywords of `rule.schema.json` on the attributes the evaluator reads. -/
def ruleSchema (rule : Rule) : Bool :=
  (rule.kind == some "COMPOSITE" || rule.kind == some "SUPPRESSION") &&
    rule.languageScope.any languageScopeSchema &&
    rule.logic.any (logicSchema (rule.kind == some "COMPOSITE")) &&
    (rule.kind != some "COMPOSITE" || rule.severity != .null) &&
    optionalEnum ["LOW", "MEDIUM", "HIGH", "CRITICAL"] rule.severity &&
    optionalEnum ["LOW", "MEDIUM", "HIGH"] rule.severityCap &&
    Schema.enum ["SUPPORTED", "PARTIAL", "UNSUPPORTED", "HEURISTIC"] rule.verdict

/-! ### What the schema rules out -/

lemma pyInt_total {least : ℤ} {c : Json} (h : Schema.integerFrom least c = true) :
    ∃ n, pyInt c = .ok n := by
  cases c with
  | int n => exact ⟨n, rfl⟩
  | float x =>
    simp only [Schema.integerFrom] at h
    cases x with
    | finite q => exact ⟨_, rfl⟩
    | negZero => exact ⟨_, rfl⟩
    | inf | negInf | nan => simp [PyFloat.toInt?] at h
  | null | bool | str | arr | obj => simp [Schema.integerFrom] at h

/-- A schema-valid rule faults on none of its own attributes. -/
structure Readable (rule : Rule) (logic : Json) (f : Formula String) : Prop where
  logic_eq : logicOf rule = .ok logic
  require_eq : parse (logic.get "require") = some f
  minClasses : kindOf rule = .COMPOSITE →
    ∃ n, pyInt ((logic.get? "min_evidence_classes").getD (.int 2)) = .ok n
  severity : ∃ effective, effectiveSeverity rule = .ok effective

lemma effectiveSeverity_total {rule : Rule}
    (hs : optionalEnum ["LOW", "MEDIUM", "HIGH", "CRITICAL"] rule.severity = true)
    (hc : optionalEnum ["LOW", "MEDIUM", "HIGH"] rule.severityCap = true) :
    ∃ effective, effectiveSeverity rule = .ok effective := by
  have hname : ∀ {values : List String} {c : Json}, optionalEnum values c = true →
      c = .null ∨ ∃ s ∈ values, c = .str s := by
    intro values c h
    cases c with
    | null => exact Or.inl rfl
    | str s => simp [optionalEnum, Schema.enum] at h; exact Or.inr ⟨s, h, rfl⟩
    | bool | int | float | arr | obj => simp [optionalEnum, Schema.enum] at h
  unfold effectiveSeverity
  split_ifs with htruthy
  · unfold sevMin
    split_ifs with hnull
    · exact ⟨_, rfl⟩
    · rcases hname hs with hnone | ⟨s, hmem, hsev⟩
      · rw [hnone] at htruthy
        cases htruthy
      · obtain ⟨c, hmem', hcap⟩ := (hname hc).resolve_left hnull
        rw [hsev, hcap]
        simp only [List.mem_cons, List.not_mem_nil, or_false] at hmem hmem'
        rcases hmem with rfl | rfl | rfl | rfl <;> rcases hmem' with rfl | rfl | rfl <;>
          exact ⟨_, rfl⟩
  · exact ⟨_, rfl⟩

lemma exists_of_any {o : Option Json} {p : Json → Bool} (h : o.any p = true) :
    ∃ c, o = some c ∧ p c = true := by
  cases o with
  | none => cases h
  | some c => exact ⟨c, rfl, h⟩

/-- A logic object of the schema has a condition of the grammar. -/
lemma require_of_schema {composite : Bool} {entries : List (String × Json)}
    (h : logicSchema composite (.obj entries) = true) :
    ∃ f, parse ((Json.obj entries).get "require") = some f := by
  have hkey : "require" ∈ if composite then ["require", "min_evidence_classes"]
      else ["require", "suppresses", "effect"] := by
    cases composite <;> decide
  obtain ⟨value, hvalue, hok⟩ := value_of_object h hkey rfl
  rw [Json.get, Json.get?, hvalue, Option.getD_some]
  cases value with
  | obj es => exact parse_of_operandSchema _ hok
  | null | bool | int | float | str | arr => cases hok

lemma minClasses_of_schema {entries : List (String × Json)}
    (h : logicSchema true (.obj entries) = true) :
    ∃ n, pyInt (((Json.obj entries).get? "min_evidence_classes").getD (.int 2)) = .ok n := by
  obtain ⟨value, hvalue, hok⟩ := value_of_object h (show "min_evidence_classes" ∈ _ by decide) rfl
  rw [Json.get?, hvalue, Option.getD_some]
  exact pyInt_total hok

theorem readable_of_schema (h : ruleSchema rule = true) : ∃ logic f, Readable rule logic f := by
  simp only [ruleSchema, Bool.and_eq_true] at h
  obtain ⟨⟨⟨⟨⟨⟨hkind, -⟩, hlogic⟩, -⟩, hsev⟩, hcap⟩, -⟩ := h
  obtain ⟨logic, hl, hlogic⟩ := exists_of_any hlogic
  obtain ⟨entries, rfl⟩ := exists_obj_of_object hlogic
  obtain ⟨f, hf⟩ := require_of_schema hlogic
  refine ⟨.obj entries, f, ?_, hf, ?_, effectiveSeverity_total hsev hcap⟩
  · rw [logicOf, hl]
    rfl
  · intro hk
    have hcomposite : rule.kind = some "COMPOSITE" := by
      simp only [Bool.or_eq_true, beq_iff_eq] at hkind
      refine hkind.resolve_right fun hsup => ?_
      rw [kindOf, if_pos hsup] at hk
      cases hk
    rw [hcomposite] at hlogic
    exact minClasses_of_schema hlogic

/-! ### What is left to fault -/

lemma activeAmong_total_iff {truth : String → Truth} {os : List Override} :
    (∃ active, activeAmong truth os = .ok active) ↔
      ∀ o ∈ os, ∃ v, evalCondition truth o.condition = .ok v := by
  constructor
  · rintro ⟨active, h⟩
    induction os generalizing active with
    | nil => simp
    | cons o rest ih =>
      obtain ⟨v, hv, h⟩ := bind_ok h
      obtain ⟨as, has, -⟩ := bind_ok h
      exact List.forall_mem_cons.mpr ⟨⟨v, hv⟩, ih as has⟩
  · intro h
    induction os with
    | nil => exact ⟨[], rfl⟩
    | cons o rest ih =>
      rw [List.forall_mem_cons] at h
      obtain ⟨⟨v, hv⟩, hrest⟩ := h
      obtain ⟨as, has⟩ := ih hrest
      exact ⟨_, by rw [activeAmong, hv, has]; rfl⟩

/-- The conditions of the overrides that apply to the rule can be evaluated on the data. -/
def ConditionsEvaluate (rk : RuntimeKnowledge) (gate : Level) (ctx : Context) (rule : Rule) : Prop :=
  ∀ o ∈ rk.overrides, overrideApplies o rule = true →
    ∃ v, evalCondition (truthOf (rawPositive rk gate ctx)) o.condition = .ok v

lemma activeOverrides_total_iff :
    (∃ overrides, activeOverrides rk rule (truthOf (rawPositive rk gate ctx)) = .ok overrides) ↔
      ConditionsEvaluate rk gate ctx rule := by
  rw [activeOverrides, activeAmong_total_iff]
  simp only [List.mem_filter, List.mem_filterMap, and_imp, forall_exists_index]
  constructor
  · intro h o hmem happlies
    have hfound := RuntimeKnowledge.override_of_mem hmem
    exact h o o.id (RuntimeKnowledge.mem_overrideIds.mpr ⟨o, hfound⟩) hfound happlies
  · intro h o id _ hfound happlies
    exact h o (RuntimeKnowledge.mem_of_override hfound) happlies

/-- A schema-valid composite is evaluated when the override conditions are. -/
lemma evaluateComposite_total_iff {logic : Json} {f : Formula String} (h : Readable rule logic f)
    (hk : kindOf rule = .COMPOSITE) :
    (∃ r, evaluateComposite rk gate ctx rule = .ok r) ↔ ConditionsEvaluate rk gate ctx rule := by
  rw [← activeOverrides_total_iff]
  constructor
  · rintro ⟨r, hr⟩
    obtain ⟨_, _, overrides, _, _, _, run, -⟩ := evaluateComposite_ok hr
    exact ⟨overrides, run.overrides_eq⟩
  · rintro ⟨overrides, hover⟩
    obtain ⟨n, hn⟩ := h.minClasses hk
    obtain ⟨effective, heffective⟩ := h.severity
    have run : CompositeRun rk gate ctx rule logic n overrides _ f.atoms effective :=
      ⟨h.logic_eq, hn, hover, evalCondition_of_parse _ _ f h.require_eq,
        operands_of_parse _ f h.require_eq, heffective⟩
    exact ⟨_, run.evaluate⟩

lemma evaluateSuppression_total {logic : Json} {f : Formula String} (h : Readable rule logic f) :
    ∃ r, evaluateSuppression rk gate ctx rule = .ok r := by
  simp only [evaluateSuppression, h.logic_eq, evalCondition_of_parse _ _ f h.require_eq,
    operands_of_parse _ f h.require_eq, bind, Except.bind, pure, Except.pure]
  exact ⟨_, rfl⟩

lemma error_of_runRule {r : RuleResult} (hscope : scopeCheck ctx rule = .ok true)
    (h : runRule rk gate ctx rule = .ok r) : r.evaluationError = none := by
  rcases runRule_ok h with ⟨hout, -⟩ | ⟨-, -, hr⟩ | ⟨-, -, hr⟩
  · cases hscope.symm.trans hout
  · obtain ⟨_, _, _, -, rfl⟩ := evaluateSuppression_ok hr
    exact suppressionResult_same.error
  · obtain ⟨_, _, _, _, _, _, -, rfl⟩ := evaluateComposite_ok hr
    exact compositeResult_same.error

/-- `evaluate_rule_from_governed` -/
def evaluateRuleFromGoverned (rk : RuntimeKnowledge) (profile : EvaluationProfile) (ruleId : String)
    (indicatorObservations observations : List Json) (language script : String) :
    Except Failure RuleResult :=
  match buildValidatedContext indicatorObservations observations language script with
  | .error e => .error (.context e)
  | .ok ctx => (evaluateValidated rk profile.extractionConfidenceGate ctx ruleId).mapError .fault

lemma evaluateRuleFromGoverned_ok {profile : EvaluationProfile} {ruleId : String}
    {inds obs : List Json} {language script : String}
    (hctx : buildValidatedContext inds obs language script = .ok ctx) (r : RuleResult) :
    evaluateRuleFromGoverned rk profile ruleId inds obs language script = .ok r ↔
      evaluateValidated rk profile.extractionConfidenceGate ctx ruleId = .ok r := by
  simp only [evaluateRuleFromGoverned, hctx]
  cases evaluateValidated rk profile.extractionConfidenceGate ctx ruleId <;>
    simp [Except.mapError]

/-- The credential request of the small bundle, under an override whose condition loads. -/
def conditionKnowledge (condition : Json) : RuntimeKnowledge :=
  { sampleKnowledge with
    overrides := [⟨"HR_REMOTE", condition, ["TL-OTP-001"], [], some ["BENIGN"]⟩]
    overrides_nodup := by simp }

def noneOf : Json := .obj [("none_of", .arr [.str "REMOTE_ACCESS"])]

def conditionResults (condition : Json) : List RuleResult :=
  resultsOf (evaluateRulesFromGoverned (conditionKnowledge condition) {}
    [sampleIndicator "OTP_REQUEST" "o-1", sampleIndicator "URGENCY" "o-1"]
    [sampleObservation "o-1" "DIRECTIVE"] "en" "Latn")

end TrustLens.Runtime.Evaluator
