import TrustLens.Runtime.BlockedSuppressors

/-!
# Suppression a rule declares

A rule may name negatives that cancel it, and a suppression rule what it suppresses. No
stage reads either: a match is cancelled by the effects the negative library states, so a
declaration is honoured when the library happens to say the same.
-/

namespace TrustLens.Runtime.SuppressionExecutor

open Condition (evalCondition)
open Evaluator

variable {rk : RuntimeKnowledge} {gate : Level} {ctx : Context} {rule : Rule}

/-! ### When a match survives -/

/-- An active negative that applies to the rule cancels it in the library, and no override in
force blocks it. -/
def CancelledByLibrary (rk : RuntimeKnowledge) (gate : Level) (ctx : Context) (rule : Rule) :
    Prop :=
  ∃ id ∈ matchedNegative rk gate ctx rule.categories, ∃ neg, rk.negativeIndicator id = some neg ∧
    neg.suppressionEffect = some "SUPPRESS_RULE" ∧
    ∀ o ∈ rk.overrides, overrideApplies o rule = true →
      evalCondition (truthOf (rawPositive rk gate ctx)) o.condition = .ok .TRUE →
        ¬(neg.blockableByOverrides = .bool true ∧
          isIn neg.category (o.blocksSuppressionCategories.getD []) = true)

/-- The resolution of a match applies a suppressor exactly when the library cancels it. -/
lemma appliedSuppressors_iff {r : RuleResult} {overrides : List Override}
    (h : Matched rk gate ctx rule r overrides) {blocked : List String} {res : Resolution}
    (hblocked : blockedCategories rk r.canonical.activeOverrides = .ok blocked)
    (hres : resolve rk r.ruleId blocked r.canonical.matchedNegativeIndicators = .ok res) :
    res.appliedSuppressors ≠ [] ↔ CancelledByLibrary rk gate ctx rule := by
  have hresolves := resolve_ok hres
  have hcanon : ∀ id, id ∈ r.canonical.matchedNegativeIndicators ↔
      id ∈ matchedNegative rk gate ctx rule.categories := by
    intro id
    rw [← h.negatives]
    exact mem_sortedUnique
  have hin : ∀ neg : NegativeIndicator, isIn neg.category blocked = true ↔
      ∃ o ∈ overrides, isIn neg.category (o.blocksSuppressionCategories.getD []) = true :=
    fun neg => (isIn_congr (h.exposes.mem_blocked hblocked)).trans isIn_flatMap
  constructor
  · intro hne
    obtain ⟨id, hid⟩ := List.exists_mem_of_ne_nil _ hne
    obtain ⟨hmem, ho⟩ := (hresolves.applied id).mp hid
    obtain ⟨neg, blockable, hgov⟩ := outcomeOf_ok ho
    have heffect := hgov.suppressor_iff.mp ⟨false, rfl⟩
    refine ⟨id, (hcanon id).mp hmem, neg, hgov.found, heffect, ?_⟩
    rintro o hmem happlies hholds ⟨hflag, hc⟩
    have hblock := hgov.blocked_iff.mpr ⟨Or.inl heffect, Json.bool.inj (hgov.flag.symm.trans hflag),
      (hin neg).mpr ⟨o, (mem_activeOverrides h.active o).mpr ⟨hmem, happlies, hholds⟩, hc⟩⟩
    cases hblock
  · rintro ⟨id, hid, neg, hneg, heffect, hfree⟩
    have hmem := (hcanon id).mpr hid
    obtain ⟨o, ho⟩ := hresolves.total id hmem
    obtain ⟨neg', blockable, hgov⟩ := outcomeOf_ok ho
    obtain rfl := Option.some.inj (hgov.found.symm.trans hneg)
    obtain ⟨b, rfl⟩ := hgov.suppressor_iff.mpr heffect
    have hfalse : b = false := by
      by_contra hb
      obtain ⟨-, hblockable, hc⟩ := hgov.blocked_iff.mp ((Bool.not_eq_false b).mp hb)
      obtain ⟨ov, hov, hc⟩ := (hin neg').mp hc
      obtain ⟨hreg, happlies, hholds⟩ := (mem_activeOverrides h.active ov).mp hov
      exact hfree ov hreg happlies hholds ⟨hgov.flag.trans (congrArg Json.bool hblockable), hc⟩
    subst hfalse
    exact List.ne_nil_of_mem ((hresolves.applied id).mpr ⟨hmem, ho⟩)

/-- The second stage lets a match stand when it can resolve it and the library does not cancel
it. -/
theorem apply_matched_iff {r : RuleResult} {overrides : List Override} (hk : r.kind = .COMPOSITE)
    (hm : r.evaluationState = .MATCHED) (h : Matched rk gate ctx rule r overrides) :
    (apply rk r).evaluationState = .MATCHED ↔
      Sound rk r ∧ BlocksFlagged rk gate ctx rule ∧ ¬CancelledByLibrary rk gate ctx rule := by
  constructor
  · intro hstays
    have hcore : applyCore rk r = .ok (apply rk r) := by
      apply applyCore_of_apply
      rw [hstays]
      exact nofun
    obtain ⟨base, blocked, res, run, heq⟩ := applyCore_matched hk hm hcore
    obtain ⟨hsound, hflagged⟩ := h.of_run run
    refine ⟨hsound, hflagged, ?_⟩
    rw [heq, resolved_state (r := r.canonical) hm] at hstays
    rw [← appliedSuppressors_iff h run.blocked_eq run.res_eq]
    intro hne
    rw [if_pos hne] at hstays
    cases hstays
  · rintro ⟨hsound, hflagged, hfree⟩
    obtain ⟨base, blocked, res, run⟩ := h.exists_run hsound hflagged
    rw [run.apply_eq hk hm, resolved_state (r := r.canonical) hm, if_neg]
    rwa [appliedSuppressors_iff h run.blocked_eq run.res_eq]

/-! ### What the bundle declares -/

def stringsOf : Json → List String
  | .arr xs => xs.filterMap Json.str?
  | _ => []

/-- `logic.suppressed_by`: the negatives that cancel the rule outright. -/
def suppressedBy (rule : Rule) : List String :=
  stringsOf ((rule.logic.getD (.obj [])).get "suppressed_by")

/-- `logic.suppresses`: rule ids, taxonomy scopes, or `*`. -/
def suppresses (rule : Rule) : List String :=
  stringsOf ((rule.logic.getD (.obj [])).get "suppresses")

def cancels (rule : Rule) : Bool :=
  (rule.logic.getD (.obj [])).get "effect" == .str "SUPPRESS"

def inScope (scope : String) (rule : Rule) : Bool :=
  scope == "*" || scope == rule.id || rule.taxonomyRefs.contains scope ||
    rule.categories.contains scope

/-- By its own fields, or by those of a suppression rule that matched, the rule is declared
cancelled on the data. -/
inductive Declared (rk : RuntimeKnowledge) (status : String → Option String) (gate : Level)
    (ctx : Context) (rs : List RuleResult) (rule : Rule) : Prop where
  | suppressedBy {neg : NegativeIndicator} (listed : neg.id ∈ suppressedBy rule)
      (registered : neg ∈ rk.negatives) (live : status neg.id = some "ACTIVE")
      (holds : negativeTruth rk gate ctx neg.id = .TRUE)
      (free : ∀ overrides, activeOverrides rk rule (truthOf (rawPositive rk gate ctx)) =
        .ok overrides → suppressorBlocked neg overrides = false)
  | suppression {other : Rule} {r : RuleResult} (published : other ∈ rk.rules) (result : r ∈ rs)
      (of_rule : r.ruleId = other.id) (kind : r.kind = .SUPPRESSION)
      (matched : r.evaluationState = .MATCHED) (effect : cancels other = true)
      (covers : ∃ scope ∈ suppresses other, inScope scope rule = true)

/-- A rule declared cancelled stays matched unless it did not match, the second stage degrades
it, or the library cancels it as well. -/
theorem declared_suppression_iff (rk : RuntimeKnowledge) (status : String → Option String)
    (profile : EvaluationProfile) {inds obs : List Json} {language script : String} {ctx : Context}
    (hctx : buildValidatedContext inds obs language script = .ok ctx) {rs : List RuleResult}
    (hrs : evaluateRulesFromGoverned rk profile inds obs language script = .ok rs) :
    (∀ rule ∈ rk.rules, ∀ r ∈ rs, r.ruleId = rule.id → r.kind = .COMPOSITE →
      Declared rk status profile.extractionConfidenceGate ctx rs rule →
        (apply rk r).evaluationState ≠ .MATCHED) ↔
    (∀ rule ∈ rk.rules, ∀ r ∈ rs, r.ruleId = rule.id → r.kind = .COMPOSITE →
      Declared rk status profile.extractionConfidenceGate ctx rs rule →
        r.evaluationState = .MATCHED → Sound rk r →
          BlocksFlagged rk profile.extractionConfidenceGate ctx rule →
            CancelledByLibrary rk profile.extractionConfidenceGate ctx rule) := by
  obtain ⟨ctx', hctx', heval⟩ := evaluateRulesFromGoverned_ok hrs
  obtain rfl := Except.ok.inj (hctx'.symm.trans hctx)
  refine forall₂_congr fun rule hmem => forall₂_congr fun r hr => forall₃_congr fun hid hk _ => ?_
  by_cases hm : r.evaluationState = .MATCHED
  · obtain ⟨overrides, h⟩ := exists_matched heval hmem hr hid hk hm
    rw [ne_eq, apply_matched_iff hk hm h]
    tauto
  · have hstays : (apply rk r).evaluationState ≠ .MATCHED := fun happly => hm (matched_of_apply happly)
    exact iff_of_true hstays fun hm' => absurd hm' hm

/-! ### A warning the rule declares -/

/-- The credential request, declared cancelled by a safety warning. -/
def declaringRule : Rule :=
  { sampleRule with
    logic := some (.obj [
      ("require", .obj [("all_of", .arr [.str "OTP_REQUEST", .str "URGENCY"])]),
      ("min_evidence_classes", .int 2), ("suppressed_by", .arr [.str "BANK_WARNING"])]) }

/-- A suppression rule that cancels everything on the same warning. -/
def cancellingRule : Rule :=
  { sampleRule with
    id := "TL-SAFE-001"
    kind := some "SUPPRESSION"
    logic := some (.obj [("require", .obj [("all_of", .arr [.str "BANK_WARNING"])]),
      ("suppresses", .arr [.str "*"]), ("effect", .str "SUPPRESS")]) }

def bankWarning (effect : String) : NegativeIndicator where
  id := "BANK_WARNING"
  applicableRuleFamilies := ["*"]
  suppressionEffect := some effect
  category := some "BENIGN"
  suppressesIndicators := []
  blockableByOverrides := .bool false
  severityCap := none

/-- The two rules over a library that states an effect of the warning. -/
def declaringKnowledge (effect : String) : RuntimeKnowledge :=
  { sampleKnowledge with
    rules := [declaringRule, cancellingRule]
    negatives := [bankWarning effect]
    rules_nodup := by decide
    negatives_nodup := by simp
    polarity_disjoint := by simp [sampleKnowledge, bankWarning] }

def declaringInds : List Json :=
  [sampleIndicator "OTP_REQUEST" "o-1", sampleIndicator "URGENCY" "o-1", warningInd]

def declaringResults (effect : String) : List RuleResult :=
  resultsOf (evaluateRulesFromGoverned (declaringKnowledge effect) {} declaringInds warningObs "en"
    "Latn")

/-- Where the library only takes the warning as context, the match stands against the rule's own
declaration and against that of the matched suppression rule. -/
theorem declarations_ignored :
    ∃ ctx, buildValidatedContext declaringInds warningObs "en" "Latn" = .ok ctx ∧
      Declared (declaringKnowledge "CONTEXT_ONLY") (fun _ => some "ACTIVE") .MEDIUM ctx [] declaringRule ∧
      (declaringResults "CONTEXT_ONLY").map (fun r => (r.ruleId, r.kind,
        (apply (declaringKnowledge "CONTEXT_ONLY") r).evaluationState)) =
          [("TL-OTP-001", .COMPOSITE, .MATCHED), ("TL-SAFE-001", .SUPPRESSION, .MATCHED)] ∧
      cancels cancellingRule = true ∧ suppresses cancellingRule = ["*"] := by
  have htruth : ((buildValidatedContext declaringInds warningObs "en" "Latn").toOption.map fun ctx =>
      negativeTruth (declaringKnowledge "CONTEXT_ONLY") .MEDIUM ctx "BANK_WARNING") = some .TRUE := by
    decide +kernel
  obtain ⟨ctx, hctx, hholds⟩ := Option.map_eq_some_iff.mp htruth
  refine ⟨ctx, eq_ok_of_toOption hctx, ?_, ?_⟩
  · have hreg : bankWarning "CONTEXT_ONLY" ∈ (declaringKnowledge "CONTEXT_ONLY").negatives :=
      List.mem_singleton.mpr rfl
    refine Declared.suppressedBy ?_ hreg rfl hholds ?_
    · decide +kernel
    · intro overrides hover
      -- the bundle has no overrides at all
      have hnil : overrides = [] := by
        rw [List.eq_nil_iff_forall_not_mem]
        intro o ho
        exact List.not_mem_nil ((mem_activeOverrides hover o).mp ho).1
      rw [hnil]
      rfl
  · decide +kernel

/-- The equivalence where the library cancels the match, as both declarations say. -/
theorem declared_suppression_iff_sample :
    declaringResults "SUPPRESS_RULE" ≠ [] ∧
      ∀ ctx, buildValidatedContext declaringInds warningObs "en" "Latn" = .ok ctx →
        ((∀ rule ∈ (declaringKnowledge "SUPPRESS_RULE").rules, ∀ r ∈ declaringResults "SUPPRESS_RULE",
          r.ruleId = rule.id → r.kind = .COMPOSITE →
          Declared (declaringKnowledge "SUPPRESS_RULE") (fun _ => some "ACTIVE") .MEDIUM ctx
            (declaringResults "SUPPRESS_RULE") rule →
            (apply (declaringKnowledge "SUPPRESS_RULE") r).evaluationState ≠ .MATCHED) ↔
        (∀ rule ∈ (declaringKnowledge "SUPPRESS_RULE").rules, ∀ r ∈ declaringResults "SUPPRESS_RULE",
          r.ruleId = rule.id → r.kind = .COMPOSITE →
          Declared (declaringKnowledge "SUPPRESS_RULE") (fun _ => some "ACTIVE") .MEDIUM ctx
            (declaringResults "SUPPRESS_RULE") rule →
            r.evaluationState = .MATCHED → Sound (declaringKnowledge "SUPPRESS_RULE") r →
              BlocksFlagged (declaringKnowledge "SUPPRESS_RULE") .MEDIUM ctx rule →
                CancelledByLibrary (declaringKnowledge "SUPPRESS_RULE") .MEDIUM ctx rule)) := by
  have hne : declaringResults "SUPPRESS_RULE" ≠ [] := by decide +kernel
  exact ⟨hne, fun ctx hctx => declared_suppression_iff (declaringKnowledge "SUPPRESS_RULE")
    (fun _ => some "ACTIVE") {} hctx (eq_ok_of_resultsOf hne)⟩

end TrustLens.Runtime.SuppressionExecutor
