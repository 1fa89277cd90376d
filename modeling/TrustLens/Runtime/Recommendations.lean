import Mathlib.Data.List.Pairwise
import TrustLens.Runtime.Snapshot
import TrustLens.Runtime.SuppressionReport
import TrustLens.Runtime.TrustBoundarySpec

/-!
# What the recommended actions rest on

An action is recommended exactly when an entry of the policy supports it, and the reasons it
shows are those of the entries that do. The entries are read as a set: neither their order nor
their names matter.
-/

namespace TrustLens.Runtime.Explanation

/-- What loading checks of the policy and of the taxonomy: the actions are those of the fixed
order, and no subcategory is listed twice. -/
structure GovernedPolicy (rk : RuntimeKnowledge) : Prop where
  actions : ∀ e ∈ rk.actionPolicy, e.actionCode ∈ actionOrder
  subcategories : (rk.taxonomy.flatMap TaxonomyCategory.subcategories).Nodup

/-! ### What supports an entry -/

/-- The id is a taxonomy reference of the rule, or the parent category of one. -/
def Taxon (rk : RuntimeKnowledge) (rule : Rule) (id : String) : Prop :=
  id ∈ rule.taxonomyRefs ∨
    ∃ ref ∈ rule.taxonomyRefs, ∃ c ∈ rk.taxonomy, c.id = id ∧ ref ∈ c.subcategories

/-- A result of the decision matched. -/
def MatchedIn (d : SuppliedDecision) (rid : String) : Prop :=
  ∃ r ∈ d.results, r.isEligibleMatched = true ∧ r.ruleId = rid

/-- A rule an open decision turns on. -/
def UnresolvedIn (d : SuppliedDecision) (rid : String) : Prop :=
  d.classification = "INSUFFICIENT_EVIDENCE" ∧
    ∃ r ∈ d.results, r.isUnresolvedHarmful = true ∧ r.ruleId = rid

inductive Reason where
  | rule (id : String)
  | indicator (id : String)
  | override (id : String)
  /-- the state of the system, which has no id -/
  | system
deriving DecidableEq

/-- The entry's trigger holds for the decision, for this reason. -/
inductive Supports (rk : RuntimeKnowledge) (live : Bool) (d : SuppliedDecision)
    (e : ActionPolicyEntry) : Reason → Prop where
  | override {id : String} (type : e.triggerType = .OVERRIDE) (trigger : e.triggerId = some id)
      (active : id ∈ d.activeOverrides) : Supports rk live d e (.override id)
  | rule {rid : String} (type : e.triggerType = .RULE) (trigger : e.triggerId = some rid)
      (matched : MatchedIn d rid) : Supports rk live d e (.rule rid)
  | taxonomy {id rid : String} {rule : Rule} (type : e.triggerType = .TAXONOMY)
      (trigger : e.triggerId = some id) (matched : MatchedIn d rid)
      (found : ruleOf rk live rid = some rule) (taxon : Taxon rk rule id) :
      Supports rk live d e (.rule rid)
  | negative {id : String} (type : e.triggerType = .NEGATIVE_INDICATOR)
      (trigger : e.triggerId = some id) (matched : id ∈ d.matchedNegativeIndicators) :
      Supports rk live d e (.indicator id)
  | verification {rid : String} {rule : Rule} (type : e.triggerType = .RULE_VERIFICATION_POLICY)
      (relevant : MatchedIn d rid ∨ UnresolvedIn d rid) (found : ruleOf rk live rid = some rule)
      (steps : rule.verificationSteps ≠ []) : Supports rk live d e (.rule rid)
  | classification (type : e.triggerType = .SYSTEM_CLASSIFICATION)
      (trigger : e.triggerId = some d.classification) : Supports rk live d e .system
  | supportStatus (type : e.triggerType = .SYSTEM_SUPPORT_STATUS)
      (trigger : e.triggerId = some d.inputSupportStatus) : Supports rk live d e .system

/-- `applies_when` -/
def Admits (d : SuppliedDecision) (e : ActionPolicyEntry) : Prop :=
  ∀ allowed, e.classifications = some allowed → d.classification ∈ allowed

/-- The entry contributes its action for this reason. -/
def Contributes (rk : RuntimeKnowledge) (live : Bool) (d : SuppliedDecision) (code : String)
    (e : ActionPolicyEntry) (reason : Reason) : Prop :=
  e.actionCode = code ∧ Admits d e ∧ Supports rk live d e reason

/-- The actions are those the policy supports, each once and with all its reasons. -/
structure Recommended (rk : RuntimeKnowledge) (live : Bool) (d : SuppliedDecision)
    (out : List RecommendedAction) : Prop where
  ordered : (out.map RecommendedAction.actionCode).Sublist actionOrder
  once : (out.map RecommendedAction.actionCode).Nodup
  emitted : ∀ code, code ∈ out.map RecommendedAction.actionCode ↔
    ∃ e ∈ rk.actionPolicy, ∃ reason, Contributes rk live d code e reason
  rules : ∀ a ∈ out, ∀ id, id ∈ a.reasonRuleIds ↔
    ∃ e ∈ rk.actionPolicy, Contributes rk live d a.actionCode e (.rule id)
  indicators : ∀ a ∈ out, ∀ id, id ∈ a.reasonIndicatorIds ↔
    ∃ e ∈ rk.actionPolicy, Contributes rk live d a.actionCode e (.indicator id)
  overrides : ∀ a ∈ out, ∀ id, id ∈ a.reasonOverrideIds ↔
    ∃ e ∈ rk.actionPolicy, Contributes rk live d a.actionCode e (.override id)
  evidence : ∀ a ∈ out, ∀ ref, ref ∈ a.evidenceRefs ↔
    ∃ e ∈ rk.actionPolicy, (∃ reason, Contributes rk live d a.actionCode e reason) ∧
      ref ∈ e.evidenceRefs

/-! ### The trigger of one entry -/

section Trigger

variable {rk : RuntimeKnowledge} {live : Bool} {d : SuppliedDecision} {e : ActionPolicyEntry}

/-- The parent of a subcategory is the category that lists it. -/
lemma taxonomyParent_iff (h : (rk.taxonomy.flatMap TaxonomyCategory.subcategories).Nodup)
    {ref id : String} : taxonomyParent rk ref = some id ↔
      ∃ c ∈ rk.taxonomy, c.id = id ∧ ref ∈ c.subcategories := by
  have hunique : ∀ c ∈ rk.taxonomy, ∀ c' ∈ rk.taxonomy, ref ∈ c.subcategories →
      ref ∈ c'.subcategories → c = c' := by
    intro c hc c' hc' href href'
    by_contra hne
    have : Std.Symm (Function.onFun List.Disjoint TaxonomyCategory.subcategories) :=
      ⟨fun _ _ hd => List.Disjoint.symm hd⟩
    have hdisjoint := (List.nodup_flatMap.mp h).2.forall hc hc' hne
    exact hdisjoint href href'
  constructor
  · intro hparent
    obtain ⟨c, hfind, rfl⟩ := Option.map_eq_some_iff.mp hparent
    exact ⟨c, List.mem_reverse.mp (List.mem_of_find?_eq_some hfind), rfl,
      by simpa using List.find?_some hfind⟩
  · rintro ⟨c, hc, rfl, href⟩
    have hsome : (rk.taxonomy.reverse.find? (·.subcategories.contains ref)).isSome :=
      List.find?_isSome.mpr ⟨c, List.mem_reverse.mpr hc, by simpa using href⟩
    obtain ⟨c', hfind⟩ := Option.isSome_iff_exists.mp hsome
    have href' : ref ∈ c'.subcategories := by simpa using List.find?_some hfind
    have hsame := hunique c' (List.mem_reverse.mp (List.mem_of_find?_eq_some hfind)) c hc href' href
    rw [taxonomyParent, hfind, hsame]
    rfl

lemma mem_ruleTaxonomyIds (h : (rk.taxonomy.flatMap TaxonomyCategory.subcategories).Nodup)
    {rule : Option Rule} {id : String} :
    id ∈ ruleTaxonomyIds rk rule ↔ ∃ r, rule = some r ∧ Taxon rk r id := by
  cases rule with
  | none => simp [ruleTaxonomyIds]
  | some r =>
    simp only [ruleTaxonomyIds, Option.map_some, Option.getD_some, List.mem_append,
      List.mem_filterMap, taxonomyParent_iff h, Option.some.injEq, exists_eq_left', Taxon]

lemma mem_matchedRules_iff (hd : Accepted render rk live d) {rid : String} :
    rid ∈ d.matchedRules ↔ MatchedIn d rid := by
  have hrollup := (hd.rollups _ List.mem_cons_self).2
  rw [← List.mem_insertionSort (· ≤ ·), hrollup, mem_sortedUnique]
  simp only [SuppliedDecision.eligible, List.mem_map, List.mem_filter, MatchedIn, and_assoc]

lemma mem_decisiveUnresolved {rid : String} : rid ∈ decisiveUnresolved d ↔ UnresolvedIn d rid := by
  rw [decisiveUnresolved]
  split_ifs with hopen
  · simp only [List.mem_map, List.mem_filter, UnresolvedIn, hopen, true_and, and_assoc]
  · simp only [List.not_mem_nil, UnresolvedIn, hopen, false_and]

lemma mem_verificationRules (hd : Accepted render rk live d) {rid : String} :
    rid ∈ verificationRules rk live d ↔
      (MatchedIn d rid ∨ UnresolvedIn d rid) ∧
        ∃ rule, ruleOf rk live rid = some rule ∧ rule.verificationSteps ≠ [] := by
  rw [verificationRules, mem_sortedUnique, List.mem_filter, List.mem_append,
    mem_matchedRules_iff hd, mem_decisiveUnresolved]
  refine and_congr_right fun _ => ?_
  rw [hasSteps, Option.any_eq_true]
  simp

/-- What supports an entry, by the type of its trigger. -/
lemma supports_iff {reason : Reason} : Supports rk live d e reason ↔
    match e.triggerType, e.triggerId with
    | .OVERRIDE, some id => id ∈ d.activeOverrides ∧ reason = .override id
    | .RULE, some id => MatchedIn d id ∧ reason = .rule id
    | .TAXONOMY, some id => ∃ rid, (MatchedIn d rid ∧
        ∃ rule, ruleOf rk live rid = some rule ∧ Taxon rk rule id) ∧ reason = .rule rid
    | .NEGATIVE_INDICATOR, some id => id ∈ d.matchedNegativeIndicators ∧ reason = .indicator id
    | .RULE_VERIFICATION_POLICY, _ => ∃ rid, ((MatchedIn d rid ∨ UnresolvedIn d rid) ∧
        ∃ rule, ruleOf rk live rid = some rule ∧ rule.verificationSteps ≠ []) ∧ reason = .rule rid
    | .SYSTEM_CLASSIFICATION, some id => id = d.classification ∧ reason = .system
    | .SYSTEM_SUPPORT_STATUS, some id => id = d.inputSupportStatus ∧ reason = .system
    | _, none => False := by
  constructor
  · intro h
    cases h with
    | override type trigger active =>
      rw [type, trigger]
      exact ⟨active, rfl⟩
    | rule type trigger matched =>
      rw [type, trigger]
      exact ⟨matched, rfl⟩
    | taxonomy type trigger matched found taxon =>
      rw [type, trigger]
      exact ⟨_, ⟨matched, _, found, taxon⟩, rfl⟩
    | negative type trigger matched =>
      rw [type, trigger]
      exact ⟨matched, rfl⟩
    | verification type relevant found steps =>
      rw [type]
      exact ⟨_, ⟨relevant, _, found, steps⟩, rfl⟩
    | classification type trigger =>
      rw [type, trigger]
      exact ⟨rfl, rfl⟩
    | supportStatus type trigger =>
      rw [type, trigger]
      exact ⟨rfl, rfl⟩
  · intro h
    split at h
    · rename_i type trigger
      obtain ⟨hactive, rfl⟩ := h
      exact .override type trigger hactive
    · rename_i type trigger
      obtain ⟨hmatched, rfl⟩ := h
      exact .rule type trigger hmatched
    · rename_i type trigger
      obtain ⟨rid, ⟨hmatched, rule, hfound, htaxon⟩, rfl⟩ := h
      exact .taxonomy type trigger hmatched hfound htaxon
    · rename_i type trigger
      obtain ⟨hmatched, rfl⟩ := h
      exact .negative type trigger hmatched
    · rename_i type
      obtain ⟨rid, ⟨hrelevant, rule, hfound, hsteps⟩, rfl⟩ := h
      exact .verification type hrelevant hfound hsteps
    · rename_i type trigger
      obtain ⟨rfl, rfl⟩ := h
      exact .classification type trigger
    · rename_i type trigger
      obtain ⟨rfl, rfl⟩ := h
      exact .supportStatus type trigger
    · cases h

lemma admits_iff : Admits d e ↔
    ¬e.classifications.any (fun allowed => !allowed.contains d.classification) = true := by
  cases h : e.classifications <;> simp [Admits, h]

/-- What an entry contributes when it does: lists of the reasons that support it. -/
structure Lists (rk : RuntimeKnowledge) (live : Bool) (d : SuppliedDecision)
    (e : ActionPolicyEntry) (t : List String × List String × List String) : Prop where
  admits : Admits d e
  supported : ∃ reason, Supports rk live d e reason
  rules : ∀ id, id ∈ t.1 ↔ Supports rk live d e (.rule id)
  indicators : ∀ id, id ∈ t.2.1 ↔ Supports rk live d e (.indicator id)
  overrides : ∀ id, id ∈ t.2.2 ↔ Supports rk live d e (.override id)

lemma mem_taxonomyRules (hk : GovernedPolicy rk) (hd : Accepted render rk live d)
    {id rid : String} :
    (rid ∈ d.matchedRules.filter fun rid => (ruleTaxonomyIds rk (ruleOf rk live rid)).contains id) ↔
      MatchedIn d rid ∧ ∃ rule, ruleOf rk live rid = some rule ∧ Taxon rk rule id := by
  rw [List.mem_filter, mem_matchedRules_iff hd, List.contains_iff_mem,
    mem_ruleTaxonomyIds hk.subcategories]

/-- An entry that does not apply, or whose trigger no reason supports. -/
def Idle (rk : RuntimeKnowledge) (live : Bool) (d : SuppliedDecision) (e : ActionPolicyEntry) :
    Prop :=
  ¬(Admits d e ∧ ∃ reason, Supports rk live d e reason)

/-- An entry is idle, or contributes all the reasons that support it. -/
lemma triggered_cases (hk : GovernedPolicy rk) (hd : Accepted render rk live d) :
    triggered rk live d e = none ∧ Idle rk live d e ∨
      ∃ t, triggered rk live d e = some t ∧ Lists rk live d e t := by
  unfold triggered
  by_cases hadmits : Admits d e
  swap
  · rw [if_pos (by simpa [admits_iff] using hadmits)]
    exact .inl ⟨rfl, fun h => hadmits h.1⟩
  rw [if_neg (admits_iff.mp hadmits)]
  split
  · rename_i id type trigger
    split_ifs with hactive
    · exact .inr ⟨_, rfl, hadmits, ⟨_, .override type trigger hactive⟩,
        by simp [supports_iff, type, trigger], by simp [supports_iff, type, trigger],
        by simp [supports_iff, type, trigger, hactive]⟩
    · exact .inl ⟨rfl, by simp [Idle, supports_iff, type, trigger, hactive]⟩
  · rename_i id type trigger
    split_ifs with hmatched <;> rw [mem_matchedRules_iff hd] at hmatched
    · exact .inr ⟨_, rfl, hadmits, ⟨_, .rule type trigger hmatched⟩,
        by simp [supports_iff, type, trigger, hmatched], by simp [supports_iff, type, trigger],
        by simp [supports_iff, type, trigger]⟩
    · exact .inl ⟨rfl, by simp [Idle, supports_iff, type, trigger, hmatched]⟩
  · rename_i id type trigger
    dsimp only
    split_ifs with hnil
    · refine .inl ⟨rfl, ?_⟩
      rintro ⟨-, reason, h⟩
      rw [supports_iff, type, trigger] at h
      obtain ⟨rid, h, -⟩ := h
      have := (mem_taxonomyRules hk hd).mpr h
      simp only [hnil, List.not_mem_nil] at this
    · obtain ⟨rid, hrid⟩ := List.exists_mem_of_ne_nil _ hnil
      obtain ⟨hmatched, rule, hfound, htaxon⟩ := (mem_taxonomyRules hk hd).mp hrid
      refine .inr ⟨_, rfl, hadmits, ⟨_, .taxonomy type trigger hmatched hfound htaxon⟩, fun id => ?_,
        by simp [supports_iff, type, trigger], by simp [supports_iff, type, trigger]⟩
      rw [mem_taxonomyRules hk hd, supports_iff, type, trigger]
      simp
  · rename_i id type trigger
    split_ifs with hmatched
    · exact .inr ⟨_, rfl, hadmits, ⟨_, .negative type trigger hmatched⟩,
        by simp [supports_iff, type, trigger], by simp [supports_iff, type, trigger, hmatched],
        by simp [supports_iff, type, trigger]⟩
    · exact .inl ⟨rfl, by simp [Idle, supports_iff, type, trigger, hmatched]⟩
  · rename_i type
    split_ifs with hnil
    · refine .inl ⟨rfl, ?_⟩
      rintro ⟨-, reason, h⟩
      rw [supports_iff, type] at h
      obtain ⟨rid, h, -⟩ := h
      have := (mem_verificationRules hd).mpr h
      simp only [hnil, List.not_mem_nil] at this
    · obtain ⟨rid, hrid⟩ := List.exists_mem_of_ne_nil _ hnil
      obtain ⟨hrelevant, rule, hfound, hsteps⟩ := (mem_verificationRules hd).mp hrid
      refine .inr ⟨_, rfl, hadmits, ⟨_, .verification type hrelevant hfound hsteps⟩, fun id => ?_,
        by simp [supports_iff, type], by simp [supports_iff, type]⟩
      rw [mem_verificationRules hd, supports_iff, type]
      simp
  · rename_i id type trigger
    split_ifs with hclass
    · exact .inr ⟨_, rfl, hadmits, ⟨_, .classification type (hclass ▸ trigger)⟩,
        by simp [supports_iff, type, trigger], by simp [supports_iff, type, trigger],
        by simp [supports_iff, type, trigger]⟩
    · exact .inl ⟨rfl, by simp [Idle, supports_iff, type, trigger, hclass]⟩
  · rename_i id type trigger
    split_ifs with hstatus
    · exact .inr ⟨_, rfl, hadmits, ⟨_, .supportStatus type (hstatus ▸ trigger)⟩,
        by simp [supports_iff, type, trigger], by simp [supports_iff, type, trigger],
        by simp [supports_iff, type, trigger]⟩
    · exact .inl ⟨rfl, by simp [Idle, supports_iff, type, trigger, hstatus]⟩
  · rename_i trigger hne
    refine .inl ⟨rfl, ?_⟩
    rintro ⟨-, reason, h⟩
    cases h with
    | verification type relevant found steps => exact hne type
    | override type h | rule type h | taxonomy type h | negative type h | classification type h
    | supportStatus type h => cases trigger.symm.trans h

end Trigger

/-! ### The actions -/

section Actions

variable {render : ErrorMessage → String} {rk : RuntimeKnowledge} {live : Bool}
variable {d : SuppliedDecision}

lemma mem_firing {code : String} {p : ActionPolicyEntry × List String × List String × List String} :
    p ∈ firing rk live d code ↔
      p.1 ∈ rk.actionPolicy ∧ p.1.actionCode = code ∧ triggered rk live d p.1 = some p.2 := by
  obtain ⟨e, t⟩ := p
  simp only [firing, List.mem_filterMap, List.mem_filter, beq_iff_eq, Option.map_eq_some_iff,
    Prod.mk.injEq]
  constructor
  · rintro ⟨e', ⟨he, hcode⟩, t', htriggered, rfl, rfl⟩
    exact ⟨he, hcode, htriggered⟩
  · rintro ⟨he, hcode, htriggered⟩
    exact ⟨e, ⟨he, hcode⟩, t, htriggered, rfl, rfl⟩

/-- The reasons the entries for one action contribute, over all that fire. -/
lemma exists_firing_iff (hk : GovernedPolicy rk) (hd : Accepted render rk live d) {code : String}
    {p : ActionPolicyEntry → List String × List String × List String → Prop}
    {q : ActionPolicyEntry → Prop}
    (hpq : ∀ e t, Lists rk live d e t → (p e t ↔ q e)) :
    (∃ f ∈ firing rk live d code, p f.1 f.2) ↔
      ∃ e ∈ rk.actionPolicy, (∃ reason, Contributes rk live d code e reason) ∧ q e := by
  constructor
  · rintro ⟨⟨e, t⟩, hf, hp⟩
    obtain ⟨he, hcode, htriggered⟩ := mem_firing.mp hf
    obtain ⟨hnone, -⟩ | ⟨t', ht', hlists⟩ := triggered_cases (e := e) hk hd
    · cases htriggered.symm.trans hnone
    · obtain rfl : t = t' := Option.some.inj (htriggered.symm.trans ht')
      obtain ⟨reason, hsupports⟩ := hlists.supported
      exact ⟨e, he, ⟨reason, hcode, hlists.admits, hsupports⟩, (hpq e t hlists).mp hp⟩
  · rintro ⟨e, he, ⟨reason, hcode, hadmits, hsupports⟩, hq⟩
    obtain ⟨-, hidle⟩ | ⟨t, htriggered, hlists⟩ := triggered_cases (e := e) hk hd
    · exact absurd ⟨hadmits, reason, hsupports⟩ hidle
    · exact ⟨(e, t), mem_firing.mpr ⟨he, hcode, htriggered⟩, (hpq e t hlists).mpr hq⟩

lemma exists_contributes_iff {code : String} {reason : Reason} :
    (∃ e ∈ rk.actionPolicy, (∃ reason, Contributes rk live d code e reason) ∧
        Supports rk live d e reason) ↔
      ∃ e ∈ rk.actionPolicy, Contributes rk live d code e reason := by
  constructor
  · rintro ⟨e, he, ⟨-, hcode, hadmits, -⟩, hsupports⟩
    exact ⟨e, he, hcode, hadmits, hsupports⟩
  · rintro ⟨e, he, hcode, hadmits, hsupports⟩
    exact ⟨e, he, ⟨reason, hcode, hadmits, hsupports⟩, hsupports⟩

/-- The action as its entries give it. -/
def actionOf (rk : RuntimeKnowledge) (live : Bool) (d : SuppliedDecision) (code : String) :
    RecommendedAction where
  actionCode := code
  reasonRuleIds := sortedUnique ((firing rk live d code).flatMap (·.2.1))
  reasonIndicatorIds := sortedUnique ((firing rk live d code).flatMap (·.2.2.1))
  reasonOverrideIds := sortedUnique ((firing rk live d code).flatMap (·.2.2.2))
  evidenceRefs := sortedUnique ((firing rk live d code).flatMap (·.1.evidenceRefs))

lemma recommendedActions_eq :
    recommendedActions rk live d =
      (actionOrder.filter fun code => !(firing rk live d code).isEmpty).map
        (actionOf rk live d) := by
  rw [recommendedActions, ← List.filterMap_eq_map, List.filterMap_filter]
  refine List.filterMap_congr fun code _ => ?_
  cases h : firing rk live d code with
  | nil => rfl
  | cons f rest => simp [actionOf, h]

lemma map_actionCode : (recommendedActions rk live d).map RecommendedAction.actionCode =
    actionOrder.filter fun code => !(firing rk live d code).isEmpty := by
  rw [recommendedActions_eq, List.map_map]
  exact List.map_id _

lemma eq_actionOf {a : RecommendedAction} (ha : a ∈ recommendedActions rk live d) :
    a = actionOf rk live d a.actionCode := by
  rw [recommendedActions_eq] at ha
  obtain ⟨code, -, rfl⟩ := List.mem_map.mp ha
  rfl

lemma mem_reasons_iff (hk : GovernedPolicy rk) (hd : Accepted render rk live d) {code : String}
    (part : List String × List String × List String → List String) (of : String → Reason)
    (hpart : ∀ e t, Lists rk live d e t → ∀ id, id ∈ part t ↔ Supports rk live d e (of id))
    {id : String} :
    id ∈ sortedUnique ((firing rk live d code).flatMap fun f => part f.2) ↔
      ∃ e ∈ rk.actionPolicy, Contributes rk live d code e (of id) := by
  rw [mem_sortedUnique, List.mem_flatMap, ← exists_contributes_iff]
  exact exists_firing_iff (p := fun _ t => id ∈ part t) hk hd fun e t h => hpart e t h id

theorem recommended (hk : GovernedPolicy rk) (hd : Accepted render rk live d) :
    Recommended rk live d (recommendedActions rk live d) := by
  constructor
  case ordered =>
    rw [map_actionCode]
    exact List.filter_sublist
  case once =>
    rw [map_actionCode]
    exact List.Nodup.filter _ (by decide)
  case emitted =>
    intro code
    rw [map_actionCode, List.mem_filter]
    have hfires : (!(firing rk live d code).isEmpty) = true ↔
        ∃ e ∈ rk.actionPolicy, (∃ reason, Contributes rk live d code e reason) ∧ True := by
      rw [← exists_firing_iff (p := fun _ _ => True) hk hd fun _ _ _ => Iff.rfl]
      cases firing rk live d code <;> simp
    rw [hfires]
    constructor
    · rintro ⟨-, e, he, hcontributes, -⟩
      exact ⟨e, he, hcontributes⟩
    · rintro ⟨e, he, reason, hcode, hrest⟩
      exact ⟨hcode ▸ hk.actions e he, e, he, ⟨reason, hcode, hrest⟩, trivial⟩
  case rules =>
    intro a ha id
    rw [eq_actionOf ha]
    exact mem_reasons_iff hk hd (·.1) .rule fun _ _ h => h.rules
  case indicators =>
    intro a ha id
    rw [eq_actionOf ha]
    exact mem_reasons_iff hk hd (·.2.1) .indicator fun _ _ h => h.indicators
  case overrides =>
    intro a ha id
    rw [eq_actionOf ha]
    exact mem_reasons_iff hk hd (·.2.2) .override fun _ _ h => h.overrides
  case evidence =>
    intro a ha ref
    rw [eq_actionOf ha]
    simp only [actionOf, mem_sortedUnique, List.mem_flatMap]
    exact exists_firing_iff (p := fun e _ => ref ∈ e.evidenceRefs) hk hd fun _ _ _ => Iff.rfl

/-! ### The policy as a set -/

/-- The entry without its name. -/
def unnamed (e : ActionPolicyEntry) : ActionPolicyEntry := { e with id := "" }

/-- The knowledge with another policy. -/
def withPolicy (rk : RuntimeKnowledge) (policy : List ActionPolicyEntry) : RuntimeKnowledge :=
  { rk with actionPolicy := policy }

lemma triggered_unnamed (policy : List ActionPolicyEntry) (e : ActionPolicyEntry) :
    triggered (withPolicy rk policy) live d (unnamed e) = triggered rk live d e := rfl

lemma firing_unnamed (policy : List ActionPolicyEntry) (code : String) :
    (firing (withPolicy rk policy) live d code).map (fun f => (unnamed f.1, f.2)) =
      firing (withPolicy rk (policy.map unnamed)) live d code := by
  simp only [firing, withPolicy, List.filter_map, List.filterMap_map, List.map_filterMap]
  refine List.filterMap_congr fun e _ => ?_
  rw [Option.map_map, Function.comp_apply]
  rfl

lemma firing_perm (rk : RuntimeKnowledge) (live : Bool) (d : SuppliedDecision)
    {policy policy' : List ActionPolicyEntry} (h : policy'.Perm policy) (code : String) :
    (firing (withPolicy rk policy') live d code).Perm (firing (withPolicy rk policy) live d code) :=
  (h.filter _).filterMap _

lemma actionOf_unnamed (policy : List ActionPolicyEntry) (code : String) :
    actionOf (withPolicy rk (policy.map unnamed)) live d code =
      actionOf (withPolicy rk policy) live d code := by
  simp only [actionOf, ← firing_unnamed, List.flatMap_map]
  rfl

lemma actionOf_perm {policy policy' : List ActionPolicyEntry} (h : policy'.Perm policy)
    (code : String) :
    actionOf (withPolicy rk policy') live d code = actionOf (withPolicy rk policy) live d code := by
  have hperm := firing_perm rk live d h code
  simp only [actionOf]
  congr 1 <;> exact sortedUnique_congr fun _ => (hperm.flatMap_right _).mem_iff

lemma recommendedActions_unnamed (policy : List ActionPolicyEntry) :
    recommendedActions (withPolicy rk (policy.map unnamed)) live d =
      recommendedActions (withPolicy rk policy) live d := by
  simp only [recommendedActions_eq, ← firing_unnamed, List.isEmpty_map]
  exact List.map_congr_left fun code _ => actionOf_unnamed policy code

lemma recommendedActions_perm {policy policy' : List ActionPolicyEntry} (h : policy'.Perm policy) :
    recommendedActions (withPolicy rk policy') live d =
      recommendedActions (withPolicy rk policy) live d := by
  have hempty : ∀ code, (firing (withPolicy rk policy') live d code).isEmpty =
      (firing (withPolicy rk policy) live d code).isEmpty := fun code =>
    (firing_perm rk live d h code).isEmpty_eq
  simp only [recommendedActions_eq, hempty]
  exact List.map_congr_left fun code _ => actionOf_perm h code

/-- The rules an action names matched, or are the open ones a verification entry is about. -/
def NamesMatched (rk : RuntimeKnowledge) (live : Bool) (d : SuppliedDecision)
    (a : RecommendedAction) : Prop :=
  ∀ id ∈ a.reasonRuleIds,
    (∃ r ∈ d.results, r.ruleId = id ∧ r.evaluationState = .MATCHED) ∨
      (d.classification = "INSUFFICIENT_EVIDENCE" ∧
        (∃ r ∈ d.results, r.ruleId = id ∧ r.isUnresolvedHarmful = true) ∧
        ∃ e ∈ rk.actionPolicy, e.triggerType = .RULE_VERIFICATION_POLICY ∧
          Contributes rk live d a.actionCode e (.rule id))

lemma MatchedIn.exists_matched {id : String} (h : MatchedIn d id) :
    ∃ r ∈ d.results, r.ruleId = id ∧ r.evaluationState = .MATCHED := by
  obtain ⟨r, hr, heligible, hid⟩ := h
  refine ⟨r, hr, hid, ?_⟩
  simp only [RuleResult.isEligibleMatched, Bool.and_eq_true, beq_iff_eq] at heligible
  exact heligible.1.1.2

lemma names_matched (hk : GovernedPolicy rk) (hd : Accepted render rk live d)
    {a : RecommendedAction} (ha : a ∈ recommendedActions rk live d) : NamesMatched rk live d a := by
  intro id hid
  obtain ⟨e, he, hcontributes⟩ := ((recommended hk hd).rules a ha id).mp hid
  have hsupports := hcontributes.2.2
  cases hsupports with
  | rule _ _ matched | taxonomy _ _ matched => exact .inl matched.exists_matched
  | verification type relevant =>
    rcases relevant with matched | ⟨hopen, r, hr, hunresolved, hid⟩
    · exact .inl matched.exists_matched
    · exact .inr ⟨hopen, ⟨r, hr, hid, hunresolved⟩, e, he, type, hcontributes⟩

/-- The recommended actions of an accepted decision are those the policy supports, and depend on
the policy as a set of entries without names. -/
theorem recommended_actions_governed (render : ErrorMessage → String) (rk : RuntimeKnowledge)
    (live : Bool) (d : SuppliedDecision) (hk : GovernedPolicy rk)
    (h : validateInput render rk live d = .ok ()) :
    Recommended rk live d (recommendedActions rk live d) ∧
      (∀ a ∈ recommendedActions rk live d, NamesMatched rk live d a) ∧
      ∀ policy, (policy.map unnamed).Perm (rk.actionPolicy.map unnamed) →
        recommendedActions (withPolicy rk policy) live d = recommendedActions rk live d := by
  have hd := validateInput_ok_iff.mp h
  refine ⟨recommended hk hd, fun a ha => names_matched hk hd ha, fun policy hpolicy => ?_⟩
  calc recommendedActions (withPolicy rk policy) live d
      = recommendedActions (withPolicy rk (policy.map unnamed)) live d :=
        (recommendedActions_unnamed policy).symm
    _ = recommendedActions (withPolicy rk (rk.actionPolicy.map unnamed)) live d :=
        recommendedActions_perm hpolicy
    _ = recommendedActions rk live d := recommendedActions_unnamed rk.actionPolicy

end Actions

section Sample

/-- The bundle whose warning cancels the rule, with an entry for the warning. -/
def reportingKnowledge : RuntimeKnowledge :=
  { warningKnowledge "SUPPRESS_RULE" none with
    actionPolicy := [⟨"AP-001", .NEGATIVE_INDICATOR, some "BANK_WARNING", "REPORT_CYBERCRIME", none,
      []⟩]
    componentVersions := [("action_policy", "1.0.0")] }

lemma governed_reportingKnowledge : GovernedPolicy reportingKnowledge where
  actions := by decide
  subcategories := by decide

/-- The reason ids of the actions come from rules that matched, or from the open rules of an
undecided input. -/
def FromMatched (d : SuppliedDecision) (out : List RecommendedAction) : Prop :=
  d.classification ≠ "INSUFFICIENT_EVIDENCE" → ∀ a ∈ out,
    (∀ id ∈ a.reasonRuleIds, ∃ r ∈ d.results, r.evaluationState = .MATCHED ∧ r.ruleId = id) ∧
      ∀ id ∈ a.reasonIndicatorIds, ∃ r ∈ d.results, r.evaluationState = .MATCHED ∧
        id ∈ r.matchedNegativeIndicators

/-- The decision on the reporting bundle is accepted, and `p` holds of it. -/
def reportingDecides (p : SuppliedDecision → Bool) : Bool :=
  warningDecides reportingKnowledge fun _ d =>
    (validateInput (fun _ => "") reportingKnowledge true (d.supply fun _ => "")).toOption.isSome &&
      p (d.supply fun _ => "")

lemma exists_of_reportingDecides (p : SuppliedDecision → Bool) (h : reportingDecides p = true) :
    ∃ d, validateInput (fun _ => "") reportingKnowledge true d = .ok () ∧ p d = true := by
  obtain ⟨_, d, -, -, h⟩ := exists_of_warningDecides _ _ h
  obtain ⟨hvalid, hp⟩ := Bool.and_eq_true_iff.mp h
  obtain ⟨⟨⟩, hvalid⟩ := Option.isSome_iff_exists.mp hvalid
  exact ⟨_, eq_ok_of_toOption hvalid, hp⟩

/-- A warning that cancelled the only rule is the reason for an action. -/
theorem suppressed_rule_reason :
    ¬∀ (render : ErrorMessage → String) (rk : RuntimeKnowledge) (live : Bool)
      (d : SuppliedDecision), GovernedPolicy rk → validateInput render rk live d = .ok () →
      FromMatched d (recommendedActions rk live d) := by
  intro h
  obtain ⟨d, hvalid, hp⟩ := exists_of_reportingDecides
    (fun d => d.classification != "INSUFFICIENT_EVIDENCE" &&
      d.results.all (fun r => r.evaluationState != .MATCHED) &&
      (recommendedActions reportingKnowledge true d).any
        (·.reasonIndicatorIds.contains "BANK_WARNING")) (by decide +kernel)
  simp only [Bool.and_eq_true, bne_iff_ne] at hp
  obtain ⟨⟨hclassification, hnone⟩, hreason⟩ := hp
  obtain ⟨a, ha, hid⟩ := List.any_eq_true.mp hreason
  obtain ⟨r, hr, hmatched, -⟩ := (h _ _ _ d governed_reportingKnowledge hvalid hclassification a
    ha).2 "BANK_WARNING" (List.contains_iff_mem.mp hid)
  have := List.all_eq_true.mp hnone r hr
  simp [hmatched] at this

theorem recommended_actions_governed_sample :
    ∃ d, validateInput (fun _ => "") reportingKnowledge true d = .ok () ∧
      Recommended reportingKnowledge true d (recommendedActions reportingKnowledge true d) ∧
      (∀ a ∈ recommendedActions reportingKnowledge true d,
        NamesMatched reportingKnowledge true d a) ∧
      ∀ policy, (policy.map unnamed).Perm (reportingKnowledge.actionPolicy.map unnamed) →
        recommendedActions (withPolicy reportingKnowledge policy) true d =
          recommendedActions reportingKnowledge true d := by
  obtain ⟨d, hvalid, -⟩ := exists_of_reportingDecides (fun _ => true) (by decide +kernel)
  exact ⟨d, hvalid, recommended_actions_governed _ _ _ d governed_reportingKnowledge hvalid⟩

end Sample


end TrustLens.Runtime.Explanation
