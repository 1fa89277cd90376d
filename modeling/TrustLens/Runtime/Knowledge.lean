import TrustLens.Runtime.Condition

/-!
# Runtime knowledge

The records of a loaded bundle, with the attributes the stages read. The loader
fixes the shape of the list attributes and the uniqueness of ids; it does not
check the values of the other attributes, so those are whatever text, or
whatever JSON, the bundle carries. An absent attribute and a null one read alike.
-/

namespace TrustLens.Runtime

/-- `evidence.source_references` of a rule, with the `manual_retrieval` it nests. -/
structure SourceReference where
  sourceId : Option String
  issuingBody : Option String
  authority : Option String
  verificationStatus : Option String
  evidenceClass : Option String
  evidenceIds : List String
  quote : Option String
deriving DecidableEq

structure Rule where
  id : String
  ruleVersion : Option String
  schemaVersion : Option String
  name : Option String
  kind : Option String
  status : Option String
  languageScope : Option Json
  logic : Option Json
  taxonomyRefs : List String
  severity : Json
  verdict : Json
  severityCap : Json
  sourceReferences : List SourceReference
  plain : Option String
  technical : Option String
  whyConfidenceLimited : Option String
  verificationSteps : List String
deriving DecidableEq

structure Indicator where
  id : String
  evidenceClass : Option String
  strength : Option String
deriving DecidableEq

structure NegativeIndicator where
  id : String
  applicableRuleFamilies : List String
  suppressionEffect : Option String
  category : Option String
  suppressesIndicators : List String
  blockableByOverrides : Json
  severityCap : Option String
deriving DecidableEq

structure Override where
  id : String
  condition : Json
  appliesToRules : List String
  appliesToFamilies : List String
  blocksSuppressionCategories : Option (List String)
deriving DecidableEq

inductive TriggerType where
  | OVERRIDE
  | RULE
  | TAXONOMY
  | NEGATIVE_INDICATOR
  | RULE_VERIFICATION_POLICY
  | SYSTEM_CLASSIFICATION
  | SYSTEM_SUPPORT_STATUS
deriving DecidableEq

structure ActionPolicyEntry where
  id : String
  triggerType : TriggerType
  triggerId : Option String
  actionCode : String
  classifications : Option (List String)
  evidenceRefs : List String
deriving DecidableEq

/-- A taxonomy category with the ids of its subcategories. -/
structure TaxonomyCategory where
  id : String
  subcategories : List String
deriving DecidableEq

structure RuntimeKnowledge where
  rules : List Rule
  indicators : List Indicator
  negatives : List NegativeIndicator
  overrides : List Override
  taxonomy : List TaxonomyCategory
  actionPolicy : List ActionPolicyEntry
  bundleVersion : String
  contentDigest : String
  commitSha : String
  componentVersions : List (String × String)
  rules_nodup : (rules.map Rule.id).Nodup
  indicators_nodup : (indicators.map Indicator.id).Nodup
  negatives_nodup : (negatives.map NegativeIndicator.id).Nodup
  overrides_nodup : (overrides.map Override.id).Nodup
  /-- positive and negative indicators share one namespace -/
  polarity_disjoint : ∀ i ∈ indicators, ∀ n ∈ negatives, i.id ≠ n.id

namespace RuntimeKnowledge

variable (rk : RuntimeKnowledge)

def rule (id : String) : Option Rule := rk.rules.find? (·.id == id)

def indicator (id : String) : Option Indicator := rk.indicators.find? (·.id == id)

def negativeIndicator (id : String) : Option NegativeIndicator :=
  rk.negatives.find? (·.id == id)

def override (id : String) : Option Override := rk.overrides.find? (·.id == id)

def isPublished (r : Rule) : Bool := r.status == some "PUBLISHED"

def publishedRuleIds : List String :=
  sortedUnique ((rk.rules.filter isPublished).map Rule.id)

/-- Whether an id is in the positive registry. -/
def isPositive (id : String) : Bool := (rk.indicators.map Indicator.id).contains id

def isNegative (id : String) : Bool := (rk.negatives.map NegativeIndicator.id).contains id

def overrideIds : List String := sortedUnique (rk.overrides.map Override.id)

variable {rk}

lemma not_isPositive_of_isNegative {id : String} (h : rk.isNegative id = true) :
    rk.isPositive id = false := by
  simp only [isNegative, isPositive, List.contains_iff_mem, List.mem_map] at h ⊢
  obtain ⟨n, hn, rfl⟩ := h
  simp only [Bool.eq_false_iff, ne_eq, List.contains_iff_mem, List.mem_map, not_exists, not_and]
  exact fun i hi => rk.polarity_disjoint i hi n hn

lemma isPositive_iff {id : String} : rk.isPositive id = true ↔ ∃ i, rk.indicator id = some i := by
  simp only [isPositive, indicator, List.contains_iff_mem, List.mem_map]
  rw [← Option.isSome_iff_exists, List.find?_isSome]
  simp

lemma isNegative_iff {id : String} :
    rk.isNegative id = true ↔ ∃ n, rk.negativeIndicator id = some n := by
  simp only [isNegative, negativeIndicator, List.contains_iff_mem, List.mem_map]
  rw [← Option.isSome_iff_exists, List.find?_isSome]
  simp

lemma mem_overrideIds {id : String} : id ∈ rk.overrideIds ↔ ∃ o, rk.override id = some o := by
  simp only [overrideIds, override, mem_sortedUnique, List.mem_map]
  rw [← Option.isSome_iff_exists, List.find?_isSome]
  simp

lemma id_of_rule {id : String} {r : Rule} (h : rk.rule id = some r) : r.id = id := by
  simpa using List.find?_some h

lemma id_of_override {id : String} {o : Override} (h : rk.override id = some o) : o.id = id := by
  simpa using List.find?_some h

lemma id_of_negative {id : String} {n : NegativeIndicator}
    (h : rk.negativeIndicator id = some n) : n.id = id := by
  simpa using List.find?_some h

lemma rule_of_mem {r : Rule} (h : r ∈ rk.rules) : rk.rule r.id = some r :=
  find?_of_nodup_keys Rule.id rk.rules_nodup h

lemma override_of_mem {o : Override} (h : o ∈ rk.overrides) : rk.override o.id = some o :=
  find?_of_nodup_keys Override.id rk.overrides_nodup h

lemma negative_of_mem {n : NegativeIndicator} (h : n ∈ rk.negatives) :
    rk.negativeIndicator n.id = some n :=
  find?_of_nodup_keys NegativeIndicator.id rk.negatives_nodup h

lemma mem_of_rule {id : String} {r : Rule} (h : rk.rule id = some r) : r ∈ rk.rules :=
  List.mem_of_find?_eq_some h

lemma mem_of_override {id : String} {o : Override} (h : rk.override id = some o) :
    o ∈ rk.overrides :=
  List.mem_of_find?_eq_some h

lemma mem_of_negative {id : String} {n : NegativeIndicator}
    (h : rk.negativeIndicator id = some n) : n ∈ rk.negatives :=
  List.mem_of_find?_eq_some h

end RuntimeKnowledge

/-- `category_of`: the `TAX-NN` a taxonomy reference starts with. -/
def categoryOf (taxonomyRef : String) : Option String :=
  match taxonomyRef.toList with
  | 'T' :: 'A' :: 'X' :: '-' :: d :: d' :: _ =>
    if PyText.isDigit d && PyText.isDigit d' then
      some (String.ofList ['T', 'A', 'X', '-', d, d'])
    else none
  | _ => none

def Rule.categories (r : Rule) : List String := r.taxonomyRefs.filterMap categoryOf

/-- `str(rule_version or schema_version or "0.0.0")` -/
def Rule.version (r : Rule) : String :=
  match r.ruleVersion, r.schemaVersion with
  | some v, some s => if v ≠ "" then v else if s ≠ "" then s else "0.0.0"
  | some v, none => if v ≠ "" then v else "0.0.0"
  | none, some s => if s ≠ "" then s else "0.0.0"
  | none, none => "0.0.0"

end TrustLens.Runtime
