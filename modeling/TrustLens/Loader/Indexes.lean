import TrustLens.Loader.References

/-!
# The indexes of the runtime knowledge

Every index is computed from the parsed components alone. A dictionary is the list of
its entries; where two entries share a key the later one counts.
-/

namespace TrustLens.Loader

open TrustLens.Runtime (categoryOf)

/-- A dictionary from ids to records. -/
abbrev Index := List (String × Json)

/-- A reverse index: each key with the sorted ids that mention it. -/
abbrev ReverseIndex := List (String × List String)

structure Indexes where
  rulesById : Index
  publishedRulesById : Index
  indicatorsById : Index
  negativeIndicatorsById : Index
  indicatorFamiliesById : Index
  positiveIndicatorsByFamily : ReverseIndex
  taxonomyById : Index
  dimensionsById : Index
  sourcesById : Index
  evidenceById : Index
  overridesById : Index
  rulesByIndicator : ReverseIndex
  rulesByCategory : ReverseIndex
  negativeIndicatorsByRule : ReverseIndex
  overridesByIndicator : ReverseIndex
  overridesByTarget : ReverseIndex
  actionPolicyById : Index
deriving DecidableEq

/-- A key of a dictionary of the index. -/
def key (id : Json) : String := id.str?.getD ""

/-- The records of a list under one of their fields. -/
def indexBy (idKey : String) (rs : List Json) : Load Index :=
  rs.mapM fun r => do return (key (← Py.hashed (← Py.item r idKey)), r)

/-- `_sorted_tuple` of the strings of a list. -/
def sortedStrings (values : List Json) : List String := sortedUnique (values.filterMap Json.str?)

/-- The pairs of a key and an id, grouped by key. -/
def grouped (pairs : List (String × String)) : ReverseIndex :=
  (sortedUnique (pairs.map Prod.fst)).map fun k =>
    (k, sortedUnique ((pairs.filter (·.1 == k)).map Prod.snd))

/-- `rule_categories` -/
def ruleCategories (rule : Json) : Load (List String) := do
  return (sortedStrings (← members rule "taxonomy_refs")).filterMap categoryOf

/-- What one published rule adds to the reverse indexes. -/
structure RuleEntries where
  indicators : List (String × String)
  categories : List (String × String)
  negatives : String × List String

def ruleEntries (positive : List Json) (active : List Json) (rule : Json) : Load RuleEntries := do
  let rid := key (← Py.item rule "id")
  let logic ← Py.getD rule "logic" (.obj [])
  let require ← operands (← Py.getD logic "require" .null)
  let categories ← ruleCategories rule
  let applicable ← active.mapM fun n => do
    let families ← members n "applicable_rule_families"
    if families.contains (.str "*") || categories.any fun c => families.contains (.str c) then
      return some (← Py.item n "negative_indicator_id")
    else return none
  return {
    indicators := (require.filter fun id => positive.contains (.str id)).map (·, rid)
    categories := categories.map (·, rid)
    negatives := (rid, sortedStrings (applicable.filterMap id)) }

/-- What one override adds to the reverse indexes: its operands, then its targets. -/
def overrideEntries (o : Json) : Load (List (String × String) × List (String × String)) := do
  let oid := key (← Py.item o "override_id")
  let condition ← operands (← Py.getD o "condition" .null)
  let families ← members o "applies_to_families"
  let rules ← members o "applies_to_rules"
  return (condition.map (·, oid), ((families ++ rules).filterMap Json.str?).map (·, oid))

/-- A category and its subcategories, each under its id. -/
def taxonomyEntries (c : Json) : Load Index := do
  let head := (key (← Py.item c "id"), c)
  return head :: (← indexBy "id" (← members c "subcategories"))

def familyOutputs (f : Json) : Load (String × List String) := do
  return (key (← Py.item f "family_id"), sortedStrings (← members f "indicator_outputs"))

/-- `build_indexes` -/
def buildIndexes (c : Components) : Load Indexes := do
  let statuses ← c.rules.mapM fun r => do return (r, ← lifecycleStatus r)
  let published := (statuses.filter (·.2 == .str "PUBLISHED")).map Prod.fst
  let indicators ← records c.registry "indicators"
  let positive ← idSet indicators "id"
  let negatives ← records c.negatives "negative_indicators"
  let families ← records c.families "families"
  let groups ← Py.entries (← Py.item c.dimensions "dimensions")
  let terms ← groups.mapM fun g => do indexBy "id" (← members g.2 "terms")
  let overrides ← members c.negatives "overrides"
  let activity ← negatives.mapM fun n => do return (n, ← Py.getD n "status" .null)
  let active := (activity.filter (·.2 == .str "ACTIVE")).map Prod.fst
  let entries ← published.mapM (ruleEntries positive active)
  let reverse ← overrides.mapM overrideEntries
  return {
    rulesById := ← indexBy "id" c.rules
    publishedRulesById := ← indexBy "id" published
    indicatorsById := ← indexBy "id" indicators
    negativeIndicatorsById := ← indexBy "negative_indicator_id" negatives
    indicatorFamiliesById := ← indexBy "family_id" families
    positiveIndicatorsByFamily := ← families.mapM familyOutputs
    taxonomyById := (← (← records c.taxonomy "categories").mapM taxonomyEntries).flatten
    dimensionsById := terms.flatten
    sourcesById := ← indexBy "id" (← records c.sources "sources")
    evidenceById := ← indexBy "evidence_id" (← records c.evidence "records")
    overridesById := ← indexBy "override_id" overrides
    rulesByIndicator := grouped (entries.flatMap RuleEntries.indicators)
    rulesByCategory := grouped (entries.flatMap RuleEntries.categories)
    negativeIndicatorsByRule := entries.map RuleEntries.negatives
    overridesByIndicator := grouped (reverse.flatMap Prod.fst)
    overridesByTarget := grouped (reverse.flatMap Prod.snd)
    actionPolicyById := ← indexBy "policy_entry_id" (← records c.actionPolicy "entries") }

end TrustLens.Loader
