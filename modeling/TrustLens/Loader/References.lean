import TrustLens.Loader.Shapes
import TrustLens.Runtime.Knowledge

/-!
# References between the components

Which references of the components do not resolve. The walk reads the parsed documents
themselves, after the shapes were checked.
-/

namespace TrustLens.Loader

/-! ### Conditions -/

/-- `operands`, whose only failure is to iterate something that is no collection. -/
def operands (condition : Json) : Load (List String) :=
  match Runtime.Condition.operands condition with
  | .ok ids => .ok ids
  | .error _ => .error (.escaped .TypeError)

/-- The status of a lifecycle. -/
def lifecycleStatus (rule : Json) : Load Json := do
  Py.getD (← Py.getD rule "lifecycle" (.obj [])) "status" .null

/-- The members of a set built from values, each of which must be hashable. -/
def idSet (records : List Json) (idKey : String) : Load (List Json) :=
  records.mapM fun r => do Py.hashed (← Py.item r idKey)

/-! ### `dimensions` -/

/-- `DIMENSION_KEY_TO_AXIS` -/
def axisOf : String → Option String
  | "fraud_objective" => some "fraud_objective"
  | "technical_mechanism" => some "technical_mechanism"
  | "typical_channels" => some "channel"
  | "social_engineering_tactics" => some "social_engineering_tactic"
  | "requested_user_actions" => some "requested_user_action"
  | "potential_harm" => some "potential_harm"
  | _ => none

/-- `terms_by_axis`: a block that is no object is skipped, and so is a term without an id. -/
def termsByAxis (dimensions : Json) : Load (List (String × List Json)) := do
  let blocks ← Py.entries (← Py.getD dimensions "dimensions" (.obj []))
  (blocks.filter (·.2.isObj)).mapM fun block => do
    let terms ← members block.2 "terms"
    return (block.1, ← idSet (terms.filter (Py.hasKey · "id")) "id")

/-! ### Problems -/

/-- One unresolved reference, with the record that makes it. -/
inductive Problem where
  | unresolvedIndicator (rule : Json) (indicator : String)
  | compositeNegative (rule : Json) (indicator : String)
  | suppressionPositive (rule : Json) (indicator : String)
  | deprecatedSuppressor (rule : Json) (negative : String)
  | unresolvedTaxonomy (rule taxonomy : Json)
  | unresolvedSource (rule source : Json)
  | unresolvedEvidence (rule evidence : Json)
  | foreignEvidence (rule evidence source : Json)
  | familyOutput (family indicator : Json)
  | familyInteraction (family negative : Json)
  | familyOverride (family override : Json)
  | familyDimension (family term : Json)
  | unknownAxis (subcategory : Json) (key : String)
  | wrongAxis (subcategory : Json) (key : String) (term : Json)
  | negativeFamily (negative family : Json)
  | negativeSource (negative source : Json)
  | negativeTarget (negative indicator : Json)
  | overrideIndicator (override : Json) (indicator : String)
  | overrideFamily (override family : Json)
  | overrideRule (override rule : Json)
  | overrideCategory (override category : Json)
  | evidenceSource (evidence source : Json)
  | sourceEvidence (source evidence : Json)
deriving DecidableEq

/-- What the components define, as the sets the references are looked up in. -/
structure Namespaces where
  positive : List Json
  negative : List Json
  activeNegative : List Json
  categories : List Json
  taxonomy : List Json
  terms : List Json
  axes : List (String × List Json)
  sources : List Json
  evidence : List (Json × Json)
  overrides : List Json
  suppressionCategories : List String
  rules : List Json
deriving DecidableEq

def Namespaces.indicators (ns : Namespaces) : List Json := ns.positive ++ ns.negative

/-- A value looked up in a set. -/
def isMember (value : Json) (set : List Json) : Load Bool := do
  return set.contains (← Py.hashed value)

/-- The values that are in no set, each reported. -/
def missing (values set : List Json) (problem : Json → Problem) : Load (List Problem) := do
  let found ← values.mapM fun value => do
    return if ← isMember value set then none else some (problem value)
  return found.filterMap id

/-- The records of a list under a key of a component. -/
def records (component : Json) (key : String) : Load (List Json) := do
  Py.iter (← Py.item component key)

def namespaces (c : Components) : Load Namespaces := do
  let indicators ← records c.registry "indicators"
  let negatives ← records c.negatives "negative_indicators"
  let statuses ← negatives.mapM fun n => do
    return (← Py.item n "negative_indicator_id", ← Py.getD n "status" .null)
  let categories ← records c.taxonomy "categories"
  let subcategories ← categories.mapM fun cat => do
    idSet (← members cat "subcategories") "id"
  let groups ← Py.entries (← Py.item c.dimensions "dimensions")
  let terms ← groups.mapM fun g => do
    idSet (← members g.2 "terms") "id"
  let evidence ← records c.evidence "records"
  let owners ← evidence.mapM fun r => do
    return (← Py.hashed (← Py.item r "evidence_id"), ← Py.getD r "manifest_source_id" .null)
  let suppressionCategories ← Py.entries (← Py.getD c.negatives "categories" (.obj []))
  return {
    positive := ← idSet indicators "id"
    negative := ← idSet negatives "negative_indicator_id"
    activeNegative := (statuses.filter (·.2 == .str "ACTIVE")).map Prod.fst
    categories := ← idSet categories "id"
    taxonomy := (← idSet categories "id") ++ subcategories.flatten
    terms := terms.flatten
    axes := ← termsByAxis c.dimensions
    sources := ← idSet (← records c.sources "sources") "id"
    evidence := owners
    overrides := ← idSet (← members c.negatives "overrides") "override_id"
    suppressionCategories := suppressionCategories.map Prod.fst
    rules := ← idSet c.rules "id" }

/-! ### Rules -/

/-- The references a rule makes to its sources and to their evidence. -/
def sourceProblems (ns : Namespaces) (rid ref : Json) : Load (List Problem) := do
  let sid ← Py.getD ref "source_id" .null
  let known ← isMember sid ns.sources
  let manual ← Py.getD ref "manual_retrieval" .null
  let ids ← members (if manual.truthy then manual else .obj []) "evidence_ids"
  let evidence ← ids.mapM fun eid => do
    let eid ← Py.hashed eid
    return match ns.evidence.find? (·.1 == eid) with
      | none => some (.unresolvedEvidence rid eid)
      | some owner => if owner.2 = sid then none else some (.foreignEvidence rid eid sid)
  return (if known then [] else [.unresolvedSource rid sid]) ++ evidence.filterMap id

/-- The references of one rule; the status is read before they are. -/
def ruleProblems (ns : Namespaces) (rule : Json) : Load (List Problem) := do
  let rid ← Py.getD rule "id" (.str "<no id>")
  let kind ← Py.getD rule "kind" .null
  let status ← lifecycleStatus rule
  let logic ← Py.getD rule "logic" (.obj [])
  let trigger := sortedUnique (← operands (← Py.getD logic "require" .null))
  let suppressors := sortedUnique
    ((← (← members logic "suppressed_by").mapM Py.hashed).filterMap Json.str?)
  let referenced := sortedUnique (trigger ++ suppressors)
  let unresolved := (referenced.filter fun id => !ns.indicators.contains (.str id)).map
    (Problem.unresolvedIndicator rid)
  let polarity := trigger.filterMap fun id =>
    if kind = .str "COMPOSITE" ∧ .str id ∈ ns.negative ∧ .str id ∉ ns.positive then
      some (Problem.compositeNegative rid id)
    else if kind = .str "SUPPRESSION" ∧ .str id ∈ ns.positive ∧ .str id ∉ ns.negative then
      some (Problem.suppressionPositive rid id)
    else none
  let deprecated := if status = .str "PUBLISHED" then
      (suppressors.filter fun s => ns.negative.contains (.str s) &&
        !ns.activeNegative.contains (.str s)).map (Problem.deprecatedSuppressor rid)
    else []
  let taxonomy ← missing (← members rule "taxonomy_refs") ns.taxonomy (.unresolvedTaxonomy rid)
  let evidence ← Py.getD rule "evidence" (.obj [])
  let sources ← (← members evidence "source_references").mapM (sourceProblems ns rid)
  return unresolved ++ polarity ++ deprecated ++ taxonomy ++ sources.flatten

/-! ### The other components -/

/-- A value that is absent, null or otherwise falsy reads as an empty object. -/
def objectOr (value : Json) : Json := if value.truthy then value else .obj []

def familyProblems (ns : Namespaces) (f : Json) : Load (List Problem) := do
  let fid ← Py.item f "family_id"
  let outputs ← missing (← members f "indicator_outputs") ns.positive (.familyOutput fid)
  let negatives ← missing (← members f "negative_interactions") ns.negative (.familyInteraction fid)
  let overrides ← missing (← members f "hard_risk_overrides") ns.overrides (.familyOverride fid)
  let groups ← Py.entries (objectOr (← Py.getD f "applicable_dimensions" .null))
  let dimensions ← groups.mapM fun g => do
    missing (← Py.iter g.2) ns.terms (.familyDimension fid)
  return outputs ++ negatives ++ overrides ++ dimensions.flatten

/-- `dimension_map_problems`: a term is looked up under the axis of its key. -/
def dimensionProblems (ns : Namespaces) (sid : Json) (group : String × Json) :
    Load (List Problem) := do
  match axisOf group.1 with
  | none => return [.unknownAxis sid group.1]
  | some axis =>
    let valid := ((ns.axes.find? (·.1 == axis)).map Prod.snd).getD []
    missing (← Py.iter group.2) valid (.wrongAxis sid group.1)

def subcategoryProblems (ns : Namespaces) (s : Json) : Load (List Problem) := do
  let groups ← Py.entries (objectOr (← Py.getD s "dimensions" .null))
  let sid ← Py.item s "id"
  return (← groups.mapM (dimensionProblems ns sid)).flatten

def categoryProblems (ns : Namespaces) (c : Json) : Load (List Problem) := do
  return (← (← members c "subcategories").mapM (subcategoryProblems ns)).flatten

def negativeProblems (ns : Namespaces) (n : Json) : Load (List Problem) := do
  let nid ← Py.item n "negative_indicator_id"
  let families ← members n "applicable_rule_families"
  let family ← missing (families.filter (· ≠ .str "*")) ns.categories (.negativeFamily nid)
  let sources ← missing (← members n "source_basis") ns.sources (.negativeSource nid)
  let targets ← missing (← members n "suppresses_indicators") ns.positive (.negativeTarget nid)
  return family ++ sources ++ targets

def overrideProblems (ns : Namespaces) (o : Json) : Load (List Problem) := do
  let oid ← Py.item o "override_id"
  let condition := sortedUnique (← operands (← Py.getD o "condition" .null))
  let indicators := (condition.filter fun id => !ns.positive.contains (.str id)).map
    (Problem.overrideIndicator oid)
  let families ← missing (← members o "applies_to_families") ns.categories (.overrideFamily oid)
  let rules ← missing (← members o "applies_to_rules") ns.rules (.overrideRule oid)
  let blocked ← missing (← members o "blocks_suppression_categories")
    (ns.suppressionCategories.map .str) (.overrideCategory oid)
  return indicators ++ families ++ rules ++ blocked

def evidenceProblems (ns : Namespaces) (record : Json) : Load (List Problem) := do
  let source ← Py.getD record "manifest_source_id" .null
  missing [source] ns.sources (.evidenceSource (← Py.item record "evidence_id"))

def sourceRecordProblems (ns : Namespaces) (s : Json) : Load (List Problem) := do
  let manual := objectOr (← Py.getD s "manual_retrieval" .null)
  missing (← members manual "evidence_ids") (ns.evidence.map Prod.fst)
    (.sourceEvidence (← Py.item s "id"))

/-- `validate_references`; the source sorts the texts of the problems. -/
def validateReferences (c : Components) : Load (List Problem) := do
  let ns ← namespaces c
  let rules ← c.rules.mapM (ruleProblems ns)
  let families ← (← records c.families "families").mapM (familyProblems ns)
  let taxonomy ← (← records c.taxonomy "categories").mapM (categoryProblems ns)
  let negatives ← (← records c.negatives "negative_indicators").mapM (negativeProblems ns)
  let overrides ← (← members c.negatives "overrides").mapM (overrideProblems ns)
  let evidence ← (← records c.evidence "records").mapM (evidenceProblems ns)
  let sources ← (← records c.sources "sources").mapM (sourceRecordProblems ns)
  return rules.flatten ++ families.flatten ++ taxonomy.flatten ++ negatives.flatten ++
    overrides.flatten ++ evidence.flatten ++ sources.flatten

end TrustLens.Loader
