import Mathlib.Algebra.GroupWithZero.Nat
import TrustLens.Loader.ActionPolicy
import TrustLens.Loader.Bundle

/-!
# From the verified members to the knowledge

The remaining steps of the loader: the versions the members declare of themselves, the
counts of the manifest, the references, and the indexes.
-/

namespace TrustLens.Loader

/-! ### Embedded versions -/

/-- `d.get("properties", {}).get(name, {}).get("const")` -/
def constVersion (name : String) (d : Json) : Load Json := do
  Py.getD (← Py.getD (← Py.getD d "properties" (.obj [])) name (.obj [])) "const" .null

/-- `d.get("manifest_version", d.get("version"))` -/
def evidenceVersion (d : Json) : Load Json := do
  Py.getD d "manifest_version" (← Py.getD d "version" .null)

/-- `_EMBEDDED_VERSION`: each component with the version its member declares. -/
def embeddedVersions (ruleSchema envelope : Json) (c : Components) : List (String × Load Json) :=
  [("rule_schema", constVersion "schema_version" ruleSchema),
   ("taxonomy", Py.getD c.taxonomy "taxonomy_version" .null),
   ("dimensions", Py.getD c.dimensions "dimensions_version" .null),
   ("indicator_registry", Py.getD c.registry "registry_version" .null),
   ("indicator_families", Py.getD c.families "families_version" .null),
   ("negative_library", Py.getD c.negatives "library_version" .null),
   ("evidence_manifest", evidenceVersion c.sources),
   ("evidence_records", Py.getD c.evidence "version" .null),
   ("extraction_schemas", constVersion "envelope_version" envelope),
   ("action_policy", Py.getD c.actionPolicy "policy_version" .null)]

/-- `str` of a version; a text that starts with a bracket is no version token. -/
def versionText (floatText : PyFloat → String) : Json → String
  | .null => "None"
  | .bool b => if b then "True" else "False"
  | .int n => toString n
  | .float x => floatText x
  | .str s => s
  | .arr _ => "["
  | .obj _ => "\x7b"

/-- Step 9 for one component. -/
def checkVersion (floatText : PyFloat → String) (m : Manifest)
    (component : String × Load Json) : Load Unit := do
  if component.1 = "action_policy" ∧ m.wp6 = false then .ok ()
  else
    let embedded ← component.2
    if embedded = .null then
      fail .CompatibilityError "EMBEDDED_VERSION_MISMATCH" component.1
    else if Json.str (versionText floatText embedded) ≠
        (← Py.item (.obj m.componentVersions) component.1) then
      fail .CompatibilityError "EMBEDDED_VERSION_MISMATCH" component.1
    else .ok ()

/-! ### Counts -/

/-- `computed_counts` -/
def computedCounts (files : ℕ) (c : Components) : Load (List (String × ℕ)) := do
  let statuses ← c.rules.mapM lifecycleStatus
  let indicators ← records c.registry "indicators"
  let negatives ← records c.negatives "negative_indicators"
  let categories ← records c.taxonomy "categories"
  let subcategories ← categories.mapM (members · "subcategories")
  let groups ← Py.entries (← Py.item c.dimensions "dimensions")
  let terms ← groups.mapM fun g => members g.2 "terms"
  return [
    ("files", files),
    ("rules_total", c.rules.length),
    ("rules_published", (statuses.filter (· == .str "PUBLISHED")).length),
    ("positive_indicators", indicators.length),
    ("negative_indicators", negatives.length),
    ("taxonomy_categories", categories.length),
    ("taxonomy_subcategories", (subcategories.map List.length).sum),
    ("dimension_terms", (terms.map List.length).sum)]

/-- Step 10: a declared count is not contradicted. -/
def checkCounts (m : Manifest) (c : Components) : Load Unit := do
  (← computedCounts m.files.length c).forM fun count =>
    match Json.lookup count.1 m.counts with
    | none => .ok ()
    | some declared =>
      if equalsCount count.2 declared then .ok ()
      else fail .IntegrityError "COUNTS_MISMATCH" count.1

/-! ### The result -/

/-- `RuntimeKnowledge`: the metadata and the indexes. -/
structure LoadedKnowledge where
  bundleVersion : String
  manifestSchemaVersion : String
  contentDigest : String
  commitSha : Json
  gate : Json
  componentVersions : List (String × Json)
  counts : List (String × Json)
  indexes : Indexes
deriving DecidableEq

def checkReferences (c : Components) : Load Unit := do
  if (← validateReferences c).isEmpty then .ok ()
  else fail .ReferenceIntegrityError "REFERENCE_INVALID" "unresolved governed reference"

/-- The pin of the policy, its index and the manifest version go together. -/
def checkAvailability (m : Manifest) (indexes : Indexes) : Load Unit :=
  let pin := ((Json.lookup "action_policy" m.componentVersions).getD .null).truthy
  if pin ≠ (!indexes.actionPolicyById.isEmpty) ∨ pin ≠ m.wp6 then
    fail .IntegrityError "COMPONENT_MISSING" "action-policy availability"
  else .ok ()

/-- Steps 9 to 12 on members of the right shapes. -/
def finish (lib : Libraries) (m : Manifest) (verified : List (String × ByteArray))
    (ruleSchema : Json) (c : Components) : Load LoadedKnowledge := do
  let envelope ← member lib verified envelopeSchemaMember
  (embeddedVersions ruleSchema envelope c).forM (checkVersion lib.floatText m)
  checkCounts m c
  checkReferences c
  let indexes ← buildIndexes c
  checkAvailability m indexes
  return {
    bundleVersion := m.bundleVersion
    manifestSchemaVersion := m.manifestSchemaVersion
    contentDigest := m.contentDigest
    commitSha := m.commitSha
    gate := m.gate
    componentVersions := m.componentVersions
    counts := m.counts
    indexes := indexes }

/-- Step 8, on parsed members. -/
def checkComponents (m : Manifest) (c : Components) : Load Unit := do
  checkShapes c
  if m.wp6 then validateActionPolicy c else .ok ()

/-- `load_bundle` -/
def loadBundle (lib : Libraries) (dir : Directory) : Load LoadedKnowledge := do
  let m ← loadManifest lib dir
  let verified ← verifyMembers lib dir m
  let (ruleSchema, c) ← parseMembers lib m.paths m.wp6 verified
  checkComponents m c
  finish lib m verified ruleSchema c

end TrustLens.Loader
