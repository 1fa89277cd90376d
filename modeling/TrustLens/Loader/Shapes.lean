import TrustLens.Lib.PyObject

/-!
# The shapes of the component files

The pass that runs before any other traversal of the components: each nested structure
the runtime reads has the shape it is read with, and no id is used twice.
-/

namespace TrustLens.Loader

inductive ErrorClass where
  | BundleNotFoundError
  | ManifestError
  | IntegrityError
  | UnsafePathError
  | CompatibilityError
  | MemberSchemaError
  | ReferenceIntegrityError
  | DuplicateIdError
deriving DecidableEq

/-- A `BundleLoadError`: its class, its code and what its message names. -/
structure BundleLoadError where
  errorClass : ErrorClass
  code : String
  subject : String
deriving DecidableEq

abbrev Load (α : Type) := Except (Raised BundleLoadError) α

/-- `raise`, with the class and the code of the error. -/
def fail {α : Type} (errorClass : ErrorClass) (code subject : String) : Load α :=
  .error (.typed ⟨errorClass, code, subject⟩)

@[simp] lemma not_escapes_fail {α : Type} {errorClass : ErrorClass} {code subject : String} :
    ¬Escapes (fail errorClass code subject : Load α) := escapes_typed

section Guard

variable {α : Type} {condition : Prop} [Decidable condition] {x : Load α} {errorClass : ErrorClass}
  {code subject : String}

lemma not_escapes_guard (h : ¬condition → ¬Escapes x) :
    ¬Escapes (if condition then fail errorClass code subject else x) := by
  split_ifs with hc
  · exact not_escapes_fail
  · exact h hc

lemma ok_of_guard {a : α} (h : (if condition then fail errorClass code subject else x) = .ok a) :
    ¬condition ∧ x = .ok a := by
  split_ifs at h with hc
  · cases h
  · exact ⟨hc, h⟩

end Guard

/-- The parsed component files. -/
structure Components where
  rules : List Json
  registry : Json
  families : Json
  negatives : Json
  taxonomy : Json
  dimensions : Json
  sources : Json
  evidence : Json
  actionPolicy : Json
deriving DecidableEq

/-! ### `_need_*` -/

def shapeInvalid {α : Type} (kind key : String) : Load α :=
  fail .MemberSchemaError "MEMBER_SHAPE_INVALID" (kind ++ ": " ++ key)

def isStr (j : Json) : Bool := j.str?.isSome

/-- A value that must be a list of strings. -/
def isStrings : Json → Bool
  | .arr items => items.all isStr
  | _ => false

/-- `_need_list` -/
def needList (container : Json) (key kind : String) (required ofStr : Bool) : Load (List Json) :=
  match container.get? key with
  | none => if required then shapeInvalid kind key else .ok []
  | some (.arr items) =>
    if ofStr && !items.all isStr then shapeInvalid kind key else .ok items
  | some _ => shapeInvalid kind key

/-- `_need_dict` -/
def needDict (container : Json) (key kind : String) (required : Bool) : Load Json :=
  match container.get? key with
  | none => if required then shapeInvalid kind key else .ok (.obj [])
  | some (.obj entries) => .ok (.obj entries)
  | some _ => shapeInvalid kind key

/-- `_need_dim_map` -/
def needDimMap (container : Json) (key kind : String) : Load Unit := do
  let m ← needDict container key kind false
  (← Py.entries m).forM fun group =>
    if isStrings group.2 then .ok () else shapeInvalid kind group.1

/-- The id of a record, a string that is not empty. -/
def recordId? (idKey : String) (record : Json) : Option String :=
  ((record.get? idKey).bind Json.str?).filter (· ≠ "")

/-- `_keyed_map`, of which the callers use the ids; `seen` are those so far. -/
def keyedMap (idKey kind : String) (seen : List String) : List Json → Load Unit
  | [] => .ok ()
  | record :: rest =>
    match recordId? idKey record with
    | none => shapeInvalid kind idKey
    | some id =>
      if id ∈ seen then fail .DuplicateIdError "DUPLICATE_ID" (kind ++ ": " ++ id)
      else keyedMap idKey kind (id :: seen) rest

/-- The name a record is called by in messages. -/
def nameOf (record : Json) (idKey fallback : String) : String :=
  ((record.get? idKey).bind Json.str?).getD fallback

/-! ### The records -/

def checkSourceReference (kind : String) (ref : Json) : Load Unit := do
  if ref.isObj = false then shapeInvalid kind "source_reference"
  else
    let manual ← needDict ref "manual_retrieval" kind false
    discard <| needList manual "evidence_ids" kind false true

def checkRule (r : Json) : Load Unit := do
  let kind := "rule " ++ nameOf r "id" "<rule>"
  let logic ← needDict r "logic" kind true
  discard <| needList logic "suppressed_by" kind false true
  discard <| needList r "taxonomy_refs" kind false true
  let evidence ← needDict r "evidence" kind true
  (← needList evidence "source_references" kind false false).forM (checkSourceReference kind)

def checkFamily (f : Json) : Load Unit := do
  let kind := "family " ++ nameOf f "family_id" "<family>"
  discard <| needList f "indicator_outputs" kind false true
  discard <| needList f "negative_interactions" kind false true
  discard <| needList f "hard_risk_overrides" kind false true
  needDimMap f "applicable_dimensions" kind

def checkNegative (n : Json) : Load Unit := do
  let kind := "negative " ++ nameOf n "negative_indicator_id" "<negative>"
  discard <| needList n "applicable_rule_families" kind false true
  discard <| needList n "source_basis" kind false true
  discard <| needList n "suppresses_indicators" kind false true

def checkOverride (o : Json) : Load Unit := do
  let kind := "override " ++ nameOf o "override_id" "<override>"
  if Py.hasKey o "condition" = false then shapeInvalid kind "condition"
  else
    discard <| needList o "applies_to_families" kind false true
    discard <| needList o "applies_to_rules" kind false true
    discard <| needList o "blocks_suppression_categories" kind false true

/-- A record whose `id` is a string. -/
def hasStrId (record : Json) : Bool := (record.get? "id").any isStr

def checkSubcategory (kind : String) (s : Json) : Load Unit :=
  if hasStrId s = false then shapeInvalid kind "subcategory"
  else needDimMap s "dimensions" kind

def checkCategory (c : Json) : Load Unit := do
  if hasStrId c = false then shapeInvalid "taxonomy" "category"
  else
    let id ← Py.item c "id"
    let kind := "taxonomy " ++ id.str?.getD ""
    (← needList c "subcategories" kind false false).forM (checkSubcategory kind)

def checkTerm (kind : String) (term : Json) : Load Unit :=
  if hasStrId term then .ok () else shapeInvalid kind "term"

def checkGroup (group : String × Json) : Load Unit := do
  let kind := "dimensions " ++ group.1
  let body := if group.2.isObj then group.2 else .obj []
  (← needList body "terms" kind true false).forM (checkTerm kind)

def checkSource (s : Json) : Load Unit := do
  let kind := "source " ++ (← Py.item s "id").str?.getD ""
  let manual ← needDict s "manual_retrieval" kind false
  discard <| needList manual "evidence_ids" kind false true

/-! ### One namespace for the stable ids -/

/-- `claim` of each id in turn. -/
def claimAll (seen : List Json) : List Json → Load Unit
  | [] => .ok ()
  | id :: rest => do
    let id ← Py.hashed id
    if id ∈ seen then fail .DuplicateIdError "DUPLICATE_ID" (id.str?.getD "")
    else claimAll (id :: seen) rest

/-- A list the key of a record holds, empty when the key is absent. -/
def members (record : Json) (key : String) : Load (List Json) := do
  Py.iter (← Py.getD record key (.arr []))

/-- A category claims its id, then those of its subcategories. -/
def categoryIds (c : Json) : Load (List Json) := do
  let id ← Py.item c "id"
  let subs ← (← members c "subcategories").mapM (Py.item · "id")
  return id :: subs

def termIds (group : String × Json) : Load (List Json) := do
  (← members group.2 "terms").mapM (Py.item · "id")

/-- The ids of the shared namespace, in the order they are claimed. -/
def stableIds (c : Components) (categories : List Json) (groups : List (String × Json))
    (indicators negatives : List Json) : Load (List Json) := do
  let taxonomy ← categories.mapM categoryIds
  let dimensions ← groups.mapM termIds
  let positive ← indicators.mapM (Py.item · "id")
  let negative ← negatives.mapM (Py.item · "negative_indicator_id")
  let rules ← c.rules.mapM (Py.item · "id")
  return taxonomy.flatten ++ dimensions.flatten ++ positive ++ negative ++ rules

/-- `check_shapes_and_duplicates` -/
def checkShapes (c : Components) : Load Unit := do
  keyedMap "id" "rules" [] c.rules
  c.rules.forM checkRule
  let indicators ← needList c.registry "indicators" "indicator-registry" true false
  keyedMap "id" "indicators" [] indicators
  let families ← needList c.families "families" "indicator-families" true false
  keyedMap "family_id" "families" [] families
  families.forM checkFamily
  let negatives ← needList c.negatives "negative_indicators" "negative-library" true false
  keyedMap "negative_indicator_id" "negative_indicators" [] negatives
  negatives.forM checkNegative
  discard <| needDict c.negatives "categories" "negative-library" true
  let overrides ← needList c.negatives "overrides" "negative-library" false false
  keyedMap "override_id" "overrides" [] overrides
  overrides.forM checkOverride
  let categories ← needList c.taxonomy "categories" "taxonomy" true false
  categories.forM checkCategory
  let dimensions ← needDict c.dimensions "dimensions" "dimensions" true
  let groups ← Py.entries dimensions
  groups.forM checkGroup
  let sources ← needList c.sources "sources" "verification-manifest" true false
  keyedMap "id" "sources" [] sources
  (← Py.iter (← Py.item c.sources "sources")).forM checkSource
  let records ← needList c.evidence "records" "evidence-records" true false
  keyedMap "evidence_id" "evidence" [] records
  claimAll [] (← stableIds c categories groups indicators negatives)

end TrustLens.Loader
