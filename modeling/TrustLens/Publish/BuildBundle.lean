import TrustLens.Lib.JsonIndent
import TrustLens.Loader.LoadBundle

/-!
# Building a bundle

The publishing tool: it finds the members of a knowledge tree, describes them in a manifest and
lays both out in a directory. The tree does not change while it runs, and the directory is apart
from it.
-/

namespace TrustLens.Publish

open Loader

inductive BuildError where
  | FileNotFoundError (source : String)
  /-- a `UnicodeDecodeError` or a `JSONDecodeError` -/
  | Undecodable (source : String)
  | IndexError
deriving DecidableEq

abbrev Build (α : Type) := Except (Raised BuildError) α

/-- `K`: the names `rules` is searched for, and the files below the directory. -/
structure KnowledgeTree where
  /-- what the glob `*.json` finds -/
  ruleNames : List String
  file : String → Option ByteArray
  distinct : ruleNames.Nodup
  found : ∀ name ∈ ruleNames, (file ("rules/" ++ name)).isSome
  flat : ∀ name ∈ ruleNames, '/' ∉ name.toList
  matched : ∀ name ∈ ruleNames, ".json".toList.isSuffixOf name.toList = true

/-- Where a build runs. -/
structure Machine where
  GITHUB_SHA : Option String
  /-- the texts of the files below `.git` -/
  git : String → Option String
  /-- `datetime.now(timezone.utc).isoformat()` -/
  now : String
  lower : String → String
  /-- `json.loads(path.read_text())`, in the default encoding -/
  loadsText : ByteArray → Except ParseFault Json

/-! ### The commit -/

section Commit

variable (machine : Machine)

def isLineBoundary (c : Char) : Bool :=
  let n := c.toNat
  (0xa ≤ n && n ≤ 0xd) || (0x1c ≤ n && n ≤ 0x1e) || n == 0x85 || n == 0x2028 || n == 0x2029

/-- `splitlines` of a text in which every line break is one character; the lines that are empty are
passed over. -/
def lines (text : String) : List String :=
  ((text.toList.splitOnP isLineBoundary).filter (· ≠ [])).map String.ofList

/-- `text.strip().lower()` -/
def stripLower (text : String) : String :=
  machine.lower (String.ofList (PyText.strip text.toList))

/-- `ref.split(" ", 1)[1].strip()` -/
def referenced (ref : String) : Build String :=
  match ref.toList.dropWhile (· ≠ ' ') with
  | [] => .error (.typed .IndexError)
  | _ :: rest => .ok (String.ofList (PyText.strip rest))

/-- The commit `packed-refs` gives a reference. -/
def packedSha (want text : String) : Option String :=
  ((lines text).find? fun line => !"#".toList.isPrefixOf line.toList &&
    !"^".toList.isPrefixOf line.toList && want.toList.isSuffixOf line.toList).map fun line =>
      stripLower machine (PyText.beforeFirst ' ' line)

/-- `_read_commit_sha` -/
def readCommitSha : Build String :=
  match machine.GITHUB_SHA.filter (· ≠ "") with
  | some env => .ok (stripLower machine env)
  | none =>
    match machine.git "HEAD" with
    | none => .ok "unknown"
    | some head => do
      let ref := String.ofList (PyText.strip head.toList)
      if "ref:".toList.isPrefixOf ref.toList then
        let want ← referenced ref
        match machine.git want with
        | some text => return stripLower machine text
        | none => return ((machine.git "packed-refs").bind (packedSha machine want)).getD "unknown"
      else return machine.lower ref

end Commit

/-! ### The members -/

def indicatorFiles : List String :=
  ["indicator-registry-v0.json", "indicator-families-v1.json", "negative-indicator-library-v1.json"]

def EXTRACTION_SCHEMA_FILES : List String :=
  ["input-envelope.schema.json", "observation.schema.json", "url-observation.schema.json",
   "indicator-observation.schema.json"]

/-- The members beside the rules, each with its source. -/
def fixedSources : List (String × String) :=
  indicatorFiles.map (fun name => ("indicators/" ++ name, "indicators/" ++ name)) ++
  [("taxonomy/scam-taxonomy.json", "taxonomies/scam-taxonomy.json"),
   ("taxonomy/dimensions-v1.json", "taxonomies/dimensions-v1.json"),
   ("schemas/rule.schema.json", "schemas/rule.schema.json")] ++
  EXTRACTION_SCHEMA_FILES.map (fun name => ("schemas/" ++ name, "schemas/" ++ name)) ++
  [("sources/verification-manifest.json", "sources/verification-manifest.json"),
   ("sources/evidence-records.json", "sources/manual-retrieval/evidence-records.json"),
   ("detection/action-policy-v1.json", "detection/action-policy-v1.json")]

namespace KnowledgeTree

variable (tree : KnowledgeTree)

def rulePath (name : String) : String := "rules/" ++ name

/-- `_members`: the path in the bundle and the path of the source. -/
def members : List (String × String) :=
  (tree.ruleNames.insertionSort (· ≤ ·)).map (fun name => (rulePath name, rulePath name)) ++
    fixedSources

/-- One member, read from its source. -/
def memberBytes (m : String × String) : Build (String × ByteArray) :=
  match tree.file m.2 with
  | some data => .ok (m.1, data)
  | none => .error (.typed (.FileNotFoundError m.2))

end KnowledgeTree

/-! ### The digest -/

/-- `files.sort(key=lambda f: f["path"])` -/
def sortFiles (files : List FileEntry) : List FileEntry :=
  files.insertionSort fun a b => a.path ≤ b.path

/-- `digest_input` of the sorted files -/
def digestInput (files : List FileEntry) : String :=
  String.intercalate "\n" (files.map fun f => f.path ++ "=" ++ f.sha256)

/-- The digest over the files, in whatever order they were found. -/
def contentDigest (lib : Libraries) (files : List FileEntry) : String :=
  lib.sha256 (digestInput (sortFiles files)).toUTF8

section Build

variable (lib : Libraries) (machine : Machine) (tree : KnowledgeTree)

/-- `json.loads(path.read_text())` -/
def readSource (source : String) : Build Json :=
  match tree.file source with
  | none => .error (.typed (.FileNotFoundError source))
  | some data =>
    match machine.loadsText data with
    | .ok j => .ok j
    | .error .invalid => .error (.typed (.Undecodable source))
    | .error (.other e) => .error (.escaped e)

/-! ### Versions -/

/-- The constant at the end of a path of keys. -/
def constAt (keys : List String) (d : Json) : Build String := do
  return versionText lib.floatText (← keys.foldlM Py.item d)

/-- `key in d` -/
def declares (d : Json) (key : String) : Build Bool :=
  match d with
  | .obj es => .ok (Json.lookup key es).isSome
  | .arr js => .ok (js.contains (.str key))
  | .str s => .ok (PyText.isInfix key s)
  | _ => .error (.escaped .TypeError)

/-- The version under the first of the keys that is there. -/
def versionUnder (d : Json) : List String → Build String
  | [] => return ""
  | key :: keys => do
    if ← declares d key then return versionText lib.floatText (← Py.item d key)
    else versionUnder d keys

/-- Each component, the source it is read from and what is read there. -/
def versionSources : List (String × String × (Json → Build String)) :=
  [("rule_schema", "schemas/rule.schema.json",
      constAt lib ["properties", "schema_version", "const"]),
   ("taxonomy", "taxonomies/scam-taxonomy.json", (versionUnder lib · ["taxonomy_version"])),
   ("dimensions", "taxonomies/dimensions-v1.json", (versionUnder lib · ["dimensions_version"])),
   ("indicator_registry", "indicators/indicator-registry-v0.json",
      (versionUnder lib · ["registry_version"])),
   ("indicator_families", "indicators/indicator-families-v1.json",
      (versionUnder lib · ["families_version"])),
   ("negative_library", "indicators/negative-indicator-library-v1.json",
      (versionUnder lib · ["library_version"])),
   ("evidence_manifest", "sources/verification-manifest.json",
      (versionUnder lib · ["manifest_version", "version"])),
   ("evidence_records", "sources/manual-retrieval/evidence-records.json",
      (versionUnder lib · ["version"])),
   ("extraction_schemas", "schemas/input-envelope.schema.json",
      constAt lib ["properties", "envelope_version", "const"]),
   ("action_policy", "detection/action-policy-v1.json", (versionUnder lib · ["policy_version"]))]

/-- `_component_versions` -/
def componentVersions : Build (List (String × String)) :=
  (versionSources lib).mapM fun c => do
    return (c.1, ← c.2.2 (← readSource machine tree c.2.1))

/-! ### Counts -/

/-- `Path(path).name` -/
def fileName (path : String) : String := String.ofList ((path.toList.splitOn '/').getLastD [])

/-- `len(value[key])` -/
def sizeAt (value : Json) (key : String) : Build ℕ := do
  return (← Py.iter (← Py.item value key)).length

/-- `r["lifecycle"]["status"]` -/
def statusOf (rule : Json) : Build Json := do
  Py.item (← Py.item rule "lifecycle") "status"

/-- `_counts` -/
def counts (files : List FileEntry) : Build (List (String × ℕ)) := do
  let rules ← (files.filter fun f => "rules/".toList.isPrefixOf f.path.toList).mapM fun f =>
    readSource machine tree ("rules/" ++ fileName f.path)
  let registry ← readSource machine tree "indicators/indicator-registry-v0.json"
  let negatives ← readSource machine tree "indicators/negative-indicator-library-v1.json"
  let taxonomy ← readSource machine tree "taxonomies/scam-taxonomy.json"
  let dimensions ← readSource machine tree "taxonomies/dimensions-v1.json"
  let statuses ← rules.mapM statusOf
  let positive ← sizeAt registry "indicators"
  let negative ← sizeAt negatives "negative_indicators"
  let categories ← sizeAt taxonomy "categories"
  let subcategories ← (← Py.iter (← Py.item taxonomy "categories")).mapM (sizeAt · "subcategories")
  let terms ← (← Py.entries (← Py.item dimensions "dimensions")).mapM fun b => sizeAt b.2 "terms"
  return [
    ("files", files.length),
    ("rules_total", rules.length),
    ("rules_published", (statuses.filter (· == .str "PUBLISHED")).length),
    ("positive_indicators", positive),
    ("negative_indicators", negative),
    ("taxonomy_categories", categories),
    ("taxonomy_subcategories", subcategories.sum),
    ("dimension_terms", terms.sum)]

/-! ### The manifest -/

/-- What a manifest says that is not the same in each. -/
structure BuiltManifest where
  createdAt : String
  commitSha : String
  gate : String
  contentDigest : String
  componentVersions : List (String × String)
  files : List FileEntry
  counts : List (String × ℕ)
deriving DecidableEq

namespace BuiltManifest

variable (m : BuiltManifest)

def entryJson (f : FileEntry) : Json :=
  .obj [("path", .str f.path), ("sha256", .str f.sha256), ("bytes", f.bytes)]

def versionsJson : List (String × Json) := m.componentVersions.map fun c => (c.1, .str c.2)

def countsJson : List (String × Json) := m.counts.map fun c => (c.1, .int c.2)

def notes : String :=
  "Runtime bundle: rules + indicators + negatives + taxonomy/dimensions + schemas + " ++
    "evidence metadata. Excludes raw PDFs, test corpora, coverage matrix, validators (ADR-0004 §5.2)."

/-- The manifest, under `MANIFEST_SCHEMA_VERSION` and `BUNDLE_VERSION`. -/
def json : Json :=
  .obj [("manifest_schema_version", .str "1.1.0"),
    ("bundle_version", .str "1.0.0"),
    ("created_at", .str m.createdAt),
    ("commit_sha", .str m.commitSha),
    ("gate", .str m.gate),
    ("content_digest", .str m.contentDigest),
    ("component_versions", .obj m.versionsJson),
    ("integrity", .obj [("algorithm", .str "sha256"), ("files", .arr (m.files.map entryJson))]),
    ("counts", .obj m.countsJson),
    ("notes", .str notes)]

/-- The text of `bundle-manifest.json`. -/
def text : List Char := Json.indented 0 m.json

def bytes : ByteArray := (String.ofList m.text).toUTF8

end BuiltManifest

def fileEntry (m : String × ByteArray) : FileEntry := ⟨m.1, lib.sha256 m.2, .int m.2.size⟩

/-- `compute_manifest` -/
def computeManifest (gate : String) : Build BuiltManifest := do
  let files := (← tree.members.mapM tree.memberBytes).map (fileEntry lib)
  let commitSha ← readCommitSha machine
  let versions ← componentVersions lib machine tree
  let counts ← counts machine tree (sortFiles files)
  return {
    createdAt := machine.now
    commitSha := commitSha
    gate := gate
    contentDigest := contentDigest lib files
    componentVersions := versions
    files := sortFiles files
    counts := counts }

/-- The files of a bundle. -/
def layOut (manifest : BuiltManifest) (copied : List (String × ByteArray)) : Directory where
  isDir := true
  file path :=
    if path = MANIFEST_FILENAME then some manifest.bytes
    else (copied.find? (·.1 == path)).map Prod.snd

/-- `build` -/
def build (gate : String) : Build (BuiltManifest × Directory) := do
  let manifest ← computeManifest lib machine tree gate
  let copied ← tree.members.mapM tree.memberBytes
  return (manifest, layOut manifest copied)

end Build
end TrustLens.Publish
