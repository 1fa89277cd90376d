import TrustLens.Lib.JsonSchema
import TrustLens.Loader.Indexes

/-!
# Loading a published bundle

The steps of the loader in their order, on a directory given as a map from paths to
bytes. Each step either returns or raises, and nothing of a bundle is kept unless the
last one returns.
-/

namespace TrustLens.Loader

/-- What decoding and parsing a member raises: a `UnicodeDecodeError` or a `JSONDecodeError`, or
any other exception. -/
inductive ParseFault where
  | invalid
  | other (e : PyException)
deriving DecidableEq

/-- The libraries the loader calls. -/
structure Libraries where
  /-- `hashlib.sha256(data).hexdigest()` -/
  sha256 : ByteArray → String
  /-- `json.loads(data.decode("utf-8"))` -/
  loads : ByteArray → Except ParseFault Json
  /-- whether `Draft202012Validator.check_schema` raises nothing -/
  checkSchema : Json → Bool
  /-- whether the document has no error under the schema, unless the validator raises -/
  conforms : Json → Json → Except PyException Bool
  /-- `str` of a float -/
  floatText : PyFloat → String

/-- A bundle directory: whether it is there, and the files under it. -/
structure Directory where
  isDir : Bool
  file : String → Option ByteArray

def MANIFEST_FILENAME : String := "bundle-manifest.json"

/-! ### The manifest -/

namespace ManifestSchema

open Schema

def isLowerHex (c : Char) : Bool := isAsciiDigit c || ('a' ≤ c && c ≤ 'f')

/-- `^[0-9a-f]{64}$` -/
def digest : Validator := pattern (anchored (headTail isLowerHex isLowerHex 63 63))

/-- `^\d+\.\d+\.\d+$` -/
def semver : Validator :=
  pattern (anchored fun cs =>
    (cs.splitOn '.').length == 3 && (cs.splitOn '.').all fun part =>
      !part.isEmpty && part.all PyText.isDigit)

/-- `^[0-9a-f]{7,40}$|^unknown$` -/
def commit : Validator :=
  pattern fun s => anchored (headTail isLowerHex isLowerHex 6 39) s ||
    anchored (· == "unknown".toList) s

def versionKeys : List String :=
  ["rule_schema", "taxonomy", "dimensions", "indicator_registry", "indicator_families",
   "negative_library", "evidence_manifest", "evidence_records", "extraction_schemas"]

def componentVersions : Validator :=
  object versionKeys ((versionKeys.map (·, minLength 1)) ++ [("action_policy", semver)])

def fileEntry : Validator :=
  object ["path", "sha256", "bytes"]
    [("path", string), ("sha256", digest), ("bytes", integerFrom 0)]

def integrity : Validator :=
  object ["algorithm", "files"]
    [("algorithm", enum ["sha256"]), ("files", array fileEntry 1)]

/-- The two conditionals: the pin goes with the version of the manifest. -/
def pinned (manifest : Json) : Bool :=
  let pin := Py.hasKey (manifest.get "component_versions") "action_policy"
  match manifest.get "manifest_schema_version" with
  | .str "1.1.0" => pin
  | .str "1.0.0" => !pin
  | _ => true

/-- `bundle-manifest.schema.json` -/
def manifest (m : Json) : Bool :=
  object ["manifest_schema_version", "bundle_version", "content_digest", "component_versions",
      "integrity", "counts"]
    [("manifest_schema_version", enum ["1.0.0", "1.1.0"]),
     ("bundle_version", semver),
     ("created_at", string),
     ("commit_sha", commit),
     ("gate", enum ["PASS", "NOT_RECORDED"]),
     ("content_digest", digest),
     ("component_versions", componentVersions),
     ("integrity", integrity),
     ("counts", Json.isObj),
     ("notes", string)] m && pinned m

end ManifestSchema

/-! ### Paths -/

def allowedPrefixes : List String :=
  ["rules/", "indicators/", "taxonomy/", "schemas/", "sources/", "detection/"]

def disallowedSubstrings : List String :=
  ["seed-data", "_fixtures", "coverage", "validation", "seed-corpus"]

def ruleSchemaMember : String := "schemas/rule.schema.json"

def envelopeSchemaMember : String := "schemas/input-envelope.schema.json"

def extractionSchemaMembers : List String :=
  [envelopeSchemaMember, "schemas/observation.schema.json", "schemas/url-observation.schema.json",
   "schemas/indicator-observation.schema.json"]

def registryMember : String := "indicators/indicator-registry-v0.json"
def familiesMember : String := "indicators/indicator-families-v1.json"
def negativesMember : String := "indicators/negative-indicator-library-v1.json"
def taxonomyMember : String := "taxonomy/scam-taxonomy.json"
def dimensionsMember : String := "taxonomy/dimensions-v1.json"
def sourcesMember : String := "sources/verification-manifest.json"
def evidenceMember : String := "sources/evidence-records.json"
def actionPolicyMember : String := "detection/action-policy-v1.json"

def requiredMembers : List String :=
  [registryMember, familiesMember, negativesMember, taxonomyMember, dimensionsMember,
   sourcesMember, evidenceMember, ruleSchemaMember] ++ extractionSchemaMembers

def fixedMembers : List String := requiredMembers ++ [actionPolicyMember]

/-- `posixpath.normpath` of a relative path. -/
def normpath (path : List Char) : List Char :=
  let step (kept : List (List Char)) (part : List Char) : List (List Char) :=
    if part = [] ∨ part = ['.'] then kept
    else if part ≠ ['.', '.'] then part :: kept
    else
      match kept with
      | [] => [part]
      | last :: rest => if last = ['.', '.'] then part :: kept else rest
  match (path.splitOn '/').foldl step [] with
  | [] => ['.']
  | kept => ['/'].intercalate kept.reverse

/-- `_safe_resolve`: in a directory without links a canonical relative path stays inside it. -/
def safeResolve (rel : String) : Load Unit :=
  let cs := rel.toList
  if cs = [] ∨ '\x00' ∈ cs then fail .UnsafePathError "UNSAFE_PATH" rel
  else if cs.head? = some '/' ∨ '\\' ∈ cs then fail .UnsafePathError "UNSAFE_PATH" rel
  else if cs ≠ normpath cs then fail .UnsafePathError "UNSAFE_PATH" rel
  else if ['.', '.'] ∈ cs.splitOn '/' then fail .UnsafePathError "UNSAFE_PATH" rel
  else if (allowedPrefixes.any fun p => p.toList.isPrefixOf cs) = false then
    fail .UnsafePathError "UNSAFE_PATH" rel
  else .ok ()

/-- `RULE_MEMBER_RE`: `^rules/TL-[A-Z]{3,5}-\d{3}\.json$` -/
def isRuleMember (rel : String) : Bool :=
  Schema.anchored (fun cs =>
    let code := (cs.drop 9).takeWhile Schema.isUpper
    let rest := (cs.drop 9).dropWhile Schema.isUpper
    cs.take 9 == "rules/TL-".toList && 3 ≤ code.length && code.length ≤ 5 &&
      rest.head? == some '-' && ((rest.drop 1).take 3).length == 3 &&
      ((rest.drop 1).take 3).all PyText.isDigit && rest.drop 4 == ".json".toList) rel

/-- `_reject_unexpected_member` -/
def rejectUnexpectedMember (rel : String) : Load Unit :=
  if (".json".toList.isSuffixOf rel.toList) = false then
    fail .IntegrityError "UNEXPECTED_MEMBER" rel
  else if disallowedSubstrings.any (PyText.isInfix · rel) then
    fail .IntegrityError "UNEXPECTED_MEMBER" rel
  else if rel ∈ fixedMembers ∨ isRuleMember rel = true then .ok ()
  else fail .IntegrityError "UNEXPECTED_MEMBER" rel

/-! ### Integrity -/

/-- One entry of `integrity.files`. -/
structure FileEntry where
  path : String
  sha256 : String
  bytes : Json
deriving DecidableEq

/-- The fields the schema made sure of. -/
structure Manifest where
  manifestSchemaVersion : String
  bundleVersion : String
  contentDigest : String
  componentVersions : List (String × Json)
  files : List FileEntry
  counts : List (String × Json)
  commitSha : Json
  gate : Json
deriving DecidableEq

/-- A string a dictionary holds. -/
def strItem (value : Json) (key : String) : Load String := do
  match ← Py.item value key with
  | .str s => return s
  | _ => .error (.escaped .TypeError)

def readEntry (entry : Json) : Load FileEntry := do
  return ⟨← strItem entry "path", ← strItem entry "sha256", ← Py.item entry "bytes"⟩

def readManifest (m : Json) : Load Manifest := do
  let files ← Py.iter (← Py.item (← Py.item m "integrity") "files")
  return {
    manifestSchemaVersion := ← strItem m "manifest_schema_version"
    bundleVersion := ← strItem m "bundle_version"
    contentDigest := ← strItem m "content_digest"
    componentVersions := ← Py.entries (← Py.item m "component_versions")
    files := ← files.mapM readEntry
    counts := ← Py.entries (← Py.getD m "counts" (.obj []))
    commitSha := ← Py.getD m "commit_sha" (.str "unknown")
    gate := ← Py.getD m "gate" (.str "NOT_RECORDED") }

namespace Manifest

variable (m : Manifest)

/-- Whether the manifest carries the action policy. -/
def wp6 : Bool := m.manifestSchemaVersion == "1.1.0"

/-- `seen` -/
def paths : List String := m.files.map FileEntry.path

end Manifest

/-- One line of the digest payload. -/
def digestLine (f : FileEntry) : List Char := f.path.toList ++ '=' :: f.sha256.toList

/-- The text `_canonical_content_digest` hashes: a line for each file, in the order of the paths. -/
def digestPayload (files : List FileEntry) : ByteArray :=
  (String.ofList (['\n'].intercalate
    ((files.insertionSort fun a b => a.path ≤ b.path).map digestLine))).toUTF8

section Load

variable (lib : Libraries) (dir : Directory)

/-- The manifest, parsed and checked against the schema of the engine. -/
def loadManifest : Load Manifest := do
  if dir.isDir = false then fail .BundleNotFoundError "BUNDLE_NOT_FOUND" "bundle directory"
  else
    match dir.file MANIFEST_FILENAME with
    | none => fail .BundleNotFoundError "BUNDLE_NOT_FOUND" MANIFEST_FILENAME
    | some bytes =>
      match lib.loads bytes with
      | .error .invalid => fail .ManifestError "MANIFEST_PARSE_ERROR" MANIFEST_FILENAME
      | .error (.other e) => .error (.escaped e)
      | .ok m =>
        if ManifestSchema.manifest m = false then
          fail .ManifestError "MANIFEST_SCHEMA_INVALID" MANIFEST_FILENAME
        else readManifest m

/-- The paths of the members, one after the other. -/
def checkPaths (seen : List String) : List FileEntry → Load Unit
  | [] => .ok ()
  | entry :: rest => do
    safeResolve entry.path
    rejectUnexpectedMember entry.path
    if entry.path ∈ seen then fail .UnsafePathError "UNSAFE_PATH" entry.path
    else checkPaths (entry.path :: seen) rest

/-- A historical manifest carries no action policy. -/
def checkHistorical (m : Manifest) : Load Unit :=
  if m.wp6 then .ok ()
  else if (m.componentVersions.map Prod.fst).contains "action_policy" then
    fail .CompatibilityError "VERSION_INCOMPATIBLE" "action_policy"
  else if actionPolicyMember ∈ m.paths then
    fail .IntegrityError "UNEXPECTED_MEMBER" actionPolicyMember
  else .ok ()

def checkRequired (m : Manifest) : Load Unit :=
  let required := requiredMembers ++ if m.wp6 then [actionPolicyMember] else []
  match required.find? fun p => !m.paths.contains p with
  | some absent => fail .IntegrityError "COMPONENT_MISSING" absent
  | none =>
    if (m.paths.any fun p => "rules/".toList.isPrefixOf p.toList) = false then
      fail .IntegrityError "COMPONENT_MISSING" "rules/"
    else .ok ()

/-- Python's `==` between a length and a number of the manifest. -/
def equalsCount (n : ℕ) : Json → Bool
  | .int k => k == n
  | .bool b => (if b then 1 else 0) == n
  | .float x => x.toInt? == some (n : ℤ)
  | _ => false

/-- The bytes of one member, once they are verified. -/
def verifyMember (entry : FileEntry) : Load (String × ByteArray) :=
  match dir.file entry.path with
  | none => fail .IntegrityError "COMPONENT_MISSING" entry.path
  | some data =>
    if lib.sha256 data ≠ entry.sha256 then
      fail .IntegrityError "COMPONENT_HASH_MISMATCH" entry.path
    else if equalsCount data.size entry.bytes = false then
      fail .IntegrityError "COMPONENT_BYTE_COUNT_MISMATCH" entry.path
    else .ok (entry.path, data)

def supportedVersions : List (String × String) :=
  [("rule_schema", "1.0.0"), ("taxonomy", "2.0"), ("dimensions", "1.0.0"),
   ("indicator_registry", "0.3.0-interim"), ("indicator_families", "1.0.0"),
   ("negative_library", "2.0.0"), ("evidence_manifest", "1.2"), ("evidence_records", "1.0"),
   ("extraction_schemas", "1.0.0"), ("action_policy", "1.0.0")]

/-- The exact tokens the engine supports; each component has one. -/
def checkSupported (m : Manifest) : Load Unit := do
  if m.manifestSchemaVersion ∉ ["1.0.0", "1.1.0"] then
    fail .CompatibilityError "SCHEMA_INCOMPATIBLE" m.manifestSchemaVersion
  else if m.bundleVersion ∉ ["1.0.0"] then
    fail .CompatibilityError "VERSION_INCOMPATIBLE" m.bundleVersion
  else
    supportedVersions.forM fun c => do
      if c.1 = "action_policy" ∧ m.wp6 = false then .ok ()
      else
        let version ← Py.hashed ((Json.lookup c.1 m.componentVersions).getD .null)
        if version ≠ .str c.2 then fail .CompatibilityError "VERSION_INCOMPATIBLE" c.1 else .ok ()

/-- Steps 2 to 6: the members with their verified bytes. -/
def verifyMembers (m : Manifest) : Load (List (String × ByteArray)) := do
  checkPaths [] m.files
  checkHistorical m
  checkRequired m
  let verified ← m.files.mapM (verifyMember lib dir)
  if lib.sha256 (digestPayload m.files) ≠ m.contentDigest then
    fail .IntegrityError "DIGEST_MISMATCH" m.contentDigest
  else
    checkSupported m
    return verified

/-! ### Members -/

/-- `verified[rel]` -/
def verifiedBytes (verified : List (String × ByteArray)) (rel : String) : Load ByteArray :=
  match verified.find? (·.1 == rel) with
  | some entry => .ok entry.2
  | none => .error (.escaped .KeyError)

/-- `_parse` of a member -/
def member (verified : List (String × ByteArray)) (rel : String) : Load Json := do
  match lib.loads (← verifiedBytes verified rel) with
  | .ok j => return j
  | .error .invalid => fail .MemberSchemaError "MEMBER_PARSE_ERROR" rel
  | .error (.other e) => .error (.escaped e)

/-- A schema of the extraction contracts; whatever its parse raises is an error of the member. -/
def checkExtractionSchema (verified : List (String × ByteArray)) (rel : String) : Load Unit :=
  match member lib verified rel with
  | .ok schema =>
    if lib.checkSchema schema then .ok () else fail .MemberSchemaError "MEMBER_SCHEMA_INVALID" rel
  | .error (.typed e) => .error (.typed e)
  | .error (.escaped _) => fail .MemberSchemaError "MEMBER_SCHEMA_INVALID" rel

/-- A rule that the schema of the bundle accepts. -/
def loadRule (verified : List (String × ByteArray)) (schema : Json) (rel : String) : Load Json := do
  let rule ← member lib verified rel
  match lib.conforms schema rule with
  | .ok true => return rule
  | .ok false => fail .MemberSchemaError "MEMBER_SCHEMA_INVALID" rel
  | .error e => .error (.escaped e)

/-- The rule files, sorted. -/
def rulePaths (paths : List String) : List String :=
  (paths.filter fun p => "rules/".toList.isPrefixOf p.toList).insertionSort (· ≤ ·)

/-- The policy of a historical bundle. -/
def noPolicy : Json := .obj [("policy_version", .null), ("entries", .arr [])]

/-- Step 7: the parsed schema of the rules, and the components. -/
def parseMembers (paths : List String) (wp6 : Bool) (verified : List (String × ByteArray)) :
    Load (Json × Components) := do
  let ruleSchema ← member lib verified ruleSchemaMember
  if lib.checkSchema ruleSchema = false then
    fail .MemberSchemaError "MEMBER_SCHEMA_INVALID" ruleSchemaMember
  else
    extractionSchemaMembers.forM (checkExtractionSchema lib verified)
    let rules ← (rulePaths paths).mapM (loadRule lib verified ruleSchema)
    let registry ← member lib verified registryMember
    let families ← member lib verified familiesMember
    let negatives ← member lib verified negativesMember
    let taxonomy ← member lib verified taxonomyMember
    let dimensions ← member lib verified dimensionsMember
    let sources ← member lib verified sourcesMember
    let evidence ← member lib verified evidenceMember
    let policy ← if wp6 then member lib verified actionPolicyMember else .ok noPolicy
    return (ruleSchema,
      ⟨rules, registry, families, negatives, taxonomy, dimensions, sources, evidence, policy⟩)

end Load
end TrustLens.Loader
