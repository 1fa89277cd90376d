import TrustLens.Loader.TypedLoading
import TrustLens.Publish.BuildBundle

/-!
# The manifest of a build

The digest does not depend on the order in which the files were found, and the manifest is one the
loader accepts and reads as it was meant.
-/

namespace TrustLens.Publish

open Loader

variable {lib : Libraries} {files found : List FileEntry} {m : BuiltManifest}

/-! ### The digest -/

lemma pairwise_sortFiles (files : List FileEntry) :
    (sortFiles files).Pairwise fun a b => a.path ≤ b.path :=
  List.pairwise_insertionSort (fun a b : FileEntry => a.path ≤ b.path) files

lemma sortFiles_perm (files : List FileEntry) : (sortFiles files).Perm files :=
  List.perm_insertionSort _ files

/-- Files with distinct paths have one order. -/
lemma sortFiles_congr (h : found.Perm files) (hnd : (files.map FileEntry.path).Nodup) :
    sortFiles found = sortFiles files := by
  have hperm := ((sortFiles_perm found).trans h).trans (sortFiles_perm files).symm
  refine hperm.eq_of_pairwise (fun a b ha hb hab hba => ?_) (pairwise_sortFiles found)
    (pairwise_sortFiles files)
  have hmem : a ∈ files := h.mem_iff.mp ((sortFiles_perm found).mem_iff.mp ha)
  exact List.inj_on_of_nodup_map hnd hmem ((sortFiles_perm files).mem_iff.mp hb)
    (le_antisymm hab hba)

/-- The text the builder hashes is the text the loader hashes. -/
lemma toUTF8_digestInput (files : List FileEntry) :
    (digestInput (sortFiles files)).toUTF8 = digestPayload files := by
  have hlines : (sortFiles files).map (String.toList ∘ fun f => f.path ++ "=" ++ f.sha256) =
      (sortFiles files).map digestLine := by
    refine List.map_congr_left fun f _ => ?_
    rw [Function.comp_apply, String.toList_append, String.toList_append, List.append_assoc]
    rfl
  have htext : digestInput (sortFiles files) =
      String.ofList (['\n'].intercalate ((sortFiles files).map digestLine)) := by
    apply String.toList_injective
    rw [digestInput, String.toList_intercalate, List.map_map, hlines,
      String.toList_ofList (l := ['\n'].intercalate _)]
    rfl
  rw [htext]
  rfl

/-- The digest of a set of files, in whatever order they are found, is the one the loader computes
of them, in whatever order it reads them. -/
theorem contentDigest_eq (lib : Libraries) (h : found.Perm files)
    (hnd : (files.map FileEntry.path).Nodup) :
    contentDigest lib found = lib.sha256 (digestPayload files) := by
  rw [contentDigest, sortFiles_congr h hnd, toUTF8_digestInput]

/-! ### The schema -/

namespace BuiltManifest

/-- What a build makes sure of. -/
structure Wellformed (m : BuiltManifest) : Prop where
  versions : m.componentVersions = supportedVersions
  digest : ManifestSchema.digest (.str m.contentDigest) = true
  entries : ∀ f ∈ m.files, ManifestSchema.fileEntry (entryJson f) = true

lemma componentVersions_supported :
    ManifestSchema.componentVersions (.obj (supportedVersions.map fun c => (c.1, .str c.2))) = true := by
  rfl

/-- Each component is pinned at the one token the engine supports. -/
lemma lookup_versionsJson (hversions : m.componentVersions = supportedVersions) :
    ∀ c ∈ supportedVersions, Json.lookup c.1 m.versionsJson = some (.str c.2) := by
  have h : ∀ c ∈ supportedVersions,
      Json.lookup c.1 (supportedVersions.map fun c => (c.1, .str c.2)) = some (.str c.2) := by
    decide
  rw [versionsJson, hversions]
  exact h

lemma pinned_json (h : m.Wellformed) : ManifestSchema.pinned m.json = true := by
  show Py.hasKey (.obj m.versionsJson) "action_policy" = true
  rw [versionsJson, h.versions]
  rfl

lemma integrity_json (h : m.Wellformed) :
    ManifestSchema.integrity
        (.obj [("algorithm", .str "sha256"), ("files", .arr (m.files.map entryJson))]) = true ↔
      m.files ≠ [] := by
  constructor
  · intro hok hnil
    have hfiles := Schema.value_of_get? hok
      (show Json.get? "files" _ = some (.arr (m.files.map entryJson)) from rfl) rfl
    rw [hnil] at hfiles
    cases hfiles
  · intro hne
    have hlength : 1 ≤ (m.files.map entryJson).length := by
      rw [List.length_map]
      exact List.length_pos_iff.mpr hne
    have hall : ∀ x ∈ m.files.map entryJson, ManifestSchema.fileEntry x = true :=
      List.forall_mem_map.mpr h.entries
    have hfiles : Schema.array ManifestSchema.fileEntry 1 (.arr (m.files.map entryJson)) = true := by
      rw [Schema.array, Bool.and_eq_true, decide_eq_true_eq, List.all_eq_true]
      exact ⟨hlength, hall⟩
    rw [ManifestSchema.integrity, Schema.object_obj]
    simp only [List.forall_mem_cons]
    exact ⟨⟨rfl, rfl, List.forall_mem_nil _⟩, ⟨_, rfl, rfl⟩, ⟨_, rfl, hfiles⟩, List.forall_mem_nil _⟩

/-- The schema leaves open what the commit and the gate are, and whether there is a file. -/
theorem manifest_json (h : m.Wellformed) : ManifestSchema.manifest m.json = true ↔
    ManifestSchema.commit (.str m.commitSha) = true ∧ m.gate ∈ ["PASS", "NOT_RECORDED"] ∧
      m.files ≠ [] := by
  have hversions : ManifestSchema.componentVersions (.obj m.versionsJson) = true := by
    rw [versionsJson, h.versions]
    exact componentVersions_supported
  have hgate : Schema.enum ["PASS", "NOT_RECORDED"] (.str m.gate) = true ↔
      m.gate ∈ ["PASS", "NOT_RECORDED"] := by rw [Schema.enum, List.contains_iff_mem]
  rw [ManifestSchema.manifest, pinned_json h, Bool.and_true, ← hgate, ← integrity_json h]
  constructor
  · intro hok
    exact ⟨Schema.value_of_get? hok (show m.json.get? "commit_sha" = _ from rfl) rfl,
      Schema.value_of_get? hok (show m.json.get? "gate" = _ from rfl) rfl,
      Schema.value_of_get? hok (show m.json.get? "integrity" = _ from rfl) rfl⟩
  · rintro ⟨hcommit, hgate, hfiles⟩
    have hversion : Schema.enum ["1.0.0", "1.1.0"] (.str "1.1.0") = true := by decide
    have hbundle : ManifestSchema.semver (.str "1.0.0") = true := rfl
    rw [json, Schema.object_obj]
    simp only [List.forall_mem_cons]
    exact ⟨⟨rfl, rfl, rfl, rfl, rfl, rfl, List.forall_mem_nil _⟩, ⟨_, rfl, hversion⟩, ⟨_, rfl, hbundle⟩,
      ⟨_, rfl, rfl⟩, ⟨_, rfl, hcommit⟩, ⟨_, rfl, hgate⟩, ⟨_, rfl, h.digest⟩, ⟨_, rfl, hversions⟩,
      ⟨_, rfl, hfiles⟩, ⟨_, rfl, rfl⟩, ⟨_, rfl, rfl⟩, List.forall_mem_nil _⟩

/-- The manifest as the loader reads it. -/
def loaded (m : BuiltManifest) : Manifest where
  manifestSchemaVersion := "1.1.0"
  bundleVersion := "1.0.0"
  contentDigest := m.contentDigest
  componentVersions := m.versionsJson
  files := m.files
  counts := m.countsJson
  commitSha := .str m.commitSha
  gate := .str m.gate

lemma readEntry_json (f : FileEntry) : readEntry (entryJson f) = .ok f := rfl

theorem readManifest_json (m : BuiltManifest) : readManifest m.json = .ok m.loaded := by
  have hfiles : (m.files.map entryJson).mapM readEntry = .ok m.files :=
    mapM_map_eq_ok fun f _ => readEntry_json f
  show (do
    let files ← (m.files.map entryJson).mapM readEntry
    return { m.loaded with files := files } : Load Manifest) = _
  rw [hfiles]
  rfl

/-! ### The text -/

/-- The sizes and the counts have fewer digits than the limit of the interpreter. -/
structure Readable (m : BuiltManifest) : Prop where
  bytes : ∀ f ∈ m.files, ∃ n : ℕ, f.bytes = .int n ∧ n < 10 ^ PyText.maxDigits
  counts : ∀ e ∈ m.counts, e.2 < 10 ^ PyText.maxDigits
  versionKeys : (m.componentVersions.map Prod.fst).Nodup
  countKeys : (m.counts.map Prod.fst).Nodup

lemma discrete_entryJson {f : FileEntry} {n : ℕ} (hf : f.bytes = .int n)
    (hn : n < 10 ^ PyText.maxDigits) : Json.Discrete (entryJson f) := by
  have hbytes : Json.Discrete f.bytes := hf ▸ .int n hn
  simp [entryJson, hbytes]

lemma discrete_json (h : m.Readable) : Json.Discrete m.json := by
  have hversions : Json.Discrete (.obj m.versionsJson) := by
    refine .obj _ ?_ (List.forall_mem_map.mpr fun c _ => .str c.2)
    rw [versionsJson, List.map_map]
    exact h.versionKeys
  have hcounts : Json.Discrete (.obj m.countsJson) := by
    refine .obj _ ?_ (List.forall_mem_map.mpr fun c hc => .int c.2 (h.counts c hc))
    rw [countsJson, List.map_map]
    exact h.countKeys
  have hfiles : Json.Discrete (.arr (m.files.map entryJson)) := by
    refine .arr _ (List.forall_mem_map.mpr fun f hf => ?_)
    obtain ⟨n, hbytes, hn⟩ := h.bytes f hf
    exact discrete_entryJson hbytes hn
  refine .obj _ (by simp) ?_
  simp only [List.forall_mem_cons]
  refine ⟨.str _, .str _, .str _, .str _, .str _, .str _, hversions, ?_, hcounts, .str _, nofun⟩
  exact .obj _ (by simp) (by simpa using hfiles)

/-- The text of a manifest is read back as the manifest. -/
theorem loads_text (h : m.Readable) : Json.loads m.text = some m.json :=
  Json.loads_indented (discrete_json h)

end BuiltManifest
end TrustLens.Publish
