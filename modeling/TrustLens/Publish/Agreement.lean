import TrustLens.Publish.TreeReading

/-!
# Builder and loader

When the directory a build writes is one the loader takes, and what the two then say of it.
-/

namespace TrustLens.Loader

variable {c : Components} {indexes : Indexes} {id : String}

/-! ### The indexes the metadata is compared with -/

/-- `published_rule_ids` -/
def LoadedKnowledge.publishedRuleIds (k : LoadedKnowledge) : List String :=
  sortedUnique (k.indexes.publishedRulesById.map Prod.fst)

lemma mem_keys_indexBy {idKey : String} {rs : List Json} {index : Index}
    (h : indexBy idKey rs = .ok index) : id ∈ index.map Prod.fst ↔
      ∃ r ∈ rs, ∃ value, r.get? idKey = some value ∧ key value = id := by
  have hstep : ∀ {r : Json} {entry : String × Json},
      (do return (key (← Py.hashed (← Py.item r idKey)), r) : Load _) = .ok entry →
        ∃ value, r.get? idKey = some value ∧ key value = entry.1 := by
    intro r entry hentry
    obtain ⟨value, hvalue, hentry⟩ := bind_ok hentry
    obtain ⟨hashed, hhashed, hentry⟩ := bind_ok hentry
    unfold Py.hashed at hhashed
    split_ifs at hhashed
    cases hhashed
    cases hentry
    exact ⟨value, Publish.item_ok_iff.mp hvalue, rfl⟩
  constructor
  · intro hid
    obtain ⟨entry, hentry, rfl⟩ := List.mem_map.mp hid
    obtain ⟨r, hr, hok⟩ := (mem_of_mapM_ok h entry).mp hentry
    exact ⟨r, hr, hstep hok⟩
  · rintro ⟨r, hr, value, hvalue, rfl⟩
    obtain ⟨entry, hentry, hok⟩ := exists_of_mapM_ok h hr
    obtain ⟨value', hvalue', hkey⟩ := hstep hok
    rw [hvalue] at hvalue'
    cases hvalue'
    exact hkey ▸ List.mem_map_of_mem hentry

/-- The published rules and the policy, as they are indexed. -/
lemma indexed_of_buildIndexes (h : buildIndexes c = .ok indexes) : ∃ statuses entries,
    (c.rules.mapM fun r => do return (r, ← lifecycleStatus r) : Load (List (Json × Json))) = .ok statuses ∧
      indexBy "id" ((statuses.filter (·.2 == .str "PUBLISHED")).map Prod.fst) =
        .ok indexes.publishedRulesById ∧
      records c.actionPolicy "entries" = .ok entries ∧
      indexBy "policy_entry_id" entries = .ok indexes.actionPolicyById := by
  obtain ⟨statuses, hstatuses, h⟩ := bind_ok h
  iterate 12 obtain ⟨_, -, h⟩ := bind_ok h
  obtain ⟨published, hpublished, h⟩ := bind_ok h
  iterate 11 obtain ⟨_, -, h⟩ := bind_ok h
  obtain ⟨entries, hentries, h⟩ := bind_ok h
  obtain ⟨policy, hpolicy, h⟩ := bind_ok h
  cases h
  exact ⟨statuses, entries, hstatuses, hpublished, hentries, hpolicy⟩

lemma mem_publishedRules (h : buildIndexes c = .ok indexes) :
    id ∈ indexes.publishedRulesById.map Prod.fst ↔ ∃ r ∈ c.rules,
      lifecycleStatus r = .ok (.str "PUBLISHED") ∧ ∃ value, r.get? "id" = some value ∧ key value = id := by
  obtain ⟨statuses, -, hstatuses, hpublished, -⟩ := indexed_of_buildIndexes h
  rw [mem_keys_indexBy hpublished]
  constructor
  · rintro ⟨r, hr, hvalue⟩
    obtain ⟨pair, hpair, rfl⟩ := List.mem_map.mp hr
    obtain ⟨hmem, hstatus⟩ := List.mem_filter.mp hpair
    obtain ⟨rule, hrule, hok⟩ := (mem_of_mapM_ok hstatuses pair).mp hmem
    obtain ⟨status, hlifecycle, hok⟩ := bind_ok hok
    cases hok
    obtain rfl : status = .str "PUBLISHED" := by simpa using hstatus
    exact ⟨rule, hrule, hlifecycle, hvalue⟩
  · rintro ⟨r, hr, hstatus, hvalue⟩
    have hpair : (r, Json.str "PUBLISHED") ∈ statuses :=
      (mem_of_mapM_ok hstatuses _).mpr ⟨r, hr, by rw [hstatus]; rfl⟩
    exact ⟨r, List.mem_map.mpr ⟨_, List.mem_filter.mpr ⟨hpair, by simp⟩, rfl⟩, hvalue⟩

/-- The policy has an entry, and so has its index. -/
lemma policy_indexed (hpolicy : validateActionPolicy c = .ok ()) (h : buildIndexes c = .ok indexes) :
    indexes.actionPolicyById ≠ [] := by
  obtain ⟨-, entries, -, -, hentries, hindex⟩ := indexed_of_buildIndexes h
  obtain ⟨hschema, -⟩ := ok_of_guard hpolicy
  obtain ⟨value, hvalue, hok⟩ := Schema.exists_get? (Bool.not_eq_false _ ▸ hschema) "entries" (by simp) rfl
  obtain ⟨es, rfl, -⟩ := Schema.exists_arr_of_uniqueArray hok
  have hsome : 1 ≤ es.length := by
    have hlength := (Bool.and_eq_true_iff.mp (Bool.and_eq_true_iff.mp hok).1).1
    simpa using hlength
  rw [records_of_get? hvalue] at hentries
  cases hentries
  intro hnil
  rw [hnil] at hindex
  have hlength := (forall₂_of_mapM_ok hindex).length_eq
  rw [List.length_nil] at hlength
  omega

end TrustLens.Loader

namespace TrustLens.Publish

open Loader

variable {lib : Libraries} {machine : Machine} {tree : KnowledgeTree} {gate : String} {schema : Json}
  {c : Components} {m : BuiltManifest} {dir : Directory}

/-! ### What a build did -/

lemma computeManifest_ok (h : computeManifest lib machine tree gate = .ok m) : Describes lib tree m ∧
    readCommitSha machine = .ok m.commitSha ∧ m.gate = gate ∧
      componentVersions lib machine tree = .ok m.componentVersions ∧
      counts machine tree m.files = .ok m.counts := by
  obtain ⟨copied, hcopied, h⟩ := bind_ok h
  obtain ⟨sha, hsha, h⟩ := bind_ok h
  obtain ⟨versions, hversions, h⟩ := bind_ok h
  obtain ⟨counts, hcounts, h⟩ := bind_ok h
  have hcomplete := KnowledgeTree.complete_of_mapM hcopied
  obtain rfl := Except.ok.inj (hcopied.symm.trans (KnowledgeTree.mapM_memberBytes hcomplete))
  cases h
  exact ⟨⟨hcomplete, rfl, rfl⟩, hsha, rfl, hversions, hcounts⟩

lemma build_ok_iff : build lib machine tree gate = .ok (m, dir) ↔
    computeManifest lib machine tree gate = .ok m ∧ dir = layOut m tree.laidOut := by
  constructor
  · intro h
    obtain ⟨manifest, hmanifest, h⟩ := bind_ok h
    obtain ⟨copied, hcopied, h⟩ := bind_ok h
    cases h
    have hcomplete := KnowledgeTree.complete_of_mapM hcopied
    obtain rfl := Except.ok.inj (hcopied.symm.trans (KnowledgeTree.mapM_memberBytes hcomplete))
    exact ⟨hmanifest, rfl⟩
  · rintro ⟨hmanifest, rfl⟩
    unfold build
    rw [hmanifest]
    show (tree.members.mapM tree.memberBytes >>= _) = _
    rw [KnowledgeTree.mapM_memberBytes (computeManifest_ok hmanifest).1.complete]
    rfl

/-- The manifest of a sound tree, but for what is counted. -/
lemma computeManifest_eq {sha : String} (hutf8 : Utf8Default lib machine) (h : Sound lib tree schema c)
    (hsha : readCommitSha machine = .ok sha) :
    computeManifest lib machine tree gate = (do
      let counts ← documentCounts (sortFiles (tree.laidOut.map (fileEntry lib))).length c
      return {
        createdAt := machine.now
        commitSha := sha
        gate := gate
        contentDigest := contentDigest lib (tree.laidOut.map (fileEntry lib))
        componentVersions := supportedVersions
        files := sortFiles (tree.laidOut.map (fileEntry lib))
        counts := counts }) := by
  let m : BuiltManifest := ⟨machine.now, sha, gate,
    contentDigest lib (tree.laidOut.map (fileEntry lib)), supportedVersions,
    sortFiles (tree.laidOut.map (fileEntry lib)), []⟩
  have hm : Describes lib tree m := ⟨h.complete, rfl, rfl⟩
  unfold computeManifest
  rw [KnowledgeTree.mapM_memberBytes h.complete, hsha, componentVersions_ok hutf8 h,
    ← counts_eq hutf8 h hm]
  rfl

/-- A sound tree is described in a manifest exactly where the commit can be read and the keys the
builder asks for are there. -/
lemma exists_computeManifest_iff (hutf8 : Utf8Default lib machine) (h : Sound lib tree schema c) :
    (∃ m, computeManifest lib machine tree gate = .ok m) ↔
      (∃ sha, readCommitSha machine = .ok sha) ∧ Counted c := by
  constructor
  · rintro ⟨m, hm⟩
    obtain ⟨hdescribes, hsha, -, -, hcounts⟩ := computeManifest_ok hm
    rw [counts_eq hutf8 h hdescribes] at hcounts
    exact ⟨⟨_, hsha⟩, (documentCounts_ok_iff _ h.shapes).mp ⟨_, hcounts⟩⟩
  · rintro ⟨⟨sha, hsha⟩, hcounted⟩
    obtain ⟨numbers, hnumbers⟩ := (documentCounts_ok_iff _ h.shapes).mpr hcounted
    rw [computeManifest_eq hutf8 h hsha]
    exact ⟨_, bind_eq_of_ok hnumbers rfl⟩

/-! ### Agreement -/

/-- The name of a rule's file without its suffix. -/
def stem (name : String) : String := String.ofList (name.toList.take (name.toList.length - 5))

/-- Whether the file of a rule says that the rule is published. -/
def isPublished (lib : Libraries) (tree : KnowledgeTree) (name : String) : Bool :=
  match member lib tree.laidOut (KnowledgeTree.rulePath name) with
  | .ok rule => (rule.get "lifecycle").get "status" == .str "PUBLISHED"
  | .error _ => false

/-- The ids of the rule files that are published. -/
def KnowledgeTree.publishedIds (lib : Libraries) (tree : KnowledgeTree) : List String :=
  sortedUnique ((tree.ruleNames.filter (isPublished lib tree)).map stem)

/-- The loader takes the directory and says of it what the manifest says, and it publishes the rules
whose files are published. -/
structure Accepted (lib : Libraries) (tree : KnowledgeTree) (m : BuiltManifest) (dir : Directory)
    (k : LoadedKnowledge) : Prop where
  loaded : loadBundle lib dir = .ok k
  digest : k.contentDigest = m.contentDigest
  versions : k.componentVersions = m.versionsJson
  counts : k.counts = m.countsJson
  published : k.publishedRuleIds = tree.publishedIds lib

/-- Builder and loader agree: on the directory a build writes, and on the digest of any set of
files. -/
structure Agrees (lib : Libraries) (machine : Machine) (tree : KnowledgeTree) (gate : String) : Prop where
  bundle : ∃ m dir k, build lib machine tree gate = .ok (m, dir) ∧ Accepted lib tree m dir k
  digest : ∀ found files : List FileEntry, found.Perm files → (files.map FileEntry.path).Nodup →
    contentDigest lib found = lib.sha256 (digestPayload files)

/-- What a build needs beyond a sound tree: rules under the names of the bundle, the keys that are
counted, a commit and a gate as the contract of the manifest has them. -/
structure Publishable (machine : Machine) (tree : KnowledgeTree) (gate : String) (c : Components) :
    Prop where
  rules : RulesNamed tree
  counted : Counted c
  commit : ∃ sha, readCommitSha machine = .ok sha ∧ ManifestSchema.commit (.str sha) = true
  gate : gate ∈ ["PASS", "NOT_RECORDED"]

lemma stem_append (id : String) : stem (id ++ ".json") = id := by
  apply String.toList_injective
  rw [stem, String.toList_ofList, String.toList_append, List.length_append]
  exact List.take_left

lemma lifecycleStatus_str_iff {r : Json} {status : String} : lifecycleStatus r = .ok (.str status) ↔
    (r.get "lifecycle").get "status" = .str status := by
  constructor
  · intro h
    obtain ⟨lifecycle, hlifecycle, h⟩ := bind_ok h
    have hstatus : lifecycle.get? "status" = some (.str status) := by
      rcases getD_ok h with hget | ⟨-, -, hnull⟩
      · exact hget
      · cases hnull
    rcases getD_ok hlifecycle with hget | ⟨-, -, rfl⟩
    · rw [get_of_get? hget, get_of_get? hstatus]
    · cases hstatus
  · intro h
    cases hlifecycle : r.get? "lifecycle" with
    | none =>
      have hnull : r.get "lifecycle" = .null := by
        rw [Json.get, hlifecycle]
        rfl
      rw [hnull] at h
      cases h
    | some lifecycle =>
      rw [get_of_get? hlifecycle, Json.get] at h
      obtain ⟨v, hv⟩ : ∃ v, lifecycle.get? "status" = some v := by
        refine Option.ne_none_iff_exists'.mp fun hnone => ?_
        rw [hnone] at h
        cases h
      rw [hv] at h
      cases h
      exact lifecycleStatus_of_statusOf (statusOf_ok_iff.mpr ⟨lifecycle, hlifecycle, hv⟩)

lemma mem_rules_iff (h : Sound lib tree schema c) {r : Json} : r ∈ c.rules ↔
    ∃ name ∈ tree.ruleNames, member lib tree.laidOut (KnowledgeTree.rulePath name) = .ok r := by
  constructor
  · intro hr
    obtain ⟨p, hp, hok⟩ := (mem_of_mapM_ok h.documents.rules r).mp hr
    obtain ⟨name, hname, rfl⟩ := exists_name_of_mem_rulePaths hp
    exact ⟨name, hname, member_of_loadRule hok⟩
  · rintro ⟨name, hname, hmember⟩
    have hpath : KnowledgeTree.rulePath name ∈ rulePaths tree.paths := by
      rw [rulePaths, List.mem_insertionSort, List.mem_filter]
      refine ⟨KnowledgeTree.mem_paths.mpr (.inl ⟨name, hname, rfl⟩), ?_⟩
      rw [KnowledgeTree.rulePath, String.toList_append]
      exact List.isPrefixOf_iff_prefix.mpr (List.prefix_append _ _)
    obtain ⟨rule, hrule, hok⟩ := exists_of_mapM_ok h.documents.rules hpath
    obtain rfl := Except.ok.inj (hmember.symm.trans (member_of_loadRule hok))
    exact hrule

/-- The rules the indexes publish are those whose files are published. -/
lemma publishedIds_eq (h : Sound lib tree schema c) {indexes : Indexes}
    (hindexes : buildIndexes c = .ok indexes) :
    sortedUnique (indexes.publishedRulesById.map Prod.fst) = tree.publishedIds lib := by
  refine sortedUnique_congr fun id => ?_
  rw [mem_publishedRules hindexes, List.mem_map]
  constructor
  · rintro ⟨r, hr, hstatus, value, hvalue, rfl⟩
    obtain ⟨name, hname, hmember⟩ := (mem_rules_iff h).mp hr
    obtain ⟨id, hid, rfl⟩ := h.named name hname r hmember
    obtain rfl := Option.some.inj (hvalue.symm.trans hid)
    refine ⟨_, List.mem_filter.mpr ⟨hname, ?_⟩, stem_append id⟩
    rw [isPublished, hmember]
    exact beq_iff_eq.mpr (lifecycleStatus_str_iff.mp hstatus)
  · rintro ⟨name, hmem, rfl⟩
    obtain ⟨hname, hpublished⟩ := List.mem_filter.mp hmem
    rw [isPublished] at hpublished
    split at hpublished
    next rule hmember =>
      obtain ⟨id, hid, rfl⟩ := h.named name hname rule hmember
      refine ⟨rule, (mem_rules_iff h).mpr ⟨_, hname, hmember⟩, ?_, .str id, hid, (stem_append id).symm⟩
      exact lifecycleStatus_str_iff.mpr (beq_iff_eq.mp hpublished)
    · cases hpublished

/-! ### The load of a build -/

section

variable (hsha : ∀ data, ManifestSchema.digest (.str (lib.sha256 data)) = true)
include hsha

lemma wellformed_of_computeManifest (hutf8 : Utf8Default lib machine) (h : Sound lib tree schema c)
    (hm : computeManifest lib machine tree gate = .ok m) : m.Wellformed := by
  obtain ⟨hdescribes, -, -, hversions, -⟩ := computeManifest_ok hm
  rw [componentVersions_ok hutf8 h] at hversions
  refine ⟨(Except.ok.inj hversions).symm, ?_, fun f hf => ?_⟩
  · rw [hdescribes.digest]
    exact hsha _
  · rw [hdescribes.files_eq] at hf
    obtain ⟨copy, -, rfl⟩ := List.mem_map.mp hf
    have hbytes : Schema.integerFrom 0 (.int copy.2.size) = true := by simp [Schema.integerFrom]
    rw [ManifestSchema.fileEntry, BuiltManifest.entryJson, Schema.object_obj]
    simp only [List.forall_mem_cons]
    exact ⟨⟨rfl, rfl, rfl, List.forall_mem_nil _⟩, ⟨_, rfl, rfl⟩, ⟨_, rfl, hsha _⟩, ⟨_, rfl, hbytes⟩,
      List.forall_mem_nil _⟩

end

lemma loadManifest_layOut_iff {copied : List (String × ByteArray)} (hjson : lib.loads m.bytes = .ok m.json)
    {loaded : Manifest} : loadManifest lib (layOut m copied) = .ok loaded ↔
      ManifestSchema.manifest m.json = true ∧ loaded = m.loaded := by
  have hdir : ¬(layOut m copied).isDir = false := nofun
  have hfile : (layOut m copied).file MANIFEST_FILENAME = some m.bytes := by
    simp only [layOut, if_true]
  unfold loadManifest
  rw [if_neg hdir, hfile]
  simp only [hjson]
  split_ifs with hschema
  · refine iff_of_false nofun fun h => ?_
    rw [h.1] at hschema
    cases hschema
  · rw [BuiltManifest.readManifest_json]
    exact ⟨fun h => ⟨by simpa using hschema, (Except.ok.inj h).symm⟩, fun h => by rw [h.2]⟩

/-- The steps of the loader after the members are verified. -/
lemma finish_ok (h : Sound lib tree schema c) (hm : Describes lib tree m)
    (hversions : m.componentVersions = supportedVersions)
    (hcounts : computedCounts m.files.length c = .ok m.counts) (hkeys : (m.counts.map Prod.fst).Nodup) :
    ∃ indexes, buildIndexes c = .ok indexes ∧ finish lib m.loaded tree.copies schema c = .ok {
      bundleVersion := "1.0.0"
      manifestSchemaVersion := "1.1.0"
      contentDigest := m.contentDigest
      commitSha := .str m.commitSha
      gate := .str m.gate
      componentVersions := m.versionsJson
      counts := m.countsJson
      indexes := indexes } := by
  have hshaped := h.shaped
  have hlifecycles : ∀ r ∈ c.rules, LifecycleReadable r :=
    (reads_computedCounts hshaped).not_escapes_iff.mp (by rw [hcounts]; exact escapes_ok)
  have hreferences : ReferencesReadable c :=
    (reads_validateReferences hshaped hlifecycles).not_escapes_iff.mp
      (by rw [h.references]; exact escapes_ok)
  obtain ⟨indexes, hindexes⟩ := (reads_buildIndexes hshaped
    (policyShaped_of_validateActionPolicy h.policy) hlifecycles hreferences).returns trivial
  obtain ⟨envelope, henvelope⟩ := h.documents.exists_member (p := envelopeSchemaMember) (by decide)
  have hmember : member lib tree.copies envelopeSchemaMember = .ok envelope := by
    rw [member, hm.verifiedBytes_copies]
    exact henvelope
  have hversion : (embeddedVersions schema envelope c).forM (checkVersion lib.floatText m.loaded) =
      .ok () := by
    refine forM_ok_iff.mpr fun component hcomponent => ?_
    obtain ⟨v, hv, hmem⟩ := h.versions envelope henvelope component hcomponent
    have hpin : (Py.item (.obj m.loaded.componentVersions) component.1 : Load Json) =
        .ok (.str (versionText lib.floatText v)) :=
      Py.item_of_get? (BuiltManifest.lookup_versionsJson hversions _ hmem)
    unfold checkVersion
    rw [if_neg (fun hskip => nomatch hskip.2), hv]
    refine (if_neg (ne_null_of_supported hmem)).trans ?_
    rw [hpin]
    exact if_neg (not_not.mpr rfl)
  have hcount : checkCounts m.loaded c = .ok () := by
    unfold checkCounts
    rw [show m.loaded.files.length = m.files.length from rfl, hcounts]
    refine forM_ok_iff.mpr fun count hmem => ?_
    have hlookup : Json.lookup count.1 m.loaded.counts = some (.int count.2) := by
      have hnd : (m.countsJson.map Prod.fst).Nodup := by
        rw [BuiltManifest.countsJson, List.map_map]
        exact hkeys
      exact (Json.lookup_eq_some_iff hnd).mpr (List.mem_map_of_mem hmem)
    rw [hlookup]
    exact if_pos (by simp [equalsCount])
  have hreference : checkReferences c = .ok () := by
    unfold checkReferences
    rw [h.references]
    rfl
  have havailable : checkAvailability m.loaded indexes = .ok () := by
    have hpin := BuiltManifest.lookup_versionsJson hversions ("action_policy", "1.0.0") (by decide)
    have hpolicy : (!indexes.actionPolicyById.isEmpty) = true := by
      simp [policy_indexed h.policy hindexes]
    unfold checkAvailability
    rw [show Json.lookup "action_policy" m.loaded.componentVersions = _ from hpin, hpolicy,
      show m.loaded.wp6 = true from rfl]
    exact if_neg (by decide)
  refine ⟨indexes, hindexes, ?_⟩
  unfold finish
  rw [hmember, hcount, hreference, hindexes]
  refine bind_eq_of_ok rfl (bind_eq_of_ok hversion (bind_eq_of_ok rfl (bind_eq_of_ok rfl ?_)))
  exact bind_eq_of_ok rfl (bind_eq_of_ok havailable rfl)

lemma nodup_keys_of_documentCounts {files : ℕ} {numbers : List (String × ℕ)}
    (h : documentCounts files c = .ok numbers) : (numbers.map Prod.fst).Nodup := by
  iterate 10 obtain ⟨_, -, h⟩ := bind_ok h
  cases h
  simp

/-- Where a build and its load both return. -/
theorem bundle_iff (hsha : ∀ data, ManifestSchema.digest (.str (lib.sha256 data)) = true)
    (hutf8 : Utf8Default lib machine)
    (hjson : ∀ m, computeManifest lib machine tree gate = .ok m → lib.loads m.bytes = .ok m.json)
    (h : Sound lib tree schema c) :
    (∃ m dir k, build lib machine tree gate = .ok (m, dir) ∧ Accepted lib tree m dir k) ↔
      Publishable machine tree gate c := by
  constructor
  · rintro ⟨m, dir, k, hbuild, haccepted⟩
    obtain ⟨hm, rfl⟩ := build_ok_iff.mp hbuild
    obtain ⟨hdescribes, hcommit, rfl, -, -⟩ := computeManifest_ok hm
    obtain ⟨-, hcounted⟩ := (exists_computeManifest_iff hutf8 h).mp ⟨m, hm⟩
    obtain ⟨loaded, hloaded, hload⟩ := bind_ok haccepted.loaded
    obtain ⟨hschema, rfl⟩ := (loadManifest_layOut_iff (hjson m hm)).mp hloaded
    obtain ⟨verified, hverified, -⟩ := bind_ok hload
    obtain ⟨hsha', hgate, -⟩ :=
      (BuiltManifest.manifest_json (wellformed_of_computeManifest hsha hutf8 h hm)).mp hschema
    exact ⟨hdescribes.rulesNamed_of_verified (verified_of_verifyMembers hverified), hcounted,
      ⟨_, hcommit, hsha'⟩, hgate⟩
  · rintro ⟨hrules, hcounted, ⟨sha, hsha', hcommit⟩, hgate⟩
    obtain ⟨m, hm⟩ : ∃ m, computeManifest lib machine tree gate = .ok m :=
      (exists_computeManifest_iff hutf8 h).mpr ⟨⟨sha, hsha'⟩, hcounted⟩
    obtain ⟨hdescribes, hread, rfl, -, hcounts⟩ := computeManifest_ok hm
    obtain rfl := Except.ok.inj (hsha'.symm.trans hread)
    have hwellformed := wellformed_of_computeManifest hsha hutf8 h hm
    rw [counts_eq hutf8 h hdescribes] at hcounts
    obtain ⟨indexes, hindexes, hfinish⟩ := finish_ok h hdescribes hwellformed.versions
      (computedCounts_of_documentCounts h.shapes hcounts) (nodup_keys_of_documentCounts hcounts)
    have hfiles : m.files ≠ [] := by
      intro hnil
      have hmem : registryMember ∈ m.files.map FileEntry.path :=
        hdescribes.perm_paths.mem_iff.mpr (KnowledgeTree.mem_paths.mpr (.inr (by decide)))
      rw [hnil] at hmem
      cases hmem
    have hschema := (BuiltManifest.manifest_json hwellformed).mpr ⟨hcommit, hgate, hfiles⟩
    have hparsed : parseMembers lib m.loaded.paths m.loaded.wp6 tree.copies = .ok (schema, c) :=
      (parseMembers_congr hdescribes.verifiedBytes_copies hdescribes.rulePaths_eq true).trans h.parsed
    have hcomponents : checkComponents m.loaded c = .ok () := by
      unfold checkComponents
      rw [h.shapes]
      exact h.policy
    have hverified := hdescribes.verifyMembers_ok hwellformed.versions hrules
    have hload : loadManifest lib (layOut m tree.laidOut) = .ok m.loaded :=
      (loadManifest_layOut_iff (hjson m hm)).mpr ⟨hschema, rfl⟩
    exact ⟨m, layOut m tree.laidOut, _, build_ok_iff.mpr ⟨hm, rfl⟩, bind_eq_of_ok hload
      (bind_eq_of_ok hverified (bind_eq_of_ok hparsed (bind_eq_of_ok hcomponents hfinish))), rfl, rfl, rfl,
      publishedIds_eq h hindexes⟩

/-! ### A tree of one rule -/

/-- `json.loads(data.decode("utf-8"))` of a text the parser takes. -/
def loadsUtf8 (data : ByteArray) : Except ParseFault Json :=
  match (String.fromUTF8? data).bind fun s => Json.loads s.toList with
  | some j => .ok j
  | none => .error .invalid

lemma loadsUtf8_toUTF8 (cs : List Char) : loadsUtf8 (String.ofList cs).toUTF8 =
    match Json.loads cs with
    | some j => .ok j
    | none => .error .invalid := by
  have h : String.fromUTF8? (String.ofList cs).toUTF8 = some (String.ofList cs) :=
    dif_pos (String.ofList cs).isValidUTF8
  rw [loadsUtf8, h, Option.bind_some, String.toList_ofList]

/-- The bytes of a manifest are read back as the manifest. -/
lemma BuiltManifest.Readable.loadsUtf8_bytes {m : BuiltManifest} (h : m.Readable) :
    loadsUtf8 m.bytes = .ok m.json := by
  rw [BuiltManifest.bytes, loadsUtf8_toUTF8, BuiltManifest.loads_text h]

/-- A published rule. -/
def sampleRule : Json := .obj [("id", .str "TL-ABC-001"), ("logic", .obj []), ("evidence", .obj []),
  ("lifecycle", .obj [("status", .str "PUBLISHED")])]

/-- A schema that fixes one version. -/
def sampleSchema (name : String) : Json :=
  .obj [("properties", .obj [(name, .obj [("const", .str "1.0.0")])])]

def sampleComponents (category : Json) : Components where
  rules := [sampleRule]
  registry := .obj [("registry_version", .str "0.3.0-interim"), ("indicators", .arr [])]
  families := .obj [("families_version", .str "1.0.0"), ("families", .arr [])]
  negatives := .obj [("library_version", .str "2.0.0"), ("negative_indicators", .arr []),
    ("categories", .obj [])]
  taxonomy := .obj [("taxonomy_version", .str "2.0"), ("categories", .arr [category])]
  dimensions := .obj [("dimensions_version", .str "1.0.0"), ("dimensions", .obj [])]
  sources := .obj [("manifest_version", .str "1.2"), ("sources", .arr [])]
  evidence := .obj [("version", .str "1.0"), ("records", .arr [])]
  actionPolicy := .obj [("policy_version", .str "1.0.0"), ("entries", .arr [.obj [
    ("policy_entry_id", .str "AP-RUL-001"),
    ("trigger", .obj [("type", .str "RULE"), ("id", .str "TL-ABC-001")]),
    ("action_code", .str "CONTACT_BANK"), ("basis", .str "PROGRAM_POLICY")]])]

/-- The sources of a tree of one rule. -/
def sampleDocuments (category : Json) : List (String × Json) :=
  let c := sampleComponents category
  [("rules/TL-ABC-001.json", sampleRule),
   ("indicators/indicator-registry-v0.json", c.registry),
   ("indicators/indicator-families-v1.json", c.families),
   ("indicators/negative-indicator-library-v1.json", c.negatives),
   ("taxonomies/scam-taxonomy.json", c.taxonomy),
   ("taxonomies/dimensions-v1.json", c.dimensions),
   ("schemas/rule.schema.json", sampleSchema "schema_version"),
   ("schemas/input-envelope.schema.json", sampleSchema "envelope_version"),
   ("schemas/observation.schema.json", .obj []),
   ("schemas/url-observation.schema.json", .obj []),
   ("schemas/indicator-observation.schema.json", .obj []),
   ("sources/verification-manifest.json", c.sources),
   ("sources/manual-retrieval/evidence-records.json", c.evidence),
   ("detection/action-policy-v1.json", c.actionPolicy)]

/-- The bytes of a document. -/
def documentBytes (j : Json) : ByteArray := (String.ofList (Json.indented 0 j)).toUTF8

def sampleTree (category : Json) : KnowledgeTree where
  ruleNames := ["TL-ABC-001.json"]
  file source := (Json.lookup source (sampleDocuments category)).map documentBytes
  distinct := by decide
  found := by
    intro name hname
    obtain rfl := List.mem_singleton.mp hname
    rfl
  flat := by decide
  matched := by decide

/-- A category with its list of subcategories, and one without. -/
def listed : Json := .obj [("id", .str "TAX-01"), ("subcategories", .arr [])]

def bare : Json := .obj [("id", .str "TAX-01")]

/-- The documents under their paths in the bundle. -/
def publishedDocuments (category : Json) : List (String × Json) :=
  ("rules/TL-ABC-001.json" :: fixedSources.map Prod.fst).zip ((sampleDocuments category).map Prod.snd)


/-- 64 hexadecimal digits of a number. -/
def hexdigest (n : ℕ) : String :=
  String.ofList ((List.range 64).map fun i => Nat.digitChar (n / 16 ^ (63 - i) % 16))

/-- The digests of the documents. -/
def sampleDigests (taxonomy : ℕ) : List ℕ :=
  [0x1da37ad0e51dc342344df155d7bb46977a17d2ff6ae5b24becf25c1bbe9281c4,
   0x2c53deb2f06823acc4e76f73883b6c9274cea9ca8979a9723b718aaa8d9bed69,
   0x3b6e6d5038a279d2c67659b89e1476ee032728d88f23084be603196bd0d07cdd,
   0x610b3c332aae4569b81941a6de632a2b37b983a8e3c2e5cf55e2933c7bfce576,
   taxonomy,
   0x133b1376f39d7cdac866dc4546a9a745831981ac7435bf1a0aa388564ebe633b,
   0x4a458246059b4a15dba4f04db29095bf99fa5bd1af8b97c4deccd0f86d860623,
   0x0184982db79cc079641461efdd79ffd052cee8cc3a11b150c98a5c115c371723,
   0x44136fa355b3678a1146ad16f7e8649e94fb4fc21fe77e8310c060f61caaff8a,
   0x44136fa355b3678a1146ad16f7e8649e94fb4fc21fe77e8310c060f61caaff8a,
   0x44136fa355b3678a1146ad16f7e8649e94fb4fc21fe77e8310c060f61caaff8a,
   0x36c23de9f4a5cca916a73a0a874cb84dd5461332ac8a4b18dd2666c8b5523111,
   0x6dae4a352c64bcb2cc5a78fd0b816b16c431487335e6c2feeb390af391d15804,
   0x0982c3e8568918c896e0829f8019da5e3b05bb4b7dd21a4bdbed2c8667172ad9]

/-- The digests of one tree: of its documents, and of the list of its files. -/
def sampleTable (category : Json) (taxonomy payload : ℕ) : List (ByteArray × ℕ) :=
  let documents := (publishedDocuments category).zip (sampleDigests taxonomy)
  documents.map (fun d => (documentBytes d.1.2, d.2)) ++
    [(digestPayload (documents.map fun d => ⟨d.1.1, hexdigest d.2, .null⟩), payload)]

/-- Libraries that know the digests of a table. -/
def sampleLibraries (table : List (ByteArray × ℕ)) : Libraries where
  sha256 data := hexdigest (((table.find? (·.1.data = data.data)).map Prod.snd).getD 0)
  loads := loadsUtf8
  checkSchema _ := true
  conforms _ _ := .ok true
  floatText := PyFloat.repr

def sampleMachine : Machine where
  GITHUB_SHA := some "3F2A9C41D07B58E6A1C4D9F00B7E25836C19AD4E"
  git _ := none
  now := "2026-01-05T09:30:00+00:00"
  lower s := String.ofList (s.toList.map Char.toLower)
  loadsText := loadsUtf8

def listedLibraries : Libraries := sampleLibraries (sampleTable listed
  0x2c630a56e6d8a9bb8127f26c0ce1fa3fa73436d6d4769c83c9580259ac3feb8c
  0x6add2da66159825145720df8b8ffc2f55e91b267fe6a51cb8c2bed7391a2291c)

def bareLibraries : Libraries := sampleLibraries (sampleTable bare
  0x4aecfd8217fc33a51d72ef9b6e45bc75d3833dd344b43360c42cf6739fe06b3a
  0x9dcb00adbc819e576290515408d05d8d69ee4f26cb470be7429388a1be62a71e)

lemma loadsUtf8_documentBytes {j : Json} (h : Json.Discrete j) : loadsUtf8 (documentBytes j) = .ok j := by
  rw [documentBytes, loadsUtf8_toUTF8, Json.loads_indented h]

lemma discrete_published {category : Json} (h : Json.Discrete category) :
    ∀ d ∈ publishedDocuments category, Json.Discrete d.2 := by
  have hd : ∀ d ∈ sampleDocuments category, Json.Discrete d.2 := by
    simp [sampleDocuments, sampleComponents, sampleRule, sampleSchema, h]
  intro d hmem
  obtain ⟨document, hdocument, heq⟩ := List.mem_map.mp (List.of_mem_zip hmem).2
  exact heq ▸ hd document hdocument

variable {table : List (ByteArray × ℕ)} {category : Json}

lemma loads_sampleLibraries (data : ByteArray) : (sampleLibraries table).loads data = loadsUtf8 data := rfl

lemma laidOut_sampleTree : (sampleTree category).laidOut =
    (publishedDocuments category).map fun d => (d.1, documentBytes d.2) := rfl

lemma member_sampleTree (h : Json.Discrete category) {d : String × Json}
    (hd : (publishedDocuments category).find? (·.1 == d.1) = some d) :
    member (sampleLibraries table) (sampleTree category).laidOut d.1 = .ok d.2 := by
  have hbytes : verifiedBytes (sampleTree category).laidOut d.1 = .ok (documentBytes d.2) := by
    rw [verifiedBytes, laidOut_sampleTree, List.find?_map]
    simp only [Function.comp_def, hd, Option.map_some]
  have hloads : (sampleLibraries table).loads (documentBytes d.2) = .ok d.2 :=
    loadsUtf8_documentBytes (discrete_published h d (List.mem_of_find?_eq_some hd))
  unfold member
  rw [hbytes]
  dsimp only [bind, Except.bind]
  rw [hloads]
  rfl

lemma parseMembers_sampleTree (h : Json.Discrete category) :
    parseMembers (sampleLibraries table) (sampleTree category).paths true
      (sampleTree category).laidOut =
        .ok (sampleSchema "schema_version", sampleComponents category) := by
  have hmember : ∀ d : String × Json, (publishedDocuments category).find? (·.1 == d.1) = some d →
      member (sampleLibraries table) (sampleTree category).laidOut d.1 = .ok d.2 :=
    fun _ => member_sampleTree h
  have hextraction : extractionSchemaMembers.forM
      (checkExtractionSchema (sampleLibraries table) (sampleTree category).laidOut) = .ok () := by
    refine forM_ok_iff.mpr fun rel hrel => ?_
    obtain ⟨j, hj⟩ : ∃ j, (publishedDocuments category).find? (·.1 == rel) = some (rel, j) := by
      revert rel
      simp only [extractionSchemaMembers, List.forall_mem_cons]
      exact ⟨⟨_, rfl⟩, ⟨_, rfl⟩, ⟨_, rfl⟩, ⟨_, rfl⟩, nofun⟩
    unfold checkExtractionSchema
    rw [hmember (rel, j) hj]
    exact if_pos rfl
  have hrules : (rulePaths (sampleTree category).paths).mapM (loadRule (sampleLibraries table)
      (sampleTree category).laidOut (sampleSchema "schema_version")) = .ok [sampleRule] := by
    have hpaths : rulePaths (sampleTree category).paths = ["rules/TL-ABC-001.json"] := rfl
    rw [hpaths]
    refine mapM_ok_of_forall₂ (.cons ?_ .nil)
    exact bind_eq_of_ok (hmember ("rules/TL-ABC-001.json", sampleRule) rfl) rfl
  refine bind_eq_of_ok (hmember (ruleSchemaMember, _) rfl) ((if_neg nofun).trans ?_)
  refine bind_eq_of_ok hextraction (bind_eq_of_ok hrules ?_)
  refine bind_eq_of_ok (hmember (registryMember, _) rfl) ?_
  refine bind_eq_of_ok (hmember (familiesMember, _) rfl) ?_
  refine bind_eq_of_ok (hmember (negativesMember, _) rfl) ?_
  refine bind_eq_of_ok (hmember (taxonomyMember, _) rfl) ?_
  refine bind_eq_of_ok (hmember (dimensionsMember, _) rfl) ?_
  refine bind_eq_of_ok (hmember (sourcesMember, _) rfl) ?_
  refine bind_eq_of_ok (hmember (evidenceMember, _) rfl) ?_
  exact bind_eq_of_ok (hmember (actionPolicyMember, _) rfl) rfl

/-- The tree is sound where the shapes, the policy and the references are. -/
lemma sound_sampleTree (h : Json.Discrete category)
    (hshapes : checkShapes (sampleComponents category) = .ok ())
    (hpolicy : validateActionPolicy (sampleComponents category) = .ok ())
    (hreferences : validateReferences (sampleComponents category) = .ok []) :
    Sound (sampleLibraries table) (sampleTree category) (sampleSchema "schema_version")
      (sampleComponents category) where
  parsed := parseMembers_sampleTree h
  shapes := hshapes
  policy := hpolicy
  versions envelope henvelope := by
    obtain rfl := Except.ok.inj (henvelope.symm.trans
      (member_sampleTree h (d := (envelopeSchemaMember, sampleSchema "envelope_version")) rfl))
    simp only [embeddedVersions, List.forall_mem_cons]
    have hstr : ∀ {name token : String} {version : Load Json}, version = .ok (.str token) →
        (name, token) ∈ supportedVersions → Supported (sampleLibraries table) name version :=
      fun hversion hmem => ⟨_, hversion, hmem⟩
    refine ⟨hstr rfl ?_, hstr rfl ?_, hstr rfl ?_, hstr rfl ?_, hstr rfl ?_, hstr rfl ?_,
      hstr rfl ?_, hstr rfl ?_, hstr rfl ?_, hstr rfl ?_, List.forall_mem_nil _⟩
    all_goals decide
  references := hreferences
  named name hname rule hrule := by
    obtain rfl := List.mem_singleton.mp hname
    obtain rfl := Except.ok.inj (hrule.symm.trans
      (member_sampleTree h (d := ("rules/TL-ABC-001.json", sampleRule)) rfl))
    exact ⟨"TL-ABC-001", rfl, rfl⟩

lemma sound_listed : Sound listedLibraries (sampleTree listed) (sampleSchema "schema_version")
    (sampleComponents listed) :=
  sound_sampleTree (by simp [listed]) rfl rfl rfl

lemma sound_bare : Sound bareLibraries (sampleTree bare) (sampleSchema "schema_version")
    (sampleComponents bare) :=
  sound_sampleTree (by simp [bare]) rfl rfl rfl

lemma digest_hexdigest (n : ℕ) : ManifestSchema.digest (.str (hexdigest n)) = true := by
  have hhex : ∀ k < 16, ManifestSchema.isLowerHex (Nat.digitChar k) = true := by decide
  have hdigit : ∀ i, ManifestSchema.isLowerHex (Nat.digitChar (n / 16 ^ i % 16)) = true :=
    fun i => hhex _ (Nat.mod_lt _ (by decide))
  show Schema.anchored _ (hexdigest n) = true
  rw [Schema.anchored, hexdigest, String.toList_ofList, List.range_succ_eq_map, List.map_cons,
    Schema.headTail, Bool.or_eq_true]
  refine .inl ?_
  simp only [hdigit, List.map_map, List.length_map, List.length_range, List.all_map, Bool.true_and]
  exact List.all_eq_true.mpr fun i _ => hdigit _

lemma sampleMachine_commit : ∃ sha, readCommitSha sampleMachine = .ok sha ∧
    ManifestSchema.commit (.str sha) = true := by
  exact ⟨"3f2a9c41d07b58e6a1c4d9f00b7e25836c19ad4e", rfl, rfl⟩

lemma rulesNamed_sampleTree : RulesNamed (sampleTree category) where
  some := nofun
  each name hname := by
    obtain rfl := List.mem_singleton.mp hname
    rfl

lemma sizes_listed : ∀ d ∈ publishedDocuments listed,
    (documentBytes d.2).size < 10 ^ PyText.maxDigits := by decide +kernel

lemma documentCounts_listed (files : ℕ) : documentCounts files (sampleComponents listed) =
    .ok [("files", files), ("rules_total", 1), ("rules_published", 1), ("positive_indicators", 0),
      ("negative_indicators", 0), ("taxonomy_categories", 1), ("taxonomy_subcategories", 0),
      ("dimension_terms", 0)] := rfl

/-- The manifest of the tree is read back. -/
lemma loads_listed {m : BuiltManifest} {gate : String}
    (hm : computeManifest listedLibraries sampleMachine (sampleTree listed) gate = .ok m) :
    listedLibraries.loads m.bytes = .ok m.json := by
  obtain ⟨hdescribes, -, -, hversions, hcounts⟩ := computeManifest_ok hm
  have hutf8 : Utf8Default listedLibraries sampleMachine := fun _ => rfl
  rw [componentVersions_ok hutf8 sound_listed] at hversions
  rw [counts_eq hutf8 sound_listed hdescribes] at hcounts
  have hlength : m.files.length = 14 := by
    rw [hdescribes.files_eq, List.length_map, Describes.copies_perm.length_eq, laidOut_sampleTree,
      List.length_map]
    rfl
  have hreadable : m.Readable := by
    refine ⟨fun f hf => ?_, ?_, ?_, nodup_keys_of_documentCounts hcounts⟩
    · rw [hdescribes.files_eq] at hf
      obtain ⟨copy, hcopy, rfl⟩ := List.mem_map.mp hf
      rw [Describes.copies_perm.mem_iff, laidOut_sampleTree] at hcopy
      obtain ⟨d, hd, rfl⟩ := List.mem_map.mp hcopy
      exact ⟨_, rfl, sizes_listed d hd⟩
    · rw [documentCounts_listed, hlength] at hcounts
      have hpower : 10 ^ 2 ≤ 10 ^ PyText.maxDigits := Nat.pow_le_pow_right (by decide) (by decide)
      rw [← Except.ok.inj hcounts]
      simp only [List.forall_mem_cons]
      refine ⟨?_, ?_, ?_, ?_, ?_, ?_, ?_, ?_, nofun⟩
      all_goals exact Nat.lt_of_lt_of_le (by decide) hpower
    · rw [← Except.ok.inj hversions]
      decide
  rw [listedLibraries, loads_sampleLibraries, hreadable.loadsUtf8_bytes]

lemma publishable_listed : Publishable sampleMachine (sampleTree listed) "PASS" (sampleComponents listed) where
  rules := rulesNamed_sampleTree
  counted := (documentCounts_ok_iff 14 sound_listed.shapes).mp ⟨_, rfl⟩
  commit := sampleMachine_commit
  gate := by decide

/-! ### Builder and loader -/

end TrustLens.Publish
