import TrustLens.Publish.LaidOut

/-!
# What the builder and the loader read

Where the default encoding is UTF-8 the two read the same documents. The versions then agree, and
the counts do unless the builder asks for a key the loader does without.
-/

namespace TrustLens.Loader

variable {lib : Libraries} {paths : List String} {verified : List (String × ByteArray)} {schema d v : Json}
  {c : Components} {key name : String}

/-! ### The documents of a bundle -/

/-- The documents that parsing the members gives. -/
structure Documents (lib : Libraries) (paths : List String) (verified : List (String × ByteArray))
    (schema : Json) (c : Components) : Prop where
  ruleSchema : member lib verified ruleSchemaMember = .ok schema
  extraction : extractionSchemaMembers.forM (checkExtractionSchema lib verified) = .ok ()
  rules : (rulePaths paths).mapM (loadRule lib verified schema) = .ok c.rules
  registry : member lib verified registryMember = .ok c.registry
  families : member lib verified familiesMember = .ok c.families
  negatives : member lib verified negativesMember = .ok c.negatives
  taxonomy : member lib verified taxonomyMember = .ok c.taxonomy
  dimensions : member lib verified dimensionsMember = .ok c.dimensions
  sources : member lib verified sourcesMember = .ok c.sources
  evidence : member lib verified evidenceMember = .ok c.evidence
  actionPolicy : member lib verified actionPolicyMember = .ok c.actionPolicy

lemma documents_of_parseMembers (h : parseMembers lib paths true verified = .ok (schema, c)) :
    Documents lib paths verified schema c := by
  obtain ⟨ruleSchema, hschema, h⟩ := bind_ok h
  obtain ⟨-, h⟩ := ok_of_guard h
  obtain ⟨_, hextraction, h⟩ := bind_ok h
  obtain ⟨rules, hrules, h⟩ := bind_ok h
  obtain ⟨registry, hregistry, h⟩ := bind_ok h
  obtain ⟨families, hfamilies, h⟩ := bind_ok h
  obtain ⟨negatives, hnegatives, h⟩ := bind_ok h
  obtain ⟨taxonomy, htaxonomy, h⟩ := bind_ok h
  obtain ⟨dimensions, hdimensions, h⟩ := bind_ok h
  obtain ⟨sources, hsources, h⟩ := bind_ok h
  obtain ⟨evidence, hevidence, h⟩ := bind_ok h
  obtain ⟨policy, hpolicy, h⟩ := bind_ok h
  cases h
  exact ⟨hschema, hextraction, hrules, hregistry, hfamilies, hnegatives, htaxonomy, hdimensions,
    hsources, hevidence, hpolicy⟩

namespace Documents

lemma exists_member (h : Documents lib paths verified schema c) {p : String} (hp : p ∈ fixedMembers) :
    ∃ j, member lib verified p = .ok j := by
  have hschemas : ∀ p ∈ extractionSchemaMembers, ∃ j, member lib verified p = .ok j := fun p hp =>
    member_of_checkExtractionSchema (ok_of_forM h.extraction p hp)
  revert p
  simp only [fixedMembers, requiredMembers, List.forall_mem_append, List.forall_mem_cons]
  exact ⟨⟨⟨⟨_, h.registry⟩, ⟨_, h.families⟩, ⟨_, h.negatives⟩, ⟨_, h.taxonomy⟩, ⟨_, h.dimensions⟩,
    ⟨_, h.sources⟩, ⟨_, h.evidence⟩, ⟨_, h.ruleSchema⟩, nofun⟩, hschemas⟩, ⟨_, h.actionPolicy⟩, nofun⟩

end Documents

lemma exists_bytes_of_member {p : String} {j : Json} (h : member lib verified p = .ok j) :
    ∃ data, (p, data) ∈ verified ∧ lib.loads data = .ok j := by
  obtain ⟨data, hdata, h⟩ := bind_ok h
  have hloads : lib.loads data = .ok j := by
    split at h
    next hj =>
      cases h
      exact hj
    · cases h
    · cases h
  unfold verifiedBytes at hdata
  split at hdata
  next entry hentry =>
    cases hdata
    obtain rfl : entry.1 = p := by simpa using List.find?_some hentry
    exact ⟨entry.2, List.mem_of_find?_eq_some hentry, hloads⟩
  · cases hdata

/-! ### The groups of terms -/

/-- A group of terms that passes the shapes has its list. -/
lemma terms_of_checkGroup {g : String × Json} (h : checkGroup g = .ok ()) :
    ∃ xs, g.2.get? "terms" = some (.arr xs) := by
  obtain ⟨xs, hxs, -⟩ := bind_ok h
  have hget := get?_of_needList hxs
  split_ifs at hget
  · exact ⟨xs, hget⟩
  · cases hget

lemma terms_of_checkShapes (h : checkShapes c = .ok ()) :
    ∃ groups, c.dimensions.get? "dimensions" = some (.obj groups) ∧
      ∀ g ∈ groups, ∃ xs, g.2.get? "terms" = some (.arr xs) := by
  -- the checks before those of the dimensions
  iterate 16 obtain ⟨_, -, h⟩ := bind_ok h
  obtain ⟨dimensions, hdimensions, h⟩ := bind_ok h
  obtain ⟨groups, hgroups, h⟩ := bind_ok h
  obtain ⟨_, hcheck, -⟩ := bind_ok h
  cases dimensions with
  | obj es =>
    cases hgroups
    exact ⟨groups, exists_of_needDict hdimensions, fun g hg => terms_of_checkGroup (ok_of_forM hcheck g hg)⟩
  | _ => cases hgroups

/-! ### Versions -/

lemma getD_ok {default : Json} (h : (Py.getD d key default : Load Json) = .ok v) :
    d.get? key = some v ∨ d.get? key = none ∧ d.isObj = true ∧ v = default := by
  cases d with
  | obj es =>
    cases hlookup : Json.lookup key es with
    | some w =>
      rw [Py.getD, hlookup] at h
      exact .inl (hlookup.trans (congrArg some (Except.ok.inj h)))
    | none =>
      rw [Py.getD, hlookup] at h
      exact .inr ⟨hlookup, rfl, (Except.ok.inj h).symm⟩
  | _ => cases h

end TrustLens.Loader

namespace TrustLens.Publish

open Loader

variable {lib : Libraries} {machine : Machine} {tree : KnowledgeTree} {schema d v : Json} {c : Components}
  {key name : String}

lemma supported_unique : ∀ a ∈ supportedVersions, ∀ b ∈ supportedVersions, a.1 = b.1 → a = b := by
  decide

lemma none_notMem_supported : ∀ a ∈ supportedVersions, a.2 ≠ "None" := by decide

/-- A version whose text the engine supports. -/
def Supported (lib : Libraries) (name : String) (version : Load Json) : Prop :=
  ∃ v, version = .ok v ∧ (name, versionText lib.floatText v) ∈ supportedVersions

lemma ne_null_of_supported (h : (name, versionText lib.floatText v) ∈ supportedVersions) : v ≠ .null := by
  rintro rfl
  exact none_notMem_supported _ h rfl

lemma versionUnder_of_get? {keys : List String} (h : d.get? key = some v) :
    versionUnder lib d (key :: keys) = .ok (versionText lib.floatText v) := by
  cases d with
  | obj es =>
    have hlookup : Json.lookup key es = some v := h
    rw [versionUnder, declares, hlookup]
    show (Py.item (.obj es) key >>= _) = _
    rw [Py.item_of_get? h]
    rfl
  | _ => cases h

lemma versionUnder_of_none {keys : List String} (hobj : d.isObj = true) (h : d.get? key = none) :
    versionUnder lib d (key :: keys) = versionUnder lib d keys := by
  cases d with
  | obj es =>
    have hlookup : Json.lookup key es = none := h
    rw [versionUnder, declares, hlookup]
    rfl
  | _ => cases hobj

/-- What the builder pins of a component that declares its version under one key. -/
lemma pinned_getD (h : Supported lib name (Py.getD d key .null)) :
    ∃ token, (name, token) ∈ supportedVersions ∧ versionUnder lib d [key] = .ok token := by
  obtain ⟨v, hv, hmem⟩ := h
  rcases getD_ok hv with hget | ⟨-, -, hnull⟩
  · exact ⟨_, hmem, versionUnder_of_get? hget⟩
  · exact absurd hnull (ne_null_of_supported hmem)

lemma pinned_evidence (h : Supported lib name (evidenceVersion d)) :
    ∃ token, (name, token) ∈ supportedVersions ∧
      versionUnder lib d ["manifest_version", "version"] = .ok token := by
  obtain ⟨v, hv, hmem⟩ := h
  obtain ⟨default, hdefault, hv⟩ := bind_ok hv
  rcases getD_ok hv with hget | ⟨hnone, hobj, rfl⟩
  · exact ⟨_, hmem, versionUnder_of_get? hget⟩
  · obtain ⟨token, htoken, hpin⟩ := pinned_getD ⟨v, hdefault, hmem⟩
    exact ⟨token, htoken, (versionUnder_of_none hobj hnone).trans hpin⟩

lemma pinned_const (h : Supported lib name (constVersion key d)) :
    ∃ token, (name, token) ∈ supportedVersions ∧
      constAt lib ["properties", key, "const"] d = .ok token := by
  obtain ⟨v, hv, hmem⟩ := h
  obtain ⟨properties, hproperties, hv⟩ := bind_ok hv
  obtain ⟨version, hversion, hv⟩ := bind_ok hv
  have hconst : version.get? "const" = some v := by
    rcases getD_ok hv with hget | ⟨-, -, hnull⟩
    · exact hget
    · exact absurd hnull (ne_null_of_supported hmem)
  have hkey : properties.get? key = some version := by
    rcases getD_ok hversion with hget | ⟨-, -, rfl⟩
    · exact hget
    · cases hconst
  have htop : d.get? "properties" = some properties := by
    rcases getD_ok hproperties with hget | ⟨-, -, rfl⟩
    · exact hget
    · cases hkey
  refine ⟨_, hmem, ?_⟩
  unfold constAt
  rw [List.foldlM_cons, Py.item_of_get? htop]
  show ((List.foldlM Py.item properties [key, "const"]) >>= _) = _
  rw [List.foldlM_cons, Py.item_of_get? hkey]
  show ((List.foldlM Py.item version ["const"]) >>= _) = _
  rw [List.foldlM_cons, Py.item_of_get? hconst]
  rfl

/-! ### A tree whose files pass the checks -/

/-- The checks of the loader on the component files of a tree, and the names of its rule files. -/
structure Sound (lib : Libraries) (tree : KnowledgeTree) (schema : Json) (c : Components) : Prop where
  parsed : parseMembers lib tree.paths true tree.laidOut = .ok (schema, c)
  shapes : checkShapes c = .ok ()
  policy : validateActionPolicy c = .ok ()
  versions : ∀ envelope, member lib tree.laidOut envelopeSchemaMember = .ok envelope →
    ∀ component ∈ embeddedVersions schema envelope c, Supported lib component.1 component.2
  references : validateReferences c = .ok []
  named : ∀ name ∈ tree.ruleNames, ∀ rule,
    member lib tree.laidOut (KnowledgeTree.rulePath name) = .ok rule →
      ∃ id, rule.get? "id" = some (.str id) ∧ name = id ++ ".json"

namespace Sound

lemma documents (h : Sound lib tree schema c) : Documents lib tree.paths tree.laidOut schema c :=
  documents_of_parseMembers h.parsed

lemma shaped (h : Sound lib tree schema c) : Shaped c := shaped_of_checkShapes h.shapes

/-- A member that is laid out comes from its source. -/
lemma file_of_mem_laidOut {p source : String} {data : ByteArray} (hmem : (p, source) ∈ tree.members)
    (hdata : (p, data) ∈ tree.laidOut) : tree.file source = some data := by
  obtain ⟨m, hm, hfile⟩ := List.mem_filterMap.mp hdata
  obtain ⟨data', hdata', heq⟩ := Option.map_eq_some_iff.mp hfile
  obtain ⟨rfl, rfl⟩ := Prod.mk.inj heq
  have hm' : m = (m.1, source) := List.inj_on_of_nodup_map KnowledgeTree.nodup_paths hm hmem rfl
  rw [← hdata', congrArg Prod.snd hm']

lemma complete (h : Sound lib tree schema c) : tree.Complete := by
  rintro ⟨p, source⟩ hm
  have hpath : p ∈ tree.paths := List.mem_map_of_mem hm
  rcases KnowledgeTree.mem_paths.mp hpath with ⟨name, hname, rfl⟩ | hfixed
  · have hself : (KnowledgeTree.rulePath name, KnowledgeTree.rulePath name) ∈ tree.members :=
      List.mem_append_left _ (List.mem_map.mpr ⟨name, (List.mem_insertionSort _).mpr hname, rfl⟩)
    have heq := List.inj_on_of_nodup_map KnowledgeTree.nodup_paths hm hself rfl
    rw [(Prod.mk.inj heq).2]
    exact tree.found name hname
  · obtain ⟨j, hj⟩ := h.documents.exists_member hfixed
    obtain ⟨data, hdata, -⟩ := exists_bytes_of_member hj
    exact Option.isSome_iff_exists.mpr ⟨data, file_of_mem_laidOut hm hdata⟩

end Sound

/-- The default encoding of the machine is UTF-8. -/
def Utf8Default (lib : Libraries) (machine : Machine) : Prop :=
  ∀ data, machine.loadsText data = lib.loads data

/-- The builder reads from the source what the loader reads from the bundle. -/
lemma readSource_of_member (hutf8 : Utf8Default lib machine) {p source : String}
    (hmem : (p, source) ∈ tree.members) {j : Json} (h : member lib tree.laidOut p = .ok j) :
    readSource machine tree source = .ok j := by
  obtain ⟨data, hdata, hloads⟩ := exists_bytes_of_member h
  unfold readSource
  rw [Sound.file_of_mem_laidOut hmem hdata]
  simp only [hutf8 data, hloads]

lemma mem_members_of_fixed {m : String × String} (h : m ∈ fixedSources) : m ∈ tree.members :=
  List.mem_append_right _ h

/-! ### The versions of a build -/

/-- The builder pins the versions the engine supports. -/
theorem componentVersions_ok (hutf8 : Utf8Default lib machine) (h : Sound lib tree schema c) :
    componentVersions lib machine tree = .ok supportedVersions := by
  obtain ⟨envelope, henvelope⟩ := h.documents.exists_member (p := envelopeSchemaMember) (by decide)
  have hsupported := h.versions envelope henvelope
  simp only [embeddedVersions, List.forall_mem_cons] at hsupported
  obtain ⟨hrule, htaxonomy, hdimensions, hregistry, hfamilies, hnegatives, hsources, hevidence,
    hextraction, hpolicy, -⟩ := hsupported
  have hstep : ∀ {name token source p : String} {read : Json → Build String} {j : Json},
      (name, token) ∈ supportedVersions → (p, source) ∈ fixedSources →
      member lib tree.laidOut p = .ok j →
      (∃ t, (name, t) ∈ supportedVersions ∧ read j = .ok t) →
      (do return (name, ← read (← readSource machine tree source)) : Build (String × String)) =
        .ok (name, token) := by
    intro name token source p read j htoken hsource hmember hread
    obtain ⟨t, ht, hread⟩ := hread
    obtain rfl : t = token := congrArg Prod.snd (supported_unique _ ht _ htoken rfl)
    rw [readSource_of_member hutf8 (mem_members_of_fixed hsource) hmember]
    show (read j >>= _) = _
    rw [hread]
    rfl
  have hd := h.documents
  refine mapM_ok_of_forall₂ ?_
  refine .cons (hstep ?_ ?_ hd.ruleSchema (pinned_const hrule)) ?_
  rotate_left 2
  refine .cons (hstep ?_ ?_ hd.taxonomy (pinned_getD htaxonomy)) ?_
  rotate_left 2
  refine .cons (hstep ?_ ?_ hd.dimensions (pinned_getD hdimensions)) ?_
  rotate_left 2
  refine .cons (hstep ?_ ?_ hd.registry (pinned_getD hregistry)) ?_
  rotate_left 2
  refine .cons (hstep ?_ ?_ hd.families (pinned_getD hfamilies)) ?_
  rotate_left 2
  refine .cons (hstep ?_ ?_ hd.negatives (pinned_getD hnegatives)) ?_
  rotate_left 2
  refine .cons (hstep ?_ ?_ hd.sources (pinned_evidence hsources)) ?_
  rotate_left 2
  refine .cons (hstep ?_ ?_ hd.evidence (pinned_getD hevidence)) ?_
  rotate_left 2
  refine .cons (hstep ?_ ?_ henvelope (pinned_const hextraction)) ?_
  rotate_left 2
  refine .cons (hstep ?_ ?_ hd.actionPolicy (pinned_getD hpolicy)) .nil
  all_goals
    dsimp only
    decide

/-! ### The rules of a build -/

lemma fileName_rulePath (hflat : '/' ∉ name.toList) : fileName (KnowledgeTree.rulePath name) = name := by
  rw [fileName, KnowledgeTree.rulePath, String.toList_append, splitOn_rule hflat]
  exact String.ofList_toList

lemma member_of_loadRule {verified : List (String × ByteArray)} {rel : String} {rule : Json}
    (h : loadRule lib verified schema rel = .ok rule) : member lib verified rel = .ok rule := by
  obtain ⟨j, hj, h⟩ := bind_ok h
  split at h
  · cases h
    exact hj
  · cases h
  · cases h

lemma exists_name_of_mem_rulePaths {p : String} (h : p ∈ rulePaths tree.paths) :
    ∃ name ∈ tree.ruleNames, KnowledgeTree.rulePath name = p := by
  rw [rulePaths, List.mem_insertionSort, List.mem_filter] at h
  rcases KnowledgeTree.mem_paths.mp h.1 with hname | hfixed
  · exact hname
  · have hstarts : ∀ p ∈ fixedMembers, ¬"rules/".toList.isPrefixOf p.toList = true := by decide
    exact absurd h.2 (hstarts p hfixed)

/-- The paths of the rules, in the order of the manifest. -/
lemma map_path_filter {m : BuiltManifest} (h : Describes lib tree m) :
    (m.files.filter fun f => "rules/".toList.isPrefixOf f.path.toList).map FileEntry.path =
      rulePaths tree.paths := by
  have hsorted : (m.files.map FileEntry.path).Pairwise (· ≤ ·) := by
    rw [List.pairwise_map, h.files]
    exact pairwise_sortFiles _
  rw [← h.rulePaths_eq, rulePaths]
  have hfilter := hsorted.filter fun p => "rules/".toList.isPrefixOf p.toList
  rw [show m.loaded.paths = m.files.map FileEntry.path from rfl, hfilter.insertionSort_eq, List.filter_map]
  rfl

/-- The builder counts the rules the loader loads. -/
lemma mapM_readSource (hutf8 : Utf8Default lib machine) (h : Sound lib tree schema c)
    {m : BuiltManifest} (hm : Describes lib tree m) :
    (m.files.filter fun f => "rules/".toList.isPrefixOf f.path.toList).mapM (fun f =>
      readSource machine tree ("rules/" ++ fileName f.path)) = .ok c.rules := by
  have hpaths : (rulePaths tree.paths).mapM (fun p => readSource machine tree ("rules/" ++ fileName p)) =
      .ok c.rules := by
    have hrules := (List.forall₂_and_left _ _).mpr
      ⟨fun p => exists_name_of_mem_rulePaths, forall₂_of_mapM_ok h.documents.rules⟩
    refine mapM_ok_of_forall₂ (hrules.imp ?_)
    rintro _ rule ⟨⟨name, hname, rfl⟩, hrule⟩
    have hmem : (KnowledgeTree.rulePath name, KnowledgeTree.rulePath name) ∈ tree.members :=
      List.mem_append_left _ (List.mem_map.mpr ⟨name, (List.mem_insertionSort _).mpr hname, rfl⟩)
    rw [fileName_rulePath (tree.flat name hname)]
    exact readSource_of_member hutf8 hmem (member_of_loadRule hrule)
  rw [← map_path_filter hm, List.mapM_map] at hpaths
  exact hpaths

/-! ### The counts of a build -/

lemma item_ok_iff {ε : Type} : (Py.item d key : Except (Raised ε) Json) = .ok v ↔ d.get? key = some v := by
  refine ⟨fun h => ?_, Py.item_of_get?⟩
  cases d with
  | obj es =>
    cases hlookup : Json.lookup key es with
    | some w =>
      rw [Py.item, hlookup] at h
      exact hlookup.trans (congrArg some (Except.ok.inj h))
    | none =>
      rw [Py.item, hlookup] at h
      cases h
  | _ => cases h

/-- What the builder counts of the documents. -/
def documentCounts (files : ℕ) (c : Components) : Build (List (String × ℕ)) := do
  let statuses ← c.rules.mapM statusOf
  let positive ← sizeAt c.registry "indicators"
  let negative ← sizeAt c.negatives "negative_indicators"
  let categories ← sizeAt c.taxonomy "categories"
  let subcategories ← (← Py.iter (← Py.item c.taxonomy "categories")).mapM (sizeAt · "subcategories")
  let terms ← (← Py.entries (← Py.item c.dimensions "dimensions")).mapM fun b => sizeAt b.2 "terms"
  return [
    ("files", files),
    ("rules_total", c.rules.length),
    ("rules_published", (statuses.filter (· == .str "PUBLISHED")).length),
    ("positive_indicators", positive),
    ("negative_indicators", negative),
    ("taxonomy_categories", categories),
    ("taxonomy_subcategories", subcategories.sum),
    ("dimension_terms", terms.sum)]

lemma counts_eq (hutf8 : Utf8Default lib machine) (h : Sound lib tree schema c) {m : BuiltManifest}
    (hm : Describes lib tree m) : counts machine tree m.files = documentCounts m.files.length c := by
  have hd := h.documents
  have hread : ∀ {p source : String} {j : Json}, (p, source) ∈ fixedSources →
      member lib tree.laidOut p = .ok j → readSource machine tree source = .ok j := fun hsource hj =>
    readSource_of_member hutf8 (mem_members_of_fixed hsource) hj
  have hfixed : (registryMember, "indicators/indicator-registry-v0.json") ∈ fixedSources ∧
      (negativesMember, "indicators/negative-indicator-library-v1.json") ∈ fixedSources ∧
      (taxonomyMember, "taxonomies/scam-taxonomy.json") ∈ fixedSources ∧
      (dimensionsMember, "taxonomies/dimensions-v1.json") ∈ fixedSources := by decide
  unfold counts
  rw [mapM_readSource hutf8 h hm, hread hfixed.1 hd.registry, hread hfixed.2.1 hd.negatives,
    hread hfixed.2.2.1 hd.taxonomy, hread hfixed.2.2.2 hd.dimensions]
  rfl

/-- The keys the builder asks for, which the loader does without. -/
structure Counted (c : Components) : Prop where
  lifecycles : ∀ r ∈ c.rules, ∃ lifecycle status,
    r.get? "lifecycle" = some lifecycle ∧ lifecycle.get? "status" = some status
  subcategories : ∀ category ∈ (c.taxonomy.get "categories").items,
    (category.get? "subcategories").isSome

lemma statusOf_ok_iff {r status : Json} : statusOf r = .ok status ↔
    ∃ lifecycle, r.get? "lifecycle" = some lifecycle ∧ lifecycle.get? "status" = some status := by
  constructor
  · intro h
    obtain ⟨lifecycle, hlifecycle, h⟩ := bind_ok h
    exact ⟨lifecycle, item_ok_iff.mp hlifecycle, item_ok_iff.mp h⟩
  · rintro ⟨lifecycle, hlifecycle, hstatus⟩
    unfold statusOf
    rw [Py.item_of_get? hlifecycle]
    exact Py.item_of_get? hstatus

lemma lifecycleStatus_of_statusOf {r status : Json} (h : statusOf r = .ok status) :
    lifecycleStatus r = .ok status := by
  obtain ⟨lifecycle, hlifecycle, hstatus⟩ := statusOf_ok_iff.mp h
  unfold lifecycleStatus
  rw [Py.getD_of_get? hlifecycle]
  exact Py.getD_of_get? hstatus _

lemma sizeAt_list {xs : List Json} (h : d.get? key = some (.arr xs)) : sizeAt d key = .ok xs.length := by
  unfold sizeAt
  rw [Py.item_of_get? h]
  rfl

/-- The length of an optional list, where it is there. -/
lemma sizeAt_ok_iff {P : Json → Prop} (h : Lists d key P) {n : ℕ} : sizeAt d key = .ok n ↔
    (d.get? key).isSome ∧ (d.get key).items.length = n := by
  have hmembers := h.members
  unfold sizeAt
  cases hget : d.get? key with
  | none =>
    refine iff_of_false (fun hok => ?_) nofun
    obtain ⟨_, hitem, -⟩ := bind_ok hok
    obtain ⟨w, hw, -⟩ := bind_ok hok
    rw [item_ok_iff.mp hw] at hget
    cases hget
  | some w =>
    have hiter : (Py.iter w : Load (List Json)) = .ok (d.get key).items := by
      rw [members, Py.getD_of_get? hget] at hmembers
      exact hmembers
    have hlist : (Py.iter w : Build (List Json)) = .ok (d.get key).items := by
      cases w with
      | arr | obj | str => exact congrArg Except.ok (Except.ok.inj hiter)
      | _ => cases hiter
    rw [Py.item_of_get? hget]
    show (Py.iter w >>= fun xs => .ok xs.length) = _ ↔ _
    rw [hlist]
    exact ⟨fun hok => ⟨rfl, Except.ok.inj hok⟩, fun hok => congrArg Except.ok hok.2⟩

lemma documentCounts_ok_iff (files : ℕ) (hshapes : checkShapes c = .ok ()) :
    (∃ counts, documentCounts files c = .ok counts) ↔ Counted c := by
  have hshaped := shaped_of_checkShapes hshapes
  obtain ⟨indicators, hindicators, -⟩ := hshaped.indicators
  obtain ⟨negatives, hnegatives, -⟩ := hshaped.negatives
  obtain ⟨categories, hcategories, hcategory⟩ := hshaped.taxonomy
  obtain ⟨groups, hgroups, hterms⟩ := terms_of_checkShapes hshapes
  have hitems : (c.taxonomy.get "categories").items = categories := by
    rw [get_of_get? hcategories]
    rfl
  constructor
  · rintro ⟨counts, h⟩
    obtain ⟨statuses, hstatuses, h⟩ := bind_ok h
    obtain ⟨_, -, h⟩ := bind_ok h
    obtain ⟨_, -, h⟩ := bind_ok h
    obtain ⟨_, -, h⟩ := bind_ok h
    rw [Py.item_of_get? hcategories] at h
    change (categories.mapM (sizeAt · "subcategories") >>= _) = _ at h
    obtain ⟨sizes, hsizes, -⟩ := bind_ok h
    refine ⟨fun r hr => ?_, fun x hx => ?_⟩
    · obtain ⟨status, -, hstatus⟩ := exists_of_mapM_ok hstatuses hr
      obtain ⟨lifecycle, hlifecycle⟩ := statusOf_ok_iff.mp hstatus
      exact ⟨lifecycle, status, hlifecycle⟩
    · rw [hitems] at hx
      obtain ⟨size, -, hsize⟩ := exists_of_mapM_ok hsizes hx
      exact ((sizeAt_ok_iff (hcategory x hx).subcategories).mp hsize).1
  · rintro ⟨hlifecycles, hsubcategories⟩
    rw [hitems] at hsubcategories
    obtain ⟨statuses, hstatuses⟩ := mapM_total fun r hr => by
      obtain ⟨lifecycle, status, hstatus⟩ := hlifecycles r hr
      exact ⟨status, statusOf_ok_iff.mpr ⟨lifecycle, hstatus⟩⟩
    obtain ⟨sizes, hsizes⟩ := mapM_total (f := (sizeAt · "subcategories")) fun x hx =>
      ⟨_, (sizeAt_ok_iff (hcategory x hx).subcategories).mpr ⟨hsubcategories x hx, rfl⟩⟩
    obtain ⟨terms, hsizes'⟩ := mapM_total (f := fun b : String × Json => sizeAt b.2 "terms") fun g hg => by
      obtain ⟨xs, hxs⟩ := hterms g hg
      exact ⟨xs.length, sizeAt_list hxs⟩
    unfold documentCounts
    rw [hstatuses, sizeAt_list hindicators, sizeAt_list hnegatives, sizeAt_list hcategories,
      Py.item_of_get? hcategories, Py.item_of_get? hgroups]
    exact ⟨_, bind_eq_of_ok (a := sizes) hsizes (bind_eq_of_ok (a := terms) hsizes' rfl)⟩

/-- A traversal that measures lists, and one that collects them. -/
lemma exists_lengths {α β ε ε' : Type} {f : α → Except ε (List β)} {g : α → Except ε' ℕ} {xs : List α}
    {sizes : List ℕ} (hfg : ∀ x ∈ xs, ∀ n, g x = .ok n → ∃ ys, f x = .ok ys ∧ ys.length = n)
    (h : xs.mapM g = .ok sizes) : ∃ yss, xs.mapM f = .ok yss ∧ yss.map List.length = sizes := by
  induction xs generalizing sizes with
  | nil =>
    cases h
    exact ⟨[], rfl, rfl⟩
  | cons x xs ih =>
    rw [List.mapM_cons] at h
    obtain ⟨n, hn, h⟩ := bind_ok h
    obtain ⟨rest, hrest, h⟩ := bind_ok h
    cases h
    rw [List.forall_mem_cons] at hfg
    obtain ⟨ys, hys, hlength⟩ := hfg.1 n hn
    obtain ⟨yss, hyss, hlengths⟩ := ih hfg.2 hrest
    refine ⟨ys :: yss, ?_, by rw [List.map_cons, hlength, hlengths]⟩
    rw [List.mapM_cons, hys, hyss]
    rfl

/-- What the builder counts is what the loader counts. -/
theorem computedCounts_of_documentCounts {files : ℕ} {counts : List (String × ℕ)}
    (hshapes : checkShapes c = .ok ()) (h : documentCounts files c = .ok counts) :
    computedCounts files c = .ok counts := by
  have hshaped := shaped_of_checkShapes hshapes
  obtain ⟨indicators, hindicators, -⟩ := hshaped.indicators
  obtain ⟨negatives, hnegatives, -⟩ := hshaped.negatives
  obtain ⟨categories, hcategories, hcategory⟩ := hshaped.taxonomy
  obtain ⟨groups, hgroups, hterms⟩ := terms_of_checkShapes hshapes
  obtain ⟨statuses, hstatuses, h⟩ := bind_ok h
  rw [sizeAt_list hindicators, sizeAt_list hnegatives, sizeAt_list hcategories,
    Py.item_of_get? hcategories, Py.item_of_get? hgroups] at h
  change (categories.mapM (sizeAt · "subcategories") >>= _) = _ at h
  obtain ⟨sizes, hsizes, h⟩ := bind_ok h
  change (groups.mapM (fun b => sizeAt b.2 "terms") >>= _) = _ at h
  obtain ⟨terms, hsizes', h⟩ := bind_ok h
  cases h
  have hstatus : c.rules.mapM lifecycleStatus = .ok statuses :=
    mapM_ok_of_forall₂ ((forall₂_of_mapM_ok hstatuses).imp fun _ _ => lifecycleStatus_of_statusOf)
  obtain ⟨subcategories, hsubcategories, rfl⟩ := exists_lengths (f := (members · "subcategories"))
    (fun x hx n hn => ⟨_, (hcategory x hx).subcategories.members,
      ((sizeAt_ok_iff (hcategory x hx).subcategories).mp hn).2⟩) hsizes
  obtain ⟨termLists, htermLists, rfl⟩ := exists_lengths
    (f := fun g : String × Json => members g.2 "terms") (fun g hg n hn => by
      obtain ⟨xs, hxs⟩ := hterms g hg
      rw [sizeAt_list hxs] at hn
      exact ⟨xs, members_of_get? hxs, Except.ok.inj hn⟩) hsizes'
  unfold computedCounts
  rw [hstatus, records_of_get? hindicators, records_of_get? hnegatives, records_of_get? hcategories,
    Py.item_of_get? hgroups]
  refine bind_eq_of_ok rfl (bind_eq_of_ok rfl (bind_eq_of_ok rfl (bind_eq_of_ok rfl ?_)))
  refine bind_eq_of_ok hsubcategories (bind_eq_of_ok rfl (bind_eq_of_ok rfl ?_))
  exact bind_eq_of_ok htermLists rfl

end TrustLens.Publish
