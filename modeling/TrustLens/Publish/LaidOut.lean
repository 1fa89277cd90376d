import TrustLens.Loader.ContentDigest
import TrustLens.Publish.BuiltManifest

/-!
# The directory of a build

What a build copies is what the tree holds, and the loader verifies each copy against the manifest.
-/

namespace TrustLens.Publish

open Loader

variable {lib : Libraries} {machine : Machine} {tree : KnowledgeTree} {m : BuiltManifest}
  {copied : List (String × ByteArray)}

/-! ### The members of a tree -/

namespace KnowledgeTree

variable (tree)

def paths : List String := tree.members.map Prod.fst

/-- The files of the tree that are members, under their paths in the bundle. -/
def laidOut : List (String × ByteArray) :=
  tree.members.filterMap fun m => (tree.file m.2).map (m.1, ·)

variable {tree}

lemma mem_fixed_iff {p : String} : p ∈ fixedSources.map Prod.fst ↔ p ∈ fixedMembers := by
  have h : fixedSources.map Prod.fst ⊆ fixedMembers ∧ fixedMembers ⊆ fixedSources.map Prod.fst := by
    decide
  exact ⟨fun hp => h.1 hp, fun hp => h.2 hp⟩

lemma rulePath_injective : Function.Injective rulePath := by
  intro a b h
  have hlist := congrArg String.toList h
  simp only [rulePath, String.toList_append] at hlist
  exact String.toList_injective (List.append_cancel_left hlist)

lemma mem_paths {p : String} :
    p ∈ tree.paths ↔ (∃ name ∈ tree.ruleNames, rulePath name = p) ∨ p ∈ fixedMembers := by
  rw [paths, members, List.map_append, List.mem_append, mem_fixed_iff, List.map_map]
  refine or_congr ?_ Iff.rfl
  simp only [List.mem_map, List.mem_insertionSort, Function.comp_apply]

lemma nodup_paths : tree.paths.Nodup := by
  rw [paths, members, List.map_append, List.map_map, List.nodup_append]
  refine ⟨?_, by decide, ?_⟩
  · have hnd := (List.perm_insertionSort (· ≤ ·) tree.ruleNames).nodup_iff.mpr tree.distinct
    exact hnd.map rulePath_injective
  · rintro p hp q hq rfl
    obtain ⟨name, -, rfl⟩ := List.mem_map.mp hp
    exact rule_notMem_fixedMembers name (mem_fixed_iff.mp hq)

/-- Every member has its source in the tree. -/
def Complete (tree : KnowledgeTree) : Prop := ∀ m ∈ tree.members, (tree.file m.2).isSome

lemma mapM_memberBytes (h : tree.Complete) : tree.members.mapM tree.memberBytes = .ok tree.laidOut := by
  unfold laidOut
  have h : ∀ m ∈ tree.members, (tree.file m.2).isSome := h
  generalize tree.members = members at h
  induction members with
  | nil => rfl
  | cons m members ih =>
    rw [List.forall_mem_cons] at h
    obtain ⟨data, hdata⟩ := Option.isSome_iff_exists.mp h.1
    have hbytes : tree.memberBytes m = .ok (m.1, data) := by rw [memberBytes, hdata]
    rw [List.mapM_cons, hbytes, ih h.2, List.filterMap_cons_some (by rw [hdata]; rfl)]
    rfl

lemma complete_of_mapM (h : tree.members.mapM tree.memberBytes = .ok copied) : tree.Complete := by
  intro m hm
  obtain ⟨entry, -, hok⟩ := exists_of_mapM_ok h hm
  rw [memberBytes] at hok
  cases hfile : tree.file m.2 with
  | some data => rfl
  | none =>
    rw [hfile] at hok
    cases hok

lemma map_fst_laidOut (h : tree.Complete) : tree.laidOut.map Prod.fst = tree.paths := by
  unfold laidOut paths
  have h : ∀ m ∈ tree.members, (tree.file m.2).isSome := h
  generalize tree.members = members at h
  induction members with
  | nil => rfl
  | cons m members ih =>
    rw [List.forall_mem_cons] at h
    obtain ⟨data, hdata⟩ := Option.isSome_iff_exists.mp h.1
    rw [List.filterMap_cons_some (by rw [hdata]; rfl), List.map_cons, List.map_cons, ih h.2]

end KnowledgeTree
/-! ### The copies -/

lemma sortFiles_fileEntry (copies : List (String × ByteArray)) :
    sortFiles (copies.map (fileEntry lib)) =
      (copies.insertionSort fun a b => a.1 ≤ b.1).map (fileEntry lib) :=
  (List.map_insertionSort (r := fun a b : String × ByteArray => a.1 ≤ b.1)
    (s := fun a b : FileEntry => a.path ≤ b.path) (fileEntry lib) copies fun _ _ _ _ => Iff.rfl).symm

lemma path_ne_manifest {p : String} (hp : p ∈ tree.paths) : p ≠ MANIFEST_FILENAME := by
  rintro rfl
  rcases KnowledgeTree.mem_paths.mp hp with ⟨name, -, hname⟩ | hfixed
  · have hlist := congrArg String.toList hname
    rw [KnowledgeTree.rulePath, String.toList_append] at hlist
    exact absurd (congrArg List.head? hlist) (by simp [MANIFEST_FILENAME])
  · exact absurd hfixed (by decide)

/-- A copy is what the manifest says of it. -/
lemma verifyMember_layOut (hnd : (copied.map Prod.fst).Nodup)
    (hmanifest : ∀ c ∈ copied, c.1 ≠ MANIFEST_FILENAME) {c : String × ByteArray} (hc : c ∈ copied) :
    verifyMember lib (layOut m copied) (fileEntry lib c) = .ok c := by
  have hfile : (layOut m copied).file (fileEntry lib c).path = some c.2 := by
    refine (if_neg (hmanifest c hc)).trans ?_
    show (copied.find? (·.1 == c.1)).map Prod.snd = _
    rw [find?_of_nodup_keys Prod.fst hnd hc]
    rfl
  have hhash : ¬lib.sha256 c.2 ≠ (fileEntry lib c).sha256 := not_not.mpr rfl
  have hsize : ¬equalsCount c.2.size (fileEntry lib c).bytes = false := by
    simp [fileEntry, equalsCount]
  unfold verifyMember
  rw [hfile]
  exact (if_neg hhash).trans (if_neg hsize)

/-- What a manifest says of a tree. -/
structure Describes (lib : Libraries) (tree : KnowledgeTree) (m : BuiltManifest) : Prop where
  complete : tree.Complete
  files : m.files = sortFiles (tree.laidOut.map (fileEntry lib))
  digest : m.contentDigest = contentDigest lib (tree.laidOut.map (fileEntry lib))

/-- The copies, in the order of the manifest. -/
def KnowledgeTree.copies (tree : KnowledgeTree) : List (String × ByteArray) :=
  tree.laidOut.insertionSort fun a b => a.1 ≤ b.1

/-- There is a rule, and every file of a rule has the name the loader asks for. -/
structure RulesNamed (tree : KnowledgeTree) : Prop where
  some : tree.ruleNames ≠ []
  each : ∀ name ∈ tree.ruleNames, isRuleMember (KnowledgeTree.rulePath name) = true

namespace Describes

lemma copies_perm : tree.copies.Perm tree.laidOut := List.perm_insertionSort _ _

lemma files_eq (h : Describes lib tree m) : m.files = tree.copies.map (fileEntry lib) := by
  rw [h.files, sortFiles_fileEntry]
  rfl

lemma perm_paths (h : Describes lib tree m) : (m.files.map FileEntry.path).Perm tree.paths := by
  rw [h.files_eq, List.map_map, ← KnowledgeTree.map_fst_laidOut h.complete]
  exact copies_perm.map Prod.fst

lemma nodup_files (h : Describes lib tree m) : (m.files.map FileEntry.path).Nodup :=
  h.perm_paths.nodup_iff.mpr KnowledgeTree.nodup_paths

/-- The digest of the manifest is the one the loader computes of its files. -/
lemma digest_eq (h : Describes lib tree m) : lib.sha256 (digestPayload m.files) = m.contentDigest := by
  have hperm : (tree.laidOut.map (fileEntry lib)).Perm m.files := h.files ▸ (sortFiles_perm _).symm
  rw [h.digest, contentDigest_eq lib hperm h.nodup_files]

lemma nodup_laidOut (h : Describes lib tree m) : (tree.laidOut.map Prod.fst).Nodup := by
  rw [KnowledgeTree.map_fst_laidOut h.complete]
  exact KnowledgeTree.nodup_paths

/-- The loader verifies every copy. -/
lemma mapM_verifyMember (h : Describes lib tree m) :
    m.files.mapM (verifyMember lib (layOut m tree.laidOut)) = .ok tree.copies := by
  have hmanifest : ∀ c ∈ tree.laidOut, c.1 ≠ MANIFEST_FILENAME := fun c hc =>
    path_ne_manifest (KnowledgeTree.map_fst_laidOut h.complete ▸ List.mem_map_of_mem hc)
  rw [h.files_eq]
  exact mapM_map_eq_ok fun c hc =>
    verifyMember_layOut h.nodup_laidOut hmanifest (copies_perm.mem_iff.mp hc)

/-- The order of the copies does not matter to who looks one up. -/
lemma verifiedBytes_copies (h : Describes lib tree m) :
    verifiedBytes tree.copies = verifiedBytes tree.laidOut := by
  funext rel
  unfold verifiedBytes
  rw [find?_perm_of_nodup_keys Prod.fst copies_perm h.nodup_laidOut]

lemma rulePaths_eq (h : Describes lib tree m) : rulePaths m.loaded.paths = rulePaths tree.paths :=
  rulePaths_congr h.perm_paths

/-! ### The checks of the members -/

lemma checkPaths_ok (h : Describes lib tree m) (hrules : RulesNamed tree) :
    checkPaths [] m.loaded.files = .ok () := by
  refine checkPaths_ok_iff.mpr ⟨fun f hf => ?_, h.nodup_files⟩
  have hpath : f.path ∈ tree.paths := h.perm_paths.mem_iff.mp (List.mem_map_of_mem hf)
  rcases KnowledgeTree.mem_paths.mp hpath with ⟨name, hname, heq⟩ | hfixed
  · have hjson : ".json".toList.isSuffixOf ("rules/" ++ name).toList = true := by
      rw [String.toList_append]
      exact List.isSuffixOf_iff_suffix.mpr
        ((List.isSuffixOf_iff_suffix.mp (tree.matched name hname)).trans (List.suffix_append _ _))
    have hrule := rulePath_of_isRuleMember (hrules.each name hname) hjson
    rw [← heq]
    exact ⟨safeResolve_rule hrule (tree.flat name hname),
      rejectUnexpectedMember_rule (hrules.each name hname) hjson, nofun⟩
  · obtain ⟨hresolve, hreject⟩ := admitted_fixed f.path hfixed
    exact ⟨hresolve, hreject, nofun⟩

lemma checkRequired_ok (h : Describes lib tree m) (hrules : RulesNamed tree) :
    checkRequired m.loaded = .ok () := by
  have hmem : ∀ {p : String}, p ∈ tree.paths → p ∈ m.loaded.paths := fun hp =>
    h.perm_paths.mem_iff.mpr hp
  have hfind : List.find? (fun p => !m.loaded.paths.contains p)
      (requiredMembers ++ if m.loaded.wp6 = true then [actionPolicyMember] else []) = none :=
    List.find?_eq_none.mpr fun p (hp : p ∈ fixedMembers) => by
      simpa using hmem (KnowledgeTree.mem_paths.mpr (.inr hp))
  obtain ⟨name, hname⟩ := List.exists_mem_of_ne_nil _ hrules.some
  have hany : ¬(m.loaded.paths.any fun p => "rules/".toList.isPrefixOf p.toList) = false := by
    rw [Bool.not_eq_false, List.any_eq_true]
    refine ⟨KnowledgeTree.rulePath name, hmem (KnowledgeTree.mem_paths.mpr (.inl ⟨name, hname, rfl⟩)),
      ?_⟩
    rw [KnowledgeTree.rulePath, String.toList_append]
    exact List.isPrefixOf_iff_prefix.mpr (List.prefix_append _ _)
  rw [checkRequired, hfind]
  exact if_neg hany

lemma checkSupported_ok (hversions : m.componentVersions = supportedVersions) :
    checkSupported m.loaded = .ok () := by
  have hlookup : ∀ c ∈ supportedVersions,
      Json.lookup c.1 m.loaded.componentVersions = some (.str c.2) :=
    BuiltManifest.lookup_versionsJson hversions
  have hschema : ¬"1.1.0" ∉ ["1.0.0", "1.1.0"] := by decide
  have hbundle : ¬"1.0.0" ∉ ["1.0.0"] := by decide
  unfold checkSupported
  refine (if_neg hschema).trans ((if_neg hbundle).trans (forM_ok_iff.mpr fun c hc => ?_))
  rw [if_neg (fun h => nomatch h.2), hlookup c hc]
  exact if_neg (not_not.mpr rfl)

/-- The loader verifies the directory where the rules are named as it wants them. -/
theorem verifyMembers_ok (h : Describes lib tree m)
    (hversions : m.componentVersions = supportedVersions) (hrules : RulesNamed tree) :
    verifyMembers lib (layOut m tree.laidOut) m.loaded = .ok tree.copies := by
  unfold verifyMembers
  rw [h.checkPaths_ok hrules, h.checkRequired_ok hrules]
  show (m.files.mapM (verifyMember lib (layOut m tree.laidOut)) >>= _) = _
  rw [h.mapM_verifyMember]
  refine (if_neg (not_not.mpr h.digest_eq)).trans ?_
  rw [checkSupported_ok hversions]
  rfl

/-- A directory the loader verified has its rules named so. -/
theorem rulesNamed_of_verified {dir : Directory} {verified : List (String × ByteArray)}
    (h : Describes lib tree m) (hverified : Verified lib dir m.loaded verified) :
    RulesNamed tree where
  some hnil := by
    obtain ⟨p, hp, hstart⟩ := exists_rule_of_checkRequired hverified.required
    rcases KnowledgeTree.mem_paths.mp (h.perm_paths.mem_iff.mp hp) with ⟨name, hname, -⟩ | hfixed
    · rw [hnil] at hname
      cases hname
    · have hstarts : ∀ p ∈ fixedMembers, ¬"rules/".toList.isPrefixOf p.toList = true := by decide
      exact hstarts p hfixed hstart
  each name hname := by
    have hpath : KnowledgeTree.rulePath name ∈ m.files.map FileEntry.path :=
      h.perm_paths.mem_iff.mpr (KnowledgeTree.mem_paths.mpr (.inl ⟨name, hname, rfl⟩))
    obtain ⟨f, hf, heq⟩ := List.mem_map.mp hpath
    obtain ⟨hall, -⟩ := checkPaths_ok_iff.mp hverified.paths
    have hreject := (hall f hf).2.1
    rw [heq] at hreject
    exact isRuleMember_of_rejectUnexpectedMember hreject

end Describes
end TrustLens.Publish
