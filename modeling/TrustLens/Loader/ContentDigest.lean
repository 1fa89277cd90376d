import TrustLens.Loader.MemberPaths
import TrustLens.Loader.TypedLoading

/-!
# What the content digest determines

A digest payload has one reading: no path and no hash of an accepted bundle holds a separator.
Two accepted bundles of one digest therefore have the same files, and whatever the loader makes
of a bundle it makes of its files.
-/

namespace TrustLens.Loader

variable {lib : Libraries} {dir dir' : Directory} {m m' : Manifest}
  {verified verified' : List (String × ByteArray)} {files files' : List FileEntry} {f : FileEntry}
  {paths paths' : List String} {rel : String}

/-! ### The reading of a payload -/

/-- No separator of the payload occurs in the entry. -/
structure Separated (f : FileEntry) : Prop where
  path : '\n' ∉ f.path.toList ∧ '=' ∉ f.path.toList
  hash : '\n' ∉ f.sha256.toList ∧ '=' ∉ f.sha256.toList

/-- What a line says of a file. -/
def FileEntry.pair (f : FileEntry) : String × String := (f.path, f.sha256)

def readLine (line : List Char) : String × String :=
  (String.ofList (line.takeWhile (· ≠ '=')), String.ofList (line.dropWhile (· ≠ '=')).tail)

/-- The pairs of a payload, in the order of the paths. -/
def sortedPairs (files : List FileEntry) : List (String × String) :=
  (files.insertionSort fun a b => a.path ≤ b.path).map FileEntry.pair

lemma newline_notMem_digestLine (h : Separated f) : '\n' ∉ digestLine f := by
  rw [digestLine, List.mem_append, List.mem_cons]
  rintro (hpath | hsign | hhash)
  · exact h.path.1 hpath
  · exact absurd hsign (by decide)
  · exact h.hash.1 hhash

/-- A line is cut at its first sign, which is where the path ends. -/
lemma readLine_digestLine (h : Separated f) : readLine (digestLine f) = f.pair := by
  have hall : ∀ c ∈ f.path.toList, decide (c ≠ '=') = true := fun c hc =>
    decide_eq_true fun heq => h.path.2 (heq ▸ hc)
  have hsign : decide (('=' : Char) ≠ '=') = false := by decide
  rw [readLine, digestLine, List.takeWhile_append_of_pos hall, List.dropWhile_append_of_pos hall,
    List.takeWhile_cons_of_neg (by simp), List.dropWhile_cons_of_neg (by simp), List.append_nil,
    List.tail_cons, String.ofList_toList, String.ofList_toList]
  rfl

/-- A payload of separated entries is read as their pairs. -/
theorem sortedPairs_congr (hne : files ≠ []) (hne' : files' ≠ []) (hs : ∀ f ∈ files, Separated f)
    (hs' : ∀ f ∈ files', Separated f) (h : digestPayload files = digestPayload files') :
    sortedPairs files = sortedPairs files' := by
  have hread : ∀ fs : List FileEntry, fs ≠ [] → (∀ f ∈ fs, Separated f) →
      ((['\n'].intercalate ((fs.insertionSort fun a b => a.path ≤ b.path).map digestLine)).splitOn
        '\n').map readLine = sortedPairs fs := by
    intro fs hfs hsep
    have hmem : ∀ f ∈ fs.insertionSort fun a b => a.path ≤ b.path, Separated f := fun f hf =>
      hsep f ((List.mem_insertionSort _).mp hf)
    have hlines : ((fs.insertionSort fun a b => a.path ≤ b.path).map digestLine) ≠ [] := by
      intro hnil
      have hlength := congrArg List.length hnil
      rw [List.length_map, List.length_insertionSort, List.length_nil] at hlength
      exact hfs (List.eq_nil_of_length_eq_zero hlength)
    rw [List.splitOn_intercalate '\n' (List.forall_mem_map.mpr fun f hf =>
      newline_notMem_digestLine (hmem f hf)) hlines, List.map_map, sortedPairs]
    exact List.map_congr_left fun f hf => readLine_digestLine (hmem f hf)
  rw [← hread files hne hs, ← hread files' hne' hs']
  have htext := String.toByteArray_inj.mp h
  rw [String.ofList_injective htext]

lemma mem_sortedPairs {pair : String × String} :
    pair ∈ sortedPairs files ↔ ∃ f ∈ files, f.pair = pair := by
  rw [sortedPairs, List.mem_map]
  simp only [List.mem_insertionSort]

/-! ### The entries of an accepted bundle -/

/-- `hexdigest` gives hexadecimal digits. -/
def HexDigests (lib : Libraries) : Prop :=
  ∀ data, ∀ c ∈ (lib.sha256 data).toList, ManifestSchema.isLowerHex c = true

/-- No path the loader admits holds a separator. -/
lemma separators_notMem_path (h : rejectUnexpectedMember rel = .ok ()) :
    '\n' ∉ rel.toList ∧ '=' ∉ rel.toList := by
  obtain ⟨hjson, h⟩ := ok_of_guard h
  obtain ⟨-, h⟩ := ok_of_guard h
  split_ifs at h with hmember
  · rcases hmember with hfixed | hrule
    · have hall : ∀ p ∈ fixedMembers, '\n' ∉ p.toList ∧ '=' ∉ p.toList := by decide +kernel
      exact hall rel hfixed
    · have hpath := rulePath_of_isRuleMember hrule (Bool.not_eq_false _ ▸ hjson)
      have hforeign : ¬IsRuleChar '\n' ∧ ¬IsRuleChar '=' := by
        unfold IsRuleChar
        decide +kernel
      exact ⟨hpath.notMem hforeign.1, hpath.notMem hforeign.2⟩
  · cases h

namespace Verified

lemma exists_verified (h : Verified lib dir m verified) (hf : f ∈ m.files) :
    ∃ data, dir.file f.path = some data ∧ lib.sha256 data = f.sha256 := by
  obtain ⟨entry, -, hok⟩ := exists_of_mapM_ok h.members hf
  obtain ⟨-, hfile, hhash⟩ := verifyMember_ok hok
  exact ⟨entry.2, hfile, hhash⟩

theorem separated (hhex : HexDigests lib) (h : Verified lib dir m verified) :
    ∀ f ∈ m.files, Separated f := by
  intro f hf
  obtain ⟨hall, -⟩ := checkPaths_ok_iff.mp h.paths
  obtain ⟨data, -, hhash⟩ := h.exists_verified hf
  have hforeign : ManifestSchema.isLowerHex '\n' = false ∧ ManifestSchema.isLowerHex '=' = false := by
    decide
  refine ⟨separators_notMem_path (hall f hf).2.1, fun hmem => ?_, fun hmem => ?_⟩
  · rw [← hhash] at hmem
    exact absurd (hhex data _ hmem) (by simp [hforeign.1])
  · rw [← hhash] at hmem
    exact absurd (hhex data _ hmem) (by simp [hforeign.2])

lemma nodup_paths (h : Verified lib dir m verified) : m.paths.Nodup := (checkPaths_ok_iff.mp h.paths).2

lemma files_ne_nil (h : Verified lib dir m verified) : m.files ≠ [] := by
  obtain ⟨p, hp, -⟩ := exists_rule_of_checkRequired h.required
  intro hnil
  rw [Manifest.paths, hnil] at hp
  cases hp

/-- The policy is a member where the manifest is of the version that carries it. -/
lemma wp6_iff (h : Verified lib dir m verified) : m.wp6 = true ↔ actionPolicyMember ∈ m.paths := by
  constructor
  · exact fun hwp6 => mem_paths_of_checkRequired h.required (.inr ⟨hwp6, rfl⟩)
  · intro hmem
    by_contra hwp6
    have hhistorical := h.historical
    rw [checkHistorical, if_neg hwp6] at hhistorical
    split_ifs at hhistorical <;> cases hhistorical

/-- The verified bytes are those of the files the manifest lists. -/
lemma verifiedBytes_eq (h : Verified lib dir m verified) (rel : String) :
    verifiedBytes verified rel =
      if rel ∈ m.paths then
        match dir.file rel with
        | some data => .ok data
        | none => .error (.escaped .KeyError)
      else .error (.escaped .KeyError) := by
  unfold verifiedBytes
  cases hfind : verified.find? (·.1 == rel) with
  | some entry =>
    obtain rfl : entry.1 = rel := by simpa using List.find?_some hfind
    obtain ⟨f, hf, hok⟩ := (mem_of_mapM_ok h.members entry).mp (List.mem_of_find?_eq_some hfind)
    obtain ⟨hpath, hfile, -⟩ := verifyMember_ok hok
    have hmem : entry.1 ∈ m.paths := hpath ▸ List.mem_map_of_mem hf
    rw [if_pos hmem, hpath, hfile]
  | none =>
    have hmem : rel ∉ m.paths := by
      intro hmem
      obtain ⟨data, hdata⟩ := h.exists_bytes hmem
      rw [verifiedBytes, hfind] at hdata
      cases hdata
    rw [if_neg hmem]

end Verified

/-! ### Bundles with the same files -/

/-- The same members, each with the same bytes. -/
structure SameFiles (dir dir' : Directory) (m m' : Manifest) : Prop where
  paths : ∀ p, p ∈ m.paths ↔ p ∈ m'.paths
  bytes : ∀ p ∈ m.paths, dir.file p = dir'.file p

/-- What a load hashes. -/
def hashed (dir : Directory) (m : Manifest) : Set ByteArray :=
  {data | data = digestPayload m.files ∨ ∃ p ∈ m.paths, dir.file p = some data}

/-- Where nothing that is hashed collides, the digest determines the files. -/
theorem sameFiles_of_digest (hhex : HexDigests lib) (h : Verified lib dir m verified)
    (h' : Verified lib dir' m' verified') (hinj : Set.InjOn lib.sha256 (hashed dir m ∪ hashed dir' m'))
    (hdigest : m.contentDigest = m'.contentDigest) : SameFiles dir dir' m m' := by
  have hpayload : digestPayload m.files = digestPayload m'.files := by
    refine hinj (.inl (.inl rfl)) (.inr (.inl rfl)) ?_
    rw [h.digest, h'.digest, hdigest]
  have hpairs : sortedPairs m.files = sortedPairs m'.files := sortedPairs_congr h.files_ne_nil
    h'.files_ne_nil (h.separated hhex) (h'.separated hhex) hpayload
  have hmem : ∀ pair, (∃ f ∈ m.files, f.pair = pair) ↔ ∃ f ∈ m'.files, f.pair = pair := by
    intro pair
    rw [← mem_sortedPairs, hpairs, mem_sortedPairs]
  constructor
  · intro p
    simp only [Manifest.paths, List.mem_map]
    constructor
    · rintro ⟨f, hf, rfl⟩
      obtain ⟨f', hf', heq⟩ := (hmem f.pair).mp ⟨f, hf, rfl⟩
      exact ⟨f', hf', congrArg Prod.fst heq⟩
    · rintro ⟨f', hf', rfl⟩
      obtain ⟨f, hf, heq⟩ := (hmem f'.pair).mpr ⟨f', hf', rfl⟩
      exact ⟨f, hf, congrArg Prod.fst heq⟩
  · intro p hp
    obtain ⟨f, hf, rfl⟩ := List.mem_map.mp hp
    obtain ⟨f', hf', heq⟩ := (hmem f.pair).mp ⟨f, hf, rfl⟩
    obtain ⟨hpath, hhash⟩ := Prod.mk.inj heq
    obtain ⟨data, hfile, hdata⟩ := h.exists_verified hf
    obtain ⟨data', hfile', hdata'⟩ := h'.exists_verified hf'
    rw [hpath] at hfile'
    have hp' : f.path ∈ m'.paths := hpath ▸ List.mem_map_of_mem hf'
    have hbytes : data = data' := hinj (.inl (.inr ⟨_, hp, hfile⟩)) (.inr (.inr ⟨_, hp', hfile'⟩))
      (by rw [hdata, hdata', hhash])
    rw [hfile, hfile', hbytes]

/-! ### What the loader makes of the files -/

/-- Parsing depends on what a look-up of a member gives and on which paths are rules. -/
lemma parseMembers_congr (hbytes : verifiedBytes verified = verifiedBytes verified')
    (hpaths : rulePaths paths = rulePaths paths') (wp6 : Bool) :
    parseMembers lib paths wp6 verified = parseMembers lib paths' wp6 verified' := by
  have hmember : member lib verified = member lib verified' := by
    funext rel
    unfold member
    rw [hbytes]
  have hrule : loadRule lib verified = loadRule lib verified' := by
    funext schema rel
    unfold loadRule
    rw [hmember]
  have hextraction : checkExtractionSchema lib verified = checkExtractionSchema lib verified' := by
    funext rel
    unfold checkExtractionSchema
    rw [hmember]
  unfold parseMembers
  rw [hmember, hrule, hextraction, hpaths]

lemma rulePaths_congr (h : paths.Perm paths') : rulePaths paths = rulePaths paths' := by
  have hperm : (rulePaths paths).Perm (rulePaths paths') :=
    (List.perm_insertionSort _ _).trans ((h.filter _).trans (List.perm_insertionSort _ _).symm)
  exact hperm.eq_of_pairwise (fun _ _ _ _ => le_antisymm) (List.pairwise_insertionSort _ _)
    (List.pairwise_insertionSort _ _)

/-- The versions the members of a bundle declare of themselves. -/
def declaredVersions (lib : Libraries) (dir : Directory) (m : Manifest) :
    Load (List (String × Load Json)) := do
  let verified ← verifyMembers lib dir m
  let (ruleSchema, c) ← parseMembers lib m.paths m.wp6 verified
  let envelope ← member lib verified envelopeSchemaMember
  return embeddedVersions ruleSchema envelope c

namespace SameFiles

lemma verifiedBytes_eq (hsame : SameFiles dir dir' m m') (h : Verified lib dir m verified)
    (h' : Verified lib dir' m' verified') : verifiedBytes verified = verifiedBytes verified' := by
  funext rel
  rw [h.verifiedBytes_eq, h'.verifiedBytes_eq]
  by_cases hrel : rel ∈ m.paths
  · rw [if_pos hrel, if_pos ((hsame.paths rel).mp hrel), hsame.bytes rel hrel]
  · rw [if_neg hrel, if_neg (mt (hsame.paths rel).mpr hrel)]

lemma wp6_eq (hsame : SameFiles dir dir' m m') (h : Verified lib dir m verified)
    (h' : Verified lib dir' m' verified') : m.wp6 = m'.wp6 := by
  rw [Bool.eq_iff_iff, h.wp6_iff, h'.wp6_iff]
  exact hsame.paths _

/-- The same files are parsed to the same components. -/
lemma parseMembers_eq (hsame : SameFiles dir dir' m m') (h : Verified lib dir m verified)
    (h' : Verified lib dir' m' verified') :
    parseMembers lib m.paths m.wp6 verified = parseMembers lib m'.paths m'.wp6 verified' := by
  have hpaths : m.paths.Perm m'.paths :=
    (List.perm_ext_iff_of_nodup h.nodup_paths h'.nodup_paths).mpr hsame.paths
  rw [← hsame.wp6_eq h h']
  exact parseMembers_congr (hsame.verifiedBytes_eq h h') (rulePaths_congr hpaths) _

end SameFiles

/-- The steps of a load that was accepted. -/
lemma loadBundle_ok {k : LoadedKnowledge} (hm : loadManifest lib dir = .ok m)
    (h : loadBundle lib dir = .ok k) : ∃ verified schema c, verifyMembers lib dir m = .ok verified ∧
      parseMembers lib m.paths m.wp6 verified = .ok (schema, c) ∧ buildIndexes c = .ok k.indexes ∧
      k.contentDigest = m.contentDigest := by
  obtain ⟨loaded, hloaded, h⟩ := bind_ok h
  obtain rfl := Except.ok.inj (hm.symm.trans hloaded)
  obtain ⟨verified, hverified, h⟩ := bind_ok h
  obtain ⟨⟨schema, c⟩, hparsed, h⟩ := bind_ok h
  obtain ⟨_, -, h⟩ := bind_ok h
  obtain ⟨envelope, -, h⟩ := bind_ok h
  obtain ⟨_, -, h⟩ := bind_ok h
  obtain ⟨_, -, h⟩ := bind_ok h
  obtain ⟨_, -, h⟩ := bind_ok h
  obtain ⟨indexes, hindexes, h⟩ := bind_ok h
  obtain ⟨_, -, h⟩ := bind_ok h
  cases h
  exact ⟨verified, schema, c, hverified, hparsed, hindexes, rfl⟩

end TrustLens.Loader
