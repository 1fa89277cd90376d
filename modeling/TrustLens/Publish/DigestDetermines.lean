import TrustLens.Publish.Agreement

/-!
# The digest of an accepted bundle

What every directory of a digest has in common with the bundle that was accepted under it.
-/

namespace TrustLens.Publish

open Loader

variable {lib : Libraries} {dir dir' : Directory} {m m' : Manifest} {k k' : LoadedKnowledge}

/-- What another directory has to do with an accepted bundle. -/
structure Determined (lib : Libraries) (dir dir' : Directory) (m m' : Manifest) (k : LoadedKnowledge) :
    Prop where
  repeated : ¬m'.paths.Nodup → ∃ e, loadBundle lib dir' = .error e
  changed : ¬SameFiles dir dir' m m' → ∀ k', loadBundle lib dir' = .ok k' →
    k'.contentDigest ≠ k.contentDigest
  same : ∀ k', loadBundle lib dir' = .ok k' → k'.contentDigest = k.contentDigest →
    SameFiles dir dir' m m' ∧ declaredVersions lib dir m = declaredVersions lib dir' m' ∧
      k'.indexes = k.indexes

/-- The same files make the same knowledge. -/
lemma knowledge_of_sameFiles (hsame : SameFiles dir dir' m m') (hm : loadManifest lib dir = .ok m)
    (hm' : loadManifest lib dir' = .ok m') (hk : loadBundle lib dir = .ok k)
    (hk' : loadBundle lib dir' = .ok k') :
    declaredVersions lib dir m = declaredVersions lib dir' m' ∧ k'.indexes = k.indexes := by
  obtain ⟨verified, schema, c, hverified, hparsed, hindexes, -⟩ := loadBundle_ok hm hk
  obtain ⟨verified', schema', c', hverified', hparsed', hindexes', -⟩ := loadBundle_ok hm' hk'
  have h := verified_of_verifyMembers hverified
  have h' := verified_of_verifyMembers hverified'
  have hparse := hsame.parseMembers_eq h h'
  have hmember : member lib verified = member lib verified' := by
    funext rel
    unfold member
    rw [hsame.verifiedBytes_eq h h']
  constructor
  · unfold declaredVersions
    rw [hverified, hverified']
    show (parseMembers lib m.paths m.wp6 verified >>= _) = (parseMembers lib m'.paths m'.wp6 verified' >>= _)
    rw [hparse, hmember]
  · obtain ⟨rfl, rfl⟩ := Prod.mk.inj (Except.ok.inj ((hparse.symm.trans hparsed).symm.trans hparsed'))
    exact Except.ok.inj (hindexes'.symm.trans hindexes)

/-- Where nothing that two loads hash collides, the content digest of an accepted bundle determines
its members and their bytes, hence what they declare and the indexes; and no path and no hash of
the bundle holds a separator of the text that is hashed. -/
theorem content_digest_determines (lib : Libraries) (dir dir' : Directory) (m m' : Manifest)
    (k : LoadedKnowledge) (hhex : HexDigests lib) (hm : loadManifest lib dir = .ok m)
    (hk : loadBundle lib dir = .ok k) (hm' : loadManifest lib dir' = .ok m')
    (hinj : Set.InjOn lib.sha256 (hashed dir m ∪ hashed dir' m')) :
    (∀ f ∈ m.files, Separated f) ∧ Determined lib dir dir' m m' k := by
  obtain ⟨verified, schema, c, hverified, -, -, hdigest⟩ := loadBundle_ok hm hk
  have h := verified_of_verifyMembers hverified
  have hsame : ∀ k', loadBundle lib dir' = .ok k' → k'.contentDigest = k.contentDigest →
      SameFiles dir dir' m m' := by
    intro k' hk' heq
    obtain ⟨verified', schema', c', hverified', -, -, hdigest'⟩ := loadBundle_ok hm' hk'
    rw [hdigest, hdigest'] at heq
    exact sameFiles_of_digest hhex h (verified_of_verifyMembers hverified') hinj heq.symm
  refine ⟨h.separated hhex, fun hrepeated => ?_, fun hchanged k' hk' heq => ?_, fun k' hk' heq => ?_⟩
  · cases hk' : loadBundle lib dir' with
    | error e => exact ⟨e, rfl⟩
    | ok k' =>
      obtain ⟨verified', schema', c', hverified', -⟩ := loadBundle_ok hm' hk'
      exact absurd (verified_of_verifyMembers hverified').nodup_paths hrepeated
  · exact hchanged (hsame k' hk' heq)
  · exact ⟨hsame k' hk' heq, knowledge_of_sameFiles (hsame k' hk' heq) hm hm' hk hk'⟩

/-! ### A bundle that was built -/

/-- The digits of a number below `16 ^ 64` tell which number it is. -/
lemma hexdigest_inj {n n' : ℕ} (hn : n < 16 ^ 64) (hn' : n' < 16 ^ 64)
    (h : hexdigest n = hexdigest n') : n = n' := by
  have hdigits : ∀ i < 64, n / 16 ^ (63 - i) % 16 = n' / 16 ^ (63 - i) % 16 := by
    have hchar : ∀ a < 16, ∀ b < 16, Nat.digitChar a = Nat.digitChar b → a = b := by decide
    intro i hi
    have hlist := String.ofList_injective h
    have hget := List.map_inj_left.mp hlist i (List.mem_range.mpr hi)
    exact hchar _ (Nat.mod_lt _ (by decide)) _ (Nat.mod_lt _ (by decide)) hget
  -- the last `i` digits, from the last one on
  have hmod : ∀ i ≤ 64, n % 16 ^ i = n' % 16 ^ i := by
    intro i hi
    induction i with
    | zero => rw [pow_zero, Nat.mod_one, Nat.mod_one]
    | succ i ih =>
      have hdigit := hdigits (63 - i) (by omega)
      rw [Nat.sub_sub_self (by omega)] at hdigit
      rw [pow_succ, Nat.mod_mul, Nat.mod_mul, ih (by omega), hdigit]
  have hlast := hmod 64 le_rfl
  rwa [Nat.mod_eq_of_lt hn, Nat.mod_eq_of_lt hn'] at hlast

/-- A table that gives no two entries one digest. -/
structure Distinguishing (table : List (ByteArray × ℕ)) : Prop where
  distinct : ∀ e ∈ table, ∀ e' ∈ table, e.2 = e'.2 → e.1 = e'.1
  bound : ∀ e ∈ table, 0 < e.2 ∧ e.2 < 16 ^ 64

/-- The digests of a table collide nowhere on its entries and one further text. -/
lemma injOn_sha256 {table : List (ByteArray × ℕ)} (h : Distinguishing table) (x : ByteArray) :
    Set.InjOn (sampleLibraries table).sha256 {data | data ∈ table.map Prod.fst ∨ data = x} := by
  have hnumber : ∀ data, ∃ n < 16 ^ 64, (sampleLibraries table).sha256 data = hexdigest n ∧
      ((data, n) ∈ table ∨ n = 0 ∧ data ∉ table.map Prod.fst) := by
    intro data
    cases hfind : table.find? (·.1.data = data.data) with
    | some e =>
      have hmem := List.mem_of_find?_eq_some hfind
      obtain rfl : e.1 = data := ByteArray.ext (by simpa using List.find?_some hfind)
      refine ⟨e.2, (h.bound e hmem).2, ?_, .inl hmem⟩
      simp only [sampleLibraries, hfind, Option.map_some, Option.getD_some]
    | none =>
      refine ⟨0, by decide, ?_, .inr ⟨rfl, fun hmem => ?_⟩⟩
      · simp only [sampleLibraries, hfind, Option.map_none, Option.getD_none]
      · obtain ⟨e, he, rfl⟩ := List.mem_map.mp hmem
        simpa using List.find?_eq_none.mp hfind e he
  intro a ha b hb hab
  obtain ⟨n, hn, hna, hknown⟩ := hnumber a
  obtain ⟨n', hn', hnb, hknown'⟩ := hnumber b
  obtain rfl : n = n' := hexdigest_inj hn hn' (hna.symm.trans (hab.trans hnb))
  rcases hknown with hknown | ⟨rfl, hunknown⟩
  · rcases hknown' with hknown' | ⟨rfl, -⟩
    · exact h.distinct _ hknown _ hknown' rfl
    · exact absurd (h.bound _ hknown).1 (lt_irrefl 0)
  · rcases hknown' with hknown' | ⟨-, hunknown'⟩
    · exact absurd (h.bound _ hknown').1 (lt_irrefl 0)
    · rw [ha.resolve_left hunknown, hb.resolve_left hunknown']

lemma distinguishing_sampleTable {category : Json} {taxonomy payload : ℕ}
    (hbound : 0 < payload ∧ payload < 16 ^ 64)
    (h : ∀ a ∈ (publishedDocuments category).zip (sampleDigests taxonomy),
      a.2 ≠ payload ∧ 0 < a.2 ∧ a.2 < 16 ^ 64 ∧
        ∀ b ∈ (publishedDocuments category).zip (sampleDigests taxonomy), a.2 = b.2 → a.1.2 = b.1.2) :
    Distinguishing (sampleTable category taxonomy payload) := by
  constructor
  · intro e he e' he' heq
    rcases List.mem_append.mp he with he | he <;> rcases List.mem_append.mp he' with he' | he'
    · obtain ⟨a, ha, rfl⟩ := List.mem_map.mp he
      obtain ⟨b, hb, rfl⟩ := List.mem_map.mp he'
      exact congrArg documentBytes ((h a ha).2.2.2 b hb heq)
    · obtain ⟨a, ha, rfl⟩ := List.mem_map.mp he
      obtain rfl := List.mem_singleton.mp he'
      exact absurd heq (h a ha).1
    · obtain ⟨b, hb, rfl⟩ := List.mem_map.mp he'
      obtain rfl := List.mem_singleton.mp he
      exact absurd heq.symm (h b hb).1
    · rw [List.mem_singleton.mp he, List.mem_singleton.mp he']
  · intro e he
    rcases List.mem_append.mp he with he | he
    · obtain ⟨a, ha, rfl⟩ := List.mem_map.mp he
      exact ⟨(h a ha).2.1, (h a ha).2.2.1⟩
    · obtain rfl := List.mem_singleton.mp he
      exact hbound

/-- What is hashed of a build are the documents and one list of files. -/
lemma hashed_subset {m : BuiltManifest} {taxonomy payload : ℕ}
    (h : Describes listedLibraries (sampleTree listed) m) :
    hashed (layOut m (sampleTree listed).laidOut) m.loaded ⊆
      {data | data ∈ (sampleTable listed taxonomy payload).map Prod.fst ∨
        data = digestPayload m.files} := by
  rintro data (rfl | ⟨p, hp, hfile⟩)
  · exact .inr rfl
  · have hpath : p ∈ (sampleTree listed).paths := h.perm_paths.mem_iff.mp hp
    simp only [layOut, if_neg (path_ne_manifest hpath)] at hfile
    obtain ⟨copy, hcopy, rfl⟩ := Option.map_eq_some_iff.mp hfile
    have hmem := List.mem_of_find?_eq_some hcopy
    rw [laidOut_sampleTree] at hmem
    obtain ⟨d, hd, rfl⟩ := List.mem_map.mp hmem
    have hzip : d ∈ ((publishedDocuments listed).zip (sampleDigests taxonomy)).map Prod.fst := by
      rw [List.map_fst_zip (by rfl)]
      exact hd
    obtain ⟨entry, hentry, rfl⟩ := List.mem_map.mp hzip
    refine .inl (List.mem_map.mpr ⟨(documentBytes entry.1.2, entry.2), ?_, rfl⟩)
    exact List.mem_append_left _ (List.mem_map_of_mem hentry)

lemma hexDigests_listed : HexDigests listedLibraries := by
  have hhex : ∀ a < 16, ManifestSchema.isLowerHex (Nat.digitChar a) = true := by decide
  intro data c hc
  change c ∈ (hexdigest _).toList at hc
  rw [hexdigest, String.toList_ofList] at hc
  obtain ⟨i, -, rfl⟩ := List.mem_map.mp hc
  exact hhex _ (Nat.mod_lt _ (by decide))

theorem content_digest_determines_listed : ∃ dir m k,
    loadManifest listedLibraries dir = .ok m ∧ loadBundle listedLibraries dir = .ok k ∧
      (∀ f ∈ m.files, Separated f) ∧ Determined listedLibraries dir dir m m k := by
  have hsha : ∀ data, ManifestSchema.digest (.str (listedLibraries.sha256 data)) = true := fun _ =>
    digest_hexdigest _
  obtain ⟨m, dir, k, hbuild, haccepted⟩ := (bundle_iff hsha (fun _ => rfl) (fun _ => loads_listed)
    sound_listed).mpr publishable_listed
  obtain ⟨hm, rfl⟩ := build_ok_iff.mp hbuild
  obtain ⟨loaded, hloaded, -⟩ := bind_ok haccepted.loaded
  obtain ⟨hdescribes, -⟩ := computeManifest_ok hm
  obtain ⟨-, rfl⟩ := (loadManifest_layOut_iff (loads_listed hm)).mp hloaded
  have hdistinguishing : Distinguishing (sampleTable listed
      0x2c630a56e6d8a9bb8127f26c0ce1fa3fa73436d6d4769c83c9580259ac3feb8c
      0x6add2da66159825145720df8b8ffc2f55e91b267fe6a51cb8c2bed7391a2291c) :=
    distinguishing_sampleTable (by decide) (by decide +kernel)
  have hinj : Set.InjOn listedLibraries.sha256 (hashed (layOut m (sampleTree listed).laidOut) m.loaded ∪
      hashed (layOut m (sampleTree listed).laidOut) m.loaded) := by
    rw [Set.union_self, listedLibraries]
    exact (injOn_sha256 hdistinguishing (digestPayload m.files)).mono (hashed_subset hdescribes)
  refine ⟨_, _, k, hloaded, haccepted.loaded, ?_⟩
  exact content_digest_determines listedLibraries _ _ _ _ k hexDigests_listed hloaded haccepted.loaded
    hloaded hinj

end TrustLens.Publish
