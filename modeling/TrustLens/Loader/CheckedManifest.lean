import TrustLens.Loader.Readable

/-!
# What the manifest and the policy establish

A manifest under its schema is read without an exception, and every member the loader
asks for later is among the verified ones. The schema of the action policy does the
same for the policy.
-/

namespace TrustLens.Loader

variable {lib : Libraries} {dir : Directory} {m : Manifest} {manifest : Json}

/-! ### The manifest -/

namespace ManifestSchema

open Schema

/-- Every version a manifest pins is a string. -/
lemma isStr_of_componentVersions {versions v : Json} {key : String}
    (h : componentVersions versions = true) (hv : versions.get? key = some v) : isStr v = true := by
  obtain ⟨entries, rfl⟩ := Schema.exists_obj_of_object h
  obtain ⟨-, hall⟩ := Schema.object_obj.mp h
  obtain ⟨e, he, rfl, rfl⟩ := Json.exists_entry_of_lookup hv
  obtain ⟨validator, hproperty, hok⟩ := hall e he
  rcases List.mem_append.mp (Schema.mem_of_property hproperty) with hmem | hmem
  · obtain ⟨k, -, heq⟩ := List.mem_map.mp hmem
    cases heq
    obtain ⟨s, hs, -⟩ := exists_str_of_minLength hok
    rw [hs]
    rfl
  · obtain ⟨-, rfl⟩ := Prod.mk.inj (List.mem_singleton.mp hmem)
    obtain ⟨s, hs, -⟩ := exists_str_of_pattern hok
    rw [hs]
    rfl

end ManifestSchema

lemma exists_obj_of_isObj {j : Json} (h : Json.isObj j = true) : ∃ es, j = .obj es := by
  cases j with
  | obj es => exact ⟨es, rfl⟩
  | _ => cases h

lemma strItem_of_get? {value : Json} {key s : String} (h : value.get? key = some (.str s)) :
    strItem value key = .ok s := by
  unfold strItem
  rw [Py.item_of_get? h]
  rfl

lemma exists_readEntry {entry : Json} (h : ManifestSchema.fileEntry entry = true) :
    ∃ f, readEntry entry = .ok f := by
  obtain ⟨path, hpath, hstr⟩ := Schema.exists_get? h "path" (by simp) rfl
  obtain ⟨digest, hdigest, hpattern⟩ := Schema.exists_get? h "sha256" (by simp) rfl
  obtain ⟨bytes, hbytes, -⟩ := Schema.exists_get? h "bytes" (by simp) rfl
  obtain ⟨path, rfl⟩ := Schema.exists_str_of_string hstr
  obtain ⟨digest, rfl, -⟩ := Schema.exists_str_of_pattern hpattern
  refine ⟨⟨path, digest, bytes⟩, ?_⟩
  unfold readEntry
  rw [strItem_of_get? hpath, strItem_of_get? hdigest, Py.item_of_get? hbytes]
  rfl

/-- A manifest its schema accepts is read, and pins versions under their schema. -/
theorem exists_readManifest (h : ManifestSchema.manifest manifest = true) :
    ∃ m, readManifest manifest = .ok m ∧
      ManifestSchema.componentVersions (.obj m.componentVersions) = true := by
  obtain ⟨h, -⟩ := Bool.and_eq_true_iff.mp h
  obtain ⟨_, hversion, hok⟩ := Schema.exists_get? h "manifest_schema_version" (by simp) rfl
  obtain ⟨version, rfl, -⟩ := Schema.exists_str_of_enum hok
  obtain ⟨_, hbundle, hok⟩ := Schema.exists_get? h "bundle_version" (by simp) rfl
  obtain ⟨bundle, rfl, -⟩ := Schema.exists_str_of_pattern hok
  obtain ⟨_, hdigest, hok⟩ := Schema.exists_get? h "content_digest" (by simp) rfl
  obtain ⟨digest, rfl, -⟩ := Schema.exists_str_of_pattern hok
  obtain ⟨_, hversions, hpins⟩ := Schema.exists_get? h "component_versions" (by simp) rfl
  obtain ⟨versions, rfl⟩ := Schema.exists_obj_of_object hpins
  obtain ⟨_, hintegrity, hok⟩ := Schema.exists_get? h "integrity" (by simp) rfl
  obtain ⟨_, hfiles, hok⟩ := Schema.exists_get? hok "files" (by simp) rfl
  obtain ⟨entries, rfl, hentries⟩ := Schema.exists_arr_of_array hok
  obtain ⟨_, hcounts, hok⟩ := Schema.exists_get? h "counts" (by simp) rfl
  obtain ⟨counts, rfl⟩ := exists_obj_of_isObj hok
  obtain ⟨files, hread⟩ := mapM_total fun e he => exists_readEntry (hentries e he)
  have hobj := Py.isObj_of_get? hversion
  refine ⟨⟨version, bundle, digest, versions, files, counts,
    (manifest.get? "commit_sha").getD (.str "unknown"),
    (manifest.get? "gate").getD (.str "NOT_RECORDED")⟩, ?_, hpins⟩
  unfold readManifest
  rw [Py.item_of_get? hintegrity]
  show (Py.item _ "files" >>= _) = _
  rw [Py.item_of_get? hfiles]
  show (strItem manifest "manifest_schema_version" >>= _) = _
  rw [strItem_of_get? hversion, strItem_of_get? hbundle, strItem_of_get? hdigest,
    Py.item_of_get? hversions, hread, Py.getD_of_get? hcounts, Py.getD_of_isObj hobj,
    Py.getD_of_isObj hobj]
  rfl

/-- The bytes of the manifest are decoded, or the fault is one the loader maps. -/
def ManifestTyped (lib : Libraries) (dir : Directory) : Prop :=
  ∀ bytes, dir.isDir = true → dir.file MANIFEST_FILENAME = some bytes →
    ∀ e, lib.loads bytes ≠ .error (.other e)

theorem not_escapes_loadManifest : ¬Escapes (loadManifest lib dir) ↔ ManifestTyped lib dir := by
  unfold loadManifest ManifestTyped
  split_ifs with hdir
  · exact iff_of_true not_escapes_fail fun _ h => by simp [hdir] at h
  · split
    next hfile => exact iff_of_true not_escapes_fail fun _ _ h => by simp [hfile] at h
    next bytes hfile =>
      rw [hfile]
      split
      next hloads =>
        refine iff_of_true not_escapes_fail fun _ _ h e he => ?_
        cases h
        rw [hloads] at he
        cases he
      next e hloads =>
        refine iff_of_false (not_not_intro escapes_escaped) fun h => ?_
        exact h bytes (by simpa using hdir) rfl e hloads
      next manifest hloads =>
        refine iff_of_true ?_ fun _ _ h e he => ?_
        · split_ifs with hschema
          · exact not_escapes_fail
          · obtain ⟨m, hm, -⟩ := exists_readManifest (by simpa using hschema)
            rw [hm]
            exact escapes_ok
        · cases h
          rw [hloads] at he
          cases he

/-- A manifest that was loaded has the schema of the engine. -/
lemma manifest_of_loadManifest (h : loadManifest lib dir = .ok m) :
    ∃ bytes manifest, dir.isDir = true ∧ dir.file MANIFEST_FILENAME = some bytes ∧
      lib.loads bytes = .ok manifest ∧ ManifestSchema.manifest manifest = true ∧
      readManifest manifest = .ok m := by
  unfold loadManifest at h
  split_ifs at h with hdir
  · cases h
  · split at h
    · cases h
    next bytes hfile =>
      split at h
      · cases h
      · cases h
      next manifest hloads =>
        split_ifs at h with hschema
        · cases h
        · exact ⟨bytes, manifest, by simpa using hdir, hfile, hloads, by simpa using hschema, h⟩

lemma componentVersions_of_loadManifest (h : loadManifest lib dir = .ok m) :
    ManifestSchema.componentVersions (.obj m.componentVersions) = true := by
  obtain ⟨_, manifest, -, -, -, hschema, hread⟩ := manifest_of_loadManifest h
  obtain ⟨m', hread', hversions⟩ := exists_readManifest hschema
  obtain rfl := Except.ok.inj (hread.symm.trans hread')
  exact hversions

/-! ### The members -/

lemma not_escapes_safeResolve {rel : String} : ¬Escapes (safeResolve rel) :=
  not_escapes_guard fun _ => not_escapes_guard fun _ => not_escapes_guard fun _ =>
    not_escapes_guard fun _ => not_escapes_guard fun _ => escapes_ok

lemma not_escapes_rejectUnexpectedMember {rel : String} : ¬Escapes (rejectUnexpectedMember rel) := by
  refine not_escapes_guard fun _ => not_escapes_guard fun _ => ?_
  split_ifs
  · exact escapes_ok
  · exact not_escapes_fail

lemma not_escapes_checkPaths {seen : List String} {files : List FileEntry} :
    ¬Escapes (checkPaths seen files) := by
  induction files generalizing seen with
  | nil => exact escapes_ok
  | cons f files ih =>
    refine not_escapes_bind not_escapes_safeResolve fun _ _ => ?_
    refine not_escapes_bind not_escapes_rejectUnexpectedMember fun _ _ => ?_
    split_ifs
    · exact not_escapes_fail
    · exact ih

lemma not_escapes_checkHistorical : ¬Escapes (checkHistorical m) := by
  unfold checkHistorical
  split_ifs
  · exact escapes_ok
  · exact not_escapes_fail
  · exact not_escapes_fail
  · exact escapes_ok

lemma not_escapes_checkRequired : ¬Escapes (checkRequired m) := by
  rw [checkRequired]
  cases List.find? _ _ with
  | some absent => exact not_escapes_fail
  | none => exact not_escapes_guard fun _ => escapes_ok

lemma not_escapes_verifyMember {f : FileEntry} : ¬Escapes (verifyMember lib dir f) := by
  unfold verifyMember
  split
  · exact not_escapes_fail
  · split_ifs
    · exact not_escapes_fail
    · exact not_escapes_fail
    · exact escapes_ok

/-- The pin of a component is a string, or there is none. -/
lemma isHashable_pin (h : ManifestSchema.componentVersions (.obj m.componentVersions) = true)
    (key : String) : Py.isHashable ((Json.lookup key m.componentVersions).getD .null) = true := by
  cases hv : Json.lookup key m.componentVersions with
  | none => rfl
  | some v => exact isHashable_of_isStr (ManifestSchema.isStr_of_componentVersions h hv)

lemma not_escapes_checkSupported
    (h : ManifestSchema.componentVersions (.obj m.componentVersions) = true) :
    ¬Escapes (checkSupported m) := by
  refine not_escapes_guard fun _ => not_escapes_guard fun _ => not_escapes_forM fun c _ => ?_
  by_cases hskip : c.1 = "action_policy" ∧ m.wp6 = false
  · rw [if_pos hskip]
    exact escapes_ok
  · rw [if_neg hskip, Py.hashed_of_isHashable (isHashable_pin h c.1)]
    exact not_escapes_guard fun _ => escapes_ok

theorem not_escapes_verifyMembers
    (h : ManifestSchema.componentVersions (.obj m.componentVersions) = true) :
    ¬Escapes (verifyMembers lib dir m) := by
  refine not_escapes_bind not_escapes_checkPaths fun _ _ => ?_
  refine not_escapes_bind not_escapes_checkHistorical fun _ _ => ?_
  refine not_escapes_bind not_escapes_checkRequired fun _ _ => ?_
  refine not_escapes_bind (not_escapes_mapM fun _ _ => not_escapes_verifyMember) fun _ _ => ?_
  exact not_escapes_guard fun _ => not_escapes_bind (not_escapes_checkSupported h) fun _ _ => escapes_ok

/-- What the verification of the members went through. -/
structure Verified (lib : Libraries) (dir : Directory) (m : Manifest)
    (verified : List (String × ByteArray)) : Prop where
  paths : checkPaths [] m.files = .ok ()
  historical : checkHistorical m = .ok ()
  required : checkRequired m = .ok ()
  members : m.files.mapM (verifyMember lib dir) = .ok verified
  digest : lib.sha256 (digestPayload m.files) = m.contentDigest
  supported : checkSupported m = .ok ()

lemma verified_of_verifyMembers {verified : List (String × ByteArray)}
    (h : verifyMembers lib dir m = .ok verified) : Verified lib dir m verified := by
  obtain ⟨_, hpaths, h⟩ := bind_ok h
  obtain ⟨_, hhistorical, h⟩ := bind_ok h
  obtain ⟨_, hrequired, h⟩ := bind_ok h
  obtain ⟨_, hmembers, h⟩ := bind_ok h
  obtain ⟨hdigest, h⟩ := ok_of_guard h
  obtain ⟨_, hsupported, h⟩ := bind_ok h
  cases h
  exact ⟨hpaths, hhistorical, hrequired, hmembers, not_not.mp hdigest, hsupported⟩

lemma verifyMember_ok {f : FileEntry} {entry : String × ByteArray}
    (h : verifyMember lib dir f = .ok entry) :
    entry.1 = f.path ∧ dir.file f.path = some entry.2 ∧ lib.sha256 entry.2 = f.sha256 := by
  unfold verifyMember at h
  split at h
  · cases h
  next data hfile =>
    obtain ⟨hhash, h⟩ := ok_of_guard h
    obtain ⟨-, h⟩ := ok_of_guard h
    cases h
    exact ⟨rfl, hfile, not_not.mp hhash⟩

lemma mem_paths_of_checkRequired (h : checkRequired m = .ok ()) {rel : String}
    (hrel : rel ∈ requiredMembers ∨ (m.wp6 = true ∧ rel = actionPolicyMember)) : rel ∈ m.paths := by
  rw [checkRequired] at h
  cases hfind : List.find? (fun p => !m.paths.contains p)
      (requiredMembers ++ if m.wp6 = true then [actionPolicyMember] else []) with
  | some absent =>
    rw [hfind] at h
    cases h
  | none =>
    have hmem : rel ∈ requiredMembers ++ if m.wp6 = true then [actionPolicyMember] else [] := by
      rcases hrel with hrel | ⟨hwp6, rfl⟩
      · exact List.mem_append_left _ hrel
      · rw [if_pos hwp6]
        exact List.mem_append_right _ (List.mem_singleton.mpr rfl)
    simpa using List.find?_eq_none.mp hfind rel hmem

namespace Verified

variable {verified : List (String × ByteArray)}

/-- Every path of the manifest has its verified bytes. -/
lemma exists_bytes (h : Verified lib dir m verified) {rel : String} (hrel : rel ∈ m.paths) :
    ∃ data, verifiedBytes verified rel = .ok data := by
  obtain ⟨f, hf, rfl⟩ := List.mem_map.mp hrel
  obtain ⟨entry, hentry, hok⟩ := exists_of_mapM_ok h.members hf
  obtain ⟨hpath, -, -⟩ := verifyMember_ok hok
  unfold verifiedBytes
  cases hfind : verified.find? (·.1 == f.path) with
  | some found => exact ⟨_, rfl⟩
  | none =>
    have := List.find?_eq_none.mp hfind entry hentry
    simp [hpath] at this

/-- The manifest pins the one token the engine supports of each component. -/
lemma pinned (h : Verified lib dir m verified) {component : String × String}
    (hc : component ∈ supportedVersions) (hpolicy : component.1 ≠ "action_policy" ∨ m.wp6 = true) :
    Json.lookup component.1 m.componentVersions = some (.str component.2) := by
  obtain ⟨-, hok⟩ := ok_of_guard h.supported
  obtain ⟨-, hok⟩ := ok_of_guard hok
  have hok := ok_of_forM hok component hc
  have hskip : ¬(component.1 = "action_policy" ∧ m.wp6 = false) := by
    rintro ⟨hname, hwp6⟩
    rcases hpolicy with hne | htrue
    · exact hne hname
    · rw [hwp6] at htrue
      cases htrue
  rw [if_neg hskip] at hok
  obtain ⟨version, hversion, hok⟩ := bind_ok hok
  obtain ⟨heq, -⟩ := ok_of_guard hok
  rw [not_not] at heq
  subst heq
  unfold Py.hashed at hversion
  split_ifs at hversion
  have heq := Except.ok.inj hversion
  cases hv : Json.lookup component.1 m.componentVersions with
  | none =>
    rw [hv] at heq
    cases heq
  | some v =>
    rw [hv] at heq
    exact congrArg some heq

end Verified

/-! ### The action policy -/

namespace ActionPolicySchema

open Schema

lemma isStr_of_pattern {p : String → Bool} {j : Json} (h : pattern p j = true) : isStr j = true := by
  obtain ⟨s, rfl, -⟩ := exists_str_of_pattern h
  rfl

/-- An entry the schema accepts is read without an exception. -/
structure EntryRead (e : Json) : Prop where
  named : Named "policy_entry_id" e
  trigger : ∃ t type, e.get? "trigger" = some t ∧ t.get? "type" = some type ∧
    Py.isHashable (t.get "id") = true
  evidence : Strings e "evidence_refs"

lemma entryRead_of_entry {e : Json} (h : entry e = true) : EntryRead e := by
  obtain ⟨h, -⟩ := Bool.and_eq_true_iff.mp h
  obtain ⟨_, hid, hok⟩ := exists_get? h "policy_entry_id" (by simp) rfl
  obtain ⟨id, rfl, -⟩ := exists_str_of_pattern hok
  obtain ⟨t, ht, hok⟩ := exists_get? h "trigger" (by simp) rfl
  obtain ⟨hobject, -⟩ := Bool.and_eq_true_iff.mp hok
  obtain ⟨type, htype, -⟩ := exists_get? hobject "type" (by simp) rfl
  have hobj := Py.isObj_of_get? hid
  refine ⟨⟨id, hid⟩, ⟨t, type, ht, htype, ?_⟩, ?_⟩
  · unfold Json.get
    cases htid : t.get? "id" with
    | none => rfl
    | some tid =>
      obtain ⟨s, rfl, -⟩ := exists_str_of_minLength (value_of_get? hobject htid rfl)
      rfl
  · have hmembers : members e "evidence_refs" = .ok (e.get "evidence_refs").items ∧
        ∀ x ∈ (e.get "evidence_refs").items, isStr x = true := by
      cases hrefs : e.get? "evidence_refs" with
      | none =>
        unfold members Json.get
        rw [Py.getD_of_isObj hobj, hrefs]
        exact ⟨rfl, nofun⟩
      | some refs =>
        obtain ⟨items, rfl, hitems⟩ := exists_arr_of_uniqueArray (value_of_get? h hrefs rfl)
        rw [members_of_get? hrefs, get_of_get? hrefs]
        exact ⟨rfl, fun x hx => isStr_of_pattern (hitems x hx)⟩
    exact ⟨hmembers.1, hmembers.2⟩

lemma exists_entries {j : Json} (h : policy j = true) :
    ∃ es, j.get? "entries" = some (.arr es) ∧ ∀ e ∈ es, EntryRead e := by
  obtain ⟨_, hentries, hok⟩ := exists_get? h "entries" (by simp) rfl
  obtain ⟨es, rfl, hall⟩ := exists_arr_of_uniqueArray hok
  exact ⟨es, hentries, fun e he => entryRead_of_entry (hall e he)⟩

end ActionPolicySchema

lemma reads_policyTargets {c : Components} (h : Shaped c) : Reads True (policyTargets c) := by
  obtain ⟨negatives, hnegatives, hnegative⟩ := h.negatives
  obtain ⟨categories, hcategories, hcategory⟩ := h.taxonomy
  obtain ⟨sources, hsources, hsource⟩ := h.sources
  refine Reads.of_eq (records_of_get? hcategories) ?_
  refine Reads.then_ (Reads.mapM_total fun x hx => ?_) fun _ _ => ?_
  · obtain ⟨id, hid⟩ := item_of_named (hcategory x hx).named
    refine Reads.of_eq hid (Reads.of_eq rfl (Reads.of_eq (hcategory x hx).subcategories.members ?_))
    exact (reads_idSet fun s hs => ((hcategory x hx).subcategories.all s hs).named).map
  refine Reads.of_eq h.overrides.members ?_
  refine Reads.then_ (reads_idSet fun o ho => (h.overrides.all o ho).named) fun _ _ => ?_
  refine Reads.then_ (reads_idSet fun r hr => (h.rules r hr).named) fun _ _ => ?_
  refine Reads.of_eq (records_of_get? hnegatives) ?_
  refine Reads.then_ (reads_idSet fun n hn => (hnegative n hn).named) fun _ _ => ?_
  refine Reads.of_eq (records_of_get? hsources) ?_
  exact (reads_idSet fun s hs => (hsource s hs).named).map

lemma not_escapes_isMember {value : Json} {set : List Json} (h : Py.isHashable value = true) :
    ¬Escapes (isMember value set) := reads_isMember.not_escapes_iff.mpr h

lemma not_escapes_checkPolicyEntry {targets : PolicyTargets} {seen : List Json} {e : Json}
    (h : ActionPolicySchema.EntryRead e) : ¬Escapes (checkPolicyEntry targets seen e) := by
  obtain ⟨id, hid⟩ := item_of_named h.named
  obtain ⟨t, type, ht, htype, htid⟩ := h.trigger
  unfold checkPolicyEntry
  rw [hid]
  refine not_escapes_guard fun _ => ?_
  rw [Py.item_of_get? ht]
  show ¬Escapes (Py.item t "type" >>= _)
  rw [Py.item_of_get? htype]
  show ¬Escapes (Py.getD t "id" .null >>= _)
  rw [Py.getD_null (Py.isObj_of_get? htype), h.evidence.members]
  have hrefs : ¬Escapes ((e.get "evidence_refs").items.forM (fun sref => do
      if ← isMember sref targets.sources then pure ()
      else fail .ReferenceIntegrityError "REFERENCE_INVALID" id) >>= fun _ =>
        (pure (.str id) : Load Json)) := by
    refine not_escapes_bind (not_escapes_forM fun ref href => ?_) fun _ _ => escapes_ok
    refine not_escapes_bind (not_escapes_isMember (h.evidence.isHashable ref href)) fun _ _ => ?_
    split_ifs
    · exact escapes_ok
    · exact not_escapes_fail
  cases targets.of type with
  | none => exact hrefs
  | some set =>
    show ¬Escapes (isMember (t.get "id") set >>= _)
    refine not_escapes_bind (not_escapes_isMember htid) fun found _ => ?_
    cases found with
    | false => exact not_escapes_bind not_escapes_fail fun _ _ => hrefs
    | true => exact hrefs

lemma not_escapes_checkPolicyEntries {targets : PolicyTargets} {seen : List Json} {es : List Json}
    (h : ∀ e ∈ es, ActionPolicySchema.EntryRead e) :
    ¬Escapes (checkPolicyEntries targets seen es) := by
  induction es generalizing seen with
  | nil => exact escapes_ok
  | cons e es ih =>
    rw [List.forall_mem_cons] at h
    exact not_escapes_bind (not_escapes_checkPolicyEntry h.1) fun _ _ => ih h.2

theorem not_escapes_validateActionPolicy {c : Components} (h : Shaped c) :
    ¬Escapes (validateActionPolicy c) := by
  refine not_escapes_guard fun hschema => ?_
  obtain ⟨es, hentries, hall⟩ := ActionPolicySchema.exists_entries (by simpa using hschema)
  refine not_escapes_bind ((reads_policyTargets h).not_escapes_iff.mpr trivial) fun _ _ => ?_
  rw [records_of_get? hentries]
  exact not_escapes_checkPolicyEntries hall

lemma policyShaped_of_validateActionPolicy {c : Components} (h : validateActionPolicy c = .ok ()) :
    PolicyShaped c.actionPolicy := by
  obtain ⟨hschema, -⟩ := ok_of_guard h
  obtain ⟨es, hentries, hall⟩ := ActionPolicySchema.exists_entries (by simpa using hschema)
  exact ⟨es, hentries, fun e he => (hall e he).named⟩

end TrustLens.Loader
