import TrustLens.Ai.ReplaySnapshot

/-!
# Integrity of restored snapshots

Restoring gives back the dictionary it was given or refuses it: every field is compared,
most of them through the canonical text of what was rebuilt from it. Whatever the payload,
a refusal is the one typed error.
-/

namespace TrustLens.Ai

open Json

variable {lib : Library}

/-! ### Every refusal is typed -/

section Handled

variable {α β : Type}

/-- What a computation raises is caught by the handler of `restore_replay_snapshot`. -/
def Handled (x : Run α) : Prop := ∀ e, x = .error (.escaped e) → e = .KeyError ∨ e = .TypeError

lemma handled_ok {a : α} : Handled (.ok a) := nofun

lemma handled_typed {e : GovernanceError} : Handled (.error (.typed e) : Run α) := nofun

lemma handled_bind {x : Run α} {f : α → Run β} (hx : Handled x) (hf : ∀ a, Handled (f a)) :
    Handled (x >>= f) := by
  cases x with
  | ok a => exact hf a
  | error e => exact fun e' h => hx e' (by cases h; rfl)

lemma handled_asIntegrity {x : Run α} (hx : Handled x) : Handled (asIntegrity x) := by
  unfold asIntegrity
  split
  · exact handled_typed
  · exact hx

lemma handled_canonical_json (j : Json) : Handled (canonical_json lib j) := by
  unfold canonical_json
  split
  · exact handled_ok
  · exact handled_typed

lemma handled_canonical_digest (j : Json) : Handled (canonical_digest lib j) :=
  handled_bind (handled_canonical_json j) fun _ => handled_ok

lemma handled_copied (j : Json) : Handled (copied j) := by
  unfold copied
  split
  · exact handled_ok
  · exact handled_typed

lemma handled_identifier (j : Json) : Handled (_identifier j) := by
  unfold _identifier
  split
  · split
    · exact handled_ok
    · exact handled_typed
  · exact handled_typed

lemma handled_digest (j : Json) : Handled (_digest j) := by
  unfold _digest
  split
  · split
    · exact handled_ok
    · exact handled_typed
  · exact handled_typed

lemma handled_item (j : Json) (key : String) : Handled (Py.item j key) := by
  unfold Py.item
  split
  · split
    · exact handled_ok
    · exact fun e h => .inl (by cases h; rfl)
  · exact fun e h => .inr (by cases h; rfl)

lemma handled_iter (j : Json) : Handled (Py.iter j) := by
  unfold Py.iter
  split
  · exact handled_ok
  · exact handled_ok
  · exact handled_ok
  · exact fun e h => .inr (by cases h; rfl)

lemma handled_make (j : Json) : Handled (AIConfiguration.make j) := by
  have hkeywords : Handled (keywords j) := by
    unfold keywords
    split
    · split
      · exact handled_ok
      · exact fun e h => .inr (by cases h; rfl)
    · exact fun e h => .inr (by cases h; rfl)
  refine handled_bind hkeywords fun given => ?_
  refine handled_bind (handled_identifier _) fun _ => handled_bind (handled_identifier _) fun _ =>
    handled_bind (handled_identifier _) fun _ => handled_bind (handled_identifier _) fun _ =>
    handled_bind (handled_identifier _) fun _ => ?_
  split
  · unfold AIConfiguration.withParameters
    split
    · split
      · split
        · split
          · exact handled_ok
          · exact handled_typed
        · exact handled_typed
      · exact handled_typed
    · exact handled_typed
  · exact handled_typed

lemma handled_new_result (runId evaluationId : Json) (config : AIConfiguration)
    (validated : ValidatedAIExtraction) :
    Handled (_new_ai_extraction_result runId evaluationId config validated) := by
  refine handled_bind (handled_identifier _) fun _ => handled_bind (handled_identifier _) fun _ =>
    handled_bind (handled_iter _) fun _ => handled_bind (handled_iter _) fun _ =>
    handled_bind (handled_copied _) fun _ => handled_bind (handled_identifier _) fun _ => ?_
  split
  · exact handled_ok
  · exact handled_typed

lemma handled_result_as_dict (r : AIExtractionResult) : Handled (r.as_dict lib) :=
  handled_bind (handled_canonical_digest _) fun _ =>
    handled_bind (handled_canonical_digest _) fun _ => handled_ok

lemma handled_material (s : Fields) : Handled (s._material lib) :=
  handled_bind (handled_result_as_dict _) fun _ => handled_bind (handled_copied _) fun _ =>
    handled_bind (handled_canonical_digest _) fun _ => handled_ok

lemma handled_verify (s : Fields) : Handled (s.verify lib) := by
  refine handled_asIntegrity ?_
  unfold Fields.checks
  split
  · refine handled_bind (handled_digest _) fun _ => handled_bind (handled_digest _) fun _ =>
      handled_bind (handled_identifier _) fun _ => handled_bind (handled_identifier _) fun _ =>
      handled_bind (handled_canonical_digest _) fun _ => handled_bind (handled_digest _) fun _ =>
      handled_bind (handled_material _) fun _ =>
      handled_bind (handled_canonical_digest _) fun _ => ?_
    split
    · exact handled_ok
    · exact handled_typed
  · exact handled_typed

lemma handled_snapshot_make (s : Fields) : Handled (AIReplaySnapshot.make lib s) := by
  refine handled_asIntegrity (handled_bind (handled_copied _) fun artifact => ?_)
  split
  · refine handled_bind (handled_canonical_json _) fun _ => ?_
    unfold Fields.seal
    split
    · exact handled_ok
    · rename_i e he
      have hverify : Handled (s.verify lib) := handled_verify s
      exact fun e' h => hverify e' (by cases h; exact he)
  · exact handled_typed

lemma handled_restoreAudit (j : Json) : Handled (restoreAudit j) := by
  refine handled_bind (handled_item _ _) fun _ => handled_bind (handled_make _) fun _ =>
    handled_bind (handled_item _ _) fun _ => ?_
  split
  · exact handled_bind (handled_item _ _) fun _ => handled_bind (handled_item _ _) fun _ =>
      handled_new_result _ _ _ _
  · exact handled_typed

lemma handled_restoring (payload : Json) : Handled (restoring lib payload) := by
  refine handled_bind (handled_copied _) fun data => ?_
  split
  · refine handled_bind (handled_restoreAudit _) fun _ =>
      handled_bind (handled_result_as_dict _) fun _ =>
      handled_bind (handled_canonical_json _) fun _ =>
      handled_bind (handled_canonical_json _) fun _ => ?_
    split
    · refine handled_bind (handled_canonical_digest _) fun _ => ?_
      split
      · exact handled_snapshot_make _
      · exact handled_typed
    · exact handled_typed
  · exact handled_typed

end Handled

/-- Restoring returns a snapshot or raises `AIReplayIntegrityError`. -/
lemma restore_typed (payload : Json) :
    (∃ s, restore_replay_snapshot lib payload = .ok s) ∨
      restore_replay_snapshot lib payload = .error (.typed .AIReplayIntegrityError) := by
  have hhandled : Handled (restoring lib payload) := handled_restoring payload
  unfold restore_replay_snapshot
  split
  · exact .inr rfl
  · exact .inr rfl
  · exact .inr rfl
  · rename_i htyped hkey htype
    cases h : restoring lib payload with
    | ok s => exact .inl ⟨s, rfl⟩
    | error e =>
      cases e with
      | typed e => exact absurd h (htyped e)
      | escaped e =>
        rcases hhandled e h with rfl | rfl
        · exact absurd h hkey
        · exact absurd h htype

/-! ### What is restored is what was given -/

lemma canonical_json_ok {j : Json} {t : String} :
    canonical_json lib j = .ok t ↔ canonicalJson lib.number j = some t := by
  unfold canonical_json
  split
  · rename_i text h
    rw [h, Except.ok.injEq, Option.some.injEq]
  · rename_i h
    rw [h]
    exact iff_of_false nofun nofun

lemma canonical_digest_ok {j : Json} {d : String} (h : canonical_digest lib j = .ok d) :
    ∃ t, canonicalJson lib.number j = some t ∧ lib.sha256 t = d := by
  obtain ⟨t, ht, h⟩ := bind_ok h
  exact ⟨t, canonical_json_ok.mp ht, Except.ok.inj h⟩

lemma copied_ok {j copy : Json} (h : copied j = .ok copy) :
    copy = j ∧ jsonCopy j 0 NODE_BUDGET ≠ none := by
  unfold copied at h
  split at h
  · rename_i left hleft
    exact ⟨(Except.ok.inj h).symm, by rw [hleft]; exact nofun⟩
  · cases h

lemma asIntegrity_ok {α : Type} {x : Run α} {a : α} : asIntegrity x = .ok a ↔ x = .ok a := by
  unfold asIntegrity
  split
  · exact iff_of_false nofun nofun
  · exact Iff.rfl

/-- Collision-free digests are taken of one value, up to the order of members. -/
lemma sortKeys_eq_of_digest (hn : FaithfulNumbers lib.number)
    (hsha : Function.Injective lib.sha256) {a b : Json} {d : String}
    (ha : canonical_digest lib a = .ok d) (hb : canonical_digest lib b = .ok d) :
    sortKeys a = sortKeys b := by
  obtain ⟨t, hta, rfl⟩ := canonical_digest_ok ha
  obtain ⟨t', htb, hd⟩ := canonical_digest_ok hb
  exact sortKeys_eq_of_canonicalJson hn hta (hsha hd ▸ htb)

lemma material_ok {s : Fields} {m : List (String × Json)} (h : s._material lib = .ok m) :
    ∃ audit d, s.extractionResult.as_dict lib = .ok audit ∧
      canonical_digest lib s.governedArtifact = .ok d ∧
      m = [("snapshot_version", .str "1.0.0"), ("extraction_result", audit),
        ("governed_artifact", s.governedArtifact), ("governed_artifact_digest", .str d),
        ("content_digest", s.contentDigest), ("engine_version", s.engineVersion),
        ("profile", s.profile)] := by
  obtain ⟨audit, haudit, h⟩ := bind_ok h
  obtain ⟨artifact, hartifact, h⟩ := bind_ok h
  obtain ⟨d, hd, h⟩ := bind_ok h
  obtain ⟨rfl, -⟩ := copied_ok hartifact
  exact ⟨audit, d, haudit, hd, (Except.ok.inj h).symm⟩

variable (lib) in
/-- What the checks of a snapshot find. -/
structure Checked (f : Fields) : Prop where
  sealed : isSealed lib f.extractionResult = true
  contentDigest : _digest f.contentDigest = .ok ()
  snapshotDigest : _digest f.snapshotDigest = .ok ()
  engineVersion : ∃ i, _identifier f.engineVersion = .ok i
  profile : ∃ i, _identifier f.profile = .ok i
  artifactDigest : ∃ d, canonical_digest lib f.governedArtifact = .ok d ∧ isDigest d = true
  material : ∃ m d, f._material lib = .ok m ∧ canonical_digest lib (.obj m) = .ok d ∧
    f.snapshotDigest = .str d

lemma digest_of_isDigest {s : String} (h : isDigest s = true) : _digest (.str s) = .ok () :=
  if_pos h

lemma isDigest_of_digest {j : Json} (h : _digest j = .ok ()) : ∃ s, j = .str s ∧ isDigest s = true := by
  unfold _digest at h
  split at h
  · rename_i s
    split at h
    · exact ⟨s, rfl, by assumption⟩
    · cases h
  · cases h

theorem verify_ok_iff {f : Fields} : f.verify lib = .ok () ↔ Checked lib f := by
  rw [Fields.verify, asIntegrity_ok]
  constructor
  · intro h
    unfold Fields.checks at h
    split at h
    · rename_i hsealed
      obtain ⟨_, hcontent, h⟩ := bind_ok h
      obtain ⟨_, hsnapshot, h⟩ := bind_ok h
      obtain ⟨engine, hengine, h⟩ := bind_ok h
      obtain ⟨profile, hprofile, h⟩ := bind_ok h
      obtain ⟨a, ha, h⟩ := bind_ok h
      obtain ⟨_, hdigest, h⟩ := bind_ok h
      obtain ⟨m, hm, h⟩ := bind_ok h
      obtain ⟨d, hd, h⟩ := bind_ok h
      obtain ⟨_, heq, hisDigest⟩ := isDigest_of_digest hdigest
      cases heq
      split at h
      · rename_i hown
        exact ⟨hsealed, hcontent, hsnapshot, ⟨engine, hengine⟩, ⟨profile, hprofile⟩,
          ⟨a, ha, hisDigest⟩, ⟨m, d, hm, hd, hown⟩⟩
      · cases h
    · cases h
  · intro h
    obtain ⟨engine, hengine⟩ := h.engineVersion
    obtain ⟨profile, hprofile⟩ := h.profile
    obtain ⟨a, ha, hisDigest⟩ := h.artifactDigest
    obtain ⟨m, d, hm, hd, hown⟩ := h.material
    have hdigest := digest_of_isDigest hisDigest
    rw [Fields.checks, if_pos h.sealed, h.contentDigest, h.snapshotDigest, hengine, hprofile, ha]
    simp only [bind, Except.bind, hdigest, hm, hd]
    exact if_pos hown

/-- A snapshot's digest is that of its material. -/
lemma exists_material (s : AIReplaySnapshot lib) :
    ∃ m d, s._material lib = .ok m ∧ canonical_digest lib (.obj m) = .ok d ∧
      s.snapshotDigest = .str d :=
  (verify_ok_iff.mp s.verified).material

lemma as_dict_eq {s : AIReplaySnapshot lib} {m : List (String × Json)}
    (hm : s._material lib = .ok m) :
    s.as_dict = .ok (.obj (m ++ [("snapshot_digest", s.snapshotDigest)])) := by
  rw [AIReplaySnapshot.as_dict, s.verified, hm]
  rfl

lemma snapshot_make_ok {f : Fields} {s : AIReplaySnapshot lib}
    (h : AIReplaySnapshot.make lib f = .ok s) : s.toFields = f := by
  obtain ⟨artifact, hartifact, h⟩ := bind_ok (asIntegrity_ok.mp h)
  split at h
  · obtain ⟨_, -, h⟩ := bind_ok h
    unfold Fields.seal at h
    split at h
    · cases h
      rfl
    · cases h
  · cases h

lemma restore_ok {payload : Json} {s : AIReplaySnapshot lib}
    (h : restore_replay_snapshot lib payload = .ok s) : restoring lib payload = .ok s := by
  unfold restore_replay_snapshot at h
  split at h
  · cases h
  · cases h
  · cases h
  · exact h

/-- What a restored payload was found to be. -/
structure Compared (payload : Json) (s : AIReplaySnapshot lib) : Prop where
  keys : hasKeys SNAPSHOT_KEYS payload = true
  version : payload.get "snapshot_version" = .str "1.0.0"
  audit : ∃ audit, s.extractionResult.as_dict lib = .ok audit ∧
    ∃ t, canonicalJson lib.number audit = some t ∧
      canonicalJson lib.number (payload.get "extraction_result") = some t
  artifactDigest : ∃ d, canonical_digest lib s.governedArtifact = .ok d ∧
    payload.get "governed_artifact_digest" = .str d
  artifact : s.governedArtifact = payload.get "governed_artifact"
  contentDigest : s.contentDigest = payload.get "content_digest"
  engineVersion : s.engineVersion = payload.get "engine_version"
  profile : s.profile = payload.get "profile"
  snapshotDigest : s.snapshotDigest = payload.get "snapshot_digest"

lemma compared_of_restore {payload : Json} {s : AIReplaySnapshot lib}
    (h : restore_replay_snapshot lib payload = .ok s) : Compared payload s := by
  obtain ⟨data, hdata, hrun⟩ := bind_ok (restore_ok h)
  obtain ⟨rfl, -⟩ := copied_ok hdata
  split at hrun
  · rename_i hguard
    simp only [Bool.and_eq_true, decide_eq_true_eq] at hguard
    obtain ⟨audit, -, hrun⟩ := bind_ok hrun
    obtain ⟨auditDict, haudit, hrun⟩ := bind_ok hrun
    obtain ⟨rebuilt, hrebuilt, hrun⟩ := bind_ok hrun
    obtain ⟨given, hgiven, hrun⟩ := bind_ok hrun
    split at hrun
    · rename_i heq
      subst heq
      obtain ⟨d, hd, hrun⟩ := bind_ok hrun
      split at hrun
      · rename_i hdigest
        have hfields := snapshot_make_ok hrun
        constructor
        · exact hguard.1
        · exact hguard.2
        · rw [hfields]
          exact ⟨auditDict, haudit, rebuilt, canonical_json_ok.mp hrebuilt,
            canonical_json_ok.mp hgiven⟩
        · rw [hfields]
          exact ⟨d, hd, hdigest⟩
        all_goals rw [hfields]
      · cases hrun
    · cases hrun
  · cases hrun

/-- A dict has each of its keys once. -/
def KeyedOnce : Json → Prop
  | .obj es => (es.map Prod.fst).Nodup
  | _ => True

/-- A restored payload is the dictionary of the snapshot it gave. -/
theorem same_of_restore (hn : FaithfulNumbers lib.number) {payload : Json}
    (hkeyed : KeyedOnce payload) {s : AIReplaySnapshot lib}
    (h : restore_replay_snapshot lib payload = .ok s) :
    ∃ d, s.as_dict = .ok d ∧ sortKeys payload = sortKeys d := by
  have hc := compared_of_restore h
  obtain ⟨m, -, hm, -, -⟩ := exists_material s
  refine ⟨_, as_dict_eq hm, ?_⟩
  obtain ⟨audit, d, haudit, hd, rfl⟩ := material_ok hm
  obtain ⟨audit', haudit', t, ht, hgiven⟩ := hc.audit
  obtain ⟨d', hd', hdigest⟩ := hc.artifactDigest
  cases haudit.symm.trans haudit'
  cases hd.symm.trans hd'
  have hsame := sortKeys_eq_of_canonicalJson hn hgiven ht
  cases payload with
  | obj es =>
    have hkeys : ∀ k, k ∈ es.map Prod.fst ↔ k ∈ SNAPSHOT_KEYS := by
      have hall := hc.keys
      simp only [hasKeys, Bool.and_eq_true, List.all_eq_true, List.contains_iff_mem] at hall
      exact fun k => ⟨fun hk => by
        obtain ⟨e, he, rfl⟩ := List.mem_map.mp hk
        exact hall.1 e he, hall.2 k⟩
    rw [sortKeys_perm (perm_members hkeyed (by decide) hkeys) hkeyed]
    simp only [SNAPSHOT_KEYS, List.map_cons, List.map_nil, List.cons_append, List.nil_append,
      sortKeys, sortMembers, hsame, hc.version, hdigest, hc.artifact, hc.contentDigest,
      hc.engineVersion, hc.profile, hc.snapshotDigest]
  | _ => cases hc.keys

/-- Snapshots with one digest have one dictionary. -/
lemma as_dict_of_digest (hn : FaithfulNumbers lib.number) (hsha : Function.Injective lib.sha256)
    {s s' : AIReplaySnapshot lib} {d d' : Json} (hd : s.as_dict = .ok d) (hd' : s'.as_dict = .ok d')
    (h : s.snapshotDigest = s'.snapshotDigest) : sortKeys d = sortKeys d' := by
  obtain ⟨m, digest, hm, hdigest, hs⟩ := exists_material s
  obtain ⟨m', digest', hm', hdigest', hs'⟩ := exists_material s'
  rw [hs, hs', str.injEq] at h
  subst h
  have hsame := sortKeys_eq_of_digest hn hsha hdigest hdigest'
  cases (as_dict_eq hm).symm.trans hd
  cases (as_dict_eq hm').symm.trans hd'
  obtain ⟨audit, artifact, -, -, rfl⟩ := material_ok hm
  obtain ⟨audit', artifact', -, -, rfl⟩ := material_ok hm'
  have hnodup : (SNAPSHOT_KEYS.take 7).Nodup := by decide
  have hvalues := values_eq_of_sortKeys (by rfl) (by exact hnodup) hsame
  simp only [List.map_cons, List.map_nil, List.cons.injEq, sortKeys, and_true, true_and] at hvalues
  obtain ⟨haudit, hartifact, hartifactDigest, hcontent, hengine, hprofile⟩ := hvalues
  simp only [List.cons_append, List.nil_append, sortKeys, sortMembers, haudit, hartifact,
    hartifactDigest, hcontent, hengine, hprofile, hs, hs']

/-- A restored payload is the dictionary of a sealed snapshot; a payload that carries the
digest of a pinned snapshot and is not that snapshot's dictionary is refused; and every
refusal is the typed one. -/
theorem replay_snapshots_tamper_evident (hn : FaithfulNumbers lib.number)
    (hsha : Function.Injective lib.sha256) :
    (∀ payload, KeyedOnce payload → ∀ s, restore_replay_snapshot lib payload = .ok s →
      isSealed lib s.extractionResult = true ∧
        ∃ d, s.as_dict = .ok d ∧ sortKeys payload = sortKeys d) ∧
    (∀ (s : AIReplaySnapshot lib) (d payload : Json), s.as_dict = .ok d → KeyedOnce payload →
      payload.get "snapshot_digest" = s.snapshotDigest → sortKeys payload ≠ sortKeys d →
        restore_replay_snapshot lib payload = .error (.typed .AIReplayIntegrityError)) ∧
    ∀ payload, (∃ s, restore_replay_snapshot lib payload = .ok s) ∨
      restore_replay_snapshot lib payload = .error (.typed .AIReplayIntegrityError) := by
  refine ⟨fun payload hkeyed s h => ⟨(verify_ok_iff.mp s.verified).sealed, same_of_restore hn hkeyed h⟩,
    ?_, restore_typed⟩
  intro s d payload hd hkeyed hdigest hdiffers
  have htyped : (∃ s', restore_replay_snapshot lib payload = .ok s') ∨ _ := restore_typed payload
  rcases htyped with ⟨s', hs'⟩ | hrefused
  · obtain ⟨d', hd', hsame⟩ := same_of_restore hn hkeyed hs'
    have hcarried := (compared_of_restore hs').snapshotDigest
    have heq := as_dict_of_digest hn hsha hd hd' (hdigest.symm.trans hcarried.symm)
    exact absurd (hsame.trans heq.symm) hdiffers
  · exact hrefused

/-! ### Pinning -/

lemma identifier_of_isIdentifier {s : String} (h : isIdentifier s = true) :
    _identifier (.str s) = .ok ⟨s, h⟩ := dif_pos h

lemma copied_of_bounded {j : Json} (h : jsonCopy j 0 NODE_BUDGET ≠ none) : copied j = .ok j := by
  obtain ⟨left, hleft⟩ := Option.ne_none_iff_exists'.mp h
  rw [copied, hleft]

lemma copied_of_canonical {j : Json} {t : String} (h : canonicalJson lib.number j = some t) :
    copied j = .ok j := by
  have hadm := (canonicalJson_eq_some.mp h).1
  exact copied_of_bounded (jsonCopy_ne_none.mpr ⟨hadm.isPlain, hadm.depth, hadm.budget⟩)

lemma canonical_digest_of {j : Json} {t : String} (h : canonicalJson lib.number j = some t) :
    canonical_digest lib j = .ok (lib.sha256 t) := by
  rw [canonical_digest, canonical_json_ok.mpr h]
  rfl

variable (lib) in
/-- Fields that pass the checks, with an artifact that is a dictionary. -/
structure WellPinned (f : Fields) : Prop extends Checked lib f where
  isObj : f.governedArtifact.isObj = true

lemma WellPinned.verify {f : Fields} (h : WellPinned lib f) : f.verify lib = .ok () :=
  verify_ok_iff.mpr h.toChecked

lemma WellPinned.make {f : Fields} (h : WellPinned lib f) :
    AIReplaySnapshot.make lib f = .ok ⟨f, h.verify⟩ := by
  obtain ⟨a, ha, -⟩ := h.artifactDigest
  obtain ⟨t, ht, -⟩ := canonical_digest_ok ha
  have hseal : f.seal lib = .ok ⟨f, h.verify⟩ := by
    unfold Fields.seal
    split
    · rfl
    · rename_i e he
      exact absurd (he.symm.trans h.verify) nofun
  refine asIntegrity_ok.mpr ?_
  rw [copied_of_canonical ht]
  simp only [bind, Except.bind, if_pos h.isObj, canonical_json_ok.mpr ht]
  exact hseal

lemma canonical_digest_congr {a b : Json} (h : sortKeys a = sortKeys b) :
    canonical_digest lib a = canonical_digest lib b := by
  unfold canonical_digest canonical_json
  rw [canonicalJson_congr h]

theorem WellPinned.pin {f : Fields} (h : WellPinned lib f) :
    pin_replay_snapshot lib f.extractionResult f.governedArtifact f.contentDigest f.engineVersion
      f.profile = .ok ⟨f, h.verify⟩ := by
  obtain ⟨m, d, hm, hd, hs⟩ := h.material
  obtain ⟨audit, a, haudit, ha, rfl⟩ := material_ok hm
  obtain ⟨t, ht, -⟩ := canonical_digest_ok ha
  -- the digest is taken with two fields the other way round
  have hswap : canonical_digest lib (.obj [("snapshot_version", .str "1.0.0"),
      ("extraction_result", audit), ("governed_artifact", f.governedArtifact),
      ("content_digest", f.contentDigest), ("governed_artifact_digest", .str a),
      ("engine_version", f.engineVersion), ("profile", f.profile)]) = .ok d := by
    rw [← hd]
    refine canonical_digest_congr (sortKeys_perm ?_ ?_)
    · exact (List.Perm.swap _ _ _).cons _ |>.cons _ |>.cons _
    · exact (show ["snapshot_version", "extraction_result", "governed_artifact", "content_digest",
        "governed_artifact_digest", "engine_version", "profile"].Nodup by decide)
  rw [pin_replay_snapshot, if_pos h.sealed, copied_of_canonical ht]
  simp only [bind, Except.bind, if_pos h.isObj, ha, haudit, hswap]
  rw [← hs]
  exact h.make

section Sample

/-- The digests of a few documents; every other text stands for its own. -/
def tabulated (table : List (Json × String)) (t : String) : String :=
  match table.find? fun e => dumps exactText e.1 = t with
  | some e => e.2
  | none => "z" ++ t

lemma tabulated_injective {table : List (Json × String)}
    (hnd : (table.map Prod.snd).Nodup) (hz : ∀ e ∈ table, e.2.toList.head? ≠ some 'z') :
    Function.Injective (tabulated table) := by
  have hclash : ∀ e ∈ table, ∀ t : String, e.2 ≠ "z" ++ t := by
    intro e he t h
    refine hz e he ?_
    rw [h, String.toList_append]
    rfl
  intro t u h
  unfold tabulated at h
  split at h
  · rename_i e he
    have hmem := List.mem_of_find?_eq_some he
    split at h
    · rename_i e' he'
      have heq : e = e' :=
        List.inj_on_of_nodup_map hnd hmem (List.mem_of_find?_eq_some he') h
      have ht := List.find?_some he
      have hu := List.find?_some he'
      rw [decide_eq_true_eq] at ht hu
      rw [← ht, ← hu, heq]
    · exact absurd h (hclash e hmem u)
  · split at h
    · rename_i e' he'
      exact absurd h.symm (hclash e' (List.mem_of_find?_eq_some he') t)
    · exact String.toList_inj.mp (List.append_cancel_left (by
        rw [← String.toList_append, ← String.toList_append, h]))

lemma tabulated_eq {table : List (Json × String)}
    (hnd : table.Pairwise fun a b => sortKeys a.1 ≠ sortKeys b.1)
    (hfinite : ∀ e ∈ table, e.1.isFinite = true) {j : Json} {d : String} (h : (j, d) ∈ table) :
    tabulated table (dumps exactText j) = d := by
  have hfind : table.find? (fun e => dumps exactText e.1 = dumps exactText j) = some (j, d) := by
    induction table with
    | nil => cases h
    | cons e table ih =>
      obtain ⟨hhead, htail⟩ := List.pairwise_cons.mp hnd
      rcases List.mem_cons.mp h with rfl | hmem
      · exact List.find?_cons_of_pos (decide_eq_true rfl)
      · rw [List.find?_cons_of_neg, ih htail (fun e he => hfinite e (List.mem_cons_of_mem _ he))
          hmem]
        rw [decide_eq_true_eq]
        exact fun heq => hhead _ hmem (sortKeys_eq_of_dumps exactText_faithful
          (hfinite e List.mem_cons_self) (hfinite _ h) heq)
  rw [tabulated, hfind]

def sampleLibrary (table : List (Json × String)) : Library := ⟨exactText, tabulated table⟩

def sampleConfig : AIConfiguration where
  configId := ⟨"cfg-1", by decide⟩
  providerAdapterId := ⟨"local", by decide⟩
  providerAdapterVersion := ⟨"1.0", by decide⟩
  modelId := ⟨"model", by decide⟩
  modelVersion := ⟨"1.0", by decide⟩
  decodingParameters := []
  bounded := by decide
  known := rfl
  allowed := rfl

def sampleResult : AIExtractionResult where
  runId := ⟨"run-1", by decide⟩
  evaluationId := ⟨"eval-1", by decide⟩
  config := sampleConfig
  inputId := ⟨"input-1", by decide⟩
  observations := []
  indicators := []
  bounded := by decide +kernel

def configDigest : String := "047448999fad1bd285407a3b574b52f7cf395931f04c9824f10fffa4e1c63c8a"

def extractionDigest : String :=
  "f9fdfd9d93313bb699a643f42217311ec8cdc0948b481153c1e3d55b69cabbf3"

def contentDigest : String := "44136fa355b3678a1146ad16f7e8649e94fb4fc21fe77e8310c060f61caaff8a"

def sampleAudit : Json :=
  .obj [("run_id", .str "run-1"), ("evaluation_id", .str "eval-1"),
    ("config_ref", .str ("ai-config:sha256:" ++ configDigest)), ("config", sampleConfig.as_dict),
    ("validated_extraction", sampleResult.extraction),
    ("validated_extraction_digest", .str extractionDigest), ("governed_artifact_digest", .null),
    ("response_schema_version", .str "1.0.0"), ("confidence_policy_version", .str "1.0.0")]

def sampleFields (artifact : Json) (digest : String) : Fields :=
  ⟨sampleResult, artifact, .str contentDigest, .str "1.0", .str "default", .str digest⟩

def sampleMaterial (artifact : Json) (digest : String) : List (String × Json) :=
  [("snapshot_version", .str "1.0.0"), ("extraction_result", sampleAudit),
    ("governed_artifact", artifact), ("governed_artifact_digest", .str digest),
    ("content_digest", .str contentDigest), ("engine_version", .str "1.0"),
    ("profile", .str "default")]

/-- The documents that digests are taken of when an artifact is pinned. -/
def sampleTable (artifact : Json) (digest materialDigest : String) : List (Json × String) :=
  [(sampleConfig.as_dict, configDigest), (sampleResult.extraction, extractionDigest),
    (artifact, digest), (.obj (sampleMaterial artifact digest), materialDigest)]

lemma canonical_digest_sample {table : List (Json × String)}
    (hnd : table.Pairwise fun a b => sortKeys a.1 ≠ sortKeys b.1)
    (hadm : ∀ e ∈ table, Admissible exactText e.1) {j : Json} {d : String} (h : (j, d) ∈ table) :
    canonical_digest (sampleLibrary table) j = .ok d := by
  have htext : canonicalJson (sampleLibrary table).number j = some (dumps exactText j) :=
    canonicalJson_eq_some.mpr ⟨hadm _ h, rfl⟩
  have hfinite : ∀ e ∈ table, e.1.isFinite = true := fun e he =>
    isFinite_of_plain _ (hadm e he).isPlain
  rw [canonical_digest_of htext]
  exact congrArg Except.ok (tabulated_eq hnd hfinite h)

lemma digest_sample {artifact : Json} {d m : String}
    (hnd : (sampleTable artifact d m).Pairwise fun a b => sortKeys a.1 ≠ sortKeys b.1)
    (hadm : ∀ e ∈ sampleTable artifact d m, Admissible exactText e.1) :
    ∀ e ∈ sampleTable artifact d m,
      canonical_digest (sampleLibrary (sampleTable artifact d m)) e.1 = .ok e.2 :=
  fun _ he => canonical_digest_sample hnd hadm he

lemma material_sample {artifact : Json} {d m : String}
    (hdigest : ∀ e ∈ sampleTable artifact d m,
      canonical_digest (sampleLibrary (sampleTable artifact d m)) e.1 = .ok e.2) :
    (sampleFields artifact m)._material (sampleLibrary (sampleTable artifact d m)) =
      .ok (sampleMaterial artifact d) := by
  have hconfig := hdigest (sampleConfig.as_dict, configDigest) (by simp [sampleTable])
  have hextraction := hdigest (sampleResult.extraction, extractionDigest) (by simp [sampleTable])
  have hartifact := hdigest (artifact, d) (by simp [sampleTable])
  have haudit : sampleResult.as_dict (sampleLibrary (sampleTable artifact d m)) =
      .ok sampleAudit := by
    unfold AIExtractionResult.as_dict
    rw [show sampleResult.config = sampleConfig from rfl, hconfig, hextraction]
    rfl
  obtain ⟨t, ht, -⟩ := canonical_digest_ok hartifact
  unfold Fields._material
  rw [show (sampleFields artifact m).extractionResult = sampleResult from rfl, haudit,
    show (sampleFields artifact m).governedArtifact = artifact from rfl, copied_of_canonical ht,
    hartifact]
  rfl

lemma wellPinned_sample {artifact : Json} {d m : String} (hobj : artifact.isObj = true)
    (hdigest : ∀ e ∈ sampleTable artifact d m,
      canonical_digest (sampleLibrary (sampleTable artifact d m)) e.1 = .ok e.2)
    (hd : isDigest d = true) (hm : isDigest m = true) :
    WellPinned (sampleLibrary (sampleTable artifact d m)) (sampleFields artifact m) := by
  have hextraction := hdigest (sampleResult.extraction, extractionDigest) (by simp [sampleTable])
  have hartifact := hdigest (artifact, d) (by simp [sampleTable])
  have hmaterial := hdigest (.obj (sampleMaterial artifact d), m) (by simp [sampleTable])
  refine ⟨⟨?_, ?_, ?_, ?_, ?_, ?_, ?_⟩, hobj⟩
  · rw [isSealed, show (sampleFields artifact m).extractionResult = sampleResult from rfl,
      hextraction]
    decide +kernel
  · exact digest_of_isDigest (by decide +kernel)
  · exact digest_of_isDigest hm
  · exact ⟨_, identifier_of_isIdentifier (by decide)⟩
  · exact ⟨_, identifier_of_isIdentifier (by decide)⟩
  · exact ⟨d, hartifact, hd⟩
  · exact ⟨sampleMaterial artifact d, m, material_sample hdigest, hmaterial, rfl⟩

def sampleArtifact : Json := .obj [("state", .str "evaluated")]

def artifactDigest : String := "7f248a79062108015412e15e96b265fc21886e22e9aab5f8688f3c54c3975423"

def materialDigest : String := "8b6cbb0592e15b0c0e853766f5f0dc89eee90d0bce935d8527bd33ccd3aace7f"

def sampleDigests : List (Json × String) := sampleTable sampleArtifact artifactDigest materialDigest

lemma distinct_of_nodes {table : List (Json × String)}
    (h : table.Pairwise fun a b => nodes a.1 ≠ nodes b.1) :
    table.Pairwise fun a b => sortKeys a.1 ≠ sortKeys b.1 :=
  h.imp fun hne heq => hne (by rw [← nodes_sortKeys, heq, nodes_sortKeys])

lemma sampleDigests_distinct : sampleDigests.Pairwise fun a b => sortKeys a.1 ≠ sortKeys b.1 :=
  distinct_of_nodes (by decide +kernel)

lemma sampleDigests_admissible : ∀ e ∈ sampleDigests, Admissible exactText e.1 := by
  have hbound : ∀ e ∈ sampleDigests, plain e.1 = true ∧ height e.1 ≤ MAX_DEPTH ∧
      nodes e.1 ≤ NODE_BUDGET ∧ writable e.1 = true ∧
      textBound exactText e.1 ≤ MAX_CANONICAL_BYTES := by
    decide +kernel
  intro e he
  obtain ⟨hplain, hheight, hnodes, hwritable, hsize⟩ := hbound e he
  exact admissible_of_textBound hplain hheight hnodes hwritable hsize

/-- A dictionary that claims another engine version. -/
def tampered : Json :=
  .obj (((sampleMaterial sampleArtifact artifactDigest).eraseIdx 5) ++
    [("engine_version", .str "2.0"), ("snapshot_digest", .str materialDigest)])

theorem replay_snapshots_tamper_evident_engine :
    (∃ s, pin_replay_snapshot (sampleLibrary sampleDigests) sampleResult sampleArtifact
      (.str contentDigest) (.str "1.0") (.str "default") = .ok s) ∧
      restore_replay_snapshot (sampleLibrary sampleDigests) tampered =
        .error (.typed .AIReplayIntegrityError) := by
  have hdigest := digest_sample sampleDigests_distinct sampleDigests_admissible
  have hpinned := wellPinned_sample rfl hdigest (by decide +kernel) (by decide +kernel)
  have hsha : Function.Injective (sampleLibrary sampleDigests).sha256 :=
    tabulated_injective (by decide +kernel) (by decide +kernel)
  have hdict := as_dict_eq (s := ⟨_, hpinned.verify⟩) (material_sample hdigest)
  have hrefused := (replay_snapshots_tamper_evident exactText_faithful hsha).2.1 _ _ tampered hdict
  have hkeyed : KeyedOnce tampered := by
    unfold tampered KeyedOnce
    decide
  have hdiffers : sortKeys tampered ≠ sortKeys (.obj (sampleMaterial sampleArtifact
      artifactDigest ++ [("snapshot_digest", .str materialDigest)])) := by
    decide +kernel
  exact ⟨⟨_, hpinned.pin⟩, hrefused hkeyed rfl hdiffers⟩

end Sample

end TrustLens.Ai
