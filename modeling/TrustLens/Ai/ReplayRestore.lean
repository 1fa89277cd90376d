import TrustLens.Ai.ReplayIntegrity

/-!
# Restoring pinned snapshots

A pinned snapshot is restored from its dictionary and from what its text is read as, where
members may stand in another order, except when the digest the dictionary carries besides
the material takes it over the node budget.
-/

namespace TrustLens.Ai

open Json

variable {lib : Library}

/-! ### Configurations -/

def CONFIG_KEYS : List String := REQUIRED ++ "decoding_parameters" :: PINNED.map Prod.fst

def AIConfiguration.entries (c : AIConfiguration) : List (String × Json) :=
  [("config_id", .str c.configId.1), ("provider_adapter_id", .str c.providerAdapterId.1),
    ("provider_adapter_version", .str c.providerAdapterVersion.1), ("model_id", .str c.modelId.1),
    ("model_version", .str c.modelVersion.1), ("decoding_parameters", .obj c.decodingParameters)] ++
    PINNED.map fun (name, expected) => (name, .str expected)

lemma nodup_config_keys (c : AIConfiguration) : (c.entries.map Prod.fst).Nodup :=
  show CONFIG_KEYS.Nodup by decide

lemma decodingAllowed_sortKeys (k : String) (v : Json) :
    decodingAllowed (k, sortKeys v) = decodingAllowed (k, v) := by
  cases v <;> rfl

lemma eq_of_decodingAllowed {k : String} {v w : Json} (h : decodingAllowed (k, v) = true)
    (heq : sortKeys w = sortKeys v) : w = v := by
  cases v with
  | int n => exact eq_int_of_sortKeys heq
  | float x => exact eq_float_of_sortKeys heq
  | null | bool | str | arr | obj => cases h

/-- Parameters in another order pass the checks of a configuration. -/
lemma withParameters_of_sortKeys (c : AIConfiguration) {parameters : Json}
    (h : sortKeys parameters = sortKeys (.obj c.decodingParameters)) :
    ∃ c', AIConfiguration.withParameters c.configId c.providerAdapterId c.providerAdapterVersion
      c.modelId c.modelVersion parameters = .ok c' ∧ sortKeys c'.as_dict = sortKeys c.as_dict := by
  have hbounded := (jsonCopy_congr h).mpr c.bounded
  obtain ⟨es, rfl, hperm⟩ := exists_members_of_sortKeys h
  have hmem : ∀ e ∈ es, ∃ e' ∈ c.decodingParameters, e'.1 = e.1 ∧ sortKeys e'.2 = sortKeys e.2 := by
    intro e he
    rw [sortMembers_eq_map, sortMembers_eq_map] at hperm
    obtain ⟨e', he', heq⟩ := List.mem_map.mp (hperm.subset (List.mem_map_of_mem he))
    exact ⟨e', he', (Prod.mk.inj heq).1, (Prod.mk.inj heq).2⟩
  have hknown : es.all (DECODING.contains ·.1) = true := by
    rw [List.all_eq_true]
    intro e he
    obtain ⟨e', he', hkey, -⟩ := hmem e he
    rw [← hkey]
    exact List.all_eq_true.mp c.known e' he'
  have hallowed : es.all decodingAllowed = true := by
    rw [List.all_eq_true]
    intro e he
    obtain ⟨e', he', hkey, hvalue⟩ := hmem e he
    have h' := List.all_eq_true.mp c.allowed e' he'
    rw [← Prod.eta e, ← hkey, eq_of_decodingAllowed h' hvalue.symm]
    exact h'
  refine ⟨⟨c.configId, c.providerAdapterId, c.providerAdapterVersion, c.modelId, c.modelVersion, es,
    hbounded, hknown, hallowed⟩, ?_, ?_⟩
  · rw [AIConfiguration.withParameters, dif_pos hbounded, dif_pos hknown, dif_pos hallowed]
  · simp only [AIConfiguration.as_dict, List.cons_append, List.nil_append, sortKeys, sortMembers]
    rw [sortKeys, sortKeys] at h
    rw [h]

lemma identifier_self (i : Identifier) : _identifier (.str i.1) = .ok i :=
  identifier_of_isIdentifier i.2

lemma get_pinned (c : AIConfiguration) {entry : String × String} (h : entry ∈ PINNED) :
    (obj c.entries).get entry.1 = .str entry.2 := by
  have hmem : (entry.1, .str entry.2) ∈ c.entries := List.mem_append_right _ (List.mem_map_of_mem h)
  rw [Json.get, get?, (lookup_eq_some_iff (nodup_config_keys c)).mpr hmem, Option.getD_some]

/-- A configuration is made from its dictionary in any order. -/
lemma make_of_sortKeys (c : AIConfiguration) {j : Json} (h : sortKeys j = sortKeys c.as_dict) :
    ∃ c', AIConfiguration.make j = .ok c' ∧ sortKeys c'.as_dict = sortKeys c.as_dict := by
  obtain ⟨es, rfl, hperm, hget⟩ := exists_object_of_sortKeys (nodup_config_keys c) h
  have hmem : ∀ name, name ∈ es.map Prod.fst ↔ name ∈ CONFIG_KEYS := fun _ => hperm.mem_iff
  have hkeywords : keywords (.obj es) = .ok es := by
    refine if_pos (Bool.and_eq_true_iff.mpr ⟨?_, ?_⟩)
    · rw [List.all_eq_true]
      intro e he
      exact List.contains_iff_mem.mpr ((hmem _).mp (List.mem_map_of_mem he))
    · rw [List.all_eq_true]
      intro name hname
      exact isSome_lookup.mpr ((hmem _).mpr (List.mem_append_left _ hname))
  have hfield : ∀ (key : String) {i : Identifier}, (obj c.entries).get key = .str i.1 →
      _identifier ((lookup key es).getD .null) = .ok i := by
    intro key i hkey
    have heq : (obj es).get key = .str i.1 := eq_str_of_sortKeys (by rw [hget, hkey, sortKeys])
    rw [show (lookup key es).getD .null = (obj es).get key from rfl, heq]
    exact identifier_self i
  have hpinned : (PINNED.all fun (name, expected) =>
      (lookup name es).all (· = .str expected)) = true := by
    rw [List.all_eq_true]
    intro entry hentry
    have heq : (obj es).get entry.1 = .str entry.2 := eq_str_of_sortKeys (by
      rw [hget, get_pinned c hentry, sortKeys])
    rw [Option.all_eq_true]
    intro v hv
    rw [Json.get, get?, hv, Option.getD_some] at heq
    exact decide_eq_true heq
  obtain ⟨parameters, hlookup⟩ := Option.isSome_iff_exists.mp
    (isSome_lookup.mpr ((hmem "decoding_parameters").mpr (by decide)))
  have hparameters : sortKeys parameters = sortKeys (.obj c.decodingParameters) := by
    have heq := hget "decoding_parameters"
    rw [Json.get, get?, hlookup, Option.getD_some] at heq
    exact heq
  obtain ⟨c', hc', hsame⟩ := withParameters_of_sortKeys c hparameters
  refine ⟨c', ?_, hsame⟩
  rw [AIConfiguration.make, hkeywords]
  simp only [bind, Except.bind, hfield "config_id" rfl, hpinned, if_true,
    hfield "provider_adapter_id" rfl, hfield "provider_adapter_version" rfl,
    hfield "model_id" rfl, hfield "model_version" rfl, hlookup, Option.getD_some]
  exact hc'

/-! ### Audits -/

lemma item_of_mem {es : List (String × Json)} {key : String} (h : key ∈ es.map Prod.fst) :
    (Py.item (.obj es) key : Run Json) = .ok ((obj es).get key) := by
  obtain ⟨v, hv⟩ := Option.isSome_iff_exists.mp (isSome_lookup.mpr h)
  rw [Py.item, Json.get, get?, hv]
  rfl

def AIExtractionResult.entries (r : AIExtractionResult) (configRef digest : String) :
    List (String × Json) :=
  [("run_id", .str r.runId.1), ("evaluation_id", .str r.evaluationId.1),
    ("config_ref", .str ("ai-config:sha256:" ++ configRef)), ("config", r.config.as_dict),
    ("validated_extraction", r.extraction), ("validated_extraction_digest", .str digest),
    ("governed_artifact_digest", .null), ("response_schema_version", .str AI_EXTRACTION_VERSION),
    ("confidence_policy_version", .str CONFIDENCE_POLICY_VERSION)]

lemma result_as_dict_ok {r : AIExtractionResult} {audit : Json} (h : r.as_dict lib = .ok audit) :
    ∃ configRef digest, canonical_digest lib r.config.as_dict = .ok configRef ∧
      canonical_digest lib r.extraction = .ok digest ∧ audit = .obj (r.entries configRef digest) := by
  obtain ⟨configRef, hconfig, h⟩ := bind_ok h
  obtain ⟨digest, hdigest, h⟩ := bind_ok h
  exact ⟨configRef, digest, hconfig, hdigest, (Except.ok.inj h).symm⟩

/-- An audit and one that was rebuilt from its data. -/
structure SameAudit (r r' : AIExtractionResult) : Prop where
  runId : r'.runId = r.runId
  evaluationId : r'.evaluationId = r.evaluationId
  config : sortKeys r'.config.as_dict = sortKeys r.config.as_dict
  extraction : sortKeys r'.extraction = sortKeys r.extraction

lemma SameAudit.as_dict {r r' : AIExtractionResult} (h : SameAudit r r') {audit : Json}
    (haudit : r.as_dict lib = .ok audit) :
    ∃ audit', r'.as_dict lib = .ok audit' ∧ sortKeys audit' = sortKeys audit := by
  obtain ⟨configRef, digest, hconfig, hdigest, rfl⟩ := result_as_dict_ok haudit
  rw [← canonical_digest_congr h.config] at hconfig
  rw [← canonical_digest_congr h.extraction] at hdigest
  refine ⟨.obj (r'.entries configRef digest), ?_, ?_⟩
  · unfold AIExtractionResult.as_dict
    rw [hconfig, hdigest]
    rfl
  · simp only [AIExtractionResult.entries, sortKeys, sortMembers, h.runId, h.evaluationId, h.config,
      h.extraction]

/-- The sealed audit is rebuilt from the data of its extraction, in any order. -/
lemma new_result_of_sortKeys (r : AIExtractionResult) (config : AIConfiguration) {es : List (String × Json)}
    (h : sortKeys (.obj es) = sortKeys r.extraction) :
    ∃ r', _new_ai_extraction_result (.str r.runId.1) (.str r.evaluationId.1) config
        ⟨(obj es).get "input_id", (obj es).get "observations", (obj es).get "indicators"⟩ = .ok r' ∧
      r'.runId = r.runId ∧ r'.evaluationId = r.evaluationId ∧ r'.config = config ∧
      sortKeys r'.extraction = sortKeys r.extraction := by
  have hnodup : ["input_id", "observations", "indicators"].Nodup := by decide
  obtain ⟨_, heq, -, hget⟩ := exists_object_of_sortKeys (by exact hnodup) h
  cases heq
  have hinput : (obj es).get "input_id" = .str r.inputId.1 :=
    eq_str_of_sortKeys (hget "input_id")
  obtain ⟨observations, hobservations, hsame⟩ := exists_items_of_sortKeys (hget "observations")
  obtain ⟨indicators, hindicators, hsame'⟩ := exists_items_of_sortKeys (hget "indicators")
  have hextraction : sortKeys (extractionDict (.str r.inputId.1) observations indicators) =
      sortKeys r.extraction := by
    simp only [extractionDict, AIExtractionResult.extraction, sortKeys, sortMembers,
      sortItems_eq_map, hsame, hsame']
  have hbounded := (jsonCopy_congr hextraction).mpr r.bounded
  refine ⟨⟨r.runId, r.evaluationId, config, r.inputId, observations, indicators, hbounded⟩, ?_, rfl,
    rfl, rfl, hextraction⟩
  have hinputId : (extractionDict (.str r.inputId.1) observations indicators).get "input_id" =
      .str r.inputId.1 := rfl
  rw [hinput, hobservations, hindicators]
  simp only [_new_ai_extraction_result, identifier_self, Py.iter, copied_of_bounded hbounded, hinputId, bind,
    Except.bind]
  exact dif_pos hbounded

lemma hasKeys_of_perm {es : List (String × Json)} {names : List String}
    (h : (es.map Prod.fst).Perm names) : hasKeys names (.obj es) = true := by
  rw [hasKeys, Bool.and_eq_true, List.all_eq_true, List.all_eq_true]
  constructor
  · intro e he
    exact List.contains_iff_mem.mpr (h.mem_iff.mp (List.mem_map_of_mem he))
  · intro name hname
    exact List.contains_iff_mem.mpr (h.mem_iff.mpr hname)

lemma nodup_audit_keys (r : AIExtractionResult) (configRef digest : String) :
    ((r.entries configRef digest).map Prod.fst).Nodup :=
  show ["run_id", "evaluation_id", "config_ref", "config", "validated_extraction",
    "validated_extraction_digest", "governed_artifact_digest", "response_schema_version",
    "confidence_policy_version"].Nodup by decide

/-- An audit is rebuilt from its data, in any order. -/
lemma restoreAudit_of_sortKeys {r : AIExtractionResult} {configRef digest : String} {j : Json}
    (h : sortKeys j = sortKeys (.obj (r.entries configRef digest))) :
    ∃ r', restoreAudit j = .ok r' ∧ SameAudit r r' := by
  obtain ⟨es, rfl, hperm, hget⟩ :=
    exists_object_of_sortKeys (nodup_audit_keys r configRef digest) h
  have hitem : ∀ key ∈ (r.entries configRef digest).map Prod.fst,
      (Py.item (.obj es) key : Run Json) = .ok ((obj es).get key) := by
    intro key hkey
    exact item_of_mem (hperm.mem_iff.mpr hkey)
  have hrun : (obj es).get "run_id" = .str r.runId.1 := eq_str_of_sortKeys (hget "run_id")
  have hevaluation : (obj es).get "evaluation_id" = .str r.evaluationId.1 :=
    eq_str_of_sortKeys (hget "evaluation_id")
  obtain ⟨config, hmake, hconfig⟩ := make_of_sortKeys r.config (hget "config")
  have hdata : sortKeys ((obj es).get "validated_extraction") = sortKeys r.extraction :=
    hget "validated_extraction"
  have hnodup : ["input_id", "observations", "indicators"].Nodup := by decide
  obtain ⟨data, heq, hkeys, -⟩ := exists_object_of_sortKeys (by exact hnodup) hdata
  rw [heq] at hdata
  obtain ⟨r', hnew, hrunId, hevaluationId, hown, hextraction⟩ :=
    new_result_of_sortKeys r config hdata
  refine ⟨r', ?_, hrunId, hevaluationId, by rw [hown, hconfig], hextraction⟩
  simp only [restoreAudit, hitem "config" (by simp [AIExtractionResult.entries]),
    hitem "validated_extraction" (by simp [AIExtractionResult.entries]),
    hitem "run_id" (by simp [AIExtractionResult.entries]),
    hitem "evaluation_id" (by simp [AIExtractionResult.entries]), bind, Except.bind, hmake, heq,
    hrun, hevaluation]
  exact (if_pos (hasKeys_of_perm hkeys)).trans hnew

/-! ### Snapshots -/

lemma plain_of_isDigest {s : String} (h : isDigest s = true) : plain (.str s) = true := by
  have hsize := utf8ByteSize_ofList_le s.toList
  rw [isDigest, Bool.and_eq_true, beq_iff_eq] at h
  rw [String.ofList_toList, h.1] at hsize
  exact decide_eq_true (Nat.le_trans hsize (by decide))

/-- The dictionary of a snapshot is as plain and as deep as its material. -/
lemma copyable_of_material {m : List (String × Json)} {digest : String}
    (hm : Admissible lib.number (.obj m)) (hdigest : isDigest digest = true) :
    plain (.obj (m ++ [("snapshot_digest", .str digest)])) = true ∧
      height (.obj (m ++ [("snapshot_digest", .str digest)])) ≤ MAX_DEPTH ∧
      writable (.obj (m ++ [("snapshot_digest", .str digest)])) = true := by
  refine ⟨plainMembers_iff.mpr ?_, memberHeight_le.mpr ?_, writableMembers_iff.mpr ?_⟩
  · rw [List.forall_mem_append, List.forall_mem_singleton]
    exact ⟨plainMembers_iff.mp hm.isPlain, (by decide : "snapshot_digest".utf8ByteSize ≤ _),
      plain_of_isDigest hdigest⟩
  · rw [List.forall_mem_append, List.forall_mem_singleton]
    exact ⟨memberHeight_le.mp hm.depth, (by decide : 0 + 1 ≤ MAX_DEPTH)⟩
  · rw [List.forall_mem_append, List.forall_mem_singleton]
    exact ⟨writableMembers_iff.mp hm.numbers, rfl⟩

/-- A snapshot restored from a document: it has the dictionary, the artifact and the digests
of the pinned one. -/
def RestoresFrom (s : AIReplaySnapshot lib) (j : Json) : Prop :=
  ∃ s' d d', restore_replay_snapshot lib j = .ok s' ∧ s.as_dict = .ok d ∧ s'.as_dict = .ok d' ∧
    sortKeys d' = sortKeys d ∧ sortKeys s'.governedArtifact = sortKeys s.governedArtifact ∧
    canonical_digest lib s'.governedArtifact = canonical_digest lib s.governedArtifact ∧
    s'.contentDigest = s.contentDigest ∧ s'.snapshotDigest = s.snapshotDigest

lemma restore_of_restoring {j : Json} {s : AIReplaySnapshot lib} (h : restoring lib j = .ok s) :
    restore_replay_snapshot lib j = .ok s := by
  rw [restore_replay_snapshot, h]

lemma isObj_of_sortKeys {a b : Json} (h : sortKeys a = sortKeys b) (hb : b.isObj = true) :
    a.isObj = true := by
  cases b with
  | obj es =>
    obtain ⟨es', rfl, -⟩ := exists_members_of_sortKeys h
    rfl
  | null | bool | int | float | str | arr => cases hb

lemma exists_str_of_identifier {j : Json} (h : ∃ i, _identifier j = .ok i) : ∃ t, j = .str t := by
  obtain ⟨i, h⟩ := h
  cases j with
  | str t => exact ⟨t, rfl⟩
  | null | bool | int | float | arr | obj => cases h

lemma eq_of_exists_str {j v : Json} (h : sortKeys j = sortKeys v) (hv : ∃ t, v = .str t) : j = v := by
  obtain ⟨t, rfl⟩ := hv
  exact eq_str_of_sortKeys h

/-- The material of a snapshot, with another audit and another artifact. -/
def Fields.withData (f : Fields) (r : AIExtractionResult) (artifact : Json) : Fields :=
  { f with extractionResult := r, governedArtifact := artifact }

lemma withData_material {f : Fields} {r : AIExtractionResult} {artifact : Json}
    (hr : SameAudit f.extractionResult r) (ha : sortKeys artifact = sortKeys f.governedArtifact)
    {m : List (String × Json)} (hm : f._material lib = .ok m) :
    ∃ m', (f.withData r artifact)._material lib = .ok m' ∧
      m'.map (fun e => (e.1, sortKeys e.2)) = m.map fun e => (e.1, sortKeys e.2) := by
  obtain ⟨audit, d, haudit, hd, rfl⟩ := material_ok hm
  obtain ⟨audit', haudit', hsame⟩ := hr.as_dict haudit
  rw [← canonical_digest_congr ha] at hd
  obtain ⟨t, ht, -⟩ := canonical_digest_ok hd
  refine ⟨[("snapshot_version", .str "1.0.0"), ("extraction_result", audit'),
    ("governed_artifact", artifact), ("governed_artifact_digest", .str d),
    ("content_digest", f.contentDigest), ("engine_version", f.engineVersion),
    ("profile", f.profile)], ?_, ?_⟩
  · simp only [Fields._material, Fields.withData, haudit', copied_of_canonical ht, hd, bind,
      Except.bind]
  · simp only [List.map_cons, List.map_nil, hsame, ha]

lemma sortKeys_of_members {m m' : List (String × Json)} (tail : List (String × Json))
    (h : m'.map (fun e => (e.1, sortKeys e.2)) = m.map fun e => (e.1, sortKeys e.2)) :
    sortKeys (.obj (m' ++ tail)) = sortKeys (.obj (m ++ tail)) := by
  rw [sortKeys, sortKeys, sortMembers_eq_map, sortMembers_eq_map, List.map_append, List.map_append,
    h]

lemma withData_wellPinned {f : Fields} (hf : WellPinned lib f) {r : AIExtractionResult}
    {artifact : Json} (hr : SameAudit f.extractionResult r)
    (ha : sortKeys artifact = sortKeys f.governedArtifact) :
    WellPinned lib (f.withData r artifact) := by
  obtain ⟨m, d, hm, hd, hown⟩ := hf.material
  obtain ⟨m', hm', hmembers⟩ := withData_material hr ha hm
  have hsame : sortKeys (.obj m') = sortKeys (.obj m) := by
    simpa only [List.append_nil] using sortKeys_of_members [] hmembers
  refine ⟨⟨?_, hf.contentDigest, hf.snapshotDigest, hf.engineVersion, hf.profile, ?_, ?_⟩, ?_⟩
  · rw [isSealed, show (f.withData r artifact).extractionResult = r from rfl,
      canonical_digest_congr hr.extraction]
    exact hf.sealed
  · obtain ⟨a, ha', hdigest⟩ := hf.artifactDigest
    exact ⟨a, (canonical_digest_congr ha).trans ha', hdigest⟩
  · exact ⟨m', d, hm', (canonical_digest_congr hsame).trans hd, hown⟩
  · exact isObj_of_sortKeys ha hf.isObj

/-- A document that differs from the dictionary of a pinned snapshot in the order of members at
most is restored, if it is within the node budget. -/
theorem restoresFrom_of_sortKeys {s : AIReplaySnapshot lib} (hpinned : WellPinned lib s.toFields)
    {d j : Json} (hd : s.as_dict = .ok d) (h : sortKeys j = sortKeys d)
    (hcopy : jsonCopy d 0 NODE_BUDGET ≠ none) : RestoresFrom s j := by
  obtain ⟨m, digest, hm, hdigest, hs⟩ := hpinned.material
  obtain ⟨audit, a, haudit, ha, rfl⟩ := material_ok hm
  obtain ⟨configRef, extraction, -, -, rfl⟩ := result_as_dict_ok haudit
  cases (as_dict_eq hm).symm.trans hd
  have hcopied := copied_of_bounded ((jsonCopy_congr h).mpr hcopy)
  have hnodup : SNAPSHOT_KEYS.Nodup := by decide
  obtain ⟨es, rfl, hperm, hget⟩ := exists_object_of_sortKeys (by exact hnodup) h
  -- the audit is rebuilt and has the canonical text it came with
  obtain ⟨r, hrestored, hsame⟩ := restoreAudit_of_sortKeys (hget "extraction_result")
  obtain ⟨audit', haudit', hauditSame⟩ := hsame.as_dict haudit
  obtain ⟨_, htext, -⟩ := canonical_digest_ok hdigest
  have hauditText := canonicalJson_eq_some.mpr
    ⟨(canonicalJson_eq_some.mp htext).1.member (List.mem_cons_of_mem _ List.mem_cons_self), rfl⟩
  have hrebuilt := canonical_json_ok.mpr ((canonicalJson_congr hauditSame).trans hauditText)
  have hgiven := canonical_json_ok.mpr
    ((canonicalJson_congr (hget "extraction_result")).trans hauditText)
  -- the other fields are what they were
  have hversion : (obj es).get "snapshot_version" = .str "1.0.0" :=
    eq_str_of_sortKeys (hget "snapshot_version")
  have hartifact : sortKeys ((obj es).get "governed_artifact") = sortKeys s.governedArtifact :=
    hget "governed_artifact"
  have hartifactDigest : (obj es).get "governed_artifact_digest" = .str a :=
    eq_str_of_sortKeys (hget "governed_artifact_digest")
  have hcontent : (obj es).get "content_digest" = s.contentDigest := by
    obtain ⟨c, hc, -⟩ := isDigest_of_digest hpinned.contentDigest
    exact eq_of_exists_str (hget "content_digest") ⟨c, hc⟩
  have hengine : (obj es).get "engine_version" = s.engineVersion :=
    eq_of_exists_str (hget "engine_version") (exists_str_of_identifier hpinned.engineVersion)
  have hprofile : (obj es).get "profile" = s.profile :=
    eq_of_exists_str (hget "profile") (exists_str_of_identifier hpinned.profile)
  have hsnapshot : (obj es).get "snapshot_digest" = s.snapshotDigest :=
    eq_of_exists_str (hget "snapshot_digest") ⟨digest, hs⟩
  have hwell := withData_wellPinned hpinned hsame hartifact
  have hrestoring : restoring lib (obj es) =
      .ok ⟨s.toFields.withData r ((obj es).get "governed_artifact"), hwell.verify⟩ := by
    have hkeys : hasKeys SNAPSHOT_KEYS (obj es) = true := hasKeys_of_perm hperm
    rw [← hwell.make]
    simp only [restoring, hcopied, hkeys, hversion, hrestored, haudit', hrebuilt,
      hgiven, (canonical_digest_congr hartifact).trans ha, hartifactDigest, hcontent, hengine,
      hprofile, hsnapshot, bind, Except.bind]
    rfl
  obtain ⟨m', hm', hmembers⟩ := withData_material hsame hartifact hm
  exact ⟨_, _, _, restore_of_restoring hrestoring, hd, as_dict_eq hm', sortKeys_of_members _ hmembers,
    hartifact, canonical_digest_congr hartifact, rfl, rfl⟩

lemma pin_ok {result : AIExtractionResult} {artifact content engine profile : Json}
    {s : AIReplaySnapshot lib}
    (h : pin_replay_snapshot lib result artifact content engine profile = .ok s) :
    s.extractionResult = result ∧ s.governedArtifact = artifact ∧ artifact.isObj = true := by
  unfold pin_replay_snapshot at h
  split at h
  · obtain ⟨copy, hcopy, hrun⟩ := bind_ok h
    obtain ⟨rfl, -⟩ := copied_ok hcopy
    split at hrun
    · rename_i hobj
      obtain ⟨_, -, hrun⟩ := bind_ok hrun
      obtain ⟨_, -, hrun⟩ := bind_ok hrun
      obtain ⟨_, -, hrun⟩ := bind_ok hrun
      rw [snapshot_make_ok hrun]
      exact ⟨rfl, rfl, hobj⟩
    · cases hrun
  · cases h

/-- The nodes of a snapshot's dictionary besides those of its three variable parts. -/
def FRAME : ℕ := 57

lemma nodes_as_dict {s : AIReplaySnapshot lib} {d : Json} (h : s.as_dict = .ok d) :
    nodes d = memberNodes s.extractionResult.config.decodingParameters +
      nodes s.extractionResult.extraction + nodes s.governedArtifact + FRAME := by
  obtain ⟨m, digest, hm, -, hs⟩ := exists_material s
  obtain ⟨audit, a, haudit, -, rfl⟩ := material_ok hm
  obtain ⟨configRef, extraction, -, -, rfl⟩ := result_as_dict_ok haudit
  cases (as_dict_eq hm).symm.trans h
  have hchecked := verify_ok_iff.mp s.verified
  obtain ⟨c, hc, -⟩ := isDigest_of_digest hchecked.contentDigest
  obtain ⟨e, he⟩ := exists_str_of_identifier hchecked.engineVersion
  obtain ⟨p, hp⟩ := exists_str_of_identifier hchecked.profile
  simp only [hs, hc, he, hp, AIExtractionResult.entries, AIConfiguration.as_dict, PINNED, List.map_cons,
    List.map_nil, List.cons_append, List.nil_append, nodes, memberNodes, FRAME]
  omega

/-- A snapshot is restored from its dictionary, and from every document that the dictionary's
canonical text is the text of if that text is not too long. -/
def Restores (s : AIReplaySnapshot lib) : Prop :=
  ∃ d, s.as_dict = .ok d ∧ RestoresFrom s d ∧
    ((dumps lib.number d).utf8ByteSize ≤ MAX_CANONICAL_BYTES → ∃ t, canonical_json lib d = .ok t ∧
      ∀ j, j.isFinite = true → dumps lib.number j = t → RestoresFrom s j)

lemma fits_of_restores {s : AIReplaySnapshot lib} (h : Restores s) :
    memberNodes s.extractionResult.config.decodingParameters +
      nodes s.extractionResult.extraction + nodes s.governedArtifact + FRAME ≤ NODE_BUDGET := by
  obtain ⟨d, hd, ⟨s', -, -, hrestore, -⟩, -⟩ := h
  obtain ⟨copy, hcopy, -⟩ := bind_ok (restore_ok hrestore)
  have hbudget := (jsonCopy_ne_none.mp (copied_ok hcopy).2).2.2
  rwa [nodes_as_dict hd] at hbudget

/-- A pinned snapshot is restored exactly when the digest that its dictionary carries leaves the
dictionary within the node budget. -/
theorem replay_snapshots_restore_iff (hn : FaithfulNumbers lib.number) {result : AIExtractionResult}
    {artifact content engine profile : Json} {s : AIReplaySnapshot lib}
    (h : pin_replay_snapshot lib result artifact content engine profile = .ok s) :
    Restores s ↔ memberNodes result.config.decodingParameters + nodes result.extraction +
      nodes artifact + FRAME ≤ NODE_BUDGET := by
  obtain ⟨rfl, rfl, hobj⟩ := pin_ok h
  have hpinned : WellPinned lib s.toFields := ⟨verify_ok_iff.mp s.verified, hobj⟩
  constructor
  · exact fits_of_restores
  · intro hfits
    obtain ⟨m, digest, hm, hdigest, hs⟩ := hpinned.material
    have hd := as_dict_eq hm
    obtain ⟨text, htext, -⟩ := canonical_digest_ok hdigest
    have hsnapshot : isDigest digest = true := by
      obtain ⟨t, ht, hisDigest⟩ := isDigest_of_digest hpinned.snapshotDigest
      rw [hs, str.injEq] at ht
      rwa [ht]
    rw [hs] at hd
    obtain ⟨hplain, hheight, hwritable⟩ :=
      copyable_of_material (canonicalJson_eq_some.mp htext).1 hsnapshot
    have hnodes : nodes (.obj (m ++ [("snapshot_digest", .str digest)])) ≤ NODE_BUDGET := by
      rwa [nodes_as_dict hd]
    have hcopy := jsonCopy_ne_none.mpr ⟨hplain, hheight, hnodes⟩
    refine ⟨_, hd, restoresFrom_of_sortKeys hpinned hd rfl hcopy, ?_⟩
    intro hsize
    have hadm : Admissible lib.number (.obj (m ++ [("snapshot_digest", .str digest)])) :=
      ⟨hplain, hheight, hnodes, hwritable, hsize⟩
    refine ⟨_, canonical_json_ok.mpr (canonicalJson_eq_some.mpr ⟨hadm, rfl⟩), ?_⟩
    intro j hfinite htext'
    have hsame := sortKeys_eq_of_dumps hn hfinite (isFinite_of_plain _ hplain) htext'
    exact restoresFrom_of_sortKeys hpinned hd hsame hcopy

section Sample

/-- The sample's pinned snapshot is restored. -/
theorem replay_snapshots_restore_small :
    ∃ s, pin_replay_snapshot (sampleLibrary sampleDigests) sampleResult sampleArtifact
      (.str contentDigest) (.str "1.0") (.str "default") = .ok s ∧ Restores s := by
  have hdigest := digest_sample sampleDigests_distinct sampleDigests_admissible
  have hpinned := wellPinned_sample rfl hdigest (by decide +kernel) (by decide +kernel)
  exact ⟨_, hpinned.pin, (replay_snapshots_restore_iff exactText_faithful hpinned.pin).mpr
    (by decide +kernel)⟩

/-- An artifact that takes the material to the budget. -/
def fullArtifact (n : ℕ) : Json := .obj [("a", .arr (List.replicate n .null))]

lemma full_items (n : ℕ) : plainItems (List.replicate n .null) = true ∧
    itemHeight (List.replicate n .null) ≤ 1 ∧ itemNodes (List.replicate n .null) = n ∧
    writableItems (List.replicate n .null) = true ∧
    itemsBound exactText (List.replicate n .null) = 5 * n := by
  induction n with
  | zero => exact ⟨rfl, Nat.zero_le _, rfl, rfl, rfl⟩
  | succ n ih =>
    obtain ⟨hplain, hheight, hnodes, hwritable, hsize⟩ := ih
    rw [List.replicate_succ]
    refine ⟨?_, ?_, ?_, ?_, ?_⟩
    · rw [plainItems, hplain]
      rfl
    · rw [itemHeight]
      exact Nat.max_le.mpr ⟨Nat.le_refl 1, hheight⟩
    · rw [itemNodes, hnodes, show nodes .null = 1 from rfl]
      omega
    · rw [writableItems, hwritable]
      rfl
    · rw [itemsBound, hsize, textBound]
      omega

lemma fullArtifact_bounds (n : ℕ) : plain (fullArtifact n) = true ∧ height (fullArtifact n) ≤ 2 ∧
    nodes (fullArtifact n) = n + 3 ∧ writable (fullArtifact n) = true ∧
    textBound exactText (fullArtifact n) = 5 * n + 62 := by
  obtain ⟨hplain, hheight, hnodes, hwritable, hsize⟩ := full_items n
  refine ⟨?_, ?_, ?_, ?_, ?_⟩
  · simp only [fullArtifact, plain, plainMembers, hplain]
    decide
  · simp only [fullArtifact, height, memberHeight]
    omega
  · simp only [fullArtifact, nodes, memberNodes, hnodes]
    omega
  · simp only [fullArtifact, writable, writableMembers, hwritable, Bool.and_self]
  · have hkey : "a".utf8ByteSize = 1 := rfl
    simp only [fullArtifact, textBound, membersBound, hsize, hkey]
    omega

def fullDigest : String := "217095477b4c6398f37963f79c995528235f7ead8f5bab0e766933705c803865"

def fullMaterialDigest : String :=
  "91ace90b2917dc9e4f2653d25ca1c55fb0b14750cef1896d9d6c4b8947c9ac0c"

lemma material_size {n bound rest null full : ℕ} (hexchange : bound + null = rest + full)
    (hrest : rest ≤ 90000) (hnull : null = 4) (hfull : full = 5 * n + 62) :
    bound + 2 ≤ 5 * n + 100000 := by omega

lemma fullMaterial_bounds (n : ℕ) :
    plain (.obj (sampleMaterial (fullArtifact n) fullDigest)) = true ∧
      height (.obj (sampleMaterial (fullArtifact n) fullDigest)) ≤ 6 ∧
      nodes (.obj (sampleMaterial (fullArtifact n) fullDigest)) = n + 65 ∧
      writable (.obj (sampleMaterial (fullArtifact n) fullDigest)) = true ∧
      textBound exactText (.obj (sampleMaterial (fullArtifact n) fullDigest)) ≤
        5 * n + 100000 := by
  obtain ⟨hplain, hheight, hnodes, hwritable, hsize⟩ := fullArtifact_bounds n
  have haudit : plain sampleAudit = true ∧ height sampleAudit ≤ 5 ∧ nodes sampleAudit = 49 ∧
      writable sampleAudit = true ∧ textBound exactText sampleAudit ≤ 40000 := by
    decide +kernel
  obtain ⟨hplain', hheight', hnodes', hwritable', hsize'⟩ := haudit
  refine ⟨?_, ?_, ?_, ?_, ?_⟩
  · simp only [sampleMaterial, plain, plainMembers, hplain, hplain']
    decide +kernel
  · simp only [sampleMaterial, height, memberHeight]
    omega
  · simp only [sampleMaterial, nodes, memberNodes, hnodes, hnodes']
    omega
  · simp only [sampleMaterial, writable, writableMembers, hwritable, hwritable', Bool.and_self]
  · have hexchange : membersBound exactText (sampleMaterial (fullArtifact n) fullDigest) +
        textBound exactText .null = membersBound exactText (sampleMaterial .null fullDigest) +
        textBound exactText (fullArtifact n) :=
      membersBound_exchange ((sampleMaterial .null fullDigest).take 2)
        ((sampleMaterial .null fullDigest).drop 3) "governed_artifact" (fullArtifact n) .null
    have hrest : membersBound exactText (sampleMaterial .null fullDigest) ≤ 90000 := by
      decide +kernel
    have hnull : textBound exactText .null = 4 := rfl
    rw [textBound]
    exact material_size hexchange hrest hnull hsize

/-- A material of exactly as many nodes as the budget has. -/
def fullDigests : List (Json × String) :=
  sampleTable (fullArtifact 99935) fullDigest fullMaterialDigest

lemma fullDigests_admissible : ∀ e ∈ fullDigests, Admissible exactText e.1 := by
  obtain ⟨hplain, hheight, hnodes, hwritable, hsize⟩ := fullArtifact_bounds 99935
  obtain ⟨hplain', hheight', hnodes', hwritable', hsize'⟩ := fullMaterial_bounds 99935
  have hbytes : 600000 ≤ MAX_CANONICAL_BYTES := by decide
  have hsmall : ∀ e ∈ sampleDigests.take 2, Admissible exactText e.1 := fun e he =>
    sampleDigests_admissible e (List.mem_of_mem_take he)
  intro e he
  rcases List.mem_cons.mp he with rfl | he
  · exact hsmall _ List.mem_cons_self
  rcases List.mem_cons.mp he with rfl | he
  · exact hsmall _ (List.mem_cons_of_mem _ List.mem_cons_self)
  rcases List.mem_cons.mp he with rfl | he
  · exact admissible_of_textBound hplain (Nat.le_trans hheight (by decide))
      (Nat.le_trans (Nat.le_of_eq hnodes) (by decide)) hwritable
      (Nat.le_trans (Nat.le_of_eq hsize) (by decide))
  · rw [List.mem_singleton.mp he]
    exact admissible_of_textBound hplain' (Nat.le_trans hheight' (by decide))
      (Nat.le_of_eq hnodes') hwritable' (Nat.le_trans hsize' (by omega))

/-- The last two nodes of the budget can be pinned but not restored. -/
theorem replay_snapshots_unrestorable :
    ∃ s, pin_replay_snapshot (sampleLibrary fullDigests) sampleResult (fullArtifact 99935)
      (.str contentDigest) (.str "1.0") (.str "default") = .ok s ∧ ¬Restores s := by
  obtain ⟨-, -, hartifact, -, -⟩ := fullArtifact_bounds 99935
  obtain ⟨-, -, hmaterial, -, -⟩ := fullMaterial_bounds 99935
  have hnodes : fullDigests.map (fun e => nodes e.1) = [25, 7, 99938, 100000] := by
    simp only [fullDigests, sampleTable, List.map_cons, List.map_nil, hartifact, hmaterial]
    rfl
  have hdistinct : fullDigests.Pairwise fun a b => sortKeys a.1 ≠ sortKeys b.1 := by
    refine distinct_of_nodes ((List.pairwise_map (R := (· ≠ ·))).mp ?_)
    rw [hnodes]
    decide
  have hdigest := digest_sample hdistinct fullDigests_admissible
  have hpinned := wellPinned_sample rfl hdigest (by decide +kernel) (by decide +kernel)
  obtain ⟨s, hs⟩ : ∃ s, pin_replay_snapshot (sampleLibrary fullDigests) sampleResult
      (fullArtifact 99935) (.str contentDigest) (.str "1.0") (.str "default") = .ok s :=
    ⟨_, hpinned.pin⟩
  refine ⟨s, hs, fun h => ?_⟩
  have hfits := fits_of_restores h
  obtain ⟨hresult, hgoverned, -⟩ := pin_ok hs
  rw [hresult, hgoverned, hartifact] at hfits
  exact absurd hfits (by decide)

end Sample

end TrustLens.Ai
