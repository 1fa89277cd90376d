import TrustLens.Loader.CheckedManifest

/-!
# Which errors a load raises

A load returns the knowledge or raises an error of the loader, except where a value that
no earlier step checked is read: what a library raises on a member, the two schemas read
for their versions, a lifecycle, a condition, and the source ids a set is asked for.
-/

namespace TrustLens.Loader

variable {lib : Libraries} {dir : Directory} {m : Manifest} {verified : List (String × ByteArray)}
  {rel name : String} {schema d : Json} {c : Components}

/-! ### Parsing the members -/

/-- The bytes of a member are decoded, or the fault is one the loader maps. -/
def MemberTyped (lib : Libraries) (verified : List (String × ByteArray)) (rel : String) : Prop :=
  ∀ data, verifiedBytes verified rel = .ok data → ∀ e, lib.loads data ≠ .error (.other e)

/-- A rule is decoded, and the validator of its schema raises nothing. -/
structure RuleTyped (lib : Libraries) (verified : List (String × ByteArray)) (schema : Json)
    (rel : String) : Prop where
  decoded : MemberTyped lib verified rel
  conforms : ∀ rule, member lib verified rel = .ok rule → ∀ e, lib.conforms schema rule ≠ .error e

lemma not_escapes_member (h : ∃ data, verifiedBytes verified rel = .ok data) :
    ¬Escapes (member lib verified rel) ↔ MemberTyped lib verified rel := by
  obtain ⟨data, hdata⟩ := h
  unfold member MemberTyped
  rw [hdata]
  dsimp only [bind, Except.bind]
  split
  next hloads =>
    refine iff_of_true escapes_ok fun _ hd e he => ?_
    cases hd
    rw [hloads] at he
    cases he
  next hloads =>
    refine iff_of_true not_escapes_fail fun _ hd e he => ?_
    cases hd
    rw [hloads] at he
    cases he
  next e hloads =>
    exact iff_of_false (not_not_intro escapes_escaped) fun h => h data rfl e hloads

lemma not_escapes_loadRule (h : ∃ data, verifiedBytes verified rel = .ok data) :
    ¬Escapes (loadRule lib verified schema rel) ↔ RuleTyped lib verified schema rel := by
  unfold loadRule
  rw [escapes_bind, not_or, not_escapes_member h]
  constructor
  · rintro ⟨hmember, hconforms⟩
    refine ⟨hmember, fun rule hrule e he => hconforms ⟨rule, hrule, ?_⟩⟩
    rw [he]
    exact escapes_escaped
  · rintro ⟨hmember, hconforms⟩
    refine ⟨hmember, ?_⟩
    rintro ⟨rule, hrule, hescapes⟩
    split at hescapes
    · exact escapes_ok hescapes
    · exact not_escapes_fail hescapes
    next e he => exact hconforms rule hrule e he

lemma not_escapes_checkExtractionSchema : ¬Escapes (checkExtractionSchema lib verified rel) := by
  unfold checkExtractionSchema
  split
  · split_ifs
    · exact escapes_ok
    · exact not_escapes_fail
  · exact escapes_typed
  · exact not_escapes_fail

lemma member_of_checkExtractionSchema (h : checkExtractionSchema lib verified rel = .ok ()) :
    ∃ j, member lib verified rel = .ok j := by
  unfold checkExtractionSchema at h
  split at h
  next j hj => exact ⟨j, hj⟩
  · cases h
  · cases h

/-- The component members, in the order they are parsed. -/
def componentMembers (wp6 : Bool) : List String :=
  [registryMember, familiesMember, negativesMember, taxonomyMember, dimensionsMember, sourcesMember,
    evidenceMember] ++ if wp6 then [actionPolicyMember] else []

/-- The schemas of the bundle pass their checks. -/
structure SchemasPass (lib : Libraries) (verified : List (String × ByteArray)) (schema : Json) :
    Prop where
  ruleSchema : member lib verified ruleSchemaMember = .ok schema
  valid : lib.checkSchema schema = true
  extraction : extractionSchemaMembers.forM (checkExtractionSchema lib verified) = .ok ()

/-- Every member that is reached is parsed without an exception of a library. -/
structure MembersTyped (lib : Libraries) (m : Manifest) (verified : List (String × ByteArray)) :
    Prop where
  ruleSchema : MemberTyped lib verified ruleSchemaMember
  rules : ∀ schema, SchemasPass lib verified schema →
    InOrder (loadRule lib verified schema) (RuleTyped lib verified schema) (rulePaths m.paths)
  components : ∀ schema rules, SchemasPass lib verified schema →
    (rulePaths m.paths).mapM (loadRule lib verified schema) = .ok rules →
    InOrder (member lib verified) (MemberTyped lib verified) (componentMembers m.wp6)

lemma mem_of_mem_rulePaths {paths : List String} (h : rel ∈ rulePaths paths) : rel ∈ paths :=
  List.mem_of_mem_filter ((List.perm_insertionSort _ _).mem_iff.mp h)

lemma not_escapes_parseMembers (h : Verified lib dir m verified) :
    ¬Escapes (parseMembers lib m.paths m.wp6 verified) ↔ MembersTyped lib m verified := by
  have hbytes {rel : String} (hrel : rel ∈ requiredMembers) :
      ¬Escapes (member lib verified rel) ↔ MemberTyped lib verified rel :=
    not_escapes_member (h.exists_bytes (mem_paths_of_checkRequired h.required (Or.inl hrel)))
  have hpolicy (hwp6 : m.wp6 = true) :
      ¬Escapes (member lib verified actionPolicyMember) ↔
        MemberTyped lib verified actionPolicyMember :=
    not_escapes_member
      (h.exists_bytes (mem_paths_of_checkRequired h.required (Or.inr ⟨hwp6, rfl⟩)))
  have hcomponents (schema : Json) (rules : List Json) : ¬Escapes (do
      let registry ← member lib verified registryMember
      let families ← member lib verified familiesMember
      let negatives ← member lib verified negativesMember
      let taxonomy ← member lib verified taxonomyMember
      let dimensions ← member lib verified dimensionsMember
      let sources ← member lib verified sourcesMember
      let evidence ← member lib verified evidenceMember
      let policy ← if m.wp6 then member lib verified actionPolicyMember else .ok noPolicy
      return (schema, (⟨rules, registry, families, negatives, taxonomy, dimensions, sources,
        evidence, policy⟩ : Components))) ↔
      InOrder (member lib verified) (MemberTyped lib verified) (componentMembers m.wp6) := by
    unfold componentMembers
    refine not_escapes_step (hbytes (by decide)) fun _ _ => ?_
    refine not_escapes_step (hbytes (by decide)) fun _ _ => ?_
    refine not_escapes_step (hbytes (by decide)) fun _ _ => ?_
    refine not_escapes_step (hbytes (by decide)) fun _ _ => ?_
    refine not_escapes_step (hbytes (by decide)) fun _ _ => ?_
    refine not_escapes_step (hbytes (by decide)) fun _ _ => ?_
    refine not_escapes_step (hbytes (by decide)) fun _ _ => ?_
    cases hwp6 : m.wp6 with
    | true => exact not_escapes_step (hpolicy hwp6) fun _ _ => iff_of_true escapes_ok trivial
    | false => exact iff_of_true escapes_ok trivial
  have hrules (schema : Json) :
      ¬Escapes ((rulePaths m.paths).mapM (loadRule lib verified schema)) ↔
        InOrder (loadRule lib verified schema) (RuleTyped lib verified schema) (rulePaths m.paths) :=
    not_escapes_mapM_iff fun _ hrel =>
      not_escapes_loadRule (h.exists_bytes (mem_of_mem_rulePaths hrel))
  unfold parseMembers
  rw [not_escapes_bind_iff, hbytes (by decide)]
  constructor
  · rintro ⟨hschema, hrest⟩
    have hreached (schema : Json) (hs : SchemasPass lib verified schema) := by
      have hrest := hrest schema hs.ruleSchema
      rw [if_neg (by simp [hs.valid]), hs.extraction] at hrest
      change ¬Escapes ((rulePaths m.paths).mapM (loadRule lib verified schema) >>= _) at hrest
      exact not_escapes_bind_iff.mp hrest
    exact {
      ruleSchema := hschema
      rules := fun schema hs => (hrules schema).mp (hreached schema hs).1
      components := fun schema rules hs hr =>
        (hcomponents schema rules).mp ((hreached schema hs).2 rules hr) }
  · intro ht
    refine ⟨ht.ruleSchema, fun schema hschema => not_escapes_guard fun hvalid => ?_⟩
    refine not_escapes_bind (not_escapes_forM fun _ _ => not_escapes_checkExtractionSchema)
      fun _ hextraction => ?_
    have hs : SchemasPass lib verified schema := ⟨hschema, by simpa using hvalid, hextraction⟩
    exact not_escapes_bind_iff.mpr ⟨(hrules schema).mpr (ht.rules schema hs),
      fun rules hr => (hcomponents schema rules).mpr (ht.components schema rules hs hr)⟩

/-! ### The versions -/

/-- A schema whose properties and whose version property are objects, as far as they are there. -/
structure Versioned (name : String) (schema : Json) : Prop where
  isObj : schema.isObj = true
  properties : ∀ p, schema.get? "properties" = some p → p.isObj = true ∧
    ∀ v, p.get? name = some v → v.isObj = true

lemma reads_constVersion : Reads (Versioned name d) (constVersion name d) := by
  unfold constVersion
  cases hobj : d.isObj with
  | false =>
    refine ⟨fun h => ?_, fun _ => escapes_bind.mpr (Or.inl (Py.escapes_getD.mpr hobj))⟩
    rw [h.isObj] at hobj
    cases hobj
  | true =>
    rw [Py.getD_of_isObj hobj]
    show Reads _ (Py.getD ((d.get? "properties").getD (.obj [])) name (.obj []) >>=
      fun v => Py.getD v "const" .null)
    cases hp : d.get? "properties" with
    | none => exact (Reads.of_ok rfl).congr (iff_of_true trivial ⟨hobj, by simp [hp]⟩)
    | some p =>
      cases hpobj : p.isObj with
      | false =>
        refine ⟨fun h => ?_, fun _ => escapes_bind.mpr (Or.inl (Py.escapes_getD.mpr hpobj))⟩
        rw [(h.properties p hp).1] at hpobj
        cases hpobj
      | true =>
        rw [Option.getD_some, Py.getD_of_isObj hpobj]
        refine Reads.of_eq rfl ((Py.reads_getD .null).congr ?_)
        constructor
        · intro hv
          refine ⟨hobj, fun p' hp' => ?_⟩
          obtain rfl := Option.some.inj (hp.symm.trans hp')
          exact ⟨hpobj, fun v hname => by simpa [hname] using hv⟩
        · intro h
          cases hname : p.get? name with
          | none => rfl
          | some v => exact (h.properties p hp).2 v hname

/-- A version that is read is compared with a pin that is there. -/
lemma not_escapes_checkVersion {floatText : PyFloat → String} {version : Load Json}
    (hpin : ∃ v, Json.lookup name m.componentVersions = some v) (hversion : ¬Escapes version) :
    ¬Escapes (checkVersion floatText m (name, version)) := by
  unfold checkVersion
  by_cases hskip : name = "action_policy" ∧ m.wp6 = false
  · rw [if_pos hskip]
    exact escapes_ok
  · rw [if_neg hskip]
    obtain ⟨v, hv⟩ := hpin
    refine not_escapes_bind hversion fun embedded _ => not_escapes_guard fun _ => ?_
    have hitem : (Py.item (.obj m.componentVersions) name : Load Json) = .ok v := Py.item_of_get? hv
    rw [hitem]
    exact not_escapes_guard fun _ => escapes_ok

lemma escapes_checkVersion {floatText : PyFloat → String} {version : Load Json}
    (hname : name ≠ "action_policy") (h : Escapes version) :
    Escapes (checkVersion floatText m (name, version)) := by
  unfold checkVersion
  rw [if_neg fun hskip => hname hskip.1]
  exact escapes_bind.mpr (Or.inl h)

lemma not_escapes_getD {key : String} (h : d.isObj = true) :
    ¬Escapes (Py.getD d key .null : Load Json) := (Py.reads_getD .null).not_escapes_iff.mpr h

lemma not_escapes_evidenceVersion (h : d.isObj = true) : ¬Escapes (evidenceVersion d) := by
  unfold evidenceVersion
  rw [Py.getD_null h "version"]
  exact (Py.reads_getD _).not_escapes_iff.mpr h

/-- The two schemas are read for their versions where the checks before them pass. -/
structure VersionsReadable (lib : Libraries) (m : Manifest) (schema envelope : Json) (c : Components) :
    Prop where
  ruleSchema : Versioned "schema_version" schema
  envelope : ((embeddedVersions schema envelope c).take 8).forM (checkVersion lib.floatText m) = .ok () →
    Versioned "envelope_version" envelope

lemma not_escapes_forM_append {xs ys : List (String × Load Json)} {f : String × Load Json → Load Unit} :
    ¬Escapes ((xs ++ ys).forM f) ↔ ¬Escapes (xs.forM f) ∧ (xs.forM f = .ok () → ¬Escapes (ys.forM f)) := by
  rw [List.forM_eq_forM, List.forM_append]
  exact not_escapes_bind_iff.trans (and_congr_right fun _ => ⟨fun h => h (), fun h _ => h⟩)

lemma not_escapes_versions (h : Verified lib dir m verified) (hshaped : Shaped c)
    (hpolicy : m.wp6 = true → c.actionPolicy.isObj = true) {envelope : Json} :
    ¬Escapes ((embeddedVersions schema envelope c).forM (checkVersion lib.floatText m)) ↔
      VersionsReadable lib m schema envelope c := by
  obtain ⟨_, htaxonomy, -⟩ := hshaped.taxonomy
  obtain ⟨_, hdimensions, -⟩ := hshaped.dimensions
  obtain ⟨_, hindicators, -⟩ := hshaped.indicators
  obtain ⟨_, hfamilies, -⟩ := hshaped.families
  obtain ⟨_, hnegatives, -⟩ := hshaped.negatives
  obtain ⟨_, hsources, -⟩ := hshaped.sources
  obtain ⟨_, hevidence, -⟩ := hshaped.evidence
  have hpin {name token : String} (hmem : (name, token) ∈ supportedVersions)
      (hname : name ≠ "action_policy") : ∃ v, Json.lookup name m.componentVersions = some v :=
    ⟨_, h.pinned hmem (Or.inl hname)⟩
  have hget {name : String} (token : String) (hmem : (name, token) ∈ supportedVersions)
      (hname : name ≠ "action_policy") {version : Load Json} (hversion : ¬Escapes version) :
      ¬Escapes (checkVersion lib.floatText m (name, version)) :=
    not_escapes_checkVersion (hpin hmem hname) hversion
  have hobj {component : Json} {key : String} {v : Json} (hkey : component.get? key = some v) :
      component.isObj = true := Py.isObj_of_get? hkey
  have hcomponents : ∀ version ∈ ((embeddedVersions schema envelope c).take 8).tail,
      ¬Escapes (checkVersion lib.floatText m version) := by
    simp only [embeddedVersions, List.take, List.tail_cons, List.forall_mem_cons]
    refine ⟨?_, ?_, ?_, ?_, ?_, ?_, ?_, List.forall_mem_nil _⟩
    · exact hget "2.0" (by decide) (by decide) (not_escapes_getD (hobj htaxonomy))
    · exact hget "1.0.0" (by decide) (by decide) (not_escapes_getD (hobj hdimensions))
    · exact hget "0.3.0-interim" (by decide) (by decide) (not_escapes_getD (hobj hindicators))
    · exact hget "1.0.0" (by decide) (by decide) (not_escapes_getD (hobj hfamilies))
    · exact hget "2.0.0" (by decide) (by decide) (not_escapes_getD (hobj hnegatives))
    · exact hget "1.2" (by decide) (by decide)
        (not_escapes_evidenceVersion (hobj hsources))
    · exact hget "1.0" (by decide) (by decide) (not_escapes_getD (hobj hevidence))
  have hfirst : ¬Escapes (((embeddedVersions schema envelope c).take 8).forM
      (checkVersion lib.floatText m)) ↔ Versioned "schema_version" schema := by
    constructor
    · intro hno
      refine reads_constVersion.not_escapes_iff.mp fun hescapes => hno (escapes_bind.mpr (Or.inl ?_))
      exact escapes_checkVersion (by decide) hescapes
    · intro hversioned
      refine not_escapes_bind ?_ fun _ _ => not_escapes_forM hcomponents
      exact hget "1.0.0" (by decide) (by decide) (reads_constVersion.not_escapes_iff.mpr hversioned)
  have hlast : ¬Escapes (((embeddedVersions schema envelope c).drop 8).forM
      (checkVersion lib.floatText m)) ↔ Versioned "envelope_version" envelope := by
    constructor
    · intro hno
      refine reads_constVersion.not_escapes_iff.mp fun hescapes => hno (escapes_bind.mpr (Or.inl ?_))
      exact escapes_checkVersion (by decide) hescapes
    · intro hversioned
      refine not_escapes_bind (hget "1.0.0" (by decide) (by decide)
        (reads_constVersion.not_escapes_iff.mpr hversioned)) fun _ _ => ?_
      refine not_escapes_bind ?_ fun _ _ => escapes_ok
      cases hwp6 : m.wp6 with
      | true =>
        have hmem : ("action_policy", "1.0.0") ∈ supportedVersions := by decide
        exact not_escapes_checkVersion ⟨_, h.pinned hmem (Or.inr hwp6)⟩
          (not_escapes_getD (hpolicy hwp6))
      | false =>
        unfold checkVersion
        rw [if_pos ⟨rfl, hwp6⟩]
        exact escapes_ok
  rw [← List.take_append_drop 8 (embeddedVersions schema envelope c), not_escapes_forM_append, hfirst,
    hlast]
  constructor
  · rintro ⟨hs, he⟩
    exact ⟨hs, he⟩
  · rintro ⟨hs, he⟩
    exact ⟨hs, he⟩

/-! ### The load -/

lemma not_escapes_checkCounts (hshaped : Shaped c) :
    ¬Escapes (checkCounts m c) ↔ ∀ r ∈ c.rules, LifecycleReadable r := by
  unfold checkCounts
  rw [not_escapes_bind_iff, (reads_computedCounts hshaped).not_escapes_iff]
  refine and_iff_left_of_imp fun _ counts _ => not_escapes_forM fun count _ => ?_
  cases Json.lookup count.1 m.counts with
  | none => exact escapes_ok
  | some declared =>
    show ¬Escapes (if _ then _ else _)
    split_ifs
    · exact escapes_ok
    · exact not_escapes_fail

lemma not_escapes_checkReferences (hshaped : Shaped c)
    (hlifecycle : ∀ r ∈ c.rules, LifecycleReadable r) :
    ¬Escapes (checkReferences c) ↔ ReferencesReadable c := by
  unfold checkReferences
  rw [not_escapes_bind_iff, (reads_validateReferences hshaped hlifecycle).not_escapes_iff]
  refine and_iff_left_of_imp fun _ problems _ => ?_
  split_ifs
  · exact escapes_ok
  · exact not_escapes_fail

lemma not_escapes_checkAvailability {indexes : Indexes} : ¬Escapes (checkAvailability m indexes) :=
  not_escapes_guard fun _ => escapes_ok

/-- What no earlier step checked of the parsed components, each where the load gets to it. -/
structure ComponentsReadable (lib : Libraries) (m : Manifest) (schema envelope : Json)
    (c : Components) : Prop where
  versions : VersionsReadable lib m schema envelope c
  lifecycles : (embeddedVersions schema envelope c).forM (checkVersion lib.floatText m) = .ok () →
    ∀ r ∈ c.rules, LifecycleReadable r
  references : (embeddedVersions schema envelope c).forM (checkVersion lib.floatText m) = .ok () →
    checkCounts m c = .ok () → ReferencesReadable c

/-- The components of a load, with what parsing them leaves. -/
structure Parsed (lib : Libraries) (m : Manifest) (verified : List (String × ByteArray))
    (schema : Json) (c : Components) : Prop where
  pass : SchemasPass lib verified schema
  policy : m.wp6 = false → c.actionPolicy = noPolicy

lemma parsed_of_parseMembers (h : parseMembers lib m.paths m.wp6 verified = .ok (schema, c)) :
    Parsed lib m verified schema c := by
  obtain ⟨ruleSchema, hschema, h⟩ := bind_ok h
  obtain ⟨hvalid, h⟩ := ok_of_guard h
  obtain ⟨_, hextraction, h⟩ := bind_ok h
  obtain ⟨rules, -, h⟩ := bind_ok h
  obtain ⟨registry, -, h⟩ := bind_ok h
  obtain ⟨families, -, h⟩ := bind_ok h
  obtain ⟨negatives, -, h⟩ := bind_ok h
  obtain ⟨taxonomy, -, h⟩ := bind_ok h
  obtain ⟨dimensions, -, h⟩ := bind_ok h
  obtain ⟨sources, -, h⟩ := bind_ok h
  obtain ⟨evidence, -, h⟩ := bind_ok h
  have hpass : SchemasPass lib verified ruleSchema := ⟨hschema, by simpa using hvalid, hextraction⟩
  cases hwp6 : m.wp6 with
  | true =>
    rw [hwp6] at h
    obtain ⟨policy, -, h⟩ := bind_ok h
    cases h
    exact ⟨hpass, fun hno => by simp [hwp6] at hno⟩
  | false =>
    rw [hwp6] at h
    cases h
    exact ⟨hpass, fun _ => rfl⟩

/-- Step 8 leaves components of the right shapes, and a policy of them. -/
lemma shaped_of_checkComponents (hparsed : Parsed lib m verified schema c)
    (h : checkComponents m c = .ok ()) : Shaped c ∧ PolicyShaped c.actionPolicy := by
  obtain ⟨_, hshapes, h⟩ := bind_ok h
  refine ⟨shaped_of_checkShapes hshapes, ?_⟩
  cases hwp6 : m.wp6 with
  | true =>
    rw [hwp6] at h
    exact policyShaped_of_validateActionPolicy h
  | false =>
    rw [hparsed.policy hwp6]
    exact ⟨[], rfl, nofun⟩

lemma not_escapes_checkComponents : ¬Escapes (checkComponents m c) := by
  refine not_escapes_bind not_escapes_checkShapes fun _ hshapes => ?_
  split_ifs
  · exact not_escapes_validateActionPolicy (shaped_of_checkShapes hshapes)
  · exact escapes_ok

lemma not_escapes_finish (h : Verified lib dir m verified) (hparsed : Parsed lib m verified schema c)
    (hpass : checkComponents m c = .ok ()) :
    ¬Escapes (finish lib m verified schema c) ↔
      ∀ envelope, member lib verified envelopeSchemaMember = .ok envelope →
        ComponentsReadable lib m schema envelope c := by
  obtain ⟨hshaped, hpolicy⟩ := shaped_of_checkComponents hparsed hpass
  have hpolicyObj : m.wp6 = true → c.actionPolicy.isObj = true := fun _ => by
    obtain ⟨_, hentries, -⟩ := hpolicy
    exact Py.isObj_of_get? hentries
  obtain ⟨envelope, henvelope⟩ := member_of_checkExtractionSchema
    (ok_of_forM hparsed.pass.extraction envelopeSchemaMember (by decide))
  unfold finish
  rw [henvelope]
  show ¬Escapes ((embeddedVersions schema envelope c).forM (checkVersion lib.floatText m) >>= _) ↔ _
  rw [not_escapes_bind_iff, not_escapes_versions h hshaped hpolicyObj]
  constructor
  · rintro ⟨hversions, hrest⟩ envelope' he
    obtain rfl := Except.ok.inj he
    have hcounts (hok : (embeddedVersions schema envelope c).forM
        (checkVersion lib.floatText m) = .ok ()) := not_escapes_bind_iff.mp (hrest () hok)
    have hlifecycles := fun hok => (not_escapes_checkCounts hshaped).mp (hcounts hok).1
    exact {
      versions := hversions
      lifecycles := hlifecycles
      references := fun hok hcount =>
        (not_escapes_checkReferences hshaped (hlifecycles hok)).mp
          (not_escapes_bind_iff.mp ((hcounts hok).2 () hcount)).1 }
  · intro hreadable
    obtain ⟨hversions, hlifecycles, hreferences⟩ := hreadable envelope rfl
    refine ⟨hversions, fun _ hok => ?_⟩
    have hlifecycle := hlifecycles hok
    refine not_escapes_bind ((not_escapes_checkCounts hshaped).mpr hlifecycle) fun _ hcount => ?_
    have hreferences := hreferences hok hcount
    refine not_escapes_bind ((not_escapes_checkReferences hshaped hlifecycle).mpr hreferences)
      fun _ _ => ?_
    refine not_escapes_bind ?_ fun indexes _ => ?_
    · exact (reads_buildIndexes hshaped hpolicy hlifecycle hreferences).not_escapes_iff.mpr trivial
    · exact not_escapes_bind not_escapes_checkAvailability fun _ _ => escapes_ok

/-- Where the load of a bundle raises errors of the loader only. -/
structure Guarded (lib : Libraries) (dir : Directory) : Prop where
  manifest : ManifestTyped lib dir
  members : ∀ m verified, loadManifest lib dir = .ok m → verifyMembers lib dir m = .ok verified →
    MembersTyped lib m verified
  components : ∀ m verified schema c envelope, loadManifest lib dir = .ok m →
    verifyMembers lib dir m = .ok verified →
    parseMembers lib m.paths m.wp6 verified = .ok (schema, c) → checkComponents m c = .ok () →
    member lib verified envelopeSchemaMember = .ok envelope → ComponentsReadable lib m schema envelope c

lemma not_escapes_loadBundle : ¬Escapes (loadBundle lib dir) ↔ Guarded lib dir := by
  unfold loadBundle
  rw [not_escapes_bind_iff, not_escapes_loadManifest]
  constructor
  · rintro ⟨hmanifest, hrest⟩
    have hverified (m : Manifest) (verified : List (String × ByteArray))
        (hm : loadManifest lib dir = .ok m) (hv : verifyMembers lib dir m = .ok verified) :=
      not_escapes_bind_iff.mp ((not_escapes_bind_iff.mp (hrest m hm)).2 verified hv)
    refine ⟨hmanifest, fun m verified hm hv => ?_, fun m verified schema c envelope hm hv hp hc he => ?_⟩
    · exact (not_escapes_parseMembers (verified_of_verifyMembers hv)).mp (hverified m verified hm hv).1
    · have hfinish := not_escapes_bind_iff.mp ((hverified m verified hm hv).2 (schema, c) hp)
      exact (not_escapes_finish (verified_of_verifyMembers hv) (parsed_of_parseMembers hp) hc).mp
        (hfinish.2 () hc) envelope he
  · intro hguarded
    refine ⟨hguarded.manifest, fun m hm => ?_⟩
    refine not_escapes_bind (not_escapes_verifyMembers (componentVersions_of_loadManifest hm))
      fun verified hv => ?_
    have hverified := verified_of_verifyMembers hv
    refine not_escapes_bind ((not_escapes_parseMembers hverified).mpr
      (hguarded.members m verified hm hv)) fun parsed hp => ?_
    obtain ⟨schema, c⟩ := parsed
    refine not_escapes_bind not_escapes_checkComponents fun _ hc => ?_
    exact (not_escapes_finish hverified (parsed_of_parseMembers hp) hc).mpr fun envelope he =>
      hguarded.components m verified schema c envelope hm hv hp hc he

/-- A load returns the knowledge or raises an error of the loader, exactly where every value that no
earlier step checked is one that can be read. -/
theorem loadBundle_typed_iff (lib : Libraries) (dir : Directory) :
    ((∃ k, loadBundle lib dir = .ok k) ∨ ∃ e, loadBundle lib dir = .error (.typed e)) ↔
      Guarded lib dir := by
  rw [← not_escapes_loadBundle]
  cases loadBundle lib dir with
  | ok k => exact iff_of_true (Or.inl ⟨k, rfl⟩) escapes_ok
  | error raised =>
    cases raised with
    | typed e => exact iff_of_true (Or.inr ⟨e, rfl⟩) escapes_typed
    | escaped e =>
      refine iff_of_false ?_ (not_not_intro escapes_escaped)
      rintro (⟨k, h⟩ | ⟨e', h⟩)
      · cases h
      · cases h

/-! ### Exceptions that escape -/

/-- The exception a run lets escape. -/
def escaping {α : Type} : Load α → Option PyException
  | .error (.escaped e) => some e
  | _ => none

/-- Components of one rule with a lifecycle, one override with a condition, and one record of
evidence with a source. -/
def sampleComponents (lifecycle condition source : Json) : Components where
  rules := [.obj [("id", .str "TL-ABC-001"), ("logic", .obj []), ("evidence", .obj []),
    ("lifecycle", lifecycle)]]
  registry := .obj [("indicators", .arr [])]
  families := .obj [("families", .arr [])]
  negatives := .obj [("negative_indicators", .arr []), ("categories", .obj []),
    ("overrides", .arr [.obj [("override_id", .str "HR_A"), ("condition", condition)]])]
  taxonomy := .obj [("categories", .arr [])]
  dimensions := .obj [("dimensions", .obj [])]
  sources := .obj [("sources", .arr [])]
  evidence := .obj [("records", .arr [.obj [("evidence_id", .str "MR-EVID-1"),
    ("manifest_source_id", source)]])]
  actionPolicy := noPolicy

/-- Libraries on one text, of which `json.loads` raises a `ValueError` that is no `JSONDecodeError`. -/
def sampleLibraries (text : ByteArray) : Libraries where
  sha256 _ := String.ofList (List.replicate 64 '0')
  loads data := if data.data = text.data then .error (.other .ValueError) else .error .invalid
  checkSchema _ := true
  conforms _ _ := .ok true
  floatText _ := "1.0"

def sampleDirectory (text : ByteArray) : Directory where
  isDir := true
  file path := if path = MANIFEST_FILENAME then some text else none

/-- An integer literal of 5000 digits, more than `int` converts. -/
def sampleDigits : ByteArray := ⟨Array.replicate 5000 0x31⟩

lemma loadBundle_sample (text : ByteArray) :
    loadBundle (sampleLibraries text) (sampleDirectory text) = .error (.escaped .ValueError) := by
  have hloads : (sampleLibraries text).loads text = .error (.other .ValueError) := if_pos rfl
  have hfile : (sampleDirectory text).file MANIFEST_FILENAME = some text := by simp [sampleDirectory]
  have hdir : ¬(sampleDirectory text).isDir = false := nofun
  unfold loadBundle loadManifest
  rw [if_neg hdir, hfile]
  simp only [hloads]
  rfl

/-- A manifest of one long number ends the load in a `ValueError`, and so do components the shape
pass lets through in the stages after it: a version read of a schema that is `true`, a lifecycle
that is null, a condition over a number, a source id that is a list. -/
theorem loadBundle_escapes :
    (¬∀ lib dir, (∃ k, loadBundle lib dir = .ok k) ∨ ∃ e, loadBundle lib dir = .error (.typed e)) ∧
      escaping (loadBundle (sampleLibraries sampleDigits) (sampleDirectory sampleDigits)) =
        some .ValueError ∧
      escaping (constVersion "schema_version" (.bool true)) = some .AttributeError ∧
      (checkShapes (sampleComponents .null (.arr []) .null)).toOption = some () ∧
      escaping (computedCounts 13 (sampleComponents .null (.arr []) .null)) = some .AttributeError ∧
      (checkShapes (sampleComponents (.obj []) (.obj [("n_of", .obj [("of", .int 5)])]) .null)).toOption =
        some () ∧
      escaping (validateReferences (sampleComponents (.obj [])
        (.obj [("n_of", .obj [("of", .int 5)])]) .null)) = some .TypeError ∧
      escaping (validateReferences (sampleComponents (.obj []) (.obj []) (.arr []))) =
        some .TypeError := by
  refine ⟨fun h => ?_, ?_, by decide +kernel, by decide +kernel, by decide +kernel, by decide +kernel,
    by decide +kernel, by decide +kernel⟩
  · rcases h (sampleLibraries sampleDigits) (sampleDirectory sampleDigits) with ⟨k, hk⟩ | ⟨e, he⟩
    · rw [loadBundle_sample] at hk
      cases hk
    · rw [loadBundle_sample] at he
      cases he
  · rw [loadBundle_sample]
    rfl

end TrustLens.Loader
