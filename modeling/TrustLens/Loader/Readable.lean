import TrustLens.Loader.LoadBundle
import TrustLens.Loader.Shaped

/-!
# What the passes after the shapes read

No pass after the shapes raises an error of its own while it reads the components: each
returns, or an exception escapes it. The shapes leave four values unchecked that decide
which: the lifecycle of a rule, the conditions, and the two source ids that a set is
asked for.
-/

namespace TrustLens.Loader

variable {record value condition : Json} {key idKey kind : String}

/-! ### Conditions on a record -/

/-- The lifecycle of a rule is an object, when there is one. -/
def LifecycleReadable (rule : Json) : Prop :=
  ∀ v, rule.get? "lifecycle" = some v → v.isObj = true

/-- The walk over a condition iterates collections only. -/
def Walks (condition : Json) : Prop := ∃ ids, Runtime.Condition.operands condition = .ok ids

/-- The trigger of a rule can be walked, and its references name their sources by hashable values. -/
structure RuleReadable (rule : Json) : Prop where
  trigger : Walks ((rule.get "logic").get "require")
  sources : ∀ ref ∈ ((rule.get "evidence").get "source_references").items,
    Py.isHashable (ref.get "source_id") = true

/-! ### Access -/

lemma records_of_get? {xs : List Json} (h : record.get? key = some (.arr xs)) :
    records record key = .ok xs := by
  unfold records
  rw [Py.item_of_get? h]
  rfl

lemma members_of_get? {xs : List Json} (h : record.get? key = some (.arr xs)) :
    members record key = .ok xs := by
  unfold members
  rw [Py.getD_of_get? h]
  rfl

lemma get_of_get? {v : Json} (h : record.get? key = some v) : record.get key = v := by
  unfold Json.get
  rw [h, Option.getD_some]

lemma isHashable_of_isStr (h : isStr value = true) : Py.isHashable value = true := by
  cases value with
  | str s => rfl
  | _ => cases h

lemma Strings.isHashable (h : Strings record key) :
    ∀ v ∈ (record.get key).items, Py.isHashable v = true :=
  fun v hv => isHashable_of_isStr (h.all v hv)

lemma reads_operands : Reads (Walks condition) (operands condition) := by
  unfold operands Walks
  cases Runtime.Condition.operands condition with
  | ok ids => exact (Reads.of_ok rfl).congr (iff_of_true trivial ⟨ids, rfl⟩)
  | error e => exact ⟨nofun, fun _ => escapes_escaped⟩

lemma reads_lifecycleStatus (hobj : record.isObj = true) :
    Reads (LifecycleReadable record) (lifecycleStatus record) := by
  unfold lifecycleStatus LifecycleReadable
  rw [Py.getD_of_isObj hobj]
  refine Reads.of_eq rfl ((Py.reads_getD .null).congr ?_)
  cases record.get? "lifecycle" with
  | none => exact iff_of_true rfl nofun
  | some v =>
    constructor
    · intro hv _ h
      cases h
      exact hv
    · exact fun h => h v rfl

lemma reads_item (h : Named idKey record) : Reads True (Py.item record idKey : Load Json) := by
  obtain ⟨id, hid⟩ := item_of_named h
  exact Reads.of_ok hid

lemma reads_idSet {rs : List Json} (h : ∀ r ∈ rs, Named idKey r) : Reads True (idSet rs idKey) := by
  refine Reads.mapM_total fun r hr => ?_
  obtain ⟨id, hid⟩ := item_of_named (h r hr)
  exact Reads.of_eq hid (Reads.of_ok rfl)

lemma reads_isMember {set : List Json} : Reads (Py.isHashable value = true) (isMember value set) :=
  Py.reads_hashed.map

lemma reads_missing {values set : List Json} {problem : Json → Problem} :
    Reads (∀ v ∈ values, Py.isHashable v = true) (missing values set problem) :=
  (Reads.mapM fun _ _ => reads_isMember.map).map

/-- A list of strings of a record, each looked up. -/
lemma reads_missing_members (h : Strings record key) {set : List Json} {problem : Json → Problem} :
    Reads True (do missing (← members record key) set problem) :=
  Reads.of_eq h.members (reads_missing.of_prop h.isHashable)

/-! ### The namespaces -/

lemma reads_subcategoryIds {c : Json} (h : ShapedCategory c) :
    Reads True (do idSet (← members c "subcategories") "id") :=
  Reads.of_eq h.subcategories.members (reads_idSet fun s hs => (h.subcategories.all s hs).named)

lemma reads_termIds {g : String × Json} (h : Lists g.2 "terms" (Named "id")) :
    Reads True (do idSet (← members g.2 "terms") "id") :=
  Reads.of_eq h.members (reads_idSet h.all)

/-- A record's id with one of its fields. -/
lemma reads_idAnd {name : String} (h : Named idKey record) :
    Reads True (do return (← Py.item record idKey, ← Py.getD record name .null) :
      Load (Json × Json)) :=
  Reads.then_ (reads_item h) fun _ _ => Reads.of_eq (Py.getD_null h.isObj name) (Reads.of_ok rfl)

lemma reads_termsByAxis {dimensions : Json} {groups : List (String × Json)}
    (hgroups : dimensions.get? "dimensions" = some (.obj groups))
    (h : ∀ g ∈ groups, Lists g.2 "terms" (Named "id")) : Reads True (termsByAxis dimensions) := by
  unfold termsByAxis
  rw [Py.getD_of_get? hgroups]
  refine Reads.of_eq rfl (Reads.of_eq rfl (Reads.mapM_total fun g hg => ?_))
  have hg := h g (List.mem_of_mem_filter hg)
  refine Reads.of_eq hg.members (Reads.then_ (reads_idSet fun t ht => ?_) fun _ _ => Reads.of_ok rfl)
  exact hg.all t (List.mem_of_mem_filter ht)

lemma reads_namespaces {c : Components} (h : Shaped c) : Reads True (namespaces c) := by
  obtain ⟨indicators, hindicators, hindicator⟩ := h.indicators
  obtain ⟨negatives, hnegatives, hnegative⟩ := h.negatives
  obtain ⟨categories, hcategories, hcategory⟩ := h.taxonomy
  obtain ⟨groups, hgroups, hgroup⟩ := h.dimensions
  obtain ⟨sources, hsources, hsource⟩ := h.sources
  obtain ⟨evidence, hevidence, hrecord⟩ := h.evidence
  obtain ⟨suppression, hsuppression⟩ := h.suppression
  refine Reads.of_eq (records_of_get? hindicators) ?_
  refine Reads.of_eq (records_of_get? hnegatives) ?_
  refine Reads.then_ (Reads.mapM_total fun n hn => reads_idAnd (hnegative n hn).named) fun _ _ => ?_
  refine Reads.of_eq (records_of_get? hcategories) ?_
  refine Reads.then_ (Reads.mapM_total fun x hx => reads_subcategoryIds (hcategory x hx)) fun _ _ => ?_
  refine Reads.of_eq (Py.item_of_get? hgroups) (Reads.of_eq rfl ?_)
  refine Reads.then_ (Reads.mapM_total fun g hg => reads_termIds (hgroup g hg)) fun _ _ => ?_
  refine Reads.of_eq (records_of_get? hevidence) ?_
  refine Reads.then_ (Reads.mapM_total fun r hr => ?_) fun _ _ => ?_
  · obtain ⟨id, hid⟩ := item_of_named (hrecord r hr)
    exact Reads.of_eq hid (Reads.of_eq rfl
      (Reads.of_eq (Py.getD_null (hrecord r hr).isObj _) (Reads.of_ok rfl)))
  refine Reads.of_eq (Py.getD_of_get? hsuppression _) (Reads.of_eq rfl ?_)
  refine Reads.then_ (reads_idSet hindicator) fun _ _ => ?_
  refine Reads.then_ (reads_idSet fun n hn => (hnegative n hn).named) fun _ _ => ?_
  refine Reads.then_ (reads_idSet fun x hx => (hcategory x hx).named) fun _ _ => ?_
  refine Reads.then_ (reads_idSet fun x hx => (hcategory x hx).named) fun _ _ => ?_
  refine Reads.then_ (reads_termsByAxis hgroups hgroup) fun _ _ => ?_
  refine Reads.of_eq (records_of_get? hsources) ?_
  refine Reads.then_ (reads_idSet fun s hs => (hsource s hs).named) fun _ _ => ?_
  refine Reads.of_eq h.overrides.members ?_
  refine Reads.then_ (reads_idSet fun o ho => (h.overrides.all o ho).named) fun _ _ => ?_
  exact Reads.then_ (reads_idSet fun r hr => (h.rules r hr).named) fun _ _ => Reads.of_ok rfl

/-! ### The references -/

/-- The evidence ids a record retrieved by hand, none when it has no such retrieval. -/
lemma exists_manual (h : Manual record) :
    ∃ ids, members (if (record.get "manual_retrieval").truthy then record.get "manual_retrieval"
        else .obj []) "evidence_ids" = .ok ids ∧ ∀ id ∈ ids, Py.isHashable id = true := by
  cases hv : record.get? "manual_retrieval" with
  | none =>
    refine ⟨[], ?_, nofun⟩
    unfold Json.get
    rw [hv]
    rfl
  | some v =>
    rw [get_of_get? hv]
    split_ifs with ht
    · exact ⟨_, (h v hv).2.members, (h v hv).2.isHashable⟩
    · exact ⟨[], rfl, nofun⟩

lemma reads_sourceProblems {ns : Namespaces} {rid ref : Json} (h : ShapedReference ref) :
    Reads (Py.isHashable (ref.get "source_id") = true) (sourceProblems ns rid ref) := by
  refine Reads.of_eq (Py.getD_null h.isObj _) ?_
  refine (reads_isMember.bind (Q := True) fun _ _ => ?_).congr (and_iff_left trivial)
  refine Reads.of_eq (Py.getD_null h.isObj _) ?_
  obtain ⟨ids, hids, hhash⟩ := exists_manual h.manual
  refine Reads.of_eq hids (Reads.mapM_total fun id hid => ?_).map
  exact Reads.of_eq (Py.hashed_of_isHashable (hhash id hid)) (Reads.of_ok rfl)

lemma reads_ruleProblems (ns : Namespaces) {r : Json} (h : ShapedRule r)
    (hlifecycle : LifecycleReadable r) : Reads (RuleReadable r) (ruleProblems ns r) := by
  obtain ⟨logic, hlogic, hobj, hsuppressed⟩ := h.logic
  obtain ⟨evidence, hevidence, hrefs⟩ := h.evidence
  have hr := h.named.isObj
  refine Reads.of_eq (Py.getD_of_isObj hr _) (Reads.of_eq (Py.getD_null hr _) ?_)
  refine Reads.then_ ((reads_lifecycleStatus hr).of_prop hlifecycle) fun _ _ => ?_
  refine Reads.of_eq (Py.getD_of_get? hlogic _) (Reads.of_eq (Py.getD_null hobj _) ?_)
  refine (reads_operands.bind (Q := ∀ ref ∈ (evidence.get "source_references").items,
    Py.isHashable (ref.get "source_id") = true) fun _ _ => ?_).congr ?_
  · refine Reads.of_eq hsuppressed.members ?_
    refine Reads.then_ (Reads.mapM_total fun v hv =>
      Reads.of_ok (Py.hashed_of_isHashable (hsuppressed.isHashable v hv))) fun _ _ => ?_
    refine Reads.of_eq h.taxonomy.members ?_
    refine Reads.then_ (reads_missing.of_prop h.taxonomy.isHashable) fun _ _ => ?_
    refine Reads.of_eq (Py.getD_of_get? hevidence _) (Reads.of_eq hrefs.members ?_)
    exact (Reads.mapM fun ref href => reads_sourceProblems (hrefs.all ref href)).map
  · rw [← get_of_get? hlogic, ← get_of_get? hevidence]
    exact ⟨fun ⟨ht, hs⟩ => ⟨ht, hs⟩, fun ⟨ht, hs⟩ => ⟨ht, hs⟩⟩

lemma exists_dimMap (h : DimMap record key) :
    ∃ groups, (Py.entries (objectOr (record.get key)) : Load _) = .ok groups ∧
      ∀ g ∈ groups, ∃ terms, (Py.iter g.2 : Load _) = .ok terms ∧
        ∀ t ∈ terms, Py.isHashable t = true := by
  unfold objectOr
  cases hv : record.get? key with
  | none =>
    refine ⟨[], ?_, nofun⟩
    unfold Json.get
    rw [hv]
    rfl
  | some v =>
    obtain ⟨groups, rfl, hgroups⟩ := h v hv
    rw [get_of_get? hv]
    split_ifs with ht
    · refine ⟨groups, rfl, fun g hg => ?_⟩
      have hg := hgroups g hg
      cases hterms : g.2 with
      | arr terms =>
        rw [hterms] at hg
        exact ⟨terms, rfl, fun t ht => isHashable_of_isStr (List.all_eq_true.mp hg t ht)⟩
      | _ =>
        rw [hterms] at hg
        cases hg
    · exact ⟨[], rfl, nofun⟩

lemma reads_familyProblems {ns : Namespaces} {f : Json} (h : ShapedFamily f) :
    Reads True (familyProblems ns f) := by
  obtain ⟨groups, hgroups, hterms⟩ := exists_dimMap h.dimensions
  refine Reads.then_ (reads_item h.named) fun _ _ => ?_
  refine Reads.of_eq h.outputs.members ?_
  refine Reads.then_ (reads_missing.of_prop h.outputs.isHashable) fun _ _ => ?_
  refine Reads.of_eq h.negatives.members ?_
  refine Reads.then_ (reads_missing.of_prop h.negatives.isHashable) fun _ _ => ?_
  refine Reads.of_eq h.overrides.members ?_
  refine Reads.then_ (reads_missing.of_prop h.overrides.isHashable) fun _ _ => ?_
  refine Reads.of_eq (Py.getD_null h.named.isObj _) (Reads.of_eq hgroups ?_)
  refine (Reads.mapM_total fun g hg => ?_).map
  obtain ⟨terms, hterms, hhash⟩ := hterms g hg
  exact Reads.of_eq hterms (reads_missing.of_prop hhash)

lemma reads_subcategoryProblems {ns : Namespaces} {s : Json} (h : ShapedSubcategory s) :
    Reads True (subcategoryProblems ns s) := by
  obtain ⟨groups, hgroups, hterms⟩ := exists_dimMap h.dimensions
  refine Reads.of_eq (Py.getD_null h.named.isObj _) (Reads.of_eq hgroups ?_)
  refine Reads.then_ (reads_item h.named) fun _ _ => (Reads.mapM_total fun g hg => ?_).map
  unfold dimensionProblems
  cases axisOf g.1 with
  | none => exact Reads.of_ok rfl
  | some axis =>
    obtain ⟨terms, hterms, hhash⟩ := hterms g hg
    exact Reads.of_eq hterms (reads_missing.of_prop hhash)

lemma reads_categoryProblems {ns : Namespaces} {c : Json} (h : ShapedCategory c) :
    Reads True (categoryProblems ns c) :=
  Reads.of_eq h.subcategories.members
    (Reads.mapM_total fun s hs => reads_subcategoryProblems (h.subcategories.all s hs)).map

lemma reads_negativeProblems {ns : Namespaces} {n : Json} (h : ShapedNegative n) :
    Reads True (negativeProblems ns n) := by
  refine Reads.then_ (reads_item h.named) fun _ _ => ?_
  refine Reads.of_eq h.families.members ?_
  refine Reads.then_ (reads_missing.of_prop fun v hv =>
    h.families.isHashable v (List.mem_of_mem_filter hv)) fun _ _ => ?_
  refine Reads.of_eq h.sources.members ?_
  refine Reads.then_ (reads_missing.of_prop h.sources.isHashable) fun _ _ => ?_
  refine Reads.of_eq h.targets.members ?_
  exact (reads_missing.of_prop h.targets.isHashable).map

lemma reads_overrideProblems (ns : Namespaces) {o : Json} (h : ShapedOverride o) :
    Reads (Walks (o.get "condition")) (overrideProblems ns o) := by
  refine Reads.then_ (reads_item h.named) fun _ _ => ?_
  refine Reads.of_eq (Py.getD_null h.named.isObj _) ?_
  refine (reads_operands.bind (Q := True) fun _ _ => ?_).congr (and_iff_left trivial)
  refine Reads.of_eq h.families.members ?_
  refine Reads.then_ (reads_missing.of_prop h.families.isHashable) fun _ _ => ?_
  refine Reads.of_eq h.rules.members ?_
  refine Reads.then_ (reads_missing.of_prop h.rules.isHashable) fun _ _ => ?_
  refine Reads.of_eq h.blocked.members ?_
  exact (reads_missing.of_prop h.blocked.isHashable).map

lemma reads_evidenceProblems (ns : Namespaces) (h : Named "evidence_id" record) :
    Reads (Py.isHashable (record.get "manifest_source_id") = true) (evidenceProblems ns record) := by
  refine Reads.of_eq (Py.getD_null h.isObj _) ?_
  refine Reads.then_ (reads_item h) fun _ _ => reads_missing.congr ?_
  exact List.forall_mem_singleton

lemma reads_sourceRecordProblems {ns : Namespaces} {s : Json} (h : ShapedSource s) :
    Reads True (sourceRecordProblems ns s) := by
  obtain ⟨ids, hids, hhash⟩ := exists_manual h.manual
  refine Reads.of_eq (Py.getD_null h.named.isObj _) (Reads.of_eq hids ?_)
  exact Reads.then_ (reads_item h.named) fun _ _ => reads_missing.of_prop hhash

/-- What the walk over the references needs beyond the shapes. -/
structure ReferencesReadable (c : Components) : Prop where
  rules : ∀ r ∈ c.rules, RuleReadable r
  overrides : ∀ o ∈ (c.negatives.get "overrides").items, Walks (o.get "condition")
  evidence : ∀ e ∈ (c.evidence.get "records").items,
    Py.isHashable (e.get "manifest_source_id") = true

/-- The walk over the references collects problems; it raises no error of the loader. -/
theorem reads_validateReferences {c : Components} (h : Shaped c)
    (hlifecycle : ∀ r ∈ c.rules, LifecycleReadable r) :
    Reads (ReferencesReadable c) (validateReferences c) := by
  obtain ⟨families, hfamilies, hfamily⟩ := h.families
  obtain ⟨negatives, hnegatives, hnegative⟩ := h.negatives
  obtain ⟨categories, hcategories, hcategory⟩ := h.taxonomy
  obtain ⟨sources, hsources, hsource⟩ := h.sources
  obtain ⟨evidence, hevidence, hrecord⟩ := h.evidence
  refine Reads.then_ (reads_namespaces h) fun ns _ => ?_
  have hrules := Reads.mapM fun r hr => reads_ruleProblems ns (h.rules r hr) (hlifecycle r hr)
  have hoverrides := Reads.mapM fun o ho => reads_overrideProblems ns (h.overrides.all o ho)
  have hrecords := Reads.mapM fun e he => reads_evidenceProblems ns (hrecord e he)
  refine (hrules.bind
    (Q := (∀ o ∈ (c.negatives.get "overrides").items, Walks (o.get "condition")) ∧
      ∀ e ∈ evidence, Py.isHashable (e.get "manifest_source_id") = true) fun _ _ => ?_).congr ?_
  · refine Reads.of_eq (records_of_get? hfamilies) ?_
    refine Reads.then_ (Reads.mapM_total fun f hf => reads_familyProblems (hfamily f hf)) fun _ _ => ?_
    refine Reads.of_eq (records_of_get? hcategories) ?_
    refine Reads.then_ (Reads.mapM_total fun x hx => reads_categoryProblems (hcategory x hx))
      fun _ _ => ?_
    refine Reads.of_eq (records_of_get? hnegatives) ?_
    refine Reads.then_ (Reads.mapM_total fun n hn => reads_negativeProblems (hnegative n hn))
      fun _ _ => ?_
    refine Reads.of_eq h.overrides.members (hoverrides.bind fun _ _ => ?_)
    refine Reads.of_eq (records_of_get? hevidence) ?_
    refine (hrecords.bind (Q := True) fun _ _ => ?_).congr (and_iff_left trivial)
    refine Reads.of_eq (records_of_get? hsources) ?_
    exact (Reads.mapM_total fun s hs => reads_sourceRecordProblems (hsource s hs)).map
  · have hitems : (c.evidence.get "records").items = evidence := by
      rw [get_of_get? hevidence]
      rfl
    exact ⟨fun ⟨hr, ho, he⟩ => ⟨hr, ho, hitems ▸ he⟩, fun ⟨hr, ho, he⟩ => ⟨hr, ho, hitems ▸ he⟩⟩

/-! ### The counts -/

theorem reads_computedCounts {files : ℕ} {c : Components} (h : Shaped c) :
    Reads (∀ r ∈ c.rules, LifecycleReadable r) (computedCounts files c) := by
  obtain ⟨indicators, hindicators, -⟩ := h.indicators
  obtain ⟨negatives, hnegatives, -⟩ := h.negatives
  obtain ⟨categories, hcategories, hcategory⟩ := h.taxonomy
  obtain ⟨groups, hgroups, hgroup⟩ := h.dimensions
  have hrules := Reads.mapM fun r hr => reads_lifecycleStatus (h.rules r hr).named.isObj
  refine (hrules.bind (Q := True) fun _ _ => ?_).congr (and_iff_left trivial)
  refine Reads.of_eq (records_of_get? hindicators) (Reads.of_eq (records_of_get? hnegatives) ?_)
  refine Reads.of_eq (records_of_get? hcategories) ?_
  refine Reads.then_ (Reads.mapM_total fun x hx =>
    Reads.of_ok (hcategory x hx).subcategories.members) fun _ _ => ?_
  refine Reads.of_eq (Py.item_of_get? hgroups) (Reads.of_eq rfl ?_)
  exact (Reads.mapM_total fun g hg => Reads.of_ok (hgroup g hg).members).map

/-! ### The indexes -/

/-- The action policy is a list of entries with ids. -/
def PolicyShaped (policy : Json) : Prop :=
  ∃ es, policy.get? "entries" = some (.arr es) ∧ ∀ e ∈ es, Named "policy_entry_id" e

lemma reads_indexBy {rs : List Json} (h : ∀ r ∈ rs, Named idKey r) : Reads True (indexBy idKey rs) := by
  refine Reads.mapM_total fun r hr => ?_
  obtain ⟨id, hid⟩ := item_of_named (h r hr)
  exact Reads.of_eq hid (Reads.of_eq rfl (Reads.of_ok rfl))

lemma reads_ruleCategories {r : Json} (h : ShapedRule r) : Reads True (ruleCategories r) :=
  Reads.of_eq h.taxonomy.members (Reads.of_ok rfl)

lemma reads_ruleEntries {positive active : List Json} {r : Json} (h : ShapedRule r)
    (hreadable : RuleReadable r) (hactive : ∀ n ∈ active, ShapedNegative n) :
    Reads True (ruleEntries positive active r) := by
  obtain ⟨logic, hlogic, hobj, -⟩ := h.logic
  refine Reads.then_ (reads_item h.named) fun _ _ => ?_
  refine Reads.of_eq (Py.getD_of_get? hlogic _) (Reads.of_eq (Py.getD_null hobj _) ?_)
  refine Reads.then_ (reads_operands.of_prop ?_) fun _ _ => ?_
  · rw [← get_of_get? hlogic]
    exact hreadable.trigger
  refine Reads.then_ (reads_ruleCategories h) fun categories _ => ?_
  refine Reads.then_ (Reads.mapM_total fun n hn => ?_) fun _ _ => Reads.of_ok rfl
  refine Reads.of_eq (hactive n hn).families.members ?_
  split
  · exact (reads_item (hactive n hn).named).map
  · exact Reads.of_ok rfl

lemma reads_overrideEntries {o : Json} (h : ShapedOverride o) (hwalks : Walks (o.get "condition")) :
    Reads True (overrideEntries o) := by
  refine Reads.then_ (reads_item h.named) fun _ _ => ?_
  refine Reads.of_eq (Py.getD_null h.named.isObj _) ?_
  refine Reads.then_ (reads_operands.of_prop hwalks) fun _ _ => ?_
  exact Reads.of_eq h.families.members (Reads.of_eq h.rules.members (Reads.of_ok rfl))

lemma reads_taxonomyEntries {c : Json} (h : ShapedCategory c) : Reads True (taxonomyEntries c) := by
  refine Reads.then_ (reads_item h.named) fun _ _ => Reads.of_eq h.subcategories.members ?_
  exact (reads_indexBy fun s hs => (h.subcategories.all s hs).named).map

lemma reads_familyOutputs {f : Json} (h : ShapedFamily f) : Reads True (familyOutputs f) :=
  Reads.then_ (reads_item h.named) fun _ _ => Reads.of_eq h.outputs.members (Reads.of_ok rfl)

lemma of_mem_published {rules : List Json} {statuses : List (Json × Json)}
    (h : (rules.mapM fun r => do return (r, ← lifecycleStatus r) : Load _) = .ok statuses) {r : Json}
    (hr : r ∈ (statuses.filter (·.2 == .str "PUBLISHED")).map Prod.fst) : r ∈ rules := by
  obtain ⟨pair, hpair, rfl⟩ := List.mem_map.mp hr
  obtain ⟨r, hmem, hr⟩ := (mem_of_mapM_ok h pair).mp (List.mem_of_mem_filter hpair)
  obtain ⟨status, -, hr⟩ := bind_ok hr
  cases hr
  exact hmem

lemma of_mem_active {negatives : List Json} {activity : List (Json × Json)}
    (h : (negatives.mapM fun n => do return (n, ← Py.getD n "status" .null) : Load _) = .ok activity)
    {n : Json} (hn : n ∈ (activity.filter (·.2 == .str "ACTIVE")).map Prod.fst) : n ∈ negatives := by
  obtain ⟨pair, hpair, rfl⟩ := List.mem_map.mp hn
  obtain ⟨n, hmem, hn⟩ := (mem_of_mapM_ok h pair).mp (List.mem_of_mem_filter hpair)
  obtain ⟨status, -, hn⟩ := bind_ok hn
  cases hn
  exact hmem

/-- What the earlier passes read leaves nothing for the construction of the indexes to fail on. -/
theorem reads_buildIndexes {c : Components} (h : Shaped c) (hpolicy : PolicyShaped c.actionPolicy)
    (hlifecycle : ∀ r ∈ c.rules, LifecycleReadable r) (hreadable : ReferencesReadable c) :
    Reads True (buildIndexes c) := by
  obtain ⟨indicators, hindicators, hindicator⟩ := h.indicators
  obtain ⟨families, hfamilies, hfamily⟩ := h.families
  obtain ⟨negatives, hnegatives, hnegative⟩ := h.negatives
  obtain ⟨categories, hcategories, hcategory⟩ := h.taxonomy
  obtain ⟨groups, hgroups, hgroup⟩ := h.dimensions
  obtain ⟨sources, hsources, hsource⟩ := h.sources
  obtain ⟨evidence, hevidence, hrecord⟩ := h.evidence
  obtain ⟨entries, hentries, hentry⟩ := hpolicy
  refine Reads.then_ (Reads.mapM_total fun r hr =>
    ((reads_lifecycleStatus (h.rules r hr).named.isObj).of_prop (hlifecycle r hr)).map)
    fun statuses hstatuses => ?_
  have hpublished := fun r hr => of_mem_published (r := r) hstatuses hr
  refine Reads.of_eq (records_of_get? hindicators) ?_
  refine Reads.then_ (reads_idSet hindicator) fun positive _ => ?_
  refine Reads.of_eq (records_of_get? hnegatives) (Reads.of_eq (records_of_get? hfamilies) ?_)
  refine Reads.of_eq (Py.item_of_get? hgroups) (Reads.of_eq rfl ?_)
  refine Reads.then_ (Reads.mapM_total fun g hg =>
    Reads.of_eq (hgroup g hg).members (reads_indexBy (hgroup g hg).all)) fun _ _ => ?_
  refine Reads.of_eq h.overrides.members ?_
  refine Reads.then_ (Reads.mapM_total fun n hn =>
    Reads.of_eq (Py.getD_null (hnegative n hn).named.isObj _) (Reads.of_ok rfl))
    fun activity hactivity => ?_
  refine Reads.then_ (Reads.mapM_total fun r hr =>
    reads_ruleEntries (h.rules r (hpublished r hr)) (hreadable.rules r (hpublished r hr))
      fun n hn => hnegative n (of_mem_active hactivity hn)) fun _ _ => ?_
  refine Reads.then_ (Reads.mapM_total fun o ho =>
    reads_overrideEntries (h.overrides.all o ho) (hreadable.overrides o ho)) fun _ _ => ?_
  refine Reads.then_ (reads_indexBy fun r hr => (h.rules r hr).named) fun _ _ => ?_
  refine Reads.then_ (reads_indexBy fun r hr => (h.rules r (hpublished r hr)).named) fun _ _ => ?_
  refine Reads.then_ (reads_indexBy hindicator) fun _ _ => ?_
  refine Reads.then_ (reads_indexBy fun n hn => (hnegative n hn).named) fun _ _ => ?_
  refine Reads.then_ (reads_indexBy fun f hf => (hfamily f hf).named) fun _ _ => ?_
  refine Reads.then_ (Reads.mapM_total fun f hf => reads_familyOutputs (hfamily f hf)) fun _ _ => ?_
  refine Reads.of_eq (records_of_get? hcategories) ?_
  refine Reads.then_ (Reads.mapM_total fun x hx => reads_taxonomyEntries (hcategory x hx))
    fun _ _ => ?_
  refine Reads.of_eq (records_of_get? hsources) ?_
  refine Reads.then_ (reads_indexBy fun s hs => (hsource s hs).named) fun _ _ => ?_
  refine Reads.of_eq (records_of_get? hevidence) ?_
  refine Reads.then_ (reads_indexBy hrecord) fun _ _ => ?_
  refine Reads.then_ (reads_indexBy fun o ho => (h.overrides.all o ho).named) fun _ _ => ?_
  refine Reads.of_eq (records_of_get? hentries) ?_
  exact (reads_indexBy hentry).map

end TrustLens.Loader
