import TrustLens.Loader.ExactIndexes

/-!
# References that resolve

What one record says of another by its id, and that once no problem is reported every such id is
found in the index it is looked up in.
-/

namespace TrustLens.Loader

variable {c : Components} {x : Indexes} {ns : Namespaces} {r : Json}

/-- The indexes a reference is looked up in; a rule names indicators of either polarity. -/
inductive Table where
  | rules
  | indicators
  | negatives
  | eitherPolarity
  | taxonomy
  | dimensions
  | sources
  | evidence
  | overrides
deriving DecidableEq

/-- The ids of an index. -/
def Indexes.ids (x : Indexes) : Table → List String
  | .rules => x.rulesById.map Prod.fst
  | .indicators => x.indicatorsById.map Prod.fst
  | .negatives => x.negativeIndicatorsById.map Prod.fst
  | .eitherPolarity => x.indicatorsById.map Prod.fst ++ x.negativeIndicatorsById.map Prod.fst
  | .taxonomy => x.taxonomyById.map Prod.fst
  | .dimensions => x.dimensionsById.map Prod.fst
  | .sources => x.sourcesById.map Prod.fst
  | .evidence => x.evidenceById.map Prod.fst
  | .overrides => x.overridesById.map Prod.fst

/-- A record refers to a value of a table. -/
inductive Refers (c : Components) : Table → Json → Prop
  | trigger {r : Json} {i : String} (hr : r ∈ c.rules)
      (h : Occurs i ((r.get "logic").get "require")) : Refers c .eitherPolarity (.str i)
  | suppressor {r v : Json} (hr : r ∈ c.rules)
      (h : v ∈ ((r.get "logic").get "suppressed_by").items) : Refers c .eitherPolarity v
  | taxonomyRef {r v : Json} (hr : r ∈ c.rules) (h : v ∈ (r.get "taxonomy_refs").items) :
      Refers c .taxonomy v
  | ruleSource {r ref : Json} (hr : r ∈ c.rules)
      (h : ref ∈ ((r.get "evidence").get "source_references").items) :
      Refers c .sources (ref.get "source_id")
  | ruleEvidence {r ref v : Json} (hr : r ∈ c.rules)
      (href : ref ∈ ((r.get "evidence").get "source_references").items)
      (h : v ∈ ((ref.get "manual_retrieval").get "evidence_ids").items) : Refers c .evidence v
  | familyOutput {f v : Json} (hf : f ∈ c.familyRecords) (h : v ∈ (f.get "indicator_outputs").items) :
      Refers c .indicators v
  | familyInteraction {f v : Json} (hf : f ∈ c.familyRecords)
      (h : v ∈ (f.get "negative_interactions").items) : Refers c .negatives v
  | familyOverride {f v : Json} (hf : f ∈ c.familyRecords)
      (h : v ∈ (f.get "hard_risk_overrides").items) : Refers c .overrides v
  | familyDimension {f v : Json} {g : String × Json} (hf : f ∈ c.familyRecords)
      (hg : g ∈ entriesIn (f.get "applicable_dimensions")) (h : v ∈ g.2.items) :
      Refers c .dimensions v
  | subcategoryDimension {cat s v : Json} {g : String × Json} (hcat : cat ∈ c.categories)
      (hs : s ∈ (cat.get "subcategories").items) (hg : g ∈ entriesIn (s.get "dimensions"))
      (h : v ∈ g.2.items) : Refers c .dimensions v
  | negativeFamily {n v : Json} (hn : n ∈ c.negativeRecords)
      (h : v ∈ (n.get "applicable_rule_families").items) (hv : v ≠ .str "*") : Refers c .taxonomy v
  | negativeSource {n v : Json} (hn : n ∈ c.negativeRecords) (h : v ∈ (n.get "source_basis").items) :
      Refers c .sources v
  | negativeTarget {n v : Json} (hn : n ∈ c.negativeRecords)
      (h : v ∈ (n.get "suppresses_indicators").items) : Refers c .indicators v
  | overrideOperand {o : Json} {i : String} (ho : o ∈ c.overrides) (h : Occurs i (o.get "condition")) :
      Refers c .indicators (.str i)
  | overrideFamily {o v : Json} (ho : o ∈ c.overrides) (h : v ∈ (o.get "applies_to_families").items) :
      Refers c .taxonomy v
  | overrideRule {o v : Json} (ho : o ∈ c.overrides) (h : v ∈ (o.get "applies_to_rules").items) :
      Refers c .rules v
  | evidenceSource {e : Json} (he : e ∈ c.evidenceRecords) :
      Refers c .sources (e.get "manifest_source_id")
  | sourceEvidence {s v : Json} (hs : s ∈ c.sourceRecords)
      (h : v ∈ ((s.get "manual_retrieval").get "evidence_ids").items) : Refers c .evidence v

/-- Every reference resolves, evidence belongs to the source that cites it, and a rule is triggered
and suppressed by indicators of the right kind. -/
structure Resolved (c : Components) (x : Indexes) : Prop where
  resolves : ∀ table v, Refers c table v → ∃ id, v = .str id ∧ id ∈ x.ids table
  owned : ∀ r ∈ c.rules, ∀ ref ∈ ((r.get "evidence").get "source_references").items,
    ∀ id, .str id ∈ ((ref.get "manual_retrieval").get "evidence_ids").items →
      ∃ e, (id, e) ∈ x.evidenceById ∧ e.get "manifest_source_id" = ref.get "source_id"
  composite : ∀ r ∈ c.rules, r.get "kind" = .str "COMPOSITE" →
    ∀ i, Occurs i ((r.get "logic").get "require") → i ∈ x.ids .indicators
  suppression : ∀ r ∈ c.rules, r.get "kind" = .str "SUPPRESSION" →
    ∀ i, Occurs i ((r.get "logic").get "require") → i ∈ x.ids .negatives
  live : ∀ r ∈ c.published, ∀ id, .str id ∈ ((r.get "logic").get "suppressed_by").items →
    id ∈ x.ids .negatives → Called c.active "negative_indicator_id" id fun _ => True

/-! ### The sets the references are looked up in -/

/-- The values of a set are ids of records. -/
def idsOf (idKey : String) (rs : List Json) : List Json := rs.map (·.get idKey)

structure NamesOf (c : Components) (ns : Namespaces) : Prop where
  positive : ns.positive = idsOf "id" c.indicators
  negative : ns.negative = idsOf "negative_indicator_id" c.negativeRecords
  activeNegative : ns.activeNegative = idsOf "negative_indicator_id" c.active
  categories : ns.categories ⊆ idsOf "id" c.taxonomyNodes
  taxonomy : ns.taxonomy ⊆ idsOf "id" c.taxonomyNodes
  terms : ns.terms = idsOf "id" c.dimensionTerms
  axes : ∀ axis ∈ ns.axes, axis.2 ⊆ idsOf "id" c.dimensionTerms
  sources : ns.sources = idsOf "id" c.sourceRecords
  evidence : ns.evidence = c.evidenceRecords.map fun e =>
    (e.get "evidence_id", e.get "manifest_source_id")
  overrides : ns.overrides = idsOf "override_id" c.overrides
  rules : ns.rules = idsOf "id" c.rules

lemma ids_categories_subset : idsOf "id" c.categories ⊆ idsOf "id" c.taxonomyNodes := by
  intro v hv
  obtain ⟨cat, hcat, rfl⟩ := List.mem_map.mp hv
  exact List.mem_map_of_mem (List.mem_flatMap.mpr ⟨cat, hcat, List.mem_cons_self⟩)

lemma mem_terms_of_mem {g : String × Json} {t : Json} (hg : g ∈ c.groups)
    (ht : t ∈ (g.2.get "terms").items) : t.get "id" ∈ idsOf "id" c.dimensionTerms :=
  List.mem_map_of_mem (List.mem_flatMap.mpr ⟨g, hg, ht⟩)

lemma axes_subset {axes : List (String × List Json)} (h : ShapedParts c)
    (hgroups : c.dimensions.get? "dimensions" = some (.obj c.groups))
    (haxes : termsByAxis c.dimensions = .ok axes) :
    ∀ axis ∈ axes, axis.2 ⊆ idsOf "id" c.dimensionTerms := by
  intro axis haxis v hv
  unfold termsByAxis at haxes
  obtain ⟨value, hvalue, haxes⟩ := bind_ok haxes
  obtain rfl := Except.ok.inj ((Py.getD_of_get? hgroups _).symm.trans hvalue)
  obtain ⟨blocks, hblocks, haxes⟩ := bind_ok haxes
  cases hblocks
  obtain ⟨g, hg, hok⟩ := (mem_of_mapM_ok haxes axis).mp haxis
  have hmem := List.mem_of_mem_filter hg
  obtain ⟨terms, hterms, hok⟩ := bind_ok hok
  obtain rfl := Except.ok.inj ((h.groups g hmem).members.symm.trans hterms)
  obtain ⟨ids, hids, hok⟩ := bind_ok hok
  cases hok
  rw [idSet_eq_ok fun t ht => (h.groups g hmem).all t (List.mem_of_mem_filter ht)] at hids
  cases hids
  obtain ⟨t, ht, rfl⟩ := List.mem_map.mp hv
  exact mem_terms_of_mem hmem (List.mem_of_mem_filter ht)

lemma namesOf_namespaces (hshaped : Shaped c) (hkeyed : KeyedComponents c)
    (h : namespaces c = .ok ns) : NamesOf c ns := by
  have hparts := shapedParts_of_shaped hshaped
  obtain ⟨_, hindicatorsKey, -⟩ := hshaped.indicators
  obtain ⟨_, hnegativesKey, -⟩ := hshaped.negatives
  obtain ⟨_, hgroupsKey, -⟩ := hshaped.dimensions
  obtain ⟨_, htaxonomyKey, -⟩ := hshaped.taxonomy
  obtain ⟨_, hsourcesKey, -⟩ := hshaped.sources
  obtain ⟨_, hevidenceKey, -⟩ := hshaped.evidence
  have hgroupsEq := groups_of_get? hgroupsKey
  rw [← hgroupsEq] at hgroupsKey
  have hcategory : ∀ cat ∈ c.categories, Named "id" cat := fun cat hcat =>
    (hparts.categories cat hcat).named
  unfold namespaces at h
  obtain ⟨indicators, hindicators, h⟩ := bind_ok h
  obtain rfl := Except.ok.inj ((records_eq_ok hindicatorsKey).symm.trans hindicators)
  obtain ⟨negatives, hnegatives, h⟩ := bind_ok h
  obtain rfl := Except.ok.inj ((records_eq_ok hnegativesKey).symm.trans hnegatives)
  obtain ⟨statuses, hstatuses, h⟩ := bind_ok h
  obtain ⟨categories, hcategories, h⟩ := bind_ok h
  obtain rfl := Except.ok.inj ((records_eq_ok htaxonomyKey).symm.trans hcategories)
  obtain ⟨subcategories, hsubcategories, h⟩ := bind_ok h
  obtain ⟨dimensions, hdimensions, h⟩ := bind_ok h
  obtain rfl := Except.ok.inj ((Py.item_of_get? hgroupsKey).symm.trans hdimensions)
  obtain ⟨groups, hgroups, h⟩ := bind_ok h
  cases hgroups
  obtain ⟨terms, hterms, h⟩ := bind_ok h
  obtain ⟨evidence, hevidence, h⟩ := bind_ok h
  obtain rfl := Except.ok.inj ((records_eq_ok hevidenceKey).symm.trans hevidence)
  obtain ⟨owners, howners, h⟩ := bind_ok h
  obtain ⟨suppression, -, h⟩ := bind_ok h
  obtain ⟨suppressionCategories, -, h⟩ := bind_ok h
  obtain ⟨positive, hpositive, h⟩ := bind_ok h
  obtain ⟨negative, hnegative, h⟩ := bind_ok h
  obtain ⟨categories, hcategoryIds, h⟩ := bind_ok h
  obtain ⟨categories', hcategoryIds', h⟩ := bind_ok h
  obtain ⟨axes, haxes, h⟩ := bind_ok h
  obtain ⟨sources, hsources, h⟩ := bind_ok h
  obtain rfl := Except.ok.inj ((records_eq_ok hsourcesKey).symm.trans hsources)
  obtain ⟨sourceIds, hsourceIds, h⟩ := bind_ok h
  obtain ⟨overrides, hoverrides, h⟩ := bind_ok h
  obtain rfl := Except.ok.inj (hshaped.overrides.members.symm.trans hoverrides)
  obtain ⟨overrideIds, hoverrideIds, h⟩ := bind_ok h
  obtain ⟨rules, hrules, h⟩ := bind_ok h
  cases h
  obtain rfl := Except.ok.inj ((idSet_eq_ok hkeyed.indicators.named).symm.trans hpositive)
  obtain rfl := Except.ok.inj ((idSet_eq_ok hkeyed.negatives.named).symm.trans hnegative)
  obtain rfl := Except.ok.inj ((idSet_eq_ok hcategory).symm.trans hcategoryIds)
  obtain rfl := Except.ok.inj ((idSet_eq_ok hcategory).symm.trans hcategoryIds')
  obtain rfl := Except.ok.inj ((idSet_eq_ok hkeyed.sources.named).symm.trans hsourceIds)
  obtain rfl := Except.ok.inj ((idSet_eq_ok hkeyed.overrides.named).symm.trans hoverrideIds)
  obtain rfl := Except.ok.inj ((idSet_eq_ok hkeyed.rules.named).symm.trans hrules)
  obtain rfl := Except.ok.inj ((mapM_eq_ok fun g hg => bind_eq_of_ok (hparts.groups g hg).members
    (idSet_eq_ok (hparts.groups g hg).all)).symm.trans hterms)
  obtain rfl := Except.ok.inj ((mapM_eq_ok fun cat hcat =>
    bind_eq_of_ok (hparts.categories cat hcat).subcategories.members (idSet_eq_ok fun s hs =>
      ((hparts.categories cat hcat).subcategories.all s hs).named)).symm.trans hsubcategories)
  obtain rfl := Except.ok.inj ((mapM_eq_ok fun e he =>
    bind_eq_of_ok (item_eq_ok (hkeyed.evidence.named e he)) (bind_eq_of_ok
      (hashed_eq_ok (hkeyed.evidence.named e he)) (bind_eq_of_ok
        (Py.getD_null (hkeyed.evidence.named e he).isObj _) rfl))).symm.trans howners)
  obtain rfl := Except.ok.inj ((mapM_eq_ok fun n hn =>
    bind_eq_of_ok (item_eq_ok (hkeyed.negatives.named n hn)) (bind_eq_of_ok
      (Py.getD_null (hkeyed.negatives.named n hn).isObj _) rfl)).symm.trans hstatuses)
  exact {
    positive := rfl
    negative := rfl
    activeNegative := by
      rw [List.filter_map, List.map_map]
      rfl
    categories := ids_categories_subset
    taxonomy := by
      refine List.append_subset.mpr ⟨ids_categories_subset, fun v hv => ?_⟩
      obtain ⟨ids, hids, hv⟩ := List.mem_flatten.mp hv
      obtain ⟨cat, hcat, rfl⟩ := List.mem_map.mp hids
      obtain ⟨s, hs, rfl⟩ := List.mem_map.mp hv
      exact List.mem_map_of_mem (List.mem_flatMap.mpr ⟨cat, hcat, List.mem_cons_of_mem _ hs⟩)
    terms := flatten_map_map _ _ _
    axes := axes_subset hparts hgroupsKey haxes
    sources := rfl
    evidence := rfl
    overrides := rfl
    rules := rfl }

/-! ### Records of which no problem is reported -/

lemma clean_of_mapM {α : Type} {f : α → Load (List Problem)} {xs : List α} {problems : List (List Problem)}
    (h : xs.mapM f = .ok problems) (hnil : problems.flatten = []) : ∀ a ∈ xs, f a = .ok [] := by
  intro a ha
  obtain ⟨ps, hps, hok⟩ := exists_of_mapM_ok h ha
  rwa [List.flatten_eq_nil_iff.mp hnil ps hps] at hok

lemma mem_of_missing {values set : List Json} {problem : Json → Problem}
    (h : missing values set problem = .ok []) : ∀ v ∈ values, v ∈ set := by
  intro v hv
  obtain ⟨found, hfound, h⟩ := bind_ok h
  have hnil : found.filterMap id = [] := Except.ok.inj h
  obtain ⟨listed, hlisted, hok⟩ := exists_of_mapM_ok hfound hv
  obtain ⟨member, hmember, hok⟩ := bind_ok hok
  obtain ⟨value, hvalue, hmember⟩ := bind_ok hmember
  unfold Py.hashed at hvalue
  split_ifs at hvalue
  cases hvalue
  cases hmember
  cases hok
  by_contra hno
  have hnone := List.filterMap_eq_nil_iff.mp hnil _ hlisted
  rw [if_neg (by simpa using hno)] at hnone
  cases hnone

/-- The strings of an optional list, of a value that may be absent or empty. -/
lemma members_or_empty {value : Json} {k : String} (h : value = .null ∨ Strings value k) :
    members (if value.truthy then value else .obj []) k = .ok (value.get k).items := by
  rcases h with rfl | h
  · rfl
  · split_ifs with htruthy
    · exact h.members
    · have hobj := isObj_of_members h.members
      cases value with
      | obj entries =>
        cases entries with
        | nil => rfl
        | cons e es => exact absurd rfl htruthy
      | _ => cases hobj

lemma null_or_of_get? {k : String} {P : Json → Prop} (h : ∀ v, r.get? k = some v → P v) :
    r.get k = .null ∨ P (r.get k) := by
  cases hget : r.get? k with
  | none =>
    left
    rw [Json.get, hget]
    rfl
  | some v =>
    rw [get_of_get? hget]
    exact .inr (h v hget)

lemma members_manual (h : Manual r) :
    members (if (r.get "manual_retrieval").truthy then r.get "manual_retrieval" else .obj [])
      "evidence_ids" = .ok ((r.get "manual_retrieval").get "evidence_ids").items :=
  members_or_empty (null_or_of_get? fun v hv => (h v hv).2)

/-- The groups of an optional map of lists of strings. -/
lemma entries_dimMap {k : String} (h : DimMap r k) :
    (Py.entries (objectOr (r.get k)) : Load _) = .ok (entriesIn (r.get k)) ∧
      ∀ g ∈ entriesIn (r.get k), (Py.iter g.2 : Load _) = .ok g.2.items := by
  rcases null_or_of_get? h with hnull | ⟨groups, hgroups, hall⟩
  · rw [hnull]
    exact ⟨rfl, List.forall_mem_nil _⟩
  · rw [hgroups]
    refine ⟨?_, fun g hg => ?_⟩
    · cases groups with
      | nil => rfl
      | cons e es => rfl
    · have hstrings := hall g hg
      unfold isStrings at hstrings
      split at hstrings
      next items hitems =>
        rw [hitems]
        rfl
      · cases hstrings

/-- The terms of the groups are all in the set. -/
lemma mem_of_dimensions {k : String} {set : List Json} {problem : Json → Problem}
    {problems : List (List Problem)} (h : DimMap r k)
    (hok : ((entriesIn (r.get k)).mapM fun g => do missing (← Py.iter g.2) set problem) = .ok problems)
    (hnil : problems.flatten = []) : ∀ g ∈ entriesIn (r.get k), ∀ v ∈ g.2.items, v ∈ set := by
  intro g hg
  obtain ⟨items, hitems, hmissing⟩ := bind_ok (clean_of_mapM hok hnil g hg)
  obtain rfl := Except.ok.inj (((entries_dimMap h).2 g hg).symm.trans hitems)
  exact mem_of_missing hmissing

/-- What a rule of which no problem is reported refers to. -/
structure CleanRule (ns : Namespaces) (r : Json) : Prop where
  trigger : ∀ i, Occurs i ((r.get "logic").get "require") → .str i ∈ ns.indicators
  suppressor : ∀ v ∈ ((r.get "logic").get "suppressed_by").items, v ∈ ns.indicators
  composite : r.get "kind" = .str "COMPOSITE" → ∀ i, Occurs i ((r.get "logic").get "require") →
    .str i ∈ ns.negative → .str i ∈ ns.positive
  suppression : r.get "kind" = .str "SUPPRESSION" → ∀ i, Occurs i ((r.get "logic").get "require") →
    .str i ∈ ns.positive → .str i ∈ ns.negative
  live : lifecycleStatus r = .ok (.str "PUBLISHED") →
    ∀ v ∈ ((r.get "logic").get "suppressed_by").items, v ∈ ns.negative → v ∈ ns.activeNegative
  taxonomy : ∀ v ∈ (r.get "taxonomy_refs").items, v ∈ ns.taxonomy
  sources : ∀ ref ∈ ((r.get "evidence").get "source_references").items, ref.get "source_id" ∈ ns.sources
  evidence : ∀ ref ∈ ((r.get "evidence").get "source_references").items,
    ∀ v ∈ ((ref.get "manual_retrieval").get "evidence_ids").items,
      (v, ref.get "source_id") ∈ ns.evidence

lemma sources_of_sourceProblems {rid ref : Json} (h : ShapedReference ref)
    (hok : sourceProblems ns rid ref = .ok []) : ref.get "source_id" ∈ ns.sources ∧
      ∀ v ∈ ((ref.get "manual_retrieval").get "evidence_ids").items,
        (v, ref.get "source_id") ∈ ns.evidence := by
  unfold sourceProblems at hok
  obtain ⟨sid, hsid, hok⟩ := bind_ok hok
  obtain rfl := Except.ok.inj ((Py.getD_null h.isObj _).symm.trans hsid)
  obtain ⟨known, hknown, hok⟩ := bind_ok hok
  obtain ⟨manual, hmanual, hok⟩ := bind_ok hok
  obtain rfl := Except.ok.inj ((Py.getD_null h.isObj _).symm.trans hmanual)
  obtain ⟨ids, hids, hok⟩ := bind_ok hok
  obtain rfl := Except.ok.inj ((members_manual h.manual).symm.trans hids)
  obtain ⟨evidence, hevidence, hok⟩ := bind_ok hok
  obtain ⟨hknownNil, hevidenceNil⟩ := List.append_eq_nil_iff.mp (Except.ok.inj hok)
  constructor
  · obtain ⟨value, hvalue, hknown⟩ := bind_ok hknown
    unfold Py.hashed at hvalue
    split_ifs at hvalue
    cases hvalue
    cases hknown
    split_ifs at hknownNil with hmem
    exact List.contains_iff_mem.mp hmem
  · intro v hv
    obtain ⟨listed, hlisted, hok⟩ := exists_of_mapM_ok hevidence hv
    obtain ⟨value, hvalue, hok⟩ := bind_ok hok
    unfold Py.hashed at hvalue
    split_ifs at hvalue
    cases hvalue
    have hnone := List.filterMap_eq_nil_iff.mp hevidenceNil _ hlisted
    cases hfind : ns.evidence.find? (·.1 == v) with
    | none =>
      rw [hfind] at hok
      cases hok
      cases hnone
    | some owner =>
      rw [hfind] at hok
      cases hok
      dsimp only [id] at hnone
      split_ifs at hnone with howner
      obtain ⟨v', sid⟩ := owner
      obtain rfl : v' = v := by simpa using List.find?_some hfind
      exact howner ▸ List.mem_of_find?_eq_some hfind

lemma mapM_hashed {vs : List Json} (h : ∀ v ∈ vs, isStr v = true) :
    (vs.mapM Py.hashed : Load (List Json)) = .ok vs := by
  have hmap := mapM_eq_ok (f := (Py.hashed : Json → Load Json)) (g := id) fun v hv =>
    Py.hashed_of_isHashable (isHashable_of_isStr (h v hv))
  rwa [List.map_id] at hmap

lemma cleanRule_of_ruleProblems (h : ShapedRule r) (hok : ruleProblems ns r = .ok []) :
    CleanRule ns r := by
  obtain ⟨logic, hlogic, hobj, hsuppressed⟩ := h.logic
  obtain ⟨evidence, hevidence, hrefs⟩ := h.evidence
  obtain rfl := get_of_get? hlogic
  obtain rfl := get_of_get? hevidence
  unfold ruleProblems at hok
  obtain ⟨rid, -, hok⟩ := bind_ok hok
  obtain ⟨kind, hkind, hok⟩ := bind_ok hok
  obtain rfl := Except.ok.inj ((Py.getD_null h.named.isObj _).symm.trans hkind)
  obtain ⟨status, hstatus, hok⟩ := bind_ok hok
  obtain ⟨logic', hlogic', hok⟩ := bind_ok hok
  obtain rfl := Except.ok.inj ((Py.getD_of_get? hlogic _).symm.trans hlogic')
  obtain ⟨condition, hcondition, hok⟩ := bind_ok hok
  obtain rfl := Except.ok.inj ((Py.getD_null hobj _).symm.trans hcondition)
  obtain ⟨ids, hids, hok⟩ := bind_ok hok
  obtain ⟨values, hvalues, hok⟩ := bind_ok hok
  obtain rfl := Except.ok.inj (hsuppressed.members.symm.trans hvalues)
  obtain ⟨hashed, hhashed, hok⟩ := bind_ok hok
  obtain rfl := Except.ok.inj ((mapM_hashed hsuppressed.all).symm.trans hhashed)
  obtain ⟨refs, hrefsTaxonomy, hok⟩ := bind_ok hok
  obtain rfl := Except.ok.inj (h.taxonomy.members.symm.trans hrefsTaxonomy)
  obtain ⟨taxonomy, htaxonomy, hok⟩ := bind_ok hok
  obtain ⟨evidence', hevidence', hok⟩ := bind_ok hok
  obtain rfl := Except.ok.inj ((Py.getD_of_get? hevidence _).symm.trans hevidence')
  obtain ⟨references, hreferences, hok⟩ := bind_ok hok
  obtain rfl := Except.ok.inj (hrefs.members.symm.trans hreferences)
  obtain ⟨sources, hsources, hok⟩ := bind_ok hok
  have hnil := Except.ok.inj hok
  simp only [List.append_eq_nil_iff] at hnil
  obtain ⟨⟨⟨⟨hunresolved, hpolarity⟩, hdeprecated⟩, rfl⟩, hsourcesNil⟩ := hnil
  have htrigger : ∀ i, i ∈ sortedUnique ids ↔ Occurs i ((r.get "logic").get "require") := fun i =>
    mem_sortedUnique.trans (mem_of_operands hids)
  have hsuppressor : ∀ s, s ∈ sortedUnique (((r.get "logic").get "suppressed_by").items.filterMap Json.str?) ↔
      .str s ∈ ((r.get "logic").get "suppressed_by").items := fun s => mem_sortedStrings
  have hstr : ∀ v ∈ ((r.get "logic").get "suppressed_by").items, ∃ s, v = .str s := by
    intro v hv
    have hisStr := hsuppressed.all v hv
    cases v with
    | str s => exact ⟨s, rfl⟩
    | _ => cases hisStr
  have hresolved : ∀ s ∈ sortedUnique (sortedUnique ids ++
      sortedUnique (((r.get "logic").get "suppressed_by").items.filterMap Json.str?)), .str s ∈ ns.indicators := by
    intro s hs
    have hnone := List.filter_eq_nil_iff.mp (List.map_eq_nil_iff.mp hunresolved) s hs
    simpa using hnone
  have hpolarityNone := List.filterMap_eq_nil_iff.mp hpolarity
  exact {
    trigger := fun i hi => hresolved i
      (mem_sortedUnique.mpr (List.mem_append_left _ ((htrigger i).mpr hi)))
    suppressor := fun v hv => by
      obtain ⟨s, rfl⟩ := hstr v hv
      exact hresolved s (mem_sortedUnique.mpr (List.mem_append_right _ ((hsuppressor s).mpr hv)))
    composite := fun hkind i hi hnegative => by
      have hnone := hpolarityNone i ((htrigger i).mpr hi)
      by_contra hpositive
      rw [if_pos ⟨hkind, hnegative, hpositive⟩] at hnone
      cases hnone
    suppression := fun hkind i hi hpositive => by
      have hnone := hpolarityNone i ((htrigger i).mpr hi)
      by_contra hnegative
      rw [if_neg fun h => hnegative h.2.1, if_pos ⟨hkind, hpositive, hnegative⟩] at hnone
      cases hnone
    live := fun hpublished v hv hnegative => by
      obtain ⟨s, rfl⟩ := hstr v hv
      obtain rfl := Except.ok.inj (hstatus.symm.trans hpublished)
      rw [if_pos rfl] at hdeprecated
      have hnone := List.filter_eq_nil_iff.mp (List.map_eq_nil_iff.mp hdeprecated) s
        ((hsuppressor s).mpr hv)
      by_contra hdead
      exact hnone (by simpa using ⟨hnegative, hdead⟩)
    taxonomy := mem_of_missing htaxonomy
    sources := fun ref href => (sources_of_sourceProblems (hrefs.all ref href)
      (clean_of_mapM hsources hsourcesNil ref href)).1
    evidence := fun ref href => (sources_of_sourceProblems (hrefs.all ref href)
      (clean_of_mapM hsources hsourcesNil ref href)).2 }

structure CleanFamily (ns : Namespaces) (f : Json) : Prop where
  outputs : ∀ v ∈ (f.get "indicator_outputs").items, v ∈ ns.positive
  negatives : ∀ v ∈ (f.get "negative_interactions").items, v ∈ ns.negative
  overrides : ∀ v ∈ (f.get "hard_risk_overrides").items, v ∈ ns.overrides
  dimensions : ∀ g ∈ entriesIn (f.get "applicable_dimensions"), ∀ v ∈ g.2.items, v ∈ ns.terms

lemma cleanFamily_of_familyProblems {f : Json} (h : ShapedFamily f)
    (hok : familyProblems ns f = .ok []) : CleanFamily ns f := by
  unfold familyProblems at hok
  obtain ⟨fid, -, hok⟩ := bind_ok hok
  obtain ⟨values, hvalues, hok⟩ := bind_ok hok
  obtain rfl := Except.ok.inj (h.outputs.members.symm.trans hvalues)
  obtain ⟨outputs, houtputs, hok⟩ := bind_ok hok
  obtain ⟨values, hvalues, hok⟩ := bind_ok hok
  obtain rfl := Except.ok.inj (h.negatives.members.symm.trans hvalues)
  obtain ⟨negatives, hnegatives, hok⟩ := bind_ok hok
  obtain ⟨values, hvalues, hok⟩ := bind_ok hok
  obtain rfl := Except.ok.inj (h.overrides.members.symm.trans hvalues)
  obtain ⟨overrides, hoverrides, hok⟩ := bind_ok hok
  obtain ⟨map, hmap, hok⟩ := bind_ok hok
  obtain rfl := Except.ok.inj ((Py.getD_null h.named.isObj _).symm.trans hmap)
  obtain ⟨groups, hgroups, hok⟩ := bind_ok hok
  obtain rfl := Except.ok.inj ((entries_dimMap h.dimensions).1.symm.trans hgroups)
  obtain ⟨dimensions, hdimensions, hok⟩ := bind_ok hok
  have hnil := Except.ok.inj hok
  simp only [List.append_eq_nil_iff] at hnil
  obtain ⟨⟨⟨rfl, rfl⟩, rfl⟩, hdimensionsNil⟩ := hnil
  exact ⟨mem_of_missing houtputs, mem_of_missing hnegatives, mem_of_missing hoverrides,
    mem_of_dimensions h.dimensions hdimensions hdimensionsNil⟩

lemma clean_of_categoryProblems {cat : Json} (h : ShapedCategory cat)
    (hok : categoryProblems ns cat = .ok []) : ∀ s ∈ (cat.get "subcategories").items,
      ∀ g ∈ entriesIn (s.get "dimensions"), ∀ v ∈ g.2.items, ∃ axis ∈ ns.axes, v ∈ axis.2 := by
  intro s hs g hg v hv
  have hshaped := h.subcategories.all s hs
  unfold categoryProblems at hok
  obtain ⟨subcategories, hsubcategories, hok⟩ := bind_ok hok
  obtain rfl := Except.ok.inj (h.subcategories.members.symm.trans hsubcategories)
  obtain ⟨problems, hproblems, hok⟩ := bind_ok hok
  have hsok := clean_of_mapM hproblems (Except.ok.inj hok) s hs
  unfold subcategoryProblems at hsok
  obtain ⟨map, hmap, hsok⟩ := bind_ok hsok
  obtain rfl := Except.ok.inj ((Py.getD_null hshaped.named.isObj _).symm.trans hmap)
  obtain ⟨groups, hgroups, hsok⟩ := bind_ok hsok
  obtain ⟨hentries, hiter⟩ := entries_dimMap hshaped.dimensions
  obtain rfl := Except.ok.inj (hentries.symm.trans hgroups)
  obtain ⟨sid, -, hsok⟩ := bind_ok hsok
  obtain ⟨found, hfound, hsok⟩ := bind_ok hsok
  have hgok := clean_of_mapM hfound (Except.ok.inj hsok) g hg
  unfold dimensionProblems at hgok
  cases haxis : axisOf g.1 with
  | none =>
    rw [haxis] at hgok
    cases hgok
  | some axis =>
    rw [haxis] at hgok
    obtain ⟨items, hitems, hmissing⟩ := bind_ok hgok
    obtain rfl := Except.ok.inj ((hiter g hg).symm.trans hitems)
    have hvalid := mem_of_missing hmissing v hv
    cases hfind : ns.axes.find? (·.1 == axis) with
    | none =>
      rw [hfind] at hvalid
      cases hvalid
    | some entry =>
      rw [hfind] at hvalid
      exact ⟨entry, List.mem_of_find?_eq_some hfind, hvalid⟩

structure CleanNegative (ns : Namespaces) (n : Json) : Prop where
  families : ∀ v ∈ (n.get "applicable_rule_families").items, v ≠ .str "*" → v ∈ ns.categories
  sources : ∀ v ∈ (n.get "source_basis").items, v ∈ ns.sources
  targets : ∀ v ∈ (n.get "suppresses_indicators").items, v ∈ ns.positive

lemma cleanNegative_of_negativeProblems {n : Json} (h : ShapedNegative n)
    (hok : negativeProblems ns n = .ok []) : CleanNegative ns n := by
  unfold negativeProblems at hok
  obtain ⟨nid, -, hok⟩ := bind_ok hok
  obtain ⟨families, hfamilies, hok⟩ := bind_ok hok
  obtain rfl := Except.ok.inj (h.families.members.symm.trans hfamilies)
  obtain ⟨family, hfamily, hok⟩ := bind_ok hok
  obtain ⟨values, hvalues, hok⟩ := bind_ok hok
  obtain rfl := Except.ok.inj (h.sources.members.symm.trans hvalues)
  obtain ⟨sources, hsources, hok⟩ := bind_ok hok
  obtain ⟨values, hvalues, hok⟩ := bind_ok hok
  obtain rfl := Except.ok.inj (h.targets.members.symm.trans hvalues)
  obtain ⟨targets, htargets, hok⟩ := bind_ok hok
  have hnil := Except.ok.inj hok
  simp only [List.append_eq_nil_iff] at hnil
  obtain ⟨⟨rfl, rfl⟩, rfl⟩ := hnil
  refine ⟨fun v hv hstar => mem_of_missing hfamily v ?_, mem_of_missing hsources,
    mem_of_missing htargets⟩
  exact List.mem_filter.mpr ⟨hv, decide_eq_true hstar⟩

structure CleanOverride (ns : Namespaces) (o : Json) : Prop where
  operands : ∀ i, Occurs i (o.get "condition") → .str i ∈ ns.positive
  families : ∀ v ∈ (o.get "applies_to_families").items, v ∈ ns.categories
  rules : ∀ v ∈ (o.get "applies_to_rules").items, v ∈ ns.rules

lemma cleanOverride_of_overrideProblems {o : Json} (h : ShapedOverride o)
    (hok : overrideProblems ns o = .ok []) : CleanOverride ns o := by
  unfold overrideProblems at hok
  obtain ⟨oid, -, hok⟩ := bind_ok hok
  obtain ⟨condition, hcondition, hok⟩ := bind_ok hok
  obtain rfl := Except.ok.inj ((Py.getD_null h.named.isObj _).symm.trans hcondition)
  obtain ⟨ids, hids, hok⟩ := bind_ok hok
  obtain ⟨values, hvalues, hok⟩ := bind_ok hok
  obtain rfl := Except.ok.inj (h.families.members.symm.trans hvalues)
  obtain ⟨families, hfamilies, hok⟩ := bind_ok hok
  obtain ⟨values, hvalues, hok⟩ := bind_ok hok
  obtain rfl := Except.ok.inj (h.rules.members.symm.trans hvalues)
  obtain ⟨rules, hrules, hok⟩ := bind_ok hok
  obtain ⟨values, -, hok⟩ := bind_ok hok
  obtain ⟨blocked, -, hok⟩ := bind_ok hok
  have hnil := Except.ok.inj hok
  simp only [List.append_eq_nil_iff] at hnil
  obtain ⟨⟨⟨hindicators, rfl⟩, rfl⟩, -⟩ := hnil
  refine ⟨fun i hi => ?_, mem_of_missing hfamilies, mem_of_missing hrules⟩
  have hnone := List.filter_eq_nil_iff.mp (List.map_eq_nil_iff.mp hindicators) i
    (mem_sortedUnique.mpr ((mem_of_operands hids).mpr hi))
  simpa using hnone

/-- No record has a problem. -/
structure Clean (c : Components) (ns : Namespaces) : Prop where
  rules : ∀ r ∈ c.rules, CleanRule ns r
  families : ∀ f ∈ c.familyRecords, CleanFamily ns f
  subcategories : ∀ cat ∈ c.categories, ∀ s ∈ (cat.get "subcategories").items,
    ∀ g ∈ entriesIn (s.get "dimensions"), ∀ v ∈ g.2.items, ∃ axis ∈ ns.axes, v ∈ axis.2
  negatives : ∀ n ∈ c.negativeRecords, CleanNegative ns n
  overrides : ∀ o ∈ c.overrides, CleanOverride ns o
  evidence : ∀ e ∈ c.evidenceRecords, e.get "manifest_source_id" ∈ ns.sources
  sources : ∀ s ∈ c.sourceRecords, ∀ v ∈ ((s.get "manual_retrieval").get "evidence_ids").items,
    v ∈ ns.evidence.map Prod.fst

lemma clean_of_validateReferences (hshaped : Shaped c) (hkeyed : KeyedComponents c)
    (h : validateReferences c = .ok []) : ∃ ns, NamesOf c ns ∧ Clean c ns := by
  have hparts := shapedParts_of_shaped hshaped
  obtain ⟨_, hnegativesKey, -⟩ := hshaped.negatives
  obtain ⟨_, hfamiliesKey, -⟩ := hshaped.families
  obtain ⟨_, htaxonomyKey, -⟩ := hshaped.taxonomy
  obtain ⟨_, hsourcesKey, -⟩ := hshaped.sources
  obtain ⟨_, hevidenceKey, -⟩ := hshaped.evidence
  unfold validateReferences at h
  obtain ⟨ns, hns, h⟩ := bind_ok h
  obtain ⟨rules, hrules, h⟩ := bind_ok h
  obtain ⟨familyRecords, hfamilyRecords, h⟩ := bind_ok h
  obtain rfl := Except.ok.inj ((records_eq_ok hfamiliesKey).symm.trans hfamilyRecords)
  obtain ⟨families, hfamilies, h⟩ := bind_ok h
  obtain ⟨categories, hcategories, h⟩ := bind_ok h
  obtain rfl := Except.ok.inj ((records_eq_ok htaxonomyKey).symm.trans hcategories)
  obtain ⟨taxonomy, htaxonomy, h⟩ := bind_ok h
  obtain ⟨negativeRecords, hnegativeRecords, h⟩ := bind_ok h
  obtain rfl := Except.ok.inj ((records_eq_ok hnegativesKey).symm.trans hnegativeRecords)
  obtain ⟨negatives, hnegatives, h⟩ := bind_ok h
  obtain ⟨overrideRecords, hoverrideRecords, h⟩ := bind_ok h
  obtain rfl := Except.ok.inj (hshaped.overrides.members.symm.trans hoverrideRecords)
  obtain ⟨overrides, hoverrides, h⟩ := bind_ok h
  obtain ⟨evidenceRecords, hevidenceRecords, h⟩ := bind_ok h
  obtain rfl := Except.ok.inj ((records_eq_ok hevidenceKey).symm.trans hevidenceRecords)
  obtain ⟨evidence, hevidence, h⟩ := bind_ok h
  obtain ⟨sourceRecords, hsourceRecords, h⟩ := bind_ok h
  obtain rfl := Except.ok.inj ((records_eq_ok hsourcesKey).symm.trans hsourceRecords)
  obtain ⟨sources, hsources, h⟩ := bind_ok h
  have hnil := Except.ok.inj h
  simp only [List.append_eq_nil_iff] at hnil
  obtain ⟨⟨⟨⟨⟨⟨hrulesNil, hfamiliesNil⟩, htaxonomyNil⟩, hnegativesNil⟩, hoverridesNil⟩, hevidenceNil⟩,
    hsourcesNil⟩ := hnil
  refine ⟨ns, namesOf_namespaces hshaped hkeyed hns, ?_⟩
  exact {
    rules := fun r hr => cleanRule_of_ruleProblems (hshaped.rules r hr)
      (clean_of_mapM hrules hrulesNil r hr)
    families := fun f hf => cleanFamily_of_familyProblems (hparts.families f hf)
      (clean_of_mapM hfamilies hfamiliesNil f hf)
    subcategories := fun cat hcat => clean_of_categoryProblems (hparts.categories cat hcat)
      (clean_of_mapM htaxonomy htaxonomyNil cat hcat)
    negatives := fun n hn => cleanNegative_of_negativeProblems (hparts.negatives n hn)
      (clean_of_mapM hnegatives hnegativesNil n hn)
    overrides := fun o ho => cleanOverride_of_overrideProblems (hparts.overrides o ho)
      (clean_of_mapM hoverrides hoverridesNil o ho)
    evidence := fun e he => by
      obtain ⟨source, hsource, hok⟩ := bind_ok (clean_of_mapM hevidence hevidenceNil e he)
      obtain rfl := Except.ok.inj
        ((Py.getD_null (hkeyed.evidence.named e he).isObj _).symm.trans hsource)
      obtain ⟨_, -, hok⟩ := bind_ok hok
      exact mem_of_missing hok _ List.mem_cons_self
    sources := fun s hs => by
      obtain ⟨manual, hmanual, hok⟩ := bind_ok (clean_of_mapM hsources hsourcesNil s hs)
      obtain rfl := Except.ok.inj
        ((Py.getD_null (hkeyed.sources.named s hs).isObj _).symm.trans hmanual)
      obtain ⟨ids, hids, hok⟩ := bind_ok hok
      obtain rfl := Except.ok.inj ((members_manual (hparts.sources s hs).manual).symm.trans hids)
      obtain ⟨_, -, hok⟩ := bind_ok hok
      exact mem_of_missing hok }

/-! ### The references -/

lemma exists_id_of_mem {idKey : String} {rs : List Json} {index : Index} (h : ById rs idKey index)
    (hnamed : ∀ r ∈ rs, Named idKey r) {v : Json} (hv : v ∈ idsOf idKey rs) :
    ∃ id, v = .str id ∧ id ∈ index.map Prod.fst := by
  obtain ⟨r, hr, rfl⟩ := List.mem_map.mp hv
  obtain ⟨id, hid⟩ := hnamed r hr
  exact ⟨id, get_of_get? hid, (mem_keys_of_byId h).mpr ⟨r, hr, hid⟩⟩

/-- Every reference of components without problems resolves in the indexes. -/
lemma resolved_of_validateReferences (hshapes : checkShapes c = .ok ())
    (hreferences : validateReferences c = .ok []) (hexact : ExactIndexes c x) : Resolved c x := by
  have hshaped := shaped_of_checkShapes hshapes
  have hkeyed := keyed_of_checkShapes hshapes
  obtain ⟨ns, hnames, hclean⟩ := clean_of_validateReferences hshaped hkeyed hreferences
  have hpositive : ∀ v ∈ ns.positive, ∃ id, v = .str id ∧ id ∈ x.ids .indicators := by
    rw [hnames.positive]
    exact fun v => exists_id_of_mem hexact.indicatorsById hkeyed.indicators.named
  have hnegative : ∀ v ∈ ns.negative, ∃ id, v = .str id ∧ id ∈ x.ids .negatives := by
    rw [hnames.negative]
    exact fun v => exists_id_of_mem hexact.negativeIndicatorsById hkeyed.negatives.named
  have heither : ∀ v ∈ ns.indicators, ∃ id, v = .str id ∧ id ∈ x.ids .eitherPolarity := by
    intro v hv
    rcases List.mem_append.mp hv with hv | hv
    · exact (hpositive v hv).imp fun _ h => ⟨h.1, List.mem_append_left _ h.2⟩
    · exact (hnegative v hv).imp fun _ h => ⟨h.1, List.mem_append_right _ h.2⟩
  have htaxonomy : ∀ v ∈ idsOf "id" c.taxonomyNodes, ∃ id, v = .str id ∧ id ∈ x.ids .taxonomy :=
    fun v => exists_id_of_mem hexact.taxonomyById hkeyed.taxonomy.named
  have hterms : ∀ v ∈ idsOf "id" c.dimensionTerms, ∃ id, v = .str id ∧ id ∈ x.ids .dimensions :=
    fun v => exists_id_of_mem hexact.dimensionsById hkeyed.dimensions.named
  have hsources : ∀ v ∈ ns.sources, ∃ id, v = .str id ∧ id ∈ x.ids .sources := by
    rw [hnames.sources]
    exact fun v => exists_id_of_mem hexact.sourcesById hkeyed.sources.named
  have hevidence : ∀ e ∈ ns.evidence, ∃ id record, e.1 = .str id ∧ (id, record) ∈ x.evidenceById ∧
      record.get "manifest_source_id" = e.2 := by
    rw [hnames.evidence]
    intro e he
    obtain ⟨record, hrecord, rfl⟩ := List.mem_map.mp he
    obtain ⟨id, hid⟩ := hkeyed.evidence.named record hrecord
    exact ⟨id, record, get_of_get? hid, (hexact.evidenceById.mem id record).mpr ⟨hrecord, hid⟩, rfl⟩
  have hevidenceIds : ∀ v ∈ ns.evidence.map Prod.fst, ∃ id, v = .str id ∧ id ∈ x.ids .evidence := by
    intro v hv
    obtain ⟨e, he, rfl⟩ := List.mem_map.mp hv
    obtain ⟨id, record, hid, hmem, -⟩ := hevidence e he
    exact ⟨id, hid, List.mem_map_of_mem hmem⟩
  refine ⟨fun table v hrefers => ?_, fun r hr ref href id hid => ?_, fun r hr hkind i hi => ?_,
    fun r hr hkind i hi => ?_, fun r hr id hid hneg => ?_⟩
  · cases hrefers with
    | trigger hr h => exact heither _ ((hclean.rules _ hr).trigger _ h)
    | suppressor hr h => exact heither _ ((hclean.rules _ hr).suppressor _ h)
    | taxonomyRef hr h => exact htaxonomy _ (hnames.taxonomy ((hclean.rules _ hr).taxonomy _ h))
    | ruleSource hr h => exact hsources _ ((hclean.rules _ hr).sources _ h)
    | ruleEvidence hr href h =>
      exact hevidenceIds _ (List.mem_map_of_mem ((hclean.rules _ hr).evidence _ href _ h))
    | familyOutput hf h => exact hpositive _ ((hclean.families _ hf).outputs _ h)
    | familyInteraction hf h => exact hnegative _ ((hclean.families _ hf).negatives _ h)
    | familyOverride hf h =>
      have hmem := (hclean.families _ hf).overrides _ h
      rw [hnames.overrides] at hmem
      exact exists_id_of_mem hexact.overridesById hkeyed.overrides.named hmem
    | familyDimension hf hg h =>
      have hmem := (hclean.families _ hf).dimensions _ hg _ h
      rw [hnames.terms] at hmem
      exact hterms _ hmem
    | subcategoryDimension hcat hs hg h =>
      obtain ⟨axis, haxis, hmem⟩ := hclean.subcategories _ hcat _ hs _ hg _ h
      exact hterms _ (hnames.axes axis haxis hmem)
    | negativeFamily hn h hv =>
      exact htaxonomy _ (hnames.categories ((hclean.negatives _ hn).families _ h hv))
    | negativeSource hn h => exact hsources _ ((hclean.negatives _ hn).sources _ h)
    | negativeTarget hn h => exact hpositive _ ((hclean.negatives _ hn).targets _ h)
    | overrideOperand ho h => exact hpositive _ ((hclean.overrides _ ho).operands _ h)
    | overrideFamily ho h => exact htaxonomy _ (hnames.categories ((hclean.overrides _ ho).families _ h))
    | overrideRule ho h =>
      have hmem := (hclean.overrides _ ho).rules _ h
      rw [hnames.rules] at hmem
      exact exists_id_of_mem hexact.rulesById hkeyed.rules.named hmem
    | evidenceSource he => exact hsources _ (hclean.evidence _ he)
    | sourceEvidence hs h => exact hevidenceIds _ (hclean.sources _ hs _ h)
  · obtain ⟨id', record, hid', hmem, howner⟩ := hevidence _ ((hclean.rules r hr).evidence ref href _ hid)
    cases hid'
    exact ⟨record, hmem, howner⟩
  · have hrule := hclean.rules r hr
    have hmem : Json.str i ∈ ns.positive := by
      rcases List.mem_append.mp (hrule.trigger i hi) with h | h
      · exact h
      · exact hrule.composite hkind i hi h
    obtain ⟨id, hid, hmem⟩ := hpositive _ hmem
    cases hid
    exact hmem
  · have hrule := hclean.rules r hr
    have hmem : Json.str i ∈ ns.negative := by
      rcases List.mem_append.mp (hrule.trigger i hi) with h | h
      · exact hrule.suppression hkind i hi h
      · exact h
    obtain ⟨id, hid, hmem⟩ := hnegative _ hmem
    cases hid
    exact hmem
  · obtain ⟨hrule, hpublished⟩ := List.mem_filter.mp hr
    have hstatus : lifecycleStatus r = .ok (.str "PUBLISHED") := by
      split at hpublished
      next status hstatus =>
        rw [hstatus, beq_iff_eq.mp hpublished]
      · cases hpublished
    obtain ⟨n, hn, hget⟩ := (mem_keys_of_byId hexact.negativeIndicatorsById).mp hneg
    have hmem : Json.str id ∈ ns.negative := by
      rw [hnames.negative]
      exact List.mem_map.mpr ⟨n, hn, get_of_get? hget⟩
    have hactive := (hclean.rules r hrule).live hstatus _ hid hmem
    rw [hnames.activeNegative] at hactive
    obtain ⟨a, ha, hget⟩ := List.mem_map.mp hactive
    exact ⟨a, ha, get_eq_str_iff.mp hget, trivial⟩

end TrustLens.Loader
