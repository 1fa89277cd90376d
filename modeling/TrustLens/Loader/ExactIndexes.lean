import TrustLens.Loader.KeyedRecords

/-!
# What the indexes hold

Each index by an id holds the records of its list. Each reverse index relates its keys to ids, by
a relation that is read off the components.
-/

namespace TrustLens.Loader

open TrustLens.Runtime (categoryOf)

variable {c : Components} {x : Indexes} {r n o f : Json} {i id rid cat : String}

/-! ### Reverse indexes -/

/-- A reverse index of a relation: every pair is found, each key once, its ids sorted and distinct. -/
structure Reverse (index : ReverseIndex) (R : String → String → Prop) : Prop where
  nodup : (index.map Prod.fst).Nodup
  sorted : ∀ e ∈ index, e.2.Pairwise (· < ·)
  mem : ∀ k id, (∃ ids, (k, ids) ∈ index ∧ id ∈ ids) ↔ R k id

lemma pairwise_lt_sortedUnique (xs : List String) : (sortedUnique xs).Pairwise (· < ·) :=
  ((pairwise_sortedUnique xs).and (nodup_sortedUnique xs)).imp fun h => lt_of_le_of_ne h.1 h.2

lemma mem_sortedStrings {values : List Json} {s : String} :
    s ∈ sortedStrings values ↔ .str s ∈ values := by
  rw [sortedStrings, mem_sortedUnique, List.mem_filterMap]
  constructor
  · rintro ⟨v, hv, hs⟩
    cases v with
    | str s' => exact Option.some.inj hs ▸ hv
    | _ => cases hs
  · exact fun h => ⟨_, h, rfl⟩

lemma Reverse.congr {index : ReverseIndex} {R R' : String → String → Prop} (h : Reverse index R)
    (hR : ∀ k id, R k id ↔ R' k id) : Reverse index R' :=
  ⟨h.nodup, h.sorted, fun k id => (h.mem k id).trans (hR k id)⟩

lemma reverse_grouped (pairs : List (String × String)) :
    Reverse (grouped pairs) fun k id => (k, id) ∈ pairs where
  nodup := by
    rw [grouped, List.map_map]
    exact (List.map_id _).symm ▸ nodup_sortedUnique _
  sorted e he := by
    obtain ⟨k, -, rfl⟩ := List.mem_map.mp he
    exact pairwise_lt_sortedUnique _
  mem k id := by
    have hids : id ∈ sortedUnique ((pairs.filter (·.1 == k)).map Prod.snd) ↔ (k, id) ∈ pairs := by
      rw [mem_sortedUnique]
      constructor
      · intro h
        obtain ⟨⟨k', id'⟩, hmem, rfl⟩ := List.mem_map.mp h
        obtain ⟨hmem, hk⟩ := List.mem_filter.mp hmem
        exact beq_iff_eq.mp hk ▸ hmem
      · exact fun h => List.mem_map.mpr ⟨_, List.mem_filter.mpr ⟨h, beq_self_eq_true k⟩, rfl⟩
    constructor
    · rintro ⟨ids, hmem, hid⟩
      obtain ⟨k', -, heq⟩ := List.mem_map.mp hmem
      cases heq
      exact hids.mp hid
    · intro h
      refine ⟨_, List.mem_map.mpr ⟨k, ?_, rfl⟩, hids.mpr h⟩
      exact mem_sortedUnique.mpr (List.mem_map.mpr ⟨_, h, rfl⟩)

/-! ### What the reverse indexes relate -/

/-- A taxonomy reference of the rule is of the category. -/
def InCategory (r : Json) (cat : String) : Prop :=
  ∃ ref, .str ref ∈ (r.get "taxonomy_refs").items ∧ categoryOf ref = some cat

/-- A negative indicator applies to a rule: to every rule, or to one of its categories. -/
def Applies (n r : Json) : Prop :=
  .str "*" ∈ (n.get "applicable_rule_families").items ∨
    ∃ cat, InCategory r cat ∧ .str cat ∈ (n.get "applicable_rule_families").items

/-- A record of a list is called by the id, and has the property. -/
def Called (rs : List Json) (idKey id : String) (P : Json → Prop) : Prop :=
  ∃ r ∈ rs, r.get? idKey = some (.str id) ∧ P r

/-- Every index holds what the components say, and nothing else. -/
structure ExactIndexes (c : Components) (x : Indexes) : Prop where
  rulesById : ById c.rules "id" x.rulesById
  publishedRulesById : ById c.published "id" x.publishedRulesById
  indicatorsById : ById c.indicators "id" x.indicatorsById
  negativeIndicatorsById : ById c.negativeRecords "negative_indicator_id" x.negativeIndicatorsById
  indicatorFamiliesById : ById c.familyRecords "family_id" x.indicatorFamiliesById
  taxonomyById : ById c.taxonomyNodes "id" x.taxonomyById
  dimensionsById : ById c.dimensionTerms "id" x.dimensionsById
  sourcesById : ById c.sourceRecords "id" x.sourcesById
  evidenceById : ById c.evidenceRecords "evidence_id" x.evidenceById
  overridesById : ById c.overrides "override_id" x.overridesById
  actionPolicyById : ById c.policyEntries "policy_entry_id" x.actionPolicyById
  rulesByIndicator : Reverse x.rulesByIndicator fun i rid => Called c.published "id" rid fun r =>
    Occurs i ((r.get "logic").get "require") ∧ Called c.indicators "id" i fun _ => True
  rulesByCategory : Reverse x.rulesByCategory fun cat rid =>
    Called c.published "id" rid fun r => InCategory r cat
  negativeIndicatorsByRule : Reverse x.negativeIndicatorsByRule fun rid nid =>
    Called c.published "id" rid fun r =>
      Called c.active "negative_indicator_id" nid fun n => Applies n r
  negativesOfRules : ∀ rid, rid ∈ x.negativeIndicatorsByRule.map Prod.fst ↔
    Called c.published "id" rid fun _ => True
  positiveIndicatorsByFamily : Reverse x.positiveIndicatorsByFamily fun fid i =>
    Called c.familyRecords "family_id" fid fun f => .str i ∈ (f.get "indicator_outputs").items
  outputsOfFamilies : ∀ fid, fid ∈ x.positiveIndicatorsByFamily.map Prod.fst ↔
    Called c.familyRecords "family_id" fid fun _ => True
  overridesByIndicator : Reverse x.overridesByIndicator fun i oid =>
    Called c.overrides "override_id" oid fun o => Occurs i (o.get "condition")
  overridesByTarget : Reverse x.overridesByTarget fun target oid =>
    Called c.overrides "override_id" oid fun o =>
      .str target ∈ (o.get "applies_to_families").items ∨ .str target ∈ (o.get "applies_to_rules").items

/-! ### One record -/

lemma mem_ruleCategories (h : ShapedRule r) :
    ∃ categories, ruleCategories r = .ok categories ∧ ∀ cat, cat ∈ categories ↔ InCategory r cat := by
  refine ⟨_, bind_eq_of_ok h.taxonomy.members rfl, fun cat => ?_⟩
  simp only [List.mem_filterMap, mem_sortedStrings, InCategory]

/-- What a rule adds to the reverse indexes. -/
structure EntriesOf (positive active : List Json) (r : Json) (rid : String) (e : RuleEntries) : Prop where
  indicators : ∀ i id, (i, id) ∈ e.indicators ↔
    id = rid ∧ Occurs i ((r.get "logic").get "require") ∧ .str i ∈ positive
  categories : ∀ cat id, (cat, id) ∈ e.categories ↔ id = rid ∧ InCategory r cat
  rule : e.negatives.1 = rid
  sorted : e.negatives.2.Pairwise (· < ·)
  negatives : ∀ nid, nid ∈ e.negatives.2 ↔
    Called active "negative_indicator_id" nid fun n => Applies n r

lemma mem_map_mk {xs : List String} {a b : String} : (a, b) ∈ xs.map (·, rid) ↔ b = rid ∧ a ∈ xs := by
  constructor
  · intro h
    obtain ⟨a', ha', heq⟩ := List.mem_map.mp h
    cases heq
    exact ⟨rfl, ha'⟩
  · rintro ⟨rfl, ha⟩
    exact List.mem_map_of_mem ha

lemma entriesOf_ruleEntries {positive active : List Json} {e : RuleEntries} (hr : ShapedRule r)
    (hactive : ∀ n ∈ active, ShapedNegative n) (hid : r.get? "id" = some (.str rid))
    (h : ruleEntries positive active r = .ok e) : EntriesOf positive active r rid e := by
  obtain ⟨logic, hlogic, hobj, -⟩ := hr.logic
  obtain ⟨categories, hcategories, hmem⟩ := mem_ruleCategories hr
  unfold ruleEntries at h
  obtain ⟨value, hvalue, h⟩ := bind_ok h
  obtain rfl := Except.ok.inj ((Py.item_of_get? hid).symm.trans hvalue)
  obtain ⟨logic', hlogic', h⟩ := bind_ok h
  obtain rfl := Except.ok.inj ((Py.getD_of_get? hlogic _).symm.trans hlogic')
  obtain ⟨condition, hcondition, h⟩ := bind_ok h
  obtain rfl := Except.ok.inj ((Py.getD_null hobj _).symm.trans hcondition)
  obtain ⟨require, hrequire, h⟩ := bind_ok h
  obtain ⟨categories', hcategories', h⟩ := bind_ok h
  obtain rfl := Except.ok.inj (hcategories.symm.trans hcategories')
  obtain ⟨applicable, happlicable, h⟩ := bind_ok h
  cases h
  -- a negative indicator is listed under its id where it applies
  have hlisted : ∀ n ∈ active, ∀ listed : Option Json, (do
      let families ← members n "applicable_rule_families"
      if families.contains (.str "*") || categories.any fun c => families.contains (.str c) then
        return some (← Py.item n "negative_indicator_id")
      else return none : Load (Option Json)) = .ok listed →
      ∀ v, listed = some v ↔ v = n.get "negative_indicator_id" ∧ Applies n r := by
    intro n hn listed hlisted v
    have hshaped := hactive n hn
    obtain ⟨families, hfamilies, hlisted⟩ := bind_ok hlisted
    obtain rfl := Except.ok.inj (hshaped.families.members.symm.trans hfamilies)
    have happlies : ((n.get "applicable_rule_families").items.contains (.str "*") ||
        categories.any fun c => (n.get "applicable_rule_families").items.contains (.str c)) = true ↔
          Applies n r := by
      simp only [Bool.or_eq_true, List.contains_iff_mem, List.any_eq_true, hmem, Applies]
    split_ifs at hlisted with hcond
    · obtain ⟨value, hvalue, hlisted⟩ := bind_ok hlisted
      obtain rfl := Except.ok.inj ((item_eq_ok hshaped.named).symm.trans hvalue)
      cases hlisted
      exact ⟨fun h => ⟨(Option.some.inj h).symm, happlies.mp hcond⟩, fun h => congrArg some h.1.symm⟩
    · cases hlisted
      exact iff_of_false (fun h => by cases h) fun h => hcond (happlies.mpr h.2)
  exact {
    indicators := fun i id => by
      rw [mem_map_mk, List.mem_filter, mem_of_operands hrequire, List.contains_iff_mem,
        get_of_get? hlogic]
      rfl
    categories := fun cat id => by
      rw [mem_map_mk, hmem]
      rfl
    rule := rfl
    sorted := pairwise_lt_sortedUnique _
    negatives := fun nid => by
      rw [mem_sortedStrings, List.mem_filterMap]
      constructor
      · rintro ⟨listed, hmem, hsome⟩
        obtain ⟨n, hn, hok⟩ := (mem_of_mapM_ok happlicable listed).mp hmem
        obtain ⟨hget, happlies⟩ := (hlisted n hn listed hok _).mp hsome
        exact ⟨n, hn, get_eq_str_iff.mp hget.symm, happlies⟩
      · rintro ⟨n, hn, hget, happlies⟩
        obtain ⟨listed, hmem, hok⟩ := exists_of_mapM_ok happlicable hn
        exact ⟨listed, hmem, (hlisted n hn listed hok _).mpr ⟨(get_of_get? hget).symm, happlies⟩⟩ }

/-- What an override adds to the reverse indexes. -/
structure TargetsOf (o : Json) (oid : String) (e : List (String × String) × List (String × String)) :
    Prop where
  operands : ∀ i id, (i, id) ∈ e.1 ↔ id = oid ∧ Occurs i (o.get "condition")
  targets : ∀ t id, (t, id) ∈ e.2 ↔ id = oid ∧ (.str t ∈ (o.get "applies_to_families").items ∨
    .str t ∈ (o.get "applies_to_rules").items)

lemma targetsOf_overrideEntries {oid : String} {e : List (String × String) × List (String × String)}
    (ho : ShapedOverride o) (hid : o.get? "override_id" = some (.str oid))
    (h : overrideEntries o = .ok e) : TargetsOf o oid e := by
  unfold overrideEntries at h
  obtain ⟨value, hvalue, h⟩ := bind_ok h
  obtain rfl := Except.ok.inj ((Py.item_of_get? hid).symm.trans hvalue)
  obtain ⟨condition, hcondition, h⟩ := bind_ok h
  obtain rfl := Except.ok.inj ((Py.getD_null ho.named.isObj _).symm.trans hcondition)
  obtain ⟨ids, hids, h⟩ := bind_ok h
  obtain ⟨families, hfamilies, h⟩ := bind_ok h
  obtain rfl := Except.ok.inj (ho.families.members.symm.trans hfamilies)
  obtain ⟨rules, hrules, h⟩ := bind_ok h
  obtain rfl := Except.ok.inj (ho.rules.members.symm.trans hrules)
  cases h
  constructor
  · intro i id
    rw [mem_map_mk, mem_of_operands hids]
    rfl
  · intro t id
    have hstrs : ∀ vs : List Json, t ∈ vs.filterMap Json.str? ↔ .str t ∈ vs := by
      intro vs
      rw [← mem_sortedStrings, sortedStrings, mem_sortedUnique]
    rw [mem_map_mk, hstrs, List.mem_append]
    rfl

/-! ### The indexes -/

lemma filter_paired {f : Json → Load Json} {pairs : List (Json × Json)} {rs : List Json} (v : Json)
    (h : (rs.mapM fun r => do return (r, ← f r)) = .ok pairs) :
    (pairs.filter (·.2 == v)).map Prod.fst = rs.filter fun r =>
      match f r with
      | .ok w => w == v
      | .error _ => false := by
  induction rs generalizing pairs with
  | nil =>
    cases h
    rfl
  | cons r rs ih =>
    rw [List.mapM_cons] at h
    obtain ⟨pair, hpair, h⟩ := bind_ok h
    obtain ⟨rest, hrest, h⟩ := bind_ok h
    cases h
    obtain ⟨w, hw, hpair⟩ := bind_ok hpair
    cases hpair
    rw [List.filter_cons, List.filter_cons, hw, ← ih hrest]
    dsimp only
    split_ifs <;> rfl

lemma records_eq_ok {component : Json} {k : String} {xs : List Json}
    (h : component.get? k = some (.arr xs)) : records component k = .ok (component.get k).items := by
  rw [items_of_get? h]
  exact records_of_get? h

/-- The steps of `build_indexes`. -/
structure Built (c : Components) (x : Indexes) : Prop where
  rules : indexBy "id" c.rules = .ok x.rulesById
  published : indexBy "id" c.published = .ok x.publishedRulesById
  indicators : indexBy "id" c.indicators = .ok x.indicatorsById
  negatives : indexBy "negative_indicator_id" c.negativeRecords = .ok x.negativeIndicatorsById
  families : indexBy "family_id" c.familyRecords = .ok x.indicatorFamiliesById
  outputs : c.familyRecords.mapM familyOutputs = .ok x.positiveIndicatorsByFamily
  taxonomy : ∃ entries, c.categories.mapM taxonomyEntries = .ok entries ∧
    x.taxonomyById = entries.flatten
  dimensions : ∃ entries, (c.groups.mapM fun g => do indexBy "id" (← members g.2 "terms")) =
    .ok entries ∧ x.dimensionsById = entries.flatten
  sources : indexBy "id" c.sourceRecords = .ok x.sourcesById
  evidence : indexBy "evidence_id" c.evidenceRecords = .ok x.evidenceById
  overrides : indexBy "override_id" c.overrides = .ok x.overridesById
  policy : ∃ entries, records c.actionPolicy "entries" = .ok entries ∧
    indexBy "policy_entry_id" entries = .ok x.actionPolicyById
  byRule : ∃ positive entries, idSet c.indicators "id" = .ok positive ∧
    c.published.mapM (ruleEntries positive c.active) = .ok entries ∧
      x.rulesByIndicator = grouped (entries.flatMap RuleEntries.indicators) ∧
      x.rulesByCategory = grouped (entries.flatMap RuleEntries.categories) ∧
      x.negativeIndicatorsByRule = entries.map RuleEntries.negatives
  byOverride : ∃ entries, c.overrides.mapM overrideEntries = .ok entries ∧
    x.overridesByIndicator = grouped (entries.flatMap Prod.fst) ∧
    x.overridesByTarget = grouped (entries.flatMap Prod.snd)

lemma active_eq {pairs : List (Json × Json)} (h : ShapedParts c)
    (hpairs : (c.negativeRecords.mapM fun n => do return (n, ← Py.getD n "status" .null) :
      Load (List (Json × Json))) = .ok pairs) :
    (pairs.filter (·.2 == .str "ACTIVE")).map Prod.fst = c.active := by
  rw [filter_paired _ hpairs]
  refine List.filter_congr fun n hn => ?_
  rw [Py.getD_null (h.negatives n hn).named.isObj]

lemma built_of_buildIndexes (hshaped : Shaped c) (h : buildIndexes c = .ok x) : Built c x := by
  have hparts := shapedParts_of_shaped hshaped
  obtain ⟨_, hindicatorsKey, -⟩ := hshaped.indicators
  obtain ⟨_, hnegativesKey, -⟩ := hshaped.negatives
  obtain ⟨_, hfamiliesKey, -⟩ := hshaped.families
  obtain ⟨_, hgroupsKey, -⟩ := hshaped.dimensions
  obtain ⟨_, htaxonomyKey, -⟩ := hshaped.taxonomy
  obtain ⟨_, hsourcesKey, -⟩ := hshaped.sources
  obtain ⟨_, hevidenceKey, -⟩ := hshaped.evidence
  unfold buildIndexes at h
  obtain ⟨statuses, hstatuses, h⟩ := bind_ok h
  obtain ⟨indicators, hindicators, h⟩ := bind_ok h
  obtain rfl := Except.ok.inj ((records_eq_ok hindicatorsKey).symm.trans hindicators)
  obtain ⟨positive, hpositive, h⟩ := bind_ok h
  obtain ⟨negatives, hnegatives, h⟩ := bind_ok h
  obtain rfl := Except.ok.inj ((records_eq_ok hnegativesKey).symm.trans hnegatives)
  obtain ⟨families, hfamilies, h⟩ := bind_ok h
  obtain rfl := Except.ok.inj ((records_eq_ok hfamiliesKey).symm.trans hfamilies)
  obtain ⟨dimensions, hdimensions, h⟩ := bind_ok h
  obtain rfl := Except.ok.inj ((Py.item_of_get? hgroupsKey).symm.trans hdimensions)
  obtain ⟨groups, hgroups, h⟩ := bind_ok h
  obtain rfl : c.groups = groups := (groups_of_get? hgroupsKey).trans (Except.ok.inj hgroups)
  obtain ⟨terms, hterms, h⟩ := bind_ok h
  obtain ⟨overrides, hoverrides, h⟩ := bind_ok h
  obtain rfl := Except.ok.inj (hshaped.overrides.members.symm.trans hoverrides)
  obtain ⟨activity, hactivity, h⟩ := bind_ok h
  obtain ⟨entries, hentries, h⟩ := bind_ok h
  obtain ⟨reverse, hreverse, h⟩ := bind_ok h
  obtain ⟨rules, hrules, h⟩ := bind_ok h
  obtain ⟨published, hpublished, h⟩ := bind_ok h
  obtain ⟨indicatorsById, hindicatorsById, h⟩ := bind_ok h
  obtain ⟨negativesById, hnegativesById, h⟩ := bind_ok h
  obtain ⟨familiesById, hfamiliesById, h⟩ := bind_ok h
  obtain ⟨outputs, houtputs, h⟩ := bind_ok h
  obtain ⟨categories, hcategories, h⟩ := bind_ok h
  obtain rfl := Except.ok.inj ((records_eq_ok htaxonomyKey).symm.trans hcategories)
  obtain ⟨taxonomy, htaxonomy, h⟩ := bind_ok h
  obtain ⟨sources, hsources, h⟩ := bind_ok h
  obtain rfl := Except.ok.inj ((records_eq_ok hsourcesKey).symm.trans hsources)
  obtain ⟨sourcesById, hsourcesById, h⟩ := bind_ok h
  obtain ⟨evidence, hevidence, h⟩ := bind_ok h
  obtain rfl := Except.ok.inj ((records_eq_ok hevidenceKey).symm.trans hevidence)
  obtain ⟨evidenceById, hevidenceById, h⟩ := bind_ok h
  obtain ⟨overridesById, hoverridesById, h⟩ := bind_ok h
  obtain ⟨policyEntries, hpolicyEntries, h⟩ := bind_ok h
  obtain ⟨policy, hpolicy, h⟩ := bind_ok h
  cases h
  rw [active_eq hparts hactivity, filter_paired _ hstatuses] at hentries
  rw [filter_paired _ hstatuses] at hpublished
  exact {
    rules := hrules
    published := hpublished
    indicators := hindicatorsById
    negatives := hnegativesById
    families := hfamiliesById
    outputs := houtputs
    taxonomy := ⟨taxonomy, htaxonomy, rfl⟩
    dimensions := ⟨terms, hterms, rfl⟩
    sources := hsourcesById
    evidence := hevidenceById
    overrides := hoverridesById
    policy := ⟨policyEntries, hpolicyEntries, hpolicy⟩
    byRule := ⟨positive, entries, hpositive, hentries, rfl, rfl, rfl⟩
    byOverride := ⟨reverse, hreverse, rfl, rfl⟩ }

section Traversal

variable {β : Type} {idKey : String} {rs : List Json} {f : Json → Load β} {entries : List β}

lemma byId_of_indexBy {index : Index} (hkeyed : Keyed idKey rs) (h : indexBy idKey rs = .ok index) :
    ById rs idKey index := by
  obtain rfl := Except.ok.inj ((indexBy_eq_ok hkeyed.named).symm.trans h)
  exact byId_entriesOf hkeyed

/-- What the records of a list add to one reverse index. -/
lemma mem_flatMap_iff {g : β → List (String × String)} {R : Json → String → Prop} {k id : String}
    (h : rs.mapM f = .ok entries) (hg : ∀ r ∈ rs, ∀ e, f r = .ok e → ∃ rid,
      r.get? idKey = some (.str rid) ∧ ∀ k id, (k, id) ∈ g e ↔ id = rid ∧ R r k) :
    (k, id) ∈ entries.flatMap g ↔ Called rs idKey id fun r => R r k := by
  rw [List.mem_flatMap]
  constructor
  · rintro ⟨e, he, hmem⟩
    obtain ⟨r, hr, hok⟩ := (mem_of_mapM_ok h e).mp he
    obtain ⟨rid, hrid, hmem'⟩ := hg r hr e hok
    obtain ⟨rfl, hR⟩ := (hmem' k id).mp hmem
    exact ⟨r, hr, hrid, hR⟩
  · rintro ⟨r, hr, hid, hR⟩
    obtain ⟨e, he, hok⟩ := exists_of_mapM_ok h hr
    obtain ⟨rid, hrid, hmem'⟩ := hg r hr e hok
    obtain rfl := Json.str.inj (Option.some.inj (hid.symm.trans hrid))
    exact ⟨e, he, (hmem' k id).mpr ⟨rfl, hR⟩⟩

/-- A reverse index with one entry for each record of a list. -/
lemma reverse_map {g : β → String × List String} {R : Json → String → Prop}
    (hkeyed : Keyed idKey rs) (h : rs.mapM f = .ok entries)
    (hg : ∀ r ∈ rs, ∀ e, f r = .ok e → r.get? idKey = some (.str (g e).1) ∧
      (g e).2.Pairwise (· < ·) ∧ ∀ id, id ∈ (g e).2 ↔ R r id) :
    Reverse (entries.map g) (fun rid id => Called rs idKey rid fun r => R r id) ∧
      ∀ rid, rid ∈ (entries.map g).map Prod.fst ↔ Called rs idKey rid fun _ => True := by
  have hkeys : (entries.map g).map Prod.fst = (entriesOf idKey rs).map Prod.fst := by
    have hall := forall₂_of_mapM_ok h
    rw [entriesOf, List.map_map, List.map_map]
    clear h hkeyed
    induction hall with
    | nil => rfl
    | cons hok _ ih =>
      rw [List.forall_mem_cons] at hg
      rw [List.map_cons, List.map_cons, ih hg.2]
      obtain ⟨hid, -⟩ := hg.1 _ hok
      dsimp only [Function.comp]
      rw [get_of_get? hid]
      rfl
  have hbyId := byId_entriesOf hkeyed
  refine ⟨⟨hkeys ▸ hbyId.nodup, fun e he => ?_, fun k id => ?_⟩, fun rid => ?_⟩
  · obtain ⟨added, hadded, rfl⟩ := List.mem_map.mp he
    obtain ⟨r, hr, hok⟩ := (mem_of_mapM_ok h added).mp hadded
    exact (hg r hr added hok).2.1
  · constructor
    · rintro ⟨ids, hmem, hid⟩
      obtain ⟨e, he, heq⟩ := List.mem_map.mp hmem
      obtain ⟨r, hr, hok⟩ := (mem_of_mapM_ok h e).mp he
      obtain ⟨hget, -, hids⟩ := hg r hr e hok
      rw [heq] at hget hids
      exact ⟨r, hr, hget, (hids id).mp hid⟩
    · rintro ⟨r, hr, hget, hR⟩
      obtain ⟨e, he, hok⟩ := exists_of_mapM_ok h hr
      obtain ⟨hget', -, hids⟩ := hg r hr e hok
      obtain rfl := Json.str.inj (Option.some.inj (hget.symm.trans hget'))
      exact ⟨_, List.mem_map_of_mem he, (hids id).mpr hR⟩
  · rw [hkeys, mem_keys_of_byId hbyId]
    exact exists_congr fun r => and_congr_right fun _ => (and_iff_left trivial).symm

end Traversal

lemma taxonomyEntries_eq_ok {cat : Json} (h : ShapedCategory cat) :
    taxonomyEntries cat = .ok (entriesOf "id" (cat :: (cat.get "subcategories").items)) :=
  bind_eq_of_ok (item_eq_ok h.named) (bind_eq_of_ok h.subcategories.members
    (bind_eq_of_ok (indexBy_eq_ok fun s hs => (h.subcategories.all s hs).named) rfl))

lemma familyOutputs_ok {e : String × List String} (h : ShapedFamily f) (hok : familyOutputs f = .ok e) :
    f.get? "family_id" = some (.str e.1) ∧ e.2.Pairwise (· < ·) ∧
      ∀ i, i ∈ e.2 ↔ .str i ∈ (f.get "indicator_outputs").items := by
  obtain ⟨fid, hfid⟩ := h.named
  obtain ⟨value, hvalue, hok⟩ := bind_ok hok
  obtain rfl := Except.ok.inj ((Py.item_of_get? hfid).symm.trans hvalue)
  obtain ⟨outputs, houtputs, hok⟩ := bind_ok hok
  obtain rfl := Except.ok.inj (h.outputs.members.symm.trans houtputs)
  cases hok
  exact ⟨hfid, pairwise_lt_sortedUnique _, fun i => mem_sortedStrings⟩

/-- Once the shapes are checked, every index is exact. -/
lemma exactIndexes_of_buildIndexes {entries : List Json} (hshapes : checkShapes c = .ok ())
    (hentries : c.actionPolicy.get? "entries" = some (.arr entries))
    (hpolicy : Keyed "policy_entry_id" entries) (h : buildIndexes c = .ok x) : ExactIndexes c x := by
  have hshaped := shaped_of_checkShapes hshapes
  have hparts := shapedParts_of_shaped hshaped
  have hkeyed := keyed_of_checkShapes hshapes
  have hbuilt := built_of_buildIndexes hshaped h
  have hpublished : Keyed "id" c.published := hkeyed.rules.filter _
  have hrule : ∀ r ∈ c.published, ShapedRule r := fun r hr =>
    hshaped.rules r (List.mem_of_mem_filter hr)
  have hactive : ∀ n ∈ c.active, ShapedNegative n := fun n hn =>
    hparts.negatives n (List.mem_of_mem_filter hn)
  obtain ⟨taxonomy, htaxonomy, htaxonomyById⟩ := hbuilt.taxonomy
  obtain ⟨terms, hterms, hdimensionsById⟩ := hbuilt.dimensions
  obtain ⟨policy, hpolicyEntries, hpolicyById⟩ := hbuilt.policy
  obtain ⟨positive, rules, hpositive, hrules, hbyIndicator, hbyCategory, hbyRule⟩ := hbuilt.byRule
  obtain ⟨overrides, hoverrides, hbyCondition, hbyTarget⟩ := hbuilt.byOverride
  obtain rfl := Except.ok.inj ((mapM_eq_ok fun cat hcat =>
    taxonomyEntries_eq_ok (hparts.categories cat hcat)).symm.trans htaxonomy)
  obtain rfl := Except.ok.inj ((mapM_eq_ok fun g hg => bind_eq_of_ok (hparts.groups g hg).members
    (indexBy_eq_ok (hparts.groups g hg).all)).symm.trans hterms)
  obtain rfl := Except.ok.inj ((records_of_get? hentries).symm.trans hpolicyEntries)
  obtain rfl := Except.ok.inj ((idSet_eq_ok hkeyed.indicators.named).symm.trans hpositive)
  have hadded : ∀ r ∈ c.published, ∀ e, ruleEntries (c.indicators.map (·.get "id")) c.active r = .ok e →
      ∃ rid, r.get? "id" = some (.str rid) ∧
        EntriesOf (c.indicators.map (·.get "id")) c.active r rid e := by
    intro r hr e hok
    obtain ⟨rid, hrid⟩ := hpublished.named r hr
    exact ⟨rid, hrid, entriesOf_ruleEntries (hrule r hr) hactive hrid hok⟩
  have hpositive : ∀ i, .str i ∈ c.indicators.map (·.get "id") ↔
      Called c.indicators "id" i fun _ => True := by
    intro i
    rw [List.mem_map]
    exact exists_congr fun r => and_congr_right fun _ => get_eq_str_iff.trans (and_iff_left trivial).symm
  have houtputs := reverse_map (g := id) hkeyed.families hbuilt.outputs fun f hf e hok =>
    familyOutputs_ok (hparts.families f hf) hok
  rw [List.map_id] at houtputs
  have hnegatives := reverse_map (g := RuleEntries.negatives) hpublished hrules fun r hr e hok => by
    obtain ⟨rid, hrid, he⟩ := hadded r hr e hok
    exact ⟨he.rule ▸ hrid, he.sorted, he.negatives⟩
  have hoverride : ∀ o ∈ c.overrides, ∀ e, overrideEntries o = .ok e → ∃ oid,
      o.get? "override_id" = some (.str oid) ∧ TargetsOf o oid e := by
    intro o ho e hok
    obtain ⟨oid, hoid⟩ := hkeyed.overrides.named o ho
    exact ⟨oid, hoid, targetsOf_overrideEntries (hparts.overrides o ho) hoid hok⟩
  exact {
    rulesById := byId_of_indexBy hkeyed.rules hbuilt.rules
    publishedRulesById := byId_of_indexBy hpublished hbuilt.published
    indicatorsById := byId_of_indexBy hkeyed.indicators hbuilt.indicators
    negativeIndicatorsById := byId_of_indexBy hkeyed.negatives hbuilt.negatives
    indicatorFamiliesById := byId_of_indexBy hkeyed.families hbuilt.families
    taxonomyById := by
      rw [htaxonomyById]
      exact (flatten_map_map _ _ _).symm ▸ byId_entriesOf hkeyed.taxonomy
    dimensionsById := by
      rw [hdimensionsById]
      exact (flatten_map_map _ _ _).symm ▸ byId_entriesOf hkeyed.dimensions
    sourcesById := byId_of_indexBy hkeyed.sources hbuilt.sources
    evidenceById := byId_of_indexBy hkeyed.evidence hbuilt.evidence
    overridesById := byId_of_indexBy hkeyed.overrides hbuilt.overrides
    actionPolicyById := by
      rw [Components.policyEntries, items_of_get? hentries]
      exact byId_of_indexBy hpolicy hpolicyById
    rulesByIndicator := by
      rw [hbyIndicator]
      refine (reverse_grouped _).congr fun i rid => mem_flatMap_iff (R := fun r i =>
        Occurs i ((r.get "logic").get "require") ∧ Called c.indicators "id" i fun _ => True) hrules
          fun r hr e hok => ?_
      obtain ⟨rid, hrid, he⟩ := hadded r hr e hok
      exact ⟨rid, hrid, fun i id => by rw [he.indicators, hpositive]⟩
    rulesByCategory := by
      rw [hbyCategory]
      refine (reverse_grouped _).congr fun cat rid => mem_flatMap_iff hrules fun r hr e hok => ?_
      obtain ⟨rid, hrid, he⟩ := hadded r hr e hok
      exact ⟨rid, hrid, he.categories⟩
    negativeIndicatorsByRule := by
      rw [hbyRule]
      exact hnegatives.1
    negativesOfRules := by
      rw [hbyRule]
      exact hnegatives.2
    positiveIndicatorsByFamily := houtputs.1
    outputsOfFamilies := houtputs.2
    overridesByIndicator := by
      rw [hbyCondition]
      refine (reverse_grouped _).congr fun i oid => mem_flatMap_iff
        (R := fun o i => Occurs i (o.get "condition")) hoverrides fun o ho e hok => ?_
      obtain ⟨oid, hoid, he⟩ := hoverride o ho e hok
      exact ⟨oid, hoid, he.operands⟩
    overridesByTarget := by
      rw [hbyTarget]
      refine (reverse_grouped _).congr fun t oid => mem_flatMap_iff (R := fun o t =>
        .str t ∈ (o.get "applies_to_families").items ∨ .str t ∈ (o.get "applies_to_rules").items)
          hoverrides fun o ho e hok => ?_
      obtain ⟨oid, hoid, he⟩ := hoverride o ho e hok
      exact ⟨oid, hoid, he.targets⟩ }

end TrustLens.Loader
