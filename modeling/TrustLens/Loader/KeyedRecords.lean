import Mathlib.Data.List.Pairwise
import TrustLens.Loader.Occurrences

/-!
# Records under their ids

An index by an id holds the records of its list, every one of them and each under its own id:
the shape pass lets no two records of a list have one id.
-/

namespace TrustLens.Loader

variable {idKey kind k id : String} {r : Json} {rs : List Json}

/-! ### Records under their ids -/

/-- Records that each call themselves by a string, no two of them by the same. -/
structure Keyed (idKey : String) (rs : List Json) : Prop where
  named : ∀ r ∈ rs, Named idKey r
  nodup : (rs.map (·.get idKey)).Nodup

/-- An index by an id: no entry is lost, and none is written twice. -/
structure ById (rs : List Json) (idKey : String) (index : Index) : Prop where
  nodup : (index.map Prod.fst).Nodup
  mem : ∀ id r, (id, r) ∈ index ↔ r ∈ rs ∧ r.get? idKey = some (.str id)

/-- The records of a list, each with its id. -/
def entriesOf (idKey : String) (rs : List Json) : Index := rs.map fun r => (key (r.get idKey), r)

lemma get_eq_str_iff : r.get idKey = .str id ↔ r.get? idKey = some (.str id) := by
  refine ⟨fun h => ?_, get_of_get?⟩
  unfold Json.get at h
  cases hget : r.get? idKey with
  | none =>
    rw [hget] at h
    cases h
  | some v =>
    rw [hget] at h
    exact congrArg some h

lemma mapM_eq_ok {α β ε : Type} {f : α → Except ε β} {g : α → β} {xs : List α}
    (h : ∀ x ∈ xs, f x = .ok (g x)) : xs.mapM f = .ok (xs.map g) := by
  refine mapM_ok_of_forall₂ ?_
  rw [List.forall₂_map_right_iff, List.forall₂_same]
  exact h

lemma item_eq_ok (h : Named idKey r) : (Py.item r idKey : Load Json) = .ok (r.get idKey) := by
  obtain ⟨id, hid⟩ := h
  rw [Py.item_of_get? hid, get_of_get? hid]

lemma hashed_eq_ok (h : Named idKey r) : (Py.hashed (r.get idKey) : Load Json) = .ok (r.get idKey) := by
  obtain ⟨id, hid⟩ := h
  rw [get_of_get? hid]
  rfl

lemma idSet_eq_ok (h : ∀ r ∈ rs, Named idKey r) : idSet rs idKey = .ok (rs.map (·.get idKey)) :=
  mapM_eq_ok fun r hr => bind_eq_of_ok (item_eq_ok (h r hr)) (hashed_eq_ok (h r hr))

lemma indexBy_eq_ok (h : ∀ r ∈ rs, Named idKey r) : indexBy idKey rs = .ok (entriesOf idKey rs) :=
  mapM_eq_ok fun r hr => bind_eq_of_ok (item_eq_ok (h r hr)) (bind_eq_of_ok (hashed_eq_ok (h r hr)) rfl)

lemma byId_entriesOf (h : Keyed idKey rs) : ById rs idKey (entriesOf idKey rs) where
  nodup := by
    have hinj : ∀ a ∈ rs.map (·.get idKey), ∀ b ∈ rs.map (·.get idKey), key a = key b → a = b := by
      intro a ha b hb hab
      obtain ⟨r, hr, rfl⟩ := List.mem_map.mp ha
      obtain ⟨r', hr', rfl⟩ := List.mem_map.mp hb
      obtain ⟨id, hid⟩ := h.named r hr
      obtain ⟨id', hid'⟩ := h.named r' hr'
      rw [get_of_get? hid, get_of_get? hid'] at hab ⊢
      exact congrArg Json.str hab
    have hkeys : (entriesOf idKey rs).map Prod.fst = (rs.map (·.get idKey)).map key := by
      rw [entriesOf, List.map_map, List.map_map]
      rfl
    rw [hkeys]
    exact h.nodup.map_on hinj
  mem id r := by
    constructor
    · intro hmem
      obtain ⟨r', hr', heq⟩ := List.mem_map.mp hmem
      cases heq
      obtain ⟨id, hid⟩ := h.named r hr'
      rw [get_of_get? hid]
      exact ⟨hr', hid⟩
    · rintro ⟨hr, hid⟩
      refine List.mem_map.mpr ⟨r, hr, ?_⟩
      rw [get_of_get? hid]
      rfl

lemma mem_keys_of_byId {index : Index} (h : ById rs idKey index) :
    id ∈ index.map Prod.fst ↔ ∃ r ∈ rs, r.get? idKey = some (.str id) := by
  constructor
  · intro hid
    obtain ⟨⟨id, r⟩, hmem, rfl⟩ := List.mem_map.mp hid
    exact ⟨r, (h.mem id r).mp hmem⟩
  · rintro ⟨r, hr, hid⟩
    exact List.mem_map.mpr ⟨(id, r), (h.mem id r).mpr ⟨hr, hid⟩, rfl⟩

lemma Keyed.filter (h : Keyed idKey rs) (p : Json → Bool) : Keyed idKey (rs.filter p) where
  named r hr := h.named r (List.mem_of_mem_filter hr)
  nodup := h.nodup.sublist (List.filter_sublist.map _)

/-! ### The ids that the shapes check -/

lemma get_of_recordId? (h : recordId? idKey r = some id) : r.get idKey = .str id := by
  obtain ⟨h, -⟩ := Option.filter_eq_some_iff.mp h
  obtain ⟨v, hv, hs⟩ := Option.bind_eq_some_iff.mp h
  rw [get_of_get? hv]
  cases v with
  | str s => exact congrArg Json.str (Option.some.inj hs)
  | _ => cases hs

lemma nodup_of_keyedMap {seen : List String} (h : keyedMap idKey kind seen rs = .ok ()) :
    (rs.map (·.get idKey)).Nodup ∧ ∀ r ∈ rs, ∀ id ∈ seen, r.get idKey ≠ .str id := by
  induction rs generalizing seen with
  | nil => exact ⟨List.nodup_nil, List.forall_mem_nil _⟩
  | cons r rs ih =>
    unfold keyedMap at h
    split at h
    · cases h
    next id hid =>
      split_ifs at h with hseen
      · cases h
      · obtain ⟨hnodup, hfresh⟩ := ih h
        have hget := get_of_recordId? hid
        refine ⟨List.nodup_cons.mpr ⟨fun hmem => ?_, hnodup⟩, List.forall_mem_cons.mpr ⟨?_, ?_⟩⟩
        · obtain ⟨r', hr', heq⟩ := List.mem_map.mp hmem
          exact hfresh r' hr' id List.mem_cons_self (heq.trans hget)
        · rintro id' hid' heq
          obtain rfl := Json.str.inj (hget.symm.trans heq)
          exact hseen hid'
        · exact fun r' hr' id' hid' => hfresh r' hr' id' (List.mem_cons_of_mem _ hid')

lemma keyed_of_keyedMap (h : keyedMap idKey kind [] rs = .ok ()) : Keyed idKey rs :=
  ⟨named_of_keyedMap h, (nodup_of_keyedMap h).1⟩

lemma nodup_of_claimAll {seen ids : List Json} (h : claimAll seen ids = .ok ()) :
    ids.Nodup ∧ ∀ id ∈ ids, id ∉ seen := by
  induction ids generalizing seen with
  | nil => exact ⟨List.nodup_nil, List.forall_mem_nil _⟩
  | cons id ids ih =>
    unfold claimAll at h
    obtain ⟨hashed, hhashed, h⟩ := bind_ok h
    unfold Py.hashed at hhashed
    split_ifs at hhashed
    cases hhashed
    split_ifs at h with hseen
    · cases h
    · obtain ⟨hnodup, hfresh⟩ := ih h
      refine ⟨List.nodup_cons.mpr ⟨fun hmem => ?_, hnodup⟩, List.forall_mem_cons.mpr ⟨hseen, ?_⟩⟩
      · exact hfresh id hmem List.mem_cons_self
      · exact fun id' hid' hmem => hfresh id' hid' (List.mem_cons_of_mem _ hmem)

lemma items_of_get? {d : Json} {xs : List Json} (h : d.get? k = some (.arr xs)) :
    (d.get k).items = xs := by
  rw [get_of_get? h]
  rfl

lemma groups_of_get? {c : Components} {groups : List (String × Json)}
    (h : c.dimensions.get? "dimensions" = some (.obj groups)) : c.groups = groups := by
  unfold Components.groups
  rw [get_of_get? h]
  rfl

/-- The ids of the records, and of the nodes and the terms that are listed in parts. -/
structure KeyedComponents (c : Components) : Prop where
  rules : Keyed "id" c.rules
  indicators : Keyed "id" c.indicators
  families : Keyed "family_id" c.familyRecords
  negatives : Keyed "negative_indicator_id" c.negativeRecords
  overrides : Keyed "override_id" c.overrides
  taxonomy : Keyed "id" c.taxonomyNodes
  dimensions : Keyed "id" c.dimensionTerms
  sources : Keyed "id" c.sourceRecords
  evidence : Keyed "evidence_id" c.evidenceRecords

/-- The shapes of the parts, by their accessors. -/
structure ShapedParts (c : Components) : Prop where
  families : ∀ f ∈ c.familyRecords, ShapedFamily f
  negatives : ∀ n ∈ c.negativeRecords, ShapedNegative n
  overrides : ∀ o ∈ c.overrides, ShapedOverride o
  categories : ∀ cat ∈ c.categories, ShapedCategory cat
  groups : ∀ g ∈ c.groups, Lists g.2 "terms" (Named "id")
  sources : ∀ s ∈ c.sourceRecords, ShapedSource s

lemma shapedParts_of_shaped {c : Components} (h : Shaped c) : ShapedParts c := by
  obtain ⟨families, hfamilies, hfamily⟩ := h.families
  obtain ⟨negatives, hnegatives, hnegative⟩ := h.negatives
  obtain ⟨categories, hcategories, hcategory⟩ := h.taxonomy
  obtain ⟨groups, hgroups, hgroup⟩ := h.dimensions
  obtain ⟨sources, hsources, hsource⟩ := h.sources
  exact {
    families := by
      rw [Components.familyRecords, items_of_get? hfamilies]
      exact hfamily
    negatives := by
      rw [Components.negativeRecords, items_of_get? hnegatives]
      exact hnegative
    overrides := h.overrides.all
    categories := by
      rw [Components.categories, items_of_get? hcategories]
      exact hcategory
    groups := by
      rw [groups_of_get? hgroups]
      exact hgroup
    sources := by
      rw [Components.sourceRecords, items_of_get? hsources]
      exact hsource }

lemma named_taxonomyNodes {c : Components} (h : ShapedParts c) : ∀ n ∈ c.taxonomyNodes, Named "id" n := by
  intro n hn
  obtain ⟨cat, hcat, hn⟩ := List.mem_flatMap.mp hn
  have hshaped := h.categories cat hcat
  rcases List.mem_cons.mp hn with rfl | hn
  · exact hshaped.named
  · exact (hshaped.subcategories.all n hn).named

lemma named_dimensionTerms {c : Components} (h : ShapedParts c) :
    ∀ t ∈ c.dimensionTerms, Named "id" t := by
  intro t ht
  obtain ⟨g, hg, ht⟩ := List.mem_flatMap.mp ht
  exact (h.groups g hg).all t ht

lemma items_eq_ok (h : ∀ r ∈ rs, Named idKey r) :
    (rs.mapM (Py.item · idKey) : Load (List Json)) = .ok (rs.map (·.get idKey)) :=
  mapM_eq_ok fun r hr => item_eq_ok (h r hr)

lemma flatten_map_map {α β γ : Type} (f : β → γ) (g : α → List β) (xs : List α) :
    (xs.map fun x => (g x).map f).flatten = (xs.flatMap g).map f := by
  rw [← List.flatMap_def, List.map_flatMap]

lemma stableIds_eq_ok {c : Components} (h : ShapedParts c) (hrules : ∀ r ∈ c.rules, Named "id" r)
    (hindicators : ∀ r ∈ c.indicators, Named "id" r) :
    stableIds c c.categories c.groups c.indicators c.negativeRecords =
      .ok (c.taxonomyNodes.map (·.get "id") ++ c.dimensionTerms.map (·.get "id") ++
        c.indicators.map (·.get "id") ++ c.negativeRecords.map (·.get "negative_indicator_id") ++
        c.rules.map (·.get "id")) := by
  have htaxonomy : c.categories.mapM categoryIds = .ok (c.categories.map fun cat =>
      (cat :: (cat.get "subcategories").items).map (·.get "id")) := by
    refine mapM_eq_ok fun cat hcat => ?_
    have hshaped := h.categories cat hcat
    have hsubs := items_eq_ok fun s hs => (hshaped.subcategories.all s hs).named
    exact bind_eq_of_ok (item_eq_ok hshaped.named)
      (bind_eq_of_ok hshaped.subcategories.members (bind_eq_of_ok hsubs rfl))
  have hterms : c.groups.mapM termIds = .ok (c.groups.map fun g =>
      ((g.2.get "terms").items).map (·.get "id")) :=
    mapM_eq_ok fun g hg => bind_eq_of_ok (h.groups g hg).members (items_eq_ok (h.groups g hg).all)
  refine bind_eq_of_ok htaxonomy (bind_eq_of_ok hterms ?_)
  rw [flatten_map_map, flatten_map_map]
  exact bind_eq_of_ok (items_eq_ok hindicators) (bind_eq_of_ok
    (items_eq_ok fun n hn => (h.negatives n hn).named) (bind_eq_of_ok (items_eq_ok hrules) rfl))

/-- What the shape pass checks of the ids. -/
lemma keyed_of_checkShapes {c : Components} (h : checkShapes c = .ok ()) : KeyedComponents c := by
  have hshaped := shaped_of_checkShapes h
  have hparts := shapedParts_of_shaped hshaped
  obtain ⟨_, hrules, h⟩ := bind_ok h
  obtain ⟨_, -, h⟩ := bind_ok h
  obtain ⟨indicators, hindicators, h⟩ := bind_ok h
  obtain ⟨_, hindicators', h⟩ := bind_ok h
  obtain ⟨families, hfamilies, h⟩ := bind_ok h
  obtain ⟨_, hfamilies', h⟩ := bind_ok h
  obtain ⟨_, -, h⟩ := bind_ok h
  obtain ⟨negatives, hnegatives, h⟩ := bind_ok h
  obtain ⟨_, hnegatives', h⟩ := bind_ok h
  iterate 2 obtain ⟨_, -, h⟩ := bind_ok h
  obtain ⟨overrides, hoverrides, h⟩ := bind_ok h
  obtain ⟨_, hoverrides', h⟩ := bind_ok h
  obtain ⟨_, -, h⟩ := bind_ok h
  obtain ⟨categories, hcategories, h⟩ := bind_ok h
  obtain ⟨_, -, h⟩ := bind_ok h
  obtain ⟨dimensions, hdimensions, h⟩ := bind_ok h
  obtain ⟨groups, hgroups, h⟩ := bind_ok h
  obtain ⟨_, -, h⟩ := bind_ok h
  obtain ⟨sources, hsources, h⟩ := bind_ok h
  obtain ⟨_, hsources', h⟩ := bind_ok h
  rw [item_of_needList hsources] at h
  change (sources.forM checkSource >>= fun _ => _) = _ at h
  obtain ⟨_, -, h⟩ := bind_ok h
  obtain ⟨records, hrecords, h⟩ := bind_ok h
  obtain ⟨_, hrecords', h⟩ := bind_ok h
  obtain ⟨ids, hids, h⟩ := bind_ok h
  obtain rfl := items_of_get? (get?_of_needList hindicators)
  obtain rfl := items_of_get? (get?_of_needList hfamilies)
  obtain rfl := items_of_get? (get?_of_needList hnegatives)
  obtain rfl := items_of_get? (get?_of_needList hcategories)
  obtain rfl := items_of_get? (get?_of_needList hsources)
  obtain rfl := items_of_get? (get?_of_needList hrecords)
  have hobj := Py.isObj_of_get? (get?_of_needList hnegatives)
  obtain rfl := (members_of_needList hobj hoverrides).2.1
  obtain rfl : c.groups = groups := by
    cases dimensions with
    | obj es =>
      cases hgroups
      exact groups_of_get? (exists_of_needDict hdimensions)
    | _ => cases hgroups
  have hindicator := keyed_of_keyedMap hindicators'
  have hrule := keyed_of_keyedMap hrules
  change stableIds c c.categories c.groups c.indicators c.negativeRecords = _ at hids
  rw [stableIds_eq_ok hparts hrule.named hindicator.named] at hids
  cases hids
  obtain ⟨hnodup, -⟩ := nodup_of_claimAll h
  obtain ⟨hnodup, -⟩ := List.nodup_append'.mp hnodup
  obtain ⟨hnodup, -⟩ := List.nodup_append'.mp hnodup
  obtain ⟨hnodup, -⟩ := List.nodup_append'.mp hnodup
  obtain ⟨htaxonomy, hterms, -⟩ := List.nodup_append'.mp hnodup
  exact {
    rules := hrule
    indicators := hindicator
    families := keyed_of_keyedMap hfamilies'
    negatives := keyed_of_keyedMap hnegatives'
    overrides := keyed_of_keyedMap hoverrides'
    taxonomy := ⟨named_taxonomyNodes hparts, htaxonomy⟩
    dimensions := ⟨named_dimensionTerms hparts, hterms⟩
    sources := keyed_of_keyedMap hsources'
    evidence := keyed_of_keyedMap hrecords' }

end TrustLens.Loader
