import TrustLens.Loader.Shapes

/-!
# What the shapes establish

The shape pass raises only errors of the loader, and what it lets through has the
structure the later passes read: every list is there as a list, every id as a string.
-/

namespace TrustLens.Loader

variable {record : Json} {key idKey kind : String}

/-! ### `_need_*` -/

lemma not_escapes_shapeInvalid {α : Type} : ¬Escapes (shapeInvalid kind key : Load α) :=
  not_escapes_fail

lemma not_escapes_needList {required ofStr : Bool} :
    ¬Escapes (needList record key kind required ofStr) := by
  unfold needList
  split
  · split
    · exact not_escapes_shapeInvalid
    · exact escapes_ok
  · split
    · exact not_escapes_shapeInvalid
    · exact escapes_ok
  · exact not_escapes_shapeInvalid

lemma not_escapes_needDict {required : Bool} : ¬Escapes (needDict record key kind required) := by
  unfold needDict
  split
  · split
    · exact not_escapes_shapeInvalid
    · exact escapes_ok
  · exact escapes_ok
  · exact not_escapes_shapeInvalid

lemma not_escapes_discard {α : Type} {x : Load α} (h : ¬Escapes x) : ¬Escapes (discard x) := by
  cases x with
  | ok a => exact escapes_ok
  | error e =>
    rintro ⟨e', he⟩
    exact h ⟨e', congrArg Except.error (Except.error.inj he)⟩

lemma ok_of_discard {α : Type} {x : Load α} (h : discard x = .ok ()) : ∃ a, x = .ok a := by
  cases x with
  | ok a => exact ⟨a, rfl⟩
  | error e => cases h

/-- An optional list is what iterating over the value, or over the default, yields. -/
lemma members_of_needList {required ofStr : Bool} {xs : List Json} (hobj : record.isObj = true)
    (h : needList record key kind required ofStr = .ok xs) :
    members record key = .ok xs ∧ (record.get key).items = xs ∧
      (ofStr = true → ∀ x ∈ xs, isStr x = true) := by
  unfold members Json.get
  rw [Py.getD_of_isObj hobj]
  unfold needList at h
  split at h
  next hkey =>
    split_ifs at h
    · cases h
    · cases h
      rw [hkey]
      exact ⟨rfl, rfl, fun _ => by simp⟩
  next items hkey =>
    split_ifs at h with hstr
    · cases h
    · cases h
      rw [hkey]
      refine ⟨rfl, rfl, fun hof => ?_⟩
      simpa [hof] using hstr
  · cases h

lemma get?_of_needList {ofStr : Bool} {xs : List Json}
    (h : needList record key kind true ofStr = .ok xs) : record.get? key = some (.arr xs) := by
  unfold needList at h
  split at h
  · cases h
  next items hkey =>
    split_ifs at h
    · cases h
    · cases h
      exact hkey
  · cases h

lemma item_of_needList {ofStr : Bool} {xs : List Json}
    (h : needList record key kind true ofStr = .ok xs) :
    (Py.item record key : Load Json) = .ok (.arr xs) := Py.item_of_get? (get?_of_needList h)

lemma isObj_of_needDict {required : Bool} {d : Json} (h : needDict record key kind required = .ok d) :
    d.isObj = true := by
  unfold needDict at h
  split at h
  · split_ifs at h
    · cases h
    · cases h
      rfl
  · cases h
    rfl
  · cases h

lemma get?_of_needDict {required : Bool} {d v : Json} (h : needDict record key kind required = .ok d)
    (hv : record.get? key = some v) : d = v := by
  unfold needDict at h
  rw [hv] at h
  split at h
  next h' => cases h'
  next h' =>
    cases h'
    cases h
    rfl
  · cases h

lemma exists_of_needDict {d : Json} (h : needDict record key kind true = .ok d) :
    record.get? key = some d := by
  unfold needDict at h
  split at h
  · cases h
  next h' =>
    cases h
    exact h'
  · cases h

/-! ### Shapes -/

/-- A list the key of a record holds, every member with a property. -/
structure Lists (record : Json) (key : String) (P : Json → Prop) : Prop where
  members : members record key = .ok (record.get key).items
  all : ∀ x ∈ (record.get key).items, P x

def Strings (record : Json) (key : String) : Prop := Lists record key (isStr · = true)

/-- A record that calls itself by a string. -/
def Named (idKey : String) (record : Json) : Prop := ∃ id, record.get? idKey = some (.str id)

/-- The key, when it is there, holds an object of lists of strings. -/
def DimMap (record : Json) (key : String) : Prop :=
  ∀ v, record.get? key = some v → ∃ groups, v = .obj groups ∧ ∀ g ∈ groups, isStrings g.2 = true

/-- The key, when it is there, holds an object with a list of strings of evidence. -/
def Manual (record : Json) : Prop :=
  ∀ v, record.get? "manual_retrieval" = some v → v.isObj = true ∧ Strings v "evidence_ids"

structure ShapedReference (ref : Json) : Prop where
  isObj : ref.isObj = true
  manual : Manual ref

structure ShapedRule (r : Json) : Prop where
  named : Named "id" r
  logic : ∃ logic, r.get? "logic" = some logic ∧ logic.isObj = true ∧ Strings logic "suppressed_by"
  taxonomy : Strings r "taxonomy_refs"
  evidence : ∃ e, r.get? "evidence" = some e ∧ Lists e "source_references" ShapedReference

structure ShapedFamily (f : Json) : Prop where
  named : Named "family_id" f
  outputs : Strings f "indicator_outputs"
  negatives : Strings f "negative_interactions"
  overrides : Strings f "hard_risk_overrides"
  dimensions : DimMap f "applicable_dimensions"

structure ShapedNegative (n : Json) : Prop where
  named : Named "negative_indicator_id" n
  families : Strings n "applicable_rule_families"
  sources : Strings n "source_basis"
  targets : Strings n "suppresses_indicators"

structure ShapedOverride (o : Json) : Prop where
  named : Named "override_id" o
  families : Strings o "applies_to_families"
  rules : Strings o "applies_to_rules"
  blocked : Strings o "blocks_suppression_categories"

structure ShapedSubcategory (s : Json) : Prop where
  named : Named "id" s
  dimensions : DimMap s "dimensions"

structure ShapedCategory (c : Json) : Prop where
  named : Named "id" c
  subcategories : Lists c "subcategories" ShapedSubcategory

structure ShapedSource (s : Json) : Prop where
  named : Named "id" s
  manual : Manual s

/-- What the components have once the shapes were checked. -/
structure Shaped (c : Components) : Prop where
  rules : ∀ r ∈ c.rules, ShapedRule r
  indicators : ∃ xs, c.registry.get? "indicators" = some (.arr xs) ∧ ∀ x ∈ xs, Named "id" x
  families : ∃ xs, c.families.get? "families" = some (.arr xs) ∧ ∀ x ∈ xs, ShapedFamily x
  negatives : ∃ xs, c.negatives.get? "negative_indicators" = some (.arr xs) ∧
    ∀ x ∈ xs, ShapedNegative x
  suppression : ∃ es, c.negatives.get? "categories" = some (.obj es)
  overrides : Lists c.negatives "overrides" ShapedOverride
  taxonomy : ∃ xs, c.taxonomy.get? "categories" = some (.arr xs) ∧ ∀ x ∈ xs, ShapedCategory x
  dimensions : ∃ groups, c.dimensions.get? "dimensions" = some (.obj groups) ∧
    ∀ g ∈ groups, Lists g.2 "terms" (Named "id")
  sources : ∃ xs, c.sources.get? "sources" = some (.arr xs) ∧ ∀ x ∈ xs, ShapedSource x
  evidence : ∃ xs, c.evidence.get? "records" = some (.arr xs) ∧ ∀ x ∈ xs, Named "evidence_id" x

lemma lists_of_needList {required ofStr : Bool} {xs : List Json} {P : Json → Prop}
    (hobj : record.isObj = true) (h : needList record key kind required ofStr = .ok xs)
    (hP : ∀ x ∈ xs, P x) : Lists record key P := by
  obtain ⟨hmembers, hitems, -⟩ := members_of_needList hobj h
  exact ⟨hitems ▸ hmembers, hitems ▸ hP⟩

lemma Named.isObj (h : Named idKey record) : record.isObj = true := by
  obtain ⟨id, h⟩ := h
  exact Py.isObj_of_get? h

lemma strings_of_needList {required : Bool} (hobj : record.isObj = true)
    (h : discard (needList record key kind required true) = .ok ()) : Strings record key := by
  obtain ⟨xs, h⟩ := ok_of_discard h
  exact lists_of_needList hobj h ((members_of_needList hobj h).2.2 rfl)

/-! ### The records -/

lemma named_of_recordId? {id : String} (h : recordId? idKey record = some id) :
    Named idKey record := by
  obtain ⟨h, -⟩ := Option.filter_eq_some_iff.mp h
  obtain ⟨v, hv, hs⟩ := Option.bind_eq_some_iff.mp h
  cases v with
  | str s => exact ⟨s, hv⟩
  | _ => cases hs

lemma not_escapes_keyedMap {seen : List String} {rs : List Json} :
    ¬Escapes (keyedMap idKey kind seen rs) := by
  induction rs generalizing seen with
  | nil => exact escapes_ok
  | cons r rs ih =>
    unfold keyedMap
    split
    · exact not_escapes_shapeInvalid
    · split_ifs
      · exact not_escapes_fail
      · exact ih

lemma named_of_keyedMap {seen : List String} {rs : List Json}
    (h : keyedMap idKey kind seen rs = .ok ()) : ∀ r ∈ rs, Named idKey r := by
  induction rs generalizing seen with
  | nil => simp
  | cons r rs ih =>
    unfold keyedMap at h
    split at h
    · cases h
    next id hid =>
      split_ifs at h
      · cases h
      · exact List.forall_mem_cons.mpr ⟨named_of_recordId? hid, ih h⟩

lemma named_of_hasStrId (h : hasStrId record = true) : Named "id" record := by
  unfold hasStrId at h
  cases hid : record.get? "id" with
  | none =>
    rw [hid] at h
    cases h
  | some v =>
    rw [hid] at h
    cases v with
    | str s => exact ⟨s, hid⟩
    | _ => cases h

lemma isObj_of_members {xs : List Json} (h : members record key = .ok xs) : record.isObj = true := by
  obtain ⟨v, hv, -⟩ := bind_ok h
  cases record with
  | obj entries => rfl
  | _ => cases hv

lemma not_escapes_needDimMap : ¬Escapes (needDimMap record key kind) := by
  refine not_escapes_bind not_escapes_needDict fun d hd => ?_
  refine not_escapes_bind ?_ fun groups _ => not_escapes_forM fun g _ => ?_
  · have hobj := isObj_of_needDict hd
    cases d with
    | obj entries => exact escapes_ok
    | _ => cases hobj
  · split_ifs
    · exact escapes_ok
    · exact not_escapes_shapeInvalid

lemma dimMap_of_needDimMap (h : needDimMap record key kind = .ok ()) : DimMap record key := by
  intro v hv
  obtain ⟨d, hd, h⟩ := bind_ok h
  obtain rfl := get?_of_needDict hd hv
  obtain ⟨groups, hgroups, h⟩ := bind_ok h
  cases d with
  | obj entries =>
    cases hgroups
    refine ⟨groups, rfl, fun g hg => ?_⟩
    have hok := ok_of_forM h g hg
    by_contra hno
    rw [if_neg hno] at hok
    cases hok
  | _ => cases hgroups

lemma not_escapes_manual :
    ¬Escapes (do
      let manual ← needDict record "manual_retrieval" kind false
      discard <| needList manual "evidence_ids" kind false true) :=
  not_escapes_bind not_escapes_needDict fun _ _ => not_escapes_discard not_escapes_needList

lemma manual_of_ok
    (h : (do
      let manual ← needDict record "manual_retrieval" kind false
      discard <| needList manual "evidence_ids" kind false true) = .ok ()) : Manual record := by
  intro v hv
  obtain ⟨d, hd, h⟩ := bind_ok h
  obtain rfl := get?_of_needDict hd hv
  exact ⟨isObj_of_needDict hd, strings_of_needList (isObj_of_needDict hd) h⟩

lemma not_escapes_checkSourceReference {ref : Json} : ¬Escapes (checkSourceReference kind ref) := by
  unfold checkSourceReference
  split_ifs
  · exact not_escapes_shapeInvalid
  · exact not_escapes_manual

lemma shaped_of_checkSourceReference {ref : Json} (h : checkSourceReference kind ref = .ok ()) :
    ShapedReference ref := by
  unfold checkSourceReference at h
  split_ifs at h with hobj
  · cases h
  · exact ⟨by simpa using hobj, manual_of_ok h⟩

lemma not_escapes_checkRule {r : Json} : ¬Escapes (checkRule r) :=
  not_escapes_bind not_escapes_needDict fun _ _ =>
    not_escapes_bind (not_escapes_discard not_escapes_needList) fun _ _ =>
      not_escapes_bind (not_escapes_discard not_escapes_needList) fun _ _ =>
        not_escapes_bind not_escapes_needDict fun _ _ =>
          not_escapes_bind not_escapes_needList fun _ _ =>
            not_escapes_forM fun _ _ => not_escapes_checkSourceReference

lemma shaped_of_checkRule {r : Json} (hnamed : Named "id" r) (h : checkRule r = .ok ()) :
    ShapedRule r := by
  obtain ⟨logic, hlogic, h⟩ := bind_ok h
  obtain ⟨_, hsuppressed, h⟩ := bind_ok h
  obtain ⟨_, htaxonomy, h⟩ := bind_ok h
  obtain ⟨evidence, hevidence, h⟩ := bind_ok h
  obtain ⟨refs, hrefs, h⟩ := bind_ok h
  have hobj := isObj_of_needDict hlogic
  exact {
    named := hnamed
    logic := ⟨logic, exists_of_needDict hlogic, hobj, strings_of_needList hobj hsuppressed⟩
    taxonomy := strings_of_needList hnamed.isObj htaxonomy
    evidence := ⟨evidence, exists_of_needDict hevidence,
      lists_of_needList (isObj_of_needDict hevidence) hrefs
        fun ref href => shaped_of_checkSourceReference (ok_of_forM h ref href)⟩ }

lemma not_escapes_checkFamily {f : Json} : ¬Escapes (checkFamily f) :=
  not_escapes_bind (not_escapes_discard not_escapes_needList) fun _ _ =>
    not_escapes_bind (not_escapes_discard not_escapes_needList) fun _ _ =>
      not_escapes_bind (not_escapes_discard not_escapes_needList) fun _ _ => not_escapes_needDimMap

lemma shaped_of_checkFamily {f : Json} (hnamed : Named "family_id" f) (h : checkFamily f = .ok ()) :
    ShapedFamily f := by
  obtain ⟨_, houtputs, h⟩ := bind_ok h
  obtain ⟨_, hnegatives, h⟩ := bind_ok h
  obtain ⟨_, hoverrides, h⟩ := bind_ok h
  exact {
    named := hnamed
    outputs := strings_of_needList hnamed.isObj houtputs
    negatives := strings_of_needList hnamed.isObj hnegatives
    overrides := strings_of_needList hnamed.isObj hoverrides
    dimensions := dimMap_of_needDimMap h }

lemma not_escapes_checkNegative {n : Json} : ¬Escapes (checkNegative n) :=
  not_escapes_bind (not_escapes_discard not_escapes_needList) fun _ _ =>
    not_escapes_bind (not_escapes_discard not_escapes_needList) fun _ _ =>
      not_escapes_discard not_escapes_needList

lemma shaped_of_checkNegative {n : Json} (hnamed : Named "negative_indicator_id" n)
    (h : checkNegative n = .ok ()) : ShapedNegative n := by
  obtain ⟨_, hfamilies, h⟩ := bind_ok h
  obtain ⟨_, hsources, h⟩ := bind_ok h
  exact {
    named := hnamed
    families := strings_of_needList hnamed.isObj hfamilies
    sources := strings_of_needList hnamed.isObj hsources
    targets := strings_of_needList hnamed.isObj h }

lemma not_escapes_checkOverride {o : Json} : ¬Escapes (checkOverride o) := by
  unfold checkOverride
  split_ifs
  · exact not_escapes_shapeInvalid
  · exact not_escapes_bind (not_escapes_discard not_escapes_needList) fun _ _ =>
      not_escapes_bind (not_escapes_discard not_escapes_needList) fun _ _ =>
        not_escapes_discard not_escapes_needList

lemma shaped_of_checkOverride {o : Json} (hnamed : Named "override_id" o)
    (h : checkOverride o = .ok ()) : ShapedOverride o := by
  unfold checkOverride at h
  split_ifs at h
  · cases h
  · obtain ⟨_, hfamilies, h⟩ := bind_ok h
    obtain ⟨_, hrules, h⟩ := bind_ok h
    exact {
      named := hnamed
      families := strings_of_needList hnamed.isObj hfamilies
      rules := strings_of_needList hnamed.isObj hrules
      blocked := strings_of_needList hnamed.isObj h }

lemma not_escapes_checkSubcategory {s : Json} : ¬Escapes (checkSubcategory kind s) := by
  unfold checkSubcategory
  split_ifs
  · exact not_escapes_shapeInvalid
  · exact not_escapes_needDimMap

lemma shaped_of_checkSubcategory {s : Json} (h : checkSubcategory kind s = .ok ()) :
    ShapedSubcategory s := by
  unfold checkSubcategory at h
  split_ifs at h with hid
  · cases h
  · exact ⟨named_of_hasStrId (by simpa using hid), dimMap_of_needDimMap h⟩

lemma item_of_named (h : Named idKey record) :
    ∃ id, (Py.item record idKey : Load Json) = .ok (.str id) := by
  obtain ⟨id, h⟩ := h
  exact ⟨id, Py.item_of_get? h⟩

lemma not_escapes_item_of_named (h : Named idKey record) :
    ¬Escapes (Py.item record idKey : Load Json) := by
  obtain ⟨id, h⟩ := item_of_named h
  rw [h]
  exact escapes_ok

lemma not_escapes_checkCategory {c : Json} : ¬Escapes (checkCategory c) := by
  unfold checkCategory
  split_ifs with hid
  · exact not_escapes_shapeInvalid
  · refine not_escapes_bind (not_escapes_item_of_named (named_of_hasStrId (by simpa using hid)))
      fun _ _ => ?_
    exact not_escapes_bind not_escapes_needList fun _ _ =>
      not_escapes_forM fun _ _ => not_escapes_checkSubcategory

lemma shaped_of_checkCategory {c : Json} (h : checkCategory c = .ok ()) : ShapedCategory c := by
  unfold checkCategory at h
  split_ifs at h with hid
  · cases h
  · have hnamed := named_of_hasStrId (by simpa using hid)
    obtain ⟨id, -, h⟩ := bind_ok h
    obtain ⟨subs, hsubs, h⟩ := bind_ok h
    exact ⟨hnamed, lists_of_needList hnamed.isObj hsubs
      fun s hs => shaped_of_checkSubcategory (ok_of_forM h s hs)⟩

lemma not_escapes_checkGroup {g : String × Json} : ¬Escapes (checkGroup g) := by
  refine not_escapes_bind not_escapes_needList fun _ _ => not_escapes_forM fun t _ => ?_
  unfold checkTerm
  split_ifs
  · exact escapes_ok
  · exact not_escapes_shapeInvalid

lemma shaped_of_checkGroup {g : String × Json} (h : checkGroup g = .ok ()) :
    Lists g.2 "terms" (Named "id") := by
  obtain ⟨terms, hterms, h⟩ := bind_ok h
  have hobj : g.2.isObj = true := by
    by_contra hno
    rw [if_neg hno] at hterms
    cases hterms
  rw [if_pos hobj] at hterms
  refine lists_of_needList hobj hterms fun t ht => ?_
  have hok := ok_of_forM h t ht
  unfold checkTerm at hok
  split_ifs at hok with hid
  · exact named_of_hasStrId hid
  · cases hok

lemma not_escapes_checkSource {s : Json} (hnamed : Named "id" s) : ¬Escapes (checkSource s) := by
  refine not_escapes_bind (not_escapes_item_of_named hnamed) fun _ _ => ?_
  exact not_escapes_manual

lemma shaped_of_checkSource {s : Json} (hnamed : Named "id" s) (h : checkSource s = .ok ()) :
    ShapedSource s := by
  obtain ⟨_, -, h⟩ := bind_ok h
  exact ⟨hnamed, manual_of_ok h⟩

/-! ### The stable ids -/

lemma exists_ids {rs : List Json} (h : ∀ r ∈ rs, Named idKey r) :
    ∃ ids, (rs.mapM (Py.item · idKey) : Load (List Json)) = .ok ids ∧
      ∀ id ∈ ids, Py.isHashable id = true := by
  obtain ⟨ids, hids⟩ := mapM_total (f := (Py.item · idKey : Json → Load Json)) fun r hr => by
    obtain ⟨id, hid⟩ := item_of_named (h r hr)
    exact ⟨_, hid⟩
  refine ⟨ids, hids, fun id hid => ?_⟩
  obtain ⟨r, hr, hitem⟩ := (mem_of_mapM_ok hids id).mp hid
  obtain ⟨s, hs⟩ := item_of_named (h r hr)
  obtain rfl := Except.ok.inj (hitem.symm.trans hs)
  rfl

/-- A traversal whose parts are lists of ids. -/
lemma exists_idLists {α : Type} {f : α → Load (List Json)} {xs : List α}
    (h : ∀ x ∈ xs, ∃ ids, f x = .ok ids ∧ ∀ id ∈ ids, Py.isHashable id = true) :
    ∃ lists, xs.mapM f = .ok lists ∧ ∀ id ∈ lists.flatten, Py.isHashable id = true := by
  obtain ⟨lists, hlists⟩ := mapM_total fun x hx => (h x hx).imp fun _ => And.left
  refine ⟨lists, hlists, fun id hid => ?_⟩
  obtain ⟨ids, hids, hid⟩ := List.mem_flatten.mp hid
  obtain ⟨x, hx, hok⟩ := (mem_of_mapM_ok hlists ids).mp hids
  obtain ⟨ids', hok', hall⟩ := h x hx
  obtain rfl := Except.ok.inj (hok.symm.trans hok')
  exact hall id hid

lemma exists_categoryIds {c : Json} (h : ShapedCategory c) :
    ∃ ids, categoryIds c = .ok ids ∧ ∀ id ∈ ids, Py.isHashable id = true := by
  obtain ⟨id, hid⟩ := item_of_named h.named
  obtain ⟨hsubs, hall⟩ := h.subcategories
  obtain ⟨ids, hids, hhash⟩ := exists_ids fun s hs => (hall s hs).named
  refine ⟨.str id :: ids, ?_, List.forall_mem_cons.mpr ⟨rfl, hhash⟩⟩
  unfold categoryIds
  rw [hid, hsubs]
  show ((c.get "subcategories").items.mapM (Py.item · "id") >>= fun subs => pure (.str id :: subs)) = _
  rw [hids]
  rfl

lemma exists_termIds {g : String × Json} (h : Lists g.2 "terms" (Named "id")) :
    ∃ ids, termIds g = .ok ids ∧ ∀ id ∈ ids, Py.isHashable id = true := by
  obtain ⟨hterms, hall⟩ := h
  obtain ⟨ids, hids, hhash⟩ := exists_ids hall
  refine ⟨ids, ?_, hhash⟩
  unfold termIds
  rw [hterms]
  exact hids

lemma exists_stableIds {c : Components} {categories indicators negatives : List Json}
    {groups : List (String × Json)} (hcategories : ∀ x ∈ categories, ShapedCategory x)
    (hgroups : ∀ g ∈ groups, Lists g.2 "terms" (Named "id"))
    (hindicators : ∀ x ∈ indicators, Named "id" x)
    (hnegatives : ∀ x ∈ negatives, Named "negative_indicator_id" x)
    (hrules : ∀ r ∈ c.rules, Named "id" r) :
    ∃ ids, stableIds c categories groups indicators negatives = .ok ids ∧
      ∀ id ∈ ids, Py.isHashable id = true := by
  obtain ⟨taxonomy, htaxonomy, h₁⟩ := exists_idLists fun x hx => exists_categoryIds (hcategories x hx)
  obtain ⟨dimensions, hdimensions, h₂⟩ := exists_idLists fun g hg => exists_termIds (hgroups g hg)
  obtain ⟨positive, hpositive, h₃⟩ := exists_ids hindicators
  obtain ⟨negative, hnegative, h₄⟩ := exists_ids hnegatives
  obtain ⟨rules, hrules, h₅⟩ := exists_ids hrules
  refine ⟨taxonomy.flatten ++ dimensions.flatten ++ positive ++ negative ++ rules, ?_, ?_⟩
  · unfold stableIds
    rw [htaxonomy, hdimensions, hpositive, hnegative, hrules]
    rfl
  · intro id hid
    simp only [List.mem_append] at hid
    rcases hid with (((hid | hid) | hid) | hid) | hid
    · exact h₁ id hid
    · exact h₂ id hid
    · exact h₃ id hid
    · exact h₄ id hid
    · exact h₅ id hid

lemma not_escapes_claimAll {seen ids : List Json} (h : ∀ id ∈ ids, Py.isHashable id = true) :
    ¬Escapes (claimAll seen ids) := by
  induction ids generalizing seen with
  | nil => exact escapes_ok
  | cons id ids ih =>
    rw [List.forall_mem_cons] at h
    unfold claimAll
    rw [Py.hashed_of_isHashable h.1]
    show ¬Escapes (if id ∈ seen then _ else _)
    split_ifs
    · exact not_escapes_fail
    · exact ih h.2

/-! ### The pass -/

lemma named_of_checked {rs : List Json} {check : Json → Load Unit} {P : Json → Prop}
    (hkeyed : keyedMap idKey kind [] rs = .ok ()) (hcheck : rs.forM check = .ok ())
    (h : ∀ r, Named idKey r → check r = .ok () → P r) : ∀ r ∈ rs, P r :=
  fun r hr => h r (named_of_keyedMap hkeyed r hr) (ok_of_forM hcheck r hr)

/-- The shape pass raises errors of the loader only. -/
theorem not_escapes_checkShapes {c : Components} : ¬Escapes (checkShapes c) := by
  refine not_escapes_bind not_escapes_keyedMap fun _ hrules => ?_
  refine not_escapes_bind (not_escapes_forM fun _ _ => not_escapes_checkRule) fun _ _ => ?_
  refine not_escapes_bind not_escapes_needList fun indicators _ => ?_
  refine not_escapes_bind not_escapes_keyedMap fun _ hindicators => ?_
  refine not_escapes_bind not_escapes_needList fun families _ => ?_
  refine not_escapes_bind not_escapes_keyedMap fun _ _ => ?_
  refine not_escapes_bind (not_escapes_forM fun _ _ => not_escapes_checkFamily) fun _ _ => ?_
  refine not_escapes_bind not_escapes_needList fun negatives _ => ?_
  refine not_escapes_bind not_escapes_keyedMap fun _ hnegatives => ?_
  refine not_escapes_bind (not_escapes_forM fun _ _ => not_escapes_checkNegative) fun _ _ => ?_
  refine not_escapes_bind (not_escapes_discard not_escapes_needDict) fun _ _ => ?_
  refine not_escapes_bind not_escapes_needList fun overrides _ => ?_
  refine not_escapes_bind not_escapes_keyedMap fun _ _ => ?_
  refine not_escapes_bind (not_escapes_forM fun _ _ => not_escapes_checkOverride) fun _ _ => ?_
  refine not_escapes_bind not_escapes_needList fun categories _ => ?_
  refine not_escapes_bind (not_escapes_forM fun _ _ => not_escapes_checkCategory)
    fun _ hcategories => ?_
  refine not_escapes_bind not_escapes_needDict fun dimensions hdimensions => ?_
  refine not_escapes_bind ?_ fun groups _ => ?_
  · have hobj := isObj_of_needDict hdimensions
    cases dimensions with
    | obj entries => exact escapes_ok
    | _ => cases hobj
  refine not_escapes_bind (not_escapes_forM fun _ _ => not_escapes_checkGroup) fun _ hgroups => ?_
  refine not_escapes_bind not_escapes_needList fun sources hsources => ?_
  refine not_escapes_bind not_escapes_keyedMap fun _ hnamed => ?_
  rw [item_of_needList hsources]
  show ¬Escapes (sources.forM checkSource >>= fun _ => _)
  refine not_escapes_bind (not_escapes_forM fun s hs =>
    not_escapes_checkSource (named_of_keyedMap hnamed s hs)) fun _ _ => ?_
  refine not_escapes_bind not_escapes_needList fun records _ => ?_
  refine not_escapes_bind not_escapes_keyedMap fun _ _ => ?_
  obtain ⟨ids, hids, hhash⟩ := exists_stableIds (c := c)
    (fun x hx => shaped_of_checkCategory (ok_of_forM hcategories x hx))
    (fun g hg => shaped_of_checkGroup (ok_of_forM hgroups g hg))
    (named_of_keyedMap hindicators) (named_of_keyedMap hnegatives) (named_of_keyedMap hrules)
  rw [hids]
  exact not_escapes_claimAll hhash

/-- The components the shape pass lets through have the shapes the later passes read. -/
theorem shaped_of_checkShapes {c : Components} (h : checkShapes c = .ok ()) : Shaped c := by
  obtain ⟨_, hrules, h⟩ := bind_ok h
  obtain ⟨_, hrules', h⟩ := bind_ok h
  obtain ⟨indicators, hindicators, h⟩ := bind_ok h
  obtain ⟨_, hindicators', h⟩ := bind_ok h
  obtain ⟨families, hfamilies, h⟩ := bind_ok h
  obtain ⟨_, hfamilies', h⟩ := bind_ok h
  obtain ⟨_, hfamilies'', h⟩ := bind_ok h
  obtain ⟨negatives, hnegatives, h⟩ := bind_ok h
  obtain ⟨_, hnegatives', h⟩ := bind_ok h
  obtain ⟨_, hnegatives'', h⟩ := bind_ok h
  obtain ⟨_, hsuppression, h⟩ := bind_ok h
  obtain ⟨overrides, hoverrides, h⟩ := bind_ok h
  obtain ⟨_, hoverrides', h⟩ := bind_ok h
  obtain ⟨_, hoverrides'', h⟩ := bind_ok h
  obtain ⟨categories, hcategories, h⟩ := bind_ok h
  obtain ⟨_, hcategories', h⟩ := bind_ok h
  obtain ⟨dimensions, hdimensions, h⟩ := bind_ok h
  obtain ⟨groups, hgroups, h⟩ := bind_ok h
  obtain ⟨_, hgroups', h⟩ := bind_ok h
  obtain ⟨sources, hsources, h⟩ := bind_ok h
  obtain ⟨_, hsources', h⟩ := bind_ok h
  rw [item_of_needList hsources] at h
  change (sources.forM checkSource >>= fun _ => _) = _ at h
  obtain ⟨_, hsources'', h⟩ := bind_ok h
  obtain ⟨records, hrecords, h⟩ := bind_ok h
  obtain ⟨_, hrecords', -⟩ := bind_ok h
  obtain ⟨suppression, hsuppression⟩ := ok_of_discard hsuppression
  have hnegativesObj := Py.isObj_of_get? (get?_of_needList hnegatives)
  exact {
    rules := named_of_checked hrules hrules' fun _ => shaped_of_checkRule
    indicators := ⟨indicators, get?_of_needList hindicators, named_of_keyedMap hindicators'⟩
    families := ⟨families, get?_of_needList hfamilies,
      named_of_checked hfamilies' hfamilies'' fun _ => shaped_of_checkFamily⟩
    negatives := ⟨negatives, get?_of_needList hnegatives,
      named_of_checked hnegatives' hnegatives'' fun _ => shaped_of_checkNegative⟩
    suppression := by
      have hobj := isObj_of_needDict hsuppression
      cases suppression with
      | obj es => exact ⟨es, exists_of_needDict hsuppression⟩
      | _ => cases hobj
    overrides := lists_of_needList hnegativesObj hoverrides
      (named_of_checked hoverrides' hoverrides'' fun _ => shaped_of_checkOverride)
    taxonomy := ⟨categories, get?_of_needList hcategories,
      fun x hx => shaped_of_checkCategory (ok_of_forM hcategories' x hx)⟩
    dimensions := by
      cases dimensions with
      | obj es =>
        cases hgroups
        exact ⟨groups, exists_of_needDict hdimensions,
          fun g hg => shaped_of_checkGroup (ok_of_forM hgroups' g hg)⟩
      | _ => cases hgroups
    sources := ⟨sources, get?_of_needList hsources,
      named_of_checked hsources' hsources'' fun _ => shaped_of_checkSource⟩
    evidence := ⟨records, get?_of_needList hrecords, named_of_keyedMap hrecords'⟩ }

end TrustLens.Loader
