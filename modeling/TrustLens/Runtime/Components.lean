import Mathlib.Data.Finset.Dedup
import Mathlib.Logic.Relation
import TrustLens.Lib.ParentForest
import TrustLens.Runtime.Independence

/-!
# Provenance components

The union-find of the occurrence groups: two refs have one root exactly when a chain of
groups, each sharing a ref with the next, leads from one to the other.
-/

namespace TrustLens.Runtime.Independence

open ParentForest

/-! ### Dicts -/

lemma mem_of_get? {d : Dict} {k v : String} (h : d.get? k = some v) : (k, v) ∈ d := by
  obtain ⟨e, he, rfl⟩ := Option.map_eq_some_iff.mp h
  have hkey := List.find?_some he
  rw [beq_iff_eq] at hkey
  rw [← hkey]
  exact List.mem_of_find?_eq_some he

lemma get?_eq_none {d : Dict} {k : String} : d.get? k = none ↔ k ∉ d.map Prod.fst := by
  rw [Dict.get?, Option.map_eq_none_iff, List.find?_eq_none, List.mem_map]
  simp only [beq_iff_eq, not_exists, not_and]

lemma isSome_get? {d : Dict} {k : String} : (d.get? k).isSome = true ↔ k ∈ d.map Prod.fst := by
  rw [Option.isSome_iff_ne_none, ne_eq, get?_eq_none, not_not]

lemma get?_of_mem {d : Dict} (hd : (d.map Prod.fst).Nodup) {k v : String} (h : (k, v) ∈ d) :
    d.get? k = some v := by
  rw [Dict.get?, find?_of_nodup_keys Prod.fst hd h, Option.map_some]

lemma keys_set (d : Dict) (k v : String) : (d.set k v).map Prod.fst =
    if k ∈ d.map Prod.fst then d.map Prod.fst else d.map Prod.fst ++ [k] := by
  rw [Dict.set]
  by_cases h : k ∈ d.map Prod.fst
  · rw [if_pos (isSome_get?.mpr h), if_pos h, List.map_map]
    refine List.map_congr_left fun e _ => ?_
    rw [Function.comp_apply]
    split_ifs with hk
    · exact (beq_iff_eq.mp hk).symm
    · rfl
  · rw [if_neg (mt isSome_get?.mp h), if_neg h, List.map_append]
    rfl

lemma mem_keys_set {d : Dict} {k v x : String} :
    x ∈ (d.set k v).map Prod.fst ↔ x = k ∨ x ∈ d.map Prod.fst := by
  rw [keys_set]
  split_ifs with h
  · refine ⟨.inr, fun hx => ?_⟩
    rcases hx with rfl | hx
    · exact h
    · exact hx
  · rw [List.mem_append, List.mem_singleton, or_comm]

lemma nodup_set {d : Dict} (hd : (d.map Prod.fst).Nodup) (k v : String) :
    ((d.set k v).map Prod.fst).Nodup := by
  rw [keys_set]
  split_ifs with h
  · exact hd
  · exact List.nodup_append.mpr ⟨hd, List.nodup_singleton k, fun a ha b hb hab =>
      h (List.mem_singleton.mp hb ▸ hab ▸ ha)⟩

lemma get?_set {d : Dict} (hd : (d.map Prod.fst).Nodup) (k v x : String) :
    (d.set k v).get? x = if x = k then some v else d.get? x := by
  split_ifs with hx
  · refine get?_of_mem (nodup_set hd k v) ?_
    subst hx
    rw [Dict.set]
    split_ifs with h
    · obtain ⟨e, he, hk⟩ := List.mem_map.mp (isSome_get?.mp h)
      exact List.mem_map.mpr ⟨e, he, if_pos (beq_iff_eq.mpr hk)⟩
    · exact List.mem_append_right _ (List.mem_singleton.mpr rfl)
  · refine Option.ext fun w => ⟨fun h => ?_, fun h => ?_⟩
    · have hmem := mem_of_get? h
      refine get?_of_mem hd ?_
      rw [Dict.set] at hmem
      split_ifs at hmem
      · obtain ⟨e, he, heq⟩ := List.mem_map.mp hmem
        split_ifs at heq
        · exact absurd (Prod.mk.inj heq).1.symm hx
        · exact heq ▸ he
      · rcases List.mem_append.mp hmem with hmem | hmem
        · exact hmem
        · exact absurd (Prod.mk.inj (List.mem_singleton.mp hmem)).1 hx
    · have hmem := mem_of_get? h
      refine get?_of_mem (nodup_set hd k v) ?_
      rw [Dict.set]
      split_ifs
      · refine List.mem_map.mpr ⟨(x, w), hmem, if_neg ?_⟩
        rwa [beq_iff_eq]
      · exact List.mem_append_left _ hmem

lemma parent_set {d : Dict} (hd : (d.map Prod.fst).Nodup) (k v x : String) :
    parent (d.set k v) x = if x = k then v else parent d x := by
  rw [parent, get?_set hd]
  split_ifs with hx
  · rfl
  · rfl

lemma parent_of_not_mem {d : Dict} {x : String} (h : x ∉ d.map Prod.fst) : parent d x = x := by
  rw [parent, get?_eq_none.mpr h, Option.getD_none]

/-! ### Forests -/

/-- Distinct entries, each pointing at an entry no greater than itself. -/
structure Forest (d : Dict) : Prop where
  nodup : (d.map Prod.fst).Nodup
  descending : Descending (d.map Prod.fst).toFinset (parent d)

/-- The root of a ref. -/
def rep (d : Dict) (x : String) : String := climb (parent d) d.length x

lemma rootFrom_eq_climb (d : Dict) (n : ℕ) (x : String) : rootFrom d n x = climb (parent d) n x := by
  induction n generalizing x with
  | zero => rfl
  | succ n ih => rw [rootFrom, climb, ih]

section Forest

variable {d : Dict} (h : Forest d)

include h

lemma card_below_le (x : String) : (below (d.map Prod.fst).toFinset x).card ≤ d.length := by
  have hcard : (d.map Prod.fst).toFinset.card = d.length := by
    rw [List.toFinset_card_of_nodup h.nodup, List.length_map]
  exact (Finset.card_filter_le _ _).trans_eq hcard

lemma rep_parent (x : String) : rep d (parent d x) = rep d x := by
  by_cases hx : x ∈ d.map Prod.fst
  · exact climb_parent h.descending (List.mem_toFinset.mpr hx) (card_below_le h x)
  · rw [parent_of_not_mem hx]

lemma parent_rep (x : String) : parent d (rep d x) = rep d x := by
  by_cases hx : x ∈ d.map Prod.fst
  · exact parent_climb h.descending (List.mem_toFinset.mpr hx) (card_below_le h x)
  · rw [rep, climb_of_root (parent_of_not_mem hx), parent_of_not_mem hx]

lemma rep_rep (x : String) : rep d (rep d x) = rep d x := climb_of_root (parent_rep h x) _

lemma rep_mem {x : String} (hx : x ∈ d.map Prod.fst) : rep d x ∈ d.map Prod.fst :=
  List.mem_toFinset.mp (climb_mem h.descending (List.mem_toFinset.mpr hx) _)

lemma rep_le {x : String} (hx : x ∈ d.map Prod.fst) : rep d x ≤ x :=
  climb_le h.descending (List.mem_toFinset.mpr hx) _

/-- A function that is constant along the pointers and fixes the roots gives the roots. -/
theorem rep_eq {root : String → String} (hstep : ∀ x, root (parent d x) = root x)
    (hfix : ∀ x, parent d x = x → root x = x) (x : String) : rep d x = root x := by
  by_cases hx : x ∈ d.map Prod.fst
  · exact climb_eq h.descending (fun y _ => hstep y) (fun y _ => hfix y)
      (List.mem_toFinset.mpr hx) (card_below_le h x)
  · have hroot := parent_of_not_mem hx
    rw [rep, climb_of_root hroot, hfix x hroot]

/-- Pointing an entry at a smaller one keeps the forest. -/
lemma forest_set {k v : String} (hk : k ∈ d.map Prod.fst) (hv : v ∈ d.map Prod.fst) (hle : v ≤ k) :
    Forest (d.set k v) := by
  have hkeys : (d.set k v).map Prod.fst = d.map Prod.fst := by rw [keys_set, if_pos hk]
  refine ⟨nodup_set h.nodup k v, ?_, ?_⟩
  · intro x hx
    rw [hkeys, List.mem_toFinset] at hx ⊢
    rw [parent_set h.nodup]
    split_ifs
    · exact hv
    · exact List.mem_toFinset.mp (h.descending.mem x (List.mem_toFinset.mpr hx))
  · intro x hx
    rw [hkeys] at hx
    rw [parent_set h.nodup]
    split_ifs with hxk
    · exact hxk ▸ hle
    · exact h.descending.le x hx

/-- A new entry is a root. -/
lemma forest_insert {x : String} (hx : x ∉ d.map Prod.fst) :
    Forest (d.set x x) ∧ ∀ y, parent (d.set x x) y = parent d y := by
  have hparent : ∀ y, parent (d.set x x) y = parent d y := by
    intro y
    rw [parent_set h.nodup]
    split_ifs with hy
    · rw [hy, parent_of_not_mem hx]
    · rfl
  refine ⟨⟨nodup_set h.nodup x x, ?_, ?_⟩, hparent⟩
  · intro y hy
    rw [List.mem_toFinset, mem_keys_set] at hy ⊢
    rw [hparent]
    rcases hy with rfl | hy
    · exact .inl (parent_of_not_mem hx)
    · exact .inr (List.mem_toFinset.mp (h.descending.mem y (List.mem_toFinset.mpr hy)))
  · intro y hy
    rw [List.mem_toFinset, mem_keys_set] at hy
    rw [hparent]
    rcases hy with rfl | hy
    · exact (parent_of_not_mem hx).le
    · exact h.descending.le y (List.mem_toFinset.mpr hy)

end Forest

/-! ### `find` and `union` -/

/-- Pointing an entry straight at its root changes no root. -/
lemma forest_shortcut {d : Dict} (h : Forest d) {x : String} (hx : x ∈ d.map Prod.fst) :
    Forest (d.set x (rep d x)) ∧ ∀ y, rep (d.set x (rep d x)) y = rep d y := by
  have hset := forest_set h hx (rep_mem h hx) (rep_le h hx)
  refine ⟨hset, rep_eq hset (fun y => ?_) fun y hy => ?_⟩
  · rw [parent_set h.nodup]
    split_ifs with hyx
    · rw [rep_rep h, hyx]
    · exact rep_parent h y
  · rw [parent_set h.nodup] at hy
    split_ifs at hy with hyx
    · rw [hyx] at hy ⊢
      exact hy
    · exact climb_of_root hy _

lemma compress_spec {d : Dict} (h : Forest d) {x : String} (hx : x ∈ d.map Prod.fst) (n : ℕ) :
    Forest (compress (rep d x) n x d) ∧
      (compress (rep d x) n x d).map Prod.fst = d.map Prod.fst ∧
      ∀ y, rep (compress (rep d x) n x d) y = rep d y := by
  induction n generalizing d x with
  | zero => exact ⟨h, rfl, fun _ => rfl⟩
  | succ n ih =>
    rw [compress]
    split_ifs
    · exact ⟨h, rfl, fun _ => rfl⟩
    · obtain ⟨hset, hrep⟩ := forest_shortcut h hx
      have hkeys : (d.set x (rep d x)).map Prod.fst = d.map Prod.fst := by rw [keys_set, if_pos hx]
      have hup : parent d x ∈ d.map Prod.fst :=
        List.mem_toFinset.mp (h.descending.mem x (List.mem_toFinset.mpr hx))
      have hroot : rep (d.set x (rep d x)) (parent d x) = rep d x := by rw [hrep, rep_parent h]
      obtain ⟨hforest, hkeys', hrep'⟩ := ih hset (hkeys ▸ hup)
      rw [hroot] at hforest hkeys' hrep'
      exact ⟨hforest, hkeys'.trans hkeys, fun y => (hrep' y).trans (hrep y)⟩

/-- `find` answers with the root, and only shortens chains and adds the ref. -/
theorem find_spec {d : Dict} (h : Forest d) (x : String) :
    (find d x).1 = rep d x ∧ Forest (find d x).2 ∧
      (∀ y, y ∈ (find d x).2.map Prod.fst ↔ y = x ∨ y ∈ d.map Prod.fst) ∧
      ∀ y, rep (find d x).2 y = rep d y := by
  obtain ⟨d', hd', hforest, hkeys, hrep⟩ : ∃ d' : Dict,
      d' = (if (d.get? x).isSome then d else d.set x x) ∧ Forest d' ∧
      (∀ y, y ∈ d'.map Prod.fst ↔ y = x ∨ y ∈ d.map Prod.fst) ∧ ∀ y, rep d' y = rep d y := by
    refine ⟨_, rfl, ?_⟩
    split_ifs with hx
    · rw [isSome_get?] at hx
      refine ⟨h, fun y => ⟨.inr, fun hy => ?_⟩, fun _ => rfl⟩
      rcases hy with rfl | hy
      · exact hx
      · exact hy
    · rw [isSome_get?] at hx
      obtain ⟨hforest, hparent⟩ := forest_insert h hx
      refine ⟨hforest, fun y => mem_keys_set, rep_eq hforest (fun y => ?_) fun y hy => ?_⟩
      · rw [hparent, rep_parent h]
      · exact climb_of_root ((hparent y).symm.trans hy) _
  have hfind : find d x = (rep d' x, compress (rep d' x) d'.length x d') := by
    rw [find, ← hd', rootFrom_eq_climb]
    rfl
  obtain ⟨hforest', hkeys', hrep'⟩ := compress_spec hforest ((hkeys x).mpr (.inl rfl)) d'.length
  rw [hfind]
  exact ⟨hrep x, hforest', fun y => hkeys' ▸ hkeys y, fun y => (hrep' y).trans (hrep y)⟩

/-- Looking refs up before does not change what a ref leads to. -/
lemma find_of_finds {d : Dict} (h : Forest d) (refs : List String) (x : String) :
    (find (refs.foldl (fun d ref => (find d ref).2) d) x).1 = (find d x).1 := by
  induction refs generalizing d with
  | nil => rfl
  | cons ref refs ih =>
    obtain ⟨-, hforest, -, hrep⟩ := find_spec h ref
    rw [List.foldl_cons, ih hforest, (find_spec hforest x).1, hrep, (find_spec h x).1]

/-- `union` gives the trees of two refs one root and leaves the others alone. -/
theorem union_spec {d : Dict} (h : Forest d) (a b : String) :
    Forest (union d a b) ∧
      (∀ y, y ∈ (union d a b).map Prod.fst ↔ y = a ∨ y = b ∨ y ∈ d.map Prod.fst) ∧
      ∀ y, rep (union d a b) y = if rep d y = max (rep d a) (rep d b) then min (rep d a) (rep d b)
        else rep d y := by
  obtain ⟨hra, hfa, hka, hrepa⟩ := find_spec h a
  obtain ⟨hrb, hfb, hkb, hrepb⟩ := find_spec hfa b
  obtain ⟨d', hd'⟩ : ∃ d', d' = (find (find d a).2 b).2 := ⟨_, rfl⟩
  have hunion : union d a b = if rep d a = rep d b then d'
      else d'.set (max (rep d a) (rep d b)) (min (rep d a) (rep d b)) := by
    rw [← hrepa b, ← hra, ← hrb, hd', union]
  have hrep : ∀ y, rep d' y = rep d y := fun y => by rw [hd', hrepb, hrepa]
  have hkeys : ∀ y, y ∈ d'.map Prod.fst ↔ y = a ∨ y = b ∨ y ∈ d.map Prod.fst := fun y => by
    rw [hd', hkb, hka, or_left_comm]
  rw [← hd'] at hfb
  rw [hunion]
  split_ifs with heq
  · refine ⟨hfb, hkeys, fun y => ?_⟩
    rw [hrep, heq, max_self, min_self]
    split_ifs with hy
    · exact hy
    · rfl
  · have ha : rep d a ∈ d'.map Prod.fst := hrep a ▸ rep_mem hfb ((hkeys a).mpr (.inl rfl))
    have hb : rep d b ∈ d'.map Prod.fst := hrep b ▸ rep_mem hfb ((hkeys b).mpr (.inr (.inl rfl)))
    have hmax : max (rep d a) (rep d b) ∈ d'.map Prod.fst := by
      rcases max_choice (rep d a) (rep d b) with hm | hm <;> rw [hm] <;> assumption
    have hmin : min (rep d a) (rep d b) ∈ d'.map Prod.fst := by
      rcases min_choice (rep d a) (rep d b) with hm | hm <;> rw [hm] <;> assumption
    have hrmax : rep d (max (rep d a) (rep d b)) = max (rep d a) (rep d b) := by
      rcases max_choice (rep d a) (rep d b) with hm | hm <;> rw [hm, rep_rep h]
    have hrmin : rep d (min (rep d a) (rep d b)) = min (rep d a) (rep d b) := by
      rcases min_choice (rep d a) (rep d b) with hm | hm <;> rw [hm, rep_rep h]
    have hne : min (rep d a) (rep d b) ≠ max (rep d a) (rep d b) := (min_lt_max.mpr heq).ne
    have hset := forest_set hfb hmax hmin min_le_max
    refine ⟨hset, fun y => ?_, rep_eq hset (fun y => ?_) fun y hy => ?_⟩
    · rw [keys_set, if_pos hmax]
      exact hkeys y
    · rw [parent_set hfb.nodup]
      by_cases hy : y = max (rep d a) (rep d b)
      -- the greater root now hangs below the smaller one
      · rw [if_pos hy, hrmin, if_neg hne, hy, hrmax, if_pos rfl]
      · rw [if_neg hy, ← hrep (parent d' y), rep_parent hfb, hrep]
    · rw [parent_set hfb.nodup] at hy
      split_ifs at hy with hym
      · exact absurd (hy.trans hym) hne
      · have hroot : rep d y = y := (hrep y).symm.trans (climb_of_root hy _)
        rw [hroot, if_neg hym]

/-! ### The components -/

/-- Refs of one group. -/
def Touches (groups : List (List String)) (x y : String) : Prop := ∃ g ∈ groups, x ∈ g ∧ y ∈ g

/-- The components of the graph that joins the refs of each group. -/
def component (groups : List (List String)) : Setoid String := Relation.EqvGen.setoid (Touches groups)

/-- A forest grown from another within the classes of a relation. -/
structure Grown (E : Setoid String) (d d' : Dict) : Prop where
  forest : Forest d'
  keys : ∀ x ∈ d.map Prod.fst, x ∈ d'.map Prod.fst
  mono : ∀ x y, rep d x = rep d y → rep d' x = rep d' y
  sound : (∀ x, E x (rep d x)) → ∀ x, E x (rep d' x)

section Grown

variable {E : Setoid String} {d : Dict}

lemma Grown.refl (h : Forest d) : Grown E d d := ⟨h, fun _ => id, fun _ _ => id, fun hx => hx⟩

lemma Grown.trans {d' d'' : Dict} (h : Grown E d d') (h' : Grown E d' d'') : Grown E d d'' where
  forest := h'.forest
  keys x hx := h'.keys x (h.keys x hx)
  mono x y hxy := h'.mono x y (h.mono x y hxy)
  sound hx := h'.sound (h.sound hx)

lemma find_grown (h : Forest d) (x : String) : Grown E d (find d x).2 := by
  obtain ⟨-, hforest, hkeys, hrep⟩ := find_spec h x
  refine ⟨hforest, fun y hy => (hkeys y).mpr (.inr hy), fun y z hyz => ?_, fun hE y => ?_⟩
  · rw [hrep, hrep, hyz]
  · rw [hrep]
    exact hE y

lemma union_grown (h : Forest d) {a b : String} (hab : E a b) : Grown E d (union d a b) := by
  obtain ⟨hforest, hkeys, hrep⟩ := union_spec h a b
  refine ⟨hforest, fun y hy => (hkeys y).mpr (.inr (.inr hy)), fun y z hyz => ?_, fun hE y => ?_⟩
  · rw [hrep, hrep, hyz]
  · rw [hrep]
    split_ifs with hy
    · have hroots : E (rep d a) (rep d b) := E.trans (E.symm (hE a)) (E.trans hab (hE b))
      have hside : E (max (rep d a) (rep d b)) (min (rep d a) (rep d b)) := by
        rcases le_total (rep d a) (rep d b) with hle | hle
        · rw [max_eq_right hle, min_eq_left hle]
          exact E.symm hroots
        · rw [max_eq_left hle, min_eq_right hle]
          exact hroots
      exact E.trans (hy ▸ hE y) hside
    · exact hE y

lemma union_rep (h : Forest d) (a b : String) : rep (union d a b) a = rep (union d a b) b := by
  obtain ⟨-, -, hrep⟩ := union_spec h a b
  rw [hrep, hrep]
  rcases le_total (rep d a) (rep d b) with hle | hle
  · rw [max_eq_right hle, min_eq_left hle, if_pos rfl, ite_eq_right_iff]
    exact fun heq => rfl
  · rw [max_eq_left hle, min_eq_right hle, if_pos rfl, eq_comm, ite_eq_right_iff]
    exact fun heq => rfl

lemma finds_grown (h : Forest d) (refs : List String) :
    Grown E d (refs.foldl (fun d ref => (find d ref).2) d) := by
  induction refs generalizing d with
  | nil => exact .refl h
  | cons ref refs ih =>
    have hfind := find_grown (E := E) h ref
    exact hfind.trans (ih hfind.forest)

lemma unions_grown (h : Forest d) {first : String} {rest : List String}
    (hE : ∀ ref ∈ rest, E first ref) :
    Grown E d (rest.foldl (fun d ref => union d first ref) d) ∧
      ∀ ref ∈ rest, rep (rest.foldl (fun d ref => union d first ref) d) first =
        rep (rest.foldl (fun d ref => union d first ref) d) ref := by
  induction rest generalizing d with
  | nil => exact ⟨.refl h, nofun⟩
  | cons ref rest ih =>
    have hunion := union_grown h (hE ref List.mem_cons_self)
    obtain ⟨hgrown, hrep⟩ := ih hunion.forest fun r hr => hE r (List.mem_cons_of_mem _ hr)
    refine ⟨hunion.trans hgrown, fun r hr => ?_⟩
    rcases List.mem_cons.mp hr with rfl | hr
    · exact hgrown.mono _ _ (union_rep h first r)
    · exact hrep r hr

/-- Merging a group joins its refs and nothing that is not joined through it. -/
theorem mergeGroup_spec (h : Forest d) {refs : List String} (hE : ∀ x ∈ refs, ∀ y ∈ refs, E x y) :
    Grown E d (mergeGroup d refs) ∧
      ∀ x ∈ refs, ∀ y ∈ refs, rep (mergeGroup d refs) x = rep (mergeGroup d refs) y := by
  have hfinds := finds_grown (E := E) h refs
  cases refs with
  | nil => exact ⟨hfinds, nofun⟩
  | cons first rest =>
    obtain ⟨hgrown, hrep⟩ := unions_grown hfinds.forest
      fun ref (href : ref ∈ rest) => hE first List.mem_cons_self ref (List.mem_cons_of_mem _ href)
    have hfirst : ∀ x ∈ first :: rest,
        rep (mergeGroup d (first :: rest)) first = rep (mergeGroup d (first :: rest)) x := by
      rintro x hx
      rcases List.mem_cons.mp hx with rfl | hx
      · rfl
      · exact hrep x hx
    exact ⟨hfinds.trans hgrown, fun x hx y hy => (hfirst x hx).symm.trans (hfirst y hy)⟩

lemma mergeGroups_spec (h : Forest d) {groups : List (List String)}
    (hE : ∀ g ∈ groups, ∀ x ∈ g, ∀ y ∈ g, E x y) :
    Grown E d (groups.foldl mergeGroup d) ∧ ∀ g ∈ groups, ∀ x ∈ g, ∀ y ∈ g,
      rep (groups.foldl mergeGroup d) x = rep (groups.foldl mergeGroup d) y := by
  induction groups generalizing d with
  | nil => exact ⟨.refl h, nofun⟩
  | cons g groups ih =>
    obtain ⟨hmerge, hjoin⟩ := mergeGroup_spec h (hE g List.mem_cons_self)
    obtain ⟨hgrown, hrep⟩ := ih hmerge.forest fun g' hg' => hE g' (List.mem_cons_of_mem _ hg')
    refine ⟨hmerge.trans hgrown, fun g' hg' x hx y hy => ?_⟩
    rcases List.mem_cons.mp hg' with rfl | hg'
    · exact hgrown.mono x y (hjoin x hx y hy)
    · exact hrep g' hg' x hx y hy

end Grown

lemma forest_nil : Forest [] := ⟨List.nodup_nil, nofun, nofun⟩

lemma rep_nil (x : String) : rep [] x = x := rfl

/-- The forest of the groups is one. -/
lemma forest_groups (groups : List (List String)) : Forest (groups.foldl mergeGroup []) :=
  (mergeGroups_spec (E := component groups) forest_nil fun g hg x hx y hy =>
    .rel x y ⟨g, hg, hx, hy⟩).1.forest

/-- Two refs have one root exactly when a chain of groups joins them. -/
theorem rep_groups_iff (groups : List (List String)) (x y : String) :
    rep (groups.foldl mergeGroup []) x = rep (groups.foldl mergeGroup []) y ↔
      component groups x y := by
  obtain ⟨hgrown, hjoin⟩ := mergeGroups_spec (E := component groups) forest_nil
    fun g hg x hx y hy => .rel x y ⟨g, hg, hx, hy⟩
  constructor
  · intro hxy
    have hsound := hgrown.sound fun x => rep_nil x ▸ (component groups).refl x
    exact (component groups).trans (hsound x) (hxy ▸ (component groups).symm (hsound y))
  · intro hxy
    induction hxy with
    | rel x y hxy =>
      obtain ⟨g, hg, hx, hy⟩ := hxy
      exact hjoin g hg x hx y hy
    | refl x => rfl
    | symm x y _ ih => exact ih.symm
    | trans x y z _ _ ih ih' => exact ih.trans ih'

end TrustLens.Runtime.Independence
