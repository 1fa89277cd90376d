import Mathlib.Data.List.Dedup
import Mathlib.Data.List.Perm.Subperm
import Mathlib.Data.List.Sort
import Mathlib.Order.Lattice

/-!
# Canonical sorted, duplicate-free lists and keyed lookup

`sortedUnique` is the canonical list of a finite collection: two lists with the
same members have the same one. A list whose keys are distinct is a map, and
looking up a member's key finds that member.
-/

namespace TrustLens

variable {α : Type*} [LinearOrder α]

/-- The sorted list of the distinct members. -/
def sortedUnique (xs : List α) : List α :=
  xs.dedup.insertionSort (· ≤ ·)

@[simp] lemma mem_sortedUnique {a : α} {xs : List α} : a ∈ sortedUnique xs ↔ a ∈ xs := by
  rw [sortedUnique, (List.perm_insertionSort _ _).mem_iff, List.mem_dedup]

lemma nodup_sortedUnique (xs : List α) : (sortedUnique xs).Nodup :=
  (List.perm_insertionSort _ _).nodup_iff.mpr xs.nodup_dedup

lemma pairwise_sortedUnique (xs : List α) : (sortedUnique xs).Pairwise (· ≤ ·) :=
  List.pairwise_insertionSort _ _

lemma sortedUnique_eq_of_sorted {xs : List α} (hn : xs.Nodup) (hs : xs.Pairwise (· ≤ ·)) :
    sortedUnique xs = xs := by
  rw [sortedUnique, hn.dedup, hs.insertionSort_eq]

/-- Sorted lists of distinct members are determined by their members. -/
theorem eq_of_sorted_of_mem_iff {xs ys : List α} (hx : xs.Nodup) (hxs : xs.Pairwise (· ≤ ·))
    (hy : ys.Nodup) (hys : ys.Pairwise (· ≤ ·)) (h : ∀ a, a ∈ xs ↔ a ∈ ys) : xs = ys :=
  List.Perm.eq_of_pairwise' hxs hys ((List.perm_ext_iff_of_nodup hx hy).mpr h)

/-- The canonical list depends only on the members. -/
theorem sortedUnique_congr {xs ys : List α} (h : ∀ a, a ∈ xs ↔ a ∈ ys) :
    sortedUnique xs = sortedUnique ys := by
  apply eq_of_sorted_of_mem_iff (nodup_sortedUnique xs) (pairwise_sortedUnique xs)
    (nodup_sortedUnique ys) (pairwise_sortedUnique ys)
  simpa only [mem_sortedUnique] using h

lemma sortedUnique_idem (xs : List α) : sortedUnique (sortedUnique xs) = sortedUnique xs :=
  sortedUnique_congr fun _ => mem_sortedUnique

@[simp] lemma sortedUnique_nil : sortedUnique ([] : List α) = [] := rfl

@[simp] lemma sortedUnique_eq_nil {xs : List α} : sortedUnique xs = [] ↔ xs = [] := by
  simp only [List.eq_nil_iff_forall_not_mem, mem_sortedUnique]

lemma length_sortedUnique_le {xs ys : List α} (h : xs ⊆ ys) :
    (sortedUnique xs).length ≤ (sortedUnique ys).length := by
  refine (List.subperm_of_subset (nodup_sortedUnique xs) fun a ha => ?_).length_le
  rw [mem_sortedUnique] at ha ⊢
  exact h ha

/-- In a list of distinct keys, a member is found under its key. -/
theorem find?_of_nodup_keys {ι : Type*} (key : ι → α) {xs : List ι} (h : (xs.map key).Nodup)
    {x : ι} (hx : x ∈ xs) : xs.find? (key · == key x) = some x := by
  induction xs with
  | nil => simp at hx
  | cons y ys ih =>
    rw [List.map_cons, List.nodup_cons] at h
    rcases List.mem_cons.mp hx with rfl | hmem
    · simp
    · have hne : key y ≠ key x := by
        intro he
        exact h.1 (he ▸ List.mem_map_of_mem hmem)
      rw [List.find?_cons_of_neg (by simpa using hne), ih h.2 hmem]

/-- Under distinct keys the order does not matter. -/
lemma find?_perm_of_nodup_keys {ι : Type*} (key : ι → α) {xs ys : List ι} (h : xs.Perm ys)
    (hnd : (ys.map key).Nodup) (k : α) : xs.find? (key · == k) = ys.find? (key · == k) := by
  cases hfind : xs.find? (key · == k) with
  | some x =>
    have hmem : x ∈ ys := h.mem_iff.mp (List.mem_of_find?_eq_some hfind)
    obtain rfl : key x = k := by simpa using List.find?_some hfind
    exact (find?_of_nodup_keys key hnd hmem).symm
  | none =>
    refine (List.find?_eq_none.mpr fun y hy => ?_).symm
    exact List.find?_eq_none.mp hfind y (h.mem_iff.mpr hy)

end TrustLens
