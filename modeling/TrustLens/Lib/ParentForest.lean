import Mathlib.Data.Finset.Card
import Mathlib.Order.Defs.LinearOrder

/-!
# Forests of parent pointers

Nodes that point at a parent no greater than themselves form a forest: climbing from a node
ends at a node that is its own parent. Any function that is constant along the pointers and
fixes the roots is the function that climbs.
-/

namespace TrustLens.ParentForest

variable {α : Type*} [LinearOrder α] {nodes : Finset α} {parent : α → α}

/-- Pointers within a set of nodes that never lead upwards. -/
structure Descending (nodes : Finset α) (parent : α → α) : Prop where
  mem : ∀ x ∈ nodes, parent x ∈ nodes
  le : ∀ x ∈ nodes, parent x ≤ x

/-- Follows the pointers a number of times, or to a root before that. -/
def climb (parent : α → α) : ℕ → α → α
  | 0, x => x
  | n + 1, x => if parent x = x then x else climb parent n (parent x)

lemma climb_of_root {x : α} (h : parent x = x) (n : ℕ) : climb parent n x = x := by
  cases n with
  | zero => rfl
  | succ n => rw [climb, if_pos h]

/-- The nodes below a node; a chain of pointers from it is no longer than they are many. -/
def below (nodes : Finset α) (x : α) : Finset α := nodes.filter (· < x)

lemma card_below_parent (h : Descending nodes parent) {x : α} (hx : x ∈ nodes)
    (hne : parent x ≠ x) : (below nodes (parent x)).card < (below nodes x).card := by
  have hlt : parent x < x := lt_of_le_of_ne (h.le x hx) hne
  apply Finset.card_lt_card
  refine ⟨fun y hy => ?_, fun hsub => ?_⟩
  · obtain ⟨hmem, hy⟩ := Finset.mem_filter.mp hy
    exact Finset.mem_filter.mpr ⟨hmem, hy.trans hlt⟩
  · have hmem := hsub (Finset.mem_filter.mpr ⟨h.mem x hx, hlt⟩)
    exact lt_irrefl _ (Finset.mem_filter.mp hmem).2

/-- A function that is constant along the pointers and fixes the roots is reached by climbing. -/
theorem climb_eq (h : Descending nodes parent) {root : α → α}
    (hstep : ∀ x ∈ nodes, root (parent x) = root x)
    (hfix : ∀ x ∈ nodes, parent x = x → root x = x) {n : ℕ} {x : α} (hx : x ∈ nodes)
    (hn : (below nodes x).card ≤ n) : climb parent n x = root x := by
  induction n generalizing x with
  | zero =>
    have hroot : parent x = x := by
      by_contra hne
      have := card_below_parent h hx hne
      omega
    exact (hfix x hx hroot).symm
  | succ n ih =>
    rw [climb]
    split_ifs with hroot
    · exact (hfix x hx hroot).symm
    · have hcard := card_below_parent h hx hroot
      rw [ih (h.mem x hx) (by omega), hstep x hx]

lemma climb_succ (h : Descending nodes parent) {n : ℕ} {x : α} (hx : x ∈ nodes)
    (hn : (below nodes x).card ≤ n) : climb parent (n + 1) x = climb parent n x := by
  induction n generalizing x with
  | zero =>
    have hroot : parent x = x := by
      by_contra hne
      have := card_below_parent h hx hne
      omega
    rw [climb_of_root hroot, climb_of_root hroot]
  | succ n ih =>
    by_cases hroot : parent x = x
    · rw [climb_of_root hroot, climb_of_root hroot]
    · have hcard := card_below_parent h hx hroot
      rw [climb, if_neg hroot, ih (h.mem x hx) (by omega), climb, if_neg hroot]

/-- A node and its parent climb to one root. -/
lemma climb_parent (h : Descending nodes parent) {n : ℕ} {x : α} (hx : x ∈ nodes)
    (hn : (below nodes x).card ≤ n) : climb parent n (parent x) = climb parent n x := by
  by_cases hroot : parent x = x
  · rw [hroot]
  · have hcard := card_below_parent h hx hroot
    rw [← climb_succ h hx hn, climb, if_neg hroot]

lemma climb_mem (h : Descending nodes parent) {x : α} (hx : x ∈ nodes) (n : ℕ) :
    climb parent n x ∈ nodes := by
  induction n generalizing x with
  | zero => exact hx
  | succ n ih =>
    rw [climb]
    split_ifs
    · exact hx
    · exact ih (h.mem x hx)

lemma climb_le (h : Descending nodes parent) {x : α} (hx : x ∈ nodes) (n : ℕ) :
    climb parent n x ≤ x := by
  induction n generalizing x with
  | zero => exact le_refl x
  | succ n ih =>
    rw [climb]
    split_ifs
    · exact le_refl x
    · exact (ih (h.mem x hx)).trans (h.le x hx)

/-- Climbing ends at a root. -/
lemma parent_climb (h : Descending nodes parent) {n : ℕ} {x : α} (hx : x ∈ nodes)
    (hn : (below nodes x).card ≤ n) : parent (climb parent n x) = climb parent n x := by
  induction n generalizing x with
  | zero =>
    by_contra hne
    have := card_below_parent h hx hne
    omega
  | succ n ih =>
    rw [climb]
    split_ifs with hroot
    · exact hroot
    · have hcard := card_below_parent h hx hroot
      exact ih (h.mem x hx) (by omega)

end TrustLens.ParentForest
