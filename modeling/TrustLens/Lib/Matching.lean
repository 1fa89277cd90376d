import Mathlib.Data.Finset.Card
import Mathlib.Data.Finset.Prod
import Mathlib.Data.Fintype.Card

/-!
# Matchings of a bipartite graph

A matching is a set of edges no two of which share an end. A cover, that is, a set of nodes
on either side that meets every edge, is at least as large as any matching, so a matching as
large as a cover is a maximum one.
-/

namespace TrustLens.Matching

variable {α β : Type*} {adj : α → β → Prop} {M : Finset (α × β)}

structure IsMatching (adj : α → β → Prop) (M : Finset (α × β)) : Prop where
  edge : ∀ e ∈ M, adj e.1 e.2
  left : Set.InjOn Prod.fst (M : Set (α × β))
  right : Set.InjOn Prod.snd (M : Set (α × β))

/-- No matching is larger. -/
structure IsMaximum (adj : α → β → Prop) (M : Finset (α × β)) : Prop extends
    IsMatching adj M where
  max : ∀ N, IsMatching adj N → N.card ≤ M.card

lemma IsMaximum.card_eq {N : Finset (α × β)} (hM : IsMaximum adj M) (hN : IsMaximum adj N) :
    M.card = N.card :=
  le_antisymm (hN.max M hM.toIsMatching) (hM.max N hN.toIsMatching)

variable [DecidableEq α]

/-- Every matching is at most as large as a cover. -/
theorem IsMatching.card_le_cover (h : IsMatching adj M) {C : Finset α} {D : Finset β}
    (hcover : ∀ a b, adj a b → a ∈ C ∨ b ∈ D) : M.card ≤ C.card + D.card := by
  have hleft : (M.filter fun e => e.1 ∈ C).card ≤ C.card :=
    Finset.card_le_card_of_injOn Prod.fst (fun e he => (Finset.mem_filter.mp he).2)
      (h.left.mono fun e he => (Finset.mem_filter.mp he).1)
  have hright : (M.filter fun e => e.1 ∉ C).card ≤ D.card := by
    refine Finset.card_le_card_of_injOn Prod.snd (fun e he => ?_)
      (h.right.mono fun e he => (Finset.mem_filter.mp he).1)
    obtain ⟨hmem, hout⟩ := Finset.mem_filter.mp he
    exact (hcover e.1 e.2 (h.edge e hmem)).resolve_left hout
  rw [← Finset.card_filter_add_card_filter_not (s := M) fun e => e.1 ∈ C]
  omega

lemma IsMatching.card_le_left (h : IsMatching adj M) {C : Finset α}
    (hleft : ∀ a b, adj a b → a ∈ C) : M.card ≤ C.card := by
  have hle := h.card_le_cover (D := ∅) fun a b hab => .inl (hleft a b hab)
  rwa [Finset.card_empty, Nat.add_zero] at hle

lemma IsMatching.card_le_right (h : IsMatching adj M) {D : Finset β}
    (hright : ∀ a b, adj a b → b ∈ D) : M.card ≤ D.card := by
  have hle := h.card_le_cover (C := ∅) fun a b hab => .inr (hright a b hab)
  rwa [Finset.card_empty, Nat.zero_add] at hle

end TrustLens.Matching
