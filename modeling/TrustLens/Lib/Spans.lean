import Mathlib.Data.List.Basic
import Mathlib.Order.Nat
import Mathlib.Tactic.Common

/-!
# Spans in order

Half-open spans of natural numbers that lie one after the other, and the pieces a range is cut
into at them.
-/

namespace TrustLens

/-- The numbers from the first to before the second. -/
abbrev Span := ℕ × ℕ

namespace Span

def Holds (s : Span) (x : ℕ) : Prop := s.1 ≤ x ∧ x < s.2

/-- The spans lie one after the other between two bounds. -/
structure Laid (low high : ℕ) (spans : List Span) : Prop where
  within : ∀ s ∈ spans, low ≤ s.1 ∧ s.1 ≤ s.2 ∧ s.2 ≤ high
  ordered : spans.Pairwise fun s t => s.2 ≤ t.1

variable {low high pos stop x : ℕ} {s t : Span} {spans spans' cuts : List Span}

namespace Laid

/-- What follows the first span starts where that one ends. -/
lemma tail (h : Laid low high (s :: spans)) : Laid s.2 high spans := by
  obtain ⟨hfirst, hrest⟩ := List.pairwise_cons.mp h.ordered
  refine ⟨fun t ht => ?_, hrest⟩
  exact ⟨hfirst t ht, (h.within t (List.mem_cons_of_mem s ht)).2⟩

lemma cons (hlow : low ≤ s.1) (hs : s.1 ≤ s.2) (hhigh : s.2 ≤ high) (h : Laid s.2 high spans) :
    Laid low high (s :: spans) := by
  refine ⟨List.forall_mem_cons.mpr ⟨⟨hlow, hs, hhigh⟩, fun t ht => ?_⟩, ?_⟩
  · obtain ⟨hafter, hrest⟩ := h.within t ht
    exact ⟨by omega, hrest⟩
  · exact List.pairwise_cons.mpr ⟨fun t ht => (h.within t ht).1, h.ordered⟩

lemma sublist (h : Laid low high spans) (hsub : spans'.Sublist spans) : Laid low high spans' :=
  ⟨fun s hs => h.within s (hsub.subset hs), h.ordered.sublist hsub⟩

lemma append (h : Laid low pos spans) (h' : Laid pos high spans') (hlow : low ≤ pos)
    (hhigh : pos ≤ high) : Laid low high (spans ++ spans') := by
  constructor
  · intro s hs
    rcases List.mem_append.mp hs with hs | hs
    · have := h.within s hs
      omega
    · have := h'.within s hs
      omega
  · refine List.pairwise_append.mpr ⟨h.ordered, h'.ordered, fun s hs t ht => ?_⟩
    exact (h.within s hs).2.2.trans (h'.within t ht).1

/-- Spans laid out within each of the spans are laid out. -/
theorem flatMap (h : Laid low high spans) {f : Span → List Span}
    (hf : ∀ s ∈ spans, Laid s.1 s.2 (f s)) : Laid low high (spans.flatMap f) := by
  induction spans generalizing low with
  | nil => exact ⟨nofun, .nil⟩
  | cons s spans ih =>
    obtain ⟨hlow, hs, hhigh⟩ := h.within s List.mem_cons_self
    have hrest := ih h.tail fun t ht => hf t (List.mem_cons_of_mem s ht)
    have hfirst : Laid low s.2 (f s) := by
      refine ⟨fun t ht => ?_, (hf s List.mem_cons_self).ordered⟩
      have := (hf s List.mem_cons_self).within t ht
      omega
    exact hfirst.append hrest (hlow.trans hs) hhigh

section

variable {ι : Type} {span : ι → Span} {items : List ι}

/-- A number is in the span of one item at most. -/
theorem eq_of_holds (h : Laid low high (items.map span)) {i j : ι} (hi : i ∈ items) (hj : j ∈ items)
    (hx : (span i).Holds x) (hx' : (span j).Holds x) : i = j := by
  unfold Holds at hx hx'
  induction items generalizing low with
  | nil => cases hi
  | cons first items ih =>
    rw [List.map_cons] at h
    have hafter : ∀ k ∈ items, (span first).2 ≤ (span k).1 := fun k hk =>
      (h.tail.within _ (List.mem_map_of_mem hk)).1
    rcases List.mem_cons.mp hi with rfl | hi'
    · rcases List.mem_cons.mp hj with rfl | hj'
      · rfl
      · have := hafter j hj'
        omega
    · rcases List.mem_cons.mp hj with rfl | hj'
      · have := hafter i hi'
        omega
      · exact ih h.tail hi' hj'

/-- A span within each of the spans. -/
theorem filterMap (h : Laid low high (items.map span)) {f : ι → Option Span}
    (hf : ∀ i ∈ items, ∀ s ∈ f i, (span i).1 ≤ s.1 ∧ s.1 ≤ s.2 ∧ s.2 ≤ (span i).2) :
    Laid low high (items.filterMap f) := by
  constructor
  · intro s hs
    obtain ⟨i, hi, hfi⟩ := List.mem_filterMap.mp hs
    have hin := hf i hi s hfi
    have hspan := h.within _ (List.mem_map_of_mem hi)
    omega
  · refine List.pairwise_filterMap.mpr ((List.pairwise_map.mp h.ordered).imp_of_mem ?_)
    intro i j hi hj hij s hs t ht
    have hlast := (hf i hi s hs).2.2
    have hfirst := (hf j hj t ht).1
    omega

end

end Laid

/-- What is left of a range that is cut at some spans. -/
def pieces (stop : ℕ) : (pos : ℕ) → List Span → List Span
  | pos, [] => [(pos, stop)]
  | pos, cut :: cuts => (pos, cut.1) :: pieces stop cut.2 cuts

theorem laid_pieces (h : Laid pos stop cuts) (hle : pos ≤ stop) : Laid pos stop (pieces stop pos cuts) := by
  induction cuts generalizing pos with
  | nil => exact (Laid.mk nofun .nil : Laid stop stop []).cons le_rfl hle le_rfl
  | cons cut cuts ih =>
    obtain ⟨hbefore, hcut, hstop⟩ := h.within cut List.mem_cons_self
    have hrest := ih h.tail hstop
    have hfrom : Laid cut.1 stop (pieces stop cut.2 cuts) := by
      refine ⟨fun s hs => ?_, hrest.ordered⟩
      have := hrest.within s hs
      omega
    exact hfrom.cons le_rfl hbefore (hcut.trans hstop)

/-- The pieces hold the numbers of the range that no cut holds. -/
theorem holds_pieces_iff (h : Laid pos stop cuts) :
    (∃ s ∈ pieces stop pos cuts, s.Holds x) ↔ pos ≤ x ∧ x < stop ∧ ∀ cut ∈ cuts, ¬cut.Holds x := by
  induction cuts generalizing pos with
  | nil => simp [pieces, Holds]
  | cons cut cuts ih =>
    obtain ⟨hbefore, hcut, hstop⟩ := h.within cut List.mem_cons_self
    have hafter := fun s hs => (h.tail.within s hs).1
    have hsplit : (∃ s ∈ pieces stop pos (cut :: cuts), s.Holds x) ↔
        (pos ≤ x ∧ x < cut.1) ∨ ∃ s ∈ pieces stop cut.2 cuts, s.Holds x := by
      simp only [pieces, List.mem_cons, exists_eq_or_imp]
      rfl
    rw [hsplit, ih h.tail, List.forall_mem_cons]
    unfold Holds
    constructor
    · rintro (hx | ⟨hlow, hhigh, hout⟩)
      · refine ⟨hx.1, by omega, by omega, fun s hs => ?_⟩
        have := hafter s hs
        omega
      · exact ⟨by omega, hhigh, by omega, hout⟩
    · rintro ⟨hlow, hhigh, hcutout, hout⟩
      by_cases hx : x < cut.1
      · exact .inl ⟨hlow, hx⟩
      · exact .inr ⟨by omega, hhigh, hout⟩

end Span
end TrustLens
