import Mathlib.Data.List.MinMax
import TrustLens.Lib.SortedUnique
import TrustLens.Lib.ThreeValued

/-!
# Lists with the same members

Two lists have the same members up to a relation when each member of one is related to a
member of the other. Order and repetition do not matter to it, and neither do they to
what is computed by a map into a canonical form, a disjunction or a maximum.
-/

namespace TrustLens

/-- Every member of one list is related to some member of the other. -/
def SameMembers {α β : Type*} (R : α → β → Prop) (xs : List α) (ys : List β) : Prop :=
  (∀ x ∈ xs, ∃ y ∈ ys, R x y) ∧ ∀ y ∈ ys, ∃ x ∈ xs, R x y

namespace SameMembers

variable {α β γ δ : Type*} {R : α → β → Prop} {xs : List α} {ys : List β}

lemma eq_nil_iff (h : SameMembers R xs ys) : xs = [] ↔ ys = [] := by
  constructor
  · rintro rfl
    refine List.eq_nil_iff_forall_not_mem.mpr fun y hy => ?_
    obtain ⟨x, hx, -⟩ := h.2 y hy
    cases hx
  · rintro rfl
    refine List.eq_nil_iff_forall_not_mem.mpr fun x hx => ?_
    obtain ⟨y, hy, -⟩ := h.1 x hx
    cases hy

lemma mono {S : α → β → Prop} (h : SameMembers R xs ys)
    (hRS : ∀ x ∈ xs, ∀ y ∈ ys, R x y → S x y) : SameMembers S xs ys := by
  constructor
  · intro x hx
    obtain ⟨y, hy, hr⟩ := h.1 x hx
    exact ⟨y, hy, hRS x hx y hy hr⟩
  · intro y hy
    obtain ⟨x, hx, hr⟩ := h.2 y hy
    exact ⟨x, hx, hRS x hx y hy hr⟩

lemma filter {p : α → Bool} {q : β → Bool} (h : SameMembers R xs ys)
    (hpq : ∀ x ∈ xs, ∀ y ∈ ys, R x y → p x = q y) :
    SameMembers R (xs.filter p) (ys.filter q) := by
  constructor
  · intro x hx
    obtain ⟨hx, hp⟩ := List.mem_filter.mp hx
    obtain ⟨y, hy, hr⟩ := h.1 x hx
    exact ⟨y, List.mem_filter.mpr ⟨hy, hpq x hx y hy hr ▸ hp⟩, hr⟩
  · intro y hy
    obtain ⟨hy, hq⟩ := List.mem_filter.mp hy
    obtain ⟨x, hx, hr⟩ := h.2 y hy
    exact ⟨x, List.mem_filter.mpr ⟨hx, (hpq x hx y hy hr).symm ▸ hq⟩, hr⟩

lemma flatMap {S : γ → δ → Prop} {f : α → List γ} {g : β → List δ} (h : SameMembers R xs ys)
    (hfg : ∀ x ∈ xs, ∀ y ∈ ys, R x y → SameMembers S (f x) (g y)) :
    SameMembers S (xs.flatMap f) (ys.flatMap g) := by
  constructor
  · intro c hc
    obtain ⟨x, hx, hc⟩ := List.mem_flatMap.mp hc
    obtain ⟨y, hy, hr⟩ := h.1 x hx
    obtain ⟨d, hd, hs⟩ := (hfg x hx y hy hr).1 c hc
    exact ⟨d, List.mem_flatMap.mpr ⟨y, hy, hd⟩, hs⟩
  · intro d hd
    obtain ⟨y, hy, hd⟩ := List.mem_flatMap.mp hd
    obtain ⟨x, hx, hr⟩ := h.2 y hy
    obtain ⟨c, hc, hs⟩ := (hfg x hx y hy hr).2 d hd
    exact ⟨c, List.mem_flatMap.mpr ⟨x, hx, hc⟩, hs⟩

/-- Related members with one image make the images the same. -/
lemma mem_map {f : α → γ} {g : β → γ} (h : SameMembers R xs ys)
    (hfg : ∀ x ∈ xs, ∀ y ∈ ys, R x y → f x = g y) (c : γ) : c ∈ xs.map f ↔ c ∈ ys.map g := by
  simp only [List.mem_map]
  constructor
  · rintro ⟨x, hx, rfl⟩
    obtain ⟨y, hy, hr⟩ := h.1 x hx
    exact ⟨y, hy, (hfg x hx y hy hr).symm⟩
  · rintro ⟨y, hy, rfl⟩
    obtain ⟨x, hx, hr⟩ := h.2 y hy
    exact ⟨x, hx, hfg x hx y hy hr⟩

lemma mem_filterMap {f : α → Option γ} {g : β → Option γ} (h : SameMembers R xs ys)
    (hfg : ∀ x ∈ xs, ∀ y ∈ ys, R x y → f x = g y) (c : γ) :
    c ∈ xs.filterMap f ↔ c ∈ ys.filterMap g := by
  have hsome := h.mem_map hfg (some c)
  simpa only [List.mem_map, List.mem_filterMap] using hsome

lemma any_eq {p : α → Bool} {q : β → Bool} (h : SameMembers R xs ys)
    (hpq : ∀ x ∈ xs, ∀ y ∈ ys, R x y → p x = q y) : xs.any p = ys.any q := by
  have htrue := h.mem_map hpq true
  rw [Bool.eq_iff_iff, List.any_eq_true, List.any_eq_true]
  simpa only [List.mem_map] using htrue

end SameMembers

section Members

variable {α : Type*}

lemma any_congr_members {xs ys : List Truth} (h : ∀ t, t ∈ xs ↔ t ∈ ys) :
    Truth.any xs = Truth.any ys := by
  simp only [Truth.any, h]

lemma max?_congr_members [LinearOrder α] {xs ys : List α} (h : ∀ a, a ∈ xs ↔ a ∈ ys) :
    xs.max? = ys.max? := by
  cases hx : xs.max? with
  | none =>
    rw [List.max?_eq_none_iff] at hx
    subst hx
    have hnil : ys = [] := List.eq_nil_iff_forall_not_mem.mpr fun a ha => by simpa using (h a).mpr ha
    rw [hnil]
    rfl
  | some m =>
    rw [List.max?_eq_some_iff] at hx
    refine (List.max?_eq_some_iff.mpr ?_).symm
    exact ⟨(h m).mp hx.1, fun b hb => hx.2 b ((h b).mpr hb)⟩

/-- Lookup in a list of distinct keys depends on the members alone. -/
lemma find?_congr_members [LinearOrder α] {ι : Type*} (key : ι → α) {xs ys : List ι}
    (hy : (ys.map key).Nodup) (h : ∀ i, i ∈ xs ↔ i ∈ ys) (k : α) :
    xs.find? (key · == k) = ys.find? (key · == k) := by
  cases hfind : xs.find? (key · == k) with
  | none =>
    symm
    rw [List.find?_eq_none] at hfind ⊢
    exact fun i hi => hfind i ((h i).mpr hi)
  | some i =>
    have hmem := (h i).mp (List.mem_of_find?_eq_some hfind)
    obtain rfl : key i = k := by simpa using List.find?_some hfind
    exact (find?_of_nodup_keys key hy hmem).symm

end Members

end TrustLens
