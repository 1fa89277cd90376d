import Mathlib.Data.List.Nodup

/-!
# Lists read page by page

Pages that follow each other's cursors, and the entries of a list of pages with the first occurrence
of every key.
-/

namespace TrustLens

variable {α β κ : Type*}

section FirstOccurrences

variable [DecidableEq β] (key : α → β)

/-- The entries whose keys were not seen, the first of each key. -/
def unseen : List β → List α → List α
  | _, [] => []
  | seen, e :: es => if key e ∈ seen then unseen seen es else e :: unseen (key e :: seen) es

/-- The first occurrence of every key, in order. -/
def firstOccurrences (xs : List α) : List α := unseen key [] xs

variable {key}

lemma unseen_congr {seen seen' : List β} (h : ∀ k, k ∈ seen ↔ k ∈ seen') (xs : List α) :
    unseen key seen xs = unseen key seen' xs := by
  induction xs generalizing seen seen' with
  | nil => rfl
  | cons x xs ih =>
    have hcons : ∀ k, k ∈ key x :: seen ↔ k ∈ key x :: seen' := by
      intro k
      rw [List.mem_cons, List.mem_cons, h k]
    rw [unseen, unseen, ih h, ih hcons]
    simp only [h (key x)]

lemma mem_keys_unseen {seen : List β} {xs : List α} {k : β} :
    k ∈ (unseen key seen xs).map key ↔ k ∉ seen ∧ k ∈ xs.map key := by
  induction xs generalizing seen with
  | nil => simp [unseen]
  | cons x xs ih =>
    rw [unseen, List.map_cons, List.mem_cons]
    split_ifs with hx
    · rw [ih]
      constructor
      · rintro ⟨hk, hmem⟩
        exact ⟨hk, .inr hmem⟩
      · rintro ⟨hk, rfl | hmem⟩
        · exact absurd hx hk
        · exact ⟨hk, hmem⟩
    · rw [List.map_cons, List.mem_cons, ih, List.mem_cons]
      by_cases hk : k = key x
      · simp [hk, hx]
      · simp [hk]

lemma unseen_append (seen : List β) (xs ys : List α) :
    unseen key seen (xs ++ ys) =
      unseen key seen xs ++ unseen key (seen ++ (unseen key seen xs).map key) ys := by
  induction xs generalizing seen with
  | nil => simp [unseen]
  | cons x xs ih =>
    rw [List.cons_append, unseen, unseen]
    split_ifs
    · exact ih seen
    · rw [ih, List.cons_append]
      congr 2
      refine unseen_congr (fun k => ?_) ys
      simp only [List.map_cons, List.mem_append, List.mem_cons]
      tauto

lemma nodup_unseen (seen : List β) (xs : List α) : ((unseen key seen xs).map key).Nodup := by
  induction xs generalizing seen with
  | nil => exact List.nodup_nil
  | cons x xs ih =>
    rw [unseen]
    split_ifs
    · exact ih seen
    · rw [List.map_cons, List.nodup_cons]
      refine ⟨fun hmem => ?_, ih _⟩
      exact (mem_keys_unseen.mp hmem).1 List.mem_cons_self

/-- Of distinct entries only those seen before are left out. -/
lemma unseen_of_nodup {seen : List β} {xs : List α} (h : (xs.map key).Nodup) :
    unseen key seen xs = xs.filter (key · ∉ seen) := by
  induction xs generalizing seen with
  | nil => rfl
  | cons x xs ih =>
    rw [List.map_cons, List.nodup_cons] at h
    rw [unseen, ih h.2, ih h.2]
    split_ifs with hx
    · rw [List.filter_cons_of_neg (by simpa using hx)]
    · rw [List.filter_cons_of_pos (by simpa using hx)]
      congr 1
      refine List.filter_congr fun y hy => ?_
      have hne : key y ≠ key x := fun heq => h.1 (heq ▸ List.mem_map_of_mem hy)
      simp [hne]

lemma nodup_firstOccurrences (xs : List α) : ((firstOccurrences key xs).map key).Nodup :=
  nodup_unseen [] xs

lemma mem_keys_firstOccurrences {xs : List α} {k : β} :
    k ∈ (firstOccurrences key xs).map key ↔ k ∈ xs.map key := by
  rw [firstOccurrences, mem_keys_unseen]
  simp

lemma firstOccurrences_append (xs ys : List α) :
    firstOccurrences key (xs ++ ys) =
      firstOccurrences key xs ++ unseen key ((firstOccurrences key xs).map key) ys :=
  unseen_append [] xs ys

lemma firstOccurrences_of_nodup {xs : List α} (h : (xs.map key).Nodup) :
    firstOccurrences key xs = xs := by
  rw [firstOccurrences, unseen_of_nodup h]
  simp

lemma firstOccurrences_eq_nil {xs : List α} : firstOccurrences key xs = [] ↔ xs = [] := by
  rw [← List.map_eq_nil_iff (f := key), List.eq_nil_iff_forall_not_mem]
  simp only [mem_keys_firstOccurrences]
  rw [← List.eq_nil_iff_forall_not_mem, List.map_eq_nil_iff]

end FirstOccurrences

/-- A page with the cursor it was asked for and the one it gives. -/
structure Page (κ α : Type*) where
  cursor : Option κ
  items : List α
  next : Option κ
deriving DecidableEq

/-- Each page was asked for with the cursor that the one before it gives. -/
def Followed (ends : Option κ → Bool) : Option κ → List (Page κ α) → Prop
  | _, [] => True
  | c, p :: ps => p.cursor = c ∧ (ps ≠ [] → ends p.next = false) ∧ Followed ends p.next ps

/-- The cursor that comes after some pages. -/
def cursorAfter (c : Option κ) (ps : List (Page κ α)) : Option κ := ps.foldl (fun _ p => p.next) c

/-- A server whose pages from a cursor on are a list, up to a page without a cursor. -/
inductive Serves (server : Option κ → List α × Option κ) (ends : Option κ → Bool) :
    Option κ → List α → Prop where
  | last {c : Option κ} (h : ends (server c).2 = true) : Serves server ends c (server c).1
  | more {c : Option κ} {rest : List α} (h : ends (server c).2 = false)
      (hrest : Serves server ends (server c).2 rest) : Serves server ends c ((server c).1 ++ rest)

variable {ends : Option κ → Bool}

lemma Followed.concat {c : Option κ} {ps : List (Page κ α)} {p : Page κ α}
    (h : Followed ends c ps) (hp : p.cursor = cursorAfter c ps)
    (hends : ps ≠ [] → ends p.cursor = false) : Followed ends c (ps ++ [p]) := by
  induction ps generalizing c with
  | nil => exact ⟨hp, fun hne => absurd rfl hne, trivial⟩
  | cons q ps ih =>
    obtain ⟨hq, hqends, hps⟩ := h
    refine ⟨hq, fun _ => ?_, ih hps hp fun _ => hends (List.cons_ne_nil q ps)⟩
    cases ps with
    | nil =>
      rw [← hends (List.cons_ne_nil q []), hp]
      rfl
    | cons r ps => exact hqends (List.cons_ne_nil r ps)

lemma cursorAfter_concat (c : Option κ) (ps : List (Page κ α)) (p : Page κ α) :
    cursorAfter c (ps ++ [p]) = p.next := by
  rw [cursorAfter, List.foldl_append]
  rfl

/-- Pages that are followed to the end are the whole list. -/
theorem Serves.items_of_followed {server : Option κ → List α × Option κ} {c : Option κ}
    {all : List α} {ps : List (Page κ α)} (hserves : Serves server ends c all)
    (hps : Followed ends c ps) (hne : ps ≠ [])
    (hanswers : ∀ p ∈ ps, server p.cursor = (p.items, p.next))
    (hend : ends (cursorAfter c ps) = true) : ps.flatMap Page.items = all := by
  induction ps generalizing c all with
  | nil => exact absurd rfl hne
  | cons p ps ih =>
    obtain ⟨rfl, hmore, hrest⟩ := hps
    have hp := hanswers p List.mem_cons_self
    cases ps with
    | nil =>
      have hp2 : ends (server p.cursor).2 = true := by rw [hp]; exact hend
      cases hserves with
      | last => rw [hp, List.flatMap_singleton]
      | more h =>
        rw [hp2] at h
        cases h
    | cons q ps =>
      have hp2 : ends (server p.cursor).2 = false := by
        rw [hp]
        exact hmore (List.cons_ne_nil q ps)
      cases hserves with
      | last h =>
        rw [hp2] at h
        cases h
      | more _ hserves =>
        rw [List.flatMap_cons]
        rw [hp] at hserves ⊢
        rw [ih hserves hrest (List.cons_ne_nil q ps)
          (fun r hr => hanswers r (List.mem_cons_of_mem p hr)) hend]

end TrustLens
