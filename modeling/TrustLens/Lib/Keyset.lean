import Mathlib.Data.List.Sort
import Mathlib.Order.Basic

/-!
# Keyset pagination

A listing served page by page, each page beginning after the key of the last row of the page
before. Where no two rows have one key, the pages of a walk are the whole listing, row by row and
in its order.
-/

namespace TrustLens.Keyset

variable {α K T : Type*} [LinearOrder K] (key : α → K)

/-- The rows after a position, from the greatest key down. -/
def after (rows : List α) (position : Option K) : List α :=
  (rows.filter fun r => position.all fun k => decide (key r < k)).insertionSort
    fun a b => key b ≤ key a

/-- A page looks one row ahead, and names its own last row where it sees one. -/
def page (limit : ℕ) (rows : List α) (position : Option K) : List α × Option α :=
  let found := (after key rows position).take (limit + 1)
  if limit < found.length then (found.take limit, (found.take limit).getLast?) else (found, none)

/-- A client follows the cursors it is given until there is none. -/
def follow (list : Option T → Option (List α × Option T)) : ℕ → Option T → Option (List (List α))
  | 0, _ => none
  | fuel + 1, cursor =>
    match list cursor with
    | none => none
    | some (items, none) => some [items]
    | some (items, some next) => (follow list fuel (some next)).map (items :: ·)

/-- In the order of the listing. -/
def Descending (rows : List α) : Prop := rows.Pairwise fun a b => key b < key a

variable {key}

lemma perm_after (rows : List α) : (after key rows none).Perm rows := by
  have hall : (rows.filter fun r => (none : Option K).all fun k => decide (key r < k)) = rows :=
    List.filter_eq_self.mpr fun _ _ => rfl
  rw [after, hall]
  exact List.perm_insertionSort _ _

lemma descending_after {rows : List α} (h : (rows.map key).Nodup) (position : Option K) :
    Descending key (after key rows position) := by
  have hsorted : (after key rows position).Pairwise fun a b => key b ≤ key a :=
    List.pairwise_insertionSort _ _
  have hsub : (rows.filter fun r => position.all fun k => decide (key r < k)).Sublist rows :=
    List.filter_sublist
  have hdistinct : (after key rows position).Pairwise fun a b => key a ≠ key b := by
    rw [← List.pairwise_map (R := (· ≠ ·))]
    exact ((List.perm_insertionSort _ _).map key).nodup_iff.mpr (h.sublist (hsub.map key))
  exact (hsorted.and hdistinct).imp fun hab => lt_of_le_of_ne hab.1 (Ne.symm hab.2)

/-- A listing has one order. -/
lemma eq_of_perm {xs ys : List α} (hx : Descending key xs) (hy : Descending key ys)
    (h : xs.Perm ys) : xs = ys :=
  h.eq_of_pairwise (fun _ _ _ _ hab hba => absurd hab (lt_asymm hba)) hx hy

/-- After a position stand the rows of the listing with smaller keys. -/
lemma after_some {rows : List α} (h : (rows.map key).Nodup) (k : K) :
    after key rows (some k) = (after key rows none).filter fun r => decide (key r < k) := by
  refine eq_of_perm (descending_after h _) ((descending_after h none).sublist List.filter_sublist) ?_
  refine (List.perm_insertionSort _ _).trans ?_
  exact ((perm_after rows).filter _).symm

/-- After the last row of a first part stands the rest. -/
lemma after_getLast {rows before rest : List α} (h : (rows.map key).Nodup)
    (hsplit : after key rows none = before ++ rest) :
    after key rows (before.getLast?.map key) = rest := by
  have hdesc := descending_after h none
  rw [hsplit] at hdesc
  obtain ⟨hbefore, -, hcross⟩ := List.pairwise_append.mp hdesc
  rcases List.eq_nil_or_concat before with rfl | ⟨init, last, rfl⟩
  · exact hsplit
  · have hlast : (init ++ [last]).getLast?.map key = some (key last) := by
      rw [List.getLast?_concat, Option.map_some]
    rw [List.concat_eq_append] at hbefore hcross hsplit ⊢
    have hnone : (init ++ [last]).filter (fun r => decide (key r < key last)) = [] := by
      rw [List.filter_eq_nil_iff]
      intro r hr hlt
      rcases List.mem_append.mp hr with hr | hr
      · have := (List.pairwise_append.mp hbefore).2.2 r hr last (List.mem_singleton_self last)
        exact lt_asymm this (of_decide_eq_true hlt)
      · rw [List.mem_singleton.mp hr] at hlt
        exact lt_irrefl _ (of_decide_eq_true hlt)
    have hall : rest.filter (fun r => decide (key r < key last)) = rest := by
      rw [List.filter_eq_self]
      intro r hr
      exact decide_eq_true (hcross last (List.mem_append_right _ (List.mem_singleton_self last)) r hr)
    rw [hlast, after_some h, hsplit, List.filter_append, hnone, hall, List.nil_append]

/-- What a page holds, and where it says the next one begins. -/
lemma page_eq {rows before rest : List α} (h : (rows.map key).Nodup) (limit : ℕ)
    (hsplit : after key rows none = before ++ rest) :
    page key limit rows (before.getLast?.map key) =
      if limit < rest.length then (rest.take limit, (rest.take limit).getLast?) else (rest, none) := by
  have hmore : limit < (rest.take (limit + 1)).length ↔ limit < rest.length := by
    rw [List.length_take]
    omega
  rw [page, after_getLast h hsplit]
  simp only [hmore, List.take_take, Nat.min_eq_left (Nat.le_succ limit)]
  split_ifs with hlt
  · rfl
  · rw [List.take_of_length_le (by omega)]

section Walk

variable {rows : List α} {limit : ℕ} {list : Option T → Option (List α × Option T)} {encode : α → T}

/-- From any row of the listing, the cursors lead through the rest. -/
lemma follow_rest (h : (rows.map key).Nodup) (hlimit : 0 < limit)
    (hfirst : list none = some ((page key limit rows none).map id (Option.map encode)))
    (hnext : ∀ r ∈ rows, list (some (encode r)) =
      some ((page key limit rows (some (key r))).map id (Option.map encode)))
    (fuel : ℕ) : ∀ before rest : List α, after key rows none = before ++ rest →
      rest.length < fuel → ∃ pages : List (List α),
        follow list fuel (before.getLast?.map encode) = some pages ∧
          pages.flatten = rest ∧ ∀ items ∈ pages, items.length ≤ limit := by
  induction fuel with
  | zero => exact fun _ _ _ hlt => absurd hlt (Nat.not_lt_zero _)
  | succ fuel ih =>
    intro before rest hsplit hlen
    have hserved : list (before.getLast?.map encode) =
        some ((page key limit rows (before.getLast?.map key)).map id (Option.map encode)) := by
      cases hlast : before.getLast? with
      | none => exact hfirst
      | some r =>
        have hmem : r ∈ after key rows none := by
          rw [hsplit]
          exact List.mem_append_left _ (List.mem_of_getLast? hlast)
        exact hnext r ((perm_after rows).subset hmem)
    rw [page_eq h limit hsplit] at hserved
    rw [follow, hserved]
    by_cases hlt : limit < rest.length
    · have hne : rest.take limit ≠ [] := by
        rw [← List.length_pos_iff, List.length_take]
        omega
      have hlast : (before ++ rest.take limit).getLast? = (rest.take limit).getLast? :=
        List.getLast?_append_of_ne_nil _ hne
      obtain ⟨pages, hpages, hflat, hbound⟩ := ih (before ++ rest.take limit) (rest.drop limit)
        (by rw [List.append_assoc, List.take_append_drop, hsplit])
        (by rw [List.length_drop]; omega)
      rw [hlast] at hpages
      obtain ⟨r, hr⟩ : ∃ r, (rest.take limit).getLast? = some r :=
        ⟨_, List.getLast?_eq_some_getLast hne⟩
      rw [hr] at hpages
      simp only [if_pos hlt, hr, Prod.map, id, Option.map_some] at hpages ⊢
      refine ⟨rest.take limit :: pages, by rw [hpages]; rfl, ?_, ?_⟩
      · rw [List.flatten_cons, hflat, List.take_append_drop]
      · refine List.forall_mem_cons.mpr ⟨?_, hbound⟩
        rw [List.length_take]
        exact Nat.min_le_left _ _
    · rw [if_neg hlt]
      refine ⟨[rest], rfl, List.append_nil rest, ?_⟩
      exact List.forall_mem_singleton.mpr (Nat.not_lt.mp hlt)

/-- Following the cursors ends, and yields the listing: every row once, in order. -/
theorem follow_complete (h : (rows.map key).Nodup) (hlimit : 0 < limit)
    (hfirst : list none = some ((page key limit rows none).map id (Option.map encode)))
    (hnext : ∀ r ∈ rows, list (some (encode r)) =
      some ((page key limit rows (some (key r))).map id (Option.map encode)))
    {fuel : ℕ} (hfuel : rows.length < fuel) : ∃ pages, follow list fuel none = some pages ∧
      pages.flatten.Perm rows ∧ Descending key pages.flatten ∧
      ∀ items ∈ pages, items.length ≤ limit := by
  have hlength : (after key rows none).length < fuel := by rwa [(perm_after rows).length_eq]
  obtain ⟨pages, hpages, hflat, hbound⟩ :=
    follow_rest h hlimit hfirst hnext fuel [] (after key rows none) rfl hlength
  refine ⟨pages, hpages, ?_, ?_, hbound⟩
  · rw [hflat]
    exact perm_after rows
  · rw [hflat]
    exact descending_after h none

end Walk

end TrustLens.Keyset
