import Mathlib.Data.List.Dedup

/-!
# Dictionaries in the order of their insertions

The keys of a dictionary are distinct; a key that is set anew after it was removed comes last.
-/

namespace TrustLens

structure OrderedDict (α β : Type*) where
  entries : List (α × β)
  nodup : (entries.map Prod.fst).Nodup

namespace OrderedDict

variable {α β : Type*}

def empty : OrderedDict α β := ⟨[], List.nodup_nil⟩

def keys (d : OrderedDict α β) : List α := d.entries.map Prod.fst

def filter (d : OrderedDict α β) (p : α × β → Bool) : OrderedDict α β :=
  ⟨d.entries.filter p, (List.filter_sublist.map _).nodup d.nodup⟩

/-- Without the `n` entries that were inserted first. -/
def dropFirst (d : OrderedDict α β) (n : ℕ) : OrderedDict α β :=
  ⟨d.entries.drop n, ((List.drop_sublist n _).map _).nodup d.nodup⟩

lemma keys_dropFirst (d : OrderedDict α β) (n : ℕ) : (d.dropFirst n).keys = d.keys.drop n :=
  List.map_drop

lemma length_keys (d : OrderedDict α β) : d.keys.length = d.entries.length := List.length_map _

/-- The values under the keys that are kept, in place. -/
def modify [DecidableEq α] (d : OrderedDict α β) (k : α) (f : β → β) : OrderedDict α β :=
  ⟨d.entries.map fun e => if e.1 = k then (e.1, f e.2) else e, by
    have hkeys : (d.entries.map fun e => if e.1 = k then (e.1, f e.2) else e).map Prod.fst =
        d.entries.map Prod.fst := by
      rw [List.map_map]
      refine List.map_congr_left fun e _ => ?_
      rw [Function.comp_apply]
      split_ifs <;> rfl
    rw [hkeys]
    exact d.nodup⟩

variable [DecidableEq α]

def get? (d : OrderedDict α β) (k : α) : Option β := (d.entries.find? (·.1 = k)).map Prod.snd

def erase (d : OrderedDict α β) (k : α) : OrderedDict α β := d.filter (·.1 ≠ k)

lemma notMem_keys_erase (d : OrderedDict α β) (k : α) : k ∉ (d.erase k).keys := by
  simp [erase, filter, keys]

/-- An entry inserted last, in the place of one under its key. -/
def insertLast (d : OrderedDict α β) (k : α) (v : β) : OrderedDict α β :=
  ⟨(d.erase k).entries ++ [(k, v)], by
    rw [List.map_append, List.map_singleton]
    refine List.nodup_append.mpr ⟨(d.erase k).nodup, List.nodup_singleton k, ?_⟩
    rintro k' hk' _ hk rfl
    cases List.mem_singleton.mp hk
    exact d.notMem_keys_erase k hk'⟩

/-! ### Lookups -/

lemma get?_eq_some {d : OrderedDict α β} {k : α} {v : β} :
    d.get? k = some v ↔ (k, v) ∈ d.entries := by
  obtain ⟨entries, hnodup⟩ := d
  unfold get?
  dsimp only
  induction entries with
  | nil => simp
  | cons e entries ih =>
    obtain ⟨k', v'⟩ := e
    rw [List.map_cons, List.nodup_cons] at hnodup
    rw [List.find?_cons]
    by_cases hk : k' = k
    · subst hk
      have hrest : (k', v) ∉ entries := fun h => hnodup.1 (List.mem_map.mpr ⟨_, h, rfl⟩)
      simp [hrest, eq_comm]
    · simp only [hk, decide_false]
      rw [ih hnodup.2, List.mem_cons, or_iff_right]
      rintro h
      exact hk (Prod.mk.inj h).1.symm

lemma get?_eq_none {d : OrderedDict α β} {k : α} : d.get? k = none ↔ k ∉ d.keys := by
  rw [Option.eq_none_iff_forall_ne_some, keys, List.mem_map]
  constructor
  · rintro h ⟨⟨k', v⟩, hmem, rfl⟩
    exact h v (get?_eq_some.mpr hmem)
  · intro h v hv
    exact h ⟨(k, v), get?_eq_some.mp hv, rfl⟩

lemma mem_keys {d : OrderedDict α β} {k : α} : k ∈ d.keys ↔ ∃ v, d.get? k = some v := by
  rw [← not_iff_not, ← get?_eq_none, Option.eq_none_iff_forall_ne_some, not_exists]

@[simp] lemma get?_empty (k : α) : (empty : OrderedDict α β).get? k = none := rfl

lemma get?_filter {d : OrderedDict α β} {p : α × β → Bool} {k : α} {v : β} :
    (d.filter p).get? k = some v ↔ d.get? k = some v ∧ p (k, v) = true := by
  rw [get?_eq_some, get?_eq_some]
  exact List.mem_filter

@[simp] lemma get?_erase_self (d : OrderedDict α β) (k : α) : (d.erase k).get? k = none :=
  get?_eq_none.mpr (d.notMem_keys_erase k)

lemma get?_erase_of_ne (d : OrderedDict α β) {k k' : α} (h : k' ≠ k) :
    (d.erase k).get? k' = d.get? k' := by
  ext v
  rw [erase, get?_filter]
  simp [h]

@[simp] lemma get?_insertLast_self (d : OrderedDict α β) (k : α) (v : β) :
    (d.insertLast k v).get? k = some v :=
  get?_eq_some.mpr (List.mem_append_right _ List.mem_cons_self)

lemma get?_insertLast_of_ne (d : OrderedDict α β) {k k' : α} (v : β) (h : k' ≠ k) :
    (d.insertLast k v).get? k' = d.get? k' := by
  rw [← d.get?_erase_of_ne h]
  ext w
  rw [get?_eq_some, get?_eq_some]
  simp [insertLast, h]

lemma get?_dropFirst {d : OrderedDict α β} {n : ℕ} {k : α} (h : k ∈ (d.dropFirst n).keys) :
    (d.dropFirst n).get? k = d.get? k := by
  obtain ⟨v, hv⟩ := mem_keys.mp h
  rw [hv]
  exact (get?_eq_some.mpr (List.mem_of_mem_drop (get?_eq_some.mp hv))).symm

lemma get?_modify (d : OrderedDict α β) (k : α) (f : β → β) (k' : α) :
    (d.modify k f).get? k' = if k' = k then (d.get? k).map f else d.get? k' := by
  ext v
  rw [get?_eq_some, modify, List.mem_map]
  constructor
  · rintro ⟨⟨a, b⟩, hmem, he⟩
    have hb := get?_eq_some.mpr hmem
    split_ifs at he ⊢ with hak hkk hkk
    · cases he
      rw [← hak, hb]
      rfl
    · cases he
      exact absurd hak hkk
    · cases he
      exact absurd hkk hak
    · cases he
      exact hb
  · split_ifs with hkk
    · intro hv
      obtain ⟨b, hb, rfl⟩ := Option.map_eq_some_iff.mp hv
      exact ⟨(k, b), get?_eq_some.mp hb, by rw [if_pos rfl, hkk]⟩
    · intro hv
      exact ⟨(k', v), get?_eq_some.mp hv, by rw [if_neg hkk]⟩

/-! ### Keys -/

lemma keys_insertLast (d : OrderedDict α β) (k : α) (v : β) :
    (d.insertLast k v).keys = d.keys.filter (· ≠ k) ++ [k] := by
  unfold keys insertLast erase filter
  rw [List.map_append, List.map_singleton, List.filter_map]
  rfl

lemma length_insertLast_le (d : OrderedDict α β) (k : α) (v : β) :
    (d.insertLast k v).entries.length ≤ d.entries.length + 1 := by
  rw [insertLast, List.length_append, List.length_singleton]
  exact Nat.succ_le_succ (List.length_filter_le _ _)

end OrderedDict

/-! ### The keys used last -/

/-- The last entries of a list, at most `n` of them. -/
def lastOf {α : Type*} (n : ℕ) (xs : List α) : List α := xs.drop (xs.length - n)

lemma lastOf_append {α : Type*} {n : ℕ} {xs ys : List α} (h : xs = [] ∨ n ≤ ys.length) :
    lastOf n (xs ++ ys) = lastOf n ys := by
  unfold lastOf
  rcases h with rfl | h
  · rfl
  · have hlen : (xs ++ ys).length - n = xs.length + (ys.length - n) := by
      rw [List.length_append]
      omega
    rw [hlen, List.drop_append, List.drop_eq_nil_of_le (Nat.le_add_right _ _), List.nil_append,
      Nat.add_sub_cancel_left]

variable {α : Type*} [DecidableEq α]

/-- The last entries, one of which moves to the end, are those of the whole list. -/
lemma lastOf_move {n : ℕ} {ks : List α} (hnodup : ks.Nodup) (key : α) :
    lastOf n ((lastOf n ks).filter (· ≠ key) ++ [key]) = lastOf n (ks.filter (· ≠ key) ++ [key]) := by
  have hsplit : ks.take (ks.length - n) ++ lastOf n ks = ks := List.take_append_drop _ _
  conv_rhs => rw [← hsplit]
  rw [List.filter_append, List.append_assoc]
  refine (lastOf_append ?_).symm
  rcases Nat.lt_or_ge n ks.length with hn | hn
  · right
    have hlength : (lastOf n ks).length = n := by
      unfold lastOf
      rw [List.length_drop]
      omega
    have hlast : (lastOf n ks).Nodup := (List.drop_sublist _ _).nodup hnodup
    have hfilter : (lastOf n ks).erase key = (lastOf n ks).filter (· ≠ key) := by
      rw [hlast.erase_eq_filter]
      refine List.filter_congr fun k _ => ?_
      by_cases hk : k = key
      · simp [hk]
      · simp [hk]
    have herase : (lastOf n ks).length - 1 ≤ ((lastOf n ks).erase key).length :=
      List.le_length_erase
    rw [List.length_append, List.length_singleton, ← hfilter]
    omega
  · left
    rw [Nat.sub_eq_zero_of_le hn, List.take_zero]
    rfl

/-- A key that is used again is the last one used. -/
lemma dedup_concat (ks : List α) (key : α) :
    (ks ++ [key]).dedup = ks.dedup.filter (· ≠ key) ++ [key] := by
  induction ks with
  | nil => simp
  | cons k ks ih =>
    rw [List.cons_append]
    by_cases hkey : k = key
    · rw [List.dedup_cons_of_mem (by simp [hkey]), ih]
      by_cases hmem : k ∈ ks
      · rw [List.dedup_cons_of_mem hmem]
      · rw [List.dedup_cons_of_notMem hmem, List.filter_cons_of_neg (by simp [hkey])]
    · by_cases hmem : k ∈ ks
      · rw [List.dedup_cons_of_mem (by simp [hmem]), ih, List.dedup_cons_of_mem hmem]
      · rw [List.dedup_cons_of_notMem (by simp [hmem, hkey]), ih, List.dedup_cons_of_notMem hmem,
          List.filter_cons_of_pos (by simp [hkey]), List.cons_append]

end TrustLens
