import TrustLens.Runtime.Condition

/-!
# Conditions under more evidence

The interpreter runs on any JSON, where a decided connective hides the operands
behind it, so two assignments may fault differently. What survives is one half of
monotonicity: an assignment with more TRUE indicators cannot take TRUE away from a
value that both assignments compute.
-/

namespace TrustLens.Runtime.Condition

open Json (lookup)

lemma evalMember_eq (truth : String → Truth) (key : String) (entries : List (String × Json)) :
    evalMember truth key entries = (lookup key entries).map (evalIter truth) := by
  induction entries with
  | nil => rfl
  | cons e rest ih =>
    obtain ⟨k, v⟩ := e
    simp only [evalMember, lookup]
    split_ifs
    · rfl
    · exact ih

lemma evalNOf_eq (truth : String → Truth) (entries : List (String × Json)) :
    evalNOf truth entries = (lookup "n_of" entries).map (evalThreshold truth) := by
  induction entries with
  | nil => rfl
  | cons e rest ih =>
    obtain ⟨k, v⟩ := e
    simp only [evalNOf, lookup]
    split_ifs
    · rfl
    · exact ih

/-- Where both are values, TRUE on the left is TRUE on the right. -/
def KeepsTrue (a b : Except Fault Truth) : Prop :=
  a = .ok .TRUE → ∀ v, b = .ok v → v = .TRUE

lemma allOfFrom_keepsTrue {as bs : List (Except Fault Truth)} (h : List.Forall₂ KeepsTrue as bs)
    (seen : Bool) : KeepsTrue (Kleene.allOfFrom seen as) (Kleene.allOfFrom seen bs) := by
  induction h generalizing seen with
  | nil =>
    intro ha v hv
    rw [ha] at hv
    exact (Except.ok.inj hv).symm
  | @cons a b as bs hab _ ih =>
    intro ha v hv
    cases a with
    | error e => simp [Kleene.allOfFrom] at ha
    | ok x =>
      cases x with
      | FALSE => simp [Kleene.allOfFrom] at ha
      | UNKNOWN =>
        -- an UNKNOWN operand leaves the conjunction below TRUE
        exfalso
        revert ha
        generalize as = xs
        induction xs with
        | nil => simp [Kleene.allOfFrom]
        | cons y ys ihy =>
          rcases y with e | y
          · simp [Kleene.allOfFrom]
          · cases y <;> simp_all [Kleene.allOfFrom]
      | TRUE =>
        cases b with
        | error e => simp [Kleene.allOfFrom] at hv
        | ok y =>
          rw [hab rfl y rfl] at hv
          exact ih seen ha v hv

lemma anyOfFrom_keepsTrue {as bs : List (Except Fault Truth)} (h : List.Forall₂ KeepsTrue as bs)
    (seen seen' : Bool) : KeepsTrue (Kleene.anyOfFrom seen as) (Kleene.anyOfFrom seen' bs) := by
  induction h generalizing seen seen' with
  | nil =>
    intro ha
    cases seen <;> simp [Kleene.anyOfFrom] at ha
  | @cons a b as bs hab _ ih =>
    intro ha v hv
    cases b with
    | error e => simp [Kleene.anyOfFrom] at hv
    | ok y =>
      cases a with
      | error e => simp [Kleene.anyOfFrom] at ha
      | ok x =>
        cases y with
        | TRUE =>
          simp only [Kleene.anyOfFrom, Except.ok.injEq] at hv
          exact hv.symm
        | UNKNOWN =>
          cases x with
          | TRUE => exact absurd (hab rfl _ rfl) (by decide)
          | UNKNOWN => exact ih true true ha v hv
          | FALSE => exact ih seen true ha v hv
        | FALSE =>
          cases x with
          | TRUE => exact absurd (hab rfl _ rfl) (by decide)
          | UNKNOWN => exact ih true seen' ha v hv
          | FALSE => exact ih seen seen' ha v hv

lemma nOf_eq_TRUE {n : ℤ} {ts : List Truth} :
    Kleene.nOf n ts = .ok .TRUE ↔ 1 ≤ n ∧ n ≤ ts.countP Truth.lo := by
  have h : (Kleene.tally 0 0 ts).1 = ts.countP Truth.lo := by
    have := (Kleene.tally_eq 0 0 ts).1
    omega
  simp only [Kleene.nOf, h]
  split_ifs <;> simp <;> omega

lemma mapM_id_eq_ok {values : List (Except Fault Truth)} {ts : List Truth}
    (h : values.mapM id = .ok ts) : values = ts.map .ok := by
  induction values generalizing ts with
  | nil =>
    cases h
    rfl
  | cons value values ih =>
    rw [List.mapM_cons] at h
    cases value with
    | error e => cases h
    | ok t =>
      cases hrest : values.mapM id with
      | error e =>
        rw [hrest] at h
        cases h
      | ok rest =>
        rw [hrest] at h
        cases h
        rw [ih hrest, List.map_cons]

lemma countP_lo_le {ts us : List Truth}
    (h : List.Forall₂ KeepsTrue (ts.map .ok) (us.map .ok)) :
    ts.countP Truth.lo ≤ us.countP Truth.lo := by
  induction ts generalizing us with
  | nil => simp
  | cons t ts ih =>
    cases us with
    | nil => cases h
    | cons u us =>
      rw [List.map_cons, List.map_cons, List.forall₂_cons] at h
      have hrest := ih h.2
      simp only [List.countP_cons]
      have hhead : t.lo = true → u.lo = true := by
        rw [Truth.lo_eq_true, Truth.lo_eq_true]
        rintro rfl
        exact h.1 rfl u rfl
      split_ifs with ht hu
      · omega
      · exact absurd (hhead ht) hu
      · omega
      · omega

lemma threshold_keepsTrue {as bs : List (Except Fault Truth)} (h : List.Forall₂ KeepsTrue as bs)
    (n : ℤ) : KeepsTrue (as.mapM id >>= Kleene.nOf n) (bs.mapM id >>= Kleene.nOf n) := by
  intro ha v hv
  cases has : as.mapM id with
  | error e =>
    rw [has] at ha
    cases ha
  | ok ts =>
    cases hbs : bs.mapM id with
    | error e =>
      rw [hbs] at hv
      cases hv
    | ok us =>
      rw [has] at ha
      rw [hbs] at hv
      rw [mapM_id_eq_ok has, mapM_id_eq_ok hbs] at h
      obtain ⟨h1, hn⟩ := nOf_eq_TRUE.mp ha
      have hle := countP_lo_le h
      have htrue : Kleene.nOf n us = .ok .TRUE := nOf_eq_TRUE.mpr ⟨h1, by omega⟩
      exact (Except.ok.inj (htrue.symm.trans hv)).symm

/-- The streams two assignments read from one node keep TRUE operand by operand. -/
def StreamsKeepTrue (a b : Except Fault (List (Except Fault Truth))) : Prop :=
  ∀ as bs, a = .ok as → b = .ok bs → List.Forall₂ KeepsTrue as bs

lemma forall₂_map_ok {α : Type*} {truth truth' : String → Truth}
    (h : ∀ i, truth i = .TRUE → truth' i = .TRUE) (name : α → String) (xs : List α) :
    List.Forall₂ KeepsTrue (xs.map fun x => .ok (truth (name x)))
      (xs.map fun x => .ok (truth' (name x))) := by
  rw [List.forall₂_map_left_iff, List.forall₂_map_right_iff, List.forall₂_same]
  intro x _ hx v hv
  cases hv
  exact h _ (Except.ok.inj hx)

lemma bind_keepsTrue {a b : Except Fault (List (Except Fault Truth))}
    {f g : List (Except Fault Truth) → Except Fault Truth} (h : StreamsKeepTrue a b)
    (hfg : ∀ as bs, List.Forall₂ KeepsTrue as bs → KeepsTrue (f as) (g bs)) :
    KeepsTrue (a >>= f) (b >>= g) := by
  intro ha v hv
  cases a with
  | error e => cases ha
  | ok as =>
    cases b with
    | error e => cases hv
    | ok bs => exact hfg as bs (h as bs rfl rfl) ha v hv

/-- More TRUE indicators keep every TRUE value that is still computed. -/
theorem evalCondition_keepsTrue {truth truth' : String → Truth}
    (h : ∀ i, truth i = .TRUE → truth' i = .TRUE) (c : Json) :
    KeepsTrue (evalCondition truth c) (evalCondition truth' c) ∧
      StreamsKeepTrue (evalIter truth c) (evalIter truth' c) ∧
      KeepsTrue (evalThreshold truth c) (evalThreshold truth' c) := by
  induction c using Json.memberInduction with
  | null | bool | int | float => refine ⟨?_, ?_, ?_⟩ <;> intro _ _ <;> simp_all [evalCondition, evalIter, evalThreshold]
  | str s =>
    refine ⟨?_, ?_, ?_⟩
    · intro ha v hv
      simp only [evalCondition, Except.ok.injEq] at ha hv
      exact hv ▸ h s ha
    · intro as bs ha hb
      cases ha
      cases hb
      exact forall₂_map_ok h String.singleton s.toList
    · intro ha
      simp [evalThreshold] at ha
  | arr js ih =>
    refine ⟨?_, ?_, ?_⟩
    · intro ha
      simp [evalCondition] at ha
    · intro as bs ha hb
      cases ha
      cases hb
      induction js with
      | nil => exact List.Forall₂.nil
      | cons j js ihjs =>
        exact List.Forall₂.cons (ih j List.mem_cons_self).1
          (ihjs fun k hk => ih k (List.mem_cons_of_mem _ hk))
    · intro ha
      simp [evalThreshold] at ha
  | obj es ih =>
    have hmember : ∀ key v, lookup key es = some v → _ := fun key v hv =>
      let ⟨e, he, _, heq⟩ := Json.exists_entry_of_lookup hv
      heq ▸ ih e he
    refine ⟨?_, ?_, ?_⟩
    · simp only [evalCondition, evalMember_eq, evalNOf_eq]
      cases hall : lookup "all_of" es with
      | some v =>
        exact bind_keepsTrue (hmember _ v hall).2.1 fun as bs hab => allOfFrom_keepsTrue hab false
      | none =>
        cases hany : lookup "any_of" es with
        | some v =>
          exact bind_keepsTrue (hmember _ v hany).2.1 fun as bs hab =>
            anyOfFrom_keepsTrue hab false false
        | none =>
          cases hn : lookup "n_of" es with
          | some v => exact (hmember _ v hn).2.2
          | none =>
            intro ha
            simp at ha
    · intro as bs ha hb
      cases ha
      cases hb
      exact forall₂_map_ok h Prod.fst es
    · cases hn : lookup "n" es with
      | none =>
        intro ha
        simp [evalThreshold, hn] at ha
      | some bound =>
        simp only [evalThreshold, evalMember_eq, hn]
        cases pyInt bound with
        | error e =>
          intro ha
          cases ha
        | ok n =>
          cases hof : lookup "of" es with
          | none => exact threshold_keepsTrue List.Forall₂.nil n
          | some v => exact bind_keepsTrue (hmember _ v hof).2.1 fun as bs hab =>
              threshold_keepsTrue hab n

/-- Assignments with the same TRUE indicators agree on which computed values are TRUE. -/
theorem evalCondition_TRUE_congr {truth truth' : String → Truth}
    (h : ∀ i, truth i = .TRUE ↔ truth' i = .TRUE) {c : Json} {v v' : Truth}
    (hv : evalCondition truth c = .ok v) (hv' : evalCondition truth' c = .ok v') :
    v = .TRUE ↔ v' = .TRUE := by
  constructor
  · rintro rfl
    exact (evalCondition_keepsTrue (fun i => (h i).mp) c).1 hv v' hv'
  · rintro rfl
    exact (evalCondition_keepsTrue (fun i => (h i).mpr) c).1 hv' v hv

end TrustLens.Runtime.Condition
