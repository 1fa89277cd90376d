import TrustLens.Ai.ExtractionAccepts

/-!
# The order of the proposals does not matter

Two responses that differ in the order of their observations, of their indicators or of an
indicator's references are both accepted, or both rejected with one code: every stage looks at all
that it checks, and fails with one code.
-/

namespace TrustLens.Ai.Extraction

open PyJson

/-! ### Reordered responses -/

/-- An array in another order. -/
def Reordered (a b : PyJson) : Prop :=
  a = b ∨ ∃ js js', a = arr js ∧ b = arr js' ∧ js.Perm js'

/-- An object whose members, under the same keys, are related. -/
def Members (R : PyStr → PyJson → PyJson → Prop) (a b : PyJson) : Prop :=
  a = b ∨ ∃ es es', a = obj es ∧ b = obj es' ∧
    List.Forall₂ (fun e e' => e.1 = e'.1 ∧ R e.1 e.2 e'.2) es es'

/-- An indicator with its references in another order. -/
def ReorderedRefs : PyJson → PyJson → Prop :=
  Members fun key a b => if key = .of "observation_refs" then Reordered a b else a = b

/-- Indicators in another order, with their references in another order. -/
def ReorderedIndicators (a b : PyJson) : Prop :=
  a = b ∨ ∃ js mid js', a = arr js ∧ b = arr js' ∧ js.Perm mid ∧ List.Forall₂ ReorderedRefs mid js'

def ReorderedResponse : PyJson → PyJson → Prop :=
  Members fun key a b =>
    if key = .of "observations" then Reordered a b
    else if key = .of "indicators" then ReorderedIndicators a b
    else a = b

/-! ### Shape and schema -/

/-- What the two scans see of a value. -/
def SameShape (a b : PyJson) : Prop := nesting a = nesting b ∧ ∀ k, k ∈ keys a ↔ k ∈ keys b

lemma SameShape.refl (a : PyJson) : SameShape a a := ⟨rfl, fun _ => Iff.rfl⟩

lemma nestingItems_le {js : List PyJson} {n : ℕ} : nestingItems js ≤ n ↔ ∀ j ∈ js, nesting j ≤ n := by
  induction js with
  | nil => simp [nestingItems]
  | cons j js ih => simp [nestingItems, ih]

lemma mem_keysItems {js : List PyJson} {k : PyStr} : k ∈ keysItems js ↔ ∃ j ∈ js, k ∈ keys j := by
  induction js with
  | nil => simp [keysItems]
  | cons j js ih => simp [keysItems, ih]

lemma sameShape_perm {js js' : List PyJson} (h : js.Perm js') : SameShape (arr js) (arr js') := by
  constructor
  · rw [nesting, nesting]
    refine congrArg (· + 1) (eq_of_forall_ge_iff fun n => ?_)
    rw [nestingItems_le, nestingItems_le]
    exact forall_congr' fun j => imp_congr_left h.mem_iff
  · intro k
    rw [keys, keys, mem_keysItems, mem_keysItems]
    exact exists_congr fun j => and_congr_left' h.mem_iff

lemma sameShape_items {js js' : List PyJson} (h : List.Forall₂ SameShape js js') :
    SameShape (arr js) (arr js') := by
  induction h with
  | nil => exact .refl _
  | cons hj _ ih =>
    obtain ⟨hnesting, hkeys⟩ := ih
    rw [nesting, nesting, Nat.succ_inj] at hnesting
    constructor
    · rw [nesting, nesting, nestingItems, nestingItems, hj.1, hnesting]
    · intro k
      have hk := hkeys k
      simp only [keys] at hk
      simp only [keys, keysItems, List.mem_append, hj.2 k, hk]

lemma sameShape_members {R : PyStr → PyJson → PyJson → Prop} {a b : PyJson} (h : Members R a b)
    (hR : ∀ k a b, R k a b → SameShape a b) : SameShape a b := by
  rcases h with rfl | ⟨es, es', rfl, rfl, hes⟩
  · exact .refl _
  · induction hes with
    | nil => exact .refl _
    | cons he _ ih =>
      obtain ⟨hnesting, hkeys⟩ := ih
      rw [nesting, nesting, Nat.succ_inj] at hnesting
      have hshape := hR _ _ _ he.2
      constructor
      · rw [nesting, nesting, nestingEntries, nestingEntries, hshape.1, hnesting]
      · intro k
        have hk := hkeys k
        simp only [keys] at hk
        simp only [keys, keysEntries, List.cons_append, List.mem_cons, List.mem_append, he.1,
          hshape.2 k, hk]

lemma Reordered.sameShape {a b : PyJson} (h : Reordered a b) : SameShape a b := by
  rcases h with rfl | ⟨js, js', rfl, rfl, hperm⟩
  · exact .refl _
  · exact sameShape_perm hperm

lemma ReorderedRefs.sameShape {a b : PyJson} (h : ReorderedRefs a b) : SameShape a b := by
  refine sameShape_members h fun k a b hab => ?_
  split_ifs at hab
  · exact hab.sameShape
  · exact hab ▸ .refl _

lemma SameShape.trans {a b c : PyJson} (h : SameShape a b) (h' : SameShape b c) : SameShape a c :=
  ⟨h.1.trans h'.1, fun k => (h.2 k).trans (h'.2 k)⟩

lemma ReorderedIndicators.sameShape {a b : PyJson} (h : ReorderedIndicators a b) :
    SameShape a b := by
  rcases h with rfl | ⟨js, mid, js', rfl, rfl, hperm, hrefs⟩
  · exact .refl _
  · exact (sameShape_perm hperm).trans (sameShape_items (hrefs.imp fun _ _ h => h.sameShape))

lemma ReorderedResponse.sameShape {a b : PyJson} (h : ReorderedResponse a b) : SameShape a b := by
  refine sameShape_members h fun k a b hab => ?_
  split_ifs at hab
  · exact hab.sameShape
  · exact hab.sameShape
  · exact hab ▸ .refl _

lemma Reordered.arrayUpTo {a b : PyJson} (h : Reordered a b) (most : ℕ) (items : Validator) :
    PyJson.arrayUpTo most items a = PyJson.arrayUpTo most items b := by
  rcases h with rfl | ⟨js, js', rfl, rfl, hperm⟩
  · rfl
  · rw [PyJson.arrayUpTo, PyJson.arrayUpTo, hperm.length_eq, hperm.all_eq]

lemma Reordered.uniqueUpTo {a b : PyJson} (h : Reordered a b) (most : ℕ) (items : Validator) :
    PyJson.uniqueUpTo most items a = PyJson.uniqueUpTo most items b := by
  rcases h with rfl | ⟨js, js', rfl, rfl, hperm⟩
  · rfl
  · have hnodup : decide js.Nodup = decide js'.Nodup := by
      rw [decide_eq_decide]
      exact hperm.nodup_iff
    rw [PyJson.uniqueUpTo, PyJson.uniqueUpTo, hperm.length_eq, hperm.all_eq, hnodup]

/-- Related members are under the same keys. -/
lemma lookup_members {R : PyStr → PyJson → PyJson → Prop} {es es' : List (PyStr × PyJson)}
    (h : List.Forall₂ (fun e e' => e.1 = e'.1 ∧ R e.1 e.2 e'.2) es es') (key : PyStr) :
    Option.Rel (R key) (lookup key es) (lookup key es') := by
  induction h with
  | nil => exact .none
  | cons he _ ih =>
    rw [lookup, lookup, ← he.1]
    split_ifs with hk
    · exact .some (hk ▸ he.2)
    · exact ih

lemma object_members {R : PyStr → PyJson → PyJson → Prop} {a b : PyJson} (h : Members R a b)
    {required : List String} {properties : List (String × Validator)}
    (hR : ∀ k v, property k properties = some v → ∀ a b, R k a b → v a = v b) :
    object required properties a = object required properties b := by
  rcases h with rfl | ⟨es, es', rfl, rfl, hes⟩
  · rfl
  · have hrequired : ∀ k, (lookup k es).isSome = (lookup k es').isSome := by
      intro k
      have hrel := lookup_members hes k
      generalize lookup k es = x at hrel ⊢
      generalize lookup k es' = y at hrel ⊢
      cases hrel with
      | none => rfl
      | some => rfl
    have hall : ∀ {es es' : List (PyStr × PyJson)},
        List.Forall₂ (fun e e' => e.1 = e'.1 ∧ R e.1 e.2 e'.2) es es' →
        (es.all fun e => (property e.1 properties).any fun v => v e.2) =
          es'.all fun e => (property e.1 properties).any fun v => v e.2 := by
      intro es es' hes
      induction hes with
      | nil => rfl
      | @cons e e' _ _ he _ ih =>
        rw [List.all_cons, List.all_cons, ih, ← he.1]
        cases hproperty : property e.1 properties with
        | none => rfl
        | some v => rw [Option.any_some, Option.any_some, hR _ v hproperty _ _ he.2]
    rw [object, object, hall hes]
    simp only [hrequired]

lemma ReorderedRefs.indicatorProposal {a b : PyJson} (h : ReorderedRefs a b) :
    Extraction.indicatorProposal a = Extraction.indicatorProposal b := by
  refine object_members h fun k v hv a b hab => ?_
  split_ifs at hab with hk
  · subst hk
    cases hv
    exact hab.uniqueUpTo _ _
  · rw [hab]

lemma ReorderedIndicators.arrayUpTo {a b : PyJson} (h : ReorderedIndicators a b) (most : ℕ) :
    PyJson.arrayUpTo most Extraction.indicatorProposal a =
      PyJson.arrayUpTo most Extraction.indicatorProposal b := by
  rcases h with rfl | ⟨js, mid, js', rfl, rfl, hperm, hrefs⟩
  · rfl
  · have hall : mid.all Extraction.indicatorProposal = js'.all Extraction.indicatorProposal := by
      clear hperm
      induction hrefs with
      | nil => rfl
      | cons hj _ ih => rw [List.all_cons, List.all_cons, ih, hj.indicatorProposal]
    rw [PyJson.arrayUpTo, PyJson.arrayUpTo, hperm.length_eq, hrefs.length_eq, hperm.all_eq, hall]

lemma ReorderedResponse.aiExtraction {a b : PyJson} (h : ReorderedResponse a b) :
    Extraction.aiExtraction a = Extraction.aiExtraction b := by
  refine object_members h fun k v hv a b hab => ?_
  split_ifs at hab with hk hk
  · subst hk
    cases hv
    exact hab.arrayUpTo _ _
  · subst hk
    cases hv
    exact hab.arrayUpTo _
  · rw [hab]

/-! ### What the checks see -/

lemma get?_members {R : PyStr → PyJson → PyJson → Prop} {a b : PyJson} (h : Members R a b)
    (hrefl : ∀ k a, R k a a) (key : String) :
    Option.Rel (R (.of key)) (a.get? key) (b.get? key) := by
  rcases h with rfl | ⟨es, es', rfl, rfl, hes⟩
  · cases a.get? key with
    | none => exact .none
    | some v => exact .some (hrefl _ v)
  · exact lookup_members hes _

lemma Reordered.refl (a : PyJson) : Reordered a a := .inl rfl

lemma Reordered.elements {a b : PyJson} (h : Reordered a b) : a.elements.Perm b.elements := by
  rcases h with rfl | ⟨js, js', rfl, rfl, hperm⟩
  · exact .refl _
  · exact hperm

lemma ReorderedRefs.get? {i i' : PyJson} (h : ReorderedRefs i i') (key : String)
    (hkey : PyStr.of key ≠ .of "observation_refs") : i.get? key = i'.get? key := by
  have hrel := get?_members h (fun k a => by split_ifs <;> exact .refl a) key
  generalize i.get? key = x at hrel ⊢
  generalize i'.get? key = y at hrel ⊢
  cases hrel with
  | none => rfl
  | some hab =>
    rw [if_neg hkey] at hab
    rw [hab]

lemma ReorderedRefs.get {i i' : PyJson} (h : ReorderedRefs i i') (key : String)
    (hkey : PyStr.of key ≠ .of "observation_refs") : i.get key = i'.get key := by
  rw [PyJson.get, PyJson.get, h.get? key hkey]

lemma ReorderedRefs.refs {i i' : PyJson} (h : ReorderedRefs i i') :
    (observation_refs i).Perm (observation_refs i') := by
  have hrel := get?_members h (fun k a => by split_ifs <;> exact .refl a)
    "observation_refs"
  unfold observation_refs PyJson.get
  generalize i.get? "observation_refs" = x at hrel ⊢
  generalize i'.get? "observation_refs" = y at hrel ⊢
  cases hrel with
  | none => exact .refl _
  | some hab =>
    rw [if_pos rfl] at hab
    exact hab.elements

/-- Two lists of indicators that differ in their order and in the order of their references. -/
def SameIndicators (js js' : List PyJson) : Prop :=
  ∃ mid, js.Perm mid ∧ List.Forall₂ ReorderedRefs mid js'

lemma ReorderedIndicators.elements {a b : PyJson} (h : ReorderedIndicators a b) :
    SameIndicators a.elements b.elements := by
  rcases h with rfl | ⟨js, mid, js', rfl, rfl, hperm, hrefs⟩
  · exact ⟨a.elements, .refl _, List.forall₂_same.mpr fun _ _ => .inl rfl⟩
  · exact ⟨mid, hperm, hrefs⟩

/-- A condition on every indicator that sees no order. -/
lemma SameIndicators.forall_iff {js js' : List PyJson} (h : SameIndicators js js')
    {P P' : PyJson → Prop} (hP : ∀ i i', ReorderedRefs i i' → (P i ↔ P' i')) :
    (∀ i ∈ js, P i) ↔ ∀ i ∈ js', P' i := by
  obtain ⟨mid, hperm, hrefs⟩ := h
  have hmid : (∀ i ∈ js, P i) ↔ ∀ i ∈ mid, P i := forall_congr' fun i => imp_congr_left hperm.mem_iff
  rw [hmid]
  clear hmid hperm
  induction hrefs with
  | nil => exact iff_of_true nofun nofun
  | cons hi _ ih =>
    rw [List.forall_mem_cons, List.forall_mem_cons]
    exact and_congr (hP _ _ hi) ih

lemma SameIndicators.filterMap {js js' : List PyJson} (h : SameIndicators js js') :
    (js.filterMap (get? "proposal_id")).Perm (js'.filterMap (get? "proposal_id")) := by
  obtain ⟨mid, hperm, hrefs⟩ := h
  refine (hperm.filterMap _).trans (.of_eq ?_)
  clear hperm
  induction hrefs with
  | nil => rfl
  | cons hi _ ih => rw [List.filterMap_cons, List.filterMap_cons, ih, hi.get? "proposal_id" (by decide +kernel)]

lemma get_response {a b : PyJson} (h : ReorderedResponse a b) :
    (a.get "observations").elements.Perm (b.get "observations").elements ∧
      SameIndicators (a.get "indicators").elements (b.get "indicators").elements ∧
      a.get "input_id" = b.get "input_id" := by
  have hrel := get?_members h fun k a => by
    split_ifs
    · exact .refl a
    · exact .inl rfl
    · rfl
  refine ⟨?_, ?_, ?_⟩
  · have hobs := hrel "observations"
    unfold PyJson.get
    generalize a.get? "observations" = x at hobs ⊢
    generalize b.get? "observations" = y at hobs ⊢
    cases hobs with
    | none => exact .refl _
    | some hab =>
      rw [if_pos rfl] at hab
      exact hab.elements
  · have hind := hrel "indicators"
    unfold PyJson.get
    generalize a.get? "indicators" = x at hind ⊢
    generalize b.get? "indicators" = y at hind ⊢
    cases hind with
    | none => exact ⟨[], .refl _, .nil⟩
    | some hab =>
      rw [if_neg (by decide +kernel), if_pos rfl] at hab
      exact hab.elements
  · have hinput := hrel "input_id"
    unfold PyJson.get
    generalize a.get? "input_id" = x at hinput ⊢
    generalize b.get? "input_id" = y at hinput ⊢
    cases hinput with
    | none => rfl
    | some hab =>
      rw [if_neg (by decide +kernel), if_neg (by decide +kernel)] at hab
      rw [hab]

/-! ### One code for each stage -/

/-- A check that fails with one code only. -/
def Coded {α : Type} (code : String) (x : Checked α) : Prop :=
  ∀ e, x = .error (.typed e) → e.code = code

lemma coded_require {P : Prop} [Decidable P] {e : ValidationError} : Coded e.code (require P e) := by
  intro e' h
  unfold require at h
  split_ifs at h
  cases h
  rfl

lemma coded_forM {code : String} {check : PyJson → Checked Unit} {values : List PyJson}
    (h : ∀ j, Coded code (check j)) : Coded code (values.forM check) := by
  intro e he
  obtain ⟨j, -, hj⟩ := exists_of_forM_error he
  exact h j e hj

lemma coded_bind {α β : Type} {code : String} {x : Checked α} {f : α → Checked β}
    (hx : Coded code x) (hf : ∀ a, Coded code (f a)) : Coded code (x >>= f) := by
  intro e he
  rcases bind_error he with h | ⟨a, -, h⟩
  · exact hx e h
  · exact hf a e h

lemma coded_source {input : PyStr} (obs : PyJson) :
    Coded "AI_REFERENCE_INVALID" (checkSource input obs) := coded_require

lemma coded_input {input : PyStr} (ind : PyJson) :
    Coded "AI_REFERENCE_INVALID" (checkInput input ind) := coded_require

lemma coded_registered {rk : Registry} (ind : PyJson) :
    Coded "AI_UNKNOWN_INDICATOR" (checkRegistered rk ind) := by
  intro e h
  unfold checkRegistered at h
  split_ifs at h
  · split at h
    · cases h
      rfl
    · exact coded_require e h
  · split at h
    · cases h
      rfl
    · split_ifs at h
      · cases h
      · exact coded_require e h

lemma coded_references {ids : List PyJson} (ind : PyJson) :
    Coded "AI_REFERENCE_INVALID" (checkReferences ids ind) :=
  coded_bind (coded_forM fun _ => coded_require) fun _ => coded_require

lemma coded_grounded {normalized : PyStr} (obs : PyJson) :
    Coded "AI_GROUNDING_FAILED" (checkGrounded normalized obs) := by
  intro e h
  unfold checkGrounded at h
  split at h
  · split at h
    · split at h
      · cases h
      · cases h
      · split_ifs at h
        · exact coded_require e h
        · cases h
    · cases h
      rfl
  · cases h

/-! ### Two runs side by side -/

/-- Both are accepted, or both rejected with one code. -/
def Agree {α β : Type} (x : Checked α) (y : Checked β) : Prop :=
  (∃ a b, x = .ok a ∧ y = .ok b) ∨
    ∃ e e', x = .error (.typed e) ∧ y = .error (.typed e') ∧ e.code = e'.code

/-- They agree where the first does not escape, the second only if `B`. -/
def Alike {α β : Type} (B : Prop) (x : Checked α) (y : Checked β) : Prop :=
  Escapes x ∨ Escapes y ∧ B ∨ Agree x y

section Alike

variable {B : Prop}

lemma alike_of_coded {code : String} {x y : Checked Unit} (hx : Coded code x) (hy : Coded code y)
    (hB : Escapes y → B) (h : x = .ok () ↔ y = .ok ()) : Alike B x y := by
  rcases x with (e | e) | ⟨⟨⟩⟩
  · rcases y with (e' | e') | ⟨⟨⟩⟩
    · exact .inr (.inr (.inr ⟨e, e', rfl, rfl, (hx e rfl).trans (hy e' rfl).symm⟩))
    · exact .inr (.inl ⟨⟨e', rfl⟩, hB ⟨e', rfl⟩⟩)
    · cases h.mpr rfl
  · exact .inl ⟨e, rfl⟩
  · exact .inr (.inr (.inl ⟨(), (), rfl, h.mp rfl⟩))

lemma alike_of_eq {α : Type} {x y : Checked α} (h : x = y) : Alike B x y := by
  subst h
  rcases x with (e | e) | a
  · exact .inr (.inr (.inr ⟨e, e, rfl, rfl, rfl⟩))
  · exact .inl ⟨e, rfl⟩
  · exact .inr (.inr (.inl ⟨a, a, rfl, rfl⟩))

lemma alike_ok {α β : Type} {x : Checked α} {y : Checked β} {a : α} {b : β} (hx : x = .ok a)
    (hy : y = .ok b) : Alike B x y :=
  .inr (.inr (.inl ⟨a, b, hx, hy⟩))

/-- Where the first parts agree and so do the rests after them, the sequences do. -/
lemma alike_bind {α β γ δ : Type} {x : Checked α} {y : Checked β} {f : α → Checked γ}
    {g : β → Checked δ} (h : Alike B x y)
    (hrest : ∀ a b, x = .ok a → y = .ok b → Alike B (f a) (g b)) :
    Alike B (x >>= f) (y >>= g) := by
  rcases h with h | ⟨h, hB⟩ | ⟨a, b, rfl, rfl⟩ | ⟨e, e', rfl, rfl, hcode⟩
  · exact .inl (escapes_bind.mpr (.inl h))
  · exact .inr (.inl ⟨escapes_bind.mpr (.inl h), hB⟩)
  · exact hrest a b rfl rfl
  · exact .inr (.inr (.inr ⟨e, e', rfl, rfl, hcode⟩))

lemma alike_require {P Q : Prop} [Decidable P] [Decidable Q] {e : ValidationError} (h : P ↔ Q) :
    Alike B (require P e) (require Q e) :=
  alike_of_coded coded_require coded_require (fun hy => absurd hy not_escapes_require)
    (by rw [require_eq_ok, require_eq_ok, h])

lemma escapes_forM {check : PyJson → Checked Unit} {values : List PyJson}
    (h : Escapes (values.forM check)) : ∃ j ∈ values, Escapes (check j) := by
  obtain ⟨e, he⟩ := h
  obtain ⟨j, hj, hcheck⟩ := exists_of_forM_error he
  exact ⟨j, hj, e, hcheck⟩

/-- Loops over observations in two orders agree. -/
lemma alike_observations {code : String} {key key' : PyJson → List PyStr}
    {check : PyJson → Checked Unit} (hcode : ∀ j, Coded code (check j))
    (hB : ∀ j, Escapes (check j) → B) {js js' : List PyJson} (h : js.Perm js') :
    Alike B ((sortedBy key js).forM check) ((sortedBy key' js').forM check) := by
  refine alike_of_coded (coded_forM hcode) (coded_forM hcode) (fun hy => ?_) ?_
  · obtain ⟨j, -, hj⟩ := escapes_forM hy
    exact hB j hj
  · rw [forM_sortedBy, forM_sortedBy]
    exact forall_congr' fun j => imp_congr_left h.mem_iff

/-- So do loops over indicators that see no order. -/
lemma alike_indicators {code : String} {key key' : PyJson → List PyStr}
    {check check' : PyJson → Checked Unit} (hcode : ∀ j, Coded code (check j))
    (hcode' : ∀ j, Coded code (check' j)) (hB : ∀ j, Escapes (check' j) → B)
    {js js' : List PyJson} (h : SameIndicators js js')
    (hcheck : ∀ i i', ReorderedRefs i i' → (check i = .ok () ↔ check' i' = .ok ())) :
    Alike B ((sortedBy key js).forM check) ((sortedBy key' js').forM check') := by
  refine alike_of_coded (coded_forM hcode) (coded_forM hcode') (fun hy => ?_) ?_
  · obtain ⟨j, -, hj⟩ := escapes_forM hy
    exact hB j hj
  · rw [forM_sortedBy, forM_sortedBy]
    exact h.forall_iff hcheck

end Alike

/-! ### The invariance -/

/-- A negative indicator whose status is no member of any set, which no library of the schema has. -/
def Unhashable (rk : Registry) : Prop :=
  ∃ id status, rk.negative_indicator id = some status ∧ hashable status = false

lemma unhashable_of_escapes {rk : Registry} (ind : PyJson)
    (h : Escapes (checkRegistered rk ind)) : Unhashable rk := by
  unfold checkRegistered at h
  split_ifs at h
  · split at h
    · exact absurd h escapes_typed
    · exact absurd h not_escapes_require
  · split at h
    · exact absurd h escapes_typed
    · rename_i status hstatus
      split_ifs at h with hnull hhash
      · exact absurd h escapes_ok
      · exact ⟨_, status, hstatus, hhash⟩
      · exact absurd h not_escapes_require

lemma not_escapes_references {ids : List PyJson} (ind : PyJson) :
    ¬Escapes (checkReferences ids ind) := by
  intro h
  rcases escapes_bind.mp h with h | ⟨_, -, h⟩
  · obtain ⟨ref, -, href⟩ := escapes_forM h
    exact not_escapes_require href
  · exact not_escapes_require h

lemma checkInput_refs {input : PyStr} {i i' : PyJson} (h : ReorderedRefs i i') :
    checkInput input i = checkInput input i' := by
  simp only [checkInput, h.get "input_id" (by decide +kernel)]

lemma checkRegistered_refs {rk : Registry} {i i' : PyJson} (h : ReorderedRefs i i') :
    checkRegistered rk i = checkRegistered rk i' := by
  have hpolarity := h.get "polarity" (by decide +kernel)
  have hid := h.get "indicator_id" (by decide +kernel)
  rw [checkRegistered, checkRegistered, hpolarity, hid]

lemma supported_refs {observations observations' : List PyJson}
    (hobs : observations.Perm observations') {i i' : PyJson} (h : ReorderedRefs i i') :
    Supported observations i ↔ Supported observations' i' := by
  have hmatched := h.get "matched" (by decide +kernel)
  unfold Supported
  rw [hmatched]
  refine and_congr ?_ (imp_congr_right fun _ => ?_)
  · refine forall_congr' fun ref => imp_congr h.refs.mem_iff ?_
    exact exists_congr fun obs => and_congr_left' hobs.mem_iff
  · rw [← List.length_pos_iff, ← List.length_pos_iff, h.refs.length_eq]

/-- The identifier of an observation is a string. -/
lemma proposal_id_of_schema {obs : PyJson} (h : observationProposal obs = true) :
    ∃ s, proposal_id obs = str s := by
  unfold proposal_id PyJson.get
  cases hget : obs.get? "proposal_id" with
  | none =>
    cases obs with
    | obj es =>
      have hrequired := List.all_eq_true.mp (Bool.and_eq_true_iff.mp h).1 "proposal_id" (by simp)
      have hlookup : lookup (.of "proposal_id") es = none := hget
      rw [hlookup] at hrequired
      cases hrequired
    | null | bool | int | float | str | arr => cases h
  | some v =>
    have hpattern : pattern isIdentifier v = true := validator_of_object h hget rfl
    cases v with
    | str s => exact ⟨s, rfl⟩
    | null | bool | int | float | arr | obj => cases hpattern

/-- Observations with their own identifiers have one order by these. -/
lemma sortedBy_perm {js js' : List PyJson} (hperm : js.Perm js')
    (hids : (js.map proposal_id).Nodup) (hstr : ∀ j ∈ js, ∃ s, proposal_id j = str s) :
    sortedBy (fun o => [(proposal_id o).text]) js =
      sortedBy (fun o => [(proposal_id o).text]) js' := by
  have hsorted : ∀ values : List PyJson,
      (sortedBy (fun o => [(proposal_id o).text]) values).Pairwise
        fun a b => [(proposal_id a).text] ≤ [(proposal_id b).text] := fun values => by
    have : Std.Total (fun a b : PyJson => [(proposal_id a).text] ≤ [(proposal_id b).text]) :=
      ⟨fun a b => le_total _ _⟩
    have : IsTrans PyJson (fun a b => [(proposal_id a).text] ≤ [(proposal_id b).text]) :=
      ⟨fun a b c => le_trans⟩
    exact List.pairwise_insertionSort _ _
  have hperms : (sortedBy (fun o => [(proposal_id o).text]) js).Perm
      (sortedBy (fun o => [(proposal_id o).text]) js') :=
    (List.perm_insertionSort _ js).trans (hperm.trans (List.perm_insertionSort _ js').symm)
  refine hperms.eq_of_pairwise (fun a b ha hb hab hba => ?_) (hsorted js) (hsorted js')
  have ha := mem_sortedBy.mp ha
  have hb := hperm.mem_iff.mpr (mem_sortedBy.mp hb)
  have htext := le_antisymm hab hba
  obtain ⟨s, hs⟩ := hstr a ha
  obtain ⟨t, ht⟩ := hstr b hb
  rw [hs, ht] at htext
  refine List.inj_on_of_nodup_map hids ha hb ?_
  rw [hs, ht]
  exact congrArg str (List.cons.inj htext).1

lemma alike_proposals {input normalized : PyStr} {rk : Registry}
    {observations observations' indicators indicators' : List PyJson}
    (hschema : ∀ obs ∈ observations, observationProposal obs = true)
    (hobs : observations.Perm observations') (hind : SameIndicators indicators indicators') :
    Alike (Unhashable rk) (checkProposals input normalized rk observations indicators)
      (checkProposals input normalized rk observations' indicators') := by
  unfold checkProposals
  refine alike_bind (alike_require (hobs.map proposal_id).nodup_iff) fun _ _ hids _ => ?_
  refine alike_bind (alike_require hind.filterMap.nodup_iff) fun _ _ _ _ => ?_
  refine alike_bind (alike_observations coded_source (fun _ h => absurd h not_escapes_require) hobs)
    fun _ _ _ _ => ?_
  refine alike_bind (alike_indicators coded_input coded_input
    (fun _ h => absurd h not_escapes_require) hind fun i i' h => by rw [checkInput_refs h])
    fun _ _ _ _ => ?_
  refine alike_bind (alike_indicators coded_registered coded_registered unhashable_of_escapes hind
    fun i i' h => by rw [checkRegistered_refs h]) fun _ _ _ _ => ?_
  refine alike_bind (alike_indicators coded_references coded_references
    (fun i h => absurd h (not_escapes_references i)) hind fun i i' h => ?_) fun _ _ _ _ => ?_
  · rw [checkReferences_eq_ok, checkReferences_eq_ok, supported_refs hobs h]
  -- the last loop can slice by a float, but both runs take the observations in one order
  · refine alike_of_eq (congrArg (List.forM · (checkGrounded normalized)) ?_)
    exact sortedBy_perm hobs (require_eq_ok.mp hids) fun o ho => proposal_id_of_schema (hschema o ho)

/-- A response in another order: of as many bytes, for the same request. -/
structure RearrangedResponse (raw raw' : RawAIExtractionResponse) : Prop where
  request_id : raw.request_id = raw'.request_id
  payload : ∃ text text' data data', encode raw.raw_text = some text ∧
    encode raw'.raw_text = some text' ∧ text.utf8ByteSize = text'.utf8ByteSize ∧
    loads text.toList = some data ∧ loads text'.toList = some data' ∧ ReorderedResponse data data'

lemma alike_payload {B : Prop} {raw_text raw_text' : PyStr} {text text' : String}
    (h : encode raw_text = some text) (h' : encode raw_text' = some text')
    (hsize : text.utf8ByteSize = text'.utf8ByteSize) :
    Alike B (Extraction.payload raw_text) (Extraction.payload raw_text') := by
  unfold Extraction.payload
  rw [h, h']
  simp only
  rw [hsize]
  split_ifs
  · exact .inr (.inr (.inr ⟨_, _, rfl, rfl, rfl⟩))
  · exact alike_ok rfl rfl

variable {raw : RawAIExtractionResponse} {request input : PyStr} {inputs : List (PyStr × PyJson)}
  {rk : Registry}

/-- A rearranged response fares as the response does. -/
lemma alike_validate {raw' : RawAIExtractionResponse} (h : RearrangedResponse raw raw') :
    Alike (Unhashable rk) (validate_ai_extraction raw request input inputs rk)
      (validate_ai_extraction raw' request input inputs rk) := by
  obtain ⟨text, text', data, data', hencode, hencode', hsize, hloads, hloads', hdata⟩ := h.payload
  unfold validate_ai_extraction
  split_ifs
  · exact .inl ⟨_, rfl⟩
  refine alike_bind (alike_payload hencode hencode' hsize) fun t t' ht ht' => ?_
  cases hencode.symm.trans (payload_eq_ok.mp ht).1
  cases hencode'.symm.trans (payload_eq_ok.mp ht').1
  refine alike_bind (alike_require (by rw [h.request_id])) fun _ _ _ _ => ?_
  refine alike_bind (alike_ok (parse_eq_ok.mpr hloads) (parse_eq_ok.mpr hloads'))
    fun d d' hd hd' => ?_
  cases hloads.symm.trans (parse_eq_ok.mp hd)
  cases hloads'.symm.trans (parse_eq_ok.mp hd')
  obtain ⟨hnesting, hkeys⟩ := hdata.sameShape
  obtain ⟨hobs, hind, hinput⟩ := get_response hdata
  refine alike_bind (alike_require (by rw [hnesting])) fun _ _ _ _ => ?_
  refine alike_bind (alike_require (forall_congr' fun k => imp_congr_left (hkeys k)))
    fun _ _ _ _ => ?_
  refine alike_bind (alike_require (by rw [hdata.aiExtraction])) fun _ _ hschema _ => ?_
  refine alike_bind (alike_of_eq rfl) fun n n' hn hn' => ?_
  cases hn.symm.trans hn'
  refine alike_bind (alike_require (by rw [hinput])) fun _ _ _ _ => ?_
  refine alike_bind (alike_proposals
    (fun o ho => observation_of_schema (require_eq_ok.mp hschema) ho) hobs hind) fun _ _ _ _ => ?_
  exact alike_ok rfl rfl

def sampleIndicators : List (List Char) :=
  [["\x7b\"indicator_id\":\"OTP\",", "\"polarity\":\"POSITIVE\",", "\"matched\":\"OBSERVED\",",
      "\"observation_refs\":[\"o1\"],", "\"input_id\":\"in\"\x7d"].flatMap String.toList,
    ["\x7b\"indicator_id\":\"LINK\",", "\"polarity\":\"POSITIVE\",", "\"matched\":\"UNKNOWN\",",
      "\"input_id\":\"in\"\x7d"].flatMap String.toList]

def sampleText (indicators : List (List Char)) : List Char :=
  ["\x7b\"ai_extraction_version\":\"1.0.0\",", "\"input_id\":\"in\",\"observations\":[",
    "\x7b\"proposal_id\":\"o1\",", "\"observation_type\":\"REQUEST\",", "\"status\":\"OBSERVED\",",
    "\"polarity\":\"AFFIRMED\",", "\"attribution\":\"FIRST_PARTY\",", "\"mood\":\"DIRECTIVE\",",
    "\"source_input_id\":\"in\",", "\"start\":0,\"end\":3,", "\"evidence_excerpt\":\"otp\"\x7d],",
    "\"indicators\":["].flatMap String.toList ++ [','].intercalate indicators ++ "]\x7d".toList

def sampleResponse (indicators : List (List Char)) : RawAIExtractionResponse :=
  ⟨.of "r", (sampleText indicators).map CodePoint.ofChar⟩

def sampleObservation : PyJson :=
  obj [(.of "proposal_id", str (.of "o1")), (.of "observation_type", str (.of "REQUEST")),
    (.of "status", str (.of "OBSERVED")), (.of "polarity", str (.of "AFFIRMED")),
    (.of "attribution", str (.of "FIRST_PARTY")), (.of "mood", str (.of "DIRECTIVE")),
    (.of "source_input_id", str (.of "in")), (.of "start", int 0), (.of "end", int 3),
    (.of "evidence_excerpt", str (.of "otp"))]

def sampleProposals : List PyJson :=
  [obj [(.of "indicator_id", str (.of "OTP")), (.of "polarity", str (.of "POSITIVE")),
      (.of "matched", str (.of "OBSERVED")), (.of "observation_refs", arr [str (.of "o1")]),
      (.of "input_id", str (.of "in"))],
    obj [(.of "indicator_id", str (.of "LINK")), (.of "polarity", str (.of "POSITIVE")),
      (.of "matched", str (.of "UNKNOWN")), (.of "input_id", str (.of "in"))]]

def sampleData (indicators : List PyJson) : PyJson :=
  obj [(.of "ai_extraction_version", str (.of "1.0.0")), (.of "input_id", str (.of "in")),
    (.of "observations", arr [sampleObservation]), (.of "indicators", arr indicators)]

def sampleRegistry : Registry where
  indicator id :=
    if id = PyStr.of "OTP" ∨ id = PyStr.of "LINK" then some (str (.of "POSITIVE")) else none
  negative_indicator _ := none

def sampleInputs : List (PyStr × PyJson) := [(.of "in", str (.of "otp now"))]

lemma loads_sample : loads (sampleText sampleIndicators) = some (sampleData sampleProposals) := by
  decide +kernel

lemma loads_sample_reversed :
    loads (sampleText sampleIndicators.reverse) = some (sampleData sampleProposals.reverse) := by
  decide +kernel

lemma sample_check : checkProposals (.of "in") (.of "otp now") sampleRegistry [sampleObservation]
    sampleProposals = .ok () :=
  eq_ok_of_toOption (by decide +kernel)

lemma sample_grounded : Grounded (sampleResponse sampleIndicators) (.of "r") (.of "in") sampleInputs
    sampleRegistry (sampleData sampleProposals) (.of "otp now") where
  payload := by
    refine ⟨_, encode_map_ofChar _, ?_, ?_⟩
    · rw [utf8ByteSize_ofList]
      decide +kernel
    · rw [String.toList_ofList]
      exact loads_sample
  requested := rfl
  depth := by decide +kernel
  undecided := by decide +kernel
  schema := by decide +kernel
  current := by decide +kernel
  bound := rfl
  proposals := proposals_of_check (List.forall_mem_singleton.mpr (by decide +kernel)) sample_check

lemma sample_rearranged :
    RearrangedResponse (sampleResponse sampleIndicators) (sampleResponse sampleIndicators.reverse) where
  request_id := rfl
  payload := by
    refine ⟨_, _, _, _, encode_map_ofChar _, encode_map_ofChar _, ?_,
      (congrArg loads String.toList_ofList).trans loads_sample,
      (congrArg loads String.toList_ofList).trans loads_sample_reversed, ?_⟩
    · rw [utf8ByteSize_ofList, utf8ByteSize_ofList]
      decide +kernel
    · have hreversed : ReorderedIndicators (arr sampleProposals) (arr sampleProposals.reverse) :=
        .inr ⟨_, _, _, rfl, rfl, (List.reverse_perm _).symm, List.forall₂_same.mpr fun _ _ => .inl rfl⟩
      refine .inr ⟨_, _, rfl, rfl, ?_⟩
      refine .cons ⟨rfl, rfl⟩ (.cons ⟨rfl, rfl⟩ (.cons ⟨rfl, .refl _⟩ (.cons ⟨rfl, ?_⟩ .nil)))
      exact hreversed

end TrustLens.Ai.Extraction
