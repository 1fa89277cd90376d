import TrustLens.Lib.Except
import TrustLens.Lib.Json

/-!
# Reading decoded documents as Python does

A program that reads a decoded document raises errors of its own and lets the
interpreter's exceptions escape: a member access on a list, a key that is absent, an
unhashable key of a set. `Escapes` tells the second apart from the first.
-/

namespace TrustLens

inductive PyException where
  | TypeError
  | AttributeError
  | KeyError
  | ValueError
  | RecursionError
  /-- any other exception a library raises -/
  | Other
deriving DecidableEq

/-- What a run raises: an error of the program's own hierarchy, or one that escapes it. -/
inductive Raised (ε : Type) where
  | typed (e : ε)
  | escaped (e : PyException)
deriving DecidableEq

section Escapes

variable {ε α β : Type}

def Escapes (x : Except (Raised ε) α) : Prop := ∃ e, x = .error (.escaped e)

@[simp] lemma escapes_ok {a : α} : ¬Escapes (.ok a : Except (Raised ε) α) := nofun

@[simp] lemma escapes_typed {e : ε} : ¬Escapes (.error (.typed e) : Except (Raised ε) α) := by
  rintro ⟨e', h⟩
  cases h

@[simp] lemma escapes_escaped {e : PyException} :
    Escapes (.error (.escaped e) : Except (Raised ε) α) := ⟨e, rfl⟩

/-- A sequence escapes in its first part, or in its second after the first returned. -/
theorem escapes_bind {x : Except (Raised ε) α} {f : α → Except (Raised ε) β} :
    Escapes (x >>= f) ↔ Escapes x ∨ ∃ a, x = .ok a ∧ Escapes (f a) := by
  cases x with
  | ok a =>
    refine ⟨fun h => Or.inr ⟨a, rfl, h⟩, ?_⟩
    rintro (⟨e, h⟩ | ⟨b, h, hf⟩)
    · cases h
    · cases h
      exact hf
  | error e =>
    constructor
    · rintro ⟨e', h⟩
      obtain rfl : e = .escaped e' := Except.error.inj h
      exact Or.inl ⟨e', rfl⟩
    · rintro (⟨e', h⟩ | ⟨a, h, -⟩)
      · obtain rfl : e = .escaped e' := Except.error.inj h
        exact ⟨e', rfl⟩
      · cases h

lemma not_escapes_bind {x : Except (Raised ε) α} {f : α → Except (Raised ε) β} (hx : ¬Escapes x)
    (hf : ∀ a, x = .ok a → ¬Escapes (f a)) : ¬Escapes (x >>= f) := by
  rw [escapes_bind]
  rintro (h | ⟨a, ha, h⟩)
  · exact hx h
  · exact hf a ha h

lemma not_escapes_forM {f : α → Except (Raised ε) Unit} {xs : List α}
    (h : ∀ x ∈ xs, ¬Escapes (f x)) : ¬Escapes (xs.forM f) := by
  induction xs with
  | nil => exact escapes_ok
  | cons x xs ih =>
    rw [List.forall_mem_cons] at h
    exact not_escapes_bind h.1 fun _ _ => ih h.2

lemma not_escapes_mapM {f : α → Except (Raised ε) β} {xs : List α}
    (h : ∀ x ∈ xs, ¬Escapes (f x)) : ¬Escapes (xs.mapM f) := by
  induction xs with
  | nil => exact escapes_ok
  | cons x xs ih =>
    rw [List.forall_mem_cons] at h
    rw [List.mapM_cons]
    exact not_escapes_bind h.1 fun _ _ => not_escapes_bind (ih h.2) fun _ _ => escapes_ok

/-- A condition on each element of a traversal, as far as the traversal gets. -/
def InOrder (f : α → Except (Raised ε) β) (P : α → Prop) : List α → Prop
  | [] => True
  | x :: rest => P x ∧ ((∃ b, f x = .ok b) → InOrder f P rest)

/-- A traversal escapes exactly when it gets to an element at which it does. -/
theorem not_escapes_mapM_iff {f : α → Except (Raised ε) β} {P : α → Prop} {xs : List α}
    (h : ∀ x ∈ xs, (¬Escapes (f x) ↔ P x)) : ¬Escapes (xs.mapM f) ↔ InOrder f P xs := by
  induction xs with
  | nil => exact iff_of_true escapes_ok trivial
  | cons x xs ih =>
    rw [List.forall_mem_cons] at h
    rw [List.mapM_cons, escapes_bind, not_or, h.1, InOrder, ← ih h.2]
    refine and_congr_right fun _ => ?_
    constructor
    · rintro hno ⟨b, hb⟩ hrest
      exact hno ⟨b, hb, escapes_bind.mpr (Or.inl hrest)⟩
    · rintro hno ⟨b, hb, hrest⟩
      rcases escapes_bind.mp hrest with hrest | ⟨_, -, hrest⟩
      · exact hno ⟨b, hb⟩ hrest
      · exact escapes_ok hrest

lemma not_escapes_bind_iff {x : Except (Raised ε) α} {f : α → Except (Raised ε) β} :
    ¬Escapes (x >>= f) ↔ ¬Escapes x ∧ ∀ a, x = .ok a → ¬Escapes (f a) := by
  rw [escapes_bind, not_or]
  simp only [not_exists, not_and]

/-- One more element of a traversal whose steps are written out. -/
lemma not_escapes_step {γ : Type} {f : α → Except (Raised ε) β} {P : α → Prop} {x : α}
    {rest : List α} {g : β → Except (Raised ε) γ} (hx : ¬Escapes (f x) ↔ P x)
    (hg : ∀ b, f x = .ok b → (¬Escapes (g b) ↔ InOrder f P rest)) :
    ¬Escapes (f x >>= g) ↔ InOrder f P (x :: rest) := by
  rw [not_escapes_bind_iff, InOrder, hx]
  refine and_congr_right fun _ => ?_
  constructor
  · rintro h ⟨b, hb⟩
    exact (hg b hb).mp (h b hb)
  · exact fun h b hb => (hg b hb).mpr (h ⟨b, hb⟩)

/-- A run that raises no error of its own: it returns when `P` holds, and an exception escapes it
otherwise. -/
structure Reads (P : Prop) (x : Except (Raised ε) α) : Prop where
  returns : P → ∃ a, x = .ok a
  escapes : ¬P → Escapes x

namespace Reads

variable {P Q : Prop} {x : Except (Raised ε) α} {f : α → Except (Raised ε) β}

lemma of_ok {a : α} (h : x = .ok a) : Reads True x := ⟨fun _ => ⟨a, h⟩, fun hn => absurd trivial hn⟩

lemma congr (hx : Reads P x) (h : P ↔ Q) : Reads Q x := ⟨hx.returns ∘ h.mpr, hx.escapes ∘ mt h.mp⟩

lemma of_prop (hx : Reads P x) (h : P) : Reads True x := hx.congr (iff_true_intro h)

theorem not_escapes_iff (hx : Reads P x) : ¬Escapes x ↔ P := by
  constructor
  · intro hno
    by_contra h
    exact hno (hx.escapes h)
  · rintro h ⟨e, he⟩
    obtain ⟨a, ha⟩ := hx.returns h
    cases ha.symm.trans he

/-- The second part of a sequence is read once the first returned. -/
theorem bind (hx : Reads P x) (hf : ∀ a, x = .ok a → Reads Q (f a)) : Reads (P ∧ Q) (x >>= f) := by
  constructor
  · rintro ⟨hp, hq⟩
    obtain ⟨a, ha⟩ := hx.returns hp
    obtain ⟨b, hb⟩ := (hf a ha).returns hq
    exact ⟨b, by rw [ha]; exact hb⟩
  · intro h
    rw [escapes_bind]
    by_cases hp : P
    · obtain ⟨a, ha⟩ := hx.returns hp
      exact Or.inr ⟨a, ha, (hf a ha).escapes fun hq => h ⟨hp, hq⟩⟩
    · exact Or.inl (hx.escapes hp)

lemma then_ (hx : Reads True x) (hf : ∀ a, x = .ok a → Reads Q (f a)) : Reads Q (x >>= f) :=
  (hx.bind hf).congr (and_iff_right trivial)

/-- The value of the first part is known. -/
lemma of_eq {a : α} (hx : x = .ok a) (hf : Reads Q (f a)) : Reads Q (x >>= f) := by
  subst hx
  exact hf

lemma map (hx : Reads P x) {g : α → β} : Reads P (x >>= fun a => .ok (g a)) :=
  (hx.bind fun _ _ => of_ok rfl).congr (and_iff_left trivial)

/-- A traversal reads every element. -/
theorem mapM {P : α → Prop} {xs : List α} (h : ∀ x ∈ xs, Reads (P x) (f x)) :
    Reads (∀ x ∈ xs, P x) (xs.mapM f) := by
  induction xs with
  | nil => exact (of_ok rfl).congr (iff_of_true trivial nofun)
  | cons x xs ih =>
    rw [List.forall_mem_cons] at h
    rw [List.mapM_cons, List.forall_mem_cons]
    exact h.1.bind fun _ _ => (ih h.2).map

lemma mapM_total {xs : List α} (h : ∀ x ∈ xs, Reads True (f x)) : Reads True (xs.mapM f) :=
  (Reads.mapM h).of_prop fun _ _ => trivial

end Reads

end Escapes

/-! ### Access -/

namespace Py

variable {ε : Type}

/-- `value.get(key, default)` -/
def getD (value : Json) (key : String) (default : Json) : Except (Raised ε) Json :=
  match value with
  | .obj entries => .ok ((Json.lookup key entries).getD default)
  | _ => .error (.escaped .AttributeError)

/-- `value[key]` -/
def item (value : Json) (key : String) : Except (Raised ε) Json :=
  match value with
  | .obj entries =>
    match Json.lookup key entries with
    | some v => .ok v
    | none => .error (.escaped .KeyError)
  | _ => .error (.escaped .TypeError)

/-- The members `for x in value` takes. -/
def iter : Json → Except (Raised ε) (List Json)
  | .arr items => .ok items
  | .obj entries => .ok (entries.map fun e => .str e.1)
  | .str s => .ok (s.toList.map fun c => .str (String.singleton c))
  | _ => .error (.escaped .TypeError)

/-- `value.items()` -/
def entries : Json → Except (Raised ε) (List (String × Json))
  | .obj es => .ok es
  | _ => .error (.escaped .AttributeError)

def isHashable : Json → Bool
  | .arr _ => false
  | .obj _ => false
  | _ => true

/-- The value as a member of a set or a key of a dictionary. -/
def hashed (value : Json) : Except (Raised ε) Json :=
  if isHashable value then .ok value else .error (.escaped .TypeError)

/-- `key in value` of a dictionary. -/
def hasKey (value : Json) (key : String) : Bool := (value.get? key).isSome

variable {value v : Json} {key : String}

lemma item_of_get? (h : value.get? key = some v) : (item value key : Except (Raised ε) Json) = .ok v := by
  cases value with
  | obj entries =>
    simp only [Json.get?] at h
    simp only [item, h]
  | _ => cases h

lemma getD_of_isObj (h : value.isObj = true) (default : Json) :
    (getD value key default : Except (Raised ε) Json) = .ok ((value.get? key).getD default) := by
  cases value with
  | obj entries => rfl
  | _ => cases h

lemma getD_null (h : value.isObj = true) (key : String) :
    (getD value key .null : Except (Raised ε) Json) = .ok (value.get key) := getD_of_isObj h .null

lemma isObj_of_get? (h : value.get? key = some v) : value.isObj = true := by
  cases value with
  | obj entries => rfl
  | _ => cases h

lemma getD_of_get? (h : value.get? key = some v) (default : Json) :
    (getD value key default : Except (Raised ε) Json) = .ok v := by
  rw [getD_of_isObj (isObj_of_get? h), h, Option.getD_some]

lemma escapes_getD {default : Json} :
    Escapes (getD value key default : Except (Raised ε) Json) ↔ value.isObj = false := by
  cases value with
  | obj entries => exact iff_of_false escapes_ok nofun
  | _ => exact iff_of_true escapes_escaped rfl

lemma escapes_hashed : Escapes (hashed v : Except (Raised ε) Json) ↔ isHashable v = false := by
  unfold hashed
  split_ifs with h
  · exact iff_of_false escapes_ok (by simp [h])
  · exact iff_of_true escapes_escaped (by simpa using h)

lemma reads_getD (default : Json) :
    Reads (value.isObj = true) (getD value key default : Except (Raised ε) Json) where
  returns h := ⟨_, getD_of_isObj h default⟩
  escapes h := escapes_getD.mpr (by simpa using h)

lemma reads_hashed : Reads (isHashable v = true) (hashed v : Except (Raised ε) Json) where
  returns h := ⟨v, if_pos h⟩
  escapes h := escapes_hashed.mpr (by simpa using h)

lemma hashed_of_isHashable (h : isHashable v = true) :
    (hashed v : Except (Raised ε) Json) = .ok v := if_pos h

end Py
end TrustLens
