import TrustLens.Lib.JsonLoads
import TrustLens.Lib.PyObject

/-!
# Reading JSON text under the interpreter's limit

The reader enters every array and every object by a call, and the interpreter limits how deep calls
nest. A text nested deeper raises a `RecursionError` where the reader gets there, be the rest of the
text well formed or not; every other text is read as without a limit.
-/

namespace TrustLens.Json

/-- A reading, with the exception that one which fails raises. -/
def raising {α : Type} : Option α → Except PyException α
  | some a => .ok a
  | none => .error .ValueError

mutual
/-- A value, with the number of arrays and objects that may still be entered. -/
def readValueIn : ℕ → ℕ → List Char → Except PyException (Json × List Char)
  | 0, _, _ => .error .ValueError
  | fuel + 1, left, cs =>
    match cs with
    | '"' :: rest => raising ((readString rest).map (Prod.map (str ∘ String.ofList) id))
    | '\x7b' :: rest =>
      if left = 0 then .error .RecursionError
      else
        match skipBlanks rest with
        | '\x7d' :: rest => .ok (obj [], rest)
        | rest => (readMembersIn fuel (left - 1) [] rest).map (Prod.map obj id)
    | '[' :: rest =>
      if left = 0 then .error .RecursionError
      else
        match skipBlanks rest with
        | ']' :: rest => .ok (arr [], rest)
        | rest => (readItemsIn fuel (left - 1) rest).map (Prod.map arr id)
    | cs => raising (readAtom cs)

def readItemsIn : ℕ → ℕ → List Char → Except PyException (List Json × List Char)
  | 0, _, _ => .error .ValueError
  | fuel + 1, left, cs =>
    match readValueIn fuel left cs with
    | .error e => .error e
    | .ok (j, rest) =>
      match skipBlanks rest with
      | ',' :: rest => (readItemsIn fuel left (skipBlanks rest)).map (Prod.map (j :: ·) id)
      | ']' :: rest => .ok ([j], rest)
      | _ => .error .ValueError

def readMembersIn : ℕ → ℕ → List (String × Json) → List Char →
    Except PyException (List (String × Json) × List Char)
  | 0, _, _, _ => .error .ValueError
  | fuel + 1, left, entries, cs =>
    match cs with
    | '"' :: rest =>
      match readString rest with
      | none => .error .ValueError
      | some (key, rest) =>
        match skipBlanks rest with
        | ':' :: rest =>
          match readValueIn fuel left (skipBlanks rest) with
          | .error e => .error e
          | .ok (j, rest) =>
            match skipBlanks rest with
            | ',' :: rest => readMembersIn fuel left (upsert (String.ofList key) j entries) (skipBlanks rest)
            | '\x7d' :: rest => .ok (upsert (String.ofList key) j entries, rest)
            | _ => .error .ValueError
        | _ => .error .ValueError
    | _ => .error .ValueError
end

/-- `json.loads` under a limit on the nesting. -/
def loadsWithin (limit : ℕ) (cs : List Char) : Except PyException Json :=
  match readValueIn (2 * cs.length + 2) limit (skipBlanks cs) with
  | .ok (j, rest) => if skipBlanks rest = [] then .ok j else .error .ValueError
  | .error e => .error e

example : loadsWithin 2 "[[1]]".toList = .ok (arr [arr [int 1]]) ∧
    loadsWithin 1 "[[1]]".toList = .error .RecursionError ∧
    loadsWithin 1 "[[".toList = .error .RecursionError ∧
    loadsWithin 2 "[[".toList = .error .ValueError := by decide +kernel

/-! ### A text that is not too deep -/

/-- What a limited reading gives: what it gives without a limit, or the error of one that used up
all its calls. -/
def Follows {α : Type} (calls fuel : ℕ) (x : Except PyException α) (y : Option α) : Prop :=
  x = raising y ∨ x = .error .RecursionError ∧ calls ≤ fuel

lemma Follows.raising {α : Type} {calls fuel : ℕ} (y : Option α) : Follows calls fuel (raising y) y := .inl rfl

lemma Follows.mono {α : Type} {calls calls' fuel fuel' : ℕ} {x : Except PyException α} {y : Option α}
    (h : Follows calls fuel x y) (hcalls : fuel + calls' ≤ fuel' + calls) : Follows calls' fuel' x y := by
  rcases h with h | ⟨h, hle⟩
  · exact .inl h
  · exact .inr ⟨h, by omega⟩

lemma Follows.map {α β : Type} {calls calls' fuel fuel' : ℕ} {x : Except PyException α} {y : Option α}
    (h : Follows calls fuel x y) (hcalls : fuel + calls' ≤ fuel' + calls) (f : α → β) :
    Follows calls' fuel' (x.map f) (y.map f) := by
  rcases h with rfl | ⟨rfl, hle⟩
  · left
    cases y <;> rfl
  · exact .inr ⟨Eq.refl _, by omega⟩

/-- Each call takes two steps of the reader. -/
lemma follows_read (fuel : ℕ) :
    (∀ left cs, Follows (2 * left + 1) fuel (readValueIn fuel left cs) (readValue fuel cs)) ∧
    (∀ left cs, Follows (2 * left + 2) fuel (readItemsIn fuel left cs) (readItems fuel cs)) ∧
    (∀ left entries cs, Follows (2 * left + 2) fuel (readMembersIn fuel left entries cs)
      (readMembers fuel entries cs)) := by
  induction fuel with
  | zero => exact ⟨fun _ _ => .inl rfl, fun _ _ => .inl rfl, fun _ _ _ => .inl rfl⟩
  | succ fuel ih =>
    obtain ⟨hvalue, hitems, hmembers⟩ := ih
    refine ⟨fun left cs => ?_, fun left cs => ?_, fun left entries cs => ?_⟩
    · rw [readValueIn.eq_def, readValue.eq_def]
      dsimp only
      split
      · exact .raising _
      · split_ifs with hleft
        · exact .inr ⟨rfl, by omega⟩
        · split
          · rename_i hrest
            try simp only [hrest]
            exact .inl rfl
          · try simp only
            exact (hmembers (left - 1) [] _).map (by omega) _
      · split_ifs with hleft
        · exact .inr ⟨rfl, by omega⟩
        · split
          · rename_i hrest
            try simp only [hrest]
            exact .inl rfl
          · try simp only
            exact (hitems (left - 1) _).map (by omega) _
      · try simp only
        exact .raising _
    · rw [readItemsIn.eq_def, readItems.eq_def]
      dsimp only
      rcases hvalue left cs with h | ⟨h, hcalls⟩
      · rw [h]
        cases readValue fuel cs with
        | none => exact .inl rfl
        | some r =>
          dsimp only [raising]
          split
          · rename_i hrest
            try simp only [hrest]
            exact (hitems left _).map (by omega) _
          · rename_i hrest
            try simp only [hrest]
            exact .inl rfl
          · try simp only
            exact .inl rfl
      · rw [h]
        exact .inr ⟨rfl, by omega⟩
    · rw [readMembersIn.eq_def, readMembers.eq_def]
      dsimp only
      split
      · rename_i cs
        cases hkey : readString cs with
        | none =>
          simp only [hkey]
          exact .inl rfl
        | some r =>
          simp only [hkey]
          split
          · rename_i rest hcolon
            try simp only [hcolon]
            rcases hvalue left (skipBlanks rest) with h | ⟨h, hcalls⟩
            · rw [h]
              cases readValue fuel (skipBlanks rest) with
              | none => exact .inl rfl
              | some r =>
                dsimp only [raising]
                split
                · rename_i hrest
                  try simp only [hrest]
                  exact (hmembers left _ _).mono (by omega)
                · rename_i hrest
                  try simp only [hrest]
                  exact .inl rfl
                · try simp only
                  exact .inl rfl
            · rw [h]
              exact .inr ⟨rfl, by omega⟩
          · try simp only
            exact .inl rfl
      · try simp only
        exact .inl rfl

/-- A text is read as without a limit, or the limit is not beyond its length. -/
theorem loadsWithin_cases (limit : ℕ) (cs : List Char) :
    loadsWithin limit cs = raising (loads cs) ∨
      loadsWithin limit cs = .error .RecursionError ∧ limit ≤ cs.length := by
  rw [loadsWithin, loads]
  rcases (follows_read (2 * cs.length + 2)).1 limit (skipBlanks cs) with h | ⟨h, hcalls⟩
  · rw [h]
    left
    cases readValue (2 * cs.length + 2) (skipBlanks cs) with
    | none => rfl
    | some r =>
      dsimp only [raising]
      split_ifs <;> rfl
  · rw [h]
    exact .inr ⟨rfl, by omega⟩

lemma loadsWithin_of_short {limit : ℕ} {cs : List Char} (h : cs.length < limit) :
    loadsWithin limit cs = raising (loads cs) :=
  (loadsWithin_cases limit cs).resolve_right fun h' => by omega

/-! ### A text that is -/

lemma readValueIn_bracket (fuel left : ℕ) (cs : List Char) :
    readValueIn (fuel + 1) (left + 1) ('[' :: '[' :: cs) =
      (readItemsIn fuel left ('[' :: cs)).map (Prod.map arr id) := by
  have hblank : skipBlanks ('[' :: cs) = '[' :: cs := rfl
  rw [readValueIn, if_neg (Nat.succ_ne_zero left), hblank]
  rfl

lemma readValueIn_brackets (left fuel : ℕ) (hfuel : 2 * left < fuel) (cs : List Char) :
    readValueIn fuel left (List.replicate (left + 1) '[' ++ cs) = .error .RecursionError := by
  induction left generalizing fuel with
  | zero =>
    obtain ⟨fuel, rfl⟩ : ∃ n, fuel = n + 1 := ⟨fuel - 1, by omega⟩
    rw [List.replicate_succ, List.cons_append, readValueIn, if_pos rfl]
  | succ left ih =>
    obtain ⟨fuel, rfl⟩ : ∃ n, fuel = n + 2 := ⟨fuel - 2, by omega⟩
    have hinner := ih fuel (by omega)
    rw [List.replicate_succ, List.cons_append] at hinner
    rw [List.replicate_succ, List.replicate_succ, List.cons_append, List.cons_append,
      readValueIn_bracket, readItemsIn, hinner]
    rfl

/-- More brackets than the limit, whatever follows them. -/
theorem loadsWithin_brackets (limit : ℕ) (cs : List Char) :
    loadsWithin limit (List.replicate (limit + 1) '[' ++ cs) = .error .RecursionError := by
  have hblank : skipBlanks (List.replicate (limit + 1) '[' ++ cs) = List.replicate (limit + 1) '[' ++ cs := rfl
  rw [loadsWithin, hblank, readValueIn_brackets]
  rw [List.length_append, List.length_replicate]
  omega

end TrustLens.Json
