import TrustLens.Lib.JsonRoundTrip

/-!
# Indented JSON texts

The text an encoder writes with an indent of two and characters outside ASCII as they are. What is
written is read back as the document it was written from.
-/

namespace TrustLens.Json

open PyFloat (NoDigit readFraction_none)

/-- One character of a string literal, `ensure_ascii` being off. -/
def escapeControl (c : Char) : List Char :=
  if c = '"' then ['\\', '"']
  else if c = '\\' then ['\\', '\\']
  else if c = '\n' then ['\\', 'n']
  else if c = '\r' then ['\\', 'r']
  else if c = '\t' then ['\\', 't']
  else if c.toNat = 8 then ['\\', 'b']
  else if c.toNat = 12 then ['\\', 'f']
  else if c.toNat < 32 then '\\' :: 'u' :: hex4 c.toNat
  else [c]

def literal (s : String) : List Char := '"' :: s.toList.flatMap escapeControl ++ ['"']

/-- A line break, and two blanks for each level. -/
def lineBreak (level : ℕ) : List Char := '\n' :: List.replicate (2 * level) ' '

/-- The parts of an array or an object on lines of their own. -/
def bracketed (opening closing : Char) (level : ℕ) (parts : List (List Char)) : List Char :=
  match parts with
  | [] => [opening, closing]
  | part :: rest => opening :: lineBreak (level + 1) ++ part ++
      (rest.flatMap fun p => ',' :: lineBreak (level + 1) ++ p) ++ lineBreak level ++ [closing]

mutual
/-- `json.dumps(…, indent=2, ensure_ascii=False)` -/
def indented (level : ℕ) : Json → List Char
  | arr js => bracketed '[' ']' level (indentedItems (level + 1) js)
  | obj es => bracketed '{' '}' level (indentedMembers (level + 1) es)
  | str s => literal s
  | null => "null".toList
  | bool b => if b then "true".toList else "false".toList
  | int n => (toString n).toList
  | float x => x.repr.toList

def indentedItems (level : ℕ) : List Json → List (List Char)
  | [] => []
  | j :: js => indented level j :: indentedItems level js

def indentedMembers (level : ℕ) : List (String × Json) → List (List Char)
  | [] => []
  | (k, j) :: es => (literal k ++ ':' :: ' ' :: indented level j) :: indentedMembers level es
end

lemma indentedItems_eq_map (level : ℕ) (js : List Json) :
    indentedItems level js = js.map (indented level) := by
  induction js with
  | nil => rfl
  | cons j js ih => rw [indentedItems, ih, List.map_cons]

/-- A member, on its line. -/
def memberLine (level : ℕ) (e : String × Json) : List Char :=
  literal e.1 ++ ':' :: ' ' :: indented level e.2

lemma indentedMembers_eq_map (level : ℕ) (es : List (String × Json)) :
    indentedMembers level es = es.map (memberLine level) := by
  induction es with
  | nil => rfl
  | cons e es ih => rw [indentedMembers, ih, List.map_cons, memberLine]

example : String.ofList (indented 0 (obj [("a", arr [int 1, str "é\n"]), ("b", obj [])])) =
    "\x7b\n  \"a\": [\n    1,\n    \"é\\n\"\n  ],\n  \"b\": \x7b\x7d\n\x7d" := by decide +kernel

/-! ### Strings -/

lemma readString_escapeControl (c : Char) (rest : List Char) :
    readString (escapeControl c ++ rest) = (readString rest).map (Prod.map (c :: ·) id) := by
  have hof : Char.ofNat c.toNat = c := Char.ofNat_toNat c
  unfold escapeControl
  split_ifs with hq hs hn hr ht hb hf hlow
  · subst hq; exact readString_short (by decide) rfl rest
  · subst hs; exact readString_short (by decide) rfl rest
  · subst hn; exact readString_short (by decide) rfl rest
  · subst hr; exact readString_short (by decide) rfl rest
  · subst ht; exact readString_short (by decide) rfl rest
  · rw [← hof, hb]; exact readString_short (by decide) rfl rest
  · rw [← hof, hf]; exact readString_short (by decide) rfl rest
  · rw [List.cons_append, List.cons_append, readString_basic (by omega), hof]
  · exact readString_self hq hs hlow rest

lemma readString_literal (cs rest : List Char) :
    readString (cs.flatMap escapeControl ++ '"' :: rest) = some (cs, rest) := by
  induction cs with
  | nil =>
    rw [List.flatMap_nil, List.nil_append, readString.eq_def]
    exact if_pos rfl
  | cons c cs ih =>
    rw [List.flatMap_cons, List.append_assoc, readString_escapeControl, ih]
    rfl

/-! ### Blanks -/

lemma skipBlanks_lineBreak (level : ℕ) (cs : List Char) :
    skipBlanks (lineBreak level ++ cs) = skipBlanks cs := by
  have hblank : ∀ c ∈ lineBreak level, isBlank c = true := by
    intro c hc
    rcases List.mem_cons.mp hc with rfl | hc
    · rfl
    · rw [List.eq_of_mem_replicate hc]
      rfl
  exact List.dropWhile_append_of_pos hblank

/-- What follows a value in such a text: nothing, a comma or a line break. -/
def FollowsLine (r : List Char) : Prop := ∀ c ∈ r.head?, c = ',' ∨ c = '\n'

lemma followsLine_lineBreak (level : ℕ) (r : List Char) : FollowsLine (lineBreak level ++ r) := by
  rintro c hc
  exact .inr (Option.mem_some_iff.mp hc).symm

lemma followsLine_comma (r : List Char) : FollowsLine (',' :: r) := by
  rintro c hc
  exact .inl (Option.mem_some_iff.mp hc).symm

lemma readAtom_int_of_followsLine {n : ℤ} (hn : n.natAbs < 10 ^ PyText.maxDigits) {r : List Char}
    (hr : FollowsLine r) : readAtom ((toString n).toList ++ r) = some (int n, r) := by
  have hdigit : NoDigit r := by
    intro c hc
    rcases hr c hc with rfl | rfl <;> rfl
  have hfraction : readFraction r = ([], r) := by
    refine readFraction_none fun c hc => ?_
    rcases hr c hc with rfl | rfl <;> decide
  have hexponent : readExponent r = (none, r) := by
    cases r with
    | nil => rfl
    | cons c r =>
      have hc : ¬(c = 'e' ∨ c = 'E') := by rcases hr c rfl with rfl | rfl <;> decide
      exact if_neg hc
  exact readAtom_of_digits (readUnsigned_digits hn hdigit hfraction hexponent)

/-! ### Documents -/

/-- The documents without doubles that a text can hold. -/
inductive Discrete : Json → Prop
  | null : Discrete null
  | bool (b : Bool) : Discrete (bool b)
  | int (n : ℤ) (h : n.natAbs < 10 ^ PyText.maxDigits) : Discrete (int n)
  | str (s : String) : Discrete (str s)
  | arr (js : List Json) (h : ∀ j ∈ js, Discrete j) : Discrete (arr js)
  | obj (es : List (String × Json)) (hnd : (es.map Prod.fst).Nodup) (h : ∀ e ∈ es, Discrete e.2) :
    Discrete (obj es)

@[simp] lemma discrete_str (s : String) : Discrete (str s) := .str s

@[simp] lemma discrete_arr_iff {js : List Json} : Discrete (arr js) ↔ ∀ j ∈ js, Discrete j :=
  ⟨fun h => by cases h; assumption, .arr js⟩

@[simp] lemma discrete_obj_iff {es : List (String × Json)} :
    Discrete (obj es) ↔ (es.map Prod.fst).Nodup ∧ ∀ e ∈ es, Discrete e.2 :=
  ⟨fun h => by cases h; exact ⟨‹_›, ‹_›⟩, fun h => .obj es h.1 h.2⟩

/-- No document begins with a blank or a closing bracket. -/
lemma exists_indented_head {j : Json} (h : Discrete j) (level : ℕ) :
    ∃ c rest, indented level j = c :: rest ∧ isBlank c = false ∧ c ≠ ']' := by
  cases h with
  | null => exact ⟨'n', _, rfl, rfl, by decide⟩
  | bool b => cases b <;> exact ⟨_, _, rfl, rfl, by decide⟩
  | int n hn => exact exists_head (.int n hn)
  | str s => exact ⟨'"', _, rfl, rfl, by decide⟩
  | arr js =>
    rw [indented]
    cases indentedItems (level + 1) js <;> exact ⟨'[', _, rfl, rfl, by decide⟩
  | obj es =>
    rw [indented]
    cases indentedMembers (level + 1) es <;> exact ⟨'{', _, rfl, rfl, by decide⟩

lemma skipBlanks_indented {j : Json} (h : Discrete j) (level : ℕ) (cs : List Char) :
    skipBlanks (indented level j ++ cs) = indented level j ++ cs := by
  obtain ⟨c, rest, htext, hblank, -⟩ := exists_indented_head h level
  rw [htext, List.cons_append, skipBlanks_cons hblank]

/-- What an indented text is read as. -/
def ReadsIndented (j : Json) : Prop := ∀ (level fuel : ℕ) (r : List Char), FollowsLine r →
  (indented level j).length ≤ fuel → readValue fuel (indented level j ++ r) = some (j, r)

/-- The elements of an array after the first, each on its line. -/
def itemLines (level : ℕ) (js : List Json) : List Char :=
  js.flatMap fun i => ',' :: lineBreak level ++ indented level i

lemma readItems_indented (level outer fuel : ℕ) (r : List Char) {j : Json} {js : List Json}
    (hall : ∀ i ∈ j :: js, Discrete i) (ih : ∀ i ∈ j :: js, ReadsIndented i) (hfuel : (indented level j ++ itemLines level js).length < fuel) :
    readItems fuel (indented level j ++ (itemLines level js ++ (lineBreak outer ++ ']' :: r))) =
      some (j :: js, r) := by
  induction js generalizing j fuel with
  | nil =>
    rw [itemLines, List.flatMap_nil, List.append_nil] at hfuel
    obtain ⟨fuel, rfl⟩ : ∃ f, fuel = f + 1 := ⟨fuel - 1, by omega⟩
    have hread := ih j List.mem_cons_self level fuel (lineBreak outer ++ ']' :: r)
      (followsLine_lineBreak outer _) (by omega)
    rw [itemLines, List.flatMap_nil, List.nil_append, readItems, hread]
    simp only [skipBlanks_lineBreak, skipBlanks_cons (c := ']') rfl]
  | cons i js ihs =>
    have hlines : itemLines level (i :: js) =
        ',' :: (lineBreak level ++ (indented level i ++ itemLines level js)) := by
      simp only [itemLines, List.flatMap_cons, List.cons_append, List.append_assoc]
    rw [hlines, List.length_append, List.length_cons, List.length_append] at hfuel
    obtain ⟨fuel, rfl⟩ : ∃ f, fuel = f + 1 := ⟨fuel - 1, by omega⟩
    have hnext := ihs fuel (fun k hk => hall k (List.mem_cons_of_mem _ hk))
      (fun k hk => ih k (List.mem_cons_of_mem _ hk)) (by omega)
    have hread := ih j List.mem_cons_self level fuel (',' :: (lineBreak level ++ (indented level i ++
      (itemLines level js ++ (lineBreak outer ++ ']' :: r))))) (followsLine_comma _) (by omega)
    have hi := hall i (List.mem_cons_of_mem _ List.mem_cons_self)
    rw [hlines, readItems, List.cons_append, List.append_assoc, List.append_assoc, hread]
    simp only [skipBlanks_cons (c := ',') rfl, skipBlanks_lineBreak, skipBlanks_indented hi, hnext,
      Option.map_some, Prod.map_apply, id_eq]

/-- The members of an object after the first, each on its line. -/
def memberLines (level : ℕ) (es : List (String × Json)) : List Char :=
  es.flatMap fun e => ',' :: lineBreak level ++ memberLine level e

lemma memberLine_append (level : ℕ) (e : String × Json) (cs : List Char) : memberLine level e ++ cs =
    '"' :: (e.1.toList.flatMap escapeControl ++ '"' :: ':' :: ' ' :: (indented level e.2 ++ cs)) := by
  simp only [memberLine, literal, List.cons_append, List.append_assoc, List.nil_append]

/-- One member is read, and the rest is left. -/
lemma readMembers_line {level : ℕ} {e : String × Json} (he : Discrete e.2)
    (ih : ReadsIndented e.2) {entries : List (String × Json)} {fuel : ℕ} {r : List Char}
    (hr : FollowsLine r) (hnew : e.1 ∉ entries.map Prod.fst)
    (hfuel : (memberLine level e).length ≤ fuel) :
    readMembers (fuel + 1) entries (memberLine level e ++ r) =
      match skipBlanks r with
      | ',' :: rest => readMembers fuel (entries ++ [e]) (skipBlanks rest)
      | '}' :: rest => some (entries ++ [e], rest)
      | _ => none := by
  have hlong : (indented level e.2).length ≤ (memberLine level e).length := by
    simp only [memberLine, List.length_append, List.length_cons]
    omega
  have hread := ih level fuel r hr (hlong.trans hfuel)
  have hblank : skipBlanks (' ' :: (indented level e.2 ++ r)) = indented level e.2 ++ r :=
    skipBlanks_indented he level r
  rw [memberLine_append, readMembers]
  simp only [readString_literal, skipBlanks_cons (c := ':') rfl, hblank, hread,
    String.ofList_toList, upsert_of_notMem _ hnew]
  all_goals rfl

lemma readMembers_indented (level outer fuel : ℕ) (r : List Char) {e : String × Json}
    {es entries : List (String × Json)}
    (hall : ∀ i ∈ e :: es, Discrete i.2) (ih : ∀ i ∈ e :: es, ReadsIndented i.2)
    (hnd : ((entries ++ e :: es).map Prod.fst).Nodup)
    (hfuel : (memberLine level e ++ memberLines level es).length < fuel) :
    readMembers fuel entries (memberLine level e ++
      (memberLines level es ++ (lineBreak outer ++ '}' :: r))) = some (entries ++ e :: es, r) := by
  have hnew : e.1 ∉ entries.map Prod.fst := by
    rw [List.map_append, List.map_cons] at hnd
    exact fun h => (List.nodup_append.mp hnd).2.2 _ h _ List.mem_cons_self rfl
  have he := hall e List.mem_cons_self
  induction es generalizing e entries fuel with
  | nil =>
    rw [memberLines, List.flatMap_nil, List.append_nil] at hfuel
    obtain ⟨fuel, rfl⟩ : ∃ f, fuel = f + 1 := ⟨fuel - 1, by omega⟩
    rw [memberLines, List.flatMap_nil, List.nil_append, readMembers_line he (ih e List.mem_cons_self)
      (followsLine_lineBreak outer _) hnew (by omega)]
    simp only [skipBlanks_lineBreak, skipBlanks_cons (c := '}') rfl]
  | cons i es ihs =>
    have hlines : memberLines level (i :: es) =
        ',' :: (lineBreak level ++ (memberLine level i ++ memberLines level es)) := by
      simp only [memberLines, List.flatMap_cons, List.cons_append, List.append_assoc]
    rw [hlines, List.length_append, List.length_cons, List.length_append] at hfuel
    obtain ⟨fuel, rfl⟩ : ∃ f, fuel = f + 1 := ⟨fuel - 1, by omega⟩
    have hassoc : entries ++ e :: i :: es = (entries ++ [e]) ++ i :: es := by
      rw [List.append_assoc, List.singleton_append]
    rw [hassoc] at hnd ⊢
    have hnew' : i.1 ∉ (entries ++ [e]).map Prod.fst := by
      rw [List.map_append, List.map_cons] at hnd
      exact fun h => (List.nodup_append.mp hnd).2.2 _ h _ List.mem_cons_self rfl
    have hnext := ihs fuel (fun k hk => hall k (List.mem_cons_of_mem _ hk))
      (fun k hk => ih k (List.mem_cons_of_mem _ hk)) hnd (by omega) hnew'
      (hall i (List.mem_cons_of_mem _ List.mem_cons_self))
    rw [hlines, List.cons_append, List.append_assoc, List.append_assoc,
      readMembers_line he (ih e List.mem_cons_self) (followsLine_comma _) hnew (by omega)]
    rw [memberLine_append] at hnext ⊢
    simp only [skipBlanks_cons (c := ',') rfl, skipBlanks_lineBreak, skipBlanks_cons (c := '"') rfl,
      hnext]

theorem readsIndented_of_discrete (j : Json) (h : Discrete j) : ReadsIndented j := by
  induction j using memberInduction with
  | null =>
    intro level fuel r _ hfuel
    obtain ⟨fuel, rfl⟩ : ∃ f, fuel = f + 1 := Nat.exists_eq_succ_of_ne_zero fun hzero =>
      absurd (hzero ▸ hfuel) (Nat.not_succ_le_zero 3)
    rfl
  | bool b =>
    intro level fuel r _ hfuel
    have hpos : 0 < (indented level (bool b)).length := by cases b <;> exact Nat.succ_pos _
    obtain ⟨fuel, rfl⟩ : ∃ f, fuel = f + 1 := ⟨fuel - 1, by omega⟩
    cases b <;> rfl
  | int n =>
    intro level fuel r hr hfuel
    cases h with
    | int _ hn =>
      obtain ⟨c, rest, htext, hc⟩ := intText_head hn
      have hread := readAtom_int_of_followsLine hn hr
      rw [indented, htext, List.length_cons] at hfuel
      obtain ⟨fuel, rfl⟩ : ∃ f, fuel = f + 1 := ⟨fuel - 1, by omega⟩
      rw [htext] at hread
      rw [indented, htext, List.cons_append, readValue_number hc]
      exact hread
  | float x => cases h
  | str s =>
    intro level fuel r _ hfuel
    rw [indented, literal, List.length_append, List.length_singleton] at hfuel
    obtain ⟨fuel, rfl⟩ : ∃ f, fuel = f + 1 := ⟨fuel - 1, by omega⟩
    rw [indented, literal, List.cons_append, List.cons_append, List.append_assoc,
      List.singleton_append, readValue, readString_literal]
    simp only [Option.map_some, Prod.map_apply, Function.comp_apply, String.ofList_toList, id_eq]
  | arr js ih =>
    intro level fuel r hr hfuel
    cases h with
    | arr _ hjs =>
      rw [indented, indentedItems_eq_map] at hfuel ⊢
      cases js with
      | nil =>
        obtain ⟨fuel, rfl⟩ : ∃ f, fuel = f + 1 := ⟨fuel - 1, by
          have : 2 ≤ fuel := hfuel
          omega⟩
        rfl
      | cons j js =>
        have hlines : bracketed '[' ']' level ((j :: js).map (indented (level + 1))) =
            '[' :: (lineBreak (level + 1) ++ (indented (level + 1) j ++
              (itemLines (level + 1) js ++ (lineBreak level ++ [']'])))) := by
          simp only [bracketed, List.map_cons, List.flatMap_map, itemLines, List.cons_append,
            List.append_assoc]
        rw [hlines] at hfuel ⊢
        have hlength : (indented (level + 1) j ++ itemLines (level + 1) js).length + 1 < fuel := by
          simp only [List.length_cons, List.length_append] at hfuel ⊢
          omega
        obtain ⟨fuel, rfl⟩ : ∃ f, fuel = f + 1 := ⟨fuel - 1, by omega⟩
        have hread := readItems_indented (level + 1) level fuel r hjs
          (fun i hi => ih i hi (hjs i hi)) (by omega)
        obtain ⟨c, rest, htext, -, hbracket⟩ :=
          exists_indented_head (hjs j List.mem_cons_self) (level + 1)
        simp only [List.cons_append, List.append_assoc, List.nil_append]
        rw [readValue, skipBlanks_lineBreak, skipBlanks_indented (hjs j List.mem_cons_self)]
        rw [htext, List.cons_append] at hread ⊢
        split
        · rename_i heq
          exact absurd (List.cons.inj heq).1 hbracket
        · rw [hread]
          rfl
  | obj es ih =>
    intro level fuel r hr hfuel
    cases h with
    | obj _ hnd hes =>
      rw [indented, indentedMembers_eq_map] at hfuel ⊢
      cases es with
      | nil =>
        obtain ⟨fuel, rfl⟩ : ∃ f, fuel = f + 1 := ⟨fuel - 1, by
          have : 2 ≤ fuel := hfuel
          omega⟩
        rfl
      | cons e es =>
        have hlines : bracketed '{' '}' level ((e :: es).map (memberLine (level + 1))) =
            '{' :: (lineBreak (level + 1) ++ (memberLine (level + 1) e ++
              (memberLines (level + 1) es ++ (lineBreak level ++ ['}'])))) := by
          simp only [bracketed, List.map_cons, List.flatMap_map, memberLines, List.cons_append,
            List.append_assoc]
        rw [hlines] at hfuel ⊢
        have hlength : (memberLine (level + 1) e ++ memberLines (level + 1) es).length + 1 < fuel := by
          simp only [List.length_cons, List.length_append] at hfuel ⊢
          omega
        obtain ⟨fuel, rfl⟩ : ∃ f, fuel = f + 1 := ⟨fuel - 1, by omega⟩
        have hread := readMembers_indented (level + 1) level fuel r hes
          (fun i hi => ih i hi (hes i hi)) (show (([] ++ e :: es).map Prod.fst).Nodup from hnd) (by omega)
        simp only [List.cons_append, List.append_assoc, List.nil_append]
        rw [readValue, skipBlanks_lineBreak]
        rw [memberLine_append] at hread ⊢
        rw [skipBlanks_cons rfl]
        split
        · rename_i heq
          exact absurd (List.cons.inj heq).1 (by decide)
        · rw [hread]
          rfl

/-- Loading an indented text gives the document. -/
theorem loads_indented {j : Json} (h : Discrete j) : loads (indented 0 j) = some j := by
  have hread := readsIndented_of_discrete j h 0 (2 * (indented 0 j).length + 2) [] nofun (by omega)
  have hskip := skipBlanks_indented h 0 []
  rw [List.append_nil] at hread hskip
  rw [loads, hskip, hread]
  rfl

end TrustLens.Json
