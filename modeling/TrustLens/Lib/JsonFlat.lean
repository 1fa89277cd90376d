import TrustLens.Lib.JsonBytes
import TrustLens.Lib.JsonRoundTrip

/-!
# Objects that nest nothing

An object of texts and numbers is read back from what `json.dumps` wrote of it, under any limit that
admits one object.
-/

namespace TrustLens.Json

open PyFloat (Closes)

/-- A value that is no array and no object, as its text can be read. -/
inductive Plain : Json → Prop where
  | int (n : ℤ) (hn : n.natAbs < 10 ^ PyText.maxDigits) : Plain (int n)
  | str (s : String) : Plain (str s)

lemma Plain.loadable {j : Json} (h : Plain j) : Loadable j := by
  cases h with
  | int n hn => exact .int n hn
  | str s => exact .str s

/-- What enters nothing is read as without a limit. -/
lemma readValueIn_of_head (fuel left : ℕ) {c : Char} (hbrace : c ≠ '{') (hbracket : c ≠ '[') (rest : List Char) :
    readValueIn fuel left (c :: rest) = raising (readValue fuel (c :: rest)) := by
  cases fuel with
  | zero => rfl
  | succ fuel =>
    rw [readValueIn.eq_def, readValue.eq_def]
    dsimp only
    split
    · rename_i heq
      simp only [heq]
    · rename_i heq
      exact absurd (List.cons.inj heq).1 hbrace
    · rename_i heq
      exact absurd (List.cons.inj heq).1 hbracket
    · simp only

lemma Plain.head {j : Json} (h : Plain j) :
    ∃ c rest, text PyFloat.repr j = c :: rest ∧ c ≠ '{' ∧ c ≠ '[' := by
  cases h with
  | int n hn =>
    obtain ⟨c, rest, htext, hc | rfl⟩ := intText_head hn
    · obtain ⟨-, -, -, -, -, -, -, hbrace, hbracket, -⟩ := isDigit_ne hc
      exact ⟨c, rest, htext, hbrace, hbracket⟩
    · exact ⟨'-', rest, htext, by decide, by decide⟩
  | str s => exact ⟨'"', _, toList_quoted s, by decide, by decide⟩

lemma Plain.readsIn {j : Json} (h : Plain j) (left : ℕ) {fuel : ℕ} {r : List Char} (hr : Closes r)
    (hfuel : (text PyFloat.repr j).length ≤ fuel) :
    readValueIn fuel left (text PyFloat.repr j ++ r) = .ok (j, r) := by
  have hread := reads_of_loadable j h.loadable fuel r hr hfuel
  obtain ⟨c, rest, htext, hbrace, hbracket⟩ := h.head
  rw [htext, List.cons_append] at hread ⊢
  rw [readValueIn_of_head fuel left hbrace hbracket, hread]
  rfl

/-- The members of an object, each behind its comma, and the brace; `entries` were read before. -/
lemma readMembersIn_text {e : String × Json} {es entries : List (String × Json)} (left : ℕ)
    (hes : ∀ i ∈ e :: es, Plain i.2) (hnd : ((entries ++ e :: es).map Prod.fst).Nodup) {fuel : ℕ}
    {r : List Char} (hfuel : (memberText PyFloat.repr e ++
      es.flatMap fun i => ',' :: memberText PyFloat.repr i).length < fuel) :
    readMembersIn fuel left entries (memberText PyFloat.repr e ++
      ((es.flatMap fun i => ',' :: memberText PyFloat.repr i) ++ '}' :: r)) =
        .ok (entries ++ e :: es, r) := by
  have hkey : ∀ (e : String × Json) (cs : List Char), memberText PyFloat.repr e ++ cs =
      '"' :: (e.1.toList.flatMap escapeChar ++ '"' :: ':' :: (text PyFloat.repr e.2 ++ cs)) := by
    intro e cs
    simp only [memberText, toList_quoted, List.cons_append, List.append_assoc, List.nil_append]
  have hlength : ∀ e : String × Json,
      (text PyFloat.repr e.2).length + 3 ≤ (memberText PyFloat.repr e).length := by
    intro e
    simp only [memberText, toList_quoted, List.length_append, List.length_cons]
    omega
  induction es generalizing e entries fuel with
  | nil =>
    have hlong := hlength e
    have he := hes e List.mem_cons_self
    rw [List.flatMap_nil, List.append_nil] at hfuel
    obtain ⟨fuel, rfl⟩ : ∃ f, fuel = f + 1 := ⟨fuel - 1, by omega⟩
    have hread : readValueIn fuel left (text PyFloat.repr e.2 ++ '}' :: r) = .ok (e.2, '}' :: r) :=
      he.readsIn left (closes_cons (by simp) r) (by omega)
    have hnew : e.1 ∉ entries.map Prod.fst := by
      rw [List.map_append, List.map_cons] at hnd
      exact fun h => (List.nodup_append.mp hnd).2.2 _ h _ List.mem_cons_self rfl
    rw [List.flatMap_nil, List.nil_append, hkey, readMembersIn]
    simp only [readString_escaped, skipBlanks_cons (c := ':') rfl, skipBlanks_cons (c := '}') rfl,
      skipBlanks_text he.loadable, hread, String.ofList_toList, upsert_of_notMem _ hnew]
  | cons i es ihs =>
    have hlong := hlength e
    have he := hes e List.mem_cons_self
    rw [List.flatMap_cons, List.length_append, List.cons_append, List.length_cons] at hfuel
    obtain ⟨fuel, rfl⟩ : ∃ f, fuel = f + 1 := ⟨fuel - 1, by omega⟩
    have hassoc : entries ++ e :: i :: es = (entries ++ [e]) ++ i :: es := by
      rw [List.append_assoc, List.singleton_append]
    have hnext : readMembersIn fuel left (entries ++ [e]) (memberText PyFloat.repr i ++
        ((es.flatMap fun i => ',' :: memberText PyFloat.repr i) ++ '}' :: r)) =
          .ok (entries ++ e :: i :: es, r) := by
      rw [hassoc]
      exact ihs (fun k hk => hes k (List.mem_cons_of_mem _ hk)) (hassoc ▸ hnd) (by omega)
    have hread : readValueIn fuel left (text PyFloat.repr e.2 ++ ',' :: (memberText PyFloat.repr i ++
        ((es.flatMap fun i => ',' :: memberText PyFloat.repr i) ++ '}' :: r))) =
          .ok (e.2, ',' :: (memberText PyFloat.repr i ++
            ((es.flatMap fun i => ',' :: memberText PyFloat.repr i) ++ '}' :: r))) :=
      he.readsIn left (closes_cons (by simp) _) (by omega)
    have hnew : e.1 ∉ entries.map Prod.fst := by
      rw [List.map_append, List.map_cons] at hnd
      exact fun h => (List.nodup_append.mp hnd).2.2 _ h _ List.mem_cons_self rfl
    rw [hkey i] at hread hnext
    rw [List.flatMap_cons, List.append_assoc, List.cons_append, hkey e, hkey i, readMembersIn]
    simp only [readString_escaped, skipBlanks_cons (c := ':') rfl, skipBlanks_cons (c := ',') rfl,
      skipBlanks_cons (c := '"') rfl, skipBlanks_text he.loadable, hread,
      String.ofList_toList, upsert_of_notMem _ hnew, hnext]

/-- An object that nests nothing is read back from its text. -/
theorem loadsWithin_text {limit : ℕ} (hlimit : 1 ≤ limit) {e : String × Json} {es : List (String × Json)}
    (hes : ∀ i ∈ e :: es, Plain i.2) (hnd : ((e :: es).map Prod.fst).Nodup) :
    loadsWithin limit (text PyFloat.repr (obj (e :: es))) = .ok (obj (e :: es)) := by
  have htext : text PyFloat.repr (obj (e :: es)) = '{' :: (memberText PyFloat.repr e ++
      ((es.flatMap fun i => ',' :: memberText PyFloat.repr i) ++ ['}'])) := by
    rw [text, memberTexts_eq_map, List.map_cons, intercalate_cons_eq, List.flatMap_map, List.append_assoc]
  have hquote : ∃ rest, memberText PyFloat.repr e ++
      ((es.flatMap fun i => ',' :: memberText PyFloat.repr i) ++ ['}']) = '"' :: rest := by
    rw [memberText, toList_quoted]
    exact ⟨_, rfl⟩
  rw [htext]
  set members := memberText PyFloat.repr e ++
    ((es.flatMap fun i => ',' :: memberText PyFloat.repr i) ++ ['}']) with hmembers
  have hread : readMembersIn (2 * ('{' :: members).length + 1) (limit - 1) [] members = .ok (e :: es, []) :=
    readMembersIn_text (limit - 1) hes hnd (by
      rw [hmembers]
      simp only [List.length_append, List.length_cons]
      omega)
  have hvalue : readValueIn (2 * ('{' :: members).length + 2) limit ('{' :: members) =
      .ok (obj (e :: es), []) := by
    obtain ⟨rest, hrest⟩ := hquote
    rw [readValueIn, if_neg (Nat.ne_of_gt hlimit)]
    rw [hrest] at hread ⊢
    rw [skipBlanks_cons rfl]
    split
    · rename_i heq
      exact absurd (List.cons.inj heq).1 (by decide)
    · rw [hread]
      rfl
  rw [loadsWithin, skipBlanks_cons rfl, hvalue]
  rfl

/-! ### Its bytes -/

def Ascii (cs : List Char) : Prop := ∀ c ∈ cs, 0 < c.toNat ∧ c.toNat < 128

lemma Ascii.append {cs ds : List Char} (h : Ascii cs) (h' : Ascii ds) : Ascii (cs ++ ds) :=
  List.forall_mem_append.mpr ⟨h, h'⟩

lemma Ascii.cons {c : Char} {cs : List Char} (hc : 0 < c.toNat ∧ c.toNat < 128) (h : Ascii cs) :
    Ascii (c :: cs) := List.forall_mem_cons.mpr ⟨hc, h⟩

lemma ascii_hex4 (n : ℕ) : Ascii (hex4 n) := by
  have hdigit : ∀ d < 16, 0 < (Nat.digitChar d).toNat ∧ (Nat.digitChar d).toNat < 128 := by decide
  intro c hc
  rcases List.mem_append.mp hc with hc | hc
  · rw [List.eq_of_mem_replicate hc]
    decide
  · obtain ⟨d, hd, rfl⟩ := exists_digitChar hc
    exact hdigit d hd

/-- Whatever the character, it is escaped in ASCII. -/
lemma ascii_escapeChar (c : Char) : Ascii (escapeChar c) := by
  have hunit : ∀ n, Ascii ('\\' :: 'u' :: hex4 n) := fun n => .cons (by decide) (.cons (by decide) (ascii_hex4 n))
  unfold escapeChar
  split_ifs
  iterate 7 exact .cons (by decide) (.cons (by decide) nofun)
  · exact .cons (by omega) nofun
  · exact hunit _
  · exact (hunit _).append (hunit _)

lemma ascii_quoted (s : String) : Ascii (quoted s).toList := by
  rw [toList_quoted]
  refine .cons (by decide) (.append ?_ (.cons (by decide) nofun))
  intro c hc
  obtain ⟨d, -, hc⟩ := List.mem_flatMap.mp hc
  exact ascii_escapeChar d c hc

lemma Plain.ascii {j : Json} (h : Plain j) : Ascii (text PyFloat.repr j) := by
  cases h with
  | str s => exact ascii_quoted s
  | int n hn =>
    intro c hc
    rcases mem_intText hc with hdigit | rfl
    · have hlow : '0'.toNat ≤ c.toNat := (Char.isDigit_iff_toNat.mp hdigit).1
      have hhigh : c.toNat ≤ '9'.toNat := (Char.isDigit_iff_toNat.mp hdigit).2
      exact ⟨lt_of_lt_of_le (by decide) hlow, lt_of_le_of_lt hhigh (by decide)⟩
    · decide

lemma ascii_text {es : List (String × Json)} (hes : ∀ e ∈ es, Plain e.2) : Ascii (text PyFloat.repr (obj es)) := by
  have hmember : ∀ e ∈ es, Ascii (memberText PyFloat.repr e) := fun e he =>
    (ascii_quoted e.1).append (.cons (by decide) (hes e he).ascii)
  rw [text, memberTexts_eq_map]
  refine .cons (by decide) (.append ?_ (.cons (by decide) (List.forall_mem_nil _)))
  cases es with
  | nil => exact List.forall_mem_nil _
  | cons e es =>
    rw [List.forall_mem_cons] at hmember
    rw [List.map_cons, intercalate_cons_eq, List.flatMap_map]
    refine hmember.1.append fun c hc => ?_
    obtain ⟨i, hi, hc⟩ := List.mem_flatMap.mp hc
    exact Ascii.cons (by decide) (hmember.2 i hi) c hc

/-- An object that nests nothing is read back from the bytes of its text. -/
theorem loadsBytes_text {limit : ℕ} (hlimit : 1 ≤ limit) {e : String × Json} {es : List (String × Json)}
    (hes : ∀ i ∈ e :: es, Plain i.2) (hnd : ((e :: es).map Prod.fst).Nodup) :
    loadsBytes limit ((text PyFloat.repr (obj (e :: es))).flatMap String.utf8EncodeChar) =
      .ok (obj (e :: es)) := by
  rw [loadsBytes, decodeBytes_ascii (ascii_text hes)]
  exact loadsWithin_text hlimit hes hnd

end TrustLens.Json
