import TrustLens.Ai.CanonicalObject

/-!
# Canonical texts and the objects they are of

An object has a canonical text exactly where it denotes a document within the bounds. The text
loads as that document, whatever the object's types and the order of its entries, so the text and
its digest identify the document; anything else raises the typed error.
-/

namespace TrustLens.Ai

open Json

namespace Heap

variable {Address : Type} {heap : Heap Address}

/-- What a copy that returned went through. -/
structure Copied (heap : Heap Address) (room : ℕ) (a : Address) (budget : ℕ) (j : Json)
    (left : ℕ) : Prop where
  denotes : heap.Denotes j a
  isPlain : plain j = true
  depth : height j < room
  budget : budget = left + nodes j

lemma nodes_pos (j : Json) : 0 < nodes j := by
  cases j <;> simp only [nodes] <;> omega

/-! ### What a copy returns -/

lemma copyEach_sound {room : ℕ} (ih : ∀ a budget j left,
      heap._json_copy room a budget = .ok (j, left) → heap.Copied room a budget j left)
    {items : List Address} {budget left : ℕ} {js : List Json}
    (h : copyEach (heap._json_copy room) items budget = .ok (js, left)) :
    heap.DenoteItems js items ∧ plainItems js = true ∧ itemHeight js ≤ room ∧
      budget = left + itemNodes js := by
  induction items generalizing budget js with
  | nil =>
    cases h
    exact ⟨trivial, rfl, Nat.zero_le _, rfl⟩
  | cons a items ihs =>
    obtain ⟨⟨j, mid⟩, hj, h⟩ := bind_ok h
    obtain ⟨⟨js', left'⟩, hjs, h⟩ := bind_ok h
    cases h
    obtain ⟨hden, hplain, hheight, hbudget⟩ := ih a budget j mid hj
    obtain ⟨hdens, hplains, hheights, hbudgets⟩ := ihs hjs
    refine ⟨⟨hden, hdens⟩, ?_, ?_, ?_⟩
    · rw [plainItems, hplain, hplains]
      rfl
    · rw [itemHeight]
      omega
    · rw [itemNodes]
      omega

lemma copy_str_sound {room : ℕ} {a : Address} {budget left : ℕ} {s : String}
    (h : heap.Copied room a budget (.str s) left) :
    (∃ cs, heap.object a = .str cs ∧ encode cs = some s) ∧ s.utf8ByteSize ≤ MAX_CANONICAL_BYTES ∧
      budget = left + 1 :=
  ⟨h.denotes, of_decide_eq_true h.isPlain, h.budget⟩

lemma copyEntries_sound {room : ℕ} (ih : ∀ a budget j left,
      heap._json_copy room a budget = .ok (j, left) → heap.Copied room a budget j left)
    {entries : List (Address × Address)} {budget left : ℕ} {es : List (String × Json)}
    (h : copyEntries (heap._json_copy room) entries budget = .ok (es, left)) :
    heap.DenoteEntries es entries ∧ plainMembers es = true ∧ memberHeight es ≤ room ∧
      budget = left + memberNodes es := by
  induction entries generalizing budget es with
  | nil =>
    cases h
    exact ⟨trivial, rfl, Nat.zero_le _, rfl⟩
  | cons e entries ihs =>
    obtain ⟨⟨key, mid⟩, hkey, h⟩ := bind_ok h
    obtain ⟨⟨j, mid'⟩, hj, h⟩ := bind_ok h
    obtain ⟨⟨es', left'⟩, hes, h⟩ := bind_ok h
    cases key with
    | str s =>
      cases h
      obtain ⟨hstr, hsize, hfirst⟩ := copy_str_sound (ih _ _ _ _ hkey)
      obtain ⟨hden, hplain, hheight, hbudget⟩ := ih _ _ _ _ hj
      obtain ⟨hdens, hplains, hheights, hbudgets⟩ := ihs hes
      refine ⟨⟨hstr, hden, hdens⟩, ?_, ?_, ?_⟩
      · rw [plainMembers, hplain, hplains, decide_eq_true hsize]
        rfl
      · rw [memberHeight]
        omega
      · rw [memberNodes]
        omega
    | null | bool | int | float | arr | obj => cases h

/-- A copy that returned is of the document the object denotes. -/
theorem copied_of_copy {room : ℕ} {a : Address} {budget left : ℕ} {j : Json}
    (h : heap._json_copy room a budget = .ok (j, left)) : heap.Copied room a budget j left := by
  induction room generalizing a budget j left with
  | zero => cases h
  | succ room ih =>
    have ih' := fun a budget j left => @ih a budget left j
    rw [_json_copy] at h
    split_ifs at h with hbudget
    · cases h
    have hleaf : budget = budget - 1 + 1 := by omega
    have hone : ∀ {b left}, budget - 1 = left + b → budget = left + (1 + b) := by
      intro b left hb
      omega
    split at h
    case h_1 hobj =>
      cases h
      exact ⟨hobj, rfl, Nat.succ_pos _, hleaf⟩
    case h_2 b hobj =>
      cases h
      exact ⟨hobj, rfl, Nat.succ_pos _, hleaf⟩
    case h_3 n hobj =>
      cases h
      exact ⟨hobj, rfl, Nat.succ_pos _, hleaf⟩
    case h_4 x hobj =>
      split_ifs at h with hfin
      · cases h
        exact ⟨⟨hobj, hfin⟩, hfin, Nat.succ_pos _, hleaf⟩
      · cases h
    case h_5 cs hobj =>
      split at h
      · cases h
      · rename_i s hs
        split_ifs at h with hsize
        · cases h
        · cases h
          exact ⟨⟨cs, hobj, hs⟩, decide_eq_true (not_lt.mp hsize), Nat.succ_pos _, hleaf⟩
    case h_6 es hobj =>
      split_ifs at h
      · cases h
      obtain ⟨⟨copy, left'⟩, hcopy, h⟩ := bind_ok h
      cases h
      obtain ⟨hden, hplain, hheight, hnodes⟩ := copyEntries_sound ih' hcopy
      exact ⟨⟨es, by rw [hobj]; rfl, hden⟩, hplain, Nat.lt_succ_of_le hheight, hone hnodes⟩
    case h_7 es hobj =>
      split_ifs at h
      · cases h
      obtain ⟨⟨copy, left'⟩, hcopy, h⟩ := bind_ok h
      cases h
      obtain ⟨hden, hplain, hheight, hnodes⟩ := copyEntries_sound ih' hcopy
      exact ⟨⟨es, by rw [hobj]; rfl, hden⟩, hplain, Nat.lt_succ_of_le hheight, hone hnodes⟩
    case h_8 items hobj =>
      obtain ⟨⟨copy, left'⟩, hcopy, h⟩ := bind_ok h
      cases h
      obtain ⟨hden, hplain, hheight, hnodes⟩ := copyEach_sound ih' hcopy
      exact ⟨⟨items, by rw [hobj]; rfl, hden⟩, hplain, Nat.lt_succ_of_le hheight, hone hnodes⟩
    case h_9 items hobj =>
      obtain ⟨⟨copy, left'⟩, hcopy, h⟩ := bind_ok h
      cases h
      obtain ⟨hden, hplain, hheight, hnodes⟩ := copyEach_sound ih' hcopy
      exact ⟨⟨items, by rw [hobj]; rfl, hden⟩, hplain, Nat.lt_succ_of_le hheight, hone hnodes⟩
    case h_10 => cases h

/-! ### What is copied -/

lemma copyEach_complete {room : ℕ} (ih : ∀ a budget j left,
      heap.Copied room a budget j left → heap._json_copy room a budget = .ok (j, left))
    {items : List Address} {js : List Json} {budget left : ℕ} (hden : heap.DenoteItems js items)
    (hplain : plainItems js = true) (hheight : itemHeight js ≤ room)
    (hbudget : budget = left + itemNodes js) :
    copyEach (heap._json_copy room) items budget = .ok (js, left) := by
  induction items generalizing budget js with
  | nil =>
    cases js with
    | nil => rw [hbudget]; rfl
    | cons j js => cases hden
  | cons a items ihs =>
    cases js with
    | nil => cases hden
    | cons j js =>
      rw [plainItems, Bool.and_eq_true] at hplain
      rw [itemHeight] at hheight
      rw [itemNodes] at hbudget
      have hj := ih a budget j (left + itemNodes js) ⟨hden.1, hplain.1, by omega, by omega⟩
      have hjs := ihs hden.2 hplain.2 (by omega) rfl
      rw [copyEach, hj]
      show (copyEach (heap._json_copy room) items (left + itemNodes js) >>= _) = _
      rw [hjs]
      rfl

lemma copyEntries_complete {room : ℕ} (ih : ∀ a budget j left,
      heap.Copied room a budget j left → heap._json_copy room a budget = .ok (j, left))
    {entries : List (Address × Address)} {es : List (String × Json)} {budget left : ℕ}
    (hden : heap.DenoteEntries es entries) (hplain : plainMembers es = true)
    (hheight : memberHeight es ≤ room) (hbudget : budget = left + memberNodes es) :
    copyEntries (heap._json_copy room) entries budget = .ok (es, left) := by
  induction entries generalizing budget es with
  | nil =>
    cases es with
    | nil => rw [hbudget]; rfl
    | cons e es => cases hden
  | cons entry entries ihs =>
    cases es with
    | nil => cases hden
    | cons e es =>
      obtain ⟨s, j⟩ := e
      rw [plainMembers, Bool.and_eq_true, Bool.and_eq_true] at hplain
      rw [memberHeight] at hheight
      rw [memberNodes] at hbudget
      obtain ⟨hkey, hvalue, hrest⟩ := hden
      have hs := ih entry.1 budget (.str s) (left + memberNodes es + nodes j)
        ⟨hkey, hplain.1.1, show 0 < room by omega, show budget = _ + 1 by omega⟩
      have hj := ih entry.2 _ j (left + memberNodes es) ⟨hvalue, hplain.1.2, by omega, rfl⟩
      have hes := ihs hrest hplain.2 (by omega) rfl
      rw [copyEntries, hs]
      show (heap._json_copy room entry.2 _ >>= _) = _
      rw [hj]
      show (copyEntries (heap._json_copy room) entries _ >>= _) = _
      rw [hes]
      rfl

lemma isStr_of_denoteEntries {es : List (String × Json)} {entries : List (Address × Address)}
    (h : heap.DenoteEntries es entries) :
    (entries.any fun e => !(heap.object e.1).isStr) = false := by
  induction entries generalizing es with
  | nil => rfl
  | cons entry entries ih =>
    cases es with
    | nil => cases h
    | cons e es =>
      obtain ⟨⟨cs, hcs, -⟩, -, hrest⟩ := h
      rw [List.any_cons, hcs, ih hrest]
      rfl

/-- The document an object denotes is copied, within the bounds. -/
theorem copy_of_copied {room : ℕ} {a : Address} {budget left : ℕ} {j : Json}
    (h : heap.Copied room a budget j left) : heap._json_copy room a budget = .ok (j, left) := by
  induction room generalizing a budget j left with
  | zero => exact absurd h.depth (Nat.not_lt_zero _)
  | succ room ih =>
    have ih' := fun a budget j left => @ih a budget left j
    obtain ⟨hden, hplain, hdepth, hbudget⟩ := h
    have hpos := nodes_pos j
    rw [_json_copy, if_neg (by omega)]
    cases j with
    | null =>
      have hobj : heap.object a = .None := hden
      rw [hobj, hbudget]
      rfl
    | bool b =>
      have hobj : heap.object a = .bool b := hden
      rw [hobj, hbudget]
      rfl
    | int n =>
      have hobj : heap.object a = .int n := hden
      rw [hobj, hbudget]
      rfl
    | float x =>
      obtain ⟨hobj, hfin⟩ := hden
      rw [hobj, hbudget]
      exact if_pos hfin
    | str s =>
      obtain ⟨cs, hobj, hs⟩ := hden
      have hsize : ¬MAX_CANONICAL_BYTES < s.utf8ByteSize := not_lt.mpr (of_decide_eq_true hplain)
      simp only [hobj, hs, if_neg hsize, hbudget, nodes, Nat.add_sub_cancel]
    | arr js =>
      obtain ⟨items, hitems, hden⟩ := hden
      have hcopy := copyEach_complete ih' hden hplain (Nat.le_of_lt_succ hdepth)
        (show budget - 1 = left + itemNodes js by rw [hbudget, nodes]; omega)
      cases hobj : heap.object a with
      | list items' | tuple items' =>
        rw [hobj] at hitems
        obtain rfl : items' = items := Option.some.inj hitems
        simp only [hcopy]
        rfl
      | None | bool | int | float | str | dict | mappingProxy | other =>
        rw [hobj] at hitems
        cases hitems
    | obj es =>
      obtain ⟨entries, hentries, hden⟩ := hden
      have hkeys := isStr_of_denoteEntries hden
      have hcopy := copyEntries_complete ih' hden hplain (Nat.le_of_lt_succ hdepth)
        (show budget - 1 = left + memberNodes es by rw [hbudget, nodes]; omega)
      cases hobj : heap.object a with
      | dict es' | mappingProxy es' =>
        rw [hobj] at hentries
        obtain rfl : es' = entries := Option.some.inj hentries
        simp only [hkeys, Bool.false_eq_true, if_false, hcopy]
        rfl
      | None | bool | int | float | str | list | tuple | other =>
        rw [hobj] at hentries
        cases hentries

/-! ### What a run raises -/

lemma copyEach_raises {room : ℕ} (ih : ∀ a budget e,
      heap._json_copy room a budget = .error e → e = .typed .AIProvenanceInvalidError)
    {items : List Address} {budget : ℕ} {e : Raised GovernanceError}
    (h : copyEach (heap._json_copy room) items budget = .error e) :
    e = .typed .AIProvenanceInvalidError := by
  induction items generalizing budget with
  | nil => cases h
  | cons a items ihs =>
    rcases bind_error h with h | ⟨_, -, h⟩
    · exact ih _ _ _ h
    · rcases bind_error h with h | ⟨_, -, h⟩
      · exact ihs h
      · cases h

lemma copyEntries_raises {room : ℕ} (ih : ∀ a budget e,
      heap._json_copy room a budget = .error e → e = .typed .AIProvenanceInvalidError)
    {entries : List (Address × Address)} {budget : ℕ} {e : Raised GovernanceError}
    (h : copyEntries (heap._json_copy room) entries budget = .error e) :
    e = .typed .AIProvenanceInvalidError := by
  induction entries generalizing budget with
  | nil => cases h
  | cons entry entries ihs =>
    rcases bind_error h with h | ⟨⟨key, _⟩, -, h⟩
    · exact ih _ _ _ h
    · rcases bind_error h with h | ⟨_, -, h⟩
      · exact ih _ _ _ h
      · rcases bind_error h with h | ⟨_, -, h⟩
        · exact ihs h
        · cases key <;> cases h
          all_goals rfl

lemma copy_raises {room : ℕ} {a : Address} {budget : ℕ} {e : Raised GovernanceError}
    (h : heap._json_copy room a budget = .error e) : e = .typed .AIProvenanceInvalidError := by
  induction room generalizing a budget e with
  | zero =>
    cases h
    rfl
  | succ room ih =>
    have ih' := fun a budget e => @ih a budget e
    have hinvalid : ∀ {α : Type}, (provenanceInvalid : Run α) = .error e →
        e = .typed .AIProvenanceInvalidError := by
      intro α h
      cases h
      rfl
    rw [_json_copy] at h
    split_ifs at h with hbudget
    · exact hinvalid h
    split at h
    case h_1 | h_2 | h_3 => cases h
    case h_4 =>
      split_ifs at h
      exact hinvalid h
    case h_5 =>
      split at h
      · exact hinvalid h
      · split_ifs at h
        exact hinvalid h
    case h_6 | h_7 =>
      split_ifs at h
      · exact hinvalid h
      · rcases bind_error h with h | ⟨_, -, h⟩
        · exact copyEntries_raises ih' h
        · cases h
    case h_8 | h_9 =>
      rcases bind_error h with h | ⟨_, -, h⟩
      · exact copyEach_raises ih' h
      · cases h
    case h_10 => exact hinvalid h

lemma caught_ok {α : Type} {x : Run α} {v : α} (h : caught x = .ok v) : x = .ok v := by
  unfold caught at h
  split at h
  · cases h
  · cases h
  · cases h
  · exact h

/-- The accepted objects are those that denote a document within the bounds. -/
theorem canonical_json_eq_ok {a : Address} {t : String} : heap.canonical_json a = .ok t ↔
    ∃ j, heap.Denotes j a ∧ Admissible PyFloat.repr j ∧ dumps PyFloat.repr j = t := by
  constructor
  · intro h
    unfold canonical_json at h
    obtain ⟨⟨j, left⟩, hcopy, hrun⟩ := bind_ok (caught_ok h)
    obtain ⟨result, hdumps, hrun⟩ := bind_ok hrun
    obtain ⟨hden, hplain, hdepth, hbudget⟩ := copied_of_copy hcopy
    unfold jsonDumps at hdumps
    split_ifs at hdumps with hwritable
    cases hdumps
    split_ifs at hrun with hsize
    · cases hrun
    · cases hrun
      exact ⟨j, hden, ⟨hplain, Nat.le_of_lt_succ hdepth, by omega, hwritable, not_lt.mp hsize⟩, rfl⟩
  · rintro ⟨j, hden, hadm, rfl⟩
    have hdepth : height j < MAX_DEPTH + 1 := Nat.lt_succ_of_le hadm.depth
    have hbudget : NODE_BUDGET = NODE_BUDGET - nodes j + nodes j := by
      have := hadm.budget
      omega
    have hcopy := copy_of_copied ⟨hden, hadm.isPlain, hdepth, hbudget⟩
    have hdumps : jsonDumps j = .ok (dumps PyFloat.repr j) := if_pos hadm.numbers
    unfold canonical_json
    rw [hcopy]
    show caught (jsonDumps j >>= _) = _
    rw [hdumps]
    show caught (if MAX_CANONICAL_BYTES < (dumps PyFloat.repr j).utf8ByteSize then _ else _) = _
    rw [if_neg (not_lt.mpr hadm.size)]
    rfl

/-- Every failure is the typed one. -/
theorem canonical_json_raises {a : Address} (h : ∀ t, heap.canonical_json a ≠ .ok t) :
    heap.canonical_json a = provenanceInvalid := by
  have hcaught : ∀ {x : Run String}, (∀ e, x = .error e → e = .typed .AIProvenanceInvalidError ∨
      e = .escaped .ValueError) → (∀ t, caught x ≠ .ok t) → caught x = provenanceInvalid := by
    intro x hx hno
    cases x with
    | ok t => exact absurd rfl (hno t)
    | error e => rcases hx e rfl with rfl | rfl <;> rfl
  refine hcaught (fun e he => ?_) h
  rcases bind_error he with he | ⟨⟨j, left⟩, -, he⟩
  · exact .inl (copy_raises he)
  · rcases bind_error he with he | ⟨result, -, he⟩
    · unfold jsonDumps at he
      split_ifs at he
      cases he
      exact .inr rfl
    · dsimp only at he
      split_ifs at he
      cases he
      exact .inl rfl

/-! ### One document for an object -/

lemma mem_denoteItems {js : List Json} {items : List Address} (h : heap.DenoteItems js items)
    {b : Address} (hb : b ∈ items) : ∃ j ∈ js, heap.Denotes j b := by
  induction items generalizing js with
  | nil => cases hb
  | cons a items ih =>
    cases js with
    | nil => cases h
    | cons j js =>
      rcases List.mem_cons.mp hb with rfl | hb
      · exact ⟨j, List.mem_cons_self, h.1⟩
      · obtain ⟨i, hi, hden⟩ := ih h.2 hb
        exact ⟨i, List.mem_cons_of_mem _ hi, hden⟩

lemma mem_denoteEntries {es : List (String × Json)} {entries : List (Address × Address)}
    (h : heap.DenoteEntries es entries) {entry : Address × Address} (hentry : entry ∈ entries) :
    ∃ e ∈ es, heap.Denotes (.str e.1) entry.1 ∧ heap.Denotes e.2 entry.2 := by
  induction entries generalizing es with
  | nil => cases hentry
  | cons first entries ih =>
    cases es with
    | nil => cases h
    | cons e es =>
      obtain ⟨hkey, hvalue, hrest⟩ := h
      rcases List.mem_cons.mp hentry with rfl | hentry
      · exact ⟨e, List.mem_cons_self, hkey, hvalue⟩
      · obtain ⟨e', he', hden⟩ := ih hrest hentry
        exact ⟨e', List.mem_cons_of_mem _ he', hden⟩

lemma denoteItems_of_mem {js : List Json} {items : List Address} (h : heap.DenoteItems js items)
    {j : Json} (hj : j ∈ js) : ∃ b ∈ items, heap.Denotes j b := by
  induction js generalizing items with
  | nil => cases hj
  | cons i js ih =>
    cases items with
    | nil => cases h
    | cons a items =>
      rcases List.mem_cons.mp hj with rfl | hj
      · exact ⟨a, List.mem_cons_self, h.1⟩
      · obtain ⟨b, hb, hden⟩ := ih h.2 hj
        exact ⟨b, List.mem_cons_of_mem _ hb, hden⟩

lemma denoteEntries_of_mem {es : List (String × Json)} {entries : List (Address × Address)}
    (h : heap.DenoteEntries es entries) {e : String × Json} (he : e ∈ es) :
    ∃ entry ∈ entries, heap.Denotes (.str e.1) entry.1 ∧ heap.Denotes e.2 entry.2 := by
  induction es generalizing entries with
  | nil => cases he
  | cons first es ih =>
    cases entries with
    | nil => cases h
    | cons entry entries =>
      obtain ⟨hkey, hvalue, hrest⟩ := h
      rcases List.mem_cons.mp he with rfl | he
      · exact ⟨entry, List.mem_cons_self, hkey, hvalue⟩
      · obtain ⟨entry', hmem, hden⟩ := ih hrest he
        exact ⟨entry', List.mem_cons_of_mem _ hmem, hden⟩

/-- Distinct keys denote distinct strings. -/
lemma nodup_of_denoteEntries {es : List (String × Json)} {entries : List (Address × Address)}
    (h : heap.DenoteEntries es entries)
    (hdistinct : entries.Pairwise fun e e' => ∀ cs, heap.object e.1 = .str cs →
      heap.object e'.1 ≠ .str cs) : (es.map Prod.fst).Nodup := by
  induction es generalizing entries with
  | nil => exact List.nodup_nil
  | cons e es ih =>
    cases entries with
    | nil => cases h
    | cons entry entries =>
      obtain ⟨⟨cs, hcs, henc⟩, -, hrest⟩ := h
      obtain ⟨hhead, htail⟩ := List.pairwise_cons.mp hdistinct
      rw [List.map_cons, List.nodup_cons]
      refine ⟨fun hmem => ?_, ih hrest htail⟩
      obtain ⟨e', he', hkey⟩ := List.mem_map.mp hmem
      obtain ⟨entry', hentry', ⟨cs', hcs', henc'⟩, -⟩ := denoteEntries_of_mem hrest he'
      rw [hkey] at henc'
      rw [encode_inj henc' henc] at hcs'
      exact hhead entry' hentry' cs hcs hcs'

/-- A document with a canonical text is one a text can hold. -/
lemma loadable_of_denotes {j : Json} {a : Address} (h : heap.Denotes j a)
    (hwritable : writable j = true) : Loadable j := by
  induction j using memberInduction generalizing a with
  | null => exact .null
  | bool b => exact .bool b
  | int n =>
    have hdigits : INT_DIGITS = PyText.maxDigits := rfl
    rw [writable, decide_eq_true_eq, hdigits] at hwritable
    exact .int n hwritable
  | float x => exact .float x (heap.double a x h.1) h.2
  | str s => exact .str s
  | arr js ih =>
    obtain ⟨items, -, hden⟩ := h
    refine .arr js fun j hj => ?_
    obtain ⟨b, -, hb⟩ := denoteItems_of_mem hden hj
    exact ih j hj hb (writableItems_iff.mp hwritable j hj)
  | obj es ih =>
    obtain ⟨entries, hentries, hden⟩ := h
    refine .obj es (nodup_of_denoteEntries hden (heap.distinct a entries hentries)) fun e he => ?_
    obtain ⟨entry, -, -, hb⟩ := denoteEntries_of_mem hden he
    exact ih e he hb (writableMembers_iff.mp hwritable e he)

lemma denoteItems_unique {js js' : List Json} {items : List Address}
    (ih : ∀ j ∈ js, ∀ j' a, heap.Denotes j a → heap.Denotes j' a → j = j')
    (h : heap.DenoteItems js items) (h' : heap.DenoteItems js' items) : js = js' := by
  induction js generalizing js' items with
  | nil =>
    cases items with
    | cons => cases h
    | nil =>
      cases js' with
      | nil => rfl
      | cons => cases h'
  | cons j js ihs =>
    cases items with
    | nil => cases h
    | cons a items =>
      cases js' with
      | nil => cases h'
      | cons j' js' =>
        rw [ih j List.mem_cons_self j' a h.1 h'.1,
          ihs (fun i hi => ih i (List.mem_cons_of_mem _ hi)) h.2 h'.2]

lemma denotes_str_unique {s s' : String} {a : Address} (h : heap.Denotes (.str s) a)
    (h' : heap.Denotes (.str s') a) : s = s' := by
  obtain ⟨cs, hcs, hs⟩ := h
  obtain ⟨cs', hcs', hs'⟩ := h'
  rw [hcs, PyObject.str.injEq] at hcs'
  rw [← hcs', hs] at hs'
  exact Option.some.inj hs'

lemma denoteEntries_unique {es es' : List (String × Json)} {entries : List (Address × Address)}
    (ih : ∀ e ∈ es, ∀ j' a, heap.Denotes e.2 a → heap.Denotes j' a → e.2 = j')
    (h : heap.DenoteEntries es entries) (h' : heap.DenoteEntries es' entries) : es = es' := by
  induction es generalizing es' entries with
  | nil =>
    cases entries with
    | cons => cases h
    | nil =>
      cases es' with
      | nil => rfl
      | cons => cases h'
  | cons e es ihs =>
    cases entries with
    | nil => cases h
    | cons entry entries =>
      cases es' with
      | nil => cases h'
      | cons e' es' =>
        obtain ⟨hkey, hvalue, hrest⟩ := h
        obtain ⟨hkey', hvalue', hrest'⟩ := h'
        have hfst : e.1 = e'.1 := denotes_str_unique hkey hkey'
        have hsnd := ih e List.mem_cons_self e'.2 entry.2 hvalue hvalue'
        rw [ihs (fun i hi => ih i (List.mem_cons_of_mem _ hi)) hrest hrest', Prod.ext hfst hsnd]

lemma entries_of_items {o : PyObject Address} {items : List Address} (h : o.items? = some items) :
    o.entries? = none := by
  cases o <;> first | rfl | cases h

/-- What an array denotes is an array of what its elements denote. -/
lemma exists_arr {j : Json} {a : Address} (h : heap.Denotes j a) {items : List Address}
    (hitems : (heap.object a).items? = some items) : ∃ js, j = .arr js ∧ heap.DenoteItems js items := by
  have hobj : ∀ o, heap.object a = o → o.items? = none → False := by
    rintro o rfl hnone
    exact absurd (hnone.symm.trans hitems) nofun
  cases j with
  | null => exact (hobj _ h rfl).elim
  | bool | int => exact (hobj _ h rfl).elim
  | float => exact (hobj _ h.1 rfl).elim
  | str =>
    obtain ⟨cs, hcs, -⟩ := h
    exact (hobj _ hcs rfl).elim
  | arr js =>
    obtain ⟨items', hitems', hden⟩ := h
    obtain rfl : items = items' := Option.some.inj (hitems.symm.trans hitems')
    exact ⟨js, rfl, hden⟩
  | obj es =>
    obtain ⟨entries, hentries, -⟩ := h
    exact absurd ((entries_of_items hitems).symm.trans hentries) nofun

/-- What a mapping denotes is an object of what its entries denote. -/
lemma exists_obj {j : Json} {a : Address} (h : heap.Denotes j a)
    {entries : List (Address × Address)} (hentries : (heap.object a).entries? = some entries) :
    ∃ es, j = .obj es ∧ heap.DenoteEntries es entries := by
  have hobj : ∀ o, heap.object a = o → o.entries? = none → False := by
    rintro o rfl hnone
    exact absurd (hnone.symm.trans hentries) nofun
  cases j with
  | null => exact (hobj _ h rfl).elim
  | bool | int => exact (hobj _ h rfl).elim
  | float => exact (hobj _ h.1 rfl).elim
  | str =>
    obtain ⟨cs, hcs, -⟩ := h
    exact (hobj _ hcs rfl).elim
  | arr js =>
    obtain ⟨items, hitems, -⟩ := h
    exact absurd ((entries_of_items hitems).symm.trans hentries) nofun
  | obj es =>
    obtain ⟨entries', hentries', hden⟩ := h
    obtain rfl : entries = entries' := Option.some.inj (hentries.symm.trans hentries')
    exact ⟨es, rfl, hden⟩

/-- An object denotes one document. -/
lemma denotes_unique {j j' : Json} {a : Address} (h : heap.Denotes j a) (h' : heap.Denotes j' a) :
    j = j' := by
  induction j using memberInduction generalizing a j' with
  | null | bool b | int n | float x =>
    cases j' <;> simp_all [Denotes, PyObject.items?, PyObject.entries?]
  | str s =>
    have hunique : ∀ s', heap.Denotes (.str s') a → s = s' := fun s' => denotes_str_unique h
    obtain ⟨cs, hcs, -⟩ := h
    cases j' with
    | str s' => exact congrArg _ (hunique s' h')
    | null | bool | int | float | arr | obj =>
      simp [Denotes, hcs, PyObject.items?, PyObject.entries?] at h'
  | arr js ih =>
    obtain ⟨items, hitems, hden⟩ := h
    obtain ⟨js', rfl, hden'⟩ := exists_arr h' hitems
    exact congrArg _ (denoteItems_unique (fun j hj j' a => ih j hj) hden hden')
  | obj es ih =>
    obtain ⟨entries, hentries, hden⟩ := h
    obtain ⟨es', rfl, hden'⟩ := exists_obj h' hentries
    exact congrArg _ (denoteEntries_unique (fun e he j' a => ih e he) hden hden')

/-! ### Objects that are no document -/

/-- One of the objects an array or a mapping holds; the keys are among them. -/
def Holds (heap : Heap Address) (a b : Address) : Prop :=
  (∃ items, (heap.object a).items? = some items ∧ b ∈ items) ∨
    ∃ entries, (heap.object a).entries? = some entries ∧ ∃ e ∈ entries, b = e.1 ∨ b = e.2

/-- What no JSON text can stand for, whatever it holds. -/
inductive Foreign (heap : Heap Address) (a : Address) : Prop
  | type (h : heap.object a = .other)
  | number (x : PyFloat) (h : heap.object a = .float x) (hinf : x.isFinite = false)
  | surrogate (cs : PyStr) (h : heap.object a = .str cs) (hlone : encode cs = none)
  | key (entries : List (Address × Address)) (h : (heap.object a).entries? = some entries)
    (e : Address × Address) (he : e ∈ entries) (hkey : (heap.object e.1).isStr = false)

lemma sizeOf_lt_of_mem_entries {es : List (String × Json)} {e : String × Json} (h : e ∈ es) :
    sizeOf (Json.str e.1) < sizeOf (Json.obj es) ∧ sizeOf e.2 < sizeOf (Json.obj es) := by
  have hlt := List.sizeOf_lt_of_mem h
  obtain ⟨k, v⟩ := e
  simp only [Prod.mk.sizeOf_spec, Json.str.sizeOf_spec, Json.obj.sizeOf_spec] at hlt ⊢
  omega

/-- What a document's object holds are parts of the document. -/
lemma exists_part {j : Json} {a b : Address} (h : heap.Denotes j a) (hb : heap.Holds a b) :
    ∃ i, heap.Denotes i b ∧ sizeOf i < sizeOf j := by
  rcases hb with ⟨items, hitems, hb⟩ | ⟨entries, hentries, entry, hentry, hb⟩
  · obtain ⟨js, rfl, hden⟩ := exists_arr h hitems
    obtain ⟨i, hi, hden⟩ := mem_denoteItems hden hb
    have hlt := List.sizeOf_lt_of_mem hi
    exact ⟨i, hden, by rw [Json.arr.sizeOf_spec]; omega⟩
  · obtain ⟨es, rfl, hden⟩ := exists_obj h hentries
    obtain ⟨e, he, hkey, hvalue⟩ := mem_denoteEntries hden hentry
    obtain ⟨hkeySize, hvalueSize⟩ := sizeOf_lt_of_mem_entries he
    rcases hb with rfl | rfl
    · exact ⟨_, hkey, hkeySize⟩
    · exact ⟨_, hvalue, hvalueSize⟩

lemma exists_part_of_reaches {j : Json} {a b : Address} (h : heap.Denotes j a)
    (hb : Relation.ReflTransGen heap.Holds a b) : ∃ i, heap.Denotes i b ∧ sizeOf i ≤ sizeOf j := by
  induction hb with
  | refl => exact ⟨j, h, le_rfl⟩
  | tail _ hstep ih =>
    obtain ⟨i, hi, hle⟩ := ih
    obtain ⟨k, hk, hlt⟩ := exists_part hi hstep
    exact ⟨k, hk, (hlt.trans_le hle).le⟩

/-- A document's object holds itself nowhere. -/
lemma not_cyclic_of_denotes {j : Json} {a b : Address} (h : heap.Denotes j a)
    (hb : Relation.ReflTransGen heap.Holds a b) : ¬Relation.TransGen heap.Holds b b := by
  intro hcycle
  obtain ⟨i, hi, -⟩ := exists_part_of_reaches h hb
  obtain ⟨c, hpath, hlast⟩ := Relation.TransGen.tail'_iff.mp hcycle
  obtain ⟨k, hk, hle⟩ := exists_part_of_reaches hi hpath
  obtain ⟨i', hi', hlt⟩ := exists_part hk hlast
  rw [denotes_unique hi' hi] at hlt
  omega

/-- Nothing foreign denotes a document. -/
lemma not_foreign_of_denotes {j : Json} {a : Address} (h : heap.Denotes j a) :
    ¬heap.Foreign a := by
  intro hforeign
  cases hforeign with
  | type hobj => cases j <;> simp_all [Denotes, PyObject.items?, PyObject.entries?]
  | number x hobj hinf => cases j <;> simp_all [Denotes, PyObject.items?, PyObject.entries?]
  | surrogate cs hobj hlone => cases j <;> simp_all [Denotes, PyObject.items?, PyObject.entries?]
  | key entries hentries e he hkey =>
    obtain ⟨es, rfl, hden⟩ := exists_obj h hentries
    have hstr := isStr_of_denoteEntries hden
    rw [List.any_eq_false] at hstr
    exact hstr e he (by rw [hkey]; rfl)

/-! ### What a canonical text says -/

variable {Address' : Type} {heap' : Heap Address'} {a : Address} {b : Address'} {t : String}

/-- Objects whose documents differ in the order of entries only have one text or none. -/
lemma canonical_json_congr {j j' : Json} (h : heap.Denotes j a) (h' : heap'.Denotes j' b)
    (hsame : sortKeys j = sortKeys j') (ht : heap.canonical_json a = .ok t) :
    heap'.canonical_json b = .ok t := by
  obtain ⟨i, hi, hadm, rfl⟩ := canonical_json_eq_ok.mp ht
  rw [denotes_unique hi h] at hadm ⊢
  exact canonical_json_eq_ok.mpr ⟨j', h', hadm.congr hsame, dumps_eq_of_sortKeys hsame.symm⟩

/-- A canonical text loads as the document it is of. -/
lemma loads_of_canonical_json {j : Json} (h : heap.Denotes j a)
    (ht : heap.canonical_json a = .ok t) : loads t.toList = some (sortKeys j) := by
  obtain ⟨i, hi, hadm, rfl⟩ := canonical_json_eq_ok.mp ht
  rw [denotes_unique h hi]
  exact loads_dumps (loadable_of_denotes hi hadm.numbers)

lemma sortKeys_eq_of_canonical_json {j j' : Json} (h : heap.Denotes j a) (h' : heap'.Denotes j' b)
    (ht : heap.canonical_json a = .ok t) (ht' : heap'.canonical_json b = .ok t) :
    sortKeys j = sortKeys j' :=
  Option.some.inj ((loads_of_canonical_json h ht).symm.trans (loads_of_canonical_json h' ht'))

lemma exists_text_of_digest {sha256 : String → String} {d : String}
    (h : heap.canonical_digest sha256 a = .ok d) :
    ∃ t, heap.canonical_json a = .ok t ∧ sha256 t = d := by
  obtain ⟨t, ht, h⟩ := bind_ok h
  exact ⟨t, ht, Except.ok.inj h⟩

lemma canonical_json_refused (h : ∀ j, ¬heap.Denotes j a) :
    heap.canonical_json a = provenanceInvalid := by
  refine canonical_json_raises fun t ht => ?_
  obtain ⟨j, hj, -⟩ := canonical_json_eq_ok.mp ht
  exact h j hj

/-- The text of an object is that of a document, which it loads as and which no other document has;
what has a part no text can stand for, or holds itself, is refused with the typed error. -/
theorem canonical_json_canonical (sha256 : String → String) (hsha : Function.Injective sha256)
    (heap : Heap Address) (heap' : Heap Address') (a : Address) :
    (∀ t, heap.canonical_json a = .ok t → ∃ j, heap.Denotes j a ∧
      -- what is loaded is the document, and is given the text again
      (∃ loaded, loads t.toList = some loaded ∧ sortKeys loaded = sortKeys j ∧
        ∀ b, heap'.Denotes loaded b → heap'.canonical_json b = .ok t) ∧
      -- the types and the order of entries do not matter
      (∀ j' b, heap'.Denotes j' b → sortKeys j' = sortKeys j → heap'.canonical_json b = .ok t) ∧
      -- everything else does
      (∀ b, heap'.canonical_json b = .ok t → ∃ j', heap'.Denotes j' b ∧
        sortKeys j' = sortKeys j) ∧
      (∀ b, heap'.canonical_digest sha256 b = .ok (sha256 t) → ∃ j', heap'.Denotes j' b ∧
        sortKeys j' = sortKeys j)) ∧
    (∀ b, Relation.ReflTransGen heap.Holds a b →
      heap.Foreign b ∨ Relation.TransGen heap.Holds b b →
        heap.canonical_json a = provenanceInvalid) ∧
    ((∃ t, heap.canonical_json a = .ok t) ∨ heap.canonical_json a = provenanceInvalid) := by
  refine ⟨fun t ht => ?_, fun b hb hbad => ?_, ?_⟩
  · obtain ⟨j, hj, hadm, hdumps⟩ := canonical_json_eq_ok.mp ht
    have hinj : ∀ b, heap'.canonical_json b = .ok t → ∃ j', heap'.Denotes j' b ∧
        sortKeys j' = sortKeys j := by
      intro b hb
      obtain ⟨j', hj', -⟩ := canonical_json_eq_ok.mp hb
      exact ⟨j', hj', sortKeys_eq_of_canonical_json hj' hj hb ht⟩
    refine ⟨j, hj, ⟨sortKeys j, loads_of_canonical_json hj ht, sortKeys_sortKeys j, ?_⟩, ?_, hinj, ?_⟩
    · intro b hb
      exact canonical_json_congr hj hb (sortKeys_sortKeys j).symm ht
    · intro j' b hb hsame
      exact canonical_json_congr hj hb hsame.symm ht
    · intro b hb
      obtain ⟨t', ht', hdigest⟩ := exists_text_of_digest hb
      rw [hsha hdigest] at ht'
      exact hinj b ht'
  · refine canonical_json_refused fun j hj => ?_
    rcases hbad with hforeign | hcycle
    · obtain ⟨i, hi, -⟩ := exists_part_of_reaches hj hb
      exact not_foreign_of_denotes hi hforeign
    · exact not_cyclic_of_denotes hj hb hcycle
  · by_cases h : ∃ t, heap.canonical_json a = .ok t
    · exact .inl h
    · exact .inr (canonical_json_raises (not_exists.mp h))

/-- What `semantic_digest` is the digest of. -/
def fingerprint (operation_id target_scope : String) (body : Json) : Json :=
  .obj [("operation_id", .str operation_id), ("target_resource_scope", .str target_scope),
    ("body", body), ("headers", .obj [])]

/-- Requests with one semantic digest are one request, up to the order of the body's members. -/
theorem semantic_digest_identifies {sha256 : String → String} (hsha : Function.Injective sha256)
    {operation scope operation' scope' d : String} {body body' : Json}
    (h : heap.Denotes (fingerprint operation scope body) a)
    (h' : heap'.Denotes (fingerprint operation' scope' body') b)
    (hd : heap.canonical_digest sha256 a = .ok d) (hd' : heap'.canonical_digest sha256 b = .ok d) :
    operation = operation' ∧ scope = scope' ∧ sortKeys body = sortKeys body' := by
  obtain ⟨t, ht, htd⟩ := exists_text_of_digest hd
  obtain ⟨t', ht', htd'⟩ := exists_text_of_digest hd'
  rw [hsha (htd'.trans htd.symm)] at ht'
  have hsame := sortKeys_eq_of_canonical_json h h' ht ht'
  have hget := get_sortKeys_congr (by simp) hsame
  exact ⟨Json.str.inj (hget "operation_id"), Json.str.inj (hget "target_resource_scope"),
    hget "body"⟩

section Sample

/-- A mapping with a tuple and a proxy, and a list that holds itself. -/
def sampleHeap : Heap ℕ where
  object
    | 0 => .dict [(1, 2), (3, 4)]
    | 1 => .str [98]
    | 2 => .tuple [5, 6]
    | 3 => .str [97]
    | 4 => .mappingProxy []
    | 5 => .int 1
    | 6 => .float (.finite (1 / 2))
    | 7 => .list [7]
    | _ => .other
  double a x h := by
    split at h <;> cases h
    decide +kernel
  distinct a es h := by
    split at h <;> cases h
    · simp
    · simp

def sampleText : String := "\x7b\"a\":\x7b\x7d,\"b\":[1,0.5]\x7d"

/-- The digest of one text; every other text stands for its own. -/
def stamped (t : String) : String :=
  if t = sampleText then "05f3e2d4ac01d210eee46d735a836002eabf27228eb5f26329d6aaf7c591151d" else "z" ++ t

lemma stamped_injective : Function.Injective stamped := by
  have hclash : ∀ t : String, "05f3e2d4ac01d210eee46d735a836002eabf27228eb5f26329d6aaf7c591151d" ≠ "z" ++ t := by
    intro t h
    have hhead := congrArg (fun s => s.toList.head?) h
    rw [String.toList_append] at hhead
    exact absurd (Option.some.inj hhead) (by decide)
  intro t u h
  unfold stamped at h
  split_ifs at h with ht hu hu
  · rw [ht, hu]
  · exact absurd h (hclash u)
  · exact absurd h.symm (hclash t)
  · have hlist := congrArg String.toList h
    rw [String.toList_append, String.toList_append] at hlist
    exact String.toList_injective (List.append_cancel_left hlist)

theorem canonical_json_canonical_sample :
    (∃ loaded, loads sampleText.toList = some loaded ∧
      ∀ b, sampleHeap.Denotes loaded b → sampleHeap.canonical_json b = .ok sampleText) ∧
      sampleHeap.canonical_json 7 = provenanceInvalid := by
  have haccepted : sampleHeap.canonical_json 0 = .ok sampleText :=
    eq_ok_of_toOption (by decide +kernel)
  obtain ⟨j, -, ⟨loaded, hloads, -, hagain⟩, -⟩ :=
    (canonical_json_canonical stamped stamped_injective sampleHeap sampleHeap 0).1 _ haccepted
  have hcycle : Relation.TransGen sampleHeap.Holds 7 7 :=
    .single (.inl ⟨[7], rfl, List.mem_cons_self⟩)
  have hrefused := (canonical_json_canonical stamped stamped_injective sampleHeap sampleHeap 7).2.1 7
    .refl (.inr hcycle)
  exact ⟨⟨loaded, hloads, hagain⟩, hrefused⟩

end Sample

end Heap

end TrustLens.Ai
