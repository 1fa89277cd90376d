import TrustLens.Backend.Listing
import TrustLens.Lib.JsonNesting

/-!
# Reading a request

The body of a request is read in chunks under a bound, its JSON is decoded, and the query of a list
is checked, each to a value or to what is wrong with it. Three gaps let an exception through:
`isdigit` accepts texts that `int` refuses, in the declared length as in the limit of a page, and a
body may nest deeper than the interpreter reads.
-/

namespace TrustLens.Backend.Cases

def MAX_JSON_BODY : ℕ := 128 * 1024

/-! ### The body -/

/-- What was held of a body while it was read, and the body where it is within the bound. -/
structure Reading where
  buffers : List (List UInt8)
  body : Option (List UInt8)
deriving DecidableEq

/-- The loop of `read_bounded`. -/
def receive (limit : ℕ) (received : List UInt8) : List (List UInt8) → Reading
  | [] => ⟨[received], some received⟩
  | chunk :: chunks =>
    if limit < received.length + chunk.length then ⟨[received], none⟩
    else
      let rest := receive limit (received ++ chunk) chunks
      ⟨received :: rest.buffers, rest.body⟩

/-- `s.strip()` -/
def stripped (s : String) : String := String.ofList (PyText.strip s.toList)

/-- Whether the declared length is none that the bound admits. -/
def refusesLength (declared : Option String) (limit : ℕ) : Attempt Bool :=
  match declared with
  | none => .ok false
  | some s =>
    if isDigits (stripped s) then do
      let n ← orRaise .ValueError (PyText.parseInt? s)
      return decide (n > limit)
    else .ok true

/-- `read_bounded` -/
def read_bounded (declared : Option String) (chunks : List (List UInt8)) (limit : ℕ) : Attempt Reading := do
  if ← refusesLength declared limit then return ⟨[], none⟩
  else return receive limit [] chunks

/-! ### A JSON object -/

structure Request where
  contentType : Option String
  contentLength : Option String
  chunks : List (List UInt8)

/-- `content_type.split(";")[0].strip().lower()`; no other letter has the lower case of one in
`application/json`. -/
def mediaType (contentType : Option String) : String :=
  String.ofList ((stripped (PyText.beforeFirst ';' (contentType.getD ""))).toList.map toLowerAscii)

def TOO_LARGE : FieldError := ⟨"body", "TOO_LARGE", "Request body exceeds the configured bound."⟩

/-- `json.loads(raw.decode("utf-8")) if raw else {}`, with the nesting the interpreter admits;
`UnicodeDecodeError` is a `ValueError`. -/
def bodyValue (nesting : ℕ) (raw : List UInt8) : Attempt Json :=
  if raw = [] then .ok (.obj [])
  else do
    let text ← orRaise .ValueError raw.toByteArray.utf8Decode?
    Json.loadsWithin nesting text.toList

/-- `read_json_object`: the object, or what is wrong with the request. -/
def read_json_object (nesting : ℕ) (request : Request) :
    Attempt (Except (List FieldError) (List (String × Json))) :=
  if mediaType request.contentType ≠ "application/json" then
    .ok (.error [⟨"Content-Type", "UNSUPPORTED", "Send application/json."⟩])
  else do
    match (← read_bounded request.contentLength request.chunks MAX_JSON_BODY).body with
    | none => return .error [TOO_LARGE]
    | some raw =>
      match bodyValue nesting raw with
      | .ok (.obj entries) => return .ok entries
      | .ok _ => return .error [⟨"body", "MALFORMED", "Body must be a JSON object."⟩]
      | .error e =>
        if e = .ValueError then return .error [⟨"body", "MALFORMED", "Body is not valid JSON."⟩]
        else .error e

/-! ### A cursor -/

/-- The body of `_decode_cursor`, with the nesting the interpreter admits. -/
def decodeCursorWithin (nesting : ℕ) (value : String) : Attempt (Option Cursor) :=
  if 256 < value.length then .ok none
  else do
    let raw ← orRaise .ValueError (Base64.decode (value.toList ++ Base64.padding value.toList))
    let text ← orRaise .ValueError raw.toByteArray.utf8Decode?
    let data ← Json.loadsWithin nesting text.toList
    let (instant, zone) ← momentOf (← member data "t")
    let identifier ← _uuid (← member data "i")
    return match zone, identifier with
      | some offset, some identifier => some ⟨instant, offset, identifier⟩
      | _, _ => none

/-- `_decode_cursor`, with the nesting the interpreter admits: it catches no `RecursionError`. -/
def _decode_cursor_within (nesting : ℕ) (value : String) : Attempt (Option Cursor) :=
  match decodeCursorWithin nesting value with
  | .ok cursor => .ok cursor
  | .error e => if e ∈ [.ValueError, .KeyError, .TypeError] then .ok none else .error e

/-! ### Texts of digits -/

/-- The code points of the characters `isdigit` accepts. -/
def digitRanges : List (ℕ × ℕ) := PyText.decimalZeros.map (fun z => (z, z + 9)) ++ otherDigits

/-- A text that `isdigit` accepts and `int` refuses: a digit of it is no decimal digit, or it has
more digits than the interpreter converts. -/
def Inconvertible (s : String) : Prop :=
  isDigits s = true ∧
    ((∃ c ∈ s.toList, PyText.isDigit c = false) ∨ PyText.maxDigits < s.toList.length)

section Digits

variable {c : Char} {cs : List Char}

lemma mem_digitRanges (h : PyText.isDigit c = true ∨
      (otherDigits.any fun r => r.1 ≤ c.toNat && c.toNat ≤ r.2) = true) :
    ∃ r ∈ digitRanges, r.1 ≤ c.toNat ∧ c.toNat ≤ r.2 := by
  rcases h with h | h
  · rw [PyText.isDigit, PyText.digitValue?, Option.isSome_map, List.find?_isSome] at h
    obtain ⟨z, hz, hrange⟩ := h
    rw [Bool.and_eq_true, decide_eq_true_eq, decide_eq_true_eq] at hrange
    exact ⟨(z, z + 9), List.mem_append_left _ (List.mem_map_of_mem hz), hrange.1, by omega⟩
  · obtain ⟨r, hr, hrange⟩ := List.any_eq_true.mp h
    rw [Bool.and_eq_true, decide_eq_true_eq, decide_eq_true_eq] at hrange
    exact ⟨r, List.mem_append_right _ hr, hrange⟩

/-- No sign, no underscore and no white space is a digit. -/
lemma digitRanges_apart : ∀ r ∈ digitRanges, 0x30 ≤ r.1 ∧ (r.2 < 0x5f ∨ 0x5f < r.1) ∧
    (r.2 < 0x85 ∨ 0xa0 < r.1) ∧ (r.2 < 0x1680 ∨ 0x1680 < r.1) ∧ (r.2 < 0x2000 ∨ 0x205f < r.1) ∧
      (r.2 < 0x3000 ∨ 0x3000 < r.1) := by decide +kernel

lemma spec_of_digit (h : PyText.isDigit c = true ∨
      (otherDigits.any fun r => r.1 ≤ c.toNat && c.toNat ≤ r.2) = true) :
    c ≠ '+' ∧ c ≠ '-' ∧ c ≠ '_' ∧ PyText.isSpace c = false := by
  obtain ⟨r, hr, hlow, hhigh⟩ := mem_digitRanges h
  obtain ⟨h1, h2, h3, h4, h5, h6⟩ := digitRanges_apart r hr
  refine ⟨?_, ?_, ?_, ?_⟩
  · rintro rfl
    have : ('+' : Char).toNat = 0x2b := rfl
    omega
  · rintro rfl
    have : ('-' : Char).toNat = 0x2d := rfl
    omega
  · rintro rfl
    have : ('_' : Char).toNat = 0x5f := rfl
    omega
  · apply Bool.eq_false_iff.mpr
    intro hspace
    simp only [PyText.isSpace, Bool.or_eq_true, Bool.and_eq_true, decide_eq_true_eq, beq_iff_eq] at hspace
    omega

lemma digitRun_cons (d : Char) (hd : d ≠ '_') : PyText.digitRun (c :: d :: cs) = (do
    let n ← PyText.digitValue? c
    let ds ← PyText.digitRun (d :: cs)
    return n :: ds) := by
  rw [PyText.digitRun]
  · exact nofun
  · intro rest h
    exact hd (List.cons.inj h).1

/-- Without underscores, a run is taken digit by digit. -/
lemma digitRun_spec (hne : cs ≠ []) (h : ∀ c ∈ cs, c ≠ '_') :
    (∃ ds, PyText.digitRun cs = some ds ∧ ds.length = cs.length ∧ ∀ c ∈ cs, PyText.isDigit c = true) ∨
      PyText.digitRun cs = none ∧ ∃ c ∈ cs, PyText.isDigit c = false := by
  induction cs with
  | nil => exact absurd rfl hne
  | cons c cs ih =>
    have hdigit : PyText.isDigit c = (PyText.digitValue? c).isSome := rfl
    cases hvalue : PyText.digitValue? c with
    | none =>
      right
      refine ⟨?_, c, List.mem_cons_self, by rw [hdigit, hvalue]; rfl⟩
      cases cs with
      | nil => rw [PyText.digitRun, hvalue]; rfl
      | cons d cs =>
        rw [digitRun_cons d (h d (by simp)), hvalue]
        rfl
    | some n =>
      rw [hvalue] at hdigit
      cases cs with
      | nil =>
        left
        refine ⟨[n], ?_, rfl, ?_⟩
        · rw [PyText.digitRun, hvalue]
          rfl
        · simpa using hdigit
      | cons d cs =>
        rw [digitRun_cons d (h d (by simp)), hvalue]
        rcases ih (by simp) fun c hc => h c (List.mem_cons_of_mem _ hc) with
          ⟨ds, hds, hlength, hall⟩ | ⟨hnone, c', hc', hfalse⟩
        · left
          refine ⟨n :: ds, ?_, ?_, ?_⟩
          · rw [hds]
            rfl
          · rw [List.length_cons, hlength]
            rfl
          · exact List.forall_mem_cons.mpr ⟨hdigit, hall⟩
        · right
          refine ⟨?_, c', List.mem_cons_of_mem _ hc', hfalse⟩
          rw [hnone]
          rfl

lemma parseNat?_none_iff (hne : cs ≠ []) (h : ∀ c ∈ cs, c ≠ '_') : PyText.parseNat? cs = none ↔
    (∃ c ∈ cs, PyText.isDigit c = false) ∨ PyText.maxDigits < cs.length := by
  rw [PyText.parseNat?]
  rcases digitRun_spec hne h with ⟨ds, hds, hlength, hall⟩ | ⟨hnone, hexists⟩
  · have hno : ¬∃ c ∈ cs, PyText.isDigit c = false := by
      rintro ⟨c, hc, hfalse⟩
      rw [hall c hc] at hfalse
      cases hfalse
    rw [hds, or_iff_right hno, ← hlength]
    dsimp only
    split_ifs with hmax
    · exact iff_of_false nofun (by omega)
    · exact iff_of_true rfl (by omega)
  · rw [hnone]
    exact iff_of_true rfl (.inl hexists)

lemma strip_of_noSpace (h : ∀ c ∈ cs, PyText.isSpace c = false) : PyText.strip cs = cs := by
  have hdrop : ∀ cs : List Char, (∀ c ∈ cs, PyText.isSpace c = false) → cs.dropWhile PyText.isSpace = cs := by
    intro cs hcs
    cases cs with
    | nil => rfl
    | cons c cs => exact List.dropWhile_cons_of_neg (by rw [hcs c List.mem_cons_self]; decide)
  rw [PyText.strip, hdrop cs h, hdrop _ fun c hc => h c (List.mem_reverse.mp hc), List.reverse_reverse]

end Digits

section Isdigit

variable {s : String}

lemma digits_of_isDigits (h : isDigits s = true) :
    s.toList ≠ [] ∧ ∀ c ∈ s.toList, c ≠ '+' ∧ c ≠ '-' ∧ c ≠ '_' ∧ PyText.isSpace c = false := by
  rw [isDigits, Bool.and_eq_true, Bool.not_eq_true', List.all_eq_true] at h
  refine ⟨fun hnil => ?_, fun c hc => spec_of_digit (Bool.or_eq_true_iff.mp (h.2 c hc))⟩
  rw [hnil] at h
  cases h.1

/-- `int` of a text whose digits stand between white space. -/
lemma parseInt?_of_isDigits (h : isDigits (stripped s) = true) :
    PyText.parseInt? s = (PyText.parseNat? (PyText.strip s.toList)).map Int.ofNat := by
  obtain ⟨hne, hall⟩ := digits_of_isDigits h
  rw [stripped, String.toList_ofList] at hne hall
  rw [PyText.parseInt?]
  split
  · rename_i hminus
    rw [hminus] at hall
    exact absurd rfl (hall '-' List.mem_cons_self).2.1
  · rename_i hplus
    rw [hplus] at hall
    exact absurd rfl (hall '+' List.mem_cons_self).1
  · rfl

/-- What `isdigit` accepts, `int` refuses exactly where it is inconvertible. -/
lemma parseInt?_none_iff (h : isDigits (stripped s) = true) :
    PyText.parseInt? s = none ↔ Inconvertible (stripped s) := by
  obtain ⟨hne, hall⟩ := digits_of_isDigits h
  have htext : (stripped s).toList = PyText.strip s.toList := String.toList_ofList
  rw [parseInt?_of_isDigits h, Option.map_eq_none_iff, ← htext,
    parseNat?_none_iff hne fun c hc => (hall c hc).2.2.1, Inconvertible, and_iff_right h]

lemma stripped_of_isDigits (h : isDigits s = true) : stripped s = s := by
  rw [stripped, strip_of_noSpace fun c hc => ((digits_of_isDigits h).2 c hc).2.2.2, String.ofList_toList]

end Isdigit

/-! ### Reading the body -/

/-- A declared length that is digits `int` refuses. -/
def LengthInconvertible (declared : Option String) : Prop :=
  ∃ s, declared = some s ∧ Inconvertible (stripped s)

/-- The declared length, where there is one, is a decimal number within the bound. -/
def DeclaredWithin (declared : Option String) (limit : ℕ) : Prop :=
  ∀ s, declared = some s → isDigits (stripped s) = true ∧ ∃ n, PyText.parseInt? s = some n ∧ n ≤ limit

lemma refusesLength_of_inconvertible {declared : Option String} (limit : ℕ)
    (h : LengthInconvertible declared) : refusesLength declared limit = .error .ValueError := by
  obtain ⟨s, rfl, hs⟩ := h
  rw [refusesLength, if_pos hs.1, (parseInt?_none_iff hs.1).mpr hs]
  rfl

lemma refusesLength_spec {declared : Option String} (limit : ℕ) (h : ¬LengthInconvertible declared) :
    ∃ refused, refusesLength declared limit = .ok refused ∧
      (refused = false ↔ DeclaredWithin declared limit) := by
  cases declared with
  | none => exact ⟨false, rfl, iff_of_true rfl nofun⟩
  | some s =>
    rw [refusesLength]
    by_cases hs : isDigits (stripped s) = true
    · rw [if_pos hs]
      cases hn : PyText.parseInt? s with
      | none => exact absurd ⟨s, rfl, (parseInt?_none_iff hs).mp hn⟩ h
      | some n =>
        refine ⟨decide (n > limit), rfl, ?_⟩
        rw [decide_eq_false_iff_not, not_lt]
        constructor
        · intro hle s' hs'
          obtain rfl := Option.some.inj hs'
          exact ⟨hs, n, hn, hle⟩
        · intro hwithin
          obtain ⟨-, n', hn', hle⟩ := hwithin s rfl
          rw [hn] at hn'
          rwa [← Option.some.inj hn'] at hle
    · rw [if_neg hs]
      refine ⟨true, rfl, iff_of_false nofun fun hwithin => ?_⟩
      exact hs (hwithin s rfl).1

/-- The loop holds no more than the bound, and returns all that was sent or nothing. -/
lemma receive_spec (limit : ℕ) (chunks : List (List UInt8)) (received : List UInt8)
    (h : received.length ≤ limit) :
    (∀ b ∈ (receive limit received chunks).buffers, b.length ≤ limit) ∧
      (receive limit received chunks).body =
        if received.length + chunks.flatten.length ≤ limit then some (received ++ chunks.flatten)
        else none := by
  induction chunks generalizing received with
  | nil =>
    refine ⟨fun b hb => ?_, ?_⟩
    · obtain rfl := List.mem_singleton.mp hb
      exact h
    · rw [List.flatten_nil, List.append_nil, if_pos (by simpa using h)]
      rfl
  | cons chunk chunks ih =>
    rw [receive, List.flatten_cons, List.length_append]
    by_cases hlarge : limit < received.length + chunk.length
    · rw [if_pos hlarge, if_neg (by omega)]
      refine ⟨fun b hb => ?_, rfl⟩
      obtain rfl := List.mem_singleton.mp hb
      exact h
    · obtain ⟨hbuffers, hbody⟩ := ih (received ++ chunk) (by rw [List.length_append]; omega)
      rw [if_neg hlarge]
      refine ⟨List.forall_mem_cons.mpr ⟨h, hbuffers⟩, ?_⟩
      dsimp only
      rw [hbody, List.length_append, List.append_assoc, Nat.add_assoc]

/-- The body is what was sent, exactly where the declared length and the sent one are within the
bound, and no more than the bound was held of it. -/
structure ReadExactly (declared : Option String) (chunks : List (List UInt8)) (limit : ℕ) (r : Reading) :
    Prop where
  bounded : ∀ b ∈ r.buffers, b.length ≤ limit
  whole : DeclaredWithin declared limit → chunks.flatten.length ≤ limit → r.body = some chunks.flatten
  refused : ¬(DeclaredWithin declared limit ∧ chunks.flatten.length ≤ limit) → r.body = none

lemma read_bounded_spec {declared : Option String} (chunks : List (List UInt8)) (limit : ℕ)
    (h : ¬LengthInconvertible declared) :
    ∃ r, read_bounded declared chunks limit = .ok r ∧ ReadExactly declared chunks limit r := by
  obtain ⟨refused, hrefused, hwithin⟩ := refusesLength_spec limit h
  cases refused with
  | true =>
    have hnot : ¬DeclaredWithin declared limit := fun hw => by cases hwithin.mpr hw
    refine ⟨⟨[], none⟩, ?_, nofun, fun hw => absurd hw hnot, fun _ => rfl⟩
    rw [read_bounded, hrefused]
    rfl
  | false =>
    obtain ⟨hbuffers, hbody⟩ := receive_spec limit chunks [] (Nat.zero_le limit)
    rw [List.nil_append, List.length_nil, Nat.zero_add] at hbody
    refine ⟨receive limit [] chunks, ?_, hbuffers, fun _ hle => ?_, fun hnot => ?_⟩
    · rw [read_bounded, hrefused]
      rfl
    · rw [hbody, if_pos hle]
    · rw [hbody, if_neg fun hle => hnot ⟨hwithin.mp rfl, hle⟩]

lemma read_bounded_of_inconvertible {declared : Option String} (chunks : List (List UInt8)) (limit : ℕ)
    (h : LengthInconvertible declared) : read_bounded declared chunks limit = .error .ValueError := by
  rw [read_bounded, refusesLength_of_inconvertible limit h]
  rfl

/-! ### Reading an object -/

/-- A body the interpreter nests too deeply to read. -/
def TooDeep (nesting : ℕ) (request : Request) : Prop :=
  DeclaredWithin request.contentLength MAX_JSON_BODY ∧ request.chunks.flatten.length ≤ MAX_JSON_BODY ∧
    request.chunks.flatten ≠ [] ∧ ∃ text, request.chunks.flatten.toByteArray.utf8Decode? = some text ∧
      Json.loadsWithin nesting text.toList = .error .RecursionError

/-- The object a body is the text of. -/
def ObjectOf (raw : List UInt8) (entries : List (String × Json)) : Prop :=
  raw = [] ∧ entries = [] ∨
    ∃ text, raw.toByteArray.utf8Decode? = some text ∧ Json.loads text.toList = some (.obj entries)

/-- The object of a body that was sent as JSON within the bound, or something that is wrong. -/
def ReadObject (request : Request) : Except (List FieldError) (List (String × Json)) → Prop
  | .ok entries => mediaType request.contentType = "application/json" ∧
      request.chunks.flatten.length ≤ MAX_JSON_BODY ∧ ObjectOf request.chunks.flatten entries
  | .error problems => problems ≠ []

lemma bodyValue_cases (nesting : ℕ) {raw : List UInt8} (hraw : raw ≠ []) :
    (∃ text, raw.toByteArray.utf8Decode? = some text ∧
      Json.loadsWithin nesting text.toList = .error .RecursionError) ∨
    (∃ text j, raw.toByteArray.utf8Decode? = some text ∧ bodyValue nesting raw = .ok j ∧
      Json.loads text.toList = some j) ∨
    bodyValue nesting raw = .error .ValueError := by
  rw [bodyValue, if_neg hraw]
  cases htext : raw.toByteArray.utf8Decode? with
  | none => exact .inr (.inr rfl)
  | some text =>
    have hbind : (do
        let text ← orRaise .ValueError (some text)
        Json.loadsWithin nesting text.toList) = Json.loadsWithin nesting text.toList := rfl
    rw [hbind]
    rcases Json.loadsWithin_cases nesting text.toList with h | ⟨h, -⟩
    · cases hj : Json.loads text.toList with
      | none =>
        rw [hj] at h
        exact .inr (.inr h)
      | some j =>
        rw [hj] at h
        exact .inr (.inl ⟨text, j, rfl, h, hj⟩)
    · exact .inl ⟨text, rfl, h⟩

/-- A body within the bound is read to an object or to what is wrong with it, unless it is too deep. -/
lemma read_json_object_spec (nesting : ℕ) {request : Request}
    (hmedia : mediaType request.contentType = "application/json")
    (hlength : ¬LengthInconvertible request.contentLength) (hdeep : ¬TooDeep nesting request) :
    ∃ r, read_json_object nesting request = .ok r ∧ ReadObject request r := by
  obtain ⟨r, hr, hexact⟩ := read_bounded_spec request.chunks MAX_JSON_BODY hlength
  rw [read_json_object, if_neg (not_not.mpr hmedia), hr]
  by_cases hwithin : DeclaredWithin request.contentLength MAX_JSON_BODY ∧
      request.chunks.flatten.length ≤ MAX_JSON_BODY
  · have hbody := hexact.whole hwithin.1 hwithin.2
    by_cases hraw : request.chunks.flatten = []
    · refine ⟨.ok [], ?_, hmedia, hwithin.2, .inl ⟨hraw, rfl⟩⟩
      rw [hraw] at hbody
      simp only [bind, Except.bind, hbody, bodyValue, if_true]
      rfl
    · simp only [bind, Except.bind, hbody]
      rcases bodyValue_cases nesting hraw with ⟨text, htext, h⟩ | ⟨text, j, htext, h, hj⟩ | h
      · exact absurd ⟨hwithin.1, hwithin.2, hraw, text, htext, h⟩ hdeep
      · rw [h]
        cases j with
        | obj entries => exact ⟨_, rfl, hmedia, hwithin.2, .inr ⟨text, htext, hj⟩⟩
        | null | bool | int | float | str | arr => exact ⟨_, rfl, List.cons_ne_nil _ _⟩
      · rw [h]
        exact ⟨_, rfl, List.cons_ne_nil _ _⟩
  · have hbody := hexact.refused hwithin
    simp only [bind, Except.bind, hbody]
    exact ⟨_, rfl, List.cons_ne_nil _ _⟩

lemma read_json_object_of_inconvertible (nesting : ℕ) {request : Request}
    (hmedia : mediaType request.contentType = "application/json")
    (h : LengthInconvertible request.contentLength) :
    read_json_object nesting request = .error .ValueError := by
  rw [read_json_object, if_neg (not_not.mpr hmedia), read_bounded_of_inconvertible _ _ h]
  rfl

lemma read_json_object_of_tooDeep {nesting : ℕ} {request : Request}
    (hmedia : mediaType request.contentType = "application/json")
    (hlength : ¬LengthInconvertible request.contentLength) (h : TooDeep nesting request) :
    read_json_object nesting request = .error .RecursionError := by
  obtain ⟨hdeclared, hbound, hraw, text, htext, hdeep⟩ := h
  obtain ⟨r, hr, hexact⟩ := read_bounded_spec request.chunks MAX_JSON_BODY hlength
  have hvalue : bodyValue nesting request.chunks.flatten = .error .RecursionError := by
    rw [bodyValue, if_neg hraw, htext]
    exact hdeep
  rw [read_json_object, if_neg (not_not.mpr hmedia), hr]
  simp only [bind, Except.bind, hexact.whole hdeclared hbound, hvalue]
  rfl

theorem read_json_object_total_iff (nesting : ℕ) (request : Request) :
    (∃ r, read_json_object nesting request = .ok r ∧ ReadObject request r) ↔
      (mediaType request.contentType = "application/json" →
        ¬LengthInconvertible request.contentLength ∧ ¬TooDeep nesting request) := by
  constructor
  · rintro ⟨r, hr, -⟩ hmedia
    have hlength : ¬LengthInconvertible request.contentLength := by
      intro h
      rw [read_json_object_of_inconvertible nesting hmedia h] at hr
      cases hr
    refine ⟨hlength, fun h => ?_⟩
    rw [read_json_object_of_tooDeep hmedia hlength h] at hr
    cases hr
  · intro h
    by_cases hmedia : mediaType request.contentType = "application/json"
    · exact read_json_object_spec nesting hmedia (h hmedia).1 (h hmedia).2
    · rw [read_json_object, if_pos hmedia]
      exact ⟨_, rfl, List.cons_ne_nil _ _⟩

/-! ### Reading a cursor -/

/-- A text has no more characters than its encoding has bytes. -/
lemma length_utf8Decode_le {raw : List UInt8} {text : Array Char}
    (h : raw.toByteArray.utf8Decode? = some text) : text.toList.length ≤ raw.length := by
  have hsome : raw.toByteArray.utf8Decode?.isSome = true := by
    rw [h]
    rfl
  have hbytes : (raw.toByteArray.utf8Decode?.get hsome).toList.utf8Encode = raw.toByteArray :=
    ByteArray.utf8Encode_get_utf8Decode?
  have hget : raw.toByteArray.utf8Decode?.get hsome = text := Option.get_of_eq_some hsome h
  rw [hget, List.utf8Encode] at hbytes
  have hsize : (text.toList.flatMap String.utf8EncodeChar).length = raw.length := by
    have hsizes := congrArg ByteArray.size hbytes
    rwa [List.size_toByteArray, List.size_toByteArray] at hsizes
  rw [← hsize]
  clear h hsome hbytes hget hsize
  induction text.toList with
  | nil => exact le_rfl
  | cons c cs ih =>
    have hpos := c.utf8Size_pos
    rw [List.flatMap_cons, List.length_append, String.length_utf8EncodeChar, List.length_cons]
    omega

/-- The text of a cursor is too short to nest deeply. -/
lemma decodeCursorWithin_eq {nesting : ℕ} (hnesting : 260 ≤ nesting) (value : String) :
    decodeCursorWithin nesting value = (decodeCursor value) := by
  rw [decodeCursorWithin, decodeCursor]
  split_ifs with hlong
  · rfl
  · cases hraw : Base64.decode (value.toList ++ Base64.padding value.toList) with
    | none => rfl
    | some raw =>
      cases htext : raw.toByteArray.utf8Decode? with
      | none => simp only [bind, Except.bind, orRaise, htext]
      | some text =>
        have hpadding : (Base64.padding value.toList).length ≤ 3 := by
          rw [Base64.padding, List.length_replicate]
          omega
        have hshort : text.toList.length < nesting := by
          have hbytes := Base64.length_decode_le hraw
          have hchars := length_utf8Decode_le htext
          rw [List.length_append, String.length_toList] at hbytes
          omega
        have hread : Json.loadsWithin nesting text.toList = orRaise .ValueError (Json.loads text.toList) := by
          rw [Json.loadsWithin_of_short hshort]
          cases Json.loads text.toList <;> rfl
        simp only [bind, Except.bind, orRaise, htext] at hread ⊢
        rw [hread]
        all_goals cases Json.loads text.toList <;> rfl

/-! ### Reading a query -/

/-- The last value of a parameter. -/
def lastValue (key : String) (items : List (String × String)) : Option String :=
  (items.reverse.find? (·.1 == key)).map Prod.snd

lemma lookupParam_collect_eq (key : String) (items : List (String × String))
    (acc : List (String × String) × List FieldError) :
    lookupParam key (collect items acc).1 = (lastValue key items).or (lookupParam key acc.1) := by
  induction items generalizing acc with
  | nil => rfl
  | cons e rest ih =>
    obtain ⟨k, v⟩ := e
    obtain ⟨dict, errors⟩ := acc
    rw [collect, ih, lookupParam_setParam, lastValue, lastValue, List.reverse_cons, List.find?_append]
    cases rest.reverse.find? (·.1 == key) with
    | some e => rfl
    | none =>
      by_cases hk : k = key
      · simp [hk]
      · simp [hk]

/-- The last value of a parameter is the one that counts. -/
lemma sent_eq (items : List (String × String)) (key : String) : sent items key = lastValue key items := by
  rw [sent, lookupParam_collect_eq]
  exact Option.or_none

/-- A value its filter takes. -/
def OfKind : FilterKind → FilterValue → Prop
  | .vocabulary values, .text s => s ∈ values
  | .uuid, .text s => ∃ t, _uuid (.str t) = .ok (some s)
  | .timestamp, .moment _ _ => True
  | _, _ => False

/-- Parameters with a limit of a page and with values of their filters, or something that is wrong. -/
def TypedParams (filters : List (String × FilterKind)) : Except (List FieldError) Params → Prop
  | .ok params => (1 ≤ params.limit ∧ params.limit ≤ PAGE_MAX) ∧
      ∀ v ∈ params.filters, ∃ kind, (v.1, kind) ∈ filters ∧ OfKind kind v.2
  | .error problems => problems ≠ []

lemma ofKind_filterValue {key s : String} {kind : FilterKind} {v : FilterValue}
    (h : filterValue key kind s = .ok (.ok v)) : OfKind kind v := by
  cases kind with
  | vocabulary values =>
    rw [filterValue] at h
    split_ifs at h with hs
    · obtain rfl := Except.ok.inj (Except.ok.inj h)
      exact List.contains_iff_mem.mp hs
    · cases Except.ok.inj h
  | uuid =>
    obtain ⟨id, hid, h1⟩ := bind_ok h
    cases id with
    | none => cases Except.ok.inj h1
    | some id =>
      obtain rfl := Except.ok.inj (Except.ok.inj h1)
      exact ⟨s, hid⟩
  | timestamp =>
    rw [filterValue] at h
    split at h
    · obtain rfl := Except.ok.inj (Except.ok.inj h)
      trivial
    · cases Except.ok.inj h

lemma typed_filters {filters : List (String × FilterKind)} {items : List (String × String)} {params : Params}
    (h : _page_params items filters = .ok (.ok params)) :
    ∀ v ∈ params.filters, ∃ kind, (v.1, kind) ∈ filters ∧ OfKind kind v.2 := by
  obtain ⟨values, -, -, hvalues, -, -, hfilters⟩ := checkParams_ok h
  rw [hfilters]
  intro v hv
  obtain ⟨w, hw, hv⟩ := List.mem_filterMap.mp hv
  obtain ⟨f, hf, hvalue⟩ := (mem_of_mapM_ok hvalues w).mp hw
  obtain ⟨filter, hfilter, htext⟩ := List.mem_filterMap.mp hf
  obtain ⟨text, -, rfl⟩ := Option.map_eq_some_iff.mp htext
  obtain ⟨r, hr, h1⟩ := bind_ok hvalue
  obtain rfl := Except.ok.inj h1
  obtain ⟨value, hvalue, rfl⟩ := Option.map_eq_some_iff.mp hv
  cases r with
  | error e => cases hvalue
  | ok value' =>
    obtain rfl := Option.some.inj hvalue
    exact ⟨filter.2, hfilter, ofKind_filterValue hr⟩

lemma problems_ne_nil {filters : List (String × FilterKind)} {dict : List (String × String)}
    {duplicates problems : List FieldError} (h : checkParams filters dict duplicates = .ok (.error problems)) :
    problems ≠ [] := by
  rw [checkParams] at h
  obtain ⟨limit, -, h1⟩ := bind_ok h
  obtain ⟨cursor, -, h2⟩ := bind_ok h1
  obtain ⟨values, -, h3⟩ := bind_ok h2
  clear h h1 h2
  split at h3
  · cases Except.ok.inj h3
  · rename_i limit cursor _ _ _ _ hnone
    rw [← Except.error.inj (Except.ok.inj h3)]
    intro hnil
    simp only [List.append_eq_nil_iff] at hnil
    obtain ⟨⟨⟨⟨hduplicates, hunknown⟩, hlimit⟩, hcursor⟩, hvalues⟩ := hnil
    cases limit with
    | error e => cases hlimit
    | ok limit =>
      cases cursor with
      | error e => cases hcursor
      | ok cursor => exact hnone limit cursor (by rw [hduplicates, hunknown]; rfl) rfl rfl hvalues

lemma limitParam_total_iff (value : Option String) :
    (∃ r, limitParam value = .ok r) ↔ ∀ s, value = some s → ¬Inconvertible s := by
  cases value with
  | none => exact iff_of_true ⟨_, rfl⟩ nofun
  | some s =>
    rw [limitParam]
    by_cases hs : isDigits s = true
    · have hstripped := stripped_of_isDigits hs
      have hnone := parseInt?_none_iff (s := s) (by rwa [hstripped])
      rw [hstripped] at hnone
      rw [if_pos hs]
      cases hn : PyText.parseInt? s with
      | none =>
        refine iff_of_false ?_ fun h => h s rfl (hnone.mp hn)
        rintro ⟨r, hr⟩
        cases hr
      | some n =>
        refine iff_of_true ⟨_, rfl⟩ fun s' hs' h => ?_
        obtain rfl := Option.some.inj hs'
        rw [hnone.mpr h] at hn
        cases hn
    · rw [if_neg hs]
      refine iff_of_true ⟨_, rfl⟩ fun s' hs' h => ?_
      obtain rfl := Option.some.inj hs'
      exact hs h.1

lemma cursorParam_total (value : Option String) : ∃ r, cursorParam value = .ok r := by
  cases value with
  | none => exact ⟨_, rfl⟩
  | some s =>
    obtain ⟨cursor, hcursor⟩ := _decode_cursor_total s
    rw [cursorParam, hcursor]
    cases cursor <;> exact ⟨_, rfl⟩

theorem _page_params_total_iff (items : List (String × String)) (filters : List (String × FilterKind)) :
    (∃ r, _page_params items filters = .ok r ∧ TypedParams filters r) ↔
      ∀ s, lastValue "limit" items = some s → ¬Inconvertible s := by
  rw [← limitParam_total_iff, ← sent_eq]
  constructor
  · rintro ⟨r, hr, -⟩
    rw [_page_params, checkParams] at hr
    obtain ⟨limit, hlimit, -⟩ := bind_ok hr
    exact ⟨limit, hlimit⟩
  · rintro ⟨limit, hlimit⟩
    obtain ⟨cursor, hcursor⟩ := cursorParam_total (sent items "cursor")
    obtain ⟨values, hvalues⟩ := filterParams_total filters (collect items ([], [])).1
    obtain ⟨r, hr⟩ : ∃ r, _page_params items filters = .ok r := by
      rw [sent] at hlimit hcursor
      rw [_page_params, checkParams, hlimit, hcursor, hvalues]
      simp only [bind, Except.bind]
      split <;> exact ⟨_, rfl⟩
    refine ⟨r, hr, ?_⟩
    cases r with
    | ok params => exact ⟨limit_of_page_params hr, typed_filters hr⟩
    | error problems => exact problems_ne_nil hr

/-! ### Reading a request -/

/-- A body of opening brackets. -/
def brackets (n : ℕ) : List UInt8 := (List.replicate n '[').flatMap String.utf8EncodeChar

lemma length_brackets (n : ℕ) : (brackets n).length = n := by
  induction n with
  | zero => rfl
  | succ n ih =>
    rw [brackets, List.replicate_succ, List.flatMap_cons, List.length_append]
    rw [brackets] at ih
    rw [ih, Nat.add_comm]
    rfl

/-- Brackets beyond the nesting that is admitted fit a body. -/
lemma tooDeep_brackets {nesting n : ℕ} (h : nesting < n) (hn : n ≤ MAX_JSON_BODY) (contentType : Option String) :
    TooDeep nesting ⟨contentType, none, [brackets n]⟩ := by
  have hflatten : [brackets n].flatten = brackets n := List.append_nil _
  have hutf8 : (brackets n).toByteArray.utf8Decode? = some (List.replicate n '[').toArray :=
    List.utf8Decode?_utf8Encode
  have hsplit : List.replicate n '[' = List.replicate (nesting + 1) '[' ++ List.replicate (n - (nesting + 1)) '[' := by
    rw [List.replicate_append_replicate, Nat.add_sub_cancel' h]
  refine ⟨nofun, ?_, ?_, (List.replicate n '[').toArray, ?_, ?_⟩
  · rwa [hflatten, length_brackets]
  · rw [hflatten]
    exact List.ne_nil_of_length_pos (by rw [length_brackets]; omega)
  · rwa [hflatten]
  · rw [List.toList_toArray, hsplit, Json.loadsWithin_brackets]

end TrustLens.Backend.Cases
