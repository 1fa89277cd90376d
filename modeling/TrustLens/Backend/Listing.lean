import Mathlib.Data.Prod.Lex
import Mathlib.Data.String.Basic
import TrustLens.Backend.Cursor
import TrustLens.Lib.Keyset

/-!
# The lists of cases and of evaluations

A page is asked for with a limit, filters and a cursor, and answered from the rows in descending
order of their moment and identifier. Following the cursors, a client sees every row once.
-/

namespace TrustLens.Backend.Cases

open AuditChain (Uuid)
open Keyset (Descending after follow follow_complete page)
open Py (DateTime fromisoformat)

def PAGE_DEFAULT : ℕ := 20

def PAGE_MAX : ℕ := 100

def CASE_STATES : List String := ["OPEN", "UNDER_REVIEW", "CLOSED", "DELETION_PENDING", "DELETED"]

def VIEWER_RELATIONSHIPS : List String := ["OWNER", "ASSIGNED_ANALYST", "BREAK_GLASS"]

/-! ### Parameters -/

structure FieldError where
  field : String
  code : String
  message : String
deriving DecidableEq

inductive FilterKind where
  | vocabulary (values : List String)
  | uuid
  | timestamp
deriving DecidableEq

inductive FilterValue where
  | text (value : String)
  | moment (instant : DateTime) (offset : ℤ)
deriving DecidableEq

/-- What a list is asked for. -/
structure Params where
  limit : ℕ
  cursor : Option Cursor
  filters : List (String × FilterValue)
deriving DecidableEq

def lookupParam (key : String) (params : List (String × String)) : Option String :=
  (params.find? (·.1 == key)).map Prod.snd

/-- `params[key] = value` -/
def setParam (key value : String) : List (String × String) → List (String × String)
  | [] => [(key, value)]
  | (k, v) :: rest => if k = key then (key, value) :: rest else (k, v) :: setParam key value rest

/-- The parameters as a dictionary, with an error for each that is repeated. -/
def collect : List (String × String) → List (String × String) × List FieldError →
    List (String × String) × List FieldError
  | [], acc => acc
  | (key, value) :: rest, (params, errors) =>
    let errors := if (lookupParam key params).isSome then
      errors ++ [⟨key, "DUPLICATE", "Parameter repeated."⟩] else errors
    collect rest (setParam key value params, errors)

/-- Digits to `isdigit` that are no decimal digits. -/
def otherDigits : List (ℕ × ℕ) :=
  [(0xB2, 0xB3), (0xB9, 0xB9), (0x1369, 0x1371), (0x19DA, 0x19DA), (0x2070, 0x2070),
    (0x2074, 0x2079), (0x2080, 0x2089), (0x2460, 0x2468), (0x2474, 0x247C), (0x2488, 0x2490),
    (0x24EA, 0x24EA), (0x24F5, 0x24FD), (0x24FF, 0x24FF), (0x2776, 0x277E), (0x2780, 0x2788),
    (0x278A, 0x2792), (0x10A40, 0x10A43), (0x10E60, 0x10E68), (0x11052, 0x1105A),
    (0x1F100, 0x1F10A)]

/-- `text.isdigit()` -/
def isDigits (s : String) : Bool :=
  !s.toList.isEmpty && s.toList.all fun c =>
    PyText.isDigit c || otherDigits.any fun r => r.1 ≤ c.toNat && c.toNat ≤ r.2

def limitError : FieldError := ⟨"limit", "OUT_OF_RANGE", "limit must be 1..100."⟩

/-- The limit; `int` raises on a digit that is not decimal. -/
def limitParam : Option String → Attempt (Except FieldError ℕ)
  | none => .ok (.ok PAGE_DEFAULT)
  | some s =>
    if isDigits s then do
      let n ← orRaise .ValueError (PyText.parseInt? s)
      return if 1 ≤ n ∧ n ≤ PAGE_MAX then .ok n.toNat else .error limitError
    else .ok (.error limitError)

def cursorError : FieldError := ⟨"cursor", "INVALID", "Cursor is not valid."⟩

def cursorParam : Option String → Attempt (Except FieldError (Option Cursor))
  | none => .ok (.ok none)
  | some s => do
    match ← _decode_cursor s with
    | some cursor => return .ok (some cursor)
    | none => return .error cursorError

/-- `text.replace("Z", "+00:00")` -/
def replaceZulu (s : String) : List Char := s.toList.flatMap fun c => if c = 'Z' then Py.utc else [c]

def filterValue (key : String) (kind : FilterKind) (s : String) : Attempt (Except FieldError FilterValue) :=
  match kind with
  | .vocabulary values =>
    .ok (if values.contains s then .ok (.text s)
      else .error ⟨key, "INVALID_VALUE", "Value is not in the accepted vocabulary."⟩)
  | .uuid => do
    match ← _uuid (.str s) with
    | some id => return .ok (.text id)
    | none => return .error ⟨key, "INVALID_UUID", "Not a UUID."⟩
  | .timestamp =>
    .ok (match fromisoformat (replaceZulu s) with
      | some (instant, some offset) => .ok (.moment instant offset)
      | _ => .error ⟨key, "INVALID_TIMESTAMP", "Use an RFC 3339 timestamp with offset."⟩)

def errorsOf {ε α : Type} : Except ε α → List ε
  | .ok _ => []
  | .error e => [e]

/-- The filters that are given, each with its value or its error. -/
def filterParams (filters : List (String × FilterKind)) (params : List (String × String)) :
    Attempt (List (String × Except FieldError FilterValue)) :=
  (filters.filterMap fun f => (lookupParam f.1 params).map (f.1, f.2, ·)).mapM fun f => do
    return (f.1, ← filterValue f.1 f.2.1 f.2.2)

def unknownParams (filters : List (String × FilterKind)) (params : List (String × String)) :
    List FieldError :=
  (params.filter fun e => (filters.find? (·.1 == e.1)).isNone && e.1 != "limit" &&
    e.1 != "cursor").map fun e => ⟨e.1, "UNKNOWN_PARAMETER", "Parameter is not accepted."⟩

/-- The checks on the dictionary of the parameters. -/
def checkParams (filters : List (String × FilterKind)) (params : List (String × String))
    (duplicates : List FieldError) : Attempt (Except (List FieldError) Params) := do
  let limit ← limitParam (lookupParam "limit" params)
  let cursor ← cursorParam (lookupParam "cursor" params)
  let values ← filterParams filters params
  match duplicates ++ unknownParams filters params, limit, cursor, values.flatMap fun v => errorsOf v.2 with
  | [], .ok limit, .ok cursor, [] =>
    return .ok ⟨limit, cursor, values.filterMap fun v => v.2.toOption.map (v.1, ·)⟩
  | errors, limit, cursor, invalid =>
    return .error (errors ++ errorsOf limit ++ errorsOf cursor ++ invalid)

/-- `_page_params`: the parameters, or what is wrong with them. -/
def _page_params (items : List (String × String)) (filters : List (String × FilterKind)) :
    Attempt (Except (List FieldError) Params) :=
  checkParams filters (collect items ([], [])).1 (collect items ([], [])).2

/-! ### Answers -/

inductive ErrorCode where
  | FORBIDDEN
  | INVALID_REQUEST
  | NOT_FOUND
  | DEPENDENCY_UNAVAILABLE
deriving DecidableEq

/-- `ERRORS` -/
def ErrorCode.status : ErrorCode → ℕ
  | FORBIDDEN => 403
  | INVALID_REQUEST => 400
  | NOT_FOUND => 404
  | DEPENDENCY_UNAVAILABLE => 503

inductive Response (α : Type) where
  | page (items : List α) (limit : ℕ) (nextCursor : Option String)
  | error (code : ErrorCode) (fieldErrors : List FieldError)
deriving DecidableEq

/-- A position in an order of moments and identifiers; the bytes of a `uuid` compare as its text. -/
abbrev Position := ℤ ×ₗ String

def Cursor.position (c : Cursor) : Position := toLex (c.instant.micros - c.offset, c.identifier)

section Answer

variable {α : Type} (key : α → DateTime × Uuid)

def positionOf (row : α) : Position := toLex ((key row).1.micros, (key row).2.val)

/-- `… WHERE … AND (moment, id) < cursor ORDER BY moment DESC, id DESC LIMIT n` -/
def select (conditions : α → Bool) (rows : List α) (cursor : Option Cursor) (n : ℕ) : List α :=
  (after (positionOf key) (rows.filter conditions) (cursor.map Cursor.position)).take n

/-- One row more than the limit was asked for. -/
def answer (limit : ℕ) (rows : List α) : Response α :=
  if limit < rows.length then
    .page (rows.take limit) limit
      ((rows.take limit).getLast?.map fun r => _encode_cursor (key r).1 (key r).2.val)
  else .page rows limit none

end Answer

/-! ### The list of cases -/

/-- A case with the grant it is visible by, as the query joins them. -/
structure CaseRow where
  caseRecordId : Uuid
  lifecycleState : String
  isSynthetic : Bool
  createdAt : DateTime
  closedAt : Option DateTime
  mutationRevision : ℕ
  grantKind : String
  permitsEvidenceContent : Bool
deriving DecidableEq

def CaseRow.key (row : CaseRow) : DateTime × Uuid := (row.createdAt, row.caseRecordId)

def CASE_FILTERS : List (String × FilterKind) :=
  [("state", .vocabulary CASE_STATES), ("created_from", .timestamp), ("created_to", .timestamp),
    ("relationship", .vocabulary VIEWER_RELATIONSHIPS)]

def filterOf (key : String) (params : Params) : Option FilterValue :=
  (params.filters.find? (·.1 == key)).map Prod.snd

/-- A clause holds where its parameter is not given. -/
def clause (key : String) (params : Params) (p : FilterValue → Bool) : Bool :=
  (filterOf key params).all p

def isText (value : String) : FilterValue → Bool
  | .text s => value == s
  | .moment _ _ => false

/-- The moment is related so to the one of the filter. -/
def isMoment (p : ℤ → ℤ → Bool) (value : DateTime) : FilterValue → Bool
  | .text _ => false
  | .moment instant offset => p value.micros (instant.micros - offset)

def caseConditions (params : Params) (row : CaseRow) : Bool :=
  clause "state" params (isText row.lifecycleState) &&
  clause "created_from" params (isMoment (fun a b => b ≤ a) row.createdAt) &&
  clause "created_to" params (isMoment (fun a b => a < b) row.createdAt) &&
  clause "relationship" params (isText row.grantKind)

/-- `_list_cases`, over the rows the database returns, none where it fails. -/
def _list_cases (roles : List String) (rows : Option (List CaseRow)) (params : Params) :
    Response CaseRow :=
  if ∀ role ∈ roles, role ∉ ["USER", "ANALYST"] then .page [] params.limit none
  else
    match rows with
    | none => .error .DEPENDENCY_UNAVAILABLE []
    | some rows => answer CaseRow.key params.limit
        (select CaseRow.key (caseConditions params) rows params.cursor (params.limit + 1))

/-- `list_cases` -/
def list_cases (roles : List String) (rows : Option (List CaseRow)) (items : List (String × String)) :
    Attempt (Response CaseRow) := do
  match ← _page_params items CASE_FILTERS with
  | .error problems => return .error .INVALID_REQUEST problems
  | .ok params => return _list_cases roles rows params

/-! ### The list of evaluations -/

structure EvaluationRow where
  evaluationId : Uuid
  caseRecordId : Uuid
  submissionId : Uuid
  status : String
  requestedAt : DateTime
  /-- a detection result is stored -/
  hasResult : Bool
deriving DecidableEq

def EvaluationRow.key (row : EvaluationRow) : DateTime × Uuid := (row.requestedAt, row.evaluationId)

/-- `API_STATE` -/
def API_STATE : List (String × String) :=
  [("REQUESTED", "QUEUED"), ("RUNNING", "RUNNING"), ("RESULT_COMPUTED_PERSISTENCE_PENDING", "RUNNING"),
    ("COMPLETED", "COMPLETED"), ("FAILED_PRECONDITION", "FAILED"), ("FAILED_INTEGRITY", "FAILED"),
    ("FAILED_INFRASTRUCTURE", "FAILED")]

def LIST_FILTERS : List (String × FilterKind) :=
  [("state", .vocabulary ["QUEUED", "RUNNING", "COMPLETED", "FAILED"]), ("submission_id", .uuid),
    ("requested_from", .timestamp), ("requested_to", .timestamp),
    ("result_availability", .vocabulary ["NOT_YET_AVAILABLE", "AVAILABLE", "NOT_PRODUCED",
      "REMOVED_UNDER_GOVERNANCE"])]

/-- `_AVAILABILITY_SQL` -/
def availability (row : EvaluationRow) : String :=
  if row.status = "COMPLETED" ∧ row.hasResult then "AVAILABLE"
  else if row.status ∈ ["FAILED_PRECONDITION", "FAILED_INTEGRITY", "FAILED_INFRASTRUCTURE"] then
    "NOT_PRODUCED"
  else "NOT_YET_AVAILABLE"

def stateMatches (status : String) : FilterValue → Bool
  | .text s => (API_STATE.filter fun e => e.2 == s).any fun e => e.1 == status
  | .moment _ _ => false

def evaluationConditions (caseId : Uuid) (params : Params) (row : EvaluationRow) : Bool :=
  row.caseRecordId == caseId &&
  clause "state" params (stateMatches row.status) &&
  clause "submission_id" params (isText row.submissionId.val) &&
  clause "requested_from" params (isMoment (fun a b => b ≤ a) row.requestedAt) &&
  clause "requested_to" params (isMoment (fun a b => a ≤ b) row.requestedAt) &&
  clause "result_availability" params (isText (availability row))

/-- `_list_case_evaluations`, with the refusal of `_authorize` where there is one. -/
def _list_case_evaluations (refused : Option ErrorCode) (rows : Option (List EvaluationRow))
    (caseId : Uuid) (params : Params) : Response EvaluationRow :=
  match refused with
  | some code => .error code []
  | none =>
    match rows with
    | none => .error .DEPENDENCY_UNAVAILABLE []
    | some rows => answer EvaluationRow.key params.limit
        (select EvaluationRow.key (evaluationConditions caseId params) rows params.cursor
          (params.limit + 1))

/-- `list_case_evaluations` of a case whose identifier was read. -/
def list_case_evaluations (refused : Option ErrorCode) (rows : Option (List EvaluationRow))
    (caseId : Uuid) (items : List (String × String)) : Attempt (Response EvaluationRow) := do
  match ← _page_params items LIST_FILTERS with
  | .error problems => return .error .INVALID_REQUEST problems
  | .ok params => return _list_case_evaluations refused rows caseId params

/-! ### Asking again with a cursor -/

section Asking

variable {base : List (String × String)} {filters : List (String × FilterKind)} {params : Params}

lemma lookupParam_cons (key value other : String) (rest : List (String × String)) :
    lookupParam other ((key, value) :: rest) = if key = other then some value else lookupParam other rest := by
  by_cases h : key = other <;> simp [lookupParam, h]

lemma lookupParam_setParam (key value : String) (dict : List (String × String)) (other : String) :
    lookupParam other (setParam key value dict) =
      if key = other then some value else lookupParam other dict := by
  induction dict with
  | nil => rw [setParam, lookupParam_cons]
  | cons e rest ih =>
    obtain ⟨k, v⟩ := e
    by_cases hk : k = key
    · rw [setParam, if_pos hk, lookupParam_cons, lookupParam_cons, hk]
      split_ifs <;> rfl
    · rw [setParam, if_neg hk, lookupParam_cons, lookupParam_cons, ih]
      split_ifs with hother hkey
      · exact absurd (hother.trans hkey.symm) hk
      · rfl
      · rfl
      · rfl

lemma lookupParam_collect (h : ∀ e ∈ base, e.1 ≠ "cursor")
    (acc : List (String × String) × List FieldError) (hacc : lookupParam "cursor" acc.1 = none) :
    lookupParam "cursor" (collect base acc).1 = none := by
  induction base generalizing acc with
  | nil => exact hacc
  | cons e rest ih =>
    obtain ⟨key, value⟩ := e
    obtain ⟨dict, errors⟩ := acc
    rw [List.forall_mem_cons] at h
    rw [collect]
    refine ih h.2 _ ?_
    rw [lookupParam_setParam, if_neg h.1]
    exact hacc

lemma collect_append (more : List (String × String)) (acc : List (String × String) × List FieldError) :
    collect (base ++ more) acc = collect more (collect base acc) := by
  induction base generalizing acc with
  | nil => rfl
  | cons e rest ih =>
    obtain ⟨key, value⟩ := e
    obtain ⟨dict, errors⟩ := acc
    rw [List.cons_append, collect, collect, ih]

lemma setParam_new {key : String} (value : String) {dict : List (String × String)}
    (h : lookupParam key dict = none) : setParam key value dict = dict ++ [(key, value)] := by
  induction dict with
  | nil => rfl
  | cons e rest ih =>
    obtain ⟨k, v⟩ := e
    rw [lookupParam_cons] at h
    split_ifs at h with hk
    rw [setParam, if_neg hk, ih h, List.cons_append]

/-- The cursor is one more parameter. -/
lemma collect_cursor (h : ∀ e ∈ base, e.1 ≠ "cursor") (cursor : String) :
    collect (base ++ [("cursor", cursor)]) ([], []) =
      ((collect base ([], [])).1 ++ [("cursor", cursor)], (collect base ([], [])).2) := by
  have hnone : lookupParam "cursor" (collect base ([], [])).1 = none := lookupParam_collect h _ rfl
  rw [collect_append]
  generalize collect base ([], []) = acc at hnone
  obtain ⟨dict, errors⟩ := acc
  rw [collect, collect, setParam_new cursor hnone]
  simp only at hnone
  rw [hnone]
  rfl

lemma lookupParam_append {key : String} (h : key ≠ "cursor") (dict : List (String × String))
    (cursor : String) : lookupParam key (dict ++ [("cursor", cursor)]) = lookupParam key dict := by
  have hnone : [("cursor", cursor)].find? (fun e => e.1 == key) = none := by simp [Ne.symm h]
  rw [lookupParam, List.find?_append, hnone, Option.or_none]
  rfl

/-- What accepted parameters were read from. -/
lemma checkParams_ok {dict : List (String × String)} {duplicates : List FieldError}
    (h : checkParams filters dict duplicates = .ok (.ok params)) : ∃ values,
      limitParam (lookupParam "limit" dict) = .ok (.ok params.limit) ∧
      cursorParam (lookupParam "cursor" dict) = .ok (.ok params.cursor) ∧
      filterParams filters dict = .ok values ∧ duplicates ++ unknownParams filters dict = [] ∧
      (values.flatMap fun v => errorsOf v.2) = [] ∧
      params.filters = values.filterMap fun v => v.2.toOption.map (v.1, ·) := by
  rw [checkParams] at h
  obtain ⟨limit, hlimit, h1⟩ := bind_ok h
  obtain ⟨cursor, hcursor, h2⟩ := bind_ok h1
  obtain ⟨values, hvalues, h3⟩ := bind_ok h2
  clear h h1 h2
  split at h3
  · rename_i hduplicates hinvalid
    obtain rfl := Except.ok.inj (Except.ok.inj h3)
    exact ⟨values, hlimit, hcursor, hvalues, hduplicates, hinvalid, rfl⟩
  · cases Except.ok.inj h3

/-- Under the same parameters, a cursor is all that changes. -/
lemma _page_params_cursor (hfilters : ∀ f ∈ filters, f.1 ≠ "cursor")
    (hbase : ∀ e ∈ base, e.1 ≠ "cursor") (h : _page_params base filters = .ok (.ok params))
    (cursor : String) : params.cursor = none ∧
      _page_params (base ++ [("cursor", cursor)]) filters = (do
        match ← _decode_cursor cursor with
        | some position => return .ok { params with cursor := some position }
        | none => return .error [cursorError]) := by
  have hnone : lookupParam "cursor" (collect base ([], [])).1 = none := lookupParam_collect hbase _ rfl
  rw [_page_params, collect_cursor hbase]
  rw [_page_params] at h
  generalize (collect base ([], [])).1 = dict at hnone h
  generalize (collect base ([], [])).2 = duplicates at h
  have hlookup : lookupParam "cursor" (dict ++ [("cursor", cursor)]) = some cursor := by
    have hdict : dict.find? (fun e => e.1 == "cursor") = none := by
      rwa [lookupParam, Option.map_eq_none_iff] at hnone
    rw [lookupParam, List.find?_append, hdict]
    rfl
  have hunknown : unknownParams filters (dict ++ [("cursor", cursor)]) = unknownParams filters dict := by
    rw [unknownParams, List.filter_append]
    simp [unknownParams]
  have hvalues : filterParams filters (dict ++ [("cursor", cursor)]) = filterParams filters dict := by
    rw [filterParams, filterParams]
    congr 1
    refine List.filterMap_congr fun f hf => ?_
    rw [lookupParam_append (hfilters f hf)]
  rw [checkParams, hlookup, hunknown, hvalues, lookupParam_append (by decide)]
  obtain ⟨values, hlimit, hread, hv, hduplicates, hinvalid, hfilters⟩ := checkParams_ok h
  rw [hnone] at hread
  have hcursor : params.cursor = none := (Except.ok.inj (Except.ok.inj hread)).symm
  refine ⟨hcursor, ?_⟩
  obtain ⟨position, hposition⟩ := _decode_cursor_total cursor
  rw [hlimit, hv, hduplicates, cursorParam, hposition]
  cases position with
  | none =>
    simp only [bind, Except.bind, pure, Except.pure, hinvalid]
    rfl
  | some position => simp only [bind, Except.bind, pure, Except.pure, hinvalid, hfilters]

lemma limit_of_page_params (h : _page_params base filters = .ok (.ok params)) :
    1 ≤ params.limit ∧ params.limit ≤ PAGE_MAX := by
  obtain ⟨values, hlimit, -⟩ := checkParams_ok h
  generalize lookupParam "limit" _ = text at hlimit
  cases text with
  | none =>
    rw [← Except.ok.inj (Except.ok.inj hlimit)]
    decide
  | some s =>
    rw [limitParam] at hlimit
    split_ifs at hlimit
    · obtain ⟨n, -, hn⟩ := bind_ok hlimit
      have hn := Except.ok.inj hn
      split_ifs at hn with hbounds
      rw [← Except.ok.inj hn]
      omega
    · cases Except.ok.inj hlimit

end Asking

/-! ### Following the cursors -/

/-- What a client is told of a page. -/
def Response.shown {α : Type} : Response α → Option (List α × Option String)
  | .page items _ next => some (items, next)
  | .error _ _ => none

/-- The same parameters, with a cursor where there is one. -/
def withCursor (base : List (String × String)) (cursor : Option String) : List (String × String) :=
  base ++ (cursor.map fun c => ("cursor", c)).toList

/-- A client that asks with the same parameters and the cursor it was given. -/
def client {α : Type} (list : List (String × String) → Attempt (Response α))
    (base : List (String × String)) (cursor : Option String) : Option (List α × Option String) :=
  (list (withCursor base cursor)).toOption.bind Response.shown

/-- The rows of a list, each once, in descending order. -/
def Complete {α : Type} (key : α → DateTime × Uuid) (limit : ℕ) (rows : List α)
    (pages : List (List α)) : Prop :=
  pages.flatten.Perm rows ∧ Descending (positionOf key) pages.flatten ∧
    ∀ items ∈ pages, items.length ≤ limit

section Following

variable {α : Type} {key : α → DateTime × Uuid} {list : List (String × String) → Attempt (Response α)}
  {filters : List (String × FilterKind)} {conditions : Params → α → Bool} {rows : List α}
  {base : List (String × String)} {params : Params}

/-- A list that answers accepted parameters from the rows. -/
def Answers (list : List (String × String) → Attempt (Response α)) (filters : List (String × FilterKind))
    (key : α → DateTime × Uuid) (conditions : Params → α → Bool) (rows : List α) : Prop :=
  ∀ items, list items = (do
    match ← _page_params items filters with
    | .error problems => return .error .INVALID_REQUEST problems
    | .ok params =>
      return answer key params.limit
        (select key (conditions params) rows params.cursor (params.limit + 1)))

/-- The cursor a row is named by. -/
def cursorOf (key : α → DateTime × Uuid) (row : α) : String := _encode_cursor (key row).1 (key row).2.val

lemma shown_answer (key : α → DateTime × Uuid) (limit : ℕ) (rows : List α) (cursor : Option Cursor) (conditions : α → Bool) :
    (answer key limit (select key conditions rows cursor (limit + 1))).shown =
      some ((page (positionOf key) limit (rows.filter conditions)
        (cursor.map Cursor.position)).map id (Option.map (cursorOf key))) := by
  rw [answer, page, select]
  split_ifs with hmore
  · rfl
  · rfl

/-- Asked without a cursor, the first page is shown. -/
lemma client_none (hlist : Answers list filters key conditions rows)
    (hbase : _page_params base filters = .ok (.ok params)) (hcursor : params.cursor = none) :
    client list base none = some ((page (positionOf key) params.limit
      (rows.filter (conditions params)) none).map id (Option.map (cursorOf key))) := by
  have hplain : withCursor base none = base := List.append_nil base
  have h := shown_answer key params.limit rows params.cursor (conditions params)
  rw [hcursor, Option.map_none] at h
  rw [client, hplain, hlist, hbase, ← h, ← hcursor]
  rfl

/-- Asked with the cursor of a row, the page after the row is shown. -/
lemma client_some (hlist : Answers list filters key conditions rows)
    (hconditions : ∀ params cursor, conditions { params with cursor := cursor } = conditions params)
    (hfilters : ∀ f ∈ filters, f.1 ≠ "cursor") (hplain : ∀ e ∈ base, e.1 ≠ "cursor")
    (hbase : _page_params base filters = .ok (.ok params)) (row : α) :
    client list base (some (cursorOf key row)) = some ((page (positionOf key) params.limit
      (rows.filter (conditions params)) (some (positionOf key row))).map id
        (Option.map (cursorOf key))) := by
  have hasked := (_page_params_cursor hfilters hplain hbase (cursorOf key row)).2
  rw [cursorOf, _decode_cursor_encode] at hasked
  have hposition : Cursor.position ⟨(key row).1, 0, (key row).2.val⟩ = positionOf key row := by
    rw [Cursor.position, positionOf, Int.sub_zero]
  have h := shown_answer key params.limit rows
    (some ⟨(key row).1, 0, (key row).2.val⟩) (conditions params)
  rw [Option.map_some, hposition] at h
  rw [client, hlist, withCursor, Option.map_some, Option.toList_some, cursorOf, hasked]
  rw [← h, ← hconditions params (some ⟨(key row).1, 0, (key row).2.val⟩)]
  rfl

lemma nodup_positions (h : (rows.map fun r => (key r).2).Nodup) (p : α → Bool) :
    ((rows.filter p).map (positionOf key)).Nodup := by
  refine List.Nodup.sublist (List.filter_sublist.map _) ?_
  refine List.Nodup.of_map (fun position => (ofLex position).2) ?_
  rw [List.map_map]
  have hvals := h.map Subtype.val_injective
  rwa [List.map_map] at hvals

/-- A client sees every row that meets the conditions. -/
lemma client_complete (hlist : Answers list filters key conditions rows)
    (hconditions : ∀ params cursor, conditions { params with cursor := cursor } = conditions params)
    (hfilters : ∀ f ∈ filters, f.1 ≠ "cursor") (hids : (rows.map fun r => (key r).2).Nodup)
    (hplain : ∀ e ∈ base, e.1 ≠ "cursor") (hbase : _page_params base filters = .ok (.ok params))
    {fuel : ℕ} (hfuel : rows.length < fuel) :
    ∃ pages, Keyset.follow (client list base) fuel none = some pages ∧
      Complete key params.limit (rows.filter (conditions params)) pages := by
  have hcursor := (_page_params_cursor hfilters hplain hbase "").1
  obtain ⟨pages, hpages, hcomplete⟩ := follow_complete
    (nodup_positions hids (conditions params)) (limit_of_page_params hbase).1
    (client_none hlist hbase hcursor)
    (fun r _ => client_some hlist hconditions hfilters hplain hbase r)
    (Nat.lt_of_le_of_lt (List.length_filter_le _ _) hfuel)
  exact ⟨pages, hpages, hcomplete⟩

end Following

/-! ### A cursor that was not given -/

section Malformed

variable {items : List (String × String)}

lemma filterParams_total (filters : List (String × FilterKind)) (params : List (String × String)) :
    ∃ values, filterParams filters params = .ok values := by
  refine mapM_total fun f _ => ?_
  obtain ⟨name, kind, text⟩ := f
  cases kind with
  | vocabulary values => exact ⟨_, rfl⟩
  | timestamp => exact ⟨_, rfl⟩
  | uuid =>
    obtain ⟨r, hr⟩ := _uuid_total (.str text)
    cases r <;> exact ⟨_, by simp only [filterValue, hr, bind, Except.bind]; rfl⟩

/-- The parameters that were sent, each with its last value. -/
def sent (items : List (String × String)) (key : String) : Option String :=
  lookupParam key (collect items ([], [])).1

/-- A malformed cursor is among what is wrong with the parameters. -/
lemma _page_params_malformed (filters : List (String × FilterKind)) {limit : Except FieldError ℕ} {cursor : String}
    (hlimit : limitParam (sent items "limit") = .ok limit)
    (hcursor : sent items "cursor" = some cursor) (hmalformed : _decode_cursor cursor = .ok none) :
    ∃ problems, cursorError ∈ problems ∧ _page_params items filters = .ok (.error problems) := by
  obtain ⟨values, hvalues⟩ := filterParams_total filters (collect items ([], [])).1
  have hread : cursorParam (sent items "cursor") = .ok (.error cursorError) := by
    rw [hcursor, cursorParam, hmalformed]
    rfl
  rw [sent] at hlimit hread
  refine ⟨(collect items ([], [])).2 ++ unknownParams filters (collect items ([], [])).1 ++
    errorsOf limit ++ [cursorError] ++ values.flatMap fun v => errorsOf v.2, ?_, ?_⟩
  · exact List.mem_append_left _ (List.mem_append_right _ (List.mem_singleton_self _))
  · rw [_page_params, checkParams, hlimit, hread, hvalues]
    simp only [bind, Except.bind, pure, Except.pure]
    split
    · rename_i h _
      cases h
    · rfl

end Malformed

/-- The cases the principal sees. -/
def visibleCases (roles : List String) (rows : List CaseRow) : List CaseRow :=
  if ∀ role ∈ roles, role ∉ ["USER", "ANALYST"] then [] else rows

lemma answers_list_cases (roles : List String) (rows : List CaseRow) :
    Answers (list_cases roles (some rows)) CASE_FILTERS CaseRow.key caseConditions
      (visibleCases roles rows) := by
  intro items
  rw [list_cases]
  congr 1
  funext checked
  cases checked with
  | error problems => rfl
  | ok params =>
    simp only [_list_cases, visibleCases]
    split_ifs <;> rfl

lemma answers_list_case_evaluations (rows : List EvaluationRow) (caseId : Uuid) :
    Answers (list_case_evaluations none (some rows) caseId) LIST_FILTERS EvaluationRow.key
      (evaluationConditions caseId) rows :=
  fun _ => rfl

/-- Every limit a page may have is accepted. -/
lemma _page_params_limit : ∀ n ∈ List.range' 1 PAGE_MAX,
    _page_params [("limit", toString n)] CASE_FILTERS = .ok (.ok ⟨n, none, []⟩) ∧
      _page_params [("limit", toString n)] LIST_FILTERS = .ok (.ok ⟨n, none, []⟩) := by
  decide +kernel

/-! ### The lists -/

/-- Asked with any accepted parameters and then with the cursors it returns, a list ends, and has
yielded every row that meets the filters once, in descending order. -/
def ListsEvery {α : Type} (list : List (String × String) → Attempt (Response α))
    (filters : List (String × FilterKind)) (key : α → DateTime × Uuid)
    (conditions : Params → α → Bool) (rows : List α) : Prop :=
  ∀ base params fuel, (∀ e ∈ base, e.1 ≠ "cursor") → _page_params base filters = .ok (.ok params) →
    rows.length < fuel → ∃ pages, Keyset.follow (client list base) fuel none = some pages ∧
      Complete key params.limit (rows.filter (conditions params)) pages

/-- A malformed cursor is answered as the mistake of the client. -/
def RejectsMalformed {α : Type} (list : List (String × String) → Attempt (Response α)) : Prop :=
  ∀ items cursor limit, limitParam (sent items "limit") = .ok limit →
    sent items "cursor" = some cursor → _decode_cursor cursor = .ok none →
      ∃ problems, cursorError ∈ problems ∧ list items = .ok (.error .INVALID_REQUEST problems)

lemma client_lists_every {α : Type} {key : α → DateTime × Uuid}
    {list : List (String × String) → Attempt (Response α)} {filters : List (String × FilterKind)}
    {conditions : Params → α → Bool} {rows : List α} (hlist : Answers list filters key conditions rows)
    (hconditions : ∀ params cursor, conditions { params with cursor := cursor } = conditions params)
    (hfilters : ∀ f ∈ filters, f.1 ≠ "cursor") (hids : (rows.map fun r => (key r).2).Nodup) :
    ListsEvery list filters key conditions rows :=
  fun _ _ _ hplain hbase hfuel => client_complete hlist hconditions hfilters hids hplain hbase hfuel

/-- Both lists yield every row once and in order, whatever the moments of the rows; a cursor is
decoded to the key it was made of; and any other text is refused as a mistake of the client. -/
theorem lists_complete (roles : List String) (cases : List CaseRow)
    (hcases : (cases.map CaseRow.caseRecordId).Nodup) (evaluations : List EvaluationRow)
    (hevaluations : (evaluations.map EvaluationRow.evaluationId).Nodup) (caseId : Uuid) :
    ListsEvery (list_cases roles (some cases)) CASE_FILTERS CaseRow.key caseConditions
      (visibleCases roles cases) ∧
    ListsEvery (list_case_evaluations none (some evaluations) caseId) LIST_FILTERS EvaluationRow.key
      (evaluationConditions caseId) evaluations ∧
    (∀ n, 1 ≤ n → n ≤ PAGE_MAX →
      _page_params [("limit", toString n)] CASE_FILTERS = .ok (.ok ⟨n, none, []⟩) ∧
      _page_params [("limit", toString n)] LIST_FILTERS = .ok (.ok ⟨n, none, []⟩)) ∧
    (∀ instant (u : Uuid),
      _decode_cursor (_encode_cursor instant u.val) = .ok (some ⟨instant, 0, u.val⟩)) ∧
    (∀ value, ∃ decoded, _decode_cursor value = .ok decoded) ∧
    (∀ rows, RejectsMalformed (list_cases roles rows)) ∧
    (∀ refused rows, RejectsMalformed (list_case_evaluations refused rows caseId)) ∧
    ErrorCode.status .INVALID_REQUEST = 400 := by
  have hvisible : ((visibleCases roles cases).map fun r => (CaseRow.key r).2).Nodup := by
    rw [visibleCases]
    split_ifs
    · exact List.nodup_nil
    · exact hcases
  refine ⟨?_, ?_, ?_, _decode_cursor_encode, _decode_cursor_total, ?_, ?_, rfl⟩
  · exact client_lists_every (answers_list_cases roles cases) (fun _ _ => rfl) (by decide) hvisible
  · exact client_lists_every (answers_list_case_evaluations evaluations caseId) (fun _ _ => rfl)
      (by decide) hevaluations
  · intro n hlow hhigh
    exact _page_params_limit n (List.mem_range'_1.mpr ⟨hlow, by omega⟩)
  · intro rows items cursor limit hlimit hcursor hmalformed
    obtain ⟨problems, hmem, hproblems⟩ :=
      _page_params_malformed CASE_FILTERS hlimit hcursor hmalformed
    exact ⟨problems, hmem, by rw [list_cases, hproblems]; rfl⟩
  · intro refused rows items cursor limit hlimit hcursor hmalformed
    obtain ⟨problems, hmem, hproblems⟩ :=
      _page_params_malformed LIST_FILTERS hlimit hcursor hmalformed
    exact ⟨problems, hmem, by rw [list_case_evaluations, hproblems]; rfl⟩

/-- Three cases of one moment and an evaluation. -/
def sampleMoment : DateTime :=
  ⟨2026, 8, 1, 9, 30, 0, 1500, by decide, by decide, by decide, by decide⟩

def sampleCases : List CaseRow :=
  [⟨⟨"11111111-1111-4111-8111-111111111111", by decide⟩, "OPEN", true, sampleMoment, none, 1, "OWNER", true⟩,
    ⟨⟨"33333333-3333-4333-8333-333333333333", by decide⟩, "OPEN", true, sampleMoment, none, 1, "OWNER", true⟩,
    ⟨⟨"22222222-2222-4222-8222-222222222222", by decide⟩, "OPEN", true, sampleMoment, none, 1, "OWNER", true⟩]

theorem lists_complete_sample :
    (∃ pages, Keyset.follow (client (list_cases ["USER"] (some sampleCases)) [("limit", "2")]) 4 none =
        some pages ∧ Complete CaseRow.key 2 sampleCases pages) ∧
      RejectsMalformed (list_cases ["USER"] (some sampleCases)) := by
  obtain ⟨hlists, -, hlimits, -, -, hrejects, -⟩ :=
    lists_complete ["USER"] sampleCases (by decide) [] (by decide)
      ⟨"11111111-1111-4111-8111-111111111111", by decide⟩
  refine ⟨?_, hrejects _⟩
  obtain ⟨pages, hpages, hcomplete⟩ := hlists [("limit", "2")] ⟨2, none, []⟩ 4 (by decide)
    (hlimits 2 (by decide) (by decide)).1 (by decide)
  exact ⟨pages, hpages, hcomplete⟩

end TrustLens.Backend.Cases
