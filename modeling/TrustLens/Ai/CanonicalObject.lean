import TrustLens.Ai.ReplaySnapshot
import TrustLens.Lib.JsonRoundTrip
import TrustLens.Lib.PyString
import Mathlib.Logic.Relation

/-!
# Canonical JSON of Python objects

`canonical_json` as it meets its argument: objects that refer to one another, of any class, some
of them cyclic. What it accepts is what denotes a finite JSON document.
-/

namespace TrustLens.Ai

open Json

/-- An object, its parts by their addresses. -/
inductive PyObject (Address : Type) where
  | None
  | bool (b : Bool)
  | int (n : ℤ)
  | float (x : PyFloat)
  | str (cs : PyStr)
  | dict (entries : List (Address × Address))
  | mappingProxy (entries : List (Address × Address))
  | list (items : List Address)
  | tuple (items : List Address)
  /-- an object of any other type, a subclass of one of these among them -/
  | other

namespace PyObject

variable {Address : Type}

/-- `type(value) is str` -/
def isStr : PyObject Address → Bool
  | str _ => true
  | _ => false

/-- The entries of a mapping of one of the two types. -/
def entries? : PyObject Address → Option (List (Address × Address))
  | dict es | mappingProxy es => some es
  | _ => none

/-- The elements of an array of one of the two types. -/
def items? : PyObject Address → Option (List Address)
  | list items | tuple items => some items
  | _ => none

end PyObject

/-- The objects of a program: floats are doubles, and a mapping has no two equal keys. -/
structure Heap (Address : Type) where
  object : Address → PyObject Address
  double : ∀ a x, object a = .float x → x.IsDouble
  distinct : ∀ a es, (object a).entries? = some es →
    es.Pairwise fun e e' => ∀ cs, object e.1 = .str cs → object e'.1 ≠ .str cs

variable {Address : Type}

/-- `[_json_copy(v, depth + 1, budget) for v in value]` -/
def copyEach (copy : Address → ℕ → Run (Json × ℕ)) : List Address → ℕ → Run (List Json × ℕ)
  | [], budget => .ok ([], budget)
  | a :: rest, budget => do
    let (j, left) ← copy a budget
    let (js, left) ← copyEach copy rest left
    .ok (j :: js, left)

/-- `{_json_copy(k, …): _json_copy(v, …) for k, v in value.items()}`, whose keys are distinct. -/
def copyEntries (copy : Address → ℕ → Run (Json × ℕ)) :
    List (Address × Address) → ℕ → Run (List (String × Json) × ℕ)
  | [], budget => .ok ([], budget)
  | (k, v) :: rest, budget => do
    let (key, left) ← copy k budget
    let (j, left) ← copy v left
    let (es, left) ← copyEntries copy rest left
    match key with
    | .str s => .ok ((s, j) :: es, left)
    | _ => provenanceInvalid

/-- `json.dumps(…, allow_nan=False)` of a copy; a long integer raises `ValueError`. -/
def jsonDumps (value : Json) : Run String :=
  if writable value then .ok (dumps PyFloat.repr value) else .error (.escaped .ValueError)

/-- `except (ValueError, TypeError, RecursionError): raise AIProvenanceInvalidError()` -/
def caught {α : Type} : Run α → Run α
  | .error (.escaped .ValueError) | .error (.escaped .TypeError)
  | .error (.escaped .RecursionError) => provenanceInvalid
  | x => x

namespace Heap

variable (heap : Heap Address)

/-- `_json_copy` with the levels that are left to go down, `33 - depth`: the copy and what it
leaves of the budget. -/
def _json_copy : ℕ → Address → ℕ → Run (Json × ℕ)
  | 0, _, _ => provenanceInvalid
  | room + 1, a, budget =>
    if budget = 0 then provenanceInvalid
    else match heap.object a with
      | .None => .ok (.null, budget - 1)
      | .bool b => .ok (.bool b, budget - 1)
      | .int n => .ok (.int n, budget - 1)
      | .float x => if x.isFinite then .ok (.float x, budget - 1) else provenanceInvalid
      | .str cs =>
        match encode cs with
        | none => provenanceInvalid
        | some s =>
          if MAX_CANONICAL_BYTES < s.utf8ByteSize then provenanceInvalid
          else .ok (.str s, budget - 1)
      | .dict es | .mappingProxy es =>
        if es.any fun e => !(heap.object e.1).isStr then provenanceInvalid
        else do
          let (copy, left) ← copyEntries (_json_copy room) es (budget - 1)
          .ok (.obj copy, left)
      | .list items | .tuple items => do
        let (copy, left) ← copyEach (_json_copy room) items (budget - 1)
        .ok (.arr copy, left)
      | .other => provenanceInvalid

def canonical_json (a : Address) : Run String := caught do
  let (copy, _) ← heap._json_copy (MAX_DEPTH + 1) a NODE_BUDGET
  let result ← jsonDumps copy
  if MAX_CANONICAL_BYTES < result.utf8ByteSize then provenanceInvalid
  .ok result

/-- `hashlib.sha256(canonical_json(value).encode("utf-8")).hexdigest()` -/
def canonical_digest (sha256 : String → String) (a : Address) : Run String := do
  let text ← heap.canonical_json a
  .ok (sha256 text)

/-! ### What an object denotes -/

mutual
/-- The object is the finite document, up to the types of its arrays and mappings. -/
def Denotes : Json → Address → Prop
  | .null, a => heap.object a = .None
  | .bool b, a => heap.object a = .bool b
  | .int n, a => heap.object a = .int n
  | .float x, a => heap.object a = .float x ∧ x.isFinite = true
  | .str s, a => ∃ cs, heap.object a = .str cs ∧ encode cs = some s
  | .arr js, a => ∃ items, (heap.object a).items? = some items ∧ DenoteItems js items
  | .obj es, a => ∃ entries, (heap.object a).entries? = some entries ∧ DenoteEntries es entries

def DenoteItems : List Json → List Address → Prop
  | [], [] => True
  | j :: js, a :: items => Denotes j a ∧ DenoteItems js items
  | _, _ => False

def DenoteEntries : List (String × Json) → List (Address × Address) → Prop
  | [], [] => True
  | (s, j) :: es, (k, v) :: entries =>
    (∃ cs, heap.object k = .str cs ∧ encode cs = some s) ∧ Denotes j v ∧ DenoteEntries es entries
  | _, _ => False
end

end Heap

end TrustLens.Ai
