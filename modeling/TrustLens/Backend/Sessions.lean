import TrustLens.Lib.OrderedDict
import Mathlib.Data.Rat.Defs
import Mathlib.Algebra.Order.Ring.Unbundled.Rat

/-!
# Sign-in transactions and browser sessions

Both stores keep their items under the digest of an opaque value that only the browser holds. What
has expired is swept out by some of the operations only.
-/

namespace TrustLens.Backend.Sessions

def MAX_TOKEN_LENGTH : ℕ := 128

/-- `_TOKEN_ALPHABET` -/
def isTokenChar (c : Char) : Bool := c.isAlphanum || c == '-' || c == '_'

/-- `is_token` of a string. -/
def isToken (value : String) : Bool :=
  0 < value.length && value.length ≤ MAX_TOKEN_LENGTH && value.toList.all isTokenChar

/-- `is_token` of a value that may be missing. -/
def isTokenOpt (value : Option String) : Bool := value.any isToken

variable (digest : String → String)

/-! ### Transactions -/

structure Transaction where
  state : String
  nonce : String
  code_verifier : String
  browser_binding : String
  created : ℚ
deriving DecidableEq

/-- The transactions by the digest of their state; the order of the entries is never read. -/
abbrev Transactions := OrderedDict String Transaction

/-- The bounds of a `TransactionStore`. -/
structure TransactionLimits where
  lifetime : ℤ
  capacity : ℕ

/-- The values drawn for one sign-in. -/
structure Fresh where
  binding : String
  state : String
  nonce : String
  code_verifier : String

def sweep (limits : TransactionLimits) (now : ℚ) (items : Transactions) : Transactions :=
  items.filter fun e => now - e.2.created < limits.lifetime

/-- `begin`, none where the store is full. -/
def begin (limits : TransactionLimits) (fresh : Fresh) (now : ℚ) (items : Transactions) :
    Option (Transaction × String) × Transactions :=
  let items := sweep limits now items
  if limits.capacity ≤ items.entries.length then (none, items)
  else
    let tx : Transaction :=
      ⟨fresh.state, fresh.nonce, fresh.code_verifier, digest fresh.binding, now⟩
    (some (tx, fresh.binding), items.insertLast (digest tx.state) tx)

/-- `consume` -/
def consume (limits : TransactionLimits) (state : String) (binding : Option String) (now : ℚ)
    (items : Transactions) : Option Transaction × Transactions :=
  if isToken state = true ∧ isTokenOpt binding = true then
    let found := items.get? (digest state)
    let items := sweep limits now (items.erase (digest state))
    (found.filter fun tx => decide (now - tx.created < limits.lifetime) &&
      decide (tx.browser_binding = digest (binding.getD "")), items)
  else (none, items)

inductive TransactionOp where
  | begin (fresh : Fresh)
  | consume (state : String) (binding : Option String)

/-- The store after an operation at an instant. -/
def TransactionOp.run (limits : TransactionLimits) (items : Transactions) (op : ℚ × TransactionOp) :
    Transactions :=
  match op.2 with
  | .begin fresh => (Sessions.begin digest limits fresh op.1 items).2
  | .consume state binding => (Sessions.consume digest limits state binding op.1 items).2

def transactionsAfter (limits : TransactionLimits) (ops : List (ℚ × TransactionOp)) : Transactions :=
  ops.foldl (TransactionOp.run digest limits) .empty

/-! ### Sessions -/

structure Session where
  principal_reference_id : String
  csrf_token : String
  created : ℚ
  last_seen : ℚ
  id_token : String
  refresh_token : Option String
deriving DecidableEq

abbrev SessionItems := OrderedDict String Session

/-- The bounds of a `SessionStore`. -/
structure SessionLimits where
  idle : ℤ
  absolute : ℤ
  capacity : ℕ

def expired (limits : SessionLimits) (s : Session) (now : ℚ) : Bool :=
  limits.idle ≤ now - s.last_seen || limits.absolute ≤ now - s.created

def sweepSessions (limits : SessionLimits) (now : ℚ) (items : SessionItems) : SessionItems :=
  items.filter fun e => !expired limits e.2 now

/-- What a sign-in hands to `create`, with the two values drawn for it. -/
structure NewSession where
  principal_reference_id : String
  id_token : String
  refresh_token : Option String
  replaces : Option String
  session_id : String
  csrf_token : String

/-- `create`, none where the store is full. -/
def create (limits : SessionLimits) (new : NewSession) (now : ℚ) (items : SessionItems) :
    Option String × SessionItems :=
  let items := match new.replaces with
    | some replaced => if replaced = "" then items else items.erase (digest replaced)
    | none => items
  let items := sweepSessions limits now items
  if limits.capacity ≤ items.entries.length then (none, items)
  else
    (some new.session_id, items.insertLast (digest new.session_id)
      ⟨new.principal_reference_id, new.csrf_token, now, now, new.id_token, new.refresh_token⟩)

/-- `get`, which keeps the session awake. -/
def get (limits : SessionLimits) (session_id : Option String) (now : ℚ) (items : SessionItems) :
    Option Session × SessionItems :=
  if isTokenOpt session_id = true then
    let key := digest (session_id.getD "")
    match items.get? key with
    | none => (none, items)
    | some s =>
      if expired limits s now then (none, items.erase key)
      else (some { s with last_seen := now }, items.modify key fun s => { s with last_seen := now })
  else (none, items)

def invalidate (session_id : Option String) (items : SessionItems) : Option Session × SessionItems :=
  if isTokenOpt session_id = true then
    (items.get? (digest (session_id.getD "")), items.erase (digest (session_id.getD "")))
  else (none, items)

/-- `invalidate_principal`, which counts the sessions it ends. -/
def invalidate_principal (principal_reference_id : String) (items : SessionItems) :
    ℕ × SessionItems :=
  (items.entries.countP fun e => e.2.principal_reference_id = principal_reference_id,
    items.filter fun e => e.2.principal_reference_id ≠ principal_reference_id)

inductive SessionOp where
  | create (new : NewSession)
  | get (session_id : Option String)
  | invalidate (session_id : Option String)
  | invalidate_principal (principal_reference_id : String)

/-- The store after an operation at an instant. -/
def SessionOp.run (limits : SessionLimits) (items : SessionItems) (op : ℚ × SessionOp) :
    SessionItems :=
  match op.2 with
  | .create new => (Sessions.create digest limits new op.1 items).2
  | .get session_id => (Sessions.get digest limits session_id op.1 items).2
  | .invalidate session_id => (Sessions.invalidate digest session_id items).2
  | .invalidate_principal principal => (Sessions.invalidate_principal principal items).2

def sessionsAfter (limits : SessionLimits) (ops : List (ℚ × SessionOp)) : SessionItems :=
  ops.foldl (SessionOp.run digest limits) .empty

end TrustLens.Backend.Sessions
