import TrustLens.Lib.Json
import TrustLens.Lib.ThreeValued

/-!
# The Kleene connectives of the rule evaluator

The connectives consume a lazy stream of operand values, and evaluating an
operand may raise. Conjunction and disjunction stop at the value that decides
them, so an operand behind it is never evaluated.
-/

namespace TrustLens.Runtime

/-- The texts of `EvaluatorError`. -/
inductive EvaluatorError where
  /-- condition node is neither an indicator id nor an operator object -/
  | notACondition (cond : Json)
  /-- unknown condition operator(s) (expected all_of/any_of/n_of) -/
  | unknownOperators (ops : List String)
  /-- rule: 'language_scope' must be an object -/
  | scopeNotObject (ruleId : String)
  /-- rule: 'logic' must be an object -/
  | logicNotObject (ruleId : String)
deriving DecidableEq

/-- What evaluation can raise. -/
inductive Fault where
  | evaluatorError (e : EvaluatorError)
  | keyError (key : String)
  | valueError (text : String)
  | typeError (text : String)
  | overflowError (text : String)
deriving DecidableEq

/-- Caught by the isolation of one rule: `EvaluatorError` and `_PER_RULE_FAULTS`. -/
def Fault.perRule : Fault → Bool
  | .overflowError _ => false
  | _ => true

namespace Kleene

/-- `all_of` from the point where `seenUnknown` records the operands read so far. -/
def allOfFrom (seenUnknown : Bool) : List (Except Fault Truth) → Except Fault Truth
  | [] => .ok (if seenUnknown then .UNKNOWN else .TRUE)
  | .error e :: _ => .error e
  | .ok .FALSE :: _ => .ok .FALSE
  | .ok .UNKNOWN :: values => allOfFrom true values
  | .ok .TRUE :: values => allOfFrom seenUnknown values

def allOf (values : List (Except Fault Truth)) : Except Fault Truth :=
  allOfFrom false values

def anyOfFrom (seenUnknown : Bool) : List (Except Fault Truth) → Except Fault Truth
  | [] => .ok (if seenUnknown then .UNKNOWN else .FALSE)
  | .error e :: _ => .error e
  | .ok .TRUE :: _ => .ok .TRUE
  | .ok .UNKNOWN :: values => anyOfFrom true values
  | .ok .FALSE :: values => anyOfFrom seenUnknown values

def anyOf (values : List (Except Fault Truth)) : Except Fault Truth :=
  anyOfFrom false values

/-- The counting loop of `n_of`. -/
def tally (t u : ℤ) : List Truth → ℤ × ℤ
  | [] => (t, u)
  | .TRUE :: values => tally (t + 1) u values
  | .UNKNOWN :: values => tally t (u + 1) values
  | .FALSE :: values => tally t u values

def nOf (n : ℤ) (values : List Truth) : Except Fault Truth :=
  if n < 1 then .error (.valueError "n_of requires n >= 1")
  else
    let counts := tally 0 0 values
    if n ≤ counts.1 then .ok .TRUE
    else if counts.1 + counts.2 < n then .ok .FALSE
    else .ok .UNKNOWN

lemma allOfFrom_ok (seen : Bool) (ts : List Truth) :
    allOfFrom seen (ts.map .ok) =
      .ok (if .FALSE ∈ ts then .FALSE
        else if seen = true ∨ .UNKNOWN ∈ ts then .UNKNOWN else .TRUE) := by
  induction ts generalizing seen with
  | nil => simp [allOfFrom]
  | cons t ts ih => cases t <;> simp [allOfFrom, ih]

/-- On a stream without faults the loop computes the Kleene conjunction. -/
theorem allOf_ok (ts : List Truth) : allOf (ts.map .ok) = .ok (Truth.all ts) := by
  rw [allOf, allOfFrom_ok, Truth.all]
  simp

lemma anyOfFrom_ok (seen : Bool) (ts : List Truth) :
    anyOfFrom seen (ts.map .ok) =
      .ok (if .TRUE ∈ ts then .TRUE
        else if seen = true ∨ .UNKNOWN ∈ ts then .UNKNOWN else .FALSE) := by
  induction ts generalizing seen with
  | nil => simp [anyOfFrom]
  | cons t ts ih => cases t <;> simp [anyOfFrom, ih]

/-- On a stream without faults the loop computes the Kleene disjunction. -/
theorem anyOf_ok (ts : List Truth) : anyOf (ts.map .ok) = .ok (Truth.any ts) := by
  rw [anyOf, anyOfFrom_ok, Truth.any]
  simp

lemma tally_eq (t u : ℤ) (ts : List Truth) :
    (tally t u ts).1 = t + ts.countP Truth.lo ∧
      (tally t u ts).1 + (tally t u ts).2 = t + u + ts.countP Truth.hi := by
  induction ts generalizing t u with
  | nil => simp [tally]
  | cons x ts ih =>
    simp only [List.countP_cons]
    cases x with
    | TRUE => have h := ih (t + 1) u; simp only [tally, Truth.lo, Truth.hi, if_true]; omega
    | UNKNOWN => have h := ih t (u + 1); simp only [tally, Truth.lo, Truth.hi]; simp; omega
    | FALSE => have h := ih t u; simp only [tally, Truth.lo, Truth.hi]; simp; omega

/-- The two counters decide the threshold as its two extreme readings do. -/
theorem nOf_ok (n : ℕ) (hn : 1 ≤ n) (ts : List Truth) :
    nOf n ts = .ok (Truth.atLeast n ts) := by
  obtain ⟨h1, h2⟩ := tally_eq 0 0 ts
  have hlt : ¬(n : ℤ) < 1 := by omega
  have hlo : (n : ℤ) ≤ (tally 0 0 ts).1 ↔ n ≤ ts.countP Truth.lo := by omega
  have hhi : (tally 0 0 ts).1 + (tally 0 0 ts).2 < n ↔ ts.countP Truth.hi < n := by omega
  simp only [nOf, Truth.atLeast, if_neg hlt, hlo, hhi]
  split_ifs <;> rfl

end Kleene
end TrustLens.Runtime
