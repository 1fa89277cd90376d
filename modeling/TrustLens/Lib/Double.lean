import Mathlib.Data.Rat.Floor
import Mathlib.Algebra.Order.Field.Rat
import Mathlib.Tactic.Linarith
import TrustLens.Lib.Json
import TrustLens.Lib.PyText

/-!
# Reading decimal numerals into doubles

`float(text)` of a numeral: the nearest double, ties to even, and infinity from the
first value that would round past the largest one.
-/

namespace TrustLens.PyFloat

/-- The binary exponent of a positive rational. -/
def floorLog2 (q : ℚ) : ℤ :=
  let k : ℤ := (Nat.log2 q.num.natAbs : ℤ) - Nat.log2 q.den
  if (2 : ℚ) ^ k ≤ q then k else k - 1

def roundHalfEven (q : ℚ) : ℤ :=
  let below := ⌊q⌋
  let rest := q - below
  if rest < 1 / 2 then below
  else if 1 / 2 < rest then below + 1
  else if below % 2 = 0 then below else below + 1

/-- The least value that overflows. -/
def limit : ℚ := 2 ^ 1024

/-- The double nearest to a rational that is not negative. -/
def ofRat (q : ℚ) : PyFloat :=
  if q = 0 then finite 0
  else
    let e := max (floorLog2 q - 52) (-1074)
    let v : ℚ := roundHalfEven (q / (2 : ℚ) ^ e) * (2 : ℚ) ^ e
    if limit ≤ v then inf else finite v

/-- The number a run of digits denotes, in any script. -/
def digits (cs : List Char) : ℕ :=
  cs.foldl (fun n c => 10 * n + (PyText.digitValue? c).getD 0) 0

/-- The value of an unsigned decimal numeral. -/
def numeral (cs : List Char) : ℚ :=
  let fraction := (cs.dropWhile (· != '.')).drop 1
  digits (cs.takeWhile (· != '.')) + digits fraction / 10 ^ fraction.length

/-- `float(text)` of an unsigned decimal numeral. -/
def ofNumeral (cs : List Char) : PyFloat := ofRat (numeral cs)

/-- `int(value) if value.is_integer() else value` -/
def toJson (x : PyFloat) : Json :=
  match x.toInt? with
  | some n => .int n
  | none => .float x

example : ofNumeral "0.1".toList = finite (3602879701896397 / 36028797018963968) := by
  decide +kernel

end TrustLens.PyFloat
