import Mathlib.Data.Int.Basic
import Mathlib.Data.List.Basic
import Mathlib.Tactic.Common

/-!
# Text as Python reads it

Decimal digits and white space range over all of Unicode, in `int(text)` as in
the `\d` of a pattern.
-/

namespace TrustLens.PyText

/-- Code points of the decimal digit zeros; each starts a run of ten digits. -/
def decimalZeros : List ℕ :=
  [0x30, 0x660, 0x6f0, 0x7c0, 0x966, 0x9e6, 0xa66, 0xae6, 0xb66, 0xbe6, 0xc66, 0xce6, 0xd66,
   0xde6, 0xe50, 0xed0, 0xf20, 0x1040, 0x1090, 0x17e0, 0x1810, 0x1946, 0x19d0, 0x1a80, 0x1a90,
   0x1b50, 0x1bb0, 0x1c40, 0x1c50, 0xa620, 0xa8d0, 0xa900, 0xa9d0, 0xa9f0, 0xaa50, 0xabf0,
   0xff10, 0x104a0, 0x10d30, 0x11066, 0x110f0, 0x11136, 0x111d0, 0x112f0, 0x11450, 0x114d0,
   0x11650, 0x116c0, 0x11730, 0x118e0, 0x11950, 0x11c50, 0x11d50, 0x11da0, 0x11f50, 0x16a60,
   0x16ac0, 0x16b50, 0x1d7ce, 0x1d7d8, 0x1d7e2, 0x1d7ec, 0x1d7f6, 0x1e140, 0x1e2f0, 0x1e4f0,
   0x1e950, 0x1fbf0]

def digitValue? (c : Char) : Option ℕ :=
  (decimalZeros.find? fun z => z ≤ c.toNat && c.toNat < z + 10).map (c.toNat - ·)

def isDigit (c : Char) : Bool :=
  (digitValue? c).isSome

def isSpace (c : Char) : Bool :=
  let n := c.toNat
  (0x9 ≤ n && n ≤ 0xd) || (0x1c ≤ n && n ≤ 0x20) || n == 0x85 || n == 0xa0 || n == 0x1680 ||
    (0x2000 ≤ n && n ≤ 0x200a) || n == 0x2028 || n == 0x2029 || n == 0x202f || n == 0x205f ||
    n == 0x3000

def strip (cs : List Char) : List Char :=
  ((cs.dropWhile isSpace).reverse.dropWhile isSpace).reverse

/-- The interpreter's limit on the digits of a decimal literal. -/
def maxDigits : ℕ := 4300

/-- Digits with single underscores between them. -/
def digitRun : List Char → Option (List ℕ)
  | [] => none
  | [c] => (digitValue? c).map ([·])
  | c :: '_' :: cs => do return (← digitValue? c) :: (← digitRun cs)
  | c :: cs => do return (← digitValue? c) :: (← digitRun cs)

def parseNat? (cs : List Char) : Option ℕ :=
  match digitRun cs with
  | some ds => if ds.length ≤ maxDigits then some (ds.foldl (fun n d => 10 * n + d) 0) else none
  | none => none

/-- `int(text)` in base ten; `none` is the ValueError. -/
def parseInt? (s : String) : Option ℤ :=
  match strip s.toList with
  | '-' :: cs => (parseNat? cs).map fun n => -(Int.ofNat n)
  | '+' :: cs => (parseNat? cs).map Int.ofNat
  | cs => (parseNat? cs).map Int.ofNat

example : parseInt? " -1_200 " = some (-1200) := by decide

/-- The text before the first occurrence of a separator character. -/
def beforeFirst (sep : Char) (s : String) : String :=
  String.ofList (s.toList.takeWhile (· != sep))

/-- `needle in text`. -/
def isInfix (needle text : String) : Bool :=
  (text.toList.tails.any fun t => needle.toList.isPrefixOf t)

end TrustLens.PyText
