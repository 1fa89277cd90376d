import Mathlib.Data.List.Sort
import TrustLens.Lib.Json

/-!
# JSON texts

The text an encoder writes for a document: keys sorted, no blanks, everything outside
ASCII escaped. How a double is printed is a parameter.
-/

namespace TrustLens.Json

/-- Four lower-case hexadecimal digits. -/
def hex4 (n : ℕ) : List Char :=
  let digits := Nat.toDigits 16 n
  List.replicate (4 - digits.length) '0' ++ digits

/-- One character of a string literal; above the basic plane it is a surrogate pair. -/
def escapeChar (c : Char) : List Char :=
  if c = '"' then ['\\', '"']
  else if c = '\\' then ['\\', '\\']
  else if c = '\n' then ['\\', 'n']
  else if c = '\r' then ['\\', 'r']
  else if c = '\t' then ['\\', 't']
  else if c.toNat = 8 then ['\\', 'b']
  else if c.toNat = 12 then ['\\', 'f']
  else if 32 ≤ c.toNat ∧ c.toNat < 127 then [c]
  else if c.toNat < 0x10000 then '\\' :: 'u' :: hex4 c.toNat
  else
    let n := c.toNat - 0x10000
    '\\' :: 'u' :: hex4 (0xD800 + n / 1024) ++ '\\' :: 'u' :: hex4 (0xDC00 + n % 1024)

def quoted (s : String) : String :=
  String.ofList ('"' :: s.toList.flatMap escapeChar ++ ['"'])

variable (number : PyFloat → String)

mutual
/-- `json.dumps(…, sort_keys=True, separators=(",", ":"))` -/
def dumps : Json → String
  | null => "null"
  | bool b => if b then "true" else "false"
  | int n => toString n
  | float x => number x
  | str s => quoted s
  | arr js => "[" ++ String.intercalate "," (dumpItems js) ++ "]"
  | obj es =>
    let members := (dumpEntries es).insertionSort fun a b => a.1 ≤ b.1
    "\x7b" ++ String.intercalate "," (members.map fun e => quoted e.1 ++ ":" ++ e.2) ++ "\x7d"

def dumpItems : List Json → List String
  | [] => []
  | j :: js => dumps j :: dumpItems js

def dumpEntries : List (String × Json) → List (String × String)
  | [] => []
  | (k, j) :: es => (k, dumps j) :: dumpEntries es
end

end TrustLens.Json
