import Highlighting.Text.Basic

/-!
# Digits

Numbers written with ASCII digits in base eight, ten or sixteen, as escapes have them.

## Main definitions

* `isOctal`, `isHex` -- the digits of two bases.
* `numberOf` -- the number that digits stand for.
* `takeUpTo` -- the digits at the start of a text, up to a greatest count.
* `digitLimit` -- the most digits of a decimal number that is read.
-/
namespace Highlighting

/-- An octal digit. -/
def isOctal (c : Char) : Bool := '0' ≤ c && c ≤ '7'

/-- A hexadecimal digit. -/
def isHex (c : Char) : Bool := c.isDigit || ('a' ≤ c && c ≤ 'f') || ('A' ≤ c && c ≤ 'F')

/-- The value of a hexadecimal digit. -/
def digitValue (c : Char) : Nat :=
  if c.isDigit then c.toNat - 48 else if 'a' ≤ c then c.toNat - 87 else c.toNat - 55

/-- The number that digits stand for in a base. -/
def numberOf (base : Nat) (digits : Text) : Nat :=
  digits.foldl (fun n c => base * n + digitValue c) 0

@[simp] theorem numberOf_nil (base : Nat) : numberOf base [] = 0 := rfl

/-- A decimal number is read if it has no more digits than this, leading zeros included. -/
def digitLimit : Nat := 4300

/-- Up to so many leading characters of a kind. -/
def takeUpTo (count : Nat) (p : Char → Bool) (t : Text) : Text :=
  (t.take count).takeWhile p

end Highlighting
