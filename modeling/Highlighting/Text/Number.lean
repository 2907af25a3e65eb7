import Highlighting.Text.Digits
import Highlighting.Text.Quoted
import Highlighting.Unicode.Numeric

/-!
# Decimal numbers

A number is written in decimal digits, which may be of any script. A text of more digits than are
read and a text that holds anything else stand for no number.

## Main definitions

* `NumberFault` -- why a text stands for no number.
* `readNumber` -- the number that a text stands for.
-/
namespace Highlighting

/-- Why a text stands for no number. -/
inductive NumberFault where
  /-- It starts with so many digits. -/
  | tooManyDigits (count : Nat)
  /-- It is empty or holds something that is no decimal digit. -/
  | noNumber (t : Text)
deriving DecidableEq, Repr

namespace NumberFault

/-- A text is shown in a message up to this length, its quotes included. -/
def shownLength : Nat := 200

/-- The fault in words. -/
def message : NumberFault → String
  | tooManyDigits n =>
    "Exceeds the limit (" ++ toString digitLimit ++ " digits) for integer string conversion: "
      ++ "value has " ++ toString n ++ " digits; use sys.set_int_max_str_digits() to increase "
      ++ "the limit"
  | noNumber t =>
    "invalid literal for int() with base 10: " ++ String.ofList (t.quoted.take shownLength)

end NumberFault

/-- The number that decimal digits stand for. -/
def decimalOf (digits : Text) : Nat :=
  digits.foldl (fun n c => 10 * n + (Unicode.decimalValue? c).getD 0) 0

/-- The number that a text stands for. -/
def readNumber (t : Text) : Except NumberFault Nat :=
  let digits := t.takeWhile Unicode.isDecimal
  if digitLimit < digits.length then .error (.tooManyDigits digits.length)
  else if t = [] ∨ digits.length < t.length then .error (.noNumber t)
  else .ok (decimalOf t)

end Highlighting
