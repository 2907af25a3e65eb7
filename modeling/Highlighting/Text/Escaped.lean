import Highlighting.Text.Digits
import Highlighting.Text.Undecodable
import Highlighting.Unicode.Names

/-!
# Escaped texts

A backslash starts an escape: for a control character by a letter, for a quote or a backslash by
itself, for any character by an octal number of up to three digits, by a hexadecimal number of
two, four or eight digits, or by its name in braces. A backslash at the end of a line joins it
to the next one. Any other backslash stands for itself.

Escapes give code points, and each surrogate among them is one of its own. Whether these make a text
depends on where that is written: most streams take no surrogates at all.

## Main definitions

* `Escaped.read` -- the escape behind a backslash.
* `Escaped.decode` -- the code points that an escaped text stands for.
* `Surrogates`, `Surrogates.textOf?` -- the text of code points, as a stream takes it.
-/
namespace Highlighting

namespace Escaped

/-- An escape: the code points it stands for, and the number of characters behind its
backslash. -/
structure Escape where
  codes : List Nat
  length : Nat
deriving DecidableEq, Repr

/-- What is wrong with an escape, and the number of its characters at fault. -/
structure Fault where
  reason : Undecodable.Reason
  count : Nat
deriving DecidableEq, Repr

/-- The code point that a letter or a sign behind a backslash stands for. -/
def control? : Char → Option Nat
  | 'a' => some 7
  | 'b' => some 8
  | 't' => some 9
  | 'n' => some 10
  | 'v' => some 11
  | 'f' => some 12
  | 'r' => some 13
  | '\\' => some 92
  | '\'' => some 39
  | '"' => some 34
  | _ => none

/-- The number of digits behind a letter that starts a hexadecimal number, and how the escape
is written. -/
def hexForm? : Char → Option (Nat × String)
  | 'x' => some (2, "\\xXX")
  | 'u' => some (4, "\\uXXXX")
  | 'U' => some (8, "\\UXXXXXXXX")
  | _ => none

/-- The hexadecimal escape of a form, from its digits on. -/
def readHex (count : Nat) (form : String) (t : Text) : Except Fault Escape :=
  let digits := takeUpTo count isHex t
  if digits.length < count then .error ⟨.truncated form, digits.length + 2⟩
  else if 0x10FFFF < numberOf 16 digits then .error ⟨.noCodePoint, count + 2⟩
  else .ok ⟨[numberOf 16 digits], count + 1⟩

/-- The escape by name, from its opening brace on. -/
def readNamed : Text → Except Fault Escape
  | '\x7b' :: t =>
    let name := t.takeWhile (· != '\x7d')
    if name.length = t.length then .error ⟨.malformedName, t.length + 3⟩
    else if name = [] then .error ⟨.malformedName, 3⟩
    else
      match Unicode.named? name with
      | some n => .ok ⟨[n], name.length + 3⟩
      | none => .error ⟨.unknownName, name.length + 4⟩
  | _ => .error ⟨.malformedName, 2⟩

/-- The escape that starts behind a backslash. -/
def read : Text → Except Fault Escape
  | [] => .error ⟨.trailingBackslash, 1⟩
  | c :: t =>
    match control? c with
    | some d => .ok ⟨[d], 1⟩
    | none =>
      match hexForm? c with
      | some (count, form) => readHex count form t
      | none =>
        if c = '\n' then .ok ⟨[], 1⟩
        else if c = 'N' then readNamed t
        else if isOctal c then
          let digits := takeUpTo 3 isOctal (c :: t)
          .ok ⟨[numberOf 8 digits], digits.length⟩
        else .ok ⟨['\\'.toNat, c.toNat], 1⟩

/-- The code points from a position on, where so many characters still belong to the last
escape. -/
def codesAfter : (skip position : Nat) → Text → Except Undecodable (List Nat)
  | _, _, [] => .ok []
  | n + 1, position, _ :: t => codesAfter n (position + 1) t
  | 0, position, c :: t =>
    if c = '\\' then
      match read t with
      | .ok e => (codesAfter e.length (position + 1) t).map (e.codes ++ ·)
      | .error f => .error ⟨.escapes, position, c.toNat, f.count, f.reason⟩
    else (codesAfter 0 (position + 1) t).map (c.toNat :: ·)

/-- The code points that an escaped text stands for. -/
def decode (t : Text) : Except Undecodable (List Nat) :=
  codesAfter 0 0 t

@[simp] theorem decode_nil : decode [] = .ok [] := rfl

end Escaped

/-- What a stream does with surrogates. -/
inductive Surrogates where
  /-- They are refused, as they have no form in UTF-8. -/
  | refused
  /-- They are passed on as units of UTF-16, so that a pair of them is read as one character. -/
  | passed
deriving DecidableEq, Repr

namespace Surrogates

/-- The first half of a pair of surrogates. -/
def isHigh (n : Nat) : Bool := decide (0xD800 ≤ n) && decide (n < 0xDC00)

/-- The second half of a pair of surrogates. -/
def isLow (n : Nat) : Bool := decide (0xDC00 ≤ n) && decide (n < 0xE000)

/-- The character that a pair of surrogates is read as. -/
def paired (high low : Nat) : Char :=
  Char.ofNat (0x10000 + (high - 0xD800) * 0x400 + (low - 0xDC00))

/-- The character of a code point that is no surrogate. -/
def char? (n : Nat) : Option Char :=
  if n.isValidChar then some (Char.ofNat n) else none

/-- The text that is read where code points are written, unless they cannot be. No surrogate is
written outside of a pair. -/
def textOf? (s : Surrogates) : List Nat → Option Text
  | [] => some []
  | [n] => (char? n).map ([·])
  | n :: m :: rest =>
    if s = passed ∧ isHigh n ∧ isLow m then (s.textOf? rest).map (paired n m :: ·)
    else (char? n).bind fun c => (s.textOf? (m :: rest)).map (c :: ·)

end Surrogates

end Highlighting
