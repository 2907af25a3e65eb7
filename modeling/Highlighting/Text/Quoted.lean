import Highlighting.Text.Basic
import Highlighting.Unicode.Printable

/-!
# Quoted texts

Messages show a text in quotes. Single quotes are the rule; a text that holds a single quote
and no double quote is put in double quotes. The quote in use and the backslash are written
after a backslash, tab, newline and carriage return by a letter, and any other character that
is not printable by its code point in two, four or eight hexadecimal digits.

## Main definitions

* `Quoted.mark` -- the quote that a text is put in.
* `Quoted.char` -- one character, as written between quotes.
* `Text.quoted` -- the text in quotes.
* `Text.quotedList` -- quoted texts in brackets, with commas between.
-/
namespace Highlighting

namespace Quoted

/-- The quote that encloses a text. -/
def mark (t : Text) : Char :=
  if t.contains '\'' && !t.contains '"' then '"' else '\''

/-- A character that is not printable, by its code point. -/
def codePoint (n : Nat) : Text :=
  if n < 0x100 then ['\\', 'x'] ++ Text.hex 2 n
  else if n < 0x10000 then ['\\', 'u'] ++ Text.hex 4 n
  else ['\\', 'U'] ++ Text.hex 8 n

/-- One character between quotes of the given kind. -/
def char (quote c : Char) : Text :=
  if c = quote ∨ c = '\\' then ['\\', c]
  else if c = '\t' then ['\\', 't']
  else if c = '\n' then ['\\', 'n']
  else if c = '\r' then ['\\', 'r']
  else if Unicode.isPrintable c then [c]
  else codePoint c.toNat

end Quoted

/-- A text in quotes. -/
def Text.quoted (t : Text) : Text :=
  let quote := Quoted.mark t
  quote :: t.flatMap (Quoted.char quote) ++ [quote]

/-- A string in quotes. -/
def quotedString (s : String) : String :=
  String.ofList (Text.quoted s.toList)

/-- Strings in quotes, between brackets and with commas between them. -/
def quotedList (ss : List String) : String :=
  "[" ++ ", ".intercalate (ss.map quotedString) ++ "]"

end Highlighting
