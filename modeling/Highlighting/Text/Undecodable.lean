import Highlighting.Text.Basic

/-!
# Text that cannot be decoded

A decoder stops at the first bytes that it cannot read. Its error tells the encoding, where these
bytes are, and what is wrong with them.

## Main definitions

* `Undecodable` -- the error of a decoder.
* `Undecodable.message` -- the error in words.
-/
namespace Highlighting

/-- How a text is encoded. -/
inductive Encoding where
  | utf8
  /-- ASCII with escapes for all other characters. -/
  | escapes
deriving DecidableEq, Repr

/-- The name of an encoding. -/
def Encoding.name : Encoding → String
  | utf8 => "utf-8"
  | escapes => "unicodeescape"

/-- What is wrong with bytes. -/
inductive Undecodable.Reason where
  /-- No character starts with the byte. -/
  | invalidStart
  /-- What follows cannot belong to the character. -/
  | invalidContinuation
  /-- The text ends inside a character. -/
  | unexpectedEnd
  /-- The text ends behind a backslash. -/
  | trailingBackslash
  /-- The escape of that form has too few digits. -/
  | truncated (form : String)
  /-- The number of an escape is no code point. -/
  | noCodePoint
  /-- A character name is not enclosed in braces. -/
  | malformedName
  /-- There is no character of that name. -/
  | unknownName
deriving DecidableEq, Repr

/-- The reason in words. -/
def Undecodable.Reason.message : Undecodable.Reason → String
  | invalidStart => "invalid start byte"
  | invalidContinuation => "invalid continuation byte"
  | unexpectedEnd => "unexpected end of data"
  | trailingBackslash => "\\ at end of string"
  | truncated form => "truncated " ++ form ++ " escape"
  | noCodePoint => "illegal Unicode character"
  | malformedName => "malformed \\N character escape"
  | unknownName => "unknown Unicode character name"

/-- Bytes that cannot be decoded: where the first one is, its value, and how many they are. -/
structure Undecodable where
  encoding : Encoding
  position : Nat
  byte : Nat
  count : Nat
  reason : Undecodable.Reason
deriving DecidableEq, Repr

namespace Undecodable

/-- The bytes at fault in words: one byte by its value, several by their positions. -/
def place (e : Undecodable) : String :=
  if e.count = 1 then
    "byte 0x" ++ String.ofList (Text.hex 2 e.byte) ++ " in position " ++ toString e.position
  else
    "bytes in position " ++ toString e.position ++ "-" ++ toString (e.position + e.count - 1)

/-- The error in words. -/
def message (e : Undecodable) : String :=
  "'" ++ e.encoding.name ++ "' codec can't decode " ++ e.place ++ ": " ++ e.reason.message

end Undecodable

end Highlighting
