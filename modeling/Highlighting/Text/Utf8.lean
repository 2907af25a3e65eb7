import Highlighting.Text.Undecodable

/-!
# UTF-8

A character takes one to four bytes. Its first byte tells how many continuation bytes follow and
in which range the first of them lies, which rules out overlong forms, surrogates and numbers
above the last code point. Decoding stops at the first byte that no well-formed text continues
with; the bytes at fault are then those of the character that was begun.

## Main definitions

* `Utf8.State` -- a character of which some bytes are read.
* `Utf8.decode` -- the text of a row of bytes.
* `Utf8.encode` -- the bytes of a text.
-/
namespace Highlighting.Utf8

/-- A character of which some bytes are read: how many are read and what the first one is, how
many are owed and in which range the next one lies, and the bits that are known. -/
structure State where
  read : Nat
  first : Nat
  owed : Nat
  least : Nat
  greatest : Nat
  bits : Nat
deriving DecidableEq, Repr

/-- The character that a byte begins, if more bytes follow it. -/
def begun? (b : Nat) : Option State :=
  if 0xC2 ≤ b ∧ b ≤ 0xDF then some ⟨1, b, 1, 0x80, 0xBF, b - 0xC0⟩
  else if 0xE0 ≤ b ∧ b ≤ 0xEF then
    some ⟨1, b, 2, if b = 0xE0 then 0xA0 else 0x80, if b = 0xED then 0x9F else 0xBF, b - 0xE0⟩
  else if 0xF0 ≤ b ∧ b ≤ 0xF4 then
    some ⟨1, b, 3, if b = 0xF0 then 0x90 else 0x80, if b = 0xF4 then 0x8F else 0xBF, b - 0xF0⟩
  else none

/-- The state after a continuation byte. -/
def State.next (s : State) (b : Nat) : State :=
  ⟨s.read + 1, s.first, s.owed - 1, 0x80, 0xBF, 64 * s.bits + (b - 0x80)⟩

/-- The error for the bytes of a character that was begun, which end before a position. -/
def State.fault (s : State) (position : Nat) (reason : Undecodable.Reason) : Undecodable :=
  ⟨.utf8, position - s.read, s.first, s.read, reason⟩

/-- The text of bytes from a position on, inside a character or between characters. -/
def decodeFrom : (position : Nat) → Option State → List Nat → Except Undecodable Text
  | _, none, [] => .ok []
  | position, some s, [] => .error (s.fault position .unexpectedEnd)
  | position, none, b :: rest =>
    if b < 0x80 then (decodeFrom (position + 1) none rest).map (Char.ofNat b :: ·)
    else
      match begun? b with
      | some s => decodeFrom (position + 1) (some s) rest
      | none => .error ⟨.utf8, position, b, 1, .invalidStart⟩
  | position, some s, b :: rest =>
    if s.least ≤ b ∧ b ≤ s.greatest then
      let t := s.next b
      if t.owed = 0 then (decodeFrom (position + 1) none rest).map (Char.ofNat t.bits :: ·)
      else decodeFrom (position + 1) (some t) rest
    else .error (s.fault position .invalidContinuation)

/-- The text of a row of bytes. -/
def decode (bytes : List Nat) : Except Undecodable Text :=
  decodeFrom 0 none bytes

/-- The bytes of a character. -/
def encodeChar (c : Char) : List Nat :=
  let n := c.toNat
  if n < 0x80 then [n]
  else if n < 0x800 then [0xC0 + n / 64, 0x80 + n % 64]
  else if n < 0x10000 then [0xE0 + n / 4096, 0x80 + n / 64 % 64, 0x80 + n % 64]
  else [0xF0 + n / 262144, 0x80 + n / 4096 % 64, 0x80 + n / 64 % 64, 0x80 + n % 64]

/-- The bytes of a text. -/
def encode (t : Text) : List Nat :=
  t.flatMap encodeChar

@[simp] theorem decode_nil : decode [] = .ok [] := rfl

@[simp] theorem encode_nil : encode [] = [] := rfl

end Highlighting.Utf8
