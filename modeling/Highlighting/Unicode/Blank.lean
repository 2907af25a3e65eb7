import Highlighting.Unicode.Ranges

/-!
# Blank characters

The characters that are white space by their general category or their bidirectional class in
Unicode 14.

## Main definitions

* `isBlank` -- white space of any kind.
* `isAsciiBlank` -- the six blanks of ASCII.
-/
namespace Highlighting.Unicode

/-- White space, ASCII included. -/
def blank : Ranges :=
  [(0x9, 0xD), (0x1C, 0x20), (0x85, 0x85), (0xA0, 0xA0), (0x1680, 0x1680), (0x2000, 0x200A),
   (0x2028, 0x2029), (0x202F, 0x202F), (0x205F, 0x205F), (0x3000, 0x3000)]

/-- White space of any kind. -/
def isBlank (c : Char) : Bool :=
  blank.contains c.toNat

/-- Space, tab, newline, vertical tab, form feed and carriage return. -/
def isAsciiBlank (c : Char) : Bool :=
  c.toNat == 32 || (decide (9 ≤ c.toNat) && decide (c.toNat ≤ 13))

end Highlighting.Unicode
