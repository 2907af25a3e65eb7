import Highlighting.Text.Basic

/-!
# Names of Hangul syllables

The name of a syllable is made of the short names of its letters: a leading consonant, a vowel
and a trailing consonant, of which the first and the last may be silent. A name is read letter
by letter, and each time the longest letter that fits is taken.

## Main definitions

* `Hangul.leads`, `Hangul.vowels`, `Hangul.trails` -- the short names of letters, in order.
* `Hangul.syllable?` -- the code point of the syllable that short names spell.
-/
namespace Highlighting.Unicode.Hangul

/-- Leading consonants. -/
def leads : List String :=
  ["G", "GG", "N", "D", "DD", "R", "M", "B", "BB", "S", "SS", "", "J", "JJ", "C", "K", "T", "P",
   "H"]

/-- Vowels. -/
def vowels : List String :=
  ["A", "AE", "YA", "YAE", "EO", "E", "YEO", "YE", "O", "WA", "WAE", "OE", "YO", "U", "WEO", "WE",
   "WI", "YU", "EU", "YI", "I"]

/-- Trailing consonants. -/
def trails : List String :=
  ["", "G", "GG", "GS", "N", "NJ", "NH", "D", "L", "LG", "LM", "LB", "LS", "LT", "LP", "LH", "M",
   "B", "BS", "S", "SS", "NG", "J", "C", "K", "T", "P", "H"]

/-- The code point of the first syllable. -/
def first : Nat := 0xAC00

/-- The longest of some letters that a text starts with, by its number, and the text after it.
The letters are numbered from `n` on. -/
def longest? (n : Nat) (t : Text) : List String → Option (Nat × Text)
  | [] => none
  | letter :: rest =>
    let here := if letter.toList.isPrefixOf t then some (n, t.drop letter.length) else none
    match here, longest? (n + 1) t rest with
    | some (i, a), some (j, b) => if b.length < a.length then some (j, b) else some (i, a)
    | some x, none => some x
    | none, y => y

/-- The code point of the syllable that a text spells. -/
def syllable? (t : Text) : Option Nat := do
  let (l, t) ← longest? 0 t leads
  let (v, t) ← longest? 0 t vowels
  let (c, t) ← longest? 0 t trails
  if t = [] then some (first + (l * vowels.length + v) * trails.length + c) else none

example : syllable? "HAN".toList = some 0xD55C := by decide
example : syllable? "A".toList = some 0xC544 := by decide
example : syllable? "G".toList = none := by decide

end Highlighting.Unicode.Hangul
