import Highlighting.Text.Digits
import Highlighting.Unicode.Hangul
import Highlighting.Unicode.Names.Aliases
import Highlighting.Unicode.Names.Ancient
import Highlighting.Unicode.Names.Brahmic
import Highlighting.Unicode.Names.Cuneiform
import Highlighting.Unicode.Names.EastAsian
import Highlighting.Unicode.Names.Forms
import Highlighting.Unicode.Names.Greek
import Highlighting.Unicode.Names.Hieroglyphs
import Highlighting.Unicode.Names.Kana
import Highlighting.Unicode.Names.Latin
import Highlighting.Unicode.Names.MiddleEastern
import Highlighting.Unicode.Names.Musical
import Highlighting.Unicode.Names.Operators
import Highlighting.Unicode.Names.Phonetic
import Highlighting.Unicode.Names.Pictographs
import Highlighting.Unicode.Names.Punctuation
import Highlighting.Unicode.Names.Shapes
import Highlighting.Unicode.Names.SouthAsian
import Highlighting.Unicode.Names.SoutheastAsian
import Highlighting.Unicode.Names.Syllabic
import Highlighting.Unicode.Names.Yi
import Highlighting.Unicode.Ranges

/-!
# Character names

A character may be written by its name in Unicode 14 or by an alias. Letters of a name may be in
either case, save in the names of Hangul syllables and of unified ideographs, which are made up
by rule. Control characters have no names of their own and are known by their aliases.

## Main definitions

* `Names.find?` -- the code point of a name in a table.
* `Names.coded?` -- the code point of a name that ends in the code point.
* `named?` -- the code point of a name.
-/
namespace Highlighting.Unicode

namespace Names

/-- The tables, in the order of their first code points, and the table of aliases. -/
def tables : List String :=
  [latin, greek, middleEastern, southAsian, southeastAsian, syllabic, phonetic, punctuation,
   operators, shapes, eastAsian, yi, forms, ancient, brahmic, cuneiform, hieroglyphs, kana,
   musical, pictographs, aliases]

/-- What is left of a name after the words it has to begin with. -/
def ending? (stem name : String) : Option String :=
  let start := if stem = "" || stem.endsWith "-" then stem else stem ++ " "
  if start.toList.isPrefixOf name.toList then some (String.ofList (name.toList.drop start.length))
  else none

/-- The first code point and the words of a line that starts a stretch of a table. -/
def stretch? (line : String) : Option (Nat × String) :=
  match line.toList with
  | 'U' :: '+' :: rest =>
    let code := rest.takeWhile (· != ' ')
    some (numberOf 16 code, String.ofList (rest.drop (code.length + 1)))
  | _ => none

/-- The code point of a name in the lines of a table. The next line names the characters from
`next` on, and `ending` is what it has to hold if it holds the name. -/
def find? (name : String) :
    (next : Nat) → (ending : Option String) → List String → Option Nat
  | _, _, [] => none
  | next, ending, line :: rest =>
    match stretch? line, ending with
    | some (first, stem), _ => find? name first (ending? stem name) rest
    | none, none => find? name next none rest
    | none, some e =>
      let entries := line.splitOn "; "
      match entries.idxOf? e with
      | some i => some (next + i)
      | none => find? name (next + entries.length) ending rest

/-- Code points, first and last, whose names are the same words with the code point. -/
def codedRuns : List (Nat × Nat × String) :=
  [(0xF900, 0xFA6D, "CJK COMPATIBILITY IDEOGRAPH-"),
   (0xFA70, 0xFAD9, "CJK COMPATIBILITY IDEOGRAPH-"),
   (0x2F800, 0x2FA1D, "CJK COMPATIBILITY IDEOGRAPH-"),
   (0x18B00, 0x18CD5, "KHITAN SMALL SCRIPT CHARACTER-"),
   (0x1B170, 0x1B2FB, "NUSHU CHARACTER-")]

/-- Unified ideographs. -/
def ideographs : Ranges :=
  [(0x3400, 0x4DBF), (0x4E00, 0x9FFF), (0x20000, 0x2A6DF), (0x2A700, 0x2B738),
   (0x2B740, 0x2B81D), (0x2B820, 0x2CEA1), (0x2CEB0, 0x2EBE0), (0x30000, 0x3134A)]

/-- The code point that a text gives in capital hexadecimal digits. -/
def code? (t : Text) : Option Nat :=
  if (t.length = 4 ∨ t.length = 5) ∧ t.all (fun c => isHex c && !c.isLower) then
    some (numberOf 16 t)
  else none

/-- The code point of a name that ends in it, with no more digits than are needed. -/
def coded? (name : Text) : Option Nat :=
  codedRuns.findSome? fun (first, last, stem) =>
    if stem.toList.isPrefixOf name then
      let digits := name.drop stem.length
      (code? digits).filter fun n =>
        decide (first ≤ n) && decide (n ≤ last) && (digits.length == if n < 0x10000 then 4 else 5)
    else none

/-- The words before the short names of a syllable. -/
def syllableStem : Text := "HANGUL SYLLABLE ".toList

/-- The words before the code point of a unified ideograph. -/
def ideographStem : Text := "CJK UNIFIED IDEOGRAPH-".toList

end Names

/-- The code point of a name. -/
def named? (name : Text) : Option Nat :=
  if Names.syllableStem.isPrefixOf name then
    Hangul.syllable? (name.drop Names.syllableStem.length)
  else if Names.ideographStem.isPrefixOf name then
    (Names.code? (name.drop Names.ideographStem.length)).filter Names.ideographs.contains
  else
    let name := name.map Char.toUpper
    match Names.coded? name with
    | some n => some n
    | none =>
      Names.tables.findSome? fun table =>
        Names.find? (String.ofList name) 0 none (table.splitOn "\n")

end Highlighting.Unicode
