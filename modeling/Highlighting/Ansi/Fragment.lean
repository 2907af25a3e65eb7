import Highlighting.Error
import Highlighting.Text.Number

/-!
# Styled fragments

The form in which a line is shown at a prompt: one fragment for each character, with the words
of its style. Which fragments a line has is up to the decoder of the prompt, and there may be
others than the one below.

This one reads the line character by character. A control sequence starts with an escape character
and a bracket, or with the one character that stands for both. After its digits and semicolons it
ends with any other character; only the selection of the rendition and the move to the right, which
gives blanks, have an effect. What stands between the characters U+0001 and U+0002 is a fragment of
no width. Digits of any kind belong to a number, but it is read only if they are all decimal, and
otherwise the line cannot be shown.

## Main definitions

* `Fragment`, `Fragment.Decoder` -- the fragments of a line, as a decoder finds them.
* `Rendition` -- the attributes that a selection of the rendition changes.
* `Fragment.ofLine`, `Fragment.decoder` -- a decoder.
-/
namespace Highlighting

/-- The attributes of the characters to come. -/
structure Rendition where
  color : Option String
  background : Option String
  bold : Bool
  dim : Bool
  underline : Bool
  strike : Bool
  italic : Bool
  blink : Bool
  reverse : Bool
  hidden : Bool
deriving DecidableEq, Repr

namespace Rendition

/-- No attribute is set. -/
def plain : Rendition :=
  ⟨none, none, false, false, false, false, false, false, false, false⟩

/-- The words of the attributes. -/
def words (r : Rendition) : String :=
  let word (on : Bool) (s : String) : List String := if on then [s] else []
  " ".intercalate (r.color.toList ++ (r.background.toList.map fun b => "bg:" ++ b)
    ++ word r.bold "bold" ++ word r.dim "dim" ++ word r.underline "underline"
    ++ word r.strike "strike" ++ word r.italic "italic" ++ word r.blink "blink"
    ++ word r.reverse "reverse" ++ word r.hidden "hidden")

/-- The names of the eight colors. -/
def colorNames : List String :=
  ["ansiblack", "ansired", "ansigreen", "ansiyellow", "ansiblue", "ansimagenta", "ansicyan",
    "ansigray"]

/-- The names of the eight bright colors. -/
def brightNames : List String :=
  ["ansibrightblack", "ansibrightred", "ansibrightgreen", "ansibrightyellow", "ansibrightblue",
    "ansibrightmagenta", "ansibrightcyan", "ansiwhite"]

/-- The color of a code, counted from the code of the first color. -/
def named? (n : Nat) : Option String :=
  if n = 9 then some "ansidefault"
  else if n < 8 then colorNames[n]?
  else if 60 ≤ n then brightNames[n - 60]?
  else none

/-- A color by its red, green and blue parts. -/
def rgb (r g b : Nat) : String :=
  String.ofList ('#' :: (Text.hex 2 r ++ Text.hex 2 g ++ Text.hex 2 b))

/-- The first sixteen colors of the table. -/
def firstColors : List String :=
  ["#000000", "#cd0000", "#00cd00", "#cdcd00", "#0000ee", "#cd00cd", "#00cdcd", "#e5e5e5",
    "#7f7f7f", "#ff0000", "#00ff00", "#ffff00", "#5c5cff", "#ff00ff", "#00ffff", "#ffffff"]

/-- The levels of red, green and blue in the color cube. -/
def cubeLevel (n : Nat) : Nat :=
  if n = 0 then 0 else 55 + 40 * n

/-- A color of the table: sixteen colors, a cube of six levels with black once more at its end,
and greys. The table ends two colors before the last of 256. -/
def table? (n : Nat) : Option String :=
  if n < 16 then firstColors[n]?
  else if n < 233 then
    let i := n - 16
    some (rgb (cubeLevel (i / 36 % 6)) (cubeLevel (i / 6 % 6)) (cubeLevel (i % 6)))
  else if n < 254 then
    let v := 8 + 10 * (n - 232)
    some (rgb v v v)
  else none

/-- The rendition after one code that stands alone. -/
def applyCode (r : Rendition) (n : Nat) : Rendition :=
  match n with
  | 0 => plain
  | 1 => { r with bold := true }
  | 2 => { r with dim := true }
  | 3 => { r with italic := true }
  | 4 => { r with underline := true }
  | 5 => { r with blink := true }
  | 6 => { r with blink := true }
  | 7 => { r with reverse := true }
  | 8 => { r with hidden := true }
  | 9 => { r with strike := true }
  | 22 => { r with bold := false, dim := false }
  | 23 => { r with italic := false }
  | 24 => { r with underline := false }
  | 25 => { r with blink := false }
  | 27 => { r with reverse := false }
  | 28 => { r with hidden := false }
  | 29 => { r with strike := false }
  | n =>
    match if 30 ≤ n then named? (n - 30) else none with
    | some c => { r with color := some c }
    | none =>
      match if 40 ≤ n then named? (n - 40) else none with
      | some c => { r with background := some c }
      | none => r

/-- The rendition after codes. Colors of the table take two more codes and colors by their parts
four; where these are missing the code has no effect, and what stands behind it counts for
itself. -/
def applyCodes (r : Rendition) : List Nat → Rendition
  | [] => r
  | 38 :: 5 :: n :: rest => applyCodes { r with color := table? n } rest
  | 48 :: 5 :: n :: rest => applyCodes { r with background := table? n } rest
  | 38 :: 2 :: a :: b :: c :: rest => applyCodes { r with color := some (rgb a b c) } rest
  | 48 :: 2 :: a :: b :: c :: rest => applyCodes { r with background := some (rgb a b c) } rest
  | 38 :: _ :: n :: rest => applyCodes r (n :: rest)
  | 48 :: _ :: n :: rest => applyCodes r (n :: rest)
  | n :: rest => applyCodes (r.applyCode n) rest

end Rendition

/-- A piece of text with the words of its style. -/
structure Fragment where
  style : String
  text : Text
deriving DecidableEq, Repr

namespace Fragment

/-- A decoder of lines: it gives the fragments of a line, if that can be shown. -/
abbrev Decoder := Text → Except Failure (List Fragment)

/-- The style of a fragment of no width. -/
def zeroWidthStyle : String := "[ZeroWidthEscape]"

/-- The largest parameter of a control sequence. -/
def maxParameter : Nat := 9999

/-- Where the decoder is. -/
inductive Mode where
  /-- Outside of sequences. -/
  | text
  /-- Right behind a fragment of no width, where no other one starts. -/
  | afterZeroWidth
  /-- Inside a fragment of no width, with its characters reversed. -/
  | zeroWidth (read : Text)
  /-- Behind an escape character. -/
  | escape
  /-- Inside a control sequence, with the digits of the number that is read, in reverse, and the
  parameters before it, last first. -/
  | control (digits : Text) (parameters : List Nat)
deriving DecidableEq, Repr

/-- The mode after a character that is not inside a sequence, and the fragment that it gives. -/
def plainStep (style : String) (c : Char) : Mode × List Fragment :=
  if c.toNat = 27 then (.escape, [])
  else if c.toNat = 0x9b then (.control [] [], [])
  else (.text, [⟨style, [c]⟩])

/-- The parameter that digits in reverse stand for. No digits stand for zero. -/
def parameterOf (digits : Text) : Except NumberFault Nat :=
  if digits = [] then .ok 0 else (readNumber digits.reverse).map (min · maxParameter)

/-- Fragments before others, if these can be shown. -/
def before (out : List Fragment) (rest : Except NumberFault (List Fragment)) :
    Except NumberFault (List Fragment) :=
  rest.map (out ++ ·)

/-- The fragments of the rest of a line. -/
def decode : Mode → Rendition → Text → Except NumberFault (List Fragment)
  | _, _, [] => .ok []
  | mode, r, c :: rest =>
    match mode with
    | .text =>
      if c.toNat = 1 then decode (.zeroWidth []) r rest
      else
        let (mode, out) := plainStep r.words c
        before out (decode mode r rest)
    | .afterZeroWidth =>
      let (mode, out) := plainStep r.words c
      before out (decode mode r rest)
    | .zeroWidth read =>
      if c.toNat = 2 then before [⟨zeroWidthStyle, read.reverse⟩] (decode .afterZeroWidth r rest)
      else decode (.zeroWidth (c :: read)) r rest
    | .escape => if c = '[' then decode (.control [] []) r rest else decode .text r rest
    | .control digits parameters =>
      if Unicode.isDigit c then decode (.control (c :: digits) parameters) r rest
      else
        match parameterOf digits with
        | .error e => .error e
        | .ok n =>
          let parameters := n :: parameters
          if c = ';' then decode (.control [] parameters) r rest
          else if c = 'm' then decode .text (r.applyCodes parameters.reverse) rest
          else if c = 'C' then
            before (List.replicate (parameters.getLast?.getD 0) ⟨r.words, [' ']⟩)
              (decode .text r rest)
          else decode .text r rest

/-- The fragments of a line, if all its numbers can be read. -/
def ofLine (line : Text) : Except NumberFault (List Fragment) :=
  decode .text .plain line

/-- The decoder that takes a line for these fragments. -/
def decoder : Decoder := fun line => (ofLine line).mapError .number

end Fragment

end Highlighting
