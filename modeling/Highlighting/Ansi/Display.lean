import Highlighting.Ansi.Sequence
import Highlighting.Error
import Highlighting.Style
import Highlighting.Text.Number

/-!
# Displayed text

What a terminal shows of a text: the characters outside of control sequences, with the styles
that the sequences in front of them select. What these are is up to the decoder of the terminal, and
there may be others than the one below.

This one takes lines one by one, and they share the style. Of a line only what follows its last
carriage return is shown. A piece of text between two sequences has one span if its style is not
plain.

## Main definitions

* `Display`, `Display.Decoder` -- the characters shown and the spans of their styles, as a decoder
  finds them.
* `DisplayToken`, `DisplayToken.ofLine` -- the tokens of a line.
* `Style.applyCodes` -- a style after rendition codes.
* `Display.ofText`, `Display.decoder` -- a decoder.
-/
namespace Highlighting

/-- A token of a line. -/
inductive DisplayToken where
  | plain (c : Char)
  /-- A sequence without effect. -/
  | ignored
  /-- The choice of a character set. The character after it belongs to it and is not shown. -/
  | charset
  /-- Codes that select the rendition. -/
  | rendition (codes : Text)
  /-- A command to the system that runs the terminal. -/
  | command (t : Text)
deriving DecidableEq, Repr

namespace DisplayToken

/-- What precedes the first place where an escape character and a backslash follow. -/
def upToTerminator : Text → Option Text
  | [] => none
  | c :: t =>
    if c = Ansi.esc ∧ t.head? = some '\\' then some []
    else (upToTerminator t).map (c :: ·)

/-- A character that makes a sequence of two characters after an escape character. -/
def endsPair (c : Char) : Bool :=
  ('0' ≤ c && c ≤ '?') || ('@' ≤ c && c ≤ 'Z') || ('\\' ≤ c && c ≤ '_')

/-- The token that a text starts with if that is a sequence, and its length. -/
def at? : Text → Option (DisplayToken × Nat)
  | e :: c :: t =>
    if e ≠ Ansi.esc then none
    else if c = '(' then some (charset, 2)
    else if c = '[' then
      (Ansi.body? t).map fun body =>
        if body.getLast? = some 'm' then (rendition body.dropLast, body.length + 2)
        else (ignored, body.length + 2)
    else if c = ']' then
      match upToTerminator t with
      | some body => some (command body, body.length + 4)
      | none => some (ignored, 2)
    else if endsPair c then some (ignored, 2)
    else none
  | _ => none

/-- The tokens of a line, where so many characters still belong to the last sequence. -/
def ofLineAfter : (skip : Nat) → Text → List DisplayToken
  | _, [] => []
  | n + 1, _ :: t => ofLineAfter n t
  | 0, c :: t =>
    match at? (c :: t) with
    | some (tok, n) => tok :: ofLineAfter (n - 1) t
    | none => plain c :: ofLineAfter 0 t

/-- The tokens of a line. -/
def ofLine (t : Text) : List DisplayToken :=
  ofLineAfter 0 t

end DisplayToken

namespace Style

/-- The number of the largest color of the table, at which codes are cut off. -/
def maxCode : Nat := 255

/-- The style that one rendition code adds, if it is known. -/
def ofCode? (n : Nat) : Option Style :=
  let on (a : Attribute) : Option Style := some (plain.switch a true)
  let off (a : Attribute) : Option Style := some (plain.switch a false)
  let color (c : TextColor) : Option Style := some { plain with color := some c }
  let background (c : TextColor) : Option Style := some { plain with background := some c }
  match n with
  | 1 => on .bold
  | 2 => on .dim
  | 3 => on .italic
  | 4 => on .underline
  | 5 => on .blink
  | 6 => on .blink2
  | 7 => on .reverse
  | 8 => on .conceal
  | 9 => on .strike
  | 21 => on .underline2
  | 22 => some ((plain.switch .dim false).switch .bold false)
  | 23 => off .italic
  | 24 => off .underline
  | 25 => off .blink
  | 26 => off .blink2
  | 27 => off .reverse
  | 28 => off .conceal
  | 29 => off .strike
  | 39 => color .own
  | 49 => background .own
  | 51 => on .frame
  | 52 => on .encircle
  | 53 => on .overline
  | 54 => some ((plain.switch .frame false).switch .encircle false)
  | 55 => off .overline
  | n =>
    if 30 ≤ n ∧ n ≤ 37 then color (.indexed (n - 30))
    else if 40 ≤ n ∧ n ≤ 47 then background (.indexed (n - 40))
    else if 90 ≤ n ∧ n ≤ 97 then color (.indexed (n - 82))
    else if 100 ≤ n ∧ n ≤ 107 then background (.indexed (n - 92))
    else none

/-- A style after rendition codes. -/
def applyCodes (s : Style) : List Nat → Style
  | [] => s
  | 0 :: rest => applyCodes plain rest
  | 38 :: 5 :: n :: rest => applyCodes { s with color := some (.indexed n) } rest
  | 48 :: 5 :: n :: rest => applyCodes { s with background := some (.indexed n) } rest
  | 38 :: 2 :: r :: g :: b :: rest => applyCodes { s with color := some (.rgb r g b) } rest
  | 48 :: 2 :: r :: g :: b :: rest =>
    applyCodes { s with background := some (.rgb r g b) } rest
  | [38, 5] => s
  | [48, 5] => s
  | 38 :: 2 :: _ => s
  | 48 :: 2 :: _ => s
  | [38] => s
  | [48] => s
  | 38 :: _ :: rest => applyCodes s rest
  | 48 :: _ :: rest => applyCodes s rest
  | n :: rest =>
    match ofCode? n with
    | some t => applyCodes (t.onto s) rest
    | none => applyCodes s rest

/-- The codes of a rendition: numbers between semicolons, where no digits stand for zero.
Whatever is no number is left out, save for a number of too many digits. -/
def codesOf (t : Text) : Except NumberFault (List Nat) :=
  ((t.splitOn ';').filter (·.all Char.isDigit)).mapM fun part =>
    if part = [] then .ok 0 else (readNumber part).map (min maxCode)

/-- A style after a command to the system. Only links matter. -/
def applyCommand (s : Style) (t : Text) : Style :=
  match t with
  | '8' :: ';' :: rest =>
    match rest.dropWhile (· != ';') with
    | _ :: target =>
      { s with link := some (if target = [] then none else some (String.ofList target)) }
    | [] => s
  | _ => s

end Style

/-- A span of text in one style. -/
structure Span where
  start : Nat
  stop : Nat
  style : Style
deriving DecidableEq, Repr

/-- The characters shown, and the styles of those that have one. -/
structure Display where
  plain : Text
  spans : List Span
deriving DecidableEq, Repr

namespace Display

/-- A decoder of texts: it gives what is displayed of a text, if that can be. -/
abbrev Decoder := Text → Except Failure Display

/-- A control character that is not shown. -/
def isHidden (c : Char) : Bool :=
  [7, 8, 11, 12, 13].contains c.toNat

/-- A display with a piece of text in a style behind it. -/
def append (d : Display) (piece : Text) (style : Style) : Display :=
  if piece = [] then d
  else
    let shown := piece.filter fun c => !isHidden c
    let start := d.plain.length
    let spans := if style.isPlain then d.spans
      else d.spans ++ [⟨start, start + shown.length, style⟩]
    ⟨d.plain ++ shown, spans⟩

/-- The state while tokens are displayed: the display so far, the piece of text since the last
sequence with its characters reversed, whether its first character belongs to the choice of a
character set, and the style. -/
structure State where
  display : Display
  piece : Text
  dropFirst : Bool
  style : Style
deriving DecidableEq, Repr

namespace State

/-- End the piece of text. -/
def flush (s : State) : State :=
  let piece := if s.dropFirst then s.piece.reverse.drop 1 else s.piece.reverse
  { s with display := s.display.append piece s.style, piece := [], dropFirst := false }

/-- The state after a token. -/
def step (s : State) : DisplayToken → Except NumberFault State
  | .plain c => .ok { s with piece := c :: s.piece }
  | .ignored => .ok s.flush
  | .charset => .ok { s.flush with dropFirst := true }
  | .rendition codes => do
    let s := s.flush
    return { s with style := s.style.applyCodes (← Style.codesOf codes) }
  | .command t =>
    let s := s.flush
    .ok { s with style := s.style.applyCommand t }

end State

/-- What follows the last carriage return of a line. -/
def afterReturn (line : Text) : Text :=
  (line.reverse.takeWhile (· != '\r')).reverse

/-- A display and a style after one more line. -/
def addLine (d : Display) (style : Style) (line : Text) : Except NumberFault (Display × Style) := do
  let s ← (DisplayToken.ofLine (afterReturn line)).foldlM State.step ⟨d, [], false, style⟩
  let s := s.flush
  return (s.display, s.style)

/-- A display after lines, with newlines between. -/
def addLines (d : Display) (style : Style) : List Text → Except NumberFault Display
  | [] => .ok d
  | [line] => (d.addLine style line).map (·.1)
  | line :: rest => do
    let (d, style) ← d.addLine style line
    addLines { d with plain := d.plain ++ ['\n'] } style rest

/-- The display of a text, if all its codes can be read. -/
def ofText (t : Text) : Except NumberFault Display :=
  addLines ⟨[], []⟩ .plain (t.splitOn '\n')

/-- The decoder that takes a text for this display. -/
def decoder : Decoder := fun t => (ofText t).mapError .number

end Display

end Highlighting
