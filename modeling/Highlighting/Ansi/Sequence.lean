import Highlighting.Text.Basic

/-!
# Control sequences

A control sequence of a terminal is an escape character, an opening bracket, parameter
characters, intermediate characters and one final character. The three classes have no
character in common, so where a sequence ends is fixed by where it starts. A sequence that
selects the rendition has digits and semicolons for parameters and the final character `m`.

## Main definitions

* `Ansi.sequenceAt?` -- the sequence that a text starts with.
* `Ansi.strip`, `Ansi.visibleLength` -- a text without its sequences, and its length.
* `Ansi.lexemes` -- a text cut into sequences and single characters.
-/
namespace Highlighting.Ansi

/-- The character that starts a control sequence. -/
def esc : Char := Char.ofNat 27

/-- A parameter character. -/
def isParameter (c : Char) : Bool := '0' ≤ c && c ≤ '?'

/-- An intermediate character. -/
def isIntermediate (c : Char) : Bool := ' ' ≤ c && c ≤ '/'

/-- A final character. -/
def isFinal (c : Char) : Bool := '@' ≤ c && c ≤ '~'

/-- What follows the bracket of a sequence, up to its final character. -/
def body? (t : Text) : Option Text :=
  let parameters := t.takeWhile isParameter
  let rest := t.dropWhile isParameter
  let intermediates := rest.takeWhile isIntermediate
  match rest.dropWhile isIntermediate with
  | c :: _ => if isFinal c then some (parameters ++ intermediates ++ [c]) else none
  | [] => none

/-- The control sequence that a text starts with. -/
def sequenceAt? : Text → Option Text
  | c :: '[' :: t => if c = esc then (body? t).map (c :: '[' :: ·) else none
  | _ => none

/-- A character that may stand in a sequence that selects the rendition. -/
def isRenditionParameter (c : Char) : Bool := c.isDigit || c == ';'

/-- A sequence that selects the rendition. -/
def isRendition (t : Text) : Bool :=
  match t with
  | c :: '[' :: rest => c == esc && rest.dropWhile isRenditionParameter == ['m']
  | _ => false

/-! ## Removing sequences -/

/-- A text without its sequences, where so many characters still belong to the last one. -/
def stripAfter : (skip : Nat) → Text → Text
  | _, [] => []
  | n + 1, _ :: t => stripAfter n t
  | 0, c :: t =>
    match sequenceAt? (c :: t) with
    | some s => stripAfter (s.length - 1) t
    | none => c :: stripAfter 0 t

/-- A text without its sequences. -/
def strip (t : Text) : Text :=
  stripAfter 0 t

/-- The number of characters of a text outside of sequences. -/
def visibleLength (t : Text) : Nat :=
  (strip t).length

@[simp] theorem strip_nil : strip [] = [] := rfl

/-! ## Lexemes -/

/-- A control sequence, or a character outside of any. -/
inductive Lexeme where
  | sequence (t : Text)
  | plain (c : Char)
deriving DecidableEq, Repr

/-- The characters of a lexeme. -/
def Lexeme.text : Lexeme → Text
  | sequence t => t
  | plain c => [c]

/-- The lexemes of a text, where so many characters still belong to the last sequence. -/
def lexemesAfter : (skip : Nat) → Text → List Lexeme
  | _, [] => []
  | n + 1, _ :: t => lexemesAfter n t
  | 0, c :: t =>
    match sequenceAt? (c :: t) with
    | some s => .sequence s :: lexemesAfter (s.length - 1) t
    | none => .plain c :: lexemesAfter 0 t

/-- A text cut into sequences and single characters, from left to right. -/
def lexemes (t : Text) : List Lexeme :=
  lexemesAfter 0 t

@[simp] theorem lexemes_nil : lexemes [] = [] := rfl

end Highlighting.Ansi
