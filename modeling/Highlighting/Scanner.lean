import Highlighting.Pattern

/-!
# Scanners

A scanner looks for the matches of subjects one after the other. It keeps a cursor over a pattern,
which any number of scanners may share, and every call moves the cursor on. Only a call that fails
leaves it where it was.

## Main definitions

* `Scanner`, `Pattern.scanner` -- a cursor kept over a pattern, and the one before any subject.
* `Scanner.advance`, `Scanner.reset` -- the next match of a subject, and back to the start.
* `Scanner.Call`, `Scanner.run` -- calls one after the other, with their answers.
* `Scanner.runAll` -- calls on any number of scanners.
-/
namespace Highlighting

/-- A cursor that is kept over a pattern. -/
structure Scanner where
  pattern : Pattern
  cursor : Cursor
deriving DecidableEq, Repr

/-- A scanner of a pattern, before any subject. -/
def Pattern.scanner (p : Pattern) : Scanner := ⟨p, .start⟩

namespace Scanner

/-- What a call answers: a match, or nothing, unless it fails. -/
abbrev Answer := Except Failure (Option Match)

/-- The subject that is followed, if there is one. -/
def subject (sc : Scanner) : Option Text := sc.cursor.subject

/-- The position in the subject. -/
def index (sc : Scanner) : Int := sc.cursor.index

/-- The next match of a subject, and the scanner behind it. -/
def advance (sc : Scanner) (subject : Text) : Answer × Scanner :=
  match sc.pattern.advance subject sc.cursor with
  | .ok (found, c) => (.ok found, { sc with cursor := c })
  | .error e => (.error e, sc)

/-- The scanner before any subject. -/
def reset (sc : Scanner) : Scanner := { sc with cursor := .start }

/-- What a scanner can be asked. -/
inductive Call where
  | advance (subject : Text)
  | reset
deriving DecidableEq, Repr

/-- The answer to a call, and the scanner behind it. A reset finds nothing. -/
def serve (sc : Scanner) : Call → Answer × Scanner
  | .advance subject => sc.advance subject
  | .reset => (.ok none, sc.reset)

/-- The answers to calls one after the other, and the scanner behind them. -/
def run (sc : Scanner) : List Call → List Answer × Scanner
  | [] => ([], sc)
  | call :: calls =>
    let (answer, sc) := sc.serve call
    let (answers, sc) := run sc calls
    (answer :: answers, sc)

/-- The answers to calls on several scanners, each with the name of the scanner that was called, and
the scanners behind them. -/
def runAll {ι : Type} [DecidableEq ι] (scs : ι → Scanner) :
    List (ι × Call) → List (ι × Answer) × (ι → Scanner)
  | [] => ([], scs)
  | (i, call) :: calls =>
    let (answer, sc) := (scs i).serve call
    let (answers, scs) := runAll (fun j => if j = i then sc else scs j) calls
    ((i, answer) :: answers, scs)

end Scanner

end Highlighting
