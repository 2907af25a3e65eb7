import Highlighting.Ansi.Segment
import Highlighting.Grammar.Basic
import Highlighting.Logged

/-!
# Highlighting a text

A text is colored segment by segment. Control sequences that it holds already are left alone,
and behind every token of a plain segment the escape active in the segment is restored. Every
call is recorded, and so is an error of the library that ends it.

## Main definitions

* `Highlighter`, `Highlighter.colorize` -- a grammar with a base escape, and a text colored.
-/
namespace Highlighting

/-- A grammar with the escape that is restored where no earlier sequence says otherwise. -/
structure Highlighter where
  grammar : Grammar
  base : Text

namespace Highlighter

/-- A segment with its tokens colored. -/
def colorSegment (g : Grammar) (s : Segment) : Except Failure Text :=
  if s.escape then .ok s.text else g.substitute s.text s.active

/-- Segments with their tokens colored, joined. -/
def colorSegments (g : Grammar) (segments : List Segment) : Except Failure Text := do
  let parts ← segments.mapM (colorSegment g)
  return parts.flatten

/-- The record of a call that begins. -/
def startRecord (text : Text) (segments : Segments) : LogRecord :=
  ⟨.debug, "Colorizing " ++ toString text.length ++ " chars in " ++ toString segments.length
    ++ " segments"⟩

/-- The records of a failure: one if it is an error of the library. -/
def failureRecords (e : Failure) : List LogRecord :=
  if e.isHighlighting then [⟨.error, "Highlight error: " ++ e.message⟩] else []

/-- A text with its tokens colored. The base given, or else the highlighter's own, is restored
behind tokens that no earlier sequence governs. -/
def colorize (h : Highlighter) (text : Text) (base : Option Text) : Logged Text :=
  let segments := Segments.split text (base.getD h.base)
  let first := startRecord text segments
  match colorSegments h.grammar segments.segments with
  | .ok t => ⟨.ok t, [first]⟩
  | .error e => ⟨.error e, first :: failureRecords e⟩

end Highlighter

end Highlighting
