import Highlighting.Ansi.Sequence
import Highlighting.Text.Quoted

/-!
# Segments

A text that holds control sequences is a row of segments, escape segments and plain ones in
turn. Neighbouring sequences make one escape segment. Those of its sequences that select the
rendition become the active escape of the plain text after it; if there are none, the escape
that was active before it stays so.

## Main definitions

* `Segment`, `Segments` -- a text in segments, with the escape that is active at its start.
* `Segments.split` -- the segments of a text.
* `Segments.activeBefore` -- the escape that is active before a segment.
-/
namespace Highlighting

/-- A part of a text. For plain text `active` is the escape in effect before it, and for
escapes the one in effect behind them. -/
structure Segment where
  text : Text
  escape : Bool
  active : Text
deriving DecidableEq, Repr

/-- A text in segments, and the escape assumed to be active at its start. -/
structure Segments where
  segments : List Segment
  base : Text
deriving DecidableEq, Repr

/-- Why there is no segment at an index. -/
inductive IndexFault where
  /-- There are not so many segments. -/
  | absent
  /-- The index is out of the range of indices. -/
  | outOfRange
deriving DecidableEq, Repr

namespace IndexFault

/-- Indices lie below this number, and not below its opposite. -/
def limit : Int := 9223372036854775808

/-- The fault in words. -/
def message : IndexFault → String
  | absent => "list index out of range"
  | outOfRange => "cannot fit 'int' into an index-sized integer"

end IndexFault

/-- The escape that resets the rendition. -/
def resetEscape : Text := [Ansi.esc, '[', '0', 'm']

namespace Ansi

/-- A stretch of plain text, or of control sequences. -/
inductive Run where
  | plain (t : Text)
  | escapes (ss : List Text)
deriving DecidableEq, Repr

/-- A row of runs with one more lexeme in front. -/
def Run.cons : Lexeme → List Run → List Run
  | .plain c, .plain t :: runs => .plain (c :: t) :: runs
  | .plain c, runs => .plain [c] :: runs
  | .sequence s, .escapes ss :: runs => .escapes (s :: ss) :: runs
  | .sequence s, runs => .escapes [s] :: runs

/-- The runs of a row of lexemes. -/
def runs (ls : List Lexeme) : List Run :=
  ls.foldr Run.cons []

/-- The sequences of a run that select the rendition, joined. -/
def renditions (ss : List Text) : Text :=
  (ss.filter isRendition).flatten

/-- The escape that is active behind a run of sequences. -/
def activeAfter (active : Text) (ss : List Text) : Text :=
  if renditions ss = [] then active else renditions ss

/-- The segments of a row of runs, from the escape that is active before it. -/
def segmentsFrom : (active : Text) → List Run → List Segment
  | _, [] => []
  | active, .plain t :: runs => ⟨t, false, active⟩ :: segmentsFrom active runs
  | active, .escapes ss :: runs =>
    let active := activeAfter active ss
    ⟨ss.flatten, true, active⟩ :: segmentsFrom active runs

end Ansi

namespace Segments

/-- A text in segments. -/
def split (text base : Text) : Segments :=
  ⟨Ansi.segmentsFrom base (Ansi.runs (Ansi.lexemes text)), base⟩

/-- The text of the segments. -/
def text (s : Segments) : Text :=
  s.segments.flatMap (·.text)

/-- The number of segments. -/
def length (s : Segments) : Nat := s.segments.length

/-- The segments before an index, where a negative one counts from the end. -/
def upTo (s : Segments) (i : Int) : List Segment :=
  if i < 0 then s.segments.take (s.segments.length + i).toNat else s.segments.take i.toNat

/-- The segment at an index, where a negative one counts from the end. -/
def item (s : Segments) (i : Int) : Except IndexFault Segment :=
  if i < -IndexFault.limit ∨ IndexFault.limit ≤ i then .error .outOfRange
  else
    let j := if i < 0 then s.segments.length + i else i
    match if j < 0 then none else s.segments[j.toNat]? with
    | some segment => .ok segment
    | none => .error .absent

/-- The escape that is active behind a row of segments. -/
def activeBehind (base : Text) (segments : List Segment) : Text :=
  match segments.reverse.find? (·.escape) with
  | some s => s.active
  | none => base

/-- The escape that is active before the segment of an index. -/
def activeBefore (s : Segments) (i : Int) : Text :=
  activeBehind s.base (s.upTo i)

/-- A segment as an expression that builds it. -/
def describeSegment (s : Segment) : Text :=
  "Segment(text=".toList ++ s.text.quoted ++ ", escape=".toList
    ++ (if s.escape then "True" else "False").toList ++ ", active=".toList ++ s.active.quoted
    ++ [')']

/-- The segments as an expression that builds them. -/
def described (s : Segments) : Text :=
  "Segments([".toList ++ Text.joinWith ", ".toList (s.segments.map describeSegment) ++ "])".toList

end Segments

end Highlighting
