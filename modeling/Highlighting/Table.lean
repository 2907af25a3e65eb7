import Highlighting.Palette
import Highlighting.Table.Widths
import Highlighting.Text.Filled

/-!
# Tables

A table has a title, headings and rows of cells. Each column is as wide as its widest cell, and a
cell has one column of space on either side. If there is less room, columns are made narrower, and
a cell that does not fit is cut; what still is too wide is cut off at the edge. The title stands in
the middle above the table, in italics and in as many lines as it takes; the headings are bold and
stand in a heavy frame, the rows in a light one. Every character takes one column, and a cell is a
word without spaces.

A text is painted by the rendition codes of its style before it and the code that resets behind
it. On paper that is not colored, texts are not painted.

## Main definitions

* `Cell`, `Table` -- tables.
* `Paint` -- how texts are painted.
* `Table.lines` -- the lines of a table.
* `Palette.preview` -- the colors of a palette as a table.
-/
namespace Highlighting

/-- A text in a style. -/
structure Cell where
  text : Text
  style : Style
deriving DecidableEq, Repr

/-- A table. -/
structure Table where
  title : Text
  headings : List Text
  rows : List (List Cell)
deriving DecidableEq, Repr

/-- How texts are painted. -/
inductive Paint where
  /-- Not at all. -/
  | plain
  /-- With their attributes. -/
  | attributes
  /-- With their attributes and their colors, of which the terminal has so many. -/
  | colored (depth : TextColor.Depth)
deriving DecidableEq, Repr

namespace Paint

/-- Codes as a text with semicolons between. -/
def joinCodes (codes : List Nat) : Text :=
  Text.joinWith [';'] (codes.map (Nat.toDigits 10))

/-- A text between the codes of its style and the code that resets. Nothing is painted by
nothing. -/
def wrapCodes (codes : List Nat) (t : Text) : Text :=
  if codes = [] ∨ t = [] then t else formatEscape (joinCodes codes) ++ t ++ resetEscape

/-- A text in a style, as it is painted. -/
def apply (paint : Paint) (style : Style) (t : Text) : Text :=
  match paint with
  | plain => t
  | attributes => wrapCodes (style.withoutColor.codes .table) t
  | colored depth => wrapCodes (style.codes depth) t

/-- A row of texts, each in its style, as it is painted. -/
def line (paint : Paint) (cells : List Cell) : Text :=
  cells.flatMap fun c => paint.apply c.style c.text

end Paint

namespace Table

/-- The style of headings. -/
def headingStyle : Style := Style.plain.switch .bold true

/-- The style of the title. -/
def titleStyle : Style := Style.plain.switch .italic true

/-- A text in no style. -/
def unstyled (t : Text) : Cell := ⟨t, .plain⟩

/-- The widths that the columns ask for: that of the widest cell, and a space on either side. -/
def wishes (t : Table) : List Nat :=
  t.headings.zipIdx.map fun (h, i) =>
    (t.rows.map fun row => ((row[i]?).map (·.text.length)).getD 0).foldl max h.length + 2

/-- The widths of the columns, the spaces at their sides included, where there is so much room
for the table with its frame. -/
def widths (t : Table) (room : Nat) : List Nat :=
  Widths.narrowed (room - (t.headings.length + 1)) t.wishes

/-- A line of the frame: its left end, what it is made of, its crossings, and its right end. -/
def rule (widths : List Nat) (left across crossing right : Char) : Text :=
  let parts := widths.map fun w => List.replicate w across
  [left] ++ Text.joinWith [crossing] parts ++ [right]

/-- There is room for text between the spaces at the sides of a column. -/
def hasRoom (width : Nat) : Bool := 2 < width

/-- A cell between spaces in a style of their own, or nothing but space. -/
def spaced (margin : Style) (width : Nat) (c : Cell) : List Cell :=
  if hasRoom width then
    [⟨[' '], margin⟩, ⟨Text.fit (width - 2) c.text, c.style⟩, ⟨[' '], margin⟩]
  else [⟨Text.spaces width, margin⟩]

/-- A line of cells behind bars, and a bar at its end. -/
def cellLine (bar : Char) (cells : List (List Cell)) : List Cell :=
  cells.flatMap (fun c => unstyled [bar] :: c) ++ [unstyled [bar]]

/-- The line of headings. The space around them is bold too, unless there is nothing else. -/
def headingLine (widths : List Nat) (headings : List Text) : List Cell :=
  let margin := if widths.any hasRoom then headingStyle else .plain
  cellLine '┃' (widths.zipWith (fun w h => spaced margin w ⟨h, headingStyle⟩) headings)

/-- A line of cells. The space around them has no style. -/
def rowLine (widths : List Nat) (row : List Cell) : List Cell :=
  cellLine '│' (widths.zipWith (spaced .plain) row)

/-- The lines of the title. -/
def titleLines (width : Nat) (title : Text) : List (List Cell) :=
  (Text.fold width title).map fun t => [⟨Text.center width (Text.trimEnd t), titleStyle⟩]

/-- A line up to the edge of the room there is. -/
def cropped (room : Nat) : List Cell → List Cell
  | [] => []
  | c :: rest => ⟨c.text.take room, c.style⟩ :: cropped (room - c.text.length) rest

/-- The lines of a table where there is so much room, none if there is no room at all. -/
def lines (paint : Paint) (room : Nat) (t : Table) : List Text :=
  let ws := t.widths room
  let top := rule ws '┏' '━' '┳' '┓'
  let all := titleLines top.length t.title
    ++ [[unstyled top], headingLine ws t.headings, [unstyled (rule ws '┡' '━' '╇' '┩')]]
    ++ t.rows.map (rowLine ws)
    ++ [[unstyled (rule ws '└' '─' '┴' '┘')]]
  if room = 0 then [] else all.map fun line => paint.line (cropped room line)

end Table

/-- The colors of a palette as a table, if all have a style. -/
def Palette.preview (p : Palette) : Except StyleFault Table :=
  p.previewRows.map fun rows =>
    { title := Palette.previewTitle.toList
      headings := Palette.previewColumns.map String.toList
      rows := rows.map fun r =>
        [⟨r.name.toList, .plain⟩, ⟨r.sample.toList, r.style⟩, ⟨r.ansi.toList, .plain⟩] }

end Highlighting
