import Highlighting.Command.Switch
import Highlighting.Text.Filled

/-!
# Usage

The texts that tell how the command is called. They are laid out for lines of a given width,
though no text is ever squeezed into less than a least width. What a switch does stands to the
right of its name, or below it if the name is too long for that.

## Main definitions

* `Usage.summary`, `Usage.help` -- the short and the long text.
* `Usage.complaint` -- the answer to a command line that is wrong.
-/
namespace Highlighting.Usage

/-- The name of the command. -/
def name : String := "hilite"

/-- The least width for which text is laid out. -/
def leastWidth : Nat := 11

/-- The width that is left for text behind an indentation, where lines have so many columns. Two
of them stay free at the edge. -/
def textWidth (columns indentation : Nat) : Nat :=
  max (columns - 2 - indentation) leastWidth

/-- Lines behind an indentation. -/
def indented (n : Nat) (lines : List Text) : List Text :=
  lines.map (Text.spaces n ++ ·)

/-! ## Forms of a call -/

/-- A name with what a value of the switch is called. -/
def withValue (s : Switch) (given : String) : String :=
  match s.valueName? with
  | some v => given ++ " " ++ v
  | none => given

/-- The short name of a switch, or else the long one. -/
def shortestName (s : Switch) : String :=
  match s.letter? with
  | some c => "-" ++ String.singleton c
  | none => s.longName

/-- Switches of which one may be given. -/
def choice (group : List Switch) : Text :=
  ("[" ++ " | ".intercalate (group.map fun s => withValue s (shortestName s)) ++ "]").toList

/-- The switches that may be given. -/
def switchForms : List Text := Switch.groups.map choice

/-- The values that may be given. -/
def valueForms : List Text := ["[files ...]".toList]

/-- What stands before the name of the command. -/
def lead : String := "usage: "

/-- The beginning of a call. -/
def opening : Text := (lead ++ name).toList

/-- The forms of a call in several lines. If the name of the command takes up most of a line,
nothing stands behind it. -/
def summaryRows (width : Nat) : List Text :=
  let isShort := opening.length * 4 ≤ width * 3
  let indentation := if isShort then opening.length + 1 else lead.length
  let rows := Text.fill (width - indentation) switchForms
    ++ Text.fill (width - indentation) valueForms
  if isShort then
    match rows with
    | [] => [opening]
    | first :: rest => (opening ++ ' ' :: first) :: indented indentation rest
  else opening :: indented indentation rows

/-- The lines that show the forms of a call: one if they fit, with the values behind the
switches. -/
def summaryLines (columns : Nat) : List Text :=
  let width := textWidth columns 0
  let whole := Text.joinWith [' '] (opening :: switchForms ++ valueForms)
  if whole.length ≤ width then [whole] else summaryRows width

/-- Lines as a text. -/
def unlines (lines : List Text) : String :=
  String.ofList (lines.flatMap (· ++ ['\n']))

/-- The forms of a call. -/
def summary (columns : Nat) : String := unlines (summaryLines columns)

/-! ## What is explained -/

/-- What a switch does. -/
def purpose : Switch → String
  | .help => "show this help message and exit"
  | .base => "Escape restored after each token, e.g. \"\\033[0m\""
  | .noColor => "Write text unchanged"
  | .forceColor => "Color even when output is not a terminal"
  | .interactive => "Highlight lines typed at a prompt"
  | .palette => "Show the color palette and exit"
  | .logging => "Enable debug logging"
  | .logFile => "Log file path (use \"-\" for stdout)"

/-- The names of a switch, with what its value is called. -/
def switchHead (s : Switch) : String :=
  match s.letter? with
  | some c => "-" ++ String.singleton c ++ ", " ++ withValue s s.longName
  | none => withValue s s.longName

/-- The switches and what they do. -/
def switchEntries : List (Text × String) :=
  Switch.all.map fun s => ((switchHead s).toList, purpose s)

/-- The values and what they mean. -/
def valueEntries : List (Text × String) :=
  [("files".toList, "Files to highlight (reads stdin when none are given)")]

/-- The columns before an entry, and between its head and what explains it. -/
def gap : Nat := 2

/-- The column at which explanations start: behind the longest head, unless there is too little
room. -/
def explanationColumn (columns : Nat) : Nat :=
  let longest := (switchEntries ++ valueEntries).foldl (fun n e => max n e.1.length) 0
  min (gap + longest + gap) (min 24 (max (columns - 2 - 20) 4))

/-- The words of a text. -/
def wordsOf (s : String) : List Text :=
  s.toList.splitOn ' '

/-- The lines of an entry. -/
def entryLines (columns : Nat) (entry : Text × String) : List Text :=
  let column := explanationColumn columns
  let explanation := Text.fill (textWidth columns column) (wordsOf entry.2)
  let headWidth := column - gap - gap
  if entry.1.length ≤ headWidth then
    match explanation with
    | [] => indented gap [entry.1]
    | first :: rest =>
      (Text.spaces gap ++ Text.pad headWidth entry.1 ++ Text.spaces gap ++ first)
        :: indented column rest
  else indented gap [entry.1] ++ indented column explanation

/-- Entries under a heading. -/
def sectionLines (columns : Nat) (heading : String) (entries : List (Text × String)) :
    List Text :=
  heading.toList :: entries.flatMap (entryLines columns)

/-- What the command is for. -/
def descriptionLines (columns : Nat) : List Text :=
  Text.fill (textWidth columns 0) (wordsOf "Highlight text for the terminal")

/-- The forms of a call, and what each switch does. -/
def help (columns : Nat) : String :=
  let parts := [summaryLines columns, descriptionLines columns,
    sectionLines columns "positional arguments:" valueEntries,
    sectionLines columns "options:" switchEntries]
  unlines (["".toList].intercalate parts)

/-- The answer to a command line that is wrong. -/
def complaint (columns : Nat) (e : UsageError) : String :=
  summary columns ++ name ++ ": error: " ++ e.message ++ "\n"

/-- The report of a failure. -/
def report (message : String) : String :=
  name ++ ": " ++ message ++ "\n"

end Highlighting.Usage
