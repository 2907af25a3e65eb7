import Highlighting.Ansi.Display
import Highlighting.Ansi.Fragment
import Highlighting.Grammar.Stock
import Highlighting.Highlighter
import Highlighting.Text.Newlines

/-!
# Consoles

A console puts a palette, a grammar and a highlighter together and knows whether output is
colored at all. If it is not, texts pass through unchanged. What a terminal or a prompt makes of a
painted text is up to its decoder, so that is given along with the text.

## Main definitions

* `Console`, `Console.assemble` -- consoles.
* `Console.colorize` -- a text as it is written.
* `Console.render` -- a text as a terminal shows it in color.
* `Console.fragments` -- the lines of a text while it is typed.
-/
namespace Highlighting

/-- A palette, a highlighter, and whether output is colored. -/
structure Console where
  palette : Palette
  highlighter : Highlighter
  enabled : Bool

namespace Console

/-- The escape that a console restores: the one given, or else the palette's format for
resetting, or else the escape that resets. An empty one counts as none. -/
def baseEscape (palette : Palette) (given : Option Text) : Text :=
  match [given.getD [], palette.format "RESET"].find? (· ≠ []) with
  | some t => t
  | none => resetEscape

/-- The rules of a console: those given, or else the stock rules in the colors of a palette. -/
def rulesOf (palette : Palette) : Option RuleSet → Except Failure RuleSet
  | some rules => .ok rules
  | none => (Stock.rules? palette).map .sequence

/-- The grammar of a console. -/
def grammarOf (palette : Palette) (rules : Option RuleSet) : Except Failure Grammar := do
  Grammar.compile (← rulesOf palette rules) Grammar.defaultFlags Grammar.defaultMaxDepth

/-- The record of a grammar that was compiled. -/
def compiledRecord (g : Grammar) : LogRecord :=
  ⟨.debug, "Compiled grammar with rules: " ++ ", ".intercalate g.names⟩

/-- The records of a console that does not color its output. -/
def disabledRecords (enabled : Bool) : List LogRecord :=
  if enabled then [] else [⟨.debug, "Color disabled, text will pass through unchanged"⟩]

/-- The record of a console that cannot be assembled. -/
def failedRecord (e : Failure) : LogRecord := ⟨.error, "Init error: " ++ e.message⟩

/-- The console of rules, a base escape and a palette. -/
def assemble (rules : Option RuleSet) (base : Option Text) (palette : Palette) (enabled : Bool) :
    Logged Console :=
  match grammarOf palette rules with
  | .ok g =>
    ⟨.ok ⟨palette, ⟨g, baseEscape palette base⟩, enabled⟩,
      compiledRecord g :: disabledRecords enabled⟩
  | .error e => ⟨.error e, [failedRecord e]⟩

/-- A text as it is written: highlighted, or unchanged if output is not colored. -/
def colorize (c : Console) (text : Text) (base : Option Text) : Logged Text :=
  if c.enabled then c.highlighter.colorize text base else pure text

/-- What a terminal shows of a highlighted text, by its decoder. -/
def render (c : Console) (decode : Display.Decoder) (text : Text) : Logged Display := do
  .ofResult (decode (← c.highlighter.colorize text none))

/-- The fragments of a line as it is shown at a prompt, by the decoder of the prompt. -/
def lineFragments (c : Console) (decode : Fragment.Decoder) (line : Text) :
    Logged (List Fragment) := do
  .ofResult (decode (← c.colorize line none))

/-- The fragments of the lines of a text while it is typed. Each line is colored by itself. -/
def fragments (c : Console) (decode : Fragment.Decoder) (text : Text) :
    Logged (List (List Fragment)) :=
  text.lines.mapM (c.lineFragments decode)

/-- The line of a number, where negative numbers count from the end. There is an empty line
under every other number. -/
def lineAt (lines : List (List Fragment)) (n : Int) : List Fragment :=
  let i := if n < 0 then lines.length + n else n
  if i < 0 then [] else (lines[i.toNat]?).getD []

end Console

end Highlighting
