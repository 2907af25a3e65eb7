import Highlighting.Style
import Highlighting.Text.Number

/-!
# The environment of a program

Variables of the environment decide whether output is colored: one that forbids colors wins over
one that forces them, and without either of them output is colored if it goes to a terminal. A
variable with an empty value counts as unset. How many colors a terminal has is told by what it
says of itself and by the end of its name; there are terminals that show plain text only. A
variable can also tell how wide lines are. What explains the command takes any whole number that
is positive, while tables take digits only.

## Main definitions

* `Environment` -- the variables.
* `Environment.allowsColor` -- whether output is colored.
* `Environment.depth?` -- how many colors a terminal has.
* `Environment.columns`, `Environment.room` -- how wide lines and tables are.
-/
namespace Highlighting

/-- The variables of an environment. -/
structure Environment where
  values : List (String × String)

namespace Environment

/-- The value of a variable, empty if it is unset. -/
def value (env : Environment) (name : String) : String :=
  (env.values.lookup name).getD ""

/-- A variable has a value that is not empty. -/
def isSet (env : Environment) (name : String) : Bool :=
  env.value name != ""

/-- Colors are forbidden. -/
def forbidsColor (env : Environment) : Bool := env.isSet "NO_COLOR"

/-- Colors are forced. -/
def forcesColor (env : Environment) : Bool := env.isSet "FORCE_COLOR"

/-- Output is colored, depending on whether it goes to a terminal. -/
def allowsColor (env : Environment) (terminal : Bool) : Bool :=
  !env.forbidsColor && (env.forcesColor || terminal)

/-- A value in lower case. -/
def lowered (env : Environment) (name : String) : Text :=
  Unicode.toLower (env.value name).toList

/-- A text without the white space around it. -/
def trimmed (t : Text) : Text :=
  ((t.dropWhile Unicode.isBlank).reverse.dropWhile Unicode.isBlank).reverse

/-- The names of terminals that show plain text only. -/
def plainTerminals : List String := ["dumb", "unknown"]

/-- A terminal shows plain text only. -/
def isPlainTerminal (env : Environment) : Bool :=
  plainTerminals.contains (String.ofList (env.lowered "TERM"))

/-- What a variable says where a terminal shows colors by their parts. -/
def fullColors : List String := ["truecolor", "24bit"]

/-- The ends of the names of terminals that have the table of colors. -/
def tableTerminals : List String := ["kitty", "256color"]

/-- How many colors a terminal has, if it has any. -/
def depth? (env : Environment) : Option TextColor.Depth :=
  let isOneOf (names : List String) (t : Text) : Bool := names.contains (String.ofList t)
  if env.isPlainTerminal then none
  else if isOneOf fullColors (trimmed (env.lowered "COLORTERM")) then some .table
  else
    let last := ((trimmed (env.lowered "TERM")).reverse.takeWhile (· != '-')).reverse
    some (if isOneOf tableTerminals last then .table else .sixteen)

/-- How wide lines are unless a variable says so. -/
def standardColumns : Nat := 80

/-- The whole number that a text stands for, if it has no minus. Underscores may stand between
its digits, and white space around it. -/
def wholeNumber? (t : Text) : Option Nat :=
  let unsigned := match trimmed t with
    | '+' :: rest => rest
    | t => t
  let parts := unsigned.splitOn '_'
  if parts.contains [] then none else (readNumber parts.flatten).toOption

/-- How wide the lines are in which the command is explained. -/
def columns (env : Environment) : Nat :=
  match wholeNumber? (env.value "COLUMNS").toList with
  | some (n + 1) => n + 1
  | _ => standardColumns

/-- The size that a variable gives, if it consists of digits. Digits that are not decimal stand
for no number. -/
def size? (env : Environment) (name : String) : Except NumberFault (Option Nat) :=
  let t := (env.value name).toList
  if t ≠ [] ∧ t.all Unicode.isDigit then (readNumber t).map some else .ok none

/-- How wide a table can be. The size of a terminal that shows plain text only must be given in
full to count. -/
def room (env : Environment) (terminal : Bool) : Except NumberFault Nat := do
  let width ← env.size? "COLUMNS"
  let height ← env.size? "LINES"
  if terminal && env.isPlainTerminal && height.isNone then return standardColumns
  return width.getD standardColumns

end Environment

end Highlighting
