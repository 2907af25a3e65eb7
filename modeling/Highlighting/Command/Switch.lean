import Highlighting.Text.Quoted
import Highlighting.Unicode.Numeric

/-!
# Words of a command line

A word of a command line is a switch, a value, or the separator behind which every word is a
value. A switch has a long name, and some have a short name too. A long name may be cut short as
long as no other switch starts in the same way, and a value may be joined to it with an equals
sign. A short name is joined to its value directly, and short names that take no value may be
joined to each other.

What starts with a dash is a switch, even if there is none of that name. Only a dash alone, a
negative number, and an unknown switch with a space in it are values.

## Main definitions

* `Switch` -- the switches.
* `Word`, `Word.ofText` -- the words.
* `UsageError` -- what can be wrong with a command line.
-/
namespace Highlighting

/-- A switch of the command. -/
inductive Switch where
  | help
  | base
  | noColor
  | forceColor
  | interactive
  | palette
  | logging
  | logFile
deriving DecidableEq, Repr

namespace Switch

/-- All switches, in the order in which they are listed. Those that exclude each other stand
together. -/
def groups : List (List Switch) :=
  [[help], [base], [noColor, forceColor], [interactive], [palette], [logging], [logFile]]

/-- All switches. -/
def all : List Switch := groups.flatten

/-- The long name of a switch. -/
def longName : Switch → String
  | help => "--help"
  | base => "--base"
  | noColor => "--no-color"
  | forceColor => "--force-color"
  | interactive => "--interactive"
  | palette => "--palette"
  | logging => "--enable-logging"
  | logFile => "--log-file"

/-- The letter that is the short name of a switch. -/
def letter? : Switch → Option Char
  | help => some 'h'
  | interactive => some 'i'
  | _ => none

/-- What the value of a switch is called, if it takes one. -/
def valueName? : Switch → Option String
  | base => some "BASE"
  | logFile => some "LOG_FILE"
  | _ => none

/-- The switch takes a value. -/
def takesValue (s : Switch) : Bool := s.valueName?.isSome

/-- The switch of a letter. -/
def ofLetter? (c : Char) : Option Switch :=
  all.find? (·.letter? == some c)

/-- The switch of a name, long or short. -/
def ofName? (t : Text) : Option Switch :=
  match t with
  | ['-', c] => ofLetter? c
  | _ => all.find? (·.longName.toList == t)

/-- All names of a switch, with a slash between them. -/
def names (s : Switch) : String :=
  match s.letter? with
  | some c => "-" ++ String.singleton c ++ "/" ++ s.longName
  | none => s.longName

/-- The name of a switch has only one dash. -/
def isShort (name : Text) : Bool :=
  match name with
  | ['-', c] => c != '-'
  | _ => false

/-- The switches whose long names start with a text. -/
def startingWith (t : Text) : List Switch :=
  all.filter fun s => t.isPrefixOf s.longName.toList

end Switch

/-- What can be wrong with a command line. -/
inductive UsageError where
  /-- Several switches start with the word. -/
  | ambiguous (word : Text) (candidates : List Switch)
  /-- A switch has no value. -/
  | missingValue (s : Switch)
  /-- A switch takes no value but has one. -/
  | extraValue (s : Switch) (value : Text)
  /-- Two switches exclude each other. -/
  | conflict (s other : Switch)
  /-- Words that cannot be used. -/
  | unrecognized (words : List Text)
deriving DecidableEq, Repr

/-- The error in words. -/
def UsageError.message : UsageError → String
  | ambiguous w ss =>
    "ambiguous option: " ++ String.ofList w ++ " could match "
      ++ ", ".intercalate (ss.map Switch.longName)
  | missingValue s => "argument " ++ s.names ++ ": expected one argument"
  | extraValue s v =>
    "argument " ++ s.names ++ ": ignored explicit argument " ++ String.ofList v.quoted
  | conflict s o => "argument " ++ s.names ++ ": not allowed with argument " ++ o.names
  | unrecognized ws => "unrecognized arguments: " ++ " ".intercalate (ws.map String.ofList)

/-- A word of a command line. -/
inductive Word where
  | value (t : Text)
  /-- The word behind which all words are values. -/
  | separator
  /-- A switch under a long name, and the value joined to it. -/
  | long (s : Switch) (joined : Option Text)
  /-- A switch under its letter, and what is joined to it. -/
  | short (s : Switch) (joined : Option Text)
  /-- A switch that does not exist. -/
  | unknown (t : Text)
deriving DecidableEq, Repr

namespace Word

/-- A switch as a word, by the form of its name. -/
def ofSwitch (name : Text) (s : Switch) (joined : Option Text) : Word :=
  if Switch.isShort name then short s joined else long s joined

/-- A word cut at its first equals sign, if it has one. -/
def cut (t : Text) : Text × Option Text :=
  match t.dropWhile (· != '=') with
  | _ :: rest => (t.takeWhile (· != '='), some rest)
  | [] => (t, none)

/-- A number with a dash before it: digits of any script, with at most one point before the last
of them. A newline may follow it. -/
def isNegativeNumber (t : Text) : Bool :=
  match t with
  | '-' :: rest =>
    let rest := if rest.getLast? = some '\n' then rest.dropLast else rest
    match rest.dropWhile Unicode.isDecimal with
    | [] => rest != []
    | '.' :: fraction => fraction != [] && fraction.all Unicode.isDecimal
    | _ => false
  | _ => false

/-- A word that starts with a dash and is no switch: a value, or a switch that is unknown. -/
def ofOther (t : Text) : Word :=
  if isNegativeNumber t || t.contains ' ' then value t else unknown t

/-- A word that may be the start of a long name. -/
def ofStart (t : Text) : Except UsageError Word :=
  let (start, joined) := cut t
  match Switch.startingWith start with
  | [] => .ok (ofOther t)
  | [s] => .ok (long s joined)
  | ss => .error (.ambiguous t ss)

/-- A word that has two dashes or a letter behind its first dash, and is no name. -/
def ofDashed : Text → Except UsageError Word
  | '-' :: '-' :: rest => ofStart ('-' :: '-' :: rest)
  | '-' :: c :: rest =>
    match Switch.ofLetter? c with
    | some s => .ok (short s (some rest))
    | none => .ok (ofOther ('-' :: c :: rest))
  | t => .ok (value t)

/-- The word of a text before any separator. -/
def ofText (t : Text) : Except UsageError Word :=
  if t.head? ≠ some '-' ∨ t = ['-'] then .ok (value t)
  else if t = ['-', '-'] then .ok separator
  else
    match Switch.ofName? t with
    | some s => .ok (ofSwitch t s none)
    | none =>
      match cut t with
      | (name, some joined) =>
        match Switch.ofName? name with
        | some s => .ok (ofSwitch name s (some joined))
        | none => ofDashed t
      | (_, none) => ofDashed t

/-- The words of texts. Behind a separator all are values. -/
def ofTexts : List Text → Except UsageError (List Word)
  | [] => .ok []
  | t :: rest => do
    match ← ofText t with
    | separator => return separator :: rest.map value
    | w => return w :: (← ofTexts rest)

end Word

end Highlighting
