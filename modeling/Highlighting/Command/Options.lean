import Highlighting.Command.Switch

/-!
# Options

The options of a call, as its command line gives them. Switches are taken from left to right. The
first stretch of values names the files; values behind a later switch cannot be used. A switch
that asks for help ends the reading, so whatever is wrong behind it does not count, but words
that cannot be told apart are found before all else.

## Main definitions

* `Options` -- the options of a call.
* `Options.parse` -- the options that a command line gives, or why there are none.
-/
namespace Highlighting

/-- The options of a call. -/
structure Options where
  files : List Text
  base : Option Text
  noColor : Bool
  forceColor : Bool
  interactive : Bool
  palette : Bool
  logging : Bool
  logFile : Option Text
deriving DecidableEq, Repr

namespace Options

/-- The options of a call without words. -/
def default : Options := ⟨[], none, false, false, false, false, false, none⟩

/-- Whether output is colored, if the options say so. -/
def color? (o : Options) : Option Bool :=
  if o.noColor then some false else if o.forceColor then some true else none

/-- Why a command line gives no options. -/
inductive Stop where
  /-- Help is asked for. -/
  | help
  | usage (e : UsageError)
deriving DecidableEq, Repr

/-- The options with a switch that takes no value. -/
def turnOn (o : Options) : Switch → Except Stop Options
  | .help => .error .help
  | .noColor =>
    if o.forceColor then .error (.usage (.conflict .noColor .forceColor))
    else .ok { o with noColor := true }
  | .forceColor =>
    if o.noColor then .error (.usage (.conflict .forceColor .noColor))
    else .ok { o with forceColor := true }
  | .interactive => .ok { o with interactive := true }
  | .palette => .ok { o with palette := true }
  | .logging => .ok { o with logging := true }
  | s => .error (.usage (.missingValue s))

/-- The options with a switch that takes a value. -/
def assign (o : Options) (s : Switch) (value : Text) : Options :=
  match s with
  | .base => { o with base := some value }
  | .logFile => { o with logFile := some value }
  | _ => o

/-- The switches of a switch's letter and of the letters joined to it. Each of them must take no
value. -/
def joinedSwitches (s : Switch) : Text → Except UsageError (List Switch)
  | [] => .ok [s]
  | c :: rest =>
    match Switch.ofLetter? c with
    | some next => (joinedSwitches next rest).map (s :: ·)
    | none => .error (.extraValue s (c :: rest))

/-- The reading of a command line so far: the options, whether the files have been named, and
the words that cannot be used. -/
structure Progress where
  options : Options
  named : Bool
  unused : List Text
deriving DecidableEq, Repr

/-- The reading with other options. -/
def Progress.having (p : Progress) (o : Options) : Progress := { p with options := o }

/-- The values of a stretch, without its first separator. -/
def valuesOf (stretch : List Text) : List Text :=
  stretch.erase ['-', '-']

/-- The reading after a stretch of values. The first one names the files. -/
def Progress.take (p : Progress) (stretch : List Text) : Progress :=
  if stretch = [] then p
  else if p.named then { p with unused := p.unused ++ stretch }
  else ⟨{ p.options with files := valuesOf stretch }, true, p.unused⟩

/-- Read words, given the stretch of values that ends before them. -/
def readWords (p : Progress) (stretch : List Text) : List Word → Except Stop Progress
  | [] => .ok (p.take stretch)
  | .value t :: rest => readWords p (stretch ++ [t]) rest
  | .separator :: rest => readWords p (stretch ++ [['-', '-']]) rest
  | .unknown t :: rest =>
    let p := p.take stretch
    readWords { p with unused := p.unused ++ [t] } [] rest
  | .long s (some v) :: rest =>
    let p := p.take stretch
    if s.takesValue then readWords (p.having (p.options.assign s v)) [] rest
    else .error (.usage (.extraValue s v))
  | .long s none :: rest => do
    let p := p.take stretch
    if s.takesValue then
      match rest with
      | .value v :: rest => readWords (p.having (p.options.assign s v)) [] rest
      | _ => throw (.usage (.missingValue s))
    else
      let o ← p.options.turnOn s
      readWords (p.having o) [] rest
  | .short s joined :: rest => do
    let p := p.take stretch
    let ss ← match joined with
      | none => pure [s]
      | some [] => throw (.usage (.extraValue s []))
      | some t =>
        match joinedSwitches s t with
        | .ok ss => pure ss
        | .error e => throw (.usage e)
    let o ← ss.foldlM turnOn p.options
    readWords (p.having o) [] rest

/-- The options that a command line gives. -/
def parse (words : List Text) : Except Stop Options :=
  match Word.ofTexts words with
  | .error e => .error (.usage e)
  | .ok ws => do
    let p ← readWords ⟨default, false, []⟩ [] ws
    if p.unused = [] then return p.options
    else throw (.usage (.unrecognized p.unused))

end Options

end Highlighting
