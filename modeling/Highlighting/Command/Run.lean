import Highlighting.Command.Options
import Highlighting.Command.Usage
import Highlighting.Console.Session
import Highlighting.Environment
import Highlighting.Files
import Highlighting.Table
import Highlighting.Text.Escaped

/-!
# Running the command

The command highlights files, or the standard input if none are named, one after the other; or
it shows the palette, or highlights lines that are typed. Errors of the library and of the
operating system are reported and end the command with status one, a wrong command line with
status two. Any other failure leaves the command unhandled.

## Main definitions

* `Surroundings` -- what the command can see.
* `Outcome` -- how it ends, and what it does until then.
* `run` -- the command.
-/
namespace Highlighting.Command

/-- What the command can see: files, the bytes of the standard input, the environment, whether
output goes to a terminal, what is typed at the prompt, how the prompt decodes a line, and what the
output does with surrogates. -/
structure Surroundings where
  files : Files
  input : List Nat
  environment : Environment
  terminal : Bool
  typing : Typing
  decoder : Fragment.Decoder
  surrogates : Surrogates

/-- How the command ends, by a status or by a failure that is not handled, what it does until
then, and what is seen at the prompt. -/
structure Outcome where
  ending : Except Failure Nat
  effects : List Effect
  transcript : Transcript

/-- Output is colored. -/
def enabled (s : Surroundings) (o : Options) : Bool :=
  o.color?.getD (s.environment.allowsColor s.terminal)

/-- The base escape may be written: output is colored, and it is not the palette, which restores
none. -/
def restores (s : Surroundings) (o : Options) : Bool :=
  enabled s o && !o.palette

/-- A base escape as it is given on the command line. Escapes in it are read if it is in ASCII. What
cannot be written is no base. Where it may be written it is refused at once, and not only when
something is painted; elsewhere it is passed over. -/
def baseOf (surrogates : Surrogates) (restores : Bool) (given : Option Text) :
    Except Failure (Option Text) :=
  match given with
  | none => .ok none
  | some t =>
    if t.all fun c => c.toNat < 128 then
      match Escaped.decode t with
      | .ok codes =>
        match (if restores then surrogates else .refused).textOf? codes with
        | some t => .ok (some t)
        | none => if restores then .error .surrogates else .ok none
      | .error e => .error (.undecodable e)
    else .ok (some t)

/-- Write a text highlighted. -/
def write (sink : LogSink) (c : Console) (text : Text) : Act Unit := do
  let shown ← Act.ofLogged sink (c.colorize text none)
  Act.does [.print shown]

/-- Write a file highlighted. -/
def writeFile (sink : LogSink) (c : Console) (fs : Files) (path : Text) : Act Unit := do
  let text ← Act.ofResult (fs.readText path)
  write sink c text

/-- Write files highlighted, each by itself, up to the first that cannot be read. Records that
were made before a file is read may stand in it. -/
def writeFiles (sink : LogSink) (c : Console) (fs : Files) : List Text → Act Unit
  | [] => pure ()
  | path :: rest =>
    fs.followed (writeFile sink c fs path) fun left => writeFiles sink c left rest

/-- How the palette is painted. -/
def paint (s : Surroundings) (c : Console) : Paint :=
  match if c.enabled then s.environment.depth? else none with
  | none => .plain
  | some depth => if s.environment.forbidsColor then .attributes else .colored depth

/-- Show the palette. -/
def showPalette (s : Surroundings) (c : Console) : Act Unit := do
  let room ← Act.ofResult ((s.environment.room c.enabled).mapError .number)
  let table ← Act.ofResult (c.palette.preview.mapError .style)
  Act.does [.print ((table.lines (paint s c) room).flatMap (· ++ ['\n']))]

/-- What the command is for, once there is a console, and what is seen at the prompt. -/
def work (s : Surroundings) (o : Options) (sink : LogSink) (c : Console) :
    Act Unit × Transcript :=
  if o.palette then (showPalette s c, .empty)
  else if o.interactive then
    let session := c.interact s.decoder Console.defaultPrompt s.typing
    (Act.ofLogged sink session.outcome, session.transcript)
  else if o.files = [] then
    (do
      let text ← Act.ofResult (Files.textOf s.input)
      write sink c text, .empty)
  else (writeFiles sink c s.files o.files, .empty)

/-- The console that the options ask for, with the sink of its records. -/
def start (s : Surroundings) (o : Options) (base : Option Text) : Act (LogSink × Console) := do
  let sink ← s.files.openLog (.choose o.logging o.logFile)
  let c ← Act.ofLogged sink (Console.assemble none base .standard (enabled s o))
  return (sink, c)

/-- The failure is reported by the command. -/
def isReported : Failure → Bool
  | .system _ => true
  | e => e.isHighlighting

/-- The outcome of work that had effects before it. -/
def finish (before : List Effect) (act : Act Unit) (transcript : Transcript) : Outcome :=
  let effects := before ++ act.effects
  match act.result with
  | .ok () => ⟨.ok 0, effects, transcript⟩
  | .error e =>
    if isReported e then
      ⟨.ok 1, effects ++ [.complain (Usage.report e.message).toList], transcript⟩
    else ⟨.error e, effects, transcript⟩

/-- The outcome of a call with options. -/
def runWith (s : Surroundings) (o : Options) : Outcome :=
  match baseOf s.surrogates (restores s o) o.base with
  | .error e => ⟨.error e, [], .empty⟩
  | .ok base =>
    let begun := start s o base
    match begun.result with
    | .error e => finish begun.effects ⟨.error e, []⟩ .empty
    | .ok (sink, c) =>
      let (act, transcript) := work { s with files := s.files.after begun.effects } o sink c
      finish begun.effects act transcript

/-- The outcome of a call with a command line. -/
def run (s : Surroundings) (words : List Text) : Outcome :=
  let columns := s.environment.columns
  match Options.parse words with
  | .error .help => ⟨.ok 0, [.print (Usage.help columns).toList], .empty⟩
  | .error (.usage e) => ⟨.ok 2, [.complain (Usage.complaint columns e).toList], .empty⟩
  | .ok o => runWith s o

end Highlighting.Command
