import Highlighting.Command.Run

/-!
# The command

The outer layer of the command. It looks up what the command line asks for, runs the command, and
carries out its effects. Lines that are typed are read and written back one by one.
-/
namespace Highlighting.Command

/-- The bytes that are left on a stream. -/
partial def readAll (stream : IO.FS.Stream) (before : ByteArray) : IO ByteArray := do
  let chunk ← stream.read 65536
  if chunk.isEmpty then return before
  readAll stream (before ++ chunk)

/-- Bytes as numbers. -/
def numbersOf (bytes : ByteArray) : List Nat :=
  bytes.toList.map UInt8.toNat

/-- What is found at a path, if there is anything. -/
def lookUp (path : Text) : IO (Option FileEntry) := do
  try
    let bytes ← IO.FS.readBinFile (String.ofList path)
    return some (.file (numbersOf bytes))
  catch
    | .noFileOrDirectory .. => return none
    | _ => return some .directory

/-- What is found on the way along names, as far as there are directories. -/
def lookAlong (before : PathNames) : PathNames → IO (List (PathNames × FileEntry))
  | [] => return []
  | name :: rest => do
    let names := before ++ [name]
    match ← lookUp (rootedPath names) with
    | some .directory => return (names, .directory) :: (← lookAlong names rest)
    | some e => return [(names, e)]
    | none => return []

/-- The variables that matter for colors and for the width of lines. -/
def lookUpVariables : IO Environment := do
  let names := ["NO_COLOR", "FORCE_COLOR", "TERM", "COLORTERM", "COLUMNS", "LINES"]
  let values ← names.mapM fun n => return (n, (← IO.getEnv n).getD "")
  return ⟨values⟩

/-- What the command can see, as far as its options ask for it. -/
def surroundings (o : Options) : IO Surroundings := do
  let root : Files := ⟨[], []⟩
  let home := root.directNames (← IO.currentDir).toString.toList
  let fs : Files := ⟨home, []⟩
  let logs := if o.logging then [o.logFile.getD standardLogFile] else []
  let entries ← (logs ++ o.files).mapM fun path => lookAlong [] (fs.directNames path)
  let needsInput := o.files = [] && !o.palette && !o.interactive
  let input ← if needsInput then readAll (← IO.getStdin) .empty else pure .empty
  return ⟨⟨home, entries.flatten⟩, numbersOf input, ← lookUpVariables,
    ← (← IO.getStdout).isTty, ⟨[], .closed⟩, Fragment.decoder, .refused⟩

/-- Carry out an effect. -/
def carryOut : Effect → IO Unit
  | .print t => do
    let out ← IO.getStdout
    out.putStr (String.ofList t)
    out.flush
  | .complain t => do (← IO.getStderr).putStr (String.ofList t)
  | .append path t => do
    let h ← IO.FS.Handle.mk (String.ofList path) .append
    h.putStr (String.ofList t)
  | .makeDirectory path => IO.FS.createDirAll (String.ofList path)

/-- Carry out the effects of a call, and end as it does. -/
def conclude (outcome : Outcome) : IO UInt32 := do
  outcome.effects.forM carryOut
  match outcome.ending with
  | .ok status => return status.toUInt32
  | .error e =>
    carryOut (.complain (Usage.report e.message).toList)
    return 1

/-- Read lines at the prompt and write them back, until there are no more. -/
partial def converse (decode : Fragment.Decoder) (sink : LogSink) (c : Console) :
    IO (Act Unit) := do
  carryOut (.print Console.defaultPrompt)
  let line ← (← IO.getStdin).getLine
  if line.isEmpty then
    return Act.ofLogged sink (Session.ofEnd Console.defaultPrompt .closed).outcome
  let shown := Act.ofLogged sink (c.echo decode (line.toList.filter (· != '\n')))
  match shown.result with
  | .ok t =>
    (shown.effects ++ [Effect.print (t ++ ['\n'])]).forM carryOut
    converse decode sink c
  | .error e => return ⟨.error e, shown.effects⟩

/-- Run a session at the prompt. -/
def talk (s : Surroundings) (o : Options) : IO UInt32 := do
  match baseOf s.surrogates (restores s o) o.base with
  | .error e => conclude ⟨.error e, [], .empty⟩
  | .ok base =>
    let begun := start s o base
    match begun.result with
    | .error e => conclude (finish begun.effects ⟨.error e, []⟩ .empty)
    | .ok (sink, c) =>
      begun.effects.forM carryOut
      (Act.ofLogged sink Console.startSession).effects.forM carryOut
      conclude (finish [] (← converse s.decoder sink c) .empty)

end Highlighting.Command

/-- The command. -/
def main (args : List String) : IO UInt32 := do
  let words := args.map String.toList
  match Highlighting.Options.parse words with
  | .ok o =>
    let s ← Highlighting.Command.surroundings o
    if o.interactive && !o.palette then Highlighting.Command.talk s o
    else Highlighting.Command.conclude (Highlighting.Command.runWith s o)
  | .error _ =>
    let s ← Highlighting.Command.surroundings .default
    Highlighting.Command.conclude (Highlighting.Command.run s words)
