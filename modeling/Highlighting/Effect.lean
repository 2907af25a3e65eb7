import Highlighting.Logged

/-!
# Effects

What a program does to its surroundings is a row of effects: text written to one of the standard
streams, directories made, and text appended to files. Records are effects as well, on a stream or
on a file, so that their place among the other output is kept.

## Main definitions

* `Effect` -- one effect.
* `Effect.printed`, `Effect.complained`, `Effect.appended?` -- what a row of effects leaves.
* `LogSink.effects` -- records as effects.
* `Act` -- a computation with effects that may fail.
-/
namespace Highlighting

/-- What a program does to its surroundings. -/
inductive Effect where
  /-- Text goes to the standard output. -/
  | print (text : Text)
  /-- Text goes to the standard error stream. -/
  | complain (text : Text)
  /-- Text goes to the end of a file, which is made if there is none. -/
  | append (path text : Text)
  /-- A directory is made if there is none. -/
  | makeDirectory (path : Text)
deriving DecidableEq, Repr

namespace Effect

/-- The text on the standard output. -/
def printed (effects : List Effect) : Text :=
  effects.flatMap fun
    | print t => t
    | _ => []

/-- The text on the standard error stream. -/
def complained (effects : List Effect) : Text :=
  effects.flatMap fun
    | complain t => t
    | _ => []

/-- The texts appended to a file, in order. -/
def appends (path : Text) (effects : List Effect) : List Text :=
  effects.filterMap fun
    | append p t => if p = path then some t else none
    | _ => none

/-- The text appended to a file, if anything was. -/
def appended? (path : Text) (effects : List Effect) : Option Text :=
  match appends path effects with
  | [] => none
  | ts => some ts.flatten

theorem printed_append (xs ys : List Effect) : printed (xs ++ ys) = printed xs ++ printed ys := by
  simp [printed]

theorem complained_append (xs ys : List Effect) :
    complained (xs ++ ys) = complained xs ++ complained ys := by
  simp [complained]

end Effect

/-- Where records go. -/
inductive LogSink where
  | nowhere
  | stdout
  | file (path : Text)
deriving DecidableEq, Repr

namespace LogSink

/-- The effects of making a sink ready. A file is made even if no record follows. -/
def opening : LogSink → List Effect
  | file path => [.append path []]
  | _ => []

/-- A record as an effect, on a line of its own. -/
def effects (sink : LogSink) (records : List LogRecord) : List Effect :=
  let lines := records.map fun r => r.line.toList ++ ['\n']
  match sink with
  | nowhere => []
  | stdout => lines.map .print
  | file path => lines.map (.append path)

end LogSink

/-- A computation that has effects and may fail. The effects up to a failure remain. -/
structure Act (α : Type) where
  result : Except Failure α
  effects : List Effect

namespace Act

/-- The computation without effects. -/
protected def pure {α : Type} (a : α) : Act α := ⟨.ok a, []⟩

/-- A computation followed by another that depends on its result. -/
protected def bind {α β : Type} (x : Act α) (f : α → Act β) : Act β :=
  match x.result with
  | .ok a => ⟨(f a).result, x.effects ++ (f a).effects⟩
  | .error e => ⟨.error e, x.effects⟩

instance : Monad Act where
  pure := Act.pure
  bind := Act.bind

/-- The computation that only has effects. -/
def does (effects : List Effect) : Act Unit := ⟨.ok (), effects⟩

/-- The computation that only has a result. -/
def ofResult {α : Type} (r : Except Failure α) : Act α := ⟨r, []⟩

/-- A recorded call whose records go to a sink. -/
def ofLogged {α : Type} (sink : LogSink) (x : Logged α) : Act α :=
  ⟨x.result, sink.effects x.records⟩

end Act

end Highlighting
