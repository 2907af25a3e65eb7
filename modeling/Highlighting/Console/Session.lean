import Highlighting.Console

/-!
# Sessions

In a session lines are read at a prompt, and each is written back highlighted. A session is over
when there are no more lines or when reading fails. Its transcript keeps what a person at the
prompt saw.

## Main definitions

* `Typing` -- the lines that are typed, and how the typing ends.
* `Transcript` -- what is seen at the prompt.
* `Console.interact` -- a session.
-/
namespace Highlighting

/-- How the typing of lines ends. -/
inductive TypingEnd where
  /-- The input is at its end, or the session is broken off. -/
  | closed
  /-- Reading a line fails. -/
  | failed (e : Failure)
deriving DecidableEq, Repr

/-- The lines that are typed at a prompt, and how the typing ends. -/
structure Typing where
  lines : List Text
  ending : TypingEnd
deriving DecidableEq, Repr

/-- What is seen at a prompt. -/
structure Transcript where
  /-- For every session, whether lines are colored while they are typed. -/
  sessions : List Bool
  /-- The prompts, one for every line and one for the end. -/
  prompts : List Text
  /-- The lines written back. -/
  echo : List Text
deriving DecidableEq, Repr

namespace Transcript

/-- The transcript before any session. -/
def empty : Transcript := ⟨[], [], []⟩

/-- A transcript followed by another. -/
def append (s t : Transcript) : Transcript :=
  ⟨s.sessions ++ t.sessions, s.prompts ++ t.prompts, s.echo ++ t.echo⟩

end Transcript

/-- A session: its transcript, and its end with the records made during it. -/
structure Session where
  transcript : Transcript
  outcome : Logged Unit

namespace Session

/-- The session that ends with the typing. -/
def ofEnd (prompt : Text) : TypingEnd → Session
  | .closed => ⟨⟨[], [prompt], []⟩, Logged.record .debug "Interactive session ended"⟩
  | .failed e => ⟨⟨[], [prompt], []⟩, Logged.fail e⟩

/-- A session in which a line is read and written back before all else. -/
def afterLine (prompt : Text) (written : Logged Text) (rest : Session) : Session :=
  match written.result with
  | .ok t =>
    ⟨Transcript.append ⟨[], [prompt], [t]⟩ rest.transcript,
      ⟨rest.outcome.result, written.records ++ rest.outcome.records⟩⟩
  | .error e => ⟨⟨[], [prompt], []⟩, ⟨.error e, written.records⟩⟩

end Session

namespace Console

/-- A line as it is written back, if the decoder of the prompt can show it. -/
def echo (c : Console) (decode : Fragment.Decoder) (line : Text) : Logged Text := do
  let shown ← c.colorize line none
  .ofResult ((decode shown).map fun _ => shown)

/-- The session in which lines are read from now on. -/
def readOn (c : Console) (decode : Fragment.Decoder) (prompt : Text) (ending : TypingEnd) :
    List Text → Session
  | [] => .ofEnd prompt ending
  | line :: rest => .afterLine prompt (c.echo decode line) (readOn c decode prompt ending rest)

/-- The prompt unless another is given. -/
def defaultPrompt : Text := ['>', ' ']

/-- The beginning of a session. -/
def startSession : Logged Unit := Logged.record .debug "Starting interactive session"

/-- A session at a prompt. -/
def interact (c : Console) (decode : Fragment.Decoder) (prompt : Text) (typing : Typing) :
    Session :=
  let rest := c.readOn decode prompt typing.ending typing.lines
  ⟨Transcript.append ⟨[c.enabled], [], []⟩ rest.transcript,
    do
      startSession
      rest.outcome⟩

end Console

end Highlighting
