import Highlighting.Error
import Highlighting.Match
import Highlighting.Regex.Program
import Highlighting.Regex.Reader

/-!
# Patterns

A pattern is a regular expression with its flags. It is searched for in a subject from a
position on. Successive matches are found through a cursor, which remembers the subject and the
position behind the last match; after an empty match it steps one character further, so the
matches of a subject are a finite list. A search can fail, so the list may end early.

A pattern is compiled with the room that there is where nothing else is under way, which is enough
for some hundred groups inside of each other. Who compiles one from deep inside of other work has
less. No other work is taken to run out of room: a search for circles, a level below other levels
and a token inside of other tokens are followed however deep they lie.

## Main definitions

* `Pattern.flagValue` -- flag letters as a number.
* `Pattern.mostOpen`, `Pattern.compile` -- a pattern from its text and flags.
* `Pattern.search` -- the first match from a position on.
* `Cursor`, `Pattern.advance` -- the next match after a cursor.
* `Scan`, `Pattern.scan` -- the successive matches of a subject, up to a failure.
* `Pattern.allMatches` -- the successive matches of a subject.
* `Pattern.replace`, `Pattern.replaceM` -- a subject with its matches replaced.
-/
namespace Highlighting

/-- A compiled pattern with the text and the flag letters it was compiled from. -/
structure Pattern where
  source : Text
  flags : String
  program : Regex.Program
deriving DecidableEq, Repr

namespace Pattern

/-- A failure of the expression, as a failure of the pattern. Only a fault of the text becomes
an error of the library. -/
def failure (source : Text) : CompileError → Failure
  | .fault f => .pattern (.malformed source f)
  | .repetitionTooLarge => .repetitionTooLarge
  | .tooManyDigits n => .number (.tooManyDigits n)
  | .asciiAndUnicode => .asciiAndUnicode
  | .lookbehindTooLong => .lookbehindTooLong
  | .nestedTooDeep => .nestedTooDeep

/-- The value of the flags that letters name, for a pattern, if one is given. -/
def flagValue (pattern : Option Text) (letters : List String) : Except Failure Nat :=
  match Flag.parse letters with
  | .ok fs => .ok (Flag.value fs)
  | .error f => .error (.pattern (.flags f pattern))

/-- The modes that flag letters ask for. -/
def modes (source : Text) (flags : String) : Except Failure Modes :=
  match Flag.parse (flags.toList.map String.singleton) with
  | .ok fs => .ok (Modes.ofFlags fs)
  | .error f => .error (.pattern (.flags f (some source)))

/-- So many groups of a pattern may be open at once where nothing else is under way. -/
def mostOpen : Nat := 494

/-- Compile a pattern from its text, which must not be empty, and flag letters. -/
def compile (source : Text) (flags : String) : Except Failure Pattern :=
  if source = [] then .error (.pattern (.empty (some source)))
  else
    match modes source flags with
    | .error e => .error e
    | .ok modes =>
      match Regex.compile mostOpen modes source with
      | .error e => .error (failure source e)
      | .ok program => .ok ⟨source, flags, program⟩

/-- The named groups with their numbers, in the order of the numbers. -/
def groupIndex (p : Pattern) : List (String × Nat) :=
  p.program.names

/-- The names of the groups, in order. -/
def groupNames (p : Pattern) : List String :=
  p.groupIndex.map (·.1)

/-- The pattern between slashes, with its flags behind. -/
def shown (p : Pattern) : Text :=
  ['/'] ++ p.source ++ ['/'] ++ p.flags.toList

/-- The pattern as an expression that builds it. -/
def described (p : Pattern) : Text :=
  "Pattern(".toList ++ p.source.quoted ++ ", ".toList ++ Text.quoted p.flags.toList ++ [')']

/-! ## Searching -/

/-- The groups with names that took part in a match with some text. -/
def captures (p : Pattern) (subject : Text) (start : Nat) (marks : Marks) : List Capture :=
  p.groupIndex.filterMap fun (name, n) =>
    match marks.span? n with
    | some (a, b) =>
      if a < b then some ⟨name, subject.slice a b, (a : Int) - start⟩ else none
    | none => none

/-- The match that starts at a position, from the state in which it ended. -/
def toMatch (p : Pattern) (subject : Text) (start : Nat) (st : MatchState) : Match :=
  ⟨subject.slice start st.pos, start, p.captures subject start st.marks⟩

/-- The match at a position. -/
def matchAt (p : Pattern) (subject : Text) (pos : Nat) : Option Match :=
  (p.program.matchAt? subject.toArray pos).map (p.toMatch subject pos)

/-- Positions are not less than this. -/
def leastPosition : Int := -9223372036854775808

/-- The first match at or after a position. An empty subject has none, and a negative position
counts as the start. -/
def search (p : Pattern) (subject : Text) (pos : Int) : Except Failure (Option Match) :=
  if subject = [] ∨ (subject.length : Int) < pos then .ok none
  else if pos < leastPosition then .error .positionOutOfRange
  else
    match p.program.search subject.toArray pos.toNat with
    | none => .ok none
    | some (start, st) =>
      if p.program.reverses st.marks then .error .reversedGroup
      else .ok (some (p.toMatch subject start st))

end Pattern

/-! ## Cursors -/

/-- A position within one subject, or within none yet. -/
structure Cursor where
  subject : Option Text
  index : Int
deriving DecidableEq, Repr

namespace Cursor

/-- The cursor before any subject. -/
def start : Cursor := ⟨none, 0⟩

/-- The cursor follows a subject already. -/
def follows (c : Cursor) (subject : Text) : Bool :=
  c.subject == some subject

/-- The cursor for a subject: itself if it follows it, and otherwise its start. -/
def on (c : Cursor) (subject : Text) : Cursor :=
  if c.follows subject then c else ⟨some subject, 0⟩

end Cursor

namespace Pattern

/-- The position to go on from after a match. -/
def next (m : Match) : Int :=
  if m.start < m.stop then m.stop else m.stop + 1

/-- The next match of a subject after a cursor, and the cursor behind it. -/
def advance (p : Pattern) (subject : Text) (cursor : Cursor) :
    Except Failure (Option Match × Cursor) :=
  let c := cursor.on subject
  match p.search subject c.index with
  | .error e => .error e
  | .ok none => .ok (none, c)
  | .ok (some m) => .ok (some m, ⟨some subject, next m⟩)

end Pattern

/-- The successive matches of a subject, and the failure that ended them, if one did. -/
structure Scan where
  found : List Match
  failure : Option Failure
deriving DecidableEq, Repr

namespace Scan

/-- No match. -/
def none : Scan := ⟨[], Option.none⟩

/-- A match before others. -/
def cons (m : Match) (s : Scan) : Scan := { s with found := m :: s.found }

/-- The matches, unless a failure ended them. -/
def toExcept (s : Scan) : Except Failure (List Match) :=
  match s.failure with
  | some e => .error e
  | Option.none => .ok s.found

@[simp] theorem toExcept_none : none.toExcept = .ok [] := rfl

end Scan

namespace Pattern

/-- The successive matches of a subject after a cursor, at most so many. -/
def scanFrom (p : Pattern) (subject : Text) : (fuel : Nat) → Cursor → Scan
  | 0, _ => .none
  | fuel + 1, c =>
    match p.advance subject c with
    | .error e => ⟨[], some e⟩
    | .ok (none, _) => .none
    | .ok (some m, c) => (scanFrom p subject fuel c).cons m

/-- The successive matches of a subject. They start at different positions of it, the end
included, so the bound on their number cuts none off. -/
def scan (p : Pattern) (subject : Text) : Scan :=
  p.scanFrom subject (subject.length + 2) .start

/-- The successive matches of a subject, if no search for one fails. -/
def allMatches (p : Pattern) (subject : Text) : Except Failure (List Match) :=
  (p.scan subject).toExcept

/-! ## Replacing -/

/-- A subject from a position on, with a text in place of every match. -/
def splice (subject : Text) : (last : Nat) → List (Match × Text) → Text
  | last, [] => subject.drop last
  | last, (m, new) :: rest =>
    subject.slice last m.start.toNat ++ new ++ splice subject m.stop.toNat rest

/-- A subject with every match replaced from left to right, up to the first failure. -/
def replaceM (p : Pattern) (subject : Text) (f : Match → Except Failure Text) :
    Except Failure Text := do
  let scan := p.scan subject
  let parts ← scan.found.mapM fun m => (f m).map (m, ·)
  match scan.failure with
  | some e => throw e
  | none => return splice subject 0 parts

/-- A subject with every match replaced. -/
def replace (p : Pattern) (subject : Text) (f : Match → Text) : Except Failure Text :=
  p.replaceM subject fun m => .ok (f m)

end Pattern

end Highlighting
