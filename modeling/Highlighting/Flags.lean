/-!
# Pattern flags

A pattern is compiled under a set of flags, given as a sequence of letters. No letter may be
unknown or occur twice.

## Main definitions

* `Flag` -- the five flags, with their letters and bits.
* `Flag.parse` -- the flags that a sequence of letters names, or its first offence.
* `Flag.value` -- flags as a number, folded from their bits.
-/
namespace Highlighting

/-- A flag that changes how a pattern is read or matched. -/
inductive Flag where
  /-- Classes and case know ASCII only. -/
  | ascii
  /-- Letters match in either case. -/
  | ignoreCase
  /-- `^` and `$` match at every line. -/
  | multiline
  /-- A dot matches a newline too. -/
  | dotAll
  /-- White space and comments in the pattern are skipped. -/
  | verbose
deriving DecidableEq, Repr

namespace Flag

/-- The letter that names a flag. -/
def letter : Flag → String
  | ascii => "a"
  | ignoreCase => "i"
  | multiline => "m"
  | dotAll => "s"
  | verbose => "x"

/-- The bit of a flag in the value of flags. -/
def bit : Flag → Nat
  | ascii => 256
  | ignoreCase => 2
  | multiline => 8
  | dotAll => 16
  | verbose => 64

/-- All flags, in the order of their letters. -/
def all : List Flag := [ascii, ignoreCase, multiline, dotAll, verbose]

/-- The flag that a letter names. -/
def ofLetter? (s : String) : Option Flag :=
  all.find? (·.letter == s)

@[simp] theorem ofLetter?_letter (f : Flag) : ofLetter? f.letter = some f := by
  cases f <;> decide

theorem letter_of_ofLetter? {s : String} {f : Flag} (h : ofLetter? s = some f) : f.letter = s := by
  have := List.find?_some h
  simpa using this

/-- What is wrong with a sequence of flag letters. -/
inductive Fault where
  /-- A letter that names no flag. -/
  | unsupported (letter : String)
  /-- A letter that occurred before. -/
  | duplicate (letter : String)
deriving DecidableEq, Repr

/-- The letter at fault. -/
def Fault.letter : Fault → String
  | unsupported s => s
  | duplicate s => s

/-- Read flag letters, given those already seen, up to the first offence. -/
def parseAfter (seen : List Flag) : List String → Except Fault (List Flag)
  | [] => .ok []
  | s :: rest =>
    match ofLetter? s with
    | none => .error (.unsupported s)
    | some f =>
      if f ∈ seen then .error (.duplicate s)
      else (parseAfter (f :: seen) rest).map (f :: ·)

/-- The flags that a sequence of letters names, in its order. -/
def parse (letters : List String) : Except Fault (List Flag) :=
  parseAfter [] letters

/-- Flags as a number, in which the bit of each flag is set. -/
def value (flags : List Flag) : Nat :=
  flags.foldl (fun n f => n ||| f.bit) 0

end Flag

end Highlighting
