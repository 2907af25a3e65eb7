import Highlighting.Regex.Marks

/-!
# Attempts

A way through an expression is attempted from a state: a position, the marks set so far, and the
position that was noted last. A position is noted where a choice is made or a repetition begins
a round. An attempt that fails leaves its marks and its note behind. Whoever attempted it decides
what becomes of them: a choice goes on with its next way from restored marks, a repetition that
gives nothing back goes on from the note.

## Main definitions

* `MatchState` -- where an attempt stands.
* `Attempt` -- how it ends.
* `Rest` -- what is still to be attempted.
* `Attempt.orElse` -- another way after one that failed.
-/
namespace Highlighting

/-- Where an attempt stands. -/
structure MatchState where
  pos : Nat
  /-- The position noted last. -/
  noted : Nat
  marks : Marks
deriving DecidableEq, Repr

/-- How an attempt ends. -/
inductive Attempt where
  /-- It leads to a match, which is complete in the state given. -/
  | matched (st : MatchState)
  /-- It fails, and leaves a noted position and marks. -/
  | failed (noted : Nat) (marks : Marks)
deriving DecidableEq, Repr

/-- What is still to be attempted from a state. -/
abbrev Rest := MatchState → Attempt

namespace MatchState

/-- The state before an attempt at a position. -/
def start (pos : Nat) : MatchState := ⟨pos, pos, .none⟩

/-- Note the position. -/
def note (st : MatchState) : MatchState := { st with noted := st.pos }

/-- Move to a position and note it. -/
def at_ (st : MatchState) (pos : Nat) : MatchState := { st with pos := pos, noted := pos }

/-- Give up. -/
def fail (st : MatchState) : Attempt := .failed st.noted st.marks

/-- An expression that is matched by itself is complete, and its end is noted. -/
def complete (st : MatchState) : Attempt := .matched st.note

end MatchState

namespace Attempt

/-- Where the attempt fails, another one, given what the first left behind. -/
def orElse (a : Attempt) (other : Nat → Marks → Attempt) : Attempt :=
  match a with
  | matched st => matched st
  | failed noted marks => other noted marks

/-- The state of a match. -/
def state? : Attempt → Option MatchState
  | matched st => some st
  | failed _ _ => none

theorem state?_eq_some_iff {a : Attempt} {st : MatchState} :
    a.state? = some st ↔ a = matched st := by
  cases a <;> simp [state?]

@[simp] theorem orElse_matched (st : MatchState) (f : Nat → Marks → Attempt) :
    (matched st).orElse f = matched st := rfl

@[simp] theorem orElse_failed (n : Nat) (m : Marks) (f : Nat → Marks → Attempt) :
    (failed n m).orElse f = f n m := rfl

theorem orElse_eq_matched_iff {a : Attempt} {f : Nat → Marks → Attempt} {st : MatchState} :
    a.orElse f = matched st ↔
      a = matched st ∨ ∃ n m, a = failed n m ∧ f n m = matched st := by
  cases a with
  | matched t => simp
  | failed n m =>
    constructor
    · exact fun h => .inr ⟨n, m, rfl, h⟩
    · rintro (h | ⟨_, _, h, hf⟩)
      · cases h
      · cases h; exact hf

end Attempt

end Highlighting
