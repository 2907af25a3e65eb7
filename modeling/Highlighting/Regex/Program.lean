import Highlighting.Regex.Match
import Highlighting.Regex.Modes

/-!
# Programs

A program is an expression with what a search needs to know of it: the number of its groups, the
least number of characters of a match, and a condition on the first character where one can be
told beforehand. A search tries the positions in order. It passes over those whose character the
condition rules out and stops where too few characters are left.

The condition is read in the modes of the whole pattern, so at its start a category is that of
these modes even inside a group that changes them.

## Main definitions

* `Regex.lead?` -- the condition on the first character of a match.
* `Regex.Program` -- a compiled expression.
* `Regex.Program.search` -- the match at the least position from a given one on.
-/
namespace Highlighting

/-- The member may stand for characters that it does not hold as they are. -/
def ClassItem.blurs (f : Folding) (item : ClassItem) : Bool :=
  item.hasCase f ||
    match item with
    | span _ last => f != .exact && decide (foldLimit < last)
    | _ => false

/-- The condition on the first character of a match that begins with a condition. -/
def CharTest.lead? (ascii : Bool) : CharTest → Option CharTest
  | literal .exact false n => some (literal .exact false n)
  | set f _ negated items =>
    if items.any (ClassItem.blurs f) then none else some (set .exact ascii negated items)
  | _ => none

namespace Regex

/-- How an expression begins, if that is with characters as they stand. -/
inductive Opener where
  /-- It begins with that character. -/
  | code (n : Nat)
  /-- It takes no character. -/
  | nothing
  /-- It begins in another way. -/
  | other
deriving DecidableEq, Repr

/-- How an expression begins. -/
def opener : Regex → Opener
  | empty => .nothing
  | char (.literal .exact false n) => .code n
  | seq r s =>
    match r.opener with
    | .nothing => s.opener
    | o => o
  | capture _ r => r.opener
  | _ => .other

/-- The characters with which alternatives begin, if each begins with one as it stands. -/
def branchCodes? : Regex → Option (List Nat)
  | never => some []
  | alt r s =>
    match (r.firstTest? none).bind (·.exactCode?), s.branchCodes? with
    | some n, some ns => some (n :: ns)
    | _, _ => none
  | _ => none

/-- The condition on the first character of a match that is not a plain one. -/
def leadClass? (ascii : Bool) : Regex → Option CharTest
  | char t => t.lead? ascii
  | seq r _ => r.leadClass? ascii
  | capture _ r => r.leadClass? ascii
  | alt r s => ((alt r s).branchCodes?).map fun ns => .set .exact ascii false (ns.map .code)
  | _ => none

/-- The condition on the first character of a match, where one can be told. -/
def lead? (ascii : Bool) (r : Regex) : Option CharTest :=
  match r.opener with
  | .code n => some (.literal .exact false n)
  | _ => r.leadClass? ascii

/-- A compiled pattern. -/
structure Program where
  regex : Regex
  /-- The number of capturing groups. -/
  captures : Nat
  /-- The named groups, in the order of their numbers. -/
  names : List (String × Nat)
  /-- The modes of the whole pattern. -/
  modes : Modes
  /-- The least number of characters of a match. -/
  least : Nat
deriving DecidableEq, Repr

namespace Program

/-- The condition on the first character of a match. A match that may be empty has none. -/
def lead? (p : Program) : Option CharTest :=
  if p.least = 0 then none else p.regex.lead? p.modes.ascii

/-- The number of positions from `pos` on at which a match is tried. -/
def attempts (p : Program) (s : Subject) (pos : Nat) : Nat :=
  if s.size - pos < p.least then 0
  else
    match p.lead? with
    | some _ => s.size - pos
    | none => Nat.max pos (s.size - (p.least - 1)) + 1 - pos

/-- The state after a match at a position, where its first character may be one. -/
def matchAt? (p : Program) (s : Subject) (pos : Nat) : Option MatchState :=
  if p.lead?.all (·.holdsAt s pos) then (p.regex.matchAt s pos).state? else none

/-- The match at the least of so many positions: that position and the state after it. -/
def searchAmong (p : Program) (s : Subject) : (count pos : Nat) → Option (Nat × MatchState)
  | 0, _ => none
  | n + 1, pos =>
    match p.matchAt? s pos with
    | some st => some (pos, st)
    | none => searchAmong p s n (pos + 1)

/-- The match at the least position from `pos` on: that position and the state after it. -/
def search (p : Program) (s : Subject) (pos : Nat) : Option (Nat × MatchState) :=
  p.searchAmong s (p.attempts s pos) pos

/-- A group of the program ends before it starts. -/
def reverses (p : Program) (m : Marks) : Bool :=
  (List.range' 1 p.captures).any m.isReversed

theorem searchAmong_eq_some {p : Program} {s : Subject} {n pos start : Nat} {st : MatchState}
    (h : p.searchAmong s n pos = some (start, st)) :
    pos ≤ start ∧ start < pos + n ∧ p.matchAt? s start = some st := by
  induction n generalizing pos with
  | zero => simp [searchAmong] at h
  | succ n ih =>
    unfold searchAmong at h
    split at h
    · next t ht =>
      cases h
      exact ⟨Nat.le_refl _, by omega, ht⟩
    · obtain ⟨h1, h2, h3⟩ := ih h
      exact ⟨by omega, by omega, h3⟩

end Program

end Regex

end Highlighting
