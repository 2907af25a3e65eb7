import Highlighting.Regex.Basic
import Highlighting.Regex.Attempt

/-!
# Matching

An expression is matched at a position by depth-first search. `Regex.run` takes what has to
match afterwards as a function of the state: the answer is that of the first way through the
expression after which the rest succeeds.

A repetition makes its least number of rounds whatever they take. After that it makes another
round only where the position has moved since the last one began. A repetition of a single
character counts how many there are and moves between the least number and that. Alternatives
and counts that the next character rules out are passed over without an attempt, so nothing is
noted there.

A possessive repetition ends with the round that fails, and the rest is matched from the position
noted last. That is where the round began unless it made a choice before it failed. The engine is
taken as it was when possessive repetitions were new; later versions of it go back to where the
round began in any case.

## Main definitions

* `Regex.run` -- the first way through an expression that lets the rest succeed.
* `Regex.matchAt` -- the attempt at a position.
-/
namespace Highlighting

/-- The text in which a match is looked for. -/
abbrev Subject := Array Char

namespace Anchor

/-- The character before a position. -/
def before? (s : Subject) (pos : Nat) : Option Char :=
  if pos = 0 then none else s[pos - 1]?

/-- A word character, which no end of the text is. -/
def isWord (ascii : Bool) : Option Char → Bool
  | some c => Category.word.holds ascii c
  | none => false

/-- The condition holds at a position. -/
def holds (s : Subject) (pos : Nat) : Anchor → Bool
  | textStart => pos == 0
  | textEnd => pos == s.size
  | lastLineEnd => pos == s.size || (pos + 1 == s.size && s[pos]? == some '\n')
  | lineStart => pos == 0 || before? s pos == some '\n'
  | lineEnd => pos == s.size || s[pos]? == some '\n'
  | wordEdge ascii negated =>
    (isWord ascii (before? s pos) != isWord ascii s[pos]?) != negated

end Anchor

/-! ## Single characters -/

namespace CharTest

/-- The character at a position meets the condition. -/
def holdsAt (s : Subject) (pos : Nat) (t : CharTest) : Bool :=
  match s[pos]? with
  | some c => t.holds c
  | none => false

/-- The condition rules a position out at a glance. -/
def rulesOut (s : Subject) (pos : Nat) (t : CharTest) : Bool :=
  t.isExact && !t.holdsAt s pos

/-- How many characters from a position on meet the condition, at most so many. -/
def count (s : Subject) (t : CharTest) : (most pos : Nat) → Nat
  | 0, _ => 0
  | n + 1, pos => if t.holdsAt s pos then count s t n (pos + 1) + 1 else 0

/-- How many characters from a position on meet the condition, if the bound allows. -/
def countUpTo (s : Subject) (t : CharTest) (most : Option Nat) (pos : Nat) : Nat :=
  let left := s.size - pos
  t.count s (match most with | some m => Nat.min m left | none => left) pos

/-- The position noted when so many characters are counted. Characters compared with a folded
class are attempted one by one, and the others in one go. -/
def notedAfter (t : CharTest) (pos count : Nat) : Nat :=
  if t.isFoldedClass then pos + count else pos

theorem count_le (s : Subject) (t : CharTest) (n pos : Nat) : t.count s n pos ≤ n := by
  induction n generalizing pos with
  | zero => simp [count]
  | succ n ih =>
    unfold count
    split
    · exact Nat.succ_le_succ (ih _)
    · omega

end CharTest

namespace Regex

/-- Attempt the rest at a position, unless its first character is seen to differ there. -/
def attemptAt (s : Subject) (repeating : Bool) (next : Option CharTest) (k : Rest) (pos : Nat)
    (st : MatchState) : Attempt :=
  if (next.filter (·.exactCode?.isSome)).any (·.rulesOut s pos) then st.fail
  else (k (st.at_ pos)).orElse fun noted marks => .failed noted (st.marks.restored repeating marks)

/-- Attempt the rest at the positions from `extra` characters behind `first` back to `first`. -/
def giveBack (s : Subject) (repeating : Bool) (next : Option CharTest) (k : Rest) (first : Nat) :
    (extra : Nat) → Rest
  | 0, st => attemptAt s repeating next k first st
  | extra + 1, st =>
    (attemptAt s repeating next k (first + extra + 1) st).orElse fun noted marks =>
      giveBack s repeating next k first extra { st with noted := noted, marks := marks }

/-- Attempt the rest at a position and, as long as the characters meet a condition, at those
behind it, at most so many. -/
def takeMore (s : Subject) (repeating : Bool) (k : Rest) (t : CharTest) :
    (extra : Nat) → Rest
  | extra, st =>
    (attemptAt s repeating none k st.pos st).orElse fun _ marks =>
      let st := { st.note with marks := marks }
      if t.holdsAt s st.pos then
        match extra with
        | 0 => { st with noted := t.notedAfter st.pos 1 }.fail
        | extra + 1 => takeMore s repeating k t extra { st with pos := st.pos + 1 }
      else st.fail

/-- A repetition of one character, and then the rest. -/
def runChars (s : Subject) (repeating : Bool) (next : Option CharTest) (k : Rest) (t : CharTest)
    (greed : Greed) (least : Nat) (most : Option Nat) (st : MatchState) : Attempt :=
  if s.size - st.pos < least then st.fail
  else
    match greed with
    | .greedy =>
      let n := t.countUpTo s most st.pos
      let st := { st with noted := t.notedAfter st.pos n }
      if n < least then st.fail
      else giveBack s repeating next k (st.pos + least) (n - least) st
    | .lazily =>
      let n := t.countUpTo s (some least) st.pos
      let st := { st with noted := t.notedAfter st.pos n }
      if n < least then st.fail
      else
        let extra := match most with | some m => m - least | none => s.size
        takeMore s repeating k t extra { st with pos := st.pos + least }
    | .possessive =>
      let n := t.countUpTo s most st.pos
      let st := { st with noted := t.notedAfter st.pos n }
      if n < least then st.fail else k { st with pos := st.pos + n }

/-! ## Repetitions -/

/-- Another round is allowed: the bound is not reached and the position has moved. -/
def mayRepeat (most : Option Nat) (last : Option Nat) (pos : Nat) : Bool :=
  most != some 0 && last != some pos

/-- Rounds of `body` and then the rest, trying another round first. `last` is the position at
which the last round beyond the least number began. -/
def runGreedy (body : Rest → Rest) (k : Rest) :
    (fuel least : Nat) → (most last : Option Nat) → Rest
  | 0, _, _, _, st => st.fail
  | fuel + 1, least + 1, most, last, st =>
    (body (runGreedy body k fuel least (most.map (· - 1)) last) st.note).orElse fun _ marks =>
      .failed st.pos marks
  | fuel + 1, 0, most, last, st =>
    let leave (st : MatchState) : Attempt :=
      (k st.note).orElse fun _ marks => .failed st.pos marks
    if mayRepeat most last st.pos then
      (body (runGreedy body k fuel 0 (most.map (· - 1)) (some st.pos)) st.note).orElse fun _ _ =>
        leave st
    else leave st

/-- Rounds of `body` and then the rest, trying the rest first. -/
def runLazy (repeating : Bool) (body : Rest → Rest) (k : Rest) :
    (fuel least : Nat) → (most last : Option Nat) → Rest
  | 0, _, _, _, st => st.fail
  | fuel + 1, least + 1, most, last, st =>
    (body (runLazy repeating body k fuel least (most.map (· - 1)) last) st.note).orElse
      fun _ marks => .failed st.pos marks
  | fuel + 1, 0, most, last, st =>
    (k st.note).orElse fun _ marks =>
      let st := { st.note with marks := st.marks.restored repeating marks }
      if mayRepeat most last st.pos then
        (body (runLazy repeating body k fuel 0 (most.map (· - 1)) (some st.pos)) st).orElse
          fun _ marks => .failed st.pos marks
      else st.fail

/-- As many rounds of the first way through `body` as there are, up to a bound. `last` is the
position at which the last round began. A round that fails loses its marks, but it leaves the
position where it noted it last, in this version of the engine and not in later ones. -/
def runOn (body : Rest) : (fuel : Nat) → (most last : Option Nat) → MatchState → MatchState
  | 0, _, _, st => st
  | fuel + 1, most, last, st =>
    if mayRepeat most last st.pos then
      match body st.note with
      | .matched t => runOn body fuel (most.map (· - 1)) (some st.pos) t
      | .failed noted _ => { st with pos := noted, noted := noted }
    else st

/-- The first ways through `body`, so many times. -/
def runTimes (body : Rest) : Nat → Rest
  | 0, st => .matched st
  | n + 1, st =>
    match body st.note with
    | .matched t => runTimes body n t
    | .failed noted marks => .failed noted marks

/-- More rounds than a repetition can make in a text. -/
def rounds (s : Subject) (least : Nat) : Nat :=
  least + 2 * (s.size + 2)

/-! ## Expressions -/

/-- So many characters from one position on equal those from another position on. -/
def sameRun (f : Folding) (s : Subject) : (count p q : Nat) → Bool
  | 0, _, _ => true
  | n + 1, p, q =>
    match s[p]?, s[q]? with
    | some a, some b => f.code a.toNat == f.code b.toNat && sameRun f s n (p + 1) (q + 1)
    | _, _ => false

/-- Match an expression and then the rest. `repeating` says whether it stands in a repetition
that gives back, and `next` is the condition with which the rest begins, if that is known. -/
def run (s : Subject) : (repeating : Bool) → Regex → (next : Option CharTest) → Rest → Rest
  | _, empty, _, k, st => k st
  | _, never, _, _, st => st.fail
  | _, char t, _, k, st => if t.holdsAt s st.pos then k { st with pos := st.pos + 1 } else st.fail
  | _, anchor a, _, k, st => if a.holds s st.pos then k st else st.fail
  | re, seq r t, next, k, st => r.run s re (t.firstTest? next) (t.run s re next k) st
  | re, alt r t, next, k, st =>
    if (r.firstTest? none).any (·.rulesOut s st.pos) then t.run s re next k st
    else
      (r.run s re none k st.note).orElse fun noted marks =>
        t.run s re next k { st with noted := noted, marks := st.marks.restored re marks }
  | re, capture n r, _, k, st =>
    r.run s re none (fun u => k { u with marks := u.marks.closed n u.pos })
      { st with marks := st.marks.opened n st.pos }
  | _, backref f n, _, k, st =>
    match st.marks.span? n with
    | some (a, b) =>
      if sameRun f s (b - a) a st.pos then k { st with pos := st.pos + (b - a) } else st.fail
    | none => st.fail
  | re, conditional n r t, next, k, st =>
    match st.marks.span? n with
    | some _ => r.run s re (if t = empty then next else none) k st
    | none => t.run s re next k st
  | re, ahead negated r, _, k, st =>
    match r.run s re none MatchState.complete st.note, negated with
    | .matched u, false => k { u with pos := st.pos }
    | .matched u, true => u.fail
    | .failed noted marks, false => .failed noted marks
    | .failed noted marks, true =>
      k { st with noted := noted, marks := st.marks.restored re marks }
  | re, behind negated w r, _, k, st =>
    if st.pos < w.least then (if negated then k st else st.fail)
    else
      match r.run s re none MatchState.complete (st.at_ (st.pos - w.least)), negated with
      | .matched u, false => k { u with pos := st.pos }
      | .matched u, true => u.fail
      | .failed noted marks, false => .failed noted marks
      | .failed noted marks, true =>
        k { st with noted := noted, marks := st.marks.restored re marks }
  | re, atomic r, _, k, st =>
    match r.run s re none MatchState.complete st.note with
    | .matched u => k u
    | .failed _ marks => .failed st.pos marks
  | re, loop greed least most r, next, k, st =>
    match r.single?, greed with
    | some t, _ => runChars s re next k t greed least most st
    | none, .greedy =>
      runGreedy (r.run s true none) k (rounds s least) least most none st
    | none, .lazily =>
      runLazy re (r.run s true none) k (rounds s least) least most none st
    | none, .possessive =>
      let body := r.run s re none MatchState.complete
      match runTimes body least st.note with
      | .matched u => k (runOn body (rounds s 0) (most.map (· - least)) none u)
      | .failed _ marks => .failed st.pos marks

/-- The attempt of an expression at a position. -/
def matchAt (r : Regex) (s : Subject) (pos : Nat) : Attempt :=
  r.run s false none MatchState.complete (.start pos)

end Regex

end Highlighting
