import Highlighting.Regex.Construct
import Highlighting.Regex.Program

/-!
# Reading a pattern

The reader goes through a pattern construct by construct. It keeps the alternation it is in and
a stack of the groups that are open, each with the alternation around it, so a construct changes
the top of the stack only: the opening of a group puts its surroundings aside, and the closing
turns what was read since into one piece of them.

What all alternatives begin with is taken out in front of them, as far as it is written alike and
is no group. If each of them is then a single character or a class of some, they are one class.
A group that neither captures nor changes modes leaves its content and nothing else.

Groups are read inside of each other as far as there is room for it, and how much room there is
depends on where the reader is put to work. So the number of groups that may be open at once is
given to it. It is the only bound on how deep the reader goes.

## Main definitions

* `Level`, `OpenGroup`, `Reader` -- the state.
* `Reader.step` -- the effect of the next construct.
* `Reader.readAll` -- the effect of a pattern, up to a bracket that closes no group.
* `Regex.compile` -- the expression of a pattern, with its groups.
-/
namespace Highlighting

/-- What a quantifier may follow. -/
inductive Role where
  /-- A position, which cannot be repeated. -/
  | place
  /-- A repetition, which cannot be repeated again. -/
  | repetition
  /-- Anything else. -/
  | item
deriving DecidableEq, Repr

/-- An item of a sequence. -/
structure Item where
  regex : Regex
  /-- What it is written as. Two groups are never written alike, so these have nothing here. -/
  written : Option Construct
deriving DecidableEq, Repr

namespace Item

/-- Two items are written alike. -/
def same (a b : Item) : Bool :=
  a.written.isSome && a.written == b.written

/-- The members of the class that the item is, if it is one character or a class of some. -/
def members? (i : Item) : Option (List ClassItem) :=
  match i.written with
  | some (.atom (.literal false n)) => some [.code n]
  | some (.atom (.set false items)) => some items
  | _ => none

end Item

/-- What a quantifier may be put behind: the items of one construct. -/
structure Piece where
  role : Role
  items : List Item
deriving DecidableEq, Repr

/-- The expression of a sequence of items. -/
def sequenceOf (items : List Item) : Regex :=
  Regex.sequence (items.map (·.regex))

/-- The items that all of some sequences begin with, and what is left of each of them. The first
sequence is given apart from the others. -/
def commonStart : (first : List Item) → (others : List (List Item)) →
    List Item × List (List Item)
  | [], others => ([], [] :: others)
  | i :: first, others =>
    if others.all fun o => o.head?.any i.same then
      let (shared, rests) := commonStart first (others.map List.tail)
      (i :: shared, rests)
    else ([], (i :: first) :: others)

/-- The item that stands for several alternatives in the modes in force. -/
def choiceOf (modes : Modes) (branches : List (List Item)) : Item :=
  let single? : List Item → Option (List ClassItem)
    | [i] => i.members?
    | _ => none
  match branches.mapM single? with
  | some members =>
    let atom := Atom.set false members.flatten.eraseDups
    ⟨.char (atom.test modes), some (.atom atom)⟩
  | none => ⟨Regex.alternatives (branches.map sequenceOf), none⟩

/-- An alternation that is being read. -/
structure Level where
  /-- The modes in force. -/
  modes : Modes
  /-- The alternatives that are complete, last first. -/
  branches : List (List Item)
  /-- The pieces of the current alternative, last first. -/
  pieces : List Piece
deriving DecidableEq, Repr

namespace Level

/-- An alternation at its start. -/
def start (modes : Modes) : Level := ⟨modes, [], []⟩

/-- The current alternative. -/
def branch (l : Level) : List Item :=
  l.pieces.reverse.flatMap (·.items)

/-- All alternatives, in order. -/
def allBranches (l : Level) : List (List Item) :=
  l.branches.reverse ++ [l.branch]

/-- The items read. -/
def items (l : Level) : List Item :=
  match l.allBranches with
  | [] => []
  | [b] => b
  | b :: bs =>
    let (shared, rests) := commonStart b bs
    shared ++ [choiceOf l.modes rests]

/-- The expression read. -/
def regex (l : Level) : Regex :=
  sequenceOf l.items

/-- The alternation with one more piece. -/
def push (l : Level) (role : Role) (items : List Item) : Level :=
  { l with pieces := ⟨role, items⟩ :: l.pieces }

/-- The alternation after a bar. -/
def bar (l : Level) : Level :=
  { l with branches := l.branch :: l.branches, pieces := [] }

end Level

/-- What a group is for. -/
inductive GroupKind where
  | plain
  /-- A group in which other modes are in force. -/
  | modal
  | capture (group : Nat)
  | atomic
  | ahead (negated : Bool)
  /-- A look-behind. The outermost one puts up the fence for references. -/
  | behind (negated outermost : Bool)
  | conditional (group : Nat)
deriving DecidableEq, Repr

/-- A group that is open. -/
structure OpenGroup where
  kind : GroupKind
  /-- The number of characters from its bracket to the end of the pattern. -/
  opened : Nat
  /-- The alternation around it. -/
  outer : Level
deriving DecidableEq, Repr

/-- The state of reading a pattern. -/
structure Reader where
  /-- The innermost alternation. -/
  level : Level
  /-- The open groups, innermost first. -/
  groups : List OpenGroup
  /-- The number of capturing groups opened so far. -/
  captures : Nat
  /-- The names of groups with their numbers, last first. -/
  names : List (String × Nat)
  /-- The widths of the capturing groups that are closed. -/
  widths : List (Nat × Width)
  /-- Inside a look-behind, the number of groups, the whole match included, opened before it. -/
  fence : Option Nat
  /-- The groups that conditionals name by number, with the place of the number, last first. -/
  expected : List (Nat × Nat)
  /-- So many groups may be open at once. -/
  mostOpen : Nat
deriving DecidableEq, Repr

namespace Reader

/-- The state before the first construct. -/
def start (mostOpen : Nat) (modes : Modes) : Reader :=
  ⟨Level.start modes, [], 0, [], [], none, [], mostOpen⟩

/-- Add a piece of one item. -/
def push (r : Reader) (role : Role) (x : Regex) (written : Option Construct) : Reader :=
  { r with level := r.level.push role [⟨x, written⟩] }

/-- Open a group in which other modes may be in force. -/
def enter (r : Reader) (kind : GroupKind) (opened : Nat) (modes : Modes) : Reader :=
  { r with level := Level.start modes, groups := ⟨kind, opened, r.level⟩ :: r.groups }

/-- The group is closed. -/
def isClosed (r : Reader) (group : Nat) : Bool :=
  (r.widths.lookup group).isSome

/-- The width of a group that is closed. -/
def groupWidth (r : Reader) (group : Nat) : Width :=
  (r.widths.lookup group).getD .zero

/-- Inside a look-behind only groups that were closed before it may be referred to. -/
def checkFence (r : Reader) (group : Nat) (rest : Text) : Reading Unit :=
  match r.fence with
  | none => .ok ()
  | some fence =>
    if !r.isClosed group then .error (faultBefore rest 0 .openReference)
    else if fence ≤ group then .error (faultBefore rest 0 .lookbehindReference)
    else .ok ()

/-- Add a back-reference to a group, which must be closed. `length` is the distance of the
reference from the rest of the pattern. -/
def refer (r : Reader) (group length : Nat) (rest : Text) : Reading Reader := do
  if !r.isClosed group then
    throw (faultBefore rest length .openReference)
  r.checkFence group rest
  return r.push .item (.backref r.level.modes.folding group) (some (.numbered group 0))

/-- Open a capturing group. -/
def enterCapture (r : Reader) (opened : Nat) : Reader :=
  let n := r.captures + 1
  { r.enter (.capture n) opened r.level.modes with captures := n }

/-- Open a capturing group with a name. -/
def enterNamed (r : Reader) (name : String) (opened : Nat) (rest : Text) : Reading Reader :=
  let n := r.captures + 1
  match r.names.lookup name with
  | some old => .error (faultBefore rest (name.length + 1) (.groupRedefined name n old))
  | none => .ok { r.enterCapture opened with names := (name, n) :: r.names }

/-- Open a conditional. -/
def enterConditional (r : Reader) (ref : Reference) (opened : Nat) (rest : Text) :
    Reading Reader := do
  let modes := r.level.modes
  match ref with
  | .name s =>
    match r.names.lookup s with
    | none => throw (faultBefore rest (s.length + 1) (.unknownGroup s))
    | some n =>
      r.checkFence n rest
      return r.enter (.conditional n) opened modes
  | .number n length =>
    if 1073741823 ≤ n then
      throw (faultBefore rest (length + 1) (.invalidReference n))
    r.checkFence n rest
    let expected :=
      if (r.expected.lookup n).isSome then r.expected
      else (n, rest.length + length + 1) :: r.expected
    return { r.enter (.conditional n) opened modes with expected := expected }

/-- Groups must not be nested too deep. -/
def checkDepth (r : Reader) : Reading Unit :=
  if r.mostOpen < r.groups.length then .error .nestedTooDeep else .ok ()

/-- Open a group. -/
def open_ (r : Reader) (o : Opening) (opened : Nat) (rest : Text) : Reading Reader :=
  let modes := r.level.modes
  match o with
  | .plain => .ok (r.enter .plain opened modes)
  | .capture => .ok (r.enterCapture opened)
  | .named name => r.enterNamed name opened rest
  | .modes on off => .ok (r.enter .modal opened (modes.inside on off))
  | .atomic => .ok (r.enter .atomic opened modes)
  | .ahead negated => .ok (r.enter (.ahead negated) opened modes)
  | .behind negated =>
    let fence := r.fence.getD (r.captures + 1)
    .ok { r.enter (.behind negated r.fence.isNone) opened modes with fence := some fence }
  | .conditional ref => r.enterConditional ref opened rest

/-- The expression of a group, from the alternation read in it. -/
def groupRegex (r : Reader) (kind : GroupKind) : Regex :=
  let body := r.level.regex
  match kind with
  | .plain => body
  | .modal => body
  | .capture n => .capture n body
  | .atomic => .atomic body
  | .ahead negated => .ahead negated body
  | .behind negated _ => .behind negated (body.width r.groupWidth) body
  | .conditional n =>
    match r.level.allBranches with
    | [yes, no] => .conditional n (sequenceOf yes) (sequenceOf no)
    | _ => .conditional n body .empty

/-- The items that a group leaves. -/
def groupItems (r : Reader) (kind : GroupKind) : List Item :=
  if kind = .plain then r.level.items else [⟨r.groupRegex kind, none⟩]

/-- Close the innermost group. -/
def close (r : Reader) (g : OpenGroup) (outer : List OpenGroup) : Reader :=
  let closed := { r with level := g.outer.push .item (r.groupItems g.kind), groups := outer }
  match g.kind with
  | .capture n => { closed with widths := (n, r.level.regex.width r.groupWidth) :: r.widths }
  | .behind _ true => { closed with fence := none }
  | _ => closed

/-- Repeat the last piece. `rest` is what follows the quantifier, less the sign that says how
it chooses, and `length` the number of characters of the quantifier. -/
def quantify (r : Reader) (least : Nat) (most : Option Nat) (length : Nat) (rest : Text) :
    Reading (Reader × Text) :=
  match r.level.pieces with
  | [] => .error (faultBefore rest length .nothingToRepeat)
  | ⟨.place, _⟩ :: _ => .error (faultBefore rest length .nothingToRepeat)
  | ⟨.repetition, _⟩ :: _ => .error (faultBefore rest length .multipleRepeat)
  | ⟨.item, items⟩ :: pieces =>
    let (greed, rest) : Greed × Text := match rest with
      | '?' :: rest => (.lazily, rest)
      | '+' :: rest => (.possessive, rest)
      | rest => (.greedy, rest)
    let piece := ⟨.repetition, [⟨.loop greed least most (sequenceOf items), none⟩]⟩
    .ok ({ r with level := { r.level with pieces := piece :: pieces } }, rest)

/-- A bar: the next alternative begins. A conditional has at most two. -/
def bar (r : Reader) (input : Text) : Reading Reader :=
  match r.groups, r.level.branches with
  | ⟨.conditional _, _, _⟩ :: _, _ :: _ => .error (faultBefore input 0 .thirdBranch)
  | _, _ => .ok { r with level := r.level.bar }

/-- Nothing has been read yet but comments and flags. -/
def atStart (r : Reader) : Bool :=
  r.groups.isEmpty && r.level.branches.isEmpty && r.level.pieces.isEmpty

/-- The effect of the construct at the start of `input`, and the text after it. -/
def step (r : Reader) (input : Text) : Reading (Reader × Text) := do
  let modes := r.level.modes
  let (c, rest) ← Construct.read modes.verbose input
  match c with
  | .blank => return (r, rest)
  | .atom a => return (r.push .item (.char (a.test modes)) (some c), rest)
  | .place p => return (r.push .place (.anchor (p.anchor modes)) (some c), rest)
  | .numbered n length =>
    if n ≤ r.captures then return (← r.refer n length rest, rest)
    else throw (faultBefore rest (length - 1) (.invalidReference n))
  | .named name =>
    match r.names.lookup name with
    | none => throw (faultBefore rest (name.length + 1) (.unknownGroup name))
    | some n => return (← r.refer n (name.length + 1) rest, rest)
  | .quantifier least most => r.quantify least most (input.length - rest.length) rest
  | .bar => return (← r.bar input, rest)
  | .opening o =>
    let inside ← r.open_ o input.length rest
    inside.checkDepth
    return (inside, rest)
  | .closing =>
    match r.groups with
    | [] => throw (faultBefore input 0 .unbalancedParenthesis)
    | g :: outer => return (r.close g outer, rest)
  | .globalModes on =>
    if r.atStart then
      return ({ r with level := { r.level with modes := modes.turnOn on } }, rest)
    else throw (faultBefore rest (input.length - rest.length) .misplacedGlobalFlags)

/-- The next character closes a group though none is open. -/
def atStrayBracket (r : Reader) (input : Text) : Bool :=
  r.groups.isEmpty && input.head? == some ')'

/-- Read constructs to the end of the pattern, or up to a bracket that closes no group. -/
def readAll : (fuel : Nat) → Reader → Text → Reading (Reader × Text)
  | 0, r, input => .ok (r, input)
  | fuel + 1, r, input =>
    match input with
    | [] =>
      match r.groups with
      | [] => .ok (r, [])
      | g :: _ => .error (faultBefore [] g.opened .unterminatedGroup)
    | _ :: _ =>
      if r.atStrayBracket input then .ok (r, input)
      else do
        let (r, rest) ← r.step input
        readAll fuel r rest

end Reader

namespace Regex

/-- A look-behind reaches back by less than this number of characters. In the version of the engine
that is taken here a pattern that reaches back farther does not fit what it is compiled to, and that
is no fault of it; later versions have a bound of their own, and a pattern beyond it is at fault. -/
def lookbehindLimit : Nat := 2147483648

/-- The name of a repetition among the operators of a template. -/
def operatorName : Greed → String
  | .greedy => "MAX_REPEAT"
  | .lazily => "MIN_REPEAT"
  | .possessive => "POSSESSIVE_REPEAT"

/-- The first thing in an expression that has a form but no meaning: a look-behind whose width
is not fixed, or a repetition in a template. -/
def meaningless? (template : Bool) : Regex → Option Malformed
  | empty => none
  | never => none
  | char _ => none
  | anchor _ => none
  | seq r s => (meaningless? template r).or (meaningless? template s)
  | alt r s => (meaningless? template r).or (meaningless? template s)
  | capture _ r => meaningless? template r
  | backref _ _ => none
  | conditional _ r s => (meaningless? template r).or (meaningless? template s)
  | ahead _ r => meaningless? template r
  | behind _ w r =>
    if w.fixed then meaningless? template r else some .lookbehindNotFixed
  | atomic r => meaningless? template r
  | loop greed _ _ r =>
    if template then some (.templateRepeat (operatorName greed)) else meaningless? template r

/-- A look-behind in an expression reaches back too far. -/
def reachesTooFar : Regex → Bool
  | empty => false
  | never => false
  | char _ => false
  | anchor _ => false
  | seq r s => r.reachesTooFar || s.reachesTooFar
  | alt r s => r.reachesTooFar || s.reachesTooFar
  | capture _ r => r.reachesTooFar
  | backref _ _ => false
  | conditional _ r s => r.reachesTooFar || s.reachesTooFar
  | ahead _ r => r.reachesTooFar
  | behind _ w r => decide (lookbehindLimit ≤ w.least) || r.reachesTooFar
  | atomic r => r.reachesTooFar
  | loop _ _ _ r => r.reachesTooFar

/-- Check what can only be seen once a whole pattern is read. `rest` is empty, or it starts
with a bracket that closes no group. -/
def finish (r : Reader) (rest : Text) : Reading Program := do
  let modes := r.level.modes
  if modes.ascii && modes.unicode then
    throw .asciiAndUnicode
  if rest ≠ [] then
    throw (faultBefore rest 0 .unbalancedParenthesis)
  match r.expected.reverse.find? (fun e => decide (r.captures < e.1)) with
  | some (n, place) => throw (.fault ⟨.invalidReference n, some place⟩)
  | none => pure ()
  let x := r.level.regex
  match x.meaningless? modes.template with
  | some what => throw (.fault ⟨what, none⟩)
  | none => pure ()
  if x.reachesTooFar then
    throw .lookbehindTooLong
  return ⟨x, r.captures, r.names.reverse, modes, (x.width r.groupWidth).least⟩

/-- Compile a pattern under modes, with so many groups open at once. -/
def compile (mostOpen : Nat) (modes : Modes) (pattern : Text) : Reading Program := do
  let (r, rest) ← (Reader.start mostOpen modes).readAll (pattern.length + 1) pattern
  finish r rest

end Regex

end Highlighting
