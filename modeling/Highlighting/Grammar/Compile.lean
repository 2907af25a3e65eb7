import Highlighting.Grammar.Basic
import Highlighting.Grammar.Circle

/-!
# Compiling a grammar

Rules are compiled level by level: the rules given, and below each rule those of its handler.
A level is checked in this order: names are declared once, there is a rule, the nesting is not
too deep, each pattern compiles on its own, no group name is shared, the alternation compiles,
every sibling named for a rule exists, and siblings do not name each other in a circle. Then the
handlers are compiled, rule by rule, and after them the alternations of the siblings named.

The nodes of a level are built in rounds. A round gives every rule a node in which the siblings
named for it have their nodes of the round before, so a rule's node is complete after as many
rounds as the longest chain of siblings from it has rules, and all nodes are after one round for
each rule.

How deep levels may nest is given. Room for the work itself is not accounted for, but for the
groups of one pattern.

## Main definitions

* `RuleSet` -- rules as they are given, in a sequence or under keys.
* `Grammar.compile` -- the grammar of a set of rules, or the first thing wrong with it.
-/
namespace Highlighting

/-- Rules as they are given. -/
inductive RuleSet where
  | sequence (rules : List Rule)
  /-- Rules under keys, which must be their names. -/
  | keyed (entries : List (String × Rule))

namespace RuleSet

/-- The rules, in order. -/
def rules : RuleSet → List Rule
  | sequence rs => rs
  | keyed es => es.map (·.2)

/-- The first rule that is kept under a key other than its name. -/
def misregistered? : RuleSet → Option (String × Rule)
  | sequence _ => none
  | keyed es => es.find? fun e => e.1 != e.2.name

end RuleSet

namespace Grammar

/-- The first of the names that occurred before, given those already seen. -/
def repeated? (seen : List String) : List String → Option String
  | [] => none
  | n :: rest => if n ∈ seen then some n else repeated? (n :: seen) rest

/-- Names must be declared once. -/
def checkDistinct (names : List String) : Except Failure Unit :=
  match repeated? [] names with
  | some n => .error (.grammar (.declaredTwice n))
  | none => .ok ()

/-- The pattern of a rule, compiled on its own. -/
def compileAlone (flags : String) (r : Rule) : Except Failure Pattern :=
  match Pattern.compile r.pattern flags with
  | .ok p => .ok p
  | .error (.pattern e) => .error (.pattern (.inRule r.name r.pattern e))
  | .error e => .error e

/-- Enter the groups of a rule among those that have an owner, up to the first that has one
already. -/
def claimGroups (rule : String) :
    List String → (owners : List (String × String)) → Except Failure (List (String × String))
  | [], owners => .ok owners
  | g :: rest, owners =>
    match owners.lookup g with
    | some owner =>
      if owner = rule then .error (.grammar (.groupRepeated g rule))
      else .error (.grammar (.groupShared g rule owner))
    | none => claimGroups rule rest ((g, rule) :: owners)

/-- Each pattern must compile on its own, and no group name may be shared by two rules or by a
rule and a group inside it. -/
def checkGroups (flags : String) :
    List Rule → (owners : List (String × String)) → Except Failure Unit
  | [], _ => .ok ()
  | r :: rest, owners => do
    let p ← compileAlone flags r
    let owners ← claimGroups r.name (r.name :: p.groupNames) owners
    checkGroups flags rest owners

/-- The siblings that the rule of a name names. -/
def targetsOf (rules : List Rule) (name : String) : List String :=
  match rules.find? (·.name == name) with
  | some r => r.rematch
  | none => []

/-- The first sibling named for a rule that does not exist. -/
def unknownTarget? (names : List String) (rules : List Rule) : Option (String × String) :=
  rules.findSome? fun r => (r.rematch.find? fun t => !names.contains t).map (r.name, ·)

/-- Siblings named for rules must exist and must not name each other in a circle. -/
def checkRematch (rules : List Rule) : Except Failure Unit :=
  let names := rules.map (·.name)
  match unknownTarget? names rules with
  | some (r, t) => .error (.grammar (.unknownTarget r t))
  | none =>
    match Circle.find? (targetsOf rules) names with
    | some (first, path) => .error (.grammar (.cycle first path))
    | none => .ok ()

/-- The pattern of the siblings named for a rule, if there are any. None may be named twice. -/
def rematchPattern (flags : String) (rules : List Rule) (r : Rule) :
    Except Failure (Option Pattern) :=
  if r.rematch = [] then .ok none
  else do
    let targets := r.rematch.filterMap fun t => rules.find? (·.name == t)
    checkDistinct (targets.map (·.name))
    let p ← Pattern.compile (Rule.alternation targets) flags
    return some p

/-- A rule whose handler and whose siblings' pattern are compiled. -/
structure Part where
  rule : Rule
  handler : Option (Alternation Node)
  rematch : Option Pattern

/-- The node of a part, where the siblings have the nodes given. -/
def Part.node (siblings : List Node) (p : Part) : Node :=
  .mk p.rule p.handler (p.rematch.map fun pattern =>
    ⟨pattern, p.rule.rematch.filterMap fun t => siblings.find? (·.name == t)⟩)

/-- The nodes of the parts of a level after so many rounds. -/
def nodes (parts : List Part) : (rounds : Nat) → List Node
  | 0 => []
  | n + 1 =>
    let siblings := nodes parts n
    parts.map (Part.node siblings)

/-- Check a level and compile it, given how to compile the handlers of its rules. -/
def compileLevel (flags : String) (maxDepth depth : Int) (rules : List Rule)
    (handlers : Unit → Except Failure (List (Option (Alternation Node)))) :
    Except Failure (Alternation Node) := do
  checkDistinct (rules.map (·.name))
  match rules with
  | [] => throw (.grammar .noRules)
  | first :: _ =>
    if maxDepth < depth then
      throw (.grammar (.tooDeep maxDepth first.name))
  checkGroups flags rules []
  let pattern ← Pattern.compile (Rule.alternation rules) flags
  checkRematch rules
  let handlers ← handlers ()
  let rematches ← rules.mapM (rematchPattern flags rules)
  let parts := (rules.zip (handlers.zip rematches)).map fun (r, h, m) => ⟨r, h, m⟩
  return ⟨pattern, nodes parts rules.length⟩

mutual

/-- The alternation of a rule's handler, one level below the rule, if it has one. -/
def compileHandler (flags : String) (maxDepth depth : Int) :
    Rule → Except Failure (Option (Alternation Node))
  | ⟨_, _, _, handler, _, _, _, _⟩ =>
    if handler.isEmpty then .ok none
    else
      (compileLevel flags maxDepth (depth + 1) handler fun _ =>
        compileHandlers flags maxDepth (depth + 1) handler).map some

/-- The alternations of the handlers of rules at a depth. -/
def compileHandlers (flags : String) (maxDepth depth : Int) :
    List Rule → Except Failure (List (Option (Alternation Node)))
  | [] => .ok []
  | r :: rest => do
    let h ← compileHandler flags maxDepth depth r
    let hs ← compileHandlers flags maxDepth depth rest
    return h :: hs

end

/-- The flags under which grammars are compiled unless others are given. -/
def defaultFlags : String := "ms"

/-- The levels that handlers may be nested unless another number is given. -/
def defaultMaxDepth : Int := 16

/-- The grammar of a set of rules. -/
def compile (rules : RuleSet) (flags : String) (maxDepth : Int) : Except Failure Grammar := do
  if let some (key, r) := rules.misregistered? then
    throw (.grammar (.misregistered r.name key))
  let level ← compileLevel flags maxDepth 0 rules.rules fun _ =>
    compileHandlers flags maxDepth 0 rules.rules
  return ⟨flags, maxDepth, level⟩

end Grammar

end Highlighting
