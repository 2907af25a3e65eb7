import Highlighting.Pattern
import Highlighting.Rule.Basic

/-!
# Grammars

A grammar is a set of rules compiled into one alternation, with a node for each rule. A node
holds the rule and the alternations for the inside of its tokens: that of its handler, and that
of the sibling rules it names. The nodes of those siblings stand in the latter, so a compiled
grammar is a finite tree and coloring a text descends in it.

A token is colored with two escapes at hand: the style of its rule goes before it, and the escape
that was in force around it is restored behind it. Inside a token its own style is restored, or,
if it has none, the escape around it. Tokens are followed into each other however long the chain of
rules is: room for the work itself is not accounted for.

## Main definitions

* `Alternation`, `Node`, `Grammar` -- compiled grammars.
* `resolve` -- the one rule that a match comes from.
* `Node.render`, `Alternation.substitute` -- a token and a text with their tokens colored.
-/
namespace Highlighting

/-- A pattern with something for each of the rules it is made of. -/
structure Alternation (α : Type) where
  pattern : Pattern
  nodes : List α

/-- A compiled rule. -/
inductive Node where
  | mk (rule : Rule) (handler rematch : Option (Alternation Node))

namespace Node

/-- The rule of a node. -/
def rule : Node → Rule
  | mk r _ _ => r

/-- The name of a node's rule. -/
def name (n : Node) : String := n.rule.name

/-- The alternation of the rule's handler. -/
def handler : Node → Option (Alternation Node)
  | mk _ h _ => h

/-- The alternation of the siblings that the rule names. -/
def rematch : Node → Option (Alternation Node)
  | mk _ _ r => r

@[simp] theorem rule_mk (r : Rule) (h m : Option (Alternation Node)) : (mk r h m).rule = r := rfl
@[simp] theorem handler_mk (r : Rule) (h m : Option (Alternation Node)) :
    (mk r h m).handler = h := rfl
@[simp] theorem rematch_mk (r : Rule) (h m : Option (Alternation Node)) :
    (mk r h m).rematch = m := rfl

end Node

/-- The names of an alternation's rules. -/
def Alternation.names (a : Alternation Node) : List String :=
  a.nodes.map Node.name

/-- The one rule among those named that a match comes from, with its group. -/
def resolve (names : List String) (m : Match) : Except Failure (String × Capture) :=
  match m.groups.filter fun c => names.contains c.name with
  | [c] => .ok (c.name, c)
  | fired =>
    .error (.resolution (.ambiguous m.full m.start (fired.map (·.name))
      (m.groups.map fun c => (c.name, c.value))))

/-- The escape that is restored inside a token: the style of its rule, or the one around. -/
def restored (style escape : Text) : Text :=
  if style = [] then escape else style

/-- A text put between a style and the escape around it, if there is a style. -/
def wrap (style chars escape : Text) : Text :=
  if style = [] then chars else style ++ chars ++ escape

/-- The text of a token after the rule's transform. -/
def Rule.transformed (r : Rule) (chars : Text) : Except Failure Text :=
  match r.transform with
  | some t => t.apply chars
  | none => .ok chars

mutual

/-- A token of a node's rule, colored. -/
def Node.render : Node → (chars escape : Text) → Except Failure Text
  | .mk rule handler rematch, chars, escape => do
    let inner := restored rule.escape escape
    let chars ← rule.transformed chars
    let chars ← recolor handler chars inner
    let chars ← recolor rematch chars inner
    return wrap rule.escape chars escape

/-- A text with its tokens colored, if there is an alternation for it. -/
def recolor : Option (Alternation Node) → (text escape : Text) → Except Failure Text
  | none, text, _ => .ok text
  | some a, text, escape => a.substitute text escape

/-- A text with every token colored. A match of no text is dropped. -/
def Alternation.substitute : Alternation Node → (text escape : Text) → Except Failure Text
  | ⟨pattern, nodes⟩, text, escape =>
    pattern.replaceM text fun m =>
      if m.full = [] then .ok []
      else do
        let (name, capture) ← resolve (nodes.map Node.name) m
        renderNamed nodes name capture.value escape

/-- A token colored by the node of a name. -/
def renderNamed : List Node → (name : String) → (chars escape : Text) → Except Failure Text
  | [], _, chars, _ => .ok chars
  | n :: rest, name, chars, escape =>
    if n.name = name then n.render chars escape else renderNamed rest name chars escape

end

/-- One match of an alternation, colored. -/
def Alternation.apply (a : Alternation Node) (m : Match) (escape : Text) : Except Failure Text :=
  if m.full = [] then .ok []
  else do
    let (name, capture) ← resolve a.names m
    renderNamed a.nodes name capture.value escape

/-- A compiled set of rules with the flags and the bound on nesting it was compiled under. -/
structure Grammar where
  flags : String
  maxDepth : Int
  level : Alternation Node

namespace Grammar

/-- The pattern of the alternation of all rules. -/
def pattern (g : Grammar) : Pattern := g.level.pattern

/-- The names of the rules, in order. -/
def names (g : Grammar) : List String := g.level.names

/-- There is a rule of that name. -/
def contains (g : Grammar) (name : String) : Bool := g.names.contains name

/-- The grammar as an expression that lists its rules. -/
def described (g : Grammar) : String := "Grammar(" ++ quotedList g.names ++ ")"

/-- The one rule that a match comes from. -/
def resolve (g : Grammar) (m : Match) : Except Failure (String × Capture) :=
  Highlighting.resolve g.names m

/-- One match, colored. -/
def apply (g : Grammar) (m : Match) (escape : Text) : Except Failure Text :=
  g.level.apply m escape

/-- A text with every token colored, restoring an escape behind each. -/
def substitute (g : Grammar) (text escape : Text) : Except Failure Text :=
  g.level.substitute text escape

end Grammar

end Highlighting
