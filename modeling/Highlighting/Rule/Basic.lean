import Highlighting.Rule.Transform
import Highlighting.Unicode.Identifier

/-!
# Rules

A rule names a pattern and says what happens to the text it matches: the text goes through the
transform, is tokenized again by the rules of the handler and then by the sibling rules named
for it, and is wrapped in the style. The name of a rule becomes the name of a group, so it must
be an identifier, and a pattern must not be empty.

## Main definitions

* `Rule` -- a rule with its handler's rules.
* `Rule.make` -- a rule from given values, or what is wrong with them.
* `Rule.group` -- the pattern of a rule in the group that is named after it.
-/
namespace Highlighting

/-- A rule. -/
structure Rule where
  name : String
  pattern : Text
  /-- The escape put before a token. None counts as an empty one. -/
  style : Option Text
  /-- Rules for the inside of a token. -/
  handler : List Rule
  /-- Names of sibling rules for the inside of a token. -/
  rematch : List String
  transform : Option Transform
  isIdentifier_name : Unicode.isIdentifier name.toList = true
  pattern_ne_nil : pattern ≠ []

namespace Rule

/-- The escape put before a token. -/
def escape (r : Rule) : Text :=
  r.style.getD []

/-- A rule from given values. The name is checked first. -/
def make (name : GivenName) (pattern : Option Text) (style : Option Text) (handler : List Rule)
    (rematch : List String) (transform : Option Transform) : Except Failure Rule :=
  match name with
  | .value _ _ => .error (.grammar (.invalidName name))
  | .text s =>
    if hs : Unicode.isIdentifier s.toList = true then
      if hp : pattern.getD [] ≠ [] then
        .ok ⟨s, pattern.getD [], style, handler, rematch, transform, hs, hp⟩
      else .error (.pattern (.emptyRule s pattern))
    else .error (.grammar (.invalidName name))

/-- The pattern in a group that is named after the rule. -/
def group (r : Rule) : Text :=
  "(?P<".toList ++ r.name.toList ++ ['>'] ++ r.pattern ++ [')']

/-- The pattern that matches what one of some rules matches: their groups with bars between. -/
def alternation (rules : List Rule) : Text :=
  Text.joinWith ['|'] (rules.map group)

end Rule

end Highlighting
