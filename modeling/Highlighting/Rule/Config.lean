import Highlighting.Rule.Basic

/-!
# Configured rules

A configuration describes rules as plain data. Instead of a style an entry may name a color,
which a palette turns into an escape; a style that is not empty wins.

## Main definitions

* `RuleConfig` -- the description of a rule and of its handler's rules.
* `RuleConfig.build` -- the rule that it describes, or the first thing wrong with it.
-/
namespace Highlighting

/-- What gives the escape for the name of a color. The answer may be none. -/
abbrev PaletteLookup := String → Option Text

/-- The description of a rule. -/
structure RuleConfig where
  name : String
  /-- The pattern: none if the entry has none, and otherwise the value given for it. -/
  pattern : Option (Option Text)
  style : Option Text
  color : Option String
  handler : List RuleConfig
  rematch : List String
  transform : Option Transform

namespace RuleConfig

/-- The style of a rule: its own if it has one, else the palette's answer for its color, else
its own empty style. Without a palette a color cannot be named. -/
def resolveStyle (palette : Option PaletteLookup) (name : String) (style : Option Text)
    (color : Option String) : Except Failure (Option Text) :=
  if style.getD [] ≠ [] ∨ color.getD "" = "" then .ok style
  else
    match palette with
    | some lookup => .ok (lookup (color.getD ""))
    | none => .error (.grammar (.noPalette name (color.getD "")))

mutual

/-- The rule that an entry describes. Its color is resolved first; then the rules of its handler
are built; then its pattern, its name and its pattern's text are checked. -/
def build (palette : Option PaletteLookup) : RuleConfig → Except Failure Rule
  | ⟨name, pattern, style, color, handler, rematch, transform⟩ => do
    let style ← resolveStyle palette name style color
    let handler ← buildAll palette handler
    match pattern with
    | none => throw (.missingKey (quotedString "pattern"))
    | some pattern => Rule.make (.text name) pattern style handler rematch transform

/-- The rules that entries describe, in order. -/
def buildAll (palette : Option PaletteLookup) : List RuleConfig → Except Failure (List Rule)
  | [] => .ok []
  | c :: rest => do
    let r ← build palette c
    let rs ← buildAll palette rest
    return r :: rs

end

end RuleConfig

end Highlighting
