import Highlighting.Error
import Highlighting.Unicode.Case

/-!
# Transforms

A rule may pass the text it matched through a transform before the text is colored. A transform
may fail, and its failure ends the call.

## Main definitions

* `Transform` -- a transform with its name.
* `Transform.named?` -- the transforms that come with the library.
-/
namespace Highlighting

/-- A named function on texts that may fail. -/
structure Transform where
  name : String
  apply : Text → Except Failure Text

namespace Transform

/-- A transform that never fails. -/
def total (name : String) (f : Text → Text) : Transform :=
  ⟨name, fun t => .ok (f t)⟩

/-- A transform that always fails, with a message that quotes the text. -/
def failing (name : String) (raise : String → Failure) : Transform :=
  ⟨name, fun t => .error (raise ("transform failed on " ++ String.ofList t.quoted))⟩

/-- The transforms that come with the library. -/
def stock : List Transform :=
  [total "upper" Unicode.toUpper,
    total "lower" Unicode.toLower,
    total "reverse" List.reverse,
    total "double" fun t => t ++ t,
    total "empty" fun _ => [],
    total "hash" fun t => List.replicate t.length '#',
    total "bracket" fun t => ['['] ++ t ++ [']'],
    failing "raise_resolution" fun m => .resolution (.raised m []),
    failing "raise_grammar" fun m => .grammar (.raised m),
    failing "raise_pattern" fun m => .pattern (.raised m),
    failing "raise_highlight" .highlighting,
    failing "raise_value" .foreign]

/-- The stock transform of a name. -/
def named? (name : String) : Option Transform :=
  stock.find? (·.name == name)

end Transform

end Highlighting
