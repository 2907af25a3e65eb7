import Highlighting.Grammar.Compile
import Highlighting.Palette
import Highlighting.Rule.Config

/-!
# The stock grammar

The rules used unless others are given: comments, numbers, variables, symbols, brackets, truth
values, types, versions, names in a namespace, and string literals with their interpolations
and escapes.

## Main definitions

* `Stock.config` -- the rules as a configuration.
* `Stock.rules` -- the rules colored from a palette.
-/
namespace Highlighting.Stock

/-- An entry with a pattern and a color. -/
def entry (name pattern color : String) : RuleConfig :=
  ⟨name, some (some pattern.toList), some [], some color, [], [], none⟩

/-- An entry with siblings for the inside of its tokens. -/
def withRematch (c : RuleConfig) (names : List String) : RuleConfig :=
  { c with rematch := names }

/-- An entry with a handler. -/
def withHandler (c : RuleConfig) (handler : List RuleConfig) : RuleConfig :=
  { c with handler := handler }

/-- The rules for the inside of an interpolation. -/
def interpolation : List RuleConfig :=
  [entry "chars" "[a-zA-Z][a-zA-Z0-9_]*" "CHARS",
    entry "define" "\\$[a-zA-Z_][a-zA-Z0-9_]*" "DEFINE",
    entry "number" "\\b\\d+\\b" "NUMBER",
    entry "symbol" "[\x7b\x7d\\[\\]()<>\\-]" "BRACKET",
    entry "mismatch" "." "STRING"]

/-- The rules for the inside of a string literal. -/
def stringHandler : List RuleConfig :=
  [withHandler
      (entry "curly" "(?<!\\\\)\\\x7b(?:[^\x7d\\\\]|\\\\.)*\\\x7d" "BRACKET") interpolation,
    withHandler
      (entry "bracket" "(?<!\\\\)\\[(?:[^\\]\\\\]|\\\\.)*\\]" "BRACKET") interpolation,
    entry "hexadec" "\\\\x[a-fA-F0-9]\x7b2\x7d" "HEXADEC",
    entry "escape" "\\\\(?:[0-7]\x7b1,3\x7d|[abefnrtvAZdDsSwWhHkpPg\\\\\\\"'\x60])" "ESCAPE",
    entry "define" "\\$[a-zA-Z_][a-zA-Z0-9_]*" "DEFINE"]

/-- The stock rules. -/
def config : List RuleConfig :=
  [withRematch
      (entry "comment" "\\#\\[[^\\]]*\\]|(?:\\#|//)[^\\n]*|/\\*.*?\\*/" "COMMENT")
      ["define", "version"],
    entry "number" "\\b\\d+\\b" "NUMBER",
    withRematch (entry "define" "[@$][a-zA-Z_][a-zA-Z0-9_\\-.]*" "DEFINE") ["symbol"],
    entry "symbol" "[\\\\:*\\-+/&%=;,.?!|<>~]" "SYMBOL",
    entry "bracket" "[\x7b\x7d\\[\\]()]" "BRACKET",
    entry "boolean" "\\b(?:False|True|Null|None)\\b" "BOOLEAN",
    entry "type"
      ("\\b(?:Array|Bool|Callable|Closure|Double|Float|Int|Integer|Mixed|Object|Resource"
        ++ "|String|Void)\\b") "TYPE",
    withHandler (entry "version" "\\b[vV]\\d+(?:\\.\\d+)*\\b" "VERSION")
      [entry "floating" "[\\d.]+" "FLOATING"],
    withRematch
      (entry "namespace" "\\b[a-zA-Z_][a-zA-Z0-9_]*(?:\\\\[a-zA-Z_][a-zA-Z0-9_]*)+\\b"
        "NAMESPACE") ["symbol"],
    withHandler
      (entry "string" "(?<!\\\\)(?:\\\".*?(?<!\\\\)\\\"|'.*?(?<!\\\\)'|\x60.*?(?<!\\\\)\x60)"
        "STRING") stringHandler]

/-- The stock rules, colored from a palette, or what is wrong with them. -/
def rules? (p : Palette) : Except Failure (List Rule) :=
  RuleConfig.buildAll (some fun name => some (p.escape name)) config

/-- The grammar of the stock rules, colored from a palette. -/
def grammar? (p : Palette) : Except Failure Grammar := do
  let rules ← rules? p
  Grammar.compile (.sequence rules) Grammar.defaultFlags Grammar.defaultMaxDepth

end Highlighting.Stock
