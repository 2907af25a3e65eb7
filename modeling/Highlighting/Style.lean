import Highlighting.Style.Color
import Highlighting.Unicode.Blank

/-!
# Styles

The style of a piece of text in a terminal: attributes that are switched on or off, the color,
the background, and a link. A style is described by words: attributes, each after `not` if it is
off, the color, the background after `on`, and the target of the link after `link`.

## Main definitions

* `Attribute`, `Style` -- styles.
* `StyleFault` -- what is wrong with a description.
* `Style.ofDescription` -- the style that a description names.
* `Style.described` -- the description of a style.
* `Style.codes` -- the rendition codes that select a style.
* `Style.onto` -- a style on top of another.
-/
namespace Highlighting

/-- An attribute of a text. -/
inductive Attribute where
  | bold
  | dim
  | italic
  | underline
  | blink
  | blink2
  | reverse
  | conceal
  | strike
  | underline2
  | frame
  | encircle
  | overline
deriving DecidableEq, Repr

namespace Attribute

/-- The name of an attribute. -/
def name : Attribute → String
  | bold => "bold"
  | dim => "dim"
  | italic => "italic"
  | underline => "underline"
  | blink => "blink"
  | blink2 => "blink2"
  | reverse => "reverse"
  | conceal => "conceal"
  | strike => "strike"
  | underline2 => "underline2"
  | frame => "frame"
  | encircle => "encircle"
  | overline => "overline"

/-- All attributes, in the order in which they are described. -/
def all : List Attribute :=
  [bold, dim, italic, underline, blink, blink2, reverse, conceal, strike, underline2, frame,
    encircle, overline]

/-- Short names of attributes. -/
def shortNames : List (String × Attribute) :=
  [("b", bold), ("d", dim), ("i", italic), ("u", underline), ("r", reverse), ("c", conceal),
    ("s", strike), ("uu", underline2), ("o", overline)]

/-- The attribute of a name or a short name. -/
def named? (s : String) : Option Attribute :=
  (all.find? (·.name == s)).or (shortNames.lookup s)

end Attribute

/-- The style of a piece of text. -/
structure Style where
  /-- The attributes that are switched, last first. -/
  attributes : List (Attribute × Bool)
  color : Option TextColor
  background : Option TextColor
  /-- The link that is set. No link may be set as well. -/
  link : Option (Option String)
deriving DecidableEq, Repr

namespace Style

/-- The style that changes nothing. -/
def plain : Style := ⟨[], none, none, none⟩

/-- The style switches an attribute on or off. -/
def attribute? (s : Style) (a : Attribute) : Option Bool :=
  s.attributes.lookup a

/-- The style with an attribute switched. -/
def switch (s : Style) (a : Attribute) (value : Bool) : Style :=
  { s with attributes := (a, value) :: s.attributes }

/-- The style changes nothing. -/
def isPlain (s : Style) : Bool :=
  s.attributes.isEmpty && s.color.isNone && s.background.isNone && s.link.isNone

/-- A style on top of another one. -/
def onto (top bottom : Style) : Style :=
  ⟨top.attributes ++ bottom.attributes, top.color.or bottom.color,
    top.background.or bottom.background, top.link.or bottom.link⟩

/-- The words of the attributes. -/
def attributeWords (s : Style) : List String :=
  Attribute.all.flatMap fun a =>
    match s.attribute? a with
    | some true => [a.name]
    | some false => ["not " ++ a.name]
    | none => []

/-- The description of a style. -/
def described (s : Style) : String :=
  let words := s.attributeWords ++ (s.color.toList.map (·.word))
    ++ (s.background.toList.map fun b => "on " ++ b.word)
    ++ (s.link.join.toList.map fun l => "link " ++ l)
  if words.isEmpty then "none" else " ".intercalate words

/-- The style without its colors. -/
def withoutColor (s : Style) : Style := { s with color := none, background := none }

/-- The code that switches an attribute on. -/
def attributeCode : Attribute → Nat
  | .bold => 1
  | .dim => 2
  | .italic => 3
  | .underline => 4
  | .blink => 5
  | .blink2 => 6
  | .reverse => 7
  | .conceal => 8
  | .strike => 9
  | .underline2 => 21
  | .frame => 51
  | .encircle => 52
  | .overline => 53

/-- The rendition codes that select a style: its attributes, its color and its background. -/
def codes (depth : TextColor.Depth) (s : Style) : List Nat :=
  ((Attribute.all.filter fun a => s.attribute? a = some true).map attributeCode)
    ++ s.color.toList.flatMap (·.codes depth 30)
    ++ s.background.toList.flatMap (·.codes depth 40)

/-- The lower-case form of a word. -/
def lower (word : Text) : String :=
  String.ofList (Unicode.toLower word)

end Style

/-- What is wrong with the description of a style. -/
inductive StyleFault where
  | badColor (word : Text) (e : ColorFault)
  | badBackground (word : Text) (e : ColorFault)
  /-- There is no word after `on`. -/
  | missingBackground
  /-- The word after `not` names no attribute. -/
  | notAnAttribute (word : Text)
  /-- There is no word after `link`. -/
  | missingTarget
deriving DecidableEq, Repr

namespace StyleFault

/-- The fault in words. A number that cannot be read is a fault of its own. -/
def message : StyleFault → String
  | badColor _ (.number e) => e.message
  | badBackground _ (.number e) => e.message
  | badColor w e => "unable to parse " ++ String.ofList w.quoted ++ " as color; " ++ e.message
  | badBackground w e =>
    "unable to parse " ++ String.ofList w.quoted ++ " as background color; " ++ e.message
  | missingBackground => "color expected after 'on'"
  | notAnAttribute w =>
    "expected style attribute after 'not', found " ++ String.ofList w.quoted
  | missingTarget => "URL expected after 'link'"

/-- The fault is that of a number that cannot be read. -/
def number? : StyleFault → Option NumberFault
  | badColor _ (.number e) => some e
  | badBackground _ (.number e) => some e
  | _ => none

end StyleFault

namespace Style

/-- A style with what a row of words adds to it. A word that names no attribute is a color. -/
def addWords (s : Style) : List Text → Except StyleFault Style
  | [] => .ok s
  | word :: rest =>
    match lower word, rest with
    | "on", [] => .error .missingBackground
    | "on", next :: rest =>
      match TextColor.read next with
      | .ok c => addWords { s with background := some c } rest
      | .error e => .error (.badBackground next e)
    | "not", [] => .error (.notAnAttribute [])
    | "not", next :: rest =>
      match Attribute.named? (String.ofList next) with
      | some a => addWords (s.switch a false) rest
      | none => .error (.notAnAttribute next)
    | "link", [] => .error .missingTarget
    | "link", next :: rest => addWords { s with link := some (some (String.ofList next)) } rest
    | w, rest =>
      match Attribute.named? w with
      | some a => addWords (s.switch a true) rest
      | none =>
        match TextColor.read w.toList with
        | .ok c => addWords { s with color := some c } rest
        | .error e => .error (.badColor w.toList e)

/-- The words of a text: its longest stretches without blanks. -/
def words (t : Text) : List Text :=
  (t.splitBy fun a b => Unicode.isBlank a == Unicode.isBlank b).filter fun w =>
    w.any fun c => !Unicode.isBlank c

/-- The style of a description. -/
def ofDescription (s : String) : Except StyleFault Style :=
  match words s.toList with
  | [['n', 'o', 'n', 'e']] => .ok plain
  | ws => plain.addWords ws

end Style

end Highlighting
