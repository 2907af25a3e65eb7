import Highlighting.Ansi.Segment
import Highlighting.Style
import Highlighting.Text.Quoted

/-!
# Palettes

A palette names formats, which are escapes, and colors. A color has the escape that is put
before a token and the description of the equal style; either may be missing and then counts as
empty.

## Main definitions

* `Color`, `Palette` -- palettes.
* `Palette.standard` -- the palette used unless another is given.
* `Palette.add` -- a palette with one more color.
* `Palette.previewRows` -- a preview of the colors.
-/
namespace Highlighting

/-- A color: the escape put before a token, and the description of the equal style. -/
structure Color where
  ansi : Option Text
  description : Option String
deriving DecidableEq, Repr

/-- The escape with the given codes. -/
def formatEscape (codes : Text) : Text :=
  [Ansi.esc, '['] ++ codes ++ ['m']

namespace Color

/-- The color that stands for a name which the palette does not have. -/
def missing : Color := ⟨some [], some ""⟩

/-- A color of the table of 256, in bold. -/
def indexed (n : Nat) : Color :=
  ⟨some (formatEscape ("1;38;5;".toList ++ Nat.toDigits 10 n)),
    some ("bold color(" ++ toString n ++ ")")⟩

end Color

/-- Named formats and colors, in order. -/
structure Palette where
  formats : List (String × Text)
  colors : List (String × Color)
deriving DecidableEq, Repr

namespace Palette

/-- The formats unless others are given. -/
def standardFormats : List (String × Text) :=
  [("RESET", formatEscape ['0']), ("ITALIC_ON", formatEscape ['3']),
    ("ITALIC_OFF", formatEscape ['2', '3']), ("BOLD_ON", formatEscape ['1']),
    ("BOLD_OFF", formatEscape ['2', '2'])]

/-- The colors unless others are given: one for each kind of token. -/
def standardColors : List (String × Color) :=
  [("COMMENT", .indexed 250), ("NUMBER", .indexed 61), ("DEFINE", .indexed 111),
    ("SYMBOL", .indexed 69), ("BRACKET", .indexed 214), ("BOOLEAN", .indexed 199),
    ("TYPE", .indexed 213), ("VERSION", .indexed 112), ("FLOATING", .indexed 190),
    ("NAMESPACE", .indexed 111), ("STRING", .indexed 220), ("CHARS", .indexed 11),
    ("HEXADEC", .indexed 85), ("ESCAPE", .indexed 208)]

/-- The palette used unless another is given. -/
def standard : Palette := ⟨standardFormats, standardColors⟩

/-- A palette of the formats and colors given, and the standard ones where none are. -/
def ofParts (formats : Option (List (String × Text))) (colors : Option (List (String × Color))) :
    Palette :=
  ⟨formats.getD standardFormats, colors.getD standardColors⟩

/-- The escape of a format, empty if there is none. -/
def format (p : Palette) (name : String) : Text :=
  (p.formats.lookup name).getD []

/-- The color of a name. -/
def color (p : Palette) (name : String) : Color :=
  (p.colors.lookup name).getD .missing

/-- The escape of a color, empty if there is none. -/
def escape (p : Palette) (name : String) : Text :=
  (p.color name).ansi.getD []

/-- The style of a color. -/
def style (p : Palette) (name : String) : Except StyleFault Style :=
  Style.ofDescription ((p.color name).description.getD "")

/-- The palette with one more color, whose name must be new. -/
def add (p : Palette) (name : String) (ansi : Text) (description : String) :
    Except String Palette :=
  if (p.colors.lookup name).isSome then .error ("Color '" ++ name ++ "' already exists")
  else .ok { p with colors := p.colors ++ [(name, ⟨some ansi, some description⟩)] }

/-- A row of the preview of a palette. -/
structure PreviewRow where
  name : String
  sample : String
  style : Style
  ansi : String
deriving DecidableEq, Repr

/-- The title of the preview. -/
def previewTitle : String := "hilite palette"

/-- The headings of the preview. -/
def previewColumns : List String := ["Name", "Sample", "ANSI"]

/-- The row of a color: its name, the name in lower case as a sample, and its escape in
quotes. -/
def previewRow (p : Palette) (name : String) : Except StyleFault PreviewRow :=
  (p.style name).map fun style =>
    ⟨name, String.ofList (Unicode.toLower name.toList), style,
      String.ofList (p.escape name).quoted⟩

/-- The preview, with a row for each color, if all have a style. -/
def previewRows (p : Palette) : Except StyleFault (List PreviewRow) :=
  p.colors.mapM fun (name, _) => p.previewRow name

end Palette

end Highlighting
