import Highlighting.Unicode.Numeric
import Highlighting.Unicode.Blank
import Highlighting.Unicode.Case

/-!
# Regular expressions

The tree of a regular expression with the flags already worked into its leaves, and the number
of characters that an expression can take.

Letters are compared under a `Folding`. A character that ignores case is compared by its
lower-case form and by the folding class of that form. In a character class the members up to
U+FFFF are folded like that; a member above it is compared with the lower-case form as it
stands, and a range that reaches above it also with the upper-case form. A condition that no
letter makes depend on case has the exact folding, whatever the flags.

## Main definitions

* `Folding` -- how letters are compared.
* `CharTest` -- a condition on one character.
* `Anchor` -- a condition on a position.
* `Regex` -- expressions.
* `Regex.width` -- the fewest and the most characters that a match can have.
* `Regex.firstTest?` -- the condition on a character with which an expression begins.
-/
namespace Highlighting

/-- How letters are compared. -/
inductive Folding where
  /-- Every character equals itself only. -/
  | exact
  /-- The two cases of an ASCII letter are equal. -/
  | ascii
  /-- The cases of every letter are equal. -/
  | unicode
deriving DecidableEq, Repr

namespace Folding

/-- The code point that stands for all those equal to a given one up to their mates. -/
def code : Folding → Nat → Nat
  | exact, n => n
  | ascii, n => Unicode.asciiLowerCode n
  | unicode, n => Unicode.lowerCode n

/-- The other representatives that equal a given one. -/
def mates : Folding → Nat → List Nat
  | unicode, n => Unicode.foldMates n
  | _, _ => []

/-- The code points that a representative equals. -/
def variants : Folding → Nat → List Nat
  | exact, n => [n]
  | ascii, n => if 97 ≤ n ∧ n ≤ 122 then [n, n - 32] else [n]
  | unicode, n => (n :: Unicode.foldMates n).flatMap fun m => m :: Unicode.lowerOrigins m

/-- A code point between two bounds has another case under the folding. -/
def concerns (first last : Nat) : Folding → Bool
  | exact => false
  | ascii => decide (max first 65 ≤ min last 90) || decide (max first 97 ≤ min last 122)
  | unicode => Unicode.hasCaseBetween first last

/-- The folding, or the exact one where it does not matter. -/
def when (matters : Bool) (f : Folding) : Folding :=
  if matters then f else exact

end Folding

/-- A class of characters with a name of its own. -/
inductive Category where
  | digit
  | space
  | word
deriving DecidableEq, Repr

/-- A character is of a category, which may be cut down to ASCII. -/
def Category.holds (ascii : Bool) (c : Char) : Category → Bool
  | digit => if ascii then c.isDigit else Unicode.isDecimal c
  | space => if ascii then Unicode.isAsciiBlank c else Unicode.isBlank c
  | word => if ascii then Unicode.isAsciiWordChar c else Unicode.isWordChar c

/-- A member of a character class. -/
inductive ClassItem where
  /-- One code point. -/
  | code (n : Nat)
  /-- All code points from one to another. -/
  | span (first last : Nat)
  /-- The characters of a category, or those outside it. -/
  | category (kind : Category) (negated : Bool)
deriving DecidableEq, Repr

namespace ClassItem

/-- The last code point whose case is folded inside a class. -/
def foldLimit : Nat := 0xFFFF

/-- A member holds a character, given by its representative under the folding. -/
def holds (f : Folding) (ascii : Bool) (c : Char) : ClassItem → Bool
  | code n => if foldLimit < n then c.toNat == n else (f.variants c.toNat).contains n
  | span first last =>
    (f.variants c.toNat).any (fun m => decide (first ≤ m) && decide (m ≤ min last foldLimit))
      || (decide (foldLimit < last)
        && ((decide (first ≤ c.toNat) && decide (c.toNat ≤ last))
          || (f != .exact && decide (first ≤ Unicode.upperCode c.toNat)
            && decide (Unicode.upperCode c.toNat ≤ last))))
  | category kind negated => kind.holds ascii c != negated

/-- A member holds a code point that has another case under the folding. -/
def hasCase (f : Folding) : ClassItem → Bool
  | code n => f.concerns n n
  | span first last => f.concerns first last
  | category _ _ => false

/-- A member makes a class depend on the folding: it has case, or it reaches above U+FFFF. -/
def folds (f : Folding) (item : ClassItem) : Bool :=
  item.hasCase f ||
    match item with
    | code n => f != .exact && decide (foldLimit < n)
    | span _ last => f != .exact && decide (foldLimit < last)
    | category _ _ => false

end ClassItem

/-- A condition on one character. -/
inductive CharTest where
  /-- Any character. -/
  | any
  /-- Any character but a newline. -/
  | notNewline
  /-- One character up to folding, or every other one. -/
  | literal (folding : Folding) (negated : Bool) (code : Nat)
  /-- A character that some member holds, or one that none holds. -/
  | set (folding : Folding) (ascii negated : Bool) (items : List ClassItem)
deriving DecidableEq, Repr

/-- The character satisfies the condition. -/
def CharTest.holds (c : Char) : CharTest → Bool
  | any => true
  | notNewline => c != '\n'
  | literal f negated n =>
    let read := f.code c.toNat
    let meant := f.code n
    (read == meant || (f.mates meant).contains read) != negated
  | set f ascii negated items =>
    items.any (ClassItem.holds f ascii (Char.ofNat (f.code c.toNat))) != negated

namespace CharTest

/-- The code point that the condition asks for as it stands. -/
def exactCode? : CharTest → Option Nat
  | literal .exact false n => some n
  | _ => none

/-- The condition compares the character as it stands with a code point or with a class. -/
def isExact : CharTest → Bool
  | literal .exact false _ => true
  | set .exact _ _ _ => true
  | _ => false

/-- The condition compares the folded character with several code points. -/
def isFoldedClass : CharTest → Bool
  | literal f _ n => !(f.mates (f.code n)).isEmpty
  | set f _ _ _ => f != .exact
  | _ => false

end CharTest

/-- A condition on a position. -/
inductive Anchor where
  /-- At the start of the text. -/
  | textStart
  /-- At the end of the text. -/
  | textEnd
  /-- At the end of the text or before a newline that ends it. -/
  | lastLineEnd
  /-- At the start of a line. -/
  | lineStart
  /-- At the end of a line. -/
  | lineEnd
  /-- Between a word character and another one or an end of the text, or not there. -/
  | wordEdge (ascii negated : Bool)
deriving DecidableEq, Repr

/-- How a repetition chooses the number of its rounds. -/
inductive Greed where
  /-- As many as possible, giving back. -/
  | greedy
  /-- As few as possible, taking more. -/
  | lazily
  /-- As many as possible, giving none back. -/
  | possessive
deriving DecidableEq, Repr

/-- The fewest characters of a match, and the most, if there is a bound. -/
structure Width where
  min : Nat
  max : Option Nat
deriving DecidableEq, Repr

namespace Width

/-- No characters. -/
def zero : Width := ⟨0, some 0⟩

/-- One character. -/
def one : Width := ⟨1, some 1⟩

/-- One match after another. -/
def add (a b : Width) : Width :=
  ⟨a.min + b.min, a.max.bind fun m => b.max.map (m + ·)⟩

/-- One match or another. -/
def either (a b : Width) : Width :=
  ⟨Nat.min a.min b.min, a.max.bind fun m => b.max.map (Nat.max m)⟩

/-- The most characters of so many rounds, where no rounds and empty rounds take none. -/
def timesMax (rounds most : Option Nat) : Option Nat :=
  match rounds, most with
  | some 0, _ => some 0
  | _, some 0 => some 0
  | some n, some m => some (n * m)
  | _, _ => none

/-- Between so many and so many rounds. -/
def times (a : Width) (least : Nat) (most : Option Nat) : Width :=
  ⟨a.min * least, timesMax most a.max⟩

/-- A number of characters from here on counts as unbounded. -/
def limit : Nat := 4294967295

/-- The least number of characters as it is counted: below the limit. -/
def least (a : Width) : Nat := Nat.min a.min (limit - 1)

/-- The number of characters is fixed, as far as it is counted. -/
def fixed (a : Width) : Prop := Nat.min (a.max.getD limit) limit = a.least

instance (a : Width) : Decidable a.fixed := inferInstanceAs (Decidable (_ = _))

end Width

/-- A regular expression. -/
inductive Regex where
  /-- Nothing. -/
  | empty
  /-- No text at all. It ends a row of alternatives. -/
  | never
  /-- One character. -/
  | char (test : CharTest)
  /-- A position. -/
  | anchor (at_ : Anchor)
  /-- One expression after another. -/
  | seq (first second : Regex)
  /-- One expression or, failing that, another. -/
  | alt (first second : Regex)
  /-- A group that captures. -/
  | capture (group : Nat) (body : Regex)
  /-- The text that a group captured. -/
  | backref (folding : Folding) (group : Nat)
  /-- One expression if a group took part, and another if not. -/
  | conditional (group : Nat) (yes no : Regex)
  /-- A condition on the text ahead. -/
  | ahead (negated : Bool) (body : Regex)
  /-- A condition on the text behind, of the given width. -/
  | behind (negated : Bool) (width : Width) (body : Regex)
  /-- The first way in which an expression matches, and no other. -/
  | atomic (body : Regex)
  /-- A repetition. -/
  | loop (greed : Greed) (least : Nat) (most : Option Nat) (body : Regex)
deriving DecidableEq, Repr

namespace Regex

/-- Expressions one after another. -/
def sequence : List Regex → Regex
  | [] => empty
  | [r] => r
  | r :: rs => seq r (sequence rs)

/-- Expressions of which the first that leads to a match is taken. -/
def alternatives : List Regex → Regex
  | [] => never
  | r :: rs => alt r (alternatives rs)

/-- The width of an expression, given the widths of the groups it refers to. -/
def width (groups : Nat → Width) : Regex → Width
  | empty => .zero
  | never => ⟨Width.limit - 1, some 0⟩
  | char _ => .one
  | anchor _ => .zero
  | seq r s => (r.width groups).add (s.width groups)
  | alt r s => (r.width groups).either (s.width groups)
  | capture _ r => r.width groups
  | backref _ n => groups n
  | conditional _ r s => (r.width groups).either (s.width groups)
  | ahead _ _ => .zero
  | behind _ _ _ => .zero
  | atomic r => r.width groups
  | loop _ least most r => (r.width groups).times least most

/-- The condition that the next character has to meet before anything else happens, where
`after` is that of what follows the expression. -/
def firstTest? (after : Option CharTest) : Regex → Option CharTest
  | empty => after
  | char test => some test
  | seq r s => r.firstTest? (s.firstTest? after)
  | _ => none

/-- The condition of an expression that is one character. -/
def single? : Regex → Option CharTest
  | char test => some test
  | _ => none

end Regex

end Highlighting
