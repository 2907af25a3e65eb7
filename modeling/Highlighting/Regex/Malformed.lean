import Highlighting.Text.Quoted

/-!
# What is wrong with a pattern

A pattern that cannot be read is at fault at one place. Readers hold the rest of the pattern and
not their position in it, so a place is kept as the number of characters from it to the end of
the pattern; the position is worked out when the message is written.

## Main definitions

* `Malformed` -- the kinds of fault, with their wording.
* `PatternFault` -- a fault and its place.
* `CompileError` -- all that can stop a pattern from being compiled.
-/
namespace Highlighting

/-- A kind of fault in a pattern. -/
inductive Malformed where
  | danglingBackslash
  | unbalancedParenthesis
  | unterminatedGroup
  | unterminatedComment
  | unterminatedSet
  | badRange (first last : Text)
  | nothingToRepeat
  | multipleRepeat
  | leastAboveMost
  | incompleteEscape (escape : Text)
  | badEscape (escape : Text)
  | octalTooLarge (escape : Text)
  | missingBrace
  | missingName (what : String)
  | unterminatedName (closing : Char)
  | undefinedCharacter (name : Text)
  | badGroupName (name : Text)
  | badGroupNumber
  | unknownGroup (name : String)
  | groupRedefined (name : String) (new old : Nat)
  | invalidReference (group : Nat)
  | openReference
  | lookbehindReference
  | unexpectedEnd
  | unknownExtension (text : Text)
  | thirdBranch
  | misplacedGlobalFlags
  | missingColonOrClose
  | missingFlag
  | missingColon
  | unknownFlag
  | localeFlag
  | incompatibleFlags
  | globalTurnedOn
  | globalTurnedOff
  | typeTurnedOff
  | turnedOnAndOff
  | lookbehindNotFixed
  | templateRepeat (kind : String)
deriving DecidableEq, Repr

/-- The wording of a fault, without its place. -/
def Malformed.message : Malformed → String
  | danglingBackslash => "bad escape (end of pattern)"
  | unbalancedParenthesis => "unbalanced parenthesis"
  | unterminatedGroup => "missing ), unterminated subpattern"
  | unterminatedComment => "missing ), unterminated comment"
  | unterminatedSet => "unterminated character set"
  | badRange a b => "bad character range " ++ String.ofList a ++ "-" ++ String.ofList b
  | nothingToRepeat => "nothing to repeat"
  | multipleRepeat => "multiple repeat"
  | leastAboveMost => "min repeat greater than max repeat"
  | incompleteEscape e => "incomplete escape " ++ String.ofList e
  | badEscape e => "bad escape " ++ String.ofList e
  | octalTooLarge e =>
    "octal escape value " ++ String.ofList e ++ " outside of range 0-0o377"
  | missingBrace => "missing \x7b"
  | missingName what => "missing " ++ what
  | unterminatedName c => "missing " ++ String.singleton c ++ ", unterminated name"
  | undefinedCharacter name => "undefined character name " ++ String.ofList name.quoted
  | badGroupName name => "bad character in group name " ++ String.ofList name.quoted
  | badGroupNumber => "bad group number"
  | unknownGroup name => "unknown group name " ++ quotedString name
  | groupRedefined name new old =>
    "redefinition of group name " ++ quotedString name ++ " as group " ++ toString new
      ++ "; was group " ++ toString old
  | invalidReference n => "invalid group reference " ++ toString n
  | openReference => "cannot refer to an open group"
  | lookbehindReference => "cannot refer to group defined in the same lookbehind subpattern"
  | unexpectedEnd => "unexpected end of pattern"
  | unknownExtension t => "unknown extension ?" ++ String.ofList t
  | thirdBranch => "conditional backref with more than two branches"
  | misplacedGlobalFlags => "global flags not at the start of the expression"
  | missingColonOrClose => "missing -, : or )"
  | missingFlag => "missing flag"
  | missingColon => "missing :"
  | unknownFlag => "unknown flag"
  | localeFlag => "bad inline flags: cannot use 'L' flag with a str pattern"
  | incompatibleFlags => "bad inline flags: flags 'a', 'u' and 'L' are incompatible"
  | globalTurnedOn => "bad inline flags: cannot turn on global flag"
  | globalTurnedOff => "bad inline flags: cannot turn off global flag"
  | typeTurnedOff => "bad inline flags: cannot turn off flags 'a', 'u' and 'L'"
  | turnedOnAndOff => "bad inline flags: flag turned on and off"
  | lookbehindNotFixed => "look-behind requires fixed-width pattern"
  | templateRepeat kind => "internal: unsupported template operator " ++ kind

/-- A fault, with the number of characters from its place to the end of the pattern. A fault
of the pattern as a whole has no place. -/
structure PatternFault where
  what : Malformed
  fromEnd : Option Nat
deriving DecidableEq, Repr

namespace PatternFault

/-- The line of a position, counted from one. -/
def line (pattern : Text) (pos : Nat) : Nat :=
  (pattern.take pos).count '\n' + 1

/-- The column of a position: its distance from the newline before it, or from the place
before the start of the pattern. -/
def column (pattern : Text) (pos : Nat) : Nat :=
  ((pattern.take pos).reverse.takeWhile (· != '\n')).length + 1

/-- The fault in words. The line and the column are given where the pattern has several
lines. -/
def message (pattern : Text) (f : PatternFault) : String :=
  match f.fromEnd with
  | none => f.what.message
  | some n =>
    let pos := pattern.length - n
    let place := f.what.message ++ " at position " ++ toString pos
    if pattern.contains '\n' then
      place ++ " (line " ++ toString (line pattern pos) ++ ", column "
        ++ toString (column pattern pos) ++ ")"
    else place

end PatternFault

/-- What stops a pattern from being compiled. -/
inductive CompileError where
  /-- A fault in the pattern. -/
  | fault (f : PatternFault)
  /-- A bound of a repetition that is out of range. -/
  | repetitionTooLarge
  /-- A bound of a repetition that is written in so many digits that it is not read. -/
  | tooManyDigits (count : Nat)
  /-- The pattern asks for ASCII and for Unicode. -/
  | asciiAndUnicode
  /-- A look-behind that reaches back too far. -/
  | lookbehindTooLong
  /-- Groups that are nested too deep. -/
  | nestedTooDeep
deriving DecidableEq, Repr

end Highlighting
