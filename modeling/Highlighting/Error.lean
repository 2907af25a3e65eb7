import Highlighting.Flags
import Highlighting.Regex.Malformed
import Highlighting.Style
import Highlighting.Text.Undecodable

/-!
# Errors

Errors are kept by cause, and each cause has its wording in one place. Three kinds of error are
the library's own: a pattern or its flags cannot be compiled, a set of rules makes no grammar,
or a match cannot be traced back to one rule. Whatever stops a call is a `Failure`: an error of
the library, a failure of the regular expressions that the library does not take over as its
own, a refusal of the operating system, bytes that are no text, or a failure of a rule's
transform.

## Main definitions

* `PatternError`, `GrammarError`, `ResolutionError` -- the library's own errors.
* `SystemError` -- the errors of the operating system.
* `Failure` -- what can stop a call.
* `Failure.isHighlighting` -- whether a failure is one of the library's own errors.
-/
namespace Highlighting

/-- The pattern or its flags cannot be compiled. -/
inductive PatternError where
  /-- No pattern, or an empty one. -/
  | empty (given : Option Text)
  /-- A flag letter is at fault. -/
  | flags (fault : Flag.Fault) (pattern : Option Text)
  /-- The pattern itself is at fault. -/
  | malformed (pattern : Text) (fault : PatternFault)
  /-- A rule has no pattern, or an empty one. -/
  | emptyRule (rule : String) (given : Option Text)
  /-- The pattern of a rule cannot be compiled on its own. -/
  | inRule (rule : String) (pattern : Text) (cause : PatternError)
  /-- An error raised with a message of its own. -/
  | raised (message : String)
deriving DecidableEq, Repr

namespace PatternError

/-- A text in quotes, or the word for none. -/
def shownPattern : Option Text → String
  | some t => String.ofList t.quoted
  | none => "None"

/-- The error in words. -/
def message : PatternError → String
  | empty _ => "Pattern can't be empty"
  | flags (.unsupported s) p => "Unsupported flag '" ++ s ++ "' for pattern " ++ shownPattern p
  | flags (.duplicate s) p => "Duplicate flag '" ++ s ++ "' for pattern " ++ shownPattern p
  | malformed p f =>
    "Invalid pattern " ++ String.ofList p.quoted ++ ": " ++ PatternFault.message p f
  | emptyRule rule _ => "Pattern of rule '" ++ rule ++ "' can't be empty"
  | inRule rule _ cause => "Rule '" ++ rule ++ "': " ++ cause.message
  | raised m => m

/-- The pattern at fault. -/
def pattern? : PatternError → Option Text
  | empty given => given
  | flags _ p => p
  | malformed p _ => some p
  | emptyRule _ given => given
  | inRule _ p _ => some p
  | raised _ => none

/-- The flag at fault. -/
def flag? : PatternError → Option String
  | flags f _ => some f.letter
  | inRule _ _ cause => cause.flag?
  | _ => none

end PatternError

/-- A name given for a rule: a text, or some other value, as it is shown in a message and as it
is written. -/
inductive GivenName where
  | text (s : String)
  | value (shown written : String)
deriving DecidableEq, Repr

/-- The name as it is shown in a message. -/
def GivenName.shown : GivenName → String
  | text s => quotedString s
  | value s _ => s

/-- A set of rules makes no grammar. -/
inductive GrammarError where
  /-- A rule's name is no identifier. -/
  | invalidName (name : GivenName)
  /-- A rule is kept under a key that is not its name. -/
  | misregistered (rule key : String)
  /-- Two rules of one level have the same name. -/
  | declaredTwice (rule : String)
  /-- There is no rule. -/
  | noRules
  /-- Handlers are nested too deep. -/
  | tooDeep (most : Int) (rule : String)
  /-- A group name occurs twice in one rule. -/
  | groupRepeated (group rule : String)
  /-- A group name of one rule is taken by an earlier one. -/
  | groupShared (group rule other : String)
  /-- A rule is matched again by one that does not exist. -/
  | unknownTarget (rule target : String)
  /-- Rules are matched again by each other in a circle, which the path runs through. -/
  | cycle (first : String) (path : List String)
  /-- A color is named and there is no palette. -/
  | noPalette (rule color : String)
  /-- An error raised with a message of its own. -/
  | raised (message : String)
deriving DecidableEq, Repr

namespace GrammarError

/-- The error in words. -/
def message : GrammarError → String
  | invalidName n => "Rule name " ++ n.shown ++ " is not a valid group name"
  | misregistered r k => "Rule '" ++ r ++ "' is registered under '" ++ k ++ "'"
  | declaredTwice r => "Rule '" ++ r ++ "' is declared twice"
  | noRules => "Grammar needs at least one rule"
  | tooDeep n r =>
    "Rule nesting deeper than " ++ toString n ++ " levels at '" ++ r ++ "'"
  | groupRepeated g r => "Group '" ++ g ++ "' of rule '" ++ r ++ "' collides with itself"
  | groupShared g r o =>
    "Group '" ++ g ++ "' of rule '" ++ r ++ "' collides with rule '" ++ o ++ "'"
  | unknownTarget r t => "Rule '" ++ r ++ "' rematches unknown rule '" ++ t ++ "'"
  | cycle first path => "Rematch cycle: " ++ " -> ".intercalate (first :: path)
  | noPalette r c => "Rule '" ++ r ++ "' names color '" ++ c ++ "' but no palette was given"
  | raised m => m

/-- The rule at fault, by the name it was given. -/
def rule? : GrammarError → Option GivenName
  | invalidName n => some n
  | misregistered r _ => some (.text r)
  | declaredTwice r => some (.text r)
  | noRules => none
  | tooDeep _ r => some (.text r)
  | groupRepeated _ r => some (.text r)
  | groupShared _ r _ => some (.text r)
  | unknownTarget r _ => some (.text r)
  | cycle first _ => some (.text first)
  | noPalette r _ => some (.text r)
  | raised _ => none

end GrammarError

/-- A match cannot be traced back to one rule. -/
inductive ResolutionError where
  /-- The groups of rules that took part are none or several. -/
  | ambiguous (full : Text) (start : Int) (fired : List String) (groups : List (String × Text))
  /-- An error raised with a message and groups of its own. -/
  | raised (message : String) (groups : List (String × Text))
deriving DecidableEq, Repr

namespace ResolutionError

/-- The error in words. -/
def message : ResolutionError → String
  | ambiguous full start fired _ =>
    "Expected exactly one rule group in match " ++ String.ofList full.quoted ++ " at "
      ++ toString start ++ ", found " ++ quotedList fired
  | raised m _ => m

/-- The groups of the match, with their texts. -/
def groups : ResolutionError → List (String × Text)
  | ambiguous _ _ _ gs => gs
  | raised _ gs => gs

end ResolutionError

/-- The operating system refuses. -/
inductive SystemError where
  /-- There is no file of that path. -/
  | noSuchFile (path : Text)
  /-- The path leads through a file. -/
  | notADirectory (path : Text)
  /-- The path leads to a directory. -/
  | isADirectory (path : Text)
  /-- The path of a directory to be made leads to a file. -/
  | fileExists (path : Text)
  /-- The path, or a name in it, is too long. -/
  | nameTooLong (path : Text)
  /-- Some other reason, in words. -/
  | other (message : String)
deriving DecidableEq, Repr

/-- The error in words, with its number. -/
def SystemError.message : SystemError → String
  | noSuchFile p => "[Errno 2] No such file or directory: " ++ String.ofList p.quoted
  | notADirectory p => "[Errno 20] Not a directory: " ++ String.ofList p.quoted
  | isADirectory p => "[Errno 21] Is a directory: " ++ String.ofList p.quoted
  | fileExists p => "[Errno 17] File exists: " ++ String.ofList p.quoted
  | nameTooLong p => "[Errno 36] File name too long: " ++ String.ofList p.quoted
  | other m => m

/-- What can stop a call. -/
inductive Failure where
  | pattern (e : PatternError)
  | grammar (e : GrammarError)
  | resolution (e : ResolutionError)
  /-- An error of the library of no special kind. -/
  | highlighting (message : String)
  /-- A bound of a repetition is out of range. -/
  | repetitionTooLarge
  /-- A text stands for no number. -/
  | number (e : NumberFault)
  /-- The description of a color names no style. -/
  | style (e : StyleFault)
  /-- A pattern asks for ASCII and for Unicode. -/
  | asciiAndUnicode
  /-- A look-behind of a pattern reaches back too far. -/
  | lookbehindTooLong
  /-- The groups of a pattern are nested too deep. -/
  | nestedTooDeep
  /-- A group of a match ends before it starts. -/
  | reversedGroup
  /-- A position is out of range. -/
  | positionOutOfRange
  /-- There is nothing under a key, given as it is shown. -/
  | missingKey (shown : String)
  /-- The operating system refuses. -/
  | system (e : SystemError)
  /-- Bytes cannot be decoded. -/
  | undecodable (e : Undecodable)
  /-- Surrogates cannot be written. -/
  | surrogates
  /-- An error that is not the library's, with its message. -/
  | foreign (message : String)
deriving DecidableEq, Repr

namespace Failure

/-- The failure in words. -/
def message : Failure → String
  | pattern e => e.message
  | grammar e => e.message
  | resolution e => e.message
  | highlighting m => m
  | repetitionTooLarge => "the repetition number is too large"
  | number e => e.message
  | style e => e.message
  | asciiAndUnicode => "ASCII and UNICODE flags are incompatible"
  | lookbehindTooLong => "invalid SRE code"
  | nestedTooDeep => "maximum recursion depth exceeded"
  | reversedGroup =>
    "The span of capturing group is wrong, please report a bug for the re module."
  | positionOutOfRange => "Python int too large to convert to C ssize_t"
  | missingKey k => k
  | system e => e.message
  | undecodable e => e.message
  | surrogates => "surrogates not allowed"
  | foreign m => m

/-- The failure is one of the library's own errors. -/
def isHighlighting : Failure → Bool
  | pattern _ => true
  | grammar _ => true
  | resolution _ => true
  | highlighting _ => true
  | _ => false

end Failure

end Highlighting
