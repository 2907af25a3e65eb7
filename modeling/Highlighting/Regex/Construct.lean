import Highlighting.Regex.Malformed
import Highlighting.Regex.Modes
import Highlighting.Text.Digits
import Highlighting.Unicode.Identifier
import Highlighting.Unicode.Names

/-!
# Constructs of a pattern

A pattern is read construct by construct: a character or class, an anchor, a reference, a
quantifier, the opening or the closing of a group, a bar, inline flags, or something without
effect. What a construct is depends on the text from its first character on, and on whether
white space is skipped there; what it does depends on the groups around it and is decided by
the reader.

Inside a construct the text is taken in tokens. A token is one character, or a backslash with
the character after it. The backslash of a pattern that ends in one has no partner, and it is
the fault of such a pattern as soon as all tokens before it have been taken.

## Main definitions

* `Token`, `nextToken` -- the tokens of a pattern.
* `Construct` -- the constructs.
* `Construct.read` -- the construct at the start of a text, and the text after it.
-/
namespace Highlighting

/-- The result of reading a part of a pattern. -/
abbrev Reading := Except CompileError

/-- A fault at a place `offset` characters before the rest of the pattern. -/
def faultBefore (rest : Text) (offset : Nat) (what : Malformed) : CompileError :=
  if rest = ['\\'] then .fault ⟨.danglingBackslash, some 1⟩
  else .fault ⟨what, some (rest.length + offset)⟩

/-- An error that has no place, found before the rest of the pattern. -/
def errorBefore (rest : Text) (e : CompileError) : CompileError :=
  if rest = ['\\'] then .fault ⟨.danglingBackslash, some 1⟩ else e

/-! ## Tokens -/

/-- A character, or a backslash with the character after it. -/
inductive Token where
  | plain (c : Char)
  | escaped (c : Char)
deriving DecidableEq, Repr

/-- The text of a token. -/
def Token.text : Token → Text
  | plain c => [c]
  | escaped c => ['\\', c]

/-- The number of characters of a token. -/
def Token.length : Token → Nat
  | plain _ => 1
  | escaped _ => 2

/-- The first token of a text, and the text after it. -/
def nextToken : Text → Option (Token × Text)
  | [] => none
  | ['\\'] => none
  | '\\' :: c :: rest => some (.escaped c, rest)
  | c :: rest => some (.plain c, rest)

/-- The text up to the first token that is the character `stop`, the text after that token,
and whether there is one. -/
def splitAtToken (stop : Char) : Text → Text × Text × Bool
  | [] => ([], [], false)
  | ['\\'] => ([], ['\\'], false)
  | '\\' :: c :: rest =>
    let (name, after, found) := splitAtToken stop rest
    ('\\' :: c :: name, after, found)
  | c :: rest =>
    if c = stop then ([], rest, true)
    else
      let (name, after, found) := splitAtToken stop rest
      (c :: name, after, found)

/-- A name that is not empty, up to the character that closes it. -/
def readName (closing : Char) (what : String) (t : Text) : Reading (Text × Text) :=
  match splitAtToken closing t with
  | (name, rest, true) =>
    if name = [] then .error (faultBefore rest 1 (.missingName what)) else .ok (name, rest)
  | (name, rest, false) =>
    if name = [] then .error (faultBefore rest 0 (.missingName what))
    else .error (faultBefore rest name.length (.unterminatedName closing))

/-- The name of a group, up to the character that closes it. -/
def readGroupName (closing : Char) (t : Text) : Reading (String × Text) := do
  let (name, rest) ← readName closing "group name" t
  if Unicode.isIdentifier name then .ok (String.ofList name, rest)
  else .error (faultBefore rest (name.length + 1) (.badGroupName name))

/-! ## Numbers -/

/-- White space that may stand around a number: of ASCII the six blanks only. -/
def isNumberBlank (c : Char) : Bool :=
  Unicode.isAsciiBlank c || (decide (128 ≤ c.toNat) && Unicode.isBlank c)

/-- A number without the white space around it. -/
def trimBlank (t : Text) : Text :=
  ((t.dropWhile isNumberBlank).reverse.dropWhile isNumberBlank).reverse

/-- The number that digits of any script stand for, where single underscores may separate
digits. -/
def looseDigits? (expectDigit : Bool) (n : Nat) : Text → Option Nat
  | [] => if expectDigit then none else some n
  | c :: cs =>
    match Unicode.decimalValue? c with
    | some d => looseDigits? false (10 * n + d) cs
    | none => if c = '_' ∧ !expectDigit then looseDigits? true n cs else none

/-- A number that is not negative, written with an optional sign and blanks around it, and with
no more digits than are read. -/
def looseNumber? (t : Text) : Option Nat :=
  if digitLimit < t.countP (fun c => (Unicode.decimalValue? c).isSome) then none
  else
    match trimBlank t with
    | '+' :: cs => looseDigits? true 0 cs
    | '-' :: cs => (looseDigits? true 0 cs).filter (· == 0)
    | cs => looseDigits? true 0 cs

/-! ## Escapes -/

/-- The code point of an escape that stands for a control character or a backslash. -/
def controlEscape? : Char → Option Nat
  | 'a' => some 7
  | 'b' => some 8
  | 'f' => some 12
  | 'n' => some 10
  | 'r' => some 13
  | 't' => some 9
  | 'v' => some 11
  | '\\' => some 92
  | _ => none

/-- The category of an escape, and whether it is negated. -/
def categoryEscape? : Char → Option ClassItem
  | 'd' => some (.category .digit false)
  | 'D' => some (.category .digit true)
  | 's' => some (.category .space false)
  | 'S' => some (.category .space true)
  | 'w' => some (.category .word false)
  | 'W' => some (.category .word true)
  | _ => none

/-- The number of digits after the letter of an escape by code point. -/
def hexEscapeLength? : Char → Option Nat
  | 'x' => some 2
  | 'u' => some 4
  | 'U' => some 8
  | _ => none

/-- An escape by code point, after its letter. -/
def readHexEscape (letter : Char) (count : Nat) (t : Text) : Reading (Nat × Text) :=
  let digits := takeUpTo count isHex t
  let rest := t.drop digits.length
  let escape := '\\' :: letter :: digits
  if digits.length ≠ count then
    .error (faultBefore rest escape.length (.incompleteEscape escape))
  else if 0x10FFFF < numberOf 16 digits then
    .error (faultBefore rest escape.length (.badEscape escape))
  else .ok (numberOf 16 digits, rest)

/-- An escape by character name, after its letter. -/
def readNamedEscape (t : Text) : Reading (Nat × Text) := do
  match t with
  | '\x7b' :: t =>
    let (name, rest) ← readName '\x7d' "character name" t
    match Unicode.named? name with
    | some n => .ok (n, rest)
    | none => .error (faultBefore rest (name.length + 4) (.undefinedCharacter name))
  | _ => .error (faultBefore t 0 .missingBrace)

/-- An octal number of at most three digits, as an escape. -/
def octalValue (digits rest : Text) : Reading Nat :=
  let n := numberOf 8 digits
  if 0o377 < n then
    .error (faultBefore rest (digits.length + 1) (.octalTooLarge ('\\' :: digits)))
  else .ok n

/-- An escape that stands for its character, which must be no ASCII letter. -/
def readOtherEscape (c : Char) (rest : Text) : Reading (Nat × Text) :=
  if c.isAlphanum then .error (faultBefore rest 2 (.badEscape ['\\', c]))
  else .ok (c.toNat, rest)

/-- An escape inside a character class. -/
def readClassEscape (c : Char) (rest : Text) : Reading (ClassItem × Text) := do
  if let some n := controlEscape? c then
    return (.code n, rest)
  if let some item := categoryEscape? c then
    return (item, rest)
  if let some count := hexEscapeLength? c then
    let (n, rest) ← readHexEscape c count rest
    return (.code n, rest)
  if c = 'N' then
    let (n, rest) ← readNamedEscape rest
    return (.code n, rest)
  if isOctal c then
    let digits := c :: takeUpTo 2 isOctal rest
    let rest := rest.drop (digits.length - 1)
    let n ← octalValue digits rest
    return (.code n, rest)
  let (n, rest) ← readOtherEscape c rest
  return (.code n, rest)

/-! ## Character classes -/

/-- A class as it stands in a pattern: one character, or members. -/
inductive Atom where
  /-- A dot. -/
  | dot
  /-- One code point, or all others. -/
  | literal (negated : Bool) (code : Nat)
  /-- The characters that some member holds, or that none holds. -/
  | set (negated : Bool) (items : List ClassItem)
deriving DecidableEq, Repr

/-- The condition that an atom states in the modes in force. -/
def Atom.test (m : Modes) : Atom → CharTest
  | dot => if m.dotAll then .any else .notNewline
  | literal negated n => .literal (m.folding.when (m.folding.concerns n n)) negated n
  | set negated items =>
    .set (m.folding.when (items.any (ClassItem.folds m.folding))) m.ascii negated items

/-- A class of given members. Where they are all one code point, it is that character. -/
def Atom.ofItems (negated : Bool) (items : List ClassItem) : Atom :=
  match items.eraseDups with
  | [.code n] => literal negated n
  | distinct => set negated distinct

/-- The member that a token starts. -/
def readMember (tok : Token) (rest : Text) : Reading (ClassItem × Text) :=
  match tok with
  | .escaped c => readClassEscape c rest
  | .plain c => .ok (.code c.toNat, rest)

/-- The members of a class up to the bracket that closes it. `opened` is the number of
characters from the opening bracket to the end of the pattern, and `items` are the members read
so far, last first. -/
def readMembers (opened : Nat) :
    (fuel : Nat) → (items : List ClassItem) → Text → Reading (List ClassItem × Text)
  | 0, _, t => .error (faultBefore t opened .unterminatedSet)
  | fuel + 1, items, t =>
    match nextToken t with
    | none => .error (faultBefore t opened .unterminatedSet)
    | some (first, rest) =>
      if first = .plain ']' ∧ items ≠ [] then .ok (items.reverse, rest)
      else do
        let (item, rest) ← readMember first rest
        match rest with
        | '-' :: afterDash =>
          match nextToken afterDash with
          | none => .error (faultBefore afterDash opened .unterminatedSet)
          | some (.plain ']', rest) => .ok ((.code 45 :: item :: items).reverse, rest)
          | some (last, rest) =>
            let (bound, rest) ← readMember last rest
            let bad := faultBefore rest (first.length + 1 + last.length)
              (.badRange first.text last.text)
            match item, bound with
            | .code a, .code b =>
              if b < a then .error bad
              else readMembers opened fuel (.span a b :: items) rest
            | _, _ => .error bad
        | _ => readMembers opened fuel (item :: items) rest

/-- A class, after its opening bracket. -/
def readSet (t : Text) : Reading (Atom × Text) := do
  let opened := t.length + 1
  let (negated, body) := match t with
    | '^' :: body => (true, body)
    | body => (false, body)
  let (items, rest) ← readMembers opened (body.length + 1) [] body
  return (Atom.ofItems negated items, rest)

/-! ## Constructs -/

/-- A reference of a conditional. -/
inductive Reference where
  | name (s : String)
  /-- A number, with the number of characters it is written in. -/
  | number (n length : Nat)
deriving DecidableEq, Repr

/-- The ways to open a group. -/
inductive Opening where
  | plain
  | capture
  /-- A capturing group with a name. -/
  | named (name : String)
  /-- A group that turns flags on and off. -/
  | modes (on off : List InlineFlag)
  | atomic
  | ahead (negated : Bool)
  | behind (negated : Bool)
  | conditional (ref : Reference)
deriving DecidableEq, Repr

/-- A position named by an escape or a sign. -/
inductive Place where
  | caret
  | dollar
  | textStart
  | textEnd
  | wordEdge (negated : Bool)
deriving DecidableEq, Repr

/-- The condition that a place states in the modes in force. -/
def Place.anchor (m : Modes) : Place → Anchor
  | caret => if m.multiline then .lineStart else .textStart
  | dollar => if m.multiline then .lineEnd else .lastLineEnd
  | textStart => .textStart
  | textEnd => .textEnd
  | wordEdge negated => .wordEdge m.ascii negated

/-- A construct of a pattern. -/
inductive Construct where
  /-- A comment, or white space that is skipped. -/
  | blank
  | atom (a : Atom)
  | place (p : Place)
  /-- A reference to a group by a number written in so many characters. -/
  | numbered (n length : Nat)
  /-- A reference to a group by name. -/
  | named (name : String)
  /-- A quantifier without the sign that says how it chooses. -/
  | quantifier (least : Nat) (most : Option Nat)
  | bar
  | opening (o : Opening)
  | closing
  /-- Flags for the whole pattern. -/
  | globalModes (on : List InlineFlag)
deriving DecidableEq, Repr

/-- An escape outside of character classes. -/
def readEscape (c : Char) (rest : Text) : Reading (Construct × Text) := do
  if let some item := categoryEscape? c then
    return (.atom (.set false [item]), rest)
  match c with
  | 'A' => return (.place .textStart, rest)
  | 'Z' => return (.place .textEnd, rest)
  | 'b' => return (.place (.wordEdge false), rest)
  | 'B' => return (.place (.wordEdge true), rest)
  | _ => pure ()
  if let some n := controlEscape? c then
    return (.atom (.literal false n), rest)
  if let some count := hexEscapeLength? c then
    let (n, rest) ← readHexEscape c count rest
    return (.atom (.literal false n), rest)
  if c = 'N' then
    let (n, rest) ← readNamedEscape rest
    return (.atom (.literal false n), rest)
  if c = '0' then
    let digits := c :: takeUpTo 2 isOctal rest
    return (.atom (.literal false (numberOf 8 digits)), rest.drop (digits.length - 1))
  if c.isDigit then
    match rest with
    | d :: e :: after =>
      if isOctal c && isOctal d && isOctal e then
        let n ← octalValue [c, d, e] after
        return (.atom (.literal false n), after)
    | _ => pure ()
    match rest with
    | d :: after =>
      if d.isDigit then
        return (.numbered (numberOf 10 [c, d]) 3, after)
    | _ => pure ()
    return (.numbered (numberOf 10 [c]) 2, rest)
  let (n, rest) ← readOtherEscape c rest
  return (.atom (.literal false n), rest)

/-- Bounds of a repetition stay below this number. -/
def repeatLimit : Nat := 4294967295

/-- A bound of a repetition before the rest of the pattern. It may be left out. -/
def readBound (digits rest : Text) : Reading (Option Nat) :=
  if digits = [] then .ok none
  else if digitLimit < digits.length then
    .error (errorBefore rest (.tooManyDigits digits.length))
  else if repeatLimit ≤ numberOf 10 digits then .error (errorBefore rest .repetitionTooLarge)
  else .ok (some (numberOf 10 digits))

/-- What follows an opening brace: the bounds of a quantifier, or something else. -/
def readBounds (t : Text) : Reading (Option (Nat × Option Nat × Text)) := do
  let low := t.takeWhile Char.isDigit
  let afterLow := t.dropWhile Char.isDigit
  let (high, afterHigh) := match afterLow with
    | ',' :: r => (r.takeWhile Char.isDigit, r.dropWhile Char.isDigit)
    | r => (low, r)
  match t, afterHigh with
  | '\x7d' :: _, _ => return none
  | _, '\x7d' :: rest =>
    let least := (← readBound low rest).getD 0
    match ← readBound high rest with
    | none => return some (least, none, rest)
    | some most =>
      if most < least then
        throw (faultBefore rest (t.length - rest.length) .leastAboveMost)
      return some (least, some most, rest)
  | _, _ => return none

/-- Flags that a group turns off, from the token given on. -/
def readFlagsOff :
    (fuel : Nat) → (on off : List InlineFlag) → Token → Text →
      Reading (List InlineFlag × List InlineFlag × Text)
  | 0, _, _, _, rest => .error (faultBefore rest 0 .missingColon)
  | fuel + 1, on, off, tok, rest =>
    match tok with
    | .escaped _ => .error (faultBefore rest 2 (if off = [] then .missingFlag else .missingColon))
    | .plain c =>
      match InlineFlag.ofChar? c with
      | none =>
        let missing := if off = [] then .missingFlag else .missingColon
        .error (faultBefore rest 1 (if Unicode.isAlphabetic c then .unknownFlag else missing))
      | some f =>
        if f.isType then .error (faultBefore rest 0 .typeTurnedOff)
        else
          match nextToken rest with
          | none => .error (faultBefore rest 0 .missingColon)
          | some (.plain ':', rest) =>
            let off := f :: off
            if off.any (·.isGlobal) then .error (faultBefore rest 1 .globalTurnedOff)
            else if off.any on.contains then .error (faultBefore rest 1 .turnedOnAndOff)
            else .ok (on, off, rest)
          | some (tok, rest) => readFlagsOff fuel on (f :: off) tok rest

/-- Inline flags from the character given on: flags for the whole pattern, or the opening of a
group. -/
def readFlags : (fuel : Nat) → (on : List InlineFlag) → Char → Text → Reading (Construct × Text)
  | 0, _, _, rest => .error (faultBefore rest 0 .missingColonOrClose)
  | fuel + 1, on, c, rest =>
    if c = '-' then
      if on.any (·.isGlobal) then .error (faultBefore rest 1 .globalTurnedOn)
      else
        match nextToken rest with
        | none => .error (faultBefore rest 0 .missingFlag)
        | some (tok, rest) => do
          let (on, off, rest) ← readFlagsOff (rest.length + 1) on [] tok rest
          return (.opening (.modes on off), rest)
    else if c = ')' then .ok (.globalModes on, rest)
    else if c = ':' then
      if on.any (·.isGlobal) then .error (faultBefore rest 1 .globalTurnedOn)
      else .ok (.opening (.modes on []), rest)
    else
      match InlineFlag.ofChar? c with
      | none =>
        .error (faultBefore rest 1
          (if Unicode.isAlphabetic c then .unknownFlag else .missingColonOrClose))
      | some f =>
        if f = .locale then .error (faultBefore rest 0 .localeFlag)
        else if f.isType && on.any (fun g => g.isType && g != f) then
          .error (faultBefore rest 0 .incompatibleFlags)
        else
          match nextToken rest with
          | none => .error (faultBefore rest 0 .missingColonOrClose)
          | some (.escaped _, rest) => .error (faultBefore rest 2 .missingColonOrClose)
          | some (.plain d, rest) => readFlags fuel (f :: on) d rest

/-- The reference of a conditional, up to the bracket that closes it. -/
def readReference (t : Text) : Reading (Reference × Text) := do
  let (name, rest) ← readName ')' "group name" t
  if Unicode.isIdentifier name then
    return (.name (String.ofList name), rest)
  match looseNumber? name with
  | none => throw (faultBefore rest (name.length + 1) (.badGroupName name))
  | some 0 => throw (faultBefore rest (name.length + 1) .badGroupNumber)
  | some n => return (.number n name.length, rest)

/-- What follows an opening bracket and a question mark. `opened` is the number of characters
from the bracket to the end of the pattern. -/
def readExtension (opened : Nat) (t : Text) : Reading (Construct × Text) := do
  match nextToken t with
  | none => throw (faultBefore t 0 .unexpectedEnd)
  | some (.escaped c, rest) => throw (faultBefore rest 3 (.unknownExtension ['\\', c]))
  | some (.plain 'P', rest) =>
    match rest with
    | '<' :: rest =>
      let (name, rest) ← readGroupName '>' rest
      return (.opening (.named name), rest)
    | '=' :: rest =>
      let (name, rest) ← readGroupName ')' rest
      return (.named name, rest)
    | rest =>
      match nextToken rest with
      | none => throw (faultBefore rest 0 .unexpectedEnd)
      | some (tok, rest) =>
        throw (faultBefore rest (tok.length + 2) (.unknownExtension ('P' :: tok.text)))
  | some (.plain ':', rest) => return (.opening .plain, rest)
  | some (.plain '#', rest) =>
    match splitAtToken ')' rest with
    | (_, rest, true) => return (.blank, rest)
    | (_, rest, false) => throw (faultBefore rest opened .unterminatedComment)
  | some (.plain '=', rest) => return (.opening (.ahead false), rest)
  | some (.plain '!', rest) => return (.opening (.ahead true), rest)
  | some (.plain '<', rest) =>
    match nextToken rest with
    | none => throw (faultBefore rest 0 .unexpectedEnd)
    | some (.plain '=', rest) => return (.opening (.behind false), rest)
    | some (.plain '!', rest) => return (.opening (.behind true), rest)
    | some (tok, rest) =>
      throw (faultBefore rest (tok.length + 2) (.unknownExtension ('<' :: tok.text)))
  | some (.plain '(', rest) =>
    let (ref, rest) ← readReference rest
    return (.opening (.conditional ref), rest)
  | some (.plain '>', rest) => return (.opening .atomic, rest)
  | some (.plain c, rest) =>
    if (InlineFlag.ofChar? c).isSome || c = '-' then readFlags (rest.length + 1) [] c rest
    else throw (faultBefore rest 2 (.unknownExtension [c]))

namespace Construct

/-- A character that stands for itself. -/
def literal (c : Char) : Construct := atom (.literal false c.toNat)

/-- The construct at the start of a text, and the text after it. White space and comments are
skipped where `verbose` says so. -/
def read (verbose : Bool) (t : Text) : Reading (Construct × Text) :=
  match nextToken t with
  | none => .error (faultBefore t 0 .unexpectedEnd)
  | some (.escaped c, rest) => readEscape c rest
  | some (.plain c, rest) =>
    if verbose && Unicode.isAsciiBlank c then .ok (blank, rest)
    else if verbose && c == '#' then .ok (blank, (splitAtToken '\n' rest).2.1)
    else
      match c with
      | '|' => .ok (bar, rest)
      | ')' => .ok (closing, rest)
      | '[' => (readSet rest).map fun (a, rest) => (atom a, rest)
      | '?' => .ok (quantifier 0 (some 1), rest)
      | '*' => .ok (quantifier 0 none, rest)
      | '+' => .ok (quantifier 1 none, rest)
      | '\x7b' => do
        match ← readBounds rest with
        | some (least, most, rest) => return (quantifier least most, rest)
        | none => return (literal c, rest)
      | '.' => .ok (atom .dot, rest)
      | '^' => .ok (place .caret, rest)
      | '$' => .ok (place .dollar, rest)
      | '(' =>
        match rest with
        | '?' :: rest' => readExtension t.length rest'
        | _ => .ok (opening .capture, rest)
      | _ => .ok (literal c, rest)

end Construct

end Highlighting
