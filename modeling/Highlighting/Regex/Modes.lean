import Highlighting.Flags
import Highlighting.Regex.Basic

/-!
# Modes

The modes in force at a place of a pattern: those the pattern is compiled under, as changed by
the inline flags of the groups around the place.

## Main definitions

* `InlineFlag` -- the letters that may stand in `(?…)` and `(?…:…)`.
* `Modes` -- the set of modes in force.
* `Modes.inside` -- the modes inside a group that turns flags on and off.
* `Modes.bits` -- the modes as a number.
-/
namespace Highlighting

/-- A flag inside a pattern. -/
inductive InlineFlag where
  | ascii
  | ignoreCase
  | locale
  | multiline
  | dotAll
  | template
  | unicode
  | verbose
deriving DecidableEq, Repr

namespace InlineFlag

/-- The flag that a letter names. -/
def ofChar? : Char → Option InlineFlag
  | 'a' => some ascii
  | 'i' => some ignoreCase
  | 'L' => some locale
  | 'm' => some multiline
  | 's' => some dotAll
  | 't' => some template
  | 'u' => some unicode
  | 'x' => some verbose
  | _ => none

/-- One of the flags that choose the kind of characters, of which at most one may be given. -/
def isType (f : InlineFlag) : Bool := f == ascii || f == locale || f == unicode

/-- A flag that holds for the whole pattern or not at all. -/
def isGlobal (f : InlineFlag) : Bool := f == template

end InlineFlag

/-- The modes in force. -/
structure Modes where
  ascii : Bool
  unicode : Bool
  ignoreCase : Bool
  multiline : Bool
  dotAll : Bool
  verbose : Bool
  template : Bool
deriving DecidableEq, Repr

namespace Modes

/-- No mode is in force. -/
def none : Modes := ⟨false, false, false, false, false, false, false⟩

/-- The modes that a set of flags asks for. -/
def ofFlags (flags : List Flag) : Modes :=
  { none with
    ascii := flags.contains .ascii
    ignoreCase := flags.contains .ignoreCase
    multiline := flags.contains .multiline
    dotAll := flags.contains .dotAll
    verbose := flags.contains .verbose }

/-- Turn a mode on or off. -/
def set (value : Bool) (m : Modes) : InlineFlag → Modes
  | .ascii => { m with ascii := value }
  | .ignoreCase => { m with ignoreCase := value }
  | .locale => m
  | .multiline => { m with multiline := value }
  | .dotAll => { m with dotAll := value }
  | .template => { m with template := value }
  | .unicode => { m with unicode := value }
  | .verbose => { m with verbose := value }

/-- Turn modes on, beside those in force. -/
def turnOn (m : Modes) (flags : List InlineFlag) : Modes :=
  flags.foldl (set true) m

/-- The modes inside a group. A flag for the kind of characters takes the place of the one in
force. -/
def inside (m : Modes) (on off : List InlineFlag) : Modes :=
  let base := if on.any (·.isType) then { m with ascii := false, unicode := false } else m
  off.foldl (set false) (base.turnOn on)

/-- How letters are compared. -/
def folding (m : Modes) : Folding :=
  if !m.ignoreCase then .exact else if m.ascii then .ascii else .unicode

/-- The modes as a number, where a pattern that does not ask for ASCII is in Unicode. -/
def bits (m : Modes) : Nat :=
  (if m.template then 1 else 0) + (if m.ignoreCase then 2 else 0) + (if m.multiline then 8 else 0)
    + (if m.dotAll then 16 else 0) + (if m.unicode || !m.ascii then 32 else 0)
    + (if m.verbose then 64 else 0) + (if m.ascii then 256 else 0)

end Modes

end Highlighting
