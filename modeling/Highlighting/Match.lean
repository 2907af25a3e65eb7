import Highlighting.Text.Quoted

/-!
# Matches

A match keeps the text it covers, where it starts, and the named groups that took part with some
text. A group's offset counts from the start of the match; a group captured while looking behind
has a negative one.

## Main definitions

* `Capture` -- the text of a named group.
* `Match` -- one match.
* `Match.group?`, `Match.item` -- the text of a group, or of the match.
* `Match.same` -- equality up to the order of groups.
-/
namespace Highlighting

/-- The text that a named group captured, at an offset from the start of the match. -/
structure Capture where
  name : String
  value : Text
  offset : Int
deriving DecidableEq, Repr

/-- The offset at which a captured text ends. -/
def Capture.stop (c : Capture) : Int :=
  c.offset + c.value.length

/-- One match: its text, its position, and the groups that took part, in the order of the
pattern. -/
structure Match where
  full : Text
  start : Int
  groups : List Capture
deriving DecidableEq, Repr

namespace Match

/-- The position at which a match ends. -/
def stop (m : Match) : Int :=
  m.start + m.full.length

/-- A match from a list of groups in which a name may occur again: the name keeps its first
place and takes the last text. -/
def ofGroups (full : Text) (start : Int) (groups : List Capture) : Match :=
  let add (gs : List Capture) (g : Capture) : List Capture :=
    if gs.any (·.name == g.name) then gs.map fun h => if h.name = g.name then g else h
    else gs ++ [g]
  ⟨full, start, groups.foldl add []⟩

/-- The group of a name. -/
def capture? (m : Match) (name : String) : Option Capture :=
  m.groups.find? (·.name == name)

/-- The text of a group. -/
def group? (m : Match) (name : String) : Option Text :=
  (m.capture? name).map (·.value)

/-- The group of that name took part. -/
def contains (m : Match) (name : String) : Bool :=
  (m.capture? name).isSome

/-- A key under which a text of a match may be asked for. -/
inductive Key where
  /-- The match as a whole. -/
  | whole
  /-- A group. -/
  | name (s : String)
  /-- Some other value, as it is shown. -/
  | other (shown : String)
deriving DecidableEq, Repr

/-- The key as it is shown in a message. -/
def Key.shown : Key → String
  | whole => "0"
  | name s => quotedString s
  | other s => s

/-- The text under a key, or the key itself where there is none. -/
def item (m : Match) (key : Key) : Except Key Text :=
  match key with
  | .whole => .ok m.full
  | .name s =>
    match m.group? s with
    | some t => .ok t
    | none => .error key
  | .other _ => .error key

/-- Equality up to the order of the groups. -/
def same (m n : Match) : Bool :=
  m.full == n.full && m.start == n.start && m.groups.length == n.groups.length
    && m.groups.all n.groups.contains

end Match

end Highlighting
