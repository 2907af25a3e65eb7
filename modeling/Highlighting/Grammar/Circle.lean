/-!
# Circles among names

Names refer to names. A depth-first search keeps the path from where it began to where it is,
nearest name first, and the names whose targets have all been searched. It meets a name of the
path again exactly when the names refer to each other in a circle. It is followed however long the
path gets: that whoever searches may run out of room for it is left out.

## Main definitions

* `Circle.visit` -- the search from one name.
* `Circle.find?` -- the circle that the search from each of some names in turn meets first.
-/
namespace Highlighting.Circle

/-- The way round from a name on the path back to it: the names after it, and itself. -/
def wayBack (path : List String) (name : String) : List String :=
  (path.takeWhile (· != name)).reverse ++ [name]

/-- What a search ends with: a circle, as its first name and the way round, or the names
searched to the end. -/
abbrev Outcome := Except (String × List String) (List String)

/-- Search from a name. The path holds different names, so it is no longer than their number,
and that bounds the depth. -/
def visit (targets : String → List String) :
    (depth : Nat) → (path done : List String) → (name : String) → Outcome
  | 0, _, done, _ => .ok done
  | depth + 1, path, done, name =>
    if name ∈ path then .error (name, wayBack path name)
    else if name ∈ done then .ok done
    else do
      let done ← (targets name).foldlM (fun done => visit targets depth (name :: path) done) done
      return name :: done

/-- Search from each of some names. -/
def search (targets : String → List String) (names : List String) : Outcome :=
  names.foldlM (fun done name => visit targets (names.length + 1) [] done name) []

/-- The circle that is met first, as its first name and the way round. -/
def find? (targets : String → List String) (names : List String) :
    Option (String × List String) :=
  match search targets names with
  | .error c => some c
  | .ok _ => none

end Highlighting.Circle
