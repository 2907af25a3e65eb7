/-!
# Ranges of code points

A character property is kept as a sorted list of closed ranges of code points. The property
modules give the ASCII part in closed form and list the ranges above it, so that a text in
ASCII never reads a table.

## Main definitions

* `Ranges` -- a list of closed ranges.
* `Ranges.contains` -- membership of a code point.
-/
namespace Highlighting.Unicode

/-- Closed ranges of code points, in increasing order. -/
abbrev Ranges := List (Nat × Nat)

namespace Ranges

/-- A code point is in the list when one of the ranges holds it. -/
def contains (rs : Ranges) (n : Nat) : Bool :=
  rs.any fun r => decide (r.1 ≤ n) && decide (n ≤ r.2)

@[simp] theorem contains_nil (n : Nat) : contains [] n = false := rfl

theorem contains_iff {rs : Ranges} {n : Nat} :
    rs.contains n = true ↔ ∃ r ∈ rs, r.1 ≤ n ∧ n ≤ r.2 := by
  simp [contains, List.any_eq_true]

/-- The range that holds a code point, if there is one. -/
def find? (rs : Ranges) (n : Nat) : Option (Nat × Nat) :=
  List.find? (fun r => decide (r.1 ≤ n) && decide (n ≤ r.2)) rs

end Ranges

end Highlighting.Unicode
