/-!
# Widths of columns

Every column asks for a width. If there is less room than they ask for together, the widest
columns are made narrower until they are as wide as the next, then these with them, and so on
until all columns fit. What has to go is taken evenly from the columns that are narrowed, in
whole columns of characters, from left to right.

## Main definitions

* `Widths.narrowed` -- widths that fit into the room there is.
-/
namespace Highlighting.Widths

/-- The width of columns together. -/
def total (widths : List Nat) : Nat := widths.foldl (· + ·) 0

/-- A quotient, rounded to the nearest whole number, and to the even one of two. -/
def roundedQuotient (n k : Nat) : Nat :=
  let q := n / k
  if 2 * (n % k) < k then q else if k < 2 * (n % k) then q + 1 else q + q % 2

/-- Widths from which the excess has been taken, evenly from the `count` columns that are widest,
but at most `most` from each. -/
def takenOff (widest most excess count : Nat) : List Nat → List Nat
  | [] => []
  | w :: rest =>
    if w = widest then
      let part := min most (roundedQuotient excess count)
      (w - part) :: takenOff widest most (excess - part) (count - 1) rest
    else w :: takenOff widest most excess count rest

@[simp] theorem length_takenOff (widest most excess count : Nat) (widths : List Nat) :
    (takenOff widest most excess count widths).length = widths.length := by
  induction widths generalizing excess count with
  | nil => rfl
  | cons w rest ih =>
    unfold takenOff
    split <;> simp [ih]

/-- Widths after a round: the widest columns come down to the next, or as far as needed. -/
def narrowedOnce (excess : Nat) (widths : List Nat) : List Nat :=
  let widest := widths.foldl max 0
  let next := (widths.filter (· ≠ widest)).foldl max 0
  takenOff widest (min excess (widest - next)) excess (widths.count widest) widths

/-- Widths after rounds as long as there is an excess. -/
def narrowedFor (room : Nat) : Nat → List Nat → List Nat
  | 0, widths => widths
  | rounds + 1, widths =>
    if total widths ≤ room then widths
    else narrowedFor room rounds (narrowedOnce (total widths - room) widths)

theorem length_narrowedFor (room rounds : Nat) (widths : List Nat) :
    (narrowedFor room rounds widths).length = widths.length := by
  induction rounds generalizing widths with
  | zero => rfl
  | succ n ih =>
    unfold narrowedFor
    split <;> simp [ih, narrowedOnce]

/-- Widths that fit into the room there is. Every round takes something off, so there are no more
rounds than characters. No column asks for more than all the room, nor for nothing. -/
def narrowed (room : Nat) (wishes : List Nat) : List Nat :=
  let widths := wishes.map fun w => max 1 (min w room)
  narrowedFor room (total widths) widths

/-- Every column keeps a width. -/
theorem length_narrowed (room : Nat) (wishes : List Nat) :
    (narrowed room wishes).length = wishes.length := by
  simp [narrowed, length_narrowedFor]

end Highlighting.Widths
