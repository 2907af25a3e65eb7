/-!
# Capture marks

While a match is looked for, the start and the end of every group are marked. The marks stand
in a row, two for each group, and the row reaches as far as the last mark set. Entering a group
sets its start, leaving it sets its end, so inside a later round of a repetition a group has a
new start beside its old end. A group took part when it has both marks, in order.

When a way is given up, the row is cut back to its old length. The marks that it still holds may
have been moved on that way; only inside a repetition are they put back as well.

## Main definitions

* `Marks` -- the row of marks.
* `Marks.opened`, `Marks.closed` -- the marks after a group is entered or left.
* `Marks.restored` -- the marks after a way is given up.
* `Marks.span?` -- the positions between which a group captured.
* `Marks.isReversed` -- a group ends before it starts.
-/
namespace Highlighting

/-- The start and the end of each group, from the first group on, as far as any was set. -/
structure Marks where
  row : List (Option Nat)
deriving DecidableEq, Repr

namespace Marks

/-- No group was entered. -/
def none : Marks := ⟨[]⟩

/-- Set a mark. Those between the end of the row and the mark are unset. -/
def mark (m : Marks) (place pos : Nat) : Marks :=
  if place < m.row.length then ⟨m.row.set place (some pos)⟩
  else ⟨m.row ++ List.replicate (place - m.row.length) Option.none ++ [some pos]⟩

/-- Enter a group at a position. -/
def opened (m : Marks) (group pos : Nat) : Marks := m.mark (2 * (group - 1)) pos

/-- Leave a group at a position. -/
def closed (m : Marks) (group pos : Nat) : Marks := m.mark (2 * (group - 1) + 1) pos

/-- The marks after a way from earlier marks on is given up. -/
def restored (repeating : Bool) (earlier m : Marks) : Marks :=
  if repeating then earlier else ⟨m.row.take earlier.row.length⟩

/-- A mark. -/
def at? (m : Marks) (place : Nat) : Option Nat := (m.row[place]?).join

/-- The start of a group. -/
def start? (m : Marks) (group : Nat) : Option Nat := m.at? (2 * (group - 1))

/-- The end of a group. -/
def stop? (m : Marks) (group : Nat) : Option Nat := m.at? (2 * (group - 1) + 1)

/-- The span of a group that took part. -/
def span? (m : Marks) (group : Nat) : Option (Nat × Nat) :=
  match m.start? group, m.stop? group with
  | some a, some b => if a ≤ b then some (a, b) else Option.none
  | _, _ => Option.none

/-- A group has both marks, and it ends before it starts. -/
def isReversed (m : Marks) (group : Nat) : Bool :=
  match m.start? group, m.stop? group with
  | some a, some b => decide (b < a)
  | _, _ => false

@[simp] theorem start?_none (g : Nat) : none.start? g = Option.none := rfl
@[simp] theorem stop?_none (g : Nat) : none.stop? g = Option.none := rfl
@[simp] theorem span?_none (g : Nat) : none.span? g = Option.none := rfl
@[simp] theorem isReversed_none (g : Nat) : none.isReversed g = false := rfl

/-- Setting a mark sets that mark and no other. -/
theorem at?_mark (m : Marks) (i j p : Nat) :
    (m.mark i p).at? j = if j = i then some p else m.at? j := by
  unfold mark at?
  split
  · next h =>
    by_cases e : j = i
    · subst e; simp [h]
    · rw [if_neg e]; simp [Ne.symm e]
  · next h =>
    by_cases e : j = i
    · subst e
      simp [List.getElem?_append, h]
    · rw [if_neg e, List.append_assoc, List.getElem?_append]
      split
      · rfl
      · next hj =>
        rw [List.getElem?_append]
        have hout : m.row[j]? = Option.none := by simp; omega
        rw [hout]
        split
        · next hr => simp_all
        · next hr =>
          have : 1 ≤ j - m.row.length - (List.replicate (i - m.row.length)
              (Option.none : Option Nat)).length := by
            simp only [List.length_replicate] at hr ⊢; omega
          rw [List.getElem?_eq_none (by simpa using this)]

theorem start?_opened (m : Marks) {g h : Nat} (p : Nat) (hg : 0 < g) (hh : 0 < h) :
    (m.opened g p).start? h = if h = g then some p else m.start? h := by
  unfold start? opened
  rw [at?_mark]
  congr 1
  simp only [eq_iff_iff]; omega

theorem stop?_closed (m : Marks) {g h : Nat} (p : Nat) (hg : 0 < g) (hh : 0 < h) :
    (m.closed g p).stop? h = if h = g then some p else m.stop? h := by
  unfold stop? closed
  rw [at?_mark]
  congr 1
  simp only [eq_iff_iff]; omega

@[simp] theorem stop?_opened (m : Marks) (g h p : Nat) :
    (m.opened g p).stop? h = m.stop? h := by
  unfold stop? opened
  rw [at?_mark, if_neg (by omega)]

@[simp] theorem start?_closed (m : Marks) (g h p : Nat) :
    (m.closed g p).start? h = m.start? h := by
  unfold start? closed
  rw [at?_mark, if_neg (by omega)]

@[simp] theorem restored_true (earlier m : Marks) : restored true earlier m = earlier := rfl

theorem span?_eq_some_iff {m : Marks} {g a b : Nat} :
    m.span? g = some (a, b) ↔ m.start? g = some a ∧ m.stop? g = some b ∧ a ≤ b := by
  unfold span?
  split
  · next a' b' ha hb =>
    simp only [ha, hb]
    split <;> simp_all <;> omega
  · next h =>
    constructor
    · intro h'; cases h'
    · rintro ⟨ha, hb, _⟩
      exact absurd hb (h a b ha)

end Marks

end Highlighting
