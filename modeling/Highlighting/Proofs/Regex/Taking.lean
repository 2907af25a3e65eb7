import Highlighting.Proofs.Regex.Lead
import Mathlib.Data.List.TakeWhile

/-!
# Repetitions that give nothing back

A greedy repetition of a character takes as many as there are, and gives them back one by one where
the rest fails. If the rest cannot begin with a character that is repeated, giving back is of no
use: the rest succeeds behind all the characters or not at all. What such an expression takes of a
text is told by a function of what is left of the text.

## Main definitions

* `Regex.Takes` -- how many characters are taken of what is left of a text.
* `CharTest.one`, `CharTest.all` -- what a character and a repetition of it take.
-/
namespace Highlighting

namespace CharTest

/-- A range of code points that are folded as they stand. -/
theorem holds_span {ascii : Bool} {m n : Nat} (hn : n ≤ ClassItem.foldLimit) (c : Char) :
    (set .exact ascii false [.span m n]).holds c =
      (decide (m ≤ c.toNat) && decide (c.toNat ≤ n)) := by
  simp [holds, ClassItem.holds, Folding.code, Folding.variants, Nat.not_lt.mpr hn,
    Nat.min_eq_left hn]

theorem holds_literal (n : Nat) (c : Char) :
    (literal .exact false n).holds c = decide (c.toNat = n) := by
  by_cases h : c.toNat = n <;> simp [holds, Folding.code, Folding.mates, h]

/-- The condition on a position of a text is one on what is left of the text there. -/
theorem holdsAt_toArray (t : Text) (pos : Nat) (test : CharTest) :
    test.holdsAt t.toArray pos = (t.drop pos).head?.any test.holds := by
  rw [holdsAt, List.getElem?_toArray, List.head?_drop]
  cases t[pos]? <;> rfl

/-- The characters counted are those that what is left of the text begins with. -/
theorem countUpTo_toArray (t : Text) (pos : Nat) (test : CharTest) :
    test.countUpTo t.toArray none pos = ((t.drop pos).takeWhile test.holds).length := by
  have hcount (n pos : Nat) (h : t.length - pos ≤ n) :
      test.count t.toArray n pos = ((t.drop pos).takeWhile test.holds).length := by
    induction n generalizing pos with
    | zero => simp [count, List.drop_eq_nil_of_le (show t.length ≤ pos by omega)]
    | succ n ih =>
      rw [count, holdsAt_toArray]
      by_cases hpos : pos < t.length
      · rw [List.drop_eq_getElem_cons hpos, List.head?_cons, Option.any_some, List.takeWhile_cons]
        cases test.holds t[pos] with
        | true => simp [ih (pos + 1) (by omega)]
        | false => simp
      · simp [List.drop_eq_nil_of_le (Nat.le_of_not_lt hpos)]
  rw [countUpTo, List.size_toArray]
  exact hcount _ pos (Nat.le_refl _)

/-- What is taken of a text if its first character meets a condition: that one and what is taken of
the text behind it. -/
def one (test : CharTest) (taken? : Text → Option Nat) : Text → Option Nat
  | [] => none
  | c :: rest => if test.holds c then (taken? rest).map (1 + ·) else none

/-- All the first characters that meet a condition are taken, and what is taken behind them. -/
def all (test : CharTest) (taken? : Text → Option Nat) (t : Text) : Option Nat :=
  (taken? (t.dropWhile test.holds)).map ((t.takeWhile test.holds).length + ·)

end CharTest

namespace Regex

/-- From every state the rest matches so many characters of what is left of the text, if it
matches. -/
def Takes (t : Text) (k : Rest) (taken? : Text → Option Nat) : Prop :=
  ∀ st : MatchState, (k st).state?.map (·.pos) = (taken? (t.drop st.pos)).map (st.pos + ·)

theorem takes_complete (t : Text) : Takes t MatchState.complete fun _ => some 0 :=
  fun _ => rfl

namespace Takes
variable {t : Text} {k : Rest} {taken? : Text → Option Nat}

/-- A character takes itself. -/
theorem char (h : Takes t k taken?) (repeating : Bool) (test : CharTest) (next : Option CharTest) :
    Takes t ((Regex.char test).run t.toArray repeating next k) (test.one taken?) := by
  intro st
  rw [run, CharTest.holdsAt_toArray]
  by_cases hpos : st.pos < t.length
  · rw [List.drop_eq_getElem_cons hpos, List.head?_cons, Option.any_some, CharTest.one]
    by_cases hc : test.holds t[st.pos] = true
    · rw [if_pos hc, if_pos hc, h { st with pos := st.pos + 1 }, Option.map_map]
      exact congrArg (Option.map · _) (funext fun n => Nat.add_assoc _ _ _)
    · rw [if_neg hc, if_neg hc]
      rfl
  · rw [List.drop_eq_nil_of_le (Nat.le_of_not_lt hpos)]
    rfl

section Repeated
variable (repeating : Bool) (next : Option CharTest)
  (hnext : next.filter (·.exactCode?.isSome) = none)
include hnext

/-- An attempt of the rest is what the rest makes of it. -/
theorem attemptAt (h : Takes t k taken?) (pos : Nat) (st : MatchState) :
    (attemptAt t.toArray repeating next k pos st).state?.map (·.pos) =
      (taken? (t.drop pos)).map (pos + ·) := by
  have hk := h (st.at_ pos)
  rw [Regex.attemptAt, hnext]
  cases hrest : k (st.at_ pos) <;> rw [hrest] at hk <;> exact hk

/-- Where the rest cannot begin earlier, nothing is given back to it. -/
theorem giveBack (h : Takes t k taken?) {first extra : Nat}
    (hnone : ∀ i < extra, taken? (t.drop (first + i)) = none) (st : MatchState) :
    (giveBack t.toArray repeating next k first extra st).state?.map (·.pos) =
      (taken? (t.drop (first + extra))).map (first + extra + ·) := by
  induction extra generalizing st with
  | zero => exact h.attemptAt repeating next hnext first st
  | succ extra ih =>
    have hattempt := h.attemptAt repeating next hnext (first + extra + 1) st
    rw [Regex.giveBack, ← Nat.add_assoc]
    cases hlast : Regex.attemptAt t.toArray repeating next k (first + extra + 1) st with
    | matched u =>
      rw [hlast] at hattempt
      exact hattempt
    | failed noted marks =>
      rw [hlast] at hattempt
      rw [Attempt.orElse_failed, ih fun i hi => hnone i (by omega), ← hattempt,
        hnone extra (by omega)]
      rfl

/-- **A repetition takes all that there is**, if the rest cannot begin with it. -/
theorem loop (h : Takes t k taken?) (test : CharTest)
    (hnone : ∀ c rest, test.holds c = true → taken? (c :: rest) = none) :
    Takes t ((Regex.loop .greedy 0 none (.char test)).run t.toArray repeating next k)
      (test.all taken?) := by
  intro st
  have hcount := CharTest.countUpTo_toArray t st.pos test
  -- Before its end the repetition stands before a character of its own, so the rest fails there.
  have hearlier (i : Nat) (hi : i < test.countUpTo t.toArray none st.pos) :
      taken? (t.drop (st.pos + i)) = none := by
    rw [hcount] at hi
    have hsplit := List.takeWhile_append_dropWhile (p := test.holds) (l := t.drop st.pos)
    rw [← List.drop_drop, ← hsplit, List.drop_append_of_le_length (Nat.le_of_lt hi),
      List.drop_eq_getElem_cons hi, List.cons_append]
    exact hnone _ _ (List.mem_takeWhile_imp (p := fun c => test.holds c) (List.getElem_mem hi))
  have hdrop : t.drop (st.pos + test.countUpTo t.toArray none st.pos) =
      (t.drop st.pos).dropWhile test.holds := by
    rw [← List.drop_drop, hcount]
    nth_rewrite 2 [← List.takeWhile_append_dropWhile (p := test.holds) (l := t.drop st.pos)]
    exact List.drop_left
  simp only [run, single?, runChars, Nat.not_lt_zero, if_false, Nat.sub_zero, Nat.add_zero]
  rw [h.giveBack repeating next hnext hearlier, hdrop, hcount, CharTest.all, Option.map_map]
  exact congrArg (Option.map · _) (funext fun n => Nat.add_assoc _ _ _)

end Repeated

end Takes

end Regex

end Highlighting
