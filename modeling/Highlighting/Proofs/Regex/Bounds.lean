import Highlighting.Proofs.Regex.Confined

/-!
# Bounds of an attempt

No position that is reached or noted lies behind the end of the text, and none before the first one
unless there is a look-behind. The row of marks becomes no longer than it takes for the groups of
the expression, and what is marked lies in the text as well.

## Main definitions

* `Marks.Between` -- every mark lies between two positions.
* `MatchState.Within`, `Attempt.Within`, `Rest.StaysWithin` -- bounds on the positions and the marks
  of a state, of an attempt and of all attempts of a rest.
-/
namespace Highlighting

namespace Marks

theorem length_mark (m : Marks) (i p : Nat) :
    (m.mark i p).row.length = max m.row.length (i + 1) := by
  unfold mark
  split
  · rw [List.length_set]
    omega
  · simp only [List.length_append, List.length_replicate, List.length_singleton]
    omega

theorem length_mark_le {m : Marks} {i length : Nat} (hlen : m.row.length ≤ length) (hi : i < length)
    (p : Nat) : (m.mark i p).row.length ≤ length := by
  rw [length_mark]
  omega

theorem length_restored_le (repeating : Bool) (earlier m : Marks) :
    (restored repeating earlier m).row.length ≤ earlier.row.length := by
  unfold restored
  split
  · exact Nat.le_refl _
  · rw [List.length_take]
    omega

/-- The marks of some groups do not take a longer row than the groups do. -/
theorem lasting_length {gs : List Nat} {length : Nat}
    (hgroups : ∀ i, Regex.Marking gs i → i < length)
    (first last : Nat) : Lasting gs first last fun m => m.row.length ≤ length where
  restorable re h _ := Nat.le_trans (length_restored_le re _ _) h
  mark hi _ _ h := length_mark_le h (hgroups _ hi) _

/-- Every mark lies between two positions. -/
def Between (first last : Nat) (m : Marks) : Prop :=
  ∀ i p, m.at? i = some p → first ≤ p ∧ p ≤ last

/-- Marks that are set between two positions lie between them whatever is given up later: cutting
back the row unsets marks and moves none. -/
theorem lasting_between (gs : List Nat) (first last : Nat) :
    Lasting gs first last (Between first last) where
  restorable := by
    intro earlier m re hearlier hm i p hp
    unfold restored at hp
    split at hp
    · exact hearlier i p hp
    · rw [at?_take] at hp
      split at hp
      · exact hm i p hp
      · cases hp
  mark := by
    intro m i q _ hfirst hlast hm j p hp
    rw [at?_mark] at hp
    split at hp
    · cases hp
      exact ⟨hfirst, hlast⟩
    · exact hm j p hp

end Marks

/-- The positions of the state lie between two others, and its marks are not more than `length`. -/
structure MatchState.Within (first last length : Nat) (st : MatchState) : Prop where
  first_le : first ≤ st.pos
  le_last : st.pos ≤ last
  first_le_noted : first ≤ st.noted
  noted_le_last : st.noted ≤ last
  length_le : st.marks.row.length ≤ length

/-- The positions of the attempt lie between two others, and its marks are not more than
`length`. -/
def Attempt.Within (first last length : Nat) : Attempt → Prop
  | .matched st => st.Within first last length
  | .failed noted m => first ≤ noted ∧ noted ≤ last ∧ m.row.length ≤ length

/-- From a state within the bounds the rest stays within them. -/
def Rest.StaysWithin (first last length : Nat) (k : Rest) : Prop :=
  ∀ st : MatchState, st.Within first last length → (k st).Within first last length

section Within
variable {first last length : Nat}

theorem MatchState.within_iff {st : MatchState} :
    st.Within first last length ↔ st.Confined first last (·.row.length ≤ length) :=
  ⟨fun h => ⟨h.first_le, h.le_last, h.first_le_noted, h.noted_le_last, h.length_le⟩,
    fun h => ⟨h.first_le, h.le_last, h.first_le_noted, h.noted_le_last, h.marks⟩⟩

theorem Attempt.within_iff {a : Attempt} :
    a.Within first last length ↔ a.Confined first last (·.row.length ≤ length) := by
  cases a with
  | matched st => exact MatchState.within_iff
  | failed noted m => exact Iff.rfl

theorem Rest.staysWithin_iff {k : Rest} :
    k.StaysWithin first last length ↔ k.Confines first last (·.row.length ≤ length) := by
  simp only [StaysWithin, Confines, MatchState.within_iff, Attempt.within_iff]

theorem Rest.StaysWithin.complete (first last length : Nat) :
    Rest.StaysWithin first last length MatchState.complete :=
  Rest.staysWithin_iff.mpr Rest.Confines.complete

namespace Regex

theorem runOn_within {body : Rest} (hbody : Rest.StaysWithin first last length body) (fuel : Nat)
    (most lastRound : Option Nat) {st : MatchState} (h : st.Within first last length) :
    (runOn body fuel most lastRound st).Within first last length :=
  MatchState.within_iff.mpr (runOn_confined (Rest.staysWithin_iff.mp hbody) fuel most lastRound
    (MatchState.within_iff.mp h))

/-- **No attempt leaves the text**, nor goes back where nothing looks behind, and no more marks are
set than it takes for the groups of the expression. -/
theorem run_within (s : Subject) (r : Regex) (hlast : s.size ≤ last) (re : Bool)
    (next : Option CharTest) {k : Rest} (hgroups : ∀ i, Marking r.groups i → i < length)
    (hbehind : r.looksBehind = true → first = 0) (hk : Rest.StaysWithin first last length k) :
    Rest.StaysWithin first last length (r.run s re next k) :=
  Rest.staysWithin_iff.mpr (run_confined s r hlast re next (Marks.lasting_length hgroups first last)
    hbehind (Rest.staysWithin_iff.mp hk))

/-- How far the row reaches at most when groups have been marked. -/
def reach (gs : List Nat) (length : Nat) : Nat :=
  gs.foldr (fun g l => max (2 * g) l) length

theorem le_reach (gs : List Nat) (length : Nat) : length ≤ reach gs length := by
  induction gs with
  | nil => exact Nat.le_refl _
  | cons g gs ih => exact Nat.le_trans ih (Nat.le_max_right _ _)

theorem two_mul_le_reach {gs : List Nat} (length : Nat) {g : Nat} (hg : g ∈ gs) :
    2 * g ≤ reach gs length := by
  induction gs with
  | nil => exact absurd hg List.not_mem_nil
  | cons g' gs ih =>
    rcases List.mem_cons.mp hg with rfl | hg
    · exact Nat.le_max_left _ _
    · exact Nat.le_trans (ih hg) (Nat.le_max_right _ _)

/-- **A match ends inside of the text.** -/
theorem pos_le_of_matchAt {r : Regex} {s : Subject} {pos : Nat} {t : MatchState}
    (hpos : pos ≤ s.size)
    (h : r.matchAt s pos = .matched t) : t.pos ≤ s.size :=
  (matchAt_confined (Marks.lasting_true r.groups 0 s.size) (fun _ => rfl) (Nat.zero_le pos) hpos
    trivial h).le_last

/-- **What a match has marked lies in the text**, and behind the start of the match where nothing
looks behind. -/
theorem between_of_matchAt {r : Regex} {s : Subject} {pos : Nat} {t : MatchState}
    (hbehind : r.looksBehind = true → first = 0) (hfirst : first ≤ pos) (hpos : pos ≤ s.size)
    (h : r.matchAt s pos = .matched t) : t.marks.Between first s.size :=
  (matchAt_confined (Marks.lasting_between r.groups first s.size) hbehind hfirst hpos nofun h).marks

end Regex

end Within

end Highlighting
