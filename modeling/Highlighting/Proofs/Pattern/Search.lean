import Highlighting.Proofs.Pattern.Scan
import Highlighting.Proofs.Regex.Lead

/-!
# A search finds the leftmost match

A search does not attempt all positions: it stops where too few characters are left, and it passes
over those whose character cannot be the first one. It stops too early for no match if a match has
the number of characters that the program asks for. This holds of a compiled program if nothing that
captures or looks behind is repeated possessively, and then no search is refused.

It passes over no match of the expression if a match begins with a character that the program looks
for. For that nothing in the pattern may choose between ASCII and Unicode.

## Main definitions

* `Regex.MatchesAt` -- an expression matches at a position.
* `Regex.Program.Proper`, `Regex.Program.Sound` -- the matches of a program are as the program says.
* `Pattern.Leftmost` -- searches find the first of given matches.
-/
namespace Highlighting

namespace Regex

/-- The expression matches at a position, and the match is complete in a state. -/
def MatchesAt (r : Regex) (s : Subject) (pos : Nat) (t : MatchState) : Prop :=
  r.matchAt s pos = .matched t

theorem state?_matchAt {r : Regex} {s : Subject} {pos : Nat} {t : MatchState} :
    (r.matchAt s pos).state? = some t ↔ r.MatchesAt s pos t :=
  Attempt.state?_eq_some_iff

namespace Program

/-- The matches of a program have as many characters as it asks for, and no group of them ends
before it starts. -/
structure Proper (p : Program) : Prop where
  least_le {s : Subject} {pos : Nat} {t : MatchState} (h : p.regex.MatchesAt s pos t) :
    pos + p.least ≤ t.pos
  upright {s : Subject} {pos : Nat} {t : MatchState} (h : p.regex.MatchesAt s pos t) :
    p.reverses t.marks = false

/-- Besides they begin with a character that the program looks for. -/
structure Sound (p : Program) : Prop extends p.Proper where
  lead {s : Subject} {pos : Nat} {t : MatchState} {test : CharTest}
    (h : p.regex.MatchesAt s pos t) (htest : p.lead? = some test) : test.holdsAt s pos = true

/-- A compiled program is proper if nothing that captures or looks behind is repeated
possessively. -/
theorem proper_of_compile {mostOpen : Nat} {modes : Modes} {pattern : Text} {p : Program}
    (hp : compile mostOpen modes pattern = .ok p) (hr : p.regex.mayReverse = false) : p.Proper where
  least_le h := least_le_of_matchAt hp hr h
  upright h := by
    have hgroups := (groups_of_compile hp).1
    refine reverses_eq_false hr (hgroups ▸ List.pairwise_lt_range') (fun g hg => ?_) h
    rw [hgroups] at hg
    exact (List.mem_range'_1.mp hg).1

/-- It is sound if all its classes are read as the whole pattern is. -/
theorem sound_of_compile {mostOpen : Nat} {modes : Modes} {pattern : Text} {p : Program}
    (hp : compile mostOpen modes pattern = .ok p) (hr : p.regex.mayReverse = false)
    (htype : p.regex.InType p.modes.ascii) : p.Sound where
  toProper := proper_of_compile hp hr
  lead h htest := by
    unfold lead? at htest
    split at htest
    · cases htest
    · exact lead_of_matchAt htype htest h

/-! ## The positions of a search -/

/-- What is found among some positions is at the first of them that has a match. -/
theorem searchAmong_eq (p : Program) (s : Subject) (n pos : Nat) : p.searchAmong s n pos =
    (List.range' pos n).findSome? fun q => (p.matchAt? s q).map (q, ·) := by
  induction n generalizing pos with
  | zero => rfl
  | succ n ih =>
    unfold searchAmong
    rw [List.range'_succ, List.findSome?_cons]
    cases p.matchAt? s pos with
    | some t => rfl
    | none => exact ih (pos + 1)

theorem matchesAt_of_matchAt? {p : Program} {s : Subject} {pos : Nat} {t : MatchState}
    (h : p.matchAt? s pos = some t) : p.regex.MatchesAt s pos t := by
  unfold matchAt? at h
  split at h
  · exact state?_matchAt.mp h
  · cases h

/-- At no position a match is passed over for its first character. -/
theorem Sound.matchAt?_eq_some_iff {p : Program} (h : p.Sound) {s : Subject} {pos : Nat}
    {t : MatchState} : p.matchAt? s pos = some t ↔ p.regex.MatchesAt s pos t := by
  refine ⟨matchesAt_of_matchAt?, fun ht => ?_⟩
  have hlead : p.lead?.all (·.holdsAt s pos) = true :=
    Option.all_eq_true _ _ |>.mpr fun test htest => h.lead ht htest
  rw [matchAt?, if_pos hlead]
  exact state?_matchAt.mpr ht

namespace Proper
variable {p : Program} {s : Subject} {pos q : Nat} {t : MatchState}

/-- No match is behind the positions that are tried. -/
theorem lt_attempts (h : p.Proper) (ht : p.regex.MatchesAt s q t) (hpos : pos ≤ q)
    (hq : q ≤ s.size) : q < pos + p.attempts s pos := by
  have hleast := h.least_le ht
  have hend := pos_le_of_matchAt hq ht
  unfold attempts
  rw [if_neg (by omega)]
  cases hlead : p.lead? with
  | none =>
    have : s.size - (p.least - 1) ≤ Nat.max pos (s.size - (p.least - 1)) := Nat.le_max_right _ _
    dsimp only
    omega
  | some test =>
    have hpositive : p.least ≠ 0 := by
      intro hzero
      rw [lead?, if_pos hzero] at hlead
      cases hlead
    dsimp only
    omega

/-- **A search tries all positions up to the end of the text**, as far as there may be a match. -/
theorem search_eq (h : p.Proper) (hpos : pos ≤ s.size) : p.search s pos =
    (List.range' pos (s.size + 1 - pos)).findSome? fun q => (p.matchAt? s q).map (q, ·) := by
  have hattempts := attempts_le p hpos
  obtain ⟨n, hn⟩ : ∃ n, s.size + 1 - pos = p.attempts s pos + n :=
    ⟨s.size + 1 - pos - p.attempts s pos, by omega⟩
  have hbehind : (List.range' (pos + p.attempts s pos) n).findSome?
      (fun q => (p.matchAt? s q).map (q, ·)) = none := by
    rw [List.findSome?_eq_none_iff]
    intro q hq
    rw [List.mem_range'_1] at hq
    rw [Option.map_eq_none_iff]
    by_contra hsome
    obtain ⟨t, ht⟩ := Option.ne_none_iff_exists'.mp hsome
    have := h.lt_attempts (matchesAt_of_matchAt? ht) (show pos ≤ q by omega) (by omega)
    omega
  have hsplit : List.range' pos (s.size + 1 - pos) =
      List.range' pos (p.attempts s pos) ++ List.range' (pos + p.attempts s pos) n := by
    rw [hn, ← List.range'_append_1]
  rw [hsplit, List.findSome?_append, hbehind, Option.or_none, search, searchAmong_eq]

end Proper

end Program

end Regex

/-! ## Searches in a text -/

namespace Pattern

/-- **What is expected of searches**: of the matches given for the positions of a text, a search
from a position on finds the first, and it finds none where there is none. -/
structure Leftmost (p : Pattern) (s : Text) (at? : Nat → Option Match) : Prop where
  start_eq {q : Nat} {m : Match} (h : at? q = some m) : m.start = q
  search_eq {pos : Nat} (h : pos ≤ s.length) :
    p.search s pos = .ok ((List.range' pos (s.length + 1 - pos)).findSome? at?)

/-- A search of a proper program finds the first of the matches at the positions of a text. -/
theorem leftmost_of_proper {p : Pattern} (h : p.program.Proper) {s : Text} (hs : s ≠ []) :
    p.Leftmost s (p.matchAt s) where
  start_eq := by
    intro q m hm
    obtain ⟨t, -, rfl⟩ := Option.map_eq_some_iff.mp hm
    rfl
  search_eq := by
    intro pos hpos
    have hsize : s.toArray.size = s.length := List.size_toArray
    have hinside : ¬ (s = [] ∨ (s.length : Int) < (pos : Int)) := by
      rw [not_or]
      exact ⟨hs, by omega⟩
    have hleast : ¬ (pos : Int) < leastPosition := by
      unfold leastPosition
      omega
    have hfind : (List.range' pos (s.length + 1 - pos)).findSome? (p.matchAt s) =
        (p.program.search s.toArray pos).map fun (start, st) => p.toMatch s start st := by
      rw [h.search_eq (hsize ▸ hpos), hsize, List.map_findSome?]
      exact congrArg (List.findSome? · _) (funext fun q => by simp [matchAt, Function.comp_def])
    unfold search
    rw [if_neg hinside, if_neg hleast, Int.toNat_natCast, hfind]
    cases hsearch : p.program.search s.toArray pos with
    | none => rfl
    | some found =>
      obtain ⟨start, st⟩ := found
      obtain ⟨-, -, ht⟩ := Regex.Program.search_eq_some hsearch (hsize ▸ hpos)
      dsimp only
      rw [h.upright ht]
      rfl

namespace Leftmost
variable {p : Pattern} {s : Text} {at? : Nat → Option Match} {pos q : Nat} {m : Match}

/-- **A search ends with the leftmost match**, or it finds that there is none. -/
theorem search_cases (h : p.Leftmost s at?) (hpos : pos ≤ s.length) :
    p.search s pos = .ok none ∧ (∀ q, pos ≤ q → q ≤ s.length → at? q = none) ∨
      ∃ q m, p.search s pos = .ok (some m) ∧ at? q = some m ∧ pos ≤ q ∧ q ≤ s.length ∧
        ∀ q', pos ≤ q' → q' < q → at? q' = none := by
  rw [h.search_eq hpos]
  cases hfind : (List.range' pos (s.length + 1 - pos)).findSome? at? with
  | none =>
    refine .inl ⟨rfl, fun q hle hq => List.findSome?_eq_none_iff.mp hfind q ?_⟩
    rw [List.mem_range'_1]
    omega
  | some m =>
    obtain ⟨before, q, after, hrange, hm, hbefore⟩ := List.findSome?_eq_some_iff.mp hfind
    have hmem (q' : Nat) : q' ∈ before ++ q :: after ↔ pos ≤ q' ∧ q' ≤ s.length := by
      rw [← hrange, List.mem_range'_1]
      omega
    have hsorted : (before ++ q :: after).Pairwise (· < ·) := hrange ▸ List.pairwise_lt_range'
    have hafter := (List.pairwise_cons.mp (List.pairwise_append.mp hsorted).2.1).1
    obtain ⟨hle, hq⟩ := (hmem q).mp (List.mem_append_right _ List.mem_cons_self)
    refine .inr ⟨q, m, rfl, hm, hle, hq, fun q' hle' hlt => hbefore q' ?_⟩
    rcases List.mem_append.mp ((hmem q').mpr ⟨hle', by omega⟩) with hq' | hq'
    · exact hq'
    · rcases List.mem_cons.mp hq' with rfl | hq'
      · omega
      · have := hafter q' hq'
        omega

end Leftmost

end Pattern

end Highlighting
