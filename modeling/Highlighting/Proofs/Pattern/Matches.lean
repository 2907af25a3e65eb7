import Highlighting.Proofs.Pattern.Search
import Highlighting.Proofs.Result

/-!
# The successive matches of a subject

The loop over the matches of a subject goes on from where the last match ended, or one character
behind it if it was empty, until a search finds nothing. So every round starts at a later position
than the one before, and as no search starts behind the end of the subject, the loop ends. No match
is passed over but those that start strictly inside of another one.

## Main definitions

* `Pattern.Yields` -- the loop over the matches of a subject, without a bound on its rounds.
* `Enumerated` -- of the matches at the positions of a subject those that such a loop finds.
-/
namespace Highlighting

/-- The matches that searches find one after the other from a cursor on, until one finds none. -/
inductive Pattern.Yields (p : Pattern) (s : Text) : Cursor → List Match → Prop where
  | done {c c' : Cursor} (h : p.advance s c = .ok (none, c')) : Yields p s c []
  | step {c c' : Cursor} {m : Match} {ms : List Match} (h : p.advance s c = .ok (some m, c'))
      (hrest : Yields p s c' ms) : Yields p s c (m :: ms)

/-- Of the matches at the positions of a subject, the first from a position on, the first behind
that, and so on to the end of the subject. -/
inductive Enumerated (s : Text) (at? : Nat → Option Match) : (pos : Nat) → List Match → Prop where
  | nil {pos : Nat} (hnone : ∀ q, pos ≤ q → q ≤ s.length → at? q = none) : Enumerated s at? pos []
  | cons {pos start stop : Nat} {m : Match} {rest : List Match} (hpos : pos ≤ start)
      (hle : start ≤ stop) (hlength : stop ≤ s.length) (hm : at? start = some m)
      (hstart : m.start = start) (hstop : m.stop = stop)
      (hfirst : ∀ q, pos ≤ q → q < start → at? q = none)
      (hrest : Enumerated s at? (if start < stop then stop else stop + 1) rest) :
      Enumerated s at? pos (m :: rest)

namespace Enumerated
variable {s : Text} {at? : Nat → Option Match} {pos : Nat} {ms : List Match}

/-- Every match found takes one of the positions that are left. -/
theorem length_le (h : Enumerated s at? pos ms) (hpos : pos ≤ s.length + 1) :
    pos + ms.length ≤ s.length + 1 := by
  induction h with
  | nil => exact hpos
  | cons hpos' hle hlength _ _ _ _ _ ih =>
    rw [List.length_cons]
    split at ih <;> omega

theorem le_start (h : Enumerated s at? pos ms) : ∀ m ∈ ms, (pos : Int) ≤ m.start := by
  induction h with
  | nil => exact fun m hm => absurd hm List.not_mem_nil
  | cons hpos _ _ _ hstart _ _ _ ih =>
    intro m hm
    rcases List.mem_cons.mp hm with rfl | hm
    · omega
    · have := ih m hm
      split at this <;> omega

/-- Matches start at later and later positions, and not before earlier ones have ended. -/
theorem pairwise (h : Enumerated s at? pos ms) :
    ms.Pairwise fun m m' => m.start < m'.start ∧ m.stop ≤ m'.start := by
  induction h with
  | nil => exact .nil
  | cons _ hle _ _ hstart hstop _ hrest ih =>
    refine .cons (fun m hm => ?_) ih
    have := hrest.le_start m hm
    split at this <;> omega

/-- What is found is a match at a position of the subject. -/
theorem exists_at (h : Enumerated s at? pos ms) :
    ∀ m ∈ ms, ∃ q : Nat, q ≤ s.length ∧ at? q = some m ∧ m.start = q ∧ m.start ≤ m.stop := by
  induction h with
  | nil => exact fun m hm => absurd hm List.not_mem_nil
  | @cons _ start stop _ _ _ hle hlength hm hstart hstop _ _ ih =>
    intro m' hm'
    rcases List.mem_cons.mp hm' with rfl | hm'
    · exact ⟨start, by omega, hm, hstart, by omega⟩
    · exact ih m' hm'

/-- **No match is passed over** but those that start strictly inside of another one. -/
theorem complete (h : Enumerated s at? pos ms) {q : Nat} {m : Match} (hpos : pos ≤ q)
    (hq : q ≤ s.length) (hm : at? q = some m) :
    m ∈ ms ∨ ∃ m' ∈ ms, m'.start < q ∧ (q : Int) < m'.stop := by
  induction h with
  | nil hnone => exact absurd (hm.symm.trans (hnone q hpos hq)) nofun
  | @cons pos start stop m' rest hpos' hle hlength hm' hstart hstop hfirst hrest ih =>
    rcases Nat.lt_trichotomy q start with hlt | rfl | hgt
    · exact absurd (hm.symm.trans (hfirst q hpos hlt)) nofun
    · cases hm'.symm.trans hm
      exact .inl List.mem_cons_self
    · by_cases hinside : q < stop
      · exact .inr ⟨m', List.mem_cons_self, by omega, by omega⟩
      · rcases ih (by split <;> omega) with hmem | ⟨m'', hmem, hlt⟩
        · exact .inl (List.mem_cons_of_mem _ hmem)
        · exact .inr ⟨m'', List.mem_cons_of_mem _ hmem, hlt⟩

/-- A position without a match is passed over. -/
theorem succ (h : Enumerated s at? pos ms) (hnone : at? pos = none) :
    Enumerated s at? (pos + 1) ms := by
  cases h with
  | nil hall => exact .nil fun q hle hq => hall q (by omega) hq
  | @cons _ start _ m rest hpos hle hlength hm hstart hstop hfirst hrest =>
    have hne : start ≠ pos := by
      rintro rfl
      exact absurd (hm.symm.trans hnone) nofun
    exact .cons (by omega) hle hlength hm hstart hstop (fun q hle hlt => hfirst q (by omega) hlt) hrest

/-- A match that is not empty comes first where it starts, and the others are those behind it. -/
theorem first (h : Enumerated s at? pos ms) (hpos : pos ≤ s.length) {m : Match} {stop : Nat}
    (hm : at? pos = some m) (hstart : m.start = pos) (hstop : m.stop = stop) (hlt : pos < stop) :
    ∃ rest, ms = m :: rest ∧ stop ≤ s.length ∧ Enumerated s at? stop rest := by
  cases h with
  | nil hall => exact absurd (hm.symm.trans (hall pos (Nat.le_refl _) hpos)) nofun
  | @cons _ start' stop' m' rest hpos' _ hlength hm' hstart' hstop' hfirst hrest =>
    obtain rfl : start' = pos := by
      refine Nat.le_antisymm (Nat.not_lt.mp fun hbefore => ?_) hpos'
      exact absurd (hm.symm.trans (hfirst pos (Nat.le_refl _) hbefore)) nofun
    cases hm.symm.trans hm'
    obtain rfl : stop' = stop := by omega
    rw [if_pos hlt] at hrest
    exact ⟨rest, rfl, hlength, hrest⟩

/-- A match where another one ends is not passed over. -/
theorem mem_of_stop (h : Enumerated s at? pos ms) {q : Nat} {m m' : Match} (hm : m ∈ ms)
    (hend : m.stop = q) (hm' : at? q = some m') : m' ∈ ms := by
  induction h with
  | nil => exact absurd hm List.not_mem_nil
  | @cons pos start stop m₁ rest hpos hle hlength hm₁ hstart hstop hfirst hrest ih =>
    rcases List.mem_cons.mp hm with rfl | hm
    · obtain rfl : q = stop := by omega
      rcases Nat.eq_or_lt_of_le hle with rfl | hlt
      · cases hm₁.symm.trans hm'
        exact List.mem_cons_self
      · rw [if_pos hlt] at hrest
        rcases hrest.complete (Nat.le_refl q) hlength hm' with hmem | ⟨m'', hmem, hbefore, -⟩
        · exact List.mem_cons_of_mem _ hmem
        · have := hrest.le_start m'' hmem
          omega
    · exact List.mem_cons_of_mem _ (ih hm)

end Enumerated

namespace Pattern
variable {p : Pattern} {s : Text} {at? : Nat → Option Match}

/-- A bound on the rounds that is not reached cuts no match off. -/
theorem Yields.scanFrom_eq {c : Cursor} {ms : List Match} (h : p.Yields s c ms) {fuel : Nat}
    (hfuel : ms.length < fuel) : p.scanFrom s fuel c = ⟨ms, none⟩ := by
  induction h generalizing fuel with
  | done h =>
    obtain ⟨fuel, rfl⟩ : ∃ n, fuel = n + 1 := ⟨fuel - 1, by omega⟩
    rw [scanFrom, h]
    rfl
  | step h hrest ih =>
    obtain ⟨fuel, rfl⟩ : ∃ n, fuel = n + 1 := ⟨fuel - 1, by omega⟩
    rw [List.length_cons] at hfuel
    rw [scanFrom, h]
    dsimp only
    rw [ih (by omega)]
    rfl

theorem index_on_next (s : Text) (n : Int) : (Cursor.on ⟨some s, n⟩ s).index = n := by
  simp [Cursor.on, Cursor.follows]

/-- The position to go on from behind a match. -/
theorem next_eq {m : Match} {start stop : Nat} (hstart : m.start = start) (hstop : m.stop = stop) :
    next m = ((if start < stop then stop else stop + 1 : Nat) : Int) := by
  unfold next
  rw [hstart, hstop]
  split <;> split <;> omega

/-- A round of the loop starts at the position of its cursor. -/
theorem advance_of_search {c : Cursor} {pos : Nat} (hindex : (c.on s).index = pos)
    {found : Option Match} (h : p.search s pos = .ok found) :
    ∃ c', p.advance s c = .ok (found, c') ∧
      ∀ m, found = some m → c' = ⟨some s, next m⟩ := by
  unfold advance
  dsimp only
  rw [hindex, h]
  cases found with
  | none => exact ⟨_, rfl, nofun⟩
  | some m => exact ⟨_, rfl, fun _ hm => by cases hm; rfl⟩

/-- **The loop over the matches ends**, with the first match from its position on, the first behind
that, and so on. -/
theorem Leftmost.yields (h : p.Leftmost s at?) (n : Nat) {c : Cursor} {pos : Nat}
    (hindex : (c.on s).index = pos) (hn : s.length + 1 - pos ≤ n) :
    ∃ ms, p.Yields s c ms ∧ Enumerated s at? pos ms := by
  induction n generalizing c pos with
  | zero =>
    have hnone : p.search s pos = .ok none := by
      rw [search, if_pos (.inr (by omega))]
    obtain ⟨c', hadvance, -⟩ := advance_of_search hindex hnone
    exact ⟨[], .done hadvance, .nil fun q hle hq => by omega⟩
  | succ n ih =>
    by_cases hpos : pos ≤ s.length
    · rcases h.search_cases hpos with ⟨hnone, hall⟩ | ⟨start, m, hsome, hm, hle, hstart, hfirst⟩
      · obtain ⟨c', hadvance, -⟩ := advance_of_search hindex hnone
        exact ⟨[], .done hadvance, .nil hall⟩
      · obtain ⟨c', hadvance, hc'⟩ := advance_of_search hindex hsome
        obtain ⟨-, start', stop, -, hle', hstart', hstop, -, hlength⟩ := search_eq_ok_some hsome
        obtain rfl : start = start' := by
          have := h.start_eq hm
          omega
        have hmoved : (c'.on s).index = ((if start < stop then stop else stop + 1 : Nat) : Int) := by
          rw [hc' m rfl, next_eq hstart' hstop]
          exact index_on_next s _
        obtain ⟨ms, hyields, henum⟩ := ih hmoved (by split <;> omega)
        exact ⟨m :: ms, .step hadvance hyields,
          .cons hle hle' hlength hm hstart' hstop hfirst henum⟩
    · exact ih hindex (by omega)

/-- **The successive matches of a subject** are finitely many, one more than it has characters at
most, and the loop that looks for them ends by itself. They start at later and later positions,
none before the one before has ended. Each is the match at its position, and no match is passed
over but those that start strictly inside of one that is found; in particular none, though it may
be empty, that starts where another one ends. An empty subject has none. -/
theorem allMatches_enumerate (p : Pattern) :
    p.allMatches [] = .ok [] ∧ ∀ (s : Text) (at? : Nat → Option Match), p.Leftmost s at? →
      ∃ ms, p.allMatches s = .ok ms ∧ p.Yields s .start ms ∧ ms.length ≤ s.length + 1 ∧
        ms.Pairwise (fun m m' => m.start < m'.start ∧ m.stop ≤ m'.start) ∧
        (∀ m ∈ ms, ∃ q : Nat, q ≤ s.length ∧ at? q = some m ∧ m.start = q ∧ m.start ≤ m.stop) ∧
        (∀ (q : Nat) (m : Match), q ≤ s.length → at? q = some m →
          m ∈ ms ∨ ∃ m' ∈ ms, m'.start < q ∧ (q : Int) < m'.stop) ∧
        ∀ m ∈ ms, ∀ (q : Nat) (m' : Match), m.stop = q → at? q = some m' → m' ∈ ms := by
  refine ⟨rfl, fun s at? h => ?_⟩
  obtain ⟨ms, hyields, henum⟩ := h.yields _ (index_on_start s) (Nat.le_refl _)
  have hcount := henum.length_le (Nat.zero_le _)
  refine ⟨ms, ?_, hyields, by omega, henum.pairwise, henum.exists_at,
    fun q m hq hm => henum.complete (Nat.zero_le q) hq hm,
    fun m hm q m' hend hm' => henum.mem_of_stop hm hend hm'⟩
  rw [allMatches, scan, hyields.scanFrom_eq (by omega)]
  rfl

/-- The matches of any number of letters, for one, are two letters, nothing right behind them, and
nothing at the end. -/
theorem allMatches_enumerate_letters : ∃ p ms, Pattern.compile "a*".toList "" = .ok p ∧
    p.Leftmost "aab".toList (p.matchAt "aab".toList) ∧ p.allMatches "aab".toList = .ok ms ∧
    ms.map (fun m => (m.start, m.stop)) = [(0, 2), (2, 2), (3, 3)] ∧ ms.length ≤ 3 + 1 ∧
    (∀ (q : Nat) (m : Match), q ≤ 3 → p.matchAt "aab".toList q = some m →
      m ∈ ms ∨ ∃ m' ∈ ms, m'.start < q ∧ (q : Int) < m'.stop) := by
  obtain ⟨p, hcompile, hrun⟩ := bind_eq_ok_iff.mp (show
    (Pattern.compile "a*".toList "" >>= fun p => .ok (p.program.regex.mayReverse,
        (p.allMatches "aab".toList).map fun ms => ms.map fun m => (m.start, m.stop))) =
      .ok (false, .ok [(0, 2), (2, 2), (3, 3)]) by decide +kernel)
  obtain ⟨hreverse, hfound⟩ : _ ∧ _ := by simpa only [Except.ok.injEq, Prod.mk.injEq] using hrun
  obtain ⟨modes, -, hprogram⟩ := compile_eq_ok hcompile
  have hleftmost : p.Leftmost "aab".toList (p.matchAt "aab".toList) :=
    leftmost_of_proper (Regex.Program.proper_of_compile hprogram hreverse) (by decide)
  obtain ⟨ms, hms, -, hlength, -, -, hcomplete, -⟩ :=
    (allMatches_enumerate p).2 _ _ hleftmost
  rw [hms] at hfound
  exact ⟨p, ms, hcompile, hleftmost, hms, Except.ok.inj hfound, hlength, hcomplete⟩

end Pattern

end Highlighting
