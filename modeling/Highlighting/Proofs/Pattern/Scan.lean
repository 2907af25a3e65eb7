import Highlighting.Pattern
import Highlighting.Proofs.Regex.Numbering
import Highlighting.Proofs.Regex.Upright

/-!
# The matches of a subject

The matches that a scan finds lie in the subject one behind the other, and each is its part of
the subject. So the subject is put together from what lies between the matches and from the
matches themselves. A scan of a compiled pattern fails only where a group ends before it starts,
and for that the pattern has to have a possessive repetition around a group.

## Main definitions

* `Pattern.Finds` -- a match comes from an attempt at its start.
* `Spaced` -- matches lie in a subject one behind the other.
-/
namespace Highlighting

/-- The match comes from an attempt at its start, in which every group ends behind its start. -/
def Pattern.Finds (p : Pattern) (s : Text) (m : Match) : Prop :=
  ∃ start st, p.program.regex.matchAt s.toArray start = .matched st ∧
    p.program.reverses st.marks = false ∧ m = p.toMatch s start st

/-- Matches lie in a subject one behind the other, from a position on. -/
inductive Spaced (s : Text) : Nat → List Match → Prop where
  | nil {last : Nat} : Spaced s last []
  | cons {last start stop : Nat} {m : Match} {rest : List Match} (hlast : last ≤ start)
      (hle : start ≤ stop) (hstart : m.start = start) (hstop : m.stop = stop)
      (hfull : m.full = s.slice start stop) (hlength : stop ≤ s.length)
      (hrest : Spaced s stop rest) : Spaced s last (m :: rest)

namespace Pattern
variable {p : Pattern} {s source : Text} {flags : String} {m : Match}

/-- The modes and the program of a compiled pattern. -/
theorem compile_eq_ok (h : compile source flags = .ok p) :
    ∃ modes, Pattern.modes source flags = .ok modes ∧
      Regex.compile mostOpen modes source = .ok p.program := by
  unfold compile at h
  split at h
  · cases h
  · split at h
    · cases h
    · next modes hmodes =>
      split at h
      · cases h
      · next program hprogram =>
        cases h
        exact ⟨modes, hmodes, hprogram⟩

end Pattern

/-! ## One search -/

/-- No position behind the end is tried. -/
theorem Regex.Program.attempts_le (p : Program) {s : Subject} {pos : Nat} (hpos : pos ≤ s.size) :
    pos + p.attempts s pos ≤ s.size + 1 := by
  have hmax : Nat.max pos (s.size - (p.least - 1)) ≤ s.size :=
    Nat.max_le.mpr ⟨hpos, Nat.sub_le _ _⟩
  unfold attempts
  split
  · omega
  · split <;> omega

/-- A search does not look behind the end. -/
theorem Regex.Program.search_eq_some {p : Program} {s : Subject} {pos start : Nat} {st : MatchState}
    (h : p.search s pos = some (start, st)) (hpos : pos ≤ s.size) :
    pos ≤ start ∧ start ≤ s.size ∧ p.regex.matchAt s start = .matched st := by
  obtain ⟨hle, hlt, hmatch⟩ := searchAmong_eq_some h
  refine ⟨hle, ?_, ?_⟩
  · have hattempts := attempts_le p hpos
    omega
  · unfold matchAt? at hmatch
    split at hmatch
    · cases hattempt : p.regex.matchAt s start with
      | matched t =>
        rw [hattempt] at hmatch
        cases hmatch
        rfl
      | failed => simp [hattempt, Attempt.state?] at hmatch
    · cases hmatch

namespace Pattern
variable {p : Pattern} {s source : Text} {flags : String} {m : Match}

/-- A match is the part of the subject from its start to its end. -/
theorem full_toMatch {start : Nat} (st : MatchState) (hstart : start ≤ s.length) :
    ∃ stop : Nat, start ≤ stop ∧ stop ≤ s.length ∧ (p.toMatch s start st).stop = stop ∧
      (p.toMatch s start st).full = s.slice start stop := by
  refine ⟨start + (s.slice start st.pos).length, Nat.le_add_right _ _, ?_, ?_, ?_⟩
  · simp [Text.slice]
    omega
  · simp [Match.stop, toMatch]
  · simp [toMatch, Text.slice]

/-- What is found from a position before the start is found from the start. -/
theorem search_toNat {pos : Int} (h : p.search s pos = .ok (some m)) :
    p.search s (pos.toNat : Int) = .ok (some m) := by
  unfold search at h ⊢
  split at h
  · cases h
  · next hend =>
    split at h
    · cases h
    · have hend' : ¬ (s = [] ∨ (s.length : Int) < (pos.toNat : Int)) := by
        rw [not_or] at hend ⊢
        refine ⟨hend.1, ?_⟩
        have := List.length_pos_of_ne_nil hend.1
        omega
      have hleast : ¬ ((pos.toNat : Int) < leastPosition) := by
        unfold leastPosition
        omega
      rw [if_neg hend', if_neg hleast, Int.toNat_natCast]
      exact h

theorem search_eq_ok_some {pos : Nat} (h : p.search s pos = .ok (some m)) :
    p.Finds s m ∧ ∃ start stop : Nat, pos ≤ start ∧ start ≤ stop ∧ m.start = start ∧
      m.stop = stop ∧ m.full = s.slice start stop ∧ stop ≤ s.length := by
  unfold search at h
  split at h
  · cases h
  · next hend =>
    split at h
    · cases h
    · split at h
      · cases h
      · next start st hsearch =>
        split at h
        · cases h
        · next hreverses =>
          cases h
          rw [not_or, Int.toNat_natCast] at *
          have hsize : s.toArray.size = s.length := List.size_toArray
          obtain ⟨hle, hstart, hmatch⟩ := Regex.Program.search_eq_some hsearch (by omega)
          obtain ⟨stop, hstop, hlength, heq, hfull⟩ := full_toMatch (p := p) st (hsize ▸ hstart)
          exact ⟨⟨start, st, hmatch, Bool.eq_false_iff.mpr hreverses, rfl⟩, start, stop, hle, hstop,
            rfl, heq, hfull, hlength⟩

/-- A search fails only where a group may end before it starts. -/
theorem search_eq_error {pos : Nat} {e : Failure} (hp : compile source flags = .ok p)
    (h : p.search s pos = .error e) :
    e = .reversedGroup ∧ p.program.regex.mayReverse = true := by
  obtain ⟨modes, -, hprogram⟩ := compile_eq_ok hp
  have hgroups := (Regex.groups_of_compile hprogram).1
  unfold search at h
  split at h
  · cases h
  · next hend =>
    split at h
    · next hleast =>
      unfold leastPosition at hleast
      omega
    · split at h
      · cases h
      · next start st hsearch =>
        split at h
        · next hreverses =>
          cases h
          refine ⟨rfl, ?_⟩
          by_contra hr
          rw [not_or, Int.toNat_natCast] at *
          have hsize : s.toArray.size = s.length := List.size_toArray
          obtain ⟨-, -, hmatch⟩ := Regex.Program.search_eq_some hsearch (by omega)
          have := Regex.Program.reverses_eq_false (Bool.eq_false_iff.mpr hr)
            (hgroups ▸ List.pairwise_lt_range')
            (fun g hg => by
              rw [hgroups] at hg
              exact (List.mem_range'_1.mp hg).1) hmatch
          rw [hreverses] at this
          cases this
        · cases h

/-! ## A scan -/

theorem le_next (m : Match) : m.stop ≤ next m := by
  unfold next
  split <;> omega

/-- **The matches of a subject lie in it one behind the other**, and each comes from an attempt
at its start. -/
theorem scanFrom_spec (p : Pattern) (s : Text) (fuel : Nat) {c : Cursor} {last pos : Nat}
    (hindex : (c.on s).index = pos) (hlast : last ≤ pos) :
    Spaced s last (p.scanFrom s fuel c).found ∧ ∀ m ∈ (p.scanFrom s fuel c).found, p.Finds s m := by
  induction fuel generalizing c last pos with
  | zero => exact ⟨.nil, fun m hm => absurd hm List.not_mem_nil⟩
  | succ fuel ih =>
    unfold scanFrom advance
    dsimp only
    rw [hindex]
    cases hsearch : p.search s (pos : Int) with
    | error e => exact ⟨.nil, fun m hm => absurd hm List.not_mem_nil⟩
    | ok o =>
      cases o with
      | none => exact ⟨.nil, fun m hm => absurd hm List.not_mem_nil⟩
      | some m =>
        obtain ⟨hfinds, start, stop, hpos, hle, hstart, hstop, hfull, hlength⟩ :=
          search_eq_ok_some hsearch
        have hnext := le_next m
        obtain ⟨n, hn⟩ : ∃ n : Nat, next m = n := ⟨(next m).toNat, by omega⟩
        have hmoved : (Cursor.on ⟨some s, next m⟩ s).index = (n : Int) := by
          simp [Cursor.on, Cursor.follows, hn]
        obtain ⟨hspaced, hall⟩ := ih hmoved (show stop ≤ n by omega)
        refine ⟨.cons (Nat.le_trans hlast hpos) hle hstart hstop hfull hlength hspaced, ?_⟩
        intro m' hm'
        rcases List.mem_cons.mp hm' with rfl | hm'
        · exact hfinds
        · exact hall m' hm'

theorem scan_failure_eq_some {fuel : Nat} {c : Cursor} {pos : Nat} (hindex : (c.on s).index = pos)
    {e : Failure} (hp : compile source flags = .ok p)
    (h : (p.scanFrom s fuel c).failure = some e) :
    e = .reversedGroup ∧ p.program.regex.mayReverse = true := by
  induction fuel generalizing c pos with
  | zero => cases h
  | succ fuel ih =>
    unfold scanFrom advance at h
    dsimp only at h
    rw [hindex] at h
    cases hsearch : p.search s (pos : Int) with
    | error e' =>
      rw [hsearch] at h
      cases h
      exact search_eq_error hp hsearch
    | ok o =>
      rw [hsearch] at h
      cases o with
      | none => cases h
      | some m =>
        obtain ⟨-, start, stop, -, -, -, hstop, -⟩ := search_eq_ok_some hsearch
        have hnext := le_next m
        obtain ⟨n, hn⟩ : ∃ n : Nat, next m = n := ⟨(next m).toNat, by omega⟩
        have hmoved : (Cursor.on ⟨some s, next m⟩ s).index = (n : Int) := by
          simp [Cursor.on, Cursor.follows, hn]
        exact ih hmoved h

theorem index_on_start (s : Text) : (Cursor.start.on s).index = (0 : Nat) := by
  simp [Cursor.on, Cursor.start, Cursor.follows]

theorem scan_spaced (p : Pattern) (s : Text) : Spaced s 0 (p.scan s).found :=
  (scanFrom_spec p s _ (index_on_start s) (Nat.le_refl _)).1

theorem finds_of_mem_scan (hm : m ∈ (p.scan s).found) : p.Finds s m :=
  (scanFrom_spec p s _ (index_on_start s) (Nat.le_refl _)).2 m hm

/-- **A scan fails only where a group may end before it starts.** -/
theorem scan_failure {e : Failure} (hp : compile source flags = .ok p)
    (h : (p.scan s).failure = some e) : e = .reversedGroup ∧ p.program.regex.mayReverse = true :=
  scan_failure_eq_some (index_on_start s) hp h

end Pattern

end Highlighting
