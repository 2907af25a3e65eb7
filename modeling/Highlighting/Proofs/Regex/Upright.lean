import Highlighting.Proofs.Regex.Bounds
import Highlighting.Proofs.Regex.Parts

/-!
# The spans of groups

The start and the end of a group are marked apart, so while an expression is attempted a group
may have a new start beside an old end. When the attempt is complete this is over, unless the
expression has a possessive repetition of something that captures or looks behind: a round that
such a repetition gives up can leave a start behind, or move the position back.

The invariant speaks of the groups that are open and of those that are not. Each open group starts
where it was opened, and every other group spans at least as many characters as a match of it has.
So a reference takes as many characters as was told when the pattern was read, and so does a match
of the whole expression. With sizes of nothing this says that no group ends before it starts.

Outside of a repetition a way that is given up is only cut back, so there the groups still to come
must have places behind the end of the row. The groups of an expression that was read from a pattern
are numbered in the order of their opening, which provides for that.

## Main definitions

* `Regex.mayReverse` -- the expression repeats possessively what it must not.
* `Upright` -- the invariant of the marks.
* `Rest.Spares` -- a rest leaves alone the marks of the row but for the ends of open groups.
* `Rest.Answers` -- what holds of a match of a rest from such marks.
-/
namespace Highlighting

/-- The expression repeats something possessively that captures or looks behind. -/
def Regex.mayReverse : Regex → Bool
  | seq r s => r.mayReverse || s.mayReverse
  | alt r s => r.mayReverse || s.mayReverse
  | capture _ r => r.mayReverse
  | conditional _ r s => r.mayReverse || s.mayReverse
  | ahead _ r => r.mayReverse
  | behind _ _ r => r.mayReverse
  | atomic r => r.mayReverse
  | loop .possessive _ _ r => !r.groups.isEmpty || r.looksBehind
  | loop _ _ _ r => r.mayReverse
  | _ => false

theorem Regex.mayReverse_eq_false {r : Regex} (hgroups : r.groups = [])
    (hbehind : r.looksBehind = false) : r.mayReverse = false := by
  have both {r s : Regex}
      (ihr : r.groups = [] → r.looksBehind = false → r.mayReverse = false)
      (ihs : s.groups = [] → s.looksBehind = false → s.mayReverse = false)
      (hgroups : r.groups ++ s.groups = [])
      (hbehind : (r.looksBehind || s.looksBehind) = false) :
      (r.mayReverse || s.mayReverse) = false := by
    rw [List.append_eq_nil_iff] at hgroups
    rw [Bool.or_eq_false_iff] at hbehind ⊢
    exact ⟨ihr hgroups.1 hbehind.1, ihs hgroups.2 hbehind.2⟩
  induction r with
  | seq r s ihr ihs => exact both ihr ihs hgroups hbehind
  | alt r s ihr ihs => exact both ihr ihs hgroups hbehind
  | conditional n r s ihr ihs => exact both ihr ihs hgroups hbehind
  | capture n r ih => cases hgroups
  | ahead negated r ih => exact ih hgroups hbehind
  | behind negated w r ih => cases hbehind
  | atomic r ih => exact ih hgroups hbehind
  | loop greed least most r ih =>
    replace hgroups : r.groups = [] := hgroups
    replace hbehind : r.looksBehind = false := hbehind
    cases greed with
    | possessive => simp [mayReverse, hgroups, hbehind]
    | _ => exact ih hgroups hbehind
  | _ => rfl

/-- No group ends before it has as many characters as it needs, those set aside and those open
apart, and the open groups start where they were begun. -/
structure Upright (w : Nat → Width) (begun : Nat → Nat) (aside opened : List Nat) (m : Marks) :
    Prop where
  closed : ∀ g, 0 < g → g ∉ aside → g ∉ opened → ∀ a b, m.start? g = some a →
    m.stop? g = some b → a + (w g).min ≤ b
  started : ∀ g ∈ opened, 0 < g ∧ m.start? g = some (begun g)

/-- A place that no way through the rest of an expression changes: it lies in the row and is
not the end of an open group. -/
def Settled (opened : List Nat) (m : Marks) (i : Nat) : Prop :=
  i < m.row.length ∧ ∀ g ∈ opened, i ≠ 2 * (g - 1) + 1

namespace Upright
variable {w : Nat → Width} {begun : Nat → Nat} {aside opened : List Nat} {m m' : Marks}

/-- Marks that agree with upright ones but for the ends of open groups. -/
theorem congr (h : Upright w begun aside opened m)
    (hm : ∀ i, (∀ g ∈ opened, i ≠ 2 * (g - 1) + 1) → m'.at? i = m.at? i) :
    Upright w begun aside opened m' := by
  have hstart (g : Nat) : m'.start? g = m.start? g := hm _ fun g' _ => by omega
  constructor
  · intro g hg0 hga hgo
    have hstop : m'.stop? g = m.stop? g := by
      refine hm _ fun g' hg' heq => hgo ?_
      have := (h.started g' hg').1
      have : g = g' := by omega
      rwa [this]
    rw [hstart g, hstop]
    exact h.closed g hg0 hga hgo
  · intro g hg
    rw [hstart g]
    exact h.started g hg

/-- A way that is given up leaves marks upright, if it changed no settled place, or if the marks
are put back. -/
theorem restored (h : Upright w begun aside opened m) {re : Bool} {T : Nat → Prop}
    (hT : re = false → Marks.AgreeOff T m m')
    (hsettled : re = false → ∀ i, Settled opened m i → ¬ T i) :
    Upright w begun aside opened (m.restored re m') := by
  cases re with
  | true => exact h
  | false =>
    refine h.congr fun i hi => ?_
    simp only [Marks.restored, Bool.false_eq_true, if_false]
    rw [Marks.at?_take]
    split
    · next hlt => exact hT rfl i (hsettled rfl i ⟨hlt, hi⟩)
    · next hlt => exact (Marks.at?_eq_none_of_le (Nat.le_of_not_lt hlt)).symm

/-- Opening a group. -/
theorem open_ (h : Upright w begun aside opened m) {n : Nat} (hn : 0 < n) (hopened : n ∉ opened)
    (pos : Nat) :
    Upright w (fun g => if g = n then pos else begun g) aside (n :: opened) (m.opened n pos) := by
  constructor
  · intro g hg0 hga hgo
    simp only [List.mem_cons, not_or] at hgo
    rw [Marks.start?_opened _ _ hn hg0, if_neg hgo.1, Marks.stop?_opened]
    exact h.closed g hg0 hga hgo.2
  · intro g hg
    by_cases hgn : g = n
    · subst hgn
      rw [Marks.start?_opened _ _ hn hn]
      simpa using hn
    · obtain ⟨hg0, hbegun⟩ := h.started g ((List.mem_cons.mp hg).resolve_left hgn)
      rw [Marks.start?_opened _ _ hn hg0, if_neg hgn, if_neg hgn]
      exact ⟨hg0, hbegun⟩

/-- Closing a group behind as many characters as it needs. -/
theorem close {n first pos : Nat}
    (h : Upright w (fun g => if g = n then first else begun g) aside (n :: opened) m)
    (hopened : n ∉ opened) (hpos : first + (w n).min ≤ pos) :
    Upright w begun aside opened (m.closed n pos) := by
  obtain ⟨hn, hbegun⟩ := h.started n List.mem_cons_self
  rw [if_pos rfl] at hbegun
  constructor
  · intro g hg0 hga hgo a b ha hb
    rw [Marks.start?_closed] at ha
    rw [Marks.stop?_closed _ _ hn hg0] at hb
    by_cases hgn : g = n
    · subst hgn
      rw [hbegun] at ha
      rw [if_pos rfl] at hb
      cases ha
      cases hb
      exact hpos
    · rw [if_neg hgn] at hb
      exact h.closed g hg0 hga (by simp [hgn, hgo]) a b ha hb
  · intro g hg
    obtain ⟨hg0, hstart⟩ := h.started g (List.mem_cons_of_mem _ hg)
    have hgn : g ≠ n := by
      rintro rfl
      exact hopened hg
    rw [if_neg hgn] at hstart
    exact ⟨hg0, by rw [Marks.start?_closed, hstart]⟩

/-- Setting the open groups aside. -/
theorem setAside (h : Upright w begun aside opened m) : Upright w begun (aside ++ opened) [] m where
  closed g hg0 hga _ := by
    simp only [List.mem_append, not_or] at hga
    exact h.closed g hg0 hga.1 hga.2
  started g hg := absurd hg List.not_mem_nil

/-- Taking up the open groups again, after something that does not change their starts. -/
theorem takeUp (h : Upright w begun aside opened m) (hm : Upright w begun (aside ++ opened) [] m')
    (hstart : ∀ g ∈ opened, m'.start? g = m.start? g) : Upright w begun aside opened m' where
  closed g hg0 hga hgo := hm.closed g hg0 (by simp [hga, hgo]) List.not_mem_nil
  started g hg := ⟨(h.started g hg).1, (hstart g hg).trans (h.started g hg).2⟩

end Upright

/-- Outside of a repetition the rest changes no place below `length` but the ends of open
groups. -/
def Rest.Spares (re : Bool) (opened : List Nat) (length : Nat) (k : Rest) : Prop :=
  re = false → ∃ T : Nat → Prop, Rest.Touches T k ∧
    ∀ i, T i → length ≤ i ∨ ∃ g ∈ opened, i = 2 * (g - 1) + 1

/-- From every state with upright marks and a row that is not too long, at a position that is not
before `first`, a match of the rest satisfies `Q`. -/
def Rest.Answers (w : Nat → Width) (begun : Nat → Nat) (aside opened : List Nat)
    (length first : Nat) (Q : MatchState → Prop) (k : Rest) : Prop :=
  ∀ u : MatchState, Upright w begun aside opened u.marks → u.marks.row.length ≤ length →
    first ≤ u.pos → ∀ t, k u = .matched t → Q t

namespace Rest
variable {w : Nat → Width} {begun : Nat → Nat} {aside opened : List Nat} {length first : Nat}
  {Q : MatchState → Prop} {k : Rest} {re : Bool}

/-- A later position is not before an earlier one. -/
theorem Answers.mono (hk : k.Answers w begun aside opened length first Q) {first' : Nat}
    (h : first ≤ first') : k.Answers w begun aside opened length first' Q :=
  fun u hu hlen hpos => hk u hu hlen (Nat.le_trans h hpos)

/-- What the rest leaves behind where it fails is restored to upright marks. -/
theorem Spares.restored (hk : k.Spares re opened length) {u : MatchState}
    (h : Upright w begun aside opened u.marks) (hlen : u.marks.row.length ≤ length)
    {n : Nat} {m : Marks} (hf : k u = .failed n m) :
    Upright w begun aside opened (u.marks.restored re m) := by
  cases re with
  | true => exact h
  | false =>
    obtain ⟨T, hT, hplaces⟩ := hk rfl
    refine h.restored (T := T) (fun _ => ?_) fun _ i hi hTi => ?_
    · have := hT u
      rw [hf] at this
      exact this
    · rcases hplaces i hTi with hle | ⟨g, hg, hgi⟩
      · exact absurd hi.1 (by omega)
      · exact hi.2 g hg hgi

/-- A rest that closes a group first spares what the rest after it spares, and the end of the
group besides. -/
theorem Spares.closing (hk : k.Spares re opened length) (n : Nat) :
    Rest.Spares re (n :: opened) length fun u => k { u with marks := u.marks.closed n u.pos } := by
  intro hre
  obtain ⟨T, hT, hplaces⟩ := hk hre
  have hT' : Rest.Touches (fun i => T i ∨ i = 2 * (n - 1) + 1) k := hT.mono fun i hi => .inl hi
  refine ⟨fun i => T i ∨ i = 2 * (n - 1) + 1, fun u => ?_, ?_⟩
  · exact hT'.keeps (hT'.reaches (Marks.AgreeOff.closed u.marks u.pos (.inr rfl)))
  · rintro i (hi | rfl)
    · rcases hplaces i hi with hle | ⟨g, hg, hgi⟩
      · exact .inl hle
      · exact .inr ⟨g, List.mem_cons_of_mem _ hg, hgi⟩
    · exact .inr ⟨n, List.mem_cons_self, rfl⟩

/-- It answers behind as many characters of the group as the group needs. -/
theorem Answers.closing (hk : k.Answers w begun aside opened length first Q) {n start : Nat}
    (hn : 0 < n) (hopened : n ∉ opened) (hroom : 2 * n ≤ length)
    (hstart : start + (w n).min ≤ first) :
    Rest.Answers w (fun g => if g = n then start else begun g) aside (n :: opened) length first Q
      fun u => k { u with marks := u.marks.closed n u.pos } := by
  intro u hu hlen hpos t ht
  refine hk { u with marks := u.marks.closed n u.pos }
    (hu.close hopened (Nat.le_trans hstart hpos)) ?_ hpos t ht
  simp only [Marks.closed, Marks.length_mark]
  omega

end Rest

namespace Regex

section Pieces
variable {w : Nat → Width} {begun : Nat → Nat} {aside opened : List Nat} {length first : Nat}
  {Q : MatchState → Prop} {k : Rest} {s : Subject} {re : Bool} {next : Option CharTest}
  {st t : MatchState}

theorem attemptAt_answers (hk : k.Answers w begun aside opened length first Q) {pos : Nat}
    (h : Upright w begun aside opened st.marks) (hlen : st.marks.row.length ≤ length)
    (hpos : first ≤ pos) (ht : attemptAt s re next k pos st = .matched t) : Q t := by
  unfold attemptAt at ht
  split at ht
  · cases ht
  · rcases Attempt.orElse_eq_matched_iff.mp ht with ht | ⟨n, m, _, ht⟩
    · exact hk (st.at_ pos) h hlen hpos t ht
    · cases ht

/-- A failed attempt leaves marks that are upright. -/
theorem upright_of_attemptAt_failed (hk : k.Spares re opened length) {pos n : Nat} {m : Marks}
    (h : Upright w begun aside opened st.marks) (hlen : st.marks.row.length ≤ length)
    (hf : attemptAt s re next k pos st = .failed n m) :
    Upright w begun aside opened m ∧ m.row.length ≤ length := by
  unfold attemptAt at hf
  split at hf
  · cases hf
    exact ⟨h, hlen⟩
  · generalize hks : k (st.at_ pos) = a at hf
    cases a with
    | matched u => cases hf
    | failed n' m' =>
      cases hf
      exact ⟨hk.restored (u := st.at_ pos) h hlen hks,
        Nat.le_trans (Marks.length_restored_le re st.marks m') hlen⟩

theorem giveBack_answers (hspares : k.Spares re opened length)
    (hk : k.Answers w begun aside opened length first Q) (extra : Nat)
    (h : Upright w begun aside opened st.marks) (hlen : st.marks.row.length ≤ length)
    (ht : giveBack s re next k first extra st = .matched t) : Q t := by
  induction extra generalizing st with
  | zero => exact attemptAt_answers hk h hlen (Nat.le_refl _) ht
  | succ extra ih =>
    rcases Attempt.orElse_eq_matched_iff.mp ht with ht | ⟨n, m, hf, ht⟩
    · exact attemptAt_answers hk h hlen (by omega) ht
    · obtain ⟨h', hlen'⟩ := upright_of_attemptAt_failed hspares h hlen hf
      exact ih h' hlen' ht

theorem takeMore_answers (hspares : k.Spares re opened length)
    (hk : k.Answers w begun aside opened length first Q) (c : CharTest) (extra : Nat)
    (h : Upright w begun aside opened st.marks) (hlen : st.marks.row.length ≤ length)
    (hpos : first ≤ st.pos) (ht : takeMore s re k c extra st = .matched t) : Q t := by
  induction extra generalizing st with
  | zero =>
    rw [takeMore_eq] at ht
    rcases Attempt.orElse_eq_matched_iff.mp ht with ht | ⟨n, m, hf, ht⟩
    · exact attemptAt_answers hk h hlen hpos ht
    · split at ht <;> cases ht
  | succ extra ih =>
    rw [takeMore_eq] at ht
    rcases Attempt.orElse_eq_matched_iff.mp ht with ht | ⟨n, m, hf, ht⟩
    · exact attemptAt_answers hk h hlen hpos ht
    · obtain ⟨h', hlen'⟩ := upright_of_attemptAt_failed hspares h hlen hf
      split at ht
      · exact ih h' hlen' (Nat.le_succ_of_le hpos) ht
      · cases ht

theorem runChars_answers (hspares : k.Spares re opened length) (c : CharTest) (greed : Greed)
    (least : Nat) (most : Option Nat)
    (hk : k.Answers w begun aside opened length (st.pos + least) Q)
    (h : Upright w begun aside opened st.marks) (hlen : st.marks.row.length ≤ length)
    (ht : runChars s re next k c greed least most st = .matched t) : Q t := by
  unfold runChars at ht
  split at ht
  · cases ht
  · cases greed with
    | greedy =>
      dsimp only at ht
      split at ht
      · cases ht
      · exact giveBack_answers hspares hk _ (by exact h) (by exact hlen) ht
    | lazily =>
      dsimp only at ht
      split at ht
      · cases ht
      · exact takeMore_answers hspares hk _ _ (by exact h) (by exact hlen) (by exact Nat.le_refl _) ht
    | possessive =>
      dsimp only at ht
      split at ht
      · cases ht
      · next hleast =>
        exact hk ⟨st.pos + c.countUpTo s most st.pos, c.notedAfter st.pos _, st.marks⟩ h hlen
          (Nat.add_le_add_left (Nat.le_of_not_lt hleast) _) t ht

variable {body : Rest → Rest} {size : Nat}

/-- Rounds of something that takes at least `size` characters. -/
theorem runGreedy_answers
    (hbody : ∀ (k : Rest) (first : Nat), k.Answers w begun aside opened length (first + size) Q →
      (body k).Answers w begun aside opened length first Q)
    (fuel least : Nat) (most last : Option Nat)
    (hk : k.Answers w begun aside opened length (first + size * least) Q) :
    Rest.Answers w begun aside opened length first Q (runGreedy body k fuel least most last) := by
  induction fuel generalizing least most last first with
  | zero =>
    intro u _ _ _ t ht
    cases ht
  | succ fuel ih =>
    intro u hu hlen hpos t ht
    cases least with
    | zero =>
      have leave (ht : (k u.note).orElse (fun _ marks => .failed u.pos marks) = .matched t) :
          Q t := by
        rcases Attempt.orElse_eq_matched_iff.mp ht with ht | ⟨n, m, _, ht⟩
        · exact hk u.note hu hlen hpos t ht
        · cases ht
      unfold runGreedy at ht
      dsimp only at ht
      split at ht
      · rcases Attempt.orElse_eq_matched_iff.mp ht with ht | ⟨n, m, _, ht⟩
        · exact hbody _ first (ih _ _ _ (hk.mono (by omega))) u.note hu hlen hpos t ht
        · exact leave ht
      · exact leave ht
    | succ least =>
      rcases Attempt.orElse_eq_matched_iff.mp ht with ht | ⟨n, m, _, ht⟩
      · refine hbody _ first (ih _ _ _ (hk.mono ?_)) u.note hu hlen hpos t ht
        rw [Nat.mul_succ]
        omega
      · cases ht

theorem runLazy_answers (hspares : k.Spares re opened length)
    (hbody : ∀ (k : Rest) (first : Nat), k.Answers w begun aside opened length (first + size) Q →
      (body k).Answers w begun aside opened length first Q)
    (fuel least : Nat) (most last : Option Nat)
    (hk : k.Answers w begun aside opened length (first + size * least) Q) :
    Rest.Answers w begun aside opened length first Q (runLazy re body k fuel least most last) := by
  induction fuel generalizing least most last first with
  | zero =>
    intro u _ _ _ t ht
    cases ht
  | succ fuel ih =>
    intro u hu hlen hpos t ht
    cases least with
    | zero =>
      unfold runLazy at ht
      rcases Attempt.orElse_eq_matched_iff.mp ht with ht | ⟨n, m, hf, ht⟩
      · exact hk u.note hu hlen hpos t ht
      · have hback := hspares.restored (u := u.note) hu hlen hf
        have hlen' := Nat.le_trans (Marks.length_restored_le re u.marks m) hlen
        dsimp only at ht
        split at ht
        · rcases Attempt.orElse_eq_matched_iff.mp ht with ht | ⟨n, m', _, ht⟩
          · exact hbody _ first (ih _ _ _ (hk.mono (by omega)))
              ⟨u.pos, u.pos, u.marks.restored re m⟩ hback hlen' hpos t ht
          · cases ht
        · cases ht
    | succ least =>
      have ht : (body (runLazy re body k fuel least (most.map (· - 1)) last) u.note).orElse
          (fun _ marks => .failed u.pos marks) = .matched t := ht
      rcases Attempt.orElse_eq_matched_iff.mp ht with ht | ⟨n, m, _, ht⟩
      · refine hbody _ first (ih _ _ _ (hk.mono ?_)) u.note hu hlen hpos t ht
        rw [Nat.mul_succ]
        omega
      · cases ht

/-- What holds where something ends that is attempted for itself. -/
def Ends (w : Nat → Width) (begun : Nat → Nat) (aside opened : List Nat) (length first : Nat)
    (t : MatchState) : Prop :=
  Upright w begun aside opened t.marks ∧ t.marks.row.length ≤ length ∧ first ≤ t.pos

/-- Where the position was noted before is forgotten in the first round. -/
theorem runOn_note (body : Rest) (fuel : Nat) (most last : Option Nat) (st : MatchState) :
    (runOn body fuel most last st.note).pos = (runOn body fuel most last st).pos ∧
      (runOn body fuel most last st.note).marks = (runOn body fuel most last st).marks := by
  cases fuel with
  | zero => exact ⟨rfl, rfl⟩
  | succ fuel =>
    have hsame : st.note.note = st.note := rfl
    unfold runOn
    rw [hsame]
    by_cases hmore : mayRepeat most last st.pos = true
    · rw [if_pos hmore, if_pos (show mayRepeat most last st.note.pos = true from hmore)]
      cases body st.note <;> exact ⟨rfl, rfl⟩
    · rw [if_neg hmore, if_neg (show ¬ mayRepeat most last st.note.pos = true from hmore)]
      exact ⟨rfl, rfl⟩

theorem runTimes_answers {body : Rest}
    (hbody : ∀ first, body.Answers w begun aside opened length first
      (Ends w begun aside opened length (first + size))) (n first : Nat) :
    Rest.Answers w begun aside opened length first
      (Ends w begun aside opened length (first + size * n)) (runTimes body n) := by
  induction n generalizing first with
  | zero =>
    intro u hu hlen hpos t ht
    cases ht
    exact ⟨hu, hlen, hpos⟩
  | succ n ih =>
    intro u hu hlen hpos t ht
    unfold runTimes at ht
    split at ht
    · next v hv =>
      obtain ⟨hv', hlen', hpos'⟩ := hbody first u.note hu hlen hpos v hv
      obtain ⟨ht', hlen'', hpos''⟩ := ih (first + size) v hv' hlen' hpos' t ht
      refine ⟨ht', hlen'', ?_⟩
      rw [Nat.mul_succ]
      omega
    · cases ht

end Pieces

/-- The groups of an expression may come next: they are numbered in the order of their opening,
none is open or set aside, the row has room for them, and outside of a repetition their places
lie behind its end. -/
structure Ahead (re : Bool) (aside opened : List Nat) (length : Nat) (gs : List Nat) (m : Marks) :
    Prop where
  ascending : gs.Pairwise (· < ·)
  positive : ∀ g ∈ gs, 0 < g
  not_mem_aside : ∀ g ∈ gs, g ∉ aside
  not_mem_opened : ∀ g ∈ gs, g ∉ opened
  room : ∀ g ∈ gs, 2 * g ≤ length
  behind : re = false → ∀ g ∈ gs, m.row.length ≤ 2 * (g - 1)
  length_le : m.row.length ≤ length

theorem reach_le {gs : List Nat} {length l : Nat} (hlen : length ≤ l)
    (hgs : ∀ g ∈ gs, 2 * g ≤ l) : reach gs length ≤ l := by
  induction gs with
  | nil => exact hlen
  | cons g gs ih =>
    exact Nat.max_le.mpr ⟨hgs g List.mem_cons_self, ih fun g hg => hgs g (.tail _ hg)⟩

namespace Ahead
variable {re : Bool} {aside opened gs hs : List Nat} {length : Nat} {m m' : Marks}

theorem nil (hlen : m.row.length ≤ length) : Ahead re aside opened length [] m :=
  ⟨.nil, by simp, by simp, by simp, by simp, by simp, hlen⟩

/-- The marks of such groups are not settled. -/
theorem not_settled (h : Ahead re aside opened length gs m) (hre : re = false) {i : Nat}
    (hi : Settled opened m i) : ¬ Marking gs i := by
  rintro ⟨g, hg, hgi⟩
  have := h.behind hre g hg
  have := hi.1
  omega

/-- Some of the groups, with a row that is not longer. -/
theorem sublist (h : Ahead re aside opened length gs m) (hsub : hs.Sublist gs)
    (hm : m'.row.length ≤ m.row.length) : Ahead re aside opened length hs m' where
  ascending := h.ascending.sublist hsub
  positive g hg := h.positive g (hsub.subset hg)
  not_mem_aside g hg := h.not_mem_aside g (hsub.subset hg)
  not_mem_opened g hg := h.not_mem_opened g (hsub.subset hg)
  room g hg := h.room g (hsub.subset hg)
  behind hre g hg := Nat.le_trans hm (h.behind hre g (hsub.subset hg))
  length_le := Nat.le_trans hm h.length_le

/-- Inside of a repetition it does not matter which marks are set. -/
theorem repeating (h : Ahead re aside opened length gs m) (hm : m'.row.length ≤ length) :
    Ahead true aside opened length gs m' :=
  { h with behind := fun hre => (by cases hre), length_le := hm }

/-- The groups of an expression that is attempted for itself, with the open groups set aside. -/
theorem setAside (h : Ahead re aside opened length gs m) :
    Ahead re (aside ++ opened) [] length gs m where
  ascending := h.ascending
  positive := h.positive
  not_mem_aside g hg := by simp [h.not_mem_aside g hg, h.not_mem_opened g hg]
  not_mem_opened _ _ := List.not_mem_nil
  room := h.room
  behind := h.behind
  length_le := h.length_le

/-- When the second of two expressions begins, the row reaches no further than the groups of the
first, so it does not reach those of the second. -/
theorem reach_le_second (h : Ahead re aside opened length (gs ++ hs) m) (hre : re = false)
    {g : Nat} (hg : g ∈ hs) : reach gs m.row.length ≤ 2 * (g - 1) := by
  refine reach_le (h.behind hre g (List.mem_append_right _ hg)) fun g' hg' => ?_
  have := (List.pairwise_append.mp h.ascending).2.2 g' hg' g hg
  omega

theorem second (h : Ahead re aside opened length (gs ++ hs) m)
    (hm : m'.row.length ≤ reach gs m.row.length) : Ahead re aside opened length hs m' where
  ascending := (List.pairwise_append.mp h.ascending).2.1
  positive g hg := h.positive g (List.mem_append_right _ hg)
  not_mem_aside g hg := h.not_mem_aside g (List.mem_append_right _ hg)
  not_mem_opened g hg := h.not_mem_opened g (List.mem_append_right _ hg)
  room g hg := h.room g (List.mem_append_right _ hg)
  behind hre _ hg := Nat.le_trans hm (h.reach_le_second hre hg)
  length_le := Nat.le_trans hm
    (reach_le h.length_le fun g hg => h.room g (List.mem_append_left _ hg))

/-- The first of two expressions has room up to where the row then reaches. -/
theorem first (h : Ahead re aside opened length (gs ++ hs) m) :
    Ahead re aside opened (reach gs m.row.length) gs m :=
  { h.sublist (List.sublist_append_left gs hs) (Nat.le_refl _) with
    room := fun _ hg => two_mul_le_reach _ hg
    length_le := le_reach _ _ }

/-- The inside of a group, once it is opened. -/
theorem inside {n : Nat} (h : Ahead re aside opened length (n :: gs) m) (pos : Nat) :
    Ahead re aside (n :: opened) length gs (m.opened n pos) := by
  have hn := h.positive n List.mem_cons_self
  have hroom := h.room n List.mem_cons_self
  have hlater : ∀ g ∈ gs, n < g := (List.pairwise_cons.mp h.ascending).1
  constructor
  · exact (List.pairwise_cons.mp h.ascending).2
  · exact fun g hg => h.positive g (List.mem_cons_of_mem _ hg)
  · exact fun g hg => h.not_mem_aside g (List.mem_cons_of_mem _ hg)
  · intro g hg
    have := hlater g hg
    have := h.not_mem_opened g (List.mem_cons_of_mem _ hg)
    simp only [List.mem_cons, not_or]
    exact ⟨by omega, this⟩
  · exact fun g hg => h.room g (List.mem_cons_of_mem _ hg)
  · intro hre g hg
    have := hlater g hg
    have := h.behind hre g (List.mem_cons_of_mem _ hg)
    simp only [Marks.opened, Marks.length_mark]
    omega
  · have := h.length_le
    simp only [Marks.opened, Marks.length_mark]
    omega

/-- The starts of the open groups are not changed by an expression that is attempted for
itself. -/
theorem start?_eq_of_keeps {w : Nat → Width} {begun : Nat → Nat}
    (h : Ahead re aside opened length gs m) (hm : Upright w begun aside opened m)
    (hkeeps : Marks.AgreeOff (Marking gs) m m') : ∀ g ∈ opened, m'.start? g = m.start? g := by
  intro g hg
  refine hkeeps _ ?_
  rintro ⟨g', hg', hgg⟩
  have := h.positive g' hg'
  have := (hm.started g hg).1
  have hne : g' ≠ g := by
    rintro rfl
    exact h.not_mem_opened g' hg' hg
  omega

end Ahead

/-- The rest of an expression spares what the rest after it spares, but for the groups of the
expression. -/
theorem exists_touches_run (s : Subject) (r : Regex) (next : Option CharTest) {k : Rest}
    {opened : List Nat} {length : Nat} (hspares : k.Spares false opened length) :
    ∃ T : Nat → Prop, Rest.Touches T (r.run s false next k) ∧
      ∀ i, T i → Marking r.groups i ∨ length ≤ i ∨ ∃ g ∈ opened, i = 2 * (g - 1) + 1 := by
  obtain ⟨T, hT, hplaces⟩ := hspares rfl
  have hk : Rest.Touches (fun i => Marking r.groups i ∨ T i) k := hT.mono fun i hi => .inr hi
  refine ⟨_, fun u => hk.keeps (run_reaches s r false next (fun i hi => .inl hi) hk u), ?_⟩
  rintro i (hi | hi)
  · exact .inl hi
  · exact .inr (hplaces i hi)

variable {w : Nat → Width} {begun : Nat → Nat} {aside opened : List Nat} {length : Nat}

/-- A way through an expression and the rest that is given up leaves upright marks. -/
theorem upright_of_run_failed {s : Subject} {r : Regex} {re : Bool} {next : Option CharTest}
    {k : Rest} {u : MatchState} (hahead : Ahead re aside opened length r.groups u.marks)
    (hu : Upright w begun aside opened u.marks) (hspares : k.Spares re opened length) {n : Nat}
    {m : Marks} (hf : r.run s re next k u = .failed n m) :
    Upright w begun aside opened (u.marks.restored re m) := by
  cases re with
  | true => exact hu
  | false =>
    obtain ⟨T, hT, hplaces⟩ := exists_touches_run s r next hspares
    refine hu.restored (T := T) (fun _ => ?_) fun _ i hi hTi => ?_
    · have := hT u
      rw [hf] at this
      exact this
    · rcases hplaces i hTi with h | hle | ⟨g, hg, hgi⟩
      · exact hahead.not_settled rfl hi h
      · have := hahead.length_le
        exact absurd hi.1 (by omega)
      · exact hi.2 g hg hgi

theorem answers_complete (w : Nat → Width) (begun : Nat → Nat) (aside opened : List Nat)
    (length first : Nat) :
    Rest.Answers w begun aside opened length first (Ends w begun aside opened length first)
      MatchState.complete := by
  intro u hu hlen hpos t ht
  cases ht
  exact ⟨hu, hlen, hpos⟩

theorem spares_complete (re : Bool) (opened : List Nat) (length : Nat) :
    Rest.Spares re opened length MatchState.complete :=
  fun _ => ⟨fun _ => False, Rest.Touches.complete _, fun _ h => h.elim⟩

section Ways
variable {s : Subject} {r : Regex} {re : Bool} {next : Option CharTest} {k : Rest}
  {Q : MatchState → Prop} {st t : MatchState}

/-- When the second of two expressions begins, the row does not reach the groups of it. -/
theorem spares_second {r₁ r₂ : Regex} {m : Marks}
    (hahead : Ahead re aside opened length (r₁.groups ++ r₂.groups) m)
    (hspares : k.Spares re opened length) :
    Rest.Spares re opened (reach r₁.groups m.row.length) (r₂.run s re next k) := by
  rintro rfl
  obtain ⟨T, hT, hplaces⟩ := exists_touches_run s r₂ next hspares
  refine ⟨T, hT, fun i hi => ?_⟩
  rcases hplaces i hi with ⟨g, hg, hgi⟩ | hle | h
  · have := hahead.reach_le_second rfl hg
    exact .inl (by omega)
  · exact .inl (Nat.le_trans (reach_le hahead.length_le fun g hg =>
      hahead.room g (List.mem_append_left _ hg)) hle)
  · exact .inr h

/-- A look-around is attempted for itself, from the marks at which it stands. -/
theorem goOn_answers (negated : Bool) (hahead : Ahead re aside opened length r.groups st.marks)
    (hst : Upright w begun aside opened st.marks)
    (hk : k.Answers w begun aside opened length st.pos Q) {u : MatchState} (hu : u.marks = st.marks)
    (hbody : ∀ v, r.run s re none MatchState.complete u = .matched v →
      ∃ first, Ends w begun (aside ++ opened) [] length first v)
    (ht : goOn re negated k st (r.run s re none MatchState.complete u) = .matched t) : Q t := by
  have hkeeps := run_complete_keeps s r re none u
  cases hround : r.run s re none MatchState.complete u with
  | matched v =>
    rw [hround] at ht hkeeps
    cases negated with
    | false =>
      obtain ⟨_, hv, hlen, -⟩ := hbody v hround
      exact hk { v with pos := st.pos }
        (hst.takeUp hv (hahead.start?_eq_of_keeps hst (hu ▸ hkeeps))) hlen (Nat.le_refl _) t ht
    | true => cases ht
  | failed n m =>
    rw [hround] at ht
    cases negated with
    | false => cases ht
    | true =>
      have hback := upright_of_run_failed (u := u) (hu ▸ hahead) (hu ▸ hst)
        (spares_complete _ _ _) hround
      exact hk ⟨st.pos, n, st.marks.restored re m⟩ (hu ▸ hback)
        (Nat.le_trans (Marks.length_restored_le re st.marks m) hahead.length_le) (Nat.le_refl _) t ht

/-- Rounds of something without groups and look-behinds keep the marks and do not go back. -/
theorem runPossessive_answers (hgroups : r.groups = []) (hbehind : r.looksBehind = false)
    {least : Nat} {most : Option Nat}
    (hbody : ∀ first, Rest.Answers w begun aside opened length first
      (Ends w begun aside opened length (first + (r.width w).min))
      (r.run s re none MatchState.complete))
    (hk : k.Answers w begun aside opened length (st.pos + (r.width w).min * least) Q)
    (hst : Upright w begun aside opened st.marks) (hlen : st.marks.row.length ≤ length)
    (fuel : Nat)
    (ht : runPossessive (r.run s re none MatchState.complete) k fuel least most st = .matched t) :
    Q t := by
  have hkeeps := run_complete_keeps s r re none
  generalize hround : r.run s re none MatchState.complete = body at *
  unfold runPossessive at ht
  split at ht
  · next u heq =>
    obtain ⟨hu, hlen, hpos⟩ := runTimes_answers hbody least st.pos st.note hst hlen
      (Nat.le_refl _) u heq
    have hwithin : Rest.StaysWithin u.pos (max s.size u.pos) length body :=
      hround ▸ run_within s r (Nat.le_max_left s.size u.pos) re none
        (fun i hi => by simp [hgroups, Marking] at hi) (fun h => by simp [hbehind] at h)
        (Rest.StaysWithin.complete u.pos _ _)
    have hw : (runOn body fuel (most.map (· - least)) none u.note).Within u.pos
        (max s.size u.pos) length := runOn_within hwithin _ _ _
      ⟨Nat.le_refl _, Nat.le_max_right _ _, Nat.le_refl _, Nat.le_max_right _ _, hlen⟩
    obtain ⟨hnote, hnote'⟩ := runOn_note body fuel (most.map (· - least)) none u
    have hagree := runOn_agreeOff hkeeps fuel (most.map (· - least)) none u
    refine hk _ (hu.congr fun i _ => hagree i (by simp [Marking, hgroups])) ?_ ?_ t ht
    · exact hnote' ▸ hw.length_le
    · exact hnote ▸ Nat.le_trans hpos hw.first_le
  · cases ht

end Ways

/-- **The rest is attempted from upright marks, and behind as many characters as the expression
needs**, unless something that captures or looks behind is repeated possessively. -/
theorem run_answers (s : Subject) (r : Regex) {re : Bool} {next : Option CharTest} {k : Rest}
    {Q : MatchState → Prop} {st : MatchState} (hr : r.mayReverse = false) (hsized : r.Sized w)
    (hrefs : ∀ g ∈ r.backrefs, 0 < (w g).min → g ∉ aside ∧ g ∉ opened)
    (hahead : Ahead re aside opened length r.groups st.marks)
    (hst : Upright w begun aside opened st.marks) (hspares : k.Spares re opened length)
    (hk : k.Answers w begun aside opened length (st.pos + (r.width w).min) Q) {t : MatchState}
    (ht : r.run s re next k st = .matched t) : Q t := by
  induction r generalizing re next k begun aside opened length Q st t with
  | empty => exact hk st hst hahead.length_le (Nat.le_refl _) t ht
  | never => cases ht
  | char c =>
    simp only [run] at ht
    split at ht
    · exact hk { st with pos := st.pos + 1 } hst hahead.length_le (Nat.le_refl _) t ht
    · cases ht
  | anchor a =>
    simp only [run] at ht
    split at ht
    · exact hk st hst hahead.length_le (Nat.le_refl _) t ht
    · cases ht
  | seq r₁ r₂ ih₁ ih₂ =>
    simp only [mayReverse, Bool.or_eq_false_iff] at hr
    have hrefs₁ := fun g hg => hrefs g (List.mem_append_left _ hg)
    have hrefs₂ := fun g hg => hrefs g (List.mem_append_right _ hg)
    refine ih₁ hr.1 hsized.1 hrefs₁ hahead.first hst (spares_second hahead hspares) ?_ ht
    intro u hu hlen hpos t ht
    refine ih₂ hr.2 hsized.2 hrefs₂ (hahead.second hlen) hu hspares (hk.mono ?_) ht
    simp only [width, Width.add]
    omega
  | alt r₁ r₂ ih₁ ih₂ =>
    simp only [mayReverse, Bool.or_eq_false_iff] at hr
    simp only [run] at ht
    have hrefs₁ := fun g hg => hrefs g (List.mem_append_left _ hg)
    have hrefs₂ := fun g hg => hrefs g (List.mem_append_right _ hg)
    have hsub₁ := List.sublist_append_left r₁.groups r₂.groups
    have hsub₂ := List.sublist_append_right r₁.groups r₂.groups
    have hahead₁ := hahead.sublist hsub₁ (Nat.le_refl _)
    have hk₁ : k.Answers w begun aside opened length (st.pos + (r₁.width w).min) Q :=
      hk.mono (Nat.add_le_add_left (Nat.min_le_left _ _) _)
    have hk₂ : k.Answers w begun aside opened length (st.pos + (r₂.width w).min) Q :=
      hk.mono (Nat.add_le_add_left (Nat.min_le_right _ _) _)
    split at ht
    · exact ih₂ hr.2 hsized.2 hrefs₂ (hahead.sublist hsub₂ (Nat.le_refl _)) hst hspares hk₂ ht
    · rcases Attempt.orElse_eq_matched_iff.mp ht with ht | ⟨n, m, hf, ht⟩
      · exact ih₁ hr.1 hsized.1 hrefs₁ (by exact hahead₁) (by exact hst) hspares (by exact hk₁) ht
      · have hback := upright_of_run_failed (u := st.note) hahead₁ hst hspares hf
        exact ih₂ hr.2 hsized.2 hrefs₂
          (by exact hahead.sublist hsub₂ (Marks.length_restored_le re st.marks m)) (by exact hback)
          hspares (by exact hk₂) ht
  | capture n r ih =>
    have hn := hahead.positive n List.mem_cons_self
    have hopened := hahead.not_mem_opened n List.mem_cons_self
    have hroom := hahead.room n List.mem_cons_self
    have hsize := hsized.1.1
    simp only [run] at ht
    have hrefs' : ∀ g ∈ r.backrefs, 0 < (w g).min → g ∉ aside ∧ g ∉ n :: opened := by
      intro g hg hmin
      refine ⟨(hrefs g hg hmin).1, ?_⟩
      rw [List.mem_cons, not_or]
      refine ⟨?_, (hrefs g hg hmin).2⟩
      rintro rfl
      exact hsized.1.2 hmin hg
    refine ih hr hsized.2 hrefs' (hahead.inside st.pos) (hst.open_ hn hopened st.pos) ?_ ?_ ht
    · exact hspares.closing n
    · exact hk.closing hn hopened hroom (Nat.add_le_add_left hsize _)
  | backref f n =>
    simp only [run] at ht
    split at ht
    · next a b hspan =>
      split at ht
      · refine hk { st with pos := st.pos + (b - a) } hst hahead.length_le ?_ t ht
        obtain ⟨ha, hb, hle⟩ := Marks.span?_eq_some_iff.mp hspan
        change st.pos + (w n).min ≤ st.pos + (b - a)
        by_cases hmin : 0 < (w n).min
        · obtain ⟨haside, hopened⟩ := hrefs n List.mem_cons_self hmin
          have := hst.closed n (hsized hmin) haside hopened a b ha hb
          omega
        · omega
      · cases ht
    · cases ht
  | conditional n r₁ r₂ ih₁ ih₂ =>
    simp only [mayReverse, Bool.or_eq_false_iff] at hr
    simp only [run] at ht
    have hsub₁ := List.sublist_append_left r₁.groups r₂.groups
    have hsub₂ := List.sublist_append_right r₁.groups r₂.groups
    split at ht
    · exact ih₁ hr.1 hsized.1 (fun g hg => hrefs g (List.mem_append_left _ hg))
        (hahead.sublist hsub₁ (Nat.le_refl _)) hst hspares
        (hk.mono (Nat.add_le_add_left (Nat.min_le_left _ _) _)) ht
    · exact ih₂ hr.2 hsized.2 (fun g hg => hrefs g (List.mem_append_right _ hg))
        (hahead.sublist hsub₂ (Nat.le_refl _)) hst hspares
        (hk.mono (Nat.add_le_add_left (Nat.min_le_right _ _) _)) ht
  | ahead negated r ih =>
    have hrefs' : ∀ g ∈ r.backrefs, 0 < (w g).min → g ∉ aside ++ opened ∧ g ∉ [] :=
      fun g hg hmin => by simp [hrefs g hg hmin]
    rw [run_ahead] at ht
    refine goOn_answers (r := r) (u := st.note) negated hahead hst hk rfl (fun v hv => ?_) ht
    exact ⟨_, ih hr hsized hrefs' (by exact hahead.setAside) (by exact hst.setAside)
      (spares_complete _ _ _) (answers_complete _ _ _ _ _ _) hv⟩
  | behind negated width r ih =>
    have hrefs' : ∀ g ∈ r.backrefs, 0 < (w g).min → g ∉ aside ++ opened ∧ g ∉ [] :=
      fun g hg hmin => by simp [hrefs g hg hmin]
    rw [run_behind] at ht
    split at ht
    · split at ht
      · exact hk st hst hahead.length_le (Nat.le_refl _) t ht
      · cases ht
    · refine goOn_answers (r := r) (u := st.at_ (st.pos - width.least)) negated hahead hst hk rfl
        (fun v hv => ?_) ht
      exact ⟨_, ih hr hsized hrefs' (by exact hahead.setAside) (by exact hst.setAside)
        (spares_complete _ _ _) (answers_complete _ _ _ _ _ _) hv⟩
  | atomic r ih =>
    simp only [run] at ht
    split at ht
    · next u heq =>
      obtain ⟨hu, hlen, hpos⟩ := ih hr hsized hrefs (by exact hahead) (by exact hst)
        (spares_complete _ _ _) (answers_complete _ _ _ _ _ _) heq
      exact hk u hu hlen hpos t ht
    · cases ht
  | loop greed least most r ih =>
    have hwidth : ((loop greed least most r).width w).min = (r.width w).min * least := rfl
    have hbody (hr : r.mayReverse = false) (k : Rest) (first : Nat)
        (hk : k.Answers w begun aside opened length (first + (r.width w).min) Q) :
        (r.run s true none k).Answers w begun aside opened length first Q :=
      fun u hu hlen hpos t ht => ih hr hsized hrefs (hahead.repeating hlen) hu (fun h => by cases h)
        (hk.mono (Nat.add_le_add_right hpos _)) ht
    rw [run_loop] at ht
    split at ht
    · next c hsingle =>
      obtain rfl : r = char c := by
        cases r with
        | char c' => cases hsingle; rfl
        | _ => cases hsingle
      have hone : ((char c).width w).min * least = least := Nat.one_mul least
      exact runChars_answers hspares _ _ _ _ (hone ▸ hwidth ▸ hk) hst hahead.length_le ht
    · exact runGreedy_answers (hbody hr) _ _ _ _ hk st hst hahead.length_le (Nat.le_refl _) t ht
    · exact runLazy_answers hspares (hbody hr) _ _ _ _ hk st hst hahead.length_le (Nat.le_refl _) t ht
    · simp only [mayReverse, Bool.or_eq_false_iff, Bool.not_eq_false', List.isEmpty_iff] at hr
      obtain ⟨hgroups, hbehind⟩ := hr
      have hr' := mayReverse_eq_false hgroups hbehind
      refine runPossessive_answers hgroups hbehind (fun first u hu hlen hpos t ht => ?_) hk hst
        hahead.length_le _ ht
      exact ih hr' hsized hrefs (hgroups ▸ .nil hlen) hu (spares_complete _ _ _)
        ((answers_complete _ _ _ _ _ _).mono (Nat.add_le_add_right hpos _)) ht

/-- No group spans anything before the first is entered. -/
theorem upright_none (w : Nat → Width) (begun : Nat → Nat) : Upright w begun [] [] .none where
  closed g _ _ _ a b ha := by cases ha
  started _ hg := absurd hg List.not_mem_nil

/-- What holds of a match at a position, if the groups are numbered in the order of their opening
and nothing that captures or looks behind is repeated possessively. -/
theorem ends_of_matchAt {r : Regex} {s : Subject} {pos : Nat} {t : MatchState}
    (hr : r.mayReverse = false) (hsized : r.Sized w) (hascending : r.groups.Pairwise (· < ·))
    (hpositive : ∀ g ∈ r.groups, 0 < g) (ht : r.matchAt s pos = .matched t) :
    Ends w (fun _ => 0) [] [] (reach r.groups 0) (pos + (r.width w).min) t := by
  have hahead : Ahead false [] [] (reach r.groups 0) r.groups .none := by
    constructor
    · exact hascending
    · exact hpositive
    · exact fun _ _ => List.not_mem_nil
    · exact fun _ _ => List.not_mem_nil
    · exact fun _ hg => two_mul_le_reach 0 hg
    · exact fun _ _ _ => Nat.zero_le _
    · exact Nat.zero_le _
  exact run_answers s r hr hsized (fun _ _ _ => ⟨List.not_mem_nil, List.not_mem_nil⟩)
    (by exact hahead) (by exact upright_none w _)
    (spares_complete _ _ _) (answers_complete _ _ _ _ _ _) ht

/-- **A match at a position has no group that ends before it starts**, if the groups are numbered
in the order of their opening and nothing that captures or looks behind is repeated
possessively. -/
theorem isReversed_of_matchAt {r : Regex} {s : Subject} {pos : Nat} {t : MatchState}
    (hr : r.mayReverse = false) (hascending : r.groups.Pairwise (· < ·))
    (hpositive : ∀ g ∈ r.groups, 0 < g) (ht : r.matchAt s pos = .matched t) {g : Nat}
    (hg : 0 < g) : t.marks.isReversed g = false := by
  have hclosed := (ends_of_matchAt hr r.sized_zero hascending hpositive ht).1.closed g hg
    List.not_mem_nil List.not_mem_nil
  unfold Marks.isReversed
  split
  · next a b ha hb =>
    have := hclosed a b ha hb
    simp only [decide_eq_false_iff_not]
    omega
  · rfl

/-- So none of a program's matches is refused. -/
theorem Program.reverses_eq_false {p : Program} {s : Subject} {pos : Nat} {t : MatchState}
    (hr : p.regex.mayReverse = false) (hascending : p.regex.groups.Pairwise (· < ·))
    (hpositive : ∀ g ∈ p.regex.groups, 0 < g) (ht : p.regex.matchAt s pos = .matched t) :
    p.reverses t.marks = false := by
  unfold reverses
  rw [List.any_eq_false]
  intro g hg
  have : 1 ≤ g := (List.mem_range'_1.mp hg).1
  simp [isReversed_of_matchAt hr hascending hpositive ht this]

/-- **A match of a compiled expression has as many characters as its program asks for**, unless
something that captures or looks behind is repeated possessively. -/
theorem least_le_of_matchAt {mostOpen : Nat} {modes : Modes} {pattern : Text} {p : Program}
    (hp : compile mostOpen modes pattern = .ok p) (hr : p.regex.mayReverse = false) {s : Subject}
    {pos : Nat} {t : MatchState} (ht : p.regex.matchAt s pos = .matched t) :
    pos + p.least ≤ t.pos := by
  obtain ⟨w, hsized, hleast⟩ := sized_of_compile hp
  have hgroups := (groups_of_compile hp).1
  have hend := ends_of_matchAt hr hsized (hgroups ▸ List.pairwise_lt_range')
    (fun g hg => by
      rw [hgroups] at hg
      exact (List.mem_range'_1.mp hg).1) ht
  rw [hleast]
  exact Nat.le_trans (Nat.add_le_add_left (Nat.min_le_left _ _) _) hend.2.2

end Regex

end Highlighting
