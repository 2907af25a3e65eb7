import Highlighting.Proofs.Regex.Frame

/-!
# An expression behind other groups

In the expression of a set of rules a rule's pattern stands inside of a group and behind the groups
of other rules, so its own groups have higher numbers there than in the pattern read alone. It is
attempted as it is alone: what is captured, where a choice is noted and what is given up are the
same, with the marks moved to their places behind the marks that were there before.

Until a group of the pattern is entered the row ends at the start of the group around it. From then
on it has a place for the end of that group, which is unset, and behind it the row of the pattern
alone. So the row inside of a group is a function of the row alone, and a way that is given up is
cut back to the same marks.

## Main definitions

* `raiseGroup`, `Regex.raise` -- a group and an expression behind so many groups.
* `Marks.within` -- the row of marks behind an earlier one.
* `Rest.Follows` -- a rest does inside of a group what another one does alone.
-/
namespace Highlighting

/-- The number of a group behind `n` other groups. The row of marks begins with group one, so a
number below counts as one. -/
def raiseGroup (n g : Nat) : Nat := g - 1 + n + 1

theorem raiseGroup_eq {n g : Nat} (h : 0 < g) : raiseGroup n g = g + n := by
  unfold raiseGroup
  omega

namespace Regex

/-- The expression behind `n` other groups. -/
def raise (n : Nat) : Regex → Regex
  | empty => empty
  | never => never
  | char t => char t
  | anchor a => anchor a
  | seq r s => seq (r.raise n) (s.raise n)
  | alt r s => alt (r.raise n) (s.raise n)
  | capture g r => capture (raiseGroup n g) (r.raise n)
  | backref f g => backref f (raiseGroup n g)
  | conditional g r s => conditional (raiseGroup n g) (r.raise n) (s.raise n)
  | ahead negated r => ahead negated (r.raise n)
  | behind negated w r => behind negated w (r.raise n)
  | atomic r => atomic (r.raise n)
  | loop greed least most r => loop greed least most (r.raise n)

theorem raise_eq_empty_iff {n : Nat} {r : Regex} : r.raise n = empty ↔ r = empty := by
  cases r <;> simp [raise]

@[simp] theorem firstTest?_raise (n : Nat) (after : Option CharTest) (r : Regex) :
    (r.raise n).firstTest? after = r.firstTest? after := by
  induction r generalizing after with
  | seq r s ihr ihs => simp only [raise, firstTest?, ihr, ihs]
  | _ => rfl

@[simp] theorem single?_raise (n : Nat) (r : Regex) : (r.raise n).single? = r.single? := by
  cases r <;> rfl

end Regex

/-! ## The row behind an earlier one -/

namespace Marks

/-- The marks behind an earlier row, which ends at the start of the group around them. -/
def within (row : List (Option Nat)) (m : Marks) : Marks :=
  match m.row with
  | [] => ⟨row⟩
  | own => ⟨row ++ Option.none :: own⟩

theorem within_nil (row : List (Option Nat)) : within row ⟨[]⟩ = ⟨row⟩ := rfl

theorem within_of_ne_nil (row : List (Option Nat)) {own : List (Option Nat)} (h : own ≠ []) :
    within row ⟨own⟩ = ⟨row ++ Option.none :: own⟩ := by
  unfold within
  split
  · contradiction
  · rfl

variable {row : List (Option Nat)} {n : Nat}

theorem mark_within (hrow : row.length + 1 = 2 * n) (m : Marks) (i p : Nat) :
    (m.within row).mark (i + 2 * n) p = (m.mark i p).within row := by
  obtain ⟨own⟩ := m
  by_cases hown : own = []
  · subst hown
    have hlt : ¬ i + 2 * n < row.length := by omega
    have hgap : i + 2 * n - row.length = i + 1 := by omega
    rw [within_nil, mark, if_neg hlt, hgap, List.replicate_succ]
    simp [mark, within_of_ne_nil]
  · have hlength : (row ++ Option.none :: own).length = 2 * n + own.length := by
      rw [List.length_append, List.length_cons]
      omega
    rw [within_of_ne_nil row hown]
    unfold mark
    dsimp only
    rw [hlength]
    by_cases hi : i < own.length
    · rw [if_pos (by omega), if_pos hi, within_of_ne_nil row (by simpa using hown),
        List.set_append_right _ _ (by omega)]
      have hplace : i + 2 * n - row.length = i + 1 := by omega
      rw [hplace, List.set_cons_succ]
    · rw [if_neg (by omega), if_neg hi, within_of_ne_nil row (by simp)]
      have hgap : i + 2 * n - (2 * n + own.length) = i - own.length := by omega
      rw [hgap]
      simp

theorem at?_within (hrow : row.length + 1 = 2 * n) (m : Marks) (i : Nat) :
    (m.within row).at? (i + 2 * n) = m.at? i := by
  obtain ⟨own⟩ := m
  unfold at?
  by_cases hown : own = []
  · subst hown
    rw [within_nil, List.getElem?_eq_none (by dsimp only; omega)]
    simp
  · rw [within_of_ne_nil row hown]
    dsimp only
    rw [List.getElem?_append_right (by omega)]
    have hplace : i + 2 * n - row.length = i + 1 := by omega
    rw [hplace, List.getElem?_cons_succ]

theorem opened_within (hrow : row.length + 1 = 2 * n) (m : Marks) (g p : Nat) :
    (m.within row).opened (raiseGroup n g) p = (m.opened g p).within row := by
  have hplace : 2 * (raiseGroup n g - 1) = 2 * (g - 1) + 2 * n := by
    unfold raiseGroup
    omega
  rw [opened, hplace, mark_within hrow, opened]

theorem closed_within (hrow : row.length + 1 = 2 * n) (m : Marks) (g p : Nat) :
    (m.within row).closed (raiseGroup n g) p = (m.closed g p).within row := by
  have hplace : 2 * (raiseGroup n g - 1) + 1 = 2 * (g - 1) + 1 + 2 * n := by
    unfold raiseGroup
    omega
  rw [closed, hplace, mark_within hrow, closed]

theorem span?_within (hrow : row.length + 1 = 2 * n) (m : Marks) (g : Nat) :
    (m.within row).span? (raiseGroup n g) = m.span? g := by
  have hstart : 2 * (raiseGroup n g - 1) = 2 * (g - 1) + 2 * n := by
    unfold raiseGroup
    omega
  have hstop : 2 * (g - 1) + 2 * n + 1 = 2 * (g - 1) + 1 + 2 * n := by omega
  unfold span? start? stop?
  rw [hstart, hstop, at?_within hrow, at?_within hrow]

theorem restored_within (row : List (Option Nat)) (re : Bool) (earlier m : Marks) :
    restored re (earlier.within row) (m.within row) = (restored re earlier m).within row := by
  cases re with
  | true => rfl
  | false =>
    obtain ⟨old⟩ := earlier
    obtain ⟨own⟩ := m
    by_cases hown : own = []
    · subst hown
      by_cases hold : old = []
      · subst hold
        simp [restored, within_nil]
      · simp [restored, within_nil, within_of_ne_nil row hold, List.take_of_length_le]
    · by_cases hold : old = []
      · subst hold
        simp [restored, within_nil, within_of_ne_nil row hown]
      · have htake : own.take old.length ≠ [] := by simpa using ⟨hold, hown⟩
        simp [restored, within_of_ne_nil row hown, within_of_ne_nil row hold,
          within_of_ne_nil row htake, List.take_append, List.take_of_length_le]

end Marks

/-! ## Attempts inside of a group -/

/-- The state inside of a group. -/
def MatchState.within (row : List (Option Nat)) (st : MatchState) : MatchState :=
  { st with marks := st.marks.within row }

/-- The attempt inside of a group, where a match is followed by a change to its state. -/
def Attempt.within (row : List (Option Nat)) (last : MatchState → MatchState) : Attempt → Attempt
  | .matched st => .matched (last st)
  | .failed noted m => .failed noted (m.within row)

theorem Attempt.orElse_within {row : List (Option Nat)} {last : MatchState → MatchState}
    (a : Attempt) {f f' : Nat → Marks → Attempt}
    (h : ∀ noted m, f' noted (m.within row) = (f noted m).within row last) :
    (a.within row last).orElse f' = (a.orElse f).within row last := by
  cases a with
  | matched st => rfl
  | failed noted m => exact h noted m

/-- The rest `k'` does inside of a group what the rest `k` does alone. -/
def Rest.Follows (row : List (Option Nat)) (last : MatchState → MatchState) (k' k : Rest) : Prop :=
  ∀ st, k' (st.within row) = (k st).within row last

theorem Rest.Follows.complete (row : List (Option Nat)) :
    Rest.Follows row (MatchState.within row) MatchState.complete MatchState.complete :=
  fun _ => rfl

namespace Regex

section Pieces
variable {row : List (Option Nat)} {last : MatchState → MatchState} {k k' : Rest} {s : Subject}
  {re : Bool} {next : Option CharTest}

theorem goOn_follows (hk : Rest.Follows row last k' k) (negated : Bool) (st : MatchState)
    (a : Attempt) : goOn re negated k' (st.within row) (a.within row (MatchState.within row)) =
      (goOn re negated k st a).within row last := by
  cases a with
  | matched u =>
    cases negated with
    | false => exact hk { u with pos := st.pos }
    | true => rfl
  | failed noted m =>
    cases negated with
    | false => rfl
    | true =>
      refine Eq.trans (congrArg k' ?_) (hk ⟨st.pos, noted, st.marks.restored re m⟩)
      exact congrArg (MatchState.mk st.pos noted) (Marks.restored_within row re st.marks m)

theorem attemptAt_follows (hk : Rest.Follows row last k' k) (pos : Nat) (st : MatchState) :
    attemptAt s re next k' pos (st.within row) =
      (attemptAt s re next k pos st).within row last := by
  unfold attemptAt
  split
  · rfl
  · refine Eq.trans (congrArg (Attempt.orElse · _) (hk (st.at_ pos))) ?_
    refine Attempt.orElse_within _ fun noted m => ?_
    exact congrArg (Attempt.failed noted) (Marks.restored_within row re st.marks m)

theorem giveBack_follows (hk : Rest.Follows row last k' k) (first extra : Nat) (st : MatchState) :
    giveBack s re next k' first extra (st.within row) =
      (giveBack s re next k first extra st).within row last := by
  induction extra generalizing st with
  | zero => exact attemptAt_follows hk first st
  | succ extra ih =>
    unfold giveBack
    rw [attemptAt_follows hk]
    exact Attempt.orElse_within _ fun noted m => ih { st with noted := noted, marks := m }

theorem takeMore_follows (hk : Rest.Follows row last k' k) (t : CharTest) (extra : Nat)
    (st : MatchState) :
    takeMore s re k' t extra (st.within row) = (takeMore s re k t extra st).within row last := by
  induction extra generalizing st with
  | zero =>
    rw [takeMore_eq, takeMore_eq]
    refine Eq.trans (congrArg (Attempt.orElse · _) (attemptAt_follows hk st.pos st)) ?_
    refine Attempt.orElse_within _ fun noted m => ?_
    change (if t.holdsAt s st.pos then _ else _) = _
    split <;> rfl
  | succ extra ih =>
    rw [takeMore_eq, takeMore_eq]
    refine Eq.trans (congrArg (Attempt.orElse · _) (attemptAt_follows hk st.pos st)) ?_
    refine Attempt.orElse_within _ fun noted m => ?_
    change (if t.holdsAt s st.pos then _ else _) = _
    split
    · exact ih ⟨st.pos + 1, st.pos, m⟩
    · rfl

theorem runChars_follows (hk : Rest.Follows row last k' k) (t : CharTest) (greed : Greed)
    (least : Nat) (most : Option Nat) (st : MatchState) :
    runChars s re next k' t greed least most (st.within row) =
      (runChars s re next k t greed least most st).within row last := by
  unfold runChars
  change (if s.size - st.pos < least then _ else _) = _
  split
  · rfl
  · cases greed with
    | greedy =>
      dsimp only
      change (if t.countUpTo s most st.pos < least then _ else _) = _
      split
      · rfl
      · exact giveBack_follows hk _ _ ⟨st.pos, t.notedAfter st.pos _, st.marks⟩
    | lazily =>
      dsimp only
      change (if t.countUpTo s (some least) st.pos < least then _ else _) = _
      split
      · rfl
      · exact takeMore_follows hk t _ ⟨st.pos + least, t.notedAfter st.pos _, st.marks⟩
    | possessive =>
      dsimp only
      change (if t.countUpTo s most st.pos < least then _ else _) = _
      split
      · rfl
      · exact hk ⟨st.pos + t.countUpTo s most st.pos, t.notedAfter st.pos _, st.marks⟩

variable {body body' : Rest → Rest}

theorem runGreedy_follows (hk : Rest.Follows row last k' k)
    (hbody : ∀ j j', Rest.Follows row last j' j → Rest.Follows row last (body' j') (body j))
    (fuel least : Nat) (most lastRound : Option Nat) :
    Rest.Follows row last (runGreedy body' k' fuel least most lastRound)
      (runGreedy body k fuel least most lastRound) := by
  induction fuel generalizing least most lastRound with
  | zero => exact fun st => rfl
  | succ fuel ih =>
    intro st
    have leave : ((k' (st.note.within row)).orElse fun _ m => .failed st.pos m) =
        ((k st.note).orElse fun _ m => .failed st.pos m).within row last := by
      rw [hk st.note]
      exact Attempt.orElse_within _ fun _ _ => rfl
    cases least with
    | zero =>
      unfold runGreedy
      dsimp only
      change (if mayRepeat most lastRound st.pos then _ else _) = _
      split
      · refine Eq.trans (congrArg (Attempt.orElse · _) (hbody _ _ (ih _ _ _) st.note)) ?_
        exact Attempt.orElse_within _ fun _ _ => leave
      · exact leave
    | succ least =>
      refine Eq.trans (congrArg (Attempt.orElse · _) (hbody _ _ (ih _ _ _) st.note)) ?_
      exact Attempt.orElse_within _ fun _ _ => rfl

theorem runLazy_follows (hk : Rest.Follows row last k' k)
    (hbody : ∀ j j', Rest.Follows row last j' j → Rest.Follows row last (body' j') (body j))
    (fuel least : Nat) (most lastRound : Option Nat) :
    Rest.Follows row last (runLazy re body' k' fuel least most lastRound)
      (runLazy re body k fuel least most lastRound) := by
  induction fuel generalizing least most lastRound with
  | zero => exact fun st => rfl
  | succ fuel ih =>
    intro st
    cases least with
    | zero =>
      unfold runLazy
      refine Eq.trans (congrArg (Attempt.orElse · _) (hk st.note)) ?_
      refine Attempt.orElse_within _ fun noted m => ?_
      have hrestored := Marks.restored_within row re st.marks m
      dsimp only
      by_cases hmore : mayRepeat most lastRound st.pos = true
      · rw [if_pos (show mayRepeat most lastRound (st.within row).note.pos = true from hmore),
          if_pos (show mayRepeat most lastRound st.note.pos = true from hmore)]
        have hround := hbody _ _ (ih 0 (most.map (· - 1)) (some st.pos))
          ⟨st.pos, st.pos, st.marks.restored re m⟩
        rw [MatchState.within, ← hrestored] at hround
        refine Eq.trans (congrArg (Attempt.orElse · _) hround) ?_
        exact Attempt.orElse_within _ fun _ _ => rfl
      · rw [if_neg (show ¬ mayRepeat most lastRound (st.within row).note.pos = true from hmore),
          if_neg (show ¬ mayRepeat most lastRound st.note.pos = true from hmore)]
        exact congrArg (Attempt.failed st.pos) hrestored
    | succ least =>
      refine Eq.trans (congrArg (Attempt.orElse · _) (hbody _ _ (ih _ _ _) st.note)) ?_
      exact Attempt.orElse_within _ fun _ _ => rfl

theorem runOn_follows {body body' : Rest}
    (hbody : Rest.Follows row (MatchState.within row) body' body) (fuel : Nat)
    (most lastRound : Option Nat) (st : MatchState) :
    runOn body' fuel most lastRound (st.within row) =
      (runOn body fuel most lastRound st).within row := by
  induction fuel generalizing most lastRound st with
  | zero => rfl
  | succ fuel ih =>
    unfold runOn
    change (if mayRepeat most lastRound st.pos then _ else _) = _
    split
    · have hround : body' (st.within row).note = (body st.note).within row _ := hbody st.note
      rw [hround]
      cases body st.note with
      | matched t => exact ih _ _ t
      | failed noted m => rfl
    · rfl

theorem runTimes_follows {body body' : Rest}
    (hbody : Rest.Follows row (MatchState.within row) body' body) (n : Nat) :
    Rest.Follows row (MatchState.within row) (runTimes body' n) (runTimes body n) := by
  induction n with
  | zero => exact fun st => rfl
  | succ n ih =>
    intro st
    unfold runTimes
    have hround : body' (st.within row).note = (body st.note).within row _ := hbody st.note
    rw [hround]
    cases body st.note with
    | matched t => exact ih t
    | failed noted m => rfl

theorem runPossessive_follows {body body' : Rest} (hk : Rest.Follows row last k' k)
    (hbody : Rest.Follows row (MatchState.within row) body' body) (fuel least : Nat)
    (most : Option Nat) :
    Rest.Follows row last (runPossessive body' k' fuel least most)
      (runPossessive body k fuel least most) := by
  intro st
  have htimes : runTimes body' least (st.within row).note = _ :=
    runTimes_follows hbody least st.note
  unfold runPossessive
  rw [htimes]
  cases runTimes body least st.note with
  | matched u =>
    refine Eq.trans (congrArg k' ?_) (hk _)
    exact runOn_follows hbody _ _ _ u
  | failed noted m => rfl

end Pieces

/-- **Inside of a group an expression is attempted as it is alone**, with its marks behind those of
the groups before it. -/
theorem run_raise {row : List (Option Nat)} {n : Nat} (hrow : row.length + 1 = 2 * n) (s : Subject)
    (r : Regex) {last : MatchState → MatchState} (re : Bool) (next : Option CharTest) {k k' : Rest}
    (hk : Rest.Follows row last k' k) :
    Rest.Follows row last ((r.raise n).run s re next k') (r.run s re next k) := by
  have hc := Rest.Follows.complete row
  induction r generalizing last re next k k' with
  | empty => exact hk
  | never => exact fun st => rfl
  | char t =>
    intro st
    simp only [raise, run]
    change (if t.holdsAt s st.pos then _ else _) = _
    split
    · exact hk { st with pos := st.pos + 1 }
    · rfl
  | anchor a =>
    intro st
    simp only [raise, run]
    change (if a.holds s st.pos then _ else _) = _
    split
    · exact hk st
    · rfl
  | seq r t ihr iht =>
    intro st
    simp only [raise, run, firstTest?_raise]
    exact ihr re _ (iht re next hk) st
  | alt r t ihr iht =>
    intro st
    have hsecond := iht re next hk
    simp only [raise, run, firstTest?_raise]
    change (if (r.firstTest? none).any (·.rulesOut s st.pos) then _ else _) = _
    split
    · exact hsecond st
    · refine Eq.trans (congrArg (Attempt.orElse · _) (ihr re none hk st.note)) ?_
      refine Attempt.orElse_within _ fun noted m => ?_
      rw [← hsecond]
      refine congrArg ((t.raise n).run s re next k') ?_
      exact congrArg (MatchState.mk st.pos noted) (Marks.restored_within row re st.marks m)
  | capture g r ih =>
    intro st
    simp only [raise, run]
    have hclose : Rest.Follows row last
        (fun u => k' { u with marks := u.marks.closed (raiseGroup n g) u.pos })
        (fun u => k { u with marks := u.marks.closed g u.pos }) := by
      intro u
      refine Eq.trans (congrArg k' ?_) (hk { u with marks := u.marks.closed g u.pos })
      exact congrArg (MatchState.mk u.pos u.noted) (Marks.closed_within hrow u.marks g u.pos)
    refine Eq.trans (congrArg ((r.raise n).run s re none _) ?_)
      (ih re none hclose { st with marks := st.marks.opened g st.pos })
    exact congrArg (MatchState.mk st.pos st.noted) (Marks.opened_within hrow st.marks g st.pos)
  | backref f g =>
    intro st
    simp only [raise, run]
    rw [MatchState.within, Marks.span?_within hrow]
    split
    · next a b _ =>
      dsimp only
      split
      · exact hk ⟨st.pos + (b - a), st.noted, st.marks⟩
      · rfl
    · rfl
  | conditional g r t ihr iht =>
    intro st
    simp only [raise, run]
    rw [MatchState.within, Marks.span?_within hrow]
    simp only [raise_eq_empty_iff]
    split
    · exact ihr re _ hk st
    · exact iht re next hk st
  | ahead negated r ih =>
    intro st
    have hround : (r.raise n).run s re none MatchState.complete (st.within row).note = _ :=
      ih re none hc st.note
    rw [raise, run_ahead, run_ahead, hround]
    exact goOn_follows hk negated st _
  | behind negated w r ih =>
    intro st
    have hround : (r.raise n).run s re none MatchState.complete
        ((st.within row).at_ (st.pos - w.least)) = _ :=
      ih re none hc (st.at_ (st.pos - w.least))
    rw [raise, run_behind, run_behind]
    change (if st.pos < w.least then _ else _) = _
    split
    · cases negated with
      | false => rfl
      | true => exact hk st
    · refine Eq.trans (congrArg (goOn re negated k' (st.within row)) hround) ?_
      exact goOn_follows hk negated st _
  | atomic r ih =>
    intro st
    simp only [raise, run]
    have hround : (r.raise n).run s re none MatchState.complete (st.within row).note = _ :=
      ih re none hc st.note
    rw [hround]
    cases r.run s re none MatchState.complete st.note with
    | matched u => exact hk u
    | failed noted m => rfl
  | loop greed least most r ih =>
    intro st
    rw [raise, run_loop, run_loop, single?_raise]
    split
    · exact runChars_follows hk _ _ _ _ st
    · exact runGreedy_follows hk (fun j j' hj => ih true none hj) _ _ _ _ st
    · exact runLazy_follows hk (fun j j' hj => ih true none hj) _ _ _ _ st
    · exact runPossessive_follows hk (ih re none hc) _ _ _ st

end Regex

end Highlighting
