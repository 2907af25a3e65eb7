import Highlighting.Proofs.Regex.Frame

/-!
# What an attempt keeps to

An expression takes characters from its position on and no more than the text has. As long as what
is attempted afterwards does the same, no position that is reached or noted lies behind the end of
the text, and none before the first one unless there is a look-behind. Marks are set where an
attempt stands, and given back from where it came: a property of marks that lasts through both holds
of the marks of every state that is reached.

## Main definitions

* `Regex.looksBehind` -- the expression has a look-behind.
* `Marks.Lasting` -- a property of marks that giving up a way keeps, and setting a mark.
* `MatchState.Confined`, `Attempt.Confined`, `Rest.Confines` -- the positions lie between two others
  and the marks have a property, for a state, an attempt and all attempts of a rest.

## Main statements

* `Regex.run_confined` -- an attempt is confined as far as what is attempted afterwards is.
* `Regex.matchAt_confined` -- so is every match, where the start of it is.
-/
namespace Highlighting

/-- The expression has a look-behind. -/
def Regex.looksBehind : Regex → Bool
  | seq r s => r.looksBehind || s.looksBehind
  | alt r s => r.looksBehind || s.looksBehind
  | capture _ r => r.looksBehind
  | conditional _ r s => r.looksBehind || s.looksBehind
  | ahead _ r => r.looksBehind
  | behind _ _ _ => true
  | atomic r => r.looksBehind
  | loop _ _ _ r => r.looksBehind
  | _ => false

namespace CharTest

theorem le_notedAfter (t : CharTest) (pos n : Nat) : pos ≤ t.notedAfter pos n := by
  unfold notedAfter
  split <;> omega

theorem notedAfter_le (t : CharTest) (pos n : Nat) : t.notedAfter pos n ≤ pos + n := by
  unfold notedAfter
  split <;> omega

theorem lt_size_of_holdsAt {t : CharTest} {s : Subject} {pos : Nat} (h : t.holdsAt s pos = true) :
    pos < s.size := by
  unfold holdsAt at h
  split at h
  · next hc => exact (Array.getElem?_eq_some_iff.mp hc).1
  · cases h

/-- Characters are counted in the text. -/
theorem countUpTo_le (s : Subject) (t : CharTest) (most : Option Nat) (pos : Nat) :
    t.countUpTo s most pos ≤ s.size - pos := by
  unfold countUpTo
  refine Nat.le_trans (count_le _ _ _ _) ?_
  cases most with
  | none => exact Nat.le_refl _
  | some m => exact Nat.min_le_right _ _

end CharTest

namespace Marks

/-- A property of marks lasts when a way is given up. -/
def Restorable (P : Marks → Prop) : Prop :=
  ∀ {earlier m : Marks} (re : Bool), P earlier → P m → P (restored re earlier m)

/-- A property of marks lasts when a way is given up, and when a mark of one of some groups is set
at a position between two others. -/
structure Lasting (gs : List Nat) (first last : Nat) (P : Marks → Prop) : Prop where
  restorable : Restorable P
  mark : ∀ {m : Marks} {i p : Nat}, Regex.Marking gs i → first ≤ p → p ≤ last → P m → P (m.mark i p)

namespace Lasting
variable {gs hs : List Nat} {first last : Nat} {P : Marks → Prop}

theorem mono (h : Lasting gs first last P) (hsub : ∀ g ∈ hs, g ∈ gs) : Lasting hs first last P :=
  ⟨h.restorable, fun hi => h.mark (hi.mono hsub)⟩

theorem left (h : Lasting (gs ++ hs) first last P) : Lasting gs first last P :=
  h.mono fun _ => List.mem_append_left hs

theorem right (h : Lasting (gs ++ hs) first last P) : Lasting hs first last P :=
  h.mono fun _ => List.mem_append_right gs

end Lasting

/-- Nothing has to last. -/
theorem lasting_true (gs : List Nat) (first last : Nat) : Lasting gs first last fun _ => True :=
  ⟨fun _ _ _ => trivial, fun _ _ _ _ => trivial⟩

end Marks

/-- The positions of the state lie between two others, and its marks have a property. -/
structure MatchState.Confined (first last : Nat) (P : Marks → Prop) (st : MatchState) : Prop where
  first_le : first ≤ st.pos
  le_last : st.pos ≤ last
  first_le_noted : first ≤ st.noted
  noted_le_last : st.noted ≤ last
  marks : P st.marks

/-- The positions of the attempt lie between two others, and its marks have a property. -/
def Attempt.Confined (first last : Nat) (P : Marks → Prop) : Attempt → Prop
  | .matched st => st.Confined first last P
  | .failed noted m => first ≤ noted ∧ noted ≤ last ∧ P m

/-- From a state within the bounds the rest stays within them. -/
def Rest.Confines (first last : Nat) (P : Marks → Prop) (k : Rest) : Prop :=
  ∀ st : MatchState, st.Confined first last P → (k st).Confined first last P

section Confining
variable {first last : Nat} {P : Marks → Prop}

theorem Attempt.Confined.orElse {a : Attempt} {f : Nat → Marks → Attempt}
    (ha : a.Confined first last P)
    (hf : ∀ n m, first ≤ n → n ≤ last → P m → (f n m).Confined first last P) :
    (a.orElse f).Confined first last P := by
  cases a with
  | matched st => exact ha
  | failed n m => exact hf n m ha.1 ha.2.1 ha.2.2

namespace MatchState.Confined
variable {st : MatchState}

/-- The position is noted. -/
theorem note (h : st.Confined first last P) : st.note.Confined first last P :=
  ⟨h.first_le, h.le_last, h.first_le, h.le_last, h.marks⟩

/-- The position moves on. -/
theorem forth (h : st.Confined first last P) {pos : Nat} (hpos : st.pos ≤ pos)
    (hlast : pos ≤ last) : ({ st with pos := pos } : MatchState).Confined first last P :=
  ⟨Nat.le_trans h.first_le hpos, hlast, h.first_le_noted, h.noted_le_last, h.marks⟩

/-- A mark is set at the position. -/
theorem mark {gs : List Nat} (hP : Marks.Lasting gs first last P) (h : st.Confined first last P)
    {i : Nat} (hi : Regex.Marking gs i) :
    ({ st with marks := st.marks.mark i st.pos } : MatchState).Confined first last P :=
  ⟨h.first_le, h.le_last, h.first_le_noted, h.noted_le_last,
    hP.mark hi h.first_le h.le_last h.marks⟩

theorem fail (h : st.Confined first last P) : st.fail.Confined first last P :=
  ⟨h.first_le_noted, h.noted_le_last, h.marks⟩

end MatchState.Confined

theorem Rest.Confines.complete : Rest.Confines first last P MatchState.complete :=
  fun _ h => h.note

namespace Regex

variable {k : Rest} {s : Subject} {re : Bool} {next : Option CharTest}
  {st : MatchState}

theorem goOn_confined (hP : Marks.Restorable P) (hk : Rest.Confines first last P k) (negated : Bool)
    (h : st.Confined first last P) {a : Attempt} (ha : a.Confined first last P) :
    (goOn re negated k st a).Confined first last P := by
  cases a with
  | matched u =>
    cases negated with
    | false => exact hk _ { ha with first_le := h.first_le, le_last := h.le_last }
    | true => exact ha.fail
  | failed noted m =>
    cases negated with
    | false => exact ha
    | true => exact hk _ ⟨h.first_le, h.le_last, ha.1, ha.2.1, hP re h.marks ha.2.2⟩

theorem attemptAt_confined (hP : Marks.Restorable P) (hk : Rest.Confines first last P k) {pos : Nat}
    (hpos : first ≤ pos) (hlast : pos ≤ last) (h : st.Confined first last P) :
    (attemptAt s re next k pos st).Confined first last P := by
  unfold attemptAt
  split
  · exact h.fail
  · exact (hk (st.at_ pos) ⟨hpos, hlast, hpos, hlast, h.marks⟩).orElse fun n m hn hn' hm =>
      ⟨hn, hn', hP re h.marks hm⟩

theorem giveBack_confined (hP : Marks.Restorable P) (hk : Rest.Confines first last P k)
    {start extra : Nat} (hstart : first ≤ start) (hlast : start + extra ≤ last)
    (h : st.Confined first last P) :
    (giveBack s re next k start extra st).Confined first last P := by
  induction extra generalizing st with
  | zero => exact attemptAt_confined hP hk hstart hlast h
  | succ extra ih =>
    refine (attemptAt_confined hP hk (by omega) (by omega) h).orElse fun n m hn hn' hm => ?_
    exact ih (by omega) ⟨h.first_le, h.le_last, hn, hn', hm⟩

theorem takeMore_confined (hP : Marks.Restorable P) (hlast : s.size ≤ last)
    (hk : Rest.Confines first last P k)
    (t : CharTest) (extra : Nat) (h : st.Confined first last P) :
    (takeMore s re k t extra st).Confined first last P := by
  induction extra generalizing st with
  | zero =>
    rw [takeMore_eq]
    refine (attemptAt_confined hP hk h.first_le h.le_last h).orElse fun n m _ _ hm => ?_
    split
    · next ht =>
      have := CharTest.lt_size_of_holdsAt ht
      exact ⟨Nat.le_trans h.first_le (t.le_notedAfter _ 1),
        Nat.le_trans (t.notedAfter_le _ 1) (by omega), hm⟩
    · exact ⟨h.first_le, h.le_last, hm⟩
  | succ extra ih =>
    rw [takeMore_eq]
    refine (attemptAt_confined hP hk h.first_le h.le_last h).orElse fun n m _ _ hm => ?_
    split
    · next ht =>
      have := CharTest.lt_size_of_holdsAt ht
      exact ih ⟨Nat.le_succ_of_le h.first_le, by dsimp only; omega, h.first_le, h.le_last, hm⟩
    · exact ⟨h.first_le, h.le_last, hm⟩

theorem runChars_confined (hP : Marks.Restorable P) (hlast : s.size ≤ last)
    (hk : Rest.Confines first last P k)
    (t : CharTest) (greed : Greed) (least : Nat) (most : Option Nat)
    (h : st.Confined first last P) :
    (runChars s re next k t greed least most st).Confined first last P := by
  have hnoted {most : Option Nat} : first ≤ t.notedAfter st.pos (t.countUpTo s most st.pos) ∧
      t.notedAfter st.pos (t.countUpTo s most st.pos) ≤ last := by
    have hcount := t.countUpTo_le s most st.pos
    have hle := t.notedAfter_le st.pos (t.countUpTo s most st.pos)
    have := h.le_last
    exact ⟨Nat.le_trans h.first_le (t.le_notedAfter _ _), by omega⟩
  have hinside {most : Option Nat} {n : Nat} (hn : n ≤ t.countUpTo s most st.pos) :
      st.pos + n ≤ last := by
    have hcount := t.countUpTo_le s most st.pos
    have := h.le_last
    omega
  unfold runChars
  split
  · exact h.fail
  · cases greed with
    | greedy =>
      dsimp only
      split
      · exact ⟨hnoted.1, hnoted.2, h.marks⟩
      · next hleast =>
        have hcount := hinside (Nat.le_refl (t.countUpTo s most st.pos))
        exact giveBack_confined hP hk (Nat.le_add_right_of_le h.first_le) (by omega)
          ⟨h.first_le, h.le_last, hnoted.1, hnoted.2, h.marks⟩
    | lazily =>
      dsimp only
      split
      · exact ⟨hnoted.1, hnoted.2, h.marks⟩
      · next hleast =>
        exact takeMore_confined hP hlast hk t _ ⟨Nat.le_add_right_of_le h.first_le,
          hinside (Nat.le_of_not_lt hleast), hnoted.1, hnoted.2, h.marks⟩
    | possessive =>
      dsimp only
      split
      · exact ⟨hnoted.1, hnoted.2, h.marks⟩
      · exact hk _ ⟨Nat.le_add_right_of_le h.first_le, hinside (Nat.le_refl _), hnoted.1, hnoted.2,
          h.marks⟩

variable {body : Rest → Rest}

theorem runGreedy_confined (hk : Rest.Confines first last P k)
    (hbody : ∀ k, Rest.Confines first last P k → Rest.Confines first last P (body k))
    (fuel least : Nat) (most lastRound : Option Nat) :
    Rest.Confines first last P (runGreedy body k fuel least most lastRound) := by
  induction fuel generalizing least most lastRound with
  | zero => exact fun st h => h.fail
  | succ fuel ih =>
    intro st h
    have leave : ((k st.note).orElse fun _ marks => .failed st.pos marks).Confined first last P :=
      (hk st.note h.note).orElse fun n m _ _ hm => ⟨h.first_le, h.le_last, hm⟩
    cases least with
    | zero =>
      unfold runGreedy
      dsimp only
      split
      · exact (hbody _ (ih _ _ _) st.note h.note).orElse fun n m _ _ _ => leave
      · exact leave
    | succ least =>
      exact (hbody _ (ih _ _ _) st.note h.note).orElse fun n m _ _ hm => ⟨h.first_le, h.le_last, hm⟩

theorem runLazy_confined (hP : Marks.Restorable P) (hk : Rest.Confines first last P k)
    (hbody : ∀ k, Rest.Confines first last P k → Rest.Confines first last P (body k))
    (fuel least : Nat) (most lastRound : Option Nat) :
    Rest.Confines first last P (runLazy re body k fuel least most lastRound) := by
  induction fuel generalizing least most lastRound with
  | zero => exact fun st h => h.fail
  | succ fuel ih =>
    intro st h
    cases least with
    | zero =>
      unfold runLazy
      refine (hk st.note h.note).orElse fun n m _ _ hm => ?_
      have hrest : P (Marks.restored re st.marks m) := hP re h.marks hm
      dsimp only
      split
      · have hround := hbody _ (ih 0 (most.map (· - 1)) (some st.pos))
          ⟨st.pos, st.pos, st.marks.restored re m⟩
          ⟨h.first_le, h.le_last, h.first_le, h.le_last, hrest⟩
        exact hround.orElse fun n m _ _ hm => ⟨h.first_le, h.le_last, hm⟩
      · exact ⟨h.first_le, h.le_last, hrest⟩
    | succ least =>
      have hround := hbody _ (ih least (most.map (· - 1)) lastRound) st.note h.note
      exact hround.orElse fun n m _ _ hm => ⟨h.first_le, h.le_last, hm⟩

theorem runOn_confined {body : Rest} (hbody : Rest.Confines first last P body) (fuel : Nat)
    (most lastRound : Option Nat) (h : st.Confined first last P) :
    (runOn body fuel most lastRound st).Confined first last P := by
  induction fuel generalizing most lastRound st with
  | zero => exact h
  | succ fuel ih =>
    unfold runOn
    split
    · have hround := hbody st.note h.note
      split
      · next t ht =>
        rw [ht] at hround
        exact ih _ _ hround
      · next noted m ht =>
        rw [ht] at hround
        exact ⟨hround.1, hround.2.1, hround.1, hround.2.1, h.marks⟩
    · exact h

theorem runTimes_confined {body : Rest} (hbody : Rest.Confines first last P body) (n : Nat) :
    Rest.Confines first last P (runTimes body n) := by
  induction n with
  | zero => exact fun st h => h
  | succ n ih =>
    intro st h
    have hround := hbody st.note h.note
    unfold runTimes
    split
    · next t ht =>
      rw [ht] at hround
      exact ih t hround
    · next noted m ht =>
      rw [ht] at hround
      exact hround

theorem runPossessive_confined {body : Rest} (hk : Rest.Confines first last P k)
    (hbody : Rest.Confines first last P body) (fuel least : Nat) (most : Option Nat) :
    Rest.Confines first last P (runPossessive body k fuel least most) := by
  intro st h
  have hround := runTimes_confined hbody least st.note h.note
  unfold runPossessive
  split
  · next u heq =>
    rw [heq] at hround
    exact hk _ (runOn_confined hbody fuel (most.map (· - least)) none hround)
  · next heq =>
    rw [heq] at hround
    exact ⟨h.first_le, h.le_last, hround.2.2⟩

/-- The text that a group captured is found again inside of the text only. -/
theorem le_size_of_sameRun {f : Folding} {count p q : Nat} (h : sameRun f s count p q = true)
    (hq : q ≤ last) (hlast : s.size ≤ last) : q + count ≤ last := by
  induction count generalizing p q with
  | zero => exact hq
  | succ n ih =>
    unfold sameRun at h
    split at h
    · next a b _ hb =>
      have hlt := (Array.getElem?_eq_some_iff.mp hb).1
      simp only [Bool.and_eq_true] at h
      have := ih h.2 (by omega)
      omega
    · cases h

/-- **No attempt leaves the text**, nor goes back where nothing looks behind, and what the marks of
the groups of the expression keep to when they are set, they keep to at every state. -/
theorem run_confined (s : Subject) (r : Regex) (hlast : s.size ≤ last) (re : Bool)
    (next : Option CharTest) {k : Rest} (hP : Marks.Lasting r.groups first last P)
    (hbehind : r.looksBehind = true → first = 0) (hk : Rest.Confines first last P k) :
    Rest.Confines first last P (r.run s re next k) := by
  have hc : Rest.Confines first last P MatchState.complete := Rest.Confines.complete
  induction r generalizing re next k with
  | empty => exact hk
  | never => exact fun st h => h.fail
  | char t =>
    intro st h
    simp only [run]
    split
    · next ht =>
      have := CharTest.lt_size_of_holdsAt ht
      exact hk _ (h.forth (Nat.le_succ _) (by omega))
    · exact h.fail
  | anchor a =>
    intro st h
    simp only [run]
    split
    · exact hk st h
    · exact h.fail
  | seq r t ihr iht =>
    simp only [looksBehind, Bool.or_eq_true] at hbehind
    exact ihr re _ hP.left (fun hr => hbehind (.inl hr))
      (iht re next hP.right (fun ht => hbehind (.inr ht)) hk)
  | alt r t ihr iht =>
    simp only [looksBehind, Bool.or_eq_true] at hbehind
    have hsecond := iht re next hP.right (fun ht => hbehind (.inr ht)) hk
    intro st h
    simp only [run]
    split
    · exact hsecond st h
    · refine (ihr re none hP.left (fun hr => hbehind (.inl hr)) hk st.note
        h.note).orElse fun n m hn hn' hm => ?_
      exact hsecond _ ⟨h.first_le, h.le_last, hn, hn', hP.restorable re h.marks hm⟩
  | capture n r ih =>
    have hopen : Marking (capture n r).groups (2 * (n - 1)) := ⟨n, List.mem_cons_self, .inl rfl⟩
    have hclose : Marking (capture n r).groups (2 * (n - 1) + 1) :=
      ⟨n, List.mem_cons_self, .inr rfl⟩
    intro st h
    simp only [run]
    exact ih re none (hP.mono fun g hg => List.mem_cons_of_mem _ hg) hbehind
      (fun u hu => hk _ (hu.mark hP hclose)) _ (h.mark hP hopen)
  | backref f n =>
    intro st h
    simp only [run]
    split
    · split
      · next hsame =>
        exact hk _ (h.forth (Nat.le_add_right _ _) (le_size_of_sameRun hsame h.le_last hlast))
      · exact h.fail
    · exact h.fail
  | conditional n r t ihr iht =>
    simp only [looksBehind, Bool.or_eq_true] at hbehind
    intro st h
    simp only [run]
    split
    · exact ihr re _ hP.left (fun hr => hbehind (.inl hr)) hk st h
    · exact iht re next hP.right (fun ht => hbehind (.inr ht)) hk st h
  | ahead negated r ih =>
    intro st h
    rw [run_ahead]
    exact goOn_confined hP.restorable hk negated h (ih re none hP hbehind hc st.note h.note)
  | behind negated w r ih =>
    obtain rfl : first = 0 := hbehind rfl
    intro st h
    have hback : (st.at_ (st.pos - w.least)).Confined 0 last P :=
      ⟨Nat.zero_le _, Nat.le_trans (Nat.sub_le _ _) h.le_last, Nat.zero_le _,
        Nat.le_trans (Nat.sub_le _ _) h.le_last, h.marks⟩
    rw [run_behind]
    split
    · split
      · exact hk st h
      · exact h.fail
    · exact goOn_confined hP.restorable hk negated h (ih re none hP (fun _ => rfl) hc _ hback)
  | atomic r ih =>
    intro st h
    have hround := ih re none hP hbehind hc st.note h.note
    simp only [run]
    split
    · next heq =>
      rw [heq] at hround
      exact hk _ hround
    · next heq =>
      rw [heq] at hround
      exact ⟨h.first_le, h.le_last, hround.2.2⟩
  | loop greed least most r ih =>
    intro st h
    rw [run_loop]
    split
    · exact runChars_confined hP.restorable hlast hk _ _ _ _ h
    · exact runGreedy_confined hk (fun k hk => ih true none hP hbehind hk) _ _ _ _ st h
    · exact runLazy_confined hP.restorable hk (fun k hk => ih true none hP hbehind hk) _ _ _ _ st h
    · exact runPossessive_confined hk (ih re none hP hbehind hc) _ _ _ st h

/-- A match is confined when the position it starts from and no marks at all are. -/
theorem matchAt_confined {r : Regex} {pos : Nat} {t : MatchState}
    (hP : Marks.Lasting r.groups first s.size P) (hbehind : r.looksBehind = true → first = 0)
    (hfirst : first ≤ pos) (hpos : pos ≤ s.size) (hnone : P Marks.none)
    (h : r.matchAt s pos = .matched t) : t.Confined first s.size P := by
  have hstart : (MatchState.start pos).Confined first s.size P :=
    ⟨hfirst, hpos, hfirst, hpos, hnone⟩
  have hend : (r.matchAt s pos).Confined first s.size P :=
    run_confined s r (Nat.le_refl _) false none hP hbehind Rest.Confines.complete _ hstart
  rw [h] at hend
  exact hend

end Regex

end Confining

end Highlighting
