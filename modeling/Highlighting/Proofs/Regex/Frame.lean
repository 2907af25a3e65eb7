import Highlighting.Regex.Match

/-!
# What an attempt leaves alone

A way through an expression sets the marks of the groups in it and no others, and what is
attempted afterwards sets marks of its own. Whether the attempt succeeds or fails, every other
mark is the one it started with: a way that is given up is cut back, and cutting back unsets
only what was not there before. Where the attempt succeeds, it does so because the rest
succeeded from some state that differs from the first at those places only.

The statement is about a set of places that holds those of the expression and those of the
rest, so it passes unchanged through every construct.

## Main definitions

* `Marks.AgreeOff` -- two rows of marks differ at most at some places.
* `Attempt.Keeps`, `Rest.Touches` -- an attempt, or a rest, changes marks at some places only.
* `Attempt.Reaches` -- a match is one of the rest, from a state that keeps all other marks.
* `Regex.groups`, `Regex.Marking` -- the groups of an expression and their places.
* `Regex.goOn`, `Regex.runPossessive` -- what comes after a look-around, and rounds that give
  nothing back.
-/
namespace Highlighting

namespace Marks

/-- The marks agree at every place outside of `T`. -/
def AgreeOff (T : Nat → Prop) (earlier m : Marks) : Prop :=
  ∀ i, ¬ T i → m.at? i = earlier.at? i

/-- Marks cut back to a length are unset from there on. -/
theorem at?_take (m : Marks) (n i : Nat) :
    at? ⟨m.row.take n⟩ i = if i < n then m.at? i else Option.none := by
  unfold at?
  rw [List.getElem?_take]
  split <;> rfl

theorem at?_eq_none_of_le {m : Marks} {i : Nat} (h : m.row.length ≤ i) :
    m.at? i = Option.none := by
  unfold at?
  rw [List.getElem?_eq_none h]
  rfl

namespace AgreeOff
variable {T : Nat → Prop} {a b c : Marks}

@[refl] theorem refl (T : Nat → Prop) (m : Marks) : AgreeOff T m m := fun _ _ => rfl

theorem trans (h : AgreeOff T a b) (h' : AgreeOff T b c) : AgreeOff T a c :=
  fun i hi => (h' i hi).trans (h i hi)

/-- Restoring undoes nothing outside of the places that were changed. -/
theorem restored (repeating : Bool) (h : AgreeOff T a b) :
    AgreeOff T a (restored repeating a b) := by
  intro i hi
  unfold Marks.restored
  split
  · rfl
  · rw [at?_take]
    split
    · exact h i hi
    · next hlt => exact (at?_eq_none_of_le (Nat.le_of_not_lt hlt)).symm

theorem opened (m : Marks) {g : Nat} (p : Nat) (hT : T (2 * (g - 1))) :
    AgreeOff T m (m.opened g p) := by
  intro i hi
  rw [Marks.opened, at?_mark, if_neg]
  rintro rfl
  exact hi hT

theorem closed (m : Marks) {g : Nat} (p : Nat) (hT : T (2 * (g - 1) + 1)) :
    AgreeOff T m (m.closed g p) := by
  intro i hi
  rw [Marks.closed, at?_mark, if_neg]
  rintro rfl
  exact hi hT

end AgreeOff

end Marks

namespace Attempt
variable {T : Nat → Prop} {m m' : Marks} {k k' : Rest} {a : Attempt}

/-- However the attempt ends, its marks agree with earlier ones outside of `T`. -/
def Keeps (T : Nat → Prop) (earlier : Marks) : Attempt → Prop
  | matched st => Marks.AgreeOff T earlier st.marks
  | failed _ m => Marks.AgreeOff T earlier m

/-- The attempt is a match of the rest `k` from a state whose marks agree with earlier ones
outside of `T`, or it fails with such marks. -/
def Reaches (T : Nat → Prop) (earlier : Marks) (k : Rest) : Attempt → Prop
  | matched st => ∃ u : MatchState, Marks.AgreeOff T earlier u.marks ∧ k u = matched st
  | failed _ m => Marks.AgreeOff T earlier m

/-- Failing with marks that agree. -/
theorem Reaches.fail {st : MatchState} (h : Marks.AgreeOff T m st.marks) :
    st.fail.Reaches T m k := h

theorem Reaches.orElse {f : Nat → Marks → Attempt} (ha : a.Reaches T m k)
    (hf : ∀ n m', Marks.AgreeOff T m m' → (f n m').Reaches T m k) :
    (a.orElse f).Reaches T m k := by
  cases a with
  | matched st => exact ha
  | failed n m' => exact hf n m' ha

/-- A rest that is an attempt of another rest may be passed over. -/
theorem Reaches.trans (ha : a.Reaches T m k') (hk : ∀ u, (k' u).Reaches T u.marks k) :
    a.Reaches T m k := by
  cases a with
  | failed n m' => exact ha
  | matched st =>
    obtain ⟨u, hu, hm⟩ := ha
    have h := hk u
    rw [hm] at h
    obtain ⟨v, hv, hm⟩ := h
    exact ⟨v, hu.trans hv, hm⟩

theorem Reaches.of_agreeOff (h : Marks.AgreeOff T m m') (ha : a.Reaches T m' k) :
    a.Reaches T m k := by
  cases a with
  | failed n m'' => exact h.trans ha
  | matched st =>
    obtain ⟨u, hu, hm⟩ := ha
    exact ⟨u, h.trans hu, hm⟩

end Attempt

/-- A rest changes marks at places in `T` only. -/
def Rest.Touches (T : Nat → Prop) (k : Rest) : Prop :=
  ∀ st, (k st).Keeps T st.marks

namespace Rest.Touches
variable {T : Nat → Prop} {k : Rest} {m : Marks} {a : Attempt}

theorem complete (T : Nat → Prop) : Rest.Touches T MatchState.complete :=
  fun st => Marks.AgreeOff.refl T st.marks

theorem mono {T' : Nat → Prop} (hk : Rest.Touches T k) (hT : ∀ i, T i → T' i) :
    Rest.Touches T' k := by
  intro st
  have := hk st
  generalize k st = b at this
  cases b with
  | matched u => exact fun i hi => this i fun hTi => hi (hT i hTi)
  | failed n m' => exact fun i hi => this i fun hTi => hi (hT i hTi)

/-- The rest itself, from a state reached by touching places of `T` only. -/
theorem reaches (hk : Rest.Touches T k) {st : MatchState} (h : Marks.AgreeOff T m st.marks) :
    (k st).Reaches T m k := by
  have := hk st
  generalize hks : k st = b at this
  cases b with
  | matched u => exact ⟨st, h, hks⟩
  | failed n m' => exact h.trans this

/-- What reaches such a rest keeps the marks as the rest does. -/
theorem keeps (hk : Rest.Touches T k) (ha : a.Reaches T m k) : a.Keeps T m := by
  cases a with
  | failed n m' => exact ha
  | matched st =>
    obtain ⟨u, hu, hm⟩ := ha
    have := hk u
    rw [hm] at this
    exact hu.trans this

end Rest.Touches

namespace Regex

/-- The capturing groups of an expression, in the order in which they open. -/
def groups : Regex → List Nat
  | empty => []
  | never => []
  | char _ => []
  | anchor _ => []
  | seq r s => r.groups ++ s.groups
  | alt r s => r.groups ++ s.groups
  | capture n r => n :: r.groups
  | backref _ _ => []
  | conditional _ r s => r.groups ++ s.groups
  | ahead _ r => r.groups
  | behind _ _ r => r.groups
  | atomic r => r.groups
  | loop _ _ _ r => r.groups

/-- The places of the marks of some groups. -/
def Marking (groups : List Nat) (i : Nat) : Prop :=
  ∃ g ∈ groups, i = 2 * (g - 1) ∨ i = 2 * (g - 1) + 1

theorem Marking.mono {gs hs : List Nat} (h : ∀ g ∈ gs, g ∈ hs) {i : Nat} (hi : Marking gs i) :
    Marking hs i := by
  obtain ⟨g, hg, hgi⟩ := hi
  exact ⟨g, h g hg, hgi⟩

theorem Marking.left {gs hs : List Nat} {i : Nat} (hi : Marking gs i) : Marking (gs ++ hs) i :=
  hi.mono fun _ hg => List.mem_append_left _ hg

theorem Marking.right {gs hs : List Nat} {i : Nat} (hi : Marking hs i) : Marking (gs ++ hs) i :=
  hi.mono fun _ hg => List.mem_append_right _ hg

/-! ## Ways through look-arounds and repetitions -/

/-- What comes after a look-around that was attempted for itself: the rest, from where the
look-around began, if it had to match and did, or did not and must not have. -/
def goOn (re negated : Bool) (k : Rest) (st : MatchState) (a : Attempt) : Attempt :=
  match a, negated with
  | .matched u, false => k { u with pos := st.pos }
  | .matched u, true => u.fail
  | .failed noted marks, false => .failed noted marks
  | .failed noted marks, true =>
    k { st with noted := noted, marks := st.marks.restored re marks }

/-- Rounds that give nothing back, and then the rest. -/
def runPossessive (body k : Rest) (fuel least : Nat) (most : Option Nat) : Rest :=
  fun st => match runTimes body least st.note with
    | .matched u => k (runOn body fuel (most.map (· - least)) none u)
    | .failed _ marks => .failed st.pos marks

section Equations
variable (s : Subject) (re : Bool) (r : Regex) (next : Option CharTest) (k : Rest) (st : MatchState)

theorem run_ahead (negated : Bool) : (ahead negated r).run s re next k st =
    goOn re negated k st (r.run s re none MatchState.complete st.note) := rfl

theorem run_behind (negated : Bool) (w : Width) : (behind negated w r).run s re next k st =
    if st.pos < w.least then (if negated then k st else st.fail)
    else goOn re negated k st
      (r.run s re none MatchState.complete (st.at_ (st.pos - w.least))) := rfl

theorem run_loop (greed : Greed) (least : Nat) (most : Option Nat) :
    (loop greed least most r).run s re next k st =
      match r.single?, greed with
      | some t, _ => runChars s re next k t greed least most st
      | none, .greedy => runGreedy (r.run s true none) k (rounds s least) least most none st
      | none, .lazily => runLazy re (r.run s true none) k (rounds s least) least most none st
      | none, .possessive =>
        runPossessive (r.run s re none MatchState.complete) k (rounds s 0) least most st := rfl

end Equations

section Pieces
variable {T : Nat → Prop} {k : Rest} {s : Subject} {re : Bool} {next : Option CharTest}

theorem goOn_reaches (hk : Rest.Touches T k) (negated : Bool) {st : MatchState} {a : Attempt}
    (ha : a.Keeps T st.marks) : (goOn re negated k st a).Reaches T st.marks k := by
  cases a with
  | matched u =>
    cases negated with
    | false => exact hk.reaches ha
    | true => exact .fail ha
  | failed noted m =>
    cases negated with
    | false => exact ha
    | true => exact hk.reaches (ha.restored re)

theorem attemptAt_reaches (hk : Rest.Touches T k) (pos : Nat) (st : MatchState) :
    (attemptAt s re next k pos st).Reaches T st.marks k := by
  unfold attemptAt
  split
  · exact Attempt.Reaches.fail (Marks.AgreeOff.refl T _)
  · exact (hk.reaches (Marks.AgreeOff.refl T _)).orElse fun n m h => h.restored re

theorem giveBack_reaches (hk : Rest.Touches T k) (first extra : Nat) (st : MatchState) :
    (giveBack s re next k first extra st).Reaches T st.marks k := by
  induction extra generalizing st with
  | zero => exact attemptAt_reaches hk first st
  | succ extra ih =>
    exact (attemptAt_reaches hk _ st).orElse fun n m h => (ih _).of_agreeOff h

/-- One step of taking more characters. -/
theorem takeMore_eq (k : Rest) (t : CharTest) (extra : Nat) (st : MatchState) :
    takeMore s re k t extra st = (attemptAt s re none k st.pos st).orElse fun _ marks =>
      if t.holdsAt s st.pos then
        match extra with
        | 0 => .failed (t.notedAfter st.pos 1) marks
        | extra + 1 => takeMore s re k t extra ⟨st.pos + 1, st.pos, marks⟩
      else .failed st.pos marks := by
  cases extra <;> rfl

theorem takeMore_reaches (hk : Rest.Touches T k) (t : CharTest) (extra : Nat) (st : MatchState) :
    (takeMore s re k t extra st).Reaches T st.marks k := by
  induction extra generalizing st with
  | zero =>
    rw [takeMore_eq]
    refine (attemptAt_reaches hk _ st).orElse fun n m h => ?_
    split <;> exact h
  | succ extra ih =>
    rw [takeMore_eq]
    refine (attemptAt_reaches hk _ st).orElse fun n m h => ?_
    split
    · exact (ih _).of_agreeOff h
    · exact h

theorem runChars_reaches (hk : Rest.Touches T k) (t : CharTest) (greed : Greed) (least : Nat)
    (most : Option Nat) (st : MatchState) :
    (runChars s re next k t greed least most st).Reaches T st.marks k := by
  have here := Marks.AgreeOff.refl T st.marks
  unfold runChars
  split
  · exact .fail here
  · cases greed with
    | greedy =>
      dsimp only
      split
      · exact .fail here
      · exact giveBack_reaches hk _ _ _
    | lazily =>
      dsimp only
      split
      · exact .fail here
      · exact takeMore_reaches hk _ _ _
    | possessive =>
      dsimp only
      split
      · exact .fail here
      · exact hk.reaches here

variable {body : Rest → Rest}

theorem runGreedy_reaches (hk : Rest.Touches T k)
    (hbody : ∀ k, Rest.Touches T k → ∀ st, (body k st).Reaches T st.marks k) (fuel least : Nat)
    (most last : Option Nat) (st : MatchState) :
    (runGreedy body k fuel least most last st).Reaches T st.marks k := by
  induction fuel generalizing least most last st with
  | zero => exact .fail (Marks.AgreeOff.refl T _)
  | succ fuel ih =>
    have rounds (least : Nat) (most last : Option Nat) :
        (body (runGreedy body k fuel least most last) st.note).Reaches T st.marks k :=
      (hbody _ (fun u => hk.keeps (ih _ _ _ u)) st.note).trans (ih least most last)
    have leave : ((k st.note).orElse fun _ marks => .failed st.pos marks).Reaches T st.marks k :=
      (hk.reaches (Marks.AgreeOff.refl T _)).orElse fun n m h => h
    cases least with
    | zero =>
      unfold runGreedy
      dsimp only
      split
      · exact (rounds _ _ _).orElse fun n m h => leave
      · exact leave
    | succ least => exact (rounds _ _ _).orElse fun n m h => h

theorem runLazy_reaches (hk : Rest.Touches T k)
    (hbody : ∀ k, Rest.Touches T k → ∀ st, (body k st).Reaches T st.marks k) (fuel least : Nat)
    (most last : Option Nat) (st : MatchState) :
    (runLazy re body k fuel least most last st).Reaches T st.marks k := by
  induction fuel generalizing least most last st with
  | zero => exact .fail (Marks.AgreeOff.refl T _)
  | succ fuel ih =>
    have rounds (least : Nat) (most last : Option Nat) (u : MatchState) :
        (body (runLazy re body k fuel least most last) u).Reaches T u.marks k :=
      (hbody _ (fun u => hk.keeps (ih _ _ _ u)) u).trans (ih least most last)
    cases least with
    | zero =>
      unfold runLazy
      refine (hk.reaches (Marks.AgreeOff.refl T _)).orElse fun n m h => ?_
      dsimp only
      split
      · exact ((rounds _ _ _ _).of_agreeOff (h.restored re)).orElse fun n m h => h
      · exact h.restored re
    | succ least => exact (rounds _ _ _ st.note).orElse fun n m h => h

theorem runOn_agreeOff {body : Rest} (hbody : Rest.Touches T body) (fuel : Nat)
    (most last : Option Nat) (st : MatchState) :
    Marks.AgreeOff T st.marks (runOn body fuel most last st).marks := by
  induction fuel generalizing most last st with
  | zero => exact Marks.AgreeOff.refl T _
  | succ fuel ih =>
    unfold runOn
    split
    · have h := hbody st.note
      split
      · next t ht =>
        rw [ht] at h
        exact Marks.AgreeOff.trans h (ih _ _ t)
      · exact Marks.AgreeOff.refl T _
    · exact Marks.AgreeOff.refl T _

theorem runTimes_touches {body : Rest} (hbody : Rest.Touches T body) (n : Nat) :
    Rest.Touches T (runTimes body n) := by
  induction n with
  | zero => exact fun st => Marks.AgreeOff.refl T _
  | succ n ih =>
    intro st
    have h := hbody st.note
    unfold runTimes
    split
    · next t ht =>
      rw [ht] at h
      exact ih.keeps ((ih.reaches (Marks.AgreeOff.refl T _)).of_agreeOff h)
    · next noted marks hf =>
      rw [hf] at h
      exact h

theorem runPossessive_reaches {body : Rest} (hk : Rest.Touches T k) (hbody : Rest.Touches T body)
    (fuel least : Nat) (most : Option Nat) (st : MatchState) :
    (runPossessive body k fuel least most st).Reaches T st.marks k := by
  have h := runTimes_touches hbody least st.note
  unfold runPossessive
  split
  · next u heq =>
    rw [heq] at h
    exact hk.reaches (h.trans (runOn_agreeOff hbody _ _ _ u))
  · next heq =>
    rw [heq] at h
    exact h

end Pieces

/-- **An attempt leaves alone the marks of groups that stand neither in the expression nor in
the rest**, whether it succeeds or not, and a match is one of the rest. -/
theorem run_reaches (s : Subject) (r : Regex) {T : Nat → Prop} (re : Bool)
    (next : Option CharTest) {k : Rest} (hr : ∀ i, Marking r.groups i → T i)
    (hk : Rest.Touches T k) (st : MatchState) :
    (r.run s re next k st).Reaches T st.marks k := by
  induction r generalizing re next k st with
  | empty => exact hk.reaches (Marks.AgreeOff.refl T _)
  | never => exact .fail (Marks.AgreeOff.refl T _)
  | char t =>
    simp only [run]
    split
    · exact hk.reaches (Marks.AgreeOff.refl T _)
    · exact .fail (Marks.AgreeOff.refl T _)
  | anchor a =>
    simp only [run]
    split
    · exact hk.reaches (Marks.AgreeOff.refl T _)
    · exact .fail (Marks.AgreeOff.refl T _)
  | seq r t ihr iht =>
    have hrest := iht re next (fun i hi => hr i hi.right) hk
    exact (ihr re _ (fun i hi => hr i hi.left) (fun u => hk.keeps (hrest u)) st).trans hrest
  | alt r t ihr iht =>
    simp only [run]
    have hsecond := iht re next (fun i hi => hr i hi.right) hk
    split
    · exact hsecond st
    · exact (ihr re none (fun i hi => hr i hi.left) hk st.note).orElse fun n m h =>
        (hsecond _).of_agreeOff (h.restored re)
  | capture n r ih =>
    have hopen : T (2 * (n - 1)) := hr _ ⟨n, List.mem_cons_self, .inl rfl⟩
    have hclose : T (2 * (n - 1) + 1) := hr _ ⟨n, List.mem_cons_self, .inr rfl⟩
    have hrest : ∀ u : MatchState,
        (k { u with marks := u.marks.closed n u.pos }).Reaches T u.marks k :=
      fun u => hk.reaches (Marks.AgreeOff.closed u.marks u.pos hclose)
    refine Attempt.Reaches.of_agreeOff (Marks.AgreeOff.opened st.marks st.pos hopen) ?_
    exact (ih re none (fun i hi => hr i (hi.mono fun g hg => List.mem_cons_of_mem _ hg))
      (fun u => hk.keeps (hrest u)) _).trans hrest
  | backref f n =>
    simp only [run]
    split
    · split
      · exact hk.reaches (Marks.AgreeOff.refl T _)
      · exact .fail (Marks.AgreeOff.refl T _)
    · exact .fail (Marks.AgreeOff.refl T _)
  | conditional n r t ihr iht =>
    simp only [run]
    split
    · exact ihr re _ (fun i hi => hr i hi.left) hk st
    · exact iht re next (fun i hi => hr i hi.right) hk st
  | ahead negated r ih =>
    have hc := Rest.Touches.complete T
    rw [run_ahead]
    exact goOn_reaches hk negated (hc.keeps (ih re none hr hc st.note))
  | behind negated w r ih =>
    have hc := Rest.Touches.complete T
    rw [run_behind]
    split
    · split
      · exact hk.reaches (Marks.AgreeOff.refl T _)
      · exact .fail (Marks.AgreeOff.refl T _)
    · exact goOn_reaches hk negated (hc.keeps (ih re none hr hc (st.at_ (st.pos - w.least))))
  | atomic r ih =>
    have hc := Rest.Touches.complete T
    have h := hc.keeps (ih re none hr hc st.note)
    simp only [run]
    split
    · next heq => rw [heq] at h; exact hk.reaches h
    · next heq => rw [heq] at h; exact h
  | loop greed least most r ih =>
    have hc := Rest.Touches.complete T
    rw [run_loop]
    split
    · exact runChars_reaches hk _ _ _ _ st
    · exact runGreedy_reaches hk (fun k hk => ih true none hr hk) _ _ _ _ st
    · exact runLazy_reaches hk (fun k hk => ih true none hr hk) _ _ _ _ st
    · exact runPossessive_reaches hk (fun u => hc.keeps (ih re none hr hc u)) _ _ _ st

/-- The marks of a complete attempt differ from the first ones at the groups of the expression
only. -/
theorem run_complete_keeps (s : Subject) (r : Regex) (re : Bool) (next : Option CharTest)
    (st : MatchState) :
    (r.run s re next MatchState.complete st).Keeps (Marking r.groups) st.marks :=
  (Rest.Touches.complete _).keeps
    (run_reaches s r re next (fun _ hi => hi) (Rest.Touches.complete _) st)

/-! ## A group around an expression -/

/-- **A group that is attempted for itself spans exactly what it matched**: it starts where the
attempt began and ends where the match ends. -/
theorem span_of_run_capture {s : Subject} {r : Regex} {n : Nat} {re : Bool}
    {next : Option CharTest} {st t : MatchState} (hn : 0 < n) (hr : ∀ g ∈ r.groups, n < g)
    (h : (capture n r).run s re next MatchState.complete st = .matched t) :
    t.marks.start? n = some st.pos ∧ t.marks.stop? n = some t.pos := by
  -- The groups inside have later places, and the rest closes the group and does nothing else.
  let T : Nat → Prop := fun i => Marking r.groups i ∨ i = 2 * (n - 1) + 1
  have hk : Rest.Touches T fun u =>
      MatchState.complete { u with marks := u.marks.closed n u.pos } :=
    fun u => Marks.AgreeOff.closed (T := T) u.marks u.pos (Or.inr rfl)
  have hreach := run_reaches s r re none (T := T) (fun i hi => Or.inl hi) hk
    { st with marks := st.marks.opened n st.pos }
  simp only [run] at h
  rw [h] at hreach
  obtain ⟨u, hu, hm⟩ := hreach
  cases hm
  have hstart : ¬ T (2 * (n - 1)) := by
    rintro (⟨g, hg, hgi⟩ | hi)
    · have := hr g hg
      omega
    · omega
  constructor
  · have hkept : u.marks.start? n = (st.marks.opened n st.pos).start? n := hu _ hstart
    rw [Marks.start?_opened st.marks st.pos hn hn, if_pos rfl] at hkept
    simpa [MatchState.note] using hkept
  · simp [MatchState.note, Marks.stop?_closed u.marks u.pos hn hn]

end Regex

end Highlighting
