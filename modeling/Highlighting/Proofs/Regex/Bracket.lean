import Highlighting.Proofs.Regex.Reading

/-!
# A bracket behind a pattern

The pattern of a rule is put into a group, and the bracket behind it has to close that group. It
does so if, read alone, the pattern with the bracket behind ends before the bracket because no
group is open there. What a construct is depends on nothing but the text and on whether white
space is skipped, so this can be told without the groups and the names around the pattern.

A pattern that can be read alone passes the test unless it ends in a comment. Comments up to the
end of the line are read only where white space is skipped, so where the flags do not ask for
that every such pattern passes.

## Main definitions

* `strayBracket` -- the text from the first bracket on that closes no group.
* `closesGroup` -- a bracket behind a pattern is such a bracket.
* `InStep` -- a reader stands where the scan of a pattern stands.
-/
namespace Highlighting

/-- White space is skipped inside of a group, given whether it is skipped around it. -/
def Opening.skips (around : Bool) (o : Opening) : Bool :=
  (o.innerModes { Modes.none with verbose := around }).verbose

theorem Opening.verbose_eq_skips (m : Modes) (o : Opening) :
    (o.innerModes m).verbose = o.skips m.verbose := by
  have h : m.verbose = ({ Modes.none with verbose := m.verbose } : Modes).verbose := rfl
  exact verbose_innerModes h o

/-- Whether white space is skipped behind a construct, and whether it is around the groups that
are open there, innermost first. -/
def Construct.scan : Construct → (skips : Bool) → (outer : List Bool) → Option (Bool × List Bool)
  | opening o, v, outer => some (o.skips v, v :: outer)
  | closing, _, v :: outer => some (v, outer)
  | closing, _, [] => none
  | globalModes _, _, _ => none
  | _, v, outer => some (v, outer)

/-- The text from the first bracket on that closes no group. -/
def strayBracket : (fuel : Nat) → (skips : Bool) → (outer : List Bool) → Text → Option Text
  | 0, _, _, _ => none
  | fuel + 1, v, outer, t =>
    if outer = [] ∧ t.head? = some ')' then some t
    else
      match Construct.read v t with
      | .error _ => none
      | .ok (c, tail) =>
        match c.scan v outer with
        | none => none
        | some (v, outer) => strayBracket fuel v outer (c.behind tail)

/-- A bracket put behind a pattern closes a group around the pattern. -/
def closesGroup (skips : Bool) (pattern : Text) : Bool :=
  strayBracket (pattern.length + 2) skips [] (pattern ++ [')']) == some [')']

namespace Reader

/-- A reader that has opened some groups above others stands where a scan stands. -/
structure InStep (bottom : List OpenGroup) (skips : Bool) (outer : List Bool) (r : Reader) :
    Prop where
  verbose : r.level.modes.verbose = skips
  groups : ∃ inner, r.groups = inner ++ bottom ∧
    inner.map (fun g => g.outer.modes.verbose) = outer

namespace InStep
variable {bottom : List OpenGroup} {v v' : Bool} {outer outer' : List Bool} {r s : Reader}

theorem of_eq (h : InStep bottom v outer r)
    (hverbose : s.level.modes.verbose = r.level.modes.verbose)
    (hgroups : s.groups = r.groups) : InStep bottom v outer s :=
  ⟨hverbose.trans h.verbose, hgroups ▸ h.groups⟩

/-- Opening a group. -/
theorem enter (h : InStep bottom v outer r) {o : Opening}
    (hverbose : s.level.modes.verbose = (o.innerModes r.level.modes).verbose)
    {kind : GroupKind} {opened : Nat} (hgroups : s.groups = ⟨kind, opened, r.level⟩ :: r.groups) :
    InStep bottom (o.skips v) (v :: outer) s := by
  obtain ⟨inner, hinner, houter⟩ := h.groups
  refine ⟨?_, ⟨kind, opened, r.level⟩ :: inner, ?_, ?_⟩
  · rw [hverbose, Opening.verbose_eq_skips, h.verbose]
  · rw [hgroups, hinner]
    rfl
  · rw [List.map_cons, houter, h.verbose]

theorem close_groups (r : Reader) (g : OpenGroup) (rest : List OpenGroup) :
    (r.close g rest).groups = rest ∧ (r.close g rest).names = r.names ∧
      (r.close g rest).level = g.outer.push .item (r.groupItems g.kind) := by
  unfold close
  dsimp only
  split <;> exact ⟨rfl, rfl, rfl⟩

/-- **A reader stays in step** with the scan of the constructs that it reads. -/
theorem effect (h : InStep bottom v outer r) {c : Construct} {tail : Text} (he : Effect r tail c s)
    (hscan : c.scan v outer = some (v', outer')) : InStep bottom v' outer' s := by
  cases he with
  | blank => cases hscan; exact h
  | item hputs => cases hputs <;> cases hscan <;> exact h.of_eq rfl rfl
  | quantifier hpieces => cases hscan; exact h.of_eq rfl rfl
  | bar => cases hscan; exact h.of_eq rfl rfl
  | enter hkind => cases hscan; exact h.enter rfl rfl
  | capture => cases hscan; exact h.enter rfl rfl
  | named hname => cases hscan; exact h.enter rfl rfl
  | @closing g rest hgroups =>
    obtain ⟨inner, hinner, houter⟩ := h.groups
    obtain ⟨hclosed, _, hlevel⟩ := close_groups r g rest
    cases inner with
    | nil =>
      cases houter
      cases hscan
    | cons g' inner =>
      rw [hgroups, List.cons_append, List.cons.injEq] at hinner
      obtain ⟨rfl, rfl⟩ := hinner
      cases houter
      cases hscan
      refine ⟨?_, inner, hclosed, rfl⟩
      rw [hlevel]
      rfl
  | globalModes => cases hscan

end InStep

theorem Effect.names_suffix {r s : Reader} {c : Construct} {tail : Text} (h : Effect r tail c s) :
    r.names <:+ s.names := by
  cases h with
  | named => exact List.suffix_cons _ _
  | closing => exact ⟨[], (InStep.close_groups r _ _).2.1.symm⟩
  | _ => exact List.suffix_refl _

/-- A reader that is not at its end reads a construct. -/
theorem Halts.read {r last : Reader} {input left : Text} (h : Halts r input last left)
    (hinput : input ≠ []) (hstray : r.atStrayBracket input = false) :
    ∃ c tail s, Construct.read r.level.modes.verbose input = .ok (c, tail) ∧ Effect r tail c s ∧
      Halts s (c.behind tail) last left := by
  cases h with
  | finished => exact absurd rfl hinput
  | stray h => exact absurd h (Bool.eq_false_iff.mp hstray)
  | @step _ s _ _ rest _ _ _ hstep hrest =>
    obtain ⟨c, tail, hread, heffect, rfl⟩ := step_effect hstep
    exact ⟨c, tail, s, hread, heffect, hrest⟩

end Reader

/-! ## A pattern inside of a group -/

/-- The scan goes on behind a construct unless it stands at the bracket. -/
theorem strayBracket_of_read {fuel : Nat} {v : Bool} {outer : List Bool} {t tail : Text}
    {c : Construct} (hstop : ¬ (outer = [] ∧ t.head? = some ')'))
    (hread : Construct.read v t = .ok (c, tail)) :
    strayBracket (fuel + 1) v outer t =
      (c.scan v outer).bind fun p => strayBracket fuel p.1 p.2 (c.behind tail) := by
  rw [strayBracket, if_neg hstop, hread]
  dsimp only
  cases c.scan v outer <;> rfl

/-- A scan that finds a bracket stands at it, or goes on behind a construct. -/
theorem strayBracket_cases {fuel : Nat} {v : Bool} {outer : List Bool} {t left : Text}
    (h : strayBracket (fuel + 1) v outer t = some left) :
    (outer = [] ∧ t.head? = some ')' ∧ left = t) ∨
      ∃ c tail v' outer', Construct.read v t = .ok (c, tail) ∧ c.scan v outer = some (v', outer') ∧
        strayBracket fuel v' outer' (c.behind tail) = some left := by
  by_cases hstop : outer = [] ∧ t.head? = some ')'
  · rw [strayBracket, if_pos hstop] at h
    cases h
    exact .inl ⟨hstop.1, hstop.2, rfl⟩
  · cases hread : Construct.read v t with
    | error e =>
      rw [strayBracket, if_neg hstop, hread] at h
      cases h
    | ok p =>
      rw [strayBracket_of_read hstop hread] at h
      obtain ⟨⟨v', outer'⟩, hscan, h⟩ := Option.bind_eq_some_iff.mp h
      exact .inr ⟨p.1, p.2, v', outer', rfl, hscan, h⟩

theorem suffix_of_strayBracket {fuel : Nat} {v : Bool} {outer : List Bool} {t left : Text}
    (h : strayBracket fuel v outer t = some left) : left <:+ t := by
  induction fuel generalizing v outer t with
  | zero => cases h
  | succ fuel ih =>
    rcases strayBracket_cases h with ⟨-, -, rfl⟩ | ⟨c, tail, v', outer', hread, -, h⟩
    · exact List.suffix_refl _
    · exact (ih h).trans ((Reader.behind_suffix c tail).trans (Construct.suffix_of_read hread).1)

/-- The sign of a quantifier is not put behind. -/
theorem behind_append {c : Construct} {rest more : Text} (hguard : Guarded rest more) :
    c.behind (rest ++ more) = c.behind rest ++ more := by
  cases rest with
  | nil =>
    obtain ⟨more, rfl⟩ := hguard.of_nil
    cases c <;> rfl
  | cons d rest =>
    unfold Construct.behind
    grind

/-- **A reader in a group gets to the bracket behind a pattern** that such a bracket closes,
with the groups open that were open before the pattern. -/
theorem Reader.Halts.behind_pattern {bottom : List OpenGroup} (hbottom : bottom ≠ []) {fuel : Nat}
    {v : Bool} {outer : List Bool} {t more : Text}
    (hscan : strayBracket fuel v outer t = some [')']) {r last : Reader} {left : Text}
    (hr : InStep bottom v outer r) (h : Halts r (t ++ more) last left) :
    ∃ v' s, InStep bottom v' [] s ∧ Halts s (')' :: more) last left ∧ r.names <:+ s.names := by
  induction fuel generalizing v outer t r with
  | zero => cases hscan
  | succ fuel ih =>
    have hsuffix := suffix_of_strayBracket hscan
    rcases strayBracket_cases hscan with ⟨rfl, -, rfl⟩ | ⟨c, tail, v', outer', hread, hstep, hscan⟩
    · exact ⟨v, r, hr, h, List.suffix_refl _⟩
    have hleft : [')'] <:+ tail :=
      (suffix_of_strayBracket hscan).trans (Reader.behind_suffix c tail)
    have hguard : Guarded tail more :=
      List.mem_append_left _ (hleft.subset (List.mem_singleton_self _))
    have hline : tail ≠ [] ∧ tail ≠ ['\\'] := by
      constructor <;> rintro rfl
      · exact absurd hleft.length_le (by decide)
      · exact absurd (hleft.subset (List.mem_singleton_self _)) (by decide)
    obtain ⟨inner, hgroups, -⟩ := hr.groups
    obtain ⟨c', tail', s, hread', heffect, hrest⟩ := h.read
      (by simpa using fun ht => absurd (ht ▸ hsuffix.length_le) (by decide))
      (by simp [atStrayBracket, hgroups, hbottom])
    rw [hr.verbose, Construct.read_append hread hguard
      (Construct.runsOn_eq_false hread fun _ _ => hline)] at hread'
    cases hread'
    rw [behind_append hguard] at hrest
    obtain ⟨v'', s', hs', hrest', hnames⟩ := ih hscan (hr.effect heffect hstep) hrest
    exact ⟨v'', s', hs', hrest', heffect.names_suffix.trans hnames⟩

theorem Construct.getLast?_scan {c : Construct} {v v' : Bool} {outer outer' : List Bool}
    (h : c.scan v outer = some (v', outer')) :
    (v' :: outer').getLast? = (v :: outer).getLast? := by
  cases c with
  | opening o =>
    cases h
    exact List.getLast?_cons_cons
  | closing =>
    cases outer with
    | nil => cases h
    | cons =>
      cases h
      exact List.getLast?_cons_cons.symm
  | globalModes => cases h
  | _ => cases h; rfl

theorem Reader.InStep.scan {v : Bool} {outer : List Bool} {r s : Reader}
    (hr : InStep [] v outer r) {c : Construct} {tail : Text} (h : Effect r tail c s)
    (hc : ∀ on, c ≠ .globalModes on) : ∃ v' outer', c.scan v outer = some (v', outer') := by
  cases c with
  | globalModes on => exact absurd rfl (hc on)
  | closing =>
    obtain ⟨g, rest, hgroups, -⟩ := h.exists_of_closing
    obtain ⟨inner, hinner, houter⟩ := hr.groups
    cases outer with
    | nil =>
      rw [List.map_eq_nil_iff.mp houter, hgroups] at hinner
      cases hinner
    | cons v' outer => exact ⟨v', outer, rfl⟩
  | opening o => exact ⟨_, _, rfl⟩
  | _ => exact ⟨_, _, rfl⟩

namespace Reader

/-- A reader stops with no group open. -/
theorem InStep.outer_eq_nil {v : Bool} {outer : List Bool} {r : Reader} (hr : InStep [] v outer r)
    (hgroups : r.groups = []) : outer = [] := by
  obtain ⟨inner, hinner, rfl⟩ := hr.groups
  rw [hgroups, List.append_nil] at hinner
  rw [← hinner]
  rfl

/-- A reader that goes on is at no bracket, and no bracket behind its text changes that. -/
theorem InStep.not_stray {v : Bool} {outer : List Bool} {r : Reader} {t : Text}
    (hr : InStep [] v outer r) (ht : t ≠ []) (hstray : r.atStrayBracket t = false) (more : Text) :
    ¬ (outer = [] ∧ (t ++ more).head? = some ')') := by
  rintro ⟨rfl, hhead⟩
  obtain ⟨inner, hinner, hnil⟩ := hr.groups
  rw [List.map_eq_nil_iff.mp hnil] at hinner
  obtain ⟨d, t, rfl⟩ := List.exists_cons_of_ne_nil ht
  simp only [List.cons_append, List.head?_cons, Option.some.injEq] at hhead
  simp [atStrayBracket, hinner, hhead] at hstray

/-- A pattern that is read alone does not end in a comment if white space is not skipped outside
of its groups: behind a comment that takes the rest of it, its groups would still be open. -/
theorem Halts.ne_of_blank {v : Bool} {outer : List Bool} {r last : Reader} {rest : Text}
    (hr : InStep [] v outer r) (hbase : (v :: outer).getLast? = some false) (hv : v = true)
    (h : Halts r rest last []) : rest ≠ [] ∧ rest ≠ ['\\'] := by
  constructor <;> rintro rfl
  · have hgroups : r.groups = [] := by
      cases h with
      | finished hgroups => exact hgroups
      | stray hstray => simp [atStrayBracket] at hstray
      | step hinput => exact absurd rfl hinput
    rw [hr.outer_eq_nil hgroups, hv] at hbase
    cases hbase
  · cases h with
    | step _ _ hstep =>
      obtain ⟨c, tail, hread, -⟩ := step_effect hstep
      cases hread

/-- What is read of a pattern alone is what is read of it in a group, if white space is not skipped
outside of its own groups. -/
theorem Halts.read_in_group {bottom : List OpenGroup} (hbottom : bottom ≠ []) {v : Bool}
    {outer : List Bool} (hbase : (v :: outer).getLast? = some false) {r r₁ last : Reader}
    {t rest : Text} (hr : InStep [] v outer r) (hstep : r.step t = .ok (r₁, rest))
    (hrest : Halts r₁ rest last []) {s s₁ : Reader} {more tail' : Text} {c : Construct}
    (hs : InStep bottom v outer s)
    (hread' : Construct.read s.level.modes.verbose (t ++ ')' :: more) = .ok (c, tail'))
    (heffect' : Effect s tail' c s₁) :
    ∃ tail v' outer', Construct.read v t = .ok (c, tail) ∧ tail' = tail ++ ')' :: more ∧
      rest = c.behind tail ∧ (v = true → c = .blank → tail ≠ [] ∧ tail ≠ ['\\']) ∧
      c.scan v outer = some (v', outer') ∧ Effect r tail c r₁ := by
  obtain ⟨c', tail, hread, heffect, rfl⟩ := step_effect hstep
  have hline : v = true → c' = .blank → tail ≠ [] ∧ tail ≠ ['\\'] := by
    rintro hv rfl
    exact (heffect.eq_of_blank ▸ hrest : Halts r tail last []).ne_of_blank hr hbase hv
  have hguard : Guarded tail (')' :: more) := by simp [Guarded]
  obtain ⟨inner, hgroups, -⟩ := hs.groups
  rw [hr.verbose] at hread
  rw [hs.verbose, Construct.read_append hread hguard
    (Construct.runsOn_eq_false hread hline)] at hread'
  cases hread'
  have hglobal (on : List InlineFlag) : c ≠ .globalModes on := by
    rintro rfl
    have hnil := heffect'.groups_of_globalModes
    simp [hgroups, hbottom] at hnil
  obtain ⟨v', outer', hscan⟩ := hr.scan heffect hglobal
  exact ⟨tail, v', outer', hread, rfl, rfl, hline, hscan, heffect⟩

/-- What a pattern does that is read alone, it does as well in a group, likewise. -/
theorem Halts.step_in_group {bottom : List OpenGroup} (hbottom : bottom ≠ []) {v : Bool}
    {outer : List Bool} (hbase : (v :: outer).getLast? = some false) {r r₁ last : Reader}
    {t rest : Text} (hr : InStep [] v outer r) (hstep : r.step t = .ok (r₁, rest))
    (hrest : Halts r₁ rest last []) {s last' : Reader} {left more : Text}
    (hs : InStep bottom v outer s) (h' : Halts s (t ++ ')' :: more) last' left) :
    ∃ c tail v' outer' s₁, Construct.read v t = .ok (c, tail) ∧ rest = c.behind tail ∧
      (v = true → c = .blank → tail ≠ [] ∧ tail ≠ ['\\']) ∧
      c.scan v outer = some (v', outer') ∧ Effect r tail c r₁ ∧
      Effect s (tail ++ ')' :: more) c s₁ ∧ Halts s₁ (rest ++ ')' :: more) last' left := by
  obtain ⟨inner, hgroups, -⟩ := hs.groups
  obtain ⟨c, tail', s₁, hread', heffect', hrest'⟩ := h'.read (by simp)
    (by simp [atStrayBracket, hgroups, hbottom])
  obtain ⟨tail, v', outer', hread, rfl, rfl, hline, hscan, heffect⟩ :=
    hrest.read_in_group hbottom hbase hr hstep hs hread' heffect'
  rw [behind_append (by simp [Guarded])] at hrest'
  exact ⟨c, tail, v', outer', s₁, hread, rfl, hline, hscan, heffect, heffect', hrest'⟩

/-- A pattern that is read both alone and in a group ends there at the bracket behind it, if
white space is not skipped outside of its own groups. -/
theorem Halts.strayBracket_eq {bottom : List OpenGroup} (hbottom : bottom ≠ []) {more : Text}
    {fuel : Nat} {v : Bool} {outer : List Bool} {t : Text}
    (hbase : (v :: outer).getLast? = some false) {r last : Reader} (hr : InStep [] v outer r)
    (h : Halts r t last []) {s last' : Reader} {left : Text} (hs : InStep bottom v outer s)
    (h' : Halts s (t ++ ')' :: more) last' left) (hfuel : t.length < fuel) :
    strayBracket fuel v outer (t ++ [')']) = some [')'] := by
  generalize hleft : ([] : Text) = end_ at h
  induction h generalizing fuel v outer s with
  | @finished r hgroups =>
    obtain ⟨fuel, rfl⟩ : ∃ n, fuel = n + 1 := ⟨fuel - 1, by omega⟩
    rw [hr.outer_eq_nil hgroups]
    rfl
  | stray hstray =>
    rw [← hleft] at hstray
    simp [atStrayBracket] at hstray
  | @step r r₁ last t rest end_ hinput hstray hstep hrest ih =>
    subst hleft
    obtain ⟨fuel, rfl⟩ : ∃ n, fuel = n + 1 := ⟨fuel - 1, by omega⟩
    have hlength := length_lt_of_step hstep
    obtain ⟨c, tail, v', outer', s₁, hread, rfl, hline, hscan, heffect, heffect', hrest'⟩ :=
      Halts.step_in_group hbottom hbase hr hstep hrest hs h'
    have hguard : Guarded tail [')'] := by simp [Guarded]
    rw [strayBracket_of_read (hr.not_stray hinput hstray _)
      (Construct.read_append hread hguard (Construct.runsOn_eq_false hread hline)), hscan,
      Option.bind_some, behind_append hguard]
    exact ih (Construct.getLast?_scan hscan ▸ hbase) (hr.effect heffect hscan)
      (hs.effect heffect' hscan) hrest' (by omega) rfl

/-- **A pattern that can be read both alone and in a group is closed by the bracket behind it**
if white space is not skipped. -/
theorem closesGroup_of_halts {bottom : List OpenGroup} (hbottom : bottom ≠ []) {pattern : Text}
    {mostOpen : Nat} {modes : Modes} (hverbose : modes.verbose = false) {last : Reader}
    (h : Halts (start mostOpen modes) pattern last []) {s last' : Reader} {left more : Text}
    (hs : InStep bottom false [] s) (h' : Halts s (pattern ++ ')' :: more) last' left) :
    closesGroup false pattern = true := by
  have hr : InStep [] false [] (start mostOpen modes) := ⟨hverbose, [], rfl, rfl⟩
  unfold closesGroup
  rw [Halts.strayBracket_eq hbottom rfl hr h hs h' (by omega)]
  rfl

end Reader

end Highlighting
