import Highlighting.Proofs.Regex.Allowed

/-!
# A pattern goes through in a group

A pattern that is read alone to its end is read to its end as well inside of a group with a name,
behind other groups: whatever the reader alone allows, the reader in the group allows. Names and
references stand for the same groups, the fence of a look-behind is as far ahead of them, and the
same groups are open above the one around. It takes that the pattern refers to groups by name only,
that its names are new, that one more group may be open, and that the bracket behind it closes the
group around it.

The bracket does so if the pattern has no flags for the whole pattern, and white space is not
skipped or no comment begins in the pattern.

## Main definitions

* `Reader.Alike` -- the fences of two readers are put up and taken away together.
* `Construct.deepest` -- the most groups that are open at once.
-/
namespace Highlighting

/-! ## Fences -/

theorem Opening.endsFence_of_kind? {number? : String → Option Nat} {outermost : Bool} {o : Opening}
    {kind : GroupKind} (h : o.kind? number? outermost = some kind) :
    kind.endsFence = match o with
      | .behind _ => outermost
      | _ => false := by
  unfold kind? at h
  split at h
  case h_8 =>
    obtain ⟨n, -, rfl⟩ := Option.map_eq_some_iff.mp h
    rfl
  all_goals
    cases h
    try rfl

namespace Reader

/-- Which of the open groups end the fence, innermost first. -/
def ends (r : Reader) : List Bool :=
  r.groups.map (·.kind.endsFence)

/-- Which of the groups open behind a construct end the fence. -/
def endsAfter (r : Reader) : Construct → List Bool
  | .opening (.behind _) => r.fence.isNone :: r.ends
  | .opening _ => false :: r.ends
  | .closing => r.ends.tail
  | _ => r.ends

theorem ends_effect {r r' : Reader} {c : Construct} {tail : Text} (h : Effect r tail c r') :
    r'.ends = r.endsAfter c ∧ (c = .closing → r.ends ≠ []) := by
  cases h with
  | item hputs => cases hputs <;> exact ⟨rfl, nofun⟩
  | @enter o kind opened fence expected hkind =>
    refine ⟨?_, nofun⟩
    change kind.endsFence :: r.ends = _
    rw [Opening.endsFence_of_kind? hkind]
    cases o <;> rfl
  | @closing g outer hgroups =>
    refine ⟨?_, fun _ => by simp [ends, hgroups]⟩
    rw [ends, (InStep.close_groups r g outer).1, endsAfter, ends, hgroups]
    rfl
  | _ => exact ⟨rfl, nofun⟩

/-- The fence of the reader `s` is that of `r` behind `n` other groups, and it ends with the same
groups. One group at most ends it. -/
structure Alike (n : Nat) (bottom : List OpenGroup) (s r : Reader) : Prop where
  fence : s.fence = r.fence.map (· + n)
  ends : s.ends = r.ends ++ bottom.map (·.kind.endsFence)
  count : r.ends.count true = r.fence.toList.length

namespace Alike
variable {n : Nat} {bottom : List OpenGroup} {r s r' s' : Reader}

/-- Where nothing is open, there is no fence. -/
theorem fence_eq_none (h : Alike n bottom s r) (hgroups : r.groups = []) : s.fence = none := by
  have hcount := h.count
  rw [Reader.ends, hgroups] at hcount
  rw [h.fence]
  cases hfence : r.fence with
  | none => rfl
  | some f =>
    rw [hfence] at hcount
    cases hcount

/-- **The readers stay alike** with every construct. -/
theorem effect (h : Alike n bottom s r) (hcaptures : s.captures = r.captures + n) {c : Construct}
    {tail tail' : Text} (hr : Effect r tail c r') (hs : Effect s tail' c s')
    (hfence : r'.fence = r.fenceAfter c) (hfence' : s'.fence = s.fenceAfter c) :
    Alike n bottom s' r' := by
  obtain ⟨hends, hopen⟩ := ends_effect hr
  have hends' := (ends_effect hs).1
  -- Only the opening of a look-behind and the end of a group change more than the open groups.
  cases c with
  | opening o =>
    cases o with
    | behind negated =>
      refine ⟨?_, ?_, ?_⟩
      · rw [hfence, hfence', fenceAfter, fenceAfter, h.fence, hcaptures]
        cases r.fence <;> simp [Nat.add_right_comm]
      · rw [hends, hends', endsAfter, endsAfter, h.fence, h.ends, Option.isNone_map]
        rfl
      · have hcount := h.count
        rw [hends, hfence, endsAfter, fenceAfter]
        cases hf : r.fence <;> simp_all
    | _ =>
      exact ⟨by rw [hfence, hfence']; exact h.fence,
        by rw [hends, hends']; exact congrArg (false :: ·) h.ends,
        by rw [hends, hfence]; exact h.count⟩
  | closing =>
    have hhead (r : Reader) : r.groups.head?.any (·.kind.endsFence) = r.ends.head?.any id := by
      cases hgroups : r.groups <;> simp [Reader.ends, hgroups]
    obtain ⟨e, es, hes⟩ := List.exists_cons_of_ne_nil (hopen rfl)
    have hes' : s.ends = e :: (es ++ bottom.map (·.kind.endsFence)) := by
      rw [h.ends, hes]
      rfl
    have hcount := h.count
    rw [hes] at hcount
    rw [fenceAfter, hhead, hes] at hfence
    rw [fenceAfter, hhead, hes'] at hfence'
    refine ⟨?_, ?_, ?_⟩
    · rw [hfence, hfence', h.fence]
      cases e <;> rfl
    · rw [hends, hends', endsAfter, endsAfter, hes, hes']
      rfl
    · rw [hends, hfence, endsAfter, hes]
      cases e <;> cases hf : r.fence <;> simp_all
  | _ => exact ⟨by rw [hfence, hfence']; exact h.fence, by rw [hends, hends']; exact h.ends,
      by rw [hends, hfence]; exact h.count⟩

end Alike

/-! ## What a reader in a group allows -/

namespace Raised
variable {n : Nat} {bottom : List OpenGroup} {names : List (String × Nat)}
  {widths : List (Nat × Width)} {r s : Reader}

/-- A fence that lets a reference pass does so in the group. -/
theorem passes (h : Raised n bottom names widths s r) (hsized : r.Sized)
    (halike : Alike n bottom s r)
    {g : Nat} (hg : r.Passes g) : s.Passes (raiseGroup n g) := by
  intro fence hfence
  rw [halike.fence] at hfence
  obtain ⟨f, hf, rfl⟩ := Option.map_eq_some_iff.mp hfence
  obtain ⟨hclosed, hlt⟩ := hg f hf
  have hpositive := (hsized.range g (mem_taken_of_isClosed hclosed)).1
  refine ⟨h.isClosed_raiseGroup hsized hclosed, ?_⟩
  rw [raiseGroup_eq hpositive]
  omega

/-- A name that is new alone is new in the group if it is not one of those before. -/
theorem lookup_eq_none (h : Raised n bottom names widths s r) {name : String}
    (hname : r.names.lookup name = none) (hnew : names.lookup name = none) :
    s.names.lookup name = none := by
  rw [List.lookup_eq_none_iff] at hname hnew ⊢
  rw [h.names]
  intro e he
  rcases List.mem_append.mp he with he | he
  · obtain ⟨e', he', rfl⟩ := List.mem_map.mp he
    exact hname e' he'
  · exact hnew e he

/-- **What the reader alone allows, the reader in the group allows**, if one more group may be
open there. -/
theorem allows (h : Raised n bottom names widths s r) (hsized : r.Sized)
    (halike : Alike n bottom s r) (hbottom : ∃ g number, bottom = [g] ∧ g.kind = .capture number)
    {c : Construct} (hc : r.Allows c) (hnumber : c.byNumber = false)
    (hglobal : ∀ on, c ≠ .globalModes on)
    (hnew : ∀ name, c = .opening (.named name) → names.lookup name = none)
    (hdepth : ∀ o, c = .opening o → r.groups.length + 1 < s.mostOpen) : s.Allows c := by
  obtain ⟨around, number, rfl, hkind⟩ := hbottom
  obtain ⟨inner, hinner, hall⟩ := h.groups
  cases c with
  | blank => trivial
  | atom a => trivial
  | place p => trivial
  | numbered g length => cases hnumber
  | globalModes on => exact absurd rfl (hglobal on)
  | named name =>
    obtain ⟨g, hname, hclosed, hpasses⟩ := hc
    exact ⟨_, h.lookup_name hname, h.isClosed_raiseGroup hsized hclosed,
      h.passes hsized halike hpasses⟩
  | quantifier least most =>
    obtain ⟨items, pieces, hpieces⟩ := hc
    refine ⟨items.map (Item.raise n), pieces.map (Piece.raise n), ?_⟩
    rw [h.level, Level.raise, hpieces]
    rfl
  | bar =>
    intro g outer number' hgroups hkind'
    rw [hinner] at hgroups
    generalize hopen : r.groups = open_ at hall
    cases hall with
    | nil =>
      cases hgroups
      cases hkind.symm.trans hkind'
    | @cons g' g₁ inner' outer' hraised _ =>
      obtain ⟨rfl, -⟩ := List.cons.inj hgroups
      obtain ⟨m, hm⟩ := (hkind' ▸ hraised.kind).eq_conditional
      rw [h.level, Level.raise, hc g₁ outer' m hopen hm]
      rfl
  | opening o =>
    obtain ⟨-, hopens⟩ := hc
    refine ⟨?_, ?_⟩
    · have hlength := hdepth o rfl
      rw [hinner, List.length_append, hall.length_eq]
      exact hlength
    · cases o with
      | named name => exact h.lookup_eq_none hopens (hnew name rfl)
      | conditional ref =>
        cases ref with
        | name name =>
          obtain ⟨g, hname, hpasses⟩ := hopens
          exact ⟨_, h.lookup_name hname, h.passes hsized halike hpasses⟩
        | number m length => cases hnumber
      | _ => trivial
  | closing =>
    change s.groups ≠ []
    rw [hinner]
    simp

end Raised

end Reader

/-! ## How deep groups are nested -/

namespace Construct

/-- The number of groups that are open behind a construct. -/
def depthAfter (depth : Nat) : Construct → Nat
  | opening _ => depth + 1
  | closing => depth - 1
  | _ => depth

/-- The most groups that are open at once in a row of constructs, where some are open before it. -/
def deepest : (depth : Nat) → List Construct → Nat
  | depth, [] => depth
  | depth, c :: cs => max depth (deepest (c.depthAfter depth) cs)

theorem le_deepest (depth : Nat) (cs : List Construct) : depth ≤ deepest depth cs := by
  cases cs with
  | nil => exact Nat.le_refl _
  | cons c cs => exact Nat.le_max_left _ _

/-- The construct has flags for the whole pattern. -/
def isGlobal : Construct → Bool
  | globalModes _ => true
  | _ => false

end Construct

namespace Reader

theorem length_groups_effect {r r' : Reader} {c : Construct} {tail : Text}
    (h : Effect r tail c r') :
    r'.groups.length = c.depthAfter r.groups.length := by
  cases h with
  | item hputs => cases hputs <;> rfl
  | @closing g outer hgroups =>
    rw [(InStep.close_groups r g outer).1, hgroups]
    rfl
  | _ => rfl

theorem Halts.names_suffix {r last : Reader} {t left : Text} (h : Halts r t last left) :
    r.names <:+ last.names := by
  induction h with
  | finished => exact List.suffix_refl _
  | stray => exact List.suffix_refl _
  | step _ _ hstep _ ih =>
    obtain ⟨c, tail, -, heffect, -⟩ := step_effect hstep
    exact heffect.names_suffix.trans ih

/-! ## The bracket behind a pattern -/

/-- **The bracket behind a pattern that is read alone closes a group around it**, if the pattern has
no flags for the whole pattern, and white space is not skipped outside of the pattern's own groups
or no comment begins in it. -/
theorem Halts.strayBracket_of_alone {r last : Reader} {t : Text} (h : Halts r t last [])
    {v : Bool} {outer : List Bool} (hcomment : (v :: outer).getLast? = some false ∨ '#' ∉ t)
    (hr : InStep [] v outer r) {fuel : Nat} (hfuel : t.length < fuel)
    (hglobal : ∀ c ∈ r.constructs fuel t, c.isGlobal = false) :
    strayBracket fuel v outer (t ++ [')']) = some [')'] := by
  generalize hleft : ([] : Text) = end_ at h
  induction h generalizing fuel v outer with
  | @finished r hgroups =>
    obtain ⟨fuel, rfl⟩ : ∃ n, fuel = n + 1 := ⟨fuel - 1, by omega⟩
    rw [hr.outer_eq_nil hgroups]
    rfl
  | stray hstray =>
    rw [← hleft] at hstray
    simp [atStrayBracket] at hstray
  | @step r r' last t rest end_ hinput hstray hstep hrest ih =>
    subst hleft
    obtain ⟨fuel, rfl⟩ : ∃ n, fuel = n + 1 := ⟨fuel - 1, by omega⟩
    have hlength := length_lt_of_step hstep
    obtain ⟨c, tail, hread, heffect, rfl⟩ := step_effect hstep
    rw [constructs_of_step hread hstep, List.forall_mem_cons] at hglobal
    have hblank (hc : c = .blank) : Halts r tail last [] := by
      subst hc
      exact heffect.eq_of_blank ▸ hrest
    rw [hr.verbose] at hread
    have hrunsOn : Construct.runsOn v t = false := by
      rcases hcomment with hbase | hsign
      · exact Construct.runsOn_eq_false hread fun hv hc => (hblank hc).ne_of_blank hr hbase hv
      · rw [Bool.eq_false_iff, Ne, Construct.runsOn_eq_true_iff]
        rintro ⟨-, rest, rfl, -⟩
        exact hsign List.mem_cons_self
    have hguard : Guarded tail [')'] := by simp [Guarded]
    have hsuffix : c.behind tail <:+ t :=
      (behind_suffix c tail).trans (Construct.suffix_of_read hread).1
    obtain ⟨v', outer', hscan⟩ := hr.scan heffect fun on hc => by
      rw [hc] at hglobal
      cases hglobal.1
    rw [strayBracket_of_read (hr.not_stray hinput hstray _)
      (Construct.read_append hread hguard hrunsOn), hscan, Option.bind_some, behind_append hguard]
    exact ih (hcomment.imp (Construct.getLast?_scan hscan ▸ ·) fun hsign hmem =>
      hsign (hsuffix.subset hmem)) (hr.effect heffect hscan) (by omega) hglobal.2 rfl

/-- No comment runs on to a bracket that closes a group. -/
theorem runsOn_of_strayBracket {fuel : Nat} {v : Bool} {outer : List Bool} {t : Text}
    (h : strayBracket fuel v outer (t ++ [')']) = some [')']) : Construct.runsOn v t = false := by
  rw [Bool.eq_false_iff]
  intro hruns
  obtain ⟨rest, hread, hrest⟩ := Construct.read_of_runsOn (Construct.runsOn_append hruns)
  obtain ⟨-, t, rfl, -⟩ := Construct.runsOn_eq_true_iff.mp hruns
  cases fuel with
  | zero => cases h
  | succ fuel =>
    rw [strayBracket_of_read (by simp) hread] at h
    have hsuffix : [')'] <:+ rest := (suffix_of_strayBracket h).trans (behind_suffix _ _)
    rcases hrest with rfl | rfl
    · exact absurd hsuffix.length_le (by decide)
    · exact absurd (hsuffix.subset (List.mem_singleton_self _)) (by decide)

/-- The scan for the bracket goes on behind a construct that is read alone. -/
theorem InStep.scan_behind {v : Bool} {outer : List Bool} {r : Reader} (hr : InStep [] v outer r)
    {t tail : Text} (ht : t ≠ []) (hstray : r.atStrayBracket t = false) {c : Construct}
    (hread : Construct.read v t = .ok (c, tail)) {fuel : Nat}
    (h : strayBracket fuel v outer (t ++ [')']) = some [')']) :
    ∃ v' outer', c.scan v outer = some (v', outer') ∧
      ∃ fuel', strayBracket fuel' v' outer' (c.behind tail ++ [')']) = some [')'] := by
  have hguard : Guarded tail [')'] := by simp [Guarded]
  have hread' := Construct.read_append hread hguard (runsOn_of_strayBracket h)
  cases fuel with
  | zero => cases h
  | succ fuel =>
    rw [strayBracket_of_read (hr.not_stray ht hstray _) hread', behind_append hguard] at h
    obtain ⟨⟨v', outer'⟩, hscan, h⟩ := Option.bind_eq_some_iff.mp h
    exact ⟨v', outer', hscan, fuel, h⟩

/-! ## The whole pattern -/

/-- **A pattern that is read alone goes through in a group**, up to the bracket that closes the
group around it. -/
theorem Halts.into_group {n : Nat} {bottom : List OpenGroup} {names : List (String × Nat)}
    {widths : List (Nat × Width)} (hbottom : ∃ g number, bottom = [g] ∧ g.kind = .capture number)
    {r last : Reader} {t : Text} (h : Halts r t last []) {v : Bool} {outer : List Bool}
    (hr : InStep [] v outer r) (hsized : r.Sized) {fuel fuel' : Nat} (hfuel : t.length < fuel)
    (hnumber : ∀ c ∈ r.constructs fuel t, c.byNumber = false)
    (hscan : strayBracket fuel' v outer (t ++ [')']) = some [')'])
    (hnew : ∀ e ∈ last.names, names.lookup e.1 = none) {s : Reader} (hs : InStep bottom v outer s)
    (hdepth : Construct.deepest r.groups.length (r.constructs fuel t) < s.mostOpen)
    (hraised : Raised n bottom names widths s r) (halike : Alike n bottom s r) (more : Text) :
    ∃ s', Raised n bottom names widths s' last ∧ Alike n bottom s' last ∧
      s'.expected = s.expected ∧ s'.mostOpen = s.mostOpen ∧
        ∀ last' left, Halts s' (')' :: more) last' left →
          Halts s (t ++ ')' :: more) last' left := by
  generalize hleft : ([] : Text) = end_ at h
  induction h generalizing fuel fuel' v outer s with
  | finished => exact ⟨s, hraised, halike, rfl, rfl, fun _ _ h => h⟩
  | stray hstray =>
    rw [← hleft] at hstray
    simp [atStrayBracket] at hstray
  | @step r r' last t rest end_ hinput hstray hstep hrest ih =>
    subst hleft
    obtain ⟨fuel, rfl⟩ : ∃ n, fuel = n + 1 := ⟨fuel - 1, by omega⟩
    have hlength := length_lt_of_step hstep
    obtain ⟨c, tail, hread, heffect, rfl⟩ := step_effect hstep
    obtain ⟨hallows, hfence, hexpected⟩ := allows_of_step hread hstep
    rw [constructs_of_step hread hstep] at hnumber hdepth
    rw [List.forall_mem_cons] at hnumber
    rw [Construct.deepest, ← length_groups_effect heffect, Nat.max_lt] at hdepth
    -- The construct is the same before the bracket, and so it is in the group.
    rw [hr.verbose] at hread
    have hguard : Guarded tail (')' :: more) := by simp [Guarded]
    obtain ⟨v', outer', hscan_c, fuel', hscan'⟩ := hr.scan_behind hinput hstray hread hscan
    have hread' : Construct.read s.level.modes.verbose (t ++ ')' :: more) =
        .ok (c, tail ++ ')' :: more) :=
      hs.verbose ▸ Construct.read_append hread hguard (runsOn_of_strayBracket hscan)
    have hallows' : s.Allows c := by
      refine hraised.allows hsized halike hbottom hallows hnumber.1 ?_ ?_ ?_
      · rintro on rfl
        cases hscan_c
      · rintro name rfl
        obtain ⟨-, opened, rfl⟩ := heffect.exists_of_named
        exact hnew _ (hrest.names_suffix.subset List.mem_cons_self)
      · rintro o rfl
        have hle := Construct.le_deepest r'.groups.length
          (r'.constructs fuel ((Construct.opening o).behind tail))
        have hlength := length_groups_effect heffect
        simp only [Construct.depthAfter] at hlength
        omega
    have hstray' : s.atStrayBracket (t ++ ')' :: more) = false := by
      obtain ⟨inner, hgroups, -⟩ := hs.groups
      obtain ⟨g, _, rfl, -⟩ := hbottom
      simp [atStrayBracket, hgroups]
    obtain ⟨s₁, heffect', hfence', hexpected', hback⟩ :=
      Halts.of_allows hread' hallows' (by simp) hstray'
    obtain ⟨s', hraised', halike', hsame, hroom, hgo⟩ := ih (hr.effect heffect hscan_c)
      (hsized.effect heffect) (by omega) hnumber.2 hscan' hnew (hs.effect heffect' hscan_c)
      (heffect'.mostOpen_eq ▸ hdepth.2)
      (hraised.effect hsized (by obtain ⟨g, _, rfl, -⟩ := hbottom; simp) hnumber.1 heffect heffect')
      (halike.effect hraised.captures heffect heffect' hfence hfence') rfl
    refine ⟨s', hraised', halike', hsame.trans (hexpected' hnumber.1),
      hroom.trans heffect'.mostOpen_eq, fun last' left hlast => ?_⟩
    refine hback last' left ?_
    rw [behind_append hguard]
    exact hgo last' left hlast

end Reader

end Highlighting
