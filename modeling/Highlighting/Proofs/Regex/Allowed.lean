import Highlighting.Proofs.Regex.InGroup

/-!
# What a reader allows

A construct that is read is refused only for what has been read before it: there is no group of the
name, or it is still open, there is nothing to repeat, too many groups are open, and the like. These
conditions are listed here, one for each construct, and a step succeeds exactly where they hold. So
whether one reader goes through a pattern that another one has gone through can be told by comparing
what they allow.

A step changes the fence of look-behinds as well. It is put up by the outermost of them and taken
away where that is closed.

## Main definitions

* `Reader.Allows` -- the conditions under which a construct is not refused.
* `Reader.fenceAfter` -- the fence behind a construct.
-/
namespace Highlighting

/-- The group is a look-behind at whose end the fence is taken away. -/
def GroupKind.endsFence : GroupKind → Bool
  | behind _ outermost => outermost
  | _ => false

namespace Reader

/-- The fence of a look-behind, if there is one, lets a reference to a group pass. -/
def Passes (r : Reader) (g : Nat) : Prop :=
  ∀ fence, r.fence = some fence → r.isClosed g = true ∧ g < fence

/-- Such a group may be opened. -/
def Opens (r : Reader) : Opening → Prop
  | .named name => r.names.lookup name = none
  | .conditional (.name name) => ∃ g, r.names.lookup name = some g ∧ r.Passes g
  | .conditional (.number n _) => n < 1073741823 ∧ r.Passes n
  | _ => True

/-- The construct is not refused. -/
def Allows (r : Reader) : Construct → Prop
  | .numbered n _ => n ≤ r.captures ∧ r.isClosed n = true ∧ r.Passes n
  | .named name => ∃ g, r.names.lookup name = some g ∧ r.isClosed g = true ∧ r.Passes g
  | .quantifier _ _ => ∃ items pieces, r.level.pieces = ⟨.item, items⟩ :: pieces
  | .bar => ∀ g outer n, r.groups = g :: outer → g.kind = .conditional n → r.level.branches = []
  | .opening o => r.groups.length < r.mostOpen ∧ r.Opens o
  | .closing => r.groups ≠ []
  | .globalModes _ => r.atStart = true
  | _ => True

/-- The fence behind a construct. -/
def fenceAfter (r : Reader) : Construct → Option Nat
  | .opening (.behind _) => some (r.fence.getD (r.captures + 1))
  | .closing => if r.groups.head?.any (·.kind.endsFence) then none else r.fence
  | _ => r.fence

theorem checkFence_eq_ok_iff {r : Reader} {g : Nat} {rest : Text} :
    r.checkFence g rest = .ok () ↔ r.Passes g := by
  unfold checkFence Passes
  cases r.fence with
  | none => simp
  | some fence =>
    simp only [Option.some.injEq, forall_eq']
    cases r.isClosed g with
    | false => simp
    | true =>
      by_cases hle : fence ≤ g
      · simp [hle]
      · simp [hle, Nat.lt_of_not_le hle]

/-! ## What a step asks for -/

theorem passes_of_refer {r r' : Reader} {g length : Nat} {rest : Text}
    (h : r.refer g length rest = .ok r') : r.isClosed g = true ∧ r.Passes g ∧ r'.fence = r.fence ∧
      r'.expected = r.expected := by
  obtain ⟨hclosed, rfl⟩ := refer_eq_ok h
  refine ⟨hclosed, ?_, rfl, rfl⟩
  unfold refer at h
  rw [hclosed] at h
  obtain ⟨_, hcheck, -⟩ := Reading.bind_eq_ok_iff.mp h
  exact checkFence_eq_ok_iff.mp hcheck

theorem opens_of_open {r r' : Reader} {o : Opening} {opened : Nat} {rest : Text}
    (h : r.open_ o opened rest = .ok r') : r.Opens o ∧ r'.fence = r.fenceAfter (.opening o) ∧
      r'.groups.length = r.groups.length + 1 ∧
      ((Construct.opening o).byNumber = false → r'.expected = r.expected) := by
  cases o with
  | named name =>
    replace h : r.enterNamed name opened rest = .ok r' := h
    unfold enterNamed at h
    dsimp only at h
    split at h
    · cases h
    · next hname => cases h; exact ⟨hname, rfl, rfl, fun _ => rfl⟩
  | conditional ref =>
    replace h : r.enterConditional ref opened rest = .ok r' := h
    unfold enterConditional at h
    dsimp only at h
    split at h
    · split at h
      · cases h
      · next g hname =>
        obtain ⟨_, hcheck, h⟩ := Reading.bind_eq_ok_iff.mp h
        cases h
        exact ⟨⟨g, hname, checkFence_eq_ok_iff.mp hcheck⟩, rfl, rfl, fun _ => rfl⟩
    · split at h
      · cases h
      · next hlimit =>
        obtain ⟨_, hcheck, h⟩ := Reading.bind_eq_ok_iff.mp h
        cases h
        exact ⟨⟨by omega, checkFence_eq_ok_iff.mp hcheck⟩, rfl, rfl, nofun⟩
  | _ => cases h; exact ⟨trivial, rfl, rfl, fun _ => rfl⟩

/-- The fence behind a group that is closed. -/
theorem fence_close {r : Reader} {g : OpenGroup} {outer : List OpenGroup}
    (hgroups : r.groups = g :: outer) : (r.close g outer).fence = r.fenceAfter .closing ∧
      (r.close g outer).expected = r.expected := by
  have hhead : r.groups.head?.any (·.kind.endsFence) = g.kind.endsFence := by
    rw [hgroups]
    rfl
  unfold fenceAfter close
  dsimp only
  rw [hhead]
  cases g.kind with
  | behind negated outermost => cases outermost <;> exact ⟨rfl, rfl⟩
  | _ => exact ⟨rfl, rfl⟩

/-- **A step that succeeds was allowed**, and it leaves the fence for the construct. -/
theorem allows_of_step {r r' : Reader} {input tail rest : Text} {c : Construct}
    (hread : Construct.read r.level.modes.verbose input = .ok (c, tail))
    (h : r.step input = .ok (r', rest)) : r.Allows c ∧ r'.fence = r.fenceAfter c ∧
      (c.byNumber = false → r'.expected = r.expected) := by
  unfold step at h
  dsimp only at h
  rw [hread] at h
  obtain ⟨_, hread, h⟩ := Reading.bind_eq_ok_iff.mp h
  cases hread
  cases c with
  | blank => cases h; exact ⟨trivial, rfl, fun _ => rfl⟩
  | atom a => cases h; exact ⟨trivial, rfl, fun _ => rfl⟩
  | place p => cases h; exact ⟨trivial, rfl, fun _ => rfl⟩
  | numbered n length =>
    dsimp only at h
    split at h
    · next hn =>
      obtain ⟨r'', hrefer, h⟩ := Reading.bind_eq_ok_iff.mp h
      cases h
      obtain ⟨hclosed, hpasses, hfence, hexpected⟩ := passes_of_refer hrefer
      exact ⟨⟨hn, hclosed, hpasses⟩, hfence, fun _ => hexpected⟩
    · cases h
  | named name =>
    dsimp only at h
    split at h
    · cases h
    · next g hname =>
      obtain ⟨r'', hrefer, h⟩ := Reading.bind_eq_ok_iff.mp h
      cases h
      obtain ⟨hclosed, hpasses, hfence, hexpected⟩ := passes_of_refer hrefer
      exact ⟨⟨g, hname, hclosed, hpasses⟩, hfence, fun _ => hexpected⟩
  | quantifier least most =>
    obtain ⟨heffect, -⟩ := quantify_eq_ok h
    obtain ⟨items, pieces, hpieces, rfl⟩ := heffect.exists_of_quantifier
    exact ⟨⟨items, pieces, hpieces⟩, rfl, fun _ => rfl⟩
  | bar =>
    obtain ⟨r'', hbar, h⟩ := Reading.bind_eq_ok_iff.mp h
    cases h
    rw [bar_eq_ok hbar]
    refine ⟨fun g outer n hgroups hkind => ?_, rfl, fun _ => rfl⟩
    unfold Reader.bar at hbar
    obtain ⟨kind, opened, around⟩ := g
    obtain rfl : kind = _ := hkind
    rw [hgroups] at hbar
    cases hbranches : r.level.branches with
    | nil => rfl
    | cons b bs =>
      rw [hbranches] at hbar
      cases hbar
  | opening o =>
    obtain ⟨r'', hopen, h⟩ := Reading.bind_eq_ok_iff.mp h
    obtain ⟨_, hdepth, h⟩ := Reading.bind_eq_ok_iff.mp h
    cases h
    obtain ⟨hopens, hfence, hlength, hexpected⟩ := opens_of_open hopen
    refine ⟨⟨?_, hopens⟩, hfence, hexpected⟩
    have hroom := (open_eq_ok hopen []).mostOpen_eq
    unfold checkDepth at hdepth
    split at hdepth
    · cases hdepth
    · omega
  | closing =>
    dsimp only at h
    split at h
    · cases h
    · next g outer hgroups =>
      cases h
      obtain ⟨hfence, hexpected⟩ := fence_close hgroups
      exact ⟨by simp [Allows, hgroups], hfence, fun _ => hexpected⟩
  | globalModes on =>
    dsimp only at h
    split at h
    · next hstart => cases h; exact ⟨hstart, rfl, fun _ => rfl⟩
    · cases h

/-! ## What succeeds -/

theorem refer_of_passes {r : Reader} {g : Nat} (hclosed : r.isClosed g = true) (h : r.Passes g)
    (length : Nat) (rest : Text) : ∃ r', r.refer g length rest = .ok r' := by
  unfold refer
  rw [hclosed]
  exact ⟨_, Reading.bind_eq_ok_iff.mpr ⟨(), checkFence_eq_ok_iff.mpr h, rfl⟩⟩

theorem open_of_opens {r : Reader} {o : Opening} (h : r.Opens o) (opened : Nat) (rest : Text) :
    ∃ r', r.open_ o opened rest = .ok r' := by
  cases o with
  | named name =>
    change ∃ r', r.enterNamed name opened rest = .ok r'
    unfold enterNamed
    rw [show r.names.lookup name = none from h]
    exact ⟨_, rfl⟩
  | conditional ref =>
    change ∃ r', r.enterConditional ref opened rest = .ok r'
    unfold enterConditional
    cases ref with
    | name name =>
      obtain ⟨g, hname, hpasses⟩ := h
      dsimp only
      rw [hname]
      exact ⟨_, Reading.bind_eq_ok_iff.mpr ⟨(), checkFence_eq_ok_iff.mpr hpasses, rfl⟩⟩
    | number n length =>
      dsimp only
      rw [if_neg (by have := h.1; omega)]
      exact ⟨_, Reading.bind_eq_ok_iff.mpr ⟨(), checkFence_eq_ok_iff.mpr h.2, rfl⟩⟩
  | _ => exact ⟨_, rfl⟩

theorem quantify_of_pieces {r : Reader} {items : List Item} {pieces : List Piece}
    (h : r.level.pieces = ⟨.item, items⟩ :: pieces) (least : Nat) (most : Option Nat)
    (length : Nat) (rest : Text) : ∃ p, r.quantify least most length rest = .ok p := by
  unfold quantify
  rw [h]
  exact ⟨_, rfl⟩

/-- **A construct that is allowed is not refused.** -/
theorem step_of_allows {r : Reader} {input tail : Text} {c : Construct}
    (hread : Construct.read r.level.modes.verbose input = .ok (c, tail)) (h : r.Allows c) :
    ∃ r', r.step input = .ok (r', c.behind tail) := by
  suffices ∃ r' rest, r.step input = .ok (r', rest) by
    obtain ⟨r', rest, hstep⟩ := this
    obtain ⟨c', tail', hread', -, rfl⟩ := step_effect hstep
    rw [hread] at hread'
    cases hread'
    exact ⟨r', hstep⟩
  unfold step
  dsimp only
  rw [hread]
  cases c with
  | blank => exact ⟨_, _, rfl⟩
  | atom a => exact ⟨_, _, rfl⟩
  | place p => exact ⟨_, _, rfl⟩
  | numbered n length =>
    obtain ⟨hn, hclosed, hpasses⟩ := h
    obtain ⟨r', hrefer⟩ := refer_of_passes hclosed hpasses length tail
    refine ⟨r', tail, Reading.bind_eq_ok_iff.mpr ⟨_, rfl, ?_⟩⟩
    dsimp only
    rw [if_pos hn, hrefer]
    rfl
  | named name =>
    obtain ⟨g, hname, hclosed, hpasses⟩ := h
    obtain ⟨r', hrefer⟩ := refer_of_passes hclosed hpasses (name.length + 1) tail
    refine ⟨r', tail, Reading.bind_eq_ok_iff.mpr ⟨_, rfl, ?_⟩⟩
    dsimp only
    rw [hname]
    dsimp only
    rw [hrefer]
    rfl
  | quantifier least most =>
    obtain ⟨items, pieces, hpieces⟩ := h
    obtain ⟨⟨r', rest⟩, hquantify⟩ :=
      quantify_of_pieces hpieces least most (input.length - tail.length) tail
    exact ⟨r', rest, Reading.bind_eq_ok_iff.mpr ⟨_, rfl, hquantify⟩⟩
  | bar =>
    refine ⟨{ r with level := r.level.bar }, tail, Reading.bind_eq_ok_iff.mpr ⟨_, rfl, ?_⟩⟩
    dsimp only
    unfold Reader.bar
    split
    · next n opened around outer b bs hgroups hbranches =>
      rw [h _ _ n hgroups rfl] at hbranches
      cases hbranches
    · rfl
  | opening o =>
    obtain ⟨hdepth, hopens⟩ := h
    obtain ⟨r', hopen⟩ := open_of_opens hopens input.length tail
    have hlength := (opens_of_open hopen).2.2.1
    have hroom := (open_eq_ok hopen []).mostOpen_eq
    refine ⟨r', tail, Reading.bind_eq_ok_iff.mpr ⟨_, rfl, ?_⟩⟩
    dsimp only
    rw [hopen]
    refine Reading.bind_eq_ok_iff.mpr ⟨_, rfl, Reading.bind_eq_ok_iff.mpr ⟨(), ?_, rfl⟩⟩
    unfold checkDepth
    rw [if_neg (by omega)]
  | closing =>
    obtain ⟨g, outer, hgroups⟩ := List.exists_cons_of_ne_nil h
    refine ⟨r.close g outer, tail, Reading.bind_eq_ok_iff.mpr ⟨_, rfl, ?_⟩⟩
    dsimp only
    rw [hgroups]
    rfl
  | globalModes on =>
    refine ⟨{ r with level := { r.level with modes := r.level.modes.turnOn on } }, tail,
      Reading.bind_eq_ok_iff.mpr ⟨_, rfl, ?_⟩⟩
    dsimp only
    rw [if_pos (show r.atStart = true from h)]
    rfl

/-- A reader that allows the next construct goes on behind it. -/
theorem Halts.of_allows {r : Reader} {input tail : Text} {c : Construct}
    (hread : Construct.read r.level.modes.verbose input = .ok (c, tail)) (h : r.Allows c)
    (hinput : input ≠ []) (hstray : r.atStrayBracket input = false) :
    ∃ s, Effect r tail c s ∧ s.fence = r.fenceAfter c ∧
      (c.byNumber = false → s.expected = r.expected) ∧
      ∀ last left, Halts s (c.behind tail) last left → Halts r input last left := by
  obtain ⟨s, hstep⟩ := step_of_allows hread h
  obtain ⟨c', tail', hread', heffect, -⟩ := step_effect hstep
  rw [hread] at hread'
  cases hread'
  obtain ⟨-, hfence, hexpected⟩ := allows_of_step hread hstep
  exact ⟨s, heffect, hfence, hexpected, fun _ _ hrest => .step hinput hstray hstep hrest⟩

end Reader

end Highlighting
