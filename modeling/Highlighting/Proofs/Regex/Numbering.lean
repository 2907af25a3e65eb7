import Mathlib.Data.List.Nodup
import Highlighting.Proofs.Regex.Reading

/-!
# Groups are numbered as they open

While a pattern is read, its capturing groups lie scattered over the alternation that is read, the
alternations around it and the groups that are open. Put together from the outside to the inside
they are numbered one by one. Nothing that the reader does to what it has read loses a group or
moves it: what alternatives have in common at their start holds no group, and alternatives that
are made one class hold none either.

So the groups of a compiled expression, from left to right, have the numbers from one to the
number of its groups.

## Main definitions

* `Reader.opened` -- the groups opened so far, in the order in which the pattern has them.
* `Reader.Numbered` -- they are numbered in that order, and no name is used twice.
* `Reader.Listed` -- the names are listed in that order, too.
-/
namespace Highlighting

/-- The groups of some items. -/
def groupsOf (items : List Item) : List Nat :=
  items.flatMap (·.regex.groups)

theorem groupsOf_append (items more : List Item) :
    groupsOf (items ++ more) = groupsOf items ++ groupsOf more :=
  List.flatMap_append

theorem groups_sequence (rs : List Regex) :
    (Regex.sequence rs).groups = rs.flatMap Regex.groups := by
  induction rs with
  | nil => rfl
  | cons r rs ih =>
    cases rs with
    | nil => simp [Regex.sequence]
    | cons r' rs => simp [Regex.sequence, Regex.groups, ih]

theorem groups_sequenceOf (items : List Item) : (sequenceOf items).groups = groupsOf items := by
  rw [sequenceOf, groups_sequence, List.flatMap_map, groupsOf]

theorem groups_alternatives (rs : List Regex) :
    (Regex.alternatives rs).groups = rs.flatMap Regex.groups := by
  induction rs with
  | nil => rfl
  | cons r rs ih => simp [Regex.alternatives, Regex.groups, ih]

/-- What is written as a construct of its own has no groups. -/
def Item.Sound (i : Item) : Prop := i.written.isSome = true → i.regex.groups = []

/-! ## Alternatives -/

/-- A sequence that begins like another one begins with no group. -/
theorem groupsOf_tail {i : Item} {b : List Item} (hb : ∀ j ∈ b, j.Sound)
    (hsame : b.head?.any i.same = true) : groupsOf b.tail = groupsOf b := by
  cases b with
  | nil => rfl
  | cons j b =>
    simp only [List.head?_cons, Option.any_some, Item.same, Bool.and_eq_true, beq_iff_eq] at hsame
    have hj : j.regex.groups = [] := hb j List.mem_cons_self (hsame.2 ▸ hsame.1)
    simp [groupsOf, hj]

/-- Taking out what sequences begin with puts no item into them. -/
theorem commonStart_all {P : Item → Prop} {first : List Item} {others : List (List Item)}
    (hfirst : ∀ i ∈ first, P i) (hothers : ∀ b ∈ others, ∀ i ∈ b, P i) :
    (∀ i ∈ (commonStart first others).1, P i) ∧
      ∀ b ∈ (commonStart first others).2, ∀ i ∈ b, P i := by
  induction first generalizing others with
  | nil =>
    refine ⟨fun i hi => absurd hi List.not_mem_nil, fun b hb i hi => ?_⟩
    rcases List.mem_cons.mp hb with rfl | hb
    · exact absurd hi List.not_mem_nil
    · exact hothers b hb i hi
  | cons i first ih =>
    unfold commonStart
    split
    · have htails : ∀ b ∈ others.map List.tail, ∀ j ∈ b, P j := fun b hb j hj => by
        obtain ⟨b', hb', rfl⟩ := List.mem_map.mp hb
        exact hothers b' hb' j (List.mem_of_mem_tail hj)
      obtain ⟨hshared, hrests⟩ := ih (fun j hj => hfirst j (List.mem_cons_of_mem _ hj)) htails
      refine ⟨fun j hj => ?_, hrests⟩
      rcases List.mem_cons.mp hj with rfl | hj
      · exact hfirst j List.mem_cons_self
      · exact hshared j hj
    · refine ⟨fun i hi => absurd hi List.not_mem_nil, fun b hb j hj => ?_⟩
      rcases List.mem_cons.mp hb with rfl | hb
      · exact hfirst j hj
      · exact hothers b hb j hj

/-- Taking out what sequences begin with keeps their groups in order. -/
theorem groupsOf_commonStart {first : List Item} {others : List (List Item)}
    (hothers : ∀ b ∈ others, ∀ i ∈ b, i.Sound) :
    groupsOf (commonStart first others).1 ++ (commonStart first others).2.flatMap groupsOf =
      groupsOf first ++ others.flatMap groupsOf := by
  induction first generalizing others with
  | nil => rfl
  | cons i first ih =>
    unfold commonStart
    split
    · next hall =>
      have hsound : ∀ b ∈ others.map List.tail, ∀ j ∈ b, j.Sound := fun b hb j hj => by
        obtain ⟨b', hb', rfl⟩ := List.mem_map.mp hb
        exact hothers b' hb' j (List.mem_of_mem_tail hj)
      have ih := ih hsound
      have htails : (others.map List.tail).flatMap groupsOf = others.flatMap groupsOf := by
        rw [List.flatMap_map]
        exact List.flatMap_congr fun b hb =>
          groupsOf_tail (hothers b hb) (List.all_eq_true.mp hall b hb)
      rw [htails] at ih
      change i.regex.groups ++ groupsOf _ ++ _ = i.regex.groups ++ groupsOf first ++ _
      rw [List.append_assoc, ih, List.append_assoc]
    · rfl

theorem isSome_of_mapM {α β : Type} {f : α → Option β} {xs : List α} {ys : List β}
    (h : xs.mapM f = some ys) : ∀ x ∈ xs, (f x).isSome = true := by
  induction xs generalizing ys with
  | nil => exact fun x hx => absurd hx List.not_mem_nil
  | cons x xs ih =>
    rw [List.mapM_cons, Option.bind_eq_bind, Option.bind_eq_some_iff] at h
    obtain ⟨y, hy, h⟩ := h
    rw [Option.bind_eq_bind, Option.bind_eq_some_iff] at h
    obtain ⟨ys, hys, _⟩ := h
    intro x' hx'
    rcases List.mem_cons.mp hx' with rfl | hx'
    · rw [hy]
      rfl
    · exact ih hys x' hx'

theorem Item.groups_eq_nil_of_members {i : Item} (h : i.Sound) (hi : i.members?.isSome = true) :
    i.regex.groups = [] := by
  apply h
  unfold members? at hi
  split at hi
  · next heq => simp [heq]
  · next heq => simp [heq]
  · cases hi

/-- What stands for several alternatives has their groups. -/
theorem choiceOf_spec (modes : Modes) {branches : List (List Item)}
    (hbranches : ∀ b ∈ branches, ∀ i ∈ b, i.Sound) :
    (choiceOf modes branches).regex.groups = branches.flatMap groupsOf ∧
      (choiceOf modes branches).Sound := by
  unfold choiceOf
  dsimp only
  split
  · next members hmembers =>
    refine ⟨?_, fun _ => rfl⟩
    change [] = branches.flatMap groupsOf
    refine (List.flatMap_eq_nil_iff.mpr fun b hb => ?_).symm
    have hb' := isSome_of_mapM hmembers b hb
    split at hb'
    · next i =>
      have hi := Item.groups_eq_nil_of_members (hbranches _ hb i List.mem_cons_self) hb'
      simp [groupsOf, hi]
    · cases hb'
  · refine ⟨?_, nofun⟩
    rw [groups_alternatives, List.flatMap_map]
    exact List.flatMap_congr fun b _ => groups_sequenceOf b

namespace Level

/-- The groups of an alternation. -/
def groups (l : Level) : List Nat :=
  l.allBranches.flatMap groupsOf

/-- Something holds of every item of an alternation. -/
def All (P : Item → Prop) (l : Level) : Prop :=
  ∀ b ∈ l.allBranches, ∀ i ∈ b, P i

/-- It holds of the items that the alternation leaves, if it holds of what stands for several
alternatives. -/
theorem All.items {P : Item → Prop} {l : Level} (h : l.All P)
    (hchoice : ∀ branches : List (List Item), (∀ b ∈ branches, ∀ i ∈ b, P i) →
      P (choiceOf l.modes branches)) : ∀ i ∈ l.items, P i := by
  unfold Level.items
  unfold All at h
  split
  · exact fun i hi => absurd hi List.not_mem_nil
  · next b heq =>
    rw [heq] at h
    exact h b List.mem_cons_self
  · next b bs _ heq =>
    rw [heq] at h
    obtain ⟨hshared, hrests⟩ := commonStart_all (h b List.mem_cons_self)
      (fun b' hb' => h b' (List.mem_cons_of_mem _ hb'))
    intro i hi
    rcases List.mem_append.mp hi with hi | hi
    · exact hshared i hi
    · rw [List.mem_singleton.mp hi]
      exact hchoice _ hrests

/-- The items of an alternation have its groups. -/
theorem groupsOf_items {l : Level} (h : l.All Item.Sound) : groupsOf l.items = l.groups := by
  unfold items groups
  unfold All at h
  split
  · next heq =>
    rw [heq]
    rfl
  · next b heq =>
    rw [heq]
    simp
  · next b bs _ heq =>
    rw [heq] at h ⊢
    have hothers : ∀ b' ∈ bs, ∀ i ∈ b', i.Sound := fun b' hb' => h b' (List.mem_cons_of_mem _ hb')
    obtain ⟨-, hrests⟩ := commonStart_all (h b List.mem_cons_self) hothers
    rw [groupsOf_append]
    simpa [groupsOf, (choiceOf_spec l.modes hrests).1] using groupsOf_commonStart hothers

theorem sound_items {l : Level} (h : l.All Item.Sound) : ∀ i ∈ l.items, i.Sound :=
  h.items fun _ hbranches => (choiceOf_spec l.modes hbranches).2

theorem groups_regex {l : Level} (h : l.All Item.Sound) : l.regex.groups = l.groups := by
  rw [regex, groups_sequenceOf, groupsOf_items h]

@[simp] theorem groups_start (modes : Modes) : (start modes).groups = [] := rfl

theorem all_start {P : Item → Prop} (modes : Modes) : (start modes).All P := by
  intro b hb i hi
  rw [List.mem_singleton.mp hb] at hi
  exact absurd hi List.not_mem_nil

theorem allBranches_push (l : Level) (role : Role) (items : List Item) :
    (l.push role items).allBranches = l.branches.reverse ++ [l.branch ++ items] := by
  simp [allBranches, branch, push]

theorem groups_push (l : Level) (role : Role) (items : List Item) :
    (l.push role items).groups = l.groups ++ groupsOf items := by
  rw [groups, allBranches_push]
  simp [groups, allBranches, groupsOf_append]

theorem All.push {P : Item → Prop} {l : Level} (h : l.All P) (role : Role) {items : List Item}
    (hitems : ∀ i ∈ items, P i) : (l.push role items).All P := by
  intro b hb i hi
  rw [allBranches_push] at hb
  rcases List.mem_append.mp hb with hb | hb
  · exact h b (List.mem_append_left _ hb) i hi
  · rw [List.mem_singleton.mp hb] at hi
    rcases List.mem_append.mp hi with hi | hi
    · exact h l.branch (List.mem_append_right _ List.mem_cons_self) i hi
    · exact hitems i hi

theorem all_of_push {P : Item → Prop} {l : Level} {role : Role} {items : List Item}
    (h : (l.push role items).All P) : l.All P ∧ ∀ i ∈ items, P i := by
  unfold All at h ⊢
  rw [allBranches_push] at h
  have hlast := h _ (List.mem_append_right _ List.mem_cons_self)
  refine ⟨fun b hb i hi => ?_, fun i hi => hlast i (List.mem_append_right _ hi)⟩
  rcases List.mem_append.mp hb with hb | hb
  · exact h b (List.mem_append_left _ hb) i hi
  · rw [List.mem_singleton.mp hb] at hi
    exact hlast i (List.mem_append_left _ hi)

theorem allBranches_bar (l : Level) : l.bar.allBranches = l.allBranches ++ [[]] := by
  simp [allBranches, bar, branch]

theorem groups_bar (l : Level) : l.bar.groups = l.groups := by
  simp [groups, allBranches_bar, groupsOf]

theorem All.bar {P : Item → Prop} {l : Level} (h : l.All P) : l.bar.All P := by
  intro b hb i hi
  rw [allBranches_bar] at hb
  rcases List.mem_append.mp hb with hb | hb
  · exact h b hb i hi
  · rw [List.mem_singleton.mp hb] at hi
    exact absurd hi List.not_mem_nil

end Level

/-! ## The reader -/

/-- The groups of an open group so far: those around it, and itself. -/
def OpenGroup.groups (g : OpenGroup) : List Nat :=
  g.outer.groups ++ g.kind.groups

namespace Reader

/-- The groups opened so far, in the order in which the pattern has them. -/
def opened (r : Reader) : List Nat :=
  r.groups.reverse.flatMap OpenGroup.groups ++ r.level.groups

/-- The groups are numbered in the order of the pattern, and no name is used twice. -/
structure Numbered (r : Reader) : Prop where
  opened_eq : r.opened = List.range' 1 r.captures
  sound : r.level.All Item.Sound
  sound_outer : ∀ g ∈ r.groups, g.outer.All Item.Sound
  nodup_names : (r.names.map (·.1)).Nodup

theorem numbered_start (mostOpen : Nat) (modes : Modes) : (start mostOpen modes).Numbered where
  opened_eq := rfl
  sound := Level.all_start modes
  sound_outer _ hg := absurd hg List.not_mem_nil
  nodup_names := List.nodup_nil

namespace Numbered
variable {r : Reader}

/-- What a group leaves has the groups in it, behind its own. -/
theorem groups_groupItems (h : r.Numbered) (kind : GroupKind) :
    groupsOf (r.groupItems kind) = kind.groups ++ r.level.groups := by
  have hlevel := Level.groups_regex h.sound
  have hone (x : Regex) : groupsOf [⟨x, none⟩] = x.groups := by simp [groupsOf]
  unfold groupItems
  split
  · next hplain =>
    subst hplain
    exact Level.groupsOf_items h.sound
  · rw [hone]
    cases kind with
    | conditional n =>
      unfold groupRegex
      dsimp only
      split
      · next yes no heq =>
        simp only [Regex.groups, groups_sequenceOf, GroupKind.groups, Level.groups, heq]
        simp
      · simp only [Regex.groups, hlevel, GroupKind.groups, List.append_nil, List.nil_append]
    | _ => simp only [groupRegex, Regex.groups, hlevel, GroupKind.groups, List.nil_append,
        List.singleton_append]

theorem sound_groupItems (h : r.Numbered) (kind : GroupKind) :
    ∀ i ∈ r.groupItems kind, i.Sound := by
  unfold groupItems
  split
  · exact Level.sound_items h.sound
  · intro i hi
    rw [List.mem_singleton.mp hi]
    exact nofun

/-- A change of the innermost alternation that keeps its groups. -/
theorem withLevel (h : r.Numbered) {l : Level} (hgroups : l.groups = r.level.groups)
    (hsound : l.All Item.Sound) : Numbered { r with level := l } where
  opened_eq := by
    rw [← h.opened_eq, opened, opened, hgroups]
  sound := hsound
  sound_outer := h.sound_outer
  nodup_names := h.nodup_names

theorem push (h : r.Numbered) (role : Role) {x : Regex} (hx : x.groups = []) (c : Construct) :
    (r.push role x (some c)).Numbered := by
  refine h.withLevel ?_ (h.sound.push role fun i hi => ?_)
  · rw [Level.groups_push]
    simp [groupsOf, hx]
  · rw [List.mem_singleton.mp hi]
    exact fun _ => hx

/-- A repetition has the groups of what is repeated. -/
theorem quantifier (h : r.Numbered) {items : List Item} {pieces : List Piece}
    (hpieces : r.level.pieces = ⟨.item, items⟩ :: pieces) (greed : Greed) (least : Nat)
    (most : Option Nat) : Numbered { r with level := { r.level with
      pieces := ⟨.repetition, [⟨.loop greed least most (sequenceOf items), none⟩]⟩ :: pieces } } := by
  -- Both levels are the one before with one more piece.
  let before : Level := { r.level with pieces := pieces }
  have hlevel : r.level = before.push .item items := by
    unfold Level.push
    rw [← hpieces]
  have hbefore : before.All Item.Sound := (Level.all_of_push (hlevel ▸ h.sound)).1
  refine h.withLevel (l := before.push .repetition _) ?_ (hbefore.push _ fun i hi => ?_)
  · rw [hlevel, Level.groups_push, Level.groups_push]
    simp [groupsOf, Regex.groups, groups_sequenceOf]
  · rw [List.mem_singleton.mp hi]
    exact nofun

/-- Opening a group. -/
theorem enter (h : r.Numbered) (kind : GroupKind) (place : Nat) (modes : Modes) :
    (r.enter kind place modes).opened = List.range' 1 r.captures ++ kind.groups := by
  rw [← h.opened_eq]
  simp [opened, Reader.enter, OpenGroup.groups]

theorem sound_outer_enter (h : r.Numbered) (kind : GroupKind) (place : Nat) (modes : Modes) :
    ∀ g ∈ (r.enter kind place modes).groups, g.outer.All Item.Sound := by
  intro g hg
  rcases List.mem_cons.mp hg with rfl | hg
  · exact h.sound
  · exact h.sound_outer g hg

theorem enterCapture (h : r.Numbered) (place : Nat) : (r.enterCapture place).Numbered where
  opened_eq := by
    change (r.enter (.capture (r.captures + 1)) place r.level.modes).opened = _
    rw [h.enter, GroupKind.groups, Nat.add_comm r.captures, ← List.range'_1_concat]
    rfl
  sound := Level.all_start _
  sound_outer := h.sound_outer_enter _ _ r.level.modes
  nodup_names := h.nodup_names

/-- Closing the innermost group. -/
theorem close (h : r.Numbered) {g : OpenGroup} {outer : List OpenGroup}
    (hgroups : r.groups = g :: outer) : (r.close g outer).Numbered := by
  have hclosed : Numbered
      { r with level := g.outer.push .item (r.groupItems g.kind), groups := outer } := by
    constructor
    · rw [← h.opened_eq]
      simp [opened, hgroups, OpenGroup.groups, Level.groups_push, h.groups_groupItems]
    · exact (h.sound_outer g (hgroups ▸ List.mem_cons_self)).push _ (h.sound_groupItems g.kind)
    · exact fun g' hg' => h.sound_outer g' (hgroups ▸ List.mem_cons_of_mem g hg')
    · exact h.nodup_names
  unfold Reader.close
  dsimp only
  split
  · exact ⟨hclosed.opened_eq, hclosed.sound, hclosed.sound_outer, hclosed.nodup_names⟩
  · exact ⟨hclosed.opened_eq, hclosed.sound, hclosed.sound_outer, hclosed.nodup_names⟩
  · exact hclosed

/-- **Every step keeps the groups numbered.** -/
theorem effect {r' : Reader} {c : Construct} {tail : Text} (h : r.Numbered)
    (he : Effect r tail c r') :
    r'.Numbered := by
  cases he with
  | blank => exact h
  | item hputs => exact h.push _ hputs.groups_eq _
  | quantifier hpieces => exact h.quantifier hpieces _ _ _
  | bar => exact h.withLevel (Level.groups_bar r.level) h.sound.bar
  | @enter o kind place fence expected hkind =>
    constructor
    · change (r.enter kind place _).opened = _
      rw [h.enter, Opening.groups_of_kind? hkind, List.append_nil]
      rfl
    · exact Level.all_start _
    · exact h.sound_outer_enter kind place (o.innerModes r.level.modes)
    · exact h.nodup_names
  | capture => exact h.enterCapture _
  | @named name place hname =>
    have hcapture := h.enterCapture place
    refine ⟨hcapture.opened_eq, hcapture.sound, hcapture.sound_outer, ?_⟩
    rw [List.map_cons, List.nodup_cons]
    refine ⟨fun hmem => ?_, h.nodup_names⟩
    obtain ⟨p, hp, hpname⟩ := List.mem_map.mp hmem
    have := List.lookup_eq_none_iff.mp hname p hp
    simp [hpname] at this
  | closing hgroups => exact h.close hgroups
  | globalModes hgroups => exact h.withLevel rfl h.sound

end Numbered

/-- The names of groups are listed from the last group back, and their numbers are those of groups
opened so far. -/
structure Listed (r : Reader) : Prop where
  descending : r.names.Pairwise fun a b => b.2 < a.2
  opened : ∀ a ∈ r.names, 0 < a.2 ∧ a.2 ≤ r.captures

theorem listed_start (mostOpen : Nat) (modes : Modes) : (start mostOpen modes).Listed :=
  ⟨.nil, fun _ ha => absurd ha List.not_mem_nil⟩

/-- A reader with the same names and groups lists them alike. -/
theorem Listed.congr {r r' : Reader} (h : r.Listed) (hnames : r'.names = r.names)
    (hcaptures : r'.captures = r.captures) : r'.Listed := by
  obtain ⟨hdescending, hopened⟩ := h
  rw [← hnames] at hdescending hopened
  exact ⟨hdescending, hcaptures ▸ hopened⟩

theorem names_close (r : Reader) (g : OpenGroup) (outer : List OpenGroup) :
    (r.close g outer).names = r.names ∧ (r.close g outer).captures = r.captures := by
  unfold close
  dsimp only
  split <;> exact ⟨rfl, rfl⟩

/-- **Every step keeps the names in the order of their groups.** -/
theorem Listed.effect {r r' : Reader} {c : Construct} {tail : Text} (h : r.Listed)
    (he : Effect r tail c r') : r'.Listed := by
  cases he with
  | blank | item | quantifier | bar | enter | globalModes => exact h.congr rfl rfl
  | closing => exact h.congr (names_close r _ _).1 (names_close r _ _).2
  | capture =>
    exact ⟨h.descending, fun a ha =>
      ⟨(h.opened a ha).1, Nat.le_succ_of_le (h.opened a ha).2⟩⟩
  | named =>
    refine ⟨List.pairwise_cons.mpr ⟨fun a ha => Nat.lt_succ_of_le (h.opened a ha).2, h.descending⟩,
      fun a ha => ?_⟩
    rcases List.mem_cons.mp ha with rfl | ha
    · exact ⟨Nat.succ_pos _, Nat.le_refl _⟩
    · exact ⟨(h.opened a ha).1, Nat.le_succ_of_le (h.opened a ha).2⟩

theorem Halts.listed {r last : Reader} {input left : Text} (hr : r.Listed)
    (h : Halts r input last left) : last.Listed := by
  induction h with
  | finished => exact hr
  | stray => exact hr
  | step _ _ hstep _ ih =>
    obtain ⟨c, tail, _, he, _⟩ := step_effect hstep
    exact ih (hr.effect he)

/-- So they are numbered whenever the reader is done. -/
theorem Halts.numbered {r last : Reader} {input left : Text} (hr : r.Numbered)
    (h : Halts r input last left) : last.Numbered := by
  induction h with
  | finished => exact hr
  | stray => exact hr
  | step _ _ hstep _ ih =>
    obtain ⟨c, tail, _, he, _⟩ := step_effect hstep
    exact ih (hr.effect he)

/-- The reader is done when no group is open any more. -/
theorem Halts.groups_eq_nil {r last : Reader} {input left : Text}
    (h : Halts r input last left) : last.groups = [] := by
  induction h with
  | finished hgroups => exact hgroups
  | stray hstray =>
    simp only [atStrayBracket, Bool.and_eq_true, List.isEmpty_iff] at hstray
    exact hstray.1
  | step _ _ _ _ ih => exact ih

end Reader

namespace Regex

/-- **The groups of a compiled pattern are numbered as they open**, and no two have one name. -/
theorem groups_of_compile {mostOpen : Nat} {modes : Modes} {pattern : Text} {p : Program}
    (h : compile mostOpen modes pattern = .ok p) :
    p.regex.groups = List.range' 1 p.captures ∧ (p.names.map (·.1)).Nodup := by
  obtain ⟨r, hhalts, hmade⟩ := halts_of_compile h
  have hnumbered := hhalts.numbered (Reader.numbered_start mostOpen modes)
  rw [hmade.regex_eq, hmade.captures_eq, hmade.names_eq]
  constructor
  · rw [Level.groups_regex hnumbered.sound, ← hnumbered.opened_eq, Reader.opened,
      hhalts.groups_eq_nil]
    rfl
  · rw [List.map_reverse]
    exact List.nodup_reverse.mpr hnumbered.nodup_names

/-- **The names of a compiled pattern stand in the order of their groups**, each of which is a group
of the pattern. -/
theorem names_of_compile {mostOpen : Nat} {modes : Modes} {pattern : Text} {p : Program}
    (h : compile mostOpen modes pattern = .ok p) :
    p.names.Pairwise (fun a b => a.2 < b.2) ∧ ∀ a ∈ p.names, a.2 ∈ p.regex.groups := by
  have hgroups := (groups_of_compile h).1
  obtain ⟨r, hhalts, hmade⟩ := halts_of_compile h
  have hlisted := hhalts.listed (Reader.listed_start mostOpen modes)
  rw [hgroups, hmade.names_eq, hmade.captures_eq]
  refine ⟨List.pairwise_reverse.mpr hlisted.descending, fun a ha => ?_⟩
  have hopened := hlisted.opened a (List.mem_reverse.mp ha)
  rw [List.mem_range'_1]
  omega

end Regex

end Highlighting
