import Highlighting.Proofs.Regex.Bracket
import Highlighting.Proofs.Regex.Numbering

/-!
# The parts of an expression

What is asked of the characters, the references and the groups of an expression is asked of each by
itself, wherever it stands. If an expression is put together from items that meet such demands, it
meets them too, so a demand is met by what a reader has read if every construct that it reads puts
items that meet it.

Two demands are of use. Where no construct switches between ASCII and Unicode, all classes of an
expression are read in one of them. And a group of an expression is not referred to inside of
itself, and is as wide as the reader takes it to be wherever it is referred to.

## Main definitions

* `Demands`, `Regex.Meets` -- what is asked of the parts of an expression.
* `Reader.Meets` -- what was read meets demands.
* `Regex.Sized` -- the groups of an expression have the sizes given.
* `Regex.constructs` -- the constructs of a pattern.
-/
namespace Highlighting

/-! ## Demands -/

/-- The groups that an expression refers back to. -/
def Regex.backrefs : Regex → List Nat
  | seq r s => r.backrefs ++ s.backrefs
  | alt r s => r.backrefs ++ s.backrefs
  | capture _ r => r.backrefs
  | backref _ g => [g]
  | conditional _ r s => r.backrefs ++ s.backrefs
  | ahead _ r => r.backrefs
  | behind _ _ r => r.backrefs
  | atomic r => r.backrefs
  | loop _ _ _ r => r.backrefs
  | _ => []

/-- What is asked of the characters, the references and the groups of an expression, and of the
modes in which it is read. -/
structure Demands where
  modes : Modes → Prop
  test : CharTest → Prop
  backref : Nat → Prop
  capture : Nat → Regex → Prop
  test_of_modes : ∀ (m : Modes) (a : Atom), modes m → test (a.test m)

namespace Regex

/-- All parts of an expression are as they have to be. -/
def Meets (d : Demands) : Regex → Prop
  | char t => d.test t
  | seq r s => r.Meets d ∧ s.Meets d
  | alt r s => r.Meets d ∧ s.Meets d
  | capture g r => d.capture g r ∧ r.Meets d
  | backref _ g => d.backref g
  | conditional _ r s => r.Meets d ∧ s.Meets d
  | ahead _ r => r.Meets d
  | behind _ _ r => r.Meets d
  | atomic r => r.Meets d
  | loop _ _ _ r => r.Meets d
  | _ => True

theorem Meets.mono {d d' : Demands} {r : Regex} (h : r.Meets d) (htest : ∀ t, d.test t → d'.test t)
    (hbackref : ∀ g, d.backref g → d'.backref g)
    (hcapture : ∀ g x, x.Meets d → d.capture g x → d'.capture g x) : r.Meets d' := by
  induction r with
  | char t => exact htest t h
  | backref f g => exact hbackref g h
  | capture g r ih => exact ⟨hcapture g r h.2 h.1, ih h.2⟩
  | seq r s ihr ihs => exact ⟨ihr h.1, ihs h.2⟩
  | alt r s ihr ihs => exact ⟨ihr h.1, ihs h.2⟩
  | conditional g r s ihr ihs => exact ⟨ihr h.1, ihs h.2⟩
  | ahead negated r ih => exact ih h
  | behind negated w r ih => exact ih h
  | atomic r ih => exact ih h
  | loop greed least most r ih => exact ih h
  | _ => trivial

theorem Meets.backrefs {d : Demands} {r : Regex} (h : r.Meets d) :
    ∀ g ∈ r.backrefs, d.backref g := by
  have both {r s : Regex} (hr : ∀ g ∈ r.backrefs, d.backref g)
      (hs : ∀ g ∈ s.backrefs, d.backref g) :
      ∀ g ∈ r.backrefs ++ s.backrefs, d.backref g :=
    fun g hg => (List.mem_append.mp hg).elim (hr g) (hs g)
  induction r with
  | backref f g => exact fun g' hg' => List.mem_singleton.mp hg' ▸ h
  | capture g r ih => exact ih h.2
  | seq r s ihr ihs => exact both (ihr h.1) (ihs h.2)
  | alt r s ihr ihs => exact both (ihr h.1) (ihs h.2)
  | conditional g r s ihr ihs => exact both (ihr h.1) (ihs h.2)
  | ahead negated r ih => exact ih h
  | behind negated w r ih => exact ih h
  | atomic r ih => exact ih h
  | loop greed least most r ih => exact ih h
  | _ => exact fun g hg => absurd hg List.not_mem_nil

/-- The width of an expression depends on the groups that it refers back to only. -/
theorem width_congr {f f' : Nat → Width} {r : Regex} (h : ∀ g ∈ r.backrefs, f g = f' g) :
    r.width f = r.width f' := by
  induction r with
  | seq r s ihr ihs =>
    rw [width, width, ihr fun g hg => h g (List.mem_append_left _ hg),
      ihs fun g hg => h g (List.mem_append_right _ hg)]
  | alt r s ihr ihs =>
    rw [width, width, ihr fun g hg => h g (List.mem_append_left _ hg),
      ihs fun g hg => h g (List.mem_append_right _ hg)]
  | conditional g r s ihr ihs =>
    rw [width, width, ihr fun g hg => h g (List.mem_append_left _ hg),
      ihs fun g hg => h g (List.mem_append_right _ hg)]
  | capture g r ih => exact ih h
  | backref f g => exact h g List.mem_cons_self
  | atomic r ih => exact ih h
  | loop greed least most r ih => rw [width, width, ih h]
  | _ => rfl

variable {d : Demands}

theorem meets_sequence {rs : List Regex} (h : ∀ r ∈ rs, r.Meets d) : (sequence rs).Meets d := by
  induction rs with
  | nil => trivial
  | cons r rs ih =>
    have hr := h r List.mem_cons_self
    cases rs with
    | nil => exact hr
    | cons r' rs => exact ⟨hr, ih fun x hx => h x (List.mem_cons_of_mem _ hx)⟩

theorem meets_sequenceOf {items : List Item} (h : ∀ i ∈ items, i.regex.Meets d) :
    (sequenceOf items).Meets d := by
  refine meets_sequence fun r hr => ?_
  obtain ⟨i, hi, rfl⟩ := List.mem_map.mp hr
  exact h i hi

theorem meets_alternatives {rs : List Regex} (h : ∀ r ∈ rs, r.Meets d) :
    (alternatives rs).Meets d := by
  induction rs with
  | nil => trivial
  | cons r rs ih =>
    exact ⟨h r List.mem_cons_self, ih fun x hx => h x (List.mem_cons_of_mem _ hx)⟩

end Regex

/-! ## What a reader has read -/

/-- The items of an alternation meet demands, and so do its modes. -/
structure Level.Meets (d : Demands) (l : Level) : Prop where
  items : l.All fun i => i.regex.Meets d
  modes : d.modes l.modes

theorem Level.Meets.meets_items {d : Demands} {l : Level} (h : l.Meets d) :
    ∀ i ∈ l.items, i.regex.Meets d := by
  refine h.items.items fun branches hbranches => ?_
  unfold choiceOf
  dsimp only
  split
  · exact d.test_of_modes _ _ h.modes
  · refine Regex.meets_alternatives fun r hr => ?_
    obtain ⟨b, hb, rfl⟩ := List.mem_map.mp hr
    exact Regex.meets_sequenceOf (hbranches b hb)

theorem Level.Meets.regex {d : Demands} {l : Level} (h : l.Meets d) : l.regex.Meets d :=
  Regex.meets_sequenceOf h.meets_items

namespace Reader

/-- What was read so far meets demands, in all alternations that are being read. -/
structure Meets (d : Demands) (r : Reader) : Prop where
  level : r.level.Meets d
  outer : ∀ g ∈ r.groups, g.outer.Meets d

namespace Meets
variable {d : Demands} {r : Reader}

theorem withItems (h : r.Meets d) {l : Level} (hmodes : l.modes = r.level.modes)
    (hitems : l.All fun i => i.regex.Meets d) : Meets d { r with level := l } where
  level := ⟨hitems, hmodes ▸ h.level.modes⟩
  outer := h.outer

theorem enter (h : r.Meets d) (kind : GroupKind) (opened : Nat) {modes : Modes}
    (hmodes : d.modes modes) : (r.enter kind opened modes).Meets d where
  level := ⟨Level.all_start modes, hmodes⟩
  outer g hg := by
    rcases List.mem_cons.mp hg with rfl | hg
    · exact h.level
    · exact h.outer g hg

/-- The items that a group leaves meet demands if the group does. -/
theorem groupItems (h : r.Meets d) {kind : GroupKind}
    (hcapture : ∀ n, kind = .capture n → d.capture n r.level.regex) :
    ∀ i ∈ r.groupItems kind, i.regex.Meets d := by
  unfold Reader.groupItems
  split
  · exact h.level.meets_items
  · intro i hi
    rw [List.mem_singleton.mp hi]
    cases kind with
    | capture n => exact ⟨hcapture n rfl, h.level.regex⟩
    | conditional n =>
      unfold groupRegex
      dsimp only
      split
      · next yes no heq =>
        have hitems := h.level.items
        rw [Level.All, heq] at hitems
        exact ⟨Regex.meets_sequenceOf (hitems yes (by simp)),
          Regex.meets_sequenceOf (hitems no (by simp))⟩
      · exact ⟨h.level.regex, trivial⟩
    | _ => exact h.level.regex

/-- **A step keeps to demands** that are met by the modes of the group that it opens, by references
to groups that are closed, and by the group that it closes. -/
theorem effect {r' : Reader} {c : Construct} {tail : Text} (h : r.Meets d) (he : Effect r tail c r')
    (hopening : ∀ o, c = .opening o → d.modes (o.innerModes r.level.modes))
    (hglobal : ∀ on, c = .globalModes on → d.modes (r.level.modes.turnOn on))
    (hbackref : ∀ n, r.isClosed n = true → d.backref n)
    (hcapture : c = .closing → ∀ g outer n, r.groups = g :: outer → g.kind = .capture n →
      d.capture n r.level.regex) : r'.Meets d := by
  cases he with
  | blank => exact h
  | item hputs =>
    refine h.withItems (by rfl) (h.level.items.push _ fun i hi => ?_)
    rw [List.mem_singleton.mp hi]
    cases hputs with
    | atom a => exact d.test_of_modes _ a h.level.modes
    | place p => trivial
    | numbered hclosed => exact hbackref _ hclosed
    | named hname hclosed => exact hbackref _ hclosed
  | @quantifier least most items pieces hpieces =>
    -- Both levels are the one before with one more piece.
    let before : Level := { r.level with pieces := pieces }
    have hlevel : r.level = before.push .item items := by
      unfold Level.push
      rw [← hpieces]
    obtain ⟨hbefore, hitems⟩ := Level.all_of_push (hlevel ▸ h.level.items)
    refine h.withItems (l := before.push .repetition _) (by rfl) (hbefore.push _ fun i hi => ?_)
    rw [List.mem_singleton.mp hi]
    exact Regex.meets_sequenceOf hitems
  | bar => exact h.withItems (by rfl) h.level.items.bar
  | @enter o kind opened fence expected hkind =>
    have hinside := h.enter kind opened (hopening o rfl)
    exact ⟨hinside.level, hinside.outer⟩
  | @capture opened =>
    have hinside := h.enter (.capture (r.captures + 1)) opened h.level.modes
    exact ⟨hinside.level, hinside.outer⟩
  | @named name opened hname =>
    have hinside := h.enter (.capture (r.captures + 1)) opened h.level.modes
    exact ⟨hinside.level, hinside.outer⟩
  | @closing g outer hgroups =>
    obtain ⟨hclosed, -, hlevel⟩ := InStep.close_groups r g outer
    have hg := h.outer g (hgroups ▸ List.mem_cons_self)
    constructor
    · rw [hlevel]
      exact ⟨hg.items.push _ (h.groupItems fun n hn => hcapture rfl g outer n hgroups hn), hg.modes⟩
    · rw [hclosed]
      exact fun g' hg' => h.outer g' (hgroups ▸ List.mem_cons_of_mem g hg')
  | @globalModes on hgroups => exact ⟨⟨h.level.items, hglobal on rfl⟩, h.outer⟩

end Meets

end Reader

/-! ## The sizes of groups -/

/-- The groups have the sizes given, wherever they are referred to, and none is referred to
inside of itself. A group whose size is not told takes any number of characters. -/
def Regex.Sized (w : Nat → Width) : Regex → Prop :=
  Meets
    { modes := fun _ => True
      test := fun _ => True
      backref := fun g => 0 < (w g).min → 0 < g
      capture := fun g x => (w g).min ≤ (x.width w).min ∧ (0 < (w g).min → g ∉ x.backrefs)
      test_of_modes := fun _ _ _ => trivial }

/-- Where no size is told, none has to be kept. -/
theorem Regex.sized_zero (r : Regex) : r.Sized fun _ => .zero := by
  have hnone (n : Nat) : ¬ 0 < Width.zero.min := Nat.lt_irrefl 0
  induction r with
  | backref f g => exact fun h => absurd h (hnone g)
  | capture g r ih => exact ⟨⟨Nat.zero_le _, fun h => absurd h (hnone g)⟩, ih⟩
  | seq r s ihr ihs => exact ⟨ihr, ihs⟩
  | alt r s ihr ihs => exact ⟨ihr, ihs⟩
  | conditional g r s ihr ihs => exact ⟨ihr, ihs⟩
  | ahead negated r ih => exact ih
  | behind negated w r ih => exact ih
  | atomic r ih => exact ih
  | loop greed least most r ih => exact ih
  | _ => trivial

/-- What holds of a reader that knows the widths of the groups that are closed: these are referred
to, and have the widths of their expressions. -/
def sizes (widths : List (Nat × Width)) : Demands where
  modes _ := True
  test _ := True
  test_of_modes _ _ _ := trivial
  backref g := (widths.lookup g).isSome = true
  capture g x :=
    widths.lookup g = some (x.width fun g => (widths.lookup g).getD .zero) ∧ g ∉ x.backrefs

theorem lookup_cons_of_closed {widths : List (Nat × Width)} {n g : Nat} {w : Width}
    (hnew : widths.lookup n = none) (hg : (widths.lookup g).isSome = true) :
    ((n, w) :: widths).lookup g = widths.lookup g := by
  have hne : (g == n) = false := by
    rw [beq_eq_false_iff_ne]
    rintro rfl
    rw [hnew] at hg
    cases hg
  rw [List.lookup_cons, hne]

/-- Where another group is closed, the others keep their widths. -/
theorem Regex.Meets.sizes_cons {widths : List (Nat × Width)} {n : Nat} {w : Width}
    (hnew : widths.lookup n = none) {x : Regex} (h : x.Meets (sizes widths)) :
    x.Meets (sizes ((n, w) :: widths)) ∧
      x.width (fun g => (((n, w) :: widths).lookup g).getD .zero) =
        x.width fun g => (widths.lookup g).getD .zero := by
  have hwidth {x : Regex} (h : x.Meets (sizes widths)) :
      x.width (fun g => (((n, w) :: widths).lookup g).getD .zero) =
        x.width fun g => (widths.lookup g).getD .zero :=
    width_congr fun g hg => by rw [lookup_cons_of_closed hnew (h.backrefs g hg)]
  refine ⟨h.mono (fun _ _ => trivial) (fun g hg => ?_) fun g x hx hcapture => ⟨?_, hcapture.2⟩,
    hwidth h⟩
  · change (((n, w) :: widths).lookup g).isSome = true
    rw [lookup_cons_of_closed hnew hg]
    exact hg
  · have hclosed : (widths.lookup g).isSome = true := by rw [hcapture.1]; rfl
    rw [lookup_cons_of_closed hnew hclosed, hwidth hx]
    exact hcapture.1

namespace Reader

/-- The capturing groups that are open, and those that are closed. -/
def taken (r : Reader) : List Nat :=
  r.groups.flatMap (·.kind.groups) ++ r.widths.map (·.1)

/-- The reader knows the widths of the groups that are closed, and numbers every group anew. -/
structure Sized (r : Reader) : Prop where
  nodup : r.taken.Nodup
  range : ∀ g ∈ r.taken, 0 < g ∧ g ≤ r.captures
  meets : r.Meets (sizes r.widths)

theorem sized_start (mostOpen : Nat) (modes : Modes) : (start mostOpen modes).Sized where
  nodup := List.nodup_nil
  range _ hg := absurd hg List.not_mem_nil
  meets := ⟨⟨Level.all_start modes, trivial⟩, fun _ hg => absurd hg List.not_mem_nil⟩

theorem mem_taken_of_isClosed {r : Reader} {g : Nat} (h : r.isClosed g = true) :
    g ∈ r.taken := by
  obtain ⟨w, hw⟩ := Option.isSome_iff_exists.mp h
  obtain ⟨before, after, hwidths, -⟩ := List.lookup_eq_some_iff.mp hw
  exact List.mem_append_right _ (by simp [hwidths])

/-- The widths known when a group is closed. -/
theorem widths_close (r : Reader) (g : OpenGroup) (outer : List OpenGroup) :
    (r.close g outer).captures = r.captures ∧ (r.close g outer).widths =
      g.kind.groups.map (fun n => (n, r.level.regex.width r.groupWidth)) ++ r.widths := by
  unfold close
  dsimp only
  split
  · next n hn => exact ⟨rfl, by simp [hn, GroupKind.groups]⟩
  · next negated hn => exact ⟨rfl, by simp [hn, GroupKind.groups]⟩
  · next hcapture _ =>
    refine ⟨rfl, ?_⟩
    cases hkind : g.kind with
    | capture n => exact absurd hkind (hcapture n)
    | _ => rfl

/-- Closing a group takes no number. -/
theorem taken_close {r : Reader} {g : OpenGroup} {outer : List OpenGroup}
    (hgroups : r.groups = g :: outer) : (r.close g outer).taken.Perm r.taken := by
  have hkeys : (g.kind.groups.map fun n => (n, r.level.regex.width r.groupWidth)).map (·.1) =
      g.kind.groups := by simp [Function.comp_def]
  rw [taken, taken, (InStep.close_groups r g outer).1, (widths_close r g outer).2, List.map_append,
    hkeys, hgroups, List.flatMap_cons, ← List.append_assoc]
  exact List.perm_append_comm.append_right _

namespace Sized
variable {r : Reader} {g : OpenGroup} {outer : List OpenGroup}

/-- An open group is not closed. -/
theorem lookup_eq_none (h : r.Sized) {n : Nat} (hgroups : r.groups = g :: outer)
    (hkind : g.kind = .capture n) : r.widths.lookup n = none := by
  have hnodup := h.nodup
  rw [taken, hgroups, List.flatMap_cons, hkind] at hnodup
  have hnotin := (List.nodup_cons.mp hnodup).1
  rw [List.lookup_eq_none_iff]
  intro e he
  rw [bne_iff_ne]
  rintro rfl
  exact hnotin (List.mem_append_right _ (List.mem_map_of_mem he))

/-- What was read before a group is closed keeps its widths, and so does the group. -/
theorem meets_close (h : r.Sized) (hgroups : r.groups = g :: outer) :
    (r.close g outer).Meets (sizes (r.close g outer).widths) := by
  have heffect : Effect r [] .closing (r.close g outer) := .closing hgroups
  have hwidths := (widths_close r g outer).2
  cases hkind : g.kind with
  | capture n =>
    have hnew := h.lookup_eq_none hgroups hkind
    rw [hkind] at hwidths
    replace hwidths : (r.close g outer).widths =
        (n, r.level.regex.width r.groupWidth) :: r.widths := hwidths
    rw [hwidths]
    have hall {l : Level} (hl : l.Meets (sizes r.widths)) :
        l.Meets (sizes ((n, r.level.regex.width r.groupWidth) :: r.widths)) :=
      ⟨fun b hb i hi => ((hl.items b hb i hi).sizes_cons hnew).1, trivial⟩
    have hmeets : r.Meets (sizes ((n, r.level.regex.width r.groupWidth) :: r.widths)) :=
      ⟨hall h.meets.level, fun g' hg' => hall (h.meets.outer g' hg')⟩
    refine hmeets.effect heffect nofun nofun (fun m hm => ?_) fun _ g' outer' m hgroups' hm => ?_
    · change (((n, _) :: r.widths).lookup m).isSome = true
      rw [lookup_cons_of_closed hnew hm]
      exact hm
    · rw [hgroups] at hgroups'
      cases hgroups'
      rw [hkind] at hm
      cases hm
      have hbody := h.meets.level.regex
      refine ⟨?_, fun hmem => ?_⟩
      · rw [List.lookup_cons_self, (hbody.sizes_cons hnew).2]
        rfl
      · have hclosed : (r.widths.lookup n).isSome = true := hbody.backrefs n hmem
        rw [hnew] at hclosed
        cases hclosed
  | _ =>
    rw [hkind] at hwidths
    replace hwidths : (r.close g outer).widths = r.widths := hwidths
    rw [hwidths]
    refine h.meets.effect heffect nofun nofun (fun m hm => hm) fun _ g' outer' m hgroups' hm => ?_
    rw [hgroups] at hgroups'
    cases hgroups'
    rw [hkind] at hm
    cases hm

/-- Closing the innermost group. -/
theorem close (h : r.Sized) (hgroups : r.groups = g :: outer) : (r.close g outer).Sized where
  nodup := (taken_close hgroups).nodup_iff.mpr h.nodup
  range n hn := (widths_close r g outer).1 ▸ h.range n ((taken_close hgroups).mem_iff.mp hn)
  meets := h.meets_close hgroups

/-- **Every step keeps the widths of closed groups right.** -/
theorem effect {r' : Reader} {c : Construct} {tail : Text} (h : r.Sized) (he : Effect r tail c r') :
    r'.Sized := by
  have hmeets (hc : c ≠ .closing) : r'.Meets (sizes r.widths) :=
    h.meets.effect he (fun _ _ => trivial) (fun _ _ => trivial) (fun n hn => hn)
      fun hclosing => absurd hclosing hc
  have hcapture (opened : Nat) : (r.enterCapture opened).taken = (r.captures + 1) :: r.taken := rfl
  have hnodup : ((r.captures + 1) :: r.taken).Nodup :=
    List.nodup_cons.mpr ⟨fun hmem => by have := h.range _ hmem; omega, h.nodup⟩
  have hrange : ∀ g ∈ (r.captures + 1) :: r.taken, 0 < g ∧ g ≤ r.captures + 1 := by
    intro g hg
    rcases List.mem_cons.mp hg with rfl | hg
    · omega
    · have := h.range g hg
      omega
  cases he with
  | closing hgroups => exact h.close hgroups
  | capture => exact ⟨hnodup, hrange, hmeets (by simp)⟩
  | named => exact ⟨hnodup, hrange, hmeets (by simp)⟩
  | @enter o kind opened fence expected hkind =>
    have htaken : (r.enter kind opened (o.innerModes r.level.modes)).taken = r.taken := by
      simp [taken, enter, Opening.groups_of_kind? hkind]
    exact ⟨htaken ▸ h.nodup, fun g hg => h.range g (htaken ▸ hg), hmeets (by simp)⟩
  | blank => exact h
  | item hputs => exact ⟨h.nodup, h.range, hmeets (by rintro rfl; cases hputs)⟩
  | quantifier => exact ⟨h.nodup, h.range, hmeets (by simp)⟩
  | bar => exact ⟨h.nodup, h.range, hmeets (by simp)⟩
  | globalModes => exact ⟨h.nodup, h.range, hmeets (by simp)⟩

end Sized

theorem Halts.sized {r last : Reader} {input left : Text} (hr : r.Sized)
    (h : Halts r input last left) : last.Sized := by
  induction h with
  | finished => exact hr
  | stray => exact hr
  | step _ _ hstep _ ih =>
    obtain ⟨c, tail, _, he, _⟩ := step_effect hstep
    exact ih (hr.effect he)

end Reader

/-- **The groups of a compiled expression have the sizes** by which the least number of characters
of a match was told. -/
theorem Regex.sized_of_compile {mostOpen : Nat} {modes : Modes} {pattern : Text} {p : Program}
    (h : compile mostOpen modes pattern = .ok p) :
    ∃ w : Nat → Width, p.regex.Sized w ∧ p.least = (p.regex.width w).least := by
  obtain ⟨r, hhalts, hmade⟩ := halts_of_compile h
  have hsized := hhalts.sized (Reader.sized_start mostOpen modes)
  have hclosed (g : Nat) (hg : 0 < (r.groupWidth g).min) : r.isClosed g = true := by
    unfold Reader.groupWidth at hg
    unfold Reader.isClosed
    cases hlookup : r.widths.lookup g with
    | some w => rfl
    | none =>
      rw [hlookup] at hg
      exact absurd hg (by decide)
  refine ⟨r.groupWidth, ?_, hmade.regex_eq ▸ hmade.least_eq⟩
  rw [hmade.regex_eq]
  refine hsized.meets.level.regex.mono (fun _ _ => trivial) (fun g hg _ => ?_) fun g x _ hg => ?_
  · exact (hsized.range g (Reader.mem_taken_of_isClosed hg)).1
  · refine ⟨Nat.le_of_eq ?_, fun _ => hg.2⟩
    change ((r.widths.lookup g).getD .zero).min = _
    rw [hg.1]
    rfl

/-! ## The constructs of a pattern -/

/-- The constructs read, up to the first that is refused. -/
def Reader.constructs : (fuel : Nat) → Reader → Text → List Construct
  | 0, _, _ => []
  | fuel + 1, r, input =>
    match Construct.read r.level.modes.verbose input, r.step input with
    | .ok (c, _), .ok (r', rest) => c :: constructs fuel r' rest
    | _, _ => []

/-- The constructs of a pattern, in order. -/
def Regex.constructs (mostOpen : Nat) (modes : Modes) (pattern : Text) : List Construct :=
  (Reader.start mostOpen modes).constructs (pattern.length + 1) pattern

namespace Reader

/-- The constructs of a pattern are those of its steps. -/
theorem constructs_of_step {fuel : Nat} {r r' : Reader} {input tail rest : Text} {c : Construct}
    (hread : Construct.read r.level.modes.verbose input = .ok (c, tail))
    (hstep : r.step input = .ok (r', rest)) :
    r.constructs (fuel + 1) input = c :: r'.constructs fuel rest := by
  rw [constructs, hread, hstep]

end Reader

/-! ## ASCII and Unicode -/

/-- The construct chooses between ASCII and Unicode for what is behind it or inside of it. -/
def Construct.choosesType : Construct → Bool
  | opening (.modes on off) => (on ++ off).any (·.isType)
  | globalModes on => on.any (·.isType)
  | _ => false

namespace Modes

theorem ascii_foldl_set {fs : List InlineFlag} (h : fs.any (·.isType) = false) (value : Bool)
    (m : Modes) : (fs.foldl (set value) m).ascii = m.ascii := by
  induction fs generalizing m with
  | nil => rfl
  | cons f fs ih =>
    rw [List.any_cons, Bool.or_eq_false_iff] at h
    rw [List.foldl_cons, ih h.2]
    cases f with
    | ascii => exact absurd h.1 (by decide)
    | _ => rfl

/-- Without a flag for the kind of characters the kind is the one around. -/
theorem ascii_inside {on off : List InlineFlag} (h : (on ++ off).any (·.isType) = false)
    (m : Modes) :
    (m.inside on off).ascii = m.ascii := by
  rw [List.any_append, Bool.or_eq_false_iff] at h
  unfold inside turnOn
  rw [if_neg (by rw [h.1]; exact Bool.false_ne_true), ascii_foldl_set h.2, ascii_foldl_set h.1]

end Modes

/-- A class is read in ASCII, or in Unicode, and letters are compared accordingly. -/
def CharTest.InType (ascii : Bool) : CharTest → Prop
  | set f a _ _ => a = ascii ∧ (f = .unicode → ascii = false)
  | _ => True

/-- The demand that all classes be read in ASCII, or all in Unicode. -/
def typed (ascii : Bool) : Demands where
  modes m := m.ascii = ascii
  test := (·.InType ascii)
  backref _ := True
  capture _ _ := True
  test_of_modes m a hm := by
    cases a with
    | dot =>
      unfold Atom.test
      cases m.dotAll <;> trivial
    | literal negated n => trivial
    | set negated items =>
      refine ⟨hm, fun hunicode => hm ▸ ?_⟩
      unfold Folding.when Modes.folding at hunicode
      grind

/-- All classes of an expression are read in ASCII, or all in Unicode. -/
def Regex.InType (ascii : Bool) : Regex → Prop :=
  Meets (typed ascii)

/-- Where nothing chooses between ASCII and Unicode, all classes are read as the flags say. -/
theorem Reader.Halts.typed {ascii : Bool} {r last : Reader} {input left : Text}
    (h : Halts r input last left) {fuel : Nat} (hfuel : input.length < fuel)
    (hconstructs : ∀ c ∈ r.constructs fuel input, c.choosesType = false)
    (hr : r.Meets (typed ascii)) : last.Meets (Highlighting.typed ascii) := by
  induction h generalizing fuel with
  | finished => exact hr
  | stray => exact hr
  | @step r r' last input rest left _ _ hstep _ ih =>
    obtain ⟨fuel, rfl⟩ : ∃ n, fuel = n + 1 := ⟨fuel - 1, by omega⟩
    have hlt := length_lt_of_step hstep
    obtain ⟨c, tail, hread, he, -⟩ := step_effect hstep
    rw [constructs_of_step hread hstep] at hconstructs
    have hc := hconstructs c List.mem_cons_self
    have hmodes : r.level.modes.ascii = ascii := hr.level.modes
    refine ih (by omega) (fun c' hc' => hconstructs c' (List.mem_cons_of_mem _ hc'))
      (hr.effect he ?_ ?_ (fun _ _ => trivial) fun _ _ _ _ _ _ => trivial)
    · rintro o rfl
      cases o with
      | modes on off => exact (Modes.ascii_inside hc _).trans hmodes
      | _ => exact hmodes
    · rintro on rfl
      exact (Modes.ascii_foldl_set hc true _).trans hmodes

/-- **The classes of a compiled expression are all read in ASCII, or all in Unicode**, as the flags
say, if nothing in the pattern chooses between these. -/
theorem Regex.inType_of_compile {mostOpen : Nat} {modes : Modes} {pattern : Text} {p : Program}
    (h : compile mostOpen modes pattern = .ok p)
    (hconstructs : ∀ c ∈ constructs mostOpen modes pattern, c.choosesType = false) :
    p.regex.InType modes.ascii ∧ p.modes.ascii = modes.ascii := by
  obtain ⟨r, hhalts, hmade⟩ := halts_of_compile h
  have hstart : (Reader.start mostOpen modes).Meets (typed modes.ascii) :=
    ⟨⟨Level.all_start modes, rfl⟩, fun _ hg => absurd hg List.not_mem_nil⟩
  have hlast := hhalts.typed (Nat.lt_succ_self _) hconstructs hstart
  exact ⟨hmade.regex_eq ▸ hlast.level.regex, hmade.modes_eq ▸ hlast.level.modes⟩

end Highlighting
