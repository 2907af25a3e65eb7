import Mathlib.Data.List.Forall2
import Highlighting.Proofs.Regex.Parts
import Highlighting.Proofs.Regex.Raise

/-!
# A pattern read inside of a group

A pattern that is read alone and then inside of a group behind other groups is read construct by
construct in lockstep. What the reader in the group has read of it is at every step what the other
reader has read, with all groups behind those that were opened before. It takes that the pattern
refers to groups by name only: a number would mean another group there.

## Main definitions

* `Item.raise`, `Level.raise` -- what was read, behind so many groups.
* `Reader.Raised` -- a reader in a group has read what another one has read alone.
* `Construct.byNumber` -- the construct refers to a group by number.
-/
namespace Highlighting

/-! ## Items behind other groups -/

/-- A construct as it is written behind `n` other groups. -/
def Construct.raise (n : Nat) : Construct → Construct
  | numbered g length => numbered (g + n) length
  | c => c

theorem Construct.raise_inj {n : Nat} {c d : Construct} : c.raise n = d.raise n ↔ c = d := by
  refine ⟨fun h => ?_, fun h => h ▸ rfl⟩
  cases c <;> cases d <;> simp_all [raise]

/-- An item behind `n` other groups. -/
def Item.raise (n : Nat) (i : Item) : Item :=
  ⟨i.regex.raise n, i.written.map (Construct.raise n)⟩

/-- A piece behind `n` other groups. -/
def Piece.raise (n : Nat) (p : Piece) : Piece :=
  ⟨p.role, p.items.map (Item.raise n)⟩

/-- An alternation behind `n` other groups. -/
def Level.raise (n : Nat) (l : Level) : Level :=
  ⟨l.modes, l.branches.map (List.map (Item.raise n)), l.pieces.map (Piece.raise n)⟩

namespace Item
variable {n : Nat}

theorem same_raise (i j : Item) : (i.raise n).same (j.raise n) = i.same j := by
  obtain ⟨r, c⟩ := i
  obtain ⟨s, d⟩ := j
  rw [Bool.eq_iff_iff]
  cases c <;> cases d <;> simp [same, raise, Construct.raise_inj]

theorem members?_raise (i : Item) : (i.raise n).members? = i.members? := by
  obtain ⟨r, _ | c⟩ := i
  · rfl
  · cases c <;> rfl

end Item

namespace Regex
variable {n : Nat}

theorem raise_sequence (rs : List Regex) :
    (sequence rs).raise n = sequence (rs.map (raise n)) := by
  induction rs with
  | nil => rfl
  | cons r rs ih =>
    cases rs with
    | nil => rfl
    | cons r' rs => exact congrArg (seq (r.raise n)) ih

theorem raise_alternatives (rs : List Regex) :
    (alternatives rs).raise n = alternatives (rs.map (raise n)) := by
  induction rs with
  | nil => rfl
  | cons r rs ih => exact congrArg (alt (r.raise n)) ih

theorem sequenceOf_raise (items : List Item) :
    sequenceOf (items.map (Item.raise n)) = (sequenceOf items).raise n := by
  rw [sequenceOf, sequenceOf, raise_sequence, List.map_map, List.map_map]
  rfl

/-- The width of an expression does not depend on the groups before it. -/
theorem width_raise {f f' : Nat → Width} {r : Regex}
    (h : ∀ g ∈ r.backrefs, f' (raiseGroup n g) = f g) : (r.raise n).width f' = r.width f := by
  induction r with
  | seq r s ihr ihs =>
    rw [raise, width, width, ihr fun g hg => h g (List.mem_append_left _ hg),
      ihs fun g hg => h g (List.mem_append_right _ hg)]
  | alt r s ihr ihs =>
    rw [raise, width, width, ihr fun g hg => h g (List.mem_append_left _ hg),
      ihs fun g hg => h g (List.mem_append_right _ hg)]
  | conditional g r s ihr ihs =>
    rw [raise, width, width, ihr fun g hg => h g (List.mem_append_left _ hg),
      ihs fun g hg => h g (List.mem_append_right _ hg)]
  | capture g r ih => exact ih h
  | backref f g => exact h g List.mem_cons_self
  | atomic r ih => exact ih h
  | loop greed least most r ih => rw [raise, width, width, ih h]
  | _ => rfl

end Regex

/-! ## Alternations behind other groups -/

section Alternatives
variable {n : Nat}

theorem commonStart_raise (first : List Item) (others : List (List Item)) :
    commonStart (first.map (Item.raise n)) (others.map (List.map (Item.raise n))) =
      ((commonStart first others).1.map (Item.raise n),
        (commonStart first others).2.map (List.map (Item.raise n))) := by
  induction first generalizing others with
  | nil => rfl
  | cons i first ih =>
    have hall : ((others.map (List.map (Item.raise n))).all fun o => o.head?.any (i.raise n).same) =
        others.all fun o => o.head?.any i.same := by
      rw [List.all_map]
      congr 1
      funext o
      cases o with
      | nil => rfl
      | cons j o => exact Item.same_raise i j
    have htails : (others.map (List.map (Item.raise n))).map List.tail =
        (others.map List.tail).map (List.map (Item.raise n)) := by
      simp [Function.comp_def]
    rw [List.map_cons]
    unfold commonStart
    rw [hall]
    split
    · rw [htails, ih]
      rfl
    · rfl

theorem choiceOf_raise (modes : Modes) (branches : List (List Item)) :
    choiceOf modes (branches.map (List.map (Item.raise n))) =
      (choiceOf modes branches).raise n := by
  have hmapM {f : List Item → Option (List ClassItem)}
      (hf : ∀ b : List Item, f (b.map (Item.raise n)) = f b) :
      (branches.map (List.map (Item.raise n))).mapM f = branches.mapM f := by
    rw [List.mapM_map]
    exact congrArg (List.mapM · branches) (funext hf)
  unfold choiceOf
  dsimp only
  rw [hmapM]
  · split
    · rfl
    · rw [Item.raise, Regex.raise_alternatives, List.map_map, List.map_map]
      exact congrArg (fun f => Item.mk (Regex.alternatives (branches.map f)) none)
        (funext fun b => Regex.sequenceOf_raise b)
  · rintro (_ | ⟨i, _ | ⟨j, b⟩⟩)
    · rfl
    · exact Item.members?_raise i
    · rfl

end Alternatives

namespace Level
variable {n : Nat}

theorem branch_raise (l : Level) : (l.raise n).branch = l.branch.map (Item.raise n) := by
  rw [branch, branch, raise, ← List.map_reverse, List.flatMap_map, List.map_flatMap]
  rfl

theorem allBranches_raise (l : Level) :
    (l.raise n).allBranches = l.allBranches.map (List.map (Item.raise n)) := by
  rw [allBranches, allBranches, branch_raise, List.map_append, List.map_reverse]
  rfl

theorem items_raise (l : Level) : (l.raise n).items = l.items.map (Item.raise n) := by
  unfold items
  rw [allBranches_raise]
  rcases l.allBranches with _ | ⟨b, _ | ⟨b', bs⟩⟩
  · rfl
  · rfl
  · have hstart := commonStart_raise (n := n) b (b' :: bs)
    simp only [List.map_cons] at hstart ⊢
    rw [hstart, List.map_append, List.map_singleton]
    exact congrArg (_ ++ [·]) (choiceOf_raise l.modes _)

theorem regex_raise (l : Level) : (l.raise n).regex = l.regex.raise n := by
  rw [regex, items_raise, Regex.sequenceOf_raise, regex]

theorem raise_push (l : Level) (role : Role) (items : List Item) :
    (l.push role items).raise n = (l.raise n).push role (items.map (Item.raise n)) := rfl

theorem raise_bar (l : Level) : l.bar.raise n = (l.raise n).bar := by
  rw [bar, bar, branch_raise]
  rfl

end Level

/-! ## Readers in lockstep -/

/-- A group behind `n` other groups is for the same. Whether a look-behind is an outermost one makes
no difference for what is read. -/
inductive GroupKind.Raised (n : Nat) : GroupKind → GroupKind → Prop where
  | plain : Raised n .plain .plain
  | modal : Raised n .modal .modal
  | capture (g : Nat) : Raised n (.capture (raiseGroup n g)) (.capture g)
  | atomic : Raised n .atomic .atomic
  | ahead (negated : Bool) : Raised n (.ahead negated) (.ahead negated)
  | behind (negated outermost outermost' : Bool) :
      Raised n (.behind negated outermost') (.behind negated outermost)
  | conditional (g : Nat) : Raised n (.conditional (raiseGroup n g)) (.conditional g)

theorem GroupKind.Raised.eq_plain_iff {n : Nat} {kind' kind : GroupKind}
    (h : kind'.Raised n kind) : kind' = .plain ↔ kind = .plain := by
  cases h <;> simp

theorem GroupKind.Raised.eq_conditional {n g' : Nat} {kind : GroupKind}
    (h : (GroupKind.conditional g').Raised n kind) : ∃ g, kind = .conditional g := by
  cases h
  exact ⟨_, rfl⟩

/-- An open group behind `n` other groups. -/
structure OpenGroup.Raised (n : Nat) (g' g : OpenGroup) : Prop where
  kind : g'.kind.Raised n g.kind
  outer : g'.outer = g.outer.raise n

/-- A bracket behind a quantifier does not change how it chooses. -/
theorem Greed.ofSign_append (tail more : Text) :
    ofSign (tail ++ ')' :: more) = ofSign tail := by
  cases tail with
  | nil => rfl
  | cons c tail =>
    unfold ofSign
    grind

/-- The construct refers to a group by its number. -/
def Construct.byNumber : Construct → Bool
  | numbered _ _ => true
  | opening (.conditional (.number _ _)) => true
  | _ => false

namespace Reader

/-- The reader `s`, which has opened `n` groups and some more inside of them, has read what the
reader `r` has read alone. The innermost of the groups before are `bottom`. -/
structure Raised (n : Nat) (bottom : List OpenGroup) (names : List (String × Nat))
    (widths : List (Nat × Width)) (s r : Reader) : Prop where
  level : s.level = r.level.raise n
  groups : ∃ inner, s.groups = inner ++ bottom ∧ List.Forall₂ (OpenGroup.Raised n) inner r.groups
  captures : s.captures = r.captures + n
  names : s.names = r.names.map (fun e => (e.1, raiseGroup n e.2)) ++ names
  widths : s.widths = r.widths.map (fun e => (raiseGroup n e.1, e.2)) ++ widths

namespace Raised
variable {n : Nat} {bottom : List OpenGroup} {names : List (String × Nat)}
  {widths : List (Nat × Width)} {r s : Reader}

/-- What is found under a key is found, likewise, where the keys have been renamed apart, whatever
stands behind. -/
theorem lookup_map_append {κ κ' α α' : Type} [BEq κ] [BEq κ'] {l : List (κ × α)} {key : κ}
    (f : κ → κ') (value : α → α') (hf : ∀ e ∈ l, (f key == f e.1) = (key == e.1)) {a : α}
    (h : l.lookup key = some a) (more : List (κ' × α')) :
    (l.map (fun e => (f e.1, value e.2)) ++ more).lookup (f key) = some (value a) := by
  induction l with
  | nil => cases h
  | cons e l ih =>
    rw [List.map_cons, List.cons_append, List.lookup_cons, hf e List.mem_cons_self]
    rw [List.lookup_cons] at h
    cases hsame : key == e.1 with
    | true =>
      rw [hsame] at h
      cases h
      rfl
    | false =>
      rw [hsame] at h
      exact ih (fun e he => hf e (List.mem_cons_of_mem _ he)) h

theorem modes (h : Raised n bottom names widths s r) : s.level.modes = r.level.modes := by
  rw [h.level]
  rfl

/-- A name stands for the same group. -/
theorem lookup_name (h : Raised n bottom names widths s r) {name : String} {g : Nat}
    (hname : r.names.lookup name = some g) : s.names.lookup name = some (raiseGroup n g) := by
  rw [h.names]
  exact lookup_map_append id (raiseGroup n) (fun _ _ => rfl) hname names

/-- The width of a closed group is known as the same. -/
theorem lookup_width (h : Raised n bottom names widths s r) (hsized : r.Sized) {g : Nat} {w : Width}
    (hw : r.widths.lookup g = some w) : s.widths.lookup (raiseGroup n g) = some w := by
  have hclosed : r.isClosed g = true := by rw [isClosed, hw]; rfl
  have hpositive := (hsized.range g (mem_taken_of_isClosed hclosed)).1
  have hsame (e : Nat × Width) (he : e ∈ r.widths) :
      (raiseGroup n g == raiseGroup n e.1) = (g == e.1) := by
    have he : 0 < e.1 := (hsized.range e.1 (List.mem_append_right _ (List.mem_map_of_mem he))).1
    rw [raiseGroup_eq hpositive, raiseGroup_eq he, Bool.eq_iff_iff, beq_iff_eq, beq_iff_eq]
    omega
  rw [h.widths]
  exact lookup_map_append (raiseGroup n) id hsame hw widths

/-- A closed group is closed. -/
theorem isClosed_raiseGroup (h : Raised n bottom names widths s r) (hsized : r.Sized) {g : Nat}
    (hg : r.isClosed g = true) : s.isClosed (raiseGroup n g) = true := by
  obtain ⟨w, hw⟩ := Option.isSome_iff_exists.mp hg
  rw [isClosed, h.lookup_width hsized hw]
  rfl

/-- A closed group has the same width. -/
theorem groupWidth_eq (h : Raised n bottom names widths s r) (hsized : r.Sized) {g : Nat}
    (hg : r.isClosed g = true) : s.groupWidth (raiseGroup n g) = r.groupWidth g := by
  obtain ⟨w, hw⟩ := Option.isSome_iff_exists.mp hg
  rw [groupWidth, groupWidth, h.lookup_width hsized hw, hw]

/-- What was read has the same width. -/
theorem width_eq (h : Raised n bottom names widths s r) (hsized : r.Sized) :
    s.level.regex.width s.groupWidth = r.level.regex.width r.groupWidth := by
  rw [h.level, Level.regex_raise]
  exact Regex.width_raise fun g hg =>
    h.groupWidth_eq hsized (hsized.meets.level.regex.backrefs g hg)

/-- A group has the same expression. -/
theorem groupRegex_eq (h : Raised n bottom names widths s r) (hsized : r.Sized)
    {kind kind' : GroupKind} (hkind : kind'.Raised n kind) :
    s.groupRegex kind' = (r.groupRegex kind).raise n := by
  have hregex : s.level.regex = r.level.regex.raise n := by rw [h.level, Level.regex_raise]
  cases hkind with
  | plain => exact hregex
  | modal => exact hregex
  | conditional g =>
    unfold groupRegex
    rw [h.level, Level.allBranches_raise, Level.regex_raise]
    rcases r.level.allBranches with _ | ⟨yes, _ | ⟨no, _ | ⟨b, bs⟩⟩⟩
    · rfl
    · rfl
    · simp only [List.map_cons, List.map_nil, Regex.sequenceOf_raise]
      rfl
    · rfl
  | behind negated outermost outermost' =>
    rw [groupRegex, groupRegex, h.width_eq hsized, hregex]
    rfl
  | _ =>
    rw [groupRegex, groupRegex, hregex]
    rfl

/-- A group leaves the same items. -/
theorem groupItems_eq (h : Raised n bottom names widths s r) (hsized : r.Sized)
    {kind kind' : GroupKind} (hkind : kind'.Raised n kind) :
    s.groupItems kind' = (r.groupItems kind).map (Item.raise n) := by
  by_cases hplain : kind = .plain
  · rw [groupItems, if_pos (hkind.eq_plain_iff.mpr hplain), groupItems, if_pos hplain, h.level,
      Level.items_raise]
  · rw [groupItems, if_neg (mt hkind.eq_plain_iff.mp hplain), groupItems, if_neg hplain,
      h.groupRegex_eq hsized hkind]
    rfl

/-- A change of the innermost alternation alone. -/
theorem withLevel (h : Raised n bottom names widths s r) {l' l : Level} (hlevel : l' = l.raise n) :
    Raised n bottom names widths { s with level := l' } { r with level := l } :=
  ⟨hlevel, h.groups, h.captures, h.names, h.widths⟩

/-- Opening a group. -/
theorem enter (h : Raised n bottom names widths s r) {kind kind' : GroupKind}
    (hkind : kind'.Raised n kind) (opened opened' : Nat) {modes modes' : Modes}
    (hmodes : modes' = modes) :
    Raised n bottom names widths (s.enter kind' opened' modes') (r.enter kind opened modes) := by
  obtain ⟨inner, hinner, hgroups⟩ := h.groups
  subst hmodes
  refine ⟨rfl, ⟨⟨kind', opened', s.level⟩ :: inner, ?_, .cons ⟨hkind, h.level⟩ hgroups⟩,
    h.captures, h.names, h.widths⟩
  change _ :: s.groups = _
  rw [hinner]
  rfl

theorem enterCapture (h : Raised n bottom names widths s r) (opened opened' : Nat) :
    Raised n bottom names widths (s.enterCapture opened') (r.enterCapture opened) := by
  have hnumber : s.captures + 1 = raiseGroup n (r.captures + 1) := by
    rw [h.captures, raiseGroup_eq (Nat.succ_pos _)]
    omega
  have hinside := h.enter (.capture (r.captures + 1)) opened opened' h.modes
  rw [← hnumber] at hinside
  refine ⟨hinside.level, hinside.groups, ?_, hinside.names, hinside.widths⟩
  change s.captures + 1 = r.captures + 1 + n
  rw [h.captures]
  omega

/-- Closing the innermost group. -/
theorem close (h : Raised n bottom names widths s r) (hsized : r.Sized) {g g' : OpenGroup}
    {inner outer : List OpenGroup} (hg : g'.Raised n g)
    (houter : List.Forall₂ (OpenGroup.Raised n) inner outer) :
    Raised n bottom names widths (s.close g' (inner ++ bottom)) (r.close g outer) := by
  obtain ⟨hgroups, hnames, hlevel⟩ := InStep.close_groups r g outer
  obtain ⟨hgroups', hnames', hlevel'⟩ := InStep.close_groups s g' (inner ++ bottom)
  obtain ⟨hcaptures, hwidths⟩ := widths_close r g outer
  obtain ⟨hcaptures', hwidths'⟩ := widths_close s g' (inner ++ bottom)
  constructor
  · rw [hlevel', hlevel, Level.raise_push, ← hg.outer, h.groupItems_eq hsized hg.kind]
  · rw [hgroups]
    exact ⟨inner, hgroups', houter⟩
  · rw [hcaptures', hcaptures, h.captures]
  · rw [hnames', hnames, h.names]
  · rw [hwidths', hwidths, h.width_eq hsized, h.widths]
    have hkind := hg.kind
    obtain ⟨kind, opened, around⟩ := g
    obtain ⟨kind', opened', around'⟩ := g'
    cases hkind <;> rfl

/-- A group that does not capture is for the same. -/
theorem kind_raised (h : Raised n bottom names widths s r) {o : Opening}
    (ho : (Construct.opening o).byNumber = false) {outermost outermost' : Bool}
    {kind kind' : GroupKind} (hkind : o.kind? (fun s => r.names.lookup s) outermost = some kind)
    (hkind' : o.kind? (fun name => s.names.lookup name) outermost' = some kind') :
    kind'.Raised n kind := by
  unfold Opening.kind? at hkind
  split at hkind
  case h_8 =>
    obtain ⟨g, hname, rfl⟩ := Option.map_eq_some_iff.mp hkind
    rw [Opening.kind?, h.lookup_name hname] at hkind'
    cases hkind'
    exact .conditional g
  case h_9 => cases ho
  all_goals
    cases hkind
    try cases hkind'
    try constructor

/-- **The readers stay in lockstep** with a construct that does not refer to a group by number. -/
theorem effect (h : Raised n bottom names widths s r) (hsized : r.Sized) (hbottom : bottom ≠ [])
    {c : Construct} (hc : c.byNumber = false) {tail more : Text} {r' s' : Reader}
    (hr : Effect r tail c r') (hs : Effect s (tail ++ ')' :: more) c s') :
    Raised n bottom names widths s' r' := by
  cases hr with
  | blank =>
    obtain rfl := hs.eq_of_blank
    exact h
  | item hputs =>
    cases hputs with
    | atom a =>
      cases hs with
      | item hputs' =>
        cases hputs'
        exact h.withLevel (by rw [h.level]; rfl)
    | place p =>
      cases hs with
      | item hputs' =>
        cases hputs'
        exact h.withLevel (by rw [h.level]; rfl)
    | numbered hclosed => cases hc
    | @named name g hname hclosed =>
      cases hs with
      | item hputs' =>
        cases hputs' with
        | named hname' hclosed' =>
          rw [h.lookup_name hname] at hname'
          cases hname'
          have hpositive := (hsized.range g (mem_taken_of_isClosed hclosed)).1
          refine h.withLevel ?_
          rw [Level.raise_push, h.level]
          refine congrArg (fun c => (r.level.raise n).push .item [⟨_, some c⟩]) ?_
          exact congrArg (Construct.numbered · 0) (raiseGroup_eq hpositive)
  | @quantifier least most items pieces hpieces =>
    obtain ⟨items', pieces', hpieces', rfl⟩ := hs.exists_of_quantifier
    rw [h.level, Level.raise, hpieces, List.map_cons, List.cons.injEq] at hpieces'
    obtain ⟨hitems, rfl⟩ := hpieces'
    obtain rfl : items.map (Item.raise n) = items' := (Piece.mk.inj hitems).2
    refine h.withLevel ?_
    rw [h.level, Level.raise, Level.raise, List.map_cons, Piece.raise, List.map_singleton,
      Item.raise, Greed.ofSign_append, Regex.sequenceOf_raise]
    rfl
  | bar =>
    obtain rfl := hs.eq_of_bar
    exact h.withLevel (by rw [h.level, Level.raise_bar])
  | @enter o kind opened fence expected hkind =>
    obtain ⟨kind', opened', fence', expected', hkind', rfl⟩ := hs.exists_of_kind? hkind
    have hinside := h.enter (h.kind_raised hc hkind hkind') opened opened'
      (congrArg o.innerModes h.modes)
    exact ⟨hinside.level, hinside.groups, hinside.captures, hinside.names, hinside.widths⟩
  | @capture opened =>
    obtain ⟨opened', rfl⟩ := hs.exists_of_capture
    exact h.enterCapture opened opened'
  | @named name opened hname =>
    obtain ⟨-, opened', rfl⟩ := hs.exists_of_named
    have hinside := h.enterCapture opened opened'
    refine ⟨hinside.level, hinside.groups, hinside.captures, ?_, hinside.widths⟩
    rw [h.captures, h.names, List.map_cons, raiseGroup_eq (Nat.succ_pos _), Nat.add_right_comm]
    rfl
  | @closing g outer hgroups =>
    obtain ⟨inner, hinner, hall⟩ := h.groups
    rw [hgroups] at hall
    cases hall with
    | cons hg hrest =>
      obtain rfl := hs.eq_of_closing hinner
      exact h.close hsized hg hrest
  | globalModes hgroups =>
    obtain ⟨inner, hinner, -⟩ := h.groups
    rw [hs.groups_of_globalModes] at hinner
    exact absurd (List.append_eq_nil_iff.mp hinner.symm).2 hbottom

/-- A group that is opened where no other one is, is in lockstep with a reader at its start. -/
theorem enterNamed {r : Reader} (hgroups : r.groups = []) (mostOpen opened : Nat)
    (names : List (String × Nat)) :
    Raised (r.captures + 1) [⟨.capture (r.captures + 1), opened, r.level⟩] names r.widths
      { r.enterCapture opened with names := names } (start mostOpen r.level.modes) where
  level := rfl
  groups := ⟨[], by simp [Reader.enterCapture, Reader.enter, hgroups], .nil⟩
  captures := (Nat.zero_add _).symm
  names := rfl
  widths := rfl

end Raised

/-- **A pattern is read in a group as it is alone**, if white space is not skipped outside of its
own groups and it refers to no group by number. -/
theorem Halts.raised {n : Nat} {bottom : List OpenGroup} {names : List (String × Nat)}
    {widths : List (Nat × Width)} (hbottom : bottom ≠ []) {r last : Reader} {t : Text}
    (h : Halts r t last []) {v : Bool} {outer : List Bool}
    (hbase : (v :: outer).getLast? = some false) (hr : InStep [] v outer r) (hsized : r.Sized)
    {fuel : Nat} (hfuel : t.length < fuel) (hc : ∀ c ∈ r.constructs fuel t, c.byNumber = false)
    {s last' : Reader} {left more : Text} (hs : InStep bottom v outer s)
    (hraised : Raised n bottom names widths s r) (h' : Halts s (t ++ ')' :: more) last' left) :
    ∃ s', Raised n bottom names widths s' last ∧ Halts s' (')' :: more) last' left := by
  generalize hleft : ([] : Text) = end_ at h
  induction h generalizing fuel v outer s with
  | finished => exact ⟨s, hraised, h'⟩
  | stray hstray =>
    rw [← hleft] at hstray
    simp [atStrayBracket] at hstray
  | step hinput hstray hstep hrest ih =>
    subst hleft
    obtain ⟨fuel, rfl⟩ : ∃ m, fuel = m + 1 := ⟨fuel - 1, by omega⟩
    have hlength := length_lt_of_step hstep
    obtain ⟨c, tail, v', outer', s₁, hread, rfl, -, hscan, heffect, heffect', hrest'⟩ :=
      Halts.step_in_group hbottom hbase hr hstep hrest hs h'
    rw [constructs_of_step (hr.verbose ▸ hread) hstep] at hc
    exact ih (Construct.getLast?_scan hscan ▸ hbase) (hr.effect heffect hscan)
      (hsized.effect heffect) (by omega) (fun c' hc' => hc c' (List.mem_cons_of_mem _ hc'))
      (hs.effect heffect' hscan)
      (hraised.effect hsized hbottom (hc c List.mem_cons_self) heffect heffect') hrest' rfl

end Reader

end Highlighting
