import Highlighting.Proofs.Regex.Confined
import Highlighting.Proofs.Regex.Spelling
import Highlighting.Proofs.Regex.Wrapped

/-!
# What stops a pattern

A pattern that cannot be compiled is at fault at some place, or it goes beyond what is read at all:
a bound of a quantifier is too large, ASCII and Unicode are both asked for, a look-behind reaches
back too far, or too many groups are open at once. Whatever of this stops a pattern can be seen in
its text, for the steps up to where the reader stops keep to it: what is left is the end of the
pattern, each open group has taken an opening bracket, the modes of the whole pattern change with
flags that stand in it, and without the signs of a look-behind there is none in what was read.

## Main definitions

* `Reader.Reaches` -- the steps through a pattern as far as they go.
* `Reader.outerModes` -- the modes of the whole pattern.
* `Reader.LooksAhead` -- no look-behind has been read.
* `Regex.Exceeds` -- the text of a pattern has what stops it that is no fault.

## Main statements

* `Regex.compile_eq_error` -- what stops a pattern is a fault, or it can be seen in the text.
-/
namespace Highlighting

/-! ## A step that is refused -/

namespace Reader

theorem faulty_checkFence (r : Reader) (group : Nat) (rest : Text) :
    Faulty (r.checkFence group rest) := by
  unfold checkFence
  split
  · exact .ok trivial
  · exact .ite (fun _ => .error) fun _ => .ite (fun _ => .error) fun _ => .ok trivial

theorem faulty_refer (r : Reader) (group length : Nat) (rest : Text) :
    Faulty (r.refer group length rest) :=
  .ite (fun _ => .error) fun _ => (r.faulty_checkFence group rest).bind fun _ _ => .ok trivial

theorem faulty_quantify (r : Reader) (least : Nat) (most : Option Nat) (length : Nat)
    (rest : Text) : Faulty (r.quantify least most length rest) := by
  unfold quantify
  split
  · exact .error
  · exact .error
  · exact .error
  · exact .ok trivial

theorem faulty_bar (r : Reader) (input : Text) : Faulty (r.bar input) := by
  unfold bar
  split
  · exact .error
  · exact .ok trivial

theorem faulty_enterNamed (r : Reader) (name : String) (opened : Nat) (rest : Text) :
    Faulty (r.enterNamed name opened rest) := by
  unfold enterNamed
  dsimp only
  split
  · exact .error
  · exact .ok trivial

theorem faulty_enterConditional (r : Reader) (ref : Reference) (opened : Nat) (rest : Text) :
    Faulty (r.enterConditional ref opened rest) := by
  unfold enterConditional
  dsimp only
  split
  · split
    · exact .error
    · exact (r.faulty_checkFence _ _).bind fun _ _ => .ok trivial
  · exact .ite (fun _ => .error) fun _ => (r.faulty_checkFence _ _).bind fun _ _ => .ok trivial

theorem faulty_open (r : Reader) (o : Opening) (opened : Nat) (rest : Text) :
    Faulty (r.open_ o opened rest) := by
  cases o with
  | named name => exact r.faulty_enterNamed name opened rest
  | conditional ref => exact r.faulty_enterConditional ref opened rest
  | _ => exact .ok trivial

/-- **A step is refused for a fault**, unless the construct cannot be read, or it opens a group
where so many are open already. -/
theorem step_eq_error {r : Reader} {input : Text} {e : CompileError} (h : r.step input = .error e) :
    (∃ f, e = .fault f) ∨ Construct.read r.level.modes.verbose input = .error e ∨
      e = .nestedTooDeep ∧ r.mostOpen ≤ r.groups.length ∧ ['('] <+: input := by
  unfold step at h
  rcases bind_eq_error_iff.mp h with hread | ⟨⟨c, rest⟩, hread, h⟩
  · exact .inr (.inl hread)
  cases c with
  | blank => cases h
  | atom a => cases h
  | place p => cases h
  | numbered n length =>
    refine .inl (Gives.of_eq_error (P := fun _ => True) (.ite (fun _ => ?_) fun _ => .error) h)
    exact (r.faulty_refer n length rest).bind fun _ _ => .ok trivial
  | named name =>
    refine .inl (Gives.of_eq_error (P := fun _ => True) ?_ h)
    dsimp only
    split
    · exact .error
    · exact (r.faulty_refer _ _ _).bind fun _ _ => .ok trivial
  | quantifier least most => exact .inl ((r.faulty_quantify _ _ _ _).of_eq_error h)
  | bar =>
    refine .inl (Gives.of_eq_error (P := fun _ => True) ?_ h)
    exact (r.faulty_bar input).bind fun _ _ => .ok trivial
  | opening o =>
    rcases bind_eq_error_iff.mp h with hopen | ⟨inside, hopen, h⟩
    · exact .inl ((r.faulty_open _ _ _).of_eq_error hopen)
    rcases bind_eq_error_iff.mp h with hdepth | ⟨_, -, h⟩
    · unfold checkDepth at hdepth
      split at hdepth
      · next hdeep =>
        cases hdepth
        have hlength := (opens_of_open hopen).2.2.1
        have hroom := (open_eq_ok hopen []).mostOpen_eq
        exact .inr (.inr ⟨rfl, by omega, (Construct.begins_of_read hread).bracket⟩)
      · cases hdepth
    · cases h
  | closing =>
    refine .inl (Gives.of_eq_error (P := fun _ => True) ?_ h)
    dsimp only
    split
    · exact .error
    · exact .ok trivial
  | globalModes on =>
    refine .inl (Gives.of_eq_error (P := fun _ => True) ?_ h)
    exact .ite (fun _ => .ok trivial) fun _ => .error

/-! ## The steps up to where a reader stops -/

/-- The steps through a text, as far as they go. -/
inductive Reaches (r : Reader) (input : Text) : Reader → Text → Prop where
  | start : Reaches r input r input
  | step {s s' : Reader} {rest rest' : Text} (h : Reaches r input s rest)
      (hstep : s.step rest = .ok (s', rest')) : Reaches r input s' rest'

namespace Reaches
variable {r last : Reader} {input left : Text}

/-- What is left is the end of the text. -/
theorem suffix (h : Reaches r input last left) : left <:+ input := by
  induction h with
  | start => exact List.suffix_refl _
  | step _ hstep ih =>
    obtain ⟨c, tail, hread, -, rfl⟩ := step_effect hstep
    exact ((behind_suffix c tail).trans (Construct.suffix_of_read hread).1).trans ih

/-- There is as much room for groups as at the start. -/
theorem mostOpen_eq (h : Reaches r input last left) : last.mostOpen = r.mostOpen := by
  induction h with
  | start => rfl
  | step _ hstep ih =>
    obtain ⟨c, tail, -, heffect, -⟩ := step_effect hstep
    exact heffect.mostOpen_eq.trans ih

/-- **What each construct keeps holds to the last**, if it holds at the start. -/
theorem invariant {P : Reader → Text → Prop} (h : Reaches r input last left) (hstart : P r input)
    (hstep : ∀ {s s' : Reader} {rest tail : Text} {c : Construct}, rest <:+ input →
      Construct.read s.level.modes.verbose rest = .ok (c, tail) → s.Allows c → Effect s tail c s' →
      P s rest → P s' (c.behind tail)) : P last left := by
  induction h with
  | start => exact hstart
  | step h hs ih =>
    obtain ⟨c, tail, hread, heffect, rfl⟩ := step_effect hs
    exact hstep h.suffix hread (allows_of_step hread hs).1 heffect ih

end Reaches

/-- A pattern that is read to its end is gone through by steps. -/
theorem Halts.reaches {r s last : Reader} {input rest left : Text} (h : Reaches r input s rest)
    (hhalts : Halts s rest last left) : Reaches r input last left := by
  induction hhalts with
  | finished => exact h
  | stray => exact h
  | step _ _ hstep _ ih => exact ih (h.step hstep)

/-- A pattern that is not read to its end is at fault, or it is gone through up to a step that is
refused. -/
theorem reaches_of_readAll_eq_error {fuel : Nat} {r s : Reader} {input rest : Text}
    {e : CompileError} (h : Reaches r input s rest) (hread : s.readAll fuel rest = .error e) :
    (∃ f, e = .fault f) ∨ ∃ last left, Reaches r input last left ∧ last.step left = .error e := by
  induction fuel generalizing s rest with
  | zero => cases hread
  | succ fuel ih =>
    unfold readAll at hread
    split at hread
    · split at hread
      · cases hread
      · cases hread
        exact .inl (faultBefore_eq_fault ..)
    · split at hread
      · cases hread
      · rcases bind_eq_error_iff.mp hread with hstep | ⟨⟨s', rest'⟩, hstep, hread⟩
        · exact .inr ⟨s, _, h, hstep⟩
        · exact ih (h.step hstep) hread

/-! ## What is seen of it in the text -/

/-- Each open group has taken an opening bracket. -/
theorem length_groups_add_count_le {r last : Reader} {input left : Text}
    (h : Reaches r input last left) :
    last.groups.length + left.count '(' ≤ r.groups.length + input.count '(' := by
  refine h.invariant (P := fun s rest => s.groups.length + rest.count '(' ≤ _) (Nat.le_refl _) ?_
  intro s s' rest tail c _ hread _ heffect hle
  obtain ⟨hsuffix, hlength⟩ := Construct.suffix_of_read hread
  rw [length_groups_effect heffect]
  have hcount := ((behind_suffix c tail).trans hsuffix).sublist.count_le '('
  cases c with
  | opening o =>
    -- The bracket is no longer there.
    obtain ⟨rest, rfl⟩ := (Construct.begins_of_read hread).bracket
    rcases List.suffix_cons_iff.mp hsuffix with heq | hsuffix
    · exact absurd (congrArg List.length heq) (Nat.ne_of_lt hlength)
    · replace hsuffix : tail <:+ rest := hsuffix
      have hcount := hsuffix.sublist.count_le '('
      have htaken : (['('] ++ rest).count '(' = rest.count '(' + 1 := List.count_cons_self
      dsimp only [Construct.depthAfter, Construct.behind]
      omega
  | closing =>
    dsimp only [Construct.depthAfter]
    omega
  | _ =>
    dsimp only [Construct.depthAfter]
    omega

/-- **A pattern that is not read to its end is at fault**, or a bound of a quantifier in it is too
large, or it has more opening brackets than groups may be open. -/
theorem readAll_eq_error {fuel : Nat} {r : Reader} {input : Text} {e : CompileError}
    (h : r.readAll fuel input = .error e) :
    (∃ f, e = .fault f) ∨
      (∃ digits quantifier, digits.all Char.isDigit = true ∧ IsBound digits quantifier ∧
        quantifier <:+: input ∧ TooLarge digits e) ∨
      e = .nestedTooDeep ∧ r.mostOpen < r.groups.length + input.count '(' := by
  rcases reaches_of_readAll_eq_error .start h with hfault | ⟨last, left, hreaches, hstep⟩
  · exact .inl hfault
  rcases step_eq_error hstep with hfault | hconstruct | ⟨he, hdepth, hbracket⟩
  · exact .inl hfault
  · refine (Construct.read_eq_error hconstruct).imp_right fun hbound => .inl ?_
    obtain ⟨digits, quantifier, hdigits, hbound, hprefix, hlarge⟩ := hbound
    exact ⟨digits, quantifier, hdigits, hbound, hprefix.isInfix.trans hreaches.suffix.isInfix,
      hlarge⟩
  · have hcount := length_groups_add_count_le hreaches
    have hopen : 1 ≤ left.count '(' := List.count_pos_iff.mpr (hbracket.subset List.mem_cons_self)
    rw [hreaches.mostOpen_eq] at hdepth
    exact .inr (.inr ⟨he, by omega⟩)

/-- The modes of the whole pattern. -/
def outerModes (r : Reader) : Modes :=
  match r.groups.getLast? with
  | some g => g.outer.modes
  | none => r.level.modes

theorem outerModes_enter (r : Reader) (g : OpenGroup) (hg : g.outer = r.level) :
    (match (g :: r.groups).getLast? with
      | some g => g.outer.modes
      | none => r.level.modes) = r.outerModes := by
  unfold outerModes
  cases r.groups with
  | nil => simp [hg]
  | cons h outer => rw [List.getLast?_cons_cons, List.getLast?_cons]

/-- **The modes of the whole pattern change with flags for it only.** -/
theorem outerModes_effect {r r' : Reader} {c : Construct} {tail : Text} (h : Effect r tail c r') :
    r'.outerModes = r.outerModes ∨
      ∃ on, c = .globalModes on ∧ r'.outerModes = r.outerModes.turnOn on := by
  cases h with
  | enter hkind => exact .inl (outerModes_enter r _ rfl)
  | capture => exact .inl (outerModes_enter r _ rfl)
  | named hname => exact .inl (outerModes_enter r _ rfl)
  | @closing g outer hgroups =>
    obtain ⟨hclosed, -, hlevel⟩ := InStep.close_groups r g outer
    refine .inl ?_
    unfold outerModes
    rw [hclosed, hlevel, hgroups]
    cases outer with
    | nil => rfl
    | cons h outer => rw [List.getLast?_cons_cons, List.getLast?_cons]
  | @globalModes on hgroups =>
    refine .inr ⟨on, rfl, ?_⟩
    simp [outerModes, hgroups]
  | _ => exact .inl rfl

end Reader

namespace Modes

/-- ASCII and Unicode are asked for by flags. -/
theorem types_turnOn (m : Modes) (on : List InlineFlag) :
    ((m.turnOn on).ascii = true → m.ascii = true ∨ .ascii ∈ on) ∧
      ((m.turnOn on).unicode = true → m.unicode = true ∨ .unicode ∈ on) := by
  unfold turnOn
  induction on generalizing m with
  | nil => exact ⟨.inl, .inl⟩
  | cons f on ih =>
    rw [List.foldl_cons]
    obtain ⟨hascii, hunicode⟩ := ih (m.set true f)
    cases f with
    | ascii =>
      exact ⟨fun _ => .inr List.mem_cons_self,
        fun h => (hunicode h).imp_right (List.mem_cons_of_mem _)⟩
    | unicode =>
      exact ⟨fun h => (hascii h).imp_right (List.mem_cons_of_mem _),
        fun _ => .inr List.mem_cons_self⟩
    | _ =>
      exact ⟨fun h => (hascii h).imp_right (List.mem_cons_of_mem _),
        fun h => (hunicode h).imp_right (List.mem_cons_of_mem _)⟩

end Modes

namespace InlineFlag

theorem eq_of_ofChar? {c d : Char} {f : InlineFlag} (hc : ofChar? c = some f)
    (hd : ofChar? d = some f) : c = d := by
  unfold ofChar? at hc hd
  split at hc <;> cases hc <;> split at hd <;> first | rfl | cases hd

end InlineFlag

/-- Flags for the whole pattern that stand in it have a letter. -/
def Text.SetsFlag (letter : Char) (pattern : Text) : Prop :=
  ∃ letters, '(' :: '?' :: letters ++ [')'] <:+: pattern ∧
    letters.all (fun c => (InlineFlag.ofChar? c).isSome) = true ∧ letter ∈ letters

namespace Reader

/-- **What the modes of the whole pattern ask for** they ask for at its start, or there are flags in
the pattern with the letter for it. -/
theorem Reaches.setsFlag {r last : Reader} {input left : Text} (h : Reaches r input last left)
    {letter : Char} {f : InlineFlag} (hletter : InlineFlag.ofChar? letter = some f)
    {asks : Modes → Bool}
    (hturn : ∀ m on, asks (m.turnOn on) = true → asks m = true ∨ f ∈ on)
    (hlast : asks last.outerModes = true) :
    asks r.outerModes = true ∨ Text.SetsFlag letter input := by
  refine h.invariant (P := fun s _ => asks s.outerModes = true →
    asks r.outerModes = true ∨ Text.SetsFlag letter input) .inl ?_ hlast
  intro s s' rest tail c hsuffix hread _ heffect hs hasks
  rcases outerModes_effect heffect with hsame | ⟨on, rfl, hturned⟩
  · exact hs (hsame ▸ hasks)
  · rcases hturn _ _ (hturned ▸ hasks) with hbefore | hmem
    · exact hs hbefore
    · obtain ⟨letters, hprefix, hflags, hletters⟩ := Construct.begins_of_read hread
      obtain ⟨d, hd, hflag⟩ := hletters _ hmem
      obtain rfl := InlineFlag.eq_of_ofChar? hflag hletter
      exact .inr ⟨letters, hprefix.isInfix.trans hsuffix.isInfix, hflags, hd⟩

/-- Behind whatever is no comment the reader is not at its start. -/
theorem atStart_effect {r r' : Reader} {c : Construct} {tail : Text} (h : Effect r tail c r')
    (hr : r.atStart = false ∨ ∃ o, c = .opening o) : r'.atStart = false := by
  cases h with
  | blank => exact hr.resolve_right (by rintro ⟨o, ho⟩; cases ho)
  | globalModes hgroups => exact hr.resolve_right (by rintro ⟨o, ho⟩; cases ho)
  | @closing g outer hgroups =>
    obtain ⟨-, -, hlevel⟩ := InStep.close_groups r g outer
    simp [atStart, hlevel, Level.push]
  | item hputs => simp [atStart, push, Level.push]
  | quantifier hpieces => simp [atStart]
  | bar => simp [atStart, Level.bar]
  | enter hkind => simp [atStart, enter]
  | capture => simp [atStart, enterCapture, enter]
  | named hname => simp [atStart, enterCapture, enter]

/-- Behind the opening of a group there are no flags for the whole pattern. -/
theorem outerModes_of_opening {r last : Reader} {input left tail : Text} {o : Opening}
    (h : Reaches r input last left)
    (hread : Construct.read r.level.modes.verbose input = .ok (.opening o, tail)) :
    last.outerModes = r.outerModes := by
  refine (h.invariant (P := fun s rest => (s = r ∧ rest = input ∨ s.atStart = false) ∧
    s.outerModes = r.outerModes) ⟨.inl ⟨rfl, rfl⟩, rfl⟩ ?_).2
  rintro s s' rest tail' c - hread' hallows heffect ⟨hs, hmodes⟩
  have hc : s.atStart = false ∨ ∃ o, c = .opening o := by
    refine hs.symm.imp_right ?_
    rintro ⟨rfl, rfl⟩
    rw [hread] at hread'
    cases hread'
    exact ⟨o, rfl⟩
  refine ⟨.inr (atStart_effect heffect hc), ?_⟩
  rcases outerModes_effect heffect with hsame | ⟨on, rfl, -⟩
  · exact hsame.trans hmodes
  · rcases hc with hstart | ⟨o, ho⟩
    · exact absurd hallows (Bool.eq_false_iff.mp hstart)
    · cases ho

end Reader

/-! ## Look-behinds -/

namespace Regex

theorem looksBehind_sequence {rs : List Regex} (h : ∀ r ∈ rs, r.looksBehind = false) :
    (sequence rs).looksBehind = false := by
  induction rs with
  | nil => rfl
  | cons r rs ih =>
    obtain ⟨hr, hrs⟩ := List.forall_mem_cons.mp h
    cases rs with
    | nil => exact hr
    | cons r' rs => exact Bool.or_eq_false_iff.mpr ⟨hr, ih hrs⟩

theorem looksBehind_sequenceOf {items : List Item} (h : ∀ i ∈ items, i.regex.looksBehind = false) :
    (sequenceOf items).looksBehind = false :=
  looksBehind_sequence (List.forall_mem_map.mpr h)

theorem looksBehind_alternatives {rs : List Regex} (h : ∀ r ∈ rs, r.looksBehind = false) :
    (alternatives rs).looksBehind = false := by
  induction rs with
  | nil => rfl
  | cons r rs ih =>
    obtain ⟨hr, hrs⟩ := List.forall_mem_cons.mp h
    exact Bool.or_eq_false_iff.mpr ⟨hr, ih hrs⟩

/-- An expression without a look-behind reaches back not at all. -/
theorem reachesTooFar_eq_false {r : Regex} (h : r.looksBehind = false) :
    r.reachesTooFar = false := by
  induction r with
  | seq r s ihr ihs | alt r s ihr ihs | conditional g r s ihr ihs =>
    obtain ⟨hr, hs⟩ := Bool.or_eq_false_iff.mp h
    exact Bool.or_eq_false_iff.mpr ⟨ihr hr, ihs hs⟩
  | capture g r ih => exact ih h
  | ahead negated r ih => exact ih h
  | behind negated w r ih => cases h
  | atomic r ih => exact ih h
  | loop greed least most r ih => exact ih h
  | _ => rfl

end Regex

theorem Opening.eq_behind_of_kind? {number? : String → Option Nat} {outermost n out : Bool}
    {o : Opening} (h : o.kind? number? outermost = some (.behind n out)) :
    ∃ negated, o = .behind negated := by
  cases o with
  | behind negated => exact ⟨negated, rfl⟩
  | conditional ref =>
    cases ref with
    | name s =>
      obtain ⟨n, -, hn⟩ := Option.map_eq_some_iff.mp h
      cases hn
    | number n length => cases h
  | _ => cases h

/-- No item of an alternation has a look-behind. -/
def Level.LooksAhead (l : Level) : Prop := l.All fun i => i.regex.looksBehind = false

theorem Level.LooksAhead.items {l : Level} (h : l.LooksAhead) :
    ∀ i ∈ l.items, i.regex.looksBehind = false := by
  refine All.items h fun branches hbranches => ?_
  unfold choiceOf
  dsimp only
  split
  · rfl
  · refine Regex.looksBehind_alternatives (List.forall_mem_map.mpr fun b hb => ?_)
    exact Regex.looksBehind_sequenceOf (hbranches b hb)

theorem Level.LooksAhead.regex {l : Level} (h : l.LooksAhead) : l.regex.looksBehind = false :=
  Regex.looksBehind_sequenceOf h.items

namespace Reader

/-- No look-behind has been read, and none is being read. -/
structure LooksAhead (r : Reader) : Prop where
  level : r.level.LooksAhead
  outer : ∀ g ∈ r.groups, g.outer.LooksAhead
  kinds : ∀ g ∈ r.groups, ∀ negated outermost, g.kind ≠ .behind negated outermost

namespace LooksAhead
variable {r : Reader}

theorem enter (h : r.LooksAhead) {kind : GroupKind} (hkind : ∀ n o, kind ≠ .behind n o)
    (opened : Nat) (modes : Modes) : (r.enter kind opened modes).LooksAhead where
  level := Level.all_start modes
  outer := List.forall_mem_cons.mpr ⟨h.level, h.outer⟩
  kinds := List.forall_mem_cons.mpr ⟨hkind, h.kinds⟩

theorem start (mostOpen : Nat) (modes : Modes) : (Reader.start mostOpen modes).LooksAhead :=
  ⟨Level.all_start modes, by simp [Reader.start], by simp [Reader.start]⟩

theorem groupItems (h : r.LooksAhead) {kind : GroupKind} (hkind : ∀ n o, kind ≠ .behind n o) :
    ∀ i ∈ r.groupItems kind, i.regex.looksBehind = false := by
  unfold Reader.groupItems
  split
  · exact h.level.items
  · intro i hi
    rw [List.mem_singleton.mp hi]
    cases kind with
    | behind n o => exact absurd rfl (hkind n o)
    | conditional n =>
      unfold groupRegex
      dsimp only
      split
      · next yes no heq =>
        have hall := h.level
        unfold Level.LooksAhead Level.All at hall
        rw [heq] at hall
        exact Bool.or_eq_false_iff.mpr ⟨Regex.looksBehind_sequenceOf (hall yes (by simp)),
          Regex.looksBehind_sequenceOf (hall no (by simp))⟩
      · exact Bool.or_eq_false_iff.mpr ⟨h.level.regex, rfl⟩
    | _ => exact h.level.regex

/-- **No construct but a look-behind brings one in.** -/
theorem effect {r' : Reader} {c : Construct} {tail : Text} (h : r.LooksAhead)
    (he : Effect r tail c r') (hc : ∀ negated, c ≠ .opening (.behind negated)) :
    r'.LooksAhead := by
  cases he with
  | blank => exact h
  | item hputs =>
    refine ⟨h.level.push _ fun i hi => ?_, h.outer, h.kinds⟩
    rw [List.mem_singleton.mp hi]
    cases hputs <;> rfl
  | @quantifier least most items pieces hpieces =>
    -- Both levels are the one before with one more piece.
    let before : Level := { r.level with pieces := pieces }
    have hlevel : r.level = before.push .item items := by
      unfold Level.push
      rw [← hpieces]
    obtain ⟨hbefore, hitems⟩ := Level.all_of_push (hlevel ▸ h.level)
    refine ⟨hbefore.push .repetition fun i hi => ?_, h.outer, h.kinds⟩
    rw [List.mem_singleton.mp hi]
    exact Regex.looksBehind_sequenceOf hitems
  | bar => exact ⟨h.level.bar, h.outer, h.kinds⟩
  | @enter o kind opened fence expected hkind =>
    have hnone (n out : Bool) : kind ≠ .behind n out := by
      rintro rfl
      obtain ⟨negated, rfl⟩ := Opening.eq_behind_of_kind? hkind
      exact hc negated rfl
    have hinside := h.enter hnone opened (o.innerModes r.level.modes)
    exact ⟨hinside.level, hinside.outer, hinside.kinds⟩
  | @capture opened =>
    have hnone (n out : Bool) : GroupKind.capture (r.captures + 1) ≠ .behind n out := nofun
    have hinside := h.enter hnone opened r.level.modes
    exact ⟨hinside.level, hinside.outer, hinside.kinds⟩
  | @named name opened hname =>
    have hnone (n out : Bool) : GroupKind.capture (r.captures + 1) ≠ .behind n out := nofun
    have hinside := h.enter hnone opened r.level.modes
    exact ⟨hinside.level, hinside.outer, hinside.kinds⟩
  | @closing g outer hgroups =>
    obtain ⟨hclosed, -, hlevel⟩ := InStep.close_groups r g outer
    have hg := hgroups ▸ h.outer
    have hkinds := hgroups ▸ h.kinds
    obtain ⟨hgouter, houter⟩ := List.forall_mem_cons.mp hg
    obtain ⟨hgkind, hkinds⟩ := List.forall_mem_cons.mp hkinds
    constructor
    · rw [hlevel]
      exact hgouter.push _ (h.groupItems hgkind)
    · rw [hclosed]
      exact houter
    · rw [hclosed]
      exact hkinds
  | globalModes hgroups => exact ⟨h.level, h.outer, h.kinds⟩

end LooksAhead

/-- **Without the signs of a look-behind there is none** in what is read. -/
theorem looksAhead_of_reaches {r last : Reader} {input left : Text} (h : Reaches r input last left)
    (hr : r.LooksAhead) (hbehind : ¬ ['(', '?', '<', '='] <:+: input)
    (hnegated : ¬ ['(', '?', '<', '!'] <:+: input) : last.LooksAhead := by
  refine h.invariant (P := fun s _ => s.LooksAhead) hr ?_
  intro s s' rest tail c hsuffix hread _ heffect hs
  refine hs.effect heffect ?_
  rintro negated rfl
  have hbegins : ['(', '?', '<', if negated then '!' else '='] <+: rest :=
    Construct.begins_of_read hread
  have hstands := hbegins.isInfix.trans hsuffix.isInfix
  cases negated with
  | false => exact hbehind hstands
  | true => exact hnegated hstands

end Reader

/-! ## What stops a pattern -/

namespace Regex

/-- The text of a pattern, in ASCII or not, has what stops it that is no fault, with so many groups
open at once. -/
inductive Exceeds (mostOpen : Nat) (ascii : Bool) (pattern : Text) : CompileError → Prop where
  /-- A bound of a quantifier in braces is too large. -/
  | bound {digits quantifier : Text} {e : CompileError} (hdigits : digits.all Char.isDigit = true)
      (hbound : IsBound digits quantifier) (hstands : quantifier <:+: pattern)
      (hlarge : TooLarge digits e) : Exceeds mostOpen ascii pattern e
  /-- Unicode is asked for in the pattern, and ASCII in it or before. -/
  | types (hascii : ascii = true ∨ Text.SetsFlag 'a' pattern)
      (hunicode : Text.SetsFlag 'u' pattern) : Exceeds mostOpen ascii pattern .asciiAndUnicode
  /-- There is a look-behind. -/
  | behind (h : "(?<=".toList <:+: pattern ∨ "(?<!".toList <:+: pattern) :
      Exceeds mostOpen ascii pattern .lookbehindTooLong
  /-- There are more opening brackets than groups may be open. -/
  | nested (h : mostOpen < pattern.count '(') : Exceeds mostOpen ascii pattern .nestedTooDeep

/-- What is seen once the whole pattern is read. -/
theorem finish_eq_error {r : Reader} {rest : Text} {e : CompileError}
    (h : finish r rest = .error e) : (∃ f, e = .fault f) ∨
      e = .asciiAndUnicode ∧ r.level.modes.ascii = true ∧ r.level.modes.unicode = true ∨
      e = .lookbehindTooLong ∧ r.level.regex.reachesTooFar = true := by
  unfold finish at h
  dsimp only at h
  split at h
  · next htypes =>
    cases h
    exact .inr (.inl ⟨rfl, Bool.and_eq_true_iff.mp htypes⟩)
  · split at h
    · cases h
      exact .inl (faultBefore_eq_fault ..)
    · split at h
      · cases h
        exact .inl ⟨_, rfl⟩
      · split at h
        · cases h
          exact .inl ⟨_, rfl⟩
        · split at h
          · next hfar =>
            cases h
            exact .inr (.inr ⟨rfl, hfar⟩)
          · cases h

/-- The reader ends outside of all groups, in the modes of the whole pattern. -/
theorem outerModes_of_halts {r last : Reader} {input left : Text}
    (h : Reader.Halts r input last left) : last.outerModes = last.level.modes := by
  rw [Reader.outerModes, h.groups_eq_nil]
  rfl

/-- **What stops a pattern is a fault of it, or it can be seen in its text.** -/
theorem compile_eq_error {mostOpen : Nat} {modes : Modes} (hmodes : modes.unicode = false)
    {pattern : Text} {e : CompileError} (h : compile mostOpen modes pattern = .error e) :
    (∃ f, e = .fault f) ∨ Exceeds mostOpen modes.ascii pattern e := by
  rcases bind_eq_error_iff.mp h with hread | ⟨⟨r, rest⟩, hread, h⟩
  · rcases Reader.readAll_eq_error hread with
      hfault | ⟨digits, quantifier, hdigits, hbound, hstands, hlarge⟩ | ⟨rfl, hnested⟩
    · exact .inl hfault
    · exact .inr (.bound hdigits hbound hstands hlarge)
    · refine .inr (.nested ?_)
      simpa [Reader.start] using hnested
  · have hhalts := Reader.halts_of_readAll (Nat.lt_succ_self _) hread
    have hreaches := hhalts.reaches .start
    rcases finish_eq_error h with hfault | ⟨rfl, hascii, hunicode⟩ | ⟨rfl, hfar⟩
    · exact .inl hfault
    · rw [← outerModes_of_halts hhalts] at hascii hunicode
      have hletter : InlineFlag.ofChar? 'a' = some .ascii := rfl
      have hletter' : InlineFlag.ofChar? 'u' = some .unicode := rfl
      have hasked := hreaches.setsFlag hletter (fun m on => (m.types_turnOn on).1) hascii
      have hasked' := hreaches.setsFlag hletter' (fun m on => (m.types_turnOn on).2) hunicode
      refine .inr (.types hasked (hasked'.resolve_left ?_))
      change ¬ modes.unicode = true
      simp [hmodes]
    · refine .inr (.behind ?_)
      by_contra hnone
      obtain ⟨hbehind, hnegated⟩ := not_or.mp hnone
      have hahead := Reader.looksAhead_of_reaches hreaches (.start mostOpen modes) hbehind hnegated
      rw [reachesTooFar_eq_false hahead.level.regex] at hfar
      cases hfar

/-- Where a pattern has too many groups in one another, the reader is at one too many. -/
theorem reaches_of_nestedTooDeep {mostOpen : Nat} {modes : Modes} {pattern : Text}
    (h : compile mostOpen modes pattern = .error .nestedTooDeep) :
    ∃ last left, Reader.Reaches (Reader.start mostOpen modes) pattern last left ∧
      mostOpen ≤ last.groups.length ∧ ['('] <+: left := by
  rcases bind_eq_error_iff.mp h with hread | ⟨⟨r, rest⟩, -, h⟩
  · rcases Reader.reaches_of_readAll_eq_error .start hread with
      ⟨f, hf⟩ | ⟨last, left, hreaches, hstep⟩
    · cases hf
    rcases Reader.step_eq_error hstep with ⟨f, hf⟩ | hconstruct | ⟨-, hdepth, hbracket⟩
    · cases hf
    · rcases Construct.read_eq_error hconstruct with ⟨f, hf⟩ | ⟨_, _, -, -, -, hlarge⟩
      · cases hf
      · cases hlarge
    · rw [hreaches.mostOpen_eq] at hdepth
      exact ⟨last, left, hreaches, hdepth, hbracket⟩
  · rcases finish_eq_error h with ⟨f, hf⟩ | ⟨hf, -⟩ | ⟨hf, -⟩ <;> cases hf

/-- A pattern that begins with a group does not ask for Unicode. -/
theorem compile_ne_asciiAndUnicode {mostOpen : Nat} {modes : Modes} (hmodes : modes.unicode = false)
    {pattern tail : Text} {o : Opening}
    (hopening : Construct.read modes.verbose pattern = .ok (.opening o, tail)) :
    compile mostOpen modes pattern ≠ .error .asciiAndUnicode := by
  intro h
  rcases bind_eq_error_iff.mp h with hread | ⟨⟨r, rest⟩, hread, h⟩
  · rcases Reader.readAll_eq_error hread with ⟨f, hf⟩ | ⟨_, _, -, -, -, hlarge⟩ | ⟨hnested, -⟩
    · cases hf
    · cases hlarge
    · cases hnested
  · have hhalts := Reader.halts_of_readAll (Nat.lt_succ_self _) hread
    have houter := Reader.outerModes_of_opening (hhalts.reaches .start) hopening
    rcases finish_eq_error h with ⟨f, hf⟩ | ⟨-, -, hunicode⟩ | ⟨hfar, -⟩
    · cases hf
    · rw [← outerModes_of_halts hhalts, houter] at hunicode
      exact absurd hunicode (Bool.eq_false_iff.mp hmodes)
    · cases hfar

end Regex

end Highlighting
