import Highlighting.Proofs.Regex.Lexing
import Highlighting.Proofs.Regex.Frame
import Highlighting.Regex.Reader

/-!
# Reading a pattern step by step

What a construct does to the reader depends on a few things only: an item is put behind the last
one, the last item is repeated, a bar begins another alternative, a group is opened, or the
innermost group is closed. `Reader.Effect` lists these effects, so that an invariant of the reader
is checked once for each of them, and two readers of one construct are compared by their effects.

Reading a pattern is a row of such steps. It ends at the end of the pattern, or at a bracket that
closes no group, and it ends there whatever the bound on the number of steps was.

## Main definitions

* `Opening.kind?` -- what a group is for that does not capture.
* `Reader.Puts`, `Reader.Effect` -- what a construct does to the reader.
* `Reader.Halts` -- the steps through a pattern to its end.
* `Reader.Makes` -- what the program of a pattern is made of.
-/
namespace Highlighting

/-- The modes inside of a group. -/
def Opening.innerModes (m : Modes) : Opening → Modes
  | modes on off => m.inside on off
  | _ => m

/-- What a group is for that does not capture, given the number that a name stands for, and
whether a look-behind is an outermost one. -/
def Opening.kind? (number? : String → Option Nat) (outermost : Bool) :
    Opening → Option GroupKind
  | plain => some .plain
  | capture => none
  | named _ => none
  | modes _ _ => some .modal
  | atomic => some .atomic
  | ahead negated => some (.ahead negated)
  | behind negated => some (.behind negated outermost)
  | conditional (.name s) => (number? s).map .conditional
  | conditional (.number n _) => some (.conditional n)

/-- The capturing group, if the group is one. -/
def GroupKind.groups : GroupKind → List Nat
  | capture n => [n]
  | _ => []

theorem Opening.groups_of_kind? {number? : String → Option Nat} {outermost : Bool} {o : Opening}
    {kind : GroupKind} (h : o.kind? number? outermost = some kind) : kind.groups = [] := by
  unfold kind? at h
  split at h
  case h_8 =>
    obtain ⟨n, -, rfl⟩ := Option.map_eq_some_iff.mp h
    rfl
  all_goals
    cases h
    try rfl

/-- How a repetition chooses, from the sign behind its quantifier. -/
def Greed.ofSign : Text → Greed
  | '?' :: _ => lazily
  | '+' :: _ => possessive
  | _ => greedy

/-- What is left of the text behind a construct: a quantifier takes the sign that says how it
chooses as well. -/
def Construct.behind (c : Construct) (rest : Text) : Text :=
  match c, rest with
  | .quantifier _ _, '?' :: rest => rest
  | .quantifier _ _, '+' :: rest => rest
  | _, rest => rest

/-- Whether white space is skipped inside of a group depends on whether it is skipped around
it. -/
theorem Modes.verbose_inside {m m' : Modes} (h : m.verbose = m'.verbose)
    (on off : List InlineFlag) : (m.inside on off).verbose = (m'.inside on off).verbose := by
  have hset {m m' : Modes} (h : m.verbose = m'.verbose) (value : Bool) (f : InlineFlag) :
      (m.set value f).verbose = (m'.set value f).verbose := by
    cases f with
    | verbose => rfl
    | _ => exact h
  have hfold {m m' : Modes} (h : m.verbose = m'.verbose) (value : Bool) (fs : List InlineFlag) :
      (fs.foldl (set value) m).verbose = (fs.foldl (set value) m').verbose := by
    induction fs generalizing m m' with
    | nil => exact h
    | cons f fs ih => exact ih (hset h value f)
  unfold inside turnOn
  refine hfold (hfold ?_ true on) false off
  split <;> exact h

theorem Opening.verbose_innerModes {m m' : Modes} (h : m.verbose = m'.verbose) (o : Opening) :
    (o.innerModes m).verbose = (o.innerModes m').verbose := by
  cases o with
  | modes on off => exact Modes.verbose_inside h on off
  | _ => exact h

namespace Reader

/-- The item that a construct is by itself, and what it is written as. -/
inductive Puts (r : Reader) : Construct → Role → Regex → Construct → Prop where
  | atom (a : Atom) : Puts r (.atom a) .item (.char (a.test r.level.modes)) (.atom a)
  | place (p : Place) : Puts r (.place p) .place (.anchor (p.anchor r.level.modes)) (.place p)
  | numbered {n length : Nat} (hclosed : r.isClosed n = true) :
      Puts r (.numbered n length) .item (.backref r.level.modes.folding n) (.numbered n 0)
  | named {name : String} {n : Nat} (hname : r.names.lookup name = some n)
      (hclosed : r.isClosed n = true) :
      Puts r (.named name) .item (.backref r.level.modes.folding n) (.numbered n 0)

theorem Puts.groups_eq {r : Reader} {c written : Construct} {role : Role} {x : Regex}
    (h : r.Puts c role x written) : x.groups = [] := by
  cases h <;> rfl

/-- What a construct does to the reader, where `tail` is the text behind it. -/
inductive Effect (r : Reader) (tail : Text) : Construct → Reader → Prop where
  | blank : Effect r tail .blank r
  /-- An item without groups. -/
  | item {c written : Construct} {role : Role} {x : Regex} (hputs : r.Puts c role x written) :
      Effect r tail c (r.push role x (some written))
  /-- The items of the last piece are repeated. -/
  | quantifier {least : Nat} {most : Option Nat} {items : List Item} {pieces : List Piece}
      (hpieces : r.level.pieces = ⟨.item, items⟩ :: pieces) :
      Effect r tail (.quantifier least most)
        { r with level := { r.level with
            pieces := ⟨.repetition,
              [⟨.loop (Greed.ofSign tail) least most (sequenceOf items), none⟩]⟩ :: pieces } }
  | bar : Effect r tail .bar { r with level := r.level.bar }
  /-- A group that does not capture. -/
  | enter {o : Opening} {kind : GroupKind} {opened : Nat} {fence : Option Nat}
      {expected : List (Nat × Nat)}
      (hkind : o.kind? (fun s => r.names.lookup s) r.fence.isNone = some kind) :
      Effect r tail (.opening o)
        { r.enter kind opened (o.innerModes r.level.modes) with fence := fence, expected := expected }
  | capture {opened : Nat} : Effect r tail (.opening .capture) (r.enterCapture opened)
  | named {name : String} {opened : Nat} (hname : r.names.lookup name = none) :
      Effect r tail (.opening (.named name))
        { r.enterCapture opened with names := (name, r.captures + 1) :: r.names }
  | closing {g : OpenGroup} {outer : List OpenGroup} (hgroups : r.groups = g :: outer) :
      Effect r tail .closing (r.close g outer)
  | globalModes {on : List InlineFlag} (hgroups : r.groups = []) :
      Effect r tail (.globalModes on)
        { r with level := { r.level with modes := r.level.modes.turnOn on } }

/-! What is known of an effect whose construct is. -/

namespace Effect
variable {r r' : Reader} {tail : Text}

theorem eq_of_blank (h : Effect r tail .blank r') : r' = r := by
  cases h with
  | blank => rfl
  | item hputs => cases hputs

theorem exists_of_quantifier {least : Nat} {most : Option Nat}
    (h : Effect r tail (.quantifier least most) r') :
    ∃ items pieces, r.level.pieces = ⟨.item, items⟩ :: pieces ∧
      r' = { r with level := { r.level with
        pieces := ⟨.repetition,
          [⟨.loop (Greed.ofSign tail) least most (sequenceOf items), none⟩]⟩ :: pieces } } := by
  cases h with
  | item hputs => cases hputs
  | quantifier hpieces => exact ⟨_, _, hpieces, rfl⟩

theorem eq_of_bar (h : Effect r tail .bar r') : r' = { r with level := r.level.bar } := by
  cases h with
  | item hputs => cases hputs
  | bar => rfl

theorem exists_of_kind? {o : Opening} {kind : GroupKind} {number? : String → Option Nat}
    {outermost : Bool} (hkind : o.kind? number? outermost = some kind)
    (h : Effect r tail (.opening o) r') :
    ∃ kind' opened fence expected,
      o.kind? (fun s => r.names.lookup s) r.fence.isNone = some kind' ∧
        r' = { r.enter kind' opened (o.innerModes r.level.modes) with
          fence := fence, expected := expected } := by
  cases h with
  | item hputs => cases hputs
  | enter hkind' => exact ⟨_, _, _, _, hkind', rfl⟩
  | capture => cases hkind
  | named => cases hkind

theorem exists_of_capture (h : Effect r tail (.opening .capture) r') :
    ∃ opened, r' = r.enterCapture opened := by
  cases h with
  | item hputs => cases hputs
  | enter hkind => cases hkind
  | capture => exact ⟨_, rfl⟩

theorem exists_of_named {name : String} (h : Effect r tail (.opening (.named name)) r') :
    r.names.lookup name = none ∧ ∃ opened,
      r' = { r.enterCapture opened with names := (name, r.captures + 1) :: r.names } := by
  cases h with
  | item hputs => cases hputs
  | enter hkind => cases hkind
  | named hname => exact ⟨hname, _, rfl⟩

theorem exists_of_closing (h : Effect r tail .closing r') :
    ∃ g outer, r.groups = g :: outer ∧ r' = r.close g outer := by
  cases h with
  | item hputs => cases hputs
  | closing hgroups => exact ⟨_, _, hgroups, rfl⟩

theorem eq_of_closing {g : OpenGroup} {outer : List OpenGroup} (hgroups : r.groups = g :: outer)
    (h : Effect r tail .closing r') : r' = r.close g outer := by
  obtain ⟨g', outer', hgroups', rfl⟩ := h.exists_of_closing
  obtain ⟨rfl, rfl⟩ := List.cons.inj (hgroups.symm.trans hgroups')
  rfl

/-- No construct makes room for more groups. -/
theorem mostOpen_eq {c : Construct} (h : Effect r tail c r') : r'.mostOpen = r.mostOpen := by
  cases h with
  | closing =>
    unfold close
    dsimp only
    split <;> rfl
  | _ => rfl

theorem groups_of_globalModes {on : List InlineFlag} (h : Effect r tail (.globalModes on) r') :
    r.groups = [] := by
  cases h with
  | item hputs => cases hputs
  | globalModes hgroups => exact hgroups

end Effect

theorem refer_eq_ok {r r' : Reader} {group length : Nat} {rest : Text}
    (h : r.refer group length rest = .ok r') :
    r.isClosed group = true ∧
      r' = r.push .item (.backref r.level.modes.folding group) (some (.numbered group 0)) := by
  unfold refer at h
  cases hclosed : r.isClosed group with
  | false =>
    rw [hclosed] at h
    cases h
  | true =>
    rw [hclosed] at h
    obtain ⟨_, _, h⟩ := Reading.bind_eq_ok_iff.mp h
    cases h
    exact ⟨rfl, rfl⟩

theorem quantify_eq_ok {r r' : Reader} {least length : Nat} {most : Option Nat} {rest rest' : Text}
    (h : r.quantify least most length rest = .ok (r', rest')) :
    Effect r rest (.quantifier least most) r' ∧
      rest' = (Construct.quantifier least most).behind rest := by
  unfold quantify at h
  split at h
  · cases h
  · cases h
  · cases h
  · next items pieces hpieces =>
    rcases rest with _ | ⟨d, rest⟩
    · cases h
      exact ⟨.quantifier hpieces, rfl⟩
    · by_cases hlazily : d = '?'
      · subst hlazily
        cases h
        exact ⟨.quantifier hpieces, rfl⟩
      · by_cases hpossessive : d = '+'
        · subst hpossessive
          cases h
          exact ⟨.quantifier hpieces, rfl⟩
        · have hsign : Greed.ofSign (d :: rest) = .greedy := by
            unfold Greed.ofSign
            grind
          have hbehind : (Construct.quantifier least most).behind (d :: rest) = d :: rest := by
            unfold Construct.behind
            grind
          have heffect : Effect r (d :: rest) (.quantifier least most) _ := .quantifier hpieces
          rw [hsign] at heffect
          rw [hbehind]
          grind

theorem bar_eq_ok {r r' : Reader} {input : Text} (h : r.bar input = .ok r') :
    r' = { r with level := r.level.bar } := by
  unfold bar at h
  split at h
  · cases h
  · cases h
    rfl

theorem enterConditional_eq_ok {r r' : Reader} {ref : Reference} {opened : Nat} {rest : Text}
    (h : r.enterConditional ref opened rest = .ok r') :
    ∃ n expected, (Opening.conditional ref).kind? (fun s => r.names.lookup s) r.fence.isNone =
        some (.conditional n) ∧
      r' = { r.enter (.conditional n) opened r.level.modes with expected := expected } := by
  unfold enterConditional at h
  dsimp only at h
  split at h
  · next s =>
    split at h
    · cases h
    · next n hname =>
      obtain ⟨_, _, h⟩ := Reading.bind_eq_ok_iff.mp h
      cases h
      exact ⟨n, r.expected, by rw [Opening.kind?, hname, Option.map_some], rfl⟩
  · next n length =>
    split at h
    · cases h
    · obtain ⟨_, _, h⟩ := Reading.bind_eq_ok_iff.mp h
      cases h
      exact ⟨n, _, rfl, rfl⟩

theorem open_eq_ok {r r' : Reader} {o : Opening} {opened : Nat} {rest : Text}
    (h : r.open_ o opened rest = .ok r') (tail : Text) : Effect r tail (.opening o) r' := by
  cases o with
  | plain => cases h; exact .enter rfl
  | capture => cases h; exact .capture
  | named name =>
    replace h : r.enterNamed name opened rest = .ok r' := h
    unfold enterNamed at h
    dsimp only at h
    split at h
    · cases h
    · next hname => cases h; exact .named hname
  | modes on off => cases h; exact .enter rfl
  | atomic => cases h; exact .enter rfl
  | ahead negated => cases h; exact .enter rfl
  | behind negated => cases h; exact .enter rfl
  | conditional ref =>
    obtain ⟨n, expected, hkind, rfl⟩ := enterConditional_eq_ok h
    exact .enter hkind

/-- **A step reads the construct at the start of the text and has its effect.** -/
theorem step_effect {r r' : Reader} {input rest : Text} (h : r.step input = .ok (r', rest)) :
    ∃ c tail, Construct.read r.level.modes.verbose input = .ok (c, tail) ∧ Effect r tail c r' ∧
      rest = c.behind tail := by
  unfold step at h
  dsimp only at h
  obtain ⟨⟨c, tail⟩, hread, h⟩ := Reading.bind_eq_ok_iff.mp h
  refine ⟨c, tail, hread, ?_⟩
  cases c with
  | blank => cases h; exact ⟨.blank, rfl⟩
  | atom a => cases h; exact ⟨.item (.atom a), rfl⟩
  | place p => cases h; exact ⟨.item (.place p), rfl⟩
  | numbered n length =>
    dsimp only at h
    split at h
    · obtain ⟨r'', hrefer, h⟩ := Reading.bind_eq_ok_iff.mp h
      cases h
      obtain ⟨hclosed, rfl⟩ := refer_eq_ok hrefer
      exact ⟨.item (.numbered hclosed), rfl⟩
    · cases h
  | named name =>
    dsimp only at h
    split at h
    · cases h
    · next n hname =>
      obtain ⟨r'', hrefer, h⟩ := Reading.bind_eq_ok_iff.mp h
      cases h
      obtain ⟨hclosed, rfl⟩ := refer_eq_ok hrefer
      exact ⟨.item (.named hname hclosed), rfl⟩
  | quantifier least most => exact quantify_eq_ok h
  | bar =>
    obtain ⟨r'', hbar, h⟩ := Reading.bind_eq_ok_iff.mp h
    cases h
    rw [bar_eq_ok hbar]
    exact ⟨.bar, rfl⟩
  | opening o =>
    obtain ⟨r'', hopen, h⟩ := Reading.bind_eq_ok_iff.mp h
    obtain ⟨_, _, h⟩ := Reading.bind_eq_ok_iff.mp h
    cases h
    exact ⟨open_eq_ok hopen tail, rfl⟩
  | closing =>
    dsimp only at h
    split at h
    · cases h
    · next g outer hgroups =>
      cases h
      exact ⟨.closing hgroups, rfl⟩
  | globalModes on =>
    dsimp only at h
    split at h
    · next hstart =>
      cases h
      simp only [atStart, Bool.and_eq_true, List.isEmpty_iff] at hstart
      exact ⟨.globalModes hstart.1.1, rfl⟩
    · cases h

/-! ## All steps -/

/-- The steps through a text, up to its end or to a bracket that closes no group. -/
inductive Halts : Reader → Text → Reader → Text → Prop where
  | finished {r : Reader} (hgroups : r.groups = []) : Halts r [] r []
  | stray {r : Reader} {input : Text} (h : r.atStrayBracket input = true) : Halts r input r input
  | step {r r' last : Reader} {input rest left : Text} (hinput : input ≠ [])
      (hstray : r.atStrayBracket input = false) (h : r.step input = .ok (r', rest))
      (hrest : Halts r' rest last left) : Halts r input last left

theorem behind_suffix (c : Construct) (t : Text) : c.behind t <:+ t := by
  unfold Construct.behind
  split
  · exact List.suffix_cons _ _
  · exact List.suffix_cons _ _
  · exact List.suffix_refl _

/-- A step leaves a shorter text. -/
theorem length_lt_of_step {r r' : Reader} {input rest : Text} (h : r.step input = .ok (r', rest)) :
    rest.length < input.length := by
  obtain ⟨c, tail, hread, _, rfl⟩ := step_effect h
  exact Nat.lt_of_le_of_lt (behind_suffix c tail).length_le (Construct.suffix_of_read hread).2

/-- **With a bound on the steps that the length of the text does not reach, all of it is read.** -/
theorem halts_of_readAll {fuel : Nat} {r last : Reader} {input left : Text}
    (hfuel : input.length < fuel) (h : r.readAll fuel input = .ok (last, left)) :
    Halts r input last left := by
  induction fuel generalizing r input with
  | zero => omega
  | succ fuel ih =>
    unfold readAll at h
    split at h
    · split at h
      · next hgroups => cases h; exact .finished hgroups
      · cases h
    · next c t =>
      split at h
      · next hstray => cases h; exact .stray hstray
      · next hstray =>
        obtain ⟨⟨r', rest⟩, hstep, h⟩ := Reading.bind_eq_ok_iff.mp h
        have hlt := length_lt_of_step hstep
        exact .step nofun (Bool.eq_false_iff.mpr hstray) hstep (ih (by omega) h)

/-- And conversely. -/
theorem Halts.readAll {fuel : Nat} {r last : Reader} {input left : Text}
    (hfuel : input.length < fuel) (h : Halts r input last left) :
    r.readAll fuel input = .ok (last, left) := by
  induction h generalizing fuel with
  | finished hgroups =>
    obtain ⟨fuel, rfl⟩ : ∃ n, fuel = n + 1 := ⟨fuel - 1, by omega⟩
    simp only [Reader.readAll, hgroups]
  | @stray r input hstray =>
    obtain ⟨fuel, rfl⟩ : ∃ n, fuel = n + 1 := ⟨fuel - 1, by omega⟩
    cases input with
    | nil => simp [atStrayBracket] at hstray
    | cons c t => simp only [Reader.readAll, if_pos hstray]
  | @step r r' last input rest left hinput hstray hstep hrest ih =>
    obtain ⟨fuel, rfl⟩ : ∃ n, fuel = n + 1 := ⟨fuel - 1, by omega⟩
    have hlt := length_lt_of_step hstep
    cases input with
    | nil => exact absurd rfl hinput
    | cons c t =>
      simp only [Reader.readAll, hstray, Bool.false_eq_true, if_false, hstep]
      exact ih (by omega)

/-! ## The program -/

/-- The program is made of what the reader has read, and nothing in it is refused. -/
structure Makes (r : Reader) (p : Regex.Program) : Prop where
  regex_eq : p.regex = r.level.regex
  captures_eq : p.captures = r.captures
  names_eq : p.names = r.names.reverse
  modes_eq : p.modes = r.level.modes
  least_eq : p.least = (r.level.regex.width r.groupWidth).least
  meaningful : r.level.regex.meaningless? r.level.modes.template = none
  near : r.level.regex.reachesTooFar = false

end Reader

namespace Regex

theorem finish_eq_ok {r : Reader} {rest : Text} {p : Program} (h : finish r rest = .ok p) :
    rest = [] ∧ r.Makes p := by
  unfold finish at h
  dsimp only at h
  split at h
  · cases h
  · split at h
    · cases h
    · next hrest =>
      split at h
      · cases h
      · split at h
        · cases h
        · next hmeaning =>
          split at h
          · cases h
          · next hreach =>
            cases h
            exact ⟨Decidable.not_not.mp hrest, rfl, rfl, rfl, rfl, rfl, hmeaning,
              Bool.eq_false_iff.mpr hreach⟩

/-- **A pattern that compiles is read to its end**, and its program is what was read. -/
theorem halts_of_compile {mostOpen : Nat} {modes : Modes} {pattern : Text} {p : Program}
    (h : compile mostOpen modes pattern = .ok p) :
    ∃ r, Reader.Halts (Reader.start mostOpen modes) pattern r [] ∧ r.Makes p := by
  unfold compile at h
  obtain ⟨⟨r, rest⟩, hread, h⟩ := Reading.bind_eq_ok_iff.mp h
  obtain ⟨rfl, hmade⟩ := finish_eq_ok h
  exact ⟨r, Reader.halts_of_readAll (Nat.lt_succ_self _) hread, hmade⟩

end Regex

end Highlighting
