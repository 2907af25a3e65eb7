import Highlighting.Proofs.Regex.Wrapped
import Highlighting.Proofs.Rule.Alternation

/-!
# Patterns joined to one

The patterns of rules that can be read alone can be read in the pattern of an alternation, one
behind the other, each in the group of its rule. Between two groups the reader is where it has been
at the start but for the groups it has numbered and named, so what goes through one group goes
through all of them, as long as no two groups have one name. What was read are the groups of the
rules, and their names with those inside of them, in order.

Some things are asked of an expression only once a whole pattern is read. A choice between groups
meets them if the expressions in the groups do.

## Main definitions

* `Regex.Compilable` -- nothing in an expression is refused once the whole pattern is read.
* `Reader.Between` -- a reader stands between the groups of rules.
* `Rule.GoesThrough` -- the group of a rule can be read wherever a reader stands between groups.
* `Rule.Joins` -- what is asked of a rule's pattern so that its group can be read there.
-/
namespace Highlighting

/-! ## What is asked of a whole expression -/

namespace Regex

/-- Nothing in the expression is refused once the whole pattern is read. -/
def Compilable (r : Regex) : Prop :=
  r.meaningless? false = none ∧ r.reachesTooFar = false

theorem meaningless?_raise (n : Nat) (template : Bool) (r : Regex) :
    (r.raise n).meaningless? template = r.meaningless? template := by
  induction r with
  | seq r s ihr ihs => rw [raise, meaningless?, meaningless?, ihr, ihs]
  | alt r s ihr ihs => rw [raise, meaningless?, meaningless?, ihr, ihs]
  | conditional g r s ihr ihs => rw [raise, meaningless?, meaningless?, ihr, ihs]
  | capture g r ih => exact ih
  | ahead negated r ih => exact ih
  | behind negated w r ih => rw [raise, meaningless?, meaningless?, ih]
  | atomic r ih => exact ih
  | loop greed least most r ih => rw [raise, meaningless?, meaningless?, ih]
  | _ => rfl

theorem reachesTooFar_raise (n : Nat) (r : Regex) :
    (r.raise n).reachesTooFar = r.reachesTooFar := by
  induction r with
  | seq r s ihr ihs => rw [raise, reachesTooFar, reachesTooFar, ihr, ihs]
  | alt r s ihr ihs => rw [raise, reachesTooFar, reachesTooFar, ihr, ihs]
  | conditional g r s ihr ihs => rw [raise, reachesTooFar, reachesTooFar, ihr, ihs]
  | capture g r ih => exact ih
  | ahead negated r ih => exact ih
  | behind negated w r ih => rw [raise, reachesTooFar, reachesTooFar, ih]
  | atomic r ih => exact ih
  | loop greed least most r ih => exact ih
  | _ => rfl

theorem Compilable.raise {r : Regex} (h : r.Compilable) (n : Nat) : (r.raise n).Compilable :=
  ⟨(meaningless?_raise n false r).trans h.1, (reachesTooFar_raise n r).trans h.2⟩

/-- A template asks for more. -/
theorem meaningless?_of_template {template : Bool} {r : Regex}
    (h : r.meaningless? template = none) : r.meaningless? false = none := by
  induction r with
  | seq r s ihr ihs =>
    obtain ⟨hr, hs⟩ := Option.or_eq_none_iff.mp h
    exact Option.or_eq_none_iff.mpr ⟨ihr hr, ihs hs⟩
  | alt r s ihr ihs =>
    obtain ⟨hr, hs⟩ := Option.or_eq_none_iff.mp h
    exact Option.or_eq_none_iff.mpr ⟨ihr hr, ihs hs⟩
  | conditional g r s ihr ihs =>
    obtain ⟨hr, hs⟩ := Option.or_eq_none_iff.mp h
    exact Option.or_eq_none_iff.mpr ⟨ihr hr, ihs hs⟩
  | capture g r ih => exact ih h
  | ahead negated r ih => exact ih h
  | behind negated w r ih =>
    rw [meaningless?] at h ⊢
    split at h
    · next hw =>
      rw [if_pos hw]
      exact ih h
    · cases h
  | atomic r ih => exact ih h
  | loop greed least most r ih =>
    rw [meaningless?] at h
    split at h
    · cases h
    · exact ih h
  | _ => rfl

/-- Such is the expression of a pattern that compiles. -/
theorem compilable_of_compile {mostOpen : Nat} {modes : Modes} {pattern : Text} {p : Program}
    (h : compile mostOpen modes pattern = .ok p) : p.regex.Compilable := by
  obtain ⟨r, -, hmade⟩ := halts_of_compile h
  rw [hmade.regex_eq]
  exact ⟨meaningless?_of_template hmade.meaningful, hmade.near⟩

/-- A pattern that is read to its end compiles, if no mode forbids it, no group is referred to by
number, and nothing in the expression is refused. -/
theorem finish_of_compilable {r : Reader}
    (hascii : (r.level.modes.ascii && r.level.modes.unicode) = false)
    (htemplate : r.level.modes.template = false) (hexpected : r.expected = [])
    (h : r.level.regex.Compilable) : ∃ p, finish r [] = .ok p := by
  unfold finish
  dsimp only
  rw [hascii, hexpected, htemplate, h.1, h.2]
  exact ⟨_, rfl⟩

end Regex

theorem RuleGroup.compilable_choice {bs : List RuleGroup} (h : ∀ b ∈ bs, b.body.Compilable) :
    (choice bs).Compilable := by
  have hmany (bs : List RuleGroup) (h : ∀ b ∈ bs, b.body.Compilable) :
      (Regex.alternatives (bs.map regex)).Compilable := by
    induction bs with
    | nil => exact ⟨rfl, rfl⟩
    | cons b bs ih =>
      obtain ⟨hb, hbs⟩ := List.forall_mem_cons.mp h
      exact ⟨Option.or_eq_none_iff.mpr ⟨hb.1, (ih hbs).1⟩,
        Bool.or_eq_false_iff.mpr ⟨hb.2, (ih hbs).2⟩⟩
  unfold choice
  split
  · exact h _ (List.mem_singleton_self _)
  · exact hmany bs h

/-! ## Between the groups -/

/-- Between the groups of rules no group is open, no look-behind has put up a fence, and the groups
so far have the names. -/
structure Reader.Between (mostOpen : Nat) (modes : Modes) (before : List String) (r : Reader) :
    Prop where
  groups_eq : r.groups = []
  modes_eq : r.level.modes = modes
  fence_eq : r.fence = none
  expected_eq : r.expected = []
  names_eq : r.names.map (·.1) = before.reverse
  mostOpen_eq : r.mostOpen = mostOpen

theorem Reader.between_start (mostOpen : Nat) (modes : Modes) :
    (start mostOpen modes).Between mostOpen modes [] :=
  ⟨rfl, rfl, rfl, rfl, rfl, rfl⟩

/-- Where a reader stands between groups, it can go through the group of a rule, whatever follows
it, if the names in it are new. It then has one more item and knows the group by the rule's name,
and something holds of the group. -/
def Rule.GoesThrough (mostOpen : Nat) (modes : Modes) (inner : List String) (P : RuleGroup → Prop)
    (rule : Rule) : Prop :=
  ∀ (before : List String) (r : Reader) (more : Text), r.Between mostOpen modes before →
    (before ++ rule.name :: inner).Nodup →
    ∃ b : RuleGroup, ∃ s : Reader, P b ∧ s.Between mostOpen modes (before ++ rule.name :: inner) ∧
      s.level = r.level.push .item [b.item] ∧ (b.name, b.number) ∈ s.names ∧
      ∀ last left, Reader.Halts s more last left → Reader.Halts r (rule.group ++ more) last left

namespace Reader
variable {r : Reader} {rule : Rule}

theorem lookup_eq_none_of_notMem {names : List (String × Nat)} {name : String}
    (h : name ∉ names.map (·.1)) : names.lookup name = none := by
  rw [List.lookup_eq_none_iff]
  intro e he
  rw [bne_iff_ne]
  rintro rfl
  exact h (List.mem_map_of_mem he)

/-- The group of a rule can be opened where no group is open and none has its name. -/
theorem Halts.enter_group (hgroups : r.groups = []) (hroom : 0 < r.mostOpen)
    (hname : r.names.lookup rule.name = none) (more : Text) : ∃ opened, ∀ last left,
      Halts { r.enterCapture opened with names := (rule.name, r.captures + 1) :: r.names }
        (rule.pattern ++ ')' :: more) last left → Halts r (rule.group ++ more) last left := by
  have hdepth : r.groups.length < r.mostOpen := by
    rw [hgroups]
    exact hroom
  obtain ⟨s, heffect, -, -, hback⟩ := Halts.of_allows (read_group _ rule more) ⟨hdepth, hname⟩
    (by simp [Rule.group_append]) (by simp [atStrayBracket, Rule.group_append])
  obtain ⟨-, opened, rfl⟩ := heffect.exists_of_named
  exact ⟨opened, hback⟩

/-- The bracket behind a rule's pattern can be read where the rule's group is open. -/
theorem Halts.leave_group {g : OpenGroup} (hgroups : r.groups = [g]) {last : Reader}
    {more left : Text} (h : Halts (r.close g []) more last left) :
    Halts r (')' :: more) last left := by
  obtain ⟨s, heffect, -, -, hback⟩ := Halts.of_allows (r := r) (read_closing _ more)
    (by simp [Allows, hgroups]) (by simp) (by simp [atStrayBracket, hgroups])
  exact hback last left (heffect.eq_of_closing hgroups ▸ h)

/-- A bar can be read where no group is open. -/
theorem Halts.over_bar (hgroups : r.groups = []) {last : Reader} {more left : Text}
    (h : Halts { r with level := r.level.bar } more last left) :
    Halts r ('|' :: more) last left := by
  have hallows : r.Allows .bar := by
    intro g outer n hg
    rw [hgroups] at hg
    cases hg
  obtain ⟨s, heffect, -, -, hback⟩ := Halts.of_allows (read_bar _ more) hallows (by simp)
    (by simp [atStrayBracket])
  exact hback last left (heffect.eq_of_bar ▸ h)

end Reader

/-! ## The group of a rule -/

/-- What is asked of a rule's pattern: it is read alone to its end, it refers to groups by name
only, one more group may be open around it, and the bracket behind it closes that group. -/
structure Rule.Joins (mostOpen : Nat) (modes : Modes) (rule : Rule) (own : Reader) : Prop where
  alone : Reader.Halts (.start mostOpen modes) rule.pattern own []
  byName : ∀ c ∈ Regex.constructs mostOpen modes rule.pattern, c.byNumber = false
  shallow : Construct.deepest 0 (Regex.constructs mostOpen modes rule.pattern) < mostOpen
  closes : ∃ fuel, strayBracket fuel modes.verbose [] (rule.pattern ++ [')']) = some [')']

namespace Rule

/-- **A pattern that can be read alone goes through in the group of its rule**, and the group has
the expression that the pattern has alone, behind the groups before it. -/
theorem Joins.goesThrough {mostOpen : Nat} {modes : Modes} {rule : Rule} {own : Reader}
    (h : rule.Joins mostOpen modes own) :
    rule.GoesThrough mostOpen modes (own.names.reverse.map (·.1)) fun b =>
      b.name = rule.name ∧ b.body = own.level.regex.raise b.number := by
  intro before r more hr hnodup
  obtain ⟨hgroups, hmodes, hfence, hexpected, hnames, hroom⟩ := hr
  obtain ⟨fuel', hscan⟩ := h.closes
  have hname : rule.name ∉ r.names.map (·.1) := by
    rw [hnames, List.mem_reverse]
    exact fun hmem => (List.nodup_append'.mp hnodup).2.2 hmem List.mem_cons_self
  have hnew : ∀ e ∈ own.names,
      ((rule.name, r.captures + 1) :: r.names).lookup e.1 = none := by
    intro e he
    have hinner : e.1 ∈ own.names.reverse.map (·.1) := List.mem_map_of_mem (List.mem_reverse.mpr he)
    refine Reader.lookup_eq_none_of_notMem ?_
    rw [List.map_cons, hnames, List.mem_cons, List.mem_reverse, not_or]
    obtain ⟨-, hrest, hdisjoint⟩ := List.nodup_append'.mp hnodup
    refine ⟨?_, fun hmem => ?_⟩
    · rintro heq
      rw [heq] at hinner
      exact (List.nodup_cons.mp hrest).1 hinner
    · exact hdisjoint hmem (List.mem_cons_of_mem _ hinner)
  obtain ⟨opened, henter⟩ :=
    Reader.Halts.enter_group hgroups (hroom ▸ Nat.zero_lt_of_lt h.shallow)
      (Reader.lookup_eq_none_of_notMem hname) more
  have hin := Reader.inStep_enterNamed hgroups opened ((rule.name, r.captures + 1) :: r.names)
  have hraised := Reader.Raised.enterNamed hgroups mostOpen opened
    ((rule.name, r.captures + 1) :: r.names)
  rw [hmodes] at hin hraised
  have halike : Reader.Alike (r.captures + 1) [⟨.capture (r.captures + 1), opened, r.level⟩]
      { r.enterCapture opened with names := (rule.name, r.captures + 1) :: r.names }
      (Reader.start mostOpen modes) := by
    refine ⟨hfence, ?_, rfl⟩
    simp [Reader.ends, Reader.enterCapture, Reader.enter, Reader.start, hgroups]
  obtain ⟨s, hlast, hfences, hsame, hroom', hgo⟩ := h.alone.into_group ⟨_, _, rfl, rfl⟩
    ⟨rfl, [], rfl, rfl⟩ (Reader.sized_start mostOpen modes) (Nat.lt_succ_self _) h.byName hscan hnew
    hin (hroom ▸ h.shallow) hraised halike more
  -- The reader is at the bracket behind the pattern, and the rule's group alone is open.
  obtain ⟨inner, hinner, hall⟩ := hlast.groups
  rw [h.alone.groups_eq_nil] at hall
  cases hall
  obtain ⟨hgroups', hnames', hlevel⟩ := Reader.InStep.close_groups s
    ⟨.capture (r.captures + 1), opened, r.level⟩ []
  obtain ⟨hfence', hexpected'⟩ := Reader.fence_close hinner
  refine ⟨⟨rule.name, r.captures + 1, s.level.regex⟩, _, ⟨rfl, ?_⟩, ⟨hgroups', ?_, ?_, ?_, ?_, ?_⟩,
    hlevel, ?_, fun last left hafter => henter last left (hgo last left (.leave_group hinner hafter))⟩
  · rw [hlast.level, Level.regex_raise]
  · rw [hlevel]
    exact hmodes
  · rw [hfence', Reader.fenceAfter, hinner]
    exact hfences.fence_eq_none h.alone.groups_eq_nil
  · rw [hexpected', hsame]
    exact hexpected
  · rw [hnames', hlast.names, List.map_append, List.map_cons, hnames]
    simp [Function.comp_def]
  · have hclosing : Reader.Effect s [] .closing _ := .closing hinner
    exact hclosing.mostOpen_eq.trans (hroom'.trans hroom)
  · rw [hnames', hlast.names]
    exact List.mem_append_right _ List.mem_cons_self

theorem GoesThrough.mono {mostOpen : Nat} {modes : Modes} {inner : List String}
    {P Q : RuleGroup → Prop} {rule : Rule} (h : rule.GoesThrough mostOpen modes inner P)
    (hPQ : ∀ b, P b → Q b) : rule.GoesThrough mostOpen modes inner Q := by
  intro before r more hr hnodup
  obtain ⟨b, s, hP, hrest⟩ := h before r more hr hnodup
  exact ⟨b, s, hPQ b hP, hrest⟩

end Rule

/-! ## All groups -/

/-- **The groups of rules can be read one behind the other**, and the reader has them for
alternatives. -/
theorem Reader.Between.halts_alternation {mostOpen : Nat} {modes : Modes}
    {inner : Rule → List String} {P : Rule → RuleGroup → Prop} {rules : List Rule}
    (hrules : rules ≠ []) {before : List String} {r : Reader}
    (hr : r.Between mostOpen modes before) (hpieces : r.level.pieces = [])
    (hthrough : ∀ rule ∈ rules, rule.GoesThrough mostOpen modes (inner rule) (P rule))
    (hnodup : (before ++ rules.flatMap fun rule => rule.name :: inner rule).Nodup) :
    ∃ bs last, List.Forall₂ P rules bs ∧
      last.Between mostOpen modes (before ++ rules.flatMap fun rule => rule.name :: inner rule) ∧
      last.level.allBranches = r.level.branches.reverse ++ bs.map (fun b => [b.item]) ∧
      (∀ b ∈ bs, (b.name, b.number) ∈ last.names) ∧ Halts r (Rule.alternation rules) last [] := by
  induction rules generalizing before r with
  | nil => exact absurd rfl hrules
  | cons rule rules ih =>
    rw [List.flatMap_cons, ← List.append_assoc] at hnodup
    rw [List.flatMap_cons, ← List.append_assoc]
    have hthrough_rule := hthrough rule List.mem_cons_self
    have hbranch : r.level.branch = [] := by simp [Level.branch, hpieces]
    by_cases hlast : rules = []
    · subst hlast
      obtain ⟨b, s, hP, hs, hlevel, hmem, hgo⟩ := hthrough_rule before r [] hr hnodup.of_append_left
      have halternation : Rule.alternation [rule] = rule.group ++ [] := by
        simp [Rule.alternation, Text.joinWith]
      refine ⟨[b], s, .cons hP .nil, by simpa using hs, ?_, by simpa using hmem, ?_⟩
      · rw [hlevel, Level.allBranches_push, hbranch]
        rfl
      · rw [halternation]
        exact hgo s [] (.finished hs.groups_eq)
    · obtain ⟨b, s, hP, hs, hlevel, hmem, hgo⟩ :=
        hthrough_rule before r ('|' :: Rule.alternation rules) hr hnodup.of_append_left
      have hbar : s.level.bar.branches = [b.item] :: r.level.branches := by
        rw [hlevel]
        simp [Level.bar, Level.branch, Level.push, hpieces]
      obtain ⟨bs, last, hPs, hlast', hbranches, hmems, hhalts⟩ :=
        ih (r := { s with level := s.level.bar }) hlast
          ⟨hs.groups_eq, hs.modes_eq, hs.fence_eq, hs.expected_eq, hs.names_eq, hs.mostOpen_eq⟩ rfl
          (fun rule' hr' => hthrough rule' (List.mem_cons_of_mem _ hr')) hnodup
      refine ⟨b :: bs, last, .cons hP hPs, hlast', ?_,
        List.forall_mem_cons.mpr ⟨hhalts.names_suffix.subset hmem, hmems⟩, ?_⟩
      · rw [hbranches, hbar]
        simp
      · rw [Rule.alternation_cons rule hlast]
        exact hgo last [] (.over_bar hs.groups_eq hhalts)

/-- **The pattern of rules compiles** where their groups can be read. Its groups are named as they
come, and its expression is the choice between the groups of the rules. -/
theorem Regex.compile_alternation {mostOpen : Nat} {modes : Modes}
    (hascii : (modes.ascii && modes.unicode) = false) (htemplate : modes.template = false)
    {inner : Rule → List String} {P : Rule → RuleGroup → Prop} {rules : List Rule}
    (hrules : rules ≠ [])
    (hthrough : ∀ rule ∈ rules, rule.GoesThrough mostOpen modes (inner rule) (P rule))
    (hcompilable : ∀ rule ∈ rules, ∀ b, P rule b → b.body.Compilable)
    (hnodup : (rules.flatMap fun rule => rule.name :: inner rule).Nodup) :
    ∃ p bs, compile mostOpen modes (Rule.alternation rules) = .ok p ∧
      p.names.map (·.1) = (rules.flatMap fun rule => rule.name :: inner rule) ∧
      p.regex = RuleGroup.choice bs ∧ (∀ b ∈ bs, (b.name, b.number) ∈ p.names) ∧
      List.Forall₂ P rules bs := by
  obtain ⟨bs, last, hP, hlast, hbranches, hmem, hhalts⟩ :=
    (Reader.between_start mostOpen modes).halts_alternation hrules rfl hthrough hnodup
  have hbs : bs ≠ [] := by
    rintro rfl
    exact hrules (List.forall₂_nil_right_iff.mp hP)
  have hregex : last.level.regex = RuleGroup.choice bs := Level.regex_eq_choice hbs hbranches
  have hall : ∀ b ∈ bs, b.body.Compilable := by
    intro b hb
    obtain ⟨rule, hrule, hPb⟩ := RuleGroup.exists_rule hP b hb
    exact hcompilable rule hrule b hPb
  obtain ⟨p, hp⟩ := finish_of_compilable (r := last) (by rw [hlast.modes_eq]; exact hascii)
    (by rw [hlast.modes_eq]; exact htemplate) hlast.expected_eq
    (hregex ▸ RuleGroup.compilable_choice hall)
  obtain ⟨-, hmade⟩ := finish_eq_ok hp
  refine ⟨p, bs, ?_, ?_, hmade.regex_eq.trans hregex, fun b hb => ?_, hP⟩
  · unfold compile
    rw [hhalts.readAll (Nat.lt_succ_self _)]
    exact hp
  · rw [hmade.names_eq, List.map_reverse, hlast.names_eq, List.nil_append, List.reverse_reverse]
  · rw [hmade.names_eq]
    exact List.mem_reverse.mpr (hmem b hb)

end Highlighting
