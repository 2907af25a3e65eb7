import Highlighting.Proofs.Regex.InGroup
import Highlighting.Rule.Basic

/-!
# The expression of a set of rules

The pattern of a set of rules has one group for each rule, named after it, with bars between. If
the bracket behind each rule's pattern closes its group, the groups of the rules are opened where
no other group is, so the expression is the row of these groups and nothing else. A single group
stands for itself. Nothing is taken out in front of several, for no two groups are written alike.

## Main definitions

* `RuleGroup` -- the group of a rule, with its number and its expression.
* `RuleGroup.choice` -- the expression that has the groups of some rules for alternatives.
-/
namespace Highlighting

/-- The group of a rule in the expression of a set of rules. -/
structure RuleGroup where
  name : String
  number : Nat
  body : Regex

namespace RuleGroup

/-- The expression of a rule's group. -/
def regex (b : RuleGroup) : Regex := .capture b.number b.body

/-- The item that a rule's group leaves. -/
def item (b : RuleGroup) : Item := ⟨b.regex, none⟩

/-- The expression that has some groups for alternatives. -/
def choice : List RuleGroup → Regex
  | [b] => b.regex
  | bs => Regex.alternatives (bs.map regex)

end RuleGroup

/-- Each of some groups is that of a rule. -/
theorem RuleGroup.exists_rule {P : Rule → RuleGroup → Prop} {rules : List Rule}
    {bs : List RuleGroup} (h : List.Forall₂ P rules bs) : ∀ b ∈ bs, ∃ r ∈ rules, P r b := by
  induction h with
  | nil => exact fun b hb => absurd hb List.not_mem_nil
  | cons hr _ ih =>
    refine List.forall_mem_cons.mpr ⟨⟨_, List.mem_cons_self, hr⟩, fun b hb => ?_⟩
    obtain ⟨r, hmem, hrule⟩ := ih b hb
    exact ⟨r, List.mem_cons_of_mem _ hmem, hrule⟩

/-! ## The name of a group -/

theorem ne_of_isIdContinue {c : Char} (h : Unicode.isIdContinue c = true) : c ≠ '>' ∧ c ≠ '\\' := by
  constructor <;> rintro rfl <;> exact absurd h (by decide)

theorem isIdContinue_of_isIdStart {c : Char} (h : Unicode.isIdStart c = true) :
    Unicode.isIdContinue c = true := by
  unfold Unicode.isIdContinue
  split
  · next hc =>
    rw [Unicode.isIdStart, if_pos hc] at h
    simp only [Char.isAlphanum, Bool.or_eq_true] at h ⊢
    tauto
  · rw [h]
    rfl

/-- Each character of an identifier may follow in one. -/
theorem isIdContinue_of_isIdentifier {name : Text} (h : Unicode.isIdentifier name = true) :
    ∀ c ∈ name, Unicode.isIdContinue c = true := by
  cases name with
  | nil => exact fun c hc => absurd hc List.not_mem_nil
  | cons d name =>
    obtain ⟨hd, hname⟩ := Unicode.isIdentifier_cons.mp h
    exact List.forall_mem_cons.mpr ⟨isIdContinue_of_isIdStart hd, hname⟩

theorem ne_of_isIdentifier {name : Text} (h : Unicode.isIdentifier name = true) :
    ∀ c ∈ name, c ≠ '>' ∧ c ≠ '\\' :=
  fun c hc => ne_of_isIdContinue (isIdContinue_of_isIdentifier h c hc)

theorem splitAtToken_append {stop : Char} {name : Text} (hname : ∀ c ∈ name, c ≠ stop ∧ c ≠ '\\')
    (rest : Text) (hstop : stop ≠ '\\') :
    splitAtToken stop (name ++ stop :: rest) = (name, rest, true) := by
  induction name with
  | nil => simp [splitAtToken, hstop]
  | cons c name ih =>
    obtain ⟨hc, hc'⟩ := hname c List.mem_cons_self
    have ih := ih fun d hd => hname d (List.mem_cons_of_mem _ hd)
    simp [splitAtToken, hc, hc', ih]

/-- The opening of a group with a name. -/
theorem read_named (v : Bool) {t rest : Text} {name : String}
    (h : readGroupName '>' t = .ok (name, rest)) :
    Construct.read v ('(' :: '?' :: 'P' :: '<' :: t) = .ok (.opening (.named name), rest) := by
  have hext (opened : Nat) :
      readExtension opened ('P' :: '<' :: t) = .ok (.opening (.named name), rest) := by
    change (readGroupName '>' t >>= _) = _
    rw [h]
    rfl
  cases v with
  | false => exact hext (t.length + 4)
  | true => exact hext (t.length + 4)

/-- The end of a group. -/
theorem read_closing (v : Bool) (t : Text) : Construct.read v (')' :: t) = .ok (.closing, t) := by
  simp [Construct.read, nextToken, Unicode.isAsciiBlank]

/-- The end of an alternative. -/
theorem read_bar (v : Bool) (t : Text) : Construct.read v ('|' :: t) = .ok (.bar, t) := by
  simp [Construct.read, nextToken, Unicode.isAsciiBlank]

/-- The group of a rule begins with its opening. -/
theorem Rule.group_append (r : Rule) (more : Text) : r.group ++ more =
    '(' :: '?' :: 'P' :: '<' :: (r.name.toList ++ '>' :: (r.pattern ++ ')' :: more)) := by
  have hopening : "(?P<".toList = ['(', '?', 'P', '<'] := rfl
  change "(?P<".toList ++ r.name.toList ++ ['>'] ++ r.pattern ++ [')'] ++ more = _
  rw [hopening]
  simp only [List.append_assoc, List.cons_append, List.nil_append]

/-- The opening of a rule's group. -/
theorem read_group (v : Bool) (r : Rule) (more : Text) :
    Construct.read v (r.group ++ more) =
      .ok (.opening (.named r.name), r.pattern ++ ')' :: more) := by
  have hname : readGroupName '>' (r.name.toList ++ '>' :: (r.pattern ++ ')' :: more)) =
      .ok (r.name, r.pattern ++ ')' :: more) := by
    have hne : r.name.toList ≠ [] := by
      intro h
      have := r.isIdentifier_name
      rw [h] at this
      cases this
    unfold readGroupName readName
    rw [splitAtToken_append (ne_of_isIdentifier r.isIdentifier_name) _ (by decide)]
    dsimp only
    rw [if_neg hne]
    change (if Unicode.isIdentifier r.name.toList = true then _ else _) = _
    rw [if_pos r.isIdentifier_name, String.ofList_toList]
  rw [Rule.group_append]
  exact read_named v hname

namespace Reader
variable {r last : Reader} {left more : Text} {rule : Rule}

/-- A reader at the group of a rule goes into it. -/
theorem Halts.in_group (h : Halts r (rule.group ++ more) last left) :
    ∃ opened, Halts { r.enterCapture opened with
      names := (rule.name, r.captures + 1) :: r.names } (rule.pattern ++ ')' :: more) last left := by
  obtain ⟨c, tail, s, hread, heffect, hrest⟩ := h.read (by simp [Rule.group_append])
    (by simp [atStrayBracket, Rule.group_append])
  rw [read_group] at hread
  cases hread
  obtain ⟨-, opened, rfl⟩ := heffect.exists_of_named
  exact ⟨opened, hrest⟩

/-- The scan of the rule's pattern starts where the group was opened. -/
theorem inStep_enterNamed (hgroups : r.groups = []) (opened : Nat) (names : List (String × Nat)) :
    InStep [⟨.capture (r.captures + 1), opened, r.level⟩] r.level.modes.verbose []
      { r.enterCapture opened with names := names } :=
  ⟨rfl, [], by simp [enterCapture, enter, hgroups], rfl⟩

/-- A reader at the bracket behind a rule's pattern closes the rule's group. -/
theorem Halts.behind_bracket {g : OpenGroup} (hgroups : r.groups = [g])
    (h : Halts r (')' :: more) last left) : Halts (r.close g []) more last left := by
  obtain ⟨c, tail, s, hread, heffect, hrest⟩ :=
    h.read (by simp) (by simp [atStrayBracket, hgroups])
  rw [read_closing] at hread
  cases hread
  exact heffect.eq_of_closing hgroups ▸ hrest

end Reader

/-- Behind the group of a rule, where no group is open, the reader has one more item, and no group
is open. Something holds of the rule's group. -/
def Rule.Leaves (modes : Modes) (P : RuleGroup → Prop) (rule : Rule) : Prop :=
  ∀ (r last : Reader) (left more : Text), r.groups = [] → r.level.modes = modes →
    Reader.Halts r (rule.group ++ more) last left →
    ∃ b : RuleGroup, ∃ s, P b ∧ b.name = rule.name ∧ (b.name, b.number) ∈ s.names ∧
      s.groups = [] ∧ s.level = r.level.push .item [b.item] ∧ r.names <:+ s.names ∧
      Reader.Halts s more last left

namespace Rule
variable {modes : Modes} {rule : Rule}

theorem Leaves.mono {P Q : RuleGroup → Prop} (h : rule.Leaves modes P)
    (hPQ : ∀ b, b.name = rule.name → P b → Q b) : rule.Leaves modes Q := by
  intro r last left more hgroups hmodes hrule
  obtain ⟨b, s, hP, hname, hrest⟩ := h r last left more hgroups hmodes hrule
  exact ⟨b, s, hPQ b hname hP, hname, hrest⟩

/-- What holds where a reader in a rule's group gets to the bracket behind the pattern. -/
theorem Leaves.of_bracket {P : RuleGroup → Prop}
    (h : ∀ (r last : Reader) (left more : Text) (opened : Nat), r.groups = [] →
      r.level.modes = modes →
      Reader.Halts { r.enterCapture opened with names := (rule.name, r.captures + 1) :: r.names }
        (rule.pattern ++ ')' :: more) last left →
      ∃ s : Reader, P ⟨rule.name, r.captures + 1, s.level.regex⟩ ∧
        s.groups = [⟨.capture (r.captures + 1), opened, r.level⟩] ∧
        (rule.name, r.captures + 1) :: r.names <:+ s.names ∧
        Reader.Halts s (')' :: more) last left) : rule.Leaves modes P := by
  intro r last left more hgroups hmodes hrule
  obtain ⟨opened, hrule⟩ := hrule.in_group
  obtain ⟨s, hP, hs, hnames, hrest⟩ := h r last left more opened hgroups hmodes hrule
  obtain ⟨hgroups', hnames', hlevel⟩ := Reader.InStep.close_groups s
    ⟨.capture (r.captures + 1), opened, r.level⟩ []
  refine ⟨⟨rule.name, r.captures + 1, s.level.regex⟩, _, hP, rfl, ?_, hgroups', hlevel, ?_,
    hrest.behind_bracket hs⟩
  · rw [hnames']
    exact hnames.subset List.mem_cons_self
  · rw [hnames']
    exact (List.suffix_cons _ _).trans hnames

/-- So does a rule whose group is closed by the bracket behind its pattern. -/
theorem Leaves.of_closesGroup (h : closesGroup modes.verbose rule.pattern = true) :
    rule.Leaves modes fun _ => True := by
  refine Leaves.of_bracket fun r last left more opened hgroups hmodes hrule => ?_
  have hscan : strayBracket (rule.pattern.length + 2) modes.verbose [] (rule.pattern ++ [')']) =
      some [')'] := by
    simpa [closesGroup] using h
  have hsplit : rule.pattern ++ ')' :: more = (rule.pattern ++ [')']) ++ more := by simp
  rw [hsplit] at hrule
  obtain ⟨v, s, hs, hrest, hnames⟩ :=
    hrule.behind_pattern (by simp) hscan (hmodes ▸ Reader.inStep_enterNamed hgroups opened _)
  obtain ⟨inner, hinner, hnil⟩ := hs.groups
  rw [List.map_eq_nil_iff.mp hnil, List.nil_append] at hinner
  exact ⟨s, trivial, hinner, hnames, hrest⟩

/-- **The group of a rule has the expression of its pattern alone**, behind the groups before it, if
white space is not skipped and the pattern refers to no group by number. -/
theorem Leaves.of_alone {mostOpen : Nat} (hverbose : modes.verbose = false) {own : Reader}
    (halone : Reader.Halts (Reader.start mostOpen modes) rule.pattern own [])
    (hnumber : ∀ c ∈ Regex.constructs mostOpen modes rule.pattern, c.byNumber = false) :
    rule.Leaves modes fun b => b.body = own.level.regex.raise b.number := by
  refine Leaves.of_bracket fun r last left more opened hgroups hmodes hrule => ?_
  have hr : Reader.InStep [] false [] (Reader.start mostOpen modes) := ⟨hverbose, [], rfl, rfl⟩
  have hs := Reader.inStep_enterNamed hgroups opened ((rule.name, r.captures + 1) :: r.names)
  rw [hmodes, hverbose] at hs
  have hraised := Reader.Raised.enterNamed hgroups mostOpen opened
    ((rule.name, r.captures + 1) :: r.names)
  rw [hmodes] at hraised
  obtain ⟨s, hlast, hrest⟩ := halone.raised (by simp) rfl hr (Reader.sized_start mostOpen modes)
    (Nat.lt_succ_self _) hnumber hs hraised hrule
  obtain ⟨inner, hinner, hall⟩ := hlast.groups
  rw [halone.groups_eq_nil] at hall
  cases hall
  refine ⟨s, ?_, hinner, ?_, hrest⟩
  · rw [hlast.level, Level.regex_raise]
  · rw [hlast.names]
    exact List.suffix_append _ _

end Rule

/-! ## All groups -/

/-- The pattern of several rules begins with the group of the first. -/
theorem Rule.alternation_cons (r : Rule) {rules : List Rule} (h : rules ≠ []) :
    Rule.alternation (r :: rules) = r.group ++ '|' :: Rule.alternation rules := by
  obtain ⟨r', rules, rfl⟩ := List.exists_cons_of_ne_nil h
  simp [Rule.alternation, Text.joinWith]

/-- It does so too if there is one rule only. -/
theorem Rule.exists_alternation_eq (r : Rule) (rules : List Rule) :
    ∃ more, Rule.alternation (r :: rules) = r.group ++ more ∧
      (rules ≠ [] → more = '|' :: Rule.alternation rules) := by
  by_cases hlast : rules = []
  · subst hlast
    exact ⟨[], by simp [Rule.alternation, Text.joinWith], fun h => absurd rfl h⟩
  · exact ⟨_, r.alternation_cons hlast, fun _ => rfl⟩

namespace Reader

theorem Halts.eq_of_nil {r last : Reader} {left : Text} (h : Halts r [] last left) : r = last := by
  cases h with
  | finished => rfl
  | stray h => simp [atStrayBracket] at h
  | step hinput => exact absurd rfl hinput

/-- A reader at a bar begins the next alternative. -/
theorem Halts.behind_bar {r last : Reader} {more left : Text}
    (h : Halts r ('|' :: more) last left) :
    Halts { r with level := r.level.bar } more last left := by
  obtain ⟨c, tail, s, hread, heffect, hrest⟩ := h.read (by simp) (by simp [atStrayBracket])
  rw [read_bar] at hread
  cases hread
  exact heffect.eq_of_bar ▸ hrest

/-- **Behind the groups of rules** the reader has these groups for alternatives, and no mode has
changed. -/
theorem Halts.behind_alternation {P : Rule → RuleGroup → Prop} {rules : List Rule}
    (hrules : rules ≠ []) {r last : Reader} (hgroups : r.groups = [])
    (hpieces : r.level.pieces = [])
    (hleaves : ∀ rule ∈ rules, rule.Leaves r.level.modes (P rule))
    (h : Halts r (Rule.alternation rules) last []) :
    ∃ bs : List RuleGroup, List.Forall₂ P rules bs ∧ bs.map (·.name) = rules.map (·.name) ∧
      (∀ b ∈ bs, (b.name, b.number) ∈ last.names) ∧ r.names <:+ last.names ∧
      last.level.modes = r.level.modes ∧
      last.level.allBranches = r.level.branches.reverse ++ bs.map fun b => [b.item] := by
  induction rules generalizing r with
  | nil => exact absurd rfl hrules
  | cons rule rules ih =>
    have hleaves_rule := hleaves rule List.mem_cons_self
    have hbranch : r.level.branch = [] := by simp [Level.branch, hpieces]
    by_cases hlast : rules = []
    · subst hlast
      have h : Halts r (rule.group ++ []) last [] := by
        simpa [Rule.alternation, Text.joinWith] using h
      obtain ⟨b, s, hP, hname, hmem, -, hlevel, hnames, h⟩ := hleaves_rule r _ _ _ hgroups rfl h
      obtain rfl := h.eq_of_nil
      refine ⟨[b], .cons hP .nil, by simp [hname], by simpa using hmem, hnames,
        by rw [hlevel]; rfl, ?_⟩
      rw [hlevel, Level.allBranches_push, hbranch]
      rfl
    · rw [Rule.alternation_cons rule hlast] at h
      obtain ⟨b, s, hP, hname, hmem, hgroups', hlevel, hnames, h⟩ :=
        hleaves_rule r _ _ _ hgroups rfl h
      have hmodes : s.level.bar.modes = r.level.modes := by
        rw [hlevel]
        rfl
      obtain ⟨bs, hPs, hbs, hmems, hnames', hmodes', hbranches⟩ :=
        ih (r := { s with level := s.level.bar }) hlast hgroups' rfl
          (fun rule' hr => hmodes ▸ hleaves rule' (List.mem_cons_of_mem _ hr)) h.behind_bar
      refine ⟨b :: bs, .cons hP hPs, by simp [hname, hbs], ?_, hnames.trans hnames',
        hmodes'.trans hmodes, ?_⟩
      · intro b' hb'
        rcases List.mem_cons.mp hb' with rfl | hb'
        · exact hnames'.subset hmem
        · exact hmems b' hb'
      · have hbar : s.level.bar.branches = [b.item] :: r.level.branches := by
          rw [hlevel]
          simp [Level.bar, Level.branch, Level.push, hpieces]
        rw [hbranches, hbar]
        simp

/-- The bracket behind a rule's pattern closes its group if the pattern can be read alone and
white space is not skipped. -/
theorem Halts.closesGroup_of_alone {rules : List Rule} {r last : Reader} (hgroups : r.groups = [])
    {mostOpen : Nat} {modes : Modes} (hmodes : modes.verbose = false)
    (hverbose : r.level.modes.verbose = false)
    (halone : ∀ rule ∈ rules, ∃ s, Halts (start mostOpen modes) rule.pattern s [])
    (h : Halts r (Rule.alternation rules) last []) :
    ∀ rule ∈ rules, closesGroup false rule.pattern = true := by
  induction rules generalizing r with
  | nil => exact fun rule hr => absurd hr List.not_mem_nil
  | cons rule rules ih =>
    obtain ⟨more, hmore, hrest⟩ := rule.exists_alternation_eq rules
    rw [hmore] at h
    have hrule : closesGroup false rule.pattern = true := by
      obtain ⟨s, hs⟩ := halone rule List.mem_cons_self
      obtain ⟨opened, hin⟩ := h.in_group
      exact closesGroup_of_halts (by simp) hmodes hs
        (hverbose ▸ inStep_enterNamed hgroups opened _) hin
    intro rule' hr
    rcases List.mem_cons.mp hr with rfl | hr
    · exact hrule
    · have hleaves : rule.Leaves r.level.modes fun _ => True := .of_closesGroup (hverbose ▸ hrule)
      obtain ⟨b, s, -, -, -, hgroups', hlevel, -, h⟩ := hleaves r _ _ _ hgroups rfl h
      rw [hrest (List.ne_nil_of_mem hr)] at h
      refine ih (r := { s with level := s.level.bar }) hgroups' ?_
        (fun rule hr => halone rule (List.mem_cons_of_mem _ hr)) h.behind_bar rule' hr
      change s.level.modes.verbose = false
      rw [hlevel]
      exact hverbose

end Reader

/-! ## The expression -/

theorem RuleGroup.commonStart_items (b : RuleGroup) (bs : List RuleGroup) (hbs : bs ≠ []) :
    commonStart [b.item] (bs.map fun b => [b.item]) = ([], (b :: bs).map fun b => [b.item]) := by
  obtain ⟨b', bs, rfl⟩ := List.exists_cons_of_ne_nil hbs
  simp [commonStart, Item.same, item]

theorem RuleGroup.choiceOf_items (modes : Modes) (bs : List RuleGroup) (hbs : bs ≠ []) :
    (choiceOf modes (bs.map fun b => [b.item])).regex = Regex.alternatives (bs.map regex) := by
  obtain ⟨b', bs, rfl⟩ := List.exists_cons_of_ne_nil hbs
  simp [choiceOf, Item.members?, item, sequenceOf, Regex.sequence, Function.comp_def]

theorem Level.regex_eq_choice {l : Level} {bs : List RuleGroup} (hbs : bs ≠ [])
    (h : l.allBranches = bs.map fun b => [b.item]) : l.regex = RuleGroup.choice bs := by
  obtain ⟨b, bs, rfl⟩ := List.exists_cons_of_ne_nil hbs
  unfold regex items
  rw [h]
  by_cases hlast : bs = []
  · subst hlast
    rfl
  · obtain ⟨b', bs, rfl⟩ := List.exists_cons_of_ne_nil hlast
    simp only [List.map_cons]
    have := RuleGroup.commonStart_items b (b' :: bs) (by simp)
    simp only [List.map_cons] at this
    rw [this]
    have := RuleGroup.choiceOf_items l.modes (b :: b' :: bs) (by simp)
    simp only [List.map_cons] at this
    simp [sequenceOf, Regex.sequence, this, RuleGroup.choice]

namespace Regex

/-- **The expression of a set of rules** is the choice between their groups, if each rule leaves its
group. -/
theorem choice_of_compile {P : Rule → RuleGroup → Prop} {mostOpen : Nat} {modes : Modes}
    {rules : List Rule} (hrules : rules ≠ [])
    (hleaves : ∀ rule ∈ rules, rule.Leaves modes (P rule)) {p : Program}
    (h : compile mostOpen modes (Rule.alternation rules) = .ok p) :
    ∃ bs : List RuleGroup, List.Forall₂ P rules bs ∧ bs.map (·.name) = rules.map (·.name) ∧
      (∀ b ∈ bs, (b.name, b.number) ∈ p.names) ∧ p.modes = modes ∧
      p.regex = RuleGroup.choice bs := by
  obtain ⟨r, hr, hmade⟩ := halts_of_compile h
  obtain ⟨bs, hP, hbs, hmem, -, hmodes', hbranches⟩ :=
    hr.behind_alternation hrules rfl rfl hleaves
  refine ⟨bs, hP, hbs, fun b hb => ?_, hmade.modes_eq.trans hmodes', ?_⟩
  · rw [hmade.names_eq]
    exact List.mem_reverse.mpr (hmem b hb)
  · rw [hmade.regex_eq]
    refine Level.regex_eq_choice ?_ hbranches
    rintro rfl
    exact hrules (List.map_eq_nil_iff.mp hbs.symm)

/-- **Where white space is not skipped, a bracket behind each pattern closes its group**, for the
patterns of rules that compile both each alone and together. -/
theorem closesGroup_of_compile {mostOpen : Nat} {modes : Modes} (hverbose : modes.verbose = false)
    {rules : List Rule} (halone : ∀ rule ∈ rules, ∃ q, compile mostOpen modes rule.pattern = .ok q)
    {p : Program} (h : compile mostOpen modes (Rule.alternation rules) = .ok p) :
    ∀ rule ∈ rules, closesGroup false rule.pattern = true := by
  obtain ⟨r, hr, -⟩ := halts_of_compile h
  have hhalts : ∀ rule ∈ rules,
      ∃ s, Reader.Halts (Reader.start mostOpen modes) rule.pattern s [] := by
    intro rule hrule
    obtain ⟨q, hq⟩ := halone rule hrule
    obtain ⟨s, hs, -⟩ := halts_of_compile hq
    exact ⟨s, hs⟩
  exact hr.closesGroup_of_alone rfl hverbose hverbose hhalts

end Regex

end Highlighting
