import Highlighting.Proofs.Grammar.Acceptance
import Highlighting.Proofs.Grammar.FirstRule
import Highlighting.Proofs.Rule.Joined

/-!
# Rules that compile alone compile together

Where the patterns of rules compile one by one, the alternation of the rules compiles, and it is the
choice between the groups of the rules, each with the expression that its pattern has alone. Its
named groups are those of the rules and those inside of their patterns. For this no two groups may
have one name, and no pattern may have flags for the whole pattern or refer to a group by number,
since these mean something else behind other patterns.

Two things can still come between. Where white space is skipped a pattern that ends in a comment
runs into the bracket behind it, so its group ends elsewhere or nowhere. And a pattern with as many
groups in one another as can be read cannot be read in one more.

## Main definitions

* `Rule.Independent` -- rules whose patterns compile alone and do not get in each other's way.
* `Rule.depth` -- the most groups of a rule's pattern that are open at once.
-/
namespace Highlighting

namespace Pattern
variable {source : Text} {flags : String} {modes : Modes}

theorem compile_of_program {program : Regex.Program} (hsource : source ≠ [])
    (hmodes : Pattern.modes source flags = .ok modes)
    (h : Regex.compile Pattern.mostOpen modes source = .ok program) :
    compile source flags = .ok ⟨source, flags, program⟩ := by
  rw [compile, if_neg hsource, hmodes]
  dsimp only
  rw [h]

end Pattern

namespace Rule

theorem alternation_ne_nil {rules : List Rule} (h : rules ≠ []) : alternation rules ≠ [] := by
  obtain ⟨r, rules, rfl⟩ := List.exists_cons_of_ne_nil h
  obtain ⟨more, hmore, -⟩ := r.exists_alternation_eq rules
  rw [hmore, group_append]
  exact List.cons_ne_nil _ _

/-- The patterns of some rules compile alone, and nothing in them means something else beside the
other patterns: no two groups, those of the rules among them, have one name, no group is referred to
by number, and no flags are for the whole pattern. -/
@[mk_iff]
structure Independent (flags : String) (rules : List Rule) : Prop where
  nonempty : rules ≠ []
  distinct : (rules.map (·.name)).Nodup
  alone : ∀ r ∈ rules, Compiles flags r.pattern
  byName : ∀ r ∈ rules, ∀ c ∈ r.constructs flags, c.byNumber = false
  notGlobal : ∀ r ∈ rules, ∀ c ∈ r.constructs flags, c.isGlobal = false
  unshared : rules.Pairwise fun r s => (r.innerGroups flags).Disjoint (s.innerGroups flags)
  apart : ∀ r ∈ rules, ∀ s ∈ rules, r.name ∉ s.innerGroups flags

instance (flags : String) (rules : List Rule) : Decidable (Independent flags rules) :=
  let _ : DecidableRel fun r s : Rule => (r.innerGroups flags).Disjoint (s.innerGroups flags) :=
    fun r s => inferInstanceAs (Decidable (∀ g ∈ r.innerGroups flags, g ∉ s.innerGroups flags))
  decidable_of_iff _ (independent_iff flags rules).symm

/-- The most groups of a rule's pattern that are open at once. -/
def depth (flags : String) (r : Rule) : Nat :=
  Construct.deepest 0 (r.constructs flags)

theorem Independent.nodup_allGroups {flags : String} {rules : List Rule}
    (h : Independent flags rules) : (rules.flatMap (Grammar.allGroups flags)).Nodup := by
  obtain ⟨hself, hpairwise⟩ :=
    (Grammar.pairwise_allGroups_iff h.distinct).mpr ⟨h.unshared, h.apart⟩
  rw [List.nodup_flatMap]
  exact ⟨fun r hr => List.nodup_cons.mpr ⟨hself r hr, Grammar.nodup_innerGroups flags r⟩, hpairwise⟩

/-- A pattern that compiles alone goes through in the group of its rule, with the groups inside of
it. -/
theorem goesThrough_of_compile {flags : String} {modes : Modes} {r : Rule} {p : Pattern}
    (hmodes : Pattern.modes r.pattern flags = .ok modes)
    (hp : Pattern.compile r.pattern flags = .ok p)
    (hnumber : ∀ c ∈ r.constructs flags, c.byNumber = false)
    (hglobal : ∀ c ∈ r.constructs flags, c.isGlobal = false)
    (hdepth : r.depth flags < Pattern.mostOpen)
    (hclose : modes.verbose = true → '#' ∈ r.pattern → closesGroup true r.pattern = true) :
    r.GoesThrough Pattern.mostOpen modes (r.innerGroups flags) (RuleGroup.Stands flags r) := by
  obtain ⟨modes', hmodes', hprogram⟩ := Pattern.compile_eq_ok hp
  obtain rfl := Pattern.modes_unique hmodes hmodes'
  obtain ⟨own, hown, hmade⟩ := Regex.halts_of_compile hprogram
  have hconstructs : r.constructs flags = Regex.constructs Pattern.mostOpen modes r.pattern := by
    rw [constructs, hmodes]
  have hinner : r.innerGroups flags = own.names.reverse.map (·.1) := by
    rw [innerGroups, hp, ← hmade.names_eq]
    rfl
  rw [depth, hconstructs] at hdepth
  rw [hconstructs] at hnumber hglobal
  have hcloses : ∃ fuel, strayBracket fuel modes.verbose [] (r.pattern ++ [')']) = some [')'] := by
    have hbare (hcomment : [modes.verbose].getLast? = some false ∨ '#' ∉ r.pattern) :
        strayBracket (r.pattern.length + 1) modes.verbose [] (r.pattern ++ [')']) = some [')'] :=
      hown.strayBracket_of_alone hcomment ⟨rfl, [], rfl, rfl⟩ (Nat.lt_succ_self _) hglobal
    cases hverbose : modes.verbose with
    | false => exact ⟨_, hverbose ▸ hbare (.inl (by rw [hverbose]; rfl))⟩
    | true =>
      by_cases hsign : '#' ∈ r.pattern
      · exact ⟨_, by simpa [closesGroup] using hclose hverbose hsign⟩
      · exact ⟨_, hverbose ▸ hbare (.inr hsign)⟩
  rw [hinner]
  refine Joins.goesThrough ⟨hown, hnumber, hdepth, hcloses⟩ |>.mono fun b hb => ?_
  exact ⟨hb.1, p, hp, hmade.regex_eq ▸ hb.2⟩

/-- **Rules that compile alone compile together**, under any flags. The alternation is the choice
between the groups of the rules, each with the expression of its pattern alone, so none has lost
something to another. Its named groups are those of the rules, each followed by the groups inside of
its pattern. -/
theorem alternation_compiles {flags : String} {rules : List Rule} (h : Independent flags rules)
    (hdepth : ∀ r ∈ rules, r.depth flags < Pattern.mostOpen)
    (hclose : 'x' ∈ flags.toList → ∀ r ∈ rules, '#' ∈ r.pattern →
      closesGroup true r.pattern = true) :
    ∃ p bs, Pattern.compile (alternation rules) flags = .ok p ∧
      p.groupNames = rules.flatMap (Grammar.allGroups flags) ∧ p.Chooses bs ∧
      List.Forall₂ (RuleGroup.Stands flags) rules bs := by
  obtain ⟨r₀, hr₀⟩ := List.exists_mem_of_ne_nil rules h.nonempty
  obtain ⟨p₀, hp₀⟩ := h.alone r₀ hr₀
  obtain ⟨modes, hmodes₀, -⟩ := Pattern.compile_eq_ok hp₀
  obtain ⟨hmodes, hunicode, htemplate⟩ := Pattern.modes_of_eq_ok hmodes₀
  have hthrough : ∀ r ∈ rules,
      r.GoesThrough Pattern.mostOpen modes (r.innerGroups flags) (RuleGroup.Stands flags r) := by
    intro r hr
    obtain ⟨p, hp⟩ := h.alone r hr
    exact goesThrough_of_compile (hmodes _) hp (h.byName r hr) (h.notGlobal r hr) (hdepth r hr)
      fun hverbose => hclose (Pattern.mem_flags_of_verbose hmodes₀ hverbose) r hr
  have hcompilable : ∀ r ∈ rules, ∀ b, RuleGroup.Stands flags r b → b.body.Compilable := by
    rintro r hr b ⟨-, p, hp, hbody⟩
    obtain ⟨modes', -, hprogram⟩ := Pattern.compile_eq_ok hp
    rw [hbody]
    exact (Regex.compilable_of_compile hprogram).raise b.number
  obtain ⟨program, bs, hcompile, hnames, hregex, hmem, hstands⟩ :=
    Regex.compile_alternation (by simp [hunicode]) htemplate h.nonempty hthrough hcompilable
      h.nodup_allGroups
  obtain ⟨hgroups, hnodup⟩ := Regex.groups_of_compile hcompile
  exact ⟨⟨alternation rules, flags, program⟩, bs,
    Pattern.compile_of_program (alternation_ne_nil h.nonempty) (hmodes _) hcompile, hnames,
    ⟨hregex, hgroups, hnodup, hmem⟩, hstands⟩

/-- A text between two quotes that are alike, and a number, which has one digit behind a sign. Both
patterns have a group of their own, and the first ends in a comment with its line. -/
def quotedOrNumber : List Rule :=
  [⟨"text", "(?P<quote>['\"]) .*? (?P=quote) # quoted\n".toList, none, [], [], none, by decide,
      by decide⟩,
    ⟨"number", "(?P<sign>-)? (?(sign)\\d|\\d+)".toList, none, [], [], none, by decide, by decide⟩]

theorem alternation_compiles_quoted : Independent "ix" quotedOrNumber ∧ ∃ p bs,
    Pattern.compile (alternation quotedOrNumber) "ix" = .ok p ∧
      p.groupNames = ["text", "quote", "number", "sign"] ∧ p.Chooses bs ∧
      List.Forall₂ (RuleGroup.Stands "ix") quotedOrNumber bs := by
  have hindependent : Independent "ix" quotedOrNumber := by decide +kernel
  have hnames : quotedOrNumber.flatMap (Grammar.allGroups "ix") =
      ["text", "quote", "number", "sign"] := by decide +kernel
  obtain ⟨p, bs, hcompile, hgroups, hrest⟩ :=
    alternation_compiles hindependent (by decide +kernel) fun _ => by decide +kernel
  exact ⟨hindependent, p, bs, hcompile, hgroups.trans hnames, hrest⟩

/-- So many groups, one in the other. -/
def nestedGroups (n : Nat) : Text :=
  List.replicate n '(' ++ 'x' :: List.replicate n ')'

/-- Where white space is skipped, a pattern that ends in a comment takes the bracket behind it for
a part of the comment. A rule that is alone does not compile then. Before another rule it takes the
opening of that rule's group for a part of the comment too, so there is no group of that name. And a
pattern with as many groups in one another as can be read does not compile in one more. -/
theorem not_alternation_compiles :
    (∃ rules, Independent "x" rules ∧ (∀ r ∈ rules, r.depth "x" = 0) ∧
      ¬ Compiles "x" (alternation rules)) ∧
    (∃ rules p, Independent "x" rules ∧ (∀ r ∈ rules, r.depth "x" ≤ 1) ∧
      Pattern.compile (alternation rules) "x" = .ok p ∧ rules.map (·.name) = ["a", "b"] ∧
      p.groupNames = ["a"]) ∧
    ∃ rules, Independent "" rules ∧ (∀ r ∈ rules, r.depth "" = Pattern.mostOpen) ∧
      ¬ Compiles "" (alternation rules) := by
  refine ⟨⟨(Grammar.single "x #".toList (by decide)).rules, ?_⟩, ?_,
    ⟨(Grammar.single (nestedGroups Pattern.mostOpen) (by decide)).rules, ?_⟩⟩
  · decide +kernel
  · obtain ⟨p, hcompile, hrun⟩ := bind_eq_ok_iff.mp (show
      (Pattern.compile (alternation (swallowing none).rules) "x" >>= fun p =>
        .ok p.groupNames) = .ok ["a"] by decide +kernel)
    exact ⟨(swallowing none).rules, p, by decide +kernel, by decide +kernel, hcompile, rfl,
      Except.ok.inj hrun⟩
  · decide +kernel

end Rule

end Highlighting
