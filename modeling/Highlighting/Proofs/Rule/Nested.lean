import Highlighting.Proofs.Regex.Exceeding
import Highlighting.Proofs.Rule.Alternation

/-!
# Groups that are open in an alternation

Where white space is not skipped the bracket behind a pattern that can be read alone closes the
group of its rule. So a reader that goes through the alternation of such rules, as far as it comes,
stands between the groups of the rules, or in the group of a rule at a place where the pattern alone
has the same groups open. The groups of several rules do not add up: if too many are open at once,
nearly as many are open in one of the patterns alone.

## Main definitions

* `Rule.Stands` -- where a reader stands in an alternation.

## Main statements

* `Rule.exists_of_nestedTooDeep` -- one pattern has most of the groups that are too many.
-/
namespace Highlighting

namespace Rule
variable {mostOpen : Nat} {modes : Modes} {rules : List Rule}

/-- What is behind the group of a rule: nothing, or a bar and the groups of others. -/
def Follows (rules : List Rule) (more : Text) : Prop :=
  more = [] ∨ ∃ rest, rest ⊆ rules ∧ more = '|' :: alternation rest

theorem exists_follows (rule : Rule) {rest : List Rule} (hrest : rest ⊆ rules) :
    ∃ more, alternation (rule :: rest) = rule.group ++ more ∧ Follows rules more := by
  by_cases hlast : rest = []
  · subst hlast
    exact ⟨[], by simp [alternation, Text.joinWith], .inl rfl⟩
  · exact ⟨_, rule.alternation_cons hlast, .inr ⟨rest, hrest, rfl⟩⟩

/-- Where a reader stands in the alternation of rules. -/
inductive Stands (mostOpen : Nat) (modes : Modes) (rules : List Rule) : Reader → Text → Prop where
  /-- In front of the groups of some rules. -/
  | before {s : Reader} {rest : List Rule} (hrest : rest ⊆ rules) (hgroups : s.groups = [])
      (hmodes : s.level.modes = modes) : Stands mostOpen modes rules s (alternation rest)
  /-- In the group of a rule, where a reader stands that reads the pattern alone. -/
  | inside {s alone own : Reader} {rule : Rule} {t more : Text} {v : Bool} {outer : List Bool}
      {g : OpenGroup} (hrule : rule ∈ rules) (hmore : Follows rules more)
      (halone : Reader.Reaches (Reader.start mostOpen modes) rule.pattern alone t)
      (hown : Reader.Halts alone t own []) (hr : Reader.InStep [] v outer alone)
      (hs : Reader.InStep [g] v outer s) (hbase : (v :: outer).getLast? = some false)
      (hmodes : g.outer.modes = modes) : Stands mostOpen modes rules s (t ++ ')' :: more)
  /-- Behind the group of a rule. -/
  | behind {s : Reader} {more : Text} (hmore : Follows rules more) (hgroups : s.groups = [])
      (hmodes : s.level.modes = modes) : Stands mostOpen modes rules s more

/-- **A reader that goes on stands in the alternation again.** -/
theorem Stands.effect {s s' : Reader} {rest tail : Text} {c : Construct}
    (h : Stands mostOpen modes rules s rest) (hverbose : modes.verbose = false)
    (halone : ∀ rule ∈ rules, ∃ own, Reader.Halts (Reader.start mostOpen modes) rule.pattern own [])
    (hread : Construct.read s.level.modes.verbose rest = .ok (c, tail))
    (heffect : Reader.Effect s tail c s') : Stands mostOpen modes rules s' (c.behind tail) := by
  cases h with
  | @before rest hrest hgroups hmodes =>
    cases rest with
    | nil => cases hread
    | cons rule rest =>
      obtain ⟨hrule, hrest⟩ := List.cons_subset.mp hrest
      obtain ⟨more, hmore, hfollows⟩ := exists_follows rule hrest
      rw [hmore, read_group] at hread
      cases hread
      obtain ⟨own, hown⟩ := halone rule hrule
      obtain ⟨-, opened, rfl⟩ := heffect.exists_of_named
      have hs := Reader.inStep_enterNamed hgroups opened ((rule.name, s.captures + 1) :: s.names)
      rw [hmodes, hverbose] at hs
      exact .inside hrule hfollows .start hown ⟨hverbose, [], rfl, rfl⟩ hs rfl hmodes
  | @inside alone own rule t more v outer g hrule hmore halone hown hr hs hbase hmodes =>
    cases hown with
    | finished hgroups =>
      obtain ⟨inner, hinner, hnil⟩ := hs.groups
      rw [hr.outer_eq_nil hgroups] at hnil
      rw [List.map_eq_nil_iff.mp hnil, List.nil_append] at hinner
      rw [List.nil_append, read_closing] at hread
      cases hread
      obtain rfl := heffect.eq_of_closing hinner
      obtain ⟨hclosed, -, hlevel⟩ := Reader.InStep.close_groups s g []
      refine .behind hmore hclosed ?_
      rw [hlevel]
      exact hmodes
    | stray hstray => simp [Reader.atStrayBracket] at hstray
    | step hinput hstray hstep hrest =>
      obtain ⟨tail, v', outer', -, rfl, rfl, -, hscan, heffect'⟩ :=
        hrest.read_in_group (by simp) hbase hr hstep hs hread heffect
      rw [behind_append (by simp [Guarded])]
      exact .inside hrule hmore (halone.step hstep) hrest (hr.effect heffect' hscan)
        (hs.effect heffect hscan) (Construct.getLast?_scan hscan ▸ hbase) hmodes
  | behind hmore hgroups hmodes =>
    rcases hmore with rfl | ⟨rest, hrest, rfl⟩
    · cases hread
    · rw [read_bar] at hread
      cases hread
      obtain rfl := heffect.eq_of_bar
      exact .before hrest hgroups hmodes

/-- Where a reader stands with as many groups open as may be and one more to come, it is in the
group of a rule whose pattern has all of these but the group of the rule. -/
theorem Stands.exists_rule {s : Reader} {rest : Text} (h : Stands mostOpen modes rules s rest)
    (hroom : 0 < mostOpen) (hdepth : mostOpen ≤ s.groups.length) (hbracket : ['('] <+: rest) :
    ∃ rule ∈ rules, mostOpen ≤ rule.pattern.count '(' := by
  cases h with
  | before _ hgroups _ =>
    rw [hgroups] at hdepth
    exact absurd hdepth (Nat.not_le.mpr hroom)
  | behind _ hgroups _ =>
    rw [hgroups] at hdepth
    exact absurd hdepth (Nat.not_le.mpr hroom)
  | @inside alone own rule t more v outer g hrule hmore halone hown hr hs hbase hmodes =>
    refine ⟨rule, hrule, ?_⟩
    have hopen : 1 ≤ t.count '(' := by
      cases t with
      | nil => simp at hbracket
      | cons c t =>
        obtain ⟨rfl, -⟩ := List.cons_prefix_cons.mp hbracket
        exact List.count_pos_iff.mpr List.mem_cons_self
    have hcount := Reader.length_groups_add_count_le halone
    obtain ⟨inner, hinner, houter⟩ := hs.groups
    obtain ⟨inner', hinner', houter'⟩ := hr.groups
    have hlength : inner.length = inner'.length := by
      simpa using congrArg List.length (houter.trans houter'.symm)
    rw [hinner', List.append_nil] at hcount
    rw [hinner, List.length_append] at hdepth
    simp only [Reader.start, List.length_nil, List.length_singleton] at hcount hdepth
    omega

/-- **The groups of several rules do not add up** where white space is not skipped: if the patterns
can be read alone and too many groups are open in the alternation, one of the patterns has nearly as
many. -/
theorem exists_of_nestedTooDeep (hroom : 0 < mostOpen) (hverbose : modes.verbose = false)
    (halone : ∀ rule ∈ rules, ∃ own, Reader.Halts (Reader.start mostOpen modes) rule.pattern own [])
    (h : Regex.compile mostOpen modes (alternation rules) = .error .nestedTooDeep) :
    ∃ rule ∈ rules, mostOpen ≤ rule.pattern.count '(' := by
  obtain ⟨last, left, hreaches, hdepth, hbracket⟩ := Regex.reaches_of_nestedTooDeep h
  have hstands : Stands mostOpen modes rules last left :=
    hreaches.invariant (.before (List.Subset.refl rules) rfl rfl)
      fun _ hread _ heffect hs => hs.effect hverbose halone hread heffect
  exact hstands.exists_rule hroom hdepth hbracket

end Rule

end Highlighting
