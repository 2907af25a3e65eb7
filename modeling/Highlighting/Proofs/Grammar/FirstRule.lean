import Highlighting.Proofs.Highlighter.Resolution
import Highlighting.Proofs.Pattern.Search

/-!
# The leftmost match and the first rule

The rules of an alternation are attempted one after the other, each as its pattern is attempted
alone. So where the alternation matches, the first rule whose own pattern matches there has done
so, and the match is the text that this pattern takes. If the text is not empty, the match is
resolved to that rule.

A search ends at the first position where some rule's pattern matches, unless the search itself
stands in the way. There are two such cases. The search for a single rule passes over positions by
a condition on the first character, which is read in the modes of the whole pattern, so the pattern
must not choose between ASCII and Unicode. And a possessive repetition of what captures or looks
behind may leave a group that ends before it starts, and then the search is refused.

## Main definitions

* `Rule.takes?` -- the text that a rule's pattern takes at a position, read alone.
* `Rule.FirstAt` -- the first of some rules whose pattern matches at a position.
* `RuleGroup.Stands` -- a group is that of a rule whose pattern is read alone.
-/
namespace Highlighting

/-! ## An expression behind other groups -/

namespace Regex
variable {n : Nat}

theorem groups_raise (n : Nat) (r : Regex) : (r.raise n).groups = r.groups.map (raiseGroup n) := by
  induction r with
  | seq r s ihr ihs => simp [raise, groups, ihr, ihs]
  | alt r s ihr ihs => simp [raise, groups, ihr, ihs]
  | conditional g r s ihr ihs => simp [raise, groups, ihr, ihs]
  | capture g r ih => simp [raise, groups, ih]
  | ahead negated r ih => exact ih
  | behind negated w r ih => exact ih
  | atomic r ih => exact ih
  | loop greed least most r ih => exact ih
  | _ => rfl

theorem looksBehind_raise (n : Nat) (r : Regex) : (r.raise n).looksBehind = r.looksBehind := by
  induction r with
  | seq r s ihr ihs => simp [raise, looksBehind, ihr, ihs]
  | alt r s ihr ihs => simp [raise, looksBehind, ihr, ihs]
  | conditional g r s ihr ihs => simp [raise, looksBehind, ihr, ihs]
  | capture g r ih => exact ih
  | ahead negated r ih => exact ih
  | atomic r ih => exact ih
  | loop greed least most r ih => exact ih
  | _ => rfl

theorem mayReverse_raise (n : Nat) (r : Regex) : (r.raise n).mayReverse = r.mayReverse := by
  induction r with
  | seq r s ihr ihs => simp [raise, mayReverse, ihr, ihs]
  | alt r s ihr ihs => simp [raise, mayReverse, ihr, ihs]
  | conditional g r s ihr ihs => simp [raise, mayReverse, ihr, ihs]
  | capture g r ih => exact ih
  | ahead negated r ih => exact ih
  | behind negated w r ih => exact ih
  | atomic r ih => exact ih
  | loop greed least most r ih =>
    cases greed with
    | possessive => simp [raise, mayReverse, groups_raise, looksBehind_raise]
    | greedy => exact ih
    | lazily => exact ih
  | _ => rfl

theorem InType.raise {ascii : Bool} {r : Regex} (h : r.InType ascii) :
    (r.raise n).InType ascii := by
  induction r with
  | seq r s ihr ihs => exact ⟨ihr h.1, ihs h.2⟩
  | alt r s ihr ihs => exact ⟨ihr h.1, ihs h.2⟩
  | conditional g r s ihr ihs => exact ⟨ihr h.1, ihs h.2⟩
  | capture g r ih => exact ⟨trivial, ih h.2⟩
  | char t => exact h
  | ahead negated r ih => exact ih h
  | behind negated w r ih => exact ih h
  | atomic r ih => exact ih h
  | loop greed least most r ih => exact ih h
  | _ => trivial

end Regex

namespace RuleGroup

/-- The group of a rule is matched as its pattern is matched alone. -/
theorem pos_matchAt {b : RuleGroup} {r : Regex} (hbody : b.body = r.raise b.number)
    (hpositive : 0 < b.number) (s : Subject) (pos : Nat) :
    (b.regex.matchAt s pos).state?.map (·.pos) = (r.matchAt s pos).state?.map (·.pos) := by
  -- The row when the group is opened: its start behind the unset marks of the groups before.
  obtain ⟨row, hrow, hopened⟩ : ∃ row : List (Option Nat), row.length + 1 = 2 * b.number ∧
      Marks.none.opened b.number pos = ⟨row⟩ := by
    refine ⟨_, ?_, rfl⟩
    simp [Marks.none]
    omega
  have hclosed : Rest.Follows row
      (fun u => { u.within row with marks := (u.within row).marks.closed b.number u.pos })
      (fun u => MatchState.complete { u with marks := u.marks.closed b.number u.pos })
      MatchState.complete := fun u => rfl
  have hstart : (MatchState.start pos).within row =
      { MatchState.start pos with marks := Marks.none.opened b.number pos } := by
    rw [hopened]
    rfl
  have hrun := Regex.run_raise hrow s r false none hclosed (.start pos)
  rw [hstart, ← hbody] at hrun
  have hgroup : b.regex.matchAt s pos = (r.matchAt s pos).within row _ := hrun
  rw [hgroup]
  cases r.matchAt s pos <;> rfl

theorem mayReverse_choice (bs : List RuleGroup) :
    (choice bs).mayReverse = bs.any (·.body.mayReverse) := by
  have hmany (bs : List RuleGroup) :
      (Regex.alternatives (bs.map regex)).mayReverse = bs.any (·.body.mayReverse) := by
    induction bs with
    | nil => rfl
    | cons b bs ih =>
      rw [List.any_cons, ← ih]
      rfl
  unfold choice
  split
  · simp [regex, Regex.mayReverse]
  · exact hmany _

/-- A search for one of several groups passes over no position. -/
theorem lead?_choice {bs : List RuleGroup} (hbs : bs.length ≠ 1) (ascii : Bool) :
    (choice bs).lead? ascii = none := by
  match bs with
  | [] => rfl
  | [b] => exact absurd rfl hbs
  | b :: b' :: bs => rfl

end RuleGroup

/-! ## The patterns of rules, read alone -/

namespace Rule

/-- The constructs of a rule's pattern, read alone. -/
def constructs (flags : String) (r : Rule) : List Construct :=
  match Pattern.modes r.pattern flags with
  | .ok modes => Regex.constructs Pattern.mostOpen modes r.pattern
  | .error _ => []

/-- The text that a rule's pattern, read alone, takes at a position where it matches. -/
def takes? (flags : String) (r : Rule) (s : Text) (pos : Nat) : Option Text :=
  match Pattern.compile r.pattern flags with
  | .ok p => (p.program.regex.matchAt s.toArray pos).state?.map fun t => s.slice pos t.pos
  | .error _ => none

/-- Of some rules, in their order, a rule is the first whose pattern matches at a position, and it
takes the given text. -/
def FirstAt (flags : String) (rules : List Rule) (s : Text) (pos : Nat) (r : Rule)
    (taken : Text) : Prop :=
  r.takes? flags s pos = some taken ∧
    ∃ before after, rules = before ++ r :: after ∧ ∀ r' ∈ before, r'.takes? flags s pos = none

end Rule

/-- The group is that of a rule, and its expression is that of the rule's pattern, read alone. -/
structure RuleGroup.Stands (flags : String) (r : Rule) (b : RuleGroup) : Prop where
  name_eq : b.name = r.name
  alone : ∃ p, Pattern.compile r.pattern flags = .ok p ∧
    b.body = p.program.regex.raise b.number

namespace RuleGroup.Stands
variable {flags : String} {r : Rule} {b : RuleGroup}

/-- The group takes what the pattern takes alone. -/
theorem takes?_eq (h : Stands flags r b) (hpositive : 0 < b.number) (s : Text) (pos : Nat) :
    (b.regex.matchAt s.toArray pos).state?.map (fun t => s.slice pos t.pos) =
      r.takes? flags s pos := by
  obtain ⟨p, hp, hbody⟩ := h.alone
  have hpos := congrArg (Option.map (s.slice pos)) (pos_matchAt hbody hpositive s.toArray pos)
  rw [Option.map_map, Option.map_map] at hpos
  rw [Rule.takes?, hp]
  exact hpos

end RuleGroup.Stands

theorem RuleGroup.names_eq {flags : String} {rules : List Rule} {bs : List RuleGroup}
    (h : List.Forall₂ (Stands flags) rules bs) : bs.map (·.name) = rules.map (·.name) := by
  induction h with
  | nil => rfl
  | cons hr _ ih => rw [List.map_cons, List.map_cons, ih, hr.name_eq]

/-- The first group that matches is that of the first rule whose pattern matches. -/
theorem Rule.exists_firstAt {flags : String} {rules : List Rule} {bs : List RuleGroup}
    (h : List.Forall₂ (RuleGroup.Stands flags) rules bs) (hpositive : ∀ b ∈ bs, 0 < b.number)
    {s : Text} {pos : Nat} {t : MatchState}
    (ht : bs.findSome? (fun b => (b.regex.matchAt s.toArray pos).state?) = some t) :
    ∃ r : Rule, ∃ b ∈ bs, b.name = r.name ∧ b.regex.matchAt s.toArray pos = .matched t ∧
      r.FirstAt flags rules s pos (s.slice pos t.pos) := by
  induction h with
  | nil => cases ht
  | @cons r b rules bs hstands _ ih =>
    have htakes := hstands.takes?_eq (hpositive b List.mem_cons_self) s pos
    rw [List.findSome?_cons] at ht
    cases hb : (b.regex.matchAt s.toArray pos).state? with
    | some t' =>
      rw [hb] at ht htakes
      cases ht
      exact ⟨r, b, List.mem_cons_self, hstands.name_eq, Attempt.state?_eq_some_iff.mp hb,
        htakes.symm, [], rules, rfl, fun r' hr' => absurd hr' List.not_mem_nil⟩
    | none =>
      rw [hb] at ht htakes
      obtain ⟨r', b', hb', hname, hmatch, htaken, before, after, rfl, hbefore⟩ :=
        ih (fun b' hb' => hpositive b' (List.mem_cons_of_mem _ hb')) ht
      exact ⟨r', b', List.mem_cons_of_mem _ hb', hname, hmatch, htaken, r :: before, after, rfl,
        List.forall_mem_cons.mpr ⟨htakes.symm, hbefore⟩⟩

/-- Where no group matches, no rule's pattern does. -/
theorem Rule.takes?_eq_none {flags : String} {rules : List Rule} {bs : List RuleGroup}
    (h : List.Forall₂ (RuleGroup.Stands flags) rules bs) (hpositive : ∀ b ∈ bs, 0 < b.number)
    {s : Text} {pos : Nat}
    (hnone : bs.findSome? (fun b => (b.regex.matchAt s.toArray pos).state?) = none) :
    ∀ r ∈ rules, r.takes? flags s pos = none := by
  induction h with
  | nil => exact fun r hr => absurd hr List.not_mem_nil
  | @cons r b rules bs hstands _ ih =>
    rw [List.findSome?_eq_none_iff, List.forall_mem_cons] at hnone
    have htakes := hstands.takes?_eq (hpositive b List.mem_cons_self) s pos
    rw [hnone.1] at htakes
    exact List.forall_mem_cons.mpr ⟨htakes.symm,
      ih (fun b' hb' => hpositive b' (List.mem_cons_of_mem _ hb'))
        (List.findSome?_eq_none_iff.mpr hnone.2)⟩

/-! ## The alternations of a grammar -/

/-- The rules of an alternation. -/
def Alternation.rules (a : Alternation Node) : List Rule :=
  a.nodes.map Node.rule

/-- The pattern of an alternation is a choice between the groups of its rules, whose patterns are
read as they are alone. -/
structure Alternation.Offers (flags : String) (a : Alternation Node) (bs : List RuleGroup) :
    Prop where
  chooses : a.pattern.Chooses bs
  stands : List.Forall₂ (RuleGroup.Stands flags) a.rules bs
  compiles : Pattern.compile (Rule.alternation a.rules) flags = .ok a.pattern
  modes_eq : ∀ r ∈ a.rules, Pattern.modes r.pattern flags = .ok a.pattern.program.modes

/-- **The pattern of an alternation offers its rules as they are alone**, if white space is not
skipped and no pattern refers to a group by number. -/
theorem Alternation.Built.offers {flags : String} {level rules : List Rule} {a : Alternation Node}
    (h : a.Built flags level rules) (hx : 'x' ∉ flags.toList)
    (hnumber : ∀ r ∈ a.rules, ∀ c ∈ r.constructs flags, c.byNumber = false) :
    ∃ bs, a.Offers flags bs := by
  cases h with
  | @mk _ _ pattern nodes hrules _ _ halone hpattern hnodes =>
    replace hnodes : Alternation.rules ⟨pattern, nodes⟩ = rules := hnodes
    rw [hnodes] at hnumber
    obtain ⟨modes, hmodes, hcompile⟩ := Pattern.compile_eq_ok hpattern
    have hverbose : modes.verbose = false :=
      Bool.eq_false_iff.mpr fun hv => hx (Pattern.mem_flags_of_verbose hmodes hv)
    have hmodes_rule : ∀ r ∈ rules, Pattern.modes r.pattern flags = .ok modes := by
      intro r hr
      obtain ⟨p, hp⟩ := halone r hr
      obtain ⟨modes', hmodes', -⟩ := Pattern.compile_eq_ok hp
      exact Pattern.modes_unique hmodes hmodes' ▸ hmodes'
    have hleaves : ∀ r ∈ rules, r.Leaves modes (RuleGroup.Stands flags r) := by
      intro r hr
      obtain ⟨p, hp⟩ := halone r hr
      obtain ⟨modes', hmodes', hprogram⟩ := Pattern.compile_eq_ok hp
      obtain rfl := Pattern.modes_unique hmodes hmodes'
      obtain ⟨own, hown, hmade⟩ := Regex.halts_of_compile hprogram
      have hconstructs : ∀ c ∈ Regex.constructs Pattern.mostOpen modes r.pattern,
          c.byNumber = false := by
        have := hnumber r hr
        rwa [Rule.constructs, hmodes'] at this
      exact (Rule.Leaves.of_alone hverbose hown hconstructs).mono fun b hname hbody =>
        ⟨hname, p, hp, hmade.regex_eq ▸ hbody⟩
    obtain ⟨bs, hstands, hnames, hmem, hmodes_eq, hregex⟩ :=
      Regex.choice_of_compile hrules hleaves hcompile
    obtain ⟨hgroups, hnodup⟩ := Regex.groups_of_compile hcompile
    refine ⟨bs, ⟨hregex, hgroups, hnodup, hmem⟩, ?_, ?_, ?_⟩
    · rw [hnodes]
      exact hstands
    · rw [hnodes]
      exact hpattern
    · rw [hnodes, hmodes_eq]
      exact hmodes_rule

/-- A match is what the first rule whose pattern matches at a position takes there. If it has some
text, it is resolved to that rule, whose group is the match. -/
structure Alternation.Fires (flags : String) (a : Alternation Node) (s : Text) (pos : Nat)
    (r : Rule) (m : Match) : Prop where
  start_eq : m.start = pos
  first : r.FirstAt flags a.rules s pos m.full
  resolve_eq : m.full ≠ [] → resolve a.names m = .ok (r.name, ⟨r.name, m.full, 0⟩)

namespace Alternation.Offers
variable {flags : String} {a : Alternation Node} {bs : List RuleGroup}

theorem number_pos (h : a.Offers flags bs) : ∀ b ∈ bs, 0 < b.number :=
  fun _ hb => (List.mem_range'_1.mp (h.chooses.mem_groups hb List.mem_cons_self)).1

theorem names_eq (h : a.Offers flags bs) : bs.map (·.name) = a.names := by
  rw [RuleGroup.names_eq h.stands, rules, List.map_map]
  rfl

theorem findSome?_eq (h : a.Offers flags bs) (s : Subject) (pos : Nat) :
    (bs.findSome? fun b => (b.regex.matchAt s pos).state?) =
      (a.pattern.program.regex.matchAt s pos).state? := by
  rw [h.chooses.regex_eq, RuleGroup.state?_choice]

/-- Where the alternation matches, the first rule whose pattern matches takes the text. -/
theorem firstAt (h : a.Offers flags bs) {s : Text} {pos : Nat} {t : MatchState}
    (ht : a.pattern.program.regex.MatchesAt s.toArray pos t) :
    ∃ r : Rule, ∃ b ∈ bs, b.name = r.name ∧ b.regex.matchAt s.toArray pos = .matched t ∧
      r.FirstAt flags a.rules s pos (s.slice pos t.pos) := by
  refine Rule.exists_firstAt h.stands h.number_pos ?_
  rw [h.findSome?_eq]
  exact Regex.state?_matchAt.mpr ht

/-- Where the alternation does not match, no rule's pattern does. -/
theorem takes?_eq_none (h : a.Offers flags bs) {s : Text} {pos : Nat}
    (hnone : ∀ t, ¬ a.pattern.program.regex.MatchesAt s.toArray pos t) :
    ∀ r ∈ a.rules, r.takes? flags s pos = none := by
  refine Rule.takes?_eq_none h.stands h.number_pos ?_
  rw [h.findSome?_eq, Option.eq_none_iff_forall_not_mem]
  exact fun t ht => hnone t (Regex.state?_matchAt.mp ht)

/-- What a search finds is what the first rule takes at the position. -/
theorem fires_of_search (h : a.Offers flags bs) {s : Text} {pos : Nat} {m : Match}
    (hm : a.pattern.search s pos = .ok (some m)) :
    ∃ q r, pos ≤ q ∧ q ≤ s.length ∧ a.Fires flags s q r m := by
  obtain ⟨⟨start, st, ht, hupright, rfl⟩, start', stop, hle, hstop, hstart, -, -, hlength⟩ :=
    Pattern.search_eq_ok_some hm
  obtain rfl : start = start' := Int.ofNat.inj hstart
  obtain ⟨r, b, hb, hname, hmatch, hfirst⟩ := h.firstAt ht
  refine ⟨start, r, hle, by omega, rfl, hfirst, fun hfull => ?_⟩
  rw [← h.names_eq, h.chooses.resolve_toMatch hb hmatch hupright hfull, hname]

/-- Nothing stands in the way of a search if a single rule does not choose between ASCII and
Unicode, and nothing that captures or looks behind is repeated possessively. -/
theorem sound (h : a.Offers flags bs)
    (htype : ∀ r, a.rules = [r] → ∀ c ∈ r.constructs flags, c.choosesType = false)
    (hsteady : ∀ r ∈ a.rules, ∀ p, Pattern.compile r.pattern flags = .ok p →
      p.program.regex.mayReverse = false) : a.pattern.program.Sound := by
  obtain ⟨modes, -, hcompile⟩ := Pattern.compile_eq_ok h.compiles
  have hreverse : a.pattern.program.regex.mayReverse = false := by
    rw [h.chooses.regex_eq, RuleGroup.mayReverse_choice, List.any_eq_false]
    intro b hb
    obtain ⟨r, hr, hstands⟩ := RuleGroup.exists_rule h.stands b hb
    obtain ⟨p, hp, hbody⟩ := hstands.alone
    rw [hbody, Regex.mayReverse_raise, hsteady r hr p hp]
    exact Bool.false_ne_true
  refine ⟨Regex.Program.proper_of_compile hcompile hreverse, fun {s pos t test} ht htest => ?_⟩
  unfold Regex.Program.lead? at htest
  split at htest
  · cases htest
  by_cases hone : bs.length = 1
  · obtain ⟨b, rfl⟩ := List.length_eq_one_iff.mp hone
    obtain ⟨r, _, hstands, hnil, hrules⟩ := List.forall₂_cons_right_iff.mp h.stands
    rw [List.forall₂_nil_right_iff] at hnil
    subst hnil
    obtain ⟨p, hp, hbody⟩ := hstands.alone
    obtain ⟨modes', hmodes', hprogram⟩ := Pattern.compile_eq_ok hp
    have hmodes := h.modes_eq r (hrules ▸ List.mem_cons_self)
    rw [hmodes'] at hmodes
    cases hmodes
    have hconstructs := htype r hrules
    rw [Rule.constructs, hmodes'] at hconstructs
    have hin := (Regex.inType_of_compile hprogram hconstructs).1
    refine Regex.lead_of_matchAt ?_ htest ht
    rw [h.chooses.regex_eq]
    refine ⟨trivial, ?_⟩
    rw [hbody]
    exact hin.raise
  · rw [h.chooses.regex_eq, RuleGroup.lead?_choice hone] at htest
    cases htest

end Alternation.Offers

namespace Grammar

/-- **Tokens are leftmost, and the first rule wins.** This holds of every alternation of an accepted
grammar, if white space is not skipped and no pattern refers to a group by number. Where the
alternation matches, the first rule whose own pattern matches takes the text, and elsewhere no
rule's pattern matches. What a search finds is what that rule takes, and if it is some text it is
resolved to that rule. So a rule that takes nothing hides those behind it.

The search finds the least position at which some rule's pattern matches, and it finds none only
if there is none. For this a rule that stands alone must not choose between ASCII and Unicode inside
of its pattern, and no pattern may repeat possessively what captures or looks behind. -/
theorem leftmost_first {rules : RuleSet} {flags : String} {maxDepth : Int} {g : Grammar}
    (hcompile : compile rules flags maxDepth = .ok g) (hx : 'x' ∉ flags.toList)
    {a : Alternation Node} (ha : g.level.Reaches a)
    (hnumber : ∀ r ∈ a.rules, ∀ c ∈ r.constructs flags, c.byNumber = false) (s : Text) :
    (∀ q t, a.pattern.program.regex.MatchesAt s.toArray q t →
      ∃ r : Rule, r.FirstAt flags a.rules s q (s.slice q t.pos)) ∧
    (∀ q, (∀ t, ¬ a.pattern.program.regex.MatchesAt s.toArray q t) →
      ∀ r ∈ a.rules, r.takes? flags s q = none) ∧
    (∀ (pos : Nat) (m : Match), a.pattern.search s pos = .ok (some m) →
      ∃ q r, pos ≤ q ∧ q ≤ s.length ∧ a.Fires flags s q r m) ∧
    (s ≠ [] →
      (∀ r, a.rules = [r] → ∀ c ∈ r.constructs flags, c.choosesType = false) →
      (∀ r ∈ a.rules, ∀ p, Pattern.compile r.pattern flags = .ok p →
        p.program.regex.mayReverse = false) →
      ∀ pos : Nat, pos ≤ s.length →
        a.pattern.search s pos = .ok none ∧
            (∀ q, pos ≤ q → q ≤ s.length → ∀ r ∈ a.rules, r.takes? flags s q = none) ∨
          ∃ q r m, a.pattern.search s pos = .ok (some m) ∧ pos ≤ q ∧ q ≤ s.length ∧
            a.Fires flags s q r m ∧
            ∀ q', pos ≤ q' → q' < q → ∀ r ∈ a.rules, r.takes? flags s q' = none) := by
  obtain ⟨level, rules', hbuilt, -⟩ :=
    (built_of_compile hcompile).of_reaches (fun h => absurd h hx) ha
  obtain ⟨bs, h⟩ := hbuilt.offers hx hnumber
  refine ⟨fun q t ht => ?_, fun q => h.takes?_eq_none, fun pos m => h.fires_of_search,
    fun hs htype hsteady pos hpos => ?_⟩
  · obtain ⟨r, b, -, -, -, hfirst⟩ := h.firstAt ht
    exact ⟨r, hfirst⟩
  have hsound := h.sound htype hsteady
  have hleftmost := Pattern.leftmost_of_proper hsound.toProper hs
  have hnone {q : Nat} (hq : a.pattern.matchAt s q = none) :
      ∀ r ∈ a.rules, r.takes? flags s q = none := by
    refine h.takes?_eq_none fun t ht => ?_
    rw [Pattern.matchAt, hsound.matchAt?_eq_some_iff.mpr ht] at hq
    cases hq
  rcases hleftmost.search_cases hpos with ⟨hsearch, hall⟩ | ⟨q, m, hsearch, hm, hle, hq, hbefore⟩
  · exact .inl ⟨hsearch, fun q hle hq => hnone (hall q hle hq)⟩
  · obtain ⟨q', r, -, -, hfires⟩ := h.fires_of_search hsearch
    obtain rfl : q = q' := Int.ofNat.inj ((hleftmost.start_eq hm).symm.trans hfires.start_eq)
    exact .inr ⟨q, r, m, hsearch, hle, hq, hfires, fun q' hle' hlt => hnone (hbefore q' hle' hlt)⟩

/-- The pair in a text, for one, is found behind a blank, though a word could be found there too. -/
theorem leftmost_first_nested : ∃ g q r m, compile nested "ms" 16 = .ok g ∧
    g.pattern.search "b ab=1".toList 1 = .ok (some m) ∧ m.full = "ab=1".toList ∧
    g.level.Fires "ms" "b ab=1".toList q r m ∧
    ∀ q', 1 ≤ q' → q' < q → ∀ r ∈ g.level.rules, r.takes? "ms" "b ab=1".toList q' = none := by
  obtain ⟨g, hcompile, hrun⟩ := bind_eq_ok_iff.mp (show
    (compile nested "ms" 16 >>= fun g => .ok (g.pattern.search "b ab=1".toList 1,
        g.level.rules.all fun r => (r.constructs "ms").all (!·.byNumber),
        g.level.rules.length,
        g.level.rules.all fun r => match Pattern.compile r.pattern "ms" with
          | .ok p => !p.program.regex.mayReverse
          | .error _ => true)) =
      .ok (.ok (some ⟨"ab=1".toList, 2, [⟨"pair", "ab=1".toList, 0⟩]⟩), true, 2, true) by
        decide +kernel)
  simp only [Except.ok.injEq, Prod.mk.injEq, List.all_eq_true] at hrun
  obtain ⟨hsearch, hnumber, hlength, hsteady⟩ := hrun
  obtain ⟨-, -, -, hfind⟩ := leftmost_first hcompile (by decide) (.refl g.level)
    (fun r hr c hc => by simpa using hnumber r hr c hc) "b ab=1".toList
  have hall := hfind (by decide) (fun r hr => by rw [hr] at hlength; cases hlength)
    (fun r hr p hp => by simpa [hp] using hsteady r hr) 1 (by decide)
  rcases hall with ⟨hnone, -⟩ | ⟨q, r, m, hsome, -, -, hfires, hbefore⟩
  · cases hsearch.symm.trans hnone
  · obtain rfl : _ = m := Option.some.inj (Except.ok.inj (hsearch.symm.trans hsome))
    exact ⟨g, q, r, _, hcompile, hsearch, rfl, hfires, hbefore⟩

/-- A single rule. -/
def single (pattern : Text) (h : pattern ≠ []) : RuleSet :=
  .sequence [⟨"w", pattern, none, [], [], none, by decide, h⟩]

/-- Where a rule that stands alone chooses Unicode inside of its pattern, a search passes over what
its pattern takes. Where a pattern repeats possessively what looks behind, a search that meets its
match is refused. -/
theorem not_leftmost_first :
    (∃ g, compile (single "(?u:\\w)".toList (by decide)) "a" 16 = .ok g ∧
      (∀ r ∈ g.level.rules, ∀ c ∈ r.constructs "a", c.byNumber = false) ∧
      (∃ r ∈ g.level.rules, r.takes? "a" ['é'] 0 = some ['é']) ∧
      g.pattern.search ['é'] 0 = .ok none) ∧
    ∃ g, compile (single "a(?:(?<=bb))*+".toList (by decide)) "" 16 = .ok g ∧
      (∀ r ∈ g.level.rules, ∀ c ∈ r.constructs "", c.byNumber = false) ∧
      (∃ r ∈ g.level.rules, r.takes? "" "ba".toList 1 = some []) ∧
      g.pattern.search "ba".toList 0 = .error .reversedGroup := by
  constructor
  · obtain ⟨g, hcompile, hrun⟩ := bind_eq_ok_iff.mp (show
      (compile (single "(?u:\\w)".toList (by decide)) "a" 16 >>= fun g =>
        .ok (g.level.rules.all fun r => (r.constructs "a").all (!·.byNumber),
          g.level.rules.any fun r => r.takes? "a" ['é'] 0 == some ['é'],
          g.pattern.search ['é'] 0)) = .ok (true, true, .ok none) by decide +kernel)
    simp only [Except.ok.injEq, Prod.mk.injEq, List.all_eq_true, List.any_eq_true,
      beq_iff_eq] at hrun
    exact ⟨g, hcompile, by simpa using hrun.1, hrun.2⟩
  · obtain ⟨g, hcompile, hrun⟩ := bind_eq_ok_iff.mp (show
      (compile (single "a(?:(?<=bb))*+".toList (by decide)) "" 16 >>= fun g =>
        .ok (g.level.rules.all fun r => (r.constructs "").all (!·.byNumber),
          g.level.rules.any fun r => r.takes? "" "ba".toList 1 == some [],
          g.pattern.search "ba".toList 0)) = .ok (true, true, .error .reversedGroup) by
        decide +kernel)
    simp only [Except.ok.injEq, Prod.mk.injEq, List.all_eq_true, List.any_eq_true,
      beq_iff_eq] at hrun
    exact ⟨g, hcompile, by simpa using hrun.1, hrun.2⟩

end Grammar

end Highlighting
