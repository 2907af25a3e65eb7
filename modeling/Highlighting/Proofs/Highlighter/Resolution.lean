import Highlighting.Highlighter
import Highlighting.Proofs.Grammar.Steps
import Highlighting.Proofs.Grammar.Tokens

/-!
# Every match comes from one rule

In an accepted grammar, and in every alternation inside of it, a match with some text comes from
exactly one rule, and the group of this rule is the whole match. So what is rendered is what was
matched, and no search leads to a match that cannot be traced back to a rule. Where coloring a
text fails, a transform has failed, or a search was refused.

It takes that no pattern runs into the bracket behind it. Where one does, its group may end before
the match does, or take no part in it.

## Main definitions

* `Alternation.Reaches` -- an alternation lies inside of another.
* `Rule.Raises` -- the transform of a rule fails on some text.
* `Step.Arises` -- a step that coloring by some rules may take.
-/
namespace Highlighting

/-- An alternation lies inside of another: it is that of a handler, or of the siblings that a rule
names, of a node of the other or of one inside of it. -/
inductive Alternation.Reaches : Alternation Node → Alternation Node → Prop where
  | refl (a : Alternation Node) : Reaches a a
  | inside {a b c : Alternation Node} {n : Node} (hn : n ∈ a.nodes)
      (hb : n.handler = some b ∨ n.rematch = some b) (h : Reaches b c) : Reaches a c

/-- The transform of a rule fails on some text. -/
def Rule.Raises (r : Rule) (e : Failure) : Prop :=
  ∃ t chars, r.transform = some t ∧ t.apply chars = .error e

/-! ## A search at any position -/

/-- What a search finds comes from an attempt at its start. -/
theorem Pattern.finds_of_search {p : Pattern} {s : Text} {pos : Int} {m : Match}
    (h : p.search s pos = .ok (some m)) : p.Finds s m :=
  (search_eq_ok_some (search_toNat h)).1

/-! ## Where coloring fails -/

/-- A match with some text comes from exactly one rule of the alternation, and it is the text of
the rule's group. -/
theorem Alternation.Built.resolve_eq {flags : String} {level rules : List Rule}
    {a : Alternation Node} (h : a.Built flags level rules) (hclose : BracketsClose flags level)
    {s : Text} {m : Match} (hm : a.pattern.Finds s m) (hfull : m.full ≠ []) :
    ∃ name ∈ a.names, resolve a.names m = .ok (name, ⟨name, m.full, 0⟩) := by
  obtain ⟨bs, hbs, hnames⟩ := h.chooses hclose
  obtain ⟨b, hb, hresolve⟩ := hbs.resolve_eq hm hfull
  rw [hnames] at hresolve
  have hname : b.name ∈ a.names := by
    rw [Alternation.names, ← hnames]
    exact List.mem_map_of_mem hb
  exact ⟨b.name, hname, hresolve⟩

theorem Rule.raises_of_transformed {r : Rule} {chars : Text} {e : Failure}
    (h : r.transformed chars = .error e) : r.Raises e := by
  unfold transformed at h
  split at h
  · next t ht => exact ⟨t, chars, ht, h⟩
  · cases h

/-- A match that is not traced back to a rule is told with what it captured. -/
theorem exists_of_resolve_eq_error {names : List String} {m : Match} {e : Failure}
    (h : resolve names m = .error e) : ∃ e', e = .resolution e' := by
  unfold resolve at h
  split at h
  · cases h
  · cases h
    exact ⟨_, rfl⟩

/-- A step that coloring by the rules of a level may take: a token of one of the rules, a match that
comes from no rule where a pattern runs into the bracket behind it, or a search that is refused
because a group ends before it starts. -/
inductive Step.Arises (flags : String) (level : List Rule) (refused : Prop) : Step → Prop where
  | token {path : Path} {r : Rule} {start : Int} {chars : Text} (hr : InTree level r) :
      Arises flags level refused (.token path r start chars)
  | unresolved {path : Path} {e : ResolutionError} (h : ¬ BracketsClose flags level) :
      Arises flags level refused (.unresolved path (.resolution e))
  | refused {path : Path} (h : refused) : Arises flags level refused (.refused path .reversedGroup)

/-- What a handler's rules may do, those of the level around it may. -/
theorem Step.Arises.inside {flags : String} {level : List Rule} {r : Rule}
    {refused refused' : Prop} {step : Step} (h : step.Arises flags r.handler refused)
    (hr : r ∈ level) (hrefused : refused → refused') : step.Arises flags level refused' := by
  cases h with
  | token hs => exact .token (.inside hr hs)
  | unresolved h => exact .unresolved fun hclose => h (hclose.handler hr)
  | refused h => exact .refused (hrefused h)

theorem Step.Arises.mono {flags : String} {level : List Rule} {refused refused' : Prop}
    {step : Step} (h : step.Arises flags level refused) (hrefused : refused → refused') :
    step.Arises flags level refused' := by
  cases h with
  | token hr => exact .token hr
  | unresolved h => exact .unresolved h
  | refused h => exact .refused (hrefused h)

/-- A step of a token is its own, or one inside of it. -/
theorem Node.eq_or_mem_of_mem_steps {n : Node} {path : Path} {start : Int} {chars escape : Text}
    {step : Step} (h : step ∈ n.steps path start chars escape) :
    step = .token path n.rule start chars ∨
      (∃ a path t e, n.handler = some a ∧ step ∈ a.steps path t e) ∨
        ∃ a path t e, n.rematch = some a ∧ step ∈ a.steps path t e := by
  obtain ⟨rule, handler, rematch⟩ := n
  unfold steps at h
  rcases List.mem_cons.mp h with rfl | h
  · exact .inl rfl
  cases hchars : rule.transformed chars with
  | error e =>
    rw [hchars] at h
    exact absurd h List.not_mem_nil
  | ok chars' =>
    rw [hchars] at h
    rcases List.mem_append.mp h with h | h
    · cases handler with
      | none => exact absurd h List.not_mem_nil
      | some a => exact .inr (.inl ⟨a, _, _, _, rfl, h⟩)
    · cases hcolored : recolor handler chars' (restored rule.escape escape) with
      | error e =>
        rw [hcolored] at h
        exact absurd h List.not_mem_nil
      | ok chars'' =>
        rw [hcolored] at h
        cases rematch with
        | none => exact absurd h List.not_mem_nil
        | some a => exact .inr (.inr ⟨a, _, _, _, rfl, h⟩)

theorem mem_steps_of_mem_stepsNamed {nodes : List Node} {name : String} {path : Path} {start : Int}
    {chars escape : Text} {step : Step} (h : step ∈ stepsNamed nodes name path start chars escape) :
    ∃ n ∈ nodes, step ∈ n.steps path start chars escape := by
  induction nodes with
  | nil => exact absurd h List.not_mem_nil
  | cons n nodes ih =>
    unfold stepsNamed at h
    split at h
    · exact ⟨n, List.mem_cons_self, h⟩
    · obtain ⟨n', hn', hstep⟩ := ih h
      exact ⟨n', List.mem_cons_of_mem _ hn', hstep⟩

/-- **Coloring by rules takes steps of the rules**, and every match comes from one of them, unless a
pattern runs into the bracket behind it. -/
theorem Alternation.Built.arises_of_mem_steps {flags : String} {level rules : List Rule}
    {a : Alternation Node} (h : a.Built flags level rules) {path : Path} {text escape : Text}
    {step : Step} (hstep : step ∈ a.steps path text escape) :
    step.Arises flags level a.MayReverse := by
  induction h generalizing path text escape with
  | @mk level rules pattern nodes hrules hlevel hnodup halone hpattern hnodes hhandler hrematch
      hhandlers hrematches ihhandlers ihrematches =>
    have hbuilt : Built flags level rules ⟨pattern, nodes⟩ :=
      .mk hrules hlevel hnodup halone hpattern hnodes hhandler hrematch hhandlers hrematches
    have hinside {n : Node} (hn : n ∈ nodes) {path : Path} {start : Int} {chars escape : Text}
        (hstep : step ∈ n.steps path start chars escape) :
        step.Arises flags level (MayReverse ⟨pattern, nodes⟩) := by
      have hin : n.rule ∈ level := hlevel _ (hnodes ▸ List.mem_map_of_mem hn)
      rcases Node.eq_or_mem_of_mem_steps hstep with rfl | ⟨b, path, t, e, hb, hmem⟩ |
        ⟨b, path, t, e, hb, hmem⟩
      · exact .token (.here hin)
      · exact (ihhandlers n hn b hb hmem).inside hin (.inside hn (.inl hb))
      · exact (ihrematches n hn b hb hmem).mono (.inside hn (.inr hb))
    unfold steps at hstep
    rcases List.mem_append.mp hstep with hstep | hstep
    · obtain ⟨m, hm, hstep⟩ := List.mem_flatMap.mp hstep
      by_cases hfull : m.full = []
      · rw [if_pos hfull] at hstep
        exact absurd hstep List.not_mem_nil
      · rw [if_neg hfull] at hstep
        cases hresolve : resolve (nodes.map Node.name) m with
        | error e =>
          rw [hresolve] at hstep
          obtain rfl := List.mem_singleton.mp hstep
          obtain ⟨e, rfl⟩ := exists_of_resolve_eq_error hresolve
          refine .unresolved fun hclose => ?_
          obtain ⟨name, -, hok⟩ := hbuilt.resolve_eq hclose (Pattern.finds_of_mem_scan hm) hfull
          cases hok.symm.trans hresolve
        | ok found =>
          rw [hresolve] at hstep
          obtain ⟨n, hn, hstep⟩ := mem_steps_of_mem_stepsNamed hstep
          exact hinside hn hstep
    · obtain ⟨e, he, rfl⟩ := List.mem_map.mp hstep
      obtain ⟨rfl, hreverse⟩ := Pattern.scan_failure hpattern (Option.mem_toList.mp he)
      exact .refused (.here hreverse)

/-- **Coloring a text fails only where a transform does**, or where a search is refused because a
group ends before it starts. -/
theorem Alternation.Built.substitute_eq_error {flags : String} {level rules : List Rule}
    {a : Alternation Node} (h : a.Built flags level rules) (hclose : BracketsClose flags level)
    {text escape : Text} {e : Failure} (he : a.substitute text escape = .error e) :
    e = .reversedGroup ∨ ∃ r, InTree level r ∧ r.Raises e := by
  obtain ⟨before, step, after, hsteps, hfail, -⟩ :=
    (a.failsFirst_substitute [] text escape).eq_error_iff.mp he
  have hstep : step ∈ a.steps [] text escape :=
    hsteps ▸ List.mem_append_right before List.mem_cons_self
  cases h.arises_of_mem_steps hstep with
  | token hr => exact .inr ⟨_, hr, Rule.raises_of_transformed (Step.failure?_token.mp hfail)⟩
  | unresolved h => exact absurd hclose h
  | refused =>
    cases hfail
    exact .inl rfl

/-! ## All alternations of a grammar -/

/-- Every alternation inside of one that is built from rules is built from rules of its own. -/
theorem Alternation.Built.of_reaches {flags : String} {level rules : List Rule}
    {a b : Alternation Node} (h : a.Built flags level rules) (hclose : BracketsClose flags level)
    (hreaches : a.Reaches b) :
    ∃ level' rules', b.Built flags level' rules' ∧ BracketsClose flags level' := by
  induction hreaches generalizing level rules with
  | refl a => exact ⟨level, rules, h, hclose⟩
  | inside hn hb _ ih =>
    cases h with
    | mk _ hlevel _ _ _ hnodes _ _ hhandlers hrematches =>
      rcases hb with hb | hb
      · exact ih (hhandlers _ hn _ hb)
          (hclose.handler (hlevel _ (hnodes ▸ List.mem_map_of_mem hn)))
      · exact ih (hrematches _ hn _ hb) hclose

/-- What is resolved is the only group of a rule that took part. -/
theorem filter_eq_of_resolve {names : List String} {m : Match} {name : String} {c : Capture}
    (h : resolve names m = .ok (name, c)) :
    m.groups.filter (fun c => names.contains c.name) = [c] := by
  unfold resolve at h
  split at h
  · next c' hc =>
    cases h
    exact hc
  · cases h

namespace Highlighter

theorem result_colorize (h : Highlighter) (text : Text) (base : Option Text) :
    (h.colorize text base).result =
      colorSegments h.grammar (Segments.split text (base.getD h.base)).segments := by
  unfold colorize
  dsimp only
  cases colorSegments h.grammar (Segments.split text (base.getD h.base)).segments <;> rfl

theorem colorSegments_eq_error {g : Grammar} {segments : List Segment} {e : Failure}
    (h : colorSegments g segments = .error e) : ∃ t escape, g.substitute t escape = .error e := by
  rcases bind_eq_error_iff.mp h with h | ⟨parts, -, h⟩
  · obtain ⟨s, -, hs⟩ := exists_of_mapM_eq_error h
    unfold colorSegment at hs
    split at hs
    · cases hs
    · exact ⟨_, _, hs⟩
  · cases h

/-- **A match with some text comes from exactly one rule**, whatever the alternation of an accepted
grammar, the subject and the position. The group of this rule is the match, so nothing of it is
lost where the group is rendered. A text whose coloring ends in a match that comes from no rule
has met a transform that says so. -/
theorem matches_resolve {rules : RuleSet} {flags : String} {maxDepth : Int} {g : Grammar}
    (hcompile : Grammar.compile rules flags maxDepth = .ok g)
    (hclose : BracketsClose flags rules.rules) :
    (∀ a, g.level.Reaches a → ∀ (s : Text) (pos : Int) (m : Match),
      a.pattern.search s pos = .ok (some m) → m.full ≠ [] →
        ∃ name ∈ a.names,
          m.groups.filter (fun c => a.names.contains c.name) = [⟨name, m.full, 0⟩] ∧
          resolve a.names m = .ok (name, ⟨name, m.full, 0⟩) ∧
          ∀ escape, a.apply m escape = renderNamed a.nodes name m.full escape) ∧
    (∀ (text escape : Text) (e : ResolutionError), g.substitute text escape = .error (.resolution e) →
      ∃ r, InTree rules.rules r ∧ r.Raises (.resolution e)) ∧
    ∀ (own text : Text) (given : Option Text) (e : ResolutionError),
      ((Highlighter.mk g own).colorize text given).result = .error (.resolution e) →
        ∃ r, InTree rules.rules r ∧ r.Raises (.resolution e) := by
  have hbuilt := Grammar.built_of_compile hcompile
  have hsubstitute (text escape : Text) (e : ResolutionError)
      (h : g.substitute text escape = .error (.resolution e)) :
      ∃ r, InTree rules.rules r ∧ r.Raises (.resolution e) := by
    rcases hbuilt.substitute_eq_error hclose h with h | h
    · cases h
    · exact h
  refine ⟨?_, hsubstitute, ?_⟩
  · intro a ha s pos m hm hfull
    obtain ⟨level, rules', hbuilt', hclose'⟩ := hbuilt.of_reaches hclose ha
    obtain ⟨name, hname, hresolve⟩ := hbuilt'.resolve_eq hclose' (Pattern.finds_of_search hm) hfull
    refine ⟨name, hname, filter_eq_of_resolve hresolve, hresolve, ?_⟩
    intro escape
    rw [Alternation.apply, if_neg hfull, hresolve]
    rfl
  · intro own text given e h
    rw [result_colorize] at h
    obtain ⟨t, escape, hfail⟩ := colorSegments_eq_error h
    exact hsubstitute t escape e hfail

/-- The pair in a text, for one, comes from the rule for pairs. -/
theorem matches_resolve_nested : ∃ g m, Grammar.compile nested "ms" 16 = .ok g ∧
    g.pattern.search "b ab=1".toList 1 = .ok (some m) ∧ m.full = "ab=1".toList ∧
    (∃ name ∈ g.names, resolve g.names m = .ok (name, ⟨name, m.full, 0⟩)) ∧
    ∀ e, g.substitute "b ab=1".toList resetEscape ≠ .error (.resolution e) := by
  obtain ⟨g, hcompile, hrun⟩ := bind_eq_ok_iff.mp (show
    (Grammar.compile nested "ms" 16 >>= fun g => g.pattern.search "b ab=1".toList 1) =
      .ok (some ⟨"ab=1".toList, 2, [⟨"pair", "ab=1".toList, 0⟩]⟩) by decide +kernel)
  have hclose : BracketsClose "ms" nested.rules := fun hx => absurd hx (by decide)
  have htransform : ∀ r, InTree nested.rules r → r.transform = none :=
    forall_inTree_cons rfl forall_inTree_nil (forall_inTree_cons rfl (forall_inTree_cons rfl
      (forall_inTree_cons rfl forall_inTree_nil forall_inTree_nil) forall_inTree_nil)
      forall_inTree_nil)
  obtain ⟨hmatches, hsubstitute, -⟩ := matches_resolve hcompile hclose
  refine ⟨g, _, hcompile, hrun, rfl, ?_, ?_⟩
  · obtain ⟨name, hname, -, hresolve, -⟩ := hmatches g.level (.refl _) _ _ _ hrun (by decide)
    exact ⟨name, hname, hresolve⟩
  · intro e he
    obtain ⟨r, hr, t, chars, ht, -⟩ := hsubstitute _ _ e he
    rw [htransform r hr] at ht
    cases ht

/-- Where a pattern runs into the bracket behind it, a match with some text comes from no rule. -/
theorem not_resolved_behind_comment : ∃ g m e, Grammar.compile escaping "x" 16 = .ok g ∧
    (∀ r, InTree escaping.rules r → r.transform = none) ∧
    g.pattern.search ['z'] 0 = .ok (some m) ∧ m.full = ['z'] ∧
    resolve g.names m = .error (.resolution e) ∧
    g.substitute ['z'] [] = .error (.resolution e) := by
  obtain ⟨g, hcompile, hrun⟩ := bind_eq_ok_iff.mp (show
    (Grammar.compile escaping "x" 16 >>= fun g =>
      .ok (g.pattern.search ['z'] 0, g.names, g.substitute ['z'] [])) =
      .ok (.ok (some ⟨['z'], 0, []⟩), ["a", "b"],
        .error (.resolution (.ambiguous ['z'] 0 [] []))) by decide +kernel)
  obtain ⟨hsearch, hnames, hsubstitute⟩ : _ ∧ _ ∧ _ := by
    simpa only [Except.ok.injEq, Prod.mk.injEq] using hrun
  have htransform : ∀ r, InTree escaping.rules r → r.transform = none :=
    forall_inTree_cons rfl forall_inTree_nil
      (forall_inTree_cons rfl forall_inTree_nil forall_inTree_nil)
  refine ⟨g, _, _, hcompile, htransform, hsearch, rfl, ?_, hsubstitute⟩
  rw [hnames]
  rfl

end Highlighter

end Highlighting
