import Highlighting.Grammar.Stock
import Highlighting.Proofs.Grammar.Tokens

/-!
# Styles do not matter to compilation

Whether rules are accepted, and which patterns they are compiled to, does not depend on their
styles: without these, they are compiled to the same alternations without styles. So the rules
that a configuration describes are accepted with every palette if they are with one.

## Main definitions

* `Rule.unstyled`, `Node.unstyled`, `Alternation.unstyled` -- rules and nodes without styles.
* `Alternation.reverses` -- whether a search may be refused, computed.
-/
namespace Highlighting

/-! ## Leaving styles out -/

mutual

/-- The rule without its style and those of its handler. -/
def Rule.unstyled : Rule → Rule
  | ⟨name, pattern, _, handler, rematch, transform, hname, hpattern⟩ =>
    ⟨name, pattern, none, unstyledRules handler, rematch, transform, hname, hpattern⟩

/-- The rules without styles. -/
def unstyledRules : List Rule → List Rule
  | [] => []
  | r :: rest => r.unstyled :: unstyledRules rest

end

mutual

/-- The node without the styles of its rules. -/
def Node.unstyled : Node → Node
  | .mk rule handler rematch => .mk rule.unstyled (unstyledInside handler) (unstyledInside rematch)

/-- What is inside of tokens, without the styles of its rules. -/
def unstyledInside : Option (Alternation Node) → Option (Alternation Node)
  | none => none
  | some a => some a.unstyled

/-- The alternation without the styles of its rules. -/
def Alternation.unstyled : Alternation Node → Alternation Node
  | ⟨pattern, nodes⟩ => ⟨pattern, unstyledNodes nodes⟩

/-- The nodes without the styles of their rules. -/
def unstyledNodes : List Node → List Node
  | [] => []
  | n :: rest => n.unstyled :: unstyledNodes rest

end

theorem unstyledRules_eq_map (rules : List Rule) :
    unstyledRules rules = rules.map Rule.unstyled := by
  induction rules with
  | nil => rfl
  | cons r rest ih => rw [unstyledRules, ih, List.map_cons]

theorem unstyledNodes_eq_map (nodes : List Node) :
    unstyledNodes nodes = nodes.map Node.unstyled := by
  induction nodes with
  | nil => rfl
  | cons n rest ih => rw [unstyledNodes, ih, List.map_cons]

theorem unstyledInside_eq_map (o : Option (Alternation Node)) :
    unstyledInside o = o.map Alternation.unstyled := by
  cases o <;> rfl

section Fields
variable (r : Rule)

@[simp] theorem Rule.name_unstyled : r.unstyled.name = r.name := by
  cases r
  rfl

@[simp] theorem Rule.pattern_unstyled : r.unstyled.pattern = r.pattern := by
  cases r
  rfl

@[simp] theorem Rule.rematch_unstyled : r.unstyled.rematch = r.rematch := by
  cases r
  rfl

@[simp] theorem Rule.group_unstyled : r.unstyled.group = r.group := by
  cases r
  rfl

@[simp] theorem Node.name_unstyled (n : Node) : n.unstyled.name = n.name := by
  cases n with
  | mk r _ _ => exact r.name_unstyled

end Fields

/-! ## Checks -/

namespace Grammar

theorem compileAlone_unstyled (flags : String) (r : Rule) :
    compileAlone flags r.unstyled = compileAlone flags r := by
  unfold compileAlone
  rw [r.pattern_unstyled, r.name_unstyled]

theorem checkGroups_unstyled (flags : String) (rules : List Rule)
    (owners : List (String × String)) :
    checkGroups flags (rules.map Rule.unstyled) owners = checkGroups flags rules owners := by
  induction rules generalizing owners with
  | nil => rfl
  | cons r rest ih =>
    rw [List.map_cons]
    unfold checkGroups
    simp only [compileAlone_unstyled, Rule.name_unstyled, ih]

theorem names_unstyled (rules : List Rule) :
    (rules.map Rule.unstyled).map (·.name) = rules.map (·.name) := by
  rw [List.map_map]
  exact List.map_congr_left fun r _ => r.name_unstyled

theorem alternation_unstyled (rules : List Rule) :
    Rule.alternation (rules.map Rule.unstyled) = Rule.alternation rules := by
  unfold Rule.alternation
  rw [List.map_map]
  exact congrArg _ (List.map_congr_left fun r _ => r.group_unstyled)

theorem find?_unstyled (rules : List Rule) (name : String) :
    (rules.map Rule.unstyled).find? (·.name == name) =
      (rules.find? (·.name == name)).map Rule.unstyled := by
  simp only [List.find?_map, Function.comp_def, Rule.name_unstyled]

theorem checkRematch_unstyled (rules : List Rule) :
    checkRematch (rules.map Rule.unstyled) = checkRematch rules := by
  have htargets : targetsOf (rules.map Rule.unstyled) = targetsOf rules := by
    funext name
    unfold targetsOf
    rw [find?_unstyled]
    cases rules.find? (·.name == name) with
    | none => rfl
    | some r => exact r.rematch_unstyled
  have hunknown (names : List String) :
      unknownTarget? names (rules.map Rule.unstyled) = unknownTarget? names rules := by
    simp [unknownTarget?, List.findSome?_map, Function.comp_def]
  unfold checkRematch
  simp only [names_unstyled, htargets, hunknown]

theorem rematchPattern_unstyled (flags : String) (rules : List Rule) (r : Rule) :
    rematchPattern flags (rules.map Rule.unstyled) r.unstyled = rematchPattern flags rules r := by
  have hsiblings : (r.rematch.filterMap fun t =>
      (rules.map Rule.unstyled).find? (·.name == t)) =
        (r.rematch.filterMap fun t => rules.find? (·.name == t)).map Rule.unstyled := by
    simp only [find?_unstyled, List.map_filterMap]
  unfold rematchPattern
  simp only [Rule.rematch_unstyled, hsiblings, names_unstyled, alternation_unstyled]

/-! ## Levels -/

/-- A part without styles. -/
def Part.unstyled (p : Part) : Part :=
  ⟨p.rule.unstyled, p.handler.map Alternation.unstyled, p.rematch⟩

theorem nodes_unstyled (parts : List Part) (rounds : Nat) :
    nodes (parts.map Part.unstyled) rounds = (nodes parts rounds).map Node.unstyled := by
  induction rounds with
  | zero => rfl
  | succ n ih =>
    rw [nodes, nodes, ih, List.map_map, List.map_map]
    refine List.map_congr_left fun p _ => ?_
    have hsiblings : (p.rule.rematch.filterMap fun t =>
        ((nodes parts n).map Node.unstyled).find? (·.name == t)) =
          (p.rule.rematch.filterMap fun t => (nodes parts n).find? (·.name == t)).map
            Node.unstyled := by
      simp only [List.find?_map, Function.comp_def, Node.name_unstyled, List.map_filterMap]
    simp only [Function.comp_apply, Part.node, Part.unstyled, Node.unstyled, unstyledInside_eq_map,
      Rule.rematch_unstyled, hsiblings, Option.map_map, Function.comp_def, Alternation.unstyled,
      unstyledNodes_eq_map]

theorem mapM_rematchPattern_unstyled (flags : String) (level rules : List Rule) :
    (rules.map Rule.unstyled).mapM (rematchPattern flags (level.map Rule.unstyled)) =
      rules.mapM (rematchPattern flags level) := by
  induction rules with
  | nil => rfl
  | cons r rest ih =>
    rw [List.map_cons, List.mapM_cons, List.mapM_cons, ih, rematchPattern_unstyled]

theorem parts_unstyled (rules : List Rule) (handlers : List (Option (Alternation Node)))
    (rematches : List (Option Pattern)) :
    (((rules.map Rule.unstyled).zip ((handlers.map (Option.map Alternation.unstyled)).zip
      rematches)).map fun (r, h, m) => (⟨r, h, m⟩ : Part)) =
      ((rules.zip (handlers.zip rematches)).map fun (r, h, m) => (⟨r, h, m⟩ : Part)).map
        Part.unstyled := by
  simp [List.zip_map_left, List.zip_map_right, Part.unstyled]

theorem compileLevel_unstyled {flags : String} {maxDepth depth : Int} {rules : List Rule}
    (handlers : Unit → Except Failure (List (Option (Alternation Node))))
    {handlers' : Unit → Except Failure (List (Option (Alternation Node)))}
    (h : handlers' () = (handlers ()).map (List.map (Option.map Alternation.unstyled))) :
    compileLevel flags maxDepth depth (rules.map Rule.unstyled) handlers' =
      (compileLevel flags maxDepth depth rules handlers).map Alternation.unstyled := by
  unfold compileLevel
  rw [names_unstyled]
  cases checkDistinct (rules.map (·.name)) with
  | error e => rfl
  | ok _ =>
    cases rules with
    | nil => rfl
    | cons first rest =>
      rw [List.map_cons]
      dsimp only
      rw [Rule.name_unstyled]
      by_cases hdepth : maxDepth < depth
      · rw [if_pos hdepth, if_pos hdepth]
        rfl
      · rw [if_neg hdepth, if_neg hdepth, ← List.map_cons, checkGroups_unstyled,
          alternation_unstyled, checkRematch_unstyled, h, mapM_rematchPattern_unstyled]
        cases checkGroups flags (first :: rest) [] with
        | error e => rfl
        | ok _ =>
        cases Pattern.compile (Rule.alternation (first :: rest)) flags with
        | error e => rfl
        | ok pattern =>
        cases checkRematch (first :: rest) with
        | error e => rfl
        | ok _ =>
        cases handlers () with
        | error e => rfl
        | ok hs =>
        cases List.mapM (rematchPattern flags (first :: rest)) (first :: rest) with
        | error e => rfl
        | ok ms =>
        change Except.ok _ = Except.ok _
        rw [parts_unstyled, nodes_unstyled, List.length_map, Alternation.unstyled,
          unstyledNodes_eq_map]

mutual

theorem compileHandler_unstyled (flags : String) (maxDepth depth : Int) : ∀ r : Rule,
    compileHandler flags maxDepth depth r.unstyled =
      (compileHandler flags maxDepth depth r).map (Option.map Alternation.unstyled)
  | ⟨_, _, _, handler, _, _, _, _⟩ => by
    have hempty : (unstyledRules handler).isEmpty = handler.isEmpty := by
      rw [unstyledRules_eq_map, List.isEmpty_map]
    rw [Rule.unstyled, compileHandler, compileHandler, hempty]
    split
    · rfl
    · rw [unstyledRules_eq_map, compileLevel_unstyled
        (fun _ => compileHandlers flags maxDepth (depth + 1) handler)
        (compileHandlers_unstyled flags maxDepth (depth + 1) handler)]
      cases compileLevel flags maxDepth (depth + 1) handler fun _ =>
        compileHandlers flags maxDepth (depth + 1) handler <;> rfl

theorem compileHandlers_unstyled (flags : String) (maxDepth depth : Int) : ∀ rules : List Rule,
    compileHandlers flags maxDepth depth (rules.map Rule.unstyled) =
      (compileHandlers flags maxDepth depth rules).map (List.map (Option.map Alternation.unstyled))
  | [] => rfl
  | r :: rest => by
    rw [List.map_cons, compileHandlers, compileHandlers,
      compileHandler_unstyled flags maxDepth depth r,
      compileHandlers_unstyled flags maxDepth depth rest]
    cases compileHandler flags maxDepth depth r with
    | error e => rfl
    | ok h => cases compileHandlers flags maxDepth depth rest <;> rfl

end

/-- **Compilation does not depend on styles.** -/
theorem compile_unstyled (rules : List Rule) (flags : String) (maxDepth : Int) :
    compile (.sequence (rules.map Rule.unstyled)) flags maxDepth =
      (compile (.sequence rules) flags maxDepth).map fun g =>
        { g with level := g.level.unstyled } := by
  unfold compile
  dsimp only [RuleSet.misregistered?, RuleSet.rules]
  rw [compileLevel_unstyled (fun _ => compileHandlers flags maxDepth 0 rules)
    (compileHandlers_unstyled flags maxDepth 0 rules)]
  cases compileLevel flags maxDepth 0 rules fun _ => compileHandlers flags maxDepth 0 rules <;> rfl

end Grammar

/-! ## Searches that may be refused -/

mutual

/-- A search for a pattern of the alternation, or of one inside of its tokens, may be refused. -/
def Alternation.reverses : Alternation Node → Bool
  | ⟨pattern, nodes⟩ => pattern.program.regex.mayReverse || nodesReverse nodes

/-- A search inside of a token of one of the nodes may be refused. -/
def nodesReverse : List Node → Bool
  | [] => false
  | n :: rest => n.reverses || nodesReverse rest

/-- A search inside of a token of the node may be refused. -/
def Node.reverses : Node → Bool
  | .mk _ handler rematch => insideReverses handler || insideReverses rematch

/-- A search inside of a token may be refused. -/
def insideReverses : Option (Alternation Node) → Bool
  | none => false
  | some a => a.reverses

end

theorem nodesReverse_of_mem {nodes : List Node} {n : Node} (hn : n ∈ nodes)
    (h : n.reverses = true) : nodesReverse nodes = true := by
  induction nodes with
  | nil => exact absurd hn List.not_mem_nil
  | cons n' rest ih =>
    rw [nodesReverse, Bool.or_eq_true]
    rcases List.mem_cons.mp hn with rfl | hn
    · exact .inl h
    · exact .inr (ih hn)

theorem Alternation.MayReverse.reverses_unstyled {a : Alternation Node} (h : a.MayReverse) :
    a.unstyled.reverses = true := by
  induction h with
  | @here a h =>
    cases a
    rw [unstyled, reverses, Bool.or_eq_true]
    exact .inl h
  | @inside a b n hn hb _ ih =>
    cases a
    rw [unstyled, reverses, Bool.or_eq_true, unstyledNodes_eq_map]
    refine .inr (nodesReverse_of_mem (List.mem_map_of_mem hn) ?_)
    obtain ⟨rule, handler, rematch⟩ := n
    rw [Node.unstyled, Node.reverses, Bool.or_eq_true]
    rcases hb with rfl | rfl
    · exact .inl ih
    · exact .inr ih

/-! ## Rules of a palette -/

namespace RuleConfig

mutual

/-- The entry has no style of its own and no transform, and it asks for at most one stage; and so
have the entries of its handler. -/
def isSimple : RuleConfig → Bool
  | ⟨_, _, style, _, handler, rematch, transform⟩ =>
    style.getD [] == [] && transform.isNone && (handler.isEmpty || rematch.isEmpty) &&
      areSimple handler

/-- The entries are all simple. -/
def areSimple : List RuleConfig → Bool
  | [] => true
  | c :: rest => c.isSimple && areSimple rest

end

theorem resolveStyle_eq_ok (lookup : PaletteLookup) (name : String) (style : Option Text)
    (color : Option String) : ∃ s, resolveStyle (some lookup) name style color = .ok s ∧
      (s = style ∨ ∃ color, s = lookup color) := by
  unfold resolveStyle
  split
  · exact ⟨style, rfl, .inl rfl⟩
  · exact ⟨_, rfl, .inr ⟨_, rfl⟩⟩

/-- Computations that agree up to `g` are followed by ones that agree up to `f`. -/
theorem map_bind_congr {α β γ δ : Type} {g : α → γ} {f : β → δ} {x y : Except Failure α}
    {k k' : α → Except Failure β} (h : x.map g = y.map g)
    (hk : ∀ a b, g a = g b → (k a).map f = (k' b).map f) : (x >>= k).map f = (y >>= k').map f := by
  cases x with
  | error e =>
    cases y with
    | error e' => exact congrArg Except.error (Except.error.inj h)
    | ok b => cases h
  | ok a =>
    cases y with
    | error e' => cases h
    | ok b => exact hk a b (Except.ok.inj h)

mutual

/-- With any palette, an entry describes the same rule up to styles. -/
theorem build_unstyled (lookup lookup' : PaletteLookup) : ∀ c : RuleConfig,
    (build (some lookup) c).map Rule.unstyled = (build (some lookup') c).map Rule.unstyled
  | ⟨name, pattern, style, color, handler, rematch, transform⟩ => by
    obtain ⟨s, hs, -⟩ := resolveStyle_eq_ok lookup name style color
    obtain ⟨s', hs', -⟩ := resolveStyle_eq_ok lookup' name style color
    rw [build, build, hs, hs']
    change Except.map _ (buildAll (some lookup) handler >>= _) =
      Except.map _ (buildAll (some lookup') handler >>= _)
    refine map_bind_congr (buildAll_unstyled lookup lookup' handler) fun rs rs' hrs => ?_
    rw [← unstyledRules_eq_map, ← unstyledRules_eq_map] at hrs
    cases pattern with
    | none => rfl
    | some pattern =>
      dsimp only
      unfold Rule.make
      dsimp only
      split
      · split
        · change Except.ok _ = Except.ok _
          rw [Rule.unstyled, Rule.unstyled, hrs]
        · rfl
      · rfl

/-- With any palette, entries describe the same rules up to styles. -/
theorem buildAll_unstyled (lookup lookup' : PaletteLookup) : ∀ cs : List RuleConfig,
    (buildAll (some lookup) cs).map (List.map Rule.unstyled) =
      (buildAll (some lookup') cs).map (List.map Rule.unstyled)
  | [] => rfl
  | c :: rest => by
    rw [buildAll, buildAll]
    refine map_bind_congr (build_unstyled lookup lookup' c) fun r r' hr =>
      map_bind_congr (buildAll_unstyled lookup lookup' rest) fun rs rs' hrs => ?_
    change Except.ok _ = Except.ok _
    rw [List.map_cons, List.map_cons, hr, hrs]

end

end RuleConfig

/-! ## Simple rules -/

/-- A rule has no transform, asks for at most one stage, and has its style from a palette, if it
has any. -/
structure Rule.Simple (lookup : PaletteLookup) (r : Rule) : Prop where
  transform : r.transform = none
  stages : r.handler = [] ∨ r.rematch = []
  escape : r.escape = [] ∨ ∃ color, r.escape = (lookup color).getD []

namespace RuleConfig

mutual

/-- Simple entries describe simple rules. -/
theorem simple_of_build (lookup : PaletteLookup) : ∀ (c : RuleConfig) (r : Rule),
    c.isSimple = true → build (some lookup) c = .ok r →
      r.Simple lookup ∧ ∀ s, InTree r.handler s → s.Simple lookup
  | ⟨name, pattern, style, color, handler, rematch, transform⟩, r, hsimple, hbuild => by
    simp only [isSimple, Bool.and_eq_true, beq_iff_eq, Option.isNone_iff_eq_none, Bool.or_eq_true,
      List.isEmpty_iff] at hsimple
    obtain ⟨⟨⟨hstyle, rfl⟩, hstages⟩, hhandler⟩ := hsimple
    obtain ⟨s, hs, hfound⟩ := resolveStyle_eq_ok lookup name style color
    rw [build, hs] at hbuild
    obtain ⟨_, heq, hbuild⟩ := bind_eq_ok_iff.mp hbuild
    cases heq
    obtain ⟨rs, hrs, hbuild⟩ := bind_eq_ok_iff.mp hbuild
    have hinside := simple_of_buildAll lookup handler rs hhandler hrs
    cases pattern with
    | none => cases hbuild
    | some pattern =>
      dsimp only at hbuild
      unfold Rule.make at hbuild
      dsimp only at hbuild
      split at hbuild
      · split at hbuild
        · cases hbuild
          refine ⟨⟨rfl, hstages.imp_left ?_, ?_⟩, hinside⟩
          · rintro rfl
            cases hrs
            rfl
          · rcases hfound with rfl | ⟨color, rfl⟩
            · exact .inl hstyle
            · exact .inr ⟨color, rfl⟩
        · cases hbuild
      · cases hbuild

/-- Simple entries describe simple rules. -/
theorem simple_of_buildAll (lookup : PaletteLookup) : ∀ (cs : List RuleConfig) (rs : List Rule),
    areSimple cs = true → buildAll (some lookup) cs = .ok rs →
      ∀ s, InTree rs s → s.Simple lookup
  | [], rs, _, hbuild => by
    cases hbuild
    exact forall_inTree_nil
  | c :: rest, rs, hsimple, hbuild => by
    rw [areSimple, Bool.and_eq_true] at hsimple
    rw [buildAll] at hbuild
    obtain ⟨r, hr, hbuild⟩ := bind_eq_ok_iff.mp hbuild
    obtain ⟨rs', hrs, hbuild⟩ := bind_eq_ok_iff.mp hbuild
    cases hbuild
    have hsimple' := simple_of_build lookup c r hsimple.1 hr
    exact forall_inTree_cons hsimple'.1 hsimple'.2 (simple_of_buildAll lookup rest rs' hsimple.2 hrs)

end

end RuleConfig

/-! ## The stock rules -/

namespace Stock

set_option maxRecDepth 100000 in
theorem grammar_unstyled :
    (do
      let rules ← RuleConfig.buildAll (some fun _ => none) config
      let g ← Grammar.compile (.sequence (rules.map Rule.unstyled)) Grammar.defaultFlags
        Grammar.defaultMaxDepth
      return g.level.reverses) = Except.ok false := by
  decide +kernel

/-- **The stock rules are accepted with any palette**, and no search for them is refused. -/
theorem compile_eq_ok (lookup : PaletteLookup) : ∃ rules g,
    RuleConfig.buildAll (some lookup) config = .ok rules ∧
      Grammar.compile (.sequence rules) Grammar.defaultFlags Grammar.defaultMaxDepth = .ok g ∧
      (∀ r, InTree rules r → r.Simple lookup) ∧ ¬ g.level.MayReverse := by
  obtain ⟨rules₀, hbuild₀, hrun⟩ := bind_eq_ok_iff.mp grammar_unstyled
  obtain ⟨g₀, hcompile₀, hreverses⟩ := bind_eq_ok_iff.mp hrun
  have hbuild := RuleConfig.buildAll_unstyled lookup (fun _ => none) config
  rw [hbuild₀] at hbuild
  cases hrules : RuleConfig.buildAll (some lookup) config with
  | error e =>
    rw [hrules] at hbuild
    cases hbuild
  | ok rules =>
    rw [hrules] at hbuild
    have hcompile := Grammar.compile_unstyled rules Grammar.defaultFlags Grammar.defaultMaxDepth
    rw [Except.ok.inj hbuild, hcompile₀] at hcompile
    cases hg : Grammar.compile (.sequence rules) Grammar.defaultFlags Grammar.defaultMaxDepth with
    | error e =>
      rw [hg] at hcompile
      cases hcompile
    | ok g =>
      rw [hg] at hcompile
      refine ⟨rules, g, rfl, hg,
        RuleConfig.simple_of_buildAll lookup config rules (by decide) hrules,
        fun hmay => ?_⟩
      have := hmay.reverses_unstyled
      rw [Except.ok.inj hcompile] at hreverses
      rw [Except.ok.inj hreverses] at this
      cases this

end Stock

end Highlighting
