import Highlighting.Grammar.Compile
import Highlighting.Proofs.Grammar.Circle
import Highlighting.Proofs.Grammar.Resolve
import Highlighting.Proofs.Pattern.Flags
import Highlighting.Proofs.Result

/-!
# What a grammar is built from

A compiled level has one node for each rule, in the order of the rules. The node of a rule leads
to the alternation of its handler, whose rules are a level of their own, and to that of the
siblings that it names, in the order in which it names them. These are nodes of the same level,
and each of them is complete: the siblings do not name each other in a circle, so they can be put
in an order in which each comes before all that name it, and a rule's node is complete after as
many rounds as there are rules up to it in that order.

## Main definitions

* `siblings` -- the rules that a rule names.
* `InTree` -- the rules of a level and of the handlers below it.
* `Alternation.Built` -- an alternation is built from rules of a level.
* `BracketsClose` -- no pattern of some rules runs into the bracket behind it.
-/
namespace Highlighting

/-- The rules of a level that a rule names, in the order in which it names them. -/
def siblings (level : List Rule) (r : Rule) : List Rule :=
  r.rematch.filterMap fun t => level.find? (·.name == t)

/-- A rule is one of some rules, or it is in the handler of such a rule. -/
inductive InTree : List Rule → Rule → Prop where
  | here {rules : List Rule} {r : Rule} (h : r ∈ rules) : InTree rules r
  | inside {rules : List Rule} {r s : Rule} (h : r ∈ rules) (hs : InTree r.handler s) :
      InTree rules s

theorem forall_inTree_nil {P : Rule → Prop} : ∀ r, InTree [] r → P r := by
  rintro r (h | ⟨h, -⟩) <;> exact absurd h List.not_mem_nil

/-- What holds of a rule, of its handler's and of the others of its level, holds of all. -/
theorem forall_inTree_cons {P : Rule → Prop} {r : Rule} {rules : List Rule} (hr : P r)
    (hhandler : ∀ s, InTree r.handler s → P s) (hrules : ∀ s, InTree rules s → P s) :
    ∀ s, InTree (r :: rules) s → P s := by
  rintro s (h | ⟨h, hs⟩)
  · rcases List.mem_cons.mp h with rfl | h
    · exact hr
    · exact hrules _ (.here h)
  · rcases List.mem_cons.mp h with rfl | h
    · exact hhandler _ hs
    · exact hrules _ (.inside h hs)

/-- An alternation is built from some of the rules of a level. -/
inductive Alternation.Built (flags : String) : (level rules : List Rule) → Alternation Node → Prop
    where
  | mk {level rules : List Rule} {pattern : Pattern} {nodes : List Node} (hrules : rules ≠ [])
      (hlevel : ∀ r ∈ rules, r ∈ level) (hnodup : (rules.map (·.name)).Nodup)
      (halone : ∀ r ∈ rules, ∃ p, Pattern.compile r.pattern flags = .ok p)
      (hpattern : Pattern.compile (Rule.alternation rules) flags = .ok pattern)
      (hnodes : nodes.map Node.rule = rules)
      (hhandler : ∀ n ∈ nodes, n.handler = none ↔ n.rule.handler = [])
      (hrematch : ∀ n ∈ nodes, n.rematch = none ↔ n.rule.rematch = [])
      (hhandlers : ∀ n ∈ nodes, ∀ a, n.handler = some a →
        Built flags n.rule.handler n.rule.handler a)
      (hrematches : ∀ n ∈ nodes, ∀ a, n.rematch = some a →
        Built flags level (siblings level n.rule) a) :
      Built flags level rules ⟨pattern, nodes⟩

/-- The alternation of a rule's handler is built from the handler's rules. -/
structure HandlerBuilt (flags : String) (r : Rule) (h : Option (Alternation Node)) : Prop where
  none_iff : h = none ↔ r.handler = []
  built : ∀ a, h = some a → a.Built flags r.handler r.handler

/-- The alternations that a node leads to are built from what its rule says. -/
structure Node.Built (flags : String) (level : List Rule) (n : Node) : Prop where
  handler : HandlerBuilt flags n.rule n.handler
  rematch_none_iff : n.rematch = none ↔ n.rule.rematch = []
  rematch : ∀ a, n.rematch = some a → a.Built flags level (siblings level n.rule)

namespace Grammar

/-! ## The checks of a level -/

theorem nodup_of_repeated? {seen names : List String} (h : repeated? seen names = none) :
    names.Nodup ∧ ∀ n ∈ names, n ∉ seen := by
  induction names generalizing seen with
  | nil => exact ⟨List.nodup_nil, fun n hn => absurd hn List.not_mem_nil⟩
  | cons n names ih =>
    unfold repeated? at h
    split at h
    · cases h
    · next hn =>
      obtain ⟨hnodup, hnew⟩ := ih h
      refine ⟨List.nodup_cons.mpr ⟨fun hmem => hnew n hmem List.mem_cons_self, hnodup⟩, ?_⟩
      intro m hm
      rcases List.mem_cons.mp hm with rfl | hm
      · exact hn
      · exact fun hseen => hnew m hm (List.mem_cons_of_mem _ hseen)

theorem nodup_of_checkDistinct {names : List String} (h : checkDistinct names = .ok ()) :
    names.Nodup := by
  unfold checkDistinct at h
  split at h
  · cases h
  · next hnone => exact (nodup_of_repeated? hnone).1

theorem compile_of_compileAlone {flags : String} {r : Rule} {p : Pattern}
    (h : compileAlone flags r = .ok p) : Pattern.compile r.pattern flags = .ok p := by
  unfold compileAlone at h
  split at h
  · next hp => rw [hp, h]
  · cases h
  · cases h

theorem compile_of_checkGroups {flags : String} {rules : List Rule}
    {owners : List (String × String)} (h : checkGroups flags rules owners = .ok ()) :
    ∀ r ∈ rules, ∃ p, Pattern.compile r.pattern flags = .ok p := by
  induction rules generalizing owners with
  | nil => exact fun r hr => absurd hr List.not_mem_nil
  | cons r rules ih =>
    unfold checkGroups at h
    obtain ⟨p, hp, h⟩ := bind_eq_ok_iff.mp h
    obtain ⟨owners', -, h⟩ := bind_eq_ok_iff.mp h
    intro s hs
    rcases List.mem_cons.mp hs with rfl | hs
    · exact ⟨p, compile_of_compileAlone hp⟩
    · exact ih h s hs

theorem unknownTarget?_eq_none_iff {rules : List Rule} :
    unknownTarget? (rules.map (·.name)) rules = none ↔
      ∀ r ∈ rules, ∀ t ∈ r.rematch, ∃ s ∈ rules, s.name = t := by
  simp [unknownTarget?, List.findSome?_eq_none_iff]

theorem exists_of_mem_targetsOf {rules : List Rule} {name t : String}
    (h : t ∈ targetsOf rules name) : ∃ r ∈ rules, r.name = name ∧ t ∈ r.rematch := by
  unfold targetsOf at h
  split at h
  · next r hr => exact ⟨r, List.mem_of_find?_eq_some hr, by simpa using List.find?_some hr, h⟩
  · exact absurd h List.not_mem_nil

/-- What a rule names is a rule of the level, if all that rules name is. -/
theorem mem_names_of_mem_targetsOf {rules : List Rule}
    (hknown : ∀ r ∈ rules, ∀ t ∈ r.rematch, ∃ s ∈ rules, s.name = t) {name t : String}
    (h : t ∈ targetsOf rules name) : t ∈ rules.map (·.name) := by
  obtain ⟨r, hr, -, ht⟩ := exists_of_mem_targetsOf h
  obtain ⟨s, hs, rfl⟩ := hknown r hr t ht
  exact List.mem_map_of_mem hs

/-- The siblings named for rules exist, and they can be put in an order in which each comes
before all that name it. -/
theorem ordered_of_checkRematch {rules : List Rule} (h : checkRematch rules = .ok ()) :
    ∃ order, Circle.Ordered (targetsOf rules) order ∧ (∀ r ∈ rules, r.name ∈ order) ∧
      order.length ≤ rules.length := by
  unfold checkRematch at h
  dsimp only at h
  split at h
  · cases h
  · next hknown =>
    split at h
    · cases h
    · next hcircle =>
      have hknown := unknownTarget?_eq_none_iff.mp hknown
      obtain ⟨order, hordered, hmem, hlength⟩ :=
        Circle.exists_ordered (fun _ _ _ => mem_names_of_mem_targetsOf hknown) hcircle
      exact ⟨order, hordered, fun r hr => hmem _ (List.mem_map_of_mem hr), by simpa using hlength⟩

/-! ## The nodes of a level -/

/-- Parts belong to rules of a level, in their order. -/
structure PartsBuilt (flags : String) (level rules : List Rule) (parts : List Part) : Prop where
  rules_eq : parts.map Part.rule = rules
  handler : ∀ p ∈ parts, HandlerBuilt flags p.rule p.handler
  rematch : ∀ p ∈ parts, rematchPattern flags level p.rule = .ok p.rematch

/-- The pattern of the siblings that a rule names. -/
theorem rematchPattern_eq_ok {flags : String} {rules : List Rule} {r : Rule} {o : Option Pattern}
    (h : rematchPattern flags rules r = .ok o) :
    (o = none ↔ r.rematch = []) ∧ ∀ p, o = some p →
      ((siblings rules r).map (·.name)).Nodup ∧
        Pattern.compile (Rule.alternation (siblings rules r)) flags = .ok p := by
  unfold rematchPattern at h
  split at h
  · next hnil =>
    cases h
    exact ⟨by simp [hnil], fun p hp => by cases hp⟩
  · next hne =>
    obtain ⟨_, hdistinct, h⟩ := bind_eq_ok_iff.mp h
    obtain ⟨p, hp, h⟩ := bind_eq_ok_iff.mp h
    cases h
    refine ⟨by simp [hne], fun q hq => ?_⟩
    cases hq
    exact ⟨nodup_of_checkDistinct hdistinct, hp⟩

theorem targetsOf_name {rules : List Rule} (hnodup : (rules.map (·.name)).Nodup) {r : Rule}
    (hr : r ∈ rules) : targetsOf rules r.name = r.rematch := by
  have hfind : rules.find? (·.name == r.name) = some r := by
    obtain ⟨s, hs⟩ := Option.isSome_iff_exists.mp
      (List.find?_isSome.mpr ⟨r, hr, by simp⟩ : (rules.find? (·.name == r.name)).isSome)
    have hname : s.name = r.name := by simpa using List.find?_some hs
    rw [hs, List.inj_on_of_nodup_map hnodup (List.mem_of_find?_eq_some hs) hr hname]
  rw [targetsOf, hfind]

theorem mem_of_mem_siblings {level : List Rule} {r s : Rule} (h : s ∈ siblings level r) :
    s ∈ level := by
  obtain ⟨t, -, ht⟩ := List.mem_filterMap.mp h
  exact List.mem_of_find?_eq_some ht

/-- There is no pattern of no rules. -/
theorem ne_nil_of_compile {rules : List Rule} {flags : String} {p : Pattern}
    (h : Pattern.compile (Rule.alternation rules) flags = .ok p) : rules ≠ [] := by
  rintro rfl
  cases h

theorem PartsBuilt.find?_nodes {flags : String} {rules : List Rule} {parts : List Part}
    (h : PartsBuilt flags rules rules parts) (k : Nat) (t : String) :
    ((nodes parts (k + 1)).find? (·.name == t)).map Node.rule = rules.find? (·.name == t) := by
  -- A node has the rule of its part, so the same part is found by its name.
  rw [← h.rules_eq, nodes, List.find?_map, List.find?_map, Option.map_map]
  rfl

/-- **A node is complete after as many rounds as its rule has siblings before it**, itself
included, in an order in which each sibling comes before all that name it. -/
theorem PartsBuilt.built {flags : String} {rules : List Rule} {parts : List Part}
    (h : PartsBuilt flags rules rules parts) (hnodup : (rules.map (·.name)).Nodup)
    (halone : ∀ r ∈ rules, ∃ p, Pattern.compile r.pattern flags = .ok p) {order : List String}
    (horder : Circle.Ordered (targetsOf rules) order) {k : Nat} (hk : order.length ≤ k + 1) :
    ∀ p ∈ parts, p.rule.name ∈ order → (p.node (nodes parts k)).Built flags rules := by
  induction horder generalizing k with
  | nil => exact fun p _ hp => absurd hp List.not_mem_nil
  | @cons name done hnew htargets hdone ih =>
    intro p hp hname
    simp only [List.length_cons] at hk
    rcases List.mem_cons.mp hname with rfl | hname
    · have hr : p.rule ∈ rules := h.rules_eq ▸ List.mem_map_of_mem hp
      rw [targetsOf_name hnodup hr] at htargets
      obtain ⟨hnone, hsome⟩ := rematchPattern_eq_ok (h.rematch p hp)
      refine ⟨h.handler p hp, by simpa [Part.node] using hnone, fun a ha => ?_⟩
      obtain ⟨pattern, hpattern, rfl⟩ := Option.map_eq_some_iff.mp ha
      obtain ⟨hdistinct, hcompile⟩ := hsome pattern hpattern
      -- A target stands behind the rule, so there was a round before this one.
      obtain ⟨t, ht⟩ : ∃ t, t ∈ p.rule.rematch := List.exists_mem_of_ne_nil _ fun hnil => by
        rw [hnone.mpr hnil] at hpattern
        cases hpattern
      have hlength := List.length_pos_of_mem (htargets t ht)
      obtain ⟨k, rfl⟩ : ∃ n, k = n + 1 := ⟨k - 1, by omega⟩
      have hmem : ∀ n ∈ p.rule.rematch.filterMap
          (fun t => (nodes parts (k + 1)).find? (·.name == t)), n.Built flags rules := by
        intro n hn
        obtain ⟨t, ht, hfind⟩ := List.mem_filterMap.mp hn
        obtain ⟨q, hq, rfl⟩ := List.mem_map.mp (List.mem_of_find?_eq_some hfind)
        have hname : (q.node (nodes parts k)).name = t := by simpa using List.find?_some hfind
        obtain rfl : q.rule.name = t := hname
        exact ih (by omega) q hq (htargets _ ht)
      exact .mk (ne_nil_of_compile hcompile) (fun r => mem_of_mem_siblings) hdistinct
        (fun r hr => halone r (mem_of_mem_siblings hr)) hcompile
        (by rw [List.map_filterMap]; simp only [h.find?_nodes]; rfl)
        (fun n hn => (hmem n hn).handler.none_iff) (fun n hn => (hmem n hn).rematch_none_iff)
        (fun n hn => (hmem n hn).handler.built) fun n hn => (hmem n hn).rematch
    · exact ih (by omega) p hp hname

/-- The parts put together from rules, handlers and the patterns of siblings. -/
theorem partsBuilt_zip {flags : String} {level rules : List Rule}
    {hs : List (Option (Alternation Node))} {ms : List (Option Pattern)}
    (hhs : List.Forall₂ (HandlerBuilt flags) rules hs)
    (hms : List.Forall₂ (fun r m => rematchPattern flags level r = .ok m) rules ms) :
    PartsBuilt flags level rules ((rules.zip (hs.zip ms)).map fun (r, h, m) => ⟨r, h, m⟩) := by
  induction hhs generalizing ms with
  | nil =>
    cases hms
    exact ⟨rfl, fun p hp => absurd hp List.not_mem_nil, fun p hp => absurd hp List.not_mem_nil⟩
  | cons hh hhs ih =>
    cases hms with
    | cons hm hms =>
      have ih := ih hms
      exact ⟨congrArg (_ :: ·) ih.rules_eq, List.forall_mem_cons.mpr ⟨hh, ih.handler⟩,
        List.forall_mem_cons.mpr ⟨hm, ih.rematch⟩⟩

/-- All nodes of a level are complete after one round for each rule. -/
theorem PartsBuilt.built_nodes {flags : String} {rules : List Rule} {parts : List Part}
    (h : PartsBuilt flags rules rules parts) (hnodup : (rules.map (·.name)).Nodup)
    (halone : ∀ r ∈ rules, ∃ p, Pattern.compile r.pattern flags = .ok p) {pattern : Pattern}
    (hpattern : Pattern.compile (Rule.alternation rules) flags = .ok pattern)
    (hrematch : checkRematch rules = .ok ()) :
    Alternation.Built flags rules rules ⟨pattern, nodes parts rules.length⟩ := by
  obtain ⟨order, horder, hmem, hlength⟩ := ordered_of_checkRematch hrematch
  have hne := ne_nil_of_compile hpattern
  obtain ⟨k, hk⟩ : ∃ k, rules.length = k + 1 :=
    ⟨rules.length - 1, (Nat.succ_pred (List.length_eq_zero_iff.not.mpr hne)).symm⟩
  have hnode : ∀ n ∈ parts.map (Part.node (nodes parts k)), n.Built flags rules := by
    intro n hn
    obtain ⟨p, hp, rfl⟩ := List.mem_map.mp hn
    exact h.built hnodup halone horder (hk ▸ hlength) p hp
      (hmem _ (h.rules_eq ▸ List.mem_map_of_mem hp))
  rw [hk]
  refine .mk hne (fun r hr => hr) hnodup halone hpattern ?_
    (fun n hn => (hnode n hn).handler.none_iff) (fun n hn => (hnode n hn).rematch_none_iff)
    (fun n hn => (hnode n hn).handler.built) fun n hn => (hnode n hn).rematch
  rw [nodes, List.map_map]
  exact h.rules_eq

/-- **A level is compiled to what it is built from**, if its handlers are. -/
theorem compileLevel_built {flags : String} {maxDepth depth : Int} {rules : List Rule}
    {handlers : Unit → Except Failure (List (Option (Alternation Node)))}
    (hhandlers : ∀ hs, handlers () = .ok hs → List.Forall₂ (HandlerBuilt flags) rules hs)
    {a : Alternation Node} (h : compileLevel flags maxDepth depth rules handlers = .ok a) :
    a.Built flags rules rules := by
  unfold compileLevel at h
  obtain ⟨_, hdistinct, h⟩ := bind_eq_ok_iff.mp h
  split at h
  · cases h
  split at h
  · cases h
  obtain ⟨_, hgroups, h⟩ := bind_eq_ok_iff.mp h
  obtain ⟨pattern, hpattern, h⟩ := bind_eq_ok_iff.mp h
  obtain ⟨_, hrematch, h⟩ := bind_eq_ok_iff.mp h
  obtain ⟨hs, hhs, h⟩ := bind_eq_ok_iff.mp h
  obtain ⟨ms, hms, h⟩ := bind_eq_ok_iff.mp h
  cases h
  exact (partsBuilt_zip (hhandlers hs hhs) (forall₂_of_mapM hms)).built_nodes
    (nodup_of_checkDistinct hdistinct) (compile_of_checkGroups hgroups) hpattern hrematch

mutual

theorem compileHandler_built {flags : String} {maxDepth depth : Int} :
    ∀ (r : Rule) (h : Option (Alternation Node)),
      compileHandler flags maxDepth depth r = .ok h → HandlerBuilt flags r h
  | ⟨_, _, _, handler, _, _, _, _⟩, h, hcompile => by
    unfold compileHandler at hcompile
    split at hcompile
    · next hempty =>
      cases hcompile
      exact ⟨by simpa using hempty, fun a ha => by cases ha⟩
    · next hempty =>
      cases hlevel : compileLevel flags maxDepth (depth + 1) handler fun _ =>
          compileHandlers flags maxDepth (depth + 1) handler with
      | error e =>
        rw [hlevel] at hcompile
        cases hcompile
      | ok a =>
        rw [hlevel] at hcompile
        cases hcompile
        refine ⟨by simpa using hempty, fun b hb => ?_⟩
        cases hb
        exact compileLevel_built (fun hs hhs => compileHandlers_built handler hs hhs) hlevel

theorem compileHandlers_built {flags : String} {maxDepth depth : Int} :
    ∀ (rules : List Rule) (hs : List (Option (Alternation Node))),
      compileHandlers flags maxDepth depth rules = .ok hs →
        List.Forall₂ (HandlerBuilt flags) rules hs
  | [], hs, hcompile => by
    cases hcompile
    exact .nil
  | r :: rest, hs, hcompile => by
    unfold compileHandlers at hcompile
    obtain ⟨h, hh, hcompile⟩ := bind_eq_ok_iff.mp hcompile
    obtain ⟨hs', hhs, hcompile⟩ := bind_eq_ok_iff.mp hcompile
    cases hcompile
    exact .cons (compileHandler_built r h hh) (compileHandlers_built rest hs' hhs)

end

/-- **A grammar is built from its rules.** -/
theorem built_of_compile {rules : RuleSet} {flags : String} {maxDepth : Int} {g : Grammar}
    (h : compile rules flags maxDepth = .ok g) : g.level.Built flags rules.rules rules.rules := by
  unfold compile at h
  dsimp only at h
  split at h
  · cases h
  obtain ⟨level, hlevel, h⟩ := bind_eq_ok_iff.mp h
  cases h
  exact compileLevel_built (fun hs hhs => compileHandlers_built _ hs hhs) hlevel

end Grammar

/-! ## The pattern of a level -/

/-- No pattern of the rules, at any level, runs into the bracket behind it. One could do so only
where white space in patterns is skipped, by a comment at its end. -/
def BracketsClose (flags : String) (rules : List Rule) : Prop :=
  'x' ∈ flags.toList → ∀ r, InTree rules r → closesGroup true r.pattern = true

theorem BracketsClose.handler {flags : String} {rules : List Rule} (h : BracketsClose flags rules)
    {r : Rule} (hr : r ∈ rules) : BracketsClose flags r.handler :=
  fun hx s hs => h hx s (.inside hr hs)

/-- A pair of a word and a number, and a word with the vowels in its syllables. A syllable has no
style, and the inside of a pair is searched for words. -/
def nested : RuleSet :=
  .sequence [⟨"pair", "[a-z]+=[0-9]+".toList, "\x1b[4m".toList, [], ["word"], none, by decide,
      by decide⟩,
    ⟨"word", "[a-z]+".toList, "\x1b[1m".toList,
      [⟨"syllable", "[^aeiou]*[aeiou]".toList, none,
        [⟨"vowel", "[aeiou]".toList, "\x1b[2m".toList, [], [], none, by decide, by decide⟩], [],
        none, by decide, by decide⟩], [], none, by decide, by decide⟩]

/-- Two rules of which the first, where white space is skipped, runs into the group of the second:
its group is closed behind `z`. -/
def swallowing (style : Option Text) : RuleSet :=
  .sequence [⟨"a", "x #".toList, style, [], [], none, by decide, by decide⟩,
    ⟨"b", "(y\n)z #".toList, none, [], [], none, by decide, by decide⟩]

/-- Two such rules of which the first's group is closed in front of a question mark: it need take no
part in a match. -/
def escaping : RuleSet :=
  .sequence [⟨"a", "x #".toList, none, [], [], none, by decide, by decide⟩,
    ⟨"b", "(y\n)?z #".toList, none, [], [], none, by decide, by decide⟩]

/-- A pair whose word is styled, and inside of which a pattern is searched for then. -/
def recolored (value : Text) (hvalue : value ≠ []) : RuleSet :=
  .sequence [⟨"pair", "[a-z]+=[0-9]+".toList, none,
      [⟨"word", "[a-z]+".toList, "\x1b[1m".toList, [], [], none, by decide, by decide⟩], ["value"],
      none, by decide, by decide⟩,
    ⟨"value", value, "\x1b[4m".toList, [], [], none, by decide, hvalue⟩]

/-- A pair without a style, whose word is turned round and whose number is doubled. -/
def altered : RuleSet :=
  .sequence [⟨"pair", "[a-z]+=[0-9]+".toList, none,
    [⟨"word", "[a-z]+".toList, "\x1b[1m".toList, [], [], Transform.named? "reverse", by decide,
      by decide⟩,
    ⟨"digits", "[0-9]+".toList, "\x1b[4m".toList, [], [], Transform.named? "double", by decide,
      by decide⟩], [], none, by decide, by decide⟩]

/-- A word with vowels in it and a number, both of which fail. -/
def raising : RuleSet :=
  .sequence [⟨"word", "[a-z]+".toList, none,
      [⟨"vowel", "[aeiou]".toList, none, [], [], Transform.named? "raise_resolution", by decide,
        by decide⟩], [], none, by decide, by decide⟩,
    ⟨"digits", "[0-9]+".toList, none, [], [], Transform.named? "raise_value", by decide,
      by decide⟩]

/-- **The pattern of an alternation is a choice between the groups of its rules.** -/
theorem Alternation.Built.chooses {flags : String} {level rules : List Rule}
    {a : Alternation Node} (h : a.Built flags level rules) (hclose : BracketsClose flags level) :
    ∃ bs, a.pattern.Chooses bs ∧ bs.map (·.name) = a.nodes.map Node.name := by
  cases h with
  | mk hrules hlevel _ halone hpattern hnodes =>
    obtain ⟨modes, hmodes, hcompile⟩ := Pattern.compile_eq_ok hpattern
    have halone : ∀ r ∈ rules, ∃ q, Regex.compile Pattern.mostOpen modes r.pattern = .ok q := by
      intro r hr
      obtain ⟨p, hp⟩ := halone r hr
      obtain ⟨modes', hmodes', hp⟩ := Pattern.compile_eq_ok hp
      exact ⟨_, Pattern.modes_unique hmodes hmodes' ▸ hp⟩
    have hcloses : ∀ r ∈ rules, closesGroup modes.verbose r.pattern = true := by
      cases hverbose : modes.verbose with
      | true =>
        exact fun r hr => hclose (Pattern.mem_flags_of_verbose hmodes hverbose) r (.here (hlevel r hr))
      | false => exact Regex.closesGroup_of_compile hverbose halone hcompile
    obtain ⟨bs, hbs, hnames⟩ := Pattern.chooses_of_compile hrules hcompile hcloses
    exact ⟨bs, hbs, by rw [hnames, ← hnodes, List.map_map]; rfl⟩

end Highlighting
