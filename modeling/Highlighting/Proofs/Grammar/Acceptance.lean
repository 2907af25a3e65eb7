import Highlighting.Proofs.Grammar.Built

/-!
# Which rules make a grammar

A set of rules is accepted exactly if it is well-formed: at every level the rules have names and
groups of their own, their patterns compile each alone and all together, and the siblings that a
rule names exist, are named once, compile together, and do not lead back to the rule.

The checks of a level are taken one by one, and each is shown to pass exactly where its condition
holds. A level passes where all conditions do and its handlers pass, and a set of rules by
induction over its handlers. What stops a set of rules is an error of the grammar, or the failure
of a pattern that had to be compiled.

## Main definitions

* `LevelWellFormed`, `WellFormedBelow`, `RuleSet.WellFormed` -- what is asked of a level, of the
  levels below it, and of a set of rules.
* `Rule.Rematches` -- one rule of a level names another.
* `Grammar.Needs` -- a compilation of a pattern that a set of rules asks for.
-/
namespace Highlighting

/-! ## Well-formed rules -/

/-- The pattern compiles under the flags. -/
def Compiles (flags : String) (pattern : Text) : Prop := Succeeds (Pattern.compile pattern flags)

instance (flags : String) (pattern : Text) : Decidable (Compiles flags pattern) :=
  inferInstanceAs (Decidable (Succeeds _))

/-- The names of the groups inside of a rule's pattern. -/
def Rule.innerGroups (flags : String) (r : Rule) : List String :=
  match Pattern.compile r.pattern flags with
  | .ok p => p.groupNames
  | .error _ => []

/-- One rule of a level names another. -/
def Rule.Rematches (level : List Rule) (a b : String) : Prop :=
  ∃ r ∈ level, r.name = a ∧ b ∈ r.rematch

/-- What is asked of a level of rules at a depth. -/
structure LevelWellFormed (flags : String) (maxDepth depth : Int) (rules : List Rule) : Prop where
  nonempty : rules ≠ []
  distinct : (rules.map (·.name)).Nodup
  shallow : depth ≤ maxDepth
  alone : ∀ r ∈ rules, Compiles flags r.pattern
  /-- No two rules have a group inside of their patterns by the same name. -/
  unshared : rules.Pairwise fun r s => (r.innerGroups flags).Disjoint (s.innerGroups flags)
  /-- No group inside of a pattern has the name of a rule. -/
  apart : ∀ r ∈ rules, ∀ s ∈ rules, r.name ∉ s.innerGroups flags
  together : Compiles flags (Rule.alternation rules)
  known : ∀ r ∈ rules, ∀ t ∈ r.rematch, ∃ s ∈ rules, s.name = t
  /-- No rule is named by itself, by way of others or at once. -/
  acyclic : ∀ a, ¬ Relation.TransGen (Rule.Rematches rules) a a
  once : ∀ r ∈ rules, r.rematch.Nodup
  siblings : ∀ r ∈ rules, r.rematch ≠ [] → Compiles flags (Rule.alternation (siblings rules r))

/-- What is asked of rules at a depth and of the handlers below them. -/
inductive WellFormedBelow (flags : String) (maxDepth : Int) : (depth : Int) → List Rule → Prop where
  | mk {depth : Int} {rules : List Rule} (hlevel : LevelWellFormed flags maxDepth depth rules)
      (hhandlers : ∀ r ∈ rules, r.handler ≠ [] →
        WellFormedBelow flags maxDepth (depth + 1) r.handler) :
      WellFormedBelow flags maxDepth depth rules

/-- A compilation of a pattern that rules ask for: of a rule alone, of all rules, of the siblings
that a rule names, or one that the rules of a handler ask for. -/
inductive Grammar.Needs (flags : String) : List Rule → Except Failure Pattern → Prop where
  | alone {rules : List Rule} {r : Rule} (hr : r ∈ rules) : Needs flags rules (compileAlone flags r)
  | together (rules : List Rule) : Needs flags rules (Pattern.compile (Rule.alternation rules) flags)
  | siblings {rules : List Rule} {r : Rule} (hr : r ∈ rules) (hrematch : r.rematch ≠ []) :
      Needs flags rules (Pattern.compile (Rule.alternation (siblings rules r)) flags)
  | inside {rules : List Rule} {r : Rule} {c : Except Failure Pattern} (hr : r ∈ rules)
      (hhandler : r.handler ≠ []) (h : Needs flags r.handler c) : Needs flags rules c

/-- What is asked of a set of rules. -/
structure RuleSet.WellFormed (flags : String) (maxDepth : Int) (rules : RuleSet) : Prop where
  /-- A rule that is kept under a key has the key for a name. -/
  keys : ∀ entries, rules = .keyed entries → ∀ e ∈ entries, e.1 = e.2.name
  below : WellFormedBelow flags maxDepth 0 rules.rules

namespace Grammar

/-! ## The checks of a level, one by one -/

theorem repeated?_eq_none_iff {seen names : List String} :
    repeated? seen names = none ↔ names.Nodup ∧ ∀ n ∈ names, n ∉ seen := by
  constructor
  · exact nodup_of_repeated?
  · induction names generalizing seen with
    | nil =>
      intro _
      rfl
    | cons n names ih =>
      rintro ⟨hnodup, hnew⟩
      obtain ⟨hn, hnodup⟩ := List.nodup_cons.mp hnodup
      have hrest : ∀ m ∈ names, m ∉ n :: seen := by
        intro m hm hmem
        rcases List.mem_cons.mp hmem with rfl | hmem
        · exact hn hm
        · exact hnew m (List.mem_cons_of_mem _ hm) hmem
      rw [repeated?, if_neg (hnew n List.mem_cons_self)]
      exact ih ⟨hnodup, hrest⟩

theorem checkDistinct_eq_ok_iff {names : List String} :
    checkDistinct names = .ok () ↔ names.Nodup := by
  constructor
  · exact nodup_of_checkDistinct
  · intro h
    rw [checkDistinct, repeated?_eq_none_iff.mpr ⟨h, by simp⟩]

theorem succeeds_compileAlone_iff {flags : String} {r : Rule} :
    Succeeds (compileAlone flags r) ↔ Compiles flags r.pattern := by
  unfold Compiles compileAlone
  cases Pattern.compile r.pattern flags with
  | ok p => rfl
  | error e => cases e <;> simp

/-- Groups are entered exactly if none has an owner or occurs twice. -/
theorem claimGroups_eq_ok_iff {rule : String} {groups : List String}
    {owners owners' : List (String × String)} :
    claimGroups rule groups owners = .ok owners' ↔
      (groups.Nodup ∧ ∀ g ∈ groups, g ∉ owners.map (·.1)) ∧
        owners' = groups.reverse.map (·, rule) ++ owners := by
  induction groups generalizing owners with
  | nil => simp [claimGroups, eq_comm]
  | cons g groups ih =>
    unfold claimGroups
    by_cases hg : g ∈ owners.map (·.1)
    · obtain ⟨owner, howner⟩ : ∃ owner, owners.lookup g = some owner := by
        rw [← Option.isSome_iff_exists, List.lookup_isSome_iff]
        obtain ⟨e, he, rfl⟩ := List.mem_map.mp hg
        exact ⟨e, he, by simp⟩
      rw [howner]
      constructor
      · intro h
        dsimp only at h
        split at h <;> cases h
      · rintro ⟨⟨-, hnew⟩, -⟩
        exact absurd hg (hnew g List.mem_cons_self)
    · have hlookup : owners.lookup g = none := by
        rw [List.lookup_eq_none_iff]
        intro e he
        have : g ≠ e.1 := by
          rintro rfl
          exact hg (List.mem_map_of_mem he)
        simpa using this
      rw [hlookup]
      dsimp only
      rw [ih, List.nodup_cons, List.forall_mem_cons]
      simp only [List.map_cons, List.mem_cons, List.reverse_cons, List.map_append, List.map_nil,
        List.append_assoc, List.cons_append, List.nil_append, not_or]
      constructor
      · rintro ⟨⟨hnodup, hnew⟩, rfl⟩
        exact ⟨⟨⟨fun hmem => (hnew g hmem).1 rfl, hnodup⟩, hg, fun g' hg' => (hnew g' hg').2⟩, rfl⟩
      · rintro ⟨⟨⟨hfirst, hnodup⟩, -, hnew⟩, rfl⟩
        refine ⟨⟨hnodup, fun g' hg' => ⟨?_, hnew g' hg'⟩⟩, rfl⟩
        rintro rfl
        exact hfirst hg'

/-- The groups of a pattern have different names. -/
theorem nodup_groupNames {source : Text} {flags : String} {p : Pattern}
    (h : Pattern.compile source flags = .ok p) : p.groupNames.Nodup := by
  obtain ⟨modes, -, hcompile⟩ := Pattern.compile_eq_ok h
  exact (Regex.groups_of_compile hcompile).2

theorem nodup_innerGroups (flags : String) (r : Rule) : (r.innerGroups flags).Nodup := by
  unfold Rule.innerGroups
  split
  · next p hp => exact nodup_groupNames hp
  · exact List.nodup_nil

theorem compileAlone_eq_ok {flags : String} {r : Rule} {p : Pattern}
    (h : compileAlone flags r = .ok p) : r.innerGroups flags = p.groupNames := by
  rw [Rule.innerGroups, compile_of_compileAlone h]

/-- All group names of a rule. -/
def allGroups (flags : String) (r : Rule) : List String := r.name :: r.innerGroups flags

theorem checkGroups_cons_eq_ok_iff {flags : String} {r : Rule} {rules : List Rule}
    {owners : List (String × String)} :
    checkGroups flags (r :: rules) owners = .ok () ↔
      Compiles flags r.pattern ∧ r.name ∉ r.innerGroups flags ∧
        (∀ g ∈ allGroups flags r, g ∉ owners.map (·.1)) ∧
        checkGroups flags rules ((allGroups flags r).reverse.map (·, r.name) ++ owners) =
          .ok () := by
  rw [checkGroups]
  constructor
  · intro h
    obtain ⟨p, hp, h⟩ := bind_eq_ok_iff.mp h
    obtain ⟨owners', hclaim, h⟩ := bind_eq_ok_iff.mp h
    rw [← compileAlone_eq_ok hp] at hclaim
    obtain ⟨⟨hnodup, hnew⟩, rfl⟩ := claimGroups_eq_ok_iff.mp hclaim
    exact ⟨⟨p, compile_of_compileAlone hp⟩, (List.nodup_cons.mp hnodup).1, hnew, h⟩
  · rintro ⟨hcompiles, hname, hnew, h⟩
    obtain ⟨p, hp⟩ := succeeds_compileAlone_iff.mpr hcompiles
    refine bind_eq_ok_iff.mpr ⟨p, hp, bind_eq_ok_iff.mpr ⟨_, ?_, h⟩⟩
    rw [← compileAlone_eq_ok hp, claimGroups_eq_ok_iff]
    exact ⟨⟨List.nodup_cons.mpr ⟨hname, nodup_innerGroups flags r⟩, hnew⟩, rfl⟩

/-- The groups of rules are entered exactly if the patterns compile alone and no group name has an
owner, is shared, or is that of the group around it. -/
theorem checkGroups_eq_ok_iff {flags : String} {rules : List Rule}
    {owners : List (String × String)} :
    checkGroups flags rules owners = .ok () ↔
      (∀ r ∈ rules, Compiles flags r.pattern) ∧ (∀ r ∈ rules, r.name ∉ r.innerGroups flags) ∧
        (rules.Pairwise fun r s => (allGroups flags r).Disjoint (allGroups flags s)) ∧
        ∀ r ∈ rules, ∀ g ∈ allGroups flags r, g ∉ owners.map (·.1) := by
  induction rules generalizing owners with
  | nil => simp [checkGroups]
  | cons r rules ih =>
    have howners (s : Rule) : (∀ g ∈ allGroups flags s,
        g ∉ ((allGroups flags r).reverse.map (·, r.name) ++ owners).map (·.1)) ↔
        (allGroups flags r).Disjoint (allGroups flags s) ∧
          ∀ g ∈ allGroups flags s, g ∉ owners.map (·.1) := by
      simp only [List.map_append, List.map_map, Function.comp_def, List.map_id', List.mem_append,
        List.mem_reverse, not_or, List.Disjoint]
      constructor
      · intro h
        exact ⟨fun g hr hs => (h g hs).1 hr, fun g hs => (h g hs).2⟩
      · rintro ⟨hdisjoint, hnew⟩ g hs
        exact ⟨fun hr => hdisjoint hr hs, hnew g hs⟩
    rw [checkGroups_cons_eq_ok_iff, ih, List.forall_mem_cons, List.forall_mem_cons,
      List.pairwise_cons, List.forall_mem_cons]
    simp only [howners, forall_and]
    tauto

/-- Rules of different names have groups of their own exactly if the groups inside of their
patterns differ, and none is named like a rule. -/
theorem pairwise_allGroups_iff {flags : String} {rules : List Rule}
    (hdistinct : (rules.map (·.name)).Nodup) :
    ((∀ r ∈ rules, r.name ∉ r.innerGroups flags) ∧
        rules.Pairwise fun r s => (allGroups flags r).Disjoint (allGroups flags s)) ↔
      (rules.Pairwise fun r s => (r.innerGroups flags).Disjoint (s.innerGroups flags)) ∧
        ∀ r ∈ rules, ∀ s ∈ rules, r.name ∉ s.innerGroups flags := by
  induction rules with
  | nil => simp
  | cons r rules ih =>
    obtain ⟨hname, hdistinct⟩ := List.nodup_cons.mp hdistinct
    have hne : ∀ s ∈ rules, r.name ≠ s.name := by
      intro s hs heq
      exact hname (List.mem_map.mpr ⟨s, hs, heq.symm⟩)
    have hpair : ∀ s ∈ rules, ((allGroups flags r).Disjoint (allGroups flags s) ↔
        (r.innerGroups flags).Disjoint (s.innerGroups flags) ∧ r.name ∉ s.innerGroups flags ∧
          s.name ∉ r.innerGroups flags) := by
      intro s hs
      have hne' : s.name ≠ r.name := (hne s hs).symm
      simp only [allGroups, List.disjoint_cons_left, List.disjoint_cons_right, List.mem_cons, hne',
        false_or]
      tauto
    simp only [List.pairwise_cons, List.mem_cons, forall_eq_or_imp]
    constructor
    · rintro ⟨⟨hself, hselves⟩, hhead, htail⟩
      obtain ⟨hunshared, hapart⟩ := (ih hdistinct).mp ⟨hselves, htail⟩
      have hhead' := fun s hs => (hpair s hs).mp (hhead s hs)
      exact ⟨⟨fun s hs => (hhead' s hs).1, hunshared⟩, ⟨hself, fun s hs => (hhead' s hs).2.1⟩,
        fun s hs => ⟨(hhead' s hs).2.2, hapart s hs⟩⟩
    · rintro ⟨⟨hhead, hunshared⟩, ⟨hself, hfirst⟩, hrest⟩
      obtain ⟨hselves, htail⟩ :=
        (ih hdistinct).mpr ⟨hunshared, fun s hs => (hrest s hs).2⟩
      exact ⟨⟨hself, hselves⟩, fun s hs => (hpair s hs).mpr ⟨hhead s hs, hfirst s hs,
        (hrest s hs).1⟩, htail⟩

/-- The search follows what rules of the level name. -/
theorem mem_targetsOf_iff {rules : List Rule} (hdistinct : (rules.map (·.name)).Nodup)
    {a b : String} : b ∈ targetsOf rules a ↔ Rule.Rematches rules a b := by
  refine ⟨exists_of_mem_targetsOf, ?_⟩
  rintro ⟨r, hr, rfl, hb⟩
  rwa [targetsOf_name hdistinct hr]

theorem targetsOf_eq_rematches {rules : List Rule} (hdistinct : (rules.map (·.name)).Nodup) :
    (fun a b => b ∈ targetsOf rules a) = Rule.Rematches rules := by
  funext a b
  exact propext (mem_targetsOf_iff hdistinct)

theorem checkRematch_eq_ok_iff {rules : List Rule} (hdistinct : (rules.map (·.name)).Nodup) :
    checkRematch rules = .ok () ↔
      (∀ r ∈ rules, ∀ t ∈ r.rematch, ∃ s ∈ rules, s.name = t) ∧
        ∀ a, ¬ Relation.TransGen (Rule.Rematches rules) a a := by
  unfold checkRematch
  dsimp only
  rw [← unknownTarget?_eq_none_iff]
  cases hunknown : unknownTarget? (rules.map (·.name)) rules with
  | some found => simp
  | none =>
    have hknown := unknownTarget?_eq_none_iff.mp hunknown
    have hnone : ∀ n, n ∉ rules.map (·.name) → targetsOf rules n = [] := by
      intro n hn
      rw [List.eq_nil_iff_forall_not_mem]
      intro t ht
      obtain ⟨r, hr, rfl, -⟩ := exists_of_mem_targetsOf ht
      exact hn (List.mem_map_of_mem hr)
    rw [← targetsOf_eq_rematches hdistinct,
      ← Circle.find?_eq_none_iff (fun _ _ _ => mem_names_of_mem_targetsOf hknown) hnone]
    cases Circle.find? (targetsOf rules) (rules.map (·.name)) <;> simp

/-- The siblings of a rule have the names by which the rule names them, if these exist. -/
theorem map_name_siblings {rules : List Rule} {r : Rule}
    (hknown : ∀ t ∈ r.rematch, ∃ s ∈ rules, s.name = t) :
    (siblings rules r).map (·.name) = r.rematch := by
  unfold siblings
  generalize r.rematch = targets at hknown
  induction targets with
  | nil => rfl
  | cons t targets ih =>
    obtain ⟨⟨s, hs, hname⟩, hrest⟩ := List.forall_mem_cons.mp hknown
    obtain ⟨s', hs'⟩ := Option.isSome_iff_exists.mp
      (List.find?_isSome.mpr ⟨s, hs, by simp [hname]⟩ : (rules.find? (·.name == t)).isSome)
    have hname' : s'.name = t := by simpa using List.find?_some hs'
    rw [List.filterMap_cons, hs', List.map_cons, ih hrest, hname']

theorem succeeds_rematchPattern_iff {flags : String} {rules : List Rule} {r : Rule}
    (hknown : ∀ t ∈ r.rematch, ∃ s ∈ rules, s.name = t) :
    Succeeds (rematchPattern flags rules r) ↔
      r.rematch.Nodup ∧ (r.rematch ≠ [] → Compiles flags (Rule.alternation (siblings rules r))) := by
  unfold rematchPattern
  by_cases hnil : r.rematch = []
  · rw [if_pos hnil, hnil]
    simp [Succeeds]
  · rw [if_neg hnil]
    dsimp only
    rw [succeeds_check_iff, checkDistinct_eq_ok_iff]
    change ((siblings rules r).map (·.name)).Nodup ∧ _ ↔ _
    rw [map_name_siblings hknown, succeeds_bind_const_iff (p := True)]
    · change _ ∧ Compiles flags _ ∧ True ↔ _
      rw [and_true]
      simp only [ne_eq, hnil, not_false_eq_true, forall_const]
      rfl
    · intro p _
      simp [Succeeds, pure, Except.pure]

/-! ## A level and what lies below -/

/-- The rematches of a level compile exactly if each is named once and they compile together. -/
theorem succeeds_rematches_iff {flags : String} {rules : List Rule}
    (hknown : ∀ r ∈ rules, ∀ t ∈ r.rematch, ∃ s ∈ rules, s.name = t) :
    Succeeds (rules.mapM (rematchPattern flags rules)) ↔
      (∀ r ∈ rules, r.rematch.Nodup) ∧
        ∀ r ∈ rules, r.rematch ≠ [] → Compiles flags (Rule.alternation (siblings rules r)) := by
  rw [succeeds_mapM_iff, ← forall₂_and]
  constructor
  · intro h r hr
    exact (succeeds_rematchPattern_iff (hknown r hr)).mp (h r hr)
  · intro h r hr
    exact (succeeds_rematchPattern_iff (hknown r hr)).mpr (h r hr)

/-- **A level is compiled exactly if it is well-formed** and its handlers are compiled. -/
theorem succeeds_compileLevel_iff {flags : String} {maxDepth depth : Int} {rules : List Rule}
    {handlers : Unit → Except Failure (List (Option (Alternation Node)))} :
    Succeeds (compileLevel flags maxDepth depth rules handlers) ↔
      LevelWellFormed flags maxDepth depth rules ∧ Succeeds (handlers ()) := by
  unfold compileLevel
  rw [succeeds_check_iff, checkDistinct_eq_ok_iff]
  cases rules with
  | nil =>
    constructor
    · rintro ⟨-, h⟩
      exact absurd h (not_succeeds_error _)
    · rintro ⟨h, -⟩
      exact absurd rfl h.nonempty
  | cons first rest =>
    dsimp only
    by_cases hdepth : maxDepth < depth
    · rw [if_pos hdepth]
      constructor
      · rintro ⟨-, h⟩
        exact absurd h (not_succeeds_error _)
      · rintro ⟨h, -⟩
        exact absurd h.shallow (Int.not_le.mpr hdepth)
    · rw [if_neg hdepth, succeeds_check_iff]
      have hne : first :: rest ≠ [] := List.cons_ne_nil first rest
      generalize first :: rest = rules at hne
      -- Behind the pattern come the checks of siblings, the handlers and the siblings' patterns.
      rw [succeeds_bind_const_iff (p := checkRematch rules = .ok () ∧ Succeeds (handlers ()) ∧
        Succeeds (rules.mapM (rematchPattern flags rules)))]
      rotate_left
      · intro pattern _
        rw [succeeds_check_iff, succeeds_bind_const_iff]
        intro hs _
        rw [succeeds_bind_const_iff (p := True), and_true]
        intro ms _
        exact iff_of_true (succeeds_ok _) trivial
      constructor
      · rintro ⟨hdistinct, hgroups, hcompiles, hrematch, hhandlers, hsiblings⟩
        obtain ⟨halone, hself, hpairs, -⟩ := checkGroups_eq_ok_iff.mp hgroups
        obtain ⟨hunshared, hapart⟩ := (pairwise_allGroups_iff hdistinct).mp ⟨hself, hpairs⟩
        obtain ⟨hknown, hacyclic⟩ := (checkRematch_eq_ok_iff hdistinct).mp hrematch
        obtain ⟨honce, hcompile⟩ := (succeeds_rematches_iff hknown).mp hsiblings
        exact ⟨⟨hne, hdistinct, Int.not_lt.mp hdepth, halone, hunshared, hapart, hcompiles, hknown,
          hacyclic, honce, hcompile⟩, hhandlers⟩
      · rintro ⟨h, hhandlers⟩
        obtain ⟨hself, hpairs⟩ := (pairwise_allGroups_iff h.distinct).mpr ⟨h.unshared, h.apart⟩
        refine ⟨h.distinct, checkGroups_eq_ok_iff.mpr ⟨h.alone, hself, hpairs, by simp⟩, h.together,
          (checkRematch_eq_ok_iff h.distinct).mpr ⟨h.known, h.acyclic⟩, hhandlers,
          (succeeds_rematches_iff h.known).mpr ⟨h.once, h.siblings⟩⟩

theorem wellFormedBelow_iff {flags : String} {maxDepth depth : Int} {rules : List Rule} :
    WellFormedBelow flags maxDepth depth rules ↔
      LevelWellFormed flags maxDepth depth rules ∧
        ∀ r ∈ rules, r.handler ≠ [] → WellFormedBelow flags maxDepth (depth + 1) r.handler := by
  constructor
  · rintro ⟨hlevel, hhandlers⟩
    exact ⟨hlevel, hhandlers⟩
  · rintro ⟨hlevel, hhandlers⟩
    exact .mk hlevel hhandlers

mutual

/-- A handler is compiled exactly if there is none or its rules are well-formed. -/
theorem succeeds_compileHandler_iff {flags : String} {maxDepth depth : Int} :
    ∀ r : Rule, Succeeds (compileHandler flags maxDepth depth r) ↔
      (r.handler ≠ [] → WellFormedBelow flags maxDepth (depth + 1) r.handler)
  | ⟨_, _, _, handler, _, _, _, _⟩ => by
    unfold compileHandler
    by_cases hempty : handler = []
    · subst hempty
      simp [Succeeds]
    · have hisEmpty : ¬ handler.isEmpty = true := by simpa using hempty
      rw [if_neg hisEmpty, succeeds_map_iff, succeeds_compileLevel_iff,
        succeeds_compileHandlers_iff handler, ← wellFormedBelow_iff]
      simp [hempty]

/-- The handlers of rules are compiled exactly if their rules are well-formed. -/
theorem succeeds_compileHandlers_iff {flags : String} {maxDepth depth : Int} :
    ∀ rules : List Rule, Succeeds (compileHandlers flags maxDepth depth rules) ↔
      ∀ r ∈ rules, r.handler ≠ [] → WellFormedBelow flags maxDepth (depth + 1) r.handler
  | [] => by simp [compileHandlers, Succeeds]
  | r :: rest => by
    unfold compileHandlers
    rw [succeeds_bind_const_iff (p := Succeeds (compileHandlers flags maxDepth depth rest)),
      succeeds_compileHandler_iff r, succeeds_compileHandlers_iff rest, List.forall_mem_cons]
    intro h _
    rw [succeeds_bind_const_iff (p := True), and_true]
    intro hs _
    exact iff_of_true (succeeds_ok _) trivial

end

/-! ## What stops a set of rules -/

/-- An error of the grammar, or the failure of a compilation that rules ask for. -/
def StopsWith (flags : String) (rules : List Rule) (e : Failure) : Prop :=
  (∃ e', e = .grammar e') ∨ Needs flags rules (.error e)

theorem StopsWith.inside {flags : String} {rules : List Rule} {r : Rule} {e : Failure}
    (hr : r ∈ rules)
    (hhandler : r.handler ≠ []) (h : StopsWith flags r.handler e) : StopsWith flags rules e :=
  h.imp_right (.inside hr hhandler)

/-- What stops rules: an error of the grammar, the pattern of a rule, an alternation of rules that
compile alone, or what stops the rules of a handler. -/
inductive Stops (flags : String) : (rules : List Rule) → Failure → Prop where
  | own (rules : List Rule) (e : GrammarError) : Stops flags rules (.grammar e)
  | alone {rules : List Rule} {r : Rule} {e : Failure} (hr : r ∈ rules)
      (h : compileAlone flags r = .error e) : Stops flags rules e
  | together {rules : List Rule} {e : Failure} (halone : ∀ r ∈ rules, Compiles flags r.pattern)
      (h : Pattern.compile (Rule.alternation rules) flags = .error e) : Stops flags rules e
  | siblings {rules : List Rule} {r : Rule} {e : Failure}
      (halone : ∀ r ∈ rules, Compiles flags r.pattern) (hr : r ∈ rules) (hrematch : r.rematch ≠ [])
      (h : Pattern.compile (Rule.alternation (siblings rules r)) flags = .error e) :
      Stops flags rules e
  | inside {rules : List Rule} {r : Rule} {e : Failure} (hr : r ∈ rules) (hhandler : r.handler ≠ [])
      (h : Stops flags r.handler e) : Stops flags rules e

theorem Stops.stopsWith {flags : String} {rules : List Rule} {e : Failure}
    (h : Stops flags rules e) : StopsWith flags rules e := by
  induction h with
  | own rules e => exact .inl ⟨e, rfl⟩
  | alone hr h => exact .inr (h ▸ .alone hr)
  | together _ h => exact .inr (h ▸ .together _)
  | siblings _ hr hrematch h => exact .inr (h ▸ .siblings hr hrematch)
  | inside hr hhandler _ ih => exact ih.inside hr hhandler

theorem checkDistinct_eq_error {names : List String} {e : Failure}
    (h : checkDistinct names = .error e) : ∃ e', e = .grammar e' := by
  unfold checkDistinct at h
  split at h
  · cases h
    exact ⟨_, rfl⟩
  · cases h

theorem claimGroups_eq_error {rule : String} {groups : List String}
    {owners : List (String × String)}
    {e : Failure} (h : claimGroups rule groups owners = .error e) : ∃ e', e = .grammar e' := by
  induction groups generalizing owners with
  | nil => cases h
  | cons g groups ih =>
    unfold claimGroups at h
    split at h
    · split at h <;> cases h <;> exact ⟨_, rfl⟩
    · exact ih h

theorem checkGroups_eq_error {flags : String} {rules : List Rule} {owners : List (String × String)}
    {e : Failure} (h : checkGroups flags rules owners = .error e) :
    (∃ e', e = .grammar e') ∨ ∃ r ∈ rules, compileAlone flags r = .error e := by
  induction rules generalizing owners with
  | nil => cases h
  | cons r rules ih =>
    rw [checkGroups] at h
    rcases bind_eq_error_iff.mp h with h | ⟨p, -, h⟩
    · exact .inr ⟨r, List.mem_cons_self, h⟩
    rcases bind_eq_error_iff.mp h with h | ⟨owners', -, h⟩
    · exact .inl (claimGroups_eq_error h)
    rcases ih h with h | ⟨s, hs, h⟩
    · exact .inl h
    · exact .inr ⟨s, List.mem_cons_of_mem _ hs, h⟩

theorem checkRematch_eq_error {rules : List Rule} {e : Failure}
    (h : checkRematch rules = .error e) :
    ∃ e', e = .grammar e' := by
  unfold checkRematch at h
  dsimp only at h
  split at h
  · cases h
    exact ⟨_, rfl⟩
  · split at h
    · cases h
      exact ⟨_, rfl⟩
    · cases h

theorem rematchPattern_eq_error {flags : String} {rules : List Rule} {r : Rule} {e : Failure}
    (halone : ∀ r ∈ rules, Compiles flags r.pattern) (hr : r ∈ rules)
    (h : rematchPattern flags rules r = .error e) : Stops flags rules e := by
  unfold rematchPattern at h
  by_cases hnil : r.rematch = []
  · rw [if_pos hnil] at h
    cases h
  rw [if_neg hnil] at h
  rcases bind_eq_error_iff.mp h with h | ⟨-, -, h⟩
  · obtain ⟨e', rfl⟩ := checkDistinct_eq_error h
    exact .own rules e'
  rcases bind_eq_error_iff.mp h with h | ⟨p, -, h⟩
  · exact .siblings halone hr hnil h
  · cases h

/-- What stops a level, if it is not what stops its handlers. -/
theorem compileLevel_eq_error {flags : String} {maxDepth depth : Int} {rules : List Rule}
    {handlers : Unit → Except Failure (List (Option (Alternation Node)))} {e : Failure}
    (h : compileLevel flags maxDepth depth rules handlers = .error e) :
    Stops flags rules e ∨ handlers () = .error e := by
  unfold compileLevel at h
  rcases bind_eq_error_iff.mp h with h | ⟨-, -, h⟩
  · obtain ⟨e', rfl⟩ := checkDistinct_eq_error h
    exact .inl (.own rules e')
  cases rules with
  | nil =>
    cases h
    exact .inl (.own _ _)
  | cons first rest =>
    dsimp only at h
    by_cases hdepth : maxDepth < depth
    · rw [if_pos hdepth] at h
      cases h
      exact .inl (.own _ _)
    rw [if_neg hdepth] at h
    rcases bind_eq_error_iff.mp h with h | ⟨⟨⟩, hgroups, h⟩
    · rcases checkGroups_eq_error h with ⟨e', rfl⟩ | ⟨r, hr, h⟩
      · exact .inl (.own _ e')
      · exact .inl (.alone hr h)
    obtain ⟨halone, -⟩ := checkGroups_eq_ok_iff.mp hgroups
    rcases bind_eq_error_iff.mp h with h | ⟨p, -, h⟩
    · exact .inl (.together halone h)
    rcases bind_eq_error_iff.mp h with h | ⟨-, -, h⟩
    · obtain ⟨e', rfl⟩ := checkRematch_eq_error h
      exact .inl (.own _ e')
    rcases bind_eq_error_iff.mp h with h | ⟨hs, -, h⟩
    · exact .inr h
    rcases bind_eq_error_iff.mp h with h | ⟨ms, -, h⟩
    · obtain ⟨r, hr, h⟩ := exists_of_mapM_eq_error h
      exact .inl (rematchPattern_eq_error halone hr h)
    · cases h

mutual

theorem compileHandler_eq_error {flags : String} {maxDepth depth : Int} {e : Failure} :
    ∀ r : Rule, compileHandler flags maxDepth depth r = .error e →
      r.handler ≠ [] ∧ Stops flags r.handler e
  | ⟨_, _, _, handler, _, _, _, _⟩, h => by
    unfold compileHandler at h
    by_cases hempty : handler = []
    · subst hempty
      cases h
    · have hisEmpty : ¬ handler.isEmpty = true := by simpa using hempty
      rw [if_neg hisEmpty, map_eq_error_iff] at h
      refine ⟨hempty, ?_⟩
      rcases compileLevel_eq_error h with h | h
      · exact h
      · obtain ⟨r, hr, hhandler, h⟩ := compileHandlers_eq_error handler h
        exact .inside hr hhandler h

theorem compileHandlers_eq_error {flags : String} {maxDepth depth : Int} {e : Failure} :
    ∀ rules : List Rule, compileHandlers flags maxDepth depth rules = .error e →
      ∃ r ∈ rules, r.handler ≠ [] ∧ Stops flags r.handler e
  | [], h => by cases h
  | r :: rest, h => by
    unfold compileHandlers at h
    rcases bind_eq_error_iff.mp h with h | ⟨a, -, h⟩
    · exact ⟨r, List.mem_cons_self, compileHandler_eq_error r h⟩
    rcases bind_eq_error_iff.mp h with h | ⟨as, -, h⟩
    · obtain ⟨s, hs, h⟩ := compileHandlers_eq_error rest h
      exact ⟨s, List.mem_cons_of_mem _ hs, h⟩
    · cases h

end

/-! ## Sets of rules -/

theorem misregistered?_eq_none_iff {rules : RuleSet} : rules.misregistered? = none ↔
    ∀ entries, rules = .keyed entries → ∀ e ∈ entries, e.1 = e.2.name := by
  cases rules with
  | sequence rs => simp [RuleSet.misregistered?]
  | keyed es => simp [RuleSet.misregistered?]

/-- A set of rules is compiled as its level is, if no rule is kept under a key that is not its
name. -/
theorem compile_eq {rules : RuleSet} {flags : String} {maxDepth : Int} :
    compile rules flags maxDepth =
      match rules.misregistered? with
      | some (key, r) => .error (.grammar (.misregistered r.name key))
      | none => (compileLevel flags maxDepth 0 rules.rules fun _ =>
          compileHandlers flags maxDepth 0 rules.rules).map fun level => ⟨flags, maxDepth, level⟩ := by
  unfold compile
  cases rules.misregistered? with
  | some entry => rfl
  | none =>
    dsimp only
    cases compileLevel flags maxDepth 0 rules.rules fun _ =>
      compileHandlers flags maxDepth 0 rules.rules <;> rfl

theorem succeeds_compile_iff {rules : RuleSet} {flags : String} {maxDepth : Int} :
    Succeeds (compile rules flags maxDepth) ↔ rules.WellFormed flags maxDepth := by
  rw [compile_eq]
  cases hkeys : rules.misregistered? with
  | some entry =>
    constructor
    · intro h
      exact absurd h (not_succeeds_error _)
    · intro h
      rw [misregistered?_eq_none_iff.mpr h.keys] at hkeys
      cases hkeys
  | none =>
    dsimp only
    rw [succeeds_map_iff, succeeds_compileLevel_iff, succeeds_compileHandlers_iff,
      ← wellFormedBelow_iff]
    constructor
    · intro h
      exact ⟨misregistered?_eq_none_iff.mp hkeys, h⟩
    · intro h
      exact h.below

theorem stops_of_compile_eq_error {rules : RuleSet} {flags : String} {maxDepth : Int} {e : Failure}
    (h : compile rules flags maxDepth = .error e) : Stops flags rules.rules e := by
  rw [compile_eq] at h
  cases hkeys : rules.misregistered? with
  | some entry =>
    rw [hkeys] at h
    cases h
    exact .own _ _
  | none =>
    rw [hkeys] at h
    dsimp only at h
    rw [map_eq_error_iff] at h
    rcases compileLevel_eq_error h with h | h
    · exact h
    · obtain ⟨r, hr, hhandler, h⟩ := compileHandlers_eq_error _ h
      exact .inside hr hhandler h

theorem compile_eq_error {rules : RuleSet} {flags : String} {maxDepth : Int} {e : Failure}
    (h : compile rules flags maxDepth = .error e) : StopsWith flags rules.rules e :=
  (stops_of_compile_eq_error h).stopsWith

/-- **A set of rules is accepted exactly if it is well-formed.** What stops one that is not is an
error of the grammar, or the failure of a pattern that had to be compiled. -/
theorem accepted_iff_wellFormed (rules : RuleSet) (flags : String) (maxDepth : Int) :
    ((∃ g, compile rules flags maxDepth = .ok g) ↔ rules.WellFormed flags maxDepth) ∧
      ∀ e, compile rules flags maxDepth = .error e →
        (∃ e', e = .grammar e') ∨ Needs flags rules.rules (.error e) :=
  ⟨succeeds_compile_iff, fun _ he => compile_eq_error he⟩

end Grammar

end Highlighting
