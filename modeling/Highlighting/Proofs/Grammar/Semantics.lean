import Highlighting.Proofs.Grammar.Built

/-!
# What a grammar means

A text can be colored without compiling rules first: it is cut into tokens by the alternation of
the rules, and a token is replaced by its rule, which looks up the siblings that it names in its
level whenever it needs them. This recursion descends in handlers and follows siblings, so it
ends only because siblings do not name each other in a circle. It is given fuel, and it ends if
with enough of it the result is always the same. On its way it notes which calls are open, so
that the way it takes can be spoken about.

A grammar does what this recursion says, if a token is the text of its rule's group. It is the
text of the match too if no pattern runs into the bracket behind it.

## Main definitions

* `Call` -- a call that replaces a token.
* `Coloring`, `Yields` -- a computation that may not end, and the result that it ends with.
* `TokenReading`, `capturedToken`, `matchedToken` -- how a match is read as a token of a rule.
* `Spec.color`, `Spec.replace` -- a text and a token of a rule, colored by the rules themselves.
* `Admits` -- what holds of open calls holds when one more is opened.
-/
namespace Highlighting

/-! ## Computations that may not end -/

/-- A call that replaces a token of a rule. The level is given by the names of the rules whose
handlers lead to it, the last one first. -/
structure Call where
  path : List String
  name : String
deriving DecidableEq

/-- A computation that may fail, or run out of fuel, and that notes calls that are open. -/
abbrev Coloring := ExceptT Failure (StateT (List (List Call)) Option)

namespace Coloring

/-- There is no fuel left. -/
def exhausted {α : Type} : Coloring α := ExceptT.mk fun _ => none

/-- Note the calls that are open. -/
def note (calls : List Call) : Coloring Unit := modify (calls :: ·)

end Coloring

/-- The computation ends, with this result: it is the result for all fuel from some on. All that
is noted are calls of some kind. -/
def Yields {α : Type} (P : List Call → Prop) (x : Nat → Coloring α) (y : Except Failure α) : Prop :=
  ∃ n, ∀ fuel, n ≤ fuel → ∀ log, ∃ new,
    (x fuel).run.run log = some (y, new ++ log) ∧ ∀ calls ∈ new, P calls

namespace Yields
variable {α β : Type} {P : List Call → Prop}

theorem lift (y : Except Failure α) : Yields P (fun _ => liftM y) y := by
  refine ⟨0, fun fuel _ log => ⟨[], ?_, by simp⟩⟩
  cases y <;> rfl

theorem pure (a : α) : Yields P (fun _ => Pure.pure a) (.ok a) := lift (.ok a)

theorem note {calls : List Call} (h : P calls) : Yields P (fun _ => Coloring.note calls) (.ok ()) :=
  ⟨0, fun _ _ _ => ⟨[calls], rfl, by simpa using h⟩⟩

/-- One computation after another. -/
theorem bind {x : Nat → Coloring α} {y : Except Failure α} {f : Nat → α → Coloring β}
    {f' : α → Except Failure β} (h : Yields P x y)
    (hf : ∀ a, y = .ok a → Yields P (fun fuel => f fuel a) (f' a)) :
    Yields P (fun fuel => x fuel >>= f fuel) (y >>= f') := by
  obtain ⟨n, hn⟩ := h
  cases y with
  | ok a =>
    obtain ⟨n', hn'⟩ := hf a rfl
    refine ⟨max n n', fun fuel hfuel log => ?_⟩
    obtain ⟨new, hrun, hnew⟩ := hn fuel (Nat.le_trans (Nat.le_max_left n n') hfuel) log
    obtain ⟨new', hrun', hnew'⟩ :=
      hn' fuel (Nat.le_trans (Nat.le_max_right n n') hfuel) (new ++ log)
    refine ⟨new' ++ new, ?_, List.forall_mem_append.mpr ⟨hnew', hnew⟩⟩
    have hok : (Except.ok a >>= f') = f' a := rfl
    rw [ExceptT.run_bind, StateT.run_bind, hrun, hok]
    simpa using hrun'
  | error e =>
    refine ⟨n, fun fuel hfuel log => ?_⟩
    obtain ⟨new, hrun, hnew⟩ := hn fuel hfuel log
    refine ⟨new, ?_, hnew⟩
    rw [ExceptT.run_bind, StateT.run_bind, hrun]
    rfl

theorem map {x : Nat → Coloring α} {y : Except Failure α} {f : α → β} (h : Yields P x y) :
    Yields P (fun fuel => x fuel >>= fun a => Pure.pure (f a)) (y.map f) := by
  have := h.bind fun a _ => pure (f a)
  cases y <;> exact this

/-- What follows a failure does not matter. -/
theorem error_bind (e : Failure) (f : Nat → α → Coloring β) :
    Yields P (fun fuel => liftM (Except.error e) >>= f fuel) (.error e) :=
  ⟨0, fun _ _ _ => ⟨[], rfl, by simp⟩⟩

/-- One computation for each of some values. -/
theorem mapM {f : Nat → α → Coloring β} {f' : α → Except Failure β} {xs : List α}
    (h : ∀ x ∈ xs, Yields P (fun fuel => f fuel x) (f' x)) :
    Yields P (fun fuel => xs.mapM (f fuel)) (xs.mapM f') := by
  induction xs with
  | nil => exact .pure []
  | cons x xs ih =>
    simp only [List.mapM_cons]
    exact (h x List.mem_cons_self).bind fun y _ =>
      (ih fun x' hx' => h x' (List.mem_cons_of_mem _ hx')).bind fun ys _ => .pure (y :: ys)

/-- One of two computations. -/
theorem ite {p : Prop} [Decidable p] {x x' : Nat → Coloring α} {y : Except Failure α}
    (hpos : p → Yields P x y) (hneg : ¬ p → Yields P x' y) :
    Yields P (fun fuel => if p then x fuel else x' fuel) y := by
  by_cases hp : p
  · simpa only [if_pos hp] using hpos hp
  · simpa only [if_neg hp] using hneg hp

/-- The result, whatever is noted. -/
theorem result {x : Nat → Coloring α} {y : Except Failure α} (h : Yields P x y) :
    ∃ n, ∀ fuel, n ≤ fuel → ((x fuel).run.run []).map Prod.fst = some y := by
  obtain ⟨n, hn⟩ := h
  refine ⟨n, fun fuel hfuel => ?_⟩
  obtain ⟨new, hrun, -⟩ := hn fuel hfuel []
  rw [hrun]
  rfl

/-- What takes one more step ends if the rest does. -/
theorem step {x : Nat → Coloring α} {y : Except Failure α}
    (h : Yields P (fun fuel => x (fuel + 1)) y) : Yields P x y := by
  obtain ⟨n, hn⟩ := h
  refine ⟨n + 1, fun fuel hfuel => ?_⟩
  obtain ⟨k, rfl⟩ : ∃ k, fuel = k + 1 := ⟨fuel - 1, by omega⟩
  exact hn k (by omega)

end Yields

/-! ## Coloring by the rules themselves -/

/-- How a match is read: the rule that it is a token of, and the text of the token. -/
abbrev TokenReading := (rules : List Rule) → Match → Except Failure (Rule × Text)

/-- A token is the text of the group of the one rule that took part in a match. -/
def capturedToken : TokenReading := fun rules m => do
  let (name, capture) ← resolve (rules.map (·.name)) m
  match rules.find? (·.name == name) with
  | some r => return (r, capture.value)
  | none => throw (.missingKey (quotedString name))

/-- A token is the text of a match, and its rule the first that took part in it. -/
def matchedToken : TokenReading := fun rules m =>
  match rules.find? (fun r => m.contains r.name) with
  | some r => .ok (r, m.full)
  | none => .error (.resolution (.ambiguous m.full m.start [] []))

namespace Spec

/-- A token of a rule of a level, replaced by one more call, given how to color the inside: by
which rules of which level, which calls are then open, and where the level lies. -/
def replace
    (color : (level rules : List Rule) → List Call → List String → (text escape : Text) →
      Coloring Text)
    (level : List Rule) (r : Rule) (calls : List Call) (path : List String) (chars escape : Text) :
    Coloring Text := do
  let calls := ⟨path, r.name⟩ :: calls
  Coloring.note calls
  let inner := restored r.escape escape
  let chars ← liftM (r.transformed chars)
  let chars ← (if r.handler = [] then pure chars
    else color r.handler r.handler calls (r.name :: path) chars inner)
  let chars ← (if r.rematch = [] then pure chars
    else color level (siblings level r) calls path chars inner)
  return wrap r.escape chars escape

/-- A text in which each token of some rules of a level is replaced, and matches of no text are
dropped. -/
def color (flags : String) (read : TokenReading) : (fuel : Nat) → (level rules : List Rule) →
    List Call → List String → (text escape : Text) → Coloring Text
  | 0, _, _, _, _, _, _ => Coloring.exhausted
  | fuel + 1, level, rules, calls, path, text, escape => do
    let pattern ← liftM (Pattern.compile (Rule.alternation rules) flags)
    let scan := pattern.scan text
    let parts ← scan.found.mapM fun m => do
      let new ← (if m.full = [] then pure [] else do
        let token ← liftM (read rules m)
        replace (color flags read fuel) level token.1 calls path token.2 escape)
      return (m, new)
    let _ ← liftM scan.toExcept
    return Pattern.splice text 0 parts

/-- What coloring a text by some rules comes to. -/
def result (flags : String) (read : TokenReading) (rules : List Rule) (text escape : Text)
    (fuel : Nat) : Option (Except Failure Text) :=
  ((color flags read fuel rules rules [] [] text escape).run.run []).map Prod.fst

end Spec

/-! ## Rules and their nodes -/

theorem renderNamed_of_find? {nodes : List Node} {n : Node} {name : String}
    (h : nodes.find? (·.name == name) = some n) (chars escape : Text) :
    renderNamed nodes name chars escape = n.render chars escape := by
  induction nodes with
  | nil => cases h
  | cons n' nodes ih =>
    unfold renderNamed
    rw [List.find?_cons] at h
    split at h
    · next heq =>
      cases h
      rw [if_pos (beq_iff_eq.mp heq)]
    · next hne =>
      rw [if_neg (by simpa using hne)]
      exact ih h

/-- A match is resolved to one of the names. -/
theorem mem_of_resolve_eq_ok {names : List String} {m : Match} {found : String × Capture}
    (h : resolve names m = .ok found) : found.1 ∈ names := by
  unfold resolve at h
  split at h
  · next c hc =>
    cases h
    have : c ∈ m.groups.filter fun c => names.contains c.name := by
      rw [hc]
      exact List.mem_singleton_self c
    simpa using (List.mem_filter.mp this).2
  · cases h

/-- What holds of open calls holds when a rule's token is replaced: `Q` may hold of a rule at a
level where some calls are open, and then `P` holds of these and the rule's own, and `Q` of the
rules for the inside of the token. -/
structure Admits (P : List Call → Prop)
    (Q : List Rule → List String → List Call → Rule → Prop) : Prop where
  opens : ∀ {level path calls r}, Q level path calls r → P (⟨path, r.name⟩ :: calls)
  handler : ∀ {level path calls r}, Q level path calls r → ∀ s ∈ r.handler,
    Q r.handler (r.name :: path) (⟨path, r.name⟩ :: calls) s
  sibling : ∀ {level path calls r}, Q level path calls r → ∀ s ∈ siblings level r,
    Q level path (⟨path, r.name⟩ :: calls) s

section Replacing
variable {flags : String} {read : TokenReading} {level : List Rule} {P : List Call → Prop}
  {calls : List Call} {path : List String}

/-- A token of a node is replaced as its rule says, if its inside is colored so. -/
theorem Node.yields_render {rule : Rule} {handler rematch : Option (Alternation Node)}
    (hopen : P (⟨path, rule.name⟩ :: calls)) (hhandler : handler = none ↔ rule.handler = [])
    (hrematch : rematch = none ↔ rule.rematch = [])
    (hinside : ∀ a, handler = some a → ∀ text escape,
      Yields P (fun fuel => Spec.color flags read fuel rule.handler rule.handler
        (⟨path, rule.name⟩ :: calls) (rule.name :: path) text escape) (a.substitute text escape))
    (hsiblings : ∀ a, rematch = some a → ∀ text escape,
      Yields P (fun fuel => Spec.color flags read fuel level (siblings level rule)
        (⟨path, rule.name⟩ :: calls) path text escape) (a.substitute text escape))
    (chars escape : Text) :
    Yields P
      (fun fuel => Spec.replace (Spec.color flags read fuel) level rule calls path chars escape)
      ((mk rule handler rematch).render chars escape) := by
  have hrender : (mk rule handler rematch).render chars escape = (do
      Except.ok ()
      let chars ← rule.transformed chars
      let chars ← recolor handler chars (restored rule.escape escape)
      let chars ← recolor rematch chars (restored rule.escape escape)
      return wrap rule.escape chars escape) := rfl
  rw [hrender]
  unfold Spec.replace
  refine (Yields.note hopen).bind fun _ _ => (Yields.lift _).bind fun chars _ => .bind ?_
    fun chars _ => .bind ?_ fun chars _ => .pure _
  · refine .ite (fun hnil => ?_) fun hne => ?_
    · rw [hhandler.mpr hnil]
      exact .pure chars
    · obtain ⟨a, ha⟩ := Option.ne_none_iff_exists'.mp (mt hhandler.mp hne)
      subst ha
      exact hinside a rfl chars _
  · refine .ite (fun hnil => ?_) fun hne => ?_
    · rw [hrematch.mpr hnil]
      exact .pure chars
    · obtain ⟨a, ha⟩ := Option.ne_none_iff_exists'.mp (mt hrematch.mp hne)
      subst ha
      exact hsiblings a rfl chars _

/-- A match with some text is replaced by the node of its rule. -/
theorem yields_renderNamed {nodes : List Node} {escape : Text}
    (hnode : ∀ n ∈ nodes, ∀ chars,
      Yields P (fun fuel => Spec.replace (Spec.color flags read fuel) level n.rule calls path chars
        escape) (n.render chars escape))
    (m : Match) :
    Yields P (fun fuel =>
      liftM (capturedToken (nodes.map Node.rule) m) >>= fun token =>
        Spec.replace (Spec.color flags read fuel) level token.1 calls path token.2 escape)
      (resolve (nodes.map Node.name) m >>= fun found =>
        renderNamed nodes found.1 found.2.value escape) := by
  have hnames : (nodes.map Node.rule).map (·.name) = nodes.map Node.name := by
    rw [List.map_map]
    rfl
  cases hresolve : resolve (nodes.map Node.name) m with
  | error e =>
    have htoken : capturedToken (nodes.map Node.rule) m = .error e := by
      unfold capturedToken
      rw [hnames, hresolve]
      rfl
    rw [htoken]
    exact .error_bind e _
  | ok found =>
    have hmem := mem_of_resolve_eq_ok hresolve
    obtain ⟨n, hn⟩ := Option.isSome_iff_exists.mp
      (List.find?_isSome.mpr (by simpa using hmem) : (nodes.find? (·.name == found.1)).isSome)
    have hrule : (nodes.map Node.rule).find? (·.name == found.1) = some n.rule := by
      rw [List.find?_map]
      exact congrArg (Option.map Node.rule) hn
    have htoken : capturedToken (nodes.map Node.rule) m = .ok (n.rule, found.2.value) := by
      unfold capturedToken
      rw [hnames, hresolve]
      change (match (nodes.map Node.rule).find? (·.name == found.1) with
        | some r => Except.ok (r, found.2.value)
        | none => _) = _
      rw [hrule]
    have hrender : (Except.ok found >>= fun found => renderNamed nodes found.1 found.2.value escape) =
        (Except.ok (n.rule, found.2.value) >>= fun token => n.render token.2 escape) := by
      change renderNamed nodes found.1 found.2.value escape = n.render found.2.value escape
      exact renderNamed_of_find? hn _ _
    rw [htoken, hrender]
    refine (Yields.lift _).bind fun token htoken => ?_
    cases htoken
    exact hnode n (List.mem_of_find?_eq_some hn) _

end Replacing

/-- **An alternation colors a text as its rules say**, however tokens are read, if they are read as
the texts of groups wherever the rules are admitted. What is noted on the way are open calls that
are admitted. -/
theorem Alternation.Built.yields_color {flags : String} {read : TokenReading}
    {P : List Call → Prop} {Q : List Rule → List String → List Call → Rule → Prop}
    (hadmits : Admits P Q)
    (hread : ∀ {level rules : List Rule} {path : List String} {calls : List Call}
      {a : Alternation Node}, a.Built flags level rules → (∀ r ∈ rules, Q level path calls r) →
      ∀ {s : Text} {m : Match}, a.pattern.Finds s m → m.full ≠ [] →
        read rules m = capturedToken rules m)
    {level rules : List Rule} {path : List String} {calls : List Call} {a : Alternation Node}
    (h : a.Built flags level rules) (hrules : ∀ r ∈ rules, Q level path calls r)
    (text escape : Text) :
    Yields P (fun fuel => Spec.color flags read fuel level rules calls path text escape)
      (a.substitute text escape) := by
  have hreads := @hread level rules path calls a h hrules
  induction h generalizing path calls text escape with
  | @mk level rules pattern nodes _ hmem _ _ hpattern hnodes hhandler hrematch hhandlers hrematches
      ihhandlers ihrematches =>
    have hnode : ∀ n ∈ nodes, ∀ chars, Yields P (fun fuel =>
        Spec.replace (Spec.color flags read fuel) level n.rule calls path chars escape)
        (n.render chars escape) := by
      intro n hn chars
      have hin : n.rule ∈ rules := hnodes ▸ List.mem_map_of_mem hn
      have hQ := hrules _ hin
      obtain ⟨rule, handler, rematch⟩ := n
      refine Node.yields_render (hadmits.opens hQ) (hhandler _ hn) (hrematch _ hn) ?_ ?_ chars escape
      · intro a ha t e
        exact ihhandlers _ hn a ha (hadmits.handler hQ) t e
          (hread (hhandlers _ hn a ha) (hadmits.handler hQ))
      · intro a ha t e
        exact ihrematches _ hn a ha (hadmits.sibling hQ) t e
          (hread (hrematches _ hn a ha) (hadmits.sibling hQ))
    refine Yields.step ?_
    unfold substitute Pattern.replaceM
    simp only [Spec.color, hpattern]
    change Yields P (fun fuel => (pattern.scan text).found.mapM _ >>= _) _
    refine (Yields.mapM fun m hm => ?_).bind fun parts _ => ?_
    · refine Yields.map (Yields.ite (fun hempty => ?_) fun hfull => ?_)
      · rw [if_pos hempty]
        exact .pure []
      · rw [if_neg hfull, hreads (Pattern.finds_of_mem_scan hm) hfull, ← hnodes]
        exact yields_renderNamed hnode m
    · generalize pattern.scan text = scan
      obtain ⟨found, failure⟩ := scan
      cases failure with
      | some e => exact .error_bind e _
      | none => exact .pure _

/-! ## How tokens are read -/

/-- Where a match is resolved to a rule whose group has the text of the match, it is read as a
match. -/
theorem matchedToken_eq_captured {rules : List Rule} {m : Match} {name : String}
    (h : resolve (rules.map (·.name)) m = .ok (name, ⟨name, m.full, 0⟩)) :
    matchedToken rules m = capturedToken rules m := by
  have hmem := mem_of_resolve_eq_ok h
  have hfired : m.groups.filter (fun c => (rules.map (·.name)).contains c.name) =
      [⟨name, m.full, 0⟩] := by
    unfold resolve at h
    split at h
    · next c hc =>
      obtain rfl : c = ⟨name, m.full, 0⟩ := congrArg Prod.snd (Except.ok.inj h)
      exact hc
    · cases h
  -- Of the groups of the rules, only that of the one rule took part.
  have hcontains : ∀ r ∈ rules, m.contains r.name = (r.name == name) := by
    intro r hr
    have hname : r.name ∈ rules.map (·.name) := List.mem_map_of_mem hr
    rw [Bool.eq_iff_iff, beq_iff_eq, Match.contains, Match.capture?, List.find?_isSome]
    constructor
    · rintro ⟨c, hc, hcname⟩
      have hcname : c.name = r.name := by simpa using hcname
      have : c ∈ m.groups.filter fun c => (rules.map (·.name)).contains c.name :=
        List.mem_filter.mpr ⟨hc, by simpa [hcname] using hname⟩
      rw [hfired, List.mem_singleton] at this
      rw [← hcname, this]
    · rintro rfl
      have : ⟨r.name, m.full, 0⟩ ∈ m.groups.filter fun c => (rules.map (·.name)).contains c.name := by
        rw [hfired]
        exact List.mem_singleton_self _
      exact ⟨_, (List.mem_filter.mp this).1, by simp⟩
  obtain ⟨r, hr⟩ := Option.isSome_iff_exists.mp
    (List.find?_isSome.mpr (by simpa using hmem) : (rules.find? (·.name == name)).isSome)
  have hfind : rules.find? (fun r => m.contains r.name) = some r := by
    rw [← hr, ← List.head?_filter, ← List.head?_filter, List.filter_congr hcontains]
  unfold matchedToken capturedToken
  rw [hfind, h]
  change _ = match rules.find? (·.name == name) with
    | some r => Except.ok (r, m.full)
    | none => _
  rw [hr]

theorem Alternation.Built.rules_ne_nil {flags : String} {level rules : List Rule}
    {a : Alternation Node} (h : a.Built flags level rules) : rules ≠ [] := by
  cases h with
  | mk hrules => exact hrules

/-- If no pattern runs into the bracket behind it, tokens are matches. -/
theorem Alternation.Built.matchedToken_eq {flags : String} {level rules : List Rule}
    {a : Alternation Node} (h : a.Built flags level rules) (hclose : BracketsClose flags level)
    {s : Text} {m : Match} (hm : a.pattern.Finds s m) (hfull : m.full ≠ []) :
    matchedToken rules m = capturedToken rules m := by
  obtain ⟨bs, hbs, hnames⟩ := h.chooses hclose
  obtain ⟨b, hb, hresolve⟩ := hbs.resolve_eq hm hfull
  cases h with
  | @mk _ _ _ nodes _ _ _ _ _ hnodes =>
    have hnames' : (nodes.map Node.rule).map (·.name) = bs.map (·.name) := by
      rw [List.map_map]
      exact hnames.symm
    rw [← hnodes]
    exact matchedToken_eq_captured (hnames' ▸ hresolve)

namespace Grammar

/-- **A compiled grammar does what its rules say.** For every accepted set of rules, every text
and every escape, coloring the text by the rules themselves ends, and with the grammar's result,
if a token is the text of its rule's group. If no pattern runs into the bracket behind it, a token
is the text of its match: then no more than the alternation of the rules is needed to cut a text
into tokens. -/
theorem substitute_eq_spec {rules : RuleSet} {flags : String} {maxDepth : Int} {g : Grammar}
    (h : compile rules flags maxDepth = .ok g) (text escape : Text) :
    (∃ n, ∀ fuel, n ≤ fuel → Spec.result flags capturedToken rules.rules text escape fuel =
        some (g.substitute text escape)) ∧
      (BracketsClose flags rules.rules →
        ∃ n, ∀ fuel, n ≤ fuel → Spec.result flags matchedToken rules.rules text escape fuel =
          some (g.substitute text escape)) := by
  have hbuilt := built_of_compile h
  constructor
  · have hadmits : Admits (fun _ => True) fun _ _ _ _ => True :=
      ⟨fun _ => trivial, fun _ _ _ => trivial, fun _ _ _ => trivial⟩
    exact (hbuilt.yields_color hadmits (fun _ _ _ _ _ _ => rfl) (fun _ _ => trivial) text
      escape).result
  · intro hclose
    have hadmits : Admits (fun _ => True) fun level _ _ r => BracketsClose flags level ∧ r ∈ level :=
      ⟨fun _ => trivial, fun h s hs => ⟨h.1.handler h.2, hs⟩,
        fun h s hs => ⟨h.1, mem_of_mem_siblings hs⟩⟩
    refine (hbuilt.yields_color hadmits ?_ (fun r hr => ⟨hclose, hr⟩) text escape).result
    intro level rules' path calls a hbuilt' hrules s m hm hfull
    obtain ⟨r, hr⟩ := List.exists_mem_of_ne_nil _ hbuilt'.rules_ne_nil
    exact hbuilt'.matchedToken_eq (hrules r hr).1 hm hfull

/-- So the rules color a pair with a word in it, for one, as the grammar does. -/
theorem substitute_eq_spec_nested : ∃ n, ∀ fuel, n ≤ fuel →
    Spec.result "ms" matchedToken nested.rules "ab=1".toList "\x1b[0m".toList fuel =
      some (.ok "\x1b[4m\x1b[1m\x1b[2ma\x1b[1mb\x1b[4m=1\x1b[0m".toList) := by
  obtain ⟨g, hcompile, hrun⟩ := bind_eq_ok_iff.mp (show
    (compile nested "ms" 16 >>= fun g => g.substitute "ab=1".toList "\x1b[0m".toList) =
      .ok "\x1b[4m\x1b[1m\x1b[2ma\x1b[1mb\x1b[4m=1\x1b[0m".toList by decide +kernel)
  have hclose : BracketsClose "ms" nested.rules := fun hx => absurd hx (by decide)
  have h := (substitute_eq_spec hcompile "ab=1".toList "\x1b[0m".toList).2 hclose
  rwa [hrun] at h

/-- Where a pattern runs into the bracket behind it, a token is less than its match: the grammar
drops a character that the rules keep. -/
theorem substitute_ne_spec_behind_comment :
    (∃ n, ∀ fuel, n ≤ fuel → Spec.result "x" matchedToken (swallowing none).rules ['x', 'z'] [] fuel =
        some (.ok ['x', 'z'])) ∧
      ∃ g, compile (swallowing none) "x" 16 = .ok g ∧ g.substitute ['x', 'z'] [] = .ok ['x'] := by
  constructor
  · obtain ⟨p, hp, hscan⟩ := bind_eq_ok_iff.mp (show
      (Pattern.compile (Rule.alternation (swallowing none).rules) "x" >>= fun p =>
        Except.ok (p.scan ['x', 'z'])) =
        .ok ⟨[⟨['x', 'z'], 0, [⟨"a", ['x'], 0⟩]⟩], none⟩ by decide +kernel)
    have hyields : Yields (fun _ => True) (fun fuel => Spec.color "x" matchedToken fuel
        (swallowing none).rules (swallowing none).rules [] [] ['x', 'z'] []) (.ok ['x', 'z']) := by
      refine Yields.step ⟨0, fun fuel _ log => ⟨[[⟨[], "a"⟩]], ?_, by simp⟩⟩
      simp only [Spec.color, hp]
      change (((p.scan ['x', 'z']).found.mapM _ >>= _ : Coloring Text).run.run log) = _
      rw [Except.ok.inj hscan]
      rfl
    exact hyields.result
  · obtain ⟨g, hcompile, hrun⟩ := bind_eq_ok_iff.mp (show
      (compile (swallowing none) "x" 16 >>= fun g => g.substitute ['x', 'z'] []) = .ok ['x'] by
        decide +kernel)
    exact ⟨g, hcompile, hrun⟩

end Grammar

end Highlighting
