import Highlighting.Proofs.Grammar.Steps
import Highlighting.Proofs.Grammar.Tokens

/-!
# The escape around a text

The escape that is restored behind the tokens of a text is handed down into the tokens of rules
without a style, and what they are colored with is put together with it. It is never searched: a
rule with a style searches the inside of its tokens with its own style at hand, and a rule without
one hands its result on, unless it has both a handler and siblings. So the escape fills places in a
text that is the same whatever the escape is, and the steps of coloring are the same, too.

## Main definitions

* `Template`, `Template.fill` -- a text with places to be filled.
* `Alternation.template` -- what coloring a text comes to, whatever is restored.

## Main statements

* `Grammar.substitute_eq_fill` -- the escape fills places, and nothing else depends on it.
-/
namespace Highlighting

/-! ## Texts with places to be filled -/

/-- A piece of a template. -/
inductive Template.Piece where
  | literal (t : Text)
  /-- A place for the escape. -/
  | hole
deriving DecidableEq, Repr

/-- A text with places to be filled. -/
abbrev Template := List Template.Piece

namespace Template

/-- A piece with an escape in its place. -/
def Piece.fill (escape : Text) : Piece → Text
  | literal t => t
  | hole => escape

/-- The text in which an escape fills all places. -/
def fill (escape : Text) (pieces : Template) : Text :=
  pieces.flatMap (Piece.fill escape)

@[simp] theorem fill_nil (escape : Text) : fill escape [] = [] := rfl

@[simp] theorem fill_cons (escape : Text) (piece : Piece) (pieces : Template) :
    fill escape (piece :: pieces) = piece.fill escape ++ fill escape pieces := rfl

@[simp] theorem fill_append (escape : Text) (pieces pieces' : Template) :
    fill escape (pieces ++ pieces') = fill escape pieces ++ fill escape pieces' :=
  List.flatMap_append

/-- A subject from a position on, with a template in place of every match. -/
def splice (subject : Text) : (last : Nat) → List (Match × Template) → Template
  | last, [] => [.literal (subject.drop last)]
  | last, (m, new) :: rest =>
    .literal (subject.slice last m.start.toNat) :: new ++ splice subject m.stop.toNat rest

theorem fill_splice (subject escape : Text) (last : Nat) (parts : List (Match × Template)) :
    fill escape (splice subject last parts) =
      Pattern.splice subject last (parts.map fun (m, new) => (m, fill escape new)) := by
  induction parts generalizing last with
  | nil => simp [splice, Pattern.splice, Piece.fill]
  | cons part parts ih => simp [splice, Pattern.splice, Piece.fill, ih]

end Template

/-! ## The template of a text -/

mutual

/-- What a token of a node's rule comes to. A rule without a style hands on what its one stage has
found; a rule with a style is searched with the style at hand. -/
def Node.template : Node → (chars : Text) → Except Failure Template
  | .mk rule handler rematch, chars => do
    let chars ← rule.transformed chars
    if rule.escape = [] then
      if handler.isNone then templateInside rematch chars else templateInside handler chars
    else
      let chars ← recolor handler chars rule.escape
      let chars ← recolor rematch chars rule.escape
      return [.literal (rule.escape ++ chars), .hole]

/-- What coloring a text comes to, if there is an alternation for it. -/
def templateInside : Option (Alternation Node) → (text : Text) → Except Failure Template
  | none, text => .ok [.literal text]
  | some a, text => a.template text

/-- What coloring a text comes to. -/
def Alternation.template : Alternation Node → (text : Text) → Except Failure Template
  | ⟨pattern, nodes⟩, text =>
    pattern.gatherM text (Template.splice text 0) fun m =>
      if m.full = [] then .ok []
      else do
        let (name, capture) ← resolve (nodes.map Node.name) m
        templateNamed nodes name capture.value

/-- What a token comes to by the node of a name. -/
def templateNamed : List Node → (name : String) → (chars : Text) → Except Failure Template
  | [], _, chars => .ok [.literal chars]
  | n :: rest, name, chars =>
    if n.name = name then n.template chars else templateNamed rest name chars

end

/-- No rule without a style has both a handler and siblings for the inside of its tokens. -/
def SearchesOnce (rules : List Rule) : Prop :=
  ∀ r, InTree rules r → r.escape = [] → r.handler = [] ∨ r.rematch = []

theorem SearchesOnce.handler {rules : List Rule} (h : SearchesOnce rules) {r : Rule}
    (hr : r ∈ rules) : SearchesOnce r.handler :=
  fun s hs => h s (.inside hr hs)

section Inside
variable {o : Option (Alternation Node)}

/-- Where nothing is searched, the text stays as it is. -/
theorem recolor_none_eq_fill (text escape : Text) :
    recolor none text escape = (templateInside none text).map (Template.fill escape) :=
  congrArg Except.ok (List.append_nil text).symm

theorem recolor_eq_fill (h : ∀ a, o = some a → ∀ text escape,
      a.substitute text escape = (a.template text).map (Template.fill escape))
    (text escape : Text) :
    recolor o text escape = (templateInside o text).map (Template.fill escape) := by
  cases o with
  | none => exact recolor_none_eq_fill text escape
  | some a => exact h a rfl text escape

theorem stepsInside_eq (h : ∀ a, o = some a → ∀ path text escape escape',
      a.steps path text escape = a.steps path text escape')
    (path : Path) (text escape escape' : Text) :
    stepsInside o path text escape = stepsInside o path text escape' := by
  cases o with
  | none => rfl
  | some a => exact h a rfl path text escape escape'

end Inside

section Escape
variable {rule : Rule} {handler rematch : Option (Alternation Node)}

/-- The escape fills the places of a token, if it does so in what a rule without a style hands
on. -/
theorem Node.render_eq_fill (honce : rule.escape = [] → handler = none ∨ rematch = none)
    (hhandler : ∀ t escape,
      recolor handler t escape = (templateInside handler t).map (Template.fill escape))
    (hrematch : ∀ t escape,
      recolor rematch t escape = (templateInside rematch t).map (Template.fill escape))
    (chars escape : Text) :
    (mk rule handler rematch).render chars escape =
      ((mk rule handler rematch).template chars).map (Template.fill escape) := by
  unfold render template
  dsimp only
  cases rule.transformed chars with
  | error e => rfl
  | ok chars =>
    change (recolor handler chars _ >>= _) = (ite _ _ _ : Except Failure Template).map _
    by_cases hstyle : rule.escape = []
    · -- One stage is empty, and the result of the other is handed on.
      simp only [restored, wrap, if_pos hstyle]
      rcases honce hstyle with rfl | rfl
      · change (recolor rematch chars escape >>= _) = _
        rw [hrematch]
        cases templateInside rematch chars <;> rfl
      · rw [hhandler]
        cases handler with
        | none => rfl
        | some a => cases templateInside (some a) chars <;> rfl
    · simp only [restored, wrap, if_neg hstyle]
      cases recolor handler chars rule.escape with
      | error e => rfl
      | ok chars =>
        change (recolor rematch chars _ >>= _) = (recolor rematch chars _ >>= _ : Except _ _).map _
        cases recolor rematch chars rule.escape with
        | error e => rfl
        | ok chars => exact congrArg (fun t => Except.ok (_ ++ t)) (List.append_nil escape).symm

/-- The steps of rendering a token do not depend on the escape, if those of coloring what a rule
without a style hands on do not. -/
theorem Node.steps_eq (honce : rule.escape = [] → handler = none ∨ rematch = none)
    (hhandler : ∀ path t escape escape',
      stepsInside handler path t escape = stepsInside handler path t escape')
    (hrematch : ∀ path t escape escape',
      stepsInside rematch path t escape = stepsInside rematch path t escape')
    (path : Path) (start : Int) (chars escape escape' : Text) :
    (mk rule handler rematch).steps path start chars escape =
      (mk rule handler rematch).steps path start chars escape' := by
  unfold steps
  by_cases hstyle : rule.escape = []
  · simp only [restored, if_pos hstyle]
    cases rule.transformed chars with
    | error e => rfl
    | ok chars =>
      dsimp only
      rw [hhandler _ chars escape escape']
      rcases honce hstyle with rfl | rfl
      · simp only [recolor]
        rw [hrematch _ chars escape escape']
      · simp only [stepsInside]
        cases recolor handler chars escape <;> cases recolor handler chars escape' <;> rfl
  · simp only [restored, if_neg hstyle]

end Escape

theorem renderNamed_eq_fill {nodes : List Node} {escape : Text}
    (h : ∀ n ∈ nodes, ∀ chars,
      n.render chars escape = (n.template chars).map (Template.fill escape))
    (name : String) (chars : Text) :
    renderNamed nodes name chars escape =
      (templateNamed nodes name chars).map (Template.fill escape) := by
  induction nodes with
  | nil => exact recolor_none_eq_fill chars escape
  | cons n nodes ih =>
    unfold renderNamed templateNamed
    split
    · exact h n List.mem_cons_self chars
    · exact ih fun n' hn' => h n' (List.mem_cons_of_mem _ hn')

theorem stepsNamed_eq {nodes : List Node} {path : Path} {escape escape' : Text}
    (h : ∀ n ∈ nodes, ∀ start chars,
      n.steps path start chars escape = n.steps path start chars escape')
    (name : String) (start : Int) (chars : Text) :
    stepsNamed nodes name path start chars escape =
      stepsNamed nodes name path start chars escape' := by
  induction nodes with
  | nil => rfl
  | cons n nodes ih =>
    unfold stepsNamed
    split
    · exact h n List.mem_cons_self start chars
    · exact ih fun n' hn' => h n' (List.mem_cons_of_mem _ hn')

/-- **The escape fills places in what an alternation makes of a text**, and the steps of coloring do
not depend on it. -/
theorem Alternation.Built.substitute_eq_template {flags : String} {level rules : List Rule}
    {a : Alternation Node} (h : a.Built flags level rules) (honce : SearchesOnce level) :
    (∀ text escape, a.substitute text escape = (a.template text).map (Template.fill escape)) ∧
      ∀ path text escape escape', a.steps path text escape = a.steps path text escape' := by
  induction h with
  | @mk level rules pattern nodes _ hlevel _ _ _ hnodes hhandler hrematch _ _ ihhandlers
      ihrematches =>
    have hnode : ∀ n ∈ nodes,
        (∀ chars escape, n.render chars escape = (n.template chars).map (Template.fill escape)) ∧
          ∀ path start chars escape escape',
            n.steps path start chars escape = n.steps path start chars escape' := by
      intro n hn
      have hin : n.rule ∈ level := hlevel _ (hnodes ▸ List.mem_map_of_mem hn)
      have hfirst := ihhandlers n hn
      have hsecond := ihrematches n hn
      have honce' : n.rule.escape = [] → n.handler = none ∨ n.rematch = none := fun hstyle =>
        (honce _ (.here hin) hstyle).imp (hhandler n hn).mpr (hrematch n hn).mpr
      obtain ⟨rule, handler, rematch⟩ := n
      constructor
      · exact Node.render_eq_fill honce'
          (recolor_eq_fill fun a ha => (hfirst a ha (honce.handler hin)).1)
          (recolor_eq_fill fun a ha => (hsecond a ha honce).1)
      · exact Node.steps_eq honce'
          (stepsInside_eq fun a ha => (hfirst a ha (honce.handler hin)).2)
          (stepsInside_eq fun a ha => (hsecond a ha honce).2)
    constructor
    · intro text escape
      unfold substitute template
      refine Pattern.replaceM_eq_map (Template.splice text 0)
        (fun parts => (Template.fill_splice text escape 0 parts).symm) fun m => ?_
      split
      · rfl
      · cases resolve (nodes.map Node.name) m with
        | error e => rfl
        | ok found =>
          exact renderNamed_eq_fill (fun n hn chars => (hnode n hn).1 chars escape) _ _
    · intro path text escape escape'
      unfold steps
      congr 1
      refine congrArg (List.flatMap · _) (funext fun m => ?_)
      split
      · rfl
      · cases resolve (nodes.map Node.name) m with
        | error e => rfl
        | ok found =>
          exact stepsNamed_eq (fun n hn start chars =>
            (hnode n hn).2 path start chars escape escape') _ _ _

namespace Grammar

/-- **The escape around a text never matters to what is found in it.** In an accepted grammar in
which no rule without a style has both a handler and siblings, coloring a text takes the same steps
whatever the escape is: the same tokens are found at every level, with the same characters for their
transforms. Unless one of these fails, the escape fills the places of a template that is given by
the text alone; and if one does, coloring fails as the first of them, whatever the escape is. -/
theorem substitute_eq_fill {rules : RuleSet} {flags : String} {maxDepth : Int} {g : Grammar}
    (hcompile : compile rules flags maxDepth = .ok g) (honce : SearchesOnce rules.rules)
    (text : Text) :
    ∃ steps, (∀ escape, g.level.steps [] text escape = steps) ∧
      ((∀ step ∈ steps, step.failure? = none) →
        ∃ pieces, g.level.template text = .ok pieces ∧
          ∀ escape, g.substitute text escape = .ok (Template.fill escape pieces)) ∧
      ∀ e, steps.findSome? Step.failure? = some e →
        ∀ escape, g.substitute text escape = .error e := by
  obtain ⟨hfill, hsteps⟩ := (built_of_compile hcompile).substitute_eq_template honce
  have hfails (escape : Text) :
      FailsFirst (g.substitute text escape) (g.level.steps [] text []) :=
    hsteps [] text escape [] ▸ g.level.failsFirst_substitute [] text escape
  refine ⟨g.level.steps [] text [], fun escape => hsteps [] text escape [], fun hnone => ?_,
    fun e he escape => failure?_eq_some_iff.mp ((hfails escape).trans he)⟩
  cases htemplate : g.level.template text with
  | ok pieces =>
    refine ⟨pieces, rfl, fun escape => ?_⟩
    have hescape := hfill text escape
    rw [htemplate] at hescape
    exact hescape
  | error e =>
    -- No step fails, so neither does coloring, whatever the escape.
    have hescape := hfill text []
    rw [htemplate] at hescape
    have hfail := (hfails []).symm.trans (failure?_eq_some_iff.mpr hescape)
    rw [List.findSome?_eq_none_iff.mpr hnone] at hfail
    cases hfail

/-- So a pair, for one, is altered and colored alike before any escape. -/
theorem substitute_eq_fill_altered : ∃ g, compile altered "ms" 16 = .ok g ∧
    ∀ escape, g.substitute "ab=1".toList escape =
      .ok ("\x1b[1mba".toList ++ escape ++ "=\x1b[4m11".toList ++ escape) := by
  obtain ⟨g, hcompile, hrun⟩ := bind_eq_ok_iff.mp (show
    (compile altered "ms" 16 >>= fun g =>
      .ok ((g.level.steps [] "ab=1".toList []).all (·.failure?.isNone),
        g.level.template "ab=1".toList)) =
      .ok (true, .ok [.literal [], .literal [], .literal "\x1b[1mba".toList, .hole,
        .literal "=".toList, .literal "\x1b[4m11".toList, .hole, .literal [], .literal []]) by
    decide +kernel)
  obtain ⟨hnone, htemplate⟩ : _ ∧ _ := by simpa only [Except.ok.injEq, Prod.mk.injEq] using hrun
  have honce : SearchesOnce altered.rules :=
    forall_inTree_cons (fun _ => .inr rfl) (forall_inTree_cons nofun forall_inTree_nil
      (forall_inTree_cons nofun forall_inTree_nil forall_inTree_nil)) forall_inTree_nil
  obtain ⟨steps, hsteps, hfill, -⟩ := substitute_eq_fill hcompile honce "ab=1".toList
  obtain ⟨pieces, hpieces, hescape⟩ := hfill fun step hstep =>
    Option.isNone_iff_eq_none.mp (List.all_eq_true.mp hnone step (hsteps [] ▸ hstep))
  cases htemplate.symm.trans hpieces
  refine ⟨g, hcompile, fun escape => ?_⟩
  rw [hescape]
  simp [Template.Piece.fill]

end Grammar

end Highlighting
