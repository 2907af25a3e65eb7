import Highlighting.Grammar.Basic
import Highlighting.Proofs.Result

/-!
# The steps of coloring

Coloring a text renders one token after the other: the tokens of a text from left to right, and of
each token first its rule's transform, then the tokens that the handler finds in it, then those that
the siblings find in what the handler has colored. A step fails where a transform does, where a
match comes from no rule, or where a search is refused. The first step that fails ends the coloring,
and with no other failure.

The steps are listed without regard to failures of other tokens. Only what comes inside of a token
has to wait for it: there is nothing to search before its transform has a result.

## Main definitions

* `Path` -- the tokens that coloring is inside of.
* `Step`, `Step.failure?` -- what happens during coloring, and how it fails.
* `Alternation.steps` -- the steps of coloring a text, in order.
* `FailsFirst` -- a computation fails as the first of some steps that does.

## Main statements

* `Alternation.failsFirst_substitute` -- coloring a text fails as the first of its steps that does.
-/
namespace Highlighting

/-! ## Steps -/

/-- The stage in which the inside of a token is searched. -/
inductive Stage where
  | handler
  | rematch
deriving DecidableEq, Repr

/-- The tokens that coloring is inside of, the innermost first: the name of the rule of each, where
the token starts in the text around it, and the stage. -/
abbrev Path := List (String × Int × Stage)

/-- What happens inside of the tokens of a path. -/
inductive Step where
  /-- A token of a rule is rendered: from a position on, these characters go through the rule's
  transform. -/
  | token (path : Path) (rule : Rule) (start : Int) (chars : Text)
  /-- A match is traced back to its rule, in vain. -/
  | unresolved (path : Path) (e : Failure)
  /-- A search for the next match is refused. -/
  | refused (path : Path) (e : Failure)

/-- The failure of a step. -/
def Step.failure? : Step → Option Failure
  | token _ rule _ chars =>
    match rule.transformed chars with
    | .ok _ => none
    | .error e => some e
  | unresolved _ e => some e
  | refused _ e => some e

/-- A token fails where its rule's transform does. -/
theorem Step.failure?_token {path : Path} {rule : Rule} {start : Int} {chars : Text} {e : Failure} :
    (token path rule start chars).failure? = some e ↔ rule.transformed chars = .error e := by
  rw [failure?]
  cases rule.transformed chars <;> simp

mutual

/-- The steps of rendering a token that starts at a position: its own, and those inside of it. -/
def Node.steps : Node → Path → (start : Int) → (chars escape : Text) → List Step
  | .mk rule handler rematch, path, start, chars, escape =>
    .token path rule start chars ::
      match rule.transformed chars with
      | .error _ => []
      | .ok chars =>
        stepsInside handler ((rule.name, start, .handler) :: path) chars
            (restored rule.escape escape) ++
          match recolor handler chars (restored rule.escape escape) with
          | .error _ => []
          | .ok chars =>
            stepsInside rematch ((rule.name, start, .rematch) :: path) chars
              (restored rule.escape escape)

/-- The steps of coloring a text, if there is an alternation for it. -/
def stepsInside : Option (Alternation Node) → Path → (text escape : Text) → List Step
  | none, _, _, _ => []
  | some a, path, text, escape => a.steps path text escape

/-- The steps of coloring a text: those of its tokens from left to right, and the search for one
more if it is refused. -/
def Alternation.steps : Alternation Node → Path → (text escape : Text) → List Step
  | ⟨pattern, nodes⟩, path, text, escape =>
    ((pattern.scan text).found.flatMap fun m =>
      if m.full = [] then []
      else
        match resolve (nodes.map Node.name) m with
        | .error e => [.unresolved path e]
        | .ok (name, capture) =>
          stepsNamed nodes name path (m.start + capture.offset) capture.value escape) ++
      (pattern.scan text).failure.toList.map (.refused path)

/-- The steps of rendering a token by the node of a name. -/
def stepsNamed : List Node → (name : String) → Path → (start : Int) → (chars escape : Text) →
    List Step
  | [], _, _, _, _, _ => []
  | n :: rest, name, path, start, chars, escape =>
    if n.name = name then n.steps path start chars escape
    else stepsNamed rest name path start chars escape

end

/-! ## The first failure -/

/-- The failure of a computation. -/
def failure? {α : Type} : Except Failure α → Option Failure
  | .ok _ => none
  | .error e => some e

theorem failure?_eq_some_iff {α : Type} {x : Except Failure α} {e : Failure} :
    failure? x = some e ↔ x = .error e := by
  cases x <;> simp [failure?]

/-- The computation fails as the first of some steps that fails, and has a result if none does. -/
def FailsFirst {α : Type} (x : Except Failure α) (steps : List Step) : Prop :=
  failure? x = steps.findSome? Step.failure?

namespace FailsFirst
variable {α β : Type} {x : Except Failure α} {steps steps' : List Step}

theorem ok (a : α) : FailsFirst (.ok a : Except Failure α) [] := rfl

/-- Rendering a token begins with its rule's transform. -/
theorem transformed (path : Path) (rule : Rule) (start : Int) (chars : Text) :
    FailsFirst (rule.transformed chars) [.token path rule start chars] := by
  unfold FailsFirst
  rw [List.findSome?_singleton, Step.failure?]
  cases rule.transformed chars <;> rfl

/-- One computation after another. What comes behind a failure does not matter. -/
theorem bind {f : α → Except Failure β} (h : FailsFirst x steps)
    (hf : ∀ a, x = .ok a → FailsFirst (f a) steps') : FailsFirst (x >>= f) (steps ++ steps') := by
  unfold FailsFirst at h ⊢
  rw [List.findSome?_append, ← h]
  cases x with
  | ok a => exact hf a rfl
  | error e => rfl

theorem map {f : α → β} (h : FailsFirst x steps) : FailsFirst (x.map f) steps := by
  unfold FailsFirst at h ⊢
  rw [← h]
  cases x <;> rfl

theorem bind_pure {f : α → β} (h : FailsFirst x steps) :
    FailsFirst (x >>= fun a => pure (f a)) steps := by
  cases x <;> exact h

/-- One computation for each of some values, from left to right. -/
theorem mapM {f : α → Except Failure β} {steps : α → List Step} {xs : List α}
    (h : ∀ x ∈ xs, FailsFirst (f x) (steps x)) : FailsFirst (xs.mapM f) (xs.flatMap steps) := by
  induction xs with
  | nil => exact .ok []
  | cons x xs ih =>
    rw [List.mapM_cons, List.flatMap_cons]
    exact (h x List.mem_cons_self).bind fun y _ =>
      (ih fun x' hx' => h x' (List.mem_cons_of_mem _ hx')).bind_pure

/-- The computation fails exactly if one of the steps does with none before it. -/
theorem eq_error_iff (h : FailsFirst x steps) {e : Failure} : x = .error e ↔
    ∃ before step after, steps = before ++ step :: after ∧ step.failure? = some e ∧
      ∀ s ∈ before, s.failure? = none := by
  rw [← failure?_eq_some_iff, h, List.findSome?_eq_some_iff]

end FailsFirst

/-! ## Coloring fails as its first step that does -/

/-- Replacing the matches of a text fails as the first replacement that does, and then as the search
for one more. -/
theorem Pattern.failsFirst_replaceM {p : Pattern} {subject : Text}
    {f : Match → Except Failure Text} {steps : Match → List Step}
    (h : ∀ m, FailsFirst (f m) (steps m)) (path : Path) :
    FailsFirst (p.replaceM subject f) ((p.scan subject).found.flatMap steps ++
      (p.scan subject).failure.toList.map (.refused path)) := by
  unfold replaceM
  refine (FailsFirst.mapM fun m _ => (h m).map).bind fun parts _ => ?_
  cases (p.scan subject).failure <;> rfl

mutual

theorem Node.failsFirst_render : ∀ (n : Node) (path : Path) (start : Int) (chars escape : Text),
    FailsFirst (n.render chars escape) (n.steps path start chars escape)
  | .mk rule handler rematch, path, start, chars, escape => by
    unfold Node.render Node.steps
    refine (FailsFirst.transformed path rule start chars).bind fun chars' hchars => ?_
    rw [hchars]
    refine (failsFirst_recolor handler _ chars' _).bind fun chars'' hchars' => ?_
    rw [hchars']
    exact (failsFirst_recolor rematch _ chars'' _).bind_pure

theorem failsFirst_recolor : ∀ (o : Option (Alternation Node)) (path : Path) (text escape : Text),
    FailsFirst (recolor o text escape) (stepsInside o path text escape)
  | none, _, text, _ => .ok text
  | some a, path, text, escape => a.failsFirst_substitute path text escape

/-- **Coloring a text fails as the first of its steps that does**, and has a result if none does. -/
theorem Alternation.failsFirst_substitute : ∀ (a : Alternation Node) (path : Path)
    (text escape : Text), FailsFirst (a.substitute text escape) (a.steps path text escape)
  | ⟨pattern, nodes⟩, path, text, escape => by
    unfold Alternation.substitute Alternation.steps
    refine Pattern.failsFirst_replaceM (fun m => ?_) path
    split
    · exact .ok []
    · cases resolve (nodes.map Node.name) m with
      | error e => rfl
      | ok found => exact failsFirst_renderNamed nodes found.1 path _ found.2.value escape

theorem failsFirst_renderNamed : ∀ (nodes : List Node) (name : String) (path : Path) (start : Int)
    (chars escape : Text), FailsFirst (renderNamed nodes name chars escape)
      (stepsNamed nodes name path start chars escape)
  | [], _, _, _, chars, _ => .ok chars
  | n :: rest, name, path, start, chars, escape => by
    unfold renderNamed stepsNamed
    split
    · exact n.failsFirst_render path start chars escape
    · exact failsFirst_renderNamed rest name path start chars escape

end

end Highlighting
