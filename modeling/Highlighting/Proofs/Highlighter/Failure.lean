import Highlighting.Proofs.Highlighter.Resolution

/-!
# How highlighting fails

A call that highlights a text renders the tokens of its segments from left to right, and fails as
the first step that does, with nothing to show for what was rendered before. A step that fails is a
token whose transform does, a search that is refused because a group ends before it starts, or,
where a pattern runs into the bracket behind it, a match that comes from no rule. A call is recorded
once, and once more if it fails with an error of the library. It leaves nothing behind: in a row of
calls each has the result that it has alone.

## Main definitions

* `Highlighter.steps` -- the steps of highlighting a text, in order.
* `Logged.caught`, `Highlighter.colorizeAll` -- calls in a row, each whatever became of the others.
* `Failure.OfLibrary` -- the errors of the library.

## Main statements

* `Highlighter.colorize_fails_first` -- how a call fails and what is recorded, in a row of calls.
-/
namespace Highlighting

/-! ## Calls in a row -/

instance : LawfulMonad Logged := by
  refine .mk' _ (fun x => ?_) (fun a f => ?_) fun x f g => ?_
  · obtain ⟨result, records⟩ := x
    cases result with
    | ok a => exact congrArg (Logged.mk (.ok a)) (List.append_nil records)
    | error e => rfl
  · rfl
  · obtain ⟨result, records⟩ := x
    cases result with
    | ok a =>
      change Logged.bind ⟨_, records ++ _⟩ g = ⟨_, records ++ _⟩
      change Logged.bind ⟨_, _⟩ g = ⟨(Logged.bind (f a) g).result, _ ++ (Logged.bind (f a) g).records⟩
      unfold Logged.bind
      cases (f a).result with
      | ok b => exact congrArg (Logged.mk _) (List.append_assoc _ _ _)
      | error e => rfl
    | error e => rfl

/-- A call whose failure is caught, and told as its result. -/
def Logged.caught {α : Type} (x : Logged α) : Logged (Except Failure α) :=
  ⟨.ok x.result, x.records⟩

/-- Calls in a row whose failures are caught have their results and records one behind the other. -/
theorem Logged.mapM_caught {α β : Type} (f : α → Logged β) (xs : List α) :
    xs.mapM (fun x => (f x).caught) =
      ⟨.ok (xs.map fun x => (f x).result), xs.flatMap fun x => (f x).records⟩ := by
  induction xs with
  | nil => rfl
  | cons x xs ih =>
    rw [List.mapM_cons, ih]
    change (⟨_, (f x).records ++ (_ ++ [])⟩ : Logged (List (Except Failure β))) = _
    rw [List.append_nil]
    rfl

/-- Calls in a row fail as the first one that does. -/
theorem Logged.result_mapM {α β : Type} (f : α → Logged β) (xs : List α) :
    (xs.mapM f).result = xs.mapM fun x => (f x).result := by
  induction xs with
  | nil => rfl
  | cons x xs ih =>
    simp only [List.mapM_cons, result_bind, ih, result_pure]
    rfl

/-- The failure is an error of the library: one of patterns, of grammars or of matches, or one of no
special kind. -/
inductive Failure.OfLibrary : Failure → Prop where
  | pattern (e : PatternError) : OfLibrary (.pattern e)
  | grammar (e : GrammarError) : OfLibrary (.grammar e)
  | resolution (e : ResolutionError) : OfLibrary (.resolution e)
  | highlighting (message : String) : OfLibrary (.highlighting message)

theorem Failure.isHighlighting_iff {e : Failure} : e.isHighlighting = true ↔ e.OfLibrary := by
  constructor
  · intro h
    cases e with
    | pattern e => exact .pattern e
    | grammar e => exact .grammar e
    | resolution e => exact .resolution e
    | highlighting m => exact .highlighting m
    | _ => cases h
  · rintro (_ | _ | _ | _) <;> rfl

namespace Highlighter

/-- The steps of highlighting a text: those of coloring its plain segments, from left to right. -/
def steps (h : Highlighter) (text : Text) (base : Option Text) : List Step :=
  (Segments.split text (base.getD h.base)).segments.flatMap fun s =>
    if s.escape then [] else h.grammar.level.steps [] s.text s.active

/-- **A call fails as the first of its steps that does**, and has a result if none does. -/
theorem failsFirst_colorize (h : Highlighter) (text : Text) (base : Option Text) :
    FailsFirst (h.colorize text base).result (h.steps text base) := by
  rw [result_colorize]
  unfold colorSegments steps
  refine (FailsFirst.mapM fun s _ => ?_).bind_pure
  unfold colorSegment
  split
  · exact .ok s.text
  · exact h.grammar.level.failsFirst_substitute [] s.text s.active

/-- The calls with these texts and bases, one after the other, each whatever became of the others.
-/
def colorizeAll (h : Highlighter) (calls : List (Text × Option Text)) :
    Logged (List (Except Failure Text)) :=
  calls.mapM fun c => (h.colorize c.1 c.2).caught

/-- A call is recorded with the numbers of characters and of segments, and once more exactly if it
fails with an error of the library. -/
theorem records_colorize (h : Highlighter) (text : Text) (base : Option Text) :
    ∃ errors, (h.colorize text base).records =
        ⟨.debug, "Colorizing " ++ toString text.length ++ " chars in " ++
          toString (Segments.split text (base.getD h.base)).length ++ " segments"⟩ :: errors ∧
      ((∃ e, e.OfLibrary ∧ (h.colorize text base).result = .error e) →
        ∃ message, errors = [⟨.error, message⟩]) ∧
      ((¬ ∃ e, e.OfLibrary ∧ (h.colorize text base).result = .error e) → errors = []) := by
  unfold colorize
  dsimp only
  cases colorSegments h.grammar (Segments.split text (base.getD h.base)).segments with
  | ok t =>
    refine ⟨[], rfl, ?_, fun _ => rfl⟩
    rintro ⟨e, -, h⟩
    cases h
  | error e =>
    refine ⟨failureRecords e, rfl, ?_, fun hforeign => ?_⟩
    · rintro ⟨e', hlibrary, h⟩
      cases h
      rw [failureRecords, if_pos (Failure.isHighlighting_iff.mpr hlibrary)]
      exact ⟨_, rfl⟩
    · rw [failureRecords, if_neg fun h => hforeign ⟨e, Failure.isHighlighting_iff.mp h, rfl⟩]

/-- A step that fails is a token whose transform does, a match that comes from no rule, or a search
that is refused. -/
theorem fails_of_mem_steps {rules : RuleSet} {flags : String} {maxDepth : Int} {g : Grammar}
    (hcompile : Grammar.compile rules flags maxDepth = .ok g) {own text : Text}
    {base : Option Text} {step : Step} (hstep : step ∈ (Highlighter.mk g own).steps text base)
    {e : Failure} (he : step.failure? = some e) :
    (∃ path r start chars, step = .token path r start chars ∧ InTree rules.rules r ∧
        r.transformed chars = .error e) ∨
      (¬ BracketsClose flags rules.rules ∧ ∃ path e', e = .resolution e' ∧
        step = .unresolved path e) ∨
      g.level.MayReverse ∧ e = .reversedGroup ∧ ∃ path, step = .refused path e := by
  obtain ⟨s, -, hstep⟩ := List.mem_flatMap.mp hstep
  by_cases hescape : s.escape = true
  · rw [if_pos hescape] at hstep
    exact absurd hstep List.not_mem_nil
  · rw [if_neg hescape] at hstep
    cases (Grammar.built_of_compile hcompile).arises_of_mem_steps hstep with
    | token hr => exact .inl ⟨_, _, _, _, rfl, hr, Step.failure?_token.mp he⟩
    | unresolved hclose =>
      cases he
      exact .inr (.inl ⟨hclose, _, _, rfl, rfl⟩)
    | refused hreverse =>
      cases he
      exact .inr (.inr ⟨hreverse, rfl, _, rfl⟩)

/-- A rule that takes letters possessively. Where it takes all three in order, a group ends before
it starts. -/
def refusing : RuleSet :=
  .sequence [⟨"letters", "((x)|y|z)*+".toList, none, [], [], none, by decide, by decide⟩]

/-- **How calls fail.** In a row of calls of one highlighter each has the result and the records
that it has alone, whatever calls before it have failed. A call fails exactly if one of its steps
does, and as the first of them: a token whose transform fails, a match that comes from no rule,
since a pattern runs into the bracket behind it, or a search that is refused because a group ends
before it starts. It is recorded once, and once more exactly if it fails with an error of the
library. -/
theorem colorize_fails_first {rules : RuleSet} {flags : String} {maxDepth : Int} {g : Grammar}
    (hcompile : Grammar.compile rules flags maxDepth = .ok g) (own : Text)
    (calls : List (Text × Option Text)) :
    let h : Highlighter := ⟨g, own⟩
    (h.colorizeAll calls).result = .ok (calls.map fun c => (h.colorize c.1 c.2).result) ∧
      (h.colorizeAll calls).records = (calls.flatMap fun c => (h.colorize c.1 c.2).records) ∧
      ∀ text base,
        (∀ e, (h.colorize text base).result = .error e ↔
          ∃ before step after, h.steps text base = before ++ step :: after ∧
            step.failure? = some e ∧ ∀ s ∈ before, s.failure? = none) ∧
        (∀ step ∈ h.steps text base, ∀ e, step.failure? = some e →
          (∃ path r start chars, step = .token path r start chars ∧ InTree rules.rules r ∧
            r.transformed chars = .error e) ∨
          (¬ BracketsClose flags rules.rules ∧ ∃ path e', e = .resolution e' ∧
            step = .unresolved path e) ∨
          g.level.MayReverse ∧ e = .reversedGroup ∧ ∃ path, step = .refused path e) ∧
        ∃ errors, (h.colorize text base).records =
            ⟨.debug, "Colorizing " ++ toString text.length ++ " chars in " ++
              toString (Segments.split text (base.getD own)).length ++ " segments"⟩ :: errors ∧
          ((∃ e, e.OfLibrary ∧ (h.colorize text base).result = .error e) →
            ∃ message, errors = [⟨.error, message⟩]) ∧
          ((¬ ∃ e, e.OfLibrary ∧ (h.colorize text base).result = .error e) → errors = []) := by
  intro h
  have hrow := Logged.mapM_caught (fun c : Text × Option Text => h.colorize c.1 c.2) calls
  refine ⟨congrArg Logged.result hrow, congrArg Logged.records hrow, fun text base => ⟨?_, ?_, ?_⟩⟩
  · exact fun e => (h.failsFirst_colorize text base).eq_error_iff
  · exact fun step hstep e he => fails_of_mem_steps hcompile hstep he
  · exact h.records_colorize text base

/-- Of three calls, for one, the first fails at a vowel inside of a word, with an error of the
library, before the number behind it is rendered. The second has a result, and the third fails at a
number. -/
theorem colorize_fails_first_raising : ∃ g, Grammar.compile raising "ms" 16 = .ok g ∧
    (let h : Highlighter := ⟨g, resetEscape⟩
      let calls := [("ba1".toList, none), ("b".toList, none), ("b1a".toList, none)]
      (h.colorizeAll calls).records.map (·.level) = [.debug, .error, .debug, .debug] ∧
        (calls.map fun c => (h.colorize c.1 c.2).result) =
          [.error (.resolution (.raised "transform failed on 'a'" [])), .ok ['b'],
            .error (.foreign "transform failed on '1'")] ∧
        ∃ before step after, h.steps "ba1".toList none = before ++ step :: after ∧
          step.failure? = some (.resolution (.raised "transform failed on 'a'" [])) ∧
          ∀ s ∈ before, s.failure? = none) := by
  obtain ⟨g, hcompile, hrun⟩ := bind_eq_ok_iff.mp (show
    (Grammar.compile raising "ms" 16 >>= fun g =>
      let row := (Highlighter.mk g resetEscape).colorizeAll
        [("ba1".toList, none), ("b".toList, none), ("b1a".toList, none)]
      .ok (row.records.map (·.level), row.result)) =
      .ok ([.debug, .error, .debug, .debug],
        .ok [.error (.resolution (.raised "transform failed on 'a'" [])), .ok ['b'],
          .error (.foreign "transform failed on '1'")]) by decide +kernel)
  obtain ⟨hlevels, hresults⟩ : _ ∧ _ := by simpa only [Except.ok.injEq, Prod.mk.injEq] using hrun
  obtain ⟨hrow, -, hcalls⟩ := colorize_fails_first hcompile resetEscape
    [("ba1".toList, none), ("b".toList, none), ("b1a".toList, none)]
  have hcalled := Except.ok.inj (hrow.symm.trans hresults)
  refine ⟨g, hcompile, hlevels, hcalled, ?_⟩
  exact ((hcalls "ba1".toList none).1 _).mp (List.cons.inj hcalled).1

/-- A call may fail although no rule has a transform: where a search is refused, and where a match
comes from no rule. -/
theorem fails_without_transform :
    (∃ g, Grammar.compile refusing "ms" 16 = .ok g ∧
      (∀ r, InTree refusing.rules r → r.transform = none) ∧
      ((Highlighter.mk g []).colorize "xyz".toList none).result = .error .reversedGroup) ∧
    ∃ g, Grammar.compile escaping "x" 16 = .ok g ∧
      (∀ r, InTree escaping.rules r → r.transform = none) ∧
      ((Highlighter.mk g []).colorize ['z'] none).result =
        .error (.resolution (.ambiguous ['z'] 0 [] [])) := by
  constructor
  · obtain ⟨g, hcompile, hrun⟩ := bind_eq_ok_iff.mp (show
      (Grammar.compile refusing "ms" 16 >>= fun g =>
        .ok ((Highlighter.mk g []).colorize "xyz".toList none).result) =
        .ok (.error .reversedGroup) by decide +kernel)
    exact ⟨g, hcompile, forall_inTree_cons rfl forall_inTree_nil forall_inTree_nil,
      Except.ok.inj hrun⟩
  · obtain ⟨g, hcompile, hrun⟩ := bind_eq_ok_iff.mp (show
      (Grammar.compile escaping "x" 16 >>= fun g =>
        .ok ((Highlighter.mk g []).colorize ['z'] none).result) =
        .ok (.error (.resolution (.ambiguous ['z'] 0 [] []))) by decide +kernel)
    exact ⟨g, hcompile, forall_inTree_cons rfl forall_inTree_nil
      (forall_inTree_cons rfl forall_inTree_nil forall_inTree_nil), Except.ok.inj hrun⟩

end Highlighter

end Highlighting
