import Highlighting.Proofs.Result
import Highlighting.Rule.Config

/-!
# What is wrong with a configuration

An entry of a configuration goes through four checks. Its color comes first, before the entries of
its handler; behind these come the pattern that it may lack, its name, and the text of its pattern.
A configuration describes rules exactly if every entry in it passes all of its checks. Otherwise it
fails as the first of them that is not passed, where entries are taken in order.

The rules that it describes make up the same tree: there is one for each entry, and all but its
style is as the entry says. The style is the entry's own unless that is empty and a color is named.

## Main definitions

* `RuleConfig.Within` -- the entries of a configuration and of the handlers below it.
* `RuleConfig.Faulty` -- something is wrong with an entry itself.
* `RuleConfig.checksAll` -- the checks of a configuration, in order.
* `RuleConfig.DescribesAll` -- the rules that entries describe.
-/
namespace Highlighting

/-! ## Computations that fail with the first fault -/

/-- A computation fails with a fault if there is one, and otherwise has a result of some kind. -/
inductive Answers {α : Type} (P : α → Prop) : Option Failure → Except Failure α → Prop where
  | ok {a : α} (h : P a) : Answers P none (.ok a)
  | error (e : Failure) : Answers P (some e) (.error e)

namespace Answers
variable {α β : Type} {P : α → Prop} {Q : β → Prop} {x : Except Failure α}
  {fault fault' : Option Failure}

/-- The faults of a computation come before those of what follows it. -/
theorem bind {f : α → Except Failure β} (h : Answers P fault x)
    (hf : ∀ a, P a → Answers Q fault' (f a)) : Answers Q (fault.or fault') (x >>= f) := by
  cases h with
  | ok h => exact hf _ h
  | error e => exact .error e

theorem of_eq_ok {a : α} (hfault : fault = none) (hx : x = .ok a) (h : P a) :
    Answers P fault x := by
  rw [hfault, hx]
  exact .ok h

theorem of_eq_error {e : Failure} (hfault : fault = some e) (hx : x = .error e) :
    Answers P fault x := by
  rw [hfault, hx]
  exact .error e

theorem mono {P' : α → Prop} (h : Answers P fault x) (hP : ∀ a, P a → P' a) :
    Answers P' fault x := by
  cases h with
  | ok h => exact .ok (hP _ h)
  | error e => exact .error e

theorem eq_error_iff (h : Answers P fault x) (e : Failure) : x = .error e ↔ fault = some e := by
  cases h <;> simp

theorem exists_eq_error_iff (h : Answers P fault x) :
    (∃ e, x = .error e) ↔ fault.isSome = true := by
  cases h <;> simp

theorem exists_eq_ok (h : Answers P none x) : ∃ a, x = .ok a ∧ P a := by
  cases h with
  | ok h => exact ⟨_, rfl, h⟩

end Answers

namespace RuleConfig

/-! ## Entries and what is wrong with them -/

/-- An entry is one of some entries, or it is in the handler of such an entry. -/
inductive Within : List RuleConfig → RuleConfig → Prop where
  | here {cs : List RuleConfig} {c : RuleConfig} (h : c ∈ cs) : Within cs c
  | inside {cs : List RuleConfig} {c d : RuleConfig} (h : d ∈ cs) (hc : Within d.handler c) :
      Within cs c

@[simp] theorem not_within_nil (c : RuleConfig) : ¬ Within [] c := by
  rintro (h | ⟨h, -⟩) <;> simp at h

@[simp] theorem within_cons_iff {c d : RuleConfig} {cs : List RuleConfig} :
    Within (d :: cs) c ↔ c = d ∨ Within d.handler c ∨ Within cs c := by
  constructor
  · rintro (h | ⟨h, hc⟩)
    · rcases List.mem_cons.mp h with rfl | h
      · exact .inl rfl
      · exact .inr (.inr (.here h))
    · rcases List.mem_cons.mp h with rfl | h
      · exact .inr (.inl hc)
      · exact .inr (.inr (.inside h hc))
  · rintro (rfl | hc | (h | ⟨h, hc⟩))
    · exact .here (by simp)
    · exact .inside (by simp) hc
    · exact .here (by simp [h])
    · exact .inside (by simp [h]) hc

/-- The entry has no style of its own, and names a color. -/
def NamesColor (c : RuleConfig) : Prop :=
  c.style.getD [] = [] ∧ c.color.getD "" ≠ ""

instance (c : RuleConfig) : Decidable c.NamesColor :=
  inferInstanceAs (Decidable (_ ∧ _))

/-- Something is wrong with the entry itself, whatever may be wrong with its handler. -/
inductive Faulty (palette : Option PaletteLookup) (c : RuleConfig) : Prop where
  /-- It names a color, and there is no palette. -/
  | color (hpalette : palette = none) (h : c.NamesColor)
  /-- It has no pattern. -/
  | pattern (h : c.pattern = none)
  /-- Its name is no identifier. -/
  | name (h : Unicode.isIdentifier c.name.toList = false)
  /-- Its pattern is empty. -/
  | text (t : Option Text) (h : c.pattern = some t) (hempty : t.getD [] = [])

/-! ## Checks -/

/-- The checks of an entry. -/
inductive Check where
  | color
  | pattern
  | name
  | text
deriving DecidableEq, Repr

/-- What a check of an entry finds. -/
def Check.fault? (palette : Option PaletteLookup) (c : RuleConfig) : Check → Option Failure
  | color =>
    if palette.isNone ∧ c.NamesColor then some (.grammar (.noPalette c.name (c.color.getD "")))
    else none
  | pattern => if c.pattern.isNone then some (.missingKey (quotedString "pattern")) else none
  | name =>
    if Unicode.isIdentifier c.name.toList then none
    else some (.grammar (.invalidName (.text c.name)))
  | text =>
    match c.pattern with
    | none => none
    | some t => if t.getD [] = [] then some (.pattern (.emptyRule c.name t)) else none

mutual

/-- The checks of an entry and of the entries of its handler, in order. -/
def checks : RuleConfig → List (RuleConfig × Check)
  | ⟨name, pattern, style, color, handler, rematch, transform⟩ =>
    let c : RuleConfig := ⟨name, pattern, style, color, handler, rematch, transform⟩
    (c, .color) :: (checksAll handler ++ [(c, .pattern), (c, .name), (c, .text)])

/-- The checks of entries and of those of their handlers, in order. -/
def checksAll : List RuleConfig → List (RuleConfig × Check)
  | [] => []
  | c :: rest => c.checks ++ checksAll rest

end

/-- The first fault that some checks find. -/
def firstFault (palette : Option PaletteLookup) (checks : List (RuleConfig × Check)) :
    Option Failure :=
  checks.findSome? fun check => check.2.fault? palette check.1

@[simp] theorem firstFault_nil (palette : Option PaletteLookup) :
    firstFault palette [] = none := rfl

theorem firstFault_cons (palette : Option PaletteLookup) (c : RuleConfig) (k : Check)
    (checks : List (RuleConfig × Check)) :
    firstFault palette ((c, k) :: checks) =
      (k.fault? palette c).or (firstFault palette checks) := by
  rw [firstFault, List.findSome?_cons]
  cases k.fault? palette c <;> rfl

theorem firstFault_append (palette : Option PaletteLookup)
    (checks checks' : List (RuleConfig × Check)) :
    firstFault palette (checks ++ checks') =
      (firstFault palette checks).or (firstFault palette checks') :=
  List.findSome?_append

mutual

/-- An entry and those below it go through all checks. -/
theorem mem_checks_iff {c : RuleConfig} {k : Check} : ∀ d : RuleConfig,
    (c, k) ∈ d.checks ↔ c = d ∨ Within d.handler c
  | ⟨name, pattern, style, color, handler, rematch, transform⟩ => by
    have hhandler := mem_checksAll_iff (c := c) (k := k) handler
    cases k <;> simp [checks, hhandler, or_comm]

/-- Every entry of a configuration goes through all checks. -/
theorem mem_checksAll_iff {c : RuleConfig} {k : Check} : ∀ cs : List RuleConfig,
    (c, k) ∈ checksAll cs ↔ Within cs c
  | [] => by simp [checksAll]
  | d :: rest => by
    simp [checksAll, mem_checks_iff d, mem_checksAll_iff rest, or_assoc]

end

/-- Something is wrong with an entry exactly if one of its checks finds it. -/
theorem faulty_iff {palette : Option PaletteLookup} {c : RuleConfig} :
    c.Faulty palette ↔ ∃ k : Check, (k.fault? palette c).isSome = true := by
  constructor
  · rintro (⟨rfl, h⟩ | h | h | ⟨t, h, hempty⟩)
    · exact ⟨.color, by simp [Check.fault?, h]⟩
    · exact ⟨.pattern, by simp [Check.fault?, h]⟩
    · exact ⟨.name, by simp [Check.fault?, h]⟩
    · exact ⟨.text, by simp [Check.fault?, h, hempty]⟩
  · rintro ⟨k, hk⟩
    cases k with
    | color =>
      have h : palette = none ∧ c.NamesColor := by simpa [Check.fault?] using hk
      exact .color h.1 h.2
    | pattern => exact .pattern (by simpa [Check.fault?] using hk)
    | name => exact .name (by simpa [Check.fault?] using hk)
    | text =>
      cases h : c.pattern with
      | none => exact .pattern h
      | some t => exact .text t h (by simpa [Check.fault?, h] using hk)

theorem isSome_firstFault_iff {palette : Option PaletteLookup} {cs : List RuleConfig} :
    (firstFault palette (checksAll cs)).isSome = true ↔ ∃ c, Within cs c ∧ c.Faulty palette := by
  rw [firstFault, List.isSome_findSome?]
  simp only [List.any_eq_true, Prod.exists, mem_checksAll_iff, faulty_iff]
  grind

/-! ## Descriptions -/

/-- The style of the rule that an entry describes: its own, unless that is empty, else the palette's
answer for its color, if it names one, and else its own again. -/
def Resolves (palette : Option PaletteLookup) (c : RuleConfig) (style : Option Text) : Prop :=
  if c.style.getD [] ≠ [] then style = c.style
  else if c.color.getD "" ≠ "" then
    ∃ lookup, palette = some lookup ∧ style = lookup (c.color.getD "")
  else style = c.style

mutual

/-- A rule is the one that an entry describes. -/
def Describes (palette : Option PaletteLookup) : RuleConfig → Rule → Prop
  | ⟨name, pattern, style, color, handler, rematch, transform⟩, r =>
    r.name = name ∧ pattern = some (some r.pattern) ∧
      Resolves palette ⟨name, pattern, style, color, handler, rematch, transform⟩ r.style ∧
      DescribesAll palette handler r.handler ∧ r.rematch = rematch ∧ r.transform = transform

/-- Rules are those that entries describe, one for each in the same order. -/
def DescribesAll (palette : Option PaletteLookup) : List RuleConfig → List Rule → Prop
  | [], rules => rules = []
  | c :: rest, rules => ∃ r rs, rules = r :: rs ∧ Describes palette c r ∧ DescribesAll palette rest rs

end

/-- The color of an entry is resolved, unless its check finds a fault. -/
theorem resolveStyle_answers (palette : Option PaletteLookup) (c : RuleConfig) :
    Answers (Resolves palette c) (Check.color.fault? palette c)
      (resolveStyle palette c.name c.style c.color) := by
  by_cases hnames : c.NamesColor
  · obtain ⟨hstyle, hcolor⟩ := id hnames
    cases palette with
    | none =>
      have hfault : Check.color.fault? none c =
          some (.grammar (.noPalette c.name (c.color.getD ""))) := by
        simp [Check.fault?, hnames]
      exact .of_eq_error hfault (by simp [resolveStyle, hstyle, hcolor])
    | some lookup =>
      have hresolve : resolveStyle (some lookup) c.name c.style c.color =
          .ok (lookup (c.color.getD "")) := by
        simp [resolveStyle, hstyle, hcolor]
      exact .of_eq_ok (by simp [Check.fault?]) hresolve (by simp [Resolves, hstyle, hcolor])
  · have hown : c.style.getD [] ≠ [] ∨ c.color.getD "" = "" := by
      by_cases hstyle : c.style.getD [] = []
      · exact .inr (by simpa [NamesColor, hstyle] using hnames)
      · exact .inl hstyle
    have hresolve : resolveStyle palette c.name c.style c.color = .ok c.style := by
      simp [resolveStyle, hown]
    refine .of_eq_ok (by simp [Check.fault?, hnames]) hresolve ?_
    rcases hown with h | h <;> simp [Resolves, h]

/-- A rule is made from what an entry gives, unless a check of its name or its pattern finds a
fault. -/
theorem make_answers (palette : Option PaletteLookup) (c : RuleConfig) (style : Option Text)
    (handler : List Rule) :
    Answers
      (fun r : Rule => r.name = c.name ∧ c.pattern = some (some r.pattern) ∧ r.style = style ∧
        r.handler = handler ∧ r.rematch = c.rematch ∧ r.transform = c.transform)
      (firstFault palette [(c, .pattern), (c, .name), (c, .text)])
      (match c.pattern with
        | none => throw (.missingKey (quotedString "pattern"))
        | some pattern =>
          Rule.make (.text c.name) pattern style handler c.rematch c.transform) := by
  cases hpattern : c.pattern with
  | none =>
    have hfault : firstFault palette [(c, .pattern), (c, .name), (c, .text)] =
        some (.missingKey (quotedString "pattern")) := by
      simp [firstFault_cons, Check.fault?, hpattern]
    exact .of_eq_error hfault rfl
  | some pattern =>
    dsimp only
    by_cases hname : Unicode.isIdentifier c.name.toList = true
    · by_cases htext : pattern.getD [] = []
      · have hfault : firstFault palette [(c, .pattern), (c, .name), (c, .text)] =
            some (.pattern (.emptyRule c.name pattern)) := by
          simp [firstFault_cons, Check.fault?, hpattern, hname, htext]
        exact .of_eq_error hfault (by simp [Rule.make, hname, htext])
      · have hgiven : pattern = some (pattern.getD []) := by
          cases pattern with
          | none => exact absurd rfl htext
          | some t => rfl
        have hfault : firstFault palette [(c, .pattern), (c, .name), (c, .text)] = none := by
          simp [firstFault_cons, Check.fault?, hpattern, hname, htext]
        have hmake : Rule.make (.text c.name) pattern style handler c.rematch c.transform =
            .ok ⟨c.name, pattern.getD [], style, handler, c.rematch, c.transform, hname, htext⟩ := by
          simp [Rule.make, hname, htext]
        exact .of_eq_ok hfault hmake ⟨rfl, congrArg some hgiven, rfl, rfl, rfl, rfl⟩
    · have hfault : firstFault palette [(c, .pattern), (c, .name), (c, .text)] =
          some (.grammar (.invalidName (.text c.name))) := by
        simp [firstFault_cons, Check.fault?, hpattern, hname]
      exact .of_eq_error hfault (by simp [Rule.make, hname])

mutual

/-- An entry is built into the rule that it describes, unless a check finds a fault. -/
theorem build_answers (palette : Option PaletteLookup) : ∀ c : RuleConfig,
    Answers (Describes palette c) (firstFault palette c.checks) (build palette c)
  | ⟨name, pattern, style, color, handler, rematch, transform⟩ => by
    rw [checks, firstFault_cons, firstFault_append, build]
    refine (resolveStyle_answers palette ⟨name, pattern, style, color, handler, rematch,
      transform⟩).bind fun style' hstyle => ?_
    refine (buildAll_answers palette handler).bind fun rules hrules => ?_
    refine (make_answers palette ⟨name, pattern, style, color, handler, rematch, transform⟩ style'
      rules).mono ?_
    rintro r ⟨hname, hpattern, rfl, rfl, hrematch, htransform⟩
    exact ⟨hname, hpattern, hstyle, hrules, hrematch, htransform⟩

/-- Entries are built into the rules that they describe, unless a check finds a fault. -/
theorem buildAll_answers (palette : Option PaletteLookup) : ∀ cs : List RuleConfig,
    Answers (DescribesAll palette cs) (firstFault palette (checksAll cs)) (buildAll palette cs)
  | [] => .ok rfl
  | c :: rest => by
    rw [checksAll, firstFault_append, buildAll]
    refine (build_answers palette c).bind fun r hr => ?_
    rw [← Option.or_none (o := firstFault palette (checksAll rest))]
    refine (buildAll_answers palette rest).bind fun rules hrules => ?_
    exact .ok ⟨r, rules, rfl, hr, hrules⟩

end

/-- **A configuration fails with its first fault, and otherwise describes rules.** It fails exactly
if something is wrong with one of its entries, or with one in a handler, however deep. The failure
is what the first check finds that is not passed, where all checks before it are. If nothing is
wrong, the rules are those that the entries describe, in the same tree. -/
theorem buildAll_first_fault (palette : Option PaletteLookup) (cs : List RuleConfig) :
    ((∃ e, buildAll palette cs = .error e) ↔ ∃ c, Within cs c ∧ c.Faulty palette) ∧
    (∀ e, buildAll palette cs = .error e ↔
      ∃ before c k after, checksAll cs = before ++ (c, k) :: after ∧
        k.fault? palette c = some e ∧ ∀ check ∈ before, check.2.fault? palette check.1 = none) ∧
    ((∀ c, Within cs c → ¬ c.Faulty palette) →
      ∃ rules, buildAll palette cs = .ok rules ∧ DescribesAll palette cs rules) := by
  have hanswers := buildAll_answers palette cs
  have hfaulty : (∃ e, buildAll palette cs = .error e) ↔ ∃ c, Within cs c ∧ c.Faulty palette := by
    rw [hanswers.exists_eq_error_iff, isSome_firstFault_iff]
  refine ⟨hfaulty, fun e => ?_, fun hnone => ?_⟩
  · rw [hanswers.eq_error_iff, firstFault, List.findSome?_eq_some_iff]
    constructor
    · rintro ⟨before, ⟨c, k⟩, after, hsplit, hfault, hbefore⟩
      exact ⟨before, c, k, after, hsplit, hfault, hbefore⟩
    · rintro ⟨before, c, k, after, hsplit, hfault, hbefore⟩
      exact ⟨before, (c, k), after, hsplit, hfault, hbefore⟩
  · have hfault : firstFault palette (checksAll cs) = none := by
      by_contra hsome
      obtain ⟨c, hc, hwrong⟩ := isSome_firstFault_iff.mp (Option.isSome_iff_ne_none.mpr hsome)
      exact hnone c hc hwrong
    rw [hfault] at hanswers
    exact hanswers.exists_eq_ok

-- The color of an entry in a handler is checked before the name of the outer entry.
example : buildAll none
    [⟨"a b", some none, none, none, [⟨"c", none, none, some "red", [], [], none⟩], [], none⟩] =
      .error (.grammar (.noPalette "c" "red")) := by
  rfl

end RuleConfig

end Highlighting
