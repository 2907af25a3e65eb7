import Highlighting.Grammar.Basic
import Highlighting.Proofs.Pattern.Scan
import Highlighting.Proofs.Rule.Alternation
import Mathlib.Data.List.Pairwise

/-!
# The rule that a match comes from

Where a pattern is a choice between the groups of rules, a match is one of a single group. That
group spans the whole match, and the marks of all others are unset, since each attempt of another
group before it failed and was cut back to nothing. So a match with some text is resolved to one
rule, and the text of the rule's group is the text of the match.

## Main definitions

* `Pattern.Chooses` -- a pattern is a choice between groups.
-/
namespace Highlighting

/-- A pattern is a choice between groups. -/
structure Pattern.Chooses (p : Pattern) (bs : List RuleGroup) : Prop where
  regex_eq : p.program.regex = RuleGroup.choice bs
  groups_eq : p.program.regex.groups = List.range' 1 p.program.captures
  nodup_names : (p.program.names.map (·.1)).Nodup
  mem_names : ∀ b ∈ bs, (b.name, b.number) ∈ p.program.names

/-- **The pattern of rules is a choice between their groups**, if each of these is closed by the
bracket behind the rule's pattern. -/
theorem Pattern.chooses_of_compile {rules : List Rule} {p : Pattern} {modes : Modes}
    (hrules : rules ≠ [])
    (hp : Regex.compile Pattern.mostOpen modes (Rule.alternation rules) = .ok p.program)
    (hcloses : ∀ r ∈ rules, closesGroup modes.verbose r.pattern = true) :
    ∃ bs, p.Chooses bs ∧ bs.map (·.name) = rules.map (·.name) := by
  obtain ⟨bs, -, hbs, hmem, -, hregex⟩ := Regex.choice_of_compile hrules
    (fun r hr => .of_closesGroup (hcloses r hr)) hp
  obtain ⟨hgroups, hnodup⟩ := Regex.groups_of_compile hp
  exact ⟨bs, ⟨hregex, hgroups, hnodup, hmem⟩, hbs⟩

/-! ## A match of a choice -/

namespace Regex

/-- A choice whose branches begin in no known way is matched as the first of them that matches:
what an attempt before it set is cut back to nothing. -/
theorem state?_alternatives {s : Subject} {rs : List Regex}
    (hrs : ∀ r ∈ rs, r.firstTest? none = none) {next : Option CharTest} {st : MatchState}
    (hst : st.marks = .none) :
    ((alternatives rs).run s false next MatchState.complete st).state? =
      rs.findSome? fun r => (r.matchAt s st.pos).state? := by
  induction rs generalizing st with
  | nil => rfl
  | cons r rs ih =>
    have hfirst : ¬ (r.firstTest? none).any (·.rulesOut s st.pos) = true := by
      simp [hrs r List.mem_cons_self]
    have hnote : st.note = .start st.pos := by
      obtain ⟨pos, noted, marks⟩ := st
      cases hst
      rfl
    rw [alternatives, run, if_neg hfirst, hnote, List.findSome?_cons]
    change ((r.matchAt s st.pos).orElse _).state? = _
    cases r.matchAt s st.pos with
    | matched t => rfl
    | failed noted m =>
      exact ih (fun r' hr' => hrs r' (List.mem_cons_of_mem _ hr'))
        (by simp [Marks.restored, hst, Marks.none])

end Regex

theorem RuleGroup.groups_choice (bs : List RuleGroup) :
    (choice bs).groups = bs.flatMap fun b => b.number :: b.body.groups := by
  have hmany (bs : List RuleGroup) : (Regex.alternatives (bs.map regex)).groups =
      bs.flatMap fun b => b.number :: b.body.groups := by
    rw [groups_alternatives, List.flatMap_map]
    rfl
  unfold choice
  split
  · simp [regex, Regex.groups]
  · exact hmany _

/-- A choice between groups is matched as the first group that matches. -/
theorem RuleGroup.state?_choice (s : Subject) (bs : List RuleGroup) (pos : Nat) :
    ((choice bs).matchAt s pos).state? = bs.findSome? fun b => (b.regex.matchAt s pos).state? := by
  unfold choice
  split
  · simp
  · refine (Regex.state?_alternatives (by simp [regex, Regex.firstTest?]) rfl).trans ?_
    rw [List.findSome?_map]
    rfl

/-- What only one entry of a list gives. -/
theorem filterMap_eq_singleton {α β : Type} {f : α → Option β} {l : List α} {x : α} {y : β}
    (hl : l.Nodup) (hx : x ∈ l) (hy : f x = some y) (hother : ∀ z ∈ l, z ≠ x → f z = none) :
    l.filterMap f = [y] := by
  obtain ⟨before, after, rfl⟩ := List.append_of_mem hx
  have hnotin := (List.nodup_middle.mp hl)
  have hnil (part : List α) (hpart : ∀ z ∈ part, z ∈ before ++ after) : part.filterMap f = [] := by
    rw [List.filterMap_eq_nil_iff]
    intro z hz
    refine hother z ?_ ?_
    · have := hpart z hz
      simp only [List.mem_append, List.mem_cons] at this ⊢
      tauto
    · rintro rfl
      exact (List.nodup_cons.mp hnotin).1 (hpart z hz)
  rw [List.filterMap_append, List.filterMap_cons, hy,
    hnil before fun z hz => List.mem_append_left _ hz,
    hnil after fun z hz => List.mem_append_right _ hz]
  rfl

namespace Pattern.Chooses
variable {p : Pattern} {bs : List RuleGroup}

theorem nodup_groups (h : p.Chooses bs) :
    (bs.flatMap fun b => b.number :: b.body.groups).Nodup := by
  rw [← RuleGroup.groups_choice, ← h.regex_eq, h.groups_eq]
  exact List.nodup_range'

theorem mem_groups (h : p.Chooses bs) {b : RuleGroup} (hb : b ∈ bs) {g : Nat}
    (hg : g ∈ b.number :: b.body.groups) : g ∈ List.range' 1 p.program.captures := by
  rw [← h.groups_eq, h.regex_eq, RuleGroup.groups_choice]
  exact List.mem_flatMap.mpr ⟨b, hb, hg⟩

/-- The groups inside of a rule's group have greater numbers. -/
theorem lt_of_mem_body (h : p.Chooses bs) {b : RuleGroup} (hb : b ∈ bs) :
    ∀ g ∈ b.body.groups, b.number < g := by
  have hsorted : (bs.flatMap fun b => b.number :: b.body.groups).Pairwise (· < ·) := by
    rw [← RuleGroup.groups_choice, ← h.regex_eq, h.groups_eq]
    exact List.pairwise_lt_range'
  exact (List.pairwise_cons.mp ((List.pairwise_flatMap.mp hsorted).1 b hb)).1

/-- Different rules have different groups. -/
theorem eq_of_mem (h : p.Chooses bs) {b b' : RuleGroup} (hb : b ∈ bs) (hb' : b' ∈ bs)
    (hg : b'.number ∈ b.number :: b.body.groups) : b' = b := by
  by_contra hne
  have hdisjoint := (List.nodup_flatMap.mp h.nodup_groups).2
  have : Std.Symm (Function.onFun List.Disjoint fun b : RuleGroup => b.number :: b.body.groups) :=
    ⟨fun _ _ h _ ha ha' => h ha' ha⟩
  exact hdisjoint.forall hb hb' (Ne.symm hne) hg List.mem_cons_self

/-- A match of the pattern is one of a group of a rule. -/
theorem exists_matchAt (h : p.Chooses bs) {s : Subject} {pos : Nat} {t : MatchState}
    (ht : p.program.regex.matchAt s pos = .matched t) :
    ∃ b ∈ bs, b.regex.matchAt s pos = .matched t := by
  have hstate := RuleGroup.state?_choice s bs pos
  rw [← h.regex_eq, ht] at hstate
  obtain ⟨b, hb, hmatch⟩ := List.exists_of_findSome?_eq_some hstate.symm
  exact ⟨b, hb, Attempt.state?_eq_some_iff.mp hmatch⟩

/-- **Of the groups of rules, exactly one took part in a match**, and it spans the match. -/
theorem spans (h : p.Chooses bs) {s : Subject} {pos : Nat} {t : MatchState} {b : RuleGroup}
    (hb : b ∈ bs) (ht : b.regex.matchAt s pos = .matched t)
    (hupright : p.program.reverses t.marks = false) :
    t.marks.span? b.number = some (pos, t.pos) ∧
      ∀ b' ∈ bs, b' ≠ b → t.marks.span? b'.number = none := by
  have hmem := h.mem_groups hb List.mem_cons_self
  have hpositive : 0 < b.number := (List.mem_range'_1.mp hmem).1
  refine ⟨?_, fun b' hb' hne => ?_⟩
  · obtain ⟨hstart, hstop⟩ := Regex.span_of_run_capture hpositive (h.lt_of_mem_body hb) ht
    replace hstart : t.marks.start? b.number = some pos := hstart
    have hle : pos ≤ t.pos := by
      have := List.any_eq_false.mp hupright b.number hmem
      simpa [Marks.isReversed, hstart, hstop] using this
    simp [Marks.span?, hstart, hstop, hle]
  · have hkeeps := Regex.run_complete_keeps s b.regex false none (.start pos)
    rw [show b.regex.run s false none MatchState.complete (.start pos) = .matched t from ht] at hkeeps
    have hstart : t.marks.start? b'.number = none := by
      have hother : ¬ Regex.Marking b.regex.groups (2 * (b'.number - 1)) := by
        rintro ⟨g, hg, hgi⟩
        have hpositive' : 0 < b'.number :=
          (List.mem_range'_1.mp (h.mem_groups hb' List.mem_cons_self)).1
        have hg0 : 0 < g := (List.mem_range'_1.mp (h.mem_groups hb hg)).1
        obtain rfl : b'.number = g := by omega
        exact hne (h.eq_of_mem hb hb' hg)
      exact hkeeps _ hother
    simp [Marks.span?, hstart]

/-- **A match with some text is resolved** to the rule whose group it is one of, and the group has
the text of the match. -/
theorem resolve_toMatch (h : p.Chooses bs) {s : Text} {start : Nat} {st : MatchState}
    {b : RuleGroup} (hb : b ∈ bs) (ht : b.regex.matchAt s.toArray start = .matched st)
    (hupright : p.program.reverses st.marks = false)
    (hfull : (p.toMatch s start st).full ≠ []) :
    resolve (bs.map (·.name)) (p.toMatch s start st) =
      .ok (b.name, ⟨b.name, (p.toMatch s start st).full, 0⟩) := by
  obtain ⟨hspan, hothers⟩ := h.spans hb ht hupright
  have hlt : start < st.pos := by
    by_contra hle
    refine hfull ?_
    simp [toMatch, Text.slice, Nat.sub_eq_zero_of_le (Nat.le_of_not_lt hle)]
  have hnodup : p.program.names.Nodup := List.Nodup.of_map _ h.nodup_names
  have hnumber {name : String} {n : Nat} (hn : (name, n) ∈ p.program.names) {b' : RuleGroup}
      (hb' : b' ∈ bs) (hname : b'.name = name) : n = b'.number := by
    have := List.inj_on_of_nodup_map h.nodup_names hn (h.mem_names b' hb') hname.symm
    cases this
    rfl
  have hfired : (p.toMatch s start st).groups.filter
      (fun c => (bs.map (·.name)).contains c.name) = [⟨b.name, s.slice start st.pos, 0⟩] := by
    change (List.filter _ (List.filterMap _ p.program.names)) = _
    rw [List.filter_filterMap]
    refine filterMap_eq_singleton hnodup (h.mem_names b hb) ?_ ?_
    · have : (bs.map (·.name)).contains b.name = true := by simpa using ⟨b, hb, rfl⟩
      simp only [hspan, if_pos hlt, Option.filter_some, this, if_true, Int.sub_self]
    · rintro ⟨name, n⟩ hn hne
      by_cases hrule : ∃ b' ∈ bs, b'.name = name
      · obtain ⟨b', hb', hname⟩ := hrule
        obtain rfl := hnumber hn hb' hname
        have hb'b : b' ≠ b := by
          rintro rfl
          exact hne (by rw [hname])
        simp [hothers b' hb' hb'b]
      · have hnone : ∀ c : Capture, c.name = name →
            (bs.map (·.name)).contains c.name = false := by
          intro c hc
          simpa [hc] using hrule
        dsimp only
        cases st.marks.span? n with
        | none => rfl
        | some span =>
          dsimp only
          split
          · rw [Option.filter_some, hnone _ rfl]
            rfl
          · rfl
  unfold resolve
  rw [hfired]
  rfl

/-- A match with some text is resolved to one of the rules. -/
theorem resolve_eq (h : p.Chooses bs) {s : Text} {m : Match} (hm : p.Finds s m)
    (hfull : m.full ≠ []) :
    ∃ b ∈ bs, resolve (bs.map (·.name)) m = .ok (b.name, ⟨b.name, m.full, 0⟩) := by
  obtain ⟨start, st, hmatch, hupright, rfl⟩ := hm
  obtain ⟨b, hb, ht⟩ := h.exists_matchAt hmatch
  exact ⟨b, hb, h.resolve_toMatch hb ht hupright hfull⟩

end Pattern.Chooses

end Highlighting
