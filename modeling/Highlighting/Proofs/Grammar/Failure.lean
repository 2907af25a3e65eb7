import Highlighting.Proofs.Grammar.Joined
import Highlighting.Proofs.Rule.Nested

/-!
# How compiling fails

The errors of the library cover the faults of a pattern and of its flags, and what makes a set of
rules no grammar. A pattern that goes beyond what is read at all is stopped by something else, and
so is a grammar that asks for it. The texts of the rules tell whether that can be: an alternation
puts the patterns of rules between names, brackets and bars, so a bound of a quantifier and the
signs of a look-behind that stand in it stand in one of the patterns, and behind the bracket at its
start there are no flags for the whole pattern. So what an alternation adds is at most the groups of
its rules.

## Main definitions

* `Pattern.GoesBeyond` -- a failure that is not the library's own, with what the text of a pattern
  has to do with it.
* `Rule.Own` -- a text that stands in an alternation only where a pattern does.
* `Rule.NestTooDeep` -- too many groups are open at once in an alternation.
* `Grammar.Joined` -- the rules of which a set of rules makes an alternation.
* `Grammar.FailsBy` -- the failures that can stop rules.

## Main statements

* `Grammar.compile_fails` -- how patterns and grammars fail.
-/
namespace Highlighting

namespace Pattern
variable {source : Text} {flags : String} {modes : Modes}

/-- A failure that is not the library's own, of a pattern that goes beyond what is read. -/
def GoesBeyond (flags : String) (source : Text) (e : Failure) : Prop :=
  ∃ c, e = failure source c ∧ e.isHighlighting = false ∧
    Regex.Exceeds mostOpen (flags.toList.contains 'a') source c

theorem isHighlighting_failure {mostOpen : Nat} {ascii : Bool} {c : CompileError}
    (h : Regex.Exceeds mostOpen ascii source c) : (failure source c).isHighlighting = false := by
  cases h with
  | bound _ _ _ hlarge => cases hlarge <;> rfl
  | _ => rfl

/-- A failure that is not the library's own does not tell the pattern. -/
theorem failure_eq {mostOpen : Nat} {ascii : Bool} {c : CompileError}
    (h : Regex.Exceeds mostOpen ascii source c) (source' : Text) :
    failure source c = failure source' c := by
  cases h with
  | bound _ _ _ hlarge => cases hlarge <;> rfl
  | _ => rfl

/-- **What stops a pattern is an error of the library that tells it**, or the pattern goes beyond
what is read. -/
theorem compile_eq_error {e : Failure} (h : compile source flags = .error e) :
    (∃ e', e = .pattern e' ∧ e'.pattern? = some source) ∨
      ∃ modes c, Pattern.modes source flags = .ok modes ∧
        Regex.compile mostOpen modes source = .error c ∧ e = failure source c ∧
        Regex.Exceeds mostOpen (flags.toList.contains 'a') source c := by
  unfold compile at h
  split at h
  · cases h
    exact .inl ⟨_, rfl, rfl⟩
  split at h
  · next hmodes =>
    cases h
    obtain ⟨f, rfl⟩ := modes_eq_error hmodes
    exact .inl ⟨_, rfl, rfl⟩
  · next modes hmodes =>
    split at h
    · next c hcompile =>
      cases h
      rcases Regex.compile_eq_error (modes_of_eq_ok hmodes).2.1 hcompile with ⟨f, rfl⟩ | hexceeds
      · exact .inl ⟨_, rfl, rfl⟩
      · rw [ascii_of_modes hmodes] at hexceeds
        exact .inr ⟨modes, c, hmodes, hcompile, rfl, hexceeds⟩
    · cases h

end Pattern

/-! ## Alternations -/

/-- What stands in a text and does not have a character stands in front of that character or behind
it. -/
theorem infix_of_infix_append_cons {w a b : Text} {c : Char} (hc : c ∉ w)
    (h : w <:+: a ++ c :: b) : w <:+: a ∨ w <:+: b := by
  obtain ⟨s, t, h⟩ := h
  rcases List.append_eq_append_iff.mp h with ⟨a', rfl, -⟩ | ⟨t', hs, ht⟩
  · exact .inl ⟨s, a', rfl⟩
  -- The text ends behind the character.
  rcases List.append_eq_append_iff.mp hs with ⟨w', rfl, rfl⟩ | ⟨s', rfl, rfl⟩
  · cases t' with
    | nil => exact .inl ⟨s, [], by simp⟩
    | cons d t' =>
      obtain ⟨rfl, -⟩ := List.cons.inj ht
      exact absurd (List.mem_append_right w' List.mem_cons_self) hc
  · cases s' with
    | nil =>
      cases w with
      | nil => exact .inl List.nil_infix
      | cons d w =>
        obtain ⟨rfl, -⟩ := List.cons.inj ht
        exact absurd List.mem_cons_self hc
    | cons d s' =>
      obtain ⟨-, rfl⟩ := List.cons.inj ht
      exact .inr ⟨s', t, rfl⟩

namespace Rule

/-- What is in no name and in no sign of a group is not in front of a rule's pattern. -/
theorem notMem_opening {c : Char} (r : Rule) (hc : Unicode.isIdContinue c = false)
    (hsign : c ∉ "(?P<".toList) : c ∉ "(?P<".toList ++ r.name.toList := by
  intro hmem
  rcases List.mem_append.mp hmem with hmem | hmem
  · exact hsign hmem
  · rw [isIdContinue_of_isIdentifier r.isIdentifier_name c hmem] at hc
    cases hc

/-- A text stands in an alternation only where a pattern does: it has no sign that ends a name, a
group or an alternative, and it has one character that is neither in a name nor in the opening of a
group. -/
structure Own (w : Text) : Prop where
  angle : '>' ∉ w
  round : ')' ∉ w
  bar : '|' ∉ w
  sign : ∃ c ∈ w, Unicode.isIdContinue c = false ∧ c ∉ "(?P<".toList

/-- What stands in the group of a rule then stands in its pattern. -/
theorem Own.infix_pattern {w : Text} (hw : Own w) {r : Rule} (h : w <:+: r.group) :
    w <:+: r.pattern := by
  obtain ⟨c, hmem, hc, hsign⟩ := hw.sign
  have hsplit (opening name pattern : Text) : opening ++ name ++ ['>'] ++ pattern ++ [')'] =
      (opening ++ name) ++ '>' :: (pattern ++ ')' :: []) := by simp
  have hgroup : r.group = _ := hsplit _ _ _
  rw [hgroup] at h
  rcases infix_of_infix_append_cons hw.angle h with h | h
  · exact absurd (h.subset hmem) (r.notMem_opening hc hsign)
  · rcases infix_of_infix_append_cons hw.round h with h | h
    · exact h
    · exact absurd (h.subset hmem) List.not_mem_nil

/-- What stands in an alternation of rules then stands in the pattern of one. -/
theorem Own.infix_alternation {w : Text} (hw : Own w) {rules : List Rule}
    (h : w <:+: alternation rules) : ∃ r ∈ rules, w <:+: r.pattern := by
  induction rules with
  | nil =>
    obtain ⟨c, hmem, -⟩ := hw.sign
    exact absurd (h.subset hmem) List.not_mem_nil
  | cons r rules ih =>
    by_cases hlast : rules = []
    · subst hlast
      exact ⟨r, List.mem_cons_self, hw.infix_pattern h⟩
    · rw [alternation_cons r hlast] at h
      rcases infix_of_infix_append_cons hw.bar h with h | h
      · exact ⟨r, List.mem_cons_self, hw.infix_pattern h⟩
      · obtain ⟨s, hs, h⟩ := ih h
        exact ⟨s, List.mem_cons_of_mem r hs, h⟩

/-- A quantifier in braces has no characters but digits, the comma and the braces. -/
theorem isDigit_or_of_isBound {digits quantifier : Text} (hdigits : digits.all Char.isDigit = true)
    (h : IsBound digits quantifier) :
    ∀ c ∈ quantifier, c.isDigit = true ∨ c ∈ ['\x7b', ',', '\x7d'] := by
  have hall {t : Text} (ht : t.all Char.isDigit = true) :
      ∀ c ∈ t, c.isDigit = true ∨ c ∈ ['\x7b', ',', '\x7d'] :=
    fun c hc => .inl (List.all_eq_true.mp ht c hc)
  cases h with
  | only =>
    simp only [List.cons_append, List.forall_mem_cons, List.forall_mem_append]
    exact ⟨.inr (by simp), hall hdigits, .inr (by simp), nofun⟩
  | least high hhigh =>
    simp only [List.cons_append, List.append_assoc, List.forall_mem_cons, List.forall_mem_append]
    exact ⟨.inr (by simp), hall hdigits, .inr (by simp), hall hhigh, .inr (by simp), nofun⟩
  | most low hlow =>
    simp only [List.cons_append, List.append_assoc, List.forall_mem_cons, List.forall_mem_append]
    exact ⟨.inr (by simp), hall hlow, .inr (by simp), hall hdigits, .inr (by simp), nofun⟩

/-- A quantifier in braces stands in a pattern only. -/
theorem own_of_isBound {digits quantifier : Text} (hdigits : digits.all Char.isDigit = true)
    (h : IsBound digits quantifier) : Own quantifier := by
  have hbrace : '\x7b' ∈ quantifier := by cases h <;> simp
  have hnone {c : Char} (hdigit : c.isDigit = false) (hsign : c ∉ ['\x7b', ',', '\x7d']) :
      c ∉ quantifier := by
    intro hc
    rcases isDigit_or_of_isBound hdigits h c hc with hc | hc
    · exact absurd hc (Bool.eq_false_iff.mp hdigit)
    · exact hsign hc
  exact ⟨hnone rfl (by decide), hnone rfl (by decide), hnone rfl (by decide),
    '\x7b', hbrace, by decide, by decide⟩

/-- What goes beyond what is read in an alternation does so in a rule's pattern, but for the types
of characters and for the groups in one another. -/
theorem exceeds_alternation {mostOpen : Nat} {ascii : Bool} {rules : List Rule} {c : CompileError}
    (h : Regex.Exceeds mostOpen ascii (alternation rules) c) :
    (∃ r ∈ rules, Regex.Exceeds mostOpen ascii r.pattern c) ∨ c = .asciiAndUnicode ∨
      c = .nestedTooDeep ∧ mostOpen < (alternation rules).count '(' := by
  cases h with
  | bound hdigits hbound hstands hlarge =>
    obtain ⟨r, hr, hstands⟩ := (own_of_isBound hdigits hbound).infix_alternation hstands
    exact .inl ⟨r, hr, .bound hdigits hbound hstands hlarge⟩
  | types => exact .inr (.inl rfl)
  | behind hbehind =>
    have hown : Own "(?<=".toList := ⟨by decide, by decide, by decide, '=', by decide⟩
    have hnegated : Own "(?<!".toList := ⟨by decide, by decide, by decide, '!', by decide⟩
    rcases hbehind with hbehind | hbehind
    · obtain ⟨r, hr, hstands⟩ := hown.infix_alternation hbehind
      exact .inl ⟨r, hr, .behind (.inl hstands)⟩
    · obtain ⟨r, hr, hstands⟩ := hnegated.infix_alternation hbehind
      exact .inl ⟨r, hr, .behind (.inr hstands)⟩
  | nested hcount => exact .inr (.inr ⟨rfl, hcount⟩)

/-- Too many groups are open at once in the alternation of rules. They are those of one pattern and
of its rule, unless white space is skipped, where a pattern may run into the groups behind it. -/
structure NestTooDeep (flags : String) (rules : List Rule) : Prop where
  count : Pattern.mostOpen < (alternation rules).count '('
  pattern : 'x' ∈ flags.toList ∨ ∃ r ∈ rules, Pattern.mostOpen ≤ r.pattern.count '('

theorem nestTooDeep_of_compile {flags : String} {modes : Modes} {rules : List Rule}
    (hmodes : ∀ source, Pattern.modes source flags = .ok modes)
    (halone : ∀ r ∈ rules, Compiles flags r.pattern)
    (hcount : Pattern.mostOpen < (alternation rules).count '(')
    (h : Regex.compile Pattern.mostOpen modes (alternation rules) = .error .nestedTooDeep) :
    NestTooDeep flags rules := by
  refine ⟨hcount, ?_⟩
  cases hverbose : modes.verbose with
  | true => exact .inl (Pattern.mem_flags_of_verbose (hmodes []) hverbose)
  | false =>
    refine .inr (exists_of_nestedTooDeep (by decide) hverbose (fun r hr => ?_) h)
    obtain ⟨p, hp⟩ := halone r hr
    obtain ⟨modes', hmodes', hcompile⟩ := Pattern.compile_eq_ok hp
    obtain rfl := Pattern.modes_unique (hmodes r.pattern) hmodes'
    obtain ⟨own, hown, -⟩ := Regex.halts_of_compile hcompile
    exact ⟨own, hown⟩

/-- **What stops the alternation of rules** that compile alone is an error of the library, or a
rule's pattern goes beyond what is read, or the groups of the rules do. -/
theorem compile_alternation_eq_error {flags : String} {rules : List Rule} {e : Failure}
    (halone : ∀ r ∈ rules, Compiles flags r.pattern)
    (h : Pattern.compile (alternation rules) flags = .error e) :
    e.isHighlighting = true ∨ (∃ r ∈ rules, Pattern.GoesBeyond flags r.pattern e) ∨
      e = .nestedTooDeep ∧ NestTooDeep flags rules := by
  rcases Pattern.compile_eq_error h with ⟨e', rfl, -⟩ | ⟨modes, c, hmodes, hcompile, rfl, hexceeds⟩
  · exact .inl rfl
  obtain ⟨hsame, hunicode, -⟩ := Pattern.modes_of_eq_ok hmodes
  rcases exceeds_alternation hexceeds with ⟨r, hr, hpattern⟩ | rfl | ⟨rfl, hcount⟩
  · refine .inr (.inl ⟨r, hr, c, Pattern.failure_eq hexceeds r.pattern, ?_, hpattern⟩)
    exact Pattern.isHighlighting_failure hexceeds
  · cases rules with
    | nil => cases h
    | cons r rules =>
      -- The opening of the first group leaves no room for flags of the whole pattern.
      obtain ⟨more, hmore, -⟩ := r.exists_alternation_eq rules
      rw [hmore] at hcompile
      exact absurd hcompile
        (Regex.compile_ne_asciiAndUnicode hunicode (read_group modes.verbose r more))
  · exact .inr (.inr ⟨rfl, nestTooDeep_of_compile hsame halone hcount hcompile⟩)

end Rule

/-! ## Grammars -/

namespace Grammar

/-- A set of rules makes one alternation of some of its rules: of a level, or of the siblings that a
rule names, or its handlers do. -/
inductive Joined : (rules : List Rule) → List Rule → Prop where
  | level (rules : List Rule) : Joined rules rules
  | siblings {rules : List Rule} {r : Rule} (hr : r ∈ rules) (hrematch : r.rematch ≠ []) :
      Joined rules (siblings rules r)
  | inside {rules rs : List Rule} {r : Rule} (hr : r ∈ rules) (hhandler : r.handler ≠ [])
      (h : Joined r.handler rs) : Joined rules rs

theorem compileAlone_eq_error {flags : String} {r : Rule} {e : Failure}
    (h : compileAlone flags r = .error e) :
    e.isHighlighting = true ∨ Pattern.GoesBeyond flags r.pattern e := by
  unfold compileAlone at h
  split at h
  · cases h
  · cases h
    exact .inl rfl
  · next e' hother hcompile =>
    cases h
    rcases Pattern.compile_eq_error hcompile with ⟨e', rfl, -⟩ | ⟨-, c, -, -, rfl, hexceeds⟩
    · exact .inl rfl
    · exact .inr ⟨c, rfl, Pattern.isHighlighting_failure hexceeds, hexceeds⟩

/-- A failure is an error of the library, or a pattern of some rules goes beyond what is read, or
the groups of rules that are joined do. -/
def FailsBy (flags : String) (rules : List Rule) (e : Failure) : Prop :=
  e.isHighlighting = true ∨ (∃ r, InTree rules r ∧ Pattern.GoesBeyond flags r.pattern e) ∨
    ∃ rs, Joined rules rs ∧ e = .nestedTooDeep ∧ Rule.NestTooDeep flags rs

theorem FailsBy.of_joined {flags : String} {rules rs : List Rule} {e : Failure}
    (hjoined : Joined rules rs) (hrs : rs ⊆ rules) (halone : ∀ r ∈ rules, Compiles flags r.pattern)
    (h : Pattern.compile (Rule.alternation rs) flags = .error e) : FailsBy flags rules e := by
  rcases Rule.compile_alternation_eq_error (fun r hr => halone r (hrs hr)) h with
    hown | ⟨r, hr, hbeyond⟩ | ⟨he, hnested⟩
  · exact .inl hown
  · exact .inr (.inl ⟨r, .here (hrs hr), hbeyond⟩)
  · exact .inr (.inr ⟨rs, hjoined, he, hnested⟩)

/-- **What stops rules** is an error of the library, or a pattern goes beyond what is read. -/
theorem Stops.failsBy {flags : String} {rules : List Rule} {e : Failure}
    (h : Stops flags rules e) : FailsBy flags rules e := by
  induction h with
  | own rules e => exact .inl rfl
  | alone hr h =>
    exact (compileAlone_eq_error h).imp_right fun hbeyond => .inl ⟨_, .here hr, hbeyond⟩
  | together halone h => exact .of_joined (.level _) (List.Subset.refl _) halone h
  | siblings halone hr hrematch h =>
    exact .of_joined (.siblings hr hrematch) (fun _ => mem_of_mem_siblings) halone h
  | inside hr hhandler _ ih =>
    refine ih.imp_right (Or.imp ?_ ?_)
    · rintro ⟨s, hs, hbeyond⟩
      exact ⟨s, .inside hr hs, hbeyond⟩
    · rintro ⟨rs, hrs, hnested⟩
      exact ⟨rs, .inside hr hhandler hrs, hnested⟩

/-- **How compiling fails.** A pattern is compiled, or it is stopped by an error of the library that
tells the pattern, or it goes beyond what is read, which its text shows, and is stopped by something
else. A set of rules is compiled, or it is stopped by an error of the library, or the pattern of one
of its rules goes beyond what is read, or the groups of the rules that it joins do. -/
theorem compile_fails (flags : String) :
    (∀ source, Compiles flags source ∨
      ∃ e, Pattern.compile source flags = .error e ∧
        ((∃ e', e = .pattern e' ∧ e'.pattern? = some source) ∨
          Pattern.GoesBeyond flags source e)) ∧
    ∀ (rules : RuleSet) (maxDepth : Int), Succeeds (compile rules flags maxDepth) ∨
      ∃ e, compile rules flags maxDepth = .error e ∧ FailsBy flags rules.rules e := by
  constructor
  · intro source
    cases hcompile : Pattern.compile source flags with
    | ok p => exact .inl ⟨p, hcompile⟩
    | error e =>
      refine .inr ⟨e, rfl, ?_⟩
      rcases Pattern.compile_eq_error hcompile with hown | ⟨-, c, -, -, rfl, hexceeds⟩
      · exact .inl hown
      · exact .inr ⟨c, rfl, Pattern.isHighlighting_failure hexceeds, hexceeds⟩
  · intro rules maxDepth
    cases hcompile : compile rules flags maxDepth with
    | ok g => exact .inl ⟨g, rfl⟩
    | error e => exact .inr ⟨e, rfl, (stops_of_compile_eq_error hcompile).failsBy⟩

/-- Patterns go beyond what is read by a bound that is too large or has too many digits, by both
types of characters, by a look-behind that reaches back too far, and by too many groups in one
another. What stops them is no error of the library, and no more is it where a grammar has such a
pattern. -/
theorem not_compile_fails_highlighting :
    (¬ ∀ source flags, Compiles flags source ∨
      ∃ e, Pattern.compile source flags = .error (.pattern e) ∧ e.pattern? = some source) ∧
    (¬ ∀ rules flags maxDepth e, compile rules flags maxDepth = .error e →
      e.isHighlighting = true) ∧
    Pattern.compile "x\x7b4294967295\x7d".toList "" = .error .repetitionTooLarge ∧
    Pattern.compile ("x\x7b".toList ++ List.replicate 4301 '1' ++ ['\x7d']) "" =
      .error (.number (.tooManyDigits 4301)) ∧
    Pattern.compile "(?u)x".toList "a" = .error .asciiAndUnicode ∧
    Pattern.compile "(?<=x\x7b2147483648\x7d)".toList "" = .error .lookbehindTooLong ∧
    Pattern.compile (Rule.nestedGroups 495) "" = .error .nestedTooDeep ∧
    compile (single "x\x7b4294967295\x7d".toList (by decide)) "ms" 16 =
      .error .repetitionTooLarge := by
  have hpattern : Pattern.compile "x\x7b4294967295\x7d".toList "" = .error .repetitionTooLarge := by
    decide +kernel
  have hgrammar : compile (single "x\x7b4294967295\x7d".toList (by decide)) "ms" 16 =
      .error .repetitionTooLarge := failure?_eq_some_iff.mp (by decide +kernel)
  refine ⟨fun h => ?_, fun h => ?_, hpattern, ?_, ?_, ?_, ?_, hgrammar⟩
  · rcases h "x\x7b4294967295\x7d".toList "" with ⟨p, hp⟩ | ⟨e, he, -⟩
    · rw [hpattern] at hp
      cases hp
    · rw [hpattern] at he
      cases he
  · exact absurd (h _ _ _ _ hgrammar) (by decide)
  all_goals decide +kernel

end Grammar

end Highlighting
