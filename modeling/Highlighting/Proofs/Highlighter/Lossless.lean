import Highlighting.Proofs.Ansi.Lexemes
import Highlighting.Proofs.Grammar.Unstyled
import Highlighting.Proofs.Highlighter.Resolution

/-!
# Highlighting loses nothing

A highlighter puts whole texts between the lexemes of a text and changes nothing else. What it
puts in is the style of a rule, or an escape that is restored: that of a rule, the base, or the
renditions selected by one run of sequences of the text. If styles and base are control sequences,
a terminal that drops all of these shows the text that it showed before.

It takes that no pattern runs into the bracket behind it. A pattern that ends in a comment does,
where white space in patterns is skipped: then the group of its rule ends at a bracket of a later
rule, and a match is more than the text of its group, so part of it is dropped.

## Main definitions

* `Tokens.patches` -- the patches that a row of tokens is painted with.
* `Highlighter.MayPut` -- what a highlighter may put into a text.
* `Highlighter.Lossless` -- a text has been highlighted, and nothing of it is lost.
-/
namespace Highlighting

open Ansi

/-! ## The patches of a row -/

namespace Tokens

/-- The patches that a row of tokens is painted with. -/
def patches (escape : Text) : Tokens → List Patch
  | nil => []
  | plain t rest => t.map (fun c => .kept (.plain c)) ++ rest.patches escape
  | token style inside rest =>
    (if style = [] then inside.patches escape
      else .put style :: (inside.patches style ++ [.put escape])) ++ rest.patches escape
  | staged style _ second rest =>
    (if style = [] then second.patches escape
      else .put style :: (second.patches style ++ [.put escape])) ++ rest.patches escape

/-- A token's patches, given those of its inside. -/
theorem joined_wrap (style escape : Text) (ps : Text → List Patch) :
    Patch.joined (if style = [] then ps escape
      else .put style :: (ps style ++ [.put escape])) =
      wrap style (Patch.joined (ps (restored style escape))) escape := by
  unfold wrap restored
  split
  · rfl
  · change style ++ Patch.joined (ps style ++ [.put escape]) = _
    rw [Patch.joined_append, List.append_assoc]
    simp [Patch.joined, Patch.text]

/-- Painted is what the patches make up. -/
theorem joined_patches (row : Tokens) (escape : Text) :
    Patch.joined (row.patches escape) = row.paint escape := by
  induction row generalizing escape with
  | nil => rfl
  | plain t rest ih => rw [patches, Patch.joined_append, Patch.joined_plain, ih, paint]
  | token style inside rest ihinside ihrest =>
    rw [patches, Patch.joined_append, joined_wrap style escape fun e => inside.patches e, ihinside,
      ihrest,
      paint]
  | staged style first second rest _ ihsecond ihrest =>
    rw [patches, Patch.joined_append, joined_wrap style escape fun e => second.patches e, ihsecond,
      ihrest,
      paint]

variable {styles : Text → Prop} {escape : Text} {row : Tokens}

/-- The characters of the text are kept, each as a lexeme of its own. -/
theorem original_patches (h : row.Fits styles False escape) :
    Patch.original (row.patches escape) = row.text.map .plain := by
  induction row generalizing escape with
  | nil => rfl
  | plain t rest ih =>
    rw [patches, Patch.original_append, Patch.original_plain, ih h, text, List.map_append]
  | token style inside rest ihinside ihrest =>
    obtain ⟨-, hinside, hrest⟩ := h
    rw [patches, Patch.original_append, ihrest hrest, text, List.map_append]
    congr 1
    unfold restored at hinside
    split
    · next hnil => exact ihinside (by rwa [if_pos hnil] at hinside)
    · next hne =>
      rw [if_neg hne] at hinside
      change Patch.original (inside.patches style ++ [.put escape]) = _
      rw [Patch.original_append, ihinside hinside]
      exact List.append_nil _
  | staged => exact h.1.elim

/-- What is put in is a style or the escape around. -/
theorem put_patches (h : row.Fits styles False escape) {t : Text}
    (ht : .put t ∈ row.patches escape) : styles t ∨ t = escape := by
  induction row generalizing escape with
  | nil => exact absurd ht List.not_mem_nil
  | plain u rest ih =>
    rw [patches, List.mem_append] at ht
    rcases ht with ht | ht
    · simp at ht
    · exact ih h ht
  | token style inside rest ihinside ihrest =>
    obtain ⟨hstyle, hinside, hrest⟩ := h
    rw [patches, List.mem_append] at ht
    rcases ht with ht | ht
    · unfold restored at hinside
      split at ht
      · next hnil => exact ihinside (by rwa [if_pos hnil] at hinside) ht
      · next hne =>
        rw [if_neg hne] at hinside
        simp only [List.mem_cons, List.mem_append, Patch.put.injEq, List.not_mem_nil,
          or_false] at ht
        rcases ht with rfl | ht | rfl
        · exact .inl hstyle
        · rcases ihinside hinside ht with ht | rfl
          · exact .inl ht
          · exact .inl hstyle
        · exact .inr rfl
    · exact ihrest hrest ht
  | staged => exact h.1.elim

end Tokens

/-! ## The patches of a text -/

namespace Highlighter

/-- The tokens of the plain segments. -/
def rows (g : Grammar) (segments : List Segment) : Except Failure (List Tokens) :=
  (segments.filter fun s => !s.escape).mapM fun s => g.level.tokens s.text s.active

/-- Rows of tokens, one for each plain run, from the escape that is active before the runs. -/
inductive Rows (g : Grammar) (styles : Text → Prop) :
    (active : Text) → List Run → List Tokens → Prop
    where
  | nil {active : Text} : Rows g styles active [] []
  | plain {active t : Text} {rs : List Run} {row : Tokens} {rest : List Tokens}
      (htokens : g.level.tokens t active = .ok row) (htext : row.text = t)
      (hfits : row.Fits styles False active) (hrest : Rows g styles active rs rest) :
      Rows g styles active (.plain t :: rs) (row :: rest)
  | escapes {active : Text} {ss : List Text} {rs : List Run} {rest : List Tokens}
      (hrest : Rows g styles (activeAfter active ss) rs rest) :
      Rows g styles active (.escapes ss :: rs) rest

/-- The patches of runs, given a row of tokens for each plain one. -/
def patches : (active : Text) → List Run → List Tokens → List Patch
  | active, .plain _ :: rs, row :: rest => row.patches active ++ patches active rs rest
  | active, .escapes ss :: rs, rest =>
    ss.map (fun s => .kept (.sequence s)) ++ patches (activeAfter active ss) rs rest
  | _, _, _ => []

/-- **Segments are colored by patching their runs**, each plain one by the row of its tokens. -/
theorem colorSegments_delivers {g : Grammar} {refused : Prop} {styles : Text → Prop}
    (hg : ∀ t escape, Delivers refused
      (fun out => ∃ row : Tokens, g.level.tokens t escape = .ok row ∧ out = row.paint escape ∧
        row.text = t ∧ row.Fits styles False escape) (g.substitute t escape))
    (rs : List Run) (active : Text) :
    Delivers refused (fun outs => ∃ rest, Rows g styles active rs rest ∧
        Patch.joined (patches active rs rest) = outs.flatten)
      ((segmentsFrom active rs).mapM (colorSegment g)) := by
  induction rs generalizing active with
  | nil => exact .ok ⟨[], .nil, rfl⟩
  | cons r rs ih =>
    cases r with
    | plain t =>
      rw [segmentsFrom, List.mapM_cons]
      refine (hg t active).bind fun out hout => (ih active).bind fun outs houts => ?_
      obtain ⟨row, htokens, rfl, htext, hfits⟩ := hout
      obtain ⟨rest, hrows, hjoined⟩ := houts
      refine .ok ⟨row :: rest, .plain htokens htext hfits hrows, ?_⟩
      rw [patches, Patch.joined_append, Tokens.joined_patches, hjoined, List.flatten_cons]
    | escapes ss =>
      rw [segmentsFrom, List.mapM_cons]
      change Delivers _ _ (Except.ok ss.flatten >>= _)
      refine (ih (activeAfter active ss)).bind fun outs houts => ?_
      obtain ⟨rest, hrows, hjoined⟩ := houts
      refine .ok ⟨rest, .escapes hrows, ?_⟩
      rw [patches, Patch.joined_append, Patch.joined_sequences, hjoined, List.flatten_cons]

namespace Rows
variable {g : Grammar} {styles : Text → Prop} {active : Text} {rs : List Run} {rest : List Tokens}

theorem rows_eq (h : Rows g styles active rs rest) :
    rows g (segmentsFrom active rs) = .ok rest := by
  induction h with
  | nil => rfl
  | plain htokens htext hfits _ ih =>
    rw [rows, segmentsFrom, List.filter_cons_of_pos rfl, List.mapM_cons]
    rw [rows] at ih
    dsimp only
    rw [htokens, ih]
    rfl
  | escapes _ ih =>
    rw [rows, segmentsFrom, List.filter_cons_of_neg (by simp)]
    exact ih

/-- The lexemes of the runs are kept. -/
theorem original_patches (h : Rows g styles active rs rest) :
    Patch.original (patches active rs rest) = rs.flatMap Run.lexemes := by
  induction h with
  | nil => rfl
  | plain _ htext hfits _ ih =>
    rw [patches, Patch.original_append, Tokens.original_patches hfits, ih, htext]
    rfl
  | escapes _ ih =>
    rw [patches, Patch.original_append, Patch.original_sequences, ih]
    rfl

/-- What is put in is a style, or the escape that is active in a run. -/
theorem put_patches (h : Rows g styles active rs rest) {t : Text}
    (ht : .put t ∈ patches active rs rest) :
    styles t ∨ t = active ∨ ∃ ss, .escapes ss ∈ rs ∧ t = renditions ss := by
  induction h with
  | nil => exact absurd ht List.not_mem_nil
  | plain _ _ hfits _ ih =>
    rw [patches, List.mem_append] at ht
    rcases ht with ht | ht
    · exact (Tokens.put_patches hfits ht).imp_right .inl
    · refine (ih ht).imp_right (Or.imp_right ?_)
      rintro ⟨ss, hss, rfl⟩
      exact ⟨ss, List.mem_cons_of_mem _ hss, rfl⟩
  | @escapes active ss rs rest _ ih =>
    rw [patches, List.mem_append] at ht
    rcases ht with ht | ht
    · simp at ht
    · rcases ih ht with ht | rfl | ⟨ss', hss, rfl⟩
      · exact .inl ht
      · unfold activeAfter
        split
        · exact .inr (.inl rfl)
        · exact .inr (.inr ⟨ss, List.mem_cons_self, rfl⟩)
      · exact .inr (.inr ⟨ss', List.mem_cons_of_mem _ hss, rfl⟩)

end Rows

/-- What a highlighter may put into a text: the style of a rule, the base, or the renditions that
a run of sequences of the text selects. -/
def MayPut (rules : List Rule) (base text t : Text) : Prop :=
  StyleOf rules t ∨ t = base ∨ ∃ ss, .escapes ss ∈ runs (lexemes text) ∧ t = renditions ss

theorem MayPut.whole {rules : List Rule} {base text t : Text} (h : MayPut rules base text t)
    (hstyles : ∀ r, InTree rules r → Whole r.escape) (hbase : Whole base) : Whole t := by
  rcases h with ⟨r, hr, rfl⟩ | rfl | ⟨ss, hss, rfl⟩
  · exact hstyles r hr
  · exact hbase
  · exact .renditions (isSequence_of_run hss)

/-- A grammar whose rules are colored in one stage patches the runs of a text. -/
theorem colorize_delivers {flags : String} {rules : List Rule} {g : Grammar}
    (hbuilt : g.level.Built flags rules rules) (hclose : BracketsClose flags rules)
    (htransform : ∀ r, InTree rules r → r.transform = none)
    (hstages : ∀ r, InTree rules r → r.handler = [] ∨ r.rematch = []) (base text : Text)
    (given : Option Text) :
    Delivers g.level.MayReverse
      (fun out => ∃ rest,
        Rows g (StyleOf rules) (given.getD base) (runs (lexemes text)) rest ∧
          Patch.joined (patches (given.getD base) (runs (lexemes text)) rest) = out)
      ((Highlighter.mk g base).colorize text given).result := by
  have hg (t escape : Text) : Delivers g.level.MayReverse
      (fun out => ∃ row : Tokens, g.level.tokens t escape = .ok row ∧ out = row.paint escape ∧
        row.text = t ∧ row.Fits (StyleOf rules) False escape) (g.substitute t escape) := by
    rw [Grammar.substitute, hbuilt.substitute_eq_map htransform]
    refine (hbuilt.tokens_delivers hclose t escape).remember.map fun row hrow =>
      ⟨row, hrow.1, rfl, hrow.2.1, hrow.2.2.mono (fun s hs => hs) ?_⟩
    rintro ⟨r, hr, hhandler, hrematch⟩
    exact (hstages r hr).elim hhandler hrematch
  rw [result_colorize]
  exact (colorSegments_delivers hg _ _).bind fun outs houts => .ok houts

/-- So it puts whole texts between the lexemes of a text. -/
theorem patched_of_rows {g : Grammar} {rules : List Rule} {base text : Text} {rest : List Tokens}
    (h : Rows g (StyleOf rules) base (runs (lexemes text)) rest) :
    Patched (MayPut rules base text) text
      (Patch.joined (patches base (runs (lexemes text)) rest)) :=
  ⟨_, rfl, by rw [h.original_patches, flatMap_runs], fun _ ht => h.put_patches ht⟩

/-- The text `out` is `text` with whole texts put between its lexemes, and if styles and base are
control sequences, what is visible of it has not changed. -/
structure Lossless (rules : List Rule) (base text out : Text) : Prop where
  patched : Patched (MayPut rules base text) text out
  visible : (∀ r, InTree rules r → Whole r.escape) → Whole base → strip out = strip text

theorem lossless_of_rows {g : Grammar} {rules : List Rule} {base text : Text} {rest : List Tokens}
    (h : Rows g (StyleOf rules) base (runs (lexemes text)) rest) :
    Lossless rules base text (Patch.joined (patches base (runs (lexemes text)) rest)) :=
  ⟨patched_of_rows h, fun hstyles hbase =>
    (patched_of_rows h).strip_eq fun _ ht => ht.whole hstyles hbase⟩

/-- **Highlighting loses nothing.** If no pattern runs into the bracket behind it and all rules of
an accepted grammar are colored in one stage, a highlighter puts whole texts between the lexemes
of a text, whatever the text. Each is the style of a rule, the base, or the renditions that a run
of sequences of the text selects. If styles and base are control sequences, what is visible of
the text does not change. Only a search may be refused. For the stock rules, with any palette of
control sequences, none is. -/
theorem colorize_lossless (own text : Text) (given : Option Text) :
    (∀ (rules : RuleSet) (flags : String) (maxDepth : Int) (g : Grammar),
      Grammar.compile rules flags maxDepth = .ok g → BracketsClose flags rules.rules →
      (∀ r, InTree rules.rules r → r.transform = none) →
      (∀ r, InTree rules.rules r → r.handler = [] ∨ r.rematch = []) →
      Delivers g.level.MayReverse (Lossless rules.rules (given.getD own) text)
        ((Highlighter.mk g own).colorize text given).result) ∧
    ∀ lookup : PaletteLookup, (∀ color, Whole ((lookup color).getD [])) →
      ∃ rules g, RuleConfig.buildAll (some lookup) Stock.config = .ok rules ∧
        Grammar.compile (.sequence rules) Grammar.defaultFlags Grammar.defaultMaxDepth = .ok g ∧
        (Whole (given.getD own) →
          ∃ out, ((Highlighter.mk g own).colorize text given).result = .ok out ∧
            Patched (MayPut rules (given.getD own) text) text out ∧ strip out = strip text) := by
  have hgeneral {rules : RuleSet} {flags : String} {maxDepth : Int} {g : Grammar}
      (hcompile : Grammar.compile rules flags maxDepth = .ok g)
      (hclose : BracketsClose flags rules.rules)
      (htransform : ∀ r, InTree rules.rules r → r.transform = none)
      (hstages : ∀ r, InTree rules.rules r → r.handler = [] ∨ r.rematch = []) :
      Delivers g.level.MayReverse (Lossless rules.rules (given.getD own) text)
        ((Highlighter.mk g own).colorize text given).result := by
    refine (colorize_delivers (Grammar.built_of_compile hcompile) hclose htransform hstages own text
      given).mono id ?_
    rintro out ⟨rest, hrows, rfl⟩
    exact lossless_of_rows hrows
  refine ⟨fun rules flags maxDepth g => hgeneral, fun lookup hwhole => ?_⟩
  obtain ⟨rules, g, hbuild, hcompile, hsimple, hreverse⟩ := Stock.compile_eq_ok lookup
  refine ⟨rules, g, hbuild, hcompile, fun hbase => ?_⟩
  have hstyles : ∀ r, InTree rules r → Whole r.escape := by
    intro r hr
    rcases (hsimple r hr).escape with h | ⟨color, h⟩
    · exact h ▸ Whole.nil
    · exact h ▸ hwhole color
  have hclose : BracketsClose Grammar.defaultFlags rules := fun hx => absurd hx (by decide)
  have h := hgeneral hcompile hclose (fun r hr => (hsimple r hr).transform)
    (fun r hr => (hsimple r hr).stages)
  generalize ((Highlighter.mk g own).colorize text given).result = result at h
  cases h with
  | @ok out h => exact ⟨out, rfl, h.patched, h.visible hstyles hbase⟩
  | reversed h => exact absurd h hreverse

/-- So it does, for one, with an escape character that starts no sequence before a token. -/
theorem colorize_lossless_nested : ∃ g out, Grammar.compile nested "ms" 16 = .ok g ∧
    ((Highlighter.mk g resetEscape).colorize "\x1b\x1b[31mba[\x1b[".toList none).result =
      .ok out ∧
    out = "\x1b\x1b[31m\x1b[1mb\x1b[2ma\x1b[1m\x1b[31m[\x1b[".toList ∧
    Lossless nested.rules resetEscape "\x1b\x1b[31mba[\x1b[".toList out := by
  obtain ⟨g, hcompile, hrun⟩ := bind_eq_ok_iff.mp (show
    (Grammar.compile nested "ms" 16 >>= fun g =>
      ((Highlighter.mk g resetEscape).colorize "\x1b\x1b[31mba[\x1b[".toList none).result) =
      .ok "\x1b\x1b[31m\x1b[1mb\x1b[2ma\x1b[1m\x1b[31m[\x1b[".toList by decide +kernel)
  have htransform : ∀ r, InTree nested.rules r → r.transform = none :=
    forall_inTree_cons rfl forall_inTree_nil (forall_inTree_cons rfl (forall_inTree_cons rfl
      (forall_inTree_cons rfl forall_inTree_nil forall_inTree_nil) forall_inTree_nil)
      forall_inTree_nil)
  have hstages : ∀ r, InTree nested.rules r → r.handler = [] ∨ r.rematch = [] :=
    forall_inTree_cons (.inl rfl) forall_inTree_nil (forall_inTree_cons (.inr rfl)
      (forall_inTree_cons (.inr rfl)
        (forall_inTree_cons (.inl rfl) forall_inTree_nil forall_inTree_nil) forall_inTree_nil)
      forall_inTree_nil)
  have hclose : BracketsClose "ms" nested.rules := fun hx => absurd hx (by decide)
  exact ⟨g, _, hcompile, hrun, rfl, ((colorize_lossless resetEscape _ none).1 nested "ms" 16 g
    hcompile hclose htransform hstages).of_eq_ok hrun⟩

/-- Where a pattern runs into the bracket behind it, a character is lost. -/
theorem not_lossless_behind_comment : ∃ g out, Grammar.compile (swallowing none) "x" 16 = .ok g ∧
    ((Highlighter.mk g []).colorize ['x', 'z'] none).result = .ok out ∧
    strip out = ['x'] ∧ strip ['x', 'z'] = ['x', 'z'] := by
  obtain ⟨g, hcompile, hrun⟩ := bind_eq_ok_iff.mp (show
    (Grammar.compile (swallowing none) "x" 16 >>= fun g =>
      ((Highlighter.mk g []).colorize ['x', 'z'] none).result) = .ok ['x'] by decide +kernel)
  exact ⟨g, _, hcompile, hrun, by decide, by decide⟩

end Highlighter

end Highlighting
