import Highlighting.Proofs.Ansi.Insertion
import Highlighting.Proofs.Ansi.Rendition
import Highlighting.Proofs.Grammar.Tokens

/-!
# Rules with two stages

A rule that has both a handler and siblings for the inside of its tokens colors them in two
stages, and the second one searches in what the first one has colored. It does not know the
sequences put in there: a pattern that matches digits or brackets may match a part of one, and
then a style is put into it.

A text without sequences is visible as it was exactly if no second stage does so, that is, if
each puts its sequences between the lexemes of what it has been given.

## Main definitions

* `Tokens.stages` -- what the first stages of tokens have colored, and the second ones then.
-/
namespace Highlighting

open Ansi

namespace Tokens

/-- For each token that is colored in two stages, at any depth, what the first stage makes of its
text and what the second stage makes of that. -/
def stages (escape : Text) : Tokens → List (Text × Text)
  | nil => []
  | plain _ rest => rest.stages escape
  | token style inside rest => inside.stages (restored style escape) ++ rest.stages escape
  | staged style first second rest =>
    (first.paint (restored style escape), second.paint (restored style escape)) ::
      (first.stages (restored style escape) ++ second.stages (restored style escape)) ++
        rest.stages escape

section Whole
variable {style escape : Text}

theorem whole_restored (hstyle : Whole style) (hescape : Whole escape) :
    Whole (restored style escape) := by
  unfold restored
  split
  · exact hescape
  · exact hstyle

theorem grows_wrap {t out : Text} (h : Grows t out) (hstyle : Whole style)
    (hescape : Whole escape) : Grows t (wrap style out escape) := by
  unfold wrap
  split
  · exact h
  · exact h.wrap hstyle hescape

end Whole

variable {P : Prop} {escape : Text} {row : Tokens}

/-- Sequences are put into the text of tokens. -/
theorem grows_paint (h : row.Fits Whole P escape) (hescape : Whole escape) :
    Grows row.text (row.paint escape) := by
  induction row generalizing escape with
  | nil => exact .refl []
  | plain t rest ih => exact (Grows.refl t).append (ih h hescape)
  | token style inside rest ihinside ihrest =>
    obtain ⟨hstyle, hinside, hrest⟩ := h
    exact (grows_wrap (ihinside hinside (whole_restored hstyle hescape)) hstyle hescape).append
      (ihrest hrest hescape)
  | staged style first second rest ihfirst ihsecond ihrest =>
    obtain ⟨-, hstyle, htext, hfirst, hsecond, hrest⟩ := h
    have hinner := whole_restored hstyle hescape
    have hstages := (ihfirst hfirst hinner).trans (htext ▸ ihsecond hsecond hinner)
    exact (grows_wrap hstages hstyle hescape).append (ihrest hrest hescape)

/-- A second stage works on a part of the text that grows, and its result grows on. -/
theorem exists_part_of_mem_stages (h : row.Fits Whole P escape) (hescape : Whole escape)
    {stage : Text × Text} (hstage : stage ∈ row.stages escape) :
    Grows stage.1 stage.2 ∧ ∃ p q, Grows row.text (p ++ (stage.1 ++ q)) ∧
      Grows (p ++ (stage.2 ++ q)) (row.paint escape) := by
  induction row generalizing escape with
  | nil => exact absurd hstage List.not_mem_nil
  | plain t rest ih =>
    obtain ⟨hgrows, p, q, hbefore, hbehind⟩ := ih h hescape hstage
    refine ⟨hgrows, t ++ p, q, ?_, ?_⟩
    · simpa [text] using (Grows.refl t).append hbefore
    · simpa [paint] using (Grows.refl t).append hbehind
  | token style inside rest ihinside ihrest =>
    obtain ⟨hstyle, hinside, hrest⟩ := h
    have hinner := whole_restored hstyle hescape
    rw [stages, List.mem_append] at hstage
    rcases hstage with hstage | hstage
    · obtain ⟨hgrows, p, q, hbefore, hbehind⟩ := ihinside hinside hinner hstage
      refine ⟨hgrows, p, q ++ rest.text, ?_, ?_⟩
      · simpa [text] using hbefore.append (Grows.refl rest.text)
      · simpa [paint] using (grows_wrap hbehind hstyle hescape).append (grows_paint hrest hescape)
    · obtain ⟨hgrows, p, q, hbefore, hbehind⟩ := ihrest hrest hescape hstage
      have hgrown := grows_wrap (grows_paint hinside hinner) hstyle hescape
      refine ⟨hgrows, inside.text ++ p, q, ?_, ?_⟩
      · simpa [text] using (Grows.refl inside.text).append hbefore
      · simpa [paint] using hgrown.append hbehind
  | staged style first second rest ihfirst ihsecond ihrest =>
    obtain ⟨-, hstyle, htext, hfirst, hsecond, hrest⟩ := h
    have hinner := whole_restored hstyle hescape
    have hgrows₁ := grows_paint hfirst hinner
    have hgrows₂ : Grows (first.paint (restored style escape))
        (second.paint (restored style escape)) := htext ▸ grows_paint hsecond hinner
    have hgrowsRest := grows_paint hrest hescape
    simp only [stages, List.cons_append, List.mem_cons, List.mem_append] at hstage
    rcases hstage with rfl | (hstage | hstage) | hstage
    · refine ⟨hgrows₂, [], rest.text, hgrows₁.append (.refl _), ?_⟩
      exact (grows_wrap (.refl _) hstyle hescape).append hgrowsRest
    · obtain ⟨hgrows, p, q, hbefore, hbehind⟩ := ihfirst hfirst hinner hstage
      refine ⟨hgrows, p, q ++ rest.text, ?_, ?_⟩
      · simpa [text] using hbefore.append (Grows.refl rest.text)
      · simpa [paint] using
          (grows_wrap (hbehind.trans hgrows₂) hstyle hescape).append hgrowsRest
    · obtain ⟨hgrows, p, q, hbefore, hbehind⟩ := ihsecond hsecond hinner hstage
      rw [htext] at hbefore
      refine ⟨hgrows, p, q ++ rest.text, ?_, ?_⟩
      · simpa [text] using (hgrows₁.trans hbefore).append (Grows.refl rest.text)
      · simpa [paint] using (grows_wrap hbehind hstyle hescape).append hgrowsRest
    · obtain ⟨hgrows, p, q, hbefore, hbehind⟩ := ihrest hrest hescape hstage
      have hgrown := grows_wrap (hgrows₁.trans hgrows₂) hstyle hescape
      refine ⟨hgrows, first.text ++ p, q, ?_, ?_⟩
      · simpa [text] using (Grows.refl first.text).append hbefore
      · simpa [paint] using hgrown.append hbehind

/-- If no second stage breaks a sequence, sequences are put between the lexemes of a text that
has none. -/
theorem patched_paint (h : row.Fits Whole P escape) (hescape : Whole escape) (hfree : Free row.text)
    (hstages : ∀ stage ∈ row.stages escape, Patched Whole stage.1 stage.2) :
    Patched Whole row.text (row.paint escape) := by
  have hwrap {style t out : Text} (hstyle : Whole style) {escape : Text} (hescape : Whole escape)
      (h : Patched Whole t out) : Patched Whole t (wrap style out escape) := by
    unfold wrap
    split
    · exact h
    · exact h.wrap hstyle hescape
  induction row generalizing escape with
  | nil => exact .refl []
  | plain t rest ih =>
    exact (Patched.refl t).append hfree (ih h hescape hfree.right hstages)
  | token style inside rest ihinside ihrest =>
    obtain ⟨hstyle, hinside, hrest⟩ := h
    rw [stages, List.forall_mem_append] at hstages
    exact (hwrap hstyle hescape (ihinside hinside (whole_restored hstyle hescape) hfree.left
      hstages.1)).append hfree (ihrest hrest hescape hfree.right hstages.2)
  | staged style first second rest ihfirst _ ihrest =>
    obtain ⟨-, hstyle, htext, hfirst, hsecond, hrest⟩ := h
    rw [stages, List.forall_mem_append, List.forall_mem_cons, List.forall_mem_append] at hstages
    obtain ⟨⟨hstage, hstages₁, -⟩, hstagesRest⟩ := hstages
    have hfirst := ihfirst hfirst (whole_restored hstyle hescape) hfree.left hstages₁
    exact (hwrap hstyle hescape (hfirst.trans hstage)).append hfree
      (ihrest hrest hescape hfree.right hstagesRest)

/-- **A text is visible as it was exactly if no second stage breaks a sequence.** -/
theorem strip_paint_iff (h : row.Fits Whole P escape) (hescape : Whole escape)
    (hfree : Free row.text) : strip (row.paint escape) = row.text ↔
      ∀ stage ∈ row.stages escape, Patched Whole stage.1 stage.2 := by
  constructor
  · intro hstrip stage hstage
    obtain ⟨hgrows, p, q, hbefore, hbehind⟩ := exists_part_of_mem_stages h hescape hstage
    rcases hgrows.patched_or_lt with hpatched | hlt
    · exact hpatched
    · have hlt := (hbefore.visibleLength_le.trans_lt (hlt p q)).trans_le hbehind.visibleLength_le
      rw [visibleLength, visibleLength, hfree.strip_eq, hstrip] at hlt
      exact absurd hlt (Nat.lt_irrefl _)
  · intro hstages
    rw [(patched_paint h hescape hfree hstages).strip_eq fun _ hs => hs, hfree.strip_eq]

end Tokens

namespace Grammar

/-- **Two stages of a rule leave a text visible exactly if the second one breaks no sequence.**
A grammar without transforms colors a text that holds no sequence so that the text is visible as
it was if, and only if, each second stage puts its sequences between the lexemes of what the
first one has colored. -/
theorem strip_substitute_iff {rules : RuleSet} {flags : String} {maxDepth : Int} {g : Grammar}
    (hcompile : compile rules flags maxDepth = .ok g) (hclose : BracketsClose flags rules.rules)
    (htransform : ∀ r, InTree rules.rules r → r.transform = none)
    (hstyles : ∀ r, InTree rules.rules r → Whole r.escape) (text : Text) (hfree : Free text)
    (escape : Text) (hescape : Whole escape) :
    Delivers g.level.MayReverse
      (fun out => ∃ row : Tokens, g.level.tokens text escape = .ok row ∧ row.text = text ∧
        out = row.paint escape ∧
        (strip out = text ↔ ∀ stage ∈ row.stages escape, Patched Whole stage.1 stage.2))
      (g.substitute text escape) := by
  have hbuilt := built_of_compile hcompile
  rw [substitute, hbuilt.substitute_eq_map htransform]
  refine (hbuilt.tokens_delivers hclose text escape).remember.map fun row hrow => ?_
  obtain ⟨htokens, htext, hfits⟩ := hrow
  have hwhole : row.Fits Whole (HasStages rules.rules) escape := by
    refine hfits.mono ?_ id
    rintro s ⟨r, hr, rfl⟩
    exact hstyles r hr
  refine ⟨row, htokens, htext, rfl, ?_⟩
  rw [← htext] at hfree
  have := Tokens.strip_paint_iff hwhole hescape hfree
  rwa [htext] at this

/-- A pattern that asks for an equals sign, for one, finds nothing in a sequence. -/
theorem strip_substitute_iff_recolored : ∃ g out,
    compile (recolored "=[0-9]+".toList (by decide)) "ms" 16 = .ok g ∧
    g.substitute "a=1".toList resetEscape = .ok out ∧ strip out = "a=1".toList ∧
    ∃ row : Tokens, g.level.tokens "a=1".toList resetEscape = .ok row ∧
      ∀ stage ∈ row.stages resetEscape, Patched Whole stage.1 stage.2 := by
  obtain ⟨g, hcompile, hrun⟩ := bind_eq_ok_iff.mp (show
    (compile (recolored "=[0-9]+".toList (by decide)) "ms" 16 >>= fun g =>
      g.substitute "a=1".toList resetEscape) =
      .ok "\x1b[1ma\x1b[0m\x1b[4m=1\x1b[0m".toList by decide +kernel)
  have hwhole (s : Text) (h : isRendition s = true) : Whole s :=
    Selects.whole ⟨[s], by simpa using h, by simp⟩
  have hclose : BracketsClose "ms" (recolored "=[0-9]+".toList (by decide)).rules :=
    fun hx => absurd hx (by decide)
  have htransform : ∀ r, InTree (recolored "=[0-9]+".toList (by decide)).rules r →
      r.transform = none :=
    forall_inTree_cons rfl (forall_inTree_cons rfl forall_inTree_nil forall_inTree_nil)
      (forall_inTree_cons rfl forall_inTree_nil forall_inTree_nil)
  have hstyles : ∀ r, InTree (recolored "=[0-9]+".toList (by decide)).rules r → Whole r.escape :=
    forall_inTree_cons .nil
      (forall_inTree_cons (hwhole _ (by decide)) forall_inTree_nil forall_inTree_nil)
      (forall_inTree_cons (hwhole _ (by decide)) forall_inTree_nil forall_inTree_nil)
  have hfree : Free "a=1".toList := free_of_notMem (by decide)
  obtain ⟨row, htokens, -, -, hiff⟩ := (strip_substitute_iff hcompile hclose htransform hstyles
    "a=1".toList hfree resetEscape (hwhole _ (by decide))).of_eq_ok hrun
  have hstrip : strip "\x1b[1ma\x1b[0m\x1b[4m=1\x1b[0m".toList = "a=1".toList := by decide +kernel
  exact ⟨g, _, hcompile, hrun, hstrip, row, htokens, hiff.mp hstrip⟩

/-- One that does not finds a number in the sequence before the word, and the
style that is put there leaves the rest of the sequence visible. -/
theorem not_strip_substitute_recolored : ∃ g out,
    compile (recolored "[0-9]+".toList (by decide)) "ms" 16 = .ok g ∧
    g.substitute "a=1".toList resetEscape = .ok out ∧ strip out = "\x1b[1ma\x1b[0m=1".toList := by
  obtain ⟨g, hcompile, hrun⟩ := bind_eq_ok_iff.mp (show
    (compile (recolored "[0-9]+".toList (by decide)) "ms" 16 >>= fun g =>
      g.substitute "a=1".toList resetEscape) =
      .ok "\x1b[\x1b[4m1\x1b[0mma\x1b[\x1b[4m0\x1b[0mm=\x1b[4m1\x1b[0m".toList by decide +kernel)
  exact ⟨g, _, hcompile, hrun, by decide +kernel⟩

end Grammar

end Highlighting
