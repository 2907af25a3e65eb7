import Highlighting.Proofs.Ansi.Rendition
import Highlighting.Proofs.Highlighter.Lossless

/-!
# Highlighting restores what was in force

A token's style is put before it, and behind it the escape of what is around it. So inside of a
token, between the tokens found there, its own style is in force again, or that of the nearest
token around it if it has none. Outside of all tokens the rendition is the one that the sequences
of the text have selected, and before any of these the base.

## Main definitions

* `Tokens.cover` -- the style of the innermost styled token at each character of a row.
* `Ansi.seen` -- the rendition that a character is shown in, given the style of its token.
-/
namespace Highlighting

open Ansi

/-! ## The style at a character -/

/-- The style of the innermost token with one, for each character of a row. -/
def Tokens.cover (style : Option Text) : Tokens → List (Option Text)
  | nil => []
  | plain t rest => List.replicate t.length style ++ rest.cover style
  | token own inside rest =>
    inside.cover (if own = [] then style else some own) ++ rest.cover style
  | staged own first _ rest =>
    first.cover (if own = [] then style else some own) ++ rest.cover style

theorem Tokens.length_cover (row : Tokens) (style : Option Text) :
    (row.cover style).length = row.text.length := by
  induction row generalizing style with
  | nil => rfl
  | plain t rest ih => rw [cover, text, List.length_append, List.length_append,
      List.length_replicate, ih]
  | token own inside rest ihinside ihrest =>
    rw [cover, text, List.length_append, List.length_append, ihinside, ihrest]
  | staged own first second rest ihfirst _ ihrest =>
    rw [cover, text, List.length_append, List.length_append, ihfirst, ihrest]

/-- The rendition that a character is shown in: the last one that the style of its token selects,
or else what is in force before it in the text. -/
def Ansi.seen (before : Option Text) : (style : Option Text) → Option Text
  | some style => lastRendition style
  | none => before

/-- Characters are shown as their tokens are styled. -/
def Ansi.restyle (before : List (Char × Option Text)) (cover : List (Option Text)) :
    List (Char × Option Text) :=
  List.zipWith (fun c style => (c.1, seen c.2 style)) before cover

theorem Ansi.restyle_append {before before' : List (Char × Option Text)}
    {cover cover' : List (Option Text)} (h : cover.length = before.length) :
    restyle (before ++ before') (cover ++ cover') =
      restyle before cover ++ restyle before' cover' :=
  List.zipWith_append h.symm

theorem Ansi.restyle_replicate (before style : Option Text) (t : Text) :
    restyle (t.map fun c => (c, before)) (List.replicate t.length style) =
      t.map fun c => (c, seen before style) := by
  induction t with
  | nil => rfl
  | cons c t ih => exact congrArg ((c, seen before style) :: ·) ih

/-! ## Rows -/

/-- Lexemes show characters, and leave behind the rendition that they have found. -/
structure Ansi.Shows (ls : List Lexeme) (current : Option Text) (cs : List (Char × Option Text)) :
    Prop where
  shown : shownFrom current ls = cs
  rendered : rendered current ls = current

theorem Ansi.Shows.append {ls ls' : List Lexeme} {current : Option Text}
    {cs cs' : List (Char × Option Text)} (h : Shows ls current cs) (h' : Shows ls' current cs') :
    Shows (ls ++ ls') current (cs ++ cs') :=
  ⟨by rw [shownFrom_append, h.shown, h.rendered, h'.shown],
    by rw [rendered_append, h.rendered, h'.rendered]⟩

/-- Between a style and what is restored behind it, characters are shown as after the style. -/
theorem Ansi.Shows.wrap {style escape : Text} {ls : List Lexeme} {cs : List (Char × Option Text)}
    (hstyle : Selects style) (hne : style ≠ []) (hescape : Selects escape) (hescape' : escape ≠ [])
    (h : Shows ls (lastRendition style) cs) :
    Shows (lexemes style ++ (ls ++ lexemes escape)) (lastRendition escape) cs := by
  constructor
  · rw [shownFrom_append, shownFrom_append, hstyle.shownFrom_eq_nil, hstyle.rendered_eq hne,
      h.shown, hescape.shownFrom_eq_nil, List.append_nil, List.nil_append]
  · rw [rendered_append, rendered_append, hescape.rendered_eq hescape']

/-- **A row shows each character as its innermost styled token says**, and it leaves behind what
was in force before it. -/
theorem Tokens.shows_patches {styles : Text → Prop} (hstyles : ∀ s, styles s → Selects s)
    {row : Tokens} {escape : Text} (h : row.Fits styles False escape) (hescape : Selects escape)
    (hne : escape ≠ []) (before style : Option Text)
    (hseen : seen before style = lastRendition escape) :
    Shows ((row.patches escape).flatMap Patch.lexemes) (lastRendition escape)
      (restyle (row.text.map fun c => (c, before)) (row.cover style)) := by
  induction row generalizing escape style with
  | nil => exact ⟨rfl, rfl⟩
  | plain t rest ih =>
    rw [patches, text, cover, List.flatMap_append, List.map_append,
      restyle_append (by rw [List.length_replicate, List.length_map]), restyle_replicate,
      Patch.flatMap_plain, hseen]
    exact .append ⟨shownFrom_plain _ _, rendered_plain _ _⟩ (ih h hescape hne _ hseen)
  | token own inside rest ihinside ihrest =>
    obtain ⟨hown, hinside, hrest⟩ := h
    rw [patches, text, cover, List.flatMap_append, List.map_append,
      restyle_append (by rw [length_cover, List.length_map])]
    refine .append ?_ (ihrest hrest hescape hne _ hseen)
    unfold restored at hinside
    split at hinside
    · next hnil =>
      rw [if_pos hnil, if_pos hnil]
      exact ihinside hinside hescape hne _ hseen
    · next hstyle =>
      rw [if_neg hstyle, if_neg hstyle, List.flatMap_cons, List.flatMap_append,
        List.flatMap_singleton]
      exact .wrap (hstyles _ hown) hstyle hescape hne
        (ihinside hinside (hstyles _ hown) hstyle _ rfl)
  | staged => exact h.1.elim

/-! ## Runs -/

namespace Highlighter
variable {g : Grammar} {styles : Text → Prop} {active : Text} {rs : List Run} {rest : List Tokens}

/-- The characters of the plain runs have been covered. -/
theorem Rows.length_cover (h : Rows g styles active rs rest) (current : Option Text) :
    (rest.flatMap (Tokens.cover none)).length =
      (shownFrom current (rs.flatMap Run.lexemes)).length := by
  induction h generalizing current with
  | nil => rfl
  | plain _ htext _ _ ih =>
    rw [List.flatMap_cons, List.flatMap_cons, List.length_append, shownFrom_append,
      List.length_append, Tokens.length_cover, htext, Run.lexemes, shownFrom_plain,
      List.length_map, ih]
  | escapes _ ih =>
    rw [List.flatMap_cons, shownFrom_append, Run.lexemes, shownFrom_sequences, List.nil_append, ih]

/-- **Runs show each character as its innermost styled token says**, and elsewhere as the text
itself does. -/
theorem Rows.shownFrom_patches (hstyles : ∀ s, styles s → Selects s)
    (h : Rows g styles active rs rest) (hactive : Selects active) (hne : active ≠ []) :
    shownFrom (lastRendition active) ((patches active rs rest).flatMap Patch.lexemes) =
      restyle (shownFrom (lastRendition active) (rs.flatMap Run.lexemes))
        (rest.flatMap (Tokens.cover none)) := by
  induction h with
  | nil => rfl
  | @plain active t rs row rest _ htext hfits _ ih =>
    have hrow := Tokens.shows_patches hstyles hfits hactive hne (lastRendition active) none rfl
    rw [patches, List.flatMap_append, shownFrom_append, hrow.shown, hrow.rendered,
      ih hactive hne, List.flatMap_cons, List.flatMap_cons, shownFrom_append, Run.lexemes,
      shownFrom_plain, rendered_plain, restyle_append (by rw [Tokens.length_cover, htext,
        List.length_map]), htext]
  | @escapes active ss rs rest _ ih =>
    have hselects : Selects (activeAfter active ss) ∧ activeAfter active ss ≠ [] := by
      unfold activeAfter
      split
      · exact ⟨hactive, hne⟩
      · next hselected => exact ⟨.renditions ss, hselected⟩
    rw [patches, List.flatMap_append, Patch.flatMap_sequences, shownFrom_append,
      shownFrom_sequences, rendered_activeAfter, ih hselects.1 hselects.2, List.flatMap_cons,
      shownFrom_append, Run.lexemes, shownFrom_sequences, rendered_activeAfter]
    rfl

/-! ## What the rows cover -/

/-- The rows are those of the plain parts of a text. -/
theorem Rows.text_eq (h : Rows g styles active rs rest) :
    rest.map Tokens.text =
      ((segmentsFrom active rs).filter fun s => !s.escape).map Segment.text := by
  induction h with
  | nil => rfl
  | plain _ htext _ _ ih =>
    rw [segmentsFrom, List.filter_cons_of_pos rfl, List.map_cons, List.map_cons, htext, ih]
  | escapes _ ih =>
    rw [segmentsFrom, List.filter_cons_of_neg (by simp), ih]

/-- **Highlighting restores what was in force.** Behind the base, a character of a text is shown
in the last rendition that the style of the innermost styled token at it selects; a character
outside of styled tokens is shown as in the text itself. The tokens are those that the grammar
finds in the plain parts of the text and, recursively, inside of tokens. -/
theorem colorize_restores {rules : RuleSet} {flags : String} {maxDepth : Int} {g : Grammar}
    (hcompile : Grammar.compile rules flags maxDepth = .ok g)
    (hclose : BracketsClose flags rules.rules)
    (htransform : ∀ r, InTree rules.rules r → r.transform = none)
    (hstages : ∀ r, InTree rules.rules r → r.handler = [] ∨ r.rematch = [])
    (hstyles : ∀ r, InTree rules.rules r → Selects r.escape) (own text : Text)
    (given : Option Text) (hbase : Selects (given.getD own)) (hne : given.getD own ≠ []) :
    Delivers g.level.MayReverse
      (fun out => ∃ rest : List Tokens,
        rows g (Segments.split text (given.getD own)).segments = .ok rest ∧
        rest.map Tokens.text =
          ((Segments.split text (given.getD own)).segments.filter fun s => !s.escape).map
            Segment.text ∧
        (rest.flatMap (Tokens.cover none)).length = (shown (given.getD own ++ text)).length ∧
        shown (given.getD own ++ out) =
          restyle (shown (given.getD own ++ text)) (rest.flatMap (Tokens.cover none)))
      ((Highlighter.mk g own).colorize text given).result := by
  have hselects (s : Text) : StyleOf rules.rules s → Selects s := by
    rintro ⟨r, hr, rfl⟩
    exact hstyles r hr
  -- Behind the base, all that is shown is shown from its last sequence on.
  have hbehind (t : Text) : shown (given.getD own ++ t) =
      shownFrom (lastRendition (given.getD own)) (lexemes t) := by
    rw [shown, hbase.whole.lexemes_append, shownFrom_append, hbase.shownFrom_eq_nil,
      hbase.rendered_eq hne, List.nil_append]
  refine (colorize_delivers (Grammar.built_of_compile hcompile) hclose htransform hstages own text
    given).mono id ?_
  rintro out ⟨rest, hrows, rfl⟩
  have hlexemes := Patch.lexemes_joined (hrows.original_patches.trans (flatMap_runs _))
    fun s hs => MayPut.whole (hrows.put_patches hs) (fun r hr => (hstyles r hr).whole) hbase.whole
  refine ⟨rest, hrows.rows_eq, hrows.text_eq, ?_, ?_⟩
  · rw [hbehind, hrows.length_cover, flatMap_runs]
  · rw [hbehind, hbehind, hlexemes, hrows.shownFrom_patches hselects hbase hne, flatMap_runs]

/-- A text with a sequence that selects a rendition and one that does not. -/
def sample : Text := "\x1b[31mba \x1b[Jb=1".toList

/-- So it does, for one, behind a syllable without a style, in a pair, and behind a sequence that
selects nothing. -/
theorem colorize_restores_nested : ∃ g out, Grammar.compile nested "ms" 16 = .ok g ∧
    ((Highlighter.mk g resetEscape).colorize sample none).result = .ok out ∧
    shown (resetEscape ++ out) =
      restyle (shown (resetEscape ++ sample)) [some "\x1b[1m".toList, some "\x1b[2m".toList, none,
        some "\x1b[1m".toList, some "\x1b[4m".toList, some "\x1b[4m".toList] := by
  obtain ⟨g, hcompile, hrun⟩ := bind_eq_ok_iff.mp (show
    (Grammar.compile nested "ms" 16 >>= fun g => do
      let out ← ((Highlighter.mk g resetEscape).colorize sample none).result
      let rest ← rows g (Segments.split sample resetEscape).segments
      return (out, rest.flatMap (Tokens.cover none))) =
      .ok ("\x1b[31m\x1b[1mb\x1b[2ma\x1b[1m\x1b[31m \x1b[J\x1b[4m\x1b[1mb\x1b[4m=1\x1b[31m".toList,
        [some "\x1b[1m".toList, some "\x1b[2m".toList, none, some "\x1b[1m".toList,
          some "\x1b[4m".toList, some "\x1b[4m".toList]) by decide +kernel)
  obtain ⟨out, hout, hrun⟩ := bind_eq_ok_iff.mp hrun
  obtain ⟨rest, hrest, hrun⟩ := bind_eq_ok_iff.mp hrun
  have hcover := congrArg Prod.snd (Except.ok.inj hrun)
  dsimp only at hcover
  have hstyle (s : Text) (h : isRendition s = true) : Selects s := ⟨[s], by simpa using h, by simp⟩
  have htransform : ∀ r, InTree nested.rules r → r.transform = none :=
    forall_inTree_cons rfl forall_inTree_nil (forall_inTree_cons rfl (forall_inTree_cons rfl
      (forall_inTree_cons rfl forall_inTree_nil forall_inTree_nil) forall_inTree_nil)
      forall_inTree_nil)
  have hstages : ∀ r, InTree nested.rules r → r.handler = [] ∨ r.rematch = [] :=
    forall_inTree_cons (.inl rfl) forall_inTree_nil (forall_inTree_cons (.inr rfl)
      (forall_inTree_cons (.inr rfl)
        (forall_inTree_cons (.inl rfl) forall_inTree_nil forall_inTree_nil) forall_inTree_nil)
      forall_inTree_nil)
  have hstyles : ∀ r, InTree nested.rules r → Selects r.escape :=
    forall_inTree_cons (hstyle _ (by decide)) forall_inTree_nil
      (forall_inTree_cons (hstyle _ (by decide))
        (forall_inTree_cons ⟨[], by simp, rfl⟩
          (forall_inTree_cons (hstyle _ (by decide)) forall_inTree_nil forall_inTree_nil)
          forall_inTree_nil)
        forall_inTree_nil)
  have hclose : BracketsClose "ms" nested.rules := fun hx => absurd hx (by decide)
  have hbase : Selects (Option.getD none resetEscape) := hstyle resetEscape (by decide)
  obtain ⟨rest', hrest', -, -, hshown⟩ := (colorize_restores hcompile hclose htransform hstages
    hstyles resetEscape sample none hbase (List.cons_ne_nil _ _)).of_eq_ok hout
  obtain rfl := Except.ok.inj (hrest.symm.trans hrest')
  rw [hcover] at hshown
  exact ⟨g, out, hcompile, hout, hshown⟩

/-- Where a pattern runs into the bracket behind it, a character is not shown at all. -/
theorem not_restored_behind_comment : ∃ g out,
    Grammar.compile (swallowing (some "\x1b[1m".toList)) "x" 16 = .ok g ∧
    ((Highlighter.mk g resetEscape).colorize ['x', 'z'] none).result = .ok out ∧
    shown (resetEscape ++ out) = [('x', some "\x1b[1m".toList)] ∧
    shown (resetEscape ++ ['x', 'z']) = [('x', some resetEscape), ('z', some resetEscape)] := by
  obtain ⟨g, hcompile, hrun⟩ := bind_eq_ok_iff.mp (show
    (Grammar.compile (swallowing (some "\x1b[1m".toList)) "x" 16 >>= fun g =>
      ((Highlighter.mk g resetEscape).colorize ['x', 'z'] none).result) =
      .ok "\x1b[1mx\x1b[0m".toList by decide +kernel)
  exact ⟨g, _, hcompile, hrun, by decide +kernel, by decide +kernel⟩

end Highlighter

end Highlighting
