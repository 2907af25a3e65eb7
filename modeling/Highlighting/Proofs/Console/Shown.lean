import Highlighting.Console
import Highlighting.Proofs.Ansi.Displayed
import Highlighting.Proofs.Ansi.Fragments
import Highlighting.Proofs.Highlighter.Failure
import Highlighting.Proofs.Highlighter.Lossless

/-!
# What a console shows

A console colors a text and hands it to a decoder: line by line to the one of a prompt, and as a
whole to the one of a terminal. If its rules only color and its styles select renditions by
parameters of a few digits, what it hands on is a painted text, and decoders that are faithful show
the text that it was, whichever they are. The only thing that may come between is a search that is
refused, and none is for the stock rules, or at the prompt of a console that does not color.

## Main definitions

* `ColorsOnly` -- rules that do nothing but color, each in one stage.
* `Console.ShowsLines` -- fragments that show the lines of a text.

## Main statements

* `Console.fragments_keep_lines` -- a prompt shows every line of a text as it is.
* `Console.render_keeps_text` -- a terminal shows a text as it is.
-/
namespace Highlighting

open Ansi

/-! ## Rules that only color -/

/-- The rules do nothing but color: none has a transform, none has both a handler and siblings for
the inside of its tokens, and all styles select renditions by a few digits. -/
structure ColorsOnly (rules : List Rule) : Prop where
  transform : ∀ r, InTree rules r → r.transform = none
  stages : ∀ r, InTree rules r → r.handler = [] ∨ r.rematch = []
  styles : ∀ r, InTree rules r → SelectsBriefly r.escape

theorem colorsOnly_nested : ColorsOnly nested.rules where
  transform := forall_inTree_cons rfl forall_inTree_nil (forall_inTree_cons rfl
    (forall_inTree_cons rfl (forall_inTree_cons rfl forall_inTree_nil forall_inTree_nil)
      forall_inTree_nil) forall_inTree_nil)
  stages := forall_inTree_cons (.inl rfl) forall_inTree_nil (forall_inTree_cons (.inr rfl)
    (forall_inTree_cons (.inr rfl) (forall_inTree_cons (.inl rfl) forall_inTree_nil
      forall_inTree_nil) forall_inTree_nil) forall_inTree_nil)
  styles :=
    have hstyle {s : Text} (hs : IsBriefRendition s) : SelectsBriefly s := hs.selectsBriefly
    forall_inTree_cons (hstyle (by decide)) forall_inTree_nil
      (forall_inTree_cons (hstyle (by decide)) (forall_inTree_cons .nil
        (forall_inTree_cons (hstyle (by decide)) forall_inTree_nil forall_inTree_nil)
        forall_inTree_nil) forall_inTree_nil)

theorem colorsOnly_refusing : ColorsOnly Highlighter.refusing.rules where
  transform := forall_inTree_cons rfl forall_inTree_nil forall_inTree_nil
  stages := forall_inTree_cons (.inl rfl) forall_inTree_nil forall_inTree_nil
  styles := forall_inTree_cons .nil forall_inTree_nil forall_inTree_nil

namespace Highlighter

/-- A run of sequences is never found in a text without any. -/
theorem renditions_of_free {text : Text} (hfree : Free text) {ss : List Text}
    (hss : .escapes ss ∈ runs (lexemes text)) : renditions ss = [] := by
  have hempty : ss = [] := by
    refine List.eq_nil_iff_forall_not_mem.mpr fun s hs => ?_
    have hmem : .sequence s ∈ (runs (lexemes text)).flatMap Run.lexemes :=
      List.mem_flatMap.mpr ⟨_, hss, List.mem_map_of_mem hs⟩
    rw [flatMap_runs, hfree.lexemes_eq] at hmem
    simp at hmem
  rw [hempty]
  rfl

/-- What may be put into a text without sequences selects renditions by a few digits. -/
theorem MayPut.selectsBriefly {rules : List Rule} {base text t : Text}
    (h : MayPut rules base text t)
    (hcolors : ColorsOnly rules) (hbase : SelectsBriefly base) (hfree : Free text) :
    SelectsBriefly t := by
  rcases h with ⟨r, hr, rfl⟩ | rfl | ⟨ss, hss, rfl⟩
  · exact hcolors.styles r hr
  · exact hbase
  · rw [renditions_of_free hfree hss]
    exact .nil

/-- **Rules that only color paint a text.** -/
theorem colorize_painted {rules : RuleSet} {g : Grammar} {maxDepth : Int}
    (hcompile : Grammar.compile rules Grammar.defaultFlags maxDepth = .ok g)
    (hcolors : ColorsOnly rules.rules) {base : Text} (hbase : SelectsBriefly base) {text : Text}
    (hfree : Free text) :
    Delivers g.level.MayReverse (Painted text)
      ((Highlighter.mk g base).colorize text none).result := by
  have hclose : BracketsClose Grammar.defaultFlags rules.rules := fun hx => absurd hx (by decide)
  refine (colorize_delivers (Grammar.built_of_compile hcompile) hclose hcolors.transform
    hcolors.stages base text none).mono id ?_
  rintro out ⟨rest, hrows, rfl⟩
  exact .of_patched hfree (patched_of_rows hrows) fun t ht => ht.selectsBriefly hcolors hbase hfree

end Highlighter

/-! ## Consoles -/

namespace Console

/-- The escape of every color of the palette selects renditions by a few digits. -/
def ColorsBriefly (palette : Palette) : Prop := ∀ name, SelectsBriefly (palette.escape name)

/-- It is enough to look at the colors that the palette has. -/
theorem colorsBriefly_of_forall {palette : Palette}
    (h : ∀ entry ∈ palette.colors, SelectsBriefly (entry.2.ansi.getD [])) :
    ColorsBriefly palette := by
  intro name
  rw [Palette.escape, Palette.color]
  cases hlookup : palette.colors.lookup name with
  | none => exact .nil
  | some color =>
    obtain ⟨before, after, hsplit, -⟩ := List.lookup_eq_some_iff.mp hlookup
    exact h (name, color) (by simp [hsplit])

/-- The standard palette selects renditions by a few digits. -/
theorem colorsBriefly_standard : ColorsBriefly .standard := by
  have hcolors : ∀ entry ∈ Palette.standard.colors, IsBriefRendition (entry.2.ansi.getD []) := by
    decide
  exact colorsBriefly_of_forall fun entry hentry => (hcolors entry hentry).selectsBriefly

/-- So does the escape that is restored with it. -/
theorem selectsBriefly_baseEscape_standard : SelectsBriefly (baseEscape .standard none) :=
  IsBriefRendition.selectsBriefly (by decide)

/-- A console is assembled of the grammar that its rules make and of the escape that it restores. -/
theorem assemble_eq_ok_iff {given : Option RuleSet} {rules : RuleSet} {base : Option Text}
    {palette : Palette} {enabled : Bool} {c : Console}
    (hrules : rulesOf palette given = .ok rules) :
    (assemble given base palette enabled).result = .ok c ↔
      ∃ g, Grammar.compile rules Grammar.defaultFlags Grammar.defaultMaxDepth = .ok g ∧
        c = ⟨palette, ⟨g, baseEscape palette base⟩, enabled⟩ := by
  have hgrammar : grammarOf palette given =
      Grammar.compile rules Grammar.defaultFlags Grammar.defaultMaxDepth := by
    rw [grammarOf, hrules]
    rfl
  unfold assemble
  rw [hgrammar]
  cases Grammar.compile rules Grammar.defaultFlags Grammar.defaultMaxDepth with
  | ok g => simp [eq_comm]
  | error e => simp

/-- The stock rules make a console with any palette. They only color if the palette does, and no
search for them is refused. -/
theorem assemble_stock (base : Option Text) (palette : Palette) (enabled : Bool) : ∃ rules g,
    rulesOf palette none = .ok (.sequence rules) ∧
    Grammar.compile (.sequence rules) Grammar.defaultFlags Grammar.defaultMaxDepth = .ok g ∧
    (assemble none base palette enabled).result =
      .ok ⟨palette, ⟨g, baseEscape palette base⟩, enabled⟩ ∧
    (ColorsBriefly palette → ColorsOnly rules) ∧ ¬ g.level.MayReverse := by
  obtain ⟨rules, g, hbuild, hcompile, hsimple, hreverse⟩ :=
    Stock.compile_eq_ok fun name => some (palette.escape name)
  have hrules : rulesOf palette none = .ok (.sequence rules) := by
    rw [rulesOf, Stock.rules?, hbuild]
    rfl
  refine ⟨rules, g, hrules, hcompile, (assemble_eq_ok_iff hrules).mpr ⟨g, hcompile, rfl⟩,
    fun hpalette => ?_, hreverse⟩
  refine ⟨fun r hr => (hsimple r hr).transform, fun r hr => (hsimple r hr).stages, fun r hr => ?_⟩
  rcases (hsimple r hr).escape with hnone | ⟨color, hcolor⟩
  · rw [hnone]
    exact .nil
  · rw [hcolor]
    exact hpalette color

/-- With the stock rules and the standard palette every text is colored, whatever escape is
restored. If the console does not color its output, texts stay as they are. -/
theorem exists_colorize_stock (base : Option Text) (enabled : Bool) : ∃ (c : Console)
    (shown : Text → Text), (assemble none base .standard enabled).result = .ok c ∧
      (∀ t, (c.colorize t none).result = .ok (shown t)) ∧ (enabled = false → ∀ t, shown t = t) := by
  obtain ⟨rules, g, -, hcompile, hassemble, hcolors, hreverse⟩ :=
    assemble_stock base .standard enabled
  have hcolors := hcolors colorsBriefly_standard
  have hclose : BracketsClose Grammar.defaultFlags rules := fun hx => absurd hx (by decide)
  have htotal (t : Text) : ∃ out,
      ((Console.mk .standard ⟨g, baseEscape .standard base⟩ enabled).colorize t none).result =
        .ok out ∧ (enabled = false → out = t) := by
    cases enabled with
    | false => exact ⟨t, rfl, fun _ => rfl⟩
    | true =>
      obtain ⟨out, hout, -⟩ := (Highlighter.colorize_delivers (Grammar.built_of_compile hcompile)
        hclose hcolors.transform hcolors.stages _ t none).exists_eq_ok hreverse
      exact ⟨out, hout, fun h => by cases h⟩
  choose shown hshown hplain using htotal
  exact ⟨_, shown, hassemble, hshown, fun h t => hplain t h⟩

/-! ## Lines at a prompt -/

theorem lineAt_eq {lines : List (List Fragment)} {n : Int} {i : Nat} (hi : i < lines.length)
    (hn : n = i ∨ n = i - lines.length) : lineAt lines n = lines[i] := by
  have hindex : (if n < 0 then lines.length + n else n) = i := by
    split <;> omega
  have hnonneg : ¬ (i : Int) < 0 := by omega
  simp [lineAt, hindex, hnonneg, hi]

/-- There are fragments for every line of the text, and they have its characters, by the number of
the line from the start as well as from the end. -/
structure ShowsLines (text : Text) (lines : List (List Fragment)) : Prop where
  length_eq : lines.length = text.lines.length
  text_eq : ∀ (n : Int) (i : Nat) (hi : i < text.lines.length),
    n = i ∨ n = i - text.lines.length → (lineAt lines n).flatMap Fragment.text = text.lines[i]

section Shown
variable {rules : RuleSet} {g : Grammar} {maxDepth : Int} (palette : Palette) (enabled : Bool)
  {base text : Text}

/-- A line is shown at a prompt, unless the console colors and a search is refused. -/
theorem lineFragments_delivers {decode : Fragment.Decoder} (hdecode : Fragment.Faithful decode)
    (hcompile : Grammar.compile rules Grammar.defaultFlags maxDepth = .ok g)
    (hcolors : ColorsOnly rules.rules) (hbase : SelectsBriefly base)
    (htext : ∀ c ∈ text, Fragment.IsOrdinary c) :
    Delivers (enabled = true ∧ g.level.MayReverse)
      (fun fragments => fragments.flatMap Fragment.text = text)
      ((Console.mk palette ⟨g, base⟩ enabled).lineFragments decode text).result := by
  have hpainted : Delivers (enabled = true ∧ g.level.MayReverse) (Painted text)
      ((Console.mk palette ⟨g, base⟩ enabled).colorize text none).result := by
    cases enabled with
    | false => exact .ok (.refl text)
    | true =>
      have hfree : Free text := free_of_notMem fun hmem => (htext esc hmem).not_escape rfl
      exact (Highlighter.colorize_painted hcompile hcolors hbase hfree).mono (⟨rfl, ·⟩) fun _ => id
  rw [lineFragments, Logged.result_bind]
  refine hpainted.bind fun out hout => ?_
  obtain ⟨fragments, hfragments, hshown⟩ := map_eq_ok_iff.mp (hdecode.shown_painted hout htext)
  rw [hfragments]
  exact .ok hshown

/-- So are all lines of a text. -/
theorem fragments_delivers {decode : Fragment.Decoder} (hdecode : Fragment.Faithful decode)
    (hcompile : Grammar.compile rules Grammar.defaultFlags maxDepth = .ok g)
    (hcolors : ColorsOnly rules.rules) (hbase : SelectsBriefly base)
    (htext : ∀ c ∈ text, Fragment.IsOrdinary c) :
    Delivers (enabled = true ∧ g.level.MayReverse) (ShowsLines text)
      ((Console.mk palette ⟨g, base⟩ enabled).fragments decode text).result := by
  rw [fragments, Logged.result_mapM]
  have hlines := Delivers.mapM fun line (hline : line ∈ text.lines) =>
    lineFragments_delivers palette enabled hdecode hcompile hcolors hbase
      fun c hc => htext c (mem_of_mem_splitOn hline hc).1
  refine hlines.mono id fun lines hshown => ?_
  have hlength := hshown.length_eq
  refine ⟨hlength.symm, fun n i hi hn => ?_⟩
  rw [hlength] at hn
  rw [lineAt_eq (hlength ▸ hi) hn]
  exact hshown.get hi (hlength ▸ hi)

/-- A text is shown by a terminal, unless a search is refused. -/
theorem render_delivers {decode : Display.Decoder} (hdecode : Display.Faithful decode)
    (hcompile : Grammar.compile rules Grammar.defaultFlags maxDepth = .ok g)
    (hcolors : ColorsOnly rules.rules) (hbase : SelectsBriefly base)
    (htext : ∀ c ∈ text, Display.IsGraphic c) :
    Delivers g.level.MayReverse (fun d => d.plain = text ∧ d.Spanned)
      ((Console.mk palette ⟨g, base⟩ enabled).render decode text).result := by
  have hfree : Free text :=
    free_of_notMem fun hmem => absurd (htext esc hmem) (by decide)
  rw [render, Logged.result_bind]
  refine (Highlighter.colorize_painted hcompile hcolors hbase hfree).bind fun out hout => ?_
  obtain ⟨d, hdisplay, hplain, hspanned⟩ := hdecode.shows_painted hout htext
  rw [hdisplay]
  exact .ok ⟨hplain, hspanned⟩

end Shown

/-! ## The theorems -/

/-- **A prompt shows every line of a text as it is**, if its decoder is faithful, the rules of the
console only color and the escape that it restores selects renditions by a few digits. That is to
say, the fragments under the number of a line have its characters. Only a search may be refused, and
only if the console colors. The stock rules are accepted with any palette and no search for them is
refused, and they only color if the palette selects renditions by a few digits. The standard palette
does, and so does the escape that comes with it. -/
theorem fragments_keep_lines {decode : Fragment.Decoder} (hdecode : Fragment.Faithful decode)
    (base : Option Text) (palette : Palette) (enabled : Bool) {text : Text}
    (hbase : SelectsBriefly (baseEscape palette base))
    (htext : ∀ c ∈ text, Fragment.IsOrdinary c) :
    (∀ (given : Option RuleSet) (rules : RuleSet) (c : Console),
      rulesOf palette given = .ok rules → ColorsOnly rules.rules →
      (assemble given base palette enabled).result = .ok c →
      Delivers (enabled = true ∧ c.highlighter.grammar.level.MayReverse) (ShowsLines text)
        (c.fragments decode text).result) ∧
    (∃ (rules : RuleSet) (c : Console), rulesOf palette none = .ok rules ∧
      (assemble none base palette enabled).result = .ok c ∧
      (ColorsBriefly palette → ColorsOnly rules.rules) ∧
      (ColorsOnly rules.rules →
        ∃ lines, (c.fragments decode text).result = .ok lines ∧ ShowsLines text lines)) ∧
    ColorsBriefly .standard ∧ SelectsBriefly (baseEscape .standard none) := by
  refine ⟨?_, ?_, colorsBriefly_standard, selectsBriefly_baseEscape_standard⟩
  · intro given rules c hrules hcolors hassemble
    obtain ⟨g, hcompile, rfl⟩ := (assemble_eq_ok_iff hrules).mp hassemble
    exact fragments_delivers palette enabled hdecode hcompile hcolors hbase htext
  · obtain ⟨rules, g, hrules, hcompile, hassemble, hbriefly, hreverse⟩ :=
      assemble_stock base palette enabled
    refine ⟨.sequence rules, _, hrules, hassemble, hbriefly, fun hcolors => ?_⟩
    have hdelivers := fragments_delivers palette enabled hdecode hcompile hcolors hbase htext
    exact hdelivers.exists_eq_ok fun h => hreverse h.2

/-- A prompt with the decoder that reads character by character, for one, shows a pair and a word in
two lines, and so it does with the stock rules. -/
theorem fragments_keep_lines_nested : (∃ c lines,
      (assemble (some nested) none .standard true).result = .ok c ∧
        (c.fragments Fragment.decoder "ab=1\nba".toList).result = .ok lines ∧ lines.length = 2 ∧
        ShowsLines "ab=1\nba".toList lines) ∧
    ∃ c lines, (assemble none none .standard true).result = .ok c ∧
      (c.fragments Fragment.decoder "ab=1\nba".toList).result = .ok lines ∧
      ShowsLines "ab=1\nba".toList lines := by
  have htext : ∀ c ∈ "ab=1\nba".toList, Fragment.IsOrdinary c :=
    List.forall_iff_forall_mem.mp (by decide)
  have hkeep := fragments_keep_lines Fragment.faithful_decoder none .standard true
    selectsBriefly_baseEscape_standard htext
  constructor
  · obtain ⟨c, hassemble, hrun⟩ := bind_eq_ok_iff.mp (show
      ((assemble (some nested) none .standard true).result >>= fun c =>
        (c.fragments Fragment.decoder "ab=1\nba".toList).result.map List.length) = .ok 2
      by decide +kernel)
    cases hresult : (c.fragments Fragment.decoder "ab=1\nba".toList).result with
    | error e =>
      rw [hresult] at hrun
      cases hrun
    | ok lines =>
      rw [hresult] at hrun
      have hshown :=
        (hkeep.1 (some nested) nested c rfl colorsOnly_nested hassemble).of_eq_ok hresult
      exact ⟨c, lines, hassemble, hresult, Except.ok.inj hrun, hshown⟩
  · obtain ⟨rules, c, -, hassemble, hbriefly, hlines⟩ := hkeep.2.1
    obtain ⟨lines, hresult, hshown⟩ := hlines (hbriefly hkeep.2.2.1)
    exact ⟨c, lines, hassemble, hresult, hshown⟩

/-- Where a search is refused nothing is shown, although the rules only color and the decoder is
faithful. -/
theorem not_fragments_keep_lines : ∃ c, ColorsOnly Highlighter.refusing.rules ∧
    SelectsBriefly (baseEscape .standard none) ∧ Fragment.Faithful Fragment.decoder ∧
    (∀ ch ∈ "xyz".toList, Fragment.IsOrdinary ch) ∧
    (assemble (some Highlighter.refusing) none .standard true).result = .ok c ∧
    (c.fragments Fragment.decoder "xyz".toList).result = .error .reversedGroup := by
  obtain ⟨c, hassemble, hrun⟩ := bind_eq_ok_iff.mp (show
    ((assemble (some Highlighter.refusing) none .standard true).result >>= fun c =>
      .ok (c.fragments Fragment.decoder "xyz".toList).result) = .ok (.error .reversedGroup)
    by decide +kernel)
  exact ⟨c, colorsOnly_refusing, selectsBriefly_baseEscape_standard, Fragment.faithful_decoder,
    List.forall_iff_forall_mem.mp (by decide), hassemble, Except.ok.inj hrun⟩

/-- **A terminal shows a text as it is**, if its decoder is faithful, the rules of the console only
color and the escape that it restores selects renditions by a few digits, whether the console colors
its output or not: the display has the characters of the text, and its spans are not empty and lie
within it. Only a search may be refused, and none is for the stock rules, which only color if the
palette selects renditions by a few digits, as the standard one does. -/
theorem render_keeps_text {decode : Display.Decoder} (hdecode : Display.Faithful decode)
    (base : Option Text) (palette : Palette) (enabled : Bool) {text : Text}
    (hbase : SelectsBriefly (baseEscape palette base))
    (htext : ∀ c ∈ text, Display.IsGraphic c) :
    (∀ (given : Option RuleSet) (rules : RuleSet) (c : Console),
      rulesOf palette given = .ok rules → ColorsOnly rules.rules →
      (assemble given base palette enabled).result = .ok c →
      Delivers c.highlighter.grammar.level.MayReverse
        (fun d => d.plain = text ∧
          ∀ span ∈ d.spans, span.start < span.stop ∧ span.stop ≤ text.length)
        (c.render decode text).result) ∧
    (∃ (rules : RuleSet) (c : Console), rulesOf palette none = .ok rules ∧
      (assemble none base palette enabled).result = .ok c ∧
      (ColorsBriefly palette → ColorsOnly rules.rules) ∧
      (ColorsOnly rules.rules → ∃ d, (c.render decode text).result = .ok d ∧ d.plain = text ∧
        ∀ span ∈ d.spans, span.start < span.stop ∧ span.stop ≤ text.length)) ∧
    ColorsBriefly .standard ∧ SelectsBriefly (baseEscape .standard none) := by
  have hwithin {d : Display} (hplain : d.plain = text) (hspanned : d.Spanned) :
      ∀ span ∈ d.spans, span.start < span.stop ∧ span.stop ≤ text.length := by
    rw [← hplain]
    exact hspanned
  refine ⟨?_, ?_, colorsBriefly_standard, selectsBriefly_baseEscape_standard⟩
  · intro given rules c hrules hcolors hassemble
    obtain ⟨g, hcompile, rfl⟩ := (assemble_eq_ok_iff hrules).mp hassemble
    exact (render_delivers palette enabled hdecode hcompile hcolors hbase htext).mono id
      fun d hd => ⟨hd.1, hwithin hd.1 hd.2⟩
  · obtain ⟨rules, g, hrules, hcompile, hassemble, hbriefly, hreverse⟩ :=
      assemble_stock base palette enabled
    refine ⟨.sequence rules, _, hrules, hassemble, hbriefly, fun hcolors => ?_⟩
    have hdelivers := render_delivers palette enabled hdecode hcompile hcolors hbase htext
    obtain ⟨d, hresult, hplain, hspanned⟩ := hdelivers.exists_eq_ok hreverse
    exact ⟨d, hresult, hplain, hwithin hplain hspanned⟩

/-- A terminal with the decoder that gathers what stands between tokens, for one, shows a pair and a
word, although the console does not color its output, and so it does with the stock rules. -/
theorem render_keeps_text_nested : (∃ c d,
      (assemble (some nested) none .standard false).result = .ok c ∧
        (c.render Display.decoder "ab=1 ba".toList).result = .ok d ∧ d.plain = "ab=1 ba".toList ∧
        d.spans.length = 5) ∧
    ∃ c d, (assemble none none .standard false).result = .ok c ∧
      (c.render Display.decoder "ab=1 ba".toList).result = .ok d ∧ d.plain = "ab=1 ba".toList := by
  have htext : ∀ c ∈ "ab=1 ba".toList, Display.IsGraphic c :=
    List.forall_iff_forall_mem.mp (by decide)
  have hkeep := render_keeps_text Display.faithful_decoder none .standard false
    selectsBriefly_baseEscape_standard htext
  constructor
  · obtain ⟨c, hassemble, hrun⟩ := bind_eq_ok_iff.mp (show
      ((assemble (some nested) none .standard false).result >>= fun c =>
        (c.render Display.decoder "ab=1 ba".toList).result.map fun d => d.spans.length) = .ok 5
      by decide +kernel)
    cases hresult : (c.render Display.decoder "ab=1 ba".toList).result with
    | error e =>
      rw [hresult] at hrun
      cases hrun
    | ok d =>
      rw [hresult] at hrun
      have hshown :=
        (hkeep.1 (some nested) nested c rfl colorsOnly_nested hassemble).of_eq_ok hresult
      exact ⟨c, d, hassemble, hresult, hshown.1, Except.ok.inj hrun⟩
  · obtain ⟨rules, c, -, hassemble, hbriefly, hdisplay⟩ := hkeep.2.1
    obtain ⟨d, hresult, hplain, -⟩ := hdisplay (hbriefly hkeep.2.2.1)
    exact ⟨c, d, hassemble, hresult, hplain⟩

/-- Where a search is refused a terminal shows nothing, although the rules only color and the
decoder is faithful. -/
theorem not_render_keeps_text : ∃ c, ColorsOnly Highlighter.refusing.rules ∧
    SelectsBriefly (baseEscape .standard none) ∧ Display.Faithful Display.decoder ∧
    (∀ ch ∈ "xyz".toList, Display.IsGraphic ch) ∧
    (assemble (some Highlighter.refusing) none .standard true).result = .ok c ∧
    (c.render Display.decoder "xyz".toList).result = .error .reversedGroup := by
  obtain ⟨c, hassemble, hrun⟩ := bind_eq_ok_iff.mp (show
    ((assemble (some Highlighter.refusing) none .standard true).result >>= fun c =>
      .ok (c.render Display.decoder "xyz".toList).result) = .ok (.error .reversedGroup)
    by decide +kernel)
  exact ⟨c, colorsOnly_refusing, selectsBriefly_baseEscape_standard, Display.faithful_decoder,
    List.forall_iff_forall_mem.mp (by decide), hassemble, Except.ok.inj hrun⟩

end Console

end Highlighting
