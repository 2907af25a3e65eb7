import Highlighting.Ansi.Display
import Highlighting.Proofs.Ansi.Parameters
import Highlighting.Proofs.Result

/-!
# Painted texts on display

A terminal displays a text by way of a decoder. All that is asked of the decoder is that it is
faithful: it takes every brief rendition in and leaves the display as it is, and it appends every
stretch of characters between two renditions in whatever style is in force, with a span if that is
one to be seen. Then a painted text is displayed as the text that it was, and a span, which comes
with a stretch, is never empty and ends where the display ends.

The decoder that there is here is one of these. It cuts a text into tokens, gathers characters and,
at every rendition, appends what has been gathered to the display. It takes that the text has no
control characters. Others end a line at a separator too.

## Main definitions

* `Display.IsGraphic` -- a character that is shown as itself and ends no line.
* `Display.Spanned` -- the spans of a display are not empty and lie within it.
* `Display.Faithful` -- what is asked of a decoder.

## Main statements

* `Display.Faithful.shows_painted` -- the display of a painted text.
* `Display.faithful_decoder` -- a faithful decoder.
-/
namespace Highlighting

open Ansi

namespace Display

/-! ## Characters that are displayed -/

/-- The control characters and the separators of lines and paragraphs, in ranges. -/
def notGraphic : List (Nat × Nat) := [(0, 0x1f), (0x7f, 0x9f), (0x2028, 0x2029)]

/-- The character is shown as itself and ends no line: it is no control character and no
separator. -/
def IsGraphic (c : Char) : Prop :=
  ∀ range ∈ notGraphic, ¬ (range.1 ≤ c.toNat ∧ c.toNat ≤ range.2)

instance (c : Char) : Decidable (IsGraphic c) :=
  inferInstanceAs (Decidable (∀ range ∈ notGraphic, _))

theorem IsGraphic.not_control {c : Char} (hc : IsGraphic c) : ¬ c.toNat < 0x20 := by
  have hrange := hc (0, 0x1f) (by decide)
  omega

theorem IsGraphic.ne_of_lt {c d : Char} (hc : IsGraphic c) (hd : d.toNat < 0x20) : c ≠ d := by
  rintro rfl
  exact hc.not_control hd

theorem IsGraphic.isHidden_eq {c : Char} (hc : IsGraphic c) : isHidden c = false := by
  have hcontrol := hc.not_control
  simp only [isHidden, List.contains_eq_mem, List.mem_cons, List.not_mem_nil, or_false,
    decide_eq_false_iff_not]
  omega

/-! ## Faithful decoders -/

/-- The spans are not empty and lie within what is displayed. -/
def Spanned (d : Display) : Prop :=
  ∀ span ∈ d.spans, span.start < span.stop ∧ span.stop ≤ d.plain.length

/-- A display with a stretch of text behind it, and a span over that if it has a style. -/
def extend (d : Display) (stretch : Text) (style : Option Style) : Display :=
  ⟨d.plain ++ stretch,
    d.spans ++ (style.map (⟨d.plain.length, d.plain.length + stretch.length, ·⟩)).toList⟩

/-- A stretch that is not empty gives no empty span. -/
theorem Spanned.extend {d : Display} (h : d.Spanned) {stretch : Text} (hne : stretch ≠ [])
    (style : Option Style) : (d.extend stretch style).Spanned := by
  have hpositive := List.length_pos_iff.mpr hne
  intro span hspan
  have hlength : (d.extend stretch style).plain.length = d.plain.length + stretch.length :=
    List.length_append
  rw [hlength]
  rcases List.mem_append.mp hspan with hspan | hspan
  · have hwithin := h span hspan
    omega
  · rw [Option.mem_toList, Option.map_eq_some_iff] at hspan
    obtain ⟨-, -, rfl⟩ := hspan
    dsimp only
    omega

/-- The text is made of graphic characters and brief renditions. -/
def Drawn (out : Text) : Prop := ∃ t, Painted t out ∧ ∀ c ∈ t, IsGraphic c

/-- A stretch may begin behind the text: this is empty, or its end is a rendition. -/
inductive Paused : Text → Prop where
  | start : Paused []
  | rendition {out s : Text} (h : Drawn out) (hs : IsBriefRendition s) : Paused (out ++ s)

/-- What is asked of a decoder: it takes a brief rendition in and displays nothing of it, and it
appends a stretch of graphic characters in the style in force, if there is one. -/
structure Faithful (decode : Decoder) : Prop where
  nil : decode [] = .ok ⟨[], []⟩
  rendition : ∀ {out s : Text}, Drawn out → IsBriefRendition s → decode (out ++ s) = decode out
  stretch : ∀ {out stretch : Text}, Paused out → stretch ≠ [] → (∀ c ∈ stretch, IsGraphic c) →
    ∃ style, decode (out ++ stretch) = (decode out).map (·.extend stretch style)

/-- The decoder displays a text as another, with spans that are not empty and lie within it. -/
def Shows (decode : Decoder) (out t : Text) : Prop :=
  ∃ d, decode out = .ok d ∧ d.plain = t ∧ d.Spanned

namespace Drawn

theorem nil : Drawn [] := ⟨[], .nil, by simp⟩

theorem append {out out' : Text} (h : Drawn out) (h' : Drawn out') : Drawn (out ++ out') := by
  obtain ⟨t, hpainted, ht⟩ := h
  obtain ⟨t', hpainted', ht'⟩ := h'
  exact ⟨t ++ t', hpainted.append hpainted', List.forall_mem_append.mpr ⟨ht, ht'⟩⟩

theorem of_graphic {t : Text} (ht : ∀ c ∈ t, IsGraphic c) : Drawn t := ⟨t, .refl t, ht⟩

theorem of_rendition {s : Text} (hs : IsBriefRendition s) : Drawn s :=
  ⟨[], by simpa using Painted.rendition hs .nil, by simp⟩

end Drawn

theorem Paused.drawn {out : Text} (h : Paused out) : Drawn out := by
  cases h with
  | start => exact .nil
  | rendition h hs => exact h.append (.of_rendition hs)

namespace Faithful
variable {decode : Decoder} (h : Faithful decode) {out t : Text}
include h

/-- A stretch is displayed as it is. It may be empty. -/
theorem shows_stretch (hpaused : Paused out) (hshows : Shows decode out t) {stretch : Text}
    (hstretch : ∀ c ∈ stretch, IsGraphic c) : Shows decode (out ++ stretch) (t ++ stretch) := by
  by_cases hnil : stretch = []
  · simpa [hnil] using hshows
  obtain ⟨d, hd, rfl, hspanned⟩ := hshows
  obtain ⟨style, hstyle⟩ := h.stretch hpaused hnil hstretch
  refine ⟨d.extend stretch style, ?_, rfl, hspanned.extend hnil style⟩
  rw [hstyle, hd]
  rfl

/-- What is painted comes behind a stretch that is not at its end yet. -/
theorem shows_append (hpaused : Paused out) (hshows : Shows decode out t) {stretch : Text}
    (hstretch : ∀ c ∈ stretch, IsGraphic c) {u out' : Text} (hpainted : Painted u out')
    (hu : ∀ c ∈ u, IsGraphic c) :
    Shows decode (out ++ stretch ++ out') (t ++ stretch ++ u) := by
  induction hpainted generalizing out t stretch with
  | nil =>
    rw [List.append_nil, List.append_nil]
    exact h.shows_stretch hpaused hshows hstretch
  | @plain u out' c _ ih =>
    rw [List.forall_mem_cons] at hu
    have hlonger : ∀ d ∈ stretch ++ [c], IsGraphic d :=
      List.forall_mem_append.mpr ⟨hstretch, by simpa using hu.1⟩
    simpa using ih hpaused hshows hlonger hu.2
  | @rendition u out' s hs _ ih =>
    have hdrawn : Drawn (out ++ stretch) := hpaused.drawn.append (.of_graphic hstretch)
    have hbefore : Shows decode (out ++ stretch ++ s) (t ++ stretch) := by
      rw [Shows, h.rendition hdrawn hs]
      exact h.shows_stretch hpaused hshows hstretch
    -- The rendition ends the stretch, and the next one is empty.
    simpa using ih (.rendition hdrawn hs) hbefore (by simp : ∀ c ∈ [], IsGraphic c) hu

/-- **A painted text is displayed as the text that it was**, whatever faithful decoder displays it,
and the spans are not empty and lie within it. -/
theorem shows_painted (hpainted : Painted t out) (ht : ∀ c ∈ t, IsGraphic c) :
    Shows decode out t := by
  have hstart : Shows decode [] [] := ⟨⟨[], []⟩, h.nil, rfl, by simp [Spanned]⟩
  simpa using h.shows_append .start hstart (by simp : ∀ c ∈ [], IsGraphic c) hpainted ht

end Faithful

end Display

/-! ## Tokens of a painted text -/

namespace DisplayToken

theorem ofLineAfter_eq (n : Nat) (t : Text) : ofLineAfter n t = ofLine (t.drop n) := by
  induction n generalizing t with
  | zero => rfl
  | succ n ih =>
    cases t with
    | nil => rfl
    | cons c t => exact ih t

/-- A character that starts no sequence is a token. -/
theorem ofLine_cons {c : Char} (hc : c ≠ esc) (rest : Text) :
    ofLine (c :: rest) = .plain c :: ofLine rest := by
  have hread : at? (c :: rest) = none := by
    cases rest with
    | nil => rfl
    | cons d rest => simp [at?, hc]
  rw [ofLine, ofLineAfter, hread]
  rfl

/-- A brief rendition is a token that holds its parameters. -/
theorem ofLine_rendition {ps : List Text} (hne : ps ≠ []) (hbrief : ∀ p ∈ ps, Brief p)
    (rest : Text) : ofLine (formatEscape (joinParameters ps) ++ rest) =
      .rendition (joinParameters ps) :: ofLine rest := by
  have hsequence : IsSequence (formatEscape (joinParameters ps)) :=
    isSequence_of_isRendition (IsBriefRendition.isRendition ⟨ps, hne, hbrief, rfl⟩)
  have hbody : body? (joinParameters ps ++ 'm' :: rest) = some (joinParameters ps ++ ['m']) := by
    have hread := hsequence.sequenceAt?_append rest
    rw [formatEscape_append] at hread
    simpa [sequenceAt?, formatEscape] using hread
  have hread : at? (esc :: '[' :: (joinParameters ps ++ 'm' :: rest)) =
      some (.rendition (joinParameters ps), (joinParameters ps).length + 3) := by
    simp [at?, hbody]
  have hdrop : ('[' :: (joinParameters ps ++ 'm' :: rest)).drop
      ((joinParameters ps).length + 3 - 1) = rest := by
    simp
  rw [formatEscape_append, ofLine, ofLineAfter, hread]
  dsimp only
  rw [ofLineAfter_eq, hdrop]

/-- The tokens of a text behind a drawn one. -/
theorem ofLine_append {out : Text} (h : Display.Drawn out) (rest : Text) :
    ofLine (out ++ rest) = ofLine out ++ ofLine rest := by
  obtain ⟨t, hpainted, ht⟩ := h
  induction hpainted with
  | nil => rfl
  | plain c _ ih =>
    rw [List.forall_mem_cons] at ht
    have hc := ht.1.ne_of_lt (d := esc) (by decide)
    rw [List.cons_append, ofLine_cons hc, ofLine_cons hc, ih ht.2, List.cons_append]
  | rendition hs _ ih =>
    obtain ⟨ps, hne, hbrief, rfl⟩ := hs
    rw [List.append_assoc, ofLine_rendition hne hbrief, ofLine_rendition hne hbrief, ih ht,
      List.cons_append]

/-- Graphic characters are tokens. -/
theorem ofLine_graphic {t : Text} (ht : ∀ c ∈ t, Display.IsGraphic c) :
    ofLine t = t.map .plain := by
  induction t with
  | nil => rfl
  | cons c t ih =>
    rw [List.forall_mem_cons] at ht
    rw [ofLine_cons (ht.1.ne_of_lt (by decide)), ih ht.2, List.map_cons]

end DisplayToken

namespace Display

/-- The codes of brief parameters are all read. -/
theorem codesOf_joinParameters {ps : List Text} (hne : ps ≠ []) (hbrief : ∀ p ∈ ps, Brief p) :
    ∃ codes, Style.codesOf (joinParameters ps) = .ok codes := by
  have hdigits : ps.filter (·.all Char.isDigit) = ps :=
    List.filter_eq_self.mpr fun p hp => List.all_eq_true.mpr (hbrief p hp).isDigit
  rw [Style.codesOf, splitOn_joinParameters hne hbrief, hdigits]
  clear hne hdigits
  induction ps with
  | nil => exact ⟨[], rfl⟩
  | cons p ps ih =>
    obtain ⟨codes, hcodes⟩ := ih fun p hp => hbrief p (List.mem_cons_of_mem _ hp)
    rw [List.mapM_cons, hcodes]
    by_cases hnil : p = []
    · exact ⟨0 :: codes, by rw [if_pos hnil]; rfl⟩
    · refine ⟨min Style.maxCode (decimalOf p) :: codes, ?_⟩
      rw [if_neg hnil, (hbrief p List.mem_cons_self).readNumber_eq hnil]
      rfl

/-! ## Taking in tokens -/

/-- Characters that are shown are appended as they are, in a span of their own if the style is not
plain. -/
theorem append_eq_extend (d : Display) (style : Style) {piece : Text} (hne : piece ≠ [])
    (hpiece : ∀ c ∈ piece, isHidden c = false) :
    d.append piece style = d.extend piece (if style.isPlain then none else some style) := by
  have hshown : piece.filter (fun c => !isHidden c) = piece :=
    List.filter_eq_self.mpr fun c hc => by simp [hpiece c hc]
  by_cases hplain : style.isPlain = true <;> simp [append, extend, hne, hshown, hplain]

namespace State

/-- Nothing is gathered, so the next character begins a piece. -/
structure AtStart (s : State) : Prop where
  piece : s.piece = []
  keepsFirst : s.dropFirst = false

theorem AtStart.flush_eq {s : State} (h : s.AtStart) : s.flush = s := by
  obtain ⟨display, piece, dropFirst, style⟩ := s
  obtain ⟨rfl, rfl⟩ := h
  simp [flush, append]

/-- What is gathered from the start is one piece. -/
theorem AtStart.display_flush {s : State} (h : s.AtStart) (t : Text) :
    ({ s with piece := t.reverse ++ s.piece } : State).flush.display =
      s.display.append t s.style := by
  simp [flush, h.piece, h.keepsFirst]

/-- A rendition ends the piece and leaves the display as it is then. -/
theorem step_rendition (s : State) {ps : List Text} (hne : ps ≠ [])
    (hbrief : ∀ p ∈ ps, Brief p) :
    ∃ style, s.step (.rendition (joinParameters ps)) = .ok { s.flush with style := style } := by
  obtain ⟨codes, hcodes⟩ := codesOf_joinParameters hne hbrief
  exact ⟨s.flush.style.applyCodes codes, by rw [step, hcodes]; rfl⟩

/-- Characters are gathered. -/
theorem foldlM_plain (s : State) (t : Text) :
    (t.map DisplayToken.plain).foldlM step s = .ok { s with piece := t.reverse ++ s.piece } := by
  induction t generalizing s with
  | nil => rfl
  | cons c t ih =>
    rw [List.map_cons, List.foldlM_cons, step]
    change (t.map DisplayToken.plain).foldlM step _ = _
    rw [ih]
    simp

end State

/-! ## The decoder at hand -/

theorem afterReturn_eq {line : Text} (h : ∀ c ∈ line, c ≠ '\r') : afterReturn line = line := by
  have hall : line.reverse.takeWhile (· != '\r') = line.reverse :=
    List.takeWhile_eq_self_iff.mpr fun c hc => by simpa using h c (List.mem_reverse.mp hc)
  rw [afterReturn, hall, List.reverse_reverse]

/-- The state before a text. -/
def State.start : State := ⟨⟨[], []⟩, [], false, .plain⟩

/-- The state behind a text of one line. -/
def State.behind (out : Text) : Except NumberFault State :=
  (DisplayToken.ofLine out).foldlM State.step .start

/-- A drawn text is one line, and it is displayed once its tokens are taken in. -/
theorem ofText_eq {out : Text} (h : Drawn out) :
    ofText out = (State.behind out).map (·.flush.display) := by
  obtain ⟨t, hpainted, ht⟩ := h
  have hline {d : Char} (hd : d.toNat < esc.toNat) : ∀ c ∈ out, c ≠ d := by
    have hcontrol : d.toNat < 0x20 := Nat.lt_trans hd (by decide)
    refine hpainted.forall_mem (fun c hc => (ht c hc).ne_of_lt hcontrol) ?_
    rintro s hs c hc rfl
    have hle := hs.toNat_esc_le hc
    omega
  have hsplit : out.splitOn '\n' = [out] :=
    List.splitOn_eq_singleton fun hmem => hline (by decide) _ hmem rfl
  rw [ofText, hsplit, addLines, addLine, afterReturn_eq (hline (by decide)), State.behind,
    State.start]
  cases (DisplayToken.ofLine out).foldlM State.step ⟨⟨[], []⟩, [], false, .plain⟩ <;> rfl

theorem State.behind_append {out : Text} (h : Drawn out) (rest : Text) :
    behind (out ++ rest) = behind out >>= fun s => (DisplayToken.ofLine rest).foldlM step s := by
  rw [behind, DisplayToken.ofLine_append h, List.foldlM_append]
  rfl

/-- A rendition ends the piece behind a text. -/
theorem State.behind_rendition {out s : Text} (h : Drawn out) (hs : IsBriefRendition s) :
    ∃ style : State → Style, behind (out ++ s) =
      (behind out).map fun state => { state.flush with style := style state } := by
  obtain ⟨ps, hne, hbrief, rfl⟩ := hs
  have htokens : DisplayToken.ofLine (formatEscape (joinParameters ps)) =
      [.rendition (joinParameters ps)] := by
    rw [← List.append_nil (formatEscape _), DisplayToken.ofLine_rendition hne hbrief]
    rfl
  choose style hstyle using fun state : State => state.step_rendition hne hbrief
  refine ⟨style, ?_⟩
  rw [behind_append h, htokens]
  cases behind out with
  | error e => rfl
  | ok state => simp [hstyle, Except.map, bind, Except.bind, pure, Except.pure]

/-- Where a stretch may begin nothing is gathered. -/
theorem State.atStart_of_paused {out : Text} (h : Paused out) {state : State}
    (hstate : behind out = .ok state) : state.AtStart := by
  cases h with
  | start =>
    cases hstate
    exact ⟨rfl, rfl⟩
  | rendition h hs =>
    obtain ⟨style, hbehind⟩ := behind_rendition h hs
    rw [hbehind] at hstate
    obtain ⟨before, -, rfl⟩ := map_eq_ok_iff.mp hstate
    exact ⟨rfl, rfl⟩

/-- **The decoder is faithful.** -/
theorem faithful_decoder : Faithful decoder := by
  refine ⟨rfl, fun {out s} h hs => ?_, fun {out stretch} h hne hstretch => ?_⟩
  · obtain ⟨style, hbehind⟩ := State.behind_rendition h hs
    have hdisplay (state : State) :
        ({ state.flush with style := style state } : State).flush.display =
          state.flush.display := by
      rw [State.AtStart.flush_eq ⟨rfl, rfl⟩]
    rw [decoder, decoder, ofText_eq h, ofText_eq (h.append (.of_rendition hs)), hbehind]
    cases State.behind out with
    | error e => rfl
    | ok state => simp only [Except.map, hdisplay]
  · have hdrawn := h.drawn.append (.of_graphic hstretch)
    rw [decoder, decoder, ofText_eq h.drawn, ofText_eq hdrawn, State.behind_append h.drawn,
      DisplayToken.ofLine_graphic hstretch]
    cases hbehind : State.behind out with
    | error e => exact ⟨none, rfl⟩
    | ok state =>
      have hstart := State.atStart_of_paused h hbehind
      have hshown : ∀ c ∈ stretch, isHidden c = false := fun c hc => (hstretch c hc).isHidden_eq
      refine ⟨if state.style.isPlain then none else some state.style, ?_⟩
      change ((stretch.map .plain).foldlM State.step state |>.map (·.flush.display)).mapError _ =
        .ok (state.flush.display.extend stretch _)
      rw [State.foldlM_plain, hstart.flush_eq, ← append_eq_extend _ _ hne hshown,
        ← hstart.display_flush]
      rfl

end Display

end Highlighting
