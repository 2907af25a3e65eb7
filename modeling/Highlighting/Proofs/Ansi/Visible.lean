import Highlighting.Proofs.Ansi.Splitting
import Mathlib.Algebra.GroupWithZero.Nat

/-!
# What is visible of a text

What is visible of a text is found in two ways. One search after the other for the expression of
control sequences, each from the end of the match before, leaves out what is matched and keeps the
rest. And the pass that makes segments of a text keeps sequences back until plain text comes. Both
find the same sequences, so what the searches keep is the text of the plain segments.

## Main definitions

* `Regex.Program.outside` -- a text without what an expression matches.
* `Segments.plain`, `Segments.escapes` -- the segments of plain text, and those of sequences.
-/
namespace Highlighting

/-- A text from a position on without the matches of an expression, at most so many. The search for
the next match starts where the last one ended, for an expression that takes a character at least.
-/
def Regex.Program.outside (p : Program) (t : Text) : (fuel pos : Nat) → Text
  | 0, pos => t.drop pos
  | fuel + 1, pos =>
    match p.search t.toArray pos with
    | none => t.drop pos
    | some (start, st) => t.slice pos start ++ outside p t fuel st.pos

namespace Segments

/-- The segments of plain text. -/
def plain (s : Segments) : List Segment := s.segments.filter fun segment => !segment.escape

/-- The segments made of sequences. -/
def escapes (s : Segments) : List Segment := s.segments.filter (·.escape)

/-- The text of the segments is as long as the plain ones and the others together. -/
theorem length_text (s : Segments) : s.text.length =
    (s.plain.map (·.text.length)).sum + (s.escapes.map (·.text.length)).sum := by
  obtain ⟨segments, base⟩ := s
  simp only [text, plain, escapes]
  induction segments with
  | nil => rfl
  | cons segment segments ih =>
    rw [List.flatMap_cons, List.length_append, ih]
    cases hescape : segment.escape <;> simp [hescape] <;> omega

end Segments

namespace Ansi

/-! ## What searches keep -/

section Searching
variable {t rest : Text} {pos : Nat}

/-- A search tries the positions one by one. -/
theorem search_pattern (hpos : pos ≤ t.length) : pattern.program.search t.toArray pos =
    (List.range' pos (t.length + 1 - pos)).findSome? fun q =>
      (pattern.program.matchAt? t.toArray q).map (q, ·) := by
  have hsize : t.toArray.size = t.length := List.size_toArray
  rw [sound_pattern.search_eq (hsize ▸ hpos), hsize]

/-- Where no sequence stands, a search finds what one from the next position finds. -/
theorem search_pattern_plain {c : Char} (hread : t.drop pos = c :: rest)
    (hc : sequenceAt? (c :: rest) = none) (hpos : pos ≤ t.length) :
    pattern.program.search t.toArray pos = pattern.program.search t.toArray (pos + 1) := by
  have hnone : pattern.program.matchAt? t.toArray pos = none := by
    have := map_pos_matchAt? t pos
    rwa [hread, hc, Option.map_none, Option.map_eq_none_iff] at this
  have hle : pos + 1 ≤ t.length := add_length_le (u := [c]) hread hpos
  rw [search_pattern hpos, search_pattern hle,
    show t.length + 1 - pos = t.length + 1 - (pos + 1) + 1 by omega, List.range'_succ,
    List.findSome?_cons, hnone]
  rfl

/-- Where a sequence stands, a search finds it. -/
theorem search_pattern_sequence {s : Text} (hread : t.drop pos = s ++ rest) (hs : IsSequence s)
    (hpos : pos ≤ t.length) : ∃ st : MatchState,
      pattern.program.search t.toArray pos = some (pos, st) ∧ st.pos = pos + s.length := by
  have hstop := map_pos_matchAt? t pos
  rw [hread, hs.sequenceAt?_append, Option.map_some, Option.map_eq_some_iff] at hstop
  obtain ⟨st, hst, hstop⟩ := hstop
  refine ⟨st, ?_, hstop⟩
  rw [search_pattern hpos, show t.length + 1 - pos = t.length - pos + 1 by omega,
    List.range'_succ, List.findSome?_cons, hst]
  rfl

/-- A character outside of sequences is kept. -/
theorem outside_plain {c : Char} (hread : t.drop pos = c :: rest)
    (hc : sequenceAt? (c :: rest) = none) (hpos : pos ≤ t.length) (fuel : Nat) :
    pattern.program.outside t fuel pos = c :: pattern.program.outside t fuel (pos + 1) := by
  have hle : pos + 1 ≤ t.length := add_length_le (u := [c]) hread hpos
  have hrest : t.drop (pos + 1) = rest := drop_add_length (u := [c]) hread
  have hdrop : t.drop pos = c :: t.drop (pos + 1) := by rw [hrest, hread]
  cases fuel with
  | zero => exact hdrop
  | succ fuel =>
    unfold Regex.Program.outside
    rw [search_pattern_plain hread hc hpos]
    cases hsearch : pattern.program.search t.toArray (pos + 1) with
    | none => exact hdrop
    | some found =>
      obtain ⟨start, st⟩ := found
      obtain ⟨hstart, -, -⟩ := Regex.Program.search_eq_some hsearch (by simpa using hle)
      have hslice : t.slice pos start = c :: t.slice (pos + 1) start := by
        rw [Text.slice, Text.slice, hdrop, show start - pos = start - (pos + 1) + 1 by omega]
        rfl
      exact congrArg (· ++ _) hslice

/-- A sequence is left out. -/
theorem outside_sequence {s : Text} (hread : t.drop pos = s ++ rest) (hs : IsSequence s)
    (hpos : pos ≤ t.length) (fuel : Nat) : pattern.program.outside t (fuel + 1) pos =
      pattern.program.outside t fuel (pos + s.length) := by
  obtain ⟨st, hsearch, hstop⟩ := search_pattern_sequence hread hs hpos
  rw [Regex.Program.outside, hsearch]
  simp [hstop]

/-- **Searching for sequences keeps the text without them.** -/
theorem outside_pattern {u : Text} (hu : t.drop pos = u) (hpos : pos ≤ t.length) {fuel : Nat}
    (hfuel : u.length ≤ fuel) : pattern.program.outside t fuel pos = strip u := by
  induction u using lexeme_induction generalizing pos fuel with
  | nil =>
    have hnone : pattern.program.search t.toArray pos = none := by
      have hend : t.length + 1 - pos = 1 := by
        have := List.drop_eq_nil_iff.mp hu
        omega
      have hstop := map_pos_matchAt? t pos
      rw [hu] at hstop
      rw [search_pattern hpos, hend, List.range'_one, List.findSome?_singleton,
        Option.map_eq_none_iff.mp hstop]
      rfl
    cases fuel with
    | zero => exact hu
    | succ fuel =>
      rw [Regex.Program.outside, hnone]
      exact hu
  | sequence s rest hs ih =>
    have hpositive := hs.length_pos
    rw [List.length_append] at hfuel
    obtain ⟨fuel, rfl⟩ : ∃ n, fuel = n + 1 := ⟨fuel - 1, by omega⟩
    rw [outside_sequence hu hs hpos, hs.strip_append,
      ih (drop_add_length hu) (add_length_le hu hpos) (by omega)]
  | plain c rest hc ih =>
    have hread : t.drop pos = [c] ++ rest := hu
    have hrest : t.drop (pos + 1) = rest := drop_add_length hread
    rw [List.length_cons] at hfuel
    rw [outside_plain hu hc hpos, strip_cons hc, ih hrest (add_length_le hread hpos) (by omega)]

end Searching

/-! ## What segments keep -/

/-- The plain segments of runs have the characters of the runs that are not in sequences. -/
theorem flatMap_plain_segmentsFrom (active : Text) (rs : List Run) :
    ((segmentsFrom active rs).filter fun s => !s.escape).flatMap Segment.text =
      (rs.flatMap Run.lexemes).filterMap Lexeme.visible? := by
  induction rs generalizing active with
  | nil => rfl
  | cons r rs ih =>
    rw [List.flatMap_cons, List.filterMap_append]
    cases r with
    | plain t =>
      rw [segmentsFrom, List.filter_cons_of_pos rfl, List.flatMap_cons, ih, Run.lexemes,
        List.filterMap_map]
      exact congrArg (· ++ _) List.filterMap_some.symm
    | escapes ss =>
      have hnone : (Run.escapes ss).lexemes.filterMap Lexeme.visible? = [] := by
        rw [Run.lexemes, List.filterMap_map]
        exact List.filterMap_eq_nil_iff.mpr fun _ _ => rfl
      rw [segmentsFrom, List.filter_cons_of_neg (by simp), ih, hnone]
      rfl

/-- **What is visible of a text is the text of its plain segments.** It is what is left when the
expression of control sequences is searched for and its matches are left out, and it is what the
pass over the text puts into plain segments. So its length is that of the plain segments together,
and that of the text less the escape segments. -/
theorem strip_eq_plain (text base : Text) :
    pattern.program.outside text text.length 0 = strip text ∧
      Splitting.ofText text base = .ok (Segments.split text base) ∧
      strip text = (Segments.split text base).plain.flatMap Segment.text ∧
      visibleLength text = ((Segments.split text base).plain.map (·.text.length)).sum ∧
      (visibleLength text : Int) =
        text.length - (((Segments.split text base).escapes.map (·.text.length)).sum : Nat) := by
  have hplain : strip text = (Segments.split text base).plain.flatMap Segment.text := by
    rw [strip_eq_filterMap, ← flatMap_runs (lexemes text)]
    exact (flatMap_plain_segmentsFrom base _).symm
  have hvisible : visibleLength text =
      ((Segments.split text base).plain.map (·.text.length)).sum := by
    rw [visibleLength, hplain, List.length_flatMap]
  refine ⟨outside_pattern rfl (Nat.zero_le _) (Nat.le_refl _), Splitting.ofText_eq text base,
    hplain, hvisible, ?_⟩
  have hlength := (Segments.split text base).length_text
  rw [Segments.text_split, ← hvisible] at hlength
  omega

/-- What breaks off is visible, and what follows another sequence at once is not. -/
example : strip "a\x1b[1m\x1b[Kb\x1b[3".toList = "ab\x1b[3".toList ∧
    (Segments.split "a\x1b[1m\x1b[Kb\x1b[3".toList []).plain.map Segment.text =
      ["a".toList, "b\x1b[3".toList] := by
  decide

end Ansi

end Highlighting
