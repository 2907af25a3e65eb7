import Highlighting.Proofs.Ansi.Lexemes
import Highlighting.Proofs.Pattern.Matches
import Highlighting.Proofs.Regex.Taking

/-!
# Sequences as matches of a pattern

The pattern of control sequences has one repetition for each of two classes of characters. As the
classes have no character in common, neither gives anything back, so what the pattern matches at a
position is the control sequence there. Its matches are therefore the sequences among the lexemes
of a text.

## Main definitions

* `Ansi.pattern` -- the pattern of control sequences.
* `Ansi.matchesFrom` -- the sequences of a row of lexemes, as matches.
-/
namespace Highlighting.Ansi

/-- Control sequences, as a regular expression. -/
def source : Text := "\\x1B\\[[0-?]*[ -/]*[@-~]".toList

/-- A class of the characters from one code point to another. -/
def between (first last : Nat) : CharTest :=
  .set .exact false false [.span first last]

/-- The pattern of control sequences. -/
def pattern : Pattern where
  source := source
  flags := ""
  program :=
    { regex :=
        .seq (.char (.literal .exact false 27)) <| .seq (.char (.literal .exact false 91)) <|
          .seq (.loop .greedy 0 none (.char (between 48 63))) <|
            .seq (.loop .greedy 0 none (.char (between 32 47))) (.char (between 64 126))
      captures := 0
      names := []
      modes := ⟨false, false, false, false, false, false, false⟩
      least := 3 }

theorem compile_source : Pattern.compile source "" = .ok pattern := by
  decide +kernel

/-! ## One match -/

theorem holds_between {p : Bool} {first last : Nat} {c : Char}
    (hlast : last ≤ ClassItem.foldLimit) (hp : p = true ↔ first ≤ c.toNat ∧ c.toNat ≤ last) :
    (between first last).holds c = p := by
  rw [between, CharTest.holds_span hlast, Bool.eq_iff_iff, hp]
  simp

section Classes
variable (c : Char)

theorem holds_parameter : (between 48 63).holds c = isParameter c :=
  holds_between (by decide) isParameter_iff

theorem holds_intermediate : (between 32 47).holds c = isIntermediate c :=
  holds_between (by decide) isIntermediate_iff

theorem holds_final : (between 64 126).holds c = isFinal c :=
  holds_between (by decide) isFinal_iff

theorem holds_code (d : Char) : (CharTest.literal .exact false d.toNat).holds c = (c == d) := by
  rw [CharTest.holds_literal, Bool.eq_iff_iff, decide_eq_true_iff, beq_iff_eq, Char.toNat_inj]

end Classes

/-- How many characters behind the bracket of a sequence belong to it. -/
def bodyLength : Text → Option Nat :=
  (between 48 63).all ((between 32 47).all ((between 64 126).one fun _ => some 0))

theorem bodyLength_eq (u : Text) : bodyLength u = (body? u).map List.length := by
  simp only [bodyLength, CharTest.all, holds_parameter, holds_intermediate, body?]
  cases (u.dropWhile isParameter).dropWhile isIntermediate with
  | nil => rfl
  | cons c rest =>
    simp only [CharTest.one, holds_final]
    cases isFinal c with
    | true => simp
    | false => rfl

/-- How many characters of a text belong to the sequence that it starts with. -/
def sequenceLength : Text → Option Nat :=
  (CharTest.literal .exact false 27).one ((CharTest.literal .exact false 91).one bodyLength)

theorem sequenceLength_eq (u : Text) : sequenceLength u = (sequenceAt? u).map List.length := by
  have hesc (c : Char) : (CharTest.literal .exact false 27).holds c = (c == esc) := holds_code c esc
  have hbracket (c : Char) : (CharTest.literal .exact false 91).holds c = (c == '[') :=
    holds_code c '['
  match u with
  | [] => rfl
  | [c] => simp [sequenceLength, CharTest.one, sequenceAt?]
  | c :: d :: u =>
    simp only [sequenceLength, CharTest.one, hesc, hbracket, bodyLength_eq, beq_iff_eq]
    by_cases hd : d = '['
    · by_cases hc : c = esc
      · simp [sequenceAt?, hc, hd, Function.comp_def, Nat.add_comm 1]
      · simp [sequenceAt?, hc, hd]
    · simp [sequenceAt?, hd]

/-- A character of one class is none of another, so it is no use to give it back. -/
theorem holds_between_eq_false {m n first last : Nat} {c : Char} (hn : n ≤ ClassItem.foldLimit)
    (hlast : last ≤ ClassItem.foldLimit) (hc : (between m n).holds c = true)
    (hapart : n < first ∨ last < m) : (between first last).holds c = false := by
  rw [between, CharTest.holds_span hn, Bool.and_eq_true, decide_eq_true_iff,
    decide_eq_true_iff] at hc
  rw [between, CharTest.holds_span hlast, Bool.and_eq_false_iff, decide_eq_false_iff_not,
    decide_eq_false_iff_not]
  omega

/-- **What the pattern takes of a text is the sequence that it starts with.** -/
theorem takes_pattern (t : Text) :
    Regex.Takes t (pattern.program.regex.run t.toArray false none MatchState.complete)
      sequenceLength := by
  have hfinal := (Regex.takes_complete t).char false (between 64 126) none
  have hintermediate := hfinal.loop false (some (between 64 126)) rfl (between 32 47)
    fun c rest hc => by
      rw [CharTest.one, holds_between_eq_false (by decide) (by decide) hc (.inl (by decide))]
      rfl
  have hparameter := hintermediate.loop false none rfl (between 48 63)
    fun c rest hc => by
      rw [CharTest.all, List.dropWhile_cons,
        holds_between_eq_false (by decide) (by decide) hc (.inr (by decide)),
        if_neg Bool.false_ne_true, CharTest.one,
        holds_between_eq_false (by decide) (by decide) hc (.inl (by decide))]
      rfl
  exact (hparameter.char false (.literal .exact false 91) none).char false
    (.literal .exact false 27) none

/-- No match of the pattern is passed over. -/
theorem sound_pattern : pattern.program.Sound := by
  obtain ⟨modes, -, hprogram⟩ := Pattern.compile_eq_ok compile_source
  refine Regex.Program.sound_of_compile hprogram (by decide) ?_
  simp [pattern, between, Regex.InType, Regex.Meets, typed, CharTest.InType]

/-- A match at a position ends where the sequence there does. -/
theorem map_pos_matchAt? (t : Text) (pos : Nat) :
    (pattern.program.matchAt? t.toArray pos).map (·.pos) =
      (sequenceAt? (t.drop pos)).map (pos + ·.length) := by
  have hstate : pattern.program.matchAt? t.toArray pos =
      (pattern.program.regex.matchAt t.toArray pos).state? := by
    ext st
    rw [sound_pattern.matchAt?_eq_some_iff, Regex.state?_matchAt]
  rw [hstate, Regex.matchAt, takes_pattern t (.start pos), sequenceLength_eq, Option.map_map]
  rfl

/-- **The match at a position is the sequence there.** -/
theorem matchAt_pattern (t : Text) (pos : Nat) :
    pattern.matchAt t pos = (sequenceAt? (t.drop pos)).map fun s => ⟨s, pos, []⟩ := by
  have hslice {s : Text} (hs : sequenceAt? (t.drop pos) = some s) :
      t.slice pos (pos + s.length) = s := by
    rw [Text.slice, Nat.add_sub_cancel_left]
    exact (List.prefix_iff_eq_take.mp (isSequence_of_sequenceAt? hs).2).symm
  calc (pattern.program.matchAt? t.toArray pos).map (pattern.toMatch t pos)
    _ = ((pattern.program.matchAt? t.toArray pos).map (·.pos)).map
          fun stop => ⟨t.slice pos stop, pos, []⟩ := by rw [Option.map_map]; rfl
    _ = (sequenceAt? (t.drop pos)).map fun s => ⟨t.slice pos (pos + s.length), pos, []⟩ := by
      rw [map_pos_matchAt?, Option.map_map]; rfl
    _ = _ := Option.map_congr fun s hs => by rw [hslice hs]

/-! ## All matches -/

section Reading
variable {t u v : Text} {pos : Nat}

/-- Behind what is read at a position comes the rest of what is left there. -/
theorem drop_add_length (h : t.drop pos = u ++ v) : t.drop (pos + u.length) = v := by
  rw [← List.drop_drop, h, List.drop_left]

theorem add_length_le (h : t.drop pos = u ++ v) (hpos : pos ≤ t.length) :
    pos + u.length ≤ t.length := by
  have hlength := congrArg List.length h
  rw [List.length_drop, List.length_append] at hlength
  omega

end Reading

/-- The sequences of a row of lexemes that stands at a position of a text, as matches. -/
def matchesFrom : (pos : Nat) → List Lexeme → List Match
  | _, [] => []
  | pos, .plain _ :: ls => matchesFrom (pos + 1) ls
  | pos, .sequence s :: ls => ⟨s, pos, []⟩ :: matchesFrom (pos + s.length) ls

/-- **The matches from a position on are the sequences among the lexemes there.** -/
theorem eq_matchesFrom {t u : Text} {pos : Nat} {ms : List Match} (hu : t.drop pos = u)
    (hpos : pos ≤ t.length) (h : Enumerated t (pattern.matchAt t) pos ms) :
    ms = matchesFrom pos (lexemes u) := by
  induction u using lexeme_induction generalizing pos ms with
  | nil =>
    cases h with
    | nil => rfl
    | @cons _ start _ _ _ hle _ _ hm _ _ _ _ =>
      have hend : t.drop start = [] :=
        List.drop_eq_nil_of_le (Nat.le_trans (List.drop_eq_nil_iff.mp hu) hle)
      rw [matchAt_pattern, hend] at hm
      cases hm
  | sequence s rest hs ih =>
    have hm : pattern.matchAt t pos = some ⟨s, pos, []⟩ := by
      rw [matchAt_pattern, hu, hs.sequenceAt?_append, Option.map_some]
    have hpositive := hs.length_pos
    have hstop : (⟨s, pos, []⟩ : Match).stop = (pos + s.length : Nat) := rfl
    obtain ⟨ms, rfl, hle, hrest⟩ := h.first hpos hm rfl hstop (by omega)
    rw [hs.lexemes_append, matchesFrom, ih (drop_add_length hu) hle hrest]
  | plain c rest hc ih =>
    have hnone : pattern.matchAt t pos = none := by
      rw [matchAt_pattern, hu, hc, Option.map_none]
    have hread : t.drop pos = [c] ++ rest := hu
    have hdrop : t.drop (pos + 1) = rest := drop_add_length hread
    rw [lexemes_cons hc, matchesFrom, ← ih hdrop (add_length_le hread hpos) (h.succ hnone)]

/-- **The matches of a text are the sequences among its lexemes**, and no search for them fails. -/
theorem allMatches_pattern (t : Text) :
    pattern.allMatches t = .ok (matchesFrom 0 (lexemes t)) := by
  by_cases ht : t = []
  · rw [ht]
    rfl
  · have hleftmost := Pattern.leftmost_of_proper sound_pattern.toProper ht
    obtain ⟨ms, hyields, henum⟩ := hleftmost.yields _ (Pattern.index_on_start t) (Nat.le_refl _)
    have hcount := henum.length_le (Nat.zero_le _)
    rw [Pattern.allMatches, Pattern.scan, hyields.scanFrom_eq (by omega),
      eq_matchesFrom rfl (Nat.zero_le _) henum]
    rfl

end Highlighting.Ansi
