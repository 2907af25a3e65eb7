import Highlighting.Proofs.Ansi.Partition

/-!
# What is left of a text without its sequences

Sequences are removed from a text in one pass. Where one is removed, what stood before and behind
it comes together, and that may be a sequence again, which stays. So the text that is left holds a
sequence exactly if one lies across such a place. It cannot if every escape character of the text
begins a sequence, for then none is left.

Every pass over a text that holds a sequence makes it shorter, so in the end none is left.

## Main definitions

* `Ansi.Joins` -- a sequence is put together by the removal of another one.
* `Ansi.Unbroken` -- every escape character begins a sequence.
-/
namespace Highlighting.Ansi

/-! ## Texts without sequences -/

/-- What is visible of a text is visible before a sequence, and behind it. -/
theorem IsSequence.strip_insert {s : Text} (h : IsSequence s) (u v : Text) :
    strip (u ++ (s ++ v)) = strip u ++ strip v := by
  simp only [strip_eq_filterMap, h.lexemes_insert, List.filterMap_append, List.filterMap_cons,
    Lexeme.visible?]

/-- A text holds no sequence, or there is a first one. -/
theorem free_or_exists_first (t : Text) :
    Free t ∨ ∃ w s v, t = w ++ (s ++ v) ∧ IsSequence s ∧ Free w := by
  have hplain {c : Char} {w : Text} (hc : sequenceAt? (c :: w) = none) (hw : Free w) :
      Free (c :: w) := by
    refine free_of_lexemes fun s hs => ?_
    rw [lexemes_cons hc, hw.lexemes_eq] at hs
    simp at hs
  induction t using lexeme_induction with
  | nil => exact .inl (free_of_notMem List.not_mem_nil)
  | sequence s rest hs ih => exact .inr ⟨[], s, rest, rfl, hs, free_of_notMem List.not_mem_nil⟩
  | plain c rest hc ih =>
    rcases ih with hfree | ⟨w, s, v, rfl, hs, hw⟩
    · exact .inl (hplain hc hfree)
    · obtain ⟨tail, htail, -, -⟩ := hs.eq_cons
      refine .inr ⟨c :: w, s, v, rfl, hs, hplain ?_ hw⟩
      rw [htail, List.cons_append, ← List.cons_append,
        sequenceAt?_append_esc (List.cons_ne_nil c w)] at hc
      exact hc

theorem length_strip_le (t : Text) : (strip t).length ≤ t.length := by
  induction t using lexeme_induction with
  | nil => exact Nat.le_refl _
  | sequence s rest hs ih =>
    rw [hs.strip_append, List.length_append]
    omega
  | plain c rest hc ih =>
    rw [strip_cons hc]
    exact Nat.succ_le_succ ih

/-- Every sequence in a text makes it shorter to remove them. -/
theorem length_strip_lt {t : Text} (h : ¬ Free t) : (strip t).length < t.length := by
  obtain ⟨w, s, v, rfl, hs, hw⟩ := (free_or_exists_first t).resolve_left h
  have hpositive := hs.length_pos
  have hle := length_strip_le v
  rw [hs.strip_insert, hw.strip_eq]
  simp only [List.length_append]
  omega

/-- There is nothing to remove exactly from a text that holds no sequence. -/
theorem strip_eq_self_iff {t : Text} : strip t = t ↔ Free t := by
  refine ⟨fun h => ?_, Free.strip_eq⟩
  by_contra hfree
  have := length_strip_lt hfree
  rw [h] at this
  exact Nat.lt_irrefl _ this

/-- All runs of a text are plain exactly if it holds no sequence. -/
theorem forall_isPlain_iff {t : Text} :
    (∀ r ∈ runs (lexemes t), r.isPlain = true) ↔ Free t := by
  constructor
  · refine fun h => free_of_lexemes fun s hs => ?_
    rw [← flatMap_runs (lexemes t)] at hs
    obtain ⟨r, hr, hs⟩ := List.mem_flatMap.mp hs
    cases r with
    | plain u => simp [Run.lexemes] at hs
    | escapes ss => exact absurd (h _ hr) Bool.false_ne_true
  · intro h r hr
    cases r with
    | plain u => rfl
    | escapes ss =>
      have hne := (maximal_runs _).lexemes_ne_nil _ hr
      obtain ⟨l, hl⟩ := List.exists_mem_of_ne_nil _ hne
      have hmem : l ∈ lexemes t := by
        rw [← flatMap_runs (lexemes t)]
        exact List.mem_flatMap.mpr ⟨_, hr, hl⟩
      obtain ⟨s, -, rfl⟩ := List.mem_map.mp hl
      rw [h.lexemes_eq] at hmem
      simp at hmem

/-- No segment is made of sequences exactly if the text holds none. -/
theorem forall_plain_split_iff {t : Text} (base : Text) :
    (∀ s ∈ (Segments.split t base).segments, s.escape = false) ↔ Free t := by
  have hparts := map_part_segmentsFrom base (runs (lexemes t))
  have hplain : (∀ s ∈ (Segments.split t base).segments, s.escape = false) ↔
      ∀ p ∈ (segmentsFrom base (runs (lexemes t))).map Segment.part, p.escape = false := by
    rw [List.forall_mem_map]
    rfl
  rw [hplain, hparts, List.forall_mem_map, ← forall_isPlain_iff]
  simp [Run.part]

/-! ## Joined sequences -/

/-- Where a sequence is removed, what is left before it and behind it is a sequence across. -/
def Joins (t : Text) : Prop :=
  ∃ u s v, t = u ++ (s ++ v) ∧ IsSequence s ∧ Straddles (strip u) (strip v)

/-- Every escape character of the text begins a sequence. -/
def Unbroken (t : Text) : Prop :=
  ∀ i < t.length, (t.drop i).head? = some esc → (sequenceAt? (t.drop i)).isSome = true

instance (t : Text) : Decidable (Unbroken t) := by
  unfold Unbroken
  infer_instance

theorem Straddles.not_free {u v : Text} (h : Straddles u v) : ¬ Free (u ++ v) := by
  obtain ⟨p, s₁, s₂, q, rfl, rfl, -, -, hs⟩ := h
  exact fun hfree => hfree p (s₁ ++ s₂) q (by simp) hs

/-- A sequence behind another one may be put together in a larger text. -/
theorem Joins.insert {v : Text} (h : Joins v) {s : Text} (hs : IsSequence s) (w : Text) :
    Joins (w ++ (s ++ v)) := by
  obtain ⟨u', s', v', rfl, hs', hstraddles⟩ := h
  refine ⟨w ++ (s ++ u'), s', v', by simp, hs', ?_⟩
  rw [hs.strip_insert]
  simpa using hstraddles.extend (strip w) []

/-- **No sequence is left of a text if none is put together.** -/
theorem free_strip_of_not_joins (t : Text) (h : ¬ Joins t) : Free (strip t) := by
  rcases free_or_exists_first t with hfree | ⟨w, s, v, ht, hs, hw⟩
  · rwa [hfree.strip_eq]
  · -- Behind the first sequence the text is shorter. Before it nothing is removed, so a sequence that
    -- is left lies across the place where it stood.
    have hlt : v.length < t.length := by
      have hpositive := hs.length_pos
      rw [ht, List.length_append, List.length_append]
      omega
    have hv := free_strip_of_not_joins v fun hv => h (ht ▸ hv.insert hs w)
    have hborder : ¬ Straddles w (strip v) := fun hstraddles =>
      h ⟨w, s, v, ht, hs, hw.strip_eq.symm ▸ hstraddles⟩
    rw [ht, hs.strip_insert, hw.strip_eq]
    refine free_of_lexemes fun s' hs' => ?_
    rw [lexemes_append_of_not_straddles hborder, hw.lexemes_eq, hv.lexemes_eq] at hs'
    simp at hs'
termination_by t.length

theorem free_strip_iff_not_joins {t : Text} : Free (strip t) ↔ ¬ Joins t := by
  refine ⟨?_, free_strip_of_not_joins t⟩
  rintro hfree ⟨u, s, v, rfl, hs, hstraddles⟩
  rw [hs.strip_insert] at hfree
  exact hstraddles.not_free hfree

theorem Unbroken.right {t u : Text} (h : Unbroken (t ++ u)) : Unbroken u := by
  intro i hi hesc
  have := h (t.length + i) (by rw [List.length_append]; omega)
  rw [← List.drop_drop, List.drop_left] at this
  exact this hesc

/-- If every escape character begins a sequence, none is left. -/
theorem Unbroken.notMem_strip {t : Text} (h : Unbroken t) : esc ∉ strip t := by
  induction t using lexeme_induction with
  | nil => exact List.not_mem_nil
  | sequence s rest hs ih =>
    rw [hs.strip_append]
    exact ih h.right
  | plain c rest hc ih =>
    have hne : esc ≠ c := by
      rintro rfl
      have := h 0 (Nat.succ_pos _) rfl
      rw [List.drop_zero, hc] at this
      cases this
    rw [strip_cons hc, List.mem_cons, not_or]
    exact ⟨hne, ih (Unbroken.right (t := [c]) h)⟩

/-- In the end no sequence is left. -/
theorem exists_free_iterate (t : Text) : ∃ n ≤ t.length, Free (strip^[n] t) := by
  by_cases h : Free t
  · exact ⟨0, Nat.zero_le _, h⟩
  · have hlt := length_strip_lt h
    obtain ⟨n, hn, hfree⟩ := exists_free_iterate (strip t)
    exact ⟨n + 1, by omega, hfree⟩
termination_by t.length

/-- **A text without its sequences holds no sequence, exactly if the removal puts none together.**
Just then another pass leaves it alone, and none of its segments is an escape segment. No sequence
is put together if every escape character of the text begins one; then no escape character is left.
After as many passes as the text has characters, if not before, no sequence is left of any text. -/
theorem free_strip_iff (t : Text) :
    (Free (strip t) ↔ ¬ Joins t) ∧ (strip (strip t) = strip t ↔ ¬ Joins t) ∧
      (∀ base, (∀ s ∈ (Segments.split (strip t) base).segments, s.escape = false) ↔ ¬ Joins t) ∧
      (Unbroken t → ¬ Joins t ∧ esc ∉ strip t) ∧ ∃ n ≤ t.length, Free (strip^[n] t) := by
  refine ⟨free_strip_iff_not_joins, ?_, fun base => ?_, fun h => ?_, exists_free_iterate t⟩
  · rw [strip_eq_self_iff, free_strip_iff_not_joins]
  · rw [forall_plain_split_iff, free_strip_iff_not_joins]
  · exact ⟨free_strip_iff_not_joins.mp (free_of_notMem h.notMem_strip), h.notMem_strip⟩

/-- A text with a sequence that breaks off nowhere, for one, has no escape character left. -/
theorem free_strip_iff_unbroken : Unbroken "a\x1b[1mb\x1b[2Kc".toList ∧
    ¬ Joins "a\x1b[1mb\x1b[2Kc".toList ∧ Free (strip "a\x1b[1mb\x1b[2Kc".toList) ∧
    strip "a\x1b[1mb\x1b[2Kc".toList = "abc".toList := by
  have hunbroken : Unbroken "a\x1b[1mb\x1b[2Kc".toList := by decide
  obtain ⟨hfree, -, -, hjoins, -⟩ := free_strip_iff "a\x1b[1mb\x1b[2Kc".toList
  have hnot := (hjoins hunbroken).1
  exact ⟨hunbroken, hnot, hfree.mpr hnot, by decide⟩

/-- An escape character and the rest of a sequence, which another one keeps apart, come together. -/
theorem not_free_strip : strip "\x1b\x1b[m[m".toList = "\x1b[m".toList ∧
    ¬ Free (strip "\x1b\x1b[m[m".toList) ∧
    strip (strip "\x1b\x1b[m[m".toList) ≠ strip "\x1b\x1b[m[m".toList ∧
    ∃ s ∈ (Segments.split (strip "\x1b\x1b[m[m".toList) []).segments, s.escape = true := by
  have hstrip : strip "\x1b\x1b[m[m".toList = "\x1b[m".toList := by decide
  rw [hstrip]
  refine ⟨rfl, fun hfree => ?_, by decide, by decide⟩
  exact hfree [] "\x1b[m".toList [] rfl (by decide)

end Highlighting.Ansi
