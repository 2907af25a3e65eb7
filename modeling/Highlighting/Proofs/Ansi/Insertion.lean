import Highlighting.Proofs.Ansi.Lexemes

/-!
# Sequences put anywhere into a text

Whole sequences may be put into a text with no regard to its lexemes. One that is put into a
sequence of the text breaks it: what comes before and behind becomes visible, since neither part
is a sequence, nor goes on as one. One that is put between lexemes leaves them alone. So the
visible part of a text grows or stays, and it stays exactly if no sequence is ever broken.

## Main definitions

* `Ansi.Free` -- a text that holds no sequence.
* `Ansi.Inserted` -- lexemes with sequences put between them.
* `Ansi.Straddles` -- a sequence lies across the border of two texts.
* `Ansi.Grows` -- a text with whole sequences put into it, one after the other.
-/
namespace Highlighting.Ansi

/-! ## Texts without sequences -/

/-- The text holds no control sequence. -/
def Free (t : Text) : Prop := ∀ u s v, t = u ++ (s ++ v) → ¬ IsSequence s

theorem Free.left {t u : Text} (h : Free (t ++ u)) : Free t := by
  rintro p s q rfl hs
  exact h p s (q ++ u) (by simp) hs

theorem Free.right {t u : Text} (h : Free (t ++ u)) : Free u := by
  rintro p s q rfl hs
  exact h (t ++ p) s q (by simp) hs

/-- A text without the character that starts sequences holds none. -/
theorem free_of_notMem {t : Text} (h : esc ∉ t) : Free t := by
  rintro u s v rfl hs
  obtain ⟨rest, rfl, -⟩ := hs.eq_cons
  simp at h

/-- All its lexemes are characters. -/
theorem Free.lexemes_eq {t : Text} (h : Free t) : lexemes t = t.map .plain := by
  induction t using lexeme_induction with
  | nil => rfl
  | sequence s rest hs _ => exact absurd hs (h [] s rest rfl)
  | plain c rest hc ih =>
    rw [lexemes_cons hc, ih (Free.right (t := [c]) h)]
    rfl

theorem Free.strip_eq {t : Text} (h : Free t) : strip t = t := by
  rw [strip_eq_filterMap, h.lexemes_eq, List.filterMap_map]
  exact List.filterMap_some

/-! ## Sequences between lexemes -/

/-- Lexemes with sequences put between them. -/
inductive Inserted : List Lexeme → List Lexeme → Prop where
  | nil : Inserted [] []
  | keep (l : Lexeme) {ls ls' : List Lexeme} (h : Inserted ls ls') : Inserted (l :: ls) (l :: ls')
  | insert (s : Text) {ls ls' : List Lexeme} (h : Inserted ls ls') :
      Inserted ls (.sequence s :: ls')

namespace Inserted
variable {ls ls' : List Lexeme}

theorem refl (ls : List Lexeme) : Inserted ls ls := by
  induction ls with
  | nil => exact .nil
  | cons l ls ih => exact .keep l ih

theorem trans {ls'' : List Lexeme} (h : Inserted ls ls') (h' : Inserted ls' ls'') :
    Inserted ls ls'' := by
  induction h' generalizing ls with
  | nil => exact h
  | keep l _ ih =>
    cases h with
    | keep _ h => exact .keep l (ih h)
    | insert s h => exact .insert s (ih h)
  | insert s _ ih => exact .insert s (ih h)

/-- Sequences in a row are put before lexemes. -/
theorem sequences (ss : List Text) (h : Inserted ls ls') :
    Inserted ls (ss.map .sequence ++ ls') := by
  induction ss with
  | nil => exact h
  | cons s ss ih => exact .insert s ih

theorem append {ms ms' : List Lexeme} (h : Inserted ls ls') (h' : Inserted ms ms') :
    Inserted (ls ++ ms) (ls' ++ ms') := by
  induction h with
  | nil => exact h'
  | keep l _ ih => exact .keep l ih
  | insert s _ ih => exact .insert s ih

end Inserted

/-- The lexemes of sequences in a row. -/
theorem Whole.exists_lexemes {t : Text} (h : Whole t) :
    ∃ ss : List Text, lexemes t = ss.map .sequence := by
  obtain ⟨ss, hss, rfl⟩ := h
  have := lexemes_flatten_append hss []
  rw [List.append_nil, lexemes_nil, List.append_nil] at this
  exact ⟨ss, this⟩

/-- **Whole sequences are put between the lexemes of a text if, and only if, its lexemes become
those of the result by putting sequences between them.** -/
theorem patched_whole_iff {t out : Text} :
    Patched Whole t out ↔ Inserted (lexemes t) (lexemes out) := by
  constructor
  · rintro ⟨ps, rfl, horiginal, hput⟩
    rw [Patch.lexemes_joined horiginal hput, ← horiginal]
    clear horiginal
    induction ps with
    | nil => exact .nil
    | cons p ps ih =>
      have ih := ih fun s hs => hput s (List.mem_cons_of_mem _ hs)
      cases p with
      | kept l => exact .keep l ih
      | put s =>
        obtain ⟨ss, hss⟩ := (hput s List.mem_cons_self).exists_lexemes
        rw [List.flatMap_cons, Patch.lexemes, hss]
        exact ih.sequences ss
  · intro h
    have hpatches : ∃ ps : List Patch, Patch.joined ps = (lexemes out).flatMap Lexeme.text ∧
        Patch.original ps = lexemes t ∧ ∀ s, .put s ∈ ps → .sequence s ∈ lexemes out := by
      generalize lexemes t = ls at h ⊢
      generalize lexemes out = ls' at h ⊢
      induction h with
      | nil => exact ⟨[], rfl, rfl, fun s hs => absurd hs List.not_mem_nil⟩
      | keep l _ ih =>
        obtain ⟨ps, hjoined, horiginal, hput⟩ := ih
        refine ⟨.kept l :: ps, congrArg (l.text ++ ·) hjoined, congrArg (l :: ·) horiginal,
          fun s hs => ?_⟩
        rcases List.mem_cons.mp hs with hs | hs
        · cases hs
        · exact List.mem_cons_of_mem _ (hput s hs)
      | insert s _ ih =>
        obtain ⟨ps, hjoined, horiginal, hput⟩ := ih
        refine ⟨.put s :: ps, congrArg (s ++ ·) hjoined, horiginal, fun s' hs => ?_⟩
        rcases List.mem_cons.mp hs with hs | hs
        · cases hs
          exact List.mem_cons_self
        · exact List.mem_cons_of_mem _ (hput s' hs)
    obtain ⟨ps, hjoined, horiginal, hput⟩ := hpatches
    refine ⟨ps, hjoined.trans (flatMap_lexemes out), horiginal, fun s hs => ?_⟩
    exact ⟨[s], by simpa using isSequence_of_mem (hput s hs), by simp⟩

namespace Patched
variable {t out : Text}

theorem refl (t : Text) : Patched Whole t t :=
  patched_whole_iff.mpr (.refl _)

theorem trans {out' : Text} (h : Patched Whole t out) (h' : Patched Whole out out') :
    Patched Whole t out' :=
  patched_whole_iff.mpr ((patched_whole_iff.mp h).trans (patched_whole_iff.mp h'))

/-- Where there are no sequences, texts may be patched part by part. -/
theorem append {allowed : Text → Prop} {u out' : Text} (hfree : Free (t ++ u))
    (h : Patched allowed t out) (h' : Patched allowed u out') :
    Patched allowed (t ++ u) (out ++ out') := by
  obtain ⟨ps, rfl, horiginal, hput⟩ := h
  obtain ⟨ps', rfl, horiginal', hput'⟩ := h'
  refine ⟨ps ++ ps', Patch.joined_append ps ps', ?_, fun s hs => ?_⟩
  · rw [Patch.original_append, horiginal, horiginal', hfree.left.lexemes_eq, hfree.right.lexemes_eq,
      hfree.lexemes_eq, List.map_append]
  · exact (List.mem_append.mp hs).elim (hput s) (hput' s)

/-- Texts may be put around another. -/
theorem wrap {allowed : Text → Prop} {style escape : Text} (h : Patched allowed t out)
    (hstyle : allowed style) (hescape : allowed escape) :
    Patched allowed t (style ++ out ++ escape) := by
  obtain ⟨ps, rfl, horiginal, hput⟩ := h
  refine ⟨.put style :: (ps ++ [.put escape]), ?_, ?_, fun s hs => ?_⟩
  · simp [Patch.joined, Patch.text]
  · change Patch.original (ps ++ [.put escape]) = _
    rw [Patch.original_append, horiginal]
    exact List.append_nil _
  · simp only [List.mem_cons, List.mem_append, Patch.put.injEq, List.not_mem_nil, or_false] at hs
    rcases hs with rfl | hs | rfl
    · exact hstyle
    · exact hput s hs
    · exact hescape

end Patched

/-! ## Sequences across a border -/

/-- A sequence lies across the border of two texts. -/
def Straddles (u v : Text) : Prop :=
  ∃ p s₁ s₂ q, u = p ++ s₁ ∧ v = s₂ ++ q ∧ s₁ ≠ [] ∧ s₂ ≠ [] ∧ IsSequence (s₁ ++ s₂)

theorem Straddles.extend {u v : Text} (h : Straddles u v) (p q : Text) :
    Straddles (p ++ u) (v ++ q) := by
  obtain ⟨p', s₁, s₂, q', rfl, rfl, h⟩ := h
  exact ⟨p ++ p', s₁, s₂, q' ++ q, by simp, by simp, h⟩

/-- Where no sequence lies across their border, two texts have their lexemes one behind the
other. -/
theorem lexemes_append_of_not_straddles {u v : Text} (h : ¬ Straddles u v) :
    lexemes (u ++ v) = lexemes u ++ lexemes v := by
  induction u using lexeme_induction with
  | nil => rfl
  | sequence s rest hs ih =>
    rw [List.append_assoc, hs.lexemes_append, hs.lexemes_append,
      ih fun hrest => h (by simpa using hrest.extend s []), List.cons_append]
  | plain c rest hc ih =>
    have hc' : sequenceAt? (c :: rest ++ v) = none := by
      by_contra hsome
      obtain ⟨s, hs⟩ := Option.ne_none_iff_exists'.mp hsome
      obtain ⟨hseq, more, hmore⟩ := isSequence_of_sequenceAt? hs
      rcases List.append_eq_append_iff.mp hmore with ⟨s₂, hrest, -⟩ | ⟨s₂, hsplit, hv⟩
      · rw [hrest, hseq.sequenceAt?_append] at hc
        cases hc
      · by_cases hnil : s₂ = []
        · rw [hnil, List.append_nil] at hsplit
          rw [← hsplit, hseq] at hc
          cases hc
        · exact h ⟨[], c :: rest, s₂, more, rfl, hv, List.cons_ne_nil _ _, hnil, hsplit ▸ hseq⟩
    rw [List.cons_append] at hc' ⊢
    rw [lexemes_cons hc', lexemes_cons hc,
      ih fun hrest => h (by simpa using hrest.extend [c] []), List.cons_append]

/-! ## What a broken sequence shows -/

/-- Without an escape character, all characters before a text are visible. -/
theorem strip_append_of_not_mem {u : Text} (h : esc ∉ u) (v : Text) :
    strip (u ++ v) = u ++ strip v := by
  induction u with
  | nil => rfl
  | cons c u ih =>
    have hc : sequenceAt? (c :: (u ++ v)) = none := by
      by_contra hsome
      obtain ⟨s, hs⟩ := Option.ne_none_iff_exists'.mp hsome
      obtain ⟨hseq, more, hmore⟩ := isSequence_of_sequenceAt? hs
      obtain ⟨tail, rfl, -, -⟩ := hseq.eq_cons
      rw [List.cons_append] at hmore
      exact h (by rw [← (List.cons.inj hmore).1]; exact List.mem_cons_self)
    rw [List.cons_append, strip_cons hc, ih fun hmem => h (List.mem_cons_of_mem _ hmem),
      List.cons_append]

theorem visibleLength_append_esc (u v : Text) :
    visibleLength (u ++ esc :: v) = visibleLength u + visibleLength (esc :: v) := by
  rw [visibleLength, strip_eq_filterMap, lexemes_append_esc, List.filterMap_append,
    List.length_append, ← strip_eq_filterMap, ← strip_eq_filterMap]
  rfl

/-- The front of a sequence is visible if the rest of it is missing. -/
theorem strip_of_isSequence_append {s₁ s₂ : Text} (h : IsSequence (s₁ ++ s₂)) (hs₂ : s₂ ≠ []) :
    strip s₁ = s₁ := by
  cases s₁ with
  | nil => rfl
  | cons c tail =>
    obtain ⟨tail', hcons, hmem, -⟩ := h.eq_cons
    obtain ⟨rfl, rfl⟩ := List.cons.inj hcons
    have hc : sequenceAt? (esc :: tail) = none := by
      by_contra hsome
      obtain ⟨s, hs⟩ := Option.ne_none_iff_exists'.mp hsome
      obtain ⟨hseq, more, hmore⟩ := isSequence_of_sequenceAt? hs
      have hwhole := hseq.sequenceAt?_append (more ++ s₂)
      rw [← List.append_assoc, hmore, h] at hwhole
      have hlength := congrArg List.length (Option.some.inj hwhole)
      rw [List.length_append, ← hmore, List.length_append] at hlength
      have := List.length_pos_iff.mpr hs₂
      omega
    have := strip_append_of_not_mem (u := tail) (fun htail => hmem (List.mem_append_left _ htail)) []
    rw [List.append_nil, strip_nil, List.append_nil] at this
    rw [strip_cons hc, this]

/-- **A broken sequence becomes visible.** -/
theorem Straddles.visibleLength_lt {u v : Text} (h : Straddles u v) :
    visibleLength (u ++ v) < visibleLength u + visibleLength v := by
  obtain ⟨p, s₁, s₂, q, rfl, rfl, hs₁, hs₂, hs⟩ := h
  have hstrip := strip_of_isSequence_append hs hs₂
  obtain ⟨c, front, rfl⟩ := List.exists_cons_of_ne_nil hs₁
  obtain ⟨tail, hcons, hmem, -⟩ := hs.eq_cons
  obtain ⟨rfl, rfl⟩ := List.cons.inj hcons
  have hrest : visibleLength (s₂ ++ q) = s₂.length + visibleLength q := by
    rw [visibleLength, strip_append_of_not_mem fun h => hmem (List.mem_append_right _ h),
      List.length_append]
    rfl
  have hfront : visibleLength (p ++ esc :: front) = visibleLength p + (front.length + 1) := by
    rw [visibleLength_append_esc]
    exact congrArg (_ + ·) (congrArg List.length hstrip)
  have hall : visibleLength (p ++ esc :: front ++ (s₂ ++ q)) =
    visibleLength p + visibleLength q := by
    rw [List.append_assoc, List.cons_append, visibleLength_append_esc]
    refine congrArg (_ + ·) (congrArg List.length ?_)
    rw [← List.cons_append, ← List.append_assoc, hs.strip_append]
  have := List.length_pos_iff.mpr hs₂
  omega

/-! ## Growing texts -/

/-- Whole sequences are put into a text, one after the other, anywhere. -/
inductive Grows : Text → Text → Prop where
  | refl (t : Text) : Grows t t
  | insert {t u v w : Text} (h : Grows t (u ++ v)) (hw : Whole w) : Grows t (u ++ (w ++ v))

namespace Grows
variable {t out : Text}

theorem trans {out' : Text} (h : Grows t out) (h' : Grows out out') : Grows t out' := by
  induction h' with
  | refl => exact h
  | insert _ hw ih => exact .insert ih hw

/-- It may be a part of a larger text that grows. -/
theorem extend (h : Grows t out) (p q : Text) : Grows (p ++ (t ++ q)) (p ++ (out ++ q)) := by
  induction h with
  | refl => exact .refl _
  | @insert u v w _ hw ih =>
    have := Grows.insert (u := p ++ u) (v := v ++ q) (by simpa using ih) hw
    simpa using this

theorem append {u out' : Text} (h : Grows t out) (h' : Grows u out') :
    Grows (t ++ u) (out ++ out') := by
  have h₁ := h.extend [] u
  have h₂ := h'.extend out []
  rw [List.append_nil, List.append_nil] at h₂
  exact h₁.trans h₂

/-- Whole sequences may be put around it. -/
theorem wrap {style escape : Text} (h : Grows t out) (hstyle : Whole style)
    (hescape : Whole escape) : Grows t (style ++ out ++ escape) := by
  have h₁ : Grows t ([] ++ (style ++ out)) := .insert (u := []) h hstyle
  have h₂ : Grows t (style ++ out ++ (escape ++ [])) :=
    .insert (v := []) (by simpa using h₁) hescape
  simpa using h₂

end Grows

/-- An insertion, step by step: where it breaks no sequence, it is between lexemes. -/
theorem visibleLength_insert {w : Text} (hw : Whole w) (hne : w ≠ []) (u v : Text) :
    visibleLength (u ++ (w ++ v)) = visibleLength u + visibleLength v := by
  rw [visibleLength, strip_eq_filterMap, hw.lexemes_insert hne, List.filterMap_append,
    List.filterMap_append, ← strip_eq_filterMap, ← strip_eq_filterMap, ← strip_eq_filterMap,
    hw.strip_eq_nil, List.nil_append, List.length_append]
  rfl

theorem visibleLength_le_insert {w : Text} (hw : Whole w) (u v : Text) :
    visibleLength (u ++ v) ≤ visibleLength (u ++ (w ++ v)) := by
  by_cases hne : w = []
  · rw [hne, List.nil_append]
  rw [visibleLength_insert hw hne]
  by_cases h : Straddles u v
  · exact h.visibleLength_lt.le
  · rw [visibleLength, strip_eq_filterMap, lexemes_append_of_not_straddles h, List.filterMap_append,
      List.length_append, ← strip_eq_filterMap, ← strip_eq_filterMap]
    rfl

namespace Grows
variable {t out : Text}

/-- What is visible of a text grows with it. -/
theorem visibleLength_le (h : Grows t out) : visibleLength t ≤ visibleLength out := by
  induction h with
  | refl => exact Nat.le_refl _
  | insert _ hw ih => exact ih.trans (visibleLength_le_insert hw _ _)

/-- **A text grows between its lexemes, or part of a broken sequence becomes visible**, also
within any larger text. -/
theorem patched_or_lt (h : Grows t out) : Patched Whole t out ∨
    ∀ p q, visibleLength (p ++ (t ++ q)) < visibleLength (p ++ (out ++ q)) := by
  induction h with
  | refl => exact .inl (.refl t)
  | @insert u v w h hw ih =>
    have hstep (p q : Text) : visibleLength (p ++ ((u ++ v) ++ q)) ≤
        visibleLength (p ++ ((u ++ (w ++ v)) ++ q)) :=
      ((Grows.refl (u ++ v)).insert hw |>.extend p q).visibleLength_le
    rcases ih with hpatched | hlt
    · by_cases hne : w = []
      · subst hne
        exact .inl hpatched
      by_cases hcut : Straddles u v
      · refine .inr fun p q => (h.extend p q).visibleLength_le.trans_lt ?_
        have hlt := (hcut.extend p q).visibleLength_lt
        have hinsert := visibleLength_insert hw hne (p ++ u) (v ++ q)
        simp only [List.append_assoc] at hlt hinsert ⊢
        omega
      · refine .inl (hpatched.trans (patched_whole_iff.mpr ?_))
        obtain ⟨ss, hss⟩ := hw.exists_lexemes
        rw [lexemes_append_of_not_straddles hcut, hw.lexemes_insert hne, hss]
        exact (Inserted.refl _).append ((Inserted.refl _).sequences ss)
    · exact .inr fun p q => (hlt p q).trans_le (hstep p q)

end Grows

end Highlighting.Ansi
