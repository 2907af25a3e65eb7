import Highlighting.Ansi.Segment
import Mathlib.Data.List.TakeWhile

/-!
# Sequences put into a text

The lexemes of a text are its control sequences and the characters outside of them. No character
of a sequence but the first is an escape character, so a lexeme begins at every escape character
of a text, whatever stands before it. A sequence that is put between two parts of a text is
therefore a lexeme of the whole, and so is every lexeme of the part behind it; the lexemes of the
part before it stay what they are, even if the part breaks off within a sequence.

So whole sequences that are put between the lexemes of a text leave all of these alone.

## Main definitions

* `Ansi.IsSequence`, `Ansi.Whole` -- a control sequence, and sequences in a row.
* `Ansi.Patch` -- a lexeme that was there, or a text that was put in.
* `Ansi.Patched` -- a text with others put between its lexemes.
-/
namespace Highlighting.Ansi

/-! ## Control sequences -/

/-- The text is a control sequence. -/
def IsSequence (s : Text) : Prop := sequenceAt? s = some s

instance (s : Text) : Decidable (IsSequence s) := inferInstanceAs (Decidable (_ = _))

theorem isParameter_iff {c : Char} : isParameter c = true ↔ 48 ≤ c.toNat ∧ c.toNat ≤ 63 := by
  simp [isParameter, Char.le_def, UInt32.le_iff_toNat_le]

theorem isIntermediate_iff {c : Char} : isIntermediate c = true ↔ 32 ≤ c.toNat ∧ c.toNat ≤ 47 := by
  simp [isIntermediate, Char.le_def, UInt32.le_iff_toNat_le]

theorem isFinal_iff {c : Char} : isFinal c = true ↔ 64 ≤ c.toNat ∧ c.toNat ≤ 126 := by
  simp [isFinal, Char.le_def, UInt32.le_iff_toNat_le]

/-- The parts of a sequence behind its bracket. -/
structure Body (b parameters intermediates : Text) (final : Char) : Prop where
  eq : b = parameters ++ (intermediates ++ [final])
  parameter : ∀ c ∈ parameters, isParameter c = true
  intermediate : ∀ c ∈ intermediates, isIntermediate c = true
  isFinal : isFinal final = true

theorem body?_append {b ps is : Text} {f : Char} (h : Body b ps is f) (rest : Text) :
    body? (b ++ rest) = some b := by
  obtain ⟨rfl, hps, his, hf⟩ := h
  have hstop {p : Char → Bool} (hp : p f = false) :
      (f :: rest).takeWhile p = [] ∧ (f :: rest).dropWhile p = f :: rest := by
    simp [hp]
  have hfinal := isFinal_iff.mp hf
  have hparameter : isParameter f = false := by
    rw [Bool.eq_false_iff, Ne, isParameter_iff]
    omega
  have hintermediate : isIntermediate f = false := by
    rw [Bool.eq_false_iff, Ne, isIntermediate_iff]
    omega
  have hother : (is ++ f :: rest).takeWhile isParameter = [] ∧
      (is ++ f :: rest).dropWhile isParameter = is ++ f :: rest := by
    cases is with
    | nil => exact hstop hparameter
    | cons c is =>
      have hc := isIntermediate_iff.mp (his c List.mem_cons_self)
      have : isParameter c = false := by
        rw [Bool.eq_false_iff, Ne, isParameter_iff]
        omega
      simp [this]
  have happend : ps ++ (is ++ [f]) ++ rest = ps ++ (is ++ f :: rest) := by simp
  unfold body?
  simp only [happend, List.takeWhile_append_of_pos hps, List.dropWhile_append_of_pos hps, hother,
    List.takeWhile_append_of_pos his, List.dropWhile_append_of_pos his, hstop hintermediate, hf]
  simp

theorem body_of_body? {t b : Text} (h : body? t = some b) :
    (∃ ps is f, Body b ps is f) ∧ b <+: t := by
  unfold body? at h
  dsimp only at h
  split at h
  · next c rest hrest =>
    split at h
    · next hf =>
      cases h
      refine ⟨⟨_, _, c, List.append_assoc _ _ _, fun d hd => ?_, fun d hd => ?_, hf⟩, rest, ?_⟩
      · exact List.mem_takeWhile_imp hd
      · exact List.mem_takeWhile_imp hd
      · rw [List.append_assoc, List.append_assoc, List.singleton_append, ← hrest,
          List.takeWhile_append_dropWhile, List.takeWhile_append_dropWhile]
    · cases h
  · cases h

theorem sequenceAt?_eq_some {t s : Text} (h : sequenceAt? t = some s) :
    ∃ b ps is f, s = esc :: '[' :: b ∧ Body b ps is f ∧ s <+: t := by
  unfold sequenceAt? at h
  split at h
  · next c t =>
    split at h
    · next hc =>
      obtain ⟨b, hb, rfl⟩ := Option.map_eq_some_iff.mp h
      obtain ⟨⟨ps, is, f, hbody⟩, hprefix⟩ := body_of_body? hb
      exact ⟨b, ps, is, f, by rw [hc], hbody,
        (List.cons_prefix_cons.mpr ⟨rfl, List.cons_prefix_cons.mpr ⟨rfl, hprefix⟩⟩)⟩
    · cases h
  · cases h

/-- A sequence is read off a text that begins with it. -/
theorem IsSequence.sequenceAt?_append {s : Text} (h : IsSequence s) (rest : Text) :
    sequenceAt? (s ++ rest) = some s := by
  obtain ⟨b, ps, is, f, rfl, hbody, -⟩ := sequenceAt?_eq_some h
  simp [sequenceAt?, body?_append hbody]

theorem isSequence_of_sequenceAt? {t s : Text} (h : sequenceAt? t = some s) :
    IsSequence s ∧ s <+: t := by
  obtain ⟨b, ps, is, f, rfl, hbody, hprefix⟩ := sequenceAt?_eq_some h
  have := body?_append hbody []
  rw [List.append_nil] at this
  exact ⟨by simp [IsSequence, sequenceAt?, this], hprefix⟩

/-- The only escape character of a sequence is the one that it begins with. -/
theorem IsSequence.eq_cons {s : Text} (h : IsSequence s) :
    ∃ tail, s = esc :: tail ∧ esc ∉ tail ∧ tail ≠ [] := by
  obtain ⟨b, ps, is, f, rfl, hbody, -⟩ := sequenceAt?_eq_some h
  refine ⟨_, rfl, fun hmem => ?_, List.cons_ne_nil _ _⟩
  rcases List.mem_cons.mp hmem with hmem | hmem
  · exact absurd hmem (by decide)
  · rw [hbody.eq] at hmem
    simp only [List.mem_append, List.mem_singleton] at hmem
    rcases hmem with hmem | hmem | hmem
    · exact absurd (hbody.parameter _ hmem) (by decide)
    · exact absurd (hbody.intermediate _ hmem) (by decide)
    · exact absurd (hmem ▸ hbody.isFinal) (by decide)

theorem IsSequence.length_pos {s : Text} (h : IsSequence s) : 0 < s.length := by
  obtain ⟨tail, rfl, -, -⟩ := h.eq_cons
  exact Nat.succ_pos _

/-- No sequence is empty. -/
theorem flatten_eq_nil_iff {ss : List Text} (h : ∀ s ∈ ss, IsSequence s) :
    ss.flatten = [] ↔ ss = [] := by
  cases ss with
  | nil => simp
  | cons s ss =>
    have := (h s List.mem_cons_self).length_pos
    simp [List.ne_nil_of_length_pos this]

/-- No sequence goes on over an escape character. -/
theorem sequenceAt?_append_esc {u : Text} (hu : u ≠ []) (v : Text) :
    sequenceAt? (u ++ esc :: v) = sequenceAt? u := by
  have hstop {p : Char → Bool} (hp : p esc = false) (u : Text) :
      (u ++ esc :: v).takeWhile p = u.takeWhile p ∧
        (u ++ esc :: v).dropWhile p = u.dropWhile p ++ esc :: v := by
    induction u with
    | nil => simp [hp]
    | cons c u ih =>
      cases hc : p c with
      | true => simp [hc, ih.1, ih.2]
      | false => simp [hc]
  have hbody (u : Text) : body? (u ++ esc :: v) = body? u := by
    unfold body?
    dsimp only
    rw [(hstop (by decide) u).1, (hstop (by decide) u).2,
      (hstop (p := isIntermediate) (by decide) _).1, (hstop (p := isIntermediate) (by decide) _).2]
    cases List.dropWhile isIntermediate (List.dropWhile isParameter u) with
    | nil => rfl
    | cons c rest => rfl
  match u, hu with
  | [c], _ => rfl
  | c :: d :: u, _ =>
    by_cases hd : d = '['
    · subst hd
      simp [sequenceAt?, hbody]
    · simp [sequenceAt?, hd]

/-! ## Lexemes -/

theorem lexemesAfter_eq (n : Nat) (t : Text) : lexemesAfter n t = lexemes (t.drop n) := by
  induction n generalizing t with
  | zero => rfl
  | succ n ih =>
    cases t with
    | nil => rfl
    | cons c t => exact ih t

theorem stripAfter_eq (n : Nat) (t : Text) : stripAfter n t = strip (t.drop n) := by
  induction n generalizing t with
  | zero => rfl
  | succ n ih =>
    cases t with
    | nil => rfl
    | cons c t => exact ih t

section Reading
variable {s : Text} {c : Char} {rest : Text}

theorem IsSequence.lexemes_append (h : IsSequence s) (rest : Text) :
    lexemes (s ++ rest) = .sequence s :: lexemes rest := by
  obtain ⟨tail, rfl, -, -⟩ := h.eq_cons
  have hread := h.sequenceAt?_append rest
  rw [List.cons_append] at hread ⊢
  rw [lexemes, lexemesAfter, hread]
  simp [lexemesAfter_eq]

theorem IsSequence.strip_append (h : IsSequence s) (rest : Text) :
    strip (s ++ rest) = strip rest := by
  obtain ⟨tail, rfl, -, -⟩ := h.eq_cons
  have hread := h.sequenceAt?_append rest
  rw [List.cons_append] at hread ⊢
  rw [strip, stripAfter, hread]
  simp [stripAfter_eq]

theorem lexemes_cons (h : sequenceAt? (c :: rest) = none) :
    lexemes (c :: rest) = .plain c :: lexemes rest := by
  rw [lexemes, lexemesAfter, h]
  rfl

theorem strip_cons (h : sequenceAt? (c :: rest) = none) : strip (c :: rest) = c :: strip rest := by
  rw [strip, stripAfter, h]
  rfl

end Reading

/-- A text is empty, or it begins with a sequence or with a character outside of any. -/
theorem lexeme_induction {motive : Text → Prop} (nil : motive [])
    (sequence : ∀ s rest, IsSequence s → motive rest → motive (s ++ rest))
    (plain : ∀ c rest, sequenceAt? (c :: rest) = none → motive rest → motive (c :: rest)) :
    ∀ t, motive t
  | [] => nil
  | c :: t => by
    cases hread : sequenceAt? (c :: t) with
    | none => exact plain c t hread (lexeme_induction nil sequence plain t)
    | some s =>
      obtain ⟨hs, rest, hrest⟩ := isSequence_of_sequenceAt? hread
      obtain ⟨tail, htail, -, -⟩ := hs.eq_cons
      have hlength := congrArg List.length hrest
      rw [htail, List.length_append, List.length_cons, List.length_cons] at hlength
      have hle : rest.length ≤ t.length := by omega
      rw [← hrest]
      exact sequence s rest hs (lexeme_induction nil sequence plain rest)
  termination_by t => t.length

theorem flatMap_lexemes (t : Text) : (lexemes t).flatMap Lexeme.text = t := by
  induction t using lexeme_induction with
  | nil => rfl
  | sequence s rest hs ih => rw [hs.lexemes_append, List.flatMap_cons, ih, Lexeme.text]
  | plain c rest hc ih =>
    rw [lexemes_cons hc, List.flatMap_cons, ih, Lexeme.text, List.singleton_append]

/-- The character of a lexeme that is none of a sequence. -/
def Lexeme.visible? : Lexeme → Option Char
  | sequence _ => none
  | plain c => some c

theorem strip_eq_filterMap (t : Text) : strip t = (lexemes t).filterMap Lexeme.visible? := by
  induction t using lexeme_induction with
  | nil => rfl
  | sequence s rest hs ih =>
    rw [hs.lexemes_append, hs.strip_append, ih]
    rfl
  | plain c rest hc ih =>
    rw [lexemes_cons hc, strip_cons hc, ih]
    rfl

/-- A lexeme begins at every escape character. -/
theorem lexemes_append_esc (u v : Text) :
    lexemes (u ++ esc :: v) = lexemes u ++ lexemes (esc :: v) := by
  induction u using lexeme_induction with
  | nil => rfl
  | sequence s rest hs ih =>
    rw [List.append_assoc, hs.lexemes_append, hs.lexemes_append, ih, List.cons_append]
  | plain c rest hc ih =>
    have hc' : sequenceAt? (c :: (rest ++ esc :: v)) = none := by
      rw [← List.cons_append, sequenceAt?_append_esc (List.cons_ne_nil c rest), hc]
    rw [List.cons_append, lexemes_cons hc', lexemes_cons hc, ih, List.cons_append]

/-- The lexemes of a part of a text that is cut off between lexemes. -/
theorem lexemes_of_append {t : Text} {ls ls' : List Lexeme} (h : lexemes t = ls ++ ls') :
    lexemes (ls.flatMap Lexeme.text) = ls ∧ lexemes (ls'.flatMap Lexeme.text) = ls' := by
  induction t using lexeme_induction generalizing ls with
  | nil =>
    obtain ⟨rfl, rfl⟩ := List.append_eq_nil_iff.mp h.symm
    exact ⟨rfl, rfl⟩
  | sequence s rest hs ih =>
    cases ls with
    | nil =>
      rw [List.nil_append] at h
      rw [← h, flatMap_lexemes]
      exact ⟨rfl, rfl⟩
    | cons l ls =>
      rw [hs.lexemes_append, List.cons_append, List.cons.injEq] at h
      obtain ⟨rfl, h⟩ := h
      refine ⟨?_, (ih h).2⟩
      rw [List.flatMap_cons, Lexeme.text, hs.lexemes_append, (ih h).1]
  | plain c rest hc ih =>
    cases ls with
    | nil =>
      rw [List.nil_append] at h
      rw [← h, flatMap_lexemes]
      exact ⟨rfl, rfl⟩
    | cons l ls =>
      rw [lexemes_cons hc, List.cons_append, List.cons.injEq] at h
      obtain ⟨rfl, h⟩ := h
      refine ⟨?_, (ih h).2⟩
      -- A sequence that is complete before the cut would be one of the whole text.
      have hrest : rest = ls.flatMap Lexeme.text ++ ls'.flatMap Lexeme.text := by
        rw [← List.flatMap_append, ← h, flatMap_lexemes]
      have hc' : sequenceAt? (c :: ls.flatMap Lexeme.text) = none := by
        by_contra hsome
        obtain ⟨s, hs⟩ := Option.ne_none_iff_exists'.mp hsome
        obtain ⟨hseq, more, hmore⟩ := isSequence_of_sequenceAt? hs
        rw [hrest, ← List.cons_append, ← hmore, List.append_assoc, hseq.sequenceAt?_append] at hc
        cases hc
      rw [List.flatMap_cons, Lexeme.text, List.singleton_append, lexemes_cons hc', (ih h).1]

theorem isSequence_of_mem {t s : Text} (h : .sequence s ∈ lexemes t) : IsSequence s := by
  induction t using lexeme_induction with
  | nil => exact absurd h List.not_mem_nil
  | sequence s' rest hs ih =>
    rw [hs.lexemes_append] at h
    rcases List.mem_cons.mp h with h | h
    · cases h
      exact hs
    · exact ih h
  | plain c rest hc ih =>
    rw [lexemes_cons hc] at h
    rcases List.mem_cons.mp h with h | h
    · cases h
    · exact ih h

/-! ## Runs -/

/-- The lexemes of a run. -/
def Run.lexemes : Run → List Lexeme
  | plain t => t.map .plain
  | escapes ss => ss.map .sequence

theorem flatMap_runs (ls : List Lexeme) : (runs ls).flatMap Run.lexemes = ls := by
  induction ls with
  | nil => rfl
  | cons l ls ih =>
    have hcons (rs : List Run) : (Run.cons l rs).flatMap Run.lexemes =
        l :: rs.flatMap Run.lexemes := by
      cases l with
      | plain c =>
        cases rs with
        | nil => rfl
        | cons r rs => cases r <;> rfl
      | sequence s =>
        cases rs with
        | nil => rfl
        | cons r rs => cases r <;> rfl
    rw [runs, List.foldr_cons, hcons]
    exact congrArg (l :: ·) ih

theorem isSequence_of_run {t : Text} {ss : List Text} (h : .escapes ss ∈ runs (lexemes t)) :
    ∀ s ∈ ss, IsSequence s := by
  intro s hs
  refine isSequence_of_mem (t := t) ?_
  rw [← flatMap_runs (lexemes t)]
  exact List.mem_flatMap.mpr ⟨_, h, List.mem_map_of_mem hs⟩

/-! ## Whole sequences -/

/-- The text is made of control sequences in a row. -/
def Whole (t : Text) : Prop := ∃ ss : List Text, (∀ s ∈ ss, IsSequence s) ∧ t = ss.flatten

namespace Whole
variable {t : Text}

theorem nil : Whole [] := ⟨[], fun _ h => absurd h List.not_mem_nil, rfl⟩

/-- The renditions that a run of sequences selects. -/
theorem renditions {ss : List Text} (h : ∀ s ∈ ss, IsSequence s) : Whole (Ansi.renditions ss) :=
  ⟨_, fun s hs => h s (List.mem_filter.mp hs).1, rfl⟩

theorem lexemes_flatten_append {ss : List Text} (h : ∀ s ∈ ss, IsSequence s) (rest : Text) :
    lexemes (ss.flatten ++ rest) = ss.map .sequence ++ lexemes rest := by
  induction ss with
  | nil => rfl
  | cons s ss ih =>
    rw [List.flatten_cons, List.append_assoc, (h s List.mem_cons_self).lexemes_append,
      ih fun s hs => h s (List.mem_cons_of_mem _ hs), List.map_cons, List.cons_append]

theorem lexemes_append (h : Whole t) (rest : Text) :
    lexemes (t ++ rest) = lexemes t ++ lexemes rest := by
  obtain ⟨ss, hss, rfl⟩ := h
  have := lexemes_flatten_append hss []
  rw [List.append_nil, lexemes_nil, List.append_nil] at this
  rw [lexemes_flatten_append hss, this]

/-- Nothing of it is visible. -/
theorem strip_eq_nil (h : Whole t) : strip t = [] := by
  obtain ⟨ss, hss, rfl⟩ := h
  have := lexemes_flatten_append hss []
  rw [List.append_nil, lexemes_nil, List.append_nil] at this
  rw [strip_eq_filterMap, this, List.filterMap_map, List.filterMap_eq_nil_iff]
  exact fun _ _ => rfl

theorem eq_nil_or_cons (h : Whole t) : t = [] ∨ ∃ tail, t = esc :: tail := by
  obtain ⟨ss, hss, rfl⟩ := h
  cases ss with
  | nil => exact .inl rfl
  | cons s ss =>
    obtain ⟨tail, htail, -, -⟩ := (hss s List.mem_cons_self).eq_cons
    exact .inr ⟨tail ++ ss.flatten, by rw [htail]; rfl⟩

/-- **A whole sequence put into a text is a lexeme of it**, and so are those of what stands before
and behind. -/
theorem lexemes_insert (h : Whole t) (hne : t ≠ []) (u v : Text) :
    lexemes (u ++ (t ++ v)) = lexemes u ++ (lexemes t ++ lexemes v) := by
  obtain ⟨tail, rfl⟩ := h.eq_nil_or_cons.resolve_left hne
  rw [List.cons_append, lexemes_append_esc, ← List.cons_append, h.lexemes_append]

end Whole

theorem IsSequence.lexemes_insert {s : Text} (h : IsSequence s) (u v : Text) :
    lexemes (u ++ (s ++ v)) = lexemes u ++ .sequence s :: lexemes v := by
  have hwhole : Whole s := ⟨[s], by simpa using h, by simp⟩
  have hread := h.lexemes_append []
  rw [List.append_nil, lexemes_nil] at hread
  rw [hwhole.lexemes_insert (List.ne_nil_of_length_pos h.length_pos), hread,
    List.singleton_append]

/-! ## Patches -/

/-- A piece of a text: a lexeme that was there before, or a text that was put in. -/
inductive Patch where
  | kept (l : Lexeme)
  | put (t : Text)
deriving DecidableEq

namespace Patch

/-- The characters of a piece. -/
def text : Patch → Text
  | kept l => l.text
  | put t => t

/-- The lexeme that was there before. -/
def kept? : Patch → Option Lexeme
  | kept l => some l
  | put _ => none

/-- The lexemes of a piece. -/
def lexemes : Patch → List Lexeme
  | kept l => [l]
  | put t => Ansi.lexemes t

/-- The lexemes that pieces were put between, in order. -/
def original (ps : List Patch) : List Lexeme :=
  ps.filterMap kept?

/-- The text that pieces make up. -/
def joined (ps : List Patch) : Text :=
  ps.flatMap text

theorem lexemes_joined_aux {ps : List Patch} (hput : ∀ t, put t ∈ ps → Whole t)
    (before : List Lexeme)
    (h : Ansi.lexemes ((before ++ original ps).flatMap Lexeme.text) = before ++ original ps) :
    Ansi.lexemes (before.flatMap Lexeme.text ++ joined ps) = before ++ ps.flatMap lexemes := by
  induction ps generalizing before with
  | nil =>
    rw [original, List.filterMap_nil, List.append_nil] at h
    rw [joined, List.flatMap_nil, List.append_nil, h, List.flatMap_nil, List.append_nil]
  | cons p ps ih =>
    have ih := ih fun t ht => hput t (List.mem_cons_of_mem _ ht)
    cases p with
    | kept l =>
      have := ih (before ++ [l]) (by simpa [original, kept?] using h)
      simpa [joined, text, lexemes] using this
    | put t =>
      have hwhole := hput t List.mem_cons_self
      by_cases ht : t = []
      · subst ht
        exact ih before h
      · have hparts := lexemes_of_append h
        have := ih [] hparts.2
        rw [joined, List.flatMap_cons, text, hwhole.lexemes_insert ht, hparts.1]
        simp only [List.flatMap_nil, List.nil_append] at this
        change _ ++ (_ ++ Ansi.lexemes (joined ps)) = _
        rw [this, List.flatMap_cons, lexemes]

/-- **Whole sequences put between the lexemes of a text leave them as they are.** -/
theorem lexemes_joined {ps : List Patch} {t : Text} (horiginal : original ps = Ansi.lexemes t)
    (hput : ∀ s, put s ∈ ps → Whole s) : Ansi.lexemes (joined ps) = ps.flatMap lexemes := by
  refine lexemes_joined_aux hput [] ?_
  rw [List.nil_append, horiginal, flatMap_lexemes]

/-- So what is visible of the text does not change. -/
theorem strip_joined {ps : List Patch} {t : Text} (horiginal : original ps = Ansi.lexemes t)
    (hput : ∀ s, put s ∈ ps → Whole s) : strip (joined ps) = strip t := by
  rw [strip_eq_filterMap, lexemes_joined horiginal hput, strip_eq_filterMap, ← horiginal]
  clear horiginal
  induction ps with
  | nil => rfl
  | cons p ps ih =>
    have ih := ih fun t ht => hput t (List.mem_cons_of_mem _ ht)
    rw [List.flatMap_cons, List.filterMap_append, ih]
    cases p with
    | kept l => simp [original, kept?, lexemes, List.filterMap_cons]; cases l.visible? <;> rfl
    | put t =>
      have hnil : (Ansi.lexemes t).filterMap Lexeme.visible? = [] := by
        rw [← strip_eq_filterMap, (hput t List.mem_cons_self).strip_eq_nil]
      rw [lexemes, hnil]
      rfl

theorem joined_append (ps qs : List Patch) : joined (ps ++ qs) = joined ps ++ joined qs :=
  List.flatMap_append

theorem original_append (ps qs : List Patch) :
    original (ps ++ qs) = original ps ++ original qs :=
  List.filterMap_append

/-- Nothing is put into characters outside of sequences. -/
theorem joined_plain (t : Text) : joined (t.map fun c => kept (.plain c)) = t := by
  induction t with
  | nil => rfl
  | cons c t ih => exact congrArg (c :: ·) ih

theorem original_plain (t : Text) : original (t.map fun c => kept (.plain c)) = t.map .plain := by
  induction t with
  | nil => rfl
  | cons c t ih => exact congrArg (Lexeme.plain c :: ·) ih

theorem flatMap_plain (t : Text) :
    (t.map fun c => kept (.plain c)).flatMap lexemes = t.map .plain := by
  induction t with
  | nil => rfl
  | cons c t ih => exact congrArg (Lexeme.plain c :: ·) ih

/-- Nothing is put into sequences. -/
theorem joined_sequences (ss : List Text) :
    joined (ss.map fun s => kept (.sequence s)) = ss.flatten := by
  induction ss with
  | nil => rfl
  | cons s ss ih => exact congrArg (s ++ ·) ih

theorem original_sequences (ss : List Text) :
    original (ss.map fun s => kept (.sequence s)) = ss.map .sequence := by
  induction ss with
  | nil => rfl
  | cons s ss ih => exact congrArg (Lexeme.sequence s :: ·) ih

theorem flatMap_sequences (ss : List Text) :
    (ss.map fun s => kept (.sequence s)).flatMap lexemes = ss.map .sequence := by
  induction ss with
  | nil => rfl
  | cons s ss ih => exact congrArg (Lexeme.sequence s :: ·) ih

end Patch

/-- A text is another one with texts of some kind put between its lexemes. -/
def Patched (allowed : Text → Prop) (t out : Text) : Prop :=
  ∃ ps : List Patch, Patch.joined ps = out ∧ Patch.original ps = lexemes t ∧
    ∀ s, .put s ∈ ps → allowed s

namespace Patched
variable {allowed : Text → Prop} {t out : Text}

/-- **Whole sequences put between the lexemes of a text leave what is visible of it.** -/
theorem strip_eq (h : Patched allowed t out) (hwhole : ∀ s, allowed s → Whole s) :
    strip out = strip t := by
  obtain ⟨ps, rfl, horiginal, hput⟩ := h
  exact Patch.strip_joined horiginal fun s hs => hwhole s (hput s hs)

end Patched

end Highlighting.Ansi
