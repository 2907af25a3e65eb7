import Highlighting.Proofs.Ansi.Insertion
import Highlighting.Proofs.Ansi.Splitting

/-!
# The parts of a text

There is only one way to cut a text into parts that are either control sequences in a row or plain
text without any sequence, one kind and the other in turn. For a sequence begins at an escape
character and goes no further than its final character, so what stands before and behind has no
part in it. The segments of a text are these parts.

## Main definitions

* `Ansi.ControlSequence` -- the form of a control sequence.
* `Ansi.Genuine` -- a run of sequences, or of characters without any.
* `Part`, `Canonical` -- the parts of a text.
-/
namespace Highlighting

namespace Ansi

/-- The form of a control sequence: an escape character, a bracket, parameter characters,
intermediate characters and one final character. -/
def ControlSequence (s : Text) : Prop :=
  ∃ (parameters intermediates : Text) (final : Char),
    s = Char.ofNat 0x1b :: '[' :: (parameters ++ (intermediates ++ [final])) ∧
      (∀ c ∈ parameters, 0x30 ≤ c.toNat ∧ c.toNat ≤ 0x3f) ∧
      (∀ c ∈ intermediates, 0x20 ≤ c.toNat ∧ c.toNat ≤ 0x2f) ∧
      0x40 ≤ final.toNat ∧ final.toNat ≤ 0x7e

/-- The texts that are read as control sequences are those of their form. -/
theorem isSequence_iff {s : Text} : IsSequence s ↔ ControlSequence s := by
  constructor
  · intro h
    obtain ⟨b, ps, is, f, rfl, ⟨rfl, hps, his, hf⟩, -⟩ := sequenceAt?_eq_some h
    exact ⟨ps, is, f, rfl, fun c hc => isParameter_iff.mp (hps c hc),
      fun c hc => isIntermediate_iff.mp (his c hc), isFinal_iff.mp hf⟩
  · rintro ⟨ps, is, f, rfl, hps, his, hf⟩
    have hbody : Body (ps ++ (is ++ [f])) ps is f :=
      ⟨rfl, fun c hc => isParameter_iff.mpr (hps c hc),
        fun c hc => isIntermediate_iff.mpr (his c hc), isFinal_iff.mpr hf⟩
    have hread := body?_append hbody []
    rw [List.append_nil] at hread
    change (body? (ps ++ (is ++ [f]))).map _ = _
    rw [hread]
    rfl

/-! ## Runs -/

/-- A run of control sequences, or of characters that hold none. -/
def Genuine : Run → Prop
  | .plain t => Free t
  | .escapes ss => ∀ s ∈ ss, IsSequence s

/-- A text holds no sequence if all its lexemes are characters. -/
theorem free_of_lexemes {t : Text} (h : ∀ s, .sequence s ∉ lexemes t) : Free t := by
  rintro u s v rfl hs
  refine h s ?_
  rw [hs.lexemes_insert]
  exact List.mem_append_right _ List.mem_cons_self

/-- A run of a text is read alone as in the text. -/
theorem lexemes_text_of_mem {t : Text} {r : Run} (h : r ∈ runs (lexemes t)) :
    lexemes r.text = r.lexemes := by
  obtain ⟨before, behind, hsplit⟩ := List.append_of_mem h
  have hlexemes : lexemes t =
      before.flatMap Run.lexemes ++ (r.lexemes ++ behind.flatMap Run.lexemes) := by
    rw [← flatMap_runs (lexemes t), hsplit, List.flatMap_append, List.flatMap_cons]
  exact (lexemes_of_append (lexemes_of_append hlexemes).2).1

/-- The runs of a text are genuine. -/
theorem genuine_of_mem {t : Text} {r : Run} (h : r ∈ runs (lexemes t)) : Genuine r := by
  cases r with
  | plain u =>
    have hread := lexemes_text_of_mem h
    rw [text_plain] at hread
    refine free_of_lexemes fun s hs => ?_
    rw [hread] at hs
    obtain ⟨c, -, hc⟩ := List.mem_map.mp hs
    cases hc
  | escapes ss => exact isSequence_of_run h

/-- Genuine runs in turn are read as they stand. -/
theorem lexemes_text {rs : List Run} (hmaximal : Maximal rs) (h : ∀ r ∈ rs, Genuine r) :
    lexemes (rs.flatMap Run.text) = rs.flatMap Run.lexemes := by
  induction rs with
  | nil => rfl
  | cons r rs ih =>
    have hr := h r List.mem_cons_self
    have hrest := ih (show Maximal ([r] ++ rs) from hmaximal).right
      fun r' hr' => h r' (List.mem_cons_of_mem _ hr')
    rw [List.flatMap_cons, List.flatMap_cons, ← hrest]
    cases r with
    | escapes ss =>
      rw [text_escapes]
      exact Whole.lexemes_flatten_append hr _
    | plain u =>
      have hu : lexemes u = (Run.plain u).lexemes := Free.lexemes_eq hr
      rw [text_plain, ← hu]
      cases rs with
      | nil => simp
      | cons r' rs =>
        -- The run behind the characters begins with an escape character.
        have hother := (List.isChain_cons_cons.mp hmaximal.alternate).1
        have hr' := h r' (List.mem_cons_of_mem _ List.mem_cons_self)
        have hne := hmaximal.lexemes_ne_nil r' (List.mem_cons_of_mem _ List.mem_cons_self)
        cases r' with
        | plain u' => exact absurd rfl hother
        | escapes ss =>
          have hwhole : Whole ss.flatten := ⟨ss, hr', rfl⟩
          have hne : ss.flatten ≠ [] := by
            rw [Ne, flatten_eq_nil_iff hr']
            simpa using hne
          obtain ⟨tail, htail⟩ := hwhole.eq_nil_or_cons.resolve_left hne
          rw [List.flatMap_cons, text_escapes, htail, List.cons_append, lexemes_append_esc]

/-- **The runs of a text are genuine, as long as they can be, and the only ones.** -/
theorem runs_lexemes_eq_iff {t : Text} {rs : List Run} :
    runs (lexemes t) = rs ↔ rs.flatMap Run.text = t ∧ Maximal rs ∧ ∀ r ∈ rs, Genuine r := by
  constructor
  · rintro rfl
    exact ⟨flatMap_text_runs t, maximal_runs _, fun r => genuine_of_mem⟩
  · rintro ⟨rfl, hmaximal, hgenuine⟩
    rw [lexemes_text hmaximal hgenuine, hmaximal.runs_eq]

end Ansi

/-! ## Parts -/

/-- A part of a text, and whether it is made of control sequences. -/
structure Part where
  text : Text
  escape : Bool
deriving DecidableEq, Repr

/-- The part of the text that a segment is. -/
def Segment.part (s : Segment) : Part := ⟨s.text, s.escape⟩

/-- The parts of a text that its segments are. -/
def Segments.parts (s : Segments) : List Part :=
  s.segments.map Segment.part

/-- A text is cut into control sequences in a row and characters that hold no sequence, in turn. -/
structure Canonical (text : Text) (parts : List Part) : Prop where
  joined : parts.flatMap Part.text = text
  ne_nil : ∀ p ∈ parts, p.text ≠ []
  alternate : parts.IsChain fun p q => p.escape ≠ q.escape
  sequences : ∀ p ∈ parts, p.escape = true → ∃ ss : List Text,
    ss ≠ [] ∧ (∀ s ∈ ss, Ansi.ControlSequence s) ∧ p.text = ss.flatten
  characters : ∀ p ∈ parts, p.escape = false →
    ∀ u s v, p.text = u ++ (s ++ v) → ¬ Ansi.ControlSequence s

namespace Ansi

/-- The part that a run is. -/
def Run.part (r : Run) : Part := ⟨r.text, !r.isPlain⟩

theorem map_part_segmentsFrom (active : Text) (rs : List Run) :
    (segmentsFrom active rs).map Segment.part = rs.map Run.part := by
  induction rs generalizing active with
  | nil => rfl
  | cons r rs ih => cases r <;> simp [segmentsFrom, ih, Segment.part, Run.part, Run.isPlain]

/-- A genuine run is not empty if it has lexemes. -/
theorem Genuine.text_ne_nil {r : Run} (h : Genuine r) (hne : r.lexemes ≠ []) : r.text ≠ [] := by
  cases r with
  | plain t => simpa using hne
  | escapes ss =>
    rw [text_escapes, Ne, flatten_eq_nil_iff h]
    simpa using hne

/-- The parts of genuine runs in turn. -/
theorem canonical_map_part {rs : List Run} (hmaximal : Maximal rs) (h : ∀ r ∈ rs, Genuine r) :
    Canonical (rs.flatMap Run.text) (rs.map Run.part) where
  joined := List.flatMap_map _ _ rs
  ne_nil := List.forall_mem_map.mpr fun r hr => (h r hr).text_ne_nil (hmaximal.lexemes_ne_nil r hr)
  alternate := (List.isChain_map _).mpr (hmaximal.alternate.imp fun r r' hne => by simpa [Run.part])
  sequences := List.forall_mem_map.mpr fun r hr hescape => by
    cases r with
    | plain t => cases hescape
    | escapes ss =>
      have hne := hmaximal.lexemes_ne_nil _ hr
      exact ⟨ss, by simpa using hne, fun s hs => isSequence_iff.mp (h _ hr s hs),
        text_escapes ss⟩
  characters := List.forall_mem_map.mpr fun r hr hescape u s v huv hs => by
    cases r with
    | plain t => exact h _ hr u s v ((text_plain t).symm.trans huv) (isSequence_iff.mpr hs)
    | escapes ss => cases hescape

end Ansi

namespace Canonical
variable {text : Text} {parts : List Part}

open Ansi

/-- Every part is a genuine run. -/
theorem exists_run (h : Canonical text parts) {p : Part} (hp : p ∈ parts) :
    ∃ r : Run, r.part = p ∧ Genuine r ∧ r.lexemes ≠ [] := by
  obtain ⟨t, escape⟩ := p
  cases escape with
  | true =>
    obtain ⟨ss, hne, hss, rfl⟩ := h.sequences _ hp rfl
    exact ⟨.escapes ss, by simp [Run.part, Run.isPlain], fun s hs => isSequence_iff.mpr (hss s hs),
      by simpa⟩
  | false =>
    refine ⟨.plain t, by simp [Run.part, Run.isPlain], fun u s v huv hs => ?_, ?_⟩
    · exact h.characters _ hp rfl u s v huv (isSequence_iff.mp hs)
    · simpa using h.ne_nil _ hp

/-- The parts are genuine runs in turn. -/
theorem exists_runs (h : Canonical text parts) :
    ∃ rs : List Run, rs.map Run.part = parts ∧ Maximal rs ∧ ∀ r ∈ rs, Genuine r := by
  have : Nonempty Run := ⟨.plain []⟩
  choose! run hpart hgenuine hne using fun p hp => h.exists_run (p := p) hp
  have hparts : (parts.map run).map Run.part = parts := by
    rw [List.map_map]
    exact (List.map_congr_left hpart).trans (List.map_id parts)
  have hgenuine := List.forall_mem_map.mpr hgenuine
  refine ⟨parts.map run, hparts, ⟨List.forall_mem_map.mpr hne, ?_⟩, hgenuine⟩
  have halternate := h.alternate
  rw [← hparts, List.isChain_map] at halternate
  exact halternate.imp fun r r' hr => by simpa [Run.part] using hr

end Canonical

/-- **The segments of a text are its canonical parts.** One pass over the text finds them. Joined
they give the text, none is empty, and escapes and plain text are in turn: every escape segment is
made of control sequences, every plain one holds none. There are no other parts like that. -/
theorem Segments.parts_split_eq_iff_canonical (text base : Text) :
    Splitting.ofText text base = .ok (split text base) ∧
      ∀ parts, (split text base).parts = parts ↔ Canonical text parts := by
  refine ⟨Splitting.ofText_eq text base, fun parts => ?_⟩
  have hparts : (split text base).parts = (Ansi.runs (Ansi.lexemes text)).map Ansi.Run.part :=
    Ansi.map_part_segmentsFrom base _
  rw [hparts]
  constructor
  · rintro rfl
    obtain ⟨htext, hmaximal, hgenuine⟩ :=
      Ansi.runs_lexemes_eq_iff.mp (Eq.refl (Ansi.runs (Ansi.lexemes text)))
    have hcanonical := Ansi.canonical_map_part hmaximal hgenuine
    rwa [htext] at hcanonical
  · intro h
    obtain ⟨rs, rfl, hmaximal, hgenuine⟩ := h.exists_runs
    have htext : rs.flatMap Ansi.Run.text = text :=
      (List.flatMap_map Ansi.Run.part Part.text rs).symm.trans h.joined
    rw [Ansi.runs_lexemes_eq_iff.mpr ⟨htext, hmaximal, hgenuine⟩]

/-- A sequence that breaks off is plain text. -/
example : (Segments.split "\x1b[1m\x1b[2Ka\x1b[3".toList []).parts =
    [⟨"\x1b[1m\x1b[2K".toList, true⟩, ⟨"a\x1b[3".toList, false⟩] := by
  decide

end Highlighting
