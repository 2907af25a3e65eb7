import Highlighting.Proofs.Ansi.Matches
import Highlighting.Proofs.Ansi.Runs

/-!
# Splitting a text in one pass

The segments of a text can be told in one pass over the matches of the pattern of control
sequences. A sequence is kept back, since another one may follow directly. Those that are kept
back become a segment where plain text comes between, or at the end of the text, and the ones
among them that select the rendition become the active escape then.

At any time the segments so far, the sequences that are kept back and the characters behind them
make up what was read. So the pass ends with the segments of the runs of the text.

## Main definitions

* `Splitting` -- how far a pass has come.
* `Splitting.ofText` -- the segments that a pass over a text ends with.
* `Splitting.Pending`, `Splitting.KeepsBack` -- what is not in a segment yet.
-/
namespace Highlighting

open Ansi

/-- How far a pass over a text has come: the segments, the escape that is active behind them, where
the last sequence ends, the sequences that are kept back, and those of them that select the
rendition. -/
structure Splitting where
  segments : List Segment
  active : Text
  last : Nat
  pending : Text
  styles : Text
deriving DecidableEq, Repr

namespace Splitting

/-- Nothing is read yet. -/
def start (base : Text) : Splitting := ⟨[], base, 0, [], []⟩

/-- Make a segment of the sequences that are kept back. -/
def flush (st : Splitting) : Splitting :=
  if st.pending = [] then st
  else
    let active := if st.styles = [] then st.active else st.styles
    ⟨st.segments ++ [⟨st.pending, true, active⟩], active, st.last, [], []⟩

/-- Read on to a position, if there is plain text before it. -/
def passOver (text : Text) (st : Splitting) (position : Int) : Splitting :=
  if st.last < position then
    let st := st.flush
    { st with segments := st.segments ++ [⟨text.slice st.last position.toNat, false, st.active⟩] }
  else st

/-- Keep a sequence back. -/
def keep (st : Splitting) (m : Match) : Splitting :=
  { st with
    pending := st.pending ++ m.full
    styles := if isRendition m.full then st.styles ++ m.full else st.styles
    last := m.stop.toNat }

/-- Read on to the end of a match. -/
def step (text : Text) (st : Splitting) (m : Match) : Splitting :=
  (st.passOver text m.start).keep m

/-- The segments at the end of the text. -/
def finish (text : Text) (st : Splitting) : List Segment :=
  let st := st.flush
  if st.last < text.length then st.segments ++ [⟨text.drop st.last, false, st.active⟩]
  else st.segments

/-- The segments that a pass over a text ends with. -/
def ofText (text base : Text) : Except Failure Segments :=
  (pattern.allMatches text).map fun ms =>
    ⟨((ms.foldl (step text) (start base)).finish text), base⟩

/-- These sequences are kept back. -/
structure Pending (st : Splitting) (ss : List Text) : Prop where
  sequence : ∀ s ∈ ss, IsSequence s
  pending_eq : st.pending = ss.flatten
  styles_eq : st.styles = renditions ss

/-- These sequences are kept back, and the characters behind them are not in a segment either. The
rest of the text is not read. -/
structure KeepsBack (text : Text) (st : Splitting) (ss : List Text) (w rest : Text) : Prop
    extends st.Pending ss where
  drop_last : text.drop st.last = w ++ rest
  last_le : st.last ≤ text.length

@[simp] theorem last_flush (st : Splitting) : st.flush.last = st.last := by
  unfold flush
  split <;> rfl

end Splitting

namespace Ansi

/-- The first run is of the kind of the first lexeme. -/
theorem isPlain_of_mem_head? {l : Lexeme} {ls : List Lexeme} {r : Run}
    (h : r ∈ (runs (l :: ls)).head?) : r.isPlain = l.visible?.isSome := by
  change r ∈ (Run.cons l (runs ls)).head? at h
  rcases hruns : runs ls with _ | ⟨_ | _, _⟩ <;> cases l <;>
    simp [hruns, Run.cons] at h <;> subst h <;> rfl

/-- The segments of characters before a sequence, or at the end. -/
theorem segmentsFrom_plain {w : Text} (hw : w ≠ []) {ls : List Lexeme}
    (hls : ∀ r ∈ (runs ls).head?, r.isPlain = false) (active : Text) :
    segmentsFrom active (runs (w.map .plain ++ ls)) =
      ⟨w, false, active⟩ :: segmentsFrom active (runs ls) := by
  have hruns : runs ((Run.plain w).lexemes ++ ls) = .plain w :: runs ls :=
    runs_append (lexemes_plain_eq_nil_iff.not.mpr hw) fun r hr => by
      rw [hls r hr]
      exact Bool.false_ne_true.symm
  exact congrArg (segmentsFrom active) hruns

/-- The segments of sequences before a character, or at the end. -/
theorem segmentsFrom_sequences {ss : List Text} (hss : ss ≠ []) {ls : List Lexeme}
    (hls : ∀ r ∈ (runs ls).head?, r.isPlain = true) (active : Text) :
    segmentsFrom active (runs (ss.map .sequence ++ ls)) =
      ⟨ss.flatten, true, activeAfter active ss⟩ ::
        segmentsFrom (activeAfter active ss) (runs ls) := by
  have hruns : runs ((Run.escapes ss).lexemes ++ ls) = .escapes ss :: runs ls :=
    runs_append (lexemes_escapes_eq_nil_iff.not.mpr hss) fun r hr => by
      rw [hls r hr]
      exact Bool.false_ne_true
  exact congrArg (segmentsFrom active) hruns

end Ansi

namespace Splitting
variable {text : Text} {st : Splitting} {ss : List Text} {w rest : Text}

namespace Pending

theorem nil (h₁ : st.pending = []) (h₂ : st.styles = []) : st.Pending [] :=
  ⟨fun _ hs => absurd hs List.not_mem_nil, h₁, h₂⟩

theorem pending_eq_nil_iff (h : st.Pending ss) : st.pending = [] ↔ ss = [] := by
  rw [h.pending_eq, flatten_eq_nil_iff h.sequence]

/-- Nothing is kept back any more. -/
theorem flush (h : st.Pending ss) : st.flush.Pending [] := by
  unfold Splitting.flush
  split
  · next hnil =>
    refine .nil hnil ?_
    rw [h.styles_eq, h.pending_eq_nil_iff.mp hnil]
    rfl
  · exact .nil rfl rfl

/-- The segment made of the sequences is the one of their run. -/
theorem flush_segments (h : st.Pending ss) {ls : List Lexeme}
    (hls : ∀ r ∈ (runs ls).head?, r.isPlain = true) :
    st.flush.segments ++ segmentsFrom st.flush.active (runs ls) =
      st.segments ++ segmentsFrom st.active (runs (ss.map .sequence ++ ls)) := by
  by_cases hss : ss = []
  · rw [Splitting.flush, if_pos (h.pending_eq_nil_iff.mpr hss), hss]
    rfl
  · rw [Splitting.flush, if_neg (h.pending_eq_nil_iff.not.mpr hss), segmentsFrom_sequences hss hls,
      activeAfter, h.pending_eq, h.styles_eq]
    simp

/-- The segments made of the sequences and of characters behind them are those of their runs. -/
theorem flush_plain (h : st.Pending ss) (hw : w ≠ []) {ls : List Lexeme}
    (hls : ∀ r ∈ (runs ls).head?, r.isPlain = false) :
    st.flush.segments ++ [⟨w, false, st.flush.active⟩] ++ segmentsFrom st.flush.active (runs ls) =
      st.segments ++ segmentsFrom st.active (runs (ss.map .sequence ++ (w.map .plain ++ ls))) := by
  obtain ⟨c, w, rfl⟩ := List.exists_cons_of_ne_nil hw
  have hplain : ∀ r ∈ (runs ((c :: w).map .plain ++ ls)).head?, r.isPlain = true :=
    fun r hr => isPlain_of_mem_head? (l := .plain c) hr
  rw [← h.flush_segments hplain, segmentsFrom_plain hw hls, List.append_assoc,
    List.singleton_append]

/-- One more sequence is kept back. -/
theorem keep (h : st.Pending ss) {m : Match} (hm : IsSequence m.full) :
    (st.keep m).Pending (ss ++ [m.full]) where
  sequence := List.forall_mem_append.mpr ⟨h.sequence, List.forall_mem_singleton.mpr hm⟩
  pending_eq := by simp [Splitting.keep, h.pending_eq]
  styles_eq := by
    cases hselects : isRendition m.full <;>
      simp [Splitting.keep, h.styles_eq, renditions, hselects]

end Pending

namespace KeepsBack

theorem start (text base : Text) : (start base).KeepsBack text [] [] text :=
  ⟨.nil rfl rfl, rfl, Nat.zero_le _⟩

/-- A character is read. -/
theorem plain {c : Char} (h : st.KeepsBack text ss w (c :: rest)) :
    st.KeepsBack text ss (w ++ [c]) rest :=
  { h with drop_last := by rw [h.drop_last, List.append_assoc, List.singleton_append] }

/-- The characters before a sequence get their segment, and so do the sequences before them. -/
theorem passOver (h : st.KeepsBack text ss w rest) {st' : Splitting}
    (hst' : st.passOver text (st.last + w.length : Nat) = st') :
    ∃ ss', st'.Pending ss' ∧ ∀ s ls,
      st'.segments ++ segmentsFrom st'.active (runs (ss'.map .sequence ++ .sequence s :: ls)) =
        st.segments ++ segmentsFrom st.active
          (runs (ss.map .sequence ++ (w.map .plain ++ .sequence s :: ls))) := by
  subst hst'
  by_cases hw : w = []
  · subst hw
    rw [Splitting.passOver, if_neg (by simp)]
    exact ⟨ss, h.toPending, fun s ls => rfl⟩
  · have hpositive := List.length_pos_iff.mpr hw
    have hslice : text.slice st.flush.last (st.last + w.length) = w := by
      rw [Text.slice, last_flush, h.drop_last, Nat.add_sub_cancel_left, List.take_left]
    rw [Splitting.passOver, if_pos (by omega), Int.toNat_natCast]
    dsimp only
    rw [hslice]
    refine ⟨[], ?_, fun s ls => ?_⟩
    · exact .nil h.flush.pending_eq h.flush.styles_eq
    · exact h.flush_plain hw fun r hr => isPlain_of_mem_head? hr

/-- A sequence is read. -/
theorem step {s : Text} (h : st.KeepsBack text ss w (s ++ rest)) (hs : IsSequence s)
    {st' : Splitting} (hst' : st.step text ⟨s, (st.last + w.length : Nat), []⟩ = st') :
    st'.last = st.last + w.length + s.length ∧ ∃ ss', st'.KeepsBack text ss' [] rest ∧ ∀ ls,
      st'.segments ++ segmentsFrom st'.active (runs (ss'.map .sequence ++ ls)) =
        st.segments ++ segmentsFrom st.active
          (runs (ss.map .sequence ++ (w.map .plain ++ .sequence s :: ls))) := by
  obtain ⟨ss', hpending, hsegments⟩ := h.passOver rfl
  subst hst'
  have hread : text.drop (st.last + w.length) = s ++ rest := drop_add_length h.drop_last
  have hle := add_length_le hread (add_length_le h.drop_last h.last_le)
  refine ⟨rfl, ss' ++ [s], ⟨hpending.keep hs, drop_add_length hread, hle⟩, fun ls => ?_⟩
  rw [← hsegments, List.map_append, List.append_assoc]
  rfl

/-- At the end of the text all runs get their segments. -/
theorem finish_eq (h : st.KeepsBack text ss w []) :
    st.finish text =
      st.segments ++ segmentsFrom st.active (runs (ss.map .sequence ++ w.map .plain)) := by
  have hlt : st.last < text.length ↔ w ≠ [] := by
    rw [← Nat.not_le, ← List.drop_eq_nil_iff, h.drop_last, List.append_nil]
  by_cases hw : w = []
  · have hnone : ∀ r ∈ (runs []).head?, r.isPlain = true := nofun
    have := h.flush_segments hnone
    rw [finish, last_flush, if_neg (fun hlast => hlt.mp hlast hw), hw, List.map_nil, ← this]
    exact (List.append_nil _).symm
  · have hnone : ∀ r ∈ (runs []).head?, r.isPlain = false := nofun
    have := h.flush_plain hw hnone
    rw [List.append_nil] at this
    rw [finish, last_flush, if_pos (hlt.mpr hw), h.drop_last, ← this, List.append_nil]
    exact (List.append_nil _).symm

/-- **The pass ends with the segments of the runs** of what is not in a segment yet. -/
theorem foldl_finish (h : st.KeepsBack text ss w rest) :
    ((matchesFrom (st.last + w.length) (lexemes rest)).foldl (Splitting.step text) st).finish text =
      st.segments ++ segmentsFrom st.active
        (runs (ss.map .sequence ++ (w.map .plain ++ lexemes rest))) := by
  -- The matches to come stand behind the characters that are not in a segment, not behind `last`.
  induction rest using lexeme_induction generalizing st ss w with
  | nil =>
    rw [lexemes_nil, List.append_nil, ← h.finish_eq]
    rfl
  | sequence s rest hs ih =>
    obtain ⟨hlast, ss', hstep, hsegments⟩ := h.step hs rfl
    have := ih hstep
    rw [hlast, List.length_nil, Nat.add_zero] at this
    rw [hs.lexemes_append, matchesFrom, List.foldl_cons, this, List.map_nil, List.nil_append,
      hsegments]
  | plain c rest hc ih =>
    have := ih h.plain
    rw [List.length_append, List.length_singleton, ← Nat.add_assoc] at this
    rw [lexemes_cons hc, matchesFrom, this, List.map_append, List.append_assoc]
    rfl

end KeepsBack

/-- **One pass over a text ends with its segments.** -/
theorem ofText_eq (text base : Text) : ofText text base = .ok (Segments.split text base) := by
  have := (KeepsBack.start text base).foldl_finish
  rw [ofText, allMatches_pattern]
  exact congrArg (fun segments => Except.ok (⟨segments, base⟩ : Segments)) this

end Splitting

end Highlighting
