import Highlighting.Proofs.Ansi.Lexemes
import Mathlib.Data.List.Chain

/-!
# The runs of a text

The lexemes of a text fall into runs of plain characters and runs of sequences, in turn and as long
as they can be, and there is only one way to cut a row of lexemes like that. The segments of a text
are those of its runs, and of all that came before, a segment depends on the active escape alone.

## Main definitions

* `Ansi.Run.text` -- the characters of a run.
* `Ansi.Maximal` -- runs are as long as they can be.
-/
namespace Highlighting

namespace Ansi

/-! ## Runs -/

/-- The run is of plain text. -/
def Run.isPlain : Run → Bool
  | plain _ => true
  | escapes _ => false

/-- The characters of a run. -/
def Run.text (r : Run) : Text :=
  r.lexemes.flatMap Lexeme.text

@[simp] theorem text_plain (t : Text) : (Run.plain t).text = t := by
  simp [Run.text, Run.lexemes, Lexeme.text, List.flatMap_map]

@[simp] theorem text_escapes (ss : List Text) : (Run.escapes ss).text = ss.flatten := by
  rw [Run.text, Run.lexemes, List.flatMap_map]
  exact List.flatMap_id'

@[simp] theorem lexemes_plain_eq_nil_iff {t : Text} : (Run.plain t).lexemes = [] ↔ t = [] :=
  List.map_eq_nil_iff

@[simp] theorem lexemes_escapes_eq_nil_iff {ss : List Text} :
    (Run.escapes ss).lexemes = [] ↔ ss = [] :=
  List.map_eq_nil_iff

/-- The text of runs is that of their lexemes. -/
theorem flatMap_text (rs : List Run) :
    rs.flatMap Run.text = (rs.flatMap Run.lexemes).flatMap Lexeme.text :=
  List.flatMap_assoc.symm

/-- The runs of a text have its characters. -/
theorem flatMap_text_runs (t : Text) : (runs (lexemes t)).flatMap Run.text = t := by
  rw [flatMap_text, flatMap_runs, flatMap_lexemes]

/-- Runs are as long as they can be: none is empty, and neighbours are of different kinds. -/
structure Maximal (rs : List Run) : Prop where
  lexemes_ne_nil : ∀ r ∈ rs, r.lexemes ≠ []
  alternate : rs.IsChain fun r r' => r.isPlain ≠ r'.isPlain

/-- The runs of lexemes are as long as they can be. -/
theorem maximal_runs (ls : List Lexeme) : Maximal (runs ls) := by
  induction ls with
  | nil => exact ⟨fun r hr => absurd hr List.not_mem_nil, .nil⟩
  | cons l ls ih =>
    change Maximal (Run.cons l (runs ls))
    obtain ⟨hne, halternate⟩ := ih
    rcases hruns : runs ls with _ | ⟨r, rs⟩
    · cases l <;> exact ⟨by simp [Run.cons, Run.lexemes], by simp [Run.cons]⟩
    · rw [hruns] at hne halternate
      have hrest := List.forall_mem_cons.mp hne
      have hlater := List.isChain_cons.mp halternate
      cases l <;> cases r <;> constructor <;>
        simp_all [Run.cons, Run.lexemes, Run.isPlain, List.isChain_cons]

/-- A lexeme is a run of its own before one of the other kind. -/
theorem cons_of_ne {l : Lexeme} {rs : List Run}
    (h : ∀ r ∈ rs.head?, l.visible?.isSome ≠ r.isPlain) : Run.cons l rs = Run.cons l [] ++ rs := by
  rcases rs with _ | ⟨r, rs⟩
  · rw [List.append_nil]
  · have hkinds := h r rfl
    cases l <;> cases r <;> first | rfl | exact absurd rfl hkinds

/-- Lexemes of one kind are one run, unless a run of their kind follows. -/
theorem runs_append {r : Run} (hr : r.lexemes ≠ []) {ls : List Lexeme}
    (hfollow : ∀ r' ∈ (runs ls).head?, r.isPlain ≠ r'.isPlain) :
    runs (r.lexemes ++ ls) = r :: runs ls := by
  cases r with
  | plain t =>
    induction t with
    | nil => exact absurd rfl hr
    | cons c t ih =>
      change Run.cons (.plain c) (runs ((Run.plain t).lexemes ++ ls)) = _
      by_cases ht : t = []
      · subst ht
        exact cons_of_ne hfollow
      · rw [ih (lexemes_plain_eq_nil_iff.not.mpr ht) hfollow]
        rfl
  | escapes ss =>
    induction ss with
    | nil => exact absurd rfl hr
    | cons s ss ih =>
      change Run.cons (.sequence s) (runs ((Run.escapes ss).lexemes ++ ls)) = _
      by_cases hss : ss = []
      · subst hss
        exact cons_of_ne hfollow
      · rw [ih (lexemes_escapes_eq_nil_iff.not.mpr hss) hfollow]
        rfl

namespace Maximal
variable {rs rs' : List Run}

theorem left (h : Maximal (rs ++ rs')) : Maximal rs :=
  ⟨fun r hr => h.lexemes_ne_nil r (List.mem_append_left _ hr), h.alternate.left_of_append⟩

theorem right (h : Maximal (rs ++ rs')) : Maximal rs' :=
  ⟨fun r hr => h.lexemes_ne_nil r (List.mem_append_right _ hr), h.alternate.right_of_append⟩

/-- Runs that are as long as they can be are those of their lexemes. -/
theorem runs_eq (h : Maximal rs) : runs (rs.flatMap Run.lexemes) = rs := by
  induction rs with
  | nil => rfl
  | cons r rs ih =>
    have hrest := ih (show Maximal ([r] ++ rs) from h).right
    rw [List.flatMap_cons, runs_append (h.lexemes_ne_nil r List.mem_cons_self), hrest]
    rw [hrest]
    exact (List.isChain_cons.mp h.alternate).1

end Maximal

/-- A text that is cut off between runs has the runs before the cut. -/
theorem runs_of_append {t : Text} {rs rs' : List Run} (h : runs (lexemes t) = rs ++ rs') :
    runs (lexemes (rs.flatMap Run.text)) = rs ∧ runs (lexemes (rs'.flatMap Run.text)) = rs' := by
  have hmaximal : Maximal (rs ++ rs') := h ▸ maximal_runs _
  have hlexemes : lexemes t = rs.flatMap Run.lexemes ++ rs'.flatMap Run.lexemes := by
    rw [← List.flatMap_append, ← h, flatMap_runs]
  obtain ⟨hleft, hright⟩ := lexemes_of_append hlexemes
  rw [flatMap_text, flatMap_text, hleft, hright]
  exact ⟨hmaximal.left.runs_eq, hmaximal.right.runs_eq⟩

/-! ## Segments -/

/-- The text of segments is that of their runs. -/
theorem flatMap_segmentsFrom (active : Text) (rs : List Run) :
    (segmentsFrom active rs).flatMap Segment.text = rs.flatMap Run.text := by
  induction rs generalizing active with
  | nil => rfl
  | cons r rs ih => cases r <;> simp [segmentsFrom, ih]

/-- The first segments are those of the first runs. -/
theorem take_segmentsFrom (active : Text) (rs : List Run) (i : Nat) :
    (segmentsFrom active rs).take i = segmentsFrom active (rs.take i) := by
  induction rs generalizing active i with
  | nil => simp [segmentsFrom]
  | cons r rs ih =>
    cases i with
    | zero => rfl
    | succ i => cases r <;> simp [segmentsFrom, ih]

end Ansi

namespace Segments

theorem activeBefore_natCast (s : Segments) (i : Nat) :
    s.activeBefore i = activeBehind s.base (s.segments.take i) := by
  rw [activeBefore, upTo, if_neg (by omega), Int.toNat_natCast]

/-- Behind a segment the escape that it leaves is active, until another segment leaves one. -/
theorem activeBehind_cons (active : Text) (s : Segment) (rest : List Segment) :
    activeBehind active (s :: rest) =
      activeBehind (if s.escape then s.active else active) rest := by
  unfold activeBehind
  rw [List.reverse_cons, List.find?_append]
  cases rest.reverse.find? (·.escape) with
  | some t => rfl
  | none => cases hs : s.escape <;> simp [List.find?, hs]

end Segments

namespace Ansi

/-- **The segments behind others depend on their own runs and the active escape alone.** -/
theorem drop_segmentsFrom (active : Text) (rs : List Run) (i : Nat) :
    (segmentsFrom active rs).drop i =
      segmentsFrom (Segments.activeBehind active ((segmentsFrom active rs).take i))
        (rs.drop i) := by
  induction rs generalizing active i with
  | nil => simp [segmentsFrom]
  | cons r rs ih =>
    cases i with
    | zero => rfl
    | succ i =>
      cases r <;>
        simp only [segmentsFrom, List.drop_succ_cons, List.take_succ_cons,
          Segments.activeBehind_cons, ih, if_true, Bool.false_eq_true, if_false]

end Ansi

namespace Segments

/-- The segments of a text have its characters. -/
theorem text_split (text base : Text) : (split text base).text = text := by
  change (Ansi.segmentsFrom base _).flatMap Segment.text = text
  rw [Ansi.flatMap_segmentsFrom, Ansi.flatMap_text_runs]

end Segments

end Highlighting
