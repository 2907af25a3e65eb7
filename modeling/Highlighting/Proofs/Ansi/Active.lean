import Highlighting.Proofs.Ansi.Rendition
import Highlighting.Proofs.Ansi.Splitting

/-!
# The active escape

The escape that is active before a segment can be told in two ways: from what the segments keep, or
from the sequences in the text before it. An escape segment that selects no rendition leaves what
is active, so what counts is the nearest one that does, however many others come between.

## Main definitions

* `Ansi.sequences` -- the control sequences of a text.
* `Segment.selected?` -- what a segment selects.
* `Segments.lastSelected?` -- what the last segment that selects a rendition selects.
-/
namespace Highlighting

namespace Ansi

/-- The text of a lexeme that is a sequence. -/
def Lexeme.sequence? : Lexeme → Option Text
  | sequence s => some s
  | plain _ => none

/-- The control sequences of a text. -/
def sequences (t : Text) : List Text :=
  (lexemes t).filterMap Lexeme.sequence?

theorem sequences_flatten {ss : List Text} (h : ∀ s ∈ ss, IsSequence s) :
    sequences ss.flatten = ss := by
  have hread := Whole.lexemes_flatten_append h []
  rw [List.append_nil, lexemes_nil, List.append_nil] at hread
  rw [sequences, hread, List.filterMap_map]
  exact List.filterMap_some

end Ansi

/-- What a segment selects: those of its sequences that select the rendition, if it is made of
sequences and there are any among them. -/
def Segment.selected? (s : Segment) : Option Text :=
  let selecting := (Ansi.sequences s.text).filter Ansi.isRendition
  if s.escape && !selecting.isEmpty then some selecting.flatten else none

namespace Segments

/-- What the last segment that selects a rendition selects. -/
def lastSelected? (segments : List Segment) : Option Text :=
  segments.reverse.findSome? Segment.selected?

section Last
variable (base : Text) (segments : List Segment) (s : Segment)

theorem lastSelected?_cons :
    lastSelected? (s :: segments) = (lastSelected? segments).or s.selected? := by
  simp only [lastSelected?, List.reverse_cons, List.findSome?_append, List.findSome?_cons]
  cases s.selected? <;> rfl

theorem lastSelected?_concat :
    lastSelected? (segments ++ [s]) = s.selected?.or (lastSelected? segments) := by
  simp only [lastSelected?, List.reverse_append, List.reverse_singleton, List.singleton_append,
    List.findSome?_cons]
  cases s.selected? <;> rfl

theorem activeBehind_concat : activeBehind base (segments ++ [s]) =
    if s.escape then s.active else activeBehind base segments := by
  simp only [activeBehind, List.reverse_append, List.reverse_singleton, List.singleton_append,
    List.find?_cons]
  cases s.escape <;> rfl

end Last

end Segments

namespace Ansi

/-- What is active behind a run of sequences is what they select, if they select anything. -/
theorem activeAfter_eq {ss : List Text} (h : ∀ s ∈ ss, IsSequence s) (active kept : Text) :
    activeAfter active ss = (Segment.selected? ⟨ss.flatten, true, kept⟩).getD active := by
  simp only [activeAfter, Segment.selected?, sequences_flatten h, Bool.true_and]
  by_cases hnil : renditions ss = []
  · rw [if_pos hnil, renditions_eq_nil_iff.mp hnil]
    rfl
  · rw [if_neg hnil, if_pos (by simpa using renditions_eq_nil_iff.not.mp hnil)]
    rfl

/-- **The escape that is active behind segments** is what the last of them selects that selects
anything. -/
theorem activeBehind_segmentsFrom {rs : List Run}
    (h : ∀ ss, .escapes ss ∈ rs → ∀ s ∈ ss, IsSequence s) (active : Text) :
    Segments.activeBehind active (segmentsFrom active rs) =
      (Segments.lastSelected? (segmentsFrom active rs)).getD active := by
  induction rs generalizing active with
  | nil => rfl
  | cons r rs ih =>
    have ih := ih fun ss hss => h ss (List.mem_cons_of_mem _ hss)
    cases r with
    | plain t =>
      rw [segmentsFrom, Segments.activeBehind_cons, if_neg Bool.false_ne_true, ih,
        Segments.lastSelected?_cons]
      exact congrArg (Option.getD · active) Option.or_none.symm
    | escapes ss =>
      have hss := activeAfter_eq (h ss List.mem_cons_self) active (activeAfter active ss)
      rw [segmentsFrom, Segments.activeBehind_cons, if_pos rfl, ih, Segments.lastSelected?_cons,
        Option.getD_or, ← hss]

/-- Plain text that comes first keeps the escape that is active before it. -/
theorem active_eq_of_head? {active : Text} {rs : List Run} {s : Segment}
    (h : (segmentsFrom active rs).head? = some s) (hs : s.escape = false) : s.active = active := by
  rcases rs with _ | ⟨_ | _, _⟩ <;> cases h
  · rfl
  · cases hs

end Ansi

namespace Segments

section Index
variable {text base : Text} {i : Nat} {s : Segment}

/-- The escape that is active before plain text is the one that it keeps. -/
theorem active_eq_of_plain (h : (split text base).segments[i]? = some s) (hs : s.escape = false) :
    s.active = (split text base).activeBefore i := by
  have hdrop := Ansi.drop_segmentsFrom base (Ansi.runs (Ansi.lexemes text)) i
  change (split text base).segments.drop i = _ at hdrop
  rw [← List.head?_drop, hdrop] at h
  rw [activeBefore_natCast]
  exact Ansi.active_eq_of_head? h hs

theorem take_succ_of_getElem? {segments : List Segment} (h : segments[i]? = some s) :
    segments.take (i + 1) = segments.take i ++ [s] := by
  rw [List.take_add_one, h]
  rfl

/-- Behind a segment is active what it keeps, if it is made of sequences, and otherwise what is
active before it. -/
theorem activeBefore_succ {segments : Segments} (h : segments.segments[i]? = some s) :
    segments.activeBefore (i + 1) = if s.escape then s.active else segments.activeBefore i := by
  rw [activeBefore_natCast, ← activeBehind_concat, ← take_succ_of_getElem? h]
  exact activeBefore_natCast segments (i + 1)

/-- What the last segment before an index selects that selects anything is active before it. -/
theorem activeBefore_split (text base : Text) (i : Nat) : (split text base).activeBefore i =
    (lastSelected? ((split text base).segments.take i)).getD base := by
  rw [activeBefore_natCast]
  change activeBehind base (List.take i (Ansi.segmentsFrom base _)) = _
  rw [split, Ansi.take_segmentsFrom]
  refine Ansi.activeBehind_segmentsFrom (fun ss hss => ?_) base
  exact Ansi.isSequence_of_run (List.mem_of_mem_take hss)

/-- A segment that selects nothing leaves what is active. -/
theorem activeBefore_succ_eq (h : (split text base).segments[i]? = some s)
    (hs : s.selected? = none) :
    (split text base).activeBefore (i + 1) = (split text base).activeBefore i := by
  have := activeBefore_split text base (i + 1)
  rw [take_succ_of_getElem? h, lastSelected?_concat, hs, Option.none_or,
    ← activeBefore_split] at this
  exact this

end Index

/-- **The active escape is told in two ways.** Walking back from a segment, or from the end, it is
what the nearest escape segment selects that selects a rendition, and the base if there is none.
That is what one pass over the text has kept: plain text keeps the escape that is active before it,
and an escape segment the one behind it. Sequences that select no rendition never change it. -/
theorem active_split (text base : Text) :
    Splitting.ofText text base = .ok (split text base) ∧
      (∀ i : Nat, (split text base).activeBefore i =
        (lastSelected? ((split text base).segments.take i)).getD base) ∧
      ∀ (i : Nat) (s : Segment), (split text base).segments[i]? = some s →
        (s.escape = false → s.active = (split text base).activeBefore i) ∧
        (s.escape = true → s.active = (split text base).activeBefore (i + 1)) ∧
        (s.selected? = none →
          (split text base).activeBefore (i + 1) = (split text base).activeBefore i) := by
  refine ⟨Splitting.ofText_eq text base, activeBefore_split text base, fun i s hs => ?_⟩
  refine ⟨active_eq_of_plain hs, fun hescape => ?_, activeBefore_succ_eq hs⟩
  rw [activeBefore_succ hs, if_pos hescape]

/-- Sequences that erase, for one, leave the style that was selected before them. -/
theorem active_split_erasing : ∃ (segments : Segments) (s s' : Segment),
    segments = split "\x1b[1m\x1b[2Ka\x1b[K\x1b[Jb".toList [] ∧
      segments.segments[1]? = some s ∧ s.text = "a".toList ∧ s.escape = false ∧
      s.active = segments.activeBefore 1 ∧
      segments.segments[2]? = some s' ∧ s'.text = "\x1b[K\x1b[J".toList ∧ s'.escape = true ∧
      s'.selected? = none ∧ s'.active = segments.activeBefore 3 ∧
      segments.activeBefore 3 = segments.activeBefore 2 ∧
      segments.activeBefore 2 = "\x1b[1m".toList := by
  have hpass := (active_split "\x1b[1m\x1b[2Ka\x1b[K\x1b[Jb".toList []).2.2
  let s : Segment := ⟨"a".toList, false, "\x1b[1m".toList⟩
  let s' : Segment := ⟨"\x1b[K\x1b[J".toList, true, "\x1b[1m".toList⟩
  have hs := hpass 1 s (by decide)
  have hs' := hpass 2 s' (by decide)
  exact ⟨_, s, s', rfl, by decide, rfl, rfl, hs.1 rfl, by decide, rfl, rfl, by decide,
    hs'.2.1 rfl, hs'.2.2 (by decide), by decide⟩

end Segments

end Highlighting
