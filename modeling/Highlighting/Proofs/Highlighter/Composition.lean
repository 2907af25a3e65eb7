import Highlighting.Proofs.Ansi.Runs
import Highlighting.Proofs.Highlighter.Resolution

/-!
# Highlighting from segment to segment

A text that is cut between two of its segments is split as its two parts are, if the second one
starts with the escape that is active behind the first. For the segments of a text are those of
its runs, which are as long as they can be, and of all that came before, a segment depends on the
active escape alone. So the colored text is put together from the colored parts.

## Main definitions

* `Segments.textBefore`, `Segments.textFrom` -- a text cut before a segment.
-/
namespace Highlighting

namespace Segments

/-- The text of the segments before an index. -/
def textBefore (s : Segments) (i : Nat) : Text :=
  (s.segments.take i).flatMap Segment.text

/-- The text of the segments from an index on. -/
def textFrom (s : Segments) (i : Nat) : Text :=
  (s.segments.drop i).flatMap Segment.text

/-- **The parts of a text that is cut between segments** have the segments of the text, if the
second part starts with the escape that is active before the cut. -/
theorem split_parts (text base : Text) (i : Nat) :
    (split ((split text base).textBefore i) base).segments = (split text base).segments.take i ∧
      (split ((split text base).textFrom i) ((split text base).activeBefore i)).segments =
        (split text base).segments.drop i := by
  obtain ⟨hbefore, hafter⟩ :=
    Ansi.runs_of_append (List.take_append_drop i (Ansi.runs (Ansi.lexemes text))).symm
  have htake := Ansi.take_segmentsFrom base (Ansi.runs (Ansi.lexemes text)) i
  have hdrop := Ansi.drop_segmentsFrom base (Ansi.runs (Ansi.lexemes text)) i
  have hactive : (split text base).activeBefore i = activeBehind base
      ((Ansi.segmentsFrom base (Ansi.runs (Ansi.lexemes text))).take i) := activeBefore_natCast _ i
  constructor
  · change Ansi.segmentsFrom base _ = List.take i (Ansi.segmentsFrom base _)
    rw [textBefore, split, htake, Ansi.flatMap_segmentsFrom, hbefore]
  · change Ansi.segmentsFrom _ _ = List.drop i (Ansi.segmentsFrom base _)
    rw [hactive, textFrom, split, hdrop, Ansi.flatMap_segmentsFrom, hafter]

end Segments

namespace Highlighter

/-- Segments are colored one by one. -/
theorem colorSegments_append (g : Grammar) (before after : List Segment) :
    colorSegments g (before ++ after) = do
      let first ← colorSegments g before
      let second ← colorSegments g after
      return first ++ second := by
  unfold colorSegments
  rw [List.mapM_append]
  cases before.mapM (colorSegment g) with
  | error e => rfl
  | ok first =>
    cases after.mapM (colorSegment g) with
    | error e => rfl
    | ok second => exact congrArg Except.ok List.flatten_append

/-- **Highlighting is compositional at the boundaries of segments.** A text that is cut there has
the segments of its two parts, where the second starts with the escape that is active before the
cut, and it is colored by coloring the first part and then, unless that fails, the second. -/
theorem colorize_compositional (h : Highlighter) (text : Text) (given : Option Text) (i : Nat) :
    let base := given.getD h.base
    let segments := Segments.split text base
    let before := segments.textBefore i
    let after := segments.textFrom i
    let active := segments.activeBefore i
    before ++ after = text ∧
      (Segments.split before base).segments = segments.segments.take i ∧
      (Segments.split after active).segments = segments.segments.drop i ∧
      (Segments.split before base).segments ++ (Segments.split after active).segments =
        segments.segments ∧
      (h.colorize text given).result = do
        let first ← (h.colorize before given).result
        let second ← (h.colorize after (some active)).result
        return first ++ second := by
  intro base segments before after active
  obtain ⟨hbefore, hafter⟩ := Segments.split_parts text base i
  have hsegments : (Segments.split before base).segments ++ (Segments.split after active).segments =
      segments.segments := by
    rw [hbefore, hafter, List.take_append_drop]
  refine ⟨?_, hbefore, hafter, hsegments, ?_⟩
  · change (segments.segments.take i).flatMap Segment.text ++
      (segments.segments.drop i).flatMap Segment.text = text
    rw [← List.flatMap_append, List.take_append_drop]
    exact Segments.text_split text base
  · rw [result_colorize, result_colorize, result_colorize, ← colorSegments_append]
    exact congrArg (colorSegments h.grammar) hsegments.symm

end Highlighter

end Highlighting
