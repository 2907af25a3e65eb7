import Highlighting.Text.Basic

/-!
# Newlines

Texts that come from outside may end their lines with a carriage return, a newline, or both.
Inside, every line ends with a newline.

## Main definitions

* `Text.unifyNewlines` -- a text with a newline at the end of every line.
* `Text.lines` -- the lines of a text.
-/
namespace Highlighting.Text

/-- A text with a newline in place of every carriage return, and of every carriage return with
the newline behind it. -/
def unifyNewlines : Text → Text
  | [] => []
  | '\r' :: '\n' :: t => '\n' :: unifyNewlines t
  | c :: t => (if c = '\r' then '\n' else c) :: unifyNewlines t

@[simp] theorem unifyNewlines_nil : unifyNewlines [] = [] := rfl

theorem return_not_mem_unifyNewlines (t : Text) : '\r' ∉ unifyNewlines t := by
  fun_induction unifyNewlines t with
  | case1 => simp
  | case2 t ih => simpa using ih
  | case3 c t _ ih =>
    by_cases h : c = '\r'
    · simpa [h] using ih
    · simpa [h, eq_comm] using ih

/-- The lines of a text, which stand between newlines. There is always at least one. -/
def lines (t : Text) : List Text :=
  t.splitOn '\n'

end Highlighting.Text
