/-!
# Texts

A text is a list of characters. Offsets, positions and lengths count characters.

## Main definitions

* `Text` -- a text.
* `Text.slice` -- the part of a text between two positions.
* `Text.hex` -- a number in hexadecimal with a least number of digits.
-/
namespace Highlighting

/-- A text, as the list of its characters. -/
abbrev Text := List Char

namespace Text

/-- The characters from position `first` up to position `last`, which is left out. -/
def slice (t : Text) (first last : Nat) : Text :=
  (t.drop first).take (last - first)

@[simp] theorem slice_self (t : Text) (i : Nat) : t.slice i i = [] := by
  simp [slice]

@[simp] theorem slice_zero_length (t : Text) : t.slice 0 t.length = t := by
  simp [slice]

theorem length_slice {t : Text} {i j : Nat} (hj : j ≤ t.length) :
    (t.slice i j).length = j - i := by
  simp [slice]
  omega

theorem slice_append_slice {t : Text} {i j k : Nat} (hij : i ≤ j) (hjk : j ≤ k) :
    t.slice i j ++ t.slice j k = t.slice i k := by
  have h : k - i = (j - i) + (k - j) := by omega
  rw [slice, slice, slice, h, List.take_add, List.drop_drop]
  congr 4
  omega

/-- The part of a text from a position on. -/
theorem slice_length_eq_drop (t : Text) (i : Nat) : t.slice i t.length = t.drop i := by
  rw [slice, List.take_of_length_le]
  simp

/-- The lower-case digits of a number in hexadecimal. -/
def hexDigits (n : Nat) : Text :=
  Nat.toDigits 16 n

/-- A number in hexadecimal, filled up with zeros to at least `width` digits. -/
def hex (width n : Nat) : Text :=
  let digits := hexDigits n
  List.replicate (width - digits.length) '0' ++ digits

/-- Join texts with a separator between neighbours. -/
def joinWith (separator : Text) : List Text → Text
  | [] => []
  | [t] => t
  | t :: rest => t ++ separator ++ joinWith separator rest

end Text

end Highlighting
