import Highlighting.Text.Basic

/-!
# Filled lines

Words are put into lines from left to right, and a line takes words as long as they fit. There
are two ways with a word that is wider than a line: filling leaves it whole, on a line of its
own, and folding cuts it into pieces.

## Main definitions

* `Text.fill` -- words in lines, with a space between neighbours.
* `Text.fold` -- a text in lines, in which every word keeps the spaces behind it.
* `Text.pad`, `Text.center`, `Text.fit` -- a text in a line of a given width.
-/
namespace Highlighting.Text

/-! ## Filling -/

/-- Words in lines, of which the first has been begun. -/
def fillFrom (width : Nat) (line : Text) : List Text → List Text
  | [] => [line]
  | word :: rest =>
    if line.length + 1 + word.length ≤ width then fillFrom width (line ++ ' ' :: word) rest
    else line :: fillFrom width word rest

/-- Words in lines, with a space between neighbours. There is no line without a word. -/
def fill (width : Nat) : List Text → List Text
  | [] => []
  | word :: rest => fillFrom width word rest

/-! ## Folding -/

/-- A text without the spaces at its end. -/
def trimEnd (t : Text) : Text :=
  (t.reverse.dropWhile (· = ' ')).reverse

/-- The words of a text with the spaces behind them, of which the first has been begun. -/
def spacedWordsFrom (word : Text) : Text → List Text
  | [] => [word]
  | c :: rest =>
    if word.getLast? = some ' ' ∧ c ≠ ' ' then word :: spacedWordsFrom [c] rest
    else spacedWordsFrom (word ++ [c]) rest

/-- Pieces of a text that are of a width, up to the last, of which the first has been begun. -/
def piecesFrom (width : Nat) (piece : Text) : Text → List Text
  | [] => [piece]
  | c :: rest =>
    if piece.length < width then piecesFrom width (piece ++ [c]) rest
    else piece :: piecesFrom width [c] rest

/-- Words in lines, of which the first has been begun. Only a word without its spaces has to
fit. A word that fits into no line starts a line of its own, and its last piece begins the line
for the words behind it. -/
def foldFrom (width : Nat) (line : Text) : List Text → List Text
  | [] => [line]
  | word :: rest =>
    if line.length + (trimEnd word).length ≤ width then foldFrom width (line ++ word) rest
    else
      let before := if line = [] then [] else [line]
      let pieces := if width < (trimEnd word).length then piecesFrom width [] word else [word]
      before ++ pieces.dropLast ++ foldFrom width (pieces.getLastD []) rest

/-- A text in lines. -/
def fold (width : Nat) (t : Text) : List Text :=
  foldFrom width [] (spacedWordsFrom [] t)

theorem flatten_spacedWordsFrom (word t : Text) : (spacedWordsFrom word t).flatten = word ++ t := by
  induction t generalizing word with
  | nil => simp [spacedWordsFrom]
  | cons c rest ih =>
    unfold spacedWordsFrom
    split <;> simp [ih]

theorem flatten_piecesFrom (width : Nat) (piece t : Text) :
    (piecesFrom width piece t).flatten = piece ++ t := by
  induction t generalizing piece with
  | nil => simp [piecesFrom]
  | cons c rest ih =>
    unfold piecesFrom
    split <;> simp [ih]

/-- The last of some texts behind the others makes up all of them. -/
theorem flatten_dropLast_append (ts : List Text) :
    ts.dropLast.flatten ++ ts.getLastD [] = ts.flatten := by
  induction ts with
  | nil => rfl
  | cons t rest ih =>
    cases rest with
    | nil => simp
    | cons u us => simpa using ih

/-- No character is lost between lines, nor added. -/
theorem flatten_foldFrom (width : Nat) (line : Text) (words : List Text) :
    (foldFrom width line words).flatten = line ++ words.flatten := by
  induction words generalizing line with
  | nil => simp [foldFrom]
  | cons word rest ih =>
    have whole : (if line = [] then [] else [line]).flatten = line := by
      split <;> simp_all
    have cut : (if width < (trimEnd word).length then piecesFrom width [] word
        else [word]).flatten = word := by
      split <;> simp [flatten_piecesFrom]
    unfold foldFrom
    split
    · simp [ih]
    · simp only [List.flatten_append, whole, ih, List.flatten_cons, List.append_assoc]
      rw [← List.append_assoc (List.flatten _), flatten_dropLast_append, cut]

/-- The lines of a text make it up. -/
theorem flatten_fold (width : Nat) (t : Text) : (fold width t).flatten = t := by
  simp [fold, flatten_foldFrom, flatten_spacedWordsFrom]

/-! ## Lines of a width -/

/-- A row of spaces. -/
def spaces (n : Nat) : Text := List.replicate n ' '

/-- A text filled up with spaces on the right. -/
def pad (width : Nat) (t : Text) : Text :=
  t ++ spaces (width - t.length)

/-- A text in the middle of a line. If the spaces cannot be halved, the right half is larger. -/
def center (width : Nat) (t : Text) : Text :=
  pad width (spaces ((width - t.length) / 2) ++ t)

/-- A text filled up with spaces, or cut if it is too wide. An ellipsis stands for what is cut. -/
def fit (width : Nat) (t : Text) : Text :=
  if t.length ≤ width then pad width t else t.take (width - 1) ++ ['…']

theorem length_pad (width : Nat) (t : Text) : (pad width t).length = max t.length width := by
  simp [pad, spaces]
  omega

theorem length_fit {width : Nat} (h : 0 < width) (t : Text) : (fit width t).length = width := by
  unfold fit
  split
  · rw [length_pad]
    omega
  · simp
    omega

end Highlighting.Text
