/-!
# Pieces of texts

The pieces between separators.

## Main definitions

* `Text.pieces` : the pieces between separators.
* `Text.joined` : the text of pieces with separators between them.

## Main results

* `pieces_ne_nil` : there is always a piece.
-/

namespace ServiceSpec.Text

/-- The pieces between separators.  There is one piece more than there are separators. -/
def pieces (separator : Char) : List Char → List (List Char)
  | [] => [[]]
  | c :: rest =>
    if c = separator then [] :: pieces separator rest
    else
      match pieces separator rest with
      | [] => [[c]]
      | first :: others => (c :: first) :: others

/-- Pieces with a separator between them. -/
def joined (separator : Char) : List (List Char) → List Char
  | [] => []
  | [s] => s
  | s :: rest => s ++ separator :: joined separator rest

/-- There is always a piece. -/
theorem pieces_ne_nil (separator : Char) (s : List Char) : pieces separator s ≠ [] := by
  cases s with
  | nil => simp [pieces]
  | cons c rest =>
    simp only [pieces]
    split
    · simp
    · split <;> simp

end ServiceSpec.Text
