set_option autoImplicit false

/-!
# Pieces of a text

A text, as characters or as bytes, divided at every occurrence of a separator.

## Main definitions

* `Text.pieces` — the pieces between separators; there is always at least one.
-/

namespace CodeIndex

namespace Text

/-- Divide a text at every occurrence of a separator; there is always at least one piece. -/
def pieces {α : Type} [DecidableEq α] (separator : α) : List α → List (List α)
  | [] => [[]]
  | c :: cs =>
    if c = separator then [] :: pieces separator cs
    else
      match pieces separator cs with
      | [] => [[c]]
      | piece :: rest => (c :: piece) :: rest

end Text

end CodeIndex
