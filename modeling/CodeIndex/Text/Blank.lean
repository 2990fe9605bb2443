import CodeIndex.Text.Runs

set_option autoImplicit false

/-!
# White space

The characters that count as blank, and texts without blanks at their ends.

## Main definitions

* `Text.isBlank` — the white-space property of characters.
* `Text.trim` — a text without leading and trailing blanks.
-/

namespace CodeIndex

namespace Text

/-- White space. -/
def blanks : Runs :=
  [(0x9, 0xD, 1), (0x20, 0x20, 1), (0x85, 0x85, 1), (0xA0, 0xA0, 1), (0x1680, 0x1680, 1),
   (0x2000, 0x200A, 1), (0x2028, 0x2029, 1), (0x202F, 0x202F, 1), (0x205F, 0x205F, 1),
   (0x3000, 0x3000, 1)]

/-- Whether a character is white space. -/
def isBlank (c : Char) : Bool := blanks.has c

/-- The characters of a text without leading blanks. -/
def trimLeft (cs : List Char) : List Char := cs.dropWhile isBlank

/-- The characters of a text without trailing blanks. -/
def trimRight (cs : List Char) : List Char := (cs.reverse.dropWhile isBlank).reverse

/-- A text without leading and trailing blanks. -/
def trim (s : String) : String := String.ofList (trimRight (trimLeft s.toList))

end Text

end CodeIndex
