import CodeIndex.Text.Category

set_option autoImplicit false

/-!
# Quoted text

A text between double quotes in which quotes, backslashes, control characters and everything that
would not show are escaped.

## Main definitions

* `Text.quoted` — the quoted form of a text.
-/

namespace CodeIndex

namespace Text

/-- The lower-case hexadecimal digits of a number. -/
def hexDigits (n : Nat) : List Char := Nat.toDigits 16 n

/-- The escaped form of one character. Marks that would combine with the character before them are
escaped as well. -/
def escaped (c : Char) : List Char :=
  match c with
  | '\x00' => ['\\', '0']
  | '\t' => ['\\', 't']
  | '\r' => ['\\', 'r']
  | '\n' => ['\\', 'n']
  | '"' => ['\\', '"']
  | '\\' => ['\\', '\\']
  | c =>
    if isExtending c || !isPrintable c then ['\\', 'u', '{'] ++ hexDigits c.toNat ++ ['}']
    else [c]

/-- The quoted form of a text. -/
def quoted (s : String) : String :=
  String.ofList ('"' :: (s.toList.flatMap escaped ++ ['"']))

end Text

end CodeIndex
