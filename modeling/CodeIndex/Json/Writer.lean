import CodeIndex.Json.Value

set_option autoImplicit false

/-!
# Writing JSON

The compact text of a JSON value: no white space, members in order, and in strings only what the
format demands escaped.

## Main definitions

* `Json.render` — the text of a value.
-/

namespace CodeIndex

namespace Json

/-- Four lower-case hexadecimal digits. -/
def hex4 (n : Nat) : List Char :=
  let ds := Nat.toDigits 16 n
  List.replicate (4 - ds.length) '0' ++ ds

/-- The written form of one character of a string. Line separators beyond ASCII are escaped, so
that a value always stays on one line. -/
def escape (c : Char) : List Char :=
  match c with
  | '"' => ['\\', '"']
  | '\\' => ['\\', '\\']
  | '\n' => ['\\', 'n']
  | '\r' => ['\\', 'r']
  | '\t' => ['\\', 't']
  | c =>
    if c.toNat < 0x20 || c == '\u0085' || c == '\u2028' || c == '\u2029' then
      '\\' :: 'u' :: hex4 c.toNat
    else [c]

/-- A string between quotes. -/
def quote (s : String) : String :=
  "\"" ++ String.ofList (s.toList.flatMap escape) ++ "\""

/-- A number as it was written, with its scale as an exponent. -/
def Number.render (n : Number) : String :=
  let sign := if n.negative then "-" else ""
  let digits := sign ++ toString n.digits
  if n.scale = 0 then digits else digits ++ "e" ++ toString n.scale

mutual

/-- The text of a value. -/
def render : Json → String
  | .null => "null"
  | .bool b => if b then "true" else "false"
  | .number n => n.render
  | .string s => quote s
  | .array xs => "[" ++ ",".intercalate (renderAll xs) ++ "]"
  | .object ms => "\x7b" ++ ",".intercalate (renderMembers ms) ++ "\x7d"

/-- The texts of several values. -/
def renderAll : List Json → List String
  | [] => []
  | x :: xs => render x :: renderAll xs

/-- The texts of members, each a quoted key and a value. -/
def renderMembers : List (String × Json) → List String
  | [] => []
  | (k, x) :: ms => (quote k ++ ":" ++ render x) :: renderMembers ms

end

end Json

end CodeIndex
