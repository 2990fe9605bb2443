import CodeIndex.Json.Value

set_option autoImplicit false

/-!
# Reading JSON

A recursive-descent reader for JSON texts. Each function consumes characters from the front of the
input and returns what is left; nesting is bounded by the length of the text.

## Main definitions

* `Json.parse?` — the value that a text spells, if it is one JSON value and nothing else.
-/

namespace CodeIndex

namespace Json

namespace Reader

/-- The input after leading white space. -/
def skipBlanks (cs : List Char) : List Char :=
  cs.dropWhile fun c => c == ' ' || c == '\t' || c == '\n' || c == '\r'

/-- The value of a hexadecimal digit. -/
def hexDigit? (c : Char) : Option Nat :=
  if '0' ≤ c ∧ c ≤ '9' then some (c.toNat - '0'.toNat)
  else if 'a' ≤ c ∧ c ≤ 'f' then some (c.toNat - 'a'.toNat + 10)
  else if 'A' ≤ c ∧ c ≤ 'F' then some (c.toNat - 'A'.toNat + 10)
  else none

/-- The value of four hexadecimal digits. -/
def hex4? (a b c d : Char) : Option Nat :=
  match hexDigit? a, hexDigit? b, hexDigit? c, hexDigit? d with
  | some a, some b, some c, some d => some (a * 4096 + b * 256 + c * 16 + d)
  | _, _, _, _ => none

/-- The character that a simple escape stands for. -/
def simpleEscape? : Char → Option Char
  | '"' => some '"'
  | '\\' => some '\\'
  | '/' => some '/'
  | 'b' => some '\x08'
  | 'f' => some '\x0c'
  | 'n' => some '\n'
  | 'r' => some '\r'
  | 't' => some '\t'
  | _ => none

/-- Whether a 16-bit unit opens a surrogate pair. -/
def isHighSurrogate (n : Nat) : Bool := decide (0xD800 ≤ n) && decide (n < 0xDC00)

/-- Whether a 16-bit unit closes a surrogate pair. -/
def isLowSurrogate (n : Nat) : Bool := decide (0xDC00 ≤ n) && decide (n < 0xE000)

/-- The rest of a string after its opening quote; `read` holds the characters so far, reversed. -/
def stringBody (read : List Char) : List Char → Option (String × List Char)
  | [] => none
  | '"' :: cs => some (String.ofList read.reverse, cs)
  | '\\' :: 'u' :: a :: b :: c :: d :: '\\' :: 'u' :: e :: f :: g :: h :: cs =>
    match hex4? a b c d, hex4? e f g h with
    | some hi, some lo =>
      if isHighSurrogate hi then
        if isLowSurrogate lo then
          stringBody (Char.ofNat (0x10000 + (hi - 0xD800) * 0x400 + (lo - 0xDC00)) :: read) cs
        else none
      else if isLowSurrogate hi then none
      else stringBody (Char.ofNat hi :: read) ('\\' :: 'u' :: e :: f :: g :: h :: cs)
    | _, _ => none
  | '\\' :: 'u' :: a :: b :: c :: d :: cs =>
    match hex4? a b c d with
    | some n => if isHighSurrogate n || isLowSurrogate n then none
                else stringBody (Char.ofNat n :: read) cs
    | none => none
  | '\\' :: c :: cs =>
    match simpleEscape? c with
    | some c => stringBody (c :: read) cs
    | none => none
  | c :: cs => if c.toNat < 0x20 then none else stringBody (c :: read) cs

/-- The number that decimal digits spell. -/
def digitsValue (ds : List Char) : Nat :=
  ds.foldl (fun n c => n * 10 + (c.toNat - '0'.toNat)) 0

/-- Split off leading decimal digits. -/
def spanDigits (cs : List Char) : List Char × List Char :=
  (cs.takeWhile Char.isDigit, cs.dropWhile Char.isDigit)

/-- The digits after a point, if there is one; a point needs a digit. -/
def fraction? : List Char → Option (List Char × List Char)
  | '.' :: cs =>
    let (ds, rest) := spanDigits cs
    if ds.isEmpty then none else some (ds, rest)
  | cs => some ([], cs)

/-- The exponent, if there is one; it needs a digit. -/
def exponent? : List Char → Option (Option Int × List Char)
  | c :: cs =>
    if c == 'e' || c == 'E' then
      let (negative, cs) :=
        match cs with
        | '-' :: cs => (true, cs)
        | '+' :: cs => (false, cs)
        | cs => (false, cs)
      let (ds, rest) := spanDigits cs
      if ds.isEmpty then none
      else
        let n : Int := digitsValue ds
        some (some (if negative then -n else n), rest)
    else some (none, c :: cs)
  | [] => some (none, [])

/-- A number. -/
def number? (cs : List Char) : Option (Number × List Char) :=
  let (negative, cs) :=
    match cs with
    | '-' :: cs => (true, cs)
    | cs => (false, cs)
  let (whole, cs) := spanDigits cs
  if whole.isEmpty || (decide (1 < whole.length) && whole.head? == some '0') then none
  else
    match fraction? cs with
    | none => none
    | some (frac, cs) =>
      match exponent? cs with
      | none => none
      | some (exp, cs) =>
        some (⟨negative, digitsValue (whole ++ frac), exp.getD 0 - frac.length,
          frac.isEmpty && exp.isNone⟩, cs)

/-- Drop an expected word from the front. -/
def word? (w : List Char) (value : Json) (cs : List Char) : Option (Json × List Char) :=
  if w.isPrefixOf cs then some (value, cs.drop w.length) else none

mutual

/-- A value after white space. -/
def value? : (depth : Nat) → List Char → Option (Json × List Char)
  | 0, _ => none
  | n + 1, cs =>
    match skipBlanks cs with
    | '"' :: cs => (stringBody [] cs).map fun (s, rest) => (.string s, rest)
    | '[' :: cs =>
      match skipBlanks cs with
      | ']' :: cs => some (.array [], cs)
      | cs => elements? n [] cs
    | '\x7b' :: cs =>
      match skipBlanks cs with
      | '\x7d' :: cs => some (.object [], cs)
      | cs => members? n [] cs
    | 't' :: cs => word? "rue".toList (.bool true) cs
    | 'f' :: cs => word? "alse".toList (.bool false) cs
    | 'n' :: cs => word? "ull".toList .null cs
    | cs => (number? cs).map fun (x, rest) => (.number x, rest)

/-- The elements of an array from the next one on; `read` holds those before it, reversed. -/
def elements? : (depth : Nat) → List Json → List Char → Option (Json × List Char)
  | 0, _, _ => none
  | n + 1, read, cs =>
    match value? n cs with
    | none => none
    | some (x, cs) =>
      match skipBlanks cs with
      | ',' :: cs => elements? n (x :: read) cs
      | ']' :: cs => some (.array (x :: read).reverse, cs)
      | _ => none

/-- The members of an object from the next one on; `read` holds those before it. -/
def members? : (depth : Nat) → List (String × Json) → List Char → Option (Json × List Char)
  | 0, _, _ => none
  | n + 1, read, cs =>
    match skipBlanks cs with
    | '"' :: cs =>
      match stringBody [] cs with
      | none => none
      | some (key, cs) =>
        match skipBlanks cs with
        | ':' :: cs =>
          match value? n cs with
          | none => none
          | some (x, cs) =>
            match skipBlanks cs with
            | ',' :: cs => members? n (putMember key x read) cs
            | '\x7d' :: cs => some (.object (putMember key x read), cs)
            | _ => none
        | _ => none
    | _ => none

end

end Reader

/-- The value that a text spells, if it is one JSON value surrounded by nothing but white space. -/
def parse? (s : String) : Option Json :=
  let cs := s.toList
  match Reader.value? (cs.length + 1) cs with
  | some (value, rest) => if (Reader.skipBlanks rest).isEmpty then some value else none
  | none => none

end Json

end CodeIndex
