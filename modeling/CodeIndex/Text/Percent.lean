import CodeIndex.Text.Utf8

set_option autoImplicit false

/-!
# Percent escapes

Bytes that may not stand in an identifier are written as a percent sign and two hexadecimal digits.

## Main definitions

* `Text.percentEncode` — escape the bytes that are not kept.
* `Text.percentDecode` — the bytes of a text with its escapes resolved; a percent sign that opens
  no escape stands for itself.
-/

namespace CodeIndex

namespace Text

/-- The upper-case hexadecimal digit of a number below sixteen. -/
def upperHex (n : Nat) : Char :=
  if n < 10 then Char.ofNat ('0'.toNat + n) else Char.ofNat ('A'.toNat + (n - 10))

/-- The escape of one byte. -/
def percentByte (b : UInt8) : List Char := ['%', upperHex (b.toNat / 16), upperHex (b.toNat % 16)]

/-- Escape the bytes of characters that `keep` refuses. Whatever is not ASCII, and every control
character, is always escaped. -/
def percentEncode (keep : Char → Bool) (bs : List UInt8) : List Char :=
  bs.flatMap fun b =>
    if decide (0x1F < b) && decide (b < 0x7F) && keep (Char.ofNat b.toNat) then
      [Char.ofNat b.toNat]
    else percentByte b

/-- The value of a hexadecimal digit. -/
def hexValue? (c : Char) : Option Nat :=
  if '0' ≤ c ∧ c ≤ '9' then some (c.toNat - '0'.toNat)
  else if 'a' ≤ c ∧ c ≤ 'f' then some (c.toNat - 'a'.toNat + 10)
  else if 'A' ≤ c ∧ c ≤ 'F' then some (c.toNat - 'A'.toNat + 10)
  else none

/-- The bytes of a text with its escapes resolved. -/
def percentDecode : List Char → List UInt8
  | [] => []
  | '%' :: a :: b :: cs =>
    match hexValue? a, hexValue? b with
    | some m, some n => UInt8.ofNat (m * 16 + n) :: percentDecode cs
    | _, _ => 0x25 :: percentDecode (a :: b :: cs)
  | c :: cs => encodeChar c ++ percentDecode cs

end Text

end CodeIndex
