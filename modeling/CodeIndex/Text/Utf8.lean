set_option autoImplicit false

/-!
# UTF-8

Texts as bytes and back. Reading accepts exactly the well-formed byte sequences; a lenient reading
replaces what it cannot read.

## Main definitions

* `Text.encodeUtf8` — the bytes of a text.
* `Text.decodeUtf8?` — the text that bytes spell, if they are well-formed.
* `Text.decodeUtf8Lossy` — the same with a replacement character for every ill-formed piece.
-/

namespace CodeIndex

namespace Text

/-- The bytes of one character. -/
def encodeChar (c : Char) : List UInt8 :=
  let n := c.toNat
  let tail (k : Nat) : UInt8 := UInt8.ofNat (0x80 + n / Nat.pow 64 k % 64)
  if n < 0x80 then [UInt8.ofNat n]
  else if n < 0x800 then [UInt8.ofNat (0xC0 + n / 64), tail 0]
  else if n < 0x10000 then [UInt8.ofNat (0xE0 + n / 0x1000), tail 1, tail 0]
  else [UInt8.ofNat (0xF0 + n / 0x40000), tail 2, tail 1, tail 0]

/-- The bytes of a text. -/
def encodeUtf8 (cs : List Char) : List UInt8 := cs.flatMap encodeChar

/-- Whether a byte continues a character. -/
def isTail (b : UInt8) : Bool := decide (0x80 ≤ b) && decide (b ≤ 0xBF)

/-- Whether a byte may be the second one of a character that begins with `lead`. -/
def isSecond (lead b : UInt8) : Bool :=
  if lead = 0xE0 then decide (0xA0 ≤ b) && decide (b ≤ 0xBF)
  else if lead = 0xED then decide (0x80 ≤ b) && decide (b ≤ 0x9F)
  else if lead = 0xF0 then decide (0x90 ≤ b) && decide (b ≤ 0xBF)
  else if lead = 0xF4 then decide (0x80 ≤ b) && decide (b ≤ 0x8F)
  else isTail b

/-- The number of bytes of a character that begins with `lead`, zero if no character does. -/
def charLength (lead : UInt8) : Nat :=
  if lead < 0x80 then 1
  else if lead < 0xC2 then 0
  else if lead < 0xE0 then 2
  else if lead < 0xF0 then 3
  else if lead < 0xF5 then 4
  else 0

/-- The low six bits of a continuing byte. -/
def payload (b : UInt8) : Nat := b.toNat % 64

/-- Read bytes character by character, `none` standing for each ill-formed piece: the longest
beginning of a character, or a single byte that begins none. -/
def readUtf8 : List UInt8 → List (Option Char)
  | [] => []
  | a :: bs =>
    match charLength a, bs with
    | 1, bs => some (Char.ofNat a.toNat) :: readUtf8 bs
    | 2, b :: bs' =>
      if isSecond a b then some (Char.ofNat (a.toNat % 32 * 64 + payload b)) :: readUtf8 bs'
      else none :: readUtf8 (b :: bs')
    | 3, [b] => none :: (if isSecond a b then [] else readUtf8 [b])
    | 3, b :: c :: bs' =>
      if isSecond a b then
        if isTail c then
          some (Char.ofNat (a.toNat % 16 * 0x1000 + payload b * 64 + payload c)) :: readUtf8 bs'
        else none :: readUtf8 (c :: bs')
      else none :: readUtf8 (b :: c :: bs')
    | 4, [b] => none :: (if isSecond a b then [] else readUtf8 [b])
    | 4, [b, c] =>
      if isSecond a b then none :: (if isTail c then [] else readUtf8 [c])
      else none :: readUtf8 [b, c]
    | 4, b :: c :: d :: bs' =>
      if isSecond a b then
        if isTail c then
          if isTail d then
            some (Char.ofNat
              (a.toNat % 8 * 0x40000 + payload b * 0x1000 + payload c * 64 + payload d)) ::
                readUtf8 bs'
          else none :: readUtf8 (d :: bs')
        else none :: readUtf8 (c :: d :: bs')
      else none :: readUtf8 (b :: c :: d :: bs')
    | _, bs => none :: readUtf8 bs

/-- The text that bytes spell, if they are well-formed. -/
def decodeUtf8? (bs : List UInt8) : Option (List Char) := (readUtf8 bs).mapM id

/-- The text that bytes spell, with a replacement character for every ill-formed piece. -/
def decodeUtf8Lossy (bs : List UInt8) : List Char := (readUtf8 bs).map (·.getD '\ufffd')

end Text

end CodeIndex
