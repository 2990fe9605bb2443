import CodeIndex.Position
import CodeIndex.Text.Pieces

set_option autoImplicit false

/-!
# Byte offsets and points of a source text

A parser works in byte offsets, the index in lines and UTF-16 columns. This module converts
between the two and cuts out the text under a span. A text is read as its lines, separated by line
feeds; there is always at least one line.

## Main definitions

* `Source.lines` — the lines of a text.
* `Source.pointAt` — the point of a byte offset; an offset inside a character counts as the end of
  that character, and one past the end as the end of the text.
* `Source.offset?` — the byte offset of a point, if its line exists.
* `Source.spanAt` — the span of a byte range.
* `Source.slice?` — the text under a span, if both of its lines exist.
-/

namespace CodeIndex

namespace Source

/-- The number of bytes that a text takes in UTF-8. -/
def byteSize : List Char → Nat
  | [] => 0
  | c :: cs => c.utf8Size + byteSize cs

/-- The number of 16-bit units that a character takes in UTF-16. -/
def units (c : Char) : UInt32 := if c.val ≤ 0xFFFF then 1 else 2

/-- The lines of a text without their line feeds; the empty text has one empty line. -/
def lines (source : List Char) : List (List Char) := Text.pieces '\n' source

/-- The column of the first character boundary at or after `offset` bytes into a line. -/
def columnAt (offset : Nat) : List Char → UInt32
  | [] => 0
  | c :: cs => if offset = 0 then 0 else units c + columnAt (offset - c.utf8Size) cs

/-- The point `offset` bytes into the lines that begin with number `line`. -/
def locate (line offset : Nat) : List (List Char) → Point
  | [] => ⟨1, 0⟩
  | l :: ls =>
    if offset ≤ byteSize l then ⟨UInt32.ofNat line, columnAt offset l⟩
    else locate (line + 1) (offset - (byteSize l + 1)) ls

/-- The point of a byte offset; offsets past the end count as the end. -/
def pointAt (source : List Char) (offset : Nat) : Point :=
  locate 1 (min offset (byteSize source)) (lines source)

/-- The span of a byte range. -/
def spanAt (source : List Char) (start stop : Nat) : Span :=
  ⟨pointAt source start, pointAt source stop⟩

/-- The bytes of a line before the first character boundary at or after `column`, where `seen` is
the column at which the line begins. -/
def bytesBefore (column seen : UInt32) : List Char → Nat
  | [] => 0
  | c :: cs => if column ≤ seen then 0 else c.utf8Size + bytesBefore column (seen + units c) cs

/-- The byte offset of a column on the line that `skipped` lines precede, if there is one. -/
def seek? (column : UInt32) : (skipped : Nat) → List (List Char) → Option Nat
  | _, [] => none
  | 0, l :: _ => some (bytesBefore column 0 l)
  | n + 1, l :: ls => (seek? column n ls).map (byteSize l + 1 + ·)

/-- The byte offset of a point, or nothing when its line does not exist. -/
def offset? (source : List Char) (p : Point) : Option Nat :=
  if p.line = 0 then none else seek? p.column (p.line.toNat - 1) (lines source)

/-- Leave out the first `n` bytes, if a character ends there. -/
def dropBytes? : (n : Nat) → List Char → Option (List Char)
  | 0, cs => some cs
  | _ + 1, [] => none
  | n + 1, c :: cs => if c.utf8Size ≤ n + 1 then dropBytes? (n + 1 - c.utf8Size) cs else none

/-- Keep the first `n` bytes, if a character ends there. -/
def takeBytes? : (n : Nat) → List Char → Option (List Char)
  | 0, _ => some []
  | _ + 1, [] => none
  | n + 1, c :: cs =>
    if c.utf8Size ≤ n + 1 then (takeBytes? (n + 1 - c.utf8Size) cs).map (c :: ·) else none

/-- The text between two byte offsets, if both are character boundaries of the text. -/
def between? (source : List Char) (start stop : Nat) : Option (List Char) :=
  (dropBytes? start source).bind (takeBytes? (stop - start))

/-- The text under a span, if both of its lines exist; an inverted span covers nothing. -/
def slice? (source : List Char) (s : Span) : Option (List Char) :=
  match offset? source s.start, offset? source s.stop with
  | some start, some stop => between? source start (max stop start)
  | _, _ => none

end Source

end CodeIndex
