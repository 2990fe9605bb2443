set_option autoImplicit false

/-!
# Positions and spans

The index counts lines from one and takes columns as the parser reports them; the editor counts
both from zero. Every value that crosses the boundary is shifted on the line axis only, and the
shift stops at the ends of the 32-bit range.

## Main definitions

* `Point`, `Span` — a location and an inclusive range in index coordinates.
* `Span.size` — the weight by which containing spans are ranked, narrowest first.
* `Editor.Position`, `Editor.Range` — the same in editor coordinates.
* `Point.toEditor`, `Span.toEditor`, `Editor.Position.toPoint`, `Editor.Range.toSpan` — the
  conversions between the two.

## Implementation notes

Coordinates are 32-bit words. `Point` is ordered by line first and column second; containment is
inclusive at both ends.
-/

namespace CodeIndex

/-- A location in source text: one-based line, column as reported by the parser. -/
structure Point where
  line : UInt32
  column : UInt32
deriving DecidableEq, Repr, Inhabited

namespace Point

/-- Points are compared by line, then by column. -/
instance : LE Point where
  le p q := p.line < q.line ∨ (p.line = q.line ∧ p.column ≤ q.column)

/-- One point stands strictly before another. -/
instance : LT Point where
  lt p q := p.line < q.line ∨ (p.line = q.line ∧ p.column < q.column)

instance (p q : Point) : Decidable (p ≤ q) :=
  inferInstanceAs (Decidable (p.line < q.line ∨ (p.line = q.line ∧ p.column ≤ q.column)))

instance (p q : Point) : Decidable (p < q) :=
  inferInstanceAs (Decidable (p.line < q.line ∨ (p.line = q.line ∧ p.column < q.column)))

/-- The comparison of two points as an ordering. -/
def order (p q : Point) : Ordering := if p < q then .lt else if p = q then .eq else .gt

/-- A point is written as `line:column`. -/
def text (p : Point) : String := toString p.line.toNat ++ ":" ++ toString p.column.toNat

end Point

/-- The column budget of one line in `Span.size`: as long as no line is wider than this, a span of
several lines outweighs every span within one line. -/
def lineWeight : Nat := 8000

/-- An inclusive source range in index coordinates. -/
structure Span where
  start : Point
  stop : Point
deriving DecidableEq, Repr, Inhabited

namespace Span

/-- The empty span at one point. -/
def single (p : Point) : Span := ⟨p, p⟩

/-- Whether a point lies between the two ends, both included. -/
def containsPoint (s : Span) (p : Point) : Bool := decide (s.start ≤ p) && decide (p ≤ s.stop)

/-- Whether another span lies between the two ends. -/
def containsSpan (s t : Span) : Bool := decide (s.start ≤ t.start) && decide (t.stop ≤ s.stop)

/-- Whether two spans share a point, provided that neither is inverted. -/
def overlaps (s t : Span) : Bool := decide (s.start ≤ t.stop) && decide (t.start ≤ s.stop)

/-- The ranking weight: lines times `lineWeight` plus columns, negative for inverted spans. -/
def size (s : Span) : Int :=
  ((s.stop.line.toNat : Int) - s.start.line.toNat) * lineWeight +
    ((s.stop.column.toNat : Int) - s.start.column.toNat)

/-- A span is written as its two ends joined by a dash. -/
def text (s : Span) : String := s.start.text ++ "-" ++ s.stop.text

end Span

/-! ## Editor coordinates -/

/-- One line down, staying on the last line that a 32-bit word can name. -/
def nextLine (n : UInt32) : UInt32 := if n = UInt32.ofNat 0xFFFFFFFF then n else n + 1

/-- One line up, staying on line zero. -/
def previousLine (n : UInt32) : UInt32 := if n = 0 then 0 else n - 1

namespace Editor

/-- A location as the editor names it: zero-based line and UTF-16 column. -/
structure Position where
  line : UInt32
  character : UInt32
deriving DecidableEq, Repr, Inhabited

/-- A range as the editor names it. -/
structure Range where
  start : Position
  stop : Position
deriving DecidableEq, Repr, Inhabited

/-- The index coordinates of an editor position. -/
def Position.toPoint (p : Position) : Point := ⟨nextLine p.line, p.character⟩

/-- The index coordinates of an editor range. -/
def Range.toSpan (r : Range) : Span := ⟨r.start.toPoint, r.stop.toPoint⟩

end Editor

/-- The editor coordinates of a point. -/
def Point.toEditor (p : Point) : Editor.Position := ⟨previousLine p.line, p.column⟩

/-- The editor coordinates of a span. -/
def Span.toEditor (s : Span) : Editor.Range := ⟨s.start.toEditor, s.stop.toEditor⟩

end CodeIndex
