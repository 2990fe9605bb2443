import CodeIndex.Proofs.Tree.Spans

set_option relaxedAutoImplicit false
set_option autoImplicit false

/-!
# Coordinates at the boundary to the editor

A place has two names, since the editor counts lines from zero and the index counts them from one.
The conversions shift the line by one and stop at the ends of the range of a 32-bit word, each at
another end. So there are two places where a name is lost: the last line that a word can number is
out of the reach of the index, and line zero of the index is not one of the editor. Everywhere else
the conversions are inverse to each other, and it makes no difference in which coordinates places
are compared, ranges are tested for what they contain, or ranges are weighed.

The order of positions, containment and size are defined here for the editor on its own, without
the conversions.

## Main definitions

* `Editor.Range.containsPosition`, `Editor.Range.containsRange`, `Editor.Range.size` — containment
  and weight in editor coordinates.
* `Editor.Range.Addressable`, `Span.OneBased` — ranges that have a name in the other coordinates.
* `Editor.Position.Names`, `Editor.Range.Names` — both coordinates name the same place or range.
* `Editor.Interchangeable` — it makes no difference in which coordinates one works.

## Main results

* `Editor.Position.names_iff` — what the same place is called in both coordinates.
* `Editor.interchangeable` — the conversions are inverse to each other and keep order, containment
  and size.
-/

namespace CodeIndex

/-! ## Saturation -/

/-- The next line, unless it is the last one that a word can number. -/
lemma toNat_nextLine (n : UInt32) : (nextLine n).toNat = min (n.toNat + 1) 0xFFFFFFFF := by
  have hn := n.toNat_lt
  unfold nextLine
  split
  · next h =>
    rw [h]
    rfl
  · next h =>
    have hne : n.toNat ≠ 0xFFFFFFFF := fun heq => h (UInt32.toNat_inj.1 heq)
    rw [UInt32.toNat_add, UInt32.toNat_one, Nat.mod_eq_of_lt (by omega)]
    omega

/-- The previous line, unless it is line zero. -/
lemma toNat_previousLine (n : UInt32) : (previousLine n).toNat = n.toNat - 1 := by
  unfold previousLine
  split
  · next h =>
    rw [h]
    rfl
  · next h =>
    have hne : n.toNat ≠ 0 := fun heq => h (UInt32.toNat_inj.1 heq)
    have hone : (1 : UInt32) ≤ n := by
      rw [UInt32.le_iff_toNat_le, UInt32.toNat_one]
      omega
    rw [UInt32.toNat_sub_of_le _ _ hone, UInt32.toNat_one]

/-! ## Places -/

namespace Point

/-- A point in a line of the index; lines count from one. -/
def OneBased (q : Point) : Prop := 1 ≤ q.line.toNat

instance (q : Point) : Decidable q.OneBased := inferInstanceAs (Decidable (1 ≤ q.line.toNat))

/-- Points are equal if their lines have the same number and their columns are equal. -/
lemma eq_iff {p q : Point} : p = q ↔ p.line.toNat = q.line.toNat ∧ p.column = q.column := by
  rw [UInt32.toNat_inj, Point.mk.injEq]

end Point

namespace Editor

namespace Position

/-- Positions are compared by line, then by character. -/
instance : LE Position where
  le p q := p.line < q.line ∨ (p.line = q.line ∧ p.character ≤ q.character)

instance (p q : Position) : Decidable (p ≤ q) :=
  inferInstanceAs (Decidable (p.line < q.line ∨ (p.line = q.line ∧ p.character ≤ q.character)))

/-- A position in a line that has a successor, so that the index has a number for it. -/
def Addressable (p : Position) : Prop := p.line.toNat < 0xFFFFFFFF

instance (p : Position) : Decidable p.Addressable :=
  inferInstanceAs (Decidable (p.line.toNat < 0xFFFFFFFF))

/-- A position and a point are the same place: each is converted to the other. -/
def Names (p : Position) (q : Point) : Prop := p.toPoint = q ∧ q.toEditor = p

/-- The order of positions in natural numbers. -/
lemma le_iff {p q : Position} :
    p ≤ q ↔ p.line.toNat < q.line.toNat ∨
      p.line.toNat = q.line.toNat ∧ p.character.toNat ≤ q.character.toNat := by
  show p.line < q.line ∨ (p.line = q.line ∧ p.character ≤ q.character) ↔ _
  rw [UInt32.lt_iff_toNat_lt, UInt32.le_iff_toNat_le, ← UInt32.toNat_inj]

/-- Positions are equal if their lines have the same number and their characters are equal. -/
lemma eq_iff {p q : Position} :
    p = q ↔ p.line.toNat = q.line.toNat ∧ p.character = q.character := by
  rw [UInt32.toNat_inj, Position.mk.injEq]

/-- The same place has the same column in both coordinates, and a line number that is larger by one
in the index.

**Proof sketch.** If a conversion stopped at an end of the range, then the other one does not lead
back. -/
theorem names_iff {p : Position} {q : Point} :
    p.Names q ↔ q.line.toNat = p.line.toNat + 1 ∧ q.column = p.character := by
  have hp := p.line.toNat_lt
  have hq := q.line.toNat_lt
  rw [Names, Point.eq_iff, Position.eq_iff, toPoint, Point.toEditor, toNat_nextLine,
    toNat_previousLine]
  constructor
  · rintro ⟨⟨hline, -⟩, hline', hcolumn⟩
    exact ⟨by omega, hcolumn⟩
  · rintro ⟨hline, hcolumn⟩
    exact ⟨⟨by omega, hcolumn.symm⟩, by omega, hcolumn⟩

/-- A position has a name in the index if its line has a successor, and only then. -/
lemma names_toPoint_iff {p : Position} : p.Names p.toPoint ↔ p.Addressable := by
  rw [names_iff, toPoint, toNat_nextLine, Addressable]
  simp only [and_true]
  omega

/-- A point has a name in the editor if its line is not line zero, and only then. -/
lemma toEditor_names_iff {q : Point} : q.toEditor.Names q ↔ q.OneBased := by
  rw [names_iff, Point.toEditor, toNat_previousLine, Point.OneBased]
  simp only [and_true]
  omega

/-- Places stand in the same order in both coordinates. -/
lemma Names.le_iff {p p' : Position} {q q' : Point} (h : p.Names q) (h' : p'.Names q') :
    p ≤ p' ↔ q ≤ q' := by
  obtain ⟨hline, hcolumn⟩ := names_iff.1 h
  obtain ⟨hline', hcolumn'⟩ := names_iff.1 h'
  rw [Position.le_iff, Point.le_iff, hline, hline', hcolumn, hcolumn']
  omega

end Position

end Editor

/-! ## Ranges -/

/-- A span in the lines of the index. -/
def Span.OneBased (s : Span) : Prop := s.start.OneBased ∧ s.stop.OneBased

instance (s : Span) : Decidable s.OneBased :=
  inferInstanceAs (Decidable (s.start.OneBased ∧ s.stop.OneBased))

namespace Editor

namespace Range

/-- A range in lines that the index has a number for. -/
def Addressable (r : Range) : Prop := r.start.Addressable ∧ r.stop.Addressable

instance (r : Range) : Decidable r.Addressable :=
  inferInstanceAs (Decidable (r.start.Addressable ∧ r.stop.Addressable))

/-- Whether a position lies between the two ends, both included. -/
def containsPosition (r : Range) (p : Position) : Bool :=
  decide (r.start ≤ p) && decide (p ≤ r.stop)

/-- Whether another range lies between the two ends. -/
def containsRange (r t : Range) : Bool := decide (r.start ≤ t.start) && decide (t.stop ≤ r.stop)

/-- The weight of a range: lines times `lineWeight` plus characters. -/
def size (r : Range) : Int :=
  ((r.stop.line.toNat : Int) - r.start.line.toNat) * lineWeight +
    ((r.stop.character.toNat : Int) - r.start.character.toNat)

/-- A range of the editor and a span are the same range: each is converted to the other. -/
def Names (r : Range) (s : Span) : Prop := r.toSpan = s ∧ s.toEditor = r

/-- The same range has the same ends. -/
lemma names_iff {r : Range} {s : Span} :
    r.Names s ↔ r.start.Names s.start ∧ r.stop.Names s.stop := by
  obtain ⟨start, stop⟩ := r
  obtain ⟨start', stop'⟩ := s
  rw [Names, toSpan, Span.toEditor, Span.mk.injEq, Range.mk.injEq]
  exact and_and_and_comm

lemma names_toSpan_iff {r : Range} : r.Names r.toSpan ↔ r.Addressable := by
  rw [names_iff, toSpan, Position.names_toPoint_iff, Position.names_toPoint_iff, Addressable]

lemma toEditor_names_iff {s : Span} : s.toEditor.Names s ↔ s.OneBased := by
  rw [names_iff, Span.toEditor, Position.toEditor_names_iff, Position.toEditor_names_iff,
    Span.OneBased]

namespace Names

variable {r t : Range} {s u : Span}

/-- A range contains the same places in both coordinates. -/
lemma containsPosition_eq (h : r.Names s) {p : Position} {q : Point} (hp : p.Names q) :
    r.containsPosition p = s.containsPoint q := by
  obtain ⟨hstart, hstop⟩ := names_iff.1 h
  rw [containsPosition, Span.containsPoint]
  simp only [hstart.le_iff hp, hp.le_iff hstop]

/-- A range contains the same ranges in both coordinates. -/
lemma containsRange_eq (h : r.Names s) (ht : t.Names u) :
    r.containsRange t = s.containsSpan u := by
  obtain ⟨hstart, hstop⟩ := names_iff.1 h
  obtain ⟨hstart', hstop'⟩ := names_iff.1 ht
  rw [containsRange, Span.containsSpan]
  simp only [hstart.le_iff hstart', hstop'.le_iff hstop]

/-- A range weighs the same in both coordinates: its two ends are shifted alike. -/
lemma size_eq (h : r.Names s) : r.size = s.size := by
  obtain ⟨hstart, hstop⟩ := names_iff.1 h
  obtain ⟨hline, hcolumn⟩ := Position.names_iff.1 hstart
  obtain ⟨hline', hcolumn'⟩ := Position.names_iff.1 hstop
  rw [size, Span.size, hline, hcolumn, hline', hcolumn']
  unfold lineWeight
  omega

end Names

end Range

/-! ## Either coordinates -/

/-- The coordinates of the editor and of the index are interchangeable: what has a name in the other
coordinates is converted there and back, and where both coordinates name the same, they agree on
the order of places, on what a range contains and on its size. -/
structure Interchangeable : Prop where
  names_toPoint_iff : ∀ p : Position, p.Names p.toPoint ↔ p.Addressable
  toEditor_names_point_iff : ∀ q : Point, q.toEditor.Names q ↔ q.OneBased
  names_toSpan_iff : ∀ r : Range, r.Names r.toSpan ↔ r.Addressable
  toEditor_names_span_iff : ∀ s : Span, s.toEditor.Names s ↔ s.OneBased
  le_iff : ∀ {p p' : Position} {q q' : Point}, p.Names q → p'.Names q' → (p ≤ p' ↔ q ≤ q')
  containsPosition_eq : ∀ {r : Range} {s : Span} {p : Position} {q : Point}, r.Names s → p.Names q →
    r.containsPosition p = s.containsPoint q
  containsRange_eq : ∀ {r t : Range} {s u : Span}, r.Names s → t.Names u →
    r.containsRange t = s.containsSpan u
  size_eq : ∀ {r : Range} {s : Span}, r.Names s → r.size = s.size

/-- The conversions are inverse to each other where a line has a number in both coordinates, and
they keep the order of points, containment and size. -/
theorem interchangeable : Interchangeable where
  names_toPoint_iff := fun _ => Position.names_toPoint_iff
  toEditor_names_point_iff := fun _ => Position.toEditor_names_iff
  names_toSpan_iff := fun _ => Range.names_toSpan_iff
  toEditor_names_span_iff := fun _ => Range.toEditor_names_iff
  le_iff := fun h h' => h.le_iff h'
  containsPosition_eq := fun h hp => h.containsPosition_eq hp
  containsRange_eq := fun h ht => h.containsRange_eq ht
  size_eq := fun h => h.size_eq

/-- At the ends of the range of a word, a conversion there and back ends one line off. -/
example : (Position.mk 4294967295 7).toPoint.toEditor = ⟨4294967294, 7⟩ ∧
    (Point.mk 0 7).toEditor.toPoint = ⟨1, 7⟩ := by decide

end Editor

end CodeIndex
