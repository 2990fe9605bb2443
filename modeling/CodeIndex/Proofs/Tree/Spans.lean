import Mathlib.Data.List.Basic
import CodeIndex.Position

set_option relaxedAutoImplicit false
set_option autoImplicit false

/-!
# Points and spans in order

The order of points, and what it makes of spans: containment passes on from the outer of two spans
to the inner one, spans around one point overlap, and a span within another weighs no more.

## Main definitions

* `Span.Narrow` — the columns of a span fit into the budget of a line.

## Main results

* `Span.containsPoint_of_containsSpan`, `Span.containsSpan_trans` — what the inner one of two spans
  contains is within the outer one.
* `Span.size_le_of_containsSpan` — a span within another weighs no more.
-/

namespace CodeIndex

/-- The order of points in natural numbers. -/
lemma Point.le_iff {p q : Point} :
    p ≤ q ↔ p.line.toNat < q.line.toNat ∨
      p.line.toNat = q.line.toNat ∧ p.column.toNat ≤ q.column.toNat := by
  show p.line < q.line ∨ (p.line = q.line ∧ p.column ≤ q.column) ↔ _
  rw [UInt32.lt_iff_toNat_lt, UInt32.le_iff_toNat_le, ← UInt32.toNat_inj]

/-- The strict order of points in natural numbers. -/
lemma Point.lt_iff {p q : Point} :
    p < q ↔ p.line.toNat < q.line.toNat ∨
      p.line.toNat = q.line.toNat ∧ p.column.toNat < q.column.toNat := by
  show p.line < q.line ∨ (p.line = q.line ∧ p.column < q.column) ↔ _
  rw [UInt32.lt_iff_toNat_lt, UInt32.lt_iff_toNat_lt, ← UInt32.toNat_inj]

lemma Point.le_refl (p : Point) : p ≤ p := Point.le_iff.2 (Or.inr ⟨rfl, Nat.le_refl _⟩)

lemma Point.le_of_lt {p q : Point} (h : p < q) : p ≤ q := by
  rw [Point.lt_iff] at h
  rw [Point.le_iff]
  omega

lemma Point.le_trans {p q r : Point} (hpq : p ≤ q) (hqr : q ≤ r) : p ≤ r := by
  rw [Point.le_iff] at *
  omega

namespace Span

lemma containsPoint_iff {s : Span} {p : Point} :
    s.containsPoint p = true ↔ s.start ≤ p ∧ p ≤ s.stop := by
  rw [containsPoint, Bool.and_eq_true, decide_eq_true_eq, decide_eq_true_eq]

lemma containsSpan_iff {s t : Span} :
    s.containsSpan t = true ↔ s.start ≤ t.start ∧ t.stop ≤ s.stop := by
  rw [containsSpan, Bool.and_eq_true, decide_eq_true_eq, decide_eq_true_eq]

/-- To contain the span at a point is to contain the point. -/
lemma containsSpan_single (s : Span) (p : Point) : s.containsSpan (single p) = s.containsPoint p :=
  rfl

/-- A point within the inner one of two spans is within the outer one. -/
lemma containsPoint_of_containsSpan {s t : Span} {p : Point} (hst : s.containsSpan t = true)
    (hp : t.containsPoint p = true) : s.containsPoint p = true := by
  rw [containsSpan_iff] at hst
  rw [containsPoint_iff] at hp ⊢
  exact ⟨Point.le_trans hst.1 hp.1, Point.le_trans hp.2 hst.2⟩

/-- A span within the inner one of two spans is within the outer one. -/
lemma containsSpan_trans {s t u : Span} (hst : s.containsSpan t = true)
    (htu : t.containsSpan u = true) : s.containsSpan u = true := by
  rw [containsSpan_iff] at *
  exact ⟨Point.le_trans hst.1 htu.1, Point.le_trans htu.2 hst.2⟩

/-- Two spans around one point overlap. -/
lemma overlaps_of_containsPoint {s t : Span} {p : Point} (hs : s.containsPoint p = true)
    (ht : t.containsPoint p = true) : s.overlaps t = true := by
  rw [containsPoint_iff] at hs ht
  rw [overlaps, Bool.and_eq_true, decide_eq_true_eq, decide_eq_true_eq]
  exact ⟨Point.le_trans hs.1 ht.2, Point.le_trans ht.1 hs.2⟩

/-- The columns of a span fit into the budget of a line. -/
def Narrow (s : Span) : Prop :=
  s.start.column.toNat < lineWeight ∧ s.stop.column.toNat < lineWeight

/-- A span within another weighs no more, if lines are not too long. -/
theorem size_le_of_containsSpan {s t : Span} (hs : s.Narrow) (ht : t.Narrow)
    (hst : s.containsSpan t = true) : t.size ≤ s.size := by
  rw [containsSpan_iff, Point.le_iff, Point.le_iff] at hst
  unfold Narrow lineWeight at hs ht
  unfold size lineWeight
  omega

/-- It weighs less, unless it is the same span. -/
theorem size_lt_of_containsSpan {s t : Span} (hs : s.Narrow) (ht : t.Narrow)
    (hst : s.containsSpan t = true) (hne : t ≠ s) : t.size < s.size := by
  have hends : t.start.line.toNat ≠ s.start.line.toNat ∨
      t.start.column.toNat ≠ s.start.column.toNat ∨ t.stop.line.toNat ≠ s.stop.line.toNat ∨
        t.stop.column.toNat ≠ s.stop.column.toNat := by
    by_contra hsame
    simp only [ne_eq, UInt32.toNat_inj, not_or, not_not] at hsame
    obtain ⟨⟨a, b⟩, ⟨c, d⟩⟩ := s
    obtain ⟨⟨a', b'⟩, ⟨c', d'⟩⟩ := t
    obtain ⟨rfl, rfl, rfl, rfl⟩ := hsame
    exact hne rfl
  rw [containsSpan_iff, Point.le_iff, Point.le_iff] at hst
  unfold Narrow lineWeight at hs ht
  unfold size lineWeight
  omega

end Span

end CodeIndex
