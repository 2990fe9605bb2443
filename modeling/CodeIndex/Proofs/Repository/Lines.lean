import CodeIndex.Proofs.Repository.Narrowest

set_option relaxedAutoImplicit false
set_option autoImplicit false

/-!
# Symbols within a line and symbols over several

The weight of a range counts the lines that it crosses at the budget of a line each, and then the
columns from its start to its end. Of a range over several lines these are columns of different
lines, and if the end stands to the left of the start they are taken off. So a range that ends on
the next line may weigh as little as nothing, and less than a wide range within one of its lines.
This file says exactly when a symbol within a line is listed before one over several lines.

## Main definitions

* `Span.OneLine` — a range begins and ends on one line.
* `Span.ColumnsUpTo` — a range has no column beyond a bound.

## Main results

* `Span.size_lt_iff_of_oneLine` — when a range over several lines weighs more.
* `Repository.lines_first_iff` — which of the two symbols is listed first. It is always the one
  within a line if all columns are below half of the budget, or if the other one reaches over four
  lines or more.
* `Repository.block_before_line` — up to the whole budget it need not be.
-/

namespace CodeIndex

namespace Span

/-- The span begins and ends on one line. -/
def OneLine (s : Span) : Prop := s.start.line = s.stop.line

/-- The columns of the span do not go beyond a bound. -/
def ColumnsUpTo (bound : Nat) (s : Span) : Prop :=
  s.start.column.toNat ≤ bound ∧ s.stop.column.toNat ≤ bound

instance (s : Span) : Decidable s.OneLine := inferInstanceAs (Decidable (_ = _))

instance (bound : Nat) (s : Span) : Decidable (s.ColumnsUpTo bound) :=
  inferInstanceAs (Decidable (_ ∧ _))

variable {line block : Span} {p : Point}

lemma oneLine_iff {s : Span} : s.OneLine ↔ s.start.line.toNat = s.stop.line.toNat :=
  UInt32.toNat_inj.symm

/-- A span around a point that is not within a line goes on to a later line. -/
lemma line_lt_of_containsPoint (hp : block.containsPoint p = true) (hblock : ¬ block.OneLine) :
    block.start.line.toNat < block.stop.line.toNat := by
  rw [containsPoint_iff, Point.le_iff, Point.le_iff] at hp
  rw [oneLine_iff] at hblock
  omega

/-- A span over several lines weighs more than one within a line exactly if the lines that it
crosses make up for the width of the other one and for how far its own end stands left of its
start. -/
lemma size_lt_iff_of_oneLine (hline : line.OneLine)
    (hblock : block.start.line.toNat < block.stop.line.toNat) :
    line.size < block.size ↔
      line.stop.column.toNat + block.start.column.toNat <
        line.start.column.toNat + block.stop.column.toNat +
          lineWeight * (block.stop.line.toNat - block.start.line.toNat) := by
  rw [oneLine_iff] at hline
  unfold size lineWeight
  omega

/-- And when the two weigh the same. -/
lemma size_eq_iff_of_oneLine (hline : line.OneLine)
    (hblock : block.start.line.toNat < block.stop.line.toNat) :
    line.size = block.size ↔
      line.stop.column.toNat + block.start.column.toNat =
        line.start.column.toNat + block.stop.column.toNat +
          lineWeight * (block.stop.line.toNat - block.start.line.toNat) := by
  rw [oneLine_iff] at hline
  unfold size lineWeight
  omega

/-- Below half of the budget, one more line makes up for everything. -/
lemma size_lt_of_columnsUpTo {bound : Nat} (hbound : 2 * bound < lineWeight) (hline : line.OneLine)
    (hblock : block.start.line.toNat < block.stop.line.toNat) (hcolumns : line.ColumnsUpTo bound)
    (hcolumns' : block.ColumnsUpTo bound) : line.size < block.size := by
  rw [size_lt_iff_of_oneLine hline hblock]
  unfold ColumnsUpTo at hcolumns hcolumns'
  unfold lineWeight at hbound ⊢
  omega

/-- Up to the whole budget, three more lines do. -/
lemma size_lt_of_four_lines (hline : line.OneLine)
    (hblock : block.start.line.toNat + 2 < block.stop.line.toNat)
    (hcolumns : line.ColumnsUpTo lineWeight) (hcolumns' : block.ColumnsUpTo lineWeight) :
    line.size < block.size := by
  rw [size_lt_iff_of_oneLine hline (by omega)]
  unfold ColumnsUpTo at hcolumns hcolumns'
  unfold lineWeight at hcolumns hcolumns' ⊢
  omega

end Span

namespace Repository

/-- **Which symbols over several lines are listed behind those within one.** After any changes, take
two symbols of a file around a point, with no column beyond the budget of a line, the range of the
first one within a line and that of the second one over several lines. The first one is listed
before the second one exactly if the width of its range, and the columns by which the end of the
other range stands left of its start, together stay below the budget of the lines that the other
range crosses, or just use it up and the second one was stored before it. So it is listed before the
second one if no column of the two reaches half of the budget, and also if the second one reaches
over four lines or more. -/
theorem lines_first_iff (changes : List Change) (uri : Uri) (p : Point) :
    ∀ s ∈ (run changes).symbolsIn uri, ∀ t ∈ (run changes).symbolsIn uri, ∀ line block,
      s.range = some line → t.range = some block → line.containsPoint p = true →
      block.containsPoint p = true → line.OneLine → ¬ block.OneLine →
      line.ColumnsUpTo lineWeight → block.ColumnsUpTo lineWeight →
        ([s, t].Sublist ((run changes).search uri p) ↔
          line.stop.column.toNat + block.start.column.toNat <
              line.start.column.toNat + block.stop.column.toNat +
                lineWeight * (block.stop.line.toNat - block.start.line.toNat) ∨
            line.stop.column.toNat + block.start.column.toNat =
                line.start.column.toNat + block.stop.column.toNat +
                  lineWeight * (block.stop.line.toNat - block.start.line.toNat) ∧
              [t, s].Sublist (run changes).toList) ∧
        (∀ bound, 2 * bound < lineWeight → line.ColumnsUpTo bound → block.ColumnsUpTo bound →
          [s, t].Sublist ((run changes).search uri p)) ∧
        (block.start.line.toNat + 2 < block.stop.line.toNat →
          [s, t].Sublist ((run changes).search uri p)) := by
  intro s hs t ht line block hline hblock hp hp' hone hmore hcolumns hcolumns'
  have h := consistent_run changes
  have hlater := Span.line_lt_of_containsPoint hp' hmore
  have hfound : s ∈ (run changes).search uri p := h.mem_search_iff.2 ⟨hs, line, hline, hp⟩
  have hfound' : t ∈ (run changes).search uri p := h.mem_search_iff.2 ⟨ht, block, hblock, hp'⟩
  have hwidth : s.width = line.size := by rw [Symbol.width, hline, Option.elim_some]
  have hwidth' : t.width = block.size := by rw [Symbol.width, hblock, Option.elim_some]
  have hne : s ≠ t := by
    rintro rfl
    rw [hline] at hblock
    exact hmore (Option.some.inj hblock ▸ hone)
  refine ⟨?_, fun bound hbound hbelow hbelow' => ?_, fun hfour => ?_⟩
  · rw [h.sublist_search_iff hfound hfound' hne, hwidth, hwidth',
      Span.size_lt_iff_of_oneLine hone hlater, Span.size_eq_iff_of_oneLine hone hlater]
  · refine h.sublist_search_of_width_lt hfound hfound' ?_
    rw [hwidth, hwidth']
    exact Span.size_lt_of_columnsUpTo hbound hone hlater hbelow hbelow'
  · refine h.sublist_search_of_width_lt hfound hfound' ?_
    rw [hwidth, hwidth']
    exact Span.size_lt_of_four_lines hone hfour hcolumns hcolumns'

/-- A line of nearly half of the budget. -/
def halfLine : Symbol := .create "line" ⟨"file:///a"⟩ (some ⟨⟨1, 0⟩, ⟨1, 3999⟩⟩)

/-- What begins at its end and goes on to the beginning of the next line. -/
def lineBreak : Symbol := .create "block" ⟨"file:///a"⟩ (some ⟨⟨1, 3999⟩, ⟨2, 0⟩⟩)

/-- Below half of the budget the line is listed first, even if it was stored first. -/
theorem lines_first_iff_halfLine :
    [halfLine, lineBreak].Sublist
      ((run [.store halfLine, .store lineBreak]).search ⟨"file:///a"⟩ ⟨1, 3999⟩) :=
  (lines_first_iff [.store halfLine, .store lineBreak] ⟨"file:///a"⟩ ⟨1, 3999⟩ halfLine (.head _)
    lineBreak (.tail _ (.head _)) ⟨⟨1, 0⟩, ⟨1, 3999⟩⟩ ⟨⟨1, 3999⟩, ⟨2, 0⟩⟩ rfl rfl rfl rfl rfl
    (by decide) (by decide) (by decide)).2.1 3999 (by decide) (by decide) (by decide)

/-- A line whose columns stay within the budget. -/
def longLine : Symbol := .create "line" ⟨"file:///a"⟩ (some ⟨⟨1, 0⟩, ⟨1, 7950⟩⟩)

/-- A range from its sixtieth column on to the beginning of the next line. -/
def indentedBlock : Symbol := .create "block" ⟨"file:///a"⟩ (some ⟨⟨1, 60⟩, ⟨2, 0⟩⟩)

/-- That no column is beyond the budget of a line does not make symbols within a line come before
those over several lines: the indented block weighs 7940, the long line 7950. -/
theorem block_before_line :
    ¬ ∀ (changes : List Change) (uri : Uri) (p : Point),
      (∀ s ∈ (run changes).toList, ∀ range, s.range = some range →
        range.ColumnsUpTo lineWeight ∧ range.start ≤ range.stop) →
      ∀ s ∈ (run changes).symbolsIn uri, ∀ t ∈ (run changes).symbolsIn uri, ∀ line block,
        s.range = some line → t.range = some block → line.containsPoint p = true →
        block.containsPoint p = true → line.OneLine → ¬ block.OneLine →
          [s, t].Sublist ((run changes).search uri p) := by
  intro h
  have hlist : (run [.store longLine, .store indentedBlock]).toList = [longLine, indentedBlock] :=
    rfl
  have hsearch : (run [.store longLine, .store indentedBlock]).search ⟨"file:///a"⟩ ⟨1, 100⟩ =
      [indentedBlock, longLine] := rfl
  have hbefore := h [.store longLine, .store indentedBlock] ⟨"file:///a"⟩ ⟨1, 100⟩ (by
    rw [hlist]
    simp only [List.forall_mem_cons, longLine, indentedBlock, Symbol.create, Option.some.injEq,
      forall_eq']
    decide) longLine (.head _) indentedBlock (.tail _ (.head _)) ⟨⟨1, 0⟩, ⟨1, 7950⟩⟩
    ⟨⟨1, 60⟩, ⟨2, 0⟩⟩ rfl rfl rfl rfl rfl (by decide)
  rw [hsearch] at hbefore
  have hids : ["line", "block"].Sublist ["block", "line"] := hbefore.map Symbol.id
  exact absurd hids (by decide)

end Repository

end CodeIndex
