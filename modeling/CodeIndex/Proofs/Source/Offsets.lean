import CodeIndex.Proofs.Source.Places

set_option relaxedAutoImplicit false
set_option autoImplicit false

/-!
# From offsets to points and back

The point of a byte offset is the place of the shortest beginning of the text with so many bytes,
and the offset of a point is the size of the shortest beginning that reaches the point on its line.
Either conversion therefore rounds up to a boundary between characters, and where there is nothing
to round, one undoes the other.

## Main definitions

* `Source.Settled` — what the offset found for a point of a line has to be.

## Main results

* `Source.offset?_placeAfter` — the point at the end of a beginning leads back to its size.
* `Source.pointAt_byteSize` — the size of a beginning leads to the point at its end.
* `Source.offset?_pointAt` — an offset comes back rounded up, and the points of offsets are ordered
  like the offsets.
* `Source.pointAt_offset?` — a point of an existing line comes back rounded up on its line, and the
  offsets of points are ordered like the points.

## Design

Both directions are compared with beginnings of the text, not with each other. The end of a
beginning has one place and one size, so that each direction needs to know only which beginning it
stops at. Numbers of 32 bits suffice for a text of fewer than `2 ^ 32` bytes, except at the end of
the text of `2 ^ 32 - 1` line feeds (`Source.Unnumbered`): the number of its last line comes out as
zero, and lines are counted from one.
-/

namespace CodeIndex

namespace Source

variable {source line u v : List Char} {n o o' a b : Nat} {p q : Point}

/-! ## The end of a beginning -/

/-- The size of a beginning leads to the point at its end. -/
lemma pointAt_byteSize (hu : u <+: source) :
    pointAt source (byteSize u) = (placeAfter u).toPoint := by
  rw [pointAt_eq, byteSize_eq_weight, upTo_weight Char.utf8Size_pos hu]

/-- The point at the end of a beginning leads back to its size. -/
lemma offset?_placeAfter (hsize : byteSize source < 2 ^ 32) (hu : u <+: source)
    (hfits : (placeAfter u).Fits) : offset? source (placeAfter u).toPoint = some (byteSize u) := by
  obtain ⟨n, line, v, hline, hv, rfl⟩ := exists_line_of_isPrefix hu
  rw [placeAfter_beforeLine_append hline hv] at hfits ⊢
  rw [offset?_of_line hsize (Place.toNat_line_toPoint hfits) hline,
    Place.toNat_column_toPoint hfits, width, upTo_weight unitCount_pos hv]

/-! ## From offsets to points -/

/-- The place of an offset has a point, unless it is the one place without a number. -/
lemma fits_of_not_unnumbered (hsize : byteSize source < 2 ^ 32) (h : ¬ Unnumbered source o) :
    (placeAfter (upTo Char.utf8Size o source)).Fits := by
  rcases fits_placeAfter hsize (upTo_isPrefix o source) with hfits | ⟨hwhole, hfeeds⟩
  · exact hfits
  · refine absurd ⟨hfeeds, ?_⟩ h
    -- every offset is a boundary here, so that the whole text is reached at its end only
    by_contra! hlt
    rw [hfeeds, byteSize_replicate] at hlt
    rw [hfeeds, upTo_replicate hlt.le] at hwhole
    have hlength := congrArg List.length hwhole
    rw [List.length_replicate, List.length_replicate] at hlength
    omega

/-- The one place without a number has a point on no line. -/
lemma pointAt_of_unnumbered (h : Unnumbered source o) : pointAt source o = ⟨0, 0⟩ := by
  obtain ⟨hfeeds, ho⟩ := h
  rw [byteSize_eq_weight] at ho
  rw [pointAt_eq, upTo_of_weight_le Char.utf8Size_pos ho, hfeeds, placeAfter, after_replicate]
  rfl

/-- Apart from that place, the offset of the point of an offset is the size of the beginning with
so many bytes. -/
lemma offset?_pointAt_eq (hsize : byteSize source < 2 ^ 32) (h : ¬ Unnumbered source o) :
    offset? source (pointAt source o) = some (byteSize (upTo Char.utf8Size o source)) := by
  rw [pointAt_eq]
  exact offset?_placeAfter hsize (upTo_isPrefix o source) (fits_of_not_unnumbered hsize h)

/-- A boundary comes back as itself. -/
lemma offset?_pointAt_byteSize (hsize : byteSize source < 2 ^ 32) (hu : u <+: source)
    (h : ¬ Unnumbered source (byteSize u)) :
    offset? source (pointAt source (byteSize u)) = some (byteSize u) := by
  rw [offset?_pointAt_eq hsize h, byteSize_eq_weight, upTo_weight Char.utf8Size_pos hu]

lemma offset?_pointAt_of_unnumbered (h : Unnumbered source o) :
    offset? source (pointAt source o) = none := by
  rw [pointAt_of_unnumbered h, offset?_eq_none_iff]
  exact Or.inl rfl

lemma Unnumbered.mono (h : Unnumbered source o) (ho : o ≤ o') : Unnumbered source o' :=
  ⟨h.1, h.2.trans ho⟩

/-- Where the beginnings of two offsets differ, so do their points. -/
lemma pointAt_lt (hsize : byteSize source < 2 ^ 32) (ho : o ≤ o') (h : ¬ Unnumbered source o')
    (hne : upTo Char.utf8Size o source ≠ upTo Char.utf8Size o' source) :
    pointAt source o < pointAt source o' := by
  have hfits := fits_of_not_unnumbered hsize fun hu => h (hu.mono ho)
  have hfits' := fits_of_not_unnumbered hsize h
  have hprefix := upTo_mono Char.utf8Size_pos ho source
  rw [pointAt_eq, pointAt_eq]
  exact (placeAfter_before hprefix hne).toPoint_lt hfits hfits'

/-- The points of offsets are ordered like the offsets. -/
lemma pointAt_mono (hsize : byteSize source < 2 ^ 32) (ho : o ≤ o')
    (h : ¬ Unnumbered source o') : pointAt source o ≤ pointAt source o' := by
  by_cases heq : upTo Char.utf8Size o source = upTo Char.utf8Size o' source
  · rw [pointAt_eq, pointAt_eq, heq]
    exact Point.le_refl _
  · exact Point.le_of_lt (pointAt_lt hsize ho h heq)

/-- Different boundaries have different points. -/
lemma pointAt_strictMono (hsize : byteSize source < 2 ^ 32) (ho : o < o')
    (hboundary : o ∈ boundaries byteSize source) (hboundary' : o' ∈ boundaries byteSize source)
    (h : ¬ Unnumbered source o') : pointAt source o < pointAt source o' := by
  refine pointAt_lt hsize ho.le h fun heq => ?_
  obtain ⟨u, hu, rfl⟩ := hboundary
  obtain ⟨v, hv, rfl⟩ := hboundary'
  rw [byteSize_eq_weight, upTo_weight Char.utf8Size_pos hu, upTo_weight Char.utf8Size_pos hv] at heq
  exact ho.ne (congrArg byteSize heq)

/-- **From an offset to its point and back.** The line of an offset is always found. The way back
leads to the least boundary that does not lie before the offset, or before the end of the text, and
so to the offset itself where that is a boundary. The points stand in the order of the offsets, and
those of different boundaries are different. All this leaves out one place, the end of the text of
`2 ^ 32 - 1` line feeds, whose point is on no line. -/
theorem offset?_pointAt (hsize : byteSize source < 2 ^ 32) (o : Nat) :
    locate? 1 (min o (byteSize source)) (lines source) = some (pointAt source o) ∧
    (¬ Unnumbered source o → ∃ b, offset? source (pointAt source o) = some b ∧
      IsLeast {k | k ∈ boundaries byteSize source ∧ min o (byteSize source) ≤ k} b) ∧
    (¬ Unnumbered source o → o ∈ boundaries byteSize source →
      offset? source (pointAt source o) = some o) ∧
    (∀ o', o ≤ o' → ¬ Unnumbered source o' → pointAt source o ≤ pointAt source o' ∧
      (o < o' → o ∈ boundaries byteSize source → o' ∈ boundaries byteSize source →
        pointAt source o < pointAt source o')) ∧
    (Unnumbered source o →
      pointAt source o = ⟨0, 0⟩ ∧ offset? source (pointAt source o) = none) := by
  refine ⟨?found, ?back, ?same, ?ordered, ?unnumbered⟩
  case found => rw [locate?_min, pointAt_eq]
  case back =>
    intro h
    refine ⟨_, offset?_pointAt_eq hsize h, ?_⟩
    rw [← upTo_min Char.utf8Size_pos, byteSize_eq_weight]
    exact isLeast_weight_upTo (min_le_right _ _)
  case same =>
    rintro h ⟨u, hu, rfl⟩
    exact offset?_pointAt_byteSize hsize hu h
  case ordered =>
    intro o' ho h
    exact ⟨pointAt_mono hsize ho h, fun hlt hb hb' => pointAt_strictMono hsize hlt hb hb' h⟩
  case unnumbered =>
    intro h
    exact ⟨pointAt_of_unnumbered h, offset?_pointAt_of_unnumbered h⟩

/-- Characters of two, four and one bytes, the second of which has two units, on two lines. -/
def mixedText : List Char := ['é', '😀', '\n', 'a']

/-- An offset inside the second character comes back as its end, and the end of the text as
itself. -/
theorem offset?_pointAt_mixedText :
    byteSize mixedText < 2 ^ 32 ∧ ¬ Unnumbered mixedText 3 ∧ 8 ∈ boundaries byteSize mixedText ∧
      ¬ Unnumbered mixedText 8 ∧ pointAt mixedText 3 = ⟨1, 3⟩ ∧
      (∃ b, offset? mixedText (pointAt mixedText 3) = some b ∧
        IsLeast {k | k ∈ boundaries byteSize mixedText ∧ min 3 (byteSize mixedText) ≤ k} b) ∧
      offset? mixedText (pointAt mixedText 3) = some 6 ∧
      pointAt mixedText 3 ≤ pointAt mixedText 8 ∧
      offset? mixedText (pointAt mixedText 8) = some 8 := by
  have hsize : byteSize mixedText < 2 ^ 32 := by decide
  have hnumbered : ∀ o, ¬ Unnumbered mixedText o := by
    rintro o ⟨hfeeds, -⟩
    have hlength := congrArg List.length hfeeds
    rw [List.length_replicate] at hlength
    cases hlength
  have hend : 8 ∈ boundaries byteSize mixedText := ⟨mixedText, List.prefix_rfl, by decide⟩
  obtain ⟨-, hback, -, hordered, -⟩ := offset?_pointAt hsize 3
  exact ⟨hsize, hnumbered 3, hend, hnumbered 8, by decide, hback (hnumbered 3), by decide,
    (hordered 8 (by decide) (hnumbered 8)).1,
    (offset?_pointAt hsize 8).2.2.1 (hnumbered 8) hend⟩

/-- The text of `2 ^ 32 - 1` line feeds. -/
def lineFeeds : List Char := List.replicate (2 ^ 32 - 1) '\n'

/-- It has fewer than `2 ^ 32` bytes, and its end is a boundary. -/
lemma byteSize_lineFeeds : byteSize lineFeeds = 2 ^ 32 - 1 := byteSize_replicate _

lemma unnumbered_lineFeeds : Unnumbered lineFeeds (2 ^ 32 - 1) := ⟨rfl, byteSize_lineFeeds.le⟩

/-- The end of that text does not come back, and its point lies before that of the beginning. -/
theorem offset?_pointAt_lineFeeds :
    byteSize lineFeeds < 2 ^ 32 ∧ 2 ^ 32 - 1 ∈ boundaries byteSize lineFeeds ∧
      pointAt lineFeeds (2 ^ 32 - 1) = ⟨0, 0⟩ ∧
      offset? lineFeeds (pointAt lineFeeds (2 ^ 32 - 1)) = none ∧
      pointAt lineFeeds (2 ^ 32 - 1) < pointAt lineFeeds 0 := by
  have hpoint : pointAt lineFeeds (2 ^ 32 - 1) = ⟨0, 0⟩ :=
    pointAt_of_unnumbered unnumbered_lineFeeds
  have hfirst : pointAt lineFeeds 0 = ⟨1, 0⟩ := by
    rw [pointAt_eq, upTo_zero]
    rfl
  refine ⟨?_, ⟨lineFeeds, List.prefix_rfl, byteSize_lineFeeds⟩, hpoint,
    offset?_pointAt_of_unnumbered unnumbered_lineFeeds, ?_⟩
  · rw [byteSize_lineFeeds]
    omega
  · rw [hpoint, hfirst]
    decide

/-! ## From points to offsets -/

/-- What a point of the line with number `n`, counted from zero, comes to: an offset at a boundary
within that line, whose own point is on the same line at the least boundary that is wide enough, or
at the end of the line. -/
structure Settled (source : List Char) (n : Nat) (line : List Char) (p : Point) (o : Nat) :
    Prop where
  boundary : o ∈ boundaries byteSize source
  within : ∃ u, u <+: line ∧ byteSize (beforeLine source n ++ u) = o
  sameLine : (pointAt source o).line = p.line
  /-- A column of the line becomes the next one between two characters. -/
  roundedUp : p.column.toNat ≤ width line →
    IsLeast {k | k ∈ boundaries width line ∧ p.column.toNat ≤ k} (pointAt source o).column.toNat
  /-- A column behind the line becomes its end. -/
  clamped : width line < p.column.toNat → (pointAt source o).column.toNat = width line
  same : p.column.toNat ∈ boundaries width line → pointAt source o = p

/-- The point at the end of a beginning of an existing line. -/
lemma pointAt_beforeLine_append (hsize : byteSize source < 2 ^ 32) (hp : p.line.toNat = n + 1)
    (hline : (lines source)[n]? = some line) (hu : u <+: line) :
    (pointAt source (byteSize (beforeLine source n ++ u))).line = p.line ∧
      (pointAt source (byteSize (beforeLine source n ++ u))).column.toNat = width u := by
  have hsource := beforeLine_append_isPrefix hline hu
  have hfits : (⟨n + 1, width u⟩ : Place).Fits := by
    have hwidth := width_le_byteSize u
    have hbytes := byteSize_mono hsource
    rw [byteSize_append] at hbytes
    exact ⟨hp ▸ p.line.toNat_lt, by dsimp only; omega⟩
  rw [pointAt_byteSize hsource, placeAfter_beforeLine_append hline hu, ← UInt32.toNat_inj, hp]
  exact ⟨Place.toNat_line_toPoint hfits, Place.toNat_column_toPoint hfits⟩

/-- The beginning of its line that a point stands for leads to where the point should come to. -/
lemma settled_upTo (hsize : byteSize source < 2 ^ 32) (hp : p.line.toNat = n + 1)
    (hline : (lines source)[n]? = some line) :
    Settled source n line p
      (byteSize (beforeLine source n ++ upTo unitCount p.column.toNat line)) := by
  have hu : upTo unitCount p.column.toNat line <+: line := upTo_isPrefix _ _
  obtain ⟨hsame, hcolumn⟩ := pointAt_beforeLine_append hsize hp hline hu
  refine ⟨⟨_, beforeLine_append_isPrefix hline hu, rfl⟩, ⟨_, hu, rfl⟩, hsame, ?_, ?_, ?_⟩
  · intro h
    rw [hcolumn]
    exact isLeast_weight_upTo h
  · intro h
    rw [hcolumn, upTo_of_weight_le unitCount_pos h.le]
  · rintro ⟨v, hv, hwidth⟩
    rw [← hwidth, width, upTo_weight unitCount_pos hv, ← width, hwidth, UInt32.toNat_inj] at hcolumn
    rw [← hwidth, width, upTo_weight unitCount_pos hv] at hsame ⊢
    exact congrArg₂ Point.mk hsame hcolumn

lemma exists_line_of_offset? (ha : offset? source p = some a) :
    ∃ n line, p.line.toNat = n + 1 ∧ (lines source)[n]? = some line :=
  (isSome_offset?_iff.1 (Option.isSome_of_eq_some ha)).exists_line

/-- Every offset of a point is a boundary. -/
lemma mem_boundaries_of_offset? (hsize : byteSize source < 2 ^ 32)
    (ha : offset? source p = some a) : a ∈ boundaries byteSize source := by
  obtain ⟨n, line, hp, hline⟩ := exists_line_of_offset? ha
  rw [offset?_of_line hsize hp hline, Option.some.injEq] at ha
  exact ha ▸ (settled_upTo hsize hp hline).boundary

/-- The offsets of points of existing lines are ordered like the points. -/
lemma offset?_mono (hsize : byteSize source < 2 ^ 32) (hpq : p ≤ q)
    (ha : offset? source p = some a) (hb : offset? source q = some b) : a ≤ b := by
  obtain ⟨n, line, hp, hline⟩ := exists_line_of_offset? ha
  obtain ⟨m, line', hq, hline'⟩ := exists_line_of_offset? hb
  rw [offset?_of_line hsize hp hline, Option.some.injEq] at ha
  rw [offset?_of_line hsize hq hline', Option.some.injEq] at hb
  have hu : upTo unitCount p.column.toNat line <+: line := upTo_isPrefix _ _
  have hv : upTo unitCount q.column.toNat line' <+: line' := upTo_isPrefix _ _
  by_contra! hlt
  rw [← ha, ← hb] at hlt
  -- the beginning found for the later point would be a part of the other one, and end before it
  have hprefix := prefix_of_byteSize_le (beforeLine_append_isPrefix hline' hv)
    (beforeLine_append_isPrefix hline hu) hlt.le
  have hbefore := placeAfter_before hprefix fun heq => hlt.ne (congrArg byteSize heq)
  rw [placeAfter_beforeLine_append hline hu, placeAfter_beforeLine_append hline' hv] at hbefore
  rw [Point.le_iff, hp, hq] at hpq
  rcases hbefore with hlines | ⟨hlines, hcolumns⟩ <;> dsimp only at *
  · omega
  · obtain rfl : m = n := by omega
    obtain rfl := Option.some.inj (hline.symm.trans hline')
    have hle : p.column.toNat ≤ q.column.toNat := by omega
    have hwidths := weight_mono (f := unitCount) (upTo_mono unitCount_pos hle line)
    exact absurd hcolumns (Nat.not_lt.2 hwidths)

/-- **From a point to its offset and back.** A point has no offset only if its line does not exist.
Otherwise its offset is a boundary within that line, and the way back leads to the least boundary of
the line that is wide enough, or to the end of a line that is not wide enough, and so to the point
itself where its column is a boundary. The offsets stand in the order of the points. -/
theorem pointAt_offset? (hsize : byteSize source < 2 ^ 32) (p : Point) :
    (offset? source p = none ↔ p.line = 0 ∨ (lines source).length < p.line.toNat) ∧
    (∀ n line, p.line.toNat = n + 1 → (lines source)[n]? = some line →
      ∃ o, offset? source p = some o ∧ Settled source n line p o) ∧
    ∀ q a b, p ≤ q → offset? source p = some a → offset? source q = some b → a ≤ b := by
  refine ⟨offset?_eq_none_iff, ?_, fun q a b hpq => offset?_mono hsize hpq⟩
  intro n line hp hline
  exact ⟨_, offset?_of_line hsize hp hline, settled_upTo hsize hp hline⟩

/-- A column between the units of the second character comes back as the end of that character, and
stands before every column of the second line. -/
theorem pointAt_offset?_mixedText :
    byteSize mixedText < 2 ^ 32 ∧ offset? mixedText ⟨1, 2⟩ = some 6 ∧
      Settled mixedText 0 ['é', '😀'] ⟨1, 2⟩ 6 ∧ pointAt mixedText 6 = ⟨1, 3⟩ ∧
      (⟨1, 2⟩ : Point) ≤ ⟨2, 0⟩ ∧ offset? mixedText ⟨2, 0⟩ = some 7 ∧ 6 ≤ 7 ∧
      offset? mixedText ⟨3, 0⟩ = none := by
  have hsize : byteSize mixedText < 2 ^ 32 := by decide
  have hoffset : offset? mixedText ⟨1, 2⟩ = some 6 := by decide
  have hnext : offset? mixedText ⟨2, 0⟩ = some 7 := by decide
  have hle : (⟨1, 2⟩ : Point) ≤ ⟨2, 0⟩ := by decide
  obtain ⟨-, hsettled, hordered⟩ := pointAt_offset? hsize ⟨1, 2⟩
  obtain ⟨o, ho, h⟩ := hsettled 0 ['é', '😀'] rfl (by decide)
  obtain rfl : o = 6 := Option.some.inj (ho.symm.trans hoffset)
  exact ⟨hsize, hoffset, h, by decide, hle, hnext, hordered _ 6 7 hle hoffset hnext,
    (pointAt_offset? hsize ⟨3, 0⟩).1.2 (Or.inr (by decide))⟩

end Source

end CodeIndex
