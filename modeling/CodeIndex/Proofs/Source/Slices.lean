import CodeIndex.Proofs.Source.Offsets

set_option relaxedAutoImplicit false
set_option autoImplicit false

/-!
# The text under a span

Cutting a text at a byte offset succeeds only at a boundary between characters. The offsets of
points are such boundaries, whatever the points are; so the text under a span can be cut out
whenever both of its lines exist, and the span of a piece of the text gives the piece back.

## Main definitions

* `Source.Covers` — how a text is divided around the piece under a span.

## Main results

* `Source.between?_append` — a text is cut at the sizes of its parts.
* `Source.exists_covers` — the text under a span of existing lines.
* `Source.slice?_spanAt` — the span of a piece leads back to the piece, and every span of existing
  lines to some piece.
-/

namespace CodeIndex

namespace Source

variable {source u v before piece after : List Char} {a b : Nat} {s : Span}

/-! ## Cutting at the sizes of parts -/

lemma dropBytes?_cons (c : Char) (n : Nat) (cs : List Char) :
    dropBytes? (c.utf8Size + n) (c :: cs) = dropBytes? n cs := by
  obtain ⟨k, hk⟩ := Nat.exists_eq_succ_of_ne_zero c.utf8Size_pos.ne'
  rw [hk, Nat.succ_add, dropBytes?, hk, if_pos (by omega)]
  congr 1
  omega

lemma takeBytes?_cons (c : Char) (n : Nat) (cs : List Char) :
    takeBytes? (c.utf8Size + n) (c :: cs) = (takeBytes? n cs).map (c :: ·) := by
  obtain ⟨k, hk⟩ := Nat.exists_eq_succ_of_ne_zero c.utf8Size_pos.ne'
  rw [hk, Nat.succ_add, takeBytes?, hk, if_pos (by omega)]
  congr 2
  omega

lemma dropBytes?_append (u v : List Char) : dropBytes? (byteSize u) (u ++ v) = some v := by
  induction u with
  | nil => exact dropBytes?.eq_1 v
  | cons c u ih => rw [byteSize, List.cons_append, dropBytes?_cons, ih]

lemma takeBytes?_append (u v : List Char) : takeBytes? (byteSize u) (u ++ v) = some u := by
  induction u with
  | nil => exact takeBytes?.eq_1 v
  | cons c u ih => rw [byteSize, List.cons_append, takeBytes?_cons, ih, Option.map_some]

/-- A text is cut at the sizes of its parts. -/
lemma between?_append (before piece after : List Char) :
    between? (before ++ piece ++ after) (byteSize before) (byteSize (before ++ piece)) =
      some piece := by
  rw [between?, List.append_assoc, dropBytes?_append, Option.bind_some, byteSize_append,
    Nat.add_sub_cancel_left, takeBytes?_append]

/-- Two boundaries of a text divide it into three parts. -/
lemma exists_parts (ha : a ∈ boundaries byteSize source) (hb : b ∈ boundaries byteSize source)
    (hab : a ≤ b) : ∃ before piece after, source = before ++ piece ++ after ∧
      byteSize before = a ∧ byteSize (before ++ piece) = b := by
  obtain ⟨u, hu, rfl⟩ := ha
  obtain ⟨v, hv, rfl⟩ := hb
  obtain ⟨piece, rfl⟩ := prefix_of_byteSize_le hu hv hab
  obtain ⟨after, rfl⟩ := hv
  exact ⟨u, piece, after, rfl, rfl, rfl⟩

/-! ## The text under a span -/

/-- A text is divided into what is in front of a span, what is under it and what is behind it. An
inverted span has nothing under it. -/
structure Covers (source : List Char) (s : Span) (before piece after : List Char) : Prop where
  parts : source = before ++ piece ++ after
  start : offset? source s.start = some (byteSize before)
  stop : s.start ≤ s.stop → offset? source s.stop = some (byteSize (before ++ piece))
  inverted : s.stop ≤ s.start → piece = []

lemma slice?_eq_bind (source : List Char) (s : Span) :
    slice? source s = (offset? source s.start).bind fun start =>
      (offset? source s.stop).bind fun stop => between? source start (max stop start) := by
  rw [slice?]
  cases offset? source s.start <;> cases offset? source s.stop <;> rfl

lemma hasLine_of_slice? (h : slice? source s = some piece) :
    HasLine source s.start ∧ HasLine source s.stop := by
  rw [slice?_eq_bind] at h
  obtain ⟨a, ha, hstop⟩ := Option.bind_eq_some_iff.1 h
  obtain ⟨b, hb, -⟩ := Option.bind_eq_some_iff.1 hstop
  rw [← isSome_offset?_iff, ← isSome_offset?_iff]
  exact ⟨Option.isSome_of_eq_some ha, Option.isSome_of_eq_some hb⟩

/-- A span of existing lines has a piece of the text under it. -/
lemma exists_covers (hsize : byteSize source < 2 ^ 32) (hstart : HasLine source s.start)
    (hstop : HasLine source s.stop) :
    ∃ before piece after, slice? source s = some piece ∧ Covers source s before piece after := by
  obtain ⟨a, ha⟩ := Option.isSome_iff_exists.1 (isSome_offset?_iff.2 hstart)
  obtain ⟨b, hb⟩ := Option.isSome_iff_exists.1 (isSome_offset?_iff.2 hstop)
  have hboundary := mem_boundaries_of_offset? hsize ha
  have hboundary' : max b a ∈ boundaries byteSize source := by
    rcases le_total b a with h | h
    · rwa [max_eq_right h]
    · rw [max_eq_left h]
      exact mem_boundaries_of_offset? hsize hb
  obtain ⟨before, piece, after, rfl, hbefore, hpiece⟩ :=
    exists_parts hboundary hboundary' (le_max_right b a)
  refine ⟨before, piece, after, ?_, rfl, ?_, ?_, ?_⟩
  · rw [slice?_eq_bind, ha, hb, Option.bind_some, Option.bind_some, ← hpiece, ← hbefore,
      between?_append]
  · rw [ha, hbefore]
  · intro hle
    rw [hb, hpiece, max_eq_left (offset?_mono hsize hle ha hb)]
  · intro hle
    -- the piece has no bytes
    rw [max_eq_right (offset?_mono hsize hle hb ha), byteSize_append, byteSize_eq_weight] at hpiece
    rw [byteSize_eq_weight] at hbefore
    exact eq_nil_of_weight_eq_zero Char.utf8Size_pos (by omega)

/-- **The text under a span.** The span of a piece of the text leads back to the piece, except for a
piece at the end of the text of `2 ^ 32 - 1` line feeds, which has no point to end at. Whatever a
span is, there is text under it exactly if both of its lines exist; that text is a piece that begins
at the offset of the start of the span, ends at the offset of its stop, and is empty if the span is
inverted. -/
theorem slice?_spanAt (hsize : byteSize source < 2 ^ 32) :
    (∀ before piece after, source = before ++ piece ++ after →
      (¬ Unnumbered source (byteSize (before ++ piece)) →
        slice? source (spanAt source (byteSize before) (byteSize (before ++ piece))) =
          some piece) ∧
      (Unnumbered source (byteSize (before ++ piece)) →
        slice? source (spanAt source (byteSize before) (byteSize (before ++ piece))) = none)) ∧
    (∀ s, (slice? source s).isSome ↔ HasLine source s.start ∧ HasLine source s.stop) ∧
    ∀ s piece, slice? source s = some piece →
      ∃ before after, Covers source s before piece after := by
  refine ⟨?piece, ?lines, ?covers⟩
  case piece =>
    rintro before piece after rfl
    have hstop : before ++ piece <+: before ++ piece ++ after := List.prefix_append _ _
    have hstart : before <+: before ++ piece := List.prefix_append _ _
    constructor
    · intro h
      have h' := fun hu => h (Unnumbered.mono hu (byteSize_mono hstart))
      rw [slice?_eq_bind, spanAt, offset?_pointAt_byteSize hsize (hstart.trans hstop) h',
        offset?_pointAt_byteSize hsize hstop h, Option.bind_some, Option.bind_some,
        max_eq_left (byteSize_mono hstart), between?_append]
    · intro h
      rw [slice?_eq_bind, Option.bind_eq_none_iff]
      intro start _
      rw [spanAt, offset?_pointAt_of_unnumbered h, Option.bind_none]
  case lines =>
    intro s
    constructor
    · intro h
      obtain ⟨piece, hpiece⟩ := Option.isSome_iff_exists.1 h
      exact hasLine_of_slice? hpiece
    · rintro ⟨hstart, hstop⟩
      obtain ⟨before, piece, after, hpiece, -⟩ := exists_covers hsize hstart hstop
      exact Option.isSome_of_eq_some hpiece
  case covers =>
    intro s piece hpiece
    obtain ⟨hstart, hstop⟩ := hasLine_of_slice? hpiece
    obtain ⟨before, piece', after, hpiece', hcovers⟩ := exists_covers hsize hstart hstop
    obtain rfl := Option.some.inj (hpiece.symm.trans hpiece')
    exact ⟨before, after, hcovers⟩

/-- The second character is under its own span. A span that begins inside it has the rest of its
line under it, which is nothing, and so has an inverted span. -/
theorem slice?_spanAt_mixedText :
    byteSize mixedText < 2 ^ 32 ∧ mixedText = ['é'] ++ ['😀'] ++ ['\n', 'a'] ∧
      ¬ Unnumbered mixedText (byteSize (['é'] ++ ['😀'])) ∧
      slice? mixedText (spanAt mixedText (byteSize ['é']) (byteSize (['é'] ++ ['😀']))) =
        some ['😀'] ∧
      slice? mixedText ⟨⟨1, 2⟩, ⟨1, 9⟩⟩ = some [] ∧
      (∃ before after, Covers mixedText ⟨⟨1, 2⟩, ⟨1, 9⟩⟩ before [] after) ∧
      slice? mixedText ⟨⟨2, 1⟩, ⟨1, 0⟩⟩ = some [] ∧
      ¬ (slice? mixedText ⟨⟨1, 0⟩, ⟨3, 0⟩⟩).isSome := by
  have hsize : byteSize mixedText < 2 ^ 32 := by decide
  have hshort : ¬ Unnumbered mixedText (byteSize (['é'] ++ ['😀'])) := fun h =>
    absurd h.2 (by decide)
  have hrest : slice? mixedText ⟨⟨1, 2⟩, ⟨1, 9⟩⟩ = some [] := by decide
  obtain ⟨hpiece, hlines, hcovers⟩ := slice?_spanAt hsize
  refine ⟨hsize, rfl, hshort, (hpiece _ _ _ rfl).1 hshort, hrest, hcovers _ _ hrest, by decide, ?_⟩
  rw [hlines]
  exact fun h => absurd h.2.2 (by decide)

/-- The last line feed of the text of `2 ^ 32 - 1` of them is under no span of its own. -/
theorem slice?_spanAt_lineFeeds :
    byteSize lineFeeds < 2 ^ 32 ∧
      lineFeeds = List.replicate (2 ^ 32 - 2) '\n' ++ ['\n'] ++ [] ∧
      slice? lineFeeds (spanAt lineFeeds (byteSize (List.replicate (2 ^ 32 - 2) '\n'))
        (byteSize (List.replicate (2 ^ 32 - 2) '\n' ++ ['\n']))) = none := by
  have hparts : List.replicate (2 ^ 32 - 2) '\n' ++ ['\n'] = lineFeeds := by
    rw [lineFeeds, show 2 ^ 32 - 1 = 2 ^ 32 - 2 + 1 from rfl, List.replicate_succ']
  refine ⟨?_, by rw [hparts, List.append_nil], ?_⟩
  · rw [byteSize_lineFeeds]
    omega
  · rw [hparts, byteSize_lineFeeds, slice?_eq_bind, spanAt,
      offset?_pointAt_of_unnumbered unnumbered_lineFeeds]
    exact Option.bind_fun_none _

end Source

end CodeIndex
