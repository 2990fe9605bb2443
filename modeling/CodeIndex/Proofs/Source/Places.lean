import CodeIndex.Proofs.Source.Prefixes
import CodeIndex.Proofs.Text.Pieces
import CodeIndex.Proofs.Tree.Nesting

set_option relaxedAutoImplicit false
set_option autoImplicit false

/-!
# Places in a text

A place in a text is where some beginning of it ends. Reading the beginning character by character
gives the number of the line and the column of the place: a line feed leads to the next line, and
any other character as many units further on the same line. The lines of the text give the same
place as the end of so many whole lines and a beginning of the next one. The two ways to look at a
place are what the two conversions of a source text are about: one finds the point of the beginning
with so many bytes, the other the beginning that a point stands for.

## Main definitions

* `Source.Place`, `Source.Place.after` — a line and a column without bounds, and how they move.
* `Source.placeAfter` — the place at the end of a beginning of a text.
* `Source.beforeLine` — the text in front of a line.
* `Source.locate?` — the search for the line of a byte offset, without the answer that stands behind
  it.
* `Source.HasLine` — the line of a point exists.
* `Source.Unnumbered` — the one place whose line has no number.

## Main results

* `Source.Place.before_after` — reading on leads to a later place.
* `Source.exists_line_of_isPrefix` — a place is on one of the lines.
* `Source.locate?_lines` — a byte offset has the point of the shortest beginning with that many
  bytes.
* `Source.offset?_of_line` — a point has the offset of the shortest beginning of its line that is
  wide enough.
* `Source.fits_placeAfter` — all places but one have lines whose numbers fit into 32 bits.
-/

namespace CodeIndex

namespace Source

/-! ## Reading on -/

/-- A line and a column, whatever their size. -/
structure Place where
  line : Nat
  column : Nat

namespace Place

/-- The place behind a character. -/
def step (p : Place) (c : Char) : Place :=
  if c = '\n' then ⟨p.line + 1, 0⟩ else ⟨p.line, p.column + unitCount c⟩

/-- The place behind a text that begins at some place. -/
def after (p : Place) (u : List Char) : Place := u.foldl step p

/-- The point of a place, as far as its line and its column fit. -/
def toPoint (p : Place) : Point := ⟨UInt32.ofNat p.line, UInt32.ofNat p.column⟩

/-- One place comes before another. -/
def Before (p q : Place) : Prop := p.line < q.line ∨ p.line = q.line ∧ p.column < q.column

/-- The line and the column fit into 32 bits. -/
def Fits (p : Place) : Prop := p.line < 2 ^ 32 ∧ p.column < 2 ^ 32

variable {p q r : Place} {u : List Char}

@[simp] lemma after_cons (p : Place) (c : Char) (u : List Char) :
    p.after (c :: u) = (p.step c).after u := rfl

lemma after_append (p : Place) (u v : List Char) : p.after (u ++ v) = (p.after u).after v :=
  List.foldl_append

/-- A text without a line feed leads on along the same line. -/
lemma after_of_notMem (hu : '\n' ∉ u) (p : Place) : p.after u = ⟨p.line, p.column + width u⟩ := by
  induction u generalizing p with
  | nil => rfl
  | cons c u ih =>
    rw [List.mem_cons, not_or] at hu
    rw [after_cons, ih hu.2, step, if_neg (Ne.symm hu.1), width, weight_cons, Nat.add_assoc]

/-- Line feeds are what lines are counted by. -/
lemma line_after (p : Place) (u : List Char) : (p.after u).line = p.line + u.count '\n' := by
  induction u generalizing p with
  | nil => rfl
  | cons c u ih =>
    rw [after_cons, ih, step]
    by_cases hc : c = '\n'
    · rw [if_pos hc, hc, List.count_cons_self]
      dsimp only
      omega
    · rw [if_neg hc, List.count_cons_of_ne hc]

/-- A column takes at least as many bytes. -/
lemma column_after_le (p : Place) (u : List Char) :
    (p.after u).column ≤ p.column + byteSize u := by
  induction u generalizing p with
  | nil => exact le_rfl
  | cons c u ih =>
    have hu := ih (p.step c)
    have hc := unitCount_le_utf8Size c
    have hstep : (p.step c).column ≤ p.column + unitCount c := by
      unfold step
      split
      · exact Nat.zero_le _
      · exact le_rfl
    rw [after_cons, byteSize]
    omega

lemma Before.trans (hpq : p.Before q) (hqr : q.Before r) : p.Before r := by
  unfold Before at *
  omega

/-- **Reading on leads to a later place.** -/
lemma before_after (hu : u ≠ []) (p : Place) : p.Before (p.after u) := by
  have hstep : ∀ (p : Place) (c : Char), p.Before (p.step c) := by
    intro p c
    have hpos := unitCount_pos c
    unfold step Before
    split
    · exact Or.inl (Nat.lt_succ_self _)
    · exact Or.inr ⟨rfl, by dsimp only; omega⟩
  induction u generalizing p with
  | nil => exact absurd rfl hu
  | cons c u ih =>
    by_cases hnil : u = []
    · subst hnil
      exact hstep p c
    · exact (hstep p c).trans (ih hnil _)

lemma toNat_line_toPoint (hp : p.Fits) : p.toPoint.line.toNat = p.line :=
  UInt32.toNat_ofNat_of_lt' hp.1

lemma toNat_column_toPoint (hp : p.Fits) : p.toPoint.column.toNat = p.column :=
  UInt32.toNat_ofNat_of_lt' hp.2

/-- The points of two places stand in the same order. -/
lemma Before.toPoint_lt (h : p.Before q) (hp : p.Fits) (hq : q.Fits) : p.toPoint < q.toPoint := by
  rwa [Point.lt_iff, toNat_line_toPoint hp, toNat_line_toPoint hq, toNat_column_toPoint hp,
    toNat_column_toPoint hq]

end Place

/-- The place at the end of a beginning of a text. -/
def placeAfter (u : List Char) : Place := (⟨1, 0⟩ : Place).after u

/-- A longer beginning ends at a later place. -/
lemma placeAfter_before {u v : List Char} (h : u <+: v) (hne : u ≠ v) :
    (placeAfter u).Before (placeAfter v) := by
  obtain ⟨t, rfl⟩ := h
  rw [placeAfter, placeAfter, Place.after_append]
  refine Place.before_after ?_ _
  rintro rfl
  exact hne (List.append_nil u).symm

/-! ## Lines -/

variable {source line l u : List Char} {n : Nat}

/-- The text in front of the line with number `n`, counted from zero. -/
def beforeLine (source : List Char) (n : Nat) : List Char :=
  ((lines source).take n).flatMap (· ++ ['\n'])

lemma lines_of_notMem (hl : '\n' ∉ l) : lines l = [l] := Text.pieces_of_notMem hl

lemma lines_append_cons (hl : '\n' ∉ l) (rest : List Char) :
    lines (l ++ '\n' :: rest) = l :: lines rest := Text.pieces_append_cons hl rest

lemma beforeLine_append_cons (hl : '\n' ∉ l) (rest : List Char) (n : Nat) :
    beforeLine (l ++ '\n' :: rest) (n + 1) = l ++ '\n' :: beforeLine rest n := by
  simp [beforeLine, lines_append_cons hl]

lemma lineFeed_notMem (hline : (lines source)[n]? = some line) : '\n' ∉ line :=
  Text.notMem_of_mem_pieces (List.mem_of_getElem? hline)

/-- A line and what is in front of it are a beginning of the text. -/
lemma beforeLine_append_line_isPrefix (hline : (lines source)[n]? = some line) :
    beforeLine source n ++ line <+: source := by
  induction source using Text.pieces_induction '\n' generalizing n with
  | last l hl =>
    rw [lines_of_notMem hl] at hline
    obtain ⟨rfl, rfl⟩ : n = 0 ∧ l = line := by
      cases n with
      | zero => exact ⟨rfl, Option.some.inj hline⟩
      | succ n => cases hline
    exact List.prefix_rfl
  | more l rest hl ih =>
    rw [lines_append_cons hl] at hline
    cases n with
    | zero =>
      obtain rfl := Option.some.inj hline
      exact List.prefix_append _ _
    | succ n =>
      rw [beforeLine_append_cons hl, List.append_assoc, List.cons_append,
        List.prefix_append_right_inj, List.cons_prefix_cons]
      exact ⟨rfl, ih hline⟩

lemma beforeLine_append_isPrefix (hline : (lines source)[n]? = some line) (hu : u <+: line) :
    beforeLine source n ++ u <+: source :=
  ((List.prefix_append_right_inj _).2 hu).trans (beforeLine_append_line_isPrefix hline)

/-- **A place is on one of the lines.** A beginning of a text consists of some whole lines and a
beginning of the next one. -/
lemma exists_line_of_isPrefix (hu : u <+: source) :
    ∃ n line v, (lines source)[n]? = some line ∧ v <+: line ∧ u = beforeLine source n ++ v := by
  induction source using Text.pieces_induction '\n' generalizing u with
  | last l hl => exact ⟨0, l, u, by rw [lines_of_notMem hl]; rfl, hu, rfl⟩
  | more l rest hl ih =>
    -- the beginning ends within the first line, or behind its line feed
    have hfirst : l ++ ['\n'] <+: l ++ '\n' :: rest := by
      rw [List.prefix_append_right_inj]
      exact List.prefix_append ['\n'] rest
    have hsplit : u <+: l ∨ ∃ u', u' <+: rest ∧ u = l ++ '\n' :: u' := by
      rcases List.prefix_or_prefix_of_prefix hu hfirst with h | ⟨u', rfl⟩
      · rcases List.prefix_concat_iff.1 h with rfl | h
        · exact Or.inr ⟨[], List.nil_prefix, rfl⟩
        · exact Or.inl h
      · rw [List.append_assoc, List.prefix_append_right_inj, List.singleton_append,
          List.cons_prefix_cons] at hu
        exact Or.inr ⟨u', hu.2, by simp⟩
    rcases hsplit with h | ⟨u', hu', rfl⟩
    · exact ⟨0, l, u, by rw [lines_append_cons hl]; rfl, h, rfl⟩
    · obtain ⟨n, line, v, hline, hv, rfl⟩ := ih hu'
      refine ⟨n + 1, line, v, ?_, hv, ?_⟩
      · rwa [lines_append_cons hl]
      · rw [beforeLine_append_cons hl, List.append_assoc, List.cons_append]

/-- Whole lines lead to the beginning of the next one. -/
lemma after_flatMap {ls : List (List Char)} (hls : ∀ l ∈ ls, '\n' ∉ l) (k : Nat) :
    (⟨k, 0⟩ : Place).after (ls.flatMap (· ++ ['\n'])) = ⟨k + ls.length, 0⟩ := by
  induction ls generalizing k with
  | nil => rfl
  | cons l ls ih =>
    have hl := hls l List.mem_cons_self
    rw [List.flatMap_cons, Place.after_append, Place.after_append, Place.after_of_notMem hl]
    have hstep : (⟨k, 0 + width l⟩ : Place).after ['\n'] = ⟨k + 1, 0⟩ := rfl
    rw [hstep, ih fun l' hl' => hls l' (List.mem_cons_of_mem _ hl'), List.length_cons]
    congr 1
    omega

/-- The place of a beginning in terms of lines. -/
lemma placeAfter_beforeLine_append (hline : (lines source)[n]? = some line) (hu : u <+: line) :
    placeAfter (beforeLine source n ++ u) = ⟨n + 1, width u⟩ := by
  have hnotMem : '\n' ∉ u := fun h => lineFeed_notMem hline (hu.subset h)
  have hlength : ((lines source).take n).length = n := by
    rw [List.length_take]
    have := (List.getElem?_eq_some_iff.1 hline).1
    omega
  have hbefore : placeAfter (beforeLine source n) = ⟨n + 1, 0⟩ := by
    rw [placeAfter, beforeLine, after_flatMap, hlength, Nat.add_comm]
    exact fun l hl => Text.notMem_of_mem_pieces (List.mem_of_mem_take hl)
  rw [placeAfter, Place.after_append, ← placeAfter, hbefore, Place.after_of_notMem hnotMem,
    Nat.zero_add]

/-! ## The point of a byte offset -/

/-- The search through the lines for the one that a byte offset falls on, without the answer that
stands behind the lines. -/
def locate? (line offset : Nat) : List (List Char) → Option Point
  | [] => none
  | l :: ls =>
    if offset ≤ byteSize l then some ⟨UInt32.ofNat line, columnAt offset l⟩
    else locate? (line + 1) (offset - (byteSize l + 1)) ls

lemma locate_eq (k o : Nat) (ls : List (List Char)) :
    locate k o ls = (locate? k o ls).getD ⟨1, 0⟩ := by
  induction ls generalizing k o with
  | nil => rfl
  | cons l ls ih =>
    rw [locate, locate?]
    split
    · rfl
    · exact ih _ _

/-- On the line that an offset falls on, the search ends at the shortest beginning with that many
bytes. -/
lemma locate?_cons_of_le {o : Nat} (hl : '\n' ∉ l) (h : o ≤ byteSize l) (k : Nat)
    (rest : List Char) (ls : List (List Char)) :
    locate? k o (l :: ls) =
      some ((⟨k, 0⟩ : Place).after (upTo Char.utf8Size o (l ++ rest))).toPoint := by
  have hnotMem : '\n' ∉ upTo Char.utf8Size o l := fun hmem => hl ((upTo_isPrefix o l).subset hmem)
  rw [locate?, if_pos h, columnAt_eq, upTo_append (by rwa [← byteSize_eq_weight]),
    Place.after_of_notMem hnotMem, Nat.zero_add]
  rfl

/-- **The search through the lines ends at the shortest beginning with so many bytes.** It always
ends at a line, since no offset exceeds the size of the text. -/
lemma locate?_lines {o : Nat} (h : o ≤ byteSize source) (k : Nat) :
    locate? k o (lines source) =
      some ((⟨k, 0⟩ : Place).after (upTo Char.utf8Size o source)).toPoint := by
  induction source using Text.pieces_induction '\n' generalizing k o with
  | last l hl =>
    rw [lines_of_notMem hl, locate?_cons_of_le hl h k [], List.append_nil]
  | more l rest hl ih =>
    rw [lines_append_cons hl]
    by_cases ho : o ≤ byteSize l
    · exact locate?_cons_of_le hl ho k _ _
    · have hsize : '\n'.utf8Size = 1 := by decide
      have hrest : o - (byteSize l + 1) ≤ byteSize rest := by
        rw [byteSize_eq_weight, weight_append, weight_cons, ← byteSize_eq_weight, hsize] at h
        omega
      have htake : upTo Char.utf8Size o (l ++ '\n' :: rest) =
          l ++ '\n' :: upTo Char.utf8Size (o - (byteSize l + 1)) rest := by
        rw [upTo_append_of_lt (by rw [← byteSize_eq_weight]; omega), ← byteSize_eq_weight, upTo,
          if_neg (by omega), hsize, Nat.sub_sub]
      rw [locate?, if_neg ho, ih hrest, htake, Place.after_append, Place.after_of_notMem hl]
      rfl

/-- An offset past the end counts as the end, so that its line is found as well. -/
lemma locate?_min (source : List Char) (o : Nat) :
    locate? 1 (min o (byteSize source)) (lines source) =
      some (placeAfter (upTo Char.utf8Size o source)).toPoint := by
  rw [locate?_lines (min_le_right _ _), byteSize_eq_weight, upTo_min Char.utf8Size_pos]
  rfl

/-- A byte offset has the point of the shortest beginning with that many bytes. -/
lemma pointAt_eq (source : List Char) (o : Nat) :
    pointAt source o = (placeAfter (upTo Char.utf8Size o source)).toPoint := by
  rw [pointAt, locate_eq, locate?_min, Option.getD_some]

/-! ## The byte offset of a point -/

/-- The search for a column goes through the line with the number looked for, if there is one. -/
lemma seek?_eq (column : UInt32) (n : Nat) (ls : List (List Char)) :
    seek? column n ls =
      ls[n]?.map fun l =>
        byteSize ((ls.take n).flatMap (· ++ ['\n'])) + bytesBefore column 0 l := by
  induction ls generalizing n with
  | nil => cases n <;> rfl
  | cons l ls ih =>
    cases n with
    | zero => simp [seek?, byteSize]
    | succ n =>
      have hsize : '\n'.utf8Size = 1 := by decide
      rw [seek?, ih, Option.map_map, List.getElem?_cons_succ]
      refine congrArg (Option.map · ls[n]?) (funext fun l' => ?_)
      simp [byteSize_eq_weight, hsize]
      omega

/-- The line of a point exists. -/
def HasLine (source : List Char) (p : Point) : Prop :=
  p.line ≠ 0 ∧ p.line.toNat ≤ (lines source).length

lemma HasLine.exists_line {p : Point} (h : HasLine source p) :
    ∃ n line, p.line.toNat = n + 1 ∧ (lines source)[n]? = some line := by
  obtain ⟨hne, hle⟩ := h
  have hpos : p.line.toNat ≠ 0 := fun h0 => hne (UInt32.toNat_inj.1 h0)
  have hlt : p.line.toNat - 1 < (lines source).length := by omega
  exact ⟨_, _, by omega, List.getElem?_eq_getElem hlt⟩

lemma offset?_eq_none_iff {p : Point} :
    offset? source p = none ↔ p.line = 0 ∨ (lines source).length < p.line.toNat := by
  unfold offset?
  split
  · next h => simp [h]
  · next h =>
    have hpos : p.line.toNat ≠ 0 := fun h0 => h (UInt32.toNat_inj.1 h0)
    rw [seek?_eq, Option.map_eq_none_iff, List.getElem?_eq_none_iff, or_iff_right h]
    omega

/-- A point has an offset exactly if its line exists. -/
lemma isSome_offset?_iff {p : Point} : (offset? source p).isSome ↔ HasLine source p := by
  rw [Option.isSome_iff_ne_none, ne_eq, offset?_eq_none_iff, not_or, not_lt, HasLine]

/-- **A point has the offset of the shortest beginning of its line that is wide enough.** -/
lemma offset?_of_line (hsize : byteSize source < 2 ^ 32) {p : Point}
    (hp : p.line.toNat = n + 1) (hline : (lines source)[n]? = some line) :
    offset? source p =
      some (byteSize (beforeLine source n ++ upTo unitCount p.column.toNat line)) := by
  have hne : p.line ≠ 0 := by
    intro h
    rw [h] at hp
    cases hp
  have hfits : (0 : UInt32).toNat + width line < 2 ^ 32 := by
    have hwidth := width_le_byteSize line
    have hprefix := byteSize_mono (beforeLine_append_line_isPrefix hline)
    rw [byteSize_append] at hprefix
    rw [UInt32.toNat_zero]
    omega
  rw [offset?, if_neg hne, hp, Nat.add_sub_cancel, seek?_eq, hline, Option.map_some,
    bytesBefore_eq hfits, UInt32.toNat_zero, Nat.sub_zero, byteSize_eq_weight, weight_append,
    beforeLine]

/-! ## Numbers of lines -/

/-- A line feed is a byte of its own. -/
lemma byteSize_replicate (n : Nat) : byteSize (List.replicate n '\n') = n := by
  rw [byteSize_eq_weight, weight_replicate]
  exact Nat.mul_one n

/-- Line feeds lead to the beginning of a line. -/
lemma after_replicate (k n : Nat) :
    (⟨k, 0⟩ : Place).after (List.replicate n '\n') = ⟨k + n, 0⟩ := by
  induction n generalizing k with
  | zero => rfl
  | succ n ih =>
    rw [List.replicate_succ, Place.after_cons, Place.step, if_pos rfl, ih, Nat.add_right_comm]
    rfl

/-- A text of line feeds has a boundary at every offset. -/
lemma upTo_replicate {o n : Nat} (h : o ≤ n) :
    upTo Char.utf8Size o (List.replicate n '\n') = List.replicate o '\n' := by
  have hprefix : List.replicate o '\n' <+: List.replicate n '\n' := by
    rw [List.prefix_replicate_iff, List.length_replicate]
    exact ⟨h, rfl⟩
  have hupTo := upTo_weight Char.utf8Size_pos hprefix
  rwa [← byteSize_eq_weight, byteSize_replicate] at hupTo

/-- The end of a text that consists of `2 ^ 32 - 1` line feeds. Its line has the number `2 ^ 32`,
which does not fit into 32 bits. -/
def Unnumbered (source : List Char) (o : Nat) : Prop :=
  source = List.replicate (2 ^ 32 - 1) '\n' ∧ byteSize source ≤ o

/-- The column of a place fits into 32 bits, and so does the number of its line, unless the text
consists of as many line feeds as there are such numbers. -/
lemma fits_placeAfter (hsize : byteSize source < 2 ^ 32) (hu : u <+: source) :
    (placeAfter u).Fits ∨ u = source ∧ source = List.replicate (2 ^ 32 - 1) '\n' := by
  have hbytes := byteSize_mono hu
  have hcolumn : (placeAfter u).column < 2 ^ 32 := by
    have hle : (placeAfter u).column ≤ 0 + byteSize u := Place.column_after_le ⟨1, 0⟩ u
    omega
  have hline : (placeAfter u).line = 1 + u.count '\n' := Place.line_after _ u
  have hcount : u.count '\n' ≤ u.length := List.count_le_length
  have hlength := length_le_byteSize u
  by_cases hall : u.count '\n' = 2 ^ 32 - 1
  · -- there is room for line feeds only, and for nothing behind them
    have hfull : u = source := by
      refine eq_of_weight_eq Char.utf8Size_pos hu ?_
      rw [← byteSize_eq_weight]
      omega
    refine Or.inr ⟨hfull, ?_⟩
    rw [← hfull, List.eq_replicate_iff]
    have hsame : u.count '\n' = u.length := by omega
    refine ⟨by omega, fun c hc => ?_⟩
    exact (List.count_eq_length.1 hsame c hc).symm
  · exact Or.inl ⟨by omega, hcolumn⟩

end Source

end CodeIndex
