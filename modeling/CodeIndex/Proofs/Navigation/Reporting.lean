import CodeIndex.Proofs.Editor.Coordinates
import CodeIndex.Proofs.Navigation.Duality
import CodeIndex.Proofs.Repository.Narrowest

set_option relaxedAutoImplicit false
set_option autoImplicit false

/-!
# Answers in the coordinates of the editor

A question about a position crosses the boundary twice: the position is converted, symbols are
searched and ranked in the coordinates of the index, and the range of the one that is found is
converted back. Since the coordinates are interchangeable, the answer can be read without looking
behind the boundary: hovering shows a range of the editor around the position, and none that belongs
to a symbol of the file and is smaller. A definition is answered with a range of the editor too, and
whatever asks for its target elsewhere is told the same range.

## Main definitions

* `Repository.OneBased` — no symbol has a range in line zero.
* `Navigation.HoversNarrowest` — hovering shows a smallest range around a position.
* `Navigation.TargetAt` — a symbol is what is referred to at a position.
* `Navigation.ReportedAt` — a location is what hovering and the references report of a symbol.

## Main results

* `Repository.Consistent.find?_eq_none_iff`, `Repository.Consistent.definition?_eq_some_iff` — when
  nothing is found, and when a definition is.
* `Navigation.consistent_coordinates` — the coordinates are interchangeable, and for that reason the
  answers are consistent in those of the editor.
-/

namespace CodeIndex

/-- The symbols of a repository have their ranges in the lines of the index. -/
def Repository.OneBased (r : Repository) : Prop :=
  ∀ s ∈ r.toList, ∀ range ∈ s.range, range.OneBased

instance (r : Repository) : Decidable r.OneBased :=
  inferInstanceAs (Decidable (∀ s ∈ r.toList, ∀ range ∈ s.range, range.OneBased))

namespace Repository.Consistent

variable {r : Repository} {uri : Uri} {p : Point}

lemma mem_symbolsIn_iff (h : r.Consistent) {s : Symbol} :
    s ∈ r.symbolsIn uri ↔ s ∈ r.toList ∧ s.uri = uri := by
  rw [h.symbolsIn_eq]
  exact SymbolList.mem_symbolsIn

/-- No symbol is found at a point exactly if no symbol of the file contains it. -/
lemma find?_eq_none_iff (h : r.Consistent) :
    r.find? uri p = none ↔
      ∀ s ∈ r.symbolsIn uri, ∀ range, s.range = some range → range.containsPoint p = false := by
  rw [find?, List.head?_eq_none_iff, List.eq_nil_iff_forall_not_mem]
  refine forall_congr' fun s => ?_
  rw [h.mem_search_iff, not_and, not_exists]
  simp only [not_and, Bool.not_eq_true]

/-- A definition is found exactly if the reference at the position, on the symbol that is found
there, resolves to a stored symbol with a range. -/
lemma definition?_eq_some_iff (h : r.Consistent) {pos : Editor.Position} {loc : Location} :
    Navigation.definition? r uri pos = some loc ↔
      ∃ o ref d, r.find? uri pos.toPoint = some o ∧ o.referenceAt? pos.toPoint = some ref ∧
        ref.target = some d.id ∧ d ∈ r.toList ∧ d.location? = some loc := by
  simp only [Navigation.definition?, Option.bind_eq_some_iff, h.load?_eq_some_iff]
  constructor
  · rintro ⟨o, hfind, ref, href, id, htarget, d, ⟨hd, rfl⟩, hloc⟩
    exact ⟨o, ref, d, hfind, href, htarget, hd, hloc⟩
  · rintro ⟨o, ref, d, hfind, href, htarget, hd, hloc⟩
    exact ⟨o, hfind, ref, href, d.id, htarget, d, ⟨hd, rfl⟩, hloc⟩

end Repository.Consistent

/-- Whether a span contains an addressable position can be seen in the editor. -/
lemma Span.OneBased.containsPosition_eq {s : Span} (hs : s.OneBased) {pos : Editor.Position}
    (hpos : pos.Addressable) :
    s.toEditor.containsPosition pos = s.containsPoint pos.toPoint :=
  (Editor.Range.toEditor_names_iff.2 hs).containsPosition_eq
    (Editor.Position.names_toPoint_iff.2 hpos)

/-- A span has the size that it has in the editor. -/
lemma Span.OneBased.size_eq {s : Span} (hs : s.OneBased) : s.toEditor.size = s.size :=
  (Editor.Range.toEditor_names_iff.2 hs).size_eq

namespace Navigation

/-! ## Hovering -/

/-- Hovering at a position shows nothing exactly if no symbol of the file has a range around it, and
otherwise a symbol of the file with its range, which is around the position, and which is not larger
than that of any other symbol of the file around the position. Everything is said in the coordinates
of the editor. -/
structure HoversNarrowest (r : Repository) (uri : Uri) (pos : Editor.Position) : Prop where
  none_iff : hover? r uri pos = none ↔
    ∀ s ∈ r.symbolsIn uri, ∀ range, s.range.map Span.toEditor = some range →
      range.containsPosition pos = false
  some_narrowest : ∀ {hover}, hover? r uri pos = some hover →
    ∃ s ∈ r.symbolsIn uri, ∃ shown, s.range.map Span.toEditor = some shown ∧
      hover = ⟨markdown s, some shown⟩ ∧ shown.containsPosition pos = true ∧
      ∀ t ∈ r.symbolsIn uri, ∀ range, t.range.map Span.toEditor = some range →
        range.containsPosition pos = true → shown.size ≤ range.size

/-- The search and its ranking come out the same in the coordinates of the editor. -/
lemma hoversNarrowest {r : Repository} (hr : r.Consistent) (hbased : r.OneBased) (uri : Uri)
    {pos : Editor.Position} (hpos : pos.Addressable) : HoversNarrowest r uri pos where
  none_iff := by
    rw [hover?, Option.map_eq_none_iff, hr.find?_eq_none_iff]
    refine forall₂_congr fun s hs => ?_
    simp only [Option.map_eq_some_iff, forall_exists_index, and_imp, forall_apply_eq_imp_iff₂]
    refine forall₂_congr fun range hrange => ?_
    rw [(hbased s (hr.mem_symbolsIn_iff.1 hs).1 range hrange).containsPosition_eq hpos]
  some_narrowest := by
    intro hover hhover
    obtain ⟨s, hfind, rfl⟩ := Option.map_eq_some_iff.1 hhover
    obtain ⟨hs, huri, hp, hleast⟩ := hr.find?_eq_some hfind
    obtain ⟨own, hown, hp⟩ := (Option.any_eq_true _ _).1 hp
    have hownBased := hbased s hs own hown
    refine ⟨s, hr.mem_symbolsIn_iff.2 ⟨hs, huri⟩, own.toEditor, by rw [hown, Option.map_some],
      by rw [hown, Option.map_some], by rw [hownBased.containsPosition_eq hpos, hp], ?_⟩
    intro t ht range hrange hcovers
    obtain ⟨other, hother, rfl⟩ := Option.map_eq_some_iff.1 hrange
    obtain ⟨ht, huri'⟩ := hr.mem_symbolsIn_iff.1 ht
    have hotherBased := hbased t ht other hother
    rw [hotherBased.containsPosition_eq hpos] at hcovers
    -- the ranking compares sizes in the index, which are those in the editor
    have hwidth := hleast t ht huri' ((Option.any_eq_true _ _).2 ⟨other, hother, hcovers⟩)
    rw [Symbol.width, Symbol.width, hown, hother] at hwidth
    rw [hownBased.size_eq, hotherBased.size_eq]
    exact hwidth

/-! ## Definitions -/

/-- A stored symbol is the target at a position: the symbol found there has a reference to it, which
is the one at the position. Its occurrence, unless it has an end in line zero, is around the
position in the coordinates of the editor. -/
def TargetAt (r : Repository) (uri : Uri) (pos : Editor.Position) (d : Symbol) : Prop :=
  d ∈ r.toList ∧ ∃ o ref occurrence, r.find? uri pos.toPoint = some o ∧
    o.referenceAt? pos.toPoint = some ref ∧ ref.target = some d.id ∧
    ref.occurrence = some occurrence ∧
    (occurrence.OneBased → occurrence.toEditor.containsPosition pos = true)

/-- A location names the range of a symbol, and wherever the symbol is the one that is found,
hovering shows the range of the location, and the references end with the location if the
declaration is asked for. -/
structure ReportedAt (r : Repository) (d : Symbol) (loc : Location) : Prop where
  uri_eq : loc.uri = d.uri
  names : ∃ range, d.range = some range ∧ loc.range.Names range
  hover_eq : ∀ q : Editor.Position, r.find? loc.uri q.toPoint = some d →
    hover? r loc.uri q = some ⟨markdown d, some loc.range⟩
  references_eq : ∀ q : Editor.Position, r.find? loc.uri q.toPoint = some d →
    references r loc.uri q true = references r loc.uri q false ++ [loc]

/-- The range of a symbol is converted in one and the same way, whichever query answers with it. -/
lemma reportedAt_iff {r : Repository} (hbased : r.OneBased) {d : Symbol} (hd : d ∈ r.toList)
    {loc : Location} : ReportedAt r d loc ↔ d.location? = some loc := by
  constructor
  · intro h
    obtain ⟨range, hrange, hnames⟩ := h.names
    rw [Symbol.location?, hrange, Option.map_some, hnames.2, ← h.uri_eq]
  · intro hloc
    obtain ⟨range, hrange, rfl⟩ := Option.map_eq_some_iff.1 hloc
    refine ⟨rfl, ⟨range, hrange, ?_⟩, fun q hq => ?_, fun q hq => ?_⟩
    · exact Editor.Range.toEditor_names_iff.2 (hbased d hd range hrange)
    · rw [hover?, hq, Option.map_some, hrange, Option.map_some]
    · rw [references_of_find? hq, references_of_find? hq, hloc]
      simp only [Bool.false_eq_true, ↓reduceIte, List.append_nil, Option.toList_some]

/-- A definition is answered with the place where its target is reported. -/
lemma definition?_eq_some_iff_reportedAt {r : Repository} (hr : r.Consistent) (hbased : r.OneBased)
    {uri : Uri} {pos : Editor.Position} (hpos : pos.Addressable) {loc : Location} :
    definition? r uri pos = some loc ↔ ∃ d, TargetAt r uri pos d ∧ ReportedAt r d loc := by
  rw [hr.definition?_eq_some_iff]
  constructor
  · rintro ⟨o, ref, d, hfind, href, htarget, hd, hloc⟩
    obtain ⟨-, occurrence, -, hocc, hcovers⟩ := Symbol.exists_field_of_referenceAt? href
    refine ⟨d, ⟨hd, o, ref, occurrence, hfind, href, htarget, hocc, fun hone => ?_⟩,
      (reportedAt_iff hbased hd).2 hloc⟩
    rw [hone.containsPosition_eq hpos, hcovers]
  · rintro ⟨d, ⟨hd, o, ref, -, hfind, href, htarget, -⟩, hreported⟩
    exact ⟨o, ref, d, hfind, href, htarget, hd, (reportedAt_iff hbased hd).1 hreported⟩

/-- **Coordinates are consistent at the boundary to the editor.** Between ranges of the editor in
lines that have a successor and spans in lines from one on, the conversions are inverse to each
other and keep the order of points, containment and size. So in every repository without a range in
line zero, whatever was stored, removed and committed before, and at every position in a line that
has a successor, hovering shows a smallest range of the editor that a symbol of the file has around
the position; and if what is referred to there has a range, then its definition is found, and it is
the location that hovering and the references report of it. -/
theorem consistent_coordinates :
    Editor.Interchangeable ∧
      ∀ changes : List Repository.Change, (Repository.run changes).OneBased →
        ∀ (uri : Uri) (pos : Editor.Position), pos.Addressable →
          HoversNarrowest (Repository.run changes) uri pos ∧
            ∀ loc, definition? (Repository.run changes) uri pos = some loc ↔
              ∃ d, TargetAt (Repository.run changes) uri pos d ∧
                ReportedAt (Repository.run changes) d loc := by
  refine ⟨Editor.interchangeable, fun changes hbased uri pos hpos => ?_⟩
  have hr := Repository.consistent_run changes
  exact ⟨hoversNarrowest hr hbased uri hpos,
    fun loc => definition?_eq_some_iff_reportedAt hr hbased hpos⟩

/-- A file that goes down to the last line of the index, with a call there, and the declaration that
the call refers to in its first line. -/
def longestFile : List Repository.Change :=
  [.store (.create "file" ⟨"file:///a"⟩ (some ⟨⟨1, 0⟩, ⟨4294967295, 8⟩⟩)),
    .store ((Symbol.create "call" ⟨"file:///a"⟩
        (some ⟨⟨4294967295, 0⟩, ⟨4294967295, 8⟩⟩)).withField "callee"
      (.reference ⟨some "f", some "def", some ⟨⟨4294967295, 5⟩, ⟨4294967295, 8⟩⟩⟩)),
    .store (.create "def" ⟨"file:///a"⟩ (some ⟨⟨1, 0⟩, ⟨1, 5⟩⟩))]

/-- In the last line, the call is shown, and its callee is found in the first one. -/
theorem consistent_coordinates_longestFile :
    (Repository.run longestFile).OneBased ∧ (⟨4294967294, 6⟩ : Editor.Position).Addressable ∧
      HoversNarrowest (Repository.run longestFile) ⟨"file:///a"⟩ ⟨4294967294, 6⟩ ∧
      definition? (Repository.run longestFile) ⟨"file:///a"⟩ ⟨4294967294, 6⟩ =
        some ⟨⟨"file:///a"⟩, ⟨⟨0, 0⟩, ⟨0, 5⟩⟩⟩ ∧
      ∃ d, TargetAt (Repository.run longestFile) ⟨"file:///a"⟩ ⟨4294967294, 6⟩ d ∧
        ReportedAt (Repository.run longestFile) d ⟨⟨"file:///a"⟩, ⟨⟨0, 0⟩, ⟨0, 5⟩⟩⟩ := by
  have hbased : (Repository.run longestFile).OneBased := by decide
  have hpos : (⟨4294967294, 6⟩ : Editor.Position).Addressable := by decide
  have hdefinition : definition? (Repository.run longestFile) ⟨"file:///a"⟩ ⟨4294967294, 6⟩ =
      some ⟨⟨"file:///a"⟩, ⟨⟨0, 0⟩, ⟨0, 5⟩⟩⟩ := by decide
  have hanswers := consistent_coordinates.2 longestFile hbased ⟨"file:///a"⟩ _ hpos
  exact ⟨hbased, hpos, hanswers.1, hdefinition, (hanswers.2 _).1 hdefinition⟩

end Navigation

end CodeIndex
