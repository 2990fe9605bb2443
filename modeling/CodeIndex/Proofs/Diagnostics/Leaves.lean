import Mathlib.Data.List.Basic
import CodeIndex.Proofs.Tree.Deepest
import CodeIndex.Server.Diagnostics

set_option relaxedAutoImplicit false
set_option autoImplicit false

/-!
# Reports about leaves

On request the diagnostics of a file come with reports about the leaves of its tree: a warning for
each leaf that the look-up of its own range does not find again, and the range and text of every
leaf. In a tree whose ranges are laid out the way a text is, the look-up finds every leaf, so there
are no warnings, and the other reports are one for each leaf, behind those of the issues.

A range includes its ends, so ranges that touch do overlap. Those of tokens that follow each other
in a text do touch, and this does no harm as long as none of them is empty.

## Main definitions

* `Span.Apart` — two spans do not overlap, or touch without being empty.
* `Node.LaidOut` — ranges are in order, nested along the branches of a tree and apart across them.
* `FileState.issueReports` — the reports of the issues of a file.
* `Node.Located` — a report tells the range of a leaf and the text there.

## Main results

* `Node.LaidOut.findAround_leaf` — a leaf is found again under its own range.
* `Node.leafWarning?_eq_none_iff` — in any tree, the warning is left out exactly in that case.
* `FileState.diagnostics_of_laidOut` — the diagnostics of a file with such a tree.
-/

namespace CodeIndex

namespace Span

/-- Two spans share no point, or neither is empty and they share an end at most. -/
def Apart (s t : Span) : Prop :=
  s.overlaps t = false ∨
    s.start < s.stop ∧ t.start < t.stop ∧ (s.stop ≤ t.start ∨ t.stop ≤ s.start)

instance (s t : Span) : Decidable (s.Apart t) := inferInstanceAs (Decidable (_ ∨ _))

/-- A span is not apart from one in order that lies in it. -/
lemma not_apart_of_containsSpan {s t : Span} (ht : t.start ≤ t.stop)
    (hst : s.containsSpan t = true) : ¬ s.Apart t := by
  obtain ⟨hstart, hstop⟩ := containsSpan_iff.1 hst
  rintro (hnone | ⟨-, hnonempty, htouch⟩)
  · rw [overlaps, Bool.and_eq_false_iff, decide_eq_false_iff_not, decide_eq_false_iff_not] at hnone
    exact hnone.elim (· (Point.le_trans hstart ht)) (· (Point.le_trans ht hstop))
  · rw [Point.le_iff] at hstart hstop
    rw [Point.lt_iff] at hnonempty
    rw [Point.le_iff, Point.le_iff] at htouch
    omega

end Span

namespace Node

variable {root leaf n : Node} {s : Span}

/-! ## Trees laid out like a text -/

/-- Ranges are in order, nested along the branches of a tree, and apart across them, for any two
nodes of which neither is an ancestor of the other. -/
structure LaidOut (root : Node) : Prop where
  ordered : ∀ n ∈ root.preorder, ∀ s ∈ n.span, s.start ≤ s.stop
  nested : root.Nested
  apart : ∀ a ∈ root.occurrences, ∀ b ∈ root.occurrences, ¬ a.1 <+: b.1 → ¬ b.1 <+: a.1 →
    ∀ s ∈ a.2.span, ∀ t ∈ b.2.span, s.Apart t

/-- In such a tree a leaf is found again under its own range.

**Proof sketch.** Something is found, because the leaf has the range. What is found has a range
around that of the leaf. It stands neither apart from the leaf, since the ranges are not, nor below
it, since there is nothing. If it stood above the leaf, then the leaf would be below what was found
and have the range. -/
theorem LaidOut.findAround_leaf (h : root.LaidOut) (hleaf : leaf ∈ root.preorder)
    (hs : leaf.span = some s) (hchildless : leaf.children = []) :
    root.findAround s = some leaf := by
  have hself : leaf.covered (·.containsSpan s) = true :=
    covered_iff.2 ⟨s, hs, Span.containsSpan_iff.2 ⟨Point.le_refl _, Point.le_refl _⟩⟩
  rw [findAround_eq_deepest]
  cases hfind : root.deepest (·.containsSpan s) with
  | none =>
    rw [(h.nested.deepest_eq_none_iff (upward_containsSpan s)).1 hfind leaf hleaf] at hself
    cases hself
  | some n =>
    obtain ⟨path, hfound⟩ := h.nested.exists_foundAt (upward_containsSpan s) hfind
    obtain ⟨path', hpath'⟩ := exists_path_of_mem_preorder hleaf
    obtain ⟨t, ht, hcontains⟩ := covered_iff.1 hfound.covered
    by_cases habove : path <+: path'
    · obtain ⟨below, rfl⟩ := habove
      rw [at?_append hfound.at_path] at hpath'
      cases below with
      | nil => rw [← hpath', at?]
      | cons i below =>
        obtain ⟨c, hc, hbelow⟩ := Option.bind_eq_some_iff.1 hpath'
        have hmem : leaf ∈ c.preorder := by
          rw [← map_snd_occurrences]
          exact List.mem_map_of_mem (mem_occurrences_iff.2 hbelow)
        rw [hfound.below c (List.mem_of_getElem? hc) leaf hmem] at hself
        cases hself
    · by_cases hbelow : path' <+: path
      · obtain ⟨below, rfl⟩ := hbelow
        have hat := hfound.at_path
        rw [at?_append hpath'] at hat
        cases below with
        | nil => exact absurd (by simp) habove
        | cons i below =>
          rw [at?, hchildless] at hat
          cases hat
      · have hapart : t.Apart s :=
          h.apart _ (mem_occurrences_iff.2 hfound.at_path) _ (mem_occurrences_iff.2 hpath') habove
            hbelow t ht s hs
        exact absurd hapart (Span.not_apart_of_containsSpan (h.ordered leaf hleaf s hs) hcontains)

/-! ## Warnings -/

/-- There is no warning about a leaf exactly if the look-up of its range finds it again. -/
lemma leafWarning?_eq_none_iff {source : String} (hs : leaf.span = some s) :
    leafWarning? source root leaf = none ↔ ∃ n, root.findAround s = some n ∧ n.key = leaf.key := by
  rw [leafWarning?, hs, Option.bind_some]
  cases root.findAround s with
  | none => simp
  | some n => by_cases hkey : n.key = leaf.key <;> simp [sameAs, hkey]

-- an empty range that touches the one before it: the look-up finds the other leaf
example :
    let word : Node := .mk ⟨1, "Word", some ⟨⟨1, 0⟩, ⟨1, 2⟩⟩, none, .ok .variable, []⟩ []
    let missing : Node := .mk ⟨2, "Missing", some ⟨⟨1, 2⟩, ⟨1, 2⟩⟩, none, .ok .variable, []⟩ []
    let unit : Node :=
      .mk ⟨0, "Unit", some ⟨⟨1, 0⟩, ⟨1, 2⟩⟩, none, .ok .variable, []⟩ [word, missing]
    (leafWarning? "mini" unit missing).isSome = true := by decide

lemma mem_positionedLeaves_iff :
    leaf ∈ root.positionedLeaves ↔
      leaf ∈ root.preorder ∧ leaf.positioned = true ∧ leaf.children = [] := by
  rw [positionedLeaves, walk_eq_preorder, List.mem_filter, Bool.and_eq_true, List.isEmpty_iff]

lemma LaidOut.leafWarning?_eq_none (h : root.LaidOut) (source : String)
    (hleaf : leaf ∈ root.positionedLeaves) : leafWarning? source root leaf = none := by
  obtain ⟨hmem, hpositioned, hchildless⟩ := mem_positionedLeaves_iff.1 hleaf
  obtain ⟨s, hs⟩ := Option.isSome_iff_exists.1 hpositioned
  exact (leafWarning?_eq_none_iff hs).2 ⟨leaf, h.findAround_leaf hmem hs hchildless, rfl⟩

/-! ## Positions -/

/-- A report tells the range of a leaf and the text there, for information. -/
def Located (source text : String) (leaf : Node) (d : Diagnostic) : Prop :=
  ∃ s, leaf.span = some s ∧ d = ⟨s.toEditor, .information, none, source,
    "Leaf position: " ++ s.text ++ ", Source text: " ++
      String.ofList ((Source.slice? text.toList s).getD [])⟩

lemma exists_located (source text : String) (hpositioned : leaf.positioned = true) :
    ∃ d, leafPosition? source text leaf = some d ∧ leaf.Located source text d := by
  obtain ⟨s, hs⟩ := Option.isSome_iff_exists.1 hpositioned
  exact ⟨_, by rw [leafPosition?, hs, Option.map_some], s, hs, rfl⟩

/-- Without warnings, the reports about leaves are one for each leaf, if they are asked for. -/
lemma forall₂_located {settings : DiagnosticsSettings} {source text : String} {leaves : List Node}
    (hwarning : ∀ leaf ∈ leaves, leafWarning? source root leaf = none)
    (hpositioned : ∀ leaf ∈ leaves, leaf.positioned = true) :
    List.Forall₂ (Located source text) (if settings.showLeafPositions then leaves else [])
      (leaves.flatMap (leafDiagnostics settings source text root)) := by
  induction leaves with
  | nil =>
    rw [ite_self]
    exact .nil
  | cons leaf leaves ih =>
    obtain ⟨hfirst, hrest⟩ := List.forall_mem_cons.1 hwarning
    obtain ⟨hat, hpositioned⟩ := List.forall_mem_cons.1 hpositioned
    obtain ⟨d, hd, hlocated⟩ := exists_located source text hat
    have htail := ih hrest hpositioned
    rw [List.flatMap_cons, leafDiagnostics, hfirst, hd]
    cases hshow : settings.showLeafPositions with
    | false =>
      rw [hshow] at htail
      simpa using htail
    | true =>
      rw [hshow] at htail
      simpa using List.Forall₂.cons hlocated htail

end Node

namespace FileState

/-- The reports of the issues of a file: those that the filter allows and that have a range, if they
are to be shown. -/
def issueReports (f : FileState) (settings : DiagnosticsSettings) (filter : DiagnosticFilter)
    (source : String) : List Diagnostic :=
  if settings.showParsingErrors then
    (f.issues.filter filter.allows).filterMap (Issue.diagnostic? source)
  else []

/-- **Well laid out trees raise no warnings.** If the ranges in the tree of a file are in order,
nested along branches and apart across them, then no leaf is warned of, whatever the settings. The
diagnostics of the file are the reports of its issues, followed by one for information about each
positioned leaf, in the order of the walk, if these are asked for. -/
theorem diagnostics_of_laidOut {f : FileState} {root : Node} (hroot : f.root = some root)
    (h : root.LaidOut) (settings : DiagnosticsSettings) (filter : DiagnosticFilter)
    (source : String) :
    (∀ leaf ∈ root.walk, leaf.children = [] → root.leafWarning? source leaf = none) ∧
      ∃ reports, f.diagnostics settings filter source =
          f.issueReports settings filter source ++ reports ∧
        List.Forall₂ (Node.Located source f.text)
          (if settings.showLeafPositions then
            root.walk.filter fun n => n.positioned && n.children.isEmpty
          else []) reports := by
  have hwarning : ∀ leaf ∈ root.positionedLeaves, root.leafWarning? source leaf = none :=
    fun leaf hleaf => h.leafWarning?_eq_none source hleaf
  constructor
  · intro leaf hleaf hchildless
    cases hs : leaf.span with
    | none => rw [Node.leafWarning?, hs, Option.bind_none]
    | some s =>
      refine hwarning leaf (Node.mem_positionedLeaves_iff.2 ⟨?_, ?_, hchildless⟩)
      · rwa [Node.walk_eq_preorder] at hleaf
      · rw [Node.positioned, hs, Option.isSome_some]
  · refine ⟨root.leavesDiagnostics settings source f.text, ?_, ?_⟩
    · rw [diagnostics, hroot]
      rfl
    · exact Node.forall₂_located hwarning fun leaf hleaf =>
        (Node.mem_positionedLeaves_iff.1 hleaf).2.1

/-- A call whose name has the range of the call stands in a group without a range. An empty range
stands behind it by itself, and then two words that touch. One leaf has no range. -/
def gapTree : Node :=
  .mk ⟨0, "Unit", some ⟨⟨1, 0⟩, ⟨2, 3⟩⟩, none, .ok .variable, []⟩
    [.mk ⟨1, "Group", none, none, .ok .variable, []⟩
        [.mk ⟨2, "Call", some ⟨⟨1, 0⟩, ⟨1, 2⟩⟩, none, .ok .variable, []⟩
          [.mk ⟨3, "Name", some ⟨⟨1, 0⟩, ⟨1, 2⟩⟩, none, .ok .variable, []⟩ []]],
      .mk ⟨4, "Missing", some ⟨⟨1, 3⟩, ⟨1, 3⟩⟩, none, .ok .variable, []⟩ [],
      .mk ⟨5, "Word", some ⟨⟨2, 0⟩, ⟨2, 2⟩⟩, none, .ok .variable, []⟩ [],
      .mk ⟨6, "Word", some ⟨⟨2, 2⟩, ⟨2, 3⟩⟩, none, .ok .variable, []⟩ [],
      .mk ⟨7, "End", none, none, .ok .variable, []⟩ []]

/-- A file with that tree and an issue. -/
def gapFile : FileState :=
  ⟨⟨"file:///a"⟩, "go x\nend", none, some gapTree,
    [⟨"missing brace", some ⟨⟨1, 3⟩, ⟨1, 3⟩⟩, .error, .syntactic⟩], none⟩

/-- With everything asked for, the issue is reported first, and then the four leaves with a range.
-/
theorem diagnostics_of_laidOut_gap :
    gapFile.root = some gapTree ∧ gapTree.LaidOut ∧
      (gapFile.diagnostics { showAstWarnings := true, showLeafPositions := true } {} "mini").map
          (fun d => (d.severity, d.message)) =
        [(.error, "missing brace"),
          (.information, "Leaf position: 1:0-1:2, Source text: go"),
          (.information, "Leaf position: 1:3-1:3, Source text: "),
          (.information, "Leaf position: 2:0-2:2, Source text: en"),
          (.information, "Leaf position: 2:2-2:3, Source text: d")] ∧
      ∀ settings filter source,
        (∀ leaf ∈ gapTree.walk, leaf.children = [] →
          gapTree.leafWarning? source leaf = none) ∧
        ∃ reports, gapFile.diagnostics settings filter source =
            gapFile.issueReports settings filter source ++ reports ∧
          List.Forall₂ (Node.Located source gapFile.text)
            (if settings.showLeafPositions then
              gapTree.walk.filter fun n => n.positioned && n.children.isEmpty
            else []) reports := by
  have hlaid : gapTree.LaidOut := ⟨by decide, by decide, by decide⟩
  exact ⟨rfl, hlaid, by decide, diagnostics_of_laidOut rfl hlaid⟩

end FileState

end CodeIndex
