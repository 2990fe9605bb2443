import CodeIndex.Proofs.Lists
import CodeIndex.Proofs.Repository.Refinement
import CodeIndex.Proofs.Tree.Spans

set_option relaxedAutoImplicit false
set_option autoImplicit false

/-!
# The narrowest symbol around a point

Symbols around a point are ranked by a single number, the weight of their range, and not by what
contains what. This file shows that the number does the job: as long as columns stay within the
budget of a line, a symbol within another one is listed before it, whatever else stands around. It
also says what the list consists of, and that the order in which the index of a file keeps its
identifiers has no part in it.

## Main definitions

* `Repository.Ranked` — the symbols of a file around a point, each once, in the order of their
  widths and, among equally wide ones, newest first.
* `Repository.Relisted` — a repository whose index lists the same identifiers in another order.

## Main results

* `Span.size_lt_of_containsSpan` (in `CodeIndex.Proofs.Tree.Spans`) — a range within another one
  weighs less.
* `Repository.Consistent.ranked_search` — a search is ranked.
* `Repository.Consistent.sublist_search_iff` — which of two symbols it lists first.
* `Repository.narrowest_first` — nested symbols are listed from the inside out.
-/

namespace CodeIndex

namespace Repository

/-- The symbols of a file around a point, each once: narrower ones first and, among equally wide
ones, the one that was stored last. -/
structure Ranked (r : Repository) (uri : Uri) (p : Point) (found : List Symbol) : Prop where
  mem_iff : ∀ s, s ∈ found ↔
    s ∈ r.symbolsIn uri ∧ ∃ range, s.range = some range ∧ range.containsPoint p = true
  nodup : (found.map Symbol.id).Nodup
  ordered : found.Pairwise fun s t =>
    s.width < t.width ∨ s.width = t.width ∧ [t, s].Sublist r.toList

/-- The same symbols under the same numbers, and an index that lists the same identifiers for each
file, in whatever order. -/
structure Relisted (r r' : Repository) : Prop where
  symbols : r'.symbols = r.symbols
  sequenceOf : r'.sequenceOf = r.sequenceOf
  idsIn : ∀ uri, (r'.idsIn uri).Perm (r.idsIn uri)

/-- The index of the other repository finds the same hits, in some order. -/
lemma Relisted.hits_perm {r r' : Repository} (h : r.Relisted r') (uri : Uri) (p : Point) :
    (r'.hits uri p).Perm (r.hits uri p) := by
  rw [hits_eq, hits_eq, numberedIn, numberedIn, h.symbols, h.sequenceOf]
  exact ((h.idsIn uri).filterMap _).filterMap _

namespace Consistent

variable {r : Repository} {uri : Uri} {p : Point}

lemma mem_search_iff (h : r.Consistent) {s : Symbol} :
    s ∈ r.search uri p ↔
      s ∈ r.symbolsIn uri ∧ ∃ range, s.range = some range ∧ range.containsPoint p = true := by
  rw [h.search_eq, h.symbolsIn_eq, List.mem_mergeSort, List.mem_reverse, List.mem_filter,
    List.mem_filter, Bool.and_eq_true, and_assoc, Symbol.containsPoint, Option.any_eq_true]

/-- A search lists the symbols around a point, each once, in the order of their ranks.

**Proof sketch.** The search is a stable sort by width of the reversed list of symbols around the
point. Reversing puts newer symbols first, and the sort keeps it that way among equally wide
ones. -/
lemma ranked_search (h : r.Consistent) (uri : Uri) (p : Point) :
    r.Ranked uri p (r.search uri p) where
  mem_iff := fun _ => h.mem_search_iff
  nodup := by
    rw [h.search_eq]
    refine ((List.mergeSort_perm _ _).map Symbol.id).nodup_iff.2 ?_
    rw [List.map_reverse, List.nodup_reverse]
    exact h.nodup_ids.sublist (List.filter_sublist.map _)
  ordered := by
    rw [h.search_eq]
    refine pairwise_mergeSort_key Symbol.width (List.pairwise_reverse.2 ?_)
    rw [List.pairwise_iff_forall_sublist]
    exact fun hst => hst.trans List.filter_sublist

/-- Of two symbols that a search lists, the narrower one comes first and, if they are equally wide,
the one that was stored last. -/
lemma sublist_search_iff (h : r.Consistent) {s t : Symbol} (hs : s ∈ r.search uri p)
    (ht : t ∈ r.search uri p) (hne : s ≠ t) :
    [s, t].Sublist (r.search uri p) ↔
      s.width < t.width ∨ s.width = t.width ∧ [t, s].Sublist r.toList := by
  have hordered := (h.ranked_search uri p).ordered
  refine ⟨List.pairwise_iff_forall_sublist.1 hordered, fun hrank => ?_⟩
  refine pair_sublist_of_pairwise hordered hs ht hne ?_
  rintro (hlt | ⟨heq, hstored⟩)
  · omega
  · have hstored' : [t, s].Sublist r.toList := (hrank.resolve_left (by omega)).2
    exact not_pair_sublist_swap (.of_map Symbol.id h.nodup_ids) hstored hstored'

lemma sublist_search_of_width_lt (h : r.Consistent) {s t : Symbol} (hs : s ∈ r.search uri p)
    (ht : t ∈ r.search uri p) (hlt : s.width < t.width) :
    [s, t].Sublist (r.search uri p) :=
  (h.sublist_search_iff hs ht fun heq => by
    rw [heq] at hlt
    exact Int.lt_irrefl _ hlt).2 (.inl hlt)

/-- A symbol behind another one is not the one that is found. -/
lemma find?_ne_of_sublist (h : r.Consistent) {s t : Symbol}
    (hst : [s, t].Sublist (r.search uri p)) : r.find? uri p ≠ some t := by
  have hnodup : (r.search uri p).Nodup := .of_map Symbol.id (h.ranked_search uri p).nodup
  intro hfind
  obtain ⟨back, hback⟩ := List.head?_eq_some_iff.1 hfind
  rw [hback] at hst hnodup
  refine (List.nodup_cons.1 hnodup).1 ?_
  cases hst with
  | cons _ hst => exact hst.subset (List.mem_cons_of_mem _ List.mem_cons_self)
  | cons_cons _ hst => exact List.singleton_sublist.1 hst

/-- A search does not depend on the order in which the index of the file lists its identifiers. -/
lemma search_relisted (h : r.Consistent) {r' : Repository} (hr' : r.Relisted r') (uri : Uri)
    (p : Point) : r'.search uri p = r.search uri p := by
  rw [search, h.sortBy_of_perm_hits uri p (hr'.hits_perm uri p), h.search_eq]

end Consistent

/-- **Nested symbols are listed from the inside out.** After any changes, a search for a point of a
file lists the symbols around the point, each once, by width and age. Take two of them whose columns
stay within the budget of a line, with the range of the first one inside that of the second one and
different from it: the first one is listed before the second one, so the second one is not the one
that is found. And the search does not depend on the order in which the index of the file lists its
identifiers. -/
theorem narrowest_first (changes : List Change) (uri : Uri) (p : Point) :
    (run changes).Ranked uri p ((run changes).search uri p) ∧
      (∀ s ∈ (run changes).symbolsIn uri, ∀ t ∈ (run changes).symbolsIn uri, ∀ inner outer,
        s.range = some inner → t.range = some outer → inner.containsPoint p = true →
          outer.containsPoint p = true → inner.Narrow → outer.Narrow →
            outer.containsSpan inner = true → inner ≠ outer →
              [s, t].Sublist ((run changes).search uri p) ∧
                (run changes).find? uri p ≠ some t) ∧
      ∀ r', (run changes).Relisted r' → r'.search uri p = (run changes).search uri p := by
  have h := consistent_run changes
  refine ⟨h.ranked_search uri p, ?_, fun r' hr' => h.search_relisted hr' uri p⟩
  intro s hs t ht inner outer hinner houter hins hout hnarrow hnarrow' hnested hne
  have hlt : s.width < t.width := by
    rw [Symbol.width, Symbol.width, hinner, houter]
    exact Span.size_lt_of_containsSpan hnarrow' hnarrow hnested hne
  have hsublist := h.sublist_search_of_width_lt (h.mem_search_iff.2 ⟨hs, inner, hinner, hins⟩)
    (h.mem_search_iff.2 ⟨ht, outer, houter, hout⟩) hlt
  exact ⟨hsublist, h.find?_ne_of_sublist hsublist⟩

/-- A line that is as wide as its budget allows. -/
def wideLine : Symbol := .create "line" ⟨"file:///a"⟩ (some ⟨⟨1, 0⟩, ⟨1, 7999⟩⟩)

/-- The same line with its end. -/
def lineWithEnd : Symbol := .create "block" ⟨"file:///a"⟩ (some ⟨⟨1, 0⟩, ⟨2, 0⟩⟩)

/-- Up to the budget, a line is found before what reaches into the next one, even if it was stored
first. -/
theorem narrowest_first_wideLine :
    [wideLine, lineWithEnd].Sublist
        ((run [.store wideLine, .store lineWithEnd]).search ⟨"file:///a"⟩ ⟨1, 5⟩) ∧
      (run [.store wideLine, .store lineWithEnd]).find? ⟨"file:///a"⟩ ⟨1, 5⟩ ≠
        some lineWithEnd :=
  (narrowest_first [.store wideLine, .store lineWithEnd] ⟨"file:///a"⟩ ⟨1, 5⟩).2.1 wideLine
    (.head _) lineWithEnd (.tail _ (.head _)) ⟨⟨1, 0⟩, ⟨1, 7999⟩⟩ ⟨⟨1, 0⟩, ⟨2, 0⟩⟩ rfl rfl rfl rfl
    ⟨by decide, by decide⟩ ⟨by decide, by decide⟩ rfl (by decide)

/-- One column more, and the two weigh the same. -/
example : (⟨⟨1, 0⟩, ⟨1, 8000⟩⟩ : Span).size = (⟨⟨1, 0⟩, ⟨2, 0⟩⟩ : Span).size := by decide

end Repository

end CodeIndex
