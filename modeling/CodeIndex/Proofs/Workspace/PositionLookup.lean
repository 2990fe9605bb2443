import Mathlib.Data.List.Basic
import CodeIndex.Proofs.Tree.Nesting
import CodeIndex.Proofs.Workspace.Generations

set_option relaxedAutoImplicit false
set_option autoImplicit false

/-!
# Looking up positions in the index and in the tree

The index answers a lookup by ranking the symbols around a point, the tree by a descent. This file
shows that they agree on well nested trees. Symbols are stored in pre-order, so among equally wide
symbols the newest one is the deepest; and along a lineage ranges get no wider, so the ranking turns
the lineage of the node that the descent finds upside down.

## Main definitions

* `Extraction.symbolOf?` — the symbol of a node, from `CodeIndex.Proofs.Symbol.Identifiers`.

## Main results

* `Extraction.search_extract` — the ranking of the symbols of a tree is a lineage upside down.
* `Workspace.positionLookup_synchronize` — after a synchronisation the index and the tree agree.
-/

namespace CodeIndex

namespace Extraction

section Symbols

variable {uri : Uri} {root : Node} {byName : Bool} {p : Point}

/-- A symbol contains the points that its node contains. -/
lemma containsPoint_of_symbolOf? {table : List (Node × String)} {n : Node} {s : Symbol}
    (h : symbolOf? uri table byName n = some s) : s.containsPoint p = n.containsPoint p := by
  rw [Symbol.containsPoint, Node.containsPoint, (symbolOf?_eq_some h).2.1]

/-- The symbols around a point are those of the nodes around it. -/
lemma filter_filterMap_symbolOf? (table : List (Node × String)) (ns : List Node) :
    (ns.filterMap (symbolOf? uri table byName)).filter (·.containsPoint p) =
      (ns.filter (Node.containsPoint p)).filterMap (symbolOf? uri table byName) := by
  induction ns with
  | nil => rfl
  | cons n ns ih =>
    cases hs : symbolOf? uri table byName n with
    | none =>
      rw [List.filterMap_cons_none hs, ih, List.filter_cons]
      split
      · rw [List.filterMap_cons_none hs]
      · rfl
    | some s =>
      rw [List.filterMap_cons_some hs, List.filter_cons, List.filter_cons,
        containsPoint_of_symbolOf? hs, ih]
      split
      · rw [List.filterMap_cons_some hs]
      · rfl

/-- The width of a symbol is the weight of the range of its node. -/
lemma width_of_symbolOf? {table : List (Node × String)} {n : Node} {s : Symbol}
    (h : symbolOf? uri table byName n = some s) :
    ∃ span, n.span = some span ∧ s.width = span.size := by
  have hrange := (symbolOf?_eq_some h).2.1
  unfold symbolOf? at h
  split at h
  · next span id hspan hid =>
    refine ⟨span, hspan, ?_⟩
    rw [Symbol.width, hrange, hspan, Option.elim_some]
  · cases h

/-- A lineage upside down is in the order of the ranking. -/
lemma pairwise_width_lineage (h : root.WellNested) (path : List Nat)
    (table : List (Node × String)) :
    (((root.lineage path).filter Node.positioned).filterMap
      (symbolOf? uri table byName)).reverse.Pairwise
        fun s t => decide (s.width ≤ t.width) = true := by
  rw [List.pairwise_reverse, List.pairwise_filterMap]
  refine ((h.pairwise_lineage path).sublist List.filter_sublist).imp ?_
  intro m n hmn s hs t ht
  obtain ⟨a, ha, hsa⟩ := width_of_symbolOf? hs
  obtain ⟨b, hb, htb⟩ := width_of_symbolOf? ht
  rw [hsa, htb]
  exact decide_eq_true (hmn a b ha hb)

/-- Where the lookup in the tree fails, no symbol of the tree contains the point. -/
lemma filter_extract_eq_nil (h : root.WellNested) (hfind : root.findAt p = none) :
    (extract uri root .position byName).filter (·.containsPoint p) = [] := by
  have hnone : root.preorder.filter (Node.containsPoint p) = [] :=
    List.filter_eq_nil_iff.2 fun n hn =>
      Bool.eq_false_iff.1 ((h.findAt_eq_none_iff p).1 hfind n hn)
  rw [extract_eq, filter_filterMap_symbolOf?, Node.walk_eq_preorder, hnone, List.filterMap_nil]

/-- **The ranking of the symbols of a tree is a lineage upside down.** Around a point, the symbols
by width, newest first among equally wide ones, are those of the node that the lookup finds and of
its positioned ancestors. -/
lemma search_extract (uri : Uri) (byName : Bool) {n : Node} (h : root.WellNested)
    (hfind : root.findAt p = some n) :
    ∃ path, root.at? path = some n ∧
      (((extract uri root .position byName).filter (·.containsPoint p)).reverse.mergeSort
        fun s t => decide (s.width ≤ t.width)).map some =
          ((root.lineage path).reverse.filter Node.positioned).map
            (symbolOf? uri (assign uri .position root) byName) := by
  obtain ⟨path, hpath, hlineage⟩ := h.filter_preorder_eq hfind
  refine ⟨path, hpath, ?_⟩
  rw [extract_eq, filter_filterMap_symbolOf?, Node.walk_eq_preorder, hlineage,
    List.mergeSort_of_pairwise (pairwise_width_lineage h path _), List.filter_reverse,
    List.map_reverse, List.map_reverse]
  -- every node in question has a symbol, so none is left out
  have hsymbols : ∀ m ∈ (root.lineage path).filter Node.positioned,
      ∃ s, symbolOf? uri (assign uri .position root) byName m = some s := by
    intro m hm
    obtain ⟨span, hspan⟩ := Option.isSome_iff_exists.1 (List.mem_filter.1 hm).2
    rw [← hlineage] at hm
    obtain ⟨id, hid⟩ := exists_symbolOf? (List.mem_filter.1 hm).1 hspan
    exact ⟨_, hid⟩
  refine congrArg List.reverse ?_
  generalize (root.lineage path).filter Node.positioned = ms at hsymbols
  induction ms with
  | nil => rfl
  | cons m ms ih =>
    obtain ⟨s, hs⟩ := hsymbols m List.mem_cons_self
    rw [List.filterMap_cons_some hs, List.map_cons, List.map_cons, hs,
      ih fun k hk => hsymbols k (List.mem_cons_of_mem _ hk)]

end Symbols

end Extraction

namespace Workspace

variable {language : Language}

/-- The symbols of a file right after a text with a tree was synchronised for it. -/
lemma symbolsIn_synchronize (hids : language.ids = .position) (ops : List (Disk × Operation))
    {uri : Uri} {text : String} {root : Node} (hnodes : root.Identified)
    (htree : language.tree? uri text = some root) (version : Option Int) :
    ((run language .empty ops).synchronize language uri text version).1.repository.Consistent ∧
      SymbolList.symbolsIn
          ((run language .empty ops).synchronize language uri text version).1.repository.toList uri =
        Extraction.extract uri root .position language.resolveByName := by
  have h := (Tracks.run_empty hids ops).synchronize hids uri text version
  refine ⟨h.consistent, ?_⟩
  rw [h.symbols, generation_append_singleton, Event.step, if_pos rfl, htree, Option.some_or,
    stored_eq_extract hids uri hnodes]

/-- **The index agrees with the tree on positions.** After a text with a well nested tree was
synchronised, in any state that a run can reach, the symbol found at a point is that of the node
that the tree has there, and the symbols around the point are those of this node and of its
positioned ancestors, innermost first. -/
theorem positionLookup_synchronize (hids : language.ids = .position)
    (ops : List (Disk × Operation)) {uri : Uri} {text : String} {root : Node}
    (hnodes : root.Identified) (hnested : root.WellNested)
    (htree : language.tree? uri text = some root) (version : Option Int) (p : Point) :
    let r := ((run language .empty ops).synchronize language uri text version).1.repository
    let symbol := Extraction.symbolOf? uri (Extraction.assign uri .position root)
      language.resolveByName
    r.find? uri p = (root.findAt p).bind symbol ∧
      (r.find? uri p = none ↔ root.findAt p = none) ∧
      (root.findAt p = none → r.search uri p = []) ∧
      ∀ n, root.findAt p = some n → ∃ path, root.at? path = some n ∧
        (r.search uri p).map some =
          ((root.lineage path).reverse.filter Node.positioned).map symbol := by
  intro r symbol
  obtain ⟨hc, hsymbols⟩ := symbolsIn_synchronize hids ops hnodes htree version
  have hsearch : r.search uri p =
      (((Extraction.extract uri root .position language.resolveByName).filter
        (·.containsPoint p)).reverse.mergeSort fun s t => decide (s.width ≤ t.width)) := by
    rw [hc.search_eq, ← hsymbols, SymbolList.symbolsIn, List.filter_filter]
    simp only [Bool.and_comm]
  have hfirst : r.find? uri p = (r.search uri p).head? := rfl
  cases hfind : root.findAt p with
  | none =>
    have hnil : r.search uri p = [] := by
      rw [hsearch, Extraction.filter_extract_eq_nil hnested hfind, List.reverse_nil,
        List.mergeSort_nil]
    rw [hfirst, hnil]
    refine ⟨rfl, iff_of_true rfl rfl, fun _ => rfl, fun n hn => by cases hn⟩
  | some n =>
    obtain ⟨path, hpath, hranked⟩ :=
      Extraction.search_extract uri language.resolveByName hnested hfind
    rw [← hsearch] at hranked
    obtain ⟨-, hn⟩ := Node.mem_preorder_of_findAt hfind
    obtain ⟨span, hspan, -⟩ := Node.containsPoint_iff.1 hn
    have hpos : n.positioned = true := by rw [Node.positioned, hspan, Option.isSome_some]
    obtain ⟨above, habove⟩ := Node.exists_lineage_eq_append hpath
    -- the lineage ends in the node, so the ranking begins with its symbol
    have hhead : (r.search uri p).head?.map some = some (symbol n) := by
      rw [← List.head?_map, hranked, habove, List.reverse_append, List.reverse_singleton,
        List.singleton_append, List.filter_cons_of_pos hpos, List.map_cons, List.head?_cons]
    obtain ⟨s, hs, hsymbol⟩ := Option.map_eq_some_iff.1 hhead
    rw [hfirst, hs, Option.bind_some, ← hsymbol]
    refine ⟨rfl, iff_of_false (by simp) (by simp), fun hnone => (by cases hnone), ?_⟩
    intro m hm
    obtain rfl := Option.some.inj hm
    exact ⟨path, hpath, hranked⟩

/-- A tree with two branches below a node without a range: a node and a child with the same range,
and a single node. -/
def forkTree : Node :=
  .mk ⟨2, "Unit", none, none, .ok .variable, []⟩
    [twinTree, .mk ⟨3, "Name", some ⟨⟨2, 0⟩, ⟨2, 3⟩⟩, none, .ok .variable, []⟩ []]

lemma span_forkTree {path : List Nat} {n : Node} {s : Span} (h : forkTree.at? path = some n)
    (hs : n.span = some s) :
    (path = [0] ∨ path = [0, 0]) ∧ s = ⟨⟨1, 0⟩, ⟨1, 4⟩⟩ ∨ path = [1] ∧ s = ⟨⟨2, 0⟩, ⟨2, 3⟩⟩ := by
  have hspan : (forkTree.at? path).bind Node.span = some s := by rw [h, Option.bind_some, hs]
  rcases path with _ | ⟨_ | _ | i, _ | ⟨_ | j, _ | ⟨k, rest⟩⟩⟩ <;>
    simp [Node.at?, forkTree, twinTree, Node.children, Node.span, Node.info] at hspan ⊢ <;>
    exact hspan.symm

lemma wellNested_forkTree : forkTree.WellNested where
  nested := by
    intro path path' m n s t hpre hm hn hs ht
    rcases span_forkTree hm hs with ⟨rfl | rfl, rfl⟩ | ⟨rfl, rfl⟩ <;>
      rcases span_forkTree hn ht with ⟨rfl | rfl, rfl⟩ | ⟨rfl, rfl⟩ <;>
      first | decide | simp at hpre
  apart := by
    intro path path' m n s t hpre hpre' hm hn hs ht
    rcases span_forkTree hm hs with ⟨rfl | rfl, rfl⟩ | ⟨rfl, rfl⟩ <;>
      rcases span_forkTree hn ht with ⟨rfl | rfl, rfl⟩ | ⟨rfl, rfl⟩ <;>
      first | decide | simp at hpre hpre'
  narrow := by
    intro path n s hn hs
    rcases span_forkTree hn hs with ⟨-, rfl⟩ | ⟨-, rfl⟩ <;> exact ⟨by decide, by decide⟩

lemma identified_forkTree : forkTree.Identified := by
  unfold Node.Identified
  decide

/-- A language in which every text has the tree with two branches. -/
def forkLanguage : Language := .create "fork" fun _ _ => .ok ⟨some forkTree, []⟩

/-- In a chain of nodes with the same range, the index finds the innermost one, as the tree does. -/
theorem positionLookup_synchronize_fork :
    ((run forkLanguage .empty [(.empty, .openFile ⟨"file:///a"⟩ "a" 1)]).synchronize forkLanguage
        ⟨"file:///a"⟩ "b" none).1.repository.find? ⟨"file:///a"⟩ ⟨1, 2⟩ =
      Extraction.symbolOf? ⟨"file:///a"⟩
        (Extraction.assign ⟨"file:///a"⟩ .position forkTree) false
        (.mk ⟨1, "Name", some ⟨⟨1, 0⟩, ⟨1, 4⟩⟩, some "a", .ok .variable, []⟩ []) :=
  (positionLookup_synchronize (rfl : forkLanguage.ids = .position) _ identified_forkTree
    wellNested_forkTree rfl none ⟨1, 2⟩).1

end Workspace

end CodeIndex
