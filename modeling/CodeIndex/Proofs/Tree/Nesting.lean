import Mathlib.Data.List.Basic
import CodeIndex.Proofs.Tree.Deepest

set_option relaxedAutoImplicit false
set_option autoImplicit false

/-!
# Well nested trees

In a well nested tree the ranges of descendants lie within those of their ancestors, and ranges of
nodes in different branches do not overlap. Around a point, such a tree has a single branch: the
nodes that contain the point are the positioned ones on the way to the deepest of them.

## Main definitions

* `Node.containsPoint` — whether a node has a range around a point.
* `Node.WellNested` — ranges are nested along branches and apart across them, and lines are short
  enough for the ranking weight.

## Main results

* `Node.WellNested.findAt_eq_none_iff` — the lookup fails only where no node contains the point.
* `Node.WellNested.filter_preorder_eq` — the nodes around a point are those of one lineage.
-/

namespace CodeIndex

namespace Node

/-- Whether a node has a range around a point. -/
def containsPoint (p : Point) (n : Node) : Bool := n.span.any (·.containsPoint p)

lemma containsPoint_iff {p : Point} {n : Node} :
    n.containsPoint p = true ↔ ∃ s, n.span = some s ∧ s.containsPoint p = true := by
  rw [containsPoint, Option.any_eq_true]

/-- Ranges are nested along the branches of a tree and apart across them, and fit into the budget
of a line. -/
structure WellNested (root : Node) : Prop where
  /-- The range of a node contains those of its descendants. -/
  nested : ∀ (path path' : List Nat) {m n : Node} {s t : Span}, path <+: path' →
    root.at? path = some m → root.at? path' = some n → m.span = some s → n.span = some t →
      s.containsSpan t = true
  /-- The ranges of two nodes do not overlap if neither is an ancestor of the other. -/
  apart : ∀ (path path' : List Nat) {m n : Node} {s t : Span}, ¬ path <+: path' →
    ¬ path' <+: path → root.at? path = some m → root.at? path' = some n → m.span = some s →
      n.span = some t → s.overlaps t = false
  /-- The columns of every range are small. -/
  narrow : ∀ (path : List Nat) {n : Node} {s : Span}, root.at? path = some n →
    n.span = some s → s.Narrow

/-- The subtrees of a well nested tree are well nested. -/
lemma WellNested.child {root c : Node} {i : Nat} (h : root.WellNested)
    (hc : root.children[i]? = some c) : c.WellNested where
  nested := fun path path' _ _ _ _ hpre hm hn =>
    h.nested (i :: path) (i :: path') (List.cons_prefix_cons.2 ⟨rfl, hpre⟩)
      (by rw [at?_cons hc, hm]) (by rw [at?_cons hc, hn])
  apart := fun path path' _ _ _ _ hne hne' hm hn =>
    h.apart (i :: path) (i :: path') (fun hpre => hne (List.cons_prefix_cons.1 hpre).2)
      (fun hpre => hne' (List.cons_prefix_cons.1 hpre).2) (by rw [at?_cons hc, hm])
      (by rw [at?_cons hc, hn])
  narrow := fun path _ _ hn => h.narrow (i :: path) (by rw [at?_cons hc, hn])

/-- Two children with nodes around one point are one and the same. -/
lemma WellNested.eq_of_containsPoint {root c d m n : Node} {i j : Nat} {p : Point}
    (h : root.WellNested) (hc : root.children[i]? = some c) (hd : root.children[j]? = some d)
    (hm : m ∈ c.preorder) (hn : n ∈ d.preorder) (hmp : m.containsPoint p = true)
    (hnp : n.containsPoint p = true) : i = j := by
  obtain ⟨path, hpath⟩ := exists_path_of_mem_preorder hm
  obtain ⟨path', hpath'⟩ := exists_path_of_mem_preorder hn
  obtain ⟨s, hs, hsp⟩ := containsPoint_iff.1 hmp
  obtain ⟨t, ht, htp⟩ := containsPoint_iff.1 hnp
  by_contra hij
  have hapart : s.overlaps t = false :=
    h.apart (i :: path) (j :: path') (fun hpre => hij (List.cons_prefix_cons.1 hpre).1)
      (fun hpre => hij (List.cons_prefix_cons.1 hpre).1.symm) (by rw [at?_cons hc, hpath])
      (by rw [at?_cons hd, hpath']) hs ht
  rw [Span.overlaps_of_containsPoint hsp htp] at hapart
  cases hapart

/-! ## The lookup -/

/-- A hit comes from the first child that has one, unless the range of the node misses the point,
or it is the node itself, if no child has one. -/
lemma findAt_eq_some_iff {n m : Node} {p : Point} :
    n.findAt p = some m ↔
      n.span.all (·.containsPoint p) = true ∧ n.children.findSome? (findAt p) = some m ∨
        n.containsPoint p = true ∧ n.children.findSome? (findAt p) = none ∧ n = m := by
  rw [findAt_eq_deepest]
  exact deepest_eq_some_iff

/-- What the lookup finds is a node of the tree around the point. -/
lemma mem_preorder_of_findAt {root n : Node} {p : Point} (h : root.findAt p = some n) :
    n ∈ root.preorder ∧ n.containsPoint p = true := by
  rw [findAt_eq_deepest] at h
  exact mem_preorder_of_deepest h

/-- Well nested trees are nested. -/
lemma WellNested.toNested {root : Node} (h : root.WellNested) : root.Nested := by
  intro m hm n hn s hs t ht
  obtain ⟨path, hpath⟩ := exists_path_of_mem_preorder hm
  obtain ⟨below, hbelow⟩ := exists_path_of_mem_preorder hn
  exact h.nested path (path ++ below) (List.prefix_append _ _) hpath
    (by rw [at?_append hpath, hbelow]) hs ht

/-- The lookup fails only where no node contains the point. -/
theorem WellNested.findAt_eq_none_iff {root : Node} (h : root.WellNested) (p : Point) :
    root.findAt p = none ↔ ∀ n ∈ root.preorder, n.containsPoint p = false := by
  rw [findAt_eq_deepest]
  exact h.toNested.deepest_eq_none_iff (upward_containsPoint p)

/-- Around a point, only one child counts: the one in which the lookup succeeds. -/
lemma WellNested.filter_children {root n : Node} {p : Point} (h : root.WellNested)
    (hfind : root.children.findSome? (findAt p) = some n) :
    ∃ (i : Nat) (c : Node), root.children[i]? = some c ∧ c.findAt p = some n ∧
      (root.children.flatMap preorder).filter (containsPoint p) =
        c.preorder.filter (containsPoint p) := by
  obtain ⟨before, c, after, hsplit, hc, hmiss⟩ := List.findSome?_eq_some_iff.1 hfind
  have hi : root.children[before.length]? = some c := by
    rw [hsplit, List.getElem?_append_right (Nat.le_refl _), Nat.sub_self, List.getElem?_cons_zero]
  obtain ⟨hmem, hp⟩ := mem_preorder_of_findAt hc
  -- a child at another place has no node around the point
  have hother : ∀ j d, root.children[j]? = some d → j ≠ before.length →
      ∀ m ∈ d.preorder, ¬ m.containsPoint p = true :=
    fun j d hd hj m hm hmp => hj (h.eq_of_containsPoint hd hi hm hmem hmp hp)
  have hbefore : (before.flatMap preorder).filter (containsPoint p) = [] := by
    refine List.filter_eq_nil_iff.2 fun m hm => ?_
    obtain ⟨d, hd, hmd⟩ := List.mem_flatMap.1 hm
    obtain ⟨j, hj, rfl⟩ := List.mem_iff_getElem.1 hd
    refine hother j _ ?_ (by omega) m hmd
    rw [hsplit, List.getElem?_append_left hj, List.getElem?_eq_getElem hj]
  have hafter : (after.flatMap preorder).filter (containsPoint p) = [] := by
    refine List.filter_eq_nil_iff.2 fun m hm => ?_
    obtain ⟨d, hd, hmd⟩ := List.mem_flatMap.1 hm
    obtain ⟨j, hj⟩ := List.mem_iff_getElem?.1 hd
    refine hother (before.length + (j + 1)) d ?_ (by omega) m hmd
    rw [hsplit, List.getElem?_append_right (by omega), Nat.add_sub_cancel_left,
      List.getElem?_cons_succ, hj]
  refine ⟨before.length, c, hi, hc, ?_⟩
  rw [hsplit, List.flatMap_append, List.flatMap_cons, List.filter_append, List.filter_append,
    hbefore, hafter, List.nil_append, List.append_nil]

/-- **The nodes around a point form one lineage.** In pre-order they are the positioned nodes on
the way from the root to the node that the lookup finds. -/
theorem WellNested.filter_preorder_eq {root n : Node} {p : Point} (h : root.WellNested)
    (hfind : root.findAt p = some n) :
    ∃ path, root.at? path = some n ∧
      root.preorder.filter (containsPoint p) = (root.lineage path).filter positioned := by
  induction root with
  | mk info children ih =>
    set root := Node.mk info children
    have hbelow : children.findSome? (findAt p) = some n → root.containsPoint p = root.positioned →
        ∃ path, root.at? path = some n ∧
          root.preorder.filter (containsPoint p) = (root.lineage path).filter positioned := by
      intro hhit hself
      obtain ⟨i, c, hc, hcn, hfilter⟩ := h.filter_children hhit
      obtain ⟨path, hpath, hlineage⟩ := ih c (List.mem_of_getElem? hc) (h.child hc) hcn
      refine ⟨i :: path, by rw [at?_cons hc, hpath], ?_⟩
      rw [preorder_eq, lineage_cons hc, List.filter_cons, List.filter_cons, hself, hfilter, hlineage]
    rcases findAt_eq_some_iff.1 hfind with ⟨hall, hhit⟩ | ⟨hself, hnone, heq⟩
    · refine hbelow hhit ?_
      rw [containsPoint, positioned]
      cases hspan : root.span with
      | none => rfl
      | some own =>
        rw [hspan] at hall
        exact hall
    · have hpositioned : root.positioned = true := by
        obtain ⟨own, hspan, -⟩ := containsPoint_iff.1 hself
        rw [positioned, hspan, Option.isSome_some]
      refine ⟨[], congrArg some heq, ?_⟩
      have hrest : (children.flatMap preorder).filter (containsPoint p) = [] := by
        refine List.filter_eq_nil_iff.2 fun m hm hmp => ?_
        obtain ⟨c, hc, hmc⟩ := List.mem_flatMap.1 hm
        obtain ⟨i, hi⟩ := List.mem_iff_getElem?.1 hc
        have hmiss := ((h.child hi).findAt_eq_none_iff p).1
          (List.findSome?_eq_none_iff.1 hnone c hc) m hmc
        rw [hmiss] at hmp
        cases hmp
      rw [preorder_eq, List.filter_cons_of_pos hself, lineage,
        List.filter_cons_of_pos hpositioned, List.filter_nil]
      exact congrArg _ hrest

/-- Along a lineage the ranges get no wider. -/
lemma WellNested.pairwise_lineage {root : Node} (h : root.WellNested) (path : List Nat) :
    (root.lineage path).Pairwise fun m n =>
      ∀ s t, m.span = some s → n.span = some t → t.size ≤ s.size := by
  induction path generalizing root with
  | nil => exact List.pairwise_singleton _ _
  | cons i path ih =>
    cases hc : root.children[i]? with
    | none =>
      rw [lineage, hc, Option.elim_none]
      exact List.pairwise_singleton _ _
    | some c =>
      rw [lineage_cons hc]
      refine List.pairwise_cons.2 ⟨fun n hn s t hs ht => ?_, ih (h.child hc)⟩
      obtain ⟨below, hbelow⟩ := exists_path_of_mem_lineage hn
      have hat : root.at? (i :: below) = some n := by rw [at?_cons hc, hbelow]
      exact Span.size_le_of_containsSpan (h.narrow [] rfl hs) (h.narrow _ hat ht)
        (h.nested [] _ List.nil_prefix rfl hat hs ht)

end Node

end CodeIndex
