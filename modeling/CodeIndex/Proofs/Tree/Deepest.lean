import CodeIndex.Proofs.Tree.Preorder
import CodeIndex.Proofs.Tree.Spans
import CodeIndex.Tree.Lookup

set_option relaxedAutoImplicit false
set_option autoImplicit false

/-!
# The deepest node around a place

The lookups by point and by span are one descent, which differs in the test that ranges have to
pass only. The descent gives up a branch as soon as a range fails the test. In a tree in which the
ranges of nodes contain those of the nodes below them nothing is lost by that: the descent comes
out empty exactly if no node passes the test, and otherwise with a node that passes it, below which
no node does, and before which no node does in the branches that were tried first. Siblings may
overlap, and nodes without a range may stand anywhere.

## Main definitions

* `Node.covered` — whether a node has a range that passes a test.
* `Node.deepest` — the descent for any test.
* `Node.Nested` — ranges contain those below them.
* `Node.FoundAt` — a node passes the test, and none does below it or before it.
* `Node.AnswersDeepest` — what a lookup promises.

## Main results

* `Node.findAt_eq_deepest`, `Node.findAround_eq_deepest` — both lookups are the descent.
* `Node.mem_preorder_of_deepest` — in any tree, what the descent finds is there and passes the test.
* `Node.answersDeepest_of_nested` — in a nested tree both lookups find the deepest node.
-/

namespace CodeIndex

namespace Node

/-! ## One descent for both lookups -/

/-- Whether a node has a range that passes a test, such as to contain a point. -/
def covered (covers : Span → Bool) (n : Node) : Bool := n.span.any covers

mutual

/-- The deepest node whose range passes a test, the first child winning among several. -/
def deepest (covers : Span → Bool) : Node → Option Node
  | mk info children =>
    match info.span with
    | none => deepestIn covers children
    | some own =>
      if covers own then (deepestIn covers children).or (some (mk info children)) else none

/-- The first hit among several trees. -/
def deepestIn (covers : Span → Bool) : List Node → Option Node
  | [] => none
  | n :: ns => (deepest covers n).or (deepestIn covers ns)

end

section Descent

variable {covers : Span → Bool} {root n m : Node}

lemma covered_iff : n.covered covers = true ↔ ∃ s, n.span = some s ∧ covers s = true :=
  Option.any_eq_true _ _

lemma findAtIn_eq_deepestIn {p : Point} {ns : List Node}
    (h : ∀ n ∈ ns, n.findAt p = n.deepest (·.containsPoint p)) :
    findAtIn p ns = deepestIn (·.containsPoint p) ns := by
  induction ns with
  | nil => rfl
  | cons n ns ih =>
    obtain ⟨hn, hns⟩ := List.forall_mem_cons.1 h
    rw [findAtIn, deepestIn, hn, ih hns]

/-- The lookup by point is the descent for the ranges around it. -/
theorem findAt_eq_deepest (p : Point) : findAt p = deepest (·.containsPoint p) := by
  funext root
  induction root with
  | mk info children ih =>
    cases hspan : info.span <;>
      simp only [findAt, deepest, hspan, findAtIn_eq_deepestIn ih]

lemma findAroundIn_eq_deepestIn {s : Span} {ns : List Node}
    (h : ∀ n ∈ ns, n.findAround s = n.deepest (·.containsSpan s)) :
    findAroundIn s ns = deepestIn (·.containsSpan s) ns := by
  induction ns with
  | nil => rfl
  | cons n ns ih =>
    obtain ⟨hn, hns⟩ := List.forall_mem_cons.1 h
    rw [findAroundIn, deepestIn, hn, ih hns]

/-- The lookup by span is the descent for the ranges around it. -/
theorem findAround_eq_deepest (s : Span) : findAround s = deepest (·.containsSpan s) := by
  funext root
  induction root with
  | mk info children ih =>
    cases hspan : info.span <;>
      simp only [findAround, deepest, hspan, findAroundIn_eq_deepestIn ih]

lemma deepestIn_eq (ns : List Node) : deepestIn covers ns = ns.findSome? (deepest covers) := by
  induction ns with
  | nil => rfl
  | cons n ns ih =>
    rw [deepestIn, ih, List.findSome?_cons]
    cases deepest covers n <;> rfl

lemma deepest_eq (n : Node) :
    n.deepest covers =
      match n.span with
      | none => n.children.findSome? (deepest covers)
      | some own =>
        if covers own then (n.children.findSome? (deepest covers)).or (some n) else none := by
  cases n with
  | mk info children =>
    rw [deepest, deepestIn_eq]
    rfl

/-- A hit comes from the first child that has one, unless the range of the node fails the test, or
it is the node itself, if no child has one. -/
lemma deepest_eq_some_iff :
    n.deepest covers = some m ↔
      n.span.all covers = true ∧ n.children.findSome? (deepest covers) = some m ∨
        n.covered covers = true ∧ n.children.findSome? (deepest covers) = none ∧ n = m := by
  rw [deepest_eq, covered]
  cases n.span with
  | none => simp
  | some own =>
    cases h : covers own with
    | false => simp [h]
    | true =>
      simp only [h, if_true, Option.all_some, Option.any_some, true_and, Option.or_eq_some_iff,
        Option.some.injEq]

/-- There is no hit if the range of the node fails the test, or if it has none and no child has a
hit. -/
lemma deepest_eq_none_iff :
    n.deepest covers = none ↔
      n.covered covers = false ∧
        (n.span = none → n.children.findSome? (deepest covers) = none) := by
  rw [deepest_eq, covered]
  cases n.span with
  | none => simp
  | some own => cases h : covers own <;> simp [h]

/-- In any tree, what the descent finds is there and passes the test. -/
theorem mem_preorder_of_deepest (h : root.deepest covers = some n) :
    n ∈ root.preorder ∧ n.covered covers = true := by
  induction root with
  | mk info children ih =>
    rw [preorder_eq]
    rcases deepest_eq_some_iff.1 h with ⟨-, hbelow⟩ | ⟨hself, -, rfl⟩
    · obtain ⟨c, hc, hcn⟩ := List.exists_of_findSome?_eq_some hbelow
      obtain ⟨hmem, hn⟩ := ih c hc hcn
      exact ⟨List.mem_cons_of_mem _ (List.mem_flatMap.2 ⟨c, hc, hmem⟩), hn⟩
    · exact ⟨List.mem_cons_self, hself⟩

/-! ## Nested trees -/

/-- The range of every node contains the ranges of the nodes below it. -/
def Nested (root : Node) : Prop :=
  ∀ m ∈ root.preorder, ∀ n ∈ m.preorder, ∀ s ∈ m.span, ∀ t ∈ n.span, s.containsSpan t = true

instance (root : Node) : Decidable root.Nested :=
  inferInstanceAs (Decidable (∀ m ∈ root.preorder, ∀ n ∈ m.preorder, ∀ s ∈ m.span, ∀ t ∈ n.span,
    s.containsSpan t = true))

lemma Nested.child {c : Node} (h : root.Nested) (hc : c ∈ root.children) : c.Nested := by
  intro m hm
  refine h m ?_
  rw [preorder_eq]
  exact List.mem_cons_of_mem _ (List.mem_flatMap.2 ⟨c, hc, hm⟩)

/-- A test that a range passes if another one within it does. -/
def Upward (covers : Span → Bool) : Prop :=
  ∀ {s t : Span}, s.containsSpan t = true → covers t = true → covers s = true

lemma upward_containsPoint (p : Point) : Upward (·.containsPoint p) :=
  Span.containsPoint_of_containsSpan

lemma upward_containsSpan (s : Span) : Upward (·.containsSpan s) := Span.containsSpan_trans

/-- In a nested tree, the descent loses nothing when it gives up a branch. -/
theorem Nested.deepest_eq_none_iff (h : root.Nested) (hup : Upward covers) :
    root.deepest covers = none ↔ ∀ n ∈ root.preorder, n.covered covers = false := by
  constructor
  · intro hnone
    induction root with
    | mk info children ih =>
      obtain ⟨hself, hbelow⟩ := Node.deepest_eq_none_iff.1 hnone
      intro n hn
      rw [preorder_eq] at hn
      rcases List.mem_cons.1 hn with rfl | hn'
      · exact hself
      · rw [← Bool.not_eq_true]
        intro hcovered
        obtain ⟨t, ht, hcovers⟩ := covered_iff.1 hcovered
        cases hspan : (mk info children).span with
        | none =>
          obtain ⟨c, hc, hmem⟩ := List.mem_flatMap.1 hn'
          rw [ih c hc (h.child hc) (List.findSome?_eq_none_iff.1 (hbelow hspan) c hc) n hmem]
            at hcovered
          cases hcovered
        | some s =>
          -- the range passes the test because the one below it does
          have hroot : (mk info children) ∈ (mk info children).preorder := by
            rw [preorder_eq]
            exact List.mem_cons_self
          have hst := h _ hroot n (by rw [preorder_eq]; exact hn) s hspan t ht
          rw [covered_iff.2 ⟨s, hspan, hup hst hcovers⟩] at hself
          cases hself
  · intro hnone
    cases hfind : root.deepest covers with
    | none => rfl
    | some n =>
      obtain ⟨hmem, hn⟩ := mem_preorder_of_deepest hfind
      rw [hnone n hmem] at hn
      cases hn

/-! ## What is found -/

/-- The node at the end of a path passes the test, and no node does that stands below it, or in a
branch that leaves the path towards an earlier sibling. -/
structure FoundAt (covers : Span → Bool) (root : Node) (path : List Nat) (n : Node) : Prop where
  at_path : root.at? path = some n
  covered : n.covered covers = true
  below : ∀ c ∈ n.children, ∀ m ∈ c.preorder, m.covered covers = false
  beside : ∀ {above below : List Nat} {i j : Nat} {c : Node}, path = above ++ i :: below → j < i →
    root.at? (above ++ [j]) = some c → ∀ m ∈ c.preorder, m.covered covers = false

/-- What is found in a child is found in the tree, if no earlier child has a node that passes the
test. -/
lemma FoundAt.cons {c : Node} {i : Nat} {path : List Nat} (h : c.FoundAt covers path n)
    (hc : root.children[i]? = some c)
    (hbefore : ∀ {j d}, j < i → root.children[j]? = some d →
      ∀ m ∈ d.preorder, m.covered covers = false) :
    root.FoundAt covers (i :: path) n where
  at_path := by rw [at?_cons hc, h.at_path]
  covered := h.covered
  below := h.below
  beside := by
    rintro (_ | ⟨k, above⟩) below i' j d hpath hj hd
    · obtain ⟨rfl, rfl⟩ := List.cons.inj hpath
      obtain ⟨d', hd', hat⟩ := Option.bind_eq_some_iff.1 hd
      obtain rfl := Option.some.inj hat
      exact hbefore hj hd'
    · obtain ⟨rfl, hrest⟩ := List.cons.inj hpath
      rw [List.cons_append, at?_cons hc] at hd
      exact h.beside hrest hj hd

/-- In a nested tree, nothing that passes the test stands below or before what the descent finds.

**Proof sketch.** By induction on the tree. A hit below comes from a child, and the children before
it had none, so no node of theirs passes the test. If the node itself is the hit, then no child had
one. -/
theorem Nested.exists_foundAt (h : root.Nested) (hup : Upward covers)
    (hfind : root.deepest covers = some n) : ∃ path, root.FoundAt covers path n := by
  induction root with
  | mk info children ih =>
    have hmiss : ∀ c ∈ children, c.deepest covers = none →
        ∀ m ∈ c.preorder, m.covered covers = false :=
      fun c hc => ((h.child hc).deepest_eq_none_iff hup).1
    rcases deepest_eq_some_iff.1 hfind with ⟨-, hbelow⟩ | ⟨hself, hnone, rfl⟩
    · obtain ⟨before, c, after, hsplit, hcn, hbefore⟩ := List.findSome?_eq_some_iff.1 hbelow
      obtain rfl : children = before ++ c :: after := hsplit
      have hc : c ∈ before ++ c :: after := List.mem_append_right _ List.mem_cons_self
      obtain ⟨path, hfound⟩ := ih c hc (h.child hc) hcn
      refine ⟨before.length :: path, hfound.cons ?_ fun {j d} hj hd => ?_⟩
      · rw [Node.children, List.getElem?_append_right (Nat.le_refl _), Nat.sub_self,
          List.getElem?_cons_zero]
      · rw [Node.children, List.getElem?_append_left hj] at hd
        have hmem := List.mem_of_getElem? hd
        exact hmiss d (List.mem_append_left _ hmem) (hbefore d hmem)
    · refine ⟨[], rfl, hself, fun c hc => hmiss c hc (List.findSome?_eq_none_iff.1 hnone c hc), ?_⟩
      intro above below i j c hpath
      simp at hpath

end Descent

/-! ## The lookups -/

/-- A lookup comes out empty exactly if no node of the walk passes the test, and otherwise with a
node that passes it, below and before which no node does. -/
structure AnswersDeepest (covers : Span → Bool) (root : Node) (answer : Option Node) : Prop where
  none_iff : answer = none ↔ ∀ n ∈ root.walk, n.covered covers = false
  some_found : ∀ {n}, answer = some n → ∃ path, root.FoundAt covers path n

lemma Nested.answersDeepest {covers : Span → Bool} {root : Node} (h : root.Nested)
    (hup : Upward covers) : AnswersDeepest covers root (root.deepest covers) where
  none_iff := by rw [walk_eq_preorder, h.deepest_eq_none_iff hup]
  some_found := h.exists_foundAt hup

/-- **The lookups find the deepest node.** In a tree in which the ranges of nodes contain those of
the nodes below them, the lookups by point and by span come out empty exactly if no node of the
walk has a range around the point or the span. Otherwise they come out with a node that has one,
below which there is no other one, and none in the branches before it. -/
theorem answersDeepest_of_nested {root : Node} (h : root.Nested) :
    (∀ p, AnswersDeepest (·.containsPoint p) root (root.findAt p)) ∧
      ∀ s, AnswersDeepest (·.containsSpan s) root (root.findAround s) := by
  constructor
  · intro p
    rw [findAt_eq_deepest]
    exact h.answersDeepest (upward_containsPoint p)
  · intro s
    rw [findAround_eq_deepest]
    exact h.answersDeepest (upward_containsSpan s)

/-- Two calls that overlap, the second one behind a node without a range. Both calls have an
argument, and the one of the first ends before the overlap. -/
def lapTree : Node :=
  .mk ⟨0, "Unit", none, none, .ok .variable, []⟩
    [.mk ⟨1, "Call", some ⟨⟨1, 0⟩, ⟨1, 8⟩⟩, none, .ok .variable, []⟩
        [.mk ⟨2, "Argument", some ⟨⟨1, 2⟩, ⟨1, 4⟩⟩, none, .ok .variable, []⟩ []],
      .mk ⟨3, "Group", none, none, .ok .variable, []⟩
        [.mk ⟨4, "Call", some ⟨⟨1, 6⟩, ⟨2, 9⟩⟩, none, .ok .variable, []⟩
          [.mk ⟨5, "Argument", some ⟨⟨1, 6⟩, ⟨1, 9⟩⟩, none, .ok .variable, []⟩ []]]]

/-- In the overlap the first call wins although the argument of the second one is deeper, and
behind it the group lets the second one through. -/
theorem answersDeepest_of_nested_lap :
    lapTree.Nested ∧ (lapTree.findAt ⟨1, 7⟩).map key = some 1 ∧
      AnswersDeepest (·.containsPoint ⟨1, 7⟩) lapTree (lapTree.findAt ⟨1, 7⟩) ∧
      (lapTree.findAround ⟨⟨1, 9⟩, ⟨2, 0⟩⟩).map key = some 4 ∧
      AnswersDeepest (·.containsSpan ⟨⟨1, 9⟩, ⟨2, 0⟩⟩) lapTree
        (lapTree.findAround ⟨⟨1, 9⟩, ⟨2, 0⟩⟩) := by
  have hnested : lapTree.Nested := by decide
  exact ⟨hnested, by decide, (answersDeepest_of_nested hnested).1 _, by decide,
    (answersDeepest_of_nested hnested).2 _⟩

end Node

end CodeIndex
