import CodeIndex.Proofs.Tree.Deepest

set_option relaxedAutoImplicit false
set_option autoImplicit false

/-!
# Where the lookups agree

The lookups by point and by span are asked for the same thing where the span is a single point, and
then they have the same answer. In general they have not: in a tree whose ranges are not nested, the
lookup by span may pass over a node that the lookup by point finds. But whether there is an answer
at all depends on few nodes only, those whose range is the first one on its branch, because nodes
without a range are passed through and every other range stops a descent whose test it fails. A span
within one of these ranges has all of its points there, so where the lookup by span has an answer,
the lookup by point has one too. Nothing is assumed on how the ranges of a tree lie to each other.

## Main definitions

* `Node.Outermost` — a node of a tree has a range, and no node above it has one.

## Main results

* `Node.deepest_eq_none_iff_outermost` — a descent comes out empty exactly if the range of every
  outermost node fails the test.
* `Node.lookups_agree` — the lookups agree on points, and the lookup by point has an answer on every
  point of a span on which the lookup by span has one.
-/

namespace CodeIndex

namespace Node

/-- The second node is one of the tree of the first one; it has a range, and the nodes above it have
none. -/
inductive Outermost : Node → Node → Prop where
  | self {n : Node} {s : Span} (hspan : n.span = some s) : Outermost n n
  | child {root c n : Node} (hspan : root.span = none) (hc : c ∈ root.children)
      (h : Outermost c n) : Outermost root n

section Descent

variable {covers covers' : Span → Bool} {root : Node}

/-- In any tree, a descent comes out empty exactly if the range of every outermost node fails the
test. -/
theorem deepest_eq_none_iff_outermost :
    root.deepest covers = none ↔ ∀ n, root.Outermost n → n.covered covers = false := by
  constructor
  · intro hnone n hn
    induction hn with
    | self _ => exact (deepest_eq_none_iff.1 hnone).1
    | child hspan hc _ ih =>
      exact ih (List.findSome?_eq_none_iff.1 ((deepest_eq_none_iff.1 hnone).2 hspan) _ hc)
  · intro hnone
    induction root with
    | mk info children ih =>
      refine deepest_eq_none_iff.2 ⟨?_, fun hspan => List.findSome?_eq_none_iff.2 fun c hc => ?_⟩
      · cases hspan : (mk info children).span with
        | none => rw [covered, hspan, Option.any_none]
        | some s => exact hnone _ (.self hspan)
      · exact ih c hc fun n hn => hnone n (.child hspan hc hn)

/-- A test that is passed more easily does not lose the answer, though the answer may be another
one. -/
lemma isSome_deepest_of_imp (himp : ∀ s, covers s = true → covers' s = true)
    (h : (root.deepest covers).isSome = true) : (root.deepest covers').isSome = true := by
  rw [Option.isSome_iff_ne_none] at h ⊢
  intro hnone
  refine h (deepest_eq_none_iff_outermost.2 fun n hn => ?_)
  rw [← Bool.not_eq_true, covered_iff]
  rintro ⟨s, hs, hcovers⟩
  -- an outermost range that passes the first test passes the second one
  have hcovered : n.covered covers' = true := covered_iff.2 ⟨s, hs, himp s hcovers⟩
  rw [deepest_eq_none_iff_outermost.1 hnone n hn] at hcovered
  cases hcovered

end Descent

/-- **The lookups agree on points.** In any tree, the lookup by the span at a point comes out with
the node that the lookup by the point comes out with. Where the lookup by span comes out with a
node, so does the lookup by point on every point of the span, if not with the same one. And the
lookup by point comes out empty exactly if no outermost node has a range around the point. -/
theorem lookups_agree (root : Node) :
    (∀ p, root.findAround (.single p) = root.findAt p) ∧
      (∀ s, (root.findAround s).isSome = true → ∀ q, s.containsPoint q = true →
        (root.findAt q).isSome = true) ∧
      ∀ p, root.findAt p = none ↔
        ∀ n, root.Outermost n → n.covered (·.containsPoint p) = false := by
  simp only [findAt_eq_deepest, findAround_eq_deepest]
  refine ⟨fun p => ?_, fun s hs q hq => ?_, fun p => deepest_eq_none_iff_outermost⟩
  · simp only [Span.containsSpan_single]
  · exact isSome_deepest_of_imp (fun _ hown => Span.containsPoint_of_containsSpan hown hq) hs

/-- A call whose argument sticks out of it, and behind it a group without a range with a block that
begins within the call. -/
def strayTree : Node :=
  .mk ⟨0, "Unit", none, none, .ok .variable, []⟩
    [.mk ⟨1, "Call", some ⟨⟨1, 0⟩, ⟨1, 4⟩⟩, none, .ok .variable, []⟩
        [.mk ⟨2, "Argument", some ⟨⟨1, 2⟩, ⟨3, 0⟩⟩, none, .ok .variable, []⟩ []],
      .mk ⟨3, "Group", none, none, .ok .variable, []⟩
        [.mk ⟨4, "Block", some ⟨⟨1, 3⟩, ⟨2, 9⟩⟩, none, .ok .variable, []⟩ []]]

/-- A span that begins in the call is found in the block, and its first point is found as well, but
in the argument of the call. -/
theorem lookups_agree_stray :
    (strayTree.findAround ⟨⟨1, 4⟩, ⟨2, 0⟩⟩).map key = some 4 ∧
      (strayTree.findAround ⟨⟨1, 4⟩, ⟨2, 0⟩⟩).isSome = true ∧
      (⟨⟨1, 4⟩, ⟨2, 0⟩⟩ : Span).containsPoint ⟨1, 4⟩ = true ∧
      (strayTree.findAt ⟨1, 4⟩).isSome = true ∧ (strayTree.findAt ⟨1, 4⟩).map key = some 2 := by
  have hfound : (strayTree.findAround ⟨⟨1, 4⟩, ⟨2, 0⟩⟩).isSome = true := by decide
  have hpoint : (⟨⟨1, 4⟩, ⟨2, 0⟩⟩ : Span).containsPoint ⟨1, 4⟩ = true := by decide
  exact ⟨by decide, hfound, hpoint, (lookups_agree strayTree).2.1 _ hfound _ hpoint, by decide⟩

end Node

end CodeIndex
