import CodeIndex.Proofs.Lists
import CodeIndex.Proofs.Tree.Preorder

set_option relaxedAutoImplicit false
set_option autoImplicit false

/-!
# The walk as a loop

The walk of a tree is a loop over a stack: round after round it takes the last pending tree off the
stack, visits its root, and pushes its children in reverse order. This file shows that the loop
comes to its end whatever is on the stack, because every round takes one node off the trees that are
pending, and that what it visits on the whole is what it has visited already and the pending trees
in pre-order, the last one first. For one tree this is the recursive pre-order, in which every
occurrence of a node has its place: behind those that it stands below, and behind the subtrees of
its earlier siblings.

## Main definitions

* `Visit` — the state of the loop between two rounds; `Visit.round?` — one round.
* `Visit.Ends` — the loop comes to its end after a number of rounds, having visited a list of nodes.
* `Node.InPreorder` — the occurrences of a tree are visited once each, and in which order.

## Main results

* `Visit.count_round`, `Visit.whole_round` — what one round takes off, and what it leaves as it is.
* `Visit.ends_iff` — the end of the loop, from any stack.
* `Node.pairwise_occurrences` — the paths of the occurrences ascend.
* `Node.loop_ends_iff` — the walk of a tree is the recursive pre-order.
-/

namespace CodeIndex

/-! ## The loop -/

/-- The state of a walk between two rounds: the nodes visited so far and the trees that are pending,
on a stack that grows at its end. -/
structure Visit where
  visited : List Node
  pending : List Node

namespace Visit

variable {v w : Visit} {rounds : Nat} {visited : List Node}

/-- One round takes the last pending tree, visits its root and makes its children pending, in
reverse order. There is none if nothing is pending. -/
def round? (v : Visit) : Option Visit :=
  v.pending.getLast?.map fun n =>
    ⟨v.visited ++ [n], v.pending.dropLast ++ n.children.reverse⟩

/-- The loop is over after a number of rounds and has then visited the given nodes. -/
inductive Ends : Visit → (rounds : Nat) → (visited : List Node) → Prop where
  | finished {v : Visit} (hover : v.round? = none) : Ends v 0 v.visited
  | next {v w : Visit} {rounds : Nat} {visited : List Node} (hround : v.round? = some w)
      (hrest : Ends w rounds visited) : Ends v (rounds + 1) visited

/-- All that a loop visits in the end, if it comes to one: what it has visited, and the pending
trees in pre-order, the last one first. -/
def whole (v : Visit) : List Node := v.visited ++ v.pending.reverse.flatMap Node.preorder

lemma round?_eq_none_iff : v.round? = none ↔ v.pending = [] := by
  rw [round?, Option.map_eq_none_iff, List.getLast?_eq_none_iff]

lemma round?_eq_some_iff : v.round? = some w ↔ ∃ rest n, v.pending = rest ++ [n] ∧
    w = ⟨v.visited ++ [n], rest ++ n.children.reverse⟩ := by
  rw [round?, Option.map_eq_some_iff]
  constructor
  · rintro ⟨n, hlast, rfl⟩
    obtain ⟨rest, hrest⟩ := List.getLast?_eq_some_iff.1 hlast
    exact ⟨rest, n, hrest, by rw [hrest, List.dropLast_concat]⟩
  · rintro ⟨rest, n, hrest, rfl⟩
    exact ⟨n, by rw [hrest, List.getLast?_concat], by rw [hrest, List.dropLast_concat]⟩

lemma countAll_reverse (ns : List Node) : Node.countAll ns.reverse = Node.countAll ns := by
  induction ns with
  | nil => rfl
  | cons n ns ih =>
    rw [List.reverse_cons, Node.countAll_append, ih, Node.countAll, Node.countAll, Node.countAll,
      Nat.add_zero, Nat.add_comm]

/-- A round takes one node off the pending trees, though it may make the stack longer. -/
lemma count_round (h : v.round? = some w) :
    Node.countAll w.pending + 1 = Node.countAll v.pending := by
  obtain ⟨rest, n, hrest, rfl⟩ := round?_eq_some_iff.1 h
  rw [hrest, Node.countAll_append, Node.countAll_append, countAll_reverse, Node.countAll,
    Node.countAll, Node.count_eq, Nat.add_zero, Nat.add_assoc]

/-- A round does not change what is visited on the whole. -/
lemma whole_round (h : v.round? = some w) : w.whole = v.whole := by
  obtain ⟨rest, n, hrest, rfl⟩ := round?_eq_some_iff.1 h
  unfold whole
  rw [hrest, List.reverse_append, List.reverse_reverse, List.flatMap_append, List.reverse_append,
    List.reverse_singleton, List.singleton_append, List.flatMap_cons, Node.preorder_eq n,
    List.append_assoc, List.singleton_append, List.cons_append]

/-- From every state the loop comes to its end: it takes as many rounds as there are nodes in the
pending trees, and visits them in pre-order, the last tree first. -/
lemma ends_whole (v : Visit) : v.Ends (Node.countAll v.pending) v.whole := by
  induction hcount : Node.countAll v.pending generalizing v with
  | zero =>
    have hover : v.round? = none := by
      cases hround : v.round? with
      | none => rfl
      | some w =>
        have := count_round hround
        omega
    have hwhole : v.whole = v.visited := by
      rw [whole, round?_eq_none_iff.1 hover, List.reverse_nil, List.flatMap_nil, List.append_nil]
    exact hwhole ▸ .finished hover
  | succ count ih =>
    cases hround : v.round? with
    | none =>
      rw [round?_eq_none_iff.1 hround, Node.countAll] at hcount
      omega
    | some w =>
      have hleft := count_round hround
      exact .next hround (whole_round hround ▸ ih w (by omega))

/-- The loop comes to one end only. -/
lemma Ends.unique {rounds' : Nat} {visited' : List Node} (h : v.Ends rounds visited)
    (h' : v.Ends rounds' visited') : rounds' = rounds ∧ visited' = visited := by
  induction h generalizing rounds' with
  | finished hover =>
    cases h' with
    | finished => exact ⟨rfl, rfl⟩
    | next hround => cases hover.symm.trans hround
  | next hround _ ih =>
    cases h' with
    | finished hover => cases hover.symm.trans hround
    | next hround' hrest =>
      obtain rfl := Option.some.inj (hround.symm.trans hround')
      exact (ih hrest).imp_left (congrArg (· + 1))

lemma ends_iff :
    v.Ends rounds visited ↔ rounds = Node.countAll v.pending ∧ visited = v.whole := by
  constructor
  · exact v.ends_whole.unique
  · rintro ⟨rfl, rfl⟩
    exact v.ends_whole

end Visit

/-! ## The order of the walk -/

namespace Node

/-- The occurrences of the nodes of a tree are visited in pre-order: each of them once, before what
stands below it, and what stands below a child before what stands below a later one. -/
structure InPreorder (root : Node) (visited : List (List Nat × Node)) : Prop where
  mem_iff : ∀ path n, (path, n) ∈ visited ↔ root.at? path = some n
  once : (visited.map Prod.fst).Nodup
  downward : ∀ {path i below m n}, root.at? path = some m → root.at? (path ++ i :: below) = some n →
    [(path, m), (path ++ i :: below, n)].Sublist visited
  sideways : ∀ {path i j below below' m n}, i < j → root.at? (path ++ i :: below) = some m →
    root.at? (path ++ j :: below') = some n →
      [(path ++ i :: below, m), (path ++ j :: below', n)].Sublist visited

lemma pairwise_occurrencesFrom {ns : List Node}
    (h : ∀ c ∈ ns, c.occurrences.Pairwise fun a b => a.1 < b.1) (i : Nat) :
    (occurrencesFrom i ns).Pairwise fun a b => a.1 < b.1 := by
  induction ns generalizing i with
  | nil => exact .nil
  | cons n ns ih =>
    rw [occurrencesFrom]
    refine List.pairwise_append.2 ⟨?_, ih (fun c hc => h c (List.mem_cons_of_mem _ hc)) _, ?_⟩
    · rw [List.pairwise_map]
      exact (h n List.mem_cons_self).imp fun hab => List.cons_lt_cons_self.2 hab
    · intro a ha b hb
      obtain ⟨below, -, rfl⟩ := List.mem_map.1 ha
      obtain ⟨j, c, below', hpath, -, -⟩ := mem_occurrencesFrom_iff.1 hb
      show i :: below.1 < b.1
      rw [hpath, List.cons_lt_cons_iff]
      omega

/-- The paths of the occurrences ascend in the lexicographic order. -/
lemma pairwise_occurrences (root : Node) :
    root.occurrences.Pairwise fun a b => a.1 < b.1 := by
  induction root with
  | mk info children ih =>
    rw [occurrences_eq]
    refine List.pairwise_cons.2 ⟨fun b hb => ?_, pairwise_occurrencesFrom ih 0⟩
    obtain ⟨j, c, below, hpath, -, -⟩ := mem_occurrencesFrom_iff.1 hb
    rw [hpath]
    exact List.nil_lt_cons _ _

/-- Of two occurrences the one with the smaller path is visited first. -/
lemma sublist_occurrences {root m n : Node} {path path' : List Nat} (hm : root.at? path = some m)
    (hn : root.at? path' = some n) (hlt : path < path') :
    [(path, m), (path', n)].Sublist root.occurrences := by
  refine pair_sublist_of_pairwise root.pairwise_occurrences (mem_occurrences_iff.2 hm)
    (mem_occurrences_iff.2 hn) ?_ (List.lt_asymm hlt)
  intro heq
  obtain ⟨rfl, -⟩ := Prod.mk.inj heq
  exact List.lt_irrefl path hlt

/-- The occurrences stand in pre-order.

**Proof sketch.** They ascend by their paths in the lexicographic order. In it a path comes before
all that go on from it, and of two paths that part at a node the one to the earlier child. -/
lemma inPreorder_occurrences (root : Node) : root.InPreorder root.occurrences where
  mem_iff := fun _ _ => mem_occurrences_iff
  once := by
    refine List.pairwise_map.2 (root.pairwise_occurrences.imp fun {a b} hlt heq => ?_)
    rw [heq] at hlt
    exact List.lt_irrefl b.1 hlt
  downward := fun {path i below _ _} hm hn => by
    refine sublist_occurrences hm hn ?_
    conv_lhs => rw [← List.append_nil path]
    exact List.append_left_lt (List.nil_lt_cons i below)
  sideways := fun hij hm hn =>
    sublist_occurrences hm hn (List.append_left_lt (List.cons_lt_cons_iff.2 (.inl hij)))

/-- **The walk of a tree is its recursive pre-order.** The loop over a stack that begins with the
tree comes to its end, after as many rounds as the tree has nodes; what it has visited then is the
root, followed by the walks of the children one after the other. So it visits every occurrence of a
node once, before all that stands below it, and the subtree of an earlier child before that of a
later one. -/
theorem loop_ends_iff (root : Node) :
    (∀ rounds visited, Visit.Ends ⟨[], [root]⟩ rounds visited ↔
      rounds = root.count ∧ visited = root.walk) ∧
    root.walk = root :: root.children.flatMap walk ∧
    ∃ visited, visited.map Prod.snd = root.walk ∧ root.InPreorder visited := by
  have hwalk : walk = preorder := funext walk_eq_preorder
  refine ⟨fun rounds visited => ?_, ?_, root.occurrences, ?_, root.inPreorder_occurrences⟩
  · have hcount : countAll [root] = root.count := by rw [countAll, countAll, Nat.add_zero]
    have hwhole : Visit.whole ⟨[], [root]⟩ = root.walk := by
      rw [Visit.whole, hwalk, List.reverse_singleton, List.flatMap_singleton, List.nil_append]
    rw [Visit.ends_iff, hcount, hwhole]
  · rw [hwalk, ← preorder_eq]
  · rw [map_snd_occurrences, hwalk]

end Node

end CodeIndex
