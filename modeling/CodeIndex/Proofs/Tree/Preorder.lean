import Mathlib.Data.List.Basic
import CodeIndex.Tree.Lookup
import CodeIndex.Tree.Walk

set_option relaxedAutoImplicit false
set_option autoImplicit false

/-!
# Pre-order and paths

The walk with a stack lists the nodes of a tree in pre-order. A node of a tree is reached by a path,
which says at every step which child to take; its lineage is the list of the nodes on the way.
Occurrences are told apart by their paths, so that a node that stands in a tree twice makes no
difference.

## Main definitions

* `Node.at?` — the node at the end of a path.
* `Node.lineage` — the nodes along a path, from the root down.
* `Node.occurrences` — the nodes in pre-order, each with its path.

## Main results

* `Node.walk_eq_preorder` — the walk with a stack is the pre-order.
* `Node.exists_path_of_mem_preorder` — every node of the pre-order stands at the end of a path.
* `Node.map_snd_occurrences`, `Node.mem_occurrences_iff` — the occurrences are the nodes of the
  pre-order, and they are all there is at the end of a path.
-/

namespace CodeIndex

namespace Node

/-! ## Induction on trees -/

/-- A property holds of every tree if it passes from the children of a node to the node. -/
@[elab_as_elim, induction_eliminator]
theorem treeInduction {motive : Node → Prop}
    (mk : ∀ info children, (∀ c ∈ children, motive c) → motive (mk info children)) (n : Node) :
    motive n :=
  @Node.rec motive (fun ns => ∀ c ∈ ns, motive c) mk (fun _ hc => absurd hc List.not_mem_nil)
    (fun _ _ hn hns => List.forall_mem_cons.2 ⟨hn, hns⟩) n

/-! ## Functions on several trees -/

lemma preorderAll_eq (ns : List Node) : preorderAll ns = ns.flatMap preorder := by
  induction ns with
  | nil => rfl
  | cons n ns ih => rw [preorderAll, ih, List.flatMap_cons]

/-- A node comes before its descendants. -/
lemma preorder_eq (n : Node) : n.preorder = n :: n.children.flatMap preorder := by
  cases n with
  | mk info children => rw [preorder, preorderAll_eq, Node.children]

/-! ## The walk with a stack -/

lemma count_eq (n : Node) : n.count = countAll n.children + 1 := by
  cases n with
  | mk info children => rw [count, Node.children]

lemma countAll_append (ms ns : List Node) : countAll (ms ++ ns) = countAll ms + countAll ns := by
  induction ms with
  | nil => rw [List.nil_append, countAll, Nat.zero_add]
  | cons m ms ih => rw [List.cons_append, countAll, countAll, ih, Nat.add_assoc]

/-- With a step for every node on the stack, the loop lists the pending trees in pre-order. -/
lemma walkStack_eq {steps : Nat} {stack : List Node} (h : countAll stack ≤ steps) :
    walkStack steps stack = stack.flatMap preorder := by
  induction steps generalizing stack with
  | zero =>
    cases stack with
    | nil => rfl
    | cons n stack =>
      rw [countAll, count_eq] at h
      omega
  | succ steps ih =>
    cases stack with
    | nil => rfl
    | cons n stack =>
      have hrest : countAll (n.children ++ stack) ≤ steps := by
        rw [countAll, count_eq] at h
        rw [countAll_append]
        omega
      rw [walkStack, ih hrest, List.flatMap_append, List.flatMap_cons, preorder_eq n,
        List.cons_append]

/-- The walk with a stack is the pre-order. -/
theorem walk_eq_preorder (root : Node) : root.walk = root.preorder := by
  have hcount : countAll [root] = root.count := by rw [countAll, countAll, Nat.add_zero]
  rw [walk, walkStack_eq (Nat.le_of_eq hcount), List.flatMap_cons, List.flatMap_nil, List.append_nil]

/-! ## Paths -/

/-- The node at the end of a path, which names a child by its number at every step. -/
def at? : Node → List Nat → Option Node
  | n, [] => some n
  | n, i :: path => n.children[i]?.bind (at? · path)

/-- The nodes along a path, from the root of the tree down to the end of the path. -/
def lineage : Node → List Nat → List Node
  | n, [] => [n]
  | n, i :: path => n :: n.children[i]?.elim [] (lineage · path)

lemma at?_cons {n c : Node} {i : Nat} (hc : n.children[i]? = some c) (path : List Nat) :
    n.at? (i :: path) = c.at? path := by
  rw [at?, hc, Option.bind_some]

/-- Paths are followed one after the other. -/
lemma at?_append {n m : Node} {path : List Nat} (h : n.at? path = some m) (below : List Nat) :
    n.at? (path ++ below) = m.at? below := by
  induction path generalizing n with
  | nil => rw [Option.some.inj h, List.nil_append]
  | cons i path ih =>
    obtain ⟨c, hc, hm⟩ := Option.bind_eq_some_iff.1 h
    rw [List.cons_append, at?_cons hc, ih hm]

lemma lineage_cons {n c : Node} {i : Nat} (hc : n.children[i]? = some c) (path : List Nat) :
    n.lineage (i :: path) = n :: c.lineage path := by
  rw [lineage, hc, Option.elim_some]

/-- Every node of the pre-order stands at the end of a path. -/
theorem exists_path_of_mem_preorder {root n : Node} (h : n ∈ root.preorder) :
    ∃ path, root.at? path = some n := by
  induction root with
  | mk info children ih =>
    rw [preorder_eq] at h
    rcases List.mem_cons.1 h with rfl | hbelow
    · exact ⟨[], rfl⟩
    · obtain ⟨c, hc, hn⟩ := List.mem_flatMap.1 hbelow
      obtain ⟨i, hi⟩ := List.mem_iff_getElem?.1 hc
      obtain ⟨path, hpath⟩ := ih c hc hn
      exact ⟨i :: path, by rw [at?_cons hi, hpath]⟩

/-- Every node of a lineage stands at the end of a path. -/
lemma exists_path_of_mem_lineage {root n : Node} {path : List Nat} (h : n ∈ root.lineage path) :
    ∃ q, root.at? q = some n := by
  induction path generalizing root with
  | nil => exact ⟨[], by rw [at?, List.mem_singleton.1 h]⟩
  | cons i path ih =>
    rcases List.mem_cons.1 h with rfl | hbelow
    · exact ⟨[], rfl⟩
    · cases hc : root.children[i]? with
      | none =>
        rw [hc] at hbelow
        cases hbelow
      | some c =>
        rw [hc] at hbelow
        obtain ⟨q, hq⟩ := ih hbelow
        exact ⟨i :: q, by rw [at?_cons hc, hq]⟩

/-- The lineage of a node ends in the node. -/
lemma exists_lineage_eq_append {root n : Node} {path : List Nat} (h : root.at? path = some n) :
    ∃ above, root.lineage path = above ++ [n] := by
  induction path generalizing root with
  | nil => exact ⟨[], by rw [lineage, Option.some.inj h, List.nil_append]⟩
  | cons i path ih =>
    obtain ⟨c, hc, hn⟩ := Option.bind_eq_some_iff.1 h
    obtain ⟨above, habove⟩ := ih hn
    exact ⟨root :: above, by rw [lineage_cons hc, habove, List.cons_append]⟩

/-! ## Occurrences -/

mutual

/-- The nodes of a tree in pre-order, each with its path. -/
def occurrences : Node → List (List Nat × Node)
  | mk info children => ([], mk info children) :: occurrencesFrom 0 children

/-- The nodes of several trees in pre-order. The trees are numbered from `i` on, and a path begins
with the number of its tree. -/
def occurrencesFrom (i : Nat) : List Node → List (List Nat × Node)
  | [] => []
  | n :: ns => (occurrences n).map (Prod.map (i :: ·) id) ++ occurrencesFrom (i + 1) ns

end

lemma occurrences_eq (n : Node) : n.occurrences = ([], n) :: occurrencesFrom 0 n.children := by
  cases n with
  | mk info children => rw [occurrences, Node.children]

lemma map_snd_occurrencesFrom {ns : List Node}
    (h : ∀ c ∈ ns, c.occurrences.map Prod.snd = c.preorder) (i : Nat) :
    (occurrencesFrom i ns).map Prod.snd = ns.flatMap preorder := by
  induction ns generalizing i with
  | nil => rfl
  | cons n ns ih =>
    rw [occurrencesFrom, List.map_append, List.map_map, List.flatMap_cons,
      ih (fun c hc => h c (List.mem_cons_of_mem _ hc)), ← h n List.mem_cons_self]
    rfl

/-- The occurrences are the nodes of the pre-order, in its order. -/
theorem map_snd_occurrences (root : Node) : root.occurrences.map Prod.snd = root.preorder := by
  induction root with
  | mk info children ih =>
    rw [occurrences_eq, List.map_cons, preorder_eq]
    exact congrArg _ (map_snd_occurrencesFrom ih 0)

lemma mem_occurrencesFrom_iff {i : Nat} {ns : List Node} {path : List Nat} {n : Node} :
    (path, n) ∈ occurrencesFrom i ns ↔
      ∃ j c below, path = (i + j) :: below ∧ ns[j]? = some c ∧ (below, n) ∈ c.occurrences := by
  induction ns generalizing i with
  | nil => simp [occurrencesFrom]
  | cons m ns ih =>
    rw [occurrencesFrom, List.mem_append, List.mem_map, ih]
    constructor
    · rintro (⟨⟨below, n⟩, hmem, heq⟩ | ⟨j, c, below, rfl, hc, hmem⟩)
      · obtain ⟨rfl, rfl⟩ := Prod.mk.inj heq
        exact ⟨0, m, below, rfl, rfl, hmem⟩
      · exact ⟨j + 1, c, below, by rw [Nat.add_right_comm, Nat.add_assoc], hc, hmem⟩
    · rintro ⟨_ | j, c, below, rfl, hc, hmem⟩
      · obtain rfl := Option.some.inj hc
        exact Or.inl ⟨(below, n), hmem, rfl⟩
      · exact Or.inr ⟨j, c, below, by rw [Nat.add_right_comm, Nat.add_assoc], hc, hmem⟩

/-- The occurrences are what stands at the ends of paths. -/
theorem mem_occurrences_iff {root n : Node} {path : List Nat} :
    (path, n) ∈ root.occurrences ↔ root.at? path = some n := by
  induction root generalizing path with
  | mk info children ih =>
    rw [occurrences_eq, List.mem_cons, mem_occurrencesFrom_iff]
    constructor
    · rintro (heq | ⟨j, c, below, rfl, hc, hmem⟩)
      · obtain ⟨rfl, rfl⟩ := Prod.mk.inj heq
        rfl
      · rw [Nat.zero_add, at?_cons hc]
        exact (ih c (List.mem_of_getElem? hc)).1 hmem
    · intro hat
      cases path with
      | nil => exact Or.inl (by rw [Option.some.inj hat])
      | cons j below =>
        obtain ⟨c, hc, hbelow⟩ := Option.bind_eq_some_iff.1 hat
        exact Or.inr ⟨j, c, below, by rw [Nat.zero_add], hc,
          (ih c (List.mem_of_getElem? hc)).2 hbelow⟩

end Node

end CodeIndex
