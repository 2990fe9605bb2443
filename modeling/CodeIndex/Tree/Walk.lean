import CodeIndex.Tree.Node

set_option autoImplicit false

/-!
# Walking a tree

The nodes of a tree in pre-order: each node before its descendants, and the subtree of an earlier
child before that of a later one.

## Main definitions

* `Node.walk` — the walk as a loop over a stack of pending subtrees.
* `Node.preorder` — the same list by recursion on the tree.
* `Node.names` — the names declared anywhere in a tree, each once, in order of declaration.

## Implementation notes

The loop takes one node per step, so the number of nodes on the stack bounds it.
-/

namespace CodeIndex

namespace Node

/-- Take the top of the stack, put its children in its place, and go on for `steps` steps. -/
def walkStack : (steps : Nat) → (stack : List Node) → List Node
  | 0, _ => []
  | _ + 1, [] => []
  | k + 1, n :: stack => n :: walkStack k (n.children ++ stack)

/-- The nodes of a tree in pre-order, found with a stack. -/
def walk (root : Node) : List Node := walkStack root.count [root]

mutual

/-- The nodes of a tree in pre-order, by recursion. -/
def preorder : Node → List Node
  | mk info children => mk info children :: preorderAll children

/-- The nodes of several trees in pre-order, one tree after the other. -/
def preorderAll : List Node → List Node
  | [] => []
  | n :: ns => preorder n ++ preorderAll ns

end

/-- The names declared in a tree, each once, in the order of their first declaration. -/
def names (root : Node) : List String := (root.walk.filterMap name).eraseDups

end Node

end CodeIndex
