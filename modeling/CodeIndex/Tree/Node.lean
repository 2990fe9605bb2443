import CodeIndex.Fault
import CodeIndex.Position

set_option autoImplicit false

/-!
# Trees of parsed nodes

A parser hands over a tree of typed nodes. A node may have a source range, may declare a name, and
may hold named references to other nodes.

## Main definitions

* `Node` — a node with its children; `NodeInfo` — what is known of the node itself.
* `NamedReference`, `ReferenceTarget` — one outgoing reference and what it points to.
* `Node.count` — the number of nodes of a tree.
* `Node.sameAs` — whether two nodes are one and the same.

## Implementation notes

Nodes have an identity: a key that the parser gives out. Two occurrences with the same key are the
same object. Where a node and a part of it may share a key, the node type tells them apart.
-/

namespace CodeIndex

/-- The kind of a symbol, as a number that the editor understands. -/
structure SymbolKind where
  code : Nat
deriving DecidableEq, Repr, Inhabited

/-- The kind of a variable, reported for everything that has no kind of its own. -/
def SymbolKind.variable : SymbolKind := ⟨13⟩

/-- What a resolved reference points to. -/
inductive ReferenceTarget where
  /-- A node of the same tree, by its key and type. -/
  | node (key : Nat) (type : String)
  /-- An identifier that the adapter computed, possibly of another file. -/
  | identifier (id : String)
deriving DecidableEq, Repr

/-- One named reference held by a node. -/
structure NamedReference where
  /-- The name of the slot, which becomes a field of the indexed symbol. -/
  field : String
  /-- The name as written at the place of use. -/
  name : Option String
  /-- The range of the reference itself. -/
  span : Option Span
  target : Option ReferenceTarget
deriving DecidableEq, Repr

/-- What is known of a node apart from its children. -/
structure NodeInfo where
  /-- The identity of the node. -/
  key : Nat
  /-- The type that the grammar gives to the node. -/
  type : String
  /-- The source range, absent for synthetic nodes. -/
  span : Option Span
  /-- The name that the node declares. -/
  name : Option String
  /-- The kind shown in an outline; asking for it may fail. -/
  kind : Except Fault SymbolKind
  references : List NamedReference

/-- A node of a parsed tree. -/
inductive Node where
  | mk (info : NodeInfo) (children : List Node)

namespace Node

/-- What is known of the node itself. -/
def info : Node → NodeInfo
  | mk info _ => info

/-- The children in source order. -/
def children : Node → List Node
  | mk _ children => children

/-- The identity of the node. -/
def key (n : Node) : Nat := n.info.key

/-- The type of the node. -/
def type (n : Node) : String := n.info.type

/-- The source range of the node. -/
def span (n : Node) : Option Span := n.info.span

/-- The name that the node declares. -/
def name (n : Node) : Option String := n.info.name

/-- The references that the node holds. -/
def references (n : Node) : List NamedReference := n.info.references

/-- Whether the node has a source range. -/
def positioned (n : Node) : Bool := n.span.isSome

/-- Whether two nodes are one and the same. -/
def sameAs (m n : Node) : Bool := m.key == n.key

mutual

/-- The number of nodes of a tree. -/
def count : Node → Nat
  | mk _ children => countAll children + 1

/-- The number of nodes of several trees. -/
def countAll : List Node → Nat
  | [] => 0
  | n :: ns => count n + countAll ns

end

end Node

end CodeIndex
