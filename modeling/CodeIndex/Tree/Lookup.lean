import CodeIndex.Tree.Node

set_option autoImplicit false

/-!
# Looking up nodes by position

The innermost node around a point or a span. A node without a range is transparent: it is never
the answer itself, and its children are searched as if they stood in its place.

## Main definitions

* `Node.findAt` — the deepest node whose range contains a point.
* `Node.findAround` — the deepest node whose range contains a span.
-/

namespace CodeIndex

namespace Node

mutual

/-- The deepest node that contains a point, the first child winning among several. -/
def findAt (p : Point) : Node → Option Node
  | mk info children =>
    match info.span with
    | none => findAtIn p children
    | some own =>
      if own.containsPoint p then (findAtIn p children).or (some (mk info children)) else none

/-- The first hit among several trees. -/
def findAtIn (p : Point) : List Node → Option Node
  | [] => none
  | n :: ns => (findAt p n).or (findAtIn p ns)

end

mutual

/-- The deepest node that contains a span, the first child winning among several. -/
def findAround (s : Span) : Node → Option Node
  | mk info children =>
    match info.span with
    | none => findAroundIn s children
    | some own =>
      if own.containsSpan s then (findAroundIn s children).or (some (mk info children)) else none

/-- The first hit among several trees. -/
def findAroundIn (s : Span) : List Node → Option Node
  | [] => none
  | n :: ns => (findAround s n).or (findAroundIn s ns)

end

end Node

end CodeIndex
