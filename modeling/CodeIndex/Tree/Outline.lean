import CodeIndex.Tree.Node

set_option autoImplicit false

/-!
# Outlines

The nested list of the named nodes of a file. Only nodes with both a name and a range appear; any
other node is transparent, so its named descendants hang below the nearest named ancestor.

## Main definitions

* `Outline` — one entry with its nested entries.
* `Node.outline` — the outline of a tree, or the fault of the adapter that interrupted it.
-/

namespace CodeIndex

/-- One entry of an outline. -/
inductive Outline where
  | entry (name type : String) (kind : SymbolKind) (range : Editor.Range) (children : List Outline)

namespace Node

mutual

/-- The entries of a tree. -/
def outline : Node → Except Fault (List Outline)
  | mk info children =>
    match outlineAll children with
    | .error fault => .error fault
    | .ok entries =>
      match info.name, info.span with
      | some name, some span =>
        match info.kind with
        | .error fault => .error fault
        | .ok kind => .ok [.entry name info.type kind span.toEditor entries]
      | _, _ => .ok entries

/-- The entries of several trees, in order. -/
def outlineAll : List Node → Except Fault (List Outline)
  | [] => .ok []
  | n :: ns =>
    match outline n with
    | .error fault => .error fault
    | .ok entries =>
      match outlineAll ns with
      | .error fault => .error fault
      | .ok rest => .ok (entries ++ rest)

end

end Node

end CodeIndex
