import CodeIndex.Symbol.Basic
import CodeIndex.Tree.Walk

set_option autoImplicit false

/-!
# Extracting symbols from a tree

Every positioned node of a tree becomes one symbol, in pre-order. Identifiers come from a scheme
that the adapter may choose; a clash within one file is resolved by appending the position of the
node in the walk. References resolve through the identity of their target, through an identifier
that the adapter supplies or, on request, through the last node that declares their name.

## Main definitions

* `IdScheme` — how identifiers are formed; `IdScheme.position` is the default.
* `Extraction.assign` — the positioned nodes of a tree with their identifiers.
* `Extraction.extract` — the symbols of a tree.
-/

namespace CodeIndex

/-- How the identifier of a node is formed from its file, the node, and its number in the walk. -/
abbrev IdScheme := Uri → Node → Nat → String

/-- The file and the range of the node; nodes without a range are told apart by their number. -/
def IdScheme.position : IdScheme := fun uri node ordinal =>
  match node.span with
  | some s =>
    uri.text ++ ":" ++ toString s.start.line.toNat ++ ":" ++ toString s.start.column.toNat ++ ":" ++
      toString s.stop.line.toNat ++ ":" ++ toString s.stop.column.toNat
  | none => uri.text ++ "#" ++ toString ordinal

namespace Extraction

/-- The identifier of a node when the identifiers `taken` are in use: a clash is marked with the
number of the node in the walk. -/
def freshId (taken : List String) (id : String) (ordinal : Nat) : String :=
  if taken.contains id then id ++ "#" ++ toString ordinal else id

/-- Give identifiers to the positioned ones among nodes that are numbered from `ordinal` on. -/
def assignFrom (uri : Uri) (ids : IdScheme) (taken : List String) (ordinal : Nat) :
    List Node → List (Node × String)
  | [] => []
  | n :: ns =>
    if n.positioned then
      let id := freshId taken (ids uri n ordinal) ordinal
      (n, id) :: assignFrom uri ids (ids uri n ordinal :: id :: taken) (ordinal + 1) ns
    else assignFrom uri ids taken (ordinal + 1) ns

/-- The positioned nodes of a tree with their identifiers, in pre-order. -/
def assign (uri : Uri) (ids : IdScheme) (root : Node) : List (Node × String) :=
  assignFrom uri ids [] 0 root.walk

/-- The identifier of the node with a key and a type. -/
def idOf? (table : List (Node × String)) (key : Nat) (type : String) : Option String :=
  (table.find? fun (n, _) => n.key == key && n.type == type).map (·.2)

/-- The identifier of the last node that declares a name. -/
def idNamed? (table : List (Node × String)) (name : String) : Option String :=
  (table.reverse.find? fun (n, _) => n.name == some name).map (·.2)

/-- The identifier that a reference resolves to. -/
def resolve (table : List (Node × String)) (byName : Bool) (r : NamedReference) : Option String :=
  match r.target with
  | some (.node key type) => idOf? table key type
  | some (.identifier id) => some id
  | none => if byName then r.name.bind (idNamed? table) else none

/-- The range of a reference, kept only inside the range of its owner. -/
def occurrenceWithin (owner : Span) (r : NamedReference) : Option Span :=
  r.span.filter owner.containsSpan

/-- A key that no field uses yet: the wished one, or the first free numbered variant of it. -/
def freeKey (fields : OrderedMap String FieldValue) (key : String) : String :=
  if fields.contains key then
    (((List.range (fields.size + 1)).map fun n => key ++ "." ++ toString (n + 1)).find? fun k =>
      !fields.contains k).getD key
  else key

/-- Add a reference of the node as a field. -/
def addReference (table : List (Node × String)) (byName : Bool) (owner : Span) (s : Symbol)
    (r : NamedReference) : Symbol :=
  s.withField (freeKey s.fields r.field)
    (.reference ⟨r.name, resolve table byName r, occurrenceWithin owner r⟩)

/-- The symbol of a positioned node. A node without a name carries its identifier as name. -/
def symbolOf (uri : Uri) (table : List (Node × String)) (byName : Bool) (n : Node) (span : Span)
    (id : String) : Symbol :=
  let bare := ((Symbol.create id uri (some span)).withField Symbol.nameField
    (.text (n.name.getD id))).withField Symbol.typeField (.text n.type)
  n.references.foldl (addReference table byName span) bare

/-- The symbols of a tree: one for each positioned node, in pre-order. -/
def extract (uri : Uri) (root : Node) (ids : IdScheme) (byName : Bool) : List Symbol :=
  let table := assign uri ids root
  root.walk.filterMap fun n =>
    match n.span, idOf? table n.key n.type with
    | some span, some id => some (symbolOf uri table byName n span id)
    | _, _ => none

end Extraction

end CodeIndex
