import CodeIndex.Decimal.Shortest
import CodeIndex.OrderedMap
import CodeIndex.Position
import CodeIndex.Uri.Basic

set_option autoImplicit false

/-!
# Symbols

What the index stores of a node: an identifier, the file that owns it, a range, and named fields.
The fields keep their order; the uri always comes first.

## Main definitions

* `Symbol` — an indexed node.
* `FieldValue` — the value of a field: text, truth value, number or reference.
* `Reference` — an occurrence of a name, and what it resolves to.
* `Symbol.referenceAt?` — the narrowest reference around a point.
* `Symbol.referencesTo` — the references that resolve to an identifier.
-/

namespace CodeIndex

/-- A reference stored on a symbol. -/
structure Reference where
  /-- The name as written at the place of use. -/
  name : Option String
  /-- The identifier of the symbol it refers to, absent when unresolved. -/
  target : Option String
  /-- The range of the reference itself. -/
  occurrence : Option Span
deriving DecidableEq, Repr, Inhabited

/-- A reference is written as an arrow from its name to its target. -/
def Reference.text (r : Reference) : String :=
  match r.name, r.target with
  | some name, some target => name ++ " -> " ++ target
  | some name, none => name ++ " -> ?"
  | none, some target => "-> " ++ target
  | none, none => "-> ?"

/-- The value of a field. -/
inductive FieldValue where
  | text (value : String)
  | flag (value : Bool)
  | number (value : Float)
  | reference (value : Reference)

namespace FieldValue

/-- The value as text. -/
def display : FieldValue → String
  | text s => s
  | flag b => if b then "true" else "false"
  | number x => (Decimal.Double.ofBits x.toBits).text
  | reference r => r.text

/-- The text of a text field. -/
def text? : FieldValue → Option String
  | text s => some s
  | _ => none

/-- The reference of a reference field. -/
def reference? : FieldValue → Option Reference
  | reference r => some r
  | _ => none

end FieldValue

/-- An indexed node. -/
structure Symbol where
  id : String
  uri : Uri
  range : Option Span
  fields : OrderedMap String FieldValue

namespace Symbol

/-- The key of the field that holds the name. -/
def nameField : String := "name"

/-- The key of the field that holds the uri. -/
def uriField : String := "uri"

/-- The key of the field that holds the node type. -/
def typeField : String := "type"

/-- A symbol with no field but its uri. -/
def create (id : String) (uri : Uri) (range : Option Span) : Symbol :=
  ⟨id, uri, range, OrderedMap.empty.insert uriField (.text uri.text)⟩

/-- The symbol with one field set. -/
def withField (s : Symbol) (key : String) (value : FieldValue) : Symbol :=
  { s with fields := s.fields.insert key value }

/-- The name, if its field holds text. -/
def name? (s : Symbol) : Option String := (s.fields.get? nameField).bind FieldValue.text?

/-- The node type, if its field holds text. -/
def type? (s : Symbol) : Option String := (s.fields.get? typeField).bind FieldValue.text?

/-- Whether the range contains a point. -/
def containsPoint (s : Symbol) (p : Point) : Bool := s.range.any (·.containsPoint p)

/-- The reference fields in order. -/
def references (s : Symbol) : List (String × Reference) :=
  s.fields.entries.filterMap fun (key, value) => value.reference?.map (key, ·)

/-- The references around a point with the sizes of their occurrences, in field order. -/
def referencesAround (s : Symbol) (p : Point) : List (Int × Reference) :=
  s.references.filterMap fun (_, r) =>
    match r.occurrence with
    | some o => if o.containsPoint p then some (o.size, r) else none
    | none => none

/-- The first pair with the least size. -/
def leastOf {α : Type} : List (Int × α) → Option (Int × α)
  | [] => none
  | x :: xs =>
    match leastOf xs with
    | some y => if y.1 < x.1 then some y else some x
    | none => some x

/-- The reference around a point with the narrowest occurrence; field order breaks ties. -/
def referenceAt? (s : Symbol) (p : Point) : Option Reference :=
  (leastOf (s.referencesAround p)).map (·.2)

/-- The references that resolve to an identifier, in field order. -/
def referencesTo (s : Symbol) (id : String) : List Reference :=
  (s.references.map (·.2)).filter fun r => r.target == some id

end Symbol

end CodeIndex
