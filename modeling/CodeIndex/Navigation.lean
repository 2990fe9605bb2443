import CodeIndex.Repository.Basic
import CodeIndex.Text.Lowercase
import CodeIndex.Tree.Node

set_option autoImplicit false

/-!
# Navigation

Questions that an editor asks about a position or a name, answered from the repository alone.

## Main definitions

* `Navigation.definition?` — where the thing referred to at a position is declared.
* `Navigation.references` — every occurrence that refers to the symbol at a position.
* `Navigation.hover?` — what to show about the symbol at a position.
* `Navigation.workspaceSymbols` — the symbols whose name contains a query.
-/

namespace CodeIndex

/-- A range in a file, in editor coordinates. -/
structure Location where
  uri : Uri
  range : Editor.Range
deriving DecidableEq, Repr, Inhabited

/-- What is shown about a symbol: a piece of Markdown and the range it is about. -/
structure Hover where
  markdown : String
  range : Option Editor.Range
deriving DecidableEq, Repr, Inhabited

/-- A symbol found by its name. -/
structure SymbolInformation where
  name : String
  kind : SymbolKind
  location : Location
  /-- The node type of the symbol. -/
  container : Option String
deriving DecidableEq, Repr, Inhabited

/-- Where a symbol stands, if it has a range. -/
def Symbol.location? (s : Symbol) : Option Location := s.range.map fun r => ⟨s.uri, r.toEditor⟩

namespace Navigation

variable (r : Repository)

/-- Follow the reference at a position to its target. There is no answer when no symbol or no
occurrence covers the position, when the reference is unresolved, and when its target is gone. -/
def definition? (uri : Uri) (pos : Editor.Position) : Option Location :=
  let p := pos.toPoint
  (r.find? uri p).bind fun s =>
    (s.referenceAt? p).bind fun ref =>
      ref.target.bind fun id => (r.load? id).bind Symbol.location?

/-- The occurrences on one symbol that refer to an identifier. -/
def occurrencesOf (id : String) (s : Symbol) : List Location :=
  (s.referencesTo id).filterMap fun ref => ref.occurrence.map fun o => ⟨s.uri, o.toEditor⟩

/-- Every occurrence that refers to the symbol at a position, in store order, followed on request
by the place of the symbol itself. -/
def references (uri : Uri) (pos : Editor.Position) (declaration : Bool) : List Location :=
  match r.find? uri pos.toPoint with
  | none => []
  | some target =>
    r.toList.flatMap (occurrencesOf target.id) ++
      (if declaration then target.location?.toList else [])

/-- The name and the node type of a symbol as Markdown. -/
def markdown (s : Symbol) : String :=
  let title := "**" ++ s.name?.getD s.id ++ "**"
  match s.type? with
  | some type => title ++ "\n\n`" ++ type ++ "`"
  | none => title

/-- What to show at a position: the narrowest symbol there. -/
def hover? (uri : Uri) (pos : Editor.Position) : Option Hover :=
  (r.find? uri pos.toPoint).map fun s => ⟨markdown s, s.range.map Span.toEditor⟩

/-- Whether one text occurs in another. -/
def occursIn (needle : List Char) : List Char → Bool
  | [] => needle.isEmpty
  | c :: cs => needle.isPrefixOf (c :: cs) || occursIn needle cs

/-- How many symbols a name query lists at most when nothing else is said. -/
def symbolLimit : Nat := 100

/-- The answer for one symbol: it has to have a range and a name of its own that contains the
query, letter case aside. A symbol named like its identifier has no name of its own. -/
def information? (query : String) (s : Symbol) : Option SymbolInformation :=
  match s.name?, s.range with
  | some name, some range =>
    if name == s.id || !occursIn query.toList (Text.lowercase name).toList then none
    else some ⟨name, .variable, ⟨s.uri, range.toEditor⟩, s.type?⟩
  | _, _ => none

/-- The first `limit` symbols, in store order, whose name contains the query. -/
def workspaceSymbols (query : String) (limit : Nat) : List SymbolInformation :=
  (r.toList.filterMap (information? (Text.lowercase query))).take limit

end Navigation

end CodeIndex
