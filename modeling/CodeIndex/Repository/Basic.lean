import CodeIndex.Symbol.Basic

set_option autoImplicit false

/-!
# The symbol repository

The store of every indexed symbol. Symbols are numbered in the order in which they are stored, and
two indices find them again: by identifier and by owning file. Storing a symbol under a known
identifier replaces the old one and counts as new.

## Main definitions

* `Repository` — the numbered symbols and the two indices.
* `Repository.toList` — the symbols, oldest first: the plain list that the repository stands for.
* `Repository.store`, `Repository.delete`, `Repository.deleteFile` — changes.
* `Repository.load?`, `Repository.symbolsIn`, `Repository.search`, `Repository.find?` — queries.
* `Batch` — a pending replacement of the symbols of one file, and `Batch.commit`.

## Implementation notes

The numbers of symbols are natural numbers and never run out. A program that counts in words of 64
bits agrees with this as long as fewer than `2 ^ 64` symbols were ever stored.
-/

namespace CodeIndex

/-- The store of every indexed symbol. -/
structure Repository where
  /-- The number that the next stored symbol gets. -/
  next : Nat
  /-- The number of the symbol with an identifier. -/
  sequenceOf : OrderedMap String Nat
  /-- The symbols by number, oldest first. -/
  symbols : OrderedMap Nat Symbol
  /-- The identifiers of the symbols of a file; no file is listed without one. -/
  byUri : OrderedMap Uri (List String)

namespace Repository

/-- The repository without symbols. -/
def empty : Repository := ⟨0, .empty, .empty, .empty⟩

instance : Inhabited Repository := ⟨empty⟩

/-- The symbols in store order, oldest first. -/
def toList (r : Repository) : List Symbol := r.symbols.values

/-! ## Changes -/

/-- Take an identifier out of the index of a file, and the file out when nothing is left. -/
def unlist (byUri : OrderedMap Uri (List String)) (uri : Uri) (id : String) :
    OrderedMap Uri (List String) :=
  match byUri.get? uri with
  | none => byUri
  | some ids =>
    match ids.filter (· ≠ id) with
    | [] => byUri.erase uri
    | rest => byUri.insert uri rest

/-- Remove the symbol with an identifier, if there is one. -/
def delete (r : Repository) (id : String) : Repository :=
  match r.sequenceOf.get? id with
  | none => r
  | some n =>
    match r.symbols.get? n with
    | none => { r with sequenceOf := r.sequenceOf.erase id }
    | some s =>
      { r with
        sequenceOf := r.sequenceOf.erase id
        symbols := r.symbols.erase n
        byUri := unlist r.byUri s.uri id }

/-- Store a symbol as the newest one, in place of the one with the same identifier. -/
def store (r : Repository) (s : Symbol) : Repository :=
  let r := r.delete s.id
  { next := r.next + 1
    sequenceOf := r.sequenceOf.insert s.id r.next
    symbols := r.symbols.insert r.next s
    byUri := r.byUri.insert s.uri ((r.byUri.get? s.uri).getD [] ++ [s.id]) }

/-- Forget the numbers and the symbols of identifiers whose file is already unlisted. -/
def dropIds (r : Repository) (ids : List String) : Repository :=
  ids.foldl (fun r id =>
    match r.sequenceOf.get? id with
    | none => r
    | some n => { r with sequenceOf := r.sequenceOf.erase id, symbols := r.symbols.erase n }) r

/-- Remove every symbol of a file, with the number of symbols removed. -/
def deleteFile (r : Repository) (uri : Uri) : Repository × Nat :=
  match r.byUri.get? uri with
  | none => (r, 0)
  | some ids =>
    ({ r with byUri := r.byUri.erase uri }.dropIds ids,
      (ids.filter r.sequenceOf.contains).length)

/-! ## Queries -/

/-- The symbol with an identifier. -/
def load? (r : Repository) (id : String) : Option Symbol :=
  (r.sequenceOf.get? id).bind r.symbols.get?

/-- The symbols that satisfy a predicate, in store order. -/
def loadAll (r : Repository) (p : Symbol → Bool) : List Symbol := r.toList.filter p

/-- The numbered symbols of a file, in the order of the index. -/
def numberedIn (r : Repository) (uri : Uri) : List (Nat × Symbol) :=
  ((r.byUri.get? uri).getD []).filterMap fun id =>
    (r.sequenceOf.get? id).bind fun n => (r.symbols.get? n).map (n, ·)

/-- Insert an element into a list that `before` orders, in front of the first that it precedes. -/
def insertBy {α : Type} (before : α → α → Bool) (x : α) : List α → List α
  | [] => [x]
  | y :: ys => if before x y then x :: y :: ys else y :: insertBy before x ys

/-- Sort a list by `before`. -/
def sortBy {α : Type} (before : α → α → Bool) (xs : List α) : List α :=
  xs.foldr (insertBy before) []

/-- The symbols of a file, in store order. -/
def symbolsIn (r : Repository) (uri : Uri) : List Symbol :=
  (sortBy (fun a b => decide (a.1 < b.1)) (r.numberedIn uri)).map (·.2)

/-- A symbol around a point, with what it is ranked by. -/
structure Hit where
  size : Int
  sequence : Nat
  symbol : Symbol

/-- Narrower hits come first; among equally wide ones, the symbol stored last. -/
def Hit.before (a b : Hit) : Bool :=
  decide (a.size < b.size) || (decide (a.size = b.size) && decide (b.sequence < a.sequence))

/-- The symbols of a file around a point, in the order of the index. -/
def hits (r : Repository) (uri : Uri) (p : Point) : List Hit :=
  (r.numberedIn uri).filterMap fun (n, s) =>
    match s.range with
    | some range => if range.containsPoint p then some ⟨range.size, n, s⟩ else none
    | none => none

/-- The symbols of a file around a point, narrowest first. -/
def search (r : Repository) (uri : Uri) (p : Point) : List Symbol :=
  (sortBy Hit.before (r.hits uri p)).map (·.symbol)

/-- The narrowest symbol of a file around a point. -/
def find? (r : Repository) (uri : Uri) (p : Point) : Option Symbol := (r.search uri p).head?

/-- The number of symbols. -/
def size (r : Repository) : Nat := r.symbols.size

/-- Whether there is no symbol. -/
def isEmpty (r : Repository) : Bool := r.symbols.isEmpty

/-- The files with at least one symbol. -/
def files (r : Repository) : List Uri := r.byUri.keys

/-- The number of files with at least one symbol. -/
def fileCount (r : Repository) : Nat := r.byUri.size

end Repository

/-! ## Batches -/

/-- What a committed batch did. -/
structure Batch.Summary where
  removed : Nat
  inserted : Nat
deriving DecidableEq, Repr, Inhabited

/-- A pending replacement of the symbols of one file. -/
structure Batch where
  uri : Uri
  symbols : List Symbol

namespace Batch

/-- A batch for a file, with nothing queued. -/
def start (uri : Uri) : Batch := ⟨uri, []⟩

/-- Queue a symbol. A symbol of another file is refused, which the second component tells. -/
def add (b : Batch) (s : Symbol) : Batch × Bool :=
  if s.uri = b.uri then ({ b with symbols := b.symbols ++ [s] }, true) else (b, false)

/-- Queue several symbols. -/
def addAll (b : Batch) (ss : List Symbol) : Batch := ss.foldl (fun b s => (b.add s).1) b

/-- Remove the previous symbols of the file and store the queued ones. -/
def commit (b : Batch) (r : Repository) : Repository × Summary :=
  let (cleared, removed) := r.deleteFile b.uri
  (b.symbols.foldl Repository.store cleared, ⟨removed, b.symbols.length⟩)

end Batch

end CodeIndex
