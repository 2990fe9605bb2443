import CodeIndex.Text.Pieces
import CodeIndex.Text.Utf8

set_option autoImplicit false

/-!
# File paths

The names of files are bytes, which need not spell a text, and so are paths. A path is divided into
components by slashes. Empty components and single dots say nothing; a double dot is kept, because
what it means depends on links.

## Main definitions

* `FileName` — the name of a file or a directory, or a part of one.
* `FileName.text?` — the text that a name spells, if it spells one.
* `Path` — a path as written.
* `Path.components` — the components that count.
* `Path.fileName?`, `Path.extension?` — the last component and what follows its last dot.
* `Path.parent?` — the path without its last component.
* `Path.join` — a path below another; an absolute path stands on its own.
* `Path.display` — the path as it is shown to a reader.

## Implementation notes

A text stands for the name, or for the path, with its bytes.
-/

namespace CodeIndex

/-- The name of a file or a directory, or a part of one. -/
structure FileName where
  bytes : List UInt8
deriving DecidableEq, Repr, Inhabited

/-- A file path as written. -/
structure Path where
  bytes : List UInt8
deriving DecidableEq, Repr, Inhabited

namespace FileName

/-- The name that a text spells. -/
def ofText (text : String) : FileName := ⟨Text.encodeUtf8 text.toList⟩

instance : Coe String FileName := ⟨ofText⟩

instance : Append FileName := ⟨fun a b => ⟨a.bytes ++ b.bytes⟩⟩

/-- The text that a name spells, if its bytes are well-formed. -/
def text? (n : FileName) : Option String := (Text.decodeUtf8? n.bytes).map String.ofList

/-- The path that consists of a name. -/
def path (n : FileName) : Path := ⟨n.bytes⟩

end FileName

namespace Path

/-- The path that a text spells. -/
def ofText (text : String) : Path := ⟨Text.encodeUtf8 text.toList⟩

instance : Coe String Path := ⟨ofText⟩

/-- The path as it is shown to a reader, with a replacement for what is no text. -/
def display (p : Path) : String := String.ofList (Text.decodeUtf8Lossy p.bytes)

/-- The byte that divides a path into components. -/
abbrev slash : UInt8 := 0x2F

/-- The byte that divides a name from its extension. -/
abbrev dot : UInt8 := 0x2E

/-- Whether the path begins at the root. -/
def isAbsolute (p : Path) : Bool := p.bytes.head? == some slash

/-- Everything between slashes, empty pieces and dots included. -/
def pieces (p : Path) : List FileName := (Text.pieces slash p.bytes).map FileName.mk

/-- The components that count: neither empty nor a single dot. -/
def components (p : Path) : List FileName := p.pieces.filter fun s => !(s == "" || s == ".")

/-- The last component, unless it is a double dot. -/
def fileName? (p : Path) : Option FileName := p.components.getLast?.filter (· != "..")

/-- Split a name at its last dot. -/
def splitLastDot (bs : List UInt8) : Option (List UInt8 × List UInt8) :=
  let after := bs.reverse.takeWhile (· ≠ dot)
  match bs.reverse.dropWhile (· ≠ dot) with
  | [] => none
  | _ :: before => some (before.reverse, after.reverse)

/-- What follows the last dot of a name, provided that something precedes it. -/
def extensionOf? (name : FileName) : Option FileName :=
  match splitLastDot name.bytes with
  | some ([], _) => none
  | some (_, after) => some ⟨after⟩
  | none => none

/-- What follows the last dot of the file name, provided that something precedes it. -/
def extension? (p : Path) : Option FileName := p.fileName?.bind extensionOf?

/-- The path with the given components. -/
def ofComponents (absolute : Bool) (cs : List FileName) : Path :=
  ⟨(if absolute then [slash] else []) ++ [slash].intercalate (cs.map FileName.bytes)⟩

/-- The path without its last component, if it has one. -/
def parent? (p : Path) : Option Path :=
  match p.components with
  | [] => none
  | c :: cs => some (ofComponents p.isAbsolute (c :: cs).dropLast)

/-- A path below this one. An absolute path replaces it. -/
def join (p q : Path) : Path :=
  if q.isAbsolute then q
  else if p.bytes.isEmpty || p.bytes.getLast? == some slash then ⟨p.bytes ++ q.bytes⟩
  else ⟨p.bytes ++ slash :: q.bytes⟩

end Path

end CodeIndex
