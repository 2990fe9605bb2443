import CodeIndex.OrderedMap
import CodeIndex.Path
import CodeIndex.Text.Utf8

set_option autoImplicit false

/-!
# Disks

A file system as a value: directories, files and symbolic links, each under the components of its
own path from the root. Paths are resolved the way an operating system does it: link by link, with
a double dot leaving the directory that was actually reached.

## Main definitions

* `Disk` — the entries of a file system; the root directory is always there.
* `Disk.canonical` — the place that a path leads to, links followed.
* `Disk.readText`, `Disk.sizeAt` — the content and the size of what is there.
* `Disk.children` — the names in a directory.
* `DiskError` — why an access failed, with `DiskError.text` as its wording.

## Implementation notes

Following more than forty links in one path fails, which also ends every circle of links.
-/

namespace CodeIndex

/-- The content of a file: text, or bytes that need not be text. -/
inductive Content where
  | text (value : String)
  | bytes (value : List UInt8)
deriving DecidableEq, Repr

/-- The number of bytes of a content. -/
def Content.size : Content → Nat
  | text s => s.utf8ByteSize
  | bytes bs => bs.length

/-- The text of a content, if its bytes spell one. -/
def Content.text? : Content → Option String
  | text s => some s
  | bytes bs => (Text.decodeUtf8? bs).map String.ofList

/-- An entry of a disk. -/
inductive Inode where
  | directory
  | file (content : Content)
  | link (target : Path)
deriving DecidableEq, Repr

/-- Why an access to the disk failed. -/
inductive DiskError where
  | notFound
  | notDirectory
  | isDirectory
  | tooManyLinks
  | notText
deriving DecidableEq, Repr

/-- The wording of an error. -/
def DiskError.text : DiskError → String
  | notFound => "No such file or directory (os error 2)"
  | notDirectory => "Not a directory (os error 20)"
  | isDirectory => "Is a directory (os error 21)"
  | tooManyLinks => "Too many levels of symbolic links (os error 40)"
  | notText => "stream did not contain valid UTF-8"

/-- A file system: what stands at which components from the root. -/
structure Disk where
  entries : OrderedMap (List FileName) Inode

namespace Disk

/-- The disk with nothing but the root directory. -/
def empty : Disk := ⟨.empty⟩

instance : Inhabited Disk := ⟨empty⟩

/-- What stands at the given components, links not followed. -/
def inode? (d : Disk) (place : List FileName) : Option Inode :=
  if place.isEmpty then some .directory else d.entries.get? place

/-- Go from `place` along the components of a path; a link is handed over to `follow` together
with the place it stands in and the components after it. -/
def advance (d : Disk)
    (follow : (place : List FileName) → (target : Path) → (rest : List FileName) →
      Except DiskError (List FileName))
    (place : List FileName) : List FileName → Except DiskError (List FileName)
  | [] => .ok place
  | c :: cs =>
    match d.inode? place with
    | some .directory =>
      if c == "" || c == "." then advance d follow place cs
      else if c == ".." then advance d follow place.dropLast cs
      else
        match d.inode? (place ++ [c]) with
        | none => .error .notFound
        | some (.link target) => follow place target cs
        | some _ => advance d follow (place ++ [c]) cs
    | some (.file _) => .error .notDirectory
    | _ => .error .notFound

/-- Go from `place` along the components of a path, following at most `links` links. -/
def follow (d : Disk) :
    (links : Nat) → (place : List FileName) → List FileName → Except DiskError (List FileName)
  | 0, place, cs => d.advance (fun _ _ _ => .error .tooManyLinks) place cs
  | n + 1, place, cs =>
    d.advance (fun place target rest =>
      d.follow n (if target.isAbsolute then [] else place) (target.pieces ++ rest)) place cs

/-- How many links one path may follow. -/
def maxLinks : Nat := 40

/-- The place that a path leads to, as components from the root without links and dots. -/
def canonical (d : Disk) (p : Path) : Except DiskError (List FileName) :=
  if p.isAbsolute then d.follow maxLinks [] p.pieces else .error .notFound

/-- The place of an entry of a directory, links followed. -/
def canonicalIn (d : Disk) (directory : List FileName) (name : FileName) :
    Except DiskError (List FileName) :=
  d.follow maxLinks directory [name]

/-- The names in a directory. -/
def children (d : Disk) (directory : List FileName) : List FileName :=
  d.entries.keys.filterMap fun place =>
    match place.getLast? with
    | some name => if place.dropLast = directory then some name else none
    | none => none

/-- The size that a directory has. -/
def directorySize : Nat := 4096

/-- The size of what stands at a place. -/
def sizeOf (d : Disk) (place : List FileName) : Nat :=
  match d.inode? place with
  | some (.file content) => content.size
  | _ => directorySize

/-- The size of what a path leads to. -/
def sizeAt (d : Disk) (p : Path) : Except DiskError Nat :=
  match d.canonical p with
  | .ok place => .ok (d.sizeOf place)
  | .error e => .error e

/-- The text of the file that a path leads to. -/
def readText (d : Disk) (p : Path) : Except DiskError String :=
  match d.canonical p with
  | .error e => .error e
  | .ok place =>
    match d.inode? place with
    | some (.file content) =>
      match content.text? with
      | some text => .ok text
      | none => .error .notText
    | _ => .error .isDirectory

/-- Whether a place holds a directory. -/
def isDirectory (d : Disk) (place : List FileName) : Bool := d.inode? place == some .directory

/-- Whether a place holds a file. -/
def isFile (d : Disk) (place : List FileName) : Bool :=
  match d.inode? place with
  | some (.file _) => true
  | _ => false

end Disk

end CodeIndex
