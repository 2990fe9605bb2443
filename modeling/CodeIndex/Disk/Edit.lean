import CodeIndex.Disk.Basic

set_option autoImplicit false

/-!
# Changing a disk

Creating directories, files and links, and removing entries with all that is below them.

## Main definitions

* `Disk.makeDirectories` — create the missing directories of a path.
* `Disk.put` — put an entry at a path, with its directories.
* `Disk.remove` — remove an entry and everything below it.
-/

namespace CodeIndex

namespace Disk

/-- Go from `place` along the components of a path, creating the directories that are missing. The
result is the disk and the place that was reached. -/
def makeDirectoriesFrom (d : Disk) (place : List FileName) :
    List FileName → Except DiskError (Disk × List FileName)
  | [] => .ok (d, place)
  | c :: cs =>
    if c == "" || c == "." then makeDirectoriesFrom d place cs
    else if c == ".." then makeDirectoriesFrom d place.dropLast cs
    else
      match d.inode? (place ++ [c]) with
      | none => makeDirectoriesFrom ⟨d.entries.insert (place ++ [c]) .directory⟩ (place ++ [c]) cs
      | some _ =>
        match d.canonicalIn place c with
        | .error e => .error e
        | .ok next =>
          if d.isDirectory next then makeDirectoriesFrom d next cs else .error .notDirectory

/-- Create the missing directories of a path from the root. -/
def makeDirectories (d : Disk) (p : Path) : Except DiskError (Disk × List FileName) :=
  d.makeDirectoriesFrom [] p.pieces

/-- Put an entry into a directory. A file goes to where an existing link leads. -/
def putAt (d : Disk) (directory : List FileName) (name : FileName) (inode : Inode) : Disk :=
  let place :=
    match inode with
    | .file _ =>
      match d.canonicalIn directory name with
      | .ok place => place
      | .error _ => directory ++ [name]
    | _ => directory ++ [name]
  ⟨d.entries.insert place inode⟩

/-- Put an entry at a path from the root, creating the directories above it. -/
def put (d : Disk) (p : Path) (inode : Inode) : Except DiskError Disk :=
  match p.parent?, p.fileName? with
  | some parent, some name =>
    match d.makeDirectories parent with
    | .ok (d, directory) => .ok (d.putAt directory name inode)
    | .error e => .error e
  | _, _ => .error .isDirectory

/-- Remove the entry at a path, a directory with everything below it. A link is removed itself. -/
def remove (d : Disk) (p : Path) : Disk :=
  match p.parent?, p.fileName? with
  | some parent, some name =>
    match d.canonical parent with
    | .ok directory =>
      let place := directory ++ [name]
      ⟨(d.entries.keys.filter fun k => place.isPrefixOf k).foldl OrderedMap.erase d.entries⟩
    | .error _ => d
  | _, _ => d

/-- The places of all files. -/
def filePlaces (d : Disk) : List (List FileName) := d.entries.keys.filter d.isFile

end Disk

end CodeIndex
