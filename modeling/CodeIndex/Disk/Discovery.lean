import CodeIndex.Disk.Basic
import CodeIndex.Language
import CodeIndex.Settings.Basic

set_option autoImplicit false

/-!
# Finding the files of a workspace

Every regular file below some folders that belongs to the language, each once, under its canonical
path. Links are followed. Excluded paths are left out with all below them; on request so are
hidden directories, directories of build products and those whose name is no text.

## Main definitions

* `Discovery.excludedPlaces` — the places that the excluded paths stand for.
* `Discovery.subdirectories` — the directories that a search enters from a directory.
* `Discovery.reachable` — all directories that a search enters from a folder.
* `Discovery.discover` — the files found.

## Implementation notes

A directory is entered once, whichever way it was reached: what is below it does not depend on the
way. New directories are added until there are none; the number of entries of the disk bounds how
often that happens.
-/

namespace CodeIndex

namespace Discovery

/-- The components that a path stands for: those of the place it leads to, or its own. -/
def placeOf (disk : Disk) (p : Path) : List FileName :=
  match disk.canonical p with
  | .ok place => place
  | .error _ => p.components

/-- The places that excluded paths stand for; a relative path is meant below each folder. -/
def excludedPlaces (disk : Disk) (folders : List Path) (exclude : List String) :
    List (List FileName) :=
  exclude.flatMap fun text =>
    let path := Path.ofText text
    if path.isAbsolute then [placeOf disk path]
    else folders.map fun folder => placeOf disk (folder.join path)

/-- Whether a place is an excluded one or below one. -/
def isExcluded (excluded : List (List FileName)) (place : List FileName) : Bool :=
  excluded.any fun e => e.isPrefixOf place

/-- The names of directories that hold build products. -/
def buildNames : List String := ["target", "build", "node_modules", "out", "bin", "obj"]

/-- Whether directories of a name are passed over: hidden ones, those of build products, and those
whose name is no text. -/
def isSkippedName (name : FileName) : Bool :=
  match name.text? with
  | none => true
  | some text => text.toList.head? == some '.' || buildNames.contains text

/-- What a search goes by. -/
structure Query where
  disk : Disk
  language : Language
  excluded : List (List FileName)
  maxBytes : Option Nat
  skipBuildDirs : Bool

namespace Query

variable (q : Query)

/-- The place of an entry, if it exists and is not excluded. -/
def admitted? (directory : List FileName) (name : FileName) : Option (List FileName) :=
  match q.disk.canonicalIn directory name with
  | .ok place => if isExcluded q.excluded place then none else some place
  | .error _ => none

/-- The directories that a search enters from a directory. -/
def subdirectories (directory : List FileName) : List (List FileName) :=
  (q.disk.children directory).filterMap fun name =>
    (q.admitted? directory name).filter fun place =>
      q.disk.isDirectory place && !(q.skipBuildDirs && isSkippedName name)

/-- Whether a file is small enough. -/
def fits (place : List FileName) : Bool :=
  q.maxBytes.all fun limit => decide (q.disk.sizeOf place ≤ limit)

/-- The files that a search takes from a directory. The name under which a file is met decides
whether it belongs to the language. -/
def filesIn (directory : List FileName) : List (List FileName) :=
  (q.disk.children directory).filterMap fun name =>
    (q.admitted? directory name).filter fun place =>
      q.disk.isFile place && q.language.handlesExtension (Path.extensionOf? name) && q.fits place

/-- Add the directories that are entered from those found, until nothing new is found. -/
def expand : (rounds : Nat) → List (List FileName) → List (List FileName)
  | 0, found => found
  | n + 1, found =>
    let next := (found ++ found.flatMap q.subdirectories).eraseDups
    if next.length = found.length then found else expand n next

/-- All directories that a search enters from a directory, that directory first. -/
def reachable (directory : List FileName) : List (List FileName) :=
  q.expand q.disk.entries.size [directory]

/-- The files found below one folder. A folder that is itself a file counts as one. -/
def filesBelow (folder : Path) : List (List FileName) :=
  match q.disk.canonical folder with
  | .error _ => []
  | .ok place =>
    if isExcluded q.excluded place then []
    else if q.disk.isDirectory place then (q.reachable place).flatMap q.filesIn
    else if q.disk.isFile place && q.language.handlesPath folder && q.fits place then [place]
    else []

end Query

/-- The canonical paths of the files found below some folders, each once. -/
def discover (disk : Disk) (language : Language) (folders : List Path)
    (options : DiscoveryOptions) : List Path :=
  let query : Query :=
    ⟨disk, language, excludedPlaces disk folders options.exclude, options.maxBytes,
      options.skipBuildDirs⟩
  ((folders.flatMap query.filesBelow).eraseDups).map (Path.ofComponents true)

end Discovery

end CodeIndex
