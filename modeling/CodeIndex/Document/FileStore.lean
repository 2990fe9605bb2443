import CodeIndex.Document.FileState
import CodeIndex.OrderedMap

set_option autoImplicit false

/-!
# The tracked files

The states of all tracked files and the set of files that are open in the editor. A file can be
open without being tracked, and tracked without being open.

## Main definitions

* `FileStore` — the states and the open marks.
* `FileStore.get?`, `FileStore.replace`, `FileStore.remove` — the state of a file.
* `FileStore.markOpen`, `FileStore.markClosed`, `FileStore.isOpen` — the open marks.
-/

namespace CodeIndex

/-- The tracked files, and the files that are open in the editor. -/
structure FileStore where
  files : OrderedMap Uri FileState
  /-- The files that are open in the editor, each once. -/
  opened : List Uri

namespace FileStore

/-- The store without files. -/
def empty : FileStore := ⟨.empty, []⟩

instance : Inhabited FileStore := ⟨empty⟩

/-- The state of a file. -/
def get? (s : FileStore) (uri : Uri) : Option FileState := s.files.get? uri

/-- Whether a file is tracked. -/
def contains (s : FileStore) (uri : Uri) : Bool := s.files.contains uri

/-- Whether a file is open in the editor. -/
def isOpen (s : FileStore) (uri : Uri) : Bool := s.opened.contains uri

/-- Track a file in a new state. -/
def replace (s : FileStore) (state : FileState) : FileStore :=
  { s with files := s.files.insert state.uri state }

/-- Note that a file is open in the editor. -/
def markOpen (s : FileStore) (uri : Uri) : FileStore :=
  if s.isOpen uri then s else { s with opened := s.opened ++ [uri] }

/-- Note that a file is no longer open in the editor. -/
def markClosed (s : FileStore) (uri : Uri) : FileStore :=
  { s with opened := s.opened.filter (· ≠ uri) }

/-- Forget a file and its open mark. -/
def remove (s : FileStore) (uri : Uri) : FileStore :=
  { s.markClosed uri with files := s.files.erase uri }

/-- The tracked files. -/
def uris (s : FileStore) : List Uri := s.files.keys

/-- The states of the tracked files. -/
def states (s : FileStore) : List FileState := s.files.values

/-- The number of tracked files. -/
def size (s : FileStore) : Nat := s.files.size

/-- Whether no file is tracked. -/
def isEmpty (s : FileStore) : Bool := s.files.isEmpty

end FileStore

end CodeIndex
