import CodeIndex.Disk.Discovery
import CodeIndex.Document.FileStore
import CodeIndex.Repository.Basic
import CodeIndex.Workspace.Source

set_option autoImplicit false

/-!
# The workspace

Everything known about a workspace: its folders, the tracked files, and the symbols extracted from
them. A synchronisation parses a text and makes it the current generation of its file: with a tree,
the symbols of the file are swapped in one commit; without one, the previous symbols stay. The file
state is replaced either way.

## Main definitions

* `Workspace` — the folders, the files and the repository.
* `Workspace.synchronize` — make a text the current one of a file.
* `Workspace.openFile`, `Workspace.change`, `Workspace.save`, `Workspace.close` — what an editor
  does with a file.
* `Workspace.delete`, `Workspace.rename`, `Workspace.retain`, `Workspace.reset` — files that go.
* `Workspace.indexFile`, `Workspace.refresh` — text that comes from disk.
* `Workspace.load` — index everything below some folders.

## Implementation notes

An operation that calls the parser returns the workspace together with either its answer or the
fault of the parser; what was changed before the fault stays changed.
-/

namespace CodeIndex

/-- Everything known about a workspace. -/
structure Workspace where
  folders : List Uri
  files : FileStore
  repository : Repository

/-- What a synchronisation did: the new state of the file, and the commit to the repository, which
is absent when the text has no tree. -/
structure SyncReport where
  state : FileState
  committed : Option Batch.Summary

/-- What a load did. -/
structure LoadSummary where
  discovered : Nat := 0
  indexed : Nat := 0
  skippedUnreadable : Nat := 0
  skippedOpen : Nat := 0
  cancelled : Bool := false
deriving DecidableEq, Repr, Inhabited

namespace Workspace

/-- The workspace without folders and files. -/
def empty : Workspace := ⟨[], .empty, .empty⟩

instance : Inhabited Workspace := ⟨empty⟩

/-! ## Folders -/

/-- The folders that are on disk. -/
def folderPaths (w : Workspace) : List Path := w.folders.filterMap Uri.toPath?

/-- Track folders that are not tracked yet. Nothing is indexed. -/
def addFolders (w : Workspace) (added : List Uri) : Workspace :=
  { w with
    folders := added.foldl (fun fs f => if fs.contains f then fs else fs ++ [f]) w.folders }

/-- Forget folders. Symbols that were indexed from them stay. -/
def removeFolders (w : Workspace) (removed : List Uri) : Workspace :=
  { w with folders := w.folders.filter fun f => !removed.contains f }

/-! ## Synchronisation -/

/-- Replace the symbols of a file by those of a tree. -/
def commitTree (language : Language) (r : Repository) (uri : Uri) (root : Node) :
    Repository × Batch.Summary :=
  ((Batch.start uri).addAll
    (Extraction.extract uri root language.ids language.resolveByName)).commit r

/-- Take over the result of a parse. -/
def commitParse (language : Language) (w : Workspace) (uri : Uri) (text : String)
    (version : Option Int) (parse : Parse) : Workspace × SyncReport :=
  let state := FileState.ofParse uri text version parse
  let (repository, committed) :=
    match parse.root with
    | none => (w.repository, none)
    | some root =>
      let (repository, summary) := commitTree language w.repository uri root
      (repository, some summary)
  ({ w with files := w.files.replace state, repository := repository }, ⟨state, committed⟩)

/-- Parse a text and make it the current generation of a file. -/
def synchronize (language : Language) (w : Workspace) (uri : Uri) (text : String)
    (version : Option Int) : Workspace × Except Fault SyncReport :=
  match language.parse uri text with
  | .error fault => (w, .error fault)
  | .ok parse =>
    let (w, report) := commitParse language w uri text version parse
    (w, .ok report)

/-- The editor opens a file with a text. -/
def openFile (language : Language) (w : Workspace) (uri : Uri) (text : String) (version : Int) :
    Workspace × Except Fault SyncReport :=
  synchronize language { w with files := w.files.markOpen uri } uri text (some version)

/-- The editor changes the text of a file. -/
def change (language : Language) (w : Workspace) (uri : Uri) (text : String) (version : Int) :
    Workspace × Except Fault SyncReport :=
  synchronize language w uri text (some version)

/-- The text of a file that is saved: the one given, else the tracked one, else the one on disk. -/
def savedText (disk : Disk) (w : Workspace) (uri : Uri) (text : Option String) :
    Except ReadError String :=
  match text, w.files.get? uri with
  | some text, _ => .ok text
  | none, some state => .ok state.text
  | none, none => readUri disk uri

/-- The editor saves a file, which keeps its version. -/
def save (language : Language) (disk : Disk) (w : Workspace) (uri : Uri) (text : Option String) :
    Workspace × Except Fault (Except ReadError SyncReport) :=
  match savedText disk w uri text with
  | .error e => (w, .ok (.error e))
  | .ok text =>
    match synchronize language w uri text ((w.files.get? uri).bind (·.version)) with
    | (w, .error fault) => (w, .error fault)
    | (w, .ok report) => (w, .ok (.ok report))

/-- Remove the symbols of a file. -/
def dropSymbols (w : Workspace) (uri : Uri) : Workspace :=
  { w with repository := (w.repository.deleteFile uri).1 }

/-- Forget the state and the open mark of a file. -/
def forget (w : Workspace) (uri : Uri) : Workspace := { w with files := w.files.remove uri }

/-- The editor closes a file: its text on disk is indexed, so that unsaved edits do not linger, and
its state is forgotten. A file that cannot be read loses its symbols. -/
def close (language : Language) (disk : Disk) (w : Workspace) (uri : Uri) :
    Workspace × Except Fault (Option SyncReport) :=
  let w := { w with files := w.files.markClosed uri }
  match readUri disk uri with
  | .error _ => ((w.dropSymbols uri).forget uri, .ok none)
  | .ok text =>
    match synchronize language w uri text none with
    | (w, .error fault) => (w, .error fault)
    | (w, .ok report) => (w.forget uri, .ok (some report))

/-- Remove the state and the symbols of a file, with the number of symbols removed. -/
def delete (w : Workspace) (uri : Uri) : Workspace × Nat :=
  ((w.forget uri).dropSymbols uri, (w.repository.deleteFile uri).2)

/-- Move a file: everything under the old name goes, and its text is indexed under the new one. The
text is the tracked one, else the one on disk under the new name. -/
def rename (language : Language) (disk : Disk) (w : Workspace) (old new : Uri) :
    Workspace × Except Fault (Option SyncReport) :=
  let previous := w.files.get? old
  let wasOpen := w.files.isOpen old
  let w := (w.delete old).1
  if language.handlesUri new then
    let text :=
      match previous with
      | some state => some state.text
      | none => (readUri disk new).toOption
    match text with
    | none => (w, .ok none)
    | some text =>
      let w := if wasOpen then { w with files := w.files.markOpen new } else w
      match synchronize language w new text none with
      | (w, .error fault) => (w, .error fault)
      | (w, .ok report) => (w, .ok (some report))
  else (w, .ok none)

/-- The files that have a symbol or a state. -/
def knownFiles (w : Workspace) : List Uri := (w.repository.files ++ w.files.uris).eraseDups

/-- Drop the files that are neither kept nor open, with the number of files dropped. -/
def retain (w : Workspace) (keep : List Uri) : Workspace × Nat :=
  let dropped := w.knownFiles.filter fun uri => !keep.contains uri && !w.files.isOpen uri
  (dropped.foldl (fun w uri => (w.forget uri).dropSymbols uri) w, dropped.length)

/-- Drop every file and every symbol, and take a new list of folders. -/
def reset (w : Workspace) (folders : List Uri) : Workspace :=
  { w with folders := folders, files := .empty, repository := .empty }

/-! ## Text from disk -/

/-- Index a text read from disk, unless the editor has the file open. -/
def indexFile (language : Language) (w : Workspace) (uri : Uri) (text : String) :
    Workspace × Except Fault (Option SyncReport) :=
  if w.files.isOpen uri then (w, .ok none)
  else
    match synchronize language w uri text none with
    | (w, .error fault) => (w, .error fault)
    | (w, .ok report) => (w, .ok (some report))

/-- Read a file again after it changed on disk. Open files and files of other languages are left
alone. -/
def refresh (language : Language) (disk : Disk) (w : Workspace) (uri : Uri) :
    Workspace × Except Fault (Except ReadError (Option SyncReport)) :=
  if w.files.isOpen uri || !language.handlesUri uri then (w, .ok (.ok none))
  else
    match readUri disk uri with
    | .error e => (w, .ok (.error e))
    | .ok text =>
      match indexFile language w uri text with
      | (w, .error fault) => (w, .error fault)
      | (w, .ok report) => (w, .ok (.ok report))

/-- The files below the folders of the workspace. -/
def discover (language : Language) (disk : Disk) (w : Workspace) (options : DiscoveryOptions) :
    List Path :=
  Discovery.discover disk language w.folderPaths options

/-- Index files one after the other, after `done` of them. Before each file the load looks whether
it was asked to stop: `stops k` says so for the moment when `k` files are done. A file that cannot
be read is passed over. -/
def loadFiles (language : Language) (disk : Disk) (limit : Option Nat) (stops : Nat → Bool)
    (done : Nat) (w : Workspace) (summary : LoadSummary) :
    List Path → Workspace × Except Fault LoadSummary
  | [] => (w, .ok summary)
  | path :: paths =>
    if stops done then (w, .ok { summary with cancelled := true })
    else
      match Uri.ofPath? path, readSource disk path limit with
      | some uri, .ok text =>
        match indexFile language w uri text with
        | (w, .error fault) => (w, .error fault)
        | (w, .ok (some _)) =>
          loadFiles language disk limit stops (done + 1) w
            { summary with indexed := summary.indexed + 1 } paths
        | (w, .ok none) =>
          loadFiles language disk limit stops (done + 1) w
            { summary with skippedOpen := summary.skippedOpen + 1 } paths
      | _, _ =>
        loadFiles language disk limit stops (done + 1) w
          { summary with skippedUnreadable := summary.skippedUnreadable + 1 } paths

/-- Start over with some folders and index every file below them, unless `stops` breaks the load off
between two files. -/
def load (language : Language) (disk : Disk) (w : Workspace) (folders : List Uri)
    (options : DiscoveryOptions) (stops : Nat → Bool) : Workspace × Except Fault LoadSummary :=
  let w := w.reset folders
  let paths := w.discover language disk options
  loadFiles language disk options.maxBytes stops 0 w { discovered := paths.length } paths

/-! ## Completion -/

/-- The proposals at a point of a tracked file. The tokens of the file are cached on the way. -/
def complete (support : CompletionSupport) (w : Workspace) (file : FileState) (p : Point)
    (options : CompletionOptions) : Workspace × Except Fault (List CompletionItem) :=
  let (file, result) := support.provide file p options
  ({ w with files := w.files.replace file }, result)

end Workspace

end CodeIndex
