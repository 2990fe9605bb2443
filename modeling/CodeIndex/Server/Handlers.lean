import CodeIndex.Server.Indexing
import CodeIndex.Tree.Outline
import CodeIndex.Uri.Parser

set_option autoImplicit false

/-!
# Handling messages

What the server does with each message of the client. A notification changes the state, a request
has an answer as well. When the adapter breaks off, the user is told, and the answer is the empty
one of its kind.

## Main definitions

* `Notification`, `Server.notify` — messages without an answer.
* `Request`, `Answer`, `Server.respond` — messages with one.
-/

namespace CodeIndex

/-- What the client says when it connects. -/
structure Greeting where
  /-- The first settings. -/
  options : Option Json
  capabilities : ClientCapabilities
  folders : Option (List Uri)
  /-- The only folder of a client that does not know of several. -/
  root : Option Uri

/-- What happened to a watched file. -/
inductive FileEvent where
  | touched
  | deleted
deriving DecidableEq, Repr

/-- A change of an open text: the new text, and whether it stands for a part only. -/
structure TextChange where
  partly : Bool
  text : String
deriving DecidableEq, Repr

/-- A message without an answer. -/
inductive Notification where
  /-- The client is ready for requests. -/
  | ready
  | configured (payload : Json)
  | opened (uri : Uri) (text : String) (version : Int)
  | changed (uri : Uri) (changes : List TextChange) (version : Int)
  | saved (uri : Uri) (text : Option String)
  | closed (uri : Uri)
  | foldersChanged (added removed : List Uri)
  | watched (events : List (Uri × FileEvent))
  /-- Files were renamed, by the texts of the old and the new uri. -/
  | renamed (pairs : List (String × String))

/-- A message with an answer. -/
inductive Request where
  | connect (greeting : Greeting)
  | shutdown
  | hover (uri : Uri) (pos : Editor.Position)
  | definition (uri : Uri) (pos : Editor.Position)
  | references (uri : Uri) (pos : Editor.Position) (declaration : Bool)
  | completion (uri : Uri) (pos : Editor.Position)
  | outline (uri : Uri)
  | symbols (query : String)

/-- The answer to a request. -/
inductive Answer where
  | connected (capabilities : ServerCapabilities)
  | acknowledged
  | hover (hover : Option Hover)
  | definition (location : Option Location)
  | references (locations : List Location)
  /-- The proposals; none at all if the language has no completion. -/
  | completion (items : Option (List CompletionItem))
  /-- The outline; none at all if the file has no tree. -/
  | outline (entries : Option (List Outline))
  | symbols (found : List SymbolInformation)

namespace Server

variable (language : Language) (disk : Disk)

/-! ## Notifications -/

/-- The outcome of work on the workspace that has a report: publish it, or tell the user that the
adapter broke off. -/
def published (s : Server) (method : String) :
    Workspace × Except Fault (Option SyncReport) → Server × List Outgoing
  | (w, .ok (some report)) =>
    let s := { s with workspace := w }
    (s, [s.publishState language report.state])
  | (w, .ok none) => ({ s with workspace := w }, [])
  | (w, .error _) => ({ s with workspace := w }, [internalError method])

/-- A report that is always there, as one that may be missing. -/
def always : Workspace × Except Fault SyncReport → Workspace × Except Fault (Option SyncReport)
  | (w, result) => (w, result.map some)

/-- A report that an unreadable file does not have. -/
def ifRead : Workspace × Except Fault (Except ReadError (Option SyncReport)) →
    Workspace × Except Fault (Option SyncReport)
  | (w, result) => (w, result.map fun read => read.toOption.bind id)

/-- The client is ready: features are registered and, with indexing switched on, everything is
loaded afresh. -/
def ready (s : Server) : Server :=
  let registrations := s.client.registrations language
  let s :=
    if registrations.isEmpty then s
    else { s with waiting := s.waiting ++ [.register registrations] }
  if s.settings.indexing.enabled then
    { s with workspace := s.workspace.reset s.workspace.folders }.startLoad
  else s

/-- The settings change. Diagnostics are published again if their settings changed, and everything
is loaded again if those of indexing did. -/
def configure (s : Server) (payload : Json) : Server × List Outgoing :=
  let merged := s.settings.merge payload language.id
  if merged = s.settings then (s, [])
  else
    let reload := merged.indexing.enabled && merged.indexing != s.settings.indexing
    let republish := merged.diagnostics != s.settings.diagnostics
    let s := s.applySettings merged
    let out :=
      if republish then s.workspace.files.states.map (s.publishState language) else []
    (if reload then s.startLoad else s, out)

/-- The editor opens a file. -/
def openFile (s : Server) (uri : Uri) (text : String) (version : Int) : Server × List Outgoing :=
  let logged :=
    if s.settings.logLevel.allowsInfo then
      [Outgoing.log (labelled ("Opened " ++ uri.shortName))]
    else []
  let (s, out) :=
    s.published language "textDocument/didOpen"
      (always (s.workspace.openFile language uri text version))
  (s, logged ++ out)

/-- The editor changes a file. Only a change of the whole text counts. -/
def change (s : Server) (uri : Uri) (changes : List TextChange) (version : Int) :
    Server × List Outgoing :=
  match changes.find? fun c => !c.partly with
  | none => (s, [])
  | some c =>
    s.published language "textDocument/didChange"
      (always (s.workspace.change language uri c.text version))

/-- The editor saves a file. -/
def save (s : Server) (uri : Uri) (text : Option String) : Server × List Outgoing :=
  let (w, result) := s.workspace.save language disk uri text
  s.published language "textDocument/didSave" (ifRead (w, result.map fun read => read.map some))

/-- The editor closes a file. The diagnostics of one that cannot be read again are withdrawn. -/
def close (s : Server) (uri : Uri) : Server × List Outgoing :=
  match s.workspace.close language disk uri with
  | (w, .ok none) => ({ s with workspace := w }, [clear uri])
  | (w, .error fault) =>
    let (s, out) := s.published language "textDocument/didClose" (w, .error fault)
    (s, out ++ [clear uri])
  | outcome => s.published language "textDocument/didClose" outcome

/-- A watched file changes. -/
def watch (s : Server) (uri : Uri) : FileEvent → Server × List Outgoing
  | .deleted => ({ s with workspace := (s.workspace.delete uri).1 }, [clear uri])
  | .touched =>
    s.published language "workspace/didChangeWatchedFiles"
      (ifRead (s.workspace.refresh language disk uri))

/-- A file is renamed. A name that is no uri is passed over. -/
def rename (s : Server) (old new : String) : Server × List Outgoing :=
  match Uri.parse? old, Uri.parse? new with
  | some old, some new =>
    let (s, out) :=
      s.published language "workspace/didRenameFiles" (s.workspace.rename language disk old new)
    (s, clear old :: out)
  | _, _ => (s, [])

/-- Handle several events in order. -/
def inOrder {α : Type} (handle : Server → α → Server × List Outgoing) (s : Server) :
    List α → Server × List Outgoing
  | [] => (s, [])
  | a :: rest =>
    let (s, first) := handle s a
    let (s, out) := inOrder handle s rest
    (s, first ++ out)

/-- Handle a notification. -/
def notify (s : Server) : Notification → Server × List Outgoing
  | .ready => (s.ready language, [])
  | .configured payload => s.configure language payload
  | .opened uri text version => s.openFile language uri text version
  | .changed uri changes version => s.change language uri changes version
  | .saved uri text => s.save language disk uri text
  | .closed uri => s.close language disk uri
  | .foldersChanged added removed =>
    ({ s with workspace := (s.workspace.removeFolders removed).addFolders added }, [])
  | .watched events => s.inOrder (fun s (uri, event) => s.watch language disk uri event) events
  | .renamed pairs => s.inOrder (fun s (old, new) => s.rename language disk old new) pairs

/-! ## Requests -/

/-- The client connects. -/
def connect (s : Server) (g : Greeting) : Server × Answer :=
  let s := s.applySettings (Settings.ofPayload g.options language.id)
  let folders := g.folders.getD g.root.toList
  ({ s with client := g.capabilities, workspace := s.workspace.addFolders folders },
    .connected (g.capabilities.offer language))

/-- The proposals at a position of a tracked file. -/
def complete (s : Server) (uri : Uri) (pos : Editor.Position) :
    Server × List Outgoing × Option (List CompletionItem) :=
  match language.completion, s.workspace.files.get? uri with
  | none, _ => (s, [], none)
  | some _, none => (s, [], some [])
  | some support, some file =>
    match s.workspace.complete support file pos.toPoint s.settings.completion with
    | (w, .ok items) => ({ s with workspace := w }, [], some items)
    | (w, .error _) =>
      ({ s with workspace := w }, [internalError "textDocument/completion"], some [])

/-- The outline of a tracked file. -/
def outline (s : Server) (uri : Uri) : List Outgoing × Option (List Outline) :=
  match (s.workspace.files.get? uri).bind FileState.root with
  | none => ([], none)
  | some root =>
    match root.outline with
    | .ok entries => ([], some entries)
    | .error _ => ([internalError "textDocument/documentSymbol"], some [])

/-- Handle a request. -/
def respond (s : Server) : Request → Server × List Outgoing × Answer
  | .connect greeting =>
    let (s, answer) := s.connect language greeting
    (s, [], answer)
  | .shutdown => ({ s with loadStopped := true }, [], .acknowledged)
  | .hover uri pos => (s, [], .hover (Navigation.hover? s.workspace.repository uri pos))
  | .definition uri pos =>
    (s, [], .definition (Navigation.definition? s.workspace.repository uri pos))
  | .references uri pos declaration =>
    (s, [], .references (Navigation.references s.workspace.repository uri pos declaration))
  | .completion uri pos =>
    let (s, out, items) := s.complete language uri pos
    (s, out, .completion items)
  | .outline uri =>
    let (out, entries) := s.outline uri
    (s, out, .outline entries)
  | .symbols query =>
    (s, [], .symbols
      (Navigation.workspaceSymbols s.workspace.repository query Navigation.symbolLimit))

end Server

end CodeIndex
