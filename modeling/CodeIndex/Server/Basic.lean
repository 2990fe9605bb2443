import CodeIndex.Navigation
import CodeIndex.Progress
import CodeIndex.Server.Capabilities
import CodeIndex.Server.Diagnostics
import CodeIndex.Settings.Patch
import CodeIndex.Workspace.Basic

set_option autoImplicit false

/-!
# The state of a server

A server holds a workspace, what it knows of its client, the settings in force, and the background
work that waits to run. Whatever it sends to the client is collected as a list, in order.

## Main definitions

* `Server` — the state.
* `Outgoing` — what the server sends to the client.
* `Server.Task` — background work.
* `Server.applySettings`, `Server.publishState` — the two places where settings and diagnostics
  meet.

## Implementation notes

Loads are numbered. A load is to stop when a later one was started or when the latest was told to
stop, so a number and a flag stand for the handles of all loads. The diagnostic filter is kept
beside the settings it was made from, so that patterns are read once.
-/

namespace CodeIndex

/-- What the server sends to the client. -/
inductive Outgoing where
  /-- The diagnostics of a file, with the version of the text they are about. -/
  | publish (uri : Uri) (diagnostics : List Diagnostic) (version : Option Int)
  /-- An informative entry for the log of the client. -/
  | log (message : String)
  /-- An error to show to the user. -/
  | showError (message : String)
  /-- A step of a progress session. -/
  | progress (event : ProgressEvent)
  /-- The request to register features. -/
  | register (registrations : List Registration)
deriving DecidableEq, Repr

/-- Background work. -/
inductive Server.Task where
  | register (registrations : List Registration)
  /-- The load with a number, which reports its progress if the client wants it. -/
  | load (number : Nat) (reportsProgress : Bool)
deriving DecidableEq, Repr

/-- The state of a server. -/
structure Server where
  workspace : Workspace
  client : ClientCapabilities
  settings : Settings
  /-- The filter of the diagnostics settings. -/
  filter : DiagnosticFilter
  /-- The number of the latest load. -/
  latestLoad : Nat
  /-- Whether the latest load was told to stop. -/
  loadStopped : Bool
  /-- The background work that waits, in the order in which it was started. -/
  waiting : List Server.Task
  /-- The number of the next progress session. -/
  nextProgress : Nat

namespace Server

/-- The server before the client connects. -/
def empty : Server := ⟨.empty, {}, {}, {}, 0, false, [], 1⟩

instance : Inhabited Server := ⟨empty⟩

/-- A message with the label of the server. -/
def labelled (message : String) : String := messageLabel ++ " " ++ message

/-- What is shown when the adapter broke off while a message was handled. -/
def internalError (method : String) : Outgoing :=
  .showError (labelled ("Internal error while handling " ++ method))

/-- Put settings in force, with the filter that they give. -/
def applySettings (s : Server) (settings : Settings) : Server :=
  { s with filter := .ofSettings settings.diagnostics, settings := settings }

/-- The diagnostics of a file under the settings in force. -/
def diagnosticsOf (language : Language) (s : Server) (file : FileState) : List Diagnostic :=
  file.diagnostics s.settings.diagnostics s.filter language.id

/-- Publish the diagnostics of a file. -/
def publishState (language : Language) (s : Server) (file : FileState) : Outgoing :=
  .publish file.uri (s.diagnosticsOf language file) file.version

/-- Withdraw the diagnostics of a file. -/
def clear (uri : Uri) : Outgoing := .publish uri [] none

/-- Whether the load with a number is to stop. -/
def stops (s : Server) (number : Nat) : Bool := number != s.latestLoad || s.loadStopped

/-- Start a load of all folders, which stops every earlier one. -/
def startLoad (s : Server) : Server :=
  { s with
    latestLoad := s.latestLoad + 1
    loadStopped := false
    waiting := s.waiting ++ [.load (s.latestLoad + 1) s.client.workDoneProgress] }

end Server

end CodeIndex
