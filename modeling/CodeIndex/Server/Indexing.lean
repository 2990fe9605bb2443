import CodeIndex.Server.Basic

set_option autoImplicit false

/-!
# Background indexing

The load of all folders of a workspace as background work. Files that are no longer found and not
open are dropped first; then every file is read, indexed and published, one after the other.

## Main definitions

* `Server.indexPaths` — index files one after the other.
* `Server.indexWorkspace` — a whole load.
* `Server.settle` — run all background work that waits.
-/

namespace CodeIndex

namespace Server

variable (language : Language) (disk : Disk)

/-- The report after a number of files: after every fifth, and after the last. -/
def progressReport (session : ProgressSession) (done total : Nat) : List Outgoing :=
  if done % 5 = 0 ∨ done = total then
    (session.report (some (toString done ++ " / " ++ toString total ++ " files"))
      (some (percentOf done total))).map .progress
  else []

/-- Index files one after the other, after `done` of `total`. Before each file the load looks
whether it was asked to stop: `stops k` says so for the moment when `k` files are done. A file that
cannot be read is passed over. The diagnostics are published without a version, since the text
comes from disk. -/
def indexPaths (stops : Nat → Bool) (session : ProgressSession) (total : Nat) :
    (done : Nat) → LoadSummary → Server → List Path →
      Server × List Outgoing × Except Fault LoadSummary
  | _, summary, s, [] => (s, [], .ok summary)
  | done, summary, s, path :: paths =>
    if stops done then (s, [], .ok { summary with cancelled := true })
    else
      match Uri.ofPath? path,
          readSource disk path (some s.settings.indexing.maxFileSizeBytes) with
      | some uri, .ok text =>
        match s.workspace.indexFile language uri text with
        | (w, .error fault) => ({ s with workspace := w }, [], .error fault)
        | (w, .ok report) =>
          let s := { s with workspace := w }
          let (published, summary) :=
            match report with
            | some report =>
              ([Outgoing.publish uri (s.diagnosticsOf language report.state) none],
                { summary with indexed := summary.indexed + 1 })
            | none => ([], { summary with skippedOpen := summary.skippedOpen + 1 })
          let (s, out, result) := indexPaths stops session total (done + 1) summary s paths
          (s, published ++ progressReport session (done + 1) total ++ out, result)
      | _, _ =>
        indexPaths stops session total (done + 1)
          { summary with skippedUnreadable := summary.skippedUnreadable + 1 } s paths

/-- The message at the end of a load. -/
def loadMessage (summary : LoadSummary) : String :=
  if summary.cancelled then "Cancelled after " ++ toString summary.indexed ++ " file(s)"
  else toString summary.indexed ++ " file(s) indexed"

/-- Open the progress session of a load, if the client wants one. -/
def openSession (s : Server) (reportsProgress : Bool) (total : Nat) :
    Server × ProgressSession × List Outgoing :=
  if reportsProgress then
    let (session, events) :=
      ProgressSession.start s.nextProgress "Indexing"
        (some ("0 / " ++ toString total ++ " files"))
    ({ s with nextProgress := s.nextProgress + 1 }, session, events.map .progress)
  else (s, .disabled, [])

/-- What closes the progress session of a load. One that the adapter broke off counts as
cancelled. -/
def closeSession (session : ProgressSession) : Except Fault LoadSummary → List Outgoing
  | .ok summary => (session.finish (some (loadMessage summary))).map .progress
  | .error _ => session.drop.map .progress

/-- Load all folders, unless `stops` breaks the load off between two files. With indexing switched
off, only the open files are kept. -/
def indexWorkspace (s : Server) (stops : Nat → Bool) (reportsProgress : Bool) :
    Server × List Outgoing :=
  if !s.settings.indexing.enabled then
    ({ s with workspace := (s.workspace.retain []).1 }, [])
  else
    let paths := s.workspace.discover language disk s.settings.indexing.discovery
    let s := { s with workspace := (s.workspace.retain (paths.filterMap Uri.ofPath?)).1 }
    if paths.isEmpty then (s, [])
    else
      let (s, session, opening) := s.openSession reportsProgress paths.length
      let (s, out, result) :=
        indexPaths language disk stops session paths.length 0 { discovered := paths.length } s
          paths
      (s, opening ++ out ++ closeSession session result)

/-- Run a piece of background work. No message is handled meanwhile, so a load is asked to stop
either before its first file or not at all. -/
def runTask (s : Server) : Task → Server × List Outgoing
  | .register registrations => (s, [.register registrations])
  | .load number reportsProgress =>
    s.indexWorkspace language disk (fun _ => s.stops number) reportsProgress

/-- Run some background work in order. -/
def runTasks (s : Server) : List Task → Server × List Outgoing
  | [] => (s, [])
  | task :: tasks =>
    let (s, first) := s.runTask language disk task
    let (s, rest) := runTasks s tasks
    (s, first ++ rest)

/-- Run all background work that waits. -/
def settle (s : Server) : Server × List Outgoing :=
  { s with waiting := [] }.runTasks language disk s.waiting

end Server

end CodeIndex
