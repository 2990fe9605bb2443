import Mathlib.Data.List.Basic
import CodeIndex.Proofs.Workspace.OpenFiles
import CodeIndex.Server.Handlers

set_option relaxedAutoImplicit false
set_option autoImplicit false

/-!
# Who owns the text of an open file

Between opening and closing a file, its text should be the last one that the editor sent, whatever
happens on disk. The server trusts its own open marks for that, and a watched deletion takes the
mark of a file away although the editor still has the file open. This file follows a file through a
session with the eyes of the editor, and shows that the deletions are the only thing that matters:
without one, the text is the editor's; after one, the next event on disk can replace it.

## Main definitions

* `Server.Step`, `Server.run` — messages and background work, each of which finds its own disk.
* `ClientView` — the last text that the editor sent for a file, and whether the file was reported
  as deleted meanwhile.
* `ClientView.Owned` — the invariant that ties the view of the editor to a workspace.

## Main results

* `Server.settle_induction` — background work keeps what retentions and the indexing of texts keep.
* `Server.spares_settle` — background work does not touch open files.
* `Server.ownership_run` — the text of an open file is the editor's exactly as long as the file was
  not reported as deleted.
-/

namespace CodeIndex

namespace Server

variable {language : Language} {disk : Disk} {uri : Uri}

/-! ## What handlers do to the workspace -/

@[simp] lemma workspace_published (s : Server) (method : String)
    (outcome : Workspace × Except Fault (Option SyncReport)) :
    (s.published language method outcome).1.workspace = outcome.1 := by
  rcases outcome with ⟨w, fault | _ | report⟩ <;> rfl

@[simp] lemma workspace_openFile (s : Server) (uri : Uri) (text : String) (version : Int) :
    (s.openFile language uri text version).1.workspace =
      (s.workspace.openFile language uri text version).1 :=
  workspace_published ..

@[simp] lemma workspace_change (s : Server) (uri : Uri) (changes : List TextChange)
    (version : Int) :
    (s.change language uri changes version).1.workspace =
      match changes.find? fun c => !c.partly with
      | none => s.workspace
      | some c => (s.workspace.change language uri c.text version).1 := by
  unfold change
  cases changes.find? fun c => !c.partly with
  | none => rfl
  | some c => exact workspace_published ..

@[simp] lemma workspace_save (s : Server) (uri : Uri) (text : Option String) :
    (s.save language disk uri text).1.workspace = (s.workspace.save language disk uri text).1 :=
  workspace_published ..

@[simp] lemma workspace_close (s : Server) (uri : Uri) :
    (s.close language disk uri).1.workspace = (s.workspace.close language disk uri).1 := by
  unfold close
  rcases s.workspace.close language disk uri with ⟨w, fault | _ | report⟩ <;> rfl

@[simp] lemma workspace_watch (s : Server) (uri : Uri) (event : FileEvent) :
    (s.watch language disk uri event).1.workspace =
      match event with
      | .deleted => (s.workspace.delete uri).1
      | .touched => (s.workspace.refresh language disk uri).1 := by
  cases event with
  | deleted => rfl
  | touched => exact workspace_published ..

@[simp] lemma workspace_configure (s : Server) (payload : Json) :
    (s.configure language payload).1.workspace = s.workspace := by
  unfold configure
  dsimp only
  split
  · rfl
  · split <;> rfl

lemma inOrder_fst {α : Type} (handle : Server → α → Server × List Outgoing) (s : Server)
    (events : List α) :
    (s.inOrder handle events).1 = events.foldl (fun s e => (handle s e).1) s := by
  induction events generalizing s with
  | nil => rfl
  | cons e events ih => exact ih (handle s e).1

/-! ## Background work -/

/-- What indexing a text keeps of a workspace, indexing files one after the other keeps. The files
are named after their paths. -/
lemma indexPaths_induction {P : Workspace → Prop}
    (hindex : ∀ w path v text, Uri.ofPath? path = some v → P w →
      P (w.indexFile language v text).1) (stops : Nat → Bool)
    (session : ProgressSession) (total done : Nat) (summary : LoadSummary) {s : Server}
    (h : P s.workspace) (paths : List Path) :
    P (indexPaths language disk stops session total done summary s paths).1.workspace := by
  induction paths generalizing done summary s with
  | nil => exact h
  | cons path paths ih =>
    unfold indexPaths
    split
    · exact h
    · split
      · next v text hv _ =>
        have hindexed := hindex s.workspace path v text hv h
        generalize s.workspace.indexFile language v text = outcome at hindexed ⊢
        rcases outcome with ⟨w, fault | _ | report⟩
        · exact hindexed
        · exact ih (s := { s with workspace := w }) _ _ hindexed
        · exact ih (s := { s with workspace := w }) _ _ hindexed
      · exact ih _ _ h

/-- A progress session has no part in the workspace. -/
lemma workspace_openSession (s : Server) (reportsProgress : Bool) (total : Nat) :
    (s.openSession reportsProgress total).1.workspace = s.workspace := by
  unfold openSession
  split <;> rfl

/-- A whole load is a retention, and then files are indexed one after the other. -/
lemma indexWorkspace_induction {P : Workspace → Prop}
    (hretain : ∀ w keep, P w → P (w.retain keep).1)
    (hindex : ∀ w path v text, Uri.ofPath? path = some v → P w →
      P (w.indexFile language v text).1) {s : Server}
    (h : P s.workspace) (stops : Nat → Bool) (reportsProgress : Bool) :
    P (s.indexWorkspace language disk stops reportsProgress).1.workspace := by
  unfold indexWorkspace
  split
  · exact hretain _ [] h
  · dsimp only
    split
    · exact hretain _ _ h
    · refine indexPaths_induction hindex _ _ _ _ _ ?_ _
      rw [workspace_openSession]
      exact hretain _ _ h

/-- So background work keeps what retentions and the indexing of texts keep. -/
lemma settle_induction {P : Workspace → Prop} (hretain : ∀ w keep, P w → P (w.retain keep).1)
    (hindex : ∀ w path v text, Uri.ofPath? path = some v → P w →
      P (w.indexFile language v text).1) {s : Server}
    (h : P s.workspace) : P (s.settle language disk).1.workspace := by
  have htasks : ∀ (tasks : List Task) (s : Server), P s.workspace →
      P (s.runTasks language disk tasks).1.workspace := by
    intro tasks
    induction tasks with
    | nil => exact fun s h => h
    | cons task tasks ih =>
      intro s h
      refine ih (s.runTask language disk task).1 ?_
      cases task with
      | register registrations => exact h
      | load number reportsProgress => exact indexWorkspace_induction hretain hindex h _ _
  exact htasks s.waiting { s with waiting := [] } h

/-- Background work does not touch open files. -/
theorem spares_settle (s : Server) :
    Workspace.Spares uri s.workspace (s.settle language disk).1.workspace :=
  settle_induction (P := Workspace.Spares uri s.workspace)
    (fun _ keep h => h.trans (.retain keep)) (fun _ _ _ text _ h => h.trans (.indexFile text))
    (.refl uri _)

/-! ## Sessions -/

/-- A step of a session: a message, or the background work that waits. Each finds its own disk. -/
inductive Step where
  | message (disk : Disk) (notification : Notification)
  | settle (disk : Disk)

/-- The server after a step. -/
def Step.apply (language : Language) (s : Server) : Step → Server
  | .message disk notification => (s.notify language disk notification).1
  | .settle disk => (s.settle language disk).1

/-- The server after some steps. -/
def run (language : Language) (s : Server) (steps : List Step) : Server :=
  steps.foldl (Step.apply language) s

end Server

/-- The messages of a session under way: all but the one that starts it and renamings. -/
def Notification.UnderWay : Notification → Prop
  | .ready => False
  | .renamed _ => False
  | _ => True

/-- A step with background work or a message of a session under way. -/
def Server.Step.UnderWay : Server.Step → Prop
  | .message _ notification => notification.UnderWay
  | .settle _ => True

/-- A file in the eyes of the editor. -/
structure ClientView where
  /-- The last text that the editor sent, if it has the file open. -/
  sent : Option String
  /-- Whether the file was reported as deleted since it was opened last. -/
  deleted : Bool

namespace ClientView

/-- The view of a file that is not open. -/
def closed : ClientView := ⟨none, false⟩

/-- The editor sends a text, which counts for an open file only. -/
def send (view : ClientView) (text : String) : ClientView :=
  { view with sent := view.sent.map fun _ => text }

/-- The view after one of the watched events. -/
def watch (uri : Uri) (view : ClientView) (event : Uri × FileEvent) : ClientView :=
  if event = (uri, .deleted) then { view with deleted := true } else view

/-- The view after a message. -/
def notify (uri : Uri) (view : ClientView) : Notification → ClientView
  | .opened v text _ => if v = uri then ⟨some text, false⟩ else view
  | .changed v changes _ =>
    if v = uri then ((changes.find? fun c => !c.partly).map TextChange.text).elim view view.send
    else view
  | .saved v text => if v = uri then text.elim view view.send else view
  | .closed v => if v = uri then closed else view
  | .watched events => events.foldl (watch uri) view
  | _ => view

/-- The view after a step. -/
def step (uri : Uri) (view : ClientView) : Server.Step → ClientView
  | .message _ notification => view.notify uri notification
  | .settle _ => view

/-- The view after some steps, from a file on that is not open. -/
def run (uri : Uri) (steps : List Server.Step) : ClientView := steps.foldl (step uri) closed

/-! ## The invariant -/

/-- Without a deletion an open file has its mark and the text that the editor sent; with one it has
lost its mark. -/
structure Owned (uri : Uri) (view : ClientView) (w : Workspace) : Prop where
  kept : ∀ text, view.sent = some text → view.deleted = false →
    w.files.isOpen uri = true ∧ ∃ file, w.files.get? uri = some file ∧ file.text = text
  lost : ∀ text, view.sent = some text → view.deleted = true → w.files.isOpen uri = false

namespace Owned

variable {language : Language} {disk : Disk} {uri v : Uri} {view : ClientView} {w w' : Workspace}

/-- Nothing is said about a file that is not open. -/
lemma of_closed (h : view.sent = none) : Owned uri view w := by
  refine ⟨fun text hsent => ?_, fun text hsent => ?_⟩ <;>
    · rw [h] at hsent
      cases hsent

lemma of_spares (h : Owned uri view w) (hspares : Workspace.Spares uri w w') :
    Owned uri view w' := by
  refine ⟨fun text hsent hdeleted => ?_, fun text hsent hdeleted => ?_⟩
  · obtain ⟨hopen, file, hfile, htext⟩ := h.kept text hsent hdeleted
    exact ⟨hspares.isOpen.trans hopen, file, (hspares.get? hopen).trans hfile, htext⟩
  · exact hspares.isOpen.trans (h.lost text hsent hdeleted)

/-- The editor sends a text, and the text is synchronised. -/
lemma synchronize (htotal : language.Total) (h : Owned uri view w) (text : String)
    (version : Option Int) :
    Owned uri (view.send text) (w.synchronize language uri text version).1 := by
  obtain ⟨parse, hparse⟩ := htotal uri text
  refine ⟨fun t hsent hdeleted => ?_, fun t hsent hdeleted => ?_⟩
  · obtain ⟨old, hold, rfl⟩ := Option.map_eq_some_iff.1 hsent
    refine ⟨?_, _, Workspace.get?_synchronize_self hparse w version, rfl⟩
    rw [Workspace.isOpen_synchronize]
    exact (h.kept old hold hdeleted).1
  · obtain ⟨old, hold, -⟩ := Option.map_eq_some_iff.1 hsent
    rw [Workspace.isOpen_synchronize]
    exact h.lost old hold hdeleted

/-- The editor opens the file. -/
lemma openFile (htotal : language.Total) (w : Workspace) (text : String) (version : Int) :
    Owned uri ⟨some text, false⟩ (w.openFile language uri text version).1 := by
  obtain ⟨parse, hparse⟩ := htotal uri text
  refine ⟨fun t hsent _ => ?_, fun t _ hdeleted => by cases hdeleted⟩
  obtain rfl := Option.some.inj hsent
  refine ⟨?_, _, Workspace.get?_synchronize_self hparse _ _, rfl⟩
  rw [Workspace.openFile, Workspace.isOpen_synchronize]
  show (w.files.markOpen uri).isOpen uri = true
  rw [FileStore.isOpen_markOpen, decide_eq_true rfl, Bool.or_true]

/-- The editor saves the file. Without a text it is the tracked one that counts, which is the
editor's unless the file was deleted. -/
lemma save (htotal : language.Total) (h : Owned uri view w) (text : Option String) :
    Owned uri (text.elim view view.send) (w.save language disk uri text).1 := by
  rw [Workspace.save_fst]
  cases text with
  | some text => exact h.synchronize htotal text _
  | none =>
    rw [Option.elim_none]
    refine ⟨fun t hsent hdeleted => ?_, fun t hsent hdeleted => ?_⟩
    · obtain ⟨hopen, file, hfile, rfl⟩ := h.kept t hsent hdeleted
      have hsaved : Workspace.savedText disk w uri none = .ok file.text := by
        simp only [Workspace.savedText, hfile]
      have hsend : view.send file.text = view := by rw [send, hsent, Option.map_some, ← hsent]
      have hsync := h.synchronize htotal file.text ((w.files.get? uri).bind (·.version))
      rw [hsend] at hsync
      rw [hsaved]
      exact hsync.kept _ hsent hdeleted
    · have hlost := h.lost t hsent hdeleted
      split
      · exact hlost
      · rwa [Workspace.isOpen_synchronize]

/-- A watched file changes on disk. -/
lemma watch {s : Server} (h : Owned uri view s.workspace) (v : Uri) (event : FileEvent) :
    Owned uri (view.watch uri (v, event)) (s.watch language disk v event).1.workspace := by
  rw [Server.workspace_watch]
  cases event with
  | touched =>
    rw [ClientView.watch, if_neg (by simp)]
    exact h.of_spares .refresh
  | deleted =>
    by_cases hv : v = uri
    · subst hv
      rw [ClientView.watch, if_pos rfl]
      refine ⟨fun t _ hdeleted => (by cases hdeleted), fun t _ _ => ?_⟩
      show (s.workspace.forget v).files.isOpen v = false
      rw [Workspace.isOpen_forget, decide_eq_false (by simp), Bool.and_false]
    · rw [ClientView.watch, if_neg (by simp [hv])]
      exact h.of_spares (.delete_of_ne hv)

/-- Every message of a session under way keeps the invariant. -/
lemma notify (htotal : language.Total) {s : Server} (h : Owned uri view s.workspace) (disk : Disk)
    {notification : Notification} (hway : notification.UnderWay) :
    Owned uri (view.notify uri notification)
      (s.notify language disk notification).1.workspace := by
  cases notification with
  | ready => cases hway
  | renamed pairs => cases hway
  | configured payload =>
    show Owned uri view (s.configure language payload).1.workspace
    rwa [Server.workspace_configure]
  | foldersChanged added removed => exact h.of_spares ⟨rfl, fun _ => rfl⟩
  | opened v text version =>
    show Owned uri (if v = uri then _ else _) (s.openFile language v text version).1.workspace
    rw [Server.workspace_openFile]
    split
    · next hv =>
      subst hv
      exact openFile htotal s.workspace text version
    · next hv => exact h.of_spares (.openFile_of_ne hv text version)
  | changed v changes version =>
    show Owned uri (if v = uri then _ else _) (s.change language v changes version).1.workspace
    rw [Server.workspace_change]
    cases changes.find? fun c => !c.partly with
    | none =>
      rw [Option.map_none, Option.elim_none, ite_self]
      exact h
    | some c =>
      split
      · next hv =>
        subst hv
        exact h.synchronize htotal c.text (some version)
      · next hv => exact h.of_spares (.change_of_ne hv c.text version)
  | saved v text =>
    show Owned uri (if v = uri then _ else _) (s.save language disk v text).1.workspace
    rw [Server.workspace_save]
    split
    · next hv =>
      subst hv
      exact h.save htotal text
    · next hv => exact h.of_spares (.save_of_ne hv text)
  | closed v =>
    show Owned uri (if v = uri then _ else _) (s.close language disk v).1.workspace
    rw [Server.workspace_close]
    split
    · exact of_closed rfl
    · next hv => exact h.of_spares (.close_of_ne hv)
  | watched events =>
    show Owned uri (events.foldl (ClientView.watch uri) view) (s.inOrder _ events).1.workspace
    rw [Server.inOrder_fst]
    induction events generalizing s view with
    | nil => exact h
    | cons event events ih => exact ih (h.watch event.1 event.2) trivial

/-- Every step of a session under way does. -/
lemma step (htotal : language.Total) {s : Server} (h : Owned uri view s.workspace)
    {step : Server.Step} (hway : step.UnderWay) :
    Owned uri (view.step uri step) (step.apply language s).workspace := by
  cases step with
  | message disk notification => exact h.notify htotal disk hway
  | settle disk => exact h.of_spares (Server.spares_settle s)

/-- Every session under way does. -/
lemma run (htotal : language.Total) {s : Server} (h : Owned uri view s.workspace)
    {steps : List Server.Step} (hway : ∀ step ∈ steps, step.UnderWay) :
    Owned uri (steps.foldl (ClientView.step uri) view) (s.run language steps).workspace := by
  induction steps generalizing s view with
  | nil => exact h
  | cons step steps ih =>
    exact ih (h.step htotal (hway step List.mem_cons_self))
      fun later hlater => hway later (List.mem_cons_of_mem _ hlater)

end Owned

end ClientView

namespace Server

variable {language : Language} {uri : Uri}

/-- A file that is not marked as open takes its text from disk when it is touched there. -/
lemma text_watch_touched (htotal : language.Total) {s : Server}
    (hclosed : s.workspace.files.isOpen uri = false) (hhandles : language.handlesUri uri = true)
    {disk : Disk} {text : String} (hread : readUri disk uri = .ok text) :
    ∃ file, (s.notify language disk (.watched [(uri, .touched)])).1.workspace.files.get? uri =
      some file ∧ file.text = text := by
  obtain ⟨parse, hparse⟩ := htotal uri text
  have hwatch : (s.notify language disk (.watched [(uri, .touched)])).1.workspace =
      (s.workspace.refresh language disk uri).1 := workspace_watch s uri .touched
  refine ⟨.ofParse uri text none parse, ?_, rfl⟩
  rw [hwatch, Workspace.refresh_fst, hclosed, hhandles, hread]
  exact Workspace.get?_synchronize_self hparse _ _

/-- **The text of an open file is the editor's as long as the file was not reported as deleted,
and no longer.** In every session under way, on whatever server it started: while the editor has a
file open that was not reported as deleted since, the file is marked as open and its text is the
last one that the editor sent. After such a report the mark is gone, so the next touch of the file
on disk puts the text from disk in the place of the editor's. -/
theorem ownership_run (htotal : language.Total) (s : Server) {steps : List Step}
    (hway : ∀ step ∈ steps, step.UnderWay) {sent : String}
    (hsent : (ClientView.run uri steps).sent = some sent) :
    ((ClientView.run uri steps).deleted = false →
      (s.run language steps).workspace.files.isOpen uri = true ∧
        ∃ file, (s.run language steps).workspace.files.get? uri = some file ∧ file.text = sent) ∧
    ((ClientView.run uri steps).deleted = true →
      (s.run language steps).workspace.files.isOpen uri = false ∧
        ∀ disk text, language.handlesUri uri = true → readUri disk uri = .ok text →
          ∃ file, (s.run language (steps ++ [.message disk (.watched [(uri, .touched)])])
            ).workspace.files.get? uri = some file ∧ file.text = text) := by
  have howned : ClientView.Owned uri (ClientView.run uri steps) (s.run language steps).workspace :=
    ClientView.Owned.run htotal (.of_closed rfl) hway
  refine ⟨howned.kept sent hsent, fun hdeleted => ?_⟩
  have hclosed := howned.lost sent hsent hdeleted
  refine ⟨hclosed, fun disk text hhandles hread => ?_⟩
  rw [run, List.foldl_append]
  exact text_watch_touched htotal hclosed hhandles hread

/-- A language in which every text is without a tree. -/
def plainLanguage : Language := .create "plain" fun _ _ => .ok ⟨none, []⟩

/-- A disk with a single file. -/
def singleFileDisk : Disk := ⟨.ofList [(["a"], .file (.text "C"))]⟩

/-- A file is opened, reported as deleted, and changed in the editor. -/
def deletedWhileOpen : List Step :=
  [.message .empty (.opened ⟨"file:///a"⟩ "A" 1),
    .message .empty (.watched [(⟨"file:///a"⟩, .deleted)]),
    .message .empty (.changed ⟨"file:///a"⟩ [⟨false, "B"⟩] 2)]

/-- The file comes back on disk, and its text is the one there. -/
theorem ownership_run_deletedWhileOpen :
    ∃ file, (empty.run plainLanguage (deletedWhileOpen ++
      [.message singleFileDisk (.watched [(⟨"file:///a"⟩, .touched)])])).workspace.files.get?
        ⟨"file:///a"⟩ = some file ∧ file.text = "C" := by
  have htotal : plainLanguage.Total := fun _ _ => ⟨_, rfl⟩
  have hway : ∀ step ∈ deletedWhileOpen, step.UnderWay := by
    intro step hstep
    simp only [deletedWhileOpen, List.mem_cons, List.not_mem_nil, or_false] at hstep
    rcases hstep with rfl | rfl | rfl <;> exact trivial
  exact ((ownership_run htotal empty hway rfl).2 rfl).2 singleFileDisk "C" (by decide) (by decide)

/-- The editor still has the file open, and sent another text last. -/
theorem text_from_disk_while_open :
    (ClientView.run ⟨"file:///a"⟩ (deletedWhileOpen ++
        [.message singleFileDisk (.watched [(⟨"file:///a"⟩, .touched)])])).sent = some "B" ∧
      ((empty.run plainLanguage (deletedWhileOpen ++
        [.message singleFileDisk (.watched [(⟨"file:///a"⟩, .touched)])])).workspace.files.get?
          ⟨"file:///a"⟩).map FileState.text = some "C" := by
  decide

end Server

end CodeIndex
