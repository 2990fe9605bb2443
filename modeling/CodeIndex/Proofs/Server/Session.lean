import Mathlib.Tactic.Lemma
import CodeIndex.Proofs.Server.Ownership
import CodeIndex.Proofs.Workspace.Reachable

set_option relaxedAutoImplicit false
set_option autoImplicit false

/-!
# Sessions

A session of a server with its client, from the greeting on: messages arrive, background work is
run in between, and whatever the server sends is kept in order. The client greets once. Before the
greeting nothing else is let through to the server, and after it no second greeting is.

## Main definitions

* `Message` — a notification or a request, and `Server.handle`, which handles either.
* `Session` — a server, whether its client has greeted it, and all that was sent.
* `Session.Event` — a message arrives, or background work is run; each finds its own disk.
* `Session.run` — a session through some events.
* `Message.names` — the files for which a message may bring in a text.

## Main results

* `Server.kept_handle`, `Server.kept_settle`, `Session.kept_run` — messages, background work and
  whole sessions keep what elementary changes keep.
* `Server.reachable_handle`, `Server.reachable_settle` — so they lead from a workspace that can be
  reached to another.
* `Session.reachable_run` — the workspace of a session can be reached.
-/

namespace CodeIndex

/-- A message from the client. -/
inductive Message where
  | notification (notification : Notification)
  | request (request : Request)

/-- Handle a message. The answer to a request is left aside. -/
def Server.handle (language : Language) (disk : Disk) (s : Server) :
    Message → Server × List Outgoing
  | .notification notification => s.notify language disk notification
  | .request request =>
    let (s, out, _) := s.respond language request
    (s, out)

/-! ## What messages and background work keep -/

/-- The files for which a notification may bring in a text. -/
def Notification.names : Notification → List Uri
  | .opened uri _ _ => [uri]
  | .changed uri _ _ => [uri]
  | .saved uri _ => [uri]
  | .closed uri => [uri]
  | .watched events => events.map Prod.fst
  | .renamed pairs => pairs.filterMap fun pair => Uri.parse? pair.2
  | _ => []

/-- The files for which a message may bring in a text. -/
def Message.names : Message → List Uri
  | .notification told => told.names
  | .request _ => []

namespace Server

variable {language : Language} {disk : Disk} {A : Uri → Prop} {P : Workspace → Prop}

lemma kept_inOrder {α : Type} {step : Server → α → Server × List Outgoing} {events : List α}
    (hstep : ∀ (s : Server), ∀ a ∈ events, P s.workspace → P (step s a).1.workspace)
    {s : Server} (h : P s.workspace) : P (s.inOrder step events).1.workspace := by
  induction events generalizing s with
  | nil => exact h
  | cons event events ih =>
    exact ih (fun s a ha => hstep s a (List.mem_cons_of_mem _ ha))
      (hstep s event List.mem_cons_self h)

lemma kept_watch (hP : Workspace.Kept language A P) {s : Server} (h : P s.workspace) {uri : Uri}
    (huri : A uri) (event : FileEvent) : P (s.watch language disk uri event).1.workspace := by
  rw [workspace_watch]
  cases event with
  | deleted => exact hP.drop uri h
  | touched => exact hP.refresh h huri

lemma kept_rename (hP : Workspace.Kept language A P) {s : Server} (h : P s.workspace)
    {old new : String} (hnew : ∀ uri, Uri.parse? new = some uri → A uri) :
    P (s.rename language disk old new).1.workspace := by
  unfold rename
  split
  · next old new _ hparsed =>
    dsimp only
    rw [workspace_published]
    exact hP.rename h old (hnew new hparsed)
  · exact h

lemma kept_ready (hP : Workspace.Kept language A P) {s : Server} (h : P s.workspace) :
    P (s.ready language).workspace := by
  unfold ready
  dsimp only
  split <;> split
  · exact hP.reset _ h
  · exact h
  · exact hP.reset _ h
  · exact h

/-- Notifications keep what elementary changes keep. -/
lemma kept_notify (hP : Workspace.Kept language A P) {s : Server} (h : P s.workspace)
    {notification : Notification} (hnames : ∀ uri ∈ notification.names, A uri) :
    P (s.notify language disk notification).1.workspace := by
  cases notification with
  | ready => exact kept_ready hP h
  | configured payload =>
    show P (s.configure language payload).1.workspace
    rwa [workspace_configure]
  | opened uri text version =>
    show P (s.openFile language uri text version).1.workspace
    rw [workspace_openFile]
    exact hP.openFile h (hnames uri List.mem_cons_self) text version
  | changed uri changes version =>
    show P (s.change language uri changes version).1.workspace
    rw [workspace_change]
    split
    · exact h
    · exact hP.synchronize _ _ (hnames uri List.mem_cons_self) h
  | saved uri text =>
    show P (s.save language disk uri text).1.workspace
    rw [workspace_save]
    exact hP.save h (hnames uri List.mem_cons_self) text
  | closed uri =>
    show P (s.close language disk uri).1.workspace
    rw [workspace_close]
    exact hP.close h (hnames uri List.mem_cons_self)
  | foldersChanged added removed => exact hP.redirect (w := s.workspace) _ h
  | watched events =>
    exact kept_inOrder (fun s e he hs =>
      kept_watch hP hs (hnames e.1 (List.mem_map_of_mem he)) e.2) h
  | renamed pairs =>
    exact kept_inOrder (fun s e he hs =>
      kept_rename hP hs fun uri huri => hnames uri (List.mem_filterMap.2 ⟨e, he, huri⟩)) h

/-- So do requests, which bring in no text at all. -/
lemma kept_respond (hP : Workspace.Kept language A P) {s : Server} (h : P s.workspace)
    (request : Request) : P (s.respond language request).1.workspace := by
  cases request with
  | connect greeting => exact hP.redirect _ h
  | completion uri pos =>
    show P (s.complete language uri pos).1.workspace
    unfold complete
    split
    · exact h
    · exact h
    · next support file hsupport hfile =>
      have hcomplete := hP.complete pos.toPoint s.settings.completion hfile hsupport h
      generalize s.workspace.complete support file pos.toPoint s.settings.completion = outcome
        at hcomplete ⊢
      rcases outcome with ⟨w, fault | items⟩ <;> exact hcomplete
  | shutdown => exact h
  | hover uri pos => exact h
  | definition uri pos => exact h
  | references uri pos declaration => exact h
  | outline uri => exact h
  | symbols query => exact h

/-- Messages keep what elementary changes keep. -/
lemma kept_handle (hP : Workspace.Kept language A P) {s : Server} (h : P s.workspace)
    {message : Message} (hnames : ∀ uri ∈ message.names, A uri) :
    P (s.handle language disk message).1.workspace := by
  cases message with
  | notification notification => exact kept_notify hP h hnames
  | request request => exact kept_respond hP h request

/-- So does background work, which names the files after their paths. -/
lemma kept_settle (hP : Workspace.Kept language A P)
    (hpaths : ∀ path uri, Uri.ofPath? path = some uri → A uri) {s : Server}
    (h : P s.workspace) : P (s.settle language disk).1.workspace :=
  settle_induction (P := P) (fun _ keep h => hP.retain h keep)
    (fun _ path uri text huri h => hP.indexFile h (hpaths path uri huri) text) h

/-- Messages change the workspace by elementary changes only. -/
lemma reachable_handle {s : Server} (h : s.workspace.Reachable language) (message : Message) :
    (s.handle language disk message).1.workspace.Reachable language :=
  kept_handle (Workspace.Reachable.kept language) h fun _ _ => trivial

/-- So does background work. -/
lemma reachable_settle {s : Server} (h : s.workspace.Reachable language) :
    (s.settle language disk).1.workspace.Reachable language :=
  kept_settle (Workspace.Reachable.kept language) (fun _ _ _ => trivial) h

end Server

/-! ## Sessions -/

/-- A server, whether its client has greeted it, and all that it sent so far. -/
structure Session where
  server : Server
  connected : Bool
  sent : List Outgoing

namespace Session

/-- What happens in a session: a message arrives, or the background work that waits is run. -/
inductive Event where
  | received (disk : Disk) (message : Message)
  | settled (disk : Disk)

/-- The session before the greeting. -/
def start : Session := ⟨.empty, false, []⟩

/-- Whether a message is let through to the server: the greeting once, everything else after it. -/
def admits (t : Session) : Message → Bool
  | .request (.connect _) => !t.connected
  | _ => t.connected

/-- The session after an event. -/
def step (language : Language) (t : Session) : Event → Session
  | .received disk message =>
    if t.admits message then
      let (server, out) := t.server.handle language disk message
      ⟨server, true, t.sent ++ out⟩
    else t
  | .settled disk =>
    let (server, out) := t.server.settle language disk
    { t with server := server, sent := t.sent ++ out }

/-- The session through some events, from its start on. -/
def run (language : Language) (events : List Event) : Session := events.foldl (step language) start

/-- What holds at the start and is kept by every event holds throughout every session. -/
lemma run_induction {language : Language} {P : Session → Prop} (hstart : P start)
    (hstep : ∀ t event, P t → P (t.step language event)) (events : List Event) :
    P (run language events) := by
  unfold run
  generalize start = t at hstart
  induction events generalizing t with
  | nil => exact hstart
  | cons event events ih => exact ih _ (hstep t event hstart)

/-- The files for which an event brings in a text because a message names them. -/
def Event.names : Event → List Uri
  | .received _ message => message.names
  | .settled _ => []

variable {language : Language} {A : Uri → Prop} {P : Workspace → Prop}

/-- Events keep what elementary changes keep. -/
lemma kept_step (hP : Workspace.Kept language A P)
    (hpaths : ∀ path uri, Uri.ofPath? path = some uri → A uri) {t : Session}
    (h : P t.server.workspace) {event : Event} (hnames : ∀ uri ∈ event.names, A uri) :
    P (t.step language event).server.workspace := by
  cases event with
  | received disk message =>
    unfold step
    dsimp only
    split
    · exact Server.kept_handle hP h hnames
    · exact h
  | settled disk => exact Server.kept_settle hP hpaths h

/-- So do whole sessions. -/
lemma kept_run (hP : Workspace.Kept language A P)
    (hpaths : ∀ path uri, Uri.ofPath? path = some uri → A uri) (hstart : P .empty)
    {events : List Event} (hnames : ∀ event ∈ events, ∀ uri ∈ event.names, A uri) :
    P (run language events).server.workspace := by
  have hrun : ∀ t : Session, P t.server.workspace →
      P (events.foldl (step language) t).server.workspace := by
    induction events with
    | nil => exact fun t h => h
    | cons event events ih =>
      intro t h
      exact ih (fun later hlater => hnames later (List.mem_cons_of_mem _ hlater)) _
        (kept_step hP hpaths h (hnames event List.mem_cons_self))
  exact hrun start hstart

/-- The workspace of a session can be reached. -/
theorem reachable_run (language : Language) (events : List Event) :
    (run language events).server.workspace.Reachable language :=
  kept_run (Workspace.Reachable.kept language) (fun _ _ _ => trivial) .empty
    fun _ _ _ _ => trivial

end Session

end CodeIndex
