import Mathlib.Tactic.Lemma
import CodeIndex.Proofs.Server.Session
import CodeIndex.Proofs.Workspace.TokenCaches

set_option relaxedAutoImplicit false
set_option autoImplicit false

/-!
# Sessions and token caches

What a client sees of a session is what it is sent and how its requests are answered. Two sessions
that differ in nothing but the tokens that are cached show the same to their clients, whatever
happens from then on: every message and all background work does to a server without cached tokens
what it does to the same server with them.

## Main definitions

* `Server.uncached` — a server without cached tokens.
* `Session.seen`, `Session.transcript` — what the client sees of an event, and of several.
* `Session.SameButCaches` — two sessions differ in their caches only.

## Main results

* `Server.notify_uncached`, `Server.respond_uncached`, `Server.settle_uncached` — neither messages
  nor background work see caches.
* `Session.SameButCaches.transcript_eq` — such sessions show the same, for ever.
-/

namespace CodeIndex

namespace Server

variable {language : Language} {disk : Disk}

/-- The server in whose workspace no tokens are cached. -/
def uncached (s : Server) : Server := { s with workspace := s.workspace.uncached }

variable (s : Server)

@[simp] lemma workspace_uncached : s.uncached.workspace = s.workspace.uncached := rfl

@[simp] lemma client_uncached : s.uncached.client = s.client := rfl

@[simp] lemma settings_uncached : s.uncached.settings = s.settings := rfl

@[simp] lemma uncached_uncached : s.uncached.uncached = s.uncached := by
  simp only [uncached, Workspace.uncached_uncached]

/-! ## Notifications -/

lemma published_uncached (language : Language) (method : String)
    (outcome : Workspace × Except Fault (Option SyncReport)) :
    s.uncached.published language method (outcome.map Workspace.uncached id) =
      (s.published language method outcome).map uncached id := by
  rcases outcome with ⟨w, fault | _ | report⟩ <;> rfl

lemma ready_uncached : s.uncached.ready language = (s.ready language).uncached := by
  unfold ready
  rw [client_uncached]
  cases hnone : (s.client.registrations language).isEmpty <;>
    cases henabled : s.settings.indexing.enabled <;>
      simp [hnone, henabled, startLoad, uncached, Workspace.reset_uncached]

lemma configure_uncached (payload : Json) :
    s.uncached.configure language payload =
      (s.configure language payload).map uncached id := by
  have hstates : ∀ s' : Server, s.uncached.workspace.files.states.map
      (s'.uncached.publishState language) =
        s.workspace.files.states.map (s'.publishState language) := by
    intro s'
    rw [workspace_uncached, Workspace.files_uncached, FileStore.states_uncached, List.map_map]
    rfl
  unfold configure
  rw [settings_uncached]
  dsimp only
  split
  · rfl
  · refine Prod.ext ?_ ?_
    · show (if _ then _ else _) = uncached (if _ then _ else _)
      rw [apply_ite uncached]
      rfl
    · exact if_congr Iff.rfl (hstates (s.applySettings _)) rfl

lemma openFile_uncached (uri : Uri) (text : String) (version : Int) :
    s.uncached.openFile language uri text version =
      (s.openFile language uri text version).map uncached id := by
  have hpublished : s.uncached.published language "textDocument/didOpen"
      (always ((s.workspace.openFile language uri text version).map Workspace.uncached id)) = _ :=
    s.published_uncached language _ (always (s.workspace.openFile language uri text version))
  unfold openFile
  rw [workspace_uncached, Workspace.openFile_uncached, hpublished]
  rfl

lemma change_uncached (uri : Uri) (changes : List TextChange) (version : Int) :
    s.uncached.change language uri changes version =
      (s.change language uri changes version).map uncached id := by
  unfold change
  cases changes.find? fun c => !c.partly with
  | none => rfl
  | some c =>
    dsimp only
    rw [workspace_uncached, Workspace.change, Workspace.synchronize_uncached]
    exact s.published_uncached language _ (always (s.workspace.synchronize language uri c.text _))

lemma save_uncached (uri : Uri) (text : Option String) :
    s.uncached.save language disk uri text =
      (s.save language disk uri text).map uncached id := by
  unfold save
  rw [workspace_uncached, Workspace.save_uncached]
  generalize s.workspace.save language disk uri text = outcome
  exact s.published_uncached language _
    (ifRead (outcome.1, outcome.2.map fun read => read.map some))

lemma close_uncached (uri : Uri) :
    s.uncached.close language disk uri = (s.close language disk uri).map uncached id := by
  unfold close
  rw [workspace_uncached, Workspace.close_uncached]
  rcases s.workspace.close language disk uri with ⟨w, fault | _ | report⟩ <;> rfl

lemma watch_uncached (uri : Uri) (event : FileEvent) :
    s.uncached.watch language disk uri event =
      (s.watch language disk uri event).map uncached id := by
  cases event with
  | deleted =>
    unfold watch
    rw [workspace_uncached, Workspace.delete_uncached]
    rfl
  | touched =>
    unfold watch
    rw [workspace_uncached, Workspace.refresh_uncached]
    exact s.published_uncached language _ (ifRead (s.workspace.refresh language disk uri))

lemma rename_uncached (old new : String) :
    s.uncached.rename language disk old new =
      (s.rename language disk old new).map uncached id := by
  unfold rename
  cases Uri.parse? old with
  | none => rfl
  | some old =>
    cases Uri.parse? new with
    | none => rfl
    | some new =>
      have hpublished := s.published_uncached language "workspace/didRenameFiles"
        (s.workspace.rename language disk old new)
      dsimp only
      rw [workspace_uncached, Workspace.rename_uncached, hpublished]
      rfl

lemma inOrder_uncached {α : Type} {step : Server → α → Server × List Outgoing}
    (hstep : ∀ s a, step s.uncached a = (step s a).map uncached id) (events : List α) :
    s.uncached.inOrder step events = (s.inOrder step events).map uncached id := by
  induction events generalizing s with
  | nil => rfl
  | cons event events ih =>
    unfold inOrder
    rw [hstep]
    rcases step s event with ⟨s', first⟩
    dsimp only [Prod.map_apply, id_eq]
    rw [ih]
    rfl

/-- Notifications do not see caches. -/
lemma notify_uncached (notification : Notification) :
    s.uncached.notify language disk notification =
      (s.notify language disk notification).map uncached id := by
  cases notification with
  | ready =>
    show (s.uncached.ready language, _) = _
    rw [ready_uncached]
    rfl
  | configured payload => exact s.configure_uncached payload
  | opened uri text version => exact s.openFile_uncached uri text version
  | changed uri changes version => exact s.change_uncached uri changes version
  | saved uri text => exact s.save_uncached uri text
  | closed uri => exact s.close_uncached uri
  | foldersChanged added removed => rfl
  | watched events => exact s.inOrder_uncached (fun s e => s.watch_uncached e.1 e.2) events
  | renamed pairs => exact s.inOrder_uncached (fun s e => s.rename_uncached e.1 e.2) pairs

/-! ## Background work -/

lemma indexPaths_uncached (stops : Nat → Bool) (session : ProgressSession) (total done : Nat)
    (summary : LoadSummary) (paths : List Path) :
    indexPaths language disk stops session total done summary s.uncached paths =
      (indexPaths language disk stops session total done summary s paths).map uncached id := by
  induction paths generalizing done summary s with
  | nil => rfl
  | cons path paths ih =>
    unfold indexPaths
    split
    · rfl
    · rw [settings_uncached]
      split
      · next uri text _ _ =>
        rw [workspace_uncached, Workspace.indexFile_uncached]
        rcases s.workspace.indexFile language uri text with ⟨w, fault | _ | report⟩
        · rfl
        · exact congrArg (fun r => (r.1, _ ++ r.2.1, r.2.2)) (ih { s with workspace := w } _ _)
        · exact congrArg (fun r => (r.1, _ ++ r.2.1, r.2.2)) (ih { s with workspace := w } _ _)
      · exact ih _ _ _

lemma openSession_uncached (reportsProgress : Bool) (total : Nat) :
    s.uncached.openSession reportsProgress total =
      (s.openSession reportsProgress total).map uncached id := by
  unfold openSession
  split <;> rfl

lemma indexWorkspace_uncached (stops : Nat → Bool) (reportsProgress : Bool) :
    s.uncached.indexWorkspace language disk stops reportsProgress =
      (s.indexWorkspace language disk stops reportsProgress).map uncached id := by
  have hretain : ∀ keep, { s.uncached with workspace := (s.uncached.workspace.retain keep).1 } =
      uncached { s with workspace := (s.workspace.retain keep).1 } := by
    intro keep
    rw [workspace_uncached, Workspace.retain_uncached]
    rfl
  dsimp only at hretain
  unfold indexWorkspace
  cases henabled : s.settings.indexing.enabled with
  | false =>
    rw [show s.uncached.settings.indexing.enabled = false from henabled]
    exact congrArg (·, []) (hretain [])
  | true =>
    rw [show s.uncached.settings.indexing.enabled = true from henabled,
      show s.uncached.workspace.discover language disk s.uncached.settings.indexing.discovery =
        s.workspace.discover language disk s.settings.indexing.discovery from rfl]
    rw [Bool.not_true, if_neg Bool.false_ne_true, if_neg Bool.false_ne_true]
    dsimp only
    rw [hretain]
    split
    · rfl
    · rw [openSession_uncached]
      dsimp only [Prod.map_fst, Prod.map_snd, id_eq]
      rw [indexPaths_uncached]
      rfl

lemma runTasks_uncached (tasks : List Task) :
    s.uncached.runTasks language disk tasks =
      (s.runTasks language disk tasks).map uncached id := by
  induction tasks generalizing s with
  | nil => rfl
  | cons task tasks ih =>
    have htask : s.uncached.runTask language disk task =
        (s.runTask language disk task).map uncached id := by
      cases task with
      | register registrations => rfl
      | load number reportsProgress => exact s.indexWorkspace_uncached _ reportsProgress
    unfold runTasks
    rw [htask]
    rcases s.runTask language disk task with ⟨s', first⟩
    dsimp only [Prod.map_apply, id_eq]
    rw [ih]
    rfl

/-- Background work does not see caches. -/
lemma settle_uncached :
    s.uncached.settle language disk = (s.settle language disk).map uncached id :=
  runTasks_uncached { s with waiting := [] } s.waiting

/-! ## Requests -/

variable {s}

/-- Asking for proposals changes caches only. -/
lemma uncached_complete (h : s.workspace.Faithful language) (uri : Uri) (pos : Editor.Position) :
    (s.complete language uri pos).1.uncached = s.uncached := by
  unfold complete
  split
  · rfl
  · rfl
  · next support file hsupport hfile =>
    have hworkspace := Workspace.uncached_complete h hfile hsupport pos.toPoint
      s.settings.completion
    generalize s.workspace.complete support file pos.toPoint s.settings.completion = outcome
      at hworkspace ⊢
    rcases outcome with ⟨w, fault | items⟩ <;>
      exact congrArg (fun w => { s with workspace := w }) hworkspace

/-- Proposals do not depend on caches. -/
lemma complete_uncached (h : s.workspace.Faithful language) (uri : Uri) (pos : Editor.Position) :
    (s.uncached.complete language uri pos).2 = (s.complete language uri pos).2 := by
  unfold complete
  rw [workspace_uncached, Workspace.files_uncached, FileStore.get?_uncached]
  cases hsupport : language.completion with
  | none => rfl
  | some support =>
    cases hfile : s.workspace.files.get? uri with
    | none => rfl
    | some file =>
      have hsame := Workspace.complete_uncached h hfile hsupport pos.toPoint s.settings.completion
      dsimp only [Option.map_some]
      rw [settings_uncached]
      generalize s.workspace.uncached.complete support file.uncached pos.toPoint
        s.settings.completion = outcome at hsame ⊢
      generalize s.workspace.complete support file pos.toPoint s.settings.completion = outcome'
        at hsame ⊢
      obtain ⟨w, result⟩ := outcome
      obtain ⟨w', result'⟩ := outcome'
      obtain rfl : result = result' := hsame
      cases result <;> rfl

/-- Requests do not see caches. -/
lemma respond_uncached (h : s.workspace.Faithful language) (request : Request) :
    (s.uncached.respond language request).1.uncached =
        (s.respond language request).1.uncached ∧
      (s.uncached.respond language request).2 = (s.respond language request).2 := by
  cases request with
  | completion uri pos =>
    have hanswer := complete_uncached h uri pos
    refine ⟨?_, ?_⟩
    · show (s.uncached.complete language uri pos).1.uncached =
        (s.complete language uri pos).1.uncached
      rw [uncached_complete h, uncached_complete h.uncached, uncached_uncached]
    · show ((s.uncached.complete language uri pos).2.1,
        Answer.completion (s.uncached.complete language uri pos).2.2) = _
      rw [hanswer]
      rfl
  | outline uri =>
    have houtline : s.uncached.outline uri = s.outline uri := by
      unfold outline
      rw [workspace_uncached, Workspace.files_uncached, FileStore.get?_uncached]
      cases s.workspace.files.get? uri <;> rfl
    refine ⟨s.uncached_uncached, ?_⟩
    show ((s.uncached.outline uri).1, Answer.outline (s.uncached.outline uri).2) = _
    rw [houtline]
    rfl
  | connect greeting => exact ⟨uncached_uncached (s.respond language (.connect greeting)).1, rfl⟩
  | shutdown => exact ⟨uncached_uncached { s with loadStopped := true }, rfl⟩
  | hover uri pos => exact ⟨uncached_uncached _, rfl⟩
  | definition uri pos => exact ⟨uncached_uncached _, rfl⟩
  | references uri pos declaration => exact ⟨uncached_uncached _, rfl⟩
  | symbols query => exact ⟨uncached_uncached _, rfl⟩

/-- The answer to a message, if it is a request. -/
def answer? (language : Language) (s : Server) : Message → Option Answer
  | .notification _ => none
  | .request request => some (s.respond language request).2.2

/-- Messages do not see caches. -/
lemma handle_uncached (h : s.workspace.Faithful language) (disk : Disk) (message : Message) :
    (s.uncached.handle language disk message).1.uncached =
        (s.handle language disk message).1.uncached ∧
      (s.uncached.handle language disk message).2 = (s.handle language disk message).2 ∧
      s.uncached.answer? language message = s.answer? language message := by
  cases message with
  | notification notification =>
    show (s.uncached.notify language disk notification).1.uncached = _ ∧
      (s.uncached.notify language disk notification).2 = _ ∧ _
    rw [notify_uncached]
    exact ⟨uncached_uncached _, rfl, rfl⟩
  | request request =>
    obtain ⟨hserver, hanswer⟩ := respond_uncached h request
    exact ⟨hserver, congrArg Prod.fst hanswer, congrArg (fun o => some (Prod.snd o)) hanswer⟩

end Server

/-! ## Sessions -/

namespace Session

variable {language : Language}

/-- What the client sees of an event: what it is sent, and the answer to its request. -/
def seen (language : Language) (t : Session) : Event → List Outgoing × Option Answer
  | .received disk message =>
    if t.admits message then
      ((t.server.handle language disk message).2, t.server.answer? language message)
    else ([], none)
  | .settled disk => ((t.server.settle language disk).2, none)

/-- What the client sees of some events, one after the other. -/
def transcript (language : Language) : Session → List Event → List (List Outgoing × Option Answer)
  | _, [] => []
  | t, event :: events =>
    t.seen language event :: transcript language (t.step language event) events

/-- Two sessions differ in nothing but the tokens that are cached, and these are faithful. -/
structure SameButCaches (language : Language) (t t' : Session) : Prop where
  server : t.server.uncached = t'.server.uncached
  connected : t.connected = t'.connected
  faithful : t.server.workspace.Faithful language
  faithful' : t'.server.workspace.Faithful language

/-- The caches of a session are faithful. -/
lemma faithful_run (language : Language) (events : List Event) :
    (run language events).server.workspace.Faithful language :=
  kept_run (Workspace.kept_faithful language) (fun _ _ _ => trivial) ⟨nofun, nofun⟩
    fun _ _ _ _ => trivial

namespace SameButCaches

variable {t t' : Session}

lemma admits_eq (h : SameButCaches language t t') (message : Message) :
    t.admits message = t'.admits message := by
  unfold admits
  rw [h.connected]

/-- Such sessions show the same of an event. -/
lemma seen_eq (h : SameButCaches language t t') (event : Event) :
    t.seen language event = t'.seen language event := by
  cases event with
  | received disk message =>
    obtain ⟨-, hsent, hanswer⟩ := Server.handle_uncached h.faithful disk message
    obtain ⟨-, hsent', hanswer'⟩ := Server.handle_uncached h.faithful' disk message
    unfold seen
    dsimp only
    rw [h.admits_eq, ← hsent, ← hanswer, h.server, hsent', hanswer']
  | settled disk =>
    have hsettle : ∀ s : Server, (s.settle language disk).2 =
        (s.uncached.settle language disk).2 := fun s => by rw [Server.settle_uncached]; rfl
    show ((t.server.settle language disk).2, none) = ((t'.server.settle language disk).2, none)
    rw [hsettle t.server, h.server, ← hsettle t'.server]

/-- An event leads from such sessions to such sessions. -/
lemma step (h : SameButCaches language t t') (event : Event) :
    SameButCaches language (t.step language event) (t'.step language event) where
  server := by
    cases event with
    | received disk message =>
      obtain ⟨hserver, -⟩ := Server.handle_uncached h.faithful disk message
      obtain ⟨hserver', -⟩ := Server.handle_uncached h.faithful' disk message
      unfold Session.step
      dsimp only
      rw [h.admits_eq]
      split
      · exact hserver.symm.trans (by rw [h.server, hserver'])
      · exact h.server
    | settled disk =>
      have hsettle : ∀ s : Server, (s.settle language disk).1.uncached =
          (s.uncached.settle language disk).1 := fun s => by rw [Server.settle_uncached]; rfl
      show (t.server.settle language disk).1.uncached = (t'.server.settle language disk).1.uncached
      rw [hsettle t.server, h.server, ← hsettle t'.server]
  connected := by
    cases event with
    | received disk message =>
      unfold Session.step
      dsimp only
      rw [h.admits_eq]
      split
      · rfl
      · exact h.connected
    | settled disk => exact h.connected
  faithful := kept_step (Workspace.kept_faithful language) (fun _ _ _ => trivial) h.faithful
    fun _ _ => trivial
  faithful' := kept_step (Workspace.kept_faithful language) (fun _ _ _ => trivial) h.faithful'
    fun _ _ => trivial

/-- Such sessions show the same, whatever happens from then on. -/
lemma transcript_eq (h : SameButCaches language t t') (events : List Event) :
    t.transcript language events = t'.transcript language events := by
  induction events generalizing t t' with
  | nil => rfl
  | cons event events ih => rw [transcript, transcript, h.seen_eq, ih (h.step event)]

/-- And they differ in caches only, whatever happens from then on. -/
lemma foldl_step (h : SameButCaches language t t') (events : List Event) :
    SameButCaches language (events.foldl (Session.step language) t)
      (events.foldl (Session.step language) t') := by
  induction events generalizing t t' with
  | nil => exact h
  | cons event events ih => exact ih (h.step event)

end SameButCaches

end Session

end CodeIndex
