import Mathlib.Data.List.Basic
import CodeIndex.Proofs.Server.Publishing
import CodeIndex.Proofs.Server.Reindexing

set_option relaxedAutoImplicit false
set_option autoImplicit false

/-!
# Withdrawn diagnostics

When a file leaves the workspace, its diagnostics should leave the screen of the client. Files leave
when they are reported as deleted, when they are renamed, and when a load no longer finds them. The
first two are each followed by an empty publication for the old name. A load is not: it drops files
without a word, and so does starting over before the first load. What the client was told last about
such a file stays as it was.

## Main definitions

* `Server.Withdraws` — every file without a state has had its diagnostics withdrawn, or was not
  tracked before either.
* `Server.spared` — the files that a load leaves tracked.
* `Server.PublishesSpared` — background work publishes only for files that keep their state.
* `Session.Event.Moves`, `Session.Event.Loads` — the two ways in which files leave.

## Main results

* `Server.withdraws_watch`, `Server.withdraws_rename` — deletions and renamings withdraw.
* `Server.publishesSpared_settle` — background work publishes nothing for the files that it drops.
* `Session.lastPublished_of_gone` — what the client was told last about a file that has left.
-/

namespace CodeIndex

namespace Workspace

variable {language : Language} {disk : Disk} {w w' : Workspace}

/-! ## Outcomes that leave states behind -/

/-- No file loses its state. -/
def Retains (w w' : Workspace) : Prop :=
  ∀ v, w'.files.get? v = none → w.files.get? v = none

/-- An outcome takes no state away, and the file of its report has one. -/
structure Supplies (w : Workspace) (outcome : Workspace × Except Fault (Option SyncReport)) :
    Prop where
  retains : w.Retains outcome.1
  reported : ∀ report, outcome.2 = .ok (some report) →
    outcome.1.files.get? report.state.uri ≠ none

lemma Retains.refl (w : Workspace) : w.Retains w := fun _ hnone => hnone

lemma Supplies.of_none {result : Except Fault (Option SyncReport)} (h : w.Retains w')
    (hresult : ∀ report, result ≠ .ok (some report)) : w.Supplies (w', result) :=
  ⟨h, fun report hreport => absurd hreport (hresult report)⟩

lemma supplies_synchronize (language : Language) (h : w.Retains w') (uri : Uri) (text : String)
    (version : Option Int) :
    w.Supplies (Server.always (w'.synchronize language uri text version)) := by
  unfold Workspace.synchronize
  cases language.parse uri text with
  | error fault => exact .of_none h nofun
  | ok parse =>
    have hget := fun v => get?_commitParse language w' uri v text version parse
    constructor
    · intro v hnone
      have hnone' := (hget v).symm.trans hnone
      split at hnone'
      · cases hnone'
      · exact h v hnone'
    · intro report hreport
      obtain rfl := Option.some.inj (Except.ok.inj hreport)
      intro hnone
      have hnone' := (hget uri).symm.trans hnone
      rw [if_pos rfl] at hnone'
      cases hnone'

lemma supplies_indexFile (language : Language) (w : Workspace) (uri : Uri) (text : String) :
    w.Supplies (w.indexFile language uri text) := by
  rw [indexFile_eq]
  split
  · exact .of_none (.refl w) nofun
  · exact supplies_synchronize language (.refl w) uri text none

lemma supplies_refresh (language : Language) (disk : Disk) (w : Workspace) (uri : Uri) :
    w.Supplies (Server.ifRead (w.refresh language disk uri)) := by
  unfold Workspace.refresh
  split
  · exact .of_none (.refl w) nofun
  · cases readUri disk uri with
    | error e => exact .of_none (.refl w) nofun
    | ok text =>
      have hindex := supplies_indexFile language w uri text
      dsimp only
      generalize w.indexFile language uri text = outcome at hindex ⊢
      rcases outcome with ⟨w', fault | _ | report⟩ <;> exact hindex

/-- Under its new name a renamed file keeps whatever state there was. -/
lemma supplies_rename (language : Language) (disk : Disk) (w : Workspace) (old new : Uri) :
    (w.delete old).1.Supplies (w.rename language disk old new) := by
  have hcarried : (w.delete old).1.Retains (w.carriedOver old new) :=
    carriedOver_induction (.refl _) fun v hnone =>
      (FileStore.get?_markOpen (w.delete old).1.files new v).symm.trans hnone
  rw [rename_eq]
  split
  · split
    · exact .of_none (.refl _) nofun
    · next text _ => exact supplies_synchronize language hcarried new text none
  · exact .of_none (.refl _) nofun

end Workspace

namespace Server

variable {language : Language} {disk : Disk} {s s' s'' : Server} {out out' : List Outgoing}

/-! ## Deletions and renamings -/

/-- Every file without a state has had its diagnostics withdrawn, or it had no state before either
and nothing was published for it. -/
def Withdraws (s s' : Server) (out : List Outgoing) : Prop :=
  ∀ uri, s'.workspace.files.get? uri = none →
    lastPublished uri out = some ([], none) ∨
      lastPublished uri out = none ∧ s.workspace.files.get? uri = none

namespace Withdraws

lemma refl (s : Server) : Withdraws s s [] := fun _ hnone => .inr ⟨rfl, hnone⟩

lemma trans (h : Withdraws s s' out) (h' : Withdraws s' s'' out') :
    Withdraws s s'' (out ++ out') := by
  intro uri hnone
  rw [lastPublished_append]
  rcases h' uri hnone with hlast | ⟨hquiet, hnone'⟩
  · exact .inl (by rw [hlast, Option.some_or])
  · rw [hquiet, Option.none_or]
    exact h uri hnone'

/-- The file of a report has a state, so nothing has to be withdrawn. -/
lemma published (language : Language) {outcome : Workspace × Except Fault (Option SyncReport)}
    (h : s.workspace.Supplies outcome) (method : String) :
    Withdraws s (s.published language method outcome).1
      (s.published language method outcome).2 := by
  intro uri hnone
  rw [workspace_published] at hnone
  refine .inr ⟨?_, h.retains uri hnone⟩
  rcases outcome with ⟨w, fault | _ | report⟩
  · rfl
  · rfl
  · refine (lastPublished_singleton uri _).trans (if_neg ?_)
    rintro rfl
    exact h.reported report rfl hnone

end Withdraws

lemma withdraws_delete (s : Server) (uri : Uri) :
    Withdraws s { s with workspace := (s.workspace.delete uri).1 } [clear uri] := by
  intro v hnone
  rw [lastPublished_singleton]
  by_cases hv : uri = v
  · exact .inl (if_pos hv)
  · refine .inr ⟨if_neg hv, ?_⟩
    have hget := Workspace.get?_forget s.workspace uri v
    rw [if_neg (Ne.symm hv)] at hget
    exact hget.symm.trans hnone

lemma withdraws_watch (s : Server) (uri : Uri) (event : FileEvent) :
    Withdraws s (s.watch language disk uri event).1 (s.watch language disk uri event).2 := by
  cases event with
  | deleted => exact withdraws_delete s uri
  | touched => exact .published language (Workspace.supplies_refresh language disk _ uri) _

lemma withdraws_rename (s : Server) (old new : String) :
    Withdraws s (s.rename language disk old new).1 (s.rename language disk old new).2 := by
  unfold rename
  split
  · next old new _ _ =>
    have hrename := Workspace.supplies_rename language disk s.workspace old new
    generalize s.workspace.rename language disk old new = outcome at hrename ⊢
    -- the outcome is published by a server that has lost the old file
    have hpublished := Withdraws.published language
      (s := { s with workspace := (s.workspace.delete old).1 }) hrename "workspace/didRenameFiles"
    have hboth := (withdraws_delete s old).trans hpublished
    rcases outcome with ⟨w, fault | _ | report⟩ <;> exact hboth
  · exact .refl s

lemma withdraws_inOrder {α : Type} {handle : Server → α → Server × List Outgoing}
    (hhandle : ∀ (s : Server) a, Withdraws s (handle s a).1 (handle s a).2) (s : Server)
    (events : List α) :
    Withdraws s (s.inOrder handle events).1 (s.inOrder handle events).2 := by
  induction events generalizing s with
  | nil => exact .refl s
  | cons event events ih => exact (hhandle s event).trans (ih _)

/-! ## Background work -/

/-- The files that a load leaves tracked, apart from the open ones: those that it finds. -/
def spared (language : Language) (disk : Disk) (s : Server) : List Uri :=
  if s.settings.indexing.enabled then s.found language disk else []

/-- Some files keep their states, and only for them something is published. -/
structure PublishesSpared (kept : List Uri) (s s' : Server) (out : List Outgoing) : Prop where
  tracked : ∀ uri ∈ kept, s'.workspace.files.get? uri = none → s.workspace.files.get? uri = none
  published : ∀ uri, lastPublished uri out ≠ none →
    uri ∈ kept ∧ s'.workspace.files.get? uri ≠ none

namespace PublishesSpared

variable {kept : List Uri}

/-- Where nothing is published, the states of the files in question have to stay. -/
lemma of_quiet (hquiet : ∀ uri, lastPublished uri out = none)
    (htracked : ∀ uri ∈ kept, s'.workspace.files.get? uri = none →
      s.workspace.files.get? uri = none) : PublishesSpared kept s s' out :=
  ⟨htracked, fun uri hne => absurd (hquiet uri) hne⟩

lemma trans (h : PublishesSpared kept s s' out) (h' : PublishesSpared kept s' s'' out') :
    PublishesSpared kept s s'' (out ++ out') where
  tracked := fun uri huri hnone => h.tracked uri huri (h'.tracked uri huri hnone)
  published := by
    intro uri hne
    rw [lastPublished_append] at hne
    by_cases hlater : lastPublished uri out' = none
    · rw [hlater, Option.none_or] at hne
      -- what was published first keeps its state in what comes later
      obtain ⟨huri, hstate⟩ := h.published uri hne
      exact ⟨huri, fun hnone => hstate (h'.tracked uri huri hnone)⟩
    · exact h'.published uri hlater

end PublishesSpared

/-- Every file that is published has just been given a state. -/
lemma publishesSpared_indexPaths {kept : List Uri} (stops : Nat → Bool) (session : ProgressSession)
    (total done : Nat) (summary : LoadSummary) (s : Server) {paths : List Path}
    (hpaths : ∀ path ∈ paths, ∀ uri, Uri.ofPath? path = some uri → uri ∈ kept) :
    PublishesSpared kept s (indexPaths language disk stops session total done summary s paths).1
      (indexPaths language disk stops session total done summary s paths).2.1 := by
  induction paths generalizing done summary s with
  | nil => exact .of_quiet (fun _ => rfl) fun _ _ hnone => hnone
  | cons path paths ih =>
    have hrest : ∀ path ∈ paths, ∀ uri, Uri.ofPath? path = some uri → uri ∈ kept :=
      fun path hpath => hpaths path (List.mem_cons_of_mem _ hpath)
    unfold indexPaths
    split
    · exact .of_quiet (fun _ => rfl) fun _ _ hnone => hnone
    · split
      · next uri text huri _ =>
        have hindex := Workspace.supplies_indexFile language s.workspace uri text
        have hpublish : ∀ w' report, s.workspace.indexFile language uri text =
            (w', .ok (some report)) → report.state.uri = uri := by
          intro w' report hreport
          have hsent := indexed_publishes hreport s
          injection hsent with hsame
          exact hsame.symm
        have hprogress : ∀ s' : Server, PublishesSpared kept s' s'
            (progressReport session (done + 1) total) :=
          fun s' => .of_quiet (fun v => lastPublished_progressReport v session (done + 1) total)
            fun _ _ hnone => hnone
        generalize s.workspace.indexFile language uri text = outcome at hindex hpublish ⊢
        rcases outcome with ⟨w, fault | _ | report⟩
        · exact .of_quiet (fun _ => rfl) fun v _ => hindex.retains v
        · have hkept : PublishesSpared kept s { s with workspace := w } [] :=
            .of_quiet (fun _ => rfl) fun v _ => hindex.retains v
          exact (hkept.trans (hprogress _)).trans (ih _ _ _ hrest)
        · have hpublished : PublishesSpared kept s { s with workspace := w }
              [.publish uri (s.diagnosticsOf language report.state) none] := by
            refine ⟨fun v _ => hindex.retains v, fun v hne => ?_⟩
            obtain rfl : uri = v := by
              by_contra hv
              exact hne ((lastPublished_singleton v _).trans (if_neg hv))
            refine ⟨hpaths path List.mem_cons_self uri huri, ?_⟩
            have hstate := hindex.reported report rfl
            rwa [hpublish w report rfl] at hstate
          exact (hpublished.trans (hprogress _)).trans (ih _ _ _ hrest)
      · exact ih _ _ s hrest

/-- A load drops files without publishing anything, and then publishes files that it found. -/
lemma publishesSpared_indexWorkspace (language : Language) (disk : Disk) (s : Server)
    (stops : Nat → Bool) (reportsProgress : Bool) :
    PublishesSpared (s.spared language disk) s
      (s.indexWorkspace language disk stops reportsProgress).1
      (s.indexWorkspace language disk stops reportsProgress).2 := by
  have hretain : ∀ keep, PublishesSpared keep s { s with workspace := (s.workspace.retain keep).1 }
      [] := by
    refine fun keep => .of_quiet (fun _ => rfl) fun uri huri hnone => ?_
    have hget : (s.workspace.dropAll (s.workspace.unretained keep)).files.get? uri = none := hnone
    rw [Workspace.get?_dropAll, if_neg] at hget
    · exact hget
    · exact fun hdropped => (Workspace.mem_unretained.1 hdropped).2.1 huri
  unfold indexWorkspace
  cases henabled : s.settings.indexing.enabled with
  | false =>
    rw [spared, henabled]
    exact hretain []
  | true =>
    rw [spared, if_pos henabled, found, Bool.not_true, if_neg Bool.false_ne_true]
    generalize s.workspace.discover language disk s.settings.indexing.discovery = paths
    dsimp only
    split
    · exact hretain _
    · set kept := paths.filterMap Uri.ofPath?
      have hopen : ∀ s' : Server, PublishesSpared kept s' (s'.openSession reportsProgress
          paths.length).1 (s'.openSession reportsProgress paths.length).2.2 := by
        intro s'
        refine .of_quiet (fun v => lastPublished_openSession v s' reportsProgress _) ?_
        intro uri _ hnone
        rwa [workspace_openSession] at hnone
      have hclose : ∀ (s' : Server) session result,
          PublishesSpared kept s' s' (closeSession session result) :=
        fun s' session result => .of_quiet
          (fun v => lastPublished_closeSession v session result) fun _ _ hnone => hnone
      have hpaths : ∀ path ∈ paths, ∀ uri, Uri.ofPath? path = some uri → uri ∈ kept :=
        fun path hpath uri huri => List.mem_filterMap.2 ⟨path, hpath, huri⟩
      have hopened := (hretain kept).trans (hopen _)
      exact (hopened.trans (publishesSpared_indexPaths stops _ _ 0 _ _ hpaths)).trans (hclose _ _ _)

lemma folders_indexFile (w : Workspace) (uri : Uri) (text : String) :
    (w.indexFile language uri text).1.folders = w.folders := by
  rw [Workspace.indexFile_fst]
  split
  · rfl
  · exact Workspace.folders_synchronize language w uri text none

/-- What a load finds depends on folders and settings, which a load does not change. -/
lemma spared_indexWorkspace (s : Server) (stops : Nat → Bool) (reportsProgress : Bool) :
    (s.indexWorkspace language disk stops reportsProgress).1.spared language disk =
      s.spared language disk := by
  have hreports : Reports language s
      (s.indexWorkspace language disk stops reportsProgress).1 _ :=
    reports_indexWorkspace s stops reportsProgress
  have hfolders : (s.indexWorkspace language disk stops reportsProgress).1.workspace.folders =
      s.workspace.folders := by
    refine indexWorkspace_induction (P := fun w => w.folders = s.workspace.folders) ?_ ?_ rfl _ _
    · exact fun w keep h => (Workspace.folders_dropAll w _).trans h
    · exact fun w _ uri text _ h => (folders_indexFile w uri text).trans h
  unfold spared found Workspace.discover Workspace.folderPaths
  rw [hreports.settings, hfolders]

lemma publishesSpared_runTasks (language : Language) (disk : Disk) (s : Server)
    (tasks : List Task) :
    PublishesSpared (s.spared language disk) s (s.runTasks language disk tasks).1
      (s.runTasks language disk tasks).2 := by
  induction tasks generalizing s with
  | nil => exact .of_quiet (fun _ => rfl) fun _ _ hnone => hnone
  | cons task tasks ih =>
    cases task with
    | register registrations =>
      have hregister : PublishesSpared (s.spared language disk) s s [.register registrations] :=
        .of_quiet (fun _ => rfl) fun _ _ hnone => hnone
      exact hregister.trans (ih s)
    | load number reportsProgress =>
      have hload := publishesSpared_indexWorkspace language disk s (fun _ => s.stops number)
        reportsProgress
      have hrest := ih (s.indexWorkspace language disk (fun _ => s.stops number) reportsProgress).1
      rw [spared_indexWorkspace] at hrest
      exact hload.trans hrest

/-- Background work publishes nothing for the files that it drops. -/
lemma publishesSpared_settle (language : Language) (disk : Disk) (s : Server) :
    PublishesSpared (s.spared language disk) s (s.settle language disk).1
      (s.settle language disk).2 := by
  have htasks := publishesSpared_runTasks language disk { s with waiting := [] } s.waiting
  exact ⟨htasks.tracked, htasks.published⟩

lemma lastPublished_settle {uri : Uri}
    (hgone : (s.settle language disk).1.workspace.files.get? uri = none) :
    lastPublished uri (s.settle language disk).2 = none := by
  by_contra hne
  exact ((publishesSpared_settle language disk s).published uri hne).2 hgone

end Server

/-! ## Sessions -/

namespace Session

variable {language : Language}

/-- Files are reported as deleted or changed on disk, or as renamed. -/
def Event.Moves : Event → Prop
  | .received _ (.notification (.watched _)) => True
  | .received _ (.notification (.renamed _)) => True
  | _ => False

/-- Files are loaded in the background, or everything is started over for it. -/
def Event.Loads : Event → Prop
  | .received _ (.notification .ready) => True
  | .settled _ => True
  | _ => False

/-- The client is up to date throughout every session. -/
lemma told_run (htotal : language.Total) (events : List Event) :
    (run language events).Told language := by
  refine run_induction ⟨.empty, .of_untracked rfl fun _ => rfl, fun _ => rfl⟩ ?_ events
  intro t event h
  cases event with
  | received disk message => exact told_received htotal h disk message
  | settled disk => exact told_settled h disk

lemma run_append_singleton (language : Language) (events : List Event) (event : Event) :
    run language (events ++ [event]) = (run language events).step language event := by
  rw [run, List.foldl_append]
  rfl

/-- Deletions and renamings withdraw the diagnostics of every file that has left. -/
lemma lastPublished_of_moves {t : Session} {event : Event} (hmoves : event.Moves) {uri : Uri}
    (htracked : t.server.workspace.files.get? uri ≠ none)
    (hgone : (t.step language event).server.workspace.files.get? uri = none) :
    lastPublished uri (t.step language event).sent = some ([], none) := by
  have hwithdraws : ∃ disk notification, event = .received disk (.notification notification) ∧
      Server.Withdraws t.server (t.server.notify language disk notification).1
        (t.server.notify language disk notification).2 := by
    cases event with
    | settled disk => cases hmoves
    | received disk message =>
      cases message with
      | request request => cases hmoves
      | notification notification =>
        refine ⟨disk, notification, rfl, ?_⟩
        cases notification with
        | watched events =>
          exact Server.withdraws_inOrder (fun s e => Server.withdraws_watch s e.1 e.2) _ events
        | renamed pairs =>
          have hrename : ∀ (s : Server) (pair : String × String), Server.Withdraws s
              (s.rename language disk pair.1 pair.2).1 (s.rename language disk pair.1 pair.2).2 :=
            fun s pair => Server.withdraws_rename s pair.1 pair.2
          exact Server.withdraws_inOrder hrename _ pairs
        | _ => cases hmoves
  obtain ⟨disk, notification, rfl, hwithdraws⟩ := hwithdraws
  unfold step at hgone ⊢
  dsimp only at hgone ⊢
  split at hgone
  · next hadmits =>
    rw [if_pos hadmits]
    rcases hwithdraws uri hgone with hlast | ⟨-, huntracked⟩
    · exact (lastPublished_append uri _ _).trans (congrArg (Option.or · _) hlast)
    · exact absurd huntracked htracked
  · exact absurd hgone htracked

/-- Loads say nothing about the files that they drop. -/
lemma lastPublished_of_loads {t : Session} {event : Event} (hloads : event.Loads) {uri : Uri}
    (hgone : (t.step language event).server.workspace.files.get? uri = none) :
    lastPublished uri (t.step language event).sent = lastPublished uri t.sent := by
  cases event with
  | settled disk =>
    have hquiet := Server.lastPublished_settle (s := t.server) hgone
    exact (lastPublished_append uri _ _).trans (congrArg (Option.or · _) hquiet)
  | received disk message =>
    cases message with
    | request request => cases hloads
    | notification notification =>
      cases notification with
      | ready =>
        unfold step
        dsimp only
        split
        · exact congrArg (lastPublished uri) (List.append_nil t.sent)
        · rfl
      | _ => cases hloads

/-- **What the client was told last about a file that has left.** In every session with a parser
that does not break off, take a file that is tracked before an event and no longer afterwards. If
files were reported as deleted, changed or renamed, its diagnostics have been withdrawn. If it was
dropped by a load, or by starting over for one, they have not: the last publication is still that of
its last state, so the client is left with its diagnostics unless there were none. -/
theorem lastPublished_of_gone (htotal : language.Total) (events : List Event) (event : Event)
    {uri : Uri} {file : FileState}
    (hfile : (run language events).server.workspace.files.get? uri = some file)
    (hgone : (run language (events ++ [event])).server.workspace.files.get? uri = none) :
    (event.Moves → lastPublished uri (run language (events ++ [event])).sent = some ([], none)) ∧
    (event.Loads → lastPublished uri (run language (events ++ [event])).sent =
      some (file.diagnostics (run language events).server.settings.diagnostics
        (.ofSettings (run language events).server.settings.diagnostics) language.id,
        file.version)) := by
  rw [run_append_singleton] at hgone ⊢
  refine ⟨fun hmoves => lastPublished_of_moves hmoves (by simp [hfile]) hgone, fun hloads => ?_⟩
  have htold := told_run htotal events
  rw [lastPublished_of_loads hloads hgone, htold.upToDate.told uri file hfile,
    Server.diagnosticsOf, htold.upToDate.filter]

/-- A client greets, a load finds a file with two issues, and new settings call for another load. -/
def loadedWithIssues : List Event :=
  [.received .empty (.request (.connect ⟨none, {}, some [⟨"file:///"⟩], none⟩)),
    .received .empty (.notification .ready), .settled (Server.diskWith (.text "a")),
    .received .empty (.notification (.configured
      (.object [("indexing", .object [("maxFileSizeKb", .nat 256)])])))]

/-- The file is deleted on disk. Where the client reports that, the diagnostics are withdrawn; where
the load comes first, the client is left with both of them. -/
theorem lastPublished_of_gone_loadedWithIssues :
    lastPublished ⟨"file:///a"⟩ (run faultyLanguage (loadedWithIssues ++
      [.received .empty (.notification (.watched [(⟨"file:///a"⟩, .deleted)]))])).sent =
        some ([], none) ∧
    lastPublished ⟨"file:///a"⟩ (run faultyLanguage (loadedWithIssues ++ [.settled .empty])).sent =
      some ([⟨⟨⟨0, 0⟩, ⟨0, 1⟩⟩, .warning, some .lexical, "faulty", "stray character"⟩,
        ⟨⟨⟨0, 2⟩, ⟨0, 3⟩⟩, .error, some .syntactic, "faulty", "unexpected end"⟩], none) := by
  have htotal : faultyLanguage.Total := fun _ _ => ⟨_, rfl⟩
  have hfile : (run faultyLanguage loadedWithIssues).server.workspace.files.get? ⟨"file:///a"⟩ =
      some (.ofParse ⟨"file:///a"⟩ "a" none faultyParse) := rfl
  constructor
  · exact (lastPublished_of_gone htotal loadedWithIssues _ hfile (by decide)).1 trivial
  · exact (lastPublished_of_gone htotal loadedWithIssues (.settled .empty) hfile (by decide)).2
      trivial

/-- The load leaves neither a state nor a symbol of the file, and the client with diagnostics. -/
theorem stale_after_load :
    ((run faultyLanguage (loadedWithIssues ++ [.settled .empty])).server.workspace.files.get?
        ⟨"file:///a"⟩).isNone = true ∧
      ((run faultyLanguage (loadedWithIssues ++
        [.settled .empty])).server.workspace.repository.symbolsIn ⟨"file:///a"⟩).isEmpty = true ∧
      ((lastPublished ⟨"file:///a"⟩ (run faultyLanguage (loadedWithIssues ++
        [.settled .empty])).sent).map fun report => report.1.length) = some 2 := by
  decide

end Session

end CodeIndex
