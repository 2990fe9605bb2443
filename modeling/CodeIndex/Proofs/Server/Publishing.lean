import Mathlib.Data.List.Basic
import CodeIndex.Proofs.Server.Session

set_option relaxedAutoImplicit false
set_option autoImplicit false

/-!
# Published diagnostics

What the client was told last about a tracked file is what the server would tell it now. States of
files are replaced by many handlers and by background work, settings by two more; each has its own
place where diagnostics are published. This file gives the handlers one contract: whatever state a
file has afterwards was either just published, or is the one that it had before. Contracts of this
form compose, so a whole session keeps the client up to date.

## Main definitions

* `lastPublished` — the diagnostics and the version that were published last for a file.
* `Workspace.Accounted` — an outcome changes the state of no file but that of its report.
* `Server.Reports` — what was sent accounts for every state that changed.
* `Server.UpToDate` — the last publication for every tracked file is about its current state.

## Main results

* `Server.Reports.trans` — the contract composes.
* `Server.reports_settle` — background work reports what it changes.
* `Session.diagnostics_run` — throughout every session, the client is up to date.
-/

namespace CodeIndex

/-! ## The last publication -/

/-- What a message publishes for a file. -/
def Outgoing.publishedFor? (uri : Uri) : Outgoing → Option (List Diagnostic × Option Int)
  | .publish v diagnostics version => if v = uri then some (diagnostics, version) else none
  | _ => none

/-- The diagnostics and the version that were published last for a file. -/
def lastPublished (uri : Uri) (out : List Outgoing) : Option (List Diagnostic × Option Int) :=
  (out.filterMap (Outgoing.publishedFor? uri)).getLast?

@[simp] lemma lastPublished_nil (uri : Uri) : lastPublished uri [] = none := rfl

lemma lastPublished_append (uri : Uri) (out out' : List Outgoing) :
    lastPublished uri (out ++ out') = (lastPublished uri out').or (lastPublished uri out) := by
  rw [lastPublished, List.filterMap_append, List.getLast?_append]
  rfl

lemma lastPublished_singleton (uri : Uri) (o : Outgoing) :
    lastPublished uri [o] = o.publishedFor? uri := by
  cases h : o.publishedFor? uri <;> simp [lastPublished, h]

/-- A message that publishes nothing does not count. -/
lemma lastPublished_eq_none {uri : Uri} {out : List Outgoing}
    (h : ∀ o ∈ out, o.publishedFor? uri = none) : lastPublished uri out = none := by
  have hnil : out.filterMap (Outgoing.publishedFor? uri) = [] := List.filterMap_eq_nil_iff.2 h
  rw [lastPublished, hnil, List.getLast?_nil]

/-- If all messages that publish something for a file publish the same, that is what was published
last. -/
lemma lastPublished_eq_some {uri : Uri} {out : List Outgoing}
    {report : List Diagnostic × Option Int}
    (hsome : ∃ o ∈ out, o.publishedFor? uri = some report)
    (hall : ∀ o ∈ out, ∀ r, o.publishedFor? uri = some r → r = report) :
    lastPublished uri out = some report := by
  obtain ⟨o, ho, hreport⟩ := hsome
  have hmem : report ∈ out.filterMap (Outgoing.publishedFor? uri) :=
    List.mem_filterMap.2 ⟨o, ho, hreport⟩
  have hne := List.ne_nil_of_mem hmem
  rw [lastPublished, List.getLast?_eq_some_getLast hne]
  obtain ⟨o', ho', hlast⟩ := List.mem_filterMap.1 (List.getLast_mem hne)
  rw [hall o' ho' _ hlast]

/-- The state of a file apart from its tokens, which diagnostics are not about. -/
def FileState.SameReport (file file' : FileState) : Prop :=
  file' = { file with tokens := file'.tokens }

lemma FileState.SameReport.refl (file : FileState) : file.SameReport file := rfl

lemma FileState.SameReport.uri_eq {file file' : FileState} (h : file.SameReport file') :
    file'.uri = file.uri := by
  unfold SameReport at h
  rw [h]

lemma FileState.SameReport.trans {file file' file'' : FileState} (h : file.SameReport file')
    (h' : file'.SameReport file'') : file.SameReport file'' := by
  unfold SameReport at *
  rw [h', h]

/-! ## Outcomes of work on a workspace -/

namespace Workspace

variable {language : Language} {disk : Disk} {w w' : Workspace}

/-- No file has a state that it did not have before. -/
def Keeps (w w' : Workspace) : Prop :=
  ∀ v file, w'.files.get? v = some file → w.files.get? v = some file

/-- An outcome changes the state of no file but that of its report. -/
def Accounted (w : Workspace) : Workspace × Except Fault (Option SyncReport) → Prop
  | (w', .ok (some report)) => ∀ v file, w'.files.get? v = some file →
      v = report.state.uri ∧ file = report.state ∨
        v ≠ report.state.uri ∧ w.files.get? v = some file
  | (w', _) => w.Keeps w'

lemma Keeps.refl (w : Workspace) : w.Keeps w := fun _ _ hfile => hfile

lemma Keeps.forget (w : Workspace) (uri : Uri) : w.Keeps (w.forget uri) := by
  intro v file hfile
  rw [get?_forget] at hfile
  split at hfile
  · cases hfile
  · exact hfile

lemma Keeps.markOpen (w : Workspace) (uri : Uri) :
    w.Keeps { w with files := w.files.markOpen uri } := by
  intro v file hfile
  exact (FileStore.get?_markOpen w.files uri v).symm.trans hfile

lemma Keeps.retain (w : Workspace) (keep : List Uri) : w.Keeps (w.retain keep).1 := by
  intro v file hfile
  rw [retain_fst, get?_dropAll] at hfile
  split at hfile
  · cases hfile
  · exact hfile

/-- A synchronisation changes the state of its file, which its report is about. -/
lemma accounted_synchronize (language : Language) (h : w.Keeps w') (uri : Uri) (text : String)
    (version : Option Int) :
    w.Accounted (Server.always (w'.synchronize language uri text version)) := by
  unfold Workspace.synchronize
  cases language.parse uri text with
  | error fault => exact h
  | ok parse =>
    intro v file hfile
    have hget : (w'.commitParse language uri text version parse).1.files.get? v = some file := hfile
    rw [get?_commitParse] at hget
    split at hget
    · next hv => exact Or.inl ⟨hv, (Option.some.inj hget).symm⟩
    · next hv => exact Or.inr ⟨hv, h v file hget⟩

lemma indexFile_eq (language : Language) (w : Workspace) (uri : Uri) (text : String) :
    w.indexFile language uri text =
      if w.files.isOpen uri then (w, .ok none)
      else Server.always (w.synchronize language uri text none) := by
  unfold indexFile
  split
  · rfl
  · rcases w.synchronize language uri text none with ⟨w', fault | report⟩ <;> rfl

lemma accounted_indexFile (language : Language) (w : Workspace) (uri : Uri) (text : String) :
    w.Accounted (w.indexFile language uri text) := by
  rw [indexFile_eq]
  split
  · exact Keeps.refl w
  · exact accounted_synchronize language (Keeps.refl w) uri text none

lemma accounted_save (language : Language) (disk : Disk) (w : Workspace) (uri : Uri)
    (text : Option String) :
    w.Accounted (Server.ifRead ((w.save language disk uri text).1,
      (w.save language disk uri text).2.map fun read => read.map some)) := by
  unfold Workspace.save
  cases savedText disk w uri text with
  | error e => exact Keeps.refl w
  | ok saved =>
    have hsync := accounted_synchronize language (Keeps.refl w) uri saved
      ((w.files.get? uri).bind (·.version))
    dsimp only
    generalize w.synchronize language uri saved ((w.files.get? uri).bind (·.version)) = outcome
      at hsync ⊢
    rcases outcome with ⟨w', fault | report⟩ <;> exact hsync

lemma accounted_refresh (language : Language) (disk : Disk) (w : Workspace) (uri : Uri) :
    w.Accounted (Server.ifRead (w.refresh language disk uri)) := by
  unfold Workspace.refresh
  split
  · exact Keeps.refl w
  · cases readUri disk uri with
    | error e => exact Keeps.refl w
    | ok text =>
      have hindex := accounted_indexFile language w uri text
      dsimp only
      generalize w.indexFile language uri text = outcome at hindex ⊢
      rcases outcome with ⟨w', fault | _ | report⟩ <;> exact hindex

/-- A renamed file is gone under its old name; under the new one, the report is about it. -/
lemma accounted_rename (language : Language) (disk : Disk) (w : Workspace) (old new : Uri) :
    (w.delete old).1.Accounted (w.rename language disk old new) := by
  have hcarried : (w.delete old).1.Keeps (w.carriedOver old new) :=
    carriedOver_induction (Keeps.refl _) (Keeps.markOpen _ new)
  rw [rename_eq]
  split
  · split
    · exact Keeps.refl _
    · next text _ => exact accounted_synchronize language hcarried new text none
  · exact Keeps.refl _

/-- A closed file has no state any more, unless the parser broke off. -/
lemma close_cases {language : Language} (htotal : language.Total) (disk : Disk) (w : Workspace)
    (uri : Uri) :
    ∃ report, w.close language disk uri = ((w.close language disk uri).1, .ok report) ∧
      (w.close language disk uri).1.files.get? uri = none ∧
      w.Keeps (w.close language disk uri).1 ∧ ∀ r, report = some r → r.state.uri = uri := by
  unfold Workspace.close
  dsimp only
  cases readUri disk uri with
  | error e =>
    refine ⟨none, rfl, ?_, Keeps.forget { w with files := w.files.markClosed uri } uri, by simp⟩
    exact (get?_forget { w with files := w.files.markClosed uri } uri uri).trans (if_pos rfl)
  | ok text =>
    obtain ⟨parse, hparse⟩ := htotal uri text
    simp only [Workspace.synchronize, hparse]
    refine ⟨_, rfl, ?_, ?_, ?_⟩
    · rw [get?_forget, if_pos rfl]
    · intro v file hfile
      rw [get?_forget] at hfile
      split at hfile
      · cases hfile
      · next hv =>
        rw [get?_commitParse, if_neg hv] at hfile
        exact hfile
    · rintro r hr
      obtain rfl := Option.some.inj hr
      rfl

end Workspace

/-! ## Accounting for what changed -/

namespace Server

variable {language : Language} {disk : Disk} {s s' s'' : Server} {out out' : List Outgoing}

/-- What was sent accounts for every state that changed: whatever state a file has was published
last, or nothing was published for the file and the state is the one that it had before. -/
structure Reports (language : Language) (s s' : Server) (out : List Outgoing) : Prop where
  settings : s'.settings = s.settings
  filter : s'.filter = s.filter
  told : ∀ uri file, s'.workspace.files.get? uri = some file →
    lastPublished uri out = some (s.diagnosticsOf language file, file.version) ∨
      lastPublished uri out = none ∧
        ∃ before, s.workspace.files.get? uri = some before ∧ before.SameReport file

lemma diagnosticsOf_congr (hsettings : s'.settings = s.settings) (hfilter : s'.filter = s.filter)
    (file : FileState) : s'.diagnosticsOf language file = s.diagnosticsOf language file := by
  rw [diagnosticsOf, diagnosticsOf, hsettings, hfilter]

/-- Diagnostics are not about tokens. -/
lemma report_congr {file file' : FileState} (h : file.SameReport file') (s : Server) :
    (s.diagnosticsOf language file', file'.version) =
      (s.diagnosticsOf language file, file.version) := by
  rw [h]
  rfl

namespace Reports

/-- Where no state is new and nothing is published, nothing has to be told. -/
lemma of_keeps (hsettings : s'.settings = s.settings) (hfilter : s'.filter = s.filter)
    (hkeeps : s.workspace.Keeps s'.workspace)
    (hquiet : ∀ uri file, s'.workspace.files.get? uri = some file → lastPublished uri out = none) :
    Reports language s s' out where
  settings := hsettings
  filter := hfilter
  told := fun uri file hfile =>
    Or.inr ⟨hquiet uri file hfile, file, hkeeps uri file hfile, .refl file⟩

/-- Accounts compose. -/
lemma trans (h : Reports language s s' out) (h' : Reports language s' s'' out') :
    Reports language s s'' (out ++ out') where
  settings := h'.settings.trans h.settings
  filter := h'.filter.trans h.filter
  told := by
    intro uri file hfile
    rw [lastPublished_append]
    rcases h'.told uri file hfile with hlast | ⟨hnone, before', hbefore', hsame'⟩
    · left
      rw [hlast, Option.some_or, diagnosticsOf_congr h.settings h.filter]
    · rw [hnone, Option.none_or, report_congr hsame' s]
      rcases h.told uri before' hbefore' with hlast | ⟨hnone', before, hbefore, hsame⟩
      · exact Or.inl hlast
      · exact Or.inr ⟨hnone', before, hbefore, hsame.trans hsame'⟩

/-- Messages that publish nothing may be sent at any time. -/
lemma quiet (s : Server) (hquiet : ∀ uri, lastPublished uri out = none) :
    Reports language s s out :=
  of_keeps rfl rfl (.refl _) fun uri _ _ => hquiet uri

/-- Work on the workspace whose outcome is published accounts for itself. -/
lemma published {outcome : Workspace × Except Fault (Option SyncReport)}
    (h : s.workspace.Accounted outcome) (method : String) :
    Reports language s (s.published language method outcome).1
      (s.published language method outcome).2 := by
  rcases outcome with ⟨w, fault | _ | report⟩
  · exact of_keeps rfl rfl h fun _ _ _ => rfl
  · exact of_keeps rfl rfl h fun _ _ _ => rfl
  · refine ⟨rfl, rfl, fun uri file hfile => ?_⟩
    have hsent : lastPublished uri (s.published language method (w, .ok (some report))).2 =
        if report.state.uri = uri then
          some (s.diagnosticsOf language report.state, report.state.version)
        else none := lastPublished_singleton _ _
    rw [hsent]
    rcases h uri file hfile with ⟨rfl, rfl⟩ | ⟨hne, hbefore⟩
    · exact Or.inl (if_pos rfl)
    · exact Or.inr ⟨if_neg (Ne.symm hne), file, hbefore, .refl file⟩

/-- A file that is gone may have its diagnostics withdrawn. -/
lemma cleared {w : Workspace} {uri : Uri} (hkeeps : s.workspace.Keeps w)
    (hgone : w.files.get? uri = none) :
    Reports language s { s with workspace := w } [clear uri] := by
  refine of_keeps rfl rfl hkeeps fun v file hfile => ?_
  rw [lastPublished_singleton]
  refine if_neg ?_
  rintro rfl
  have hgone' : some file = none := hfile.symm.trans hgone
  cases hgone'

end Reports

/-! ## Messages -/

lemma reports_openFile (s : Server) (uri : Uri) (text : String) (version : Int) :
    Reports language s (s.openFile language uri text version).1
      (s.openFile language uri text version).2 := by
  have hopen : s.workspace.Accounted (always (s.workspace.openFile language uri text version)) :=
    Workspace.accounted_synchronize language (.markOpen _ uri) uri text (some version)
  refine Reports.trans (Reports.quiet s fun v => lastPublished_eq_none ?_) (.published hopen _)
  intro o ho
  split at ho
  · rw [List.mem_singleton.1 ho]
    rfl
  · cases ho

lemma reports_change (s : Server) (uri : Uri) (changes : List TextChange) (version : Int) :
    Reports language s (s.change language uri changes version).1
      (s.change language uri changes version).2 := by
  unfold change
  split
  · exact .quiet s fun _ => rfl
  · exact .published (Workspace.accounted_synchronize language (.refl _) uri _ (some version)) _

lemma reports_save (s : Server) (uri : Uri) (text : Option String) :
    Reports language s (s.save language disk uri text).1 (s.save language disk uri text).2 :=
  .published (Workspace.accounted_save language disk s.workspace uri text) _

/-- Only here a fault of the parser would be told wrongly: the file keeps its state, while its
diagnostics are withdrawn. -/
lemma reports_close (htotal : language.Total) (s : Server) (uri : Uri) :
    Reports language s (s.close language disk uri).1 (s.close language disk uri).2 := by
  obtain ⟨report, hclose, hgone, hkeeps, huri⟩ :=
    Workspace.close_cases htotal disk s.workspace uri
  unfold close
  rw [hclose]
  cases report with
  | none => exact .cleared hkeeps hgone
  | some report =>
    have haccounted : s.workspace.Accounted
        ((s.workspace.close language disk uri).1, .ok (some report)) := by
      intro v file hfile
      refine Or.inr ⟨?_, hkeeps v file hfile⟩
      rw [huri report rfl]
      rintro rfl
      rw [hgone] at hfile
      cases hfile
    exact .published haccounted _

/-- What is left of a workspace when a file is deleted. -/
lemma keeps_delete (w : Workspace) (uri : Uri) :
    w.Keeps (w.delete uri).1 ∧ (w.delete uri).1.files.get? uri = none :=
  ⟨Workspace.Keeps.forget w uri, (Workspace.get?_forget w uri uri).trans (if_pos rfl)⟩

lemma reports_watch (s : Server) (uri : Uri) (event : FileEvent) :
    Reports language s (s.watch language disk uri event).1 (s.watch language disk uri event).2 := by
  cases event with
  | deleted => exact .cleared (keeps_delete s.workspace uri).1 (keeps_delete s.workspace uri).2
  | touched => exact .published (Workspace.accounted_refresh language disk s.workspace uri) _

lemma reports_rename (s : Server) (old new : String) :
    Reports language s (s.rename language disk old new).1 (s.rename language disk old new).2 := by
  unfold rename
  split
  · next old new _ _ =>
    have hcleared : Reports language s { s with workspace := (s.workspace.delete old).1 }
        [clear old] := .cleared (keeps_delete s.workspace old).1 (keeps_delete s.workspace old).2
    have hrename := Workspace.accounted_rename language disk s.workspace old new
    -- the outcome is published by a server that has lost the old file
    have hpublished : Reports language { s with workspace := (s.workspace.delete old).1 } _ _ :=
      .published hrename "workspace/didRenameFiles"
    have hboth := hcleared.trans hpublished
    generalize s.workspace.rename language disk old new = outcome at hboth
    rcases outcome with ⟨w, fault | _ | report⟩ <;> exact hboth
  · exact .quiet s fun _ => rfl

lemma reports_inOrder {α : Type} {handle : Server → α → Server × List Outgoing}
    (hhandle : ∀ (s : Server) a, Reports language s (handle s a).1 (handle s a).2) (s : Server)
    (events : List α) :
    Reports language s (s.inOrder handle events).1 (s.inOrder handle events).2 := by
  induction events generalizing s with
  | nil => exact .quiet s fun _ => rfl
  | cons event events ih => exact (hhandle s event).trans (ih _)

/-- Starting over forgets every state. -/
lemma reports_ready (s : Server) : Reports language s (s.ready language) [] := by
  unfold ready
  dsimp only
  split <;> split
  · exact .of_keeps rfl rfl (fun _ _ hfile => by cases hfile) fun _ _ _ => rfl
  · exact .quiet s fun _ => rfl
  · exact .of_keeps rfl rfl (fun _ _ hfile => by cases hfile) fun _ _ _ => rfl
  · exact .of_keeps rfl rfl (.refl _) fun _ _ _ => rfl

/-- Asking for proposals leaves the states as they were, but for their tokens. -/
lemma reports_complete (hreach : s.workspace.Reachable language) (uri : Uri)
    (pos : Editor.Position) :
    Reports language s (s.complete language uri pos).1 (s.complete language uri pos).2.1 := by
  unfold complete
  split
  · exact .quiet s fun _ => rfl
  · exact .quiet s fun _ => rfl
  · next support file _ hfile =>
    have hsame : file.SameReport (support.provide file pos.toPoint s.settings.completion).1 := by
      unfold CompletionSupport.provide FileState.tokenized
      cases htokens : file.tokens with
      | some tokens => exact .refl file
      | none => cases support.tokenize file.text <;> exact rfl
    have htold : ∀ w : Workspace,
        w.files = s.workspace.files.replace
          (support.provide file pos.toPoint s.settings.completion).1 →
        ∀ v file', w.files.get? v = some file' →
          ∃ before, s.workspace.files.get? v = some before ∧ before.SameReport file' := by
      intro w hw v file' hfile'
      have hget : w.files.get? v =
          if v = (support.provide file pos.toPoint s.settings.completion).1.uri then
            some (support.provide file pos.toPoint s.settings.completion).1
          else s.workspace.files.get? v := by
        rw [hw]
        exact OrderedMap.get?_insert _ _ _ _
      have huri : (support.provide file pos.toPoint s.settings.completion).1.uri = uri :=
        hsame.uri_eq.trans (hreach.uri_of_get? hfile)
      rw [hget, huri] at hfile'
      split at hfile'
      · next hv =>
        obtain rfl := Option.some.inj hfile'
        exact ⟨file, hv ▸ hfile, hsame⟩
      · exact ⟨file', hfile', .refl file'⟩
    have hfiles : (s.workspace.complete support file pos.toPoint s.settings.completion).1.files =
        s.workspace.files.replace (support.provide file pos.toPoint s.settings.completion).1 := rfl
    replace htold := htold _ hfiles
    generalize s.workspace.complete support file pos.toPoint s.settings.completion = outcome
      at htold ⊢
    rcases outcome with ⟨w, fault | items⟩ <;>
      exact ⟨rfl, rfl, fun v file' hfile' => Or.inr ⟨rfl, htold v file' hfile'⟩⟩

/-! ## Background work -/

lemma lastPublished_progress (uri : Uri) (events : List ProgressEvent) :
    lastPublished uri (events.map .progress) = none := by
  refine lastPublished_eq_none fun o ho => ?_
  obtain ⟨event, -, rfl⟩ := List.mem_map.1 ho
  rfl

lemma lastPublished_progressReport (uri : Uri) (session : ProgressSession) (done total : Nat) :
    lastPublished uri (progressReport session done total) = none := by
  unfold progressReport
  split
  · exact lastPublished_progress uri _
  · rfl

/-- Text from disk has no version, so publishing without one is publishing the state. -/
lemma indexed_publishes {w w' : Workspace} {uri : Uri} {text : String} {report : SyncReport}
    (h : w.indexFile language uri text = (w', .ok (some report))) (s : Server) :
    Outgoing.publish uri (s.diagnosticsOf language report.state) none =
      s.publishState language report.state := by
  rw [Workspace.indexFile_eq] at h
  split at h
  · cases h
  · unfold Workspace.synchronize at h
    cases hparse : language.parse uri text with
    | error fault =>
      rw [hparse] at h
      cases h
    | ok parse =>
      rw [hparse] at h
      obtain rfl : (w.commitParse language uri text none parse).2 = report :=
        Option.some.inj (Except.ok.inj (congrArg Prod.snd h))
      rfl

/-- Each file that is indexed is published. -/
lemma reports_indexPaths (stops : Nat → Bool) (session : ProgressSession) (total done : Nat)
    (summary : LoadSummary) (s : Server) (paths : List Path) :
    Reports language s (indexPaths language disk stops session total done summary s paths).1
      (indexPaths language disk stops session total done summary s paths).2.1 := by
  induction paths generalizing done summary s with
  | nil => exact .quiet s fun _ => rfl
  | cons path paths ih =>
    unfold indexPaths
    split
    · exact .quiet s fun _ => rfl
    · split
      · next uri text _ _ =>
        have hindex := Workspace.accounted_indexFile language s.workspace uri text
        have hpublish : ∀ w' report, s.workspace.indexFile language uri text =
            (w', .ok (some report)) →
            Outgoing.publish uri (s.diagnosticsOf language report.state) none =
              s.publishState language report.state := fun _ _ h => indexed_publishes h s
        have hprogress : ∀ s' : Server, Reports language s' s'
            (progressReport session (done + 1) total) :=
          fun s' => .quiet s' fun v => lastPublished_progressReport v session (done + 1) total
        generalize s.workspace.indexFile language uri text = outcome at hindex hpublish ⊢
        rcases outcome with ⟨w, fault | _ | report⟩
        · exact .of_keeps rfl rfl hindex fun _ _ _ => rfl
        · have hkept : Reports language s { s with workspace := w } [] :=
            .of_keeps rfl rfl hindex fun _ _ _ => rfl
          exact (hkept.trans (hprogress _)).trans (ih _ _ _)
        · have hpublished : Reports language s { s with workspace := w }
              [s.publishState language report.state] := .published hindex ""
          rw [← hpublish w report rfl] at hpublished
          exact (hpublished.trans (hprogress _)).trans (ih _ _ _)
      · exact ih _ _ s

lemma lastPublished_openSession (uri : Uri) (s : Server) (reportsProgress : Bool) (total : Nat) :
    lastPublished uri (s.openSession reportsProgress total).2.2 = none := by
  unfold openSession
  split
  · exact lastPublished_progress uri _
  · rfl

lemma lastPublished_closeSession (uri : Uri) (session : ProgressSession)
    (result : Except Fault LoadSummary) :
    lastPublished uri (closeSession session result) = none := by
  cases result <;> exact lastPublished_progress uri _

lemma reports_openSession (s : Server) (reportsProgress : Bool) (total : Nat) :
    Reports language s (s.openSession reportsProgress total).1
      (s.openSession reportsProgress total).2.2 := by
  refine .of_keeps ?_ ?_ ?_ fun v _ _ => lastPublished_openSession v s reportsProgress total
  all_goals unfold openSession
  · split <;> rfl
  · split <;> rfl
  · split <;> exact .refl _

/-- A load drops files, which needs no report, and publishes those that it indexes. -/
lemma reports_indexWorkspace (s : Server) (stops : Nat → Bool) (reportsProgress : Bool) :
    Reports language s (s.indexWorkspace language disk stops reportsProgress).1
      (s.indexWorkspace language disk stops reportsProgress).2 := by
  have hretain : ∀ keep, Reports language s { s with workspace := (s.workspace.retain keep).1 }
      [] := fun keep => .of_keeps rfl rfl (.retain s.workspace keep) fun _ _ _ => rfl
  unfold indexWorkspace
  split
  · exact hretain []
  · generalize s.workspace.discover language disk s.settings.indexing.discovery = paths
    dsimp only
    split
    · exact hretain _
    · have hclose : ∀ (s' : Server) session result,
          Reports language s' s' (closeSession session result) :=
        fun s' session result => .quiet s' fun v => lastPublished_closeSession v session result
      have hopen := (hretain (paths.filterMap Uri.ofPath?)).trans
        (reports_openSession _ reportsProgress paths.length)
      exact (hopen.trans (reports_indexPaths stops _ _ 0 _ _ paths)).trans (hclose _ _ _)

lemma reports_runTasks (s : Server) (tasks : List Task) :
    Reports language s (s.runTasks language disk tasks).1 (s.runTasks language disk tasks).2 := by
  induction tasks generalizing s with
  | nil => exact .quiet s fun _ => rfl
  | cons task tasks ih =>
    refine Reports.trans ?_ (ih (s.runTask language disk task).1)
    cases task with
    | register registrations => exact .quiet s fun _ => rfl
    | load number reportsProgress => exact reports_indexWorkspace s _ reportsProgress

/-- Background work reports what it changes. -/
lemma reports_settle (s : Server) :
    Reports language s (s.settle language disk).1 (s.settle language disk).2 := by
  have hstart : Reports language s { s with waiting := [] } [] :=
    .of_keeps rfl rfl (.refl _) fun _ _ _ => rfl
  exact hstart.trans (reports_runTasks _ s.waiting)

/-! ## The client is up to date -/

/-- The last publication for every tracked file is about its current state, under the settings in
force and the filter that they give. -/
structure UpToDate (language : Language) (s : Server) (sent : List Outgoing) : Prop where
  filter : s.filter = .ofSettings s.settings.diagnostics
  told : ∀ uri file, s.workspace.files.get? uri = some file →
    lastPublished uri sent = some (s.diagnosticsOf language file, file.version)

namespace UpToDate

variable {sent : List Outgoing}

/-- A client is kept up to date by what accounts for the changes. -/
lemma reports (h : UpToDate language s sent) (hreports : Reports language s s' out) :
    UpToDate language s' (sent ++ out) where
  filter := by rw [hreports.filter, hreports.settings, h.filter]
  told := by
    intro uri file hfile
    rw [lastPublished_append, diagnosticsOf_congr hreports.settings hreports.filter]
    rcases hreports.told uri file hfile with hlast | ⟨hnone, before, hbefore, hsame⟩
    · rw [hlast, Option.some_or]
    · rw [hnone, Option.none_or, report_congr hsame, h.told uri before hbefore]

/-- As long as no file is tracked, there is nothing to be told about. -/
lemma of_untracked (hfilter : s.filter = .ofSettings s.settings.diagnostics)
    (hfiles : ∀ uri, s.workspace.files.get? uri = none) : UpToDate language s sent where
  filter := hfilter
  told := by
    intro uri file hfile
    rw [hfiles uri] at hfile
    cases hfile

/-- Only the workspace, the settings and the filter matter. -/
lemma congr (h : UpToDate language s sent) (hfiles : s'.workspace.files = s.workspace.files)
    (hsettings : s'.settings = s.settings) (hfilter : s'.filter = s.filter) :
    UpToDate language s' sent := by
  have hreports : Reports language s s' [] := by
    refine .of_keeps hsettings hfilter (fun v file hfile => ?_) fun _ _ _ => rfl
    rwa [hfiles] at hfile
  have hkept := h.reports hreports
  rwa [List.append_nil] at hkept

end UpToDate

/-- When all states are published, the state of each tracked file is. -/
lemma lastPublished_states (hreach : s.workspace.Reachable language) {uri : Uri} {file : FileState}
    (hfile : s.workspace.files.get? uri = some file) :
    lastPublished uri (s.workspace.files.states.map (s.publishState language)) =
      some (s.diagnosticsOf language file, file.version) := by
  have hstate : ∀ state, state ∈ s.workspace.files.states ↔
      s.workspace.files.get? state.uri = some state := by
    intro state
    constructor
    · intro hmem
      obtain ⟨⟨v, _⟩, hentry, rfl⟩ := List.mem_map.1 hmem
      have hget : s.workspace.files.get? v = some _ := OrderedMap.get?_eq_some_iff.2 hentry
      rwa [hreach.uri_of_get? hget]
    · intro hget
      exact List.mem_map.2 ⟨_, OrderedMap.get?_eq_some_iff.1 hget, rfl⟩
  refine lastPublished_eq_some ?_ ?_
  · refine ⟨_, List.mem_map_of_mem ((hstate file).2 ?_), if_pos (hreach.uri_of_get? hfile)⟩
    rwa [hreach.uri_of_get? hfile]
  · intro o ho report hreport
    obtain ⟨state, hmem, rfl⟩ := List.mem_map.1 ho
    obtain ⟨huri, rfl⟩ : state.uri = uri ∧
        (s.diagnosticsOf language state, state.version) = report := by
      simpa [publishState, Outgoing.publishedFor?] using hreport
    have hsame := (hstate state).1 hmem
    rw [huri, hfile] at hsame
    rw [Option.some.inj hsame]

/-- New settings for diagnostics are followed by new diagnostics; other settings do not bear on
them. -/
lemma upToDate_configure {sent : List Outgoing} (hreach : s.workspace.Reachable language)
    (h : UpToDate language s sent) (payload : Json) :
    UpToDate language (s.configure language payload).1
      (sent ++ (s.configure language payload).2) := by
  unfold configure
  dsimp only
  generalize s.settings.merge payload language.id = merged
  split
  · rwa [List.append_nil]
  · have happlied : UpToDate language (s.applySettings merged) (sent ++
        if merged.diagnostics != s.settings.diagnostics then
          s.workspace.files.states.map ((s.applySettings merged).publishState language)
        else []) := by
      refine ⟨rfl, fun uri file hfile => ?_⟩
      rw [lastPublished_append]
      split
      · have hlast := lastPublished_states (s := s.applySettings merged) hreach hfile
        exact (congrArg (Option.or · _) hlast).trans rfl
      · next hsame =>
        have hdiagnostics : merged.diagnostics = s.settings.diagnostics := by simpa using hsame
        have hfilter : (s.applySettings merged).filter = s.filter :=
          (congrArg DiagnosticFilter.ofSettings hdiagnostics).trans h.filter.symm
        have hnow : (s.applySettings merged).diagnosticsOf language file =
            s.diagnosticsOf language file := by
          unfold diagnosticsOf
          rw [hfilter, show (s.applySettings merged).settings.diagnostics =
            s.settings.diagnostics from hdiagnostics]
        rw [lastPublished_nil, Option.none_or, hnow]
        exact h.told uri file hfile
    split
    · exact happlied.congr rfl rfl rfl
    · exact happlied

/-- Every notification keeps the client up to date. -/
lemma upToDate_notify {sent : List Outgoing} (htotal : language.Total)
    (hreach : s.workspace.Reachable language) (h : UpToDate language s sent)
    (notification : Notification) :
    UpToDate language (s.notify language disk notification).1
      (sent ++ (s.notify language disk notification).2) := by
  cases notification with
  | ready => exact h.reports (reports_ready s)
  | configured payload => exact upToDate_configure hreach h payload
  | opened uri text version => exact h.reports (reports_openFile s uri text version)
  | changed uri changes version => exact h.reports (reports_change s uri changes version)
  | saved uri text => exact h.reports (reports_save s uri text)
  | closed uri => exact h.reports (reports_close htotal s uri)
  | foldersChanged added removed =>
    exact h.reports (.of_keeps rfl rfl (.refl _) fun _ _ _ => rfl)
  | watched events =>
    exact h.reports (reports_inOrder (fun s e => reports_watch s e.1 e.2) s events)
  | renamed pairs =>
    have hrename : ∀ (s : Server) (pair : String × String), Reports language s
        (s.rename language disk pair.1 pair.2).1 (s.rename language disk pair.1 pair.2).2 :=
      fun s pair => reports_rename s pair.1 pair.2
    exact h.reports (reports_inOrder hrename s pairs)

/-- So does every request; the greeting changes settings without a word, and comes before any file
is tracked. -/
lemma upToDate_respond {sent : List Outgoing} (hreach : s.workspace.Reachable language)
    (h : UpToDate language s sent) (request : Request)
    (hgreeting : ∀ greeting, request = .connect greeting →
      ∀ uri, s.workspace.files.get? uri = none) :
    UpToDate language (s.respond language request).1
      (sent ++ (s.respond language request).2.1) := by
  have hquiet : ∀ out : List Outgoing, (∀ uri, lastPublished uri out = none) →
      UpToDate language s (sent ++ out) := fun out hout => h.reports (.quiet s hout)
  cases request with
  | connect greeting => exact .of_untracked rfl (hgreeting greeting rfl)
  | shutdown => exact h.reports (.of_keeps rfl rfl (.refl _) fun _ _ _ => rfl)
  | completion uri pos => exact h.reports (reports_complete hreach uri pos)
  | outline uri =>
    refine hquiet _ fun v => ?_
    show lastPublished v (s.outline uri).1 = none
    unfold outline
    split
    · rfl
    · split <;> rfl
  | hover uri pos => exact hquiet _ fun _ => rfl
  | definition uri pos => exact hquiet _ fun _ => rfl
  | references uri pos declaration => exact hquiet _ fun _ => rfl
  | symbols query => exact hquiet _ fun _ => rfl

end Server

/-! ## Sessions -/

namespace Session

variable {language : Language}

/-- The client of a session is up to date, and nothing is tracked before the greeting. -/
structure Told (language : Language) (t : Session) : Prop where
  reachable : t.server.workspace.Reachable language
  upToDate : t.server.UpToDate language t.sent
  untracked : t.connected = false → t.server = .empty

lemma told_received (htotal : language.Total) {t : Session} (h : t.Told language) (disk : Disk)
    (message : Message) : (t.step language (.received disk message)).Told language := by
  unfold step
  dsimp only
  split
  · next hadmits =>
    refine ⟨Server.reachable_handle h.reachable message, ?_, nofun⟩
    cases message with
    | notification notification =>
      exact Server.upToDate_notify htotal h.reachable h.upToDate notification
    | request request =>
      refine Server.upToDate_respond h.reachable h.upToDate request ?_
      rintro greeting rfl uri
      have hgreeted : t.connected = false := by simpa [admits] using hadmits
      rw [h.untracked hgreeted]
      rfl
  · exact h

lemma told_settled {t : Session} (h : t.Told language) (disk : Disk) :
    (t.step language (.settled disk)).Told language where
  reachable := Server.reachable_settle h.reachable
  upToDate := h.upToDate.reports (Server.reports_settle t.server)
  untracked := by
    intro hconnected
    show (t.server.settle language disk).1 = .empty
    rw [h.untracked hconnected]
    rfl

/-- Throughout every session, the last publication for a tracked file is about its current state:
its diagnostics under the settings in force, with the filter that these give, and its version. -/
theorem diagnostics_run (htotal : language.Total) (events : List Event) {uri : Uri}
    {file : FileState}
    (hfile : (run language events).server.workspace.files.get? uri = some file) :
    lastPublished uri (run language events).sent =
      some (file.diagnostics (run language events).server.settings.diagnostics
        (.ofSettings (run language events).server.settings.diagnostics) language.id,
        file.version) := by
  have htold : (run language events).Told language := by
    refine run_induction (P := Told language) ⟨.empty, ?_, fun _ => rfl⟩ ?_ events
    · exact .of_untracked rfl fun _ => rfl
    · intro t event h
      cases event with
      | received disk message => exact told_received htotal h disk message
      | settled disk => exact told_settled h disk
  have hlast := htold.upToDate.told uri file hfile
  rwa [Server.diagnosticsOf, htold.upToDate.filter] at hlast

/-- The result of a parse without a tree, with a lexical and a syntactic issue. -/
def faultyParse : Parse :=
  ⟨none, [⟨"stray character", some ⟨⟨1, 0⟩, ⟨1, 1⟩⟩, .warning, .lexical⟩,
    ⟨"unexpected end", some ⟨⟨1, 2⟩, ⟨1, 3⟩⟩, .error, .syntactic⟩]⟩

/-- A language in which every text has these issues. -/
def faultyLanguage : Language := .create "faulty" fun _ _ => .ok faultyParse

/-- A client greets, opens a file, and switches the reports on lexical issues off. -/
def suppressedWhileOpen : List Event :=
  [.received .empty (.request (.connect ⟨none, {}, none, none⟩)),
    .received .empty (.notification (.opened ⟨"file:///a"⟩ "a" 7)),
    .received .empty (.notification (.configured
      (.object [("diagnostics", .object [("suppressCategories", .array [.string "lexical"])])])))]

/-- The syntactic issue is all that the client was told about the file last. -/
theorem diagnostics_run_suppressedWhileOpen :
    lastPublished ⟨"file:///a"⟩ (run faultyLanguage suppressedWhileOpen).sent =
      some ([⟨⟨⟨0, 2⟩, ⟨0, 3⟩⟩, .error, some .syntactic, "faulty", "unexpected end"⟩], some 7) := by
  have htotal : faultyLanguage.Total := fun _ _ => ⟨_, rfl⟩
  have hfile : (run faultyLanguage suppressedWhileOpen).server.workspace.files.get?
      ⟨"file:///a"⟩ = some (.ofParse ⟨"file:///a"⟩ "a" (some 7) faultyParse) := rfl
  exact diagnostics_run htotal suppressedWhileOpen hfile

end Session

end CodeIndex
