import Mathlib.Data.List.TakeWhile
import CodeIndex.Proofs.Server.Ownership
import CodeIndex.Proofs.Workspace.Loading

set_option relaxedAutoImplicit false
set_option autoImplicit false

/-!
# Files that are indexed in the background

A load in the background takes files one after the other, passes over those that cannot be read or
are open, and ends where the parser breaks off. This file says what such a load does in terms of a
list of files and texts, for other files to build on: the beginning of the list that it comes
through is synchronised and published, and the rest is not touched.

## Main definitions

* `Workspace.unopened` — those of some files that are not open.
* `Language.untilFault` — some files up to the first one on which the parser breaks off.
* `Server.publication?` — what is sent when a text from disk is indexed.
* `Server.Indexes` — some files were indexed and published, and nothing else was done.

## Main results

* `Server.indexes_indexPaths` — what a load does that is not asked to stop.
-/

namespace CodeIndex

/-- Whether a message publishes diagnostics. -/
def Outgoing.isPublication : Outgoing → Bool
  | .publish _ _ _ => true
  | _ => false

/-- Whether a message shows an error to the user. -/
def Outgoing.isError : Outgoing → Bool
  | .showError _ => true
  | _ => false

/-- Those of some files that are not open. -/
def Workspace.unopened (w : Workspace) (files : List (Uri × String)) : List (Uri × String) :=
  files.filter fun file => !w.files.isOpen file.1

lemma Workspace.unopened_of_nil {w : Workspace} (h : w.files.opened = [])
    (files : List (Uri × String)) : w.unopened files = files := by
  refine List.filter_eq_self.2 fun file _ => ?_
  rw [FileStore.isOpen, h]
  rfl

/-- Whether the parser comes through a text. -/
def Language.comesThrough (language : Language) (file : Uri × String) : Bool :=
  (language.parse file.1 file.2).isOk

/-- Some files up to the first one on which the parser breaks off. -/
def Language.untilFault (language : Language) (files : List (Uri × String)) :
    List (Uri × String) :=
  files.takeWhile language.comesThrough

lemma Language.untilFault_cons_of_error {language : Language} {uri : Uri} {text : String}
    {fault : Fault} (h : language.parse uri text = .error fault) (files : List (Uri × String)) :
    language.untilFault ((uri, text) :: files) = [] := by
  rw [untilFault, List.takeWhile_cons, comesThrough, h]
  rfl

lemma Language.untilFault_cons_of_ok {language : Language} {uri : Uri} {text : String}
    {parse : Parse} (h : language.parse uri text = .ok parse) (files : List (Uri × String)) :
    language.untilFault ((uri, text) :: files) = (uri, text) :: language.untilFault files := by
  rw [untilFault, List.takeWhile_cons, comesThrough, h]
  rfl

/-- A parser that never breaks off comes through all files. -/
lemma Language.Total.untilFault_eq {language : Language} (htotal : language.Total)
    (files : List (Uri × String)) : language.untilFault files = files := by
  refine List.takeWhile_eq_self_iff.2 fun file _ => ?_
  obtain ⟨parse, hparse⟩ := htotal file.1 file.2
  rw [comesThrough, hparse]
  rfl

namespace Server

variable {language : Language} {disk : Disk} {s s' s'' : Server} {out out' : List Outgoing}
  {files files' : List (Uri × String)}

/-- What is sent when a text from disk is indexed: its diagnostics, without a version. -/
def publication? (language : Language) (s : Server) (file : Uri × String) : Option Outgoing :=
  (language.parse file.1 file.2).toOption.map fun parse =>
    .publish file.1 (s.diagnosticsOf language (.ofParse file.1 file.2 none parse)) none

/-- Some files were synchronised and published in order, and nothing else was done or said, but for
reports on the progress. -/
structure Indexes (language : Language) (s s' : Server) (out : List Outgoing)
    (files : List (Uri × String)) : Prop where
  server : s' = { s with workspace := s.workspace.syncAll language files }
  published : out.filter Outgoing.isPublication = files.filterMap (s.publication? language)
  noError : ∀ o ∈ out, o.isError = false

namespace Indexes

lemma nothing (language : Language) (s : Server) : Indexes language s s [] [] :=
  ⟨rfl, rfl, nofun⟩

/-- Messages that neither publish nor show an error may come in between. -/
lemma append_quiet (h : Indexes language s s' out files)
    (hquiet : ∀ o ∈ out', o.isPublication = false ∧ o.isError = false) :
    Indexes language s s' (out' ++ out) files where
  server := h.server
  published := by
    have hnone : out'.filter Outgoing.isPublication = [] :=
      List.filter_eq_nil_iff.2 fun o ho => by simp [(hquiet o ho).1]
    rw [List.filter_append, hnone, List.nil_append, h.published]
  noError := by
    intro o ho
    rcases List.mem_append.1 ho with hquieted | hsent
    · exact (hquiet o hquieted).2
    · exact h.noError o hsent

/-- One file is indexed, and then others. -/
lemma cons {uri : Uri} {text : String} {parse : Parse}
    (hparse : language.parse uri text = .ok parse)
    (h : Indexes language
      { s with workspace := (s.workspace.synchronize language uri text none).1 } s' out files) :
    Indexes language s s'
      (.publish uri (s.diagnosticsOf language (.ofParse uri text none parse)) none :: out)
      ((uri, text) :: files) where
  server := h.server
  published := by
    have hpublication : s.publication? language (uri, text) =
        some (.publish uri (s.diagnosticsOf language (.ofParse uri text none parse)) none) := by
      rw [publication?, hparse]
      rfl
    rw [List.filter_cons_of_pos rfl, List.filterMap_cons, hpublication]
    exact congrArg _ h.published
  noError := by
    intro o ho
    rcases List.mem_cons.1 ho with rfl | hlater
    · rfl
    · exact h.noError o hlater

end Indexes

lemma quiet_progress (events : List ProgressEvent) :
    ∀ o ∈ events.map Outgoing.progress, o.isPublication = false ∧ o.isError = false := by
  intro o ho
  obtain ⟨event, -, rfl⟩ := List.mem_map.1 ho
  exact ⟨rfl, rfl⟩

lemma quiet_progressReport (session : ProgressSession) (done total : Nat) :
    ∀ o ∈ progressReport session done total, o.isPublication = false ∧ o.isError = false := by
  unfold progressReport
  split
  · exact quiet_progress _
  · exact nofun

/-- A load that is not asked to stop indexes those of the files that can be read and are not open,
up to the first one on which the parser breaks off.

**Proof sketch.** Induction on the paths, over all servers. A synchronisation opens and closes
nothing, so the rest of the load passes over the same files as it would have without it. -/
lemma indexes_indexPaths (language : Language) (disk : Disk) (session : ProgressSession)
    (total done : Nat) (summary : LoadSummary) (s : Server) (paths : List Path) :
    Indexes language s
      (indexPaths language disk (fun _ => false) session total done summary s paths).1
      (indexPaths language disk (fun _ => false) session total done summary s paths).2.1
      (language.untilFault (s.workspace.unopened
        (readable disk (some s.settings.indexing.maxFileSizeBytes) paths))) := by
  induction paths generalizing done summary s with
  | nil => exact .nothing language s
  | cons path paths ih =>
    unfold indexPaths
    rw [if_neg Bool.false_ne_true]
    split
    · next uri text huri htext =>
      rw [readable_cons_of_read huri htext, Workspace.unopened]
      unfold Workspace.indexFile Workspace.synchronize
      by_cases hopen : s.workspace.files.isOpen uri = true
      · -- an open file is passed over
        rw [if_pos hopen, List.filter_cons_of_neg (by simp [hopen])]
        exact (ih _ _ s).append_quiet (quiet_progressReport _ _ _)
      · rw [if_neg hopen, List.filter_cons_of_pos (by simpa using hopen)]
        cases hparse : language.parse uri text with
        | error fault =>
          rw [Language.untilFault_cons_of_error hparse]
          exact .nothing language s
        | ok parse =>
          rw [Language.untilFault_cons_of_ok hparse]
          have hrest := (ih (done + 1) { summary with indexed := summary.indexed + 1 }
            { s with workspace := (s.workspace.synchronize language uri text none).1 }).append_quiet
              (quiet_progressReport session (done + 1) total)
          have hunopened : (s.workspace.synchronize language uri text none).1.unopened =
              s.workspace.unopened := by
            funext files
            simp only [Workspace.unopened, Workspace.isOpen_synchronize]
          dsimp only at hrest
          rw [hunopened] at hrest
          have hindexed := hrest.cons hparse
          rw [Workspace.synchronize_of_ok _ hparse] at hindexed
          exact hindexed
    · next hunread =>
      rw [readable_cons_of_unread hunread]
      exact ih _ _ s

end Server

end CodeIndex
