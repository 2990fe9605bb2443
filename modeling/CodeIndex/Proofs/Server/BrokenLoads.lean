import Mathlib.Data.List.TakeWhile
import CodeIndex.Proofs.Server.Publishing
import CodeIndex.Proofs.Server.Reindexing
import CodeIndex.Proofs.Workspace.Closing

set_option relaxedAutoImplicit false
set_option autoImplicit false

/-!
# Loads that the parser breaks off

When the parser breaks off while a message is handled, the user is told and the session goes on. A
load in the background has no such guard: it ends with the file on which the parser breaks off, and
nobody is told. Which files are lost that way depends on the order in which they are found. This
file says exactly how far such a load gets, and that it stands up to bad files exactly if there are
none.

## Main definitions

* `Server.targets` — the files that a load is to index: found, readable and not open.
* `Server.loadMessages` — what a load sends that is not asked to stop.
* `Server.Resilient` — bad files neither keep a load from the others nor go unnoticed.

## Main results

* `Server.indexes_indexWorkspace` — a whole load, as a list of files.
* `Server.reindexed_until_fault` — how far a load gets, and when it is resilient.
-/

namespace CodeIndex

/-! ## The last publication among publications -/

/-- Only publications count for what was published last. -/
lemma lastPublished_filter (uri : Uri) (out : List Outgoing) :
    lastPublished uri (out.filter Outgoing.isPublication) = lastPublished uri out := by
  unfold lastPublished
  rw [List.filterMap_filter]
  refine congrArg List.getLast? (List.filterMap_congr fun o _ => ?_)
  cases o <;> rfl

namespace Server

variable {language : Language} {disk : Disk} {s : Server} {files : List (Uri × String)}

lemma publishedFor?_publication {file : Uri × String} {o : Outgoing}
    (h : s.publication? language file = some o) (uri : Uri) :
    ∃ parse, language.parse file.1 file.2 = .ok parse ∧ o.publishedFor? uri =
      if file.1 = uri then some (s.diagnosticsOf language (.ofParse file.1 file.2 none parse), none)
      else none := by
  unfold publication? at h
  cases hparse : language.parse file.1 file.2 with
  | error fault =>
    rw [hparse] at h
    cases h
  | ok parse =>
    rw [hparse] at h
    obtain rfl := Option.some.inj h
    exact ⟨parse, rfl, rfl⟩

/-- A file that is indexed, always with the same text, is published. -/
lemma lastPublished_of_mem {uri : Uri} {text : String} (hmem : (uri, text) ∈ files)
    (hsame : ∀ text', (uri, text') ∈ files → text' = text) {parse : Parse}
    (hparse : language.parse uri text = .ok parse) :
    lastPublished uri (files.filterMap (s.publication? language)) =
      some (s.diagnosticsOf language (.ofParse uri text none parse), none) := by
  refine lastPublished_eq_some ?_ ?_
  · have hpublication : s.publication? language (uri, text) =
        some (.publish uri (s.diagnosticsOf language (.ofParse uri text none parse)) none) := by
      rw [publication?, hparse]
      rfl
    exact ⟨_, List.mem_filterMap.2 ⟨_, hmem, hpublication⟩, if_pos rfl⟩
  · intro o ho report hreport
    obtain ⟨⟨v, text'⟩, hfile, hpublication⟩ := List.mem_filterMap.1 ho
    obtain ⟨parse', hparse', hfor⟩ := publishedFor?_publication hpublication uri
    rw [hfor] at hreport
    split at hreport
    · next hv =>
      obtain rfl : v = uri := hv
      obtain rfl := hsame text' hfile
      obtain rfl : parse = parse' := Except.ok.inj (hparse.symm.trans hparse')
      exact (Option.some.inj hreport).symm
    · cases hreport

/-- A file that is not indexed is not published. -/
lemma lastPublished_of_notMem {uri : Uri} (h : ∀ text, (uri, text) ∉ files) :
    lastPublished uri (files.filterMap (s.publication? language)) = none := by
  refine lastPublished_eq_none fun o ho => ?_
  obtain ⟨⟨v, text⟩, hfile, hpublication⟩ := List.mem_filterMap.1 ho
  obtain ⟨parse, -, hfor⟩ := publishedFor?_publication hpublication uri
  rw [hfor]
  refine if_neg ?_
  rintro rfl
  exact h text hfile

/-! ## A whole load -/

/-- The files that a load is to index: those that are found, can be read and are not open. -/
def targets (language : Language) (disk : Disk) (s : Server) : List (Uri × String) :=
  s.workspace.unopened (s.readFiles language disk)

/-- What a load in the background sends that is not asked to stop. -/
def loadMessages (language : Language) (disk : Disk) (s : Server) (reportsProgress : Bool) :
    List Outgoing :=
  (s.indexWorkspace language disk (fun _ => false) reportsProgress).2

lemma text_eq_of_mem_targets {uri : Uri} {text text' : String}
    (h : (uri, text) ∈ s.targets language disk) (h' : (uri, text') ∈ s.targets language disk) :
    text = text' :=
  text_eq_of_mem_readable (List.mem_filter.1 h).1 (List.mem_filter.1 h').1

lemma quiet_openSession (s : Server) (reportsProgress : Bool) (total : Nat) :
    ∀ o ∈ (s.openSession reportsProgress total).2.2,
      o.isPublication = false ∧ o.isError = false := by
  unfold openSession
  split
  · exact quiet_progress _
  · exact nofun

lemma quiet_closeSession (session : ProgressSession) (result : Except Fault LoadSummary) :
    ∀ o ∈ closeSession session result, o.isPublication = false ∧ o.isError = false := by
  cases result <;> exact quiet_progress _

/-- A retention opens and closes nothing. -/
lemma unopened_retain (w : Workspace) (keep : List Uri) :
    (w.retain keep).1.unopened = w.unopened := by
  funext files
  simp only [Workspace.unopened, (Workspace.Spares.retain (w := w) keep).isOpen]

/-- A load drops what is not found and then indexes its targets up to the first one on which the
parser breaks off; that is all that it publishes, and it shows no error. -/
lemma indexes_indexWorkspace (language : Language) (disk : Disk)
    (henabled : s.settings.indexing.enabled = true) (reportsProgress : Bool) :
    s.reindexed language disk reportsProgress =
        (s.workspace.retain (s.found language disk)).1.syncAll language
          (language.untilFault (s.targets language disk)) ∧
      (s.loadMessages language disk reportsProgress).filter Outgoing.isPublication =
        (language.untilFault (s.targets language disk)).filterMap (s.publication? language) ∧
      ∀ o ∈ s.loadMessages language disk reportsProgress, o.isError = false := by
  unfold reindexed loadMessages indexWorkspace targets found readFiles
  rw [henabled, Bool.not_true, if_neg Bool.false_ne_true]
  generalize s.workspace.discover language disk s.settings.indexing.discovery = paths
  dsimp only
  split
  · next hempty =>
    rw [List.isEmpty_iff.1 hempty]
    exact ⟨rfl, rfl, nofun⟩
  · generalize hs' : { s with workspace := (s.workspace.retain (paths.filterMap Uri.ofPath?)).1 } =
      s'
    have hopened := quiet_openSession s' reportsProgress paths.length
    obtain ⟨hworkspace, hsettings, hfilter⟩ :
        (s'.openSession reportsProgress paths.length).1.workspace = s'.workspace ∧
          (s'.openSession reportsProgress paths.length).1.settings = s.settings ∧
          (s'.openSession reportsProgress paths.length).1.filter = s.filter := by
      subst hs'
      unfold openSession
      split <;> exact ⟨rfl, rfl, rfl⟩
    generalize s'.openSession reportsProgress paths.length = opened at *
    have hindexes := indexes_indexPaths language disk opened.2.1 paths.length 0
      { discovered := paths.length } opened.1 paths
    have hpublication : opened.1.publication? language = s.publication? language := by
      funext file
      simp only [publication?, diagnosticsOf_congr hsettings hfilter]
    have hclosed := quiet_closeSession opened.2.1 (indexPaths language disk (fun _ => false)
      opened.2.1 paths.length 0 { discovered := paths.length } opened.1 paths).2.2
    have hretained : opened.1.workspace.unopened = s.workspace.unopened := by
      rw [hworkspace, ← hs', unopened_retain]
    rw [hretained, hsettings] at hindexes
    refine ⟨?_, ?_, ?_⟩
    · rw [hindexes.server, hworkspace, ← hs']
    · rw [List.filter_append, List.filter_append, hindexes.published, hpublication,
        List.filter_eq_nil_iff.2 fun o ho => by simp [(hopened o ho).1],
        List.filter_eq_nil_iff.2 fun o ho => by simp [(hclosed o ho).1],
        List.nil_append, List.append_nil]
    · intro o ho
      rcases List.mem_append.1 ho with hsent | hlast
      · rcases List.mem_append.1 hsent with hfirst | hmiddle
        · exact (hopened o hfirst).2
        · exact hindexes.noError o hmiddle
      · exact (hclosed o hlast).2

/-! ## How far a load gets -/

/-- A load stands up to bad files: every target that the parser comes through is indexed and
published, and if the parser breaks off on a target, the user is told. -/
structure Resilient (language : Language) (disk : Disk) (s : Server) (reportsProgress : Bool) :
    Prop where
  indexed : ∀ uri text parse, (uri, text) ∈ s.targets language disk →
    language.parse uri text = .ok parse →
      (s.reindexed language disk reportsProgress).files.get? uri =
        some (.ofParse uri text none parse)
  published : ∀ uri text parse, (uri, text) ∈ s.targets language disk →
    language.parse uri text = .ok parse →
      lastPublished uri (s.loadMessages language disk reportsProgress) =
        some (s.diagnosticsOf language (.ofParse uri text none parse), none)
  told : ∀ file ∈ s.targets language disk, language.comesThrough file = false →
    ∃ o ∈ s.loadMessages language disk reportsProgress, o.isError = true

/-- A target that a load gets to is indexed and published. -/
lemma indexed_of_mem_untilFault (henabled : s.settings.indexing.enabled = true)
    (reportsProgress : Bool) {uri : Uri} {text : String}
    (hmem : (uri, text) ∈ language.untilFault (s.targets language disk)) {parse : Parse}
    (hparse : language.parse uri text = .ok parse) :
    (s.reindexed language disk reportsProgress).files.get? uri =
        some (.ofParse uri text none parse) ∧
      lastPublished uri (s.loadMessages language disk reportsProgress) =
        some (s.diagnosticsOf language (.ofParse uri text none parse), none) := by
  obtain ⟨hworkspace, hpublished, -⟩ :=
    indexes_indexWorkspace language disk henabled reportsProgress
  have hsame : ∀ text', (uri, text') ∈ language.untilFault (s.targets language disk) →
      text' = text := fun text' hmem' =>
    text_eq_of_mem_targets ((List.takeWhile_subset _) hmem') ((List.takeWhile_subset _) hmem)
  rw [hworkspace, ← lastPublished_filter, hpublished]
  exact ⟨Workspace.get?_syncAll_of_mem hmem hsame hparse, lastPublished_of_mem hmem hsame hparse⟩

/-- A target that a load does not get to keeps its state, and nothing is published for it. -/
lemma untouched_of_notMem_untilFault (henabled : s.settings.indexing.enabled = true)
    (reportsProgress : Bool) {uri : Uri} {text : String}
    (htarget : (uri, text) ∈ s.targets language disk)
    (hmem : (uri, text) ∉ language.untilFault (s.targets language disk)) :
    (s.reindexed language disk reportsProgress).files.get? uri = s.workspace.files.get? uri ∧
      lastPublished uri (s.loadMessages language disk reportsProgress) = none := by
  obtain ⟨hworkspace, hpublished, -⟩ :=
    indexes_indexWorkspace language disk henabled reportsProgress
  have hnone : ∀ text', (uri, text') ∉ language.untilFault (s.targets language disk) := by
    intro text' hmem'
    obtain rfl := text_eq_of_mem_targets htarget ((List.takeWhile_subset _) hmem')
    exact hmem hmem'
  have hfound : uri ∈ s.found language disk := by
    obtain ⟨path, hpath, huri, -⟩ := mem_readable.1 (List.mem_filter.1 htarget).1
    exact List.mem_filterMap.2 ⟨path, hpath, huri⟩
  rw [hworkspace, ← lastPublished_filter, hpublished, Workspace.get?_syncAll_of_notMem hnone,
    Workspace.retain_fst, Workspace.get?_dropAll, if_neg]
  · exact ⟨rfl, lastPublished_of_notMem hnone⟩
  · exact fun hdropped => (Workspace.mem_unretained.1 hdropped).2.1 hfound

/-- **How far a load gets.** Take a load in the background that is not asked to stop, on whatever
server, disk and language. It indexes and publishes its targets up to the first one on which the
parser breaks off. Every target behind that one keeps the state that it had, nothing is published
for it, and no error is shown. So the load stands up to bad files exactly if there are none. -/
theorem reindexed_until_fault (henabled : s.settings.indexing.enabled = true) (disk : Disk)
    (reportsProgress : Bool) :
    s.reindexed language disk reportsProgress =
        (s.workspace.retain (s.found language disk)).1.syncAll language
          (language.untilFault (s.targets language disk)) ∧
      (s.loadMessages language disk reportsProgress).filter Outgoing.isPublication =
        (language.untilFault (s.targets language disk)).filterMap (s.publication? language) ∧
      (∀ o ∈ s.loadMessages language disk reportsProgress, o.isError = false) ∧
      (∀ uri text, (uri, text) ∈ s.targets language disk →
        (uri, text) ∉ language.untilFault (s.targets language disk) →
          (s.reindexed language disk reportsProgress).files.get? uri =
            s.workspace.files.get? uri ∧
          lastPublished uri (s.loadMessages language disk reportsProgress) = none) ∧
      (s.Resilient language disk reportsProgress ↔
        ∀ file ∈ s.targets language disk, language.comesThrough file = true) := by
  obtain ⟨hworkspace, hpublished, hnoError⟩ :=
    indexes_indexWorkspace language disk henabled reportsProgress
  refine ⟨hworkspace, hpublished, hnoError, fun uri text htarget hmem => ?_,
    fun hresilient file hfile => ?_, fun hall => ?_⟩
  · exact untouched_of_notMem_untilFault henabled reportsProgress htarget hmem
  · -- a file on which the parser breaks off would have to be told about
    rw [← Bool.not_eq_false]
    intro hfault
    obtain ⟨o, ho, herror⟩ := hresilient.told file hfile hfault
    rw [hnoError o ho] at herror
    cases herror
  · have hthrough : language.untilFault (s.targets language disk) = s.targets language disk :=
      List.takeWhile_eq_self_iff.2 hall
    refine ⟨fun uri text parse htarget hparse => ?_, fun uri text parse htarget hparse => ?_, ?_⟩
    · rw [← hthrough] at htarget
      exact (indexed_of_mem_untilFault henabled reportsProgress htarget hparse).1
    · rw [← hthrough] at htarget
      exact (indexed_of_mem_untilFault henabled reportsProgress htarget hparse).2
    · intro file hfile hfault
      rw [hall file hfile] at hfault
      cases hfault

/-- A disk with an empty file, and another one behind it. -/
def badFileFirst : Disk :=
  ⟨.ofList [(["a"], .file (.text "")), (["b"], .file (.text "x"))]⟩

/-- A server with the root as its folder. -/
def rootServer : Server :=
  { empty with workspace := { Workspace.empty with folders := [⟨"file:///"⟩] } }

/-- The parser breaks off on the empty file, so the load does not stand up to it. -/
theorem reindexed_until_fault_badFileFirst :
    rootServer.settings.indexing.enabled = true ∧
      ¬ rootServer.Resilient Workspace.brittleLanguage badFileFirst true := by
  have henabled : rootServer.settings.indexing.enabled = true := rfl
  refine ⟨henabled, fun hresilient => ?_⟩
  have hall := (reindexed_until_fault henabled badFileFirst true).2.2.2.2.1 hresilient
  have hbad := hall (⟨"file:///a"⟩, "") (by decide)
  cases hbad

/-- The other file can be read, is not open and would be parsed, but it is not indexed; and the user
is not told of the first. -/
theorem good_file_lost_behind_bad_file :
    rootServer.targets Workspace.brittleLanguage badFileFirst =
        [(⟨"file:///a"⟩, ""), (⟨"file:///b"⟩, "x")] ∧
      Workspace.brittleLanguage.comesThrough (⟨"file:///b"⟩, "x") = true ∧
      ((rootServer.reindexed Workspace.brittleLanguage badFileFirst true).files.get?
        ⟨"file:///b"⟩).map FileState.text = none ∧
      (rootServer.loadMessages Workspace.brittleLanguage badFileFirst true).any
        Outgoing.isError = false := by
  decide

end Server

end CodeIndex
