import Mathlib.Data.List.Basic
import CodeIndex.Proofs.Server.Indexing
import CodeIndex.Proofs.Server.Session
import CodeIndex.Proofs.Workspace.Retaining

set_option relaxedAutoImplicit false
set_option autoImplicit false

/-!
# Loading again

When the settings of indexing change, the server does not start over. It drops the files that are
no longer found, and indexes the others in place. That is meant to leave what a load from scratch
would leave, as long as no file is open. This file says exactly how far it does: a file that is
found but cannot be read keeps its old state, and a file without a tree keeps its old symbols,
unless their identifiers are taken by the files that were read.

## Main definitions

* `Server.found`, `Server.reindexed`, `Server.loadedAfresh` — the files that a load finds, and what
  the two ways to load them leave.
* `Workspace.SameContent` — two workspaces have the same text, tree and symbols for a file.

## Main results

* `SymbolList.syncFiles_append` — old symbols survive in front of what a load from scratch stores.
* `Server.reindexed_exact` — what loading again leaves, in terms of what was there before and of
  what a load from scratch leaves.

## Design

Nothing is assumed of identifiers: a file can take the identifier of a symbol of another file away.
-/

namespace CodeIndex

/-! ## Symbols as a list -/

namespace SymbolList

variable {language : Language}

/-- The symbols after several texts were synchronised. -/
def syncFiles (language : Language) (l : List Symbol) (files : List (Uri × String)) :
    List Symbol := files.foldl (syncFile language) l

/-- Whether a symbol survives when a text is synchronised: it belongs to another file, and no new
symbol takes its identifier. -/
def survives (language : Language) (t : Symbol) (file : Uri × String) : Bool :=
  !(language.tree? file.1 file.2).isSome ||
    (!decide (t.uri = file.1) && (language.symbolsOf file).all fun s => !decide (t.id = s.id))

lemma survives_eq_true_iff {t : Symbol} {file : Uri × String} :
    survives language t file = true ↔
      ((language.tree? file.1 file.2).isSome → t.uri ≠ file.1) ∧
        ∀ s ∈ language.symbolsOf file, t.id ≠ s.id := by
  unfold survives Language.symbolsOf
  cases language.tree? file.1 file.2 <;> simp

lemma syncFile_append (l m : List Symbol) (file : Uri × String) :
    syncFile language (l ++ m) file =
      l.filter (survives language · file) ++ syncFile language m file := by
  unfold syncFile survives
  split
  · next htree =>
    rw [deleteFile, List.filter_append, storeAll_append_filter, List.filter_filter]
    refine congrArg (· ++ _) (List.filter_congr fun t _ => ?_)
    rw [htree, Bool.not_true, Bool.false_or, Bool.and_comm]
  · next htree =>
    simp [htree]

/-- Old symbols that survive stay in front of what the same texts store from scratch. -/
lemma syncFiles_append (l m : List Symbol) (files : List (Uri × String)) :
    syncFiles language (l ++ m) files =
      (l.filter fun t => files.all (survives language t)) ++ syncFiles language m files := by
  induction files generalizing l m with
  | nil => simp [syncFiles]
  | cons file files ih =>
    show syncFiles language (syncFile language (l ++ m) file) files = _
    rw [syncFile_append, ih, List.filter_filter]
    refine congrArg (· ++ _) (List.filter_congr fun t _ => ?_)
    rw [List.all_cons, Bool.and_comm]

/-- The identifiers after some symbols were stored. -/
lemma exists_id_storeAll {l ss : List Symbol} {id : String} :
    (∃ t ∈ storeAll l ss, t.id = id) ↔ (∃ t ∈ l, t.id = id) ∨ ∃ t ∈ ss, t.id = id := by
  induction ss generalizing l with
  | nil => simp [storeAll]
  | cons s ss ih =>
    have hstore : (∃ t ∈ store l s, t.id = id) ↔ (∃ t ∈ l, t.id = id) ∨ s.id = id := by
      simp only [store, List.mem_append, List.mem_filter, List.mem_singleton]
      constructor
      · rintro ⟨t, ⟨ht, -⟩ | rfl, hid⟩
        · exact Or.inl ⟨t, ht, hid⟩
        · exact Or.inr hid
      · rintro (⟨t, ht, hid⟩ | hid)
        · -- the symbol itself is still there, or the new one has taken its place
          by_cases hs : t.id = s.id
          · exact ⟨s, Or.inr rfl, hs.symm.trans hid⟩
          · exact ⟨t, Or.inl ⟨ht, by simpa using hs⟩, hid⟩
        · exact ⟨s, Or.inr rfl, hid⟩
    show (∃ t ∈ storeAll (store l s) ss, t.id = id) ↔ _
    rw [ih, hstore, or_assoc]
    simp only [List.mem_cons, exists_eq_or_imp]

/-- Every symbol comes from one of some texts. -/
def ComeFrom (language : Language) (files : List (Uri × String)) (l : List Symbol) : Prop :=
  ∀ s ∈ l, ∃ file ∈ files, s ∈ language.symbolsOf file

/-- Symbols that come from some texts still do when one of the texts is synchronised. -/
lemma ComeFrom.syncFile {files : List (Uri × String)} {l : List Symbol}
    (h : ComeFrom language files l) {file : Uri × String} (hfile : file ∈ files) :
    ComeFrom language files (syncFile language l file) := by
  intro s hs
  rcases mem_syncFile hs with hold | hnew
  · exact h s hold
  · exact ⟨file, hfile, hnew⟩

/-- No identifier is lost when a text is synchronised that was before: whatever is removed comes
back. -/
lemma exists_id_syncFile {files : List (Uri × String)}
    (hsame : ∀ {uri text text'}, (uri, text) ∈ files → (uri, text') ∈ files → text = text')
    {l : List Symbol} (h : ComeFrom language files l) {file : Uri × String} (hfile : file ∈ files)
    {id : String} (hid : (∃ t ∈ l, t.id = id) ∨ ∃ t ∈ language.symbolsOf file, t.id = id) :
    ∃ t ∈ syncFile language l file, t.id = id := by
  unfold syncFile
  split
  · rw [exists_id_storeAll]
    rcases hid with ⟨t, ht, hid⟩ | hnew
    · by_cases huri : t.uri = file.1
      · obtain ⟨before, hbefore, hmem⟩ := h t ht
        have hagain : before.1 = file.1 :=
          (Language.uri_of_mem_symbolsOf hmem).symm.trans huri
        obtain ⟨uri, text⟩ := file
        obtain ⟨uri', text'⟩ := before
        obtain rfl : uri' = uri := hagain
        obtain rfl := hsame hfile hbefore
        exact Or.inr ⟨t, hmem, hid⟩
      · exact Or.inl ⟨t, List.mem_filter.2 ⟨ht, by simpa using huri⟩, hid⟩
    · exact Or.inr hnew
  · next htree =>
    rcases hid with hold | ⟨t, ht, -⟩
    · exact hold
    · unfold Language.symbolsOf at ht
      cases hnone : language.tree? file.1 file.2 with
      | none =>
        rw [hnone] at ht
        cases ht
      | some root =>
        rw [hnone] at htree
        cases htree rfl

section Runs

variable {files rest : List (Uri × String)} {l : List Symbol}

lemma ComeFrom.syncFiles (h : ComeFrom language files l) (hrest : ∀ file ∈ rest, file ∈ files) :
    ComeFrom language files (syncFiles language l rest) := by
  induction rest generalizing l with
  | nil => exact h
  | cons file rest ih =>
    exact ih (h.syncFile (hrest file List.mem_cons_self))
      fun later hlater => hrest later (List.mem_cons_of_mem _ hlater)

lemma exists_id_syncFiles_of_come
    (hsame : ∀ {uri text text'}, (uri, text) ∈ files → (uri, text') ∈ files → text = text')
    (h : ComeFrom language files l) (hrest : ∀ file ∈ rest, file ∈ files) {id : String}
    (hid : (∃ t ∈ l, t.id = id) ∨ ∃ file ∈ rest, ∃ t ∈ language.symbolsOf file, t.id = id) :
    ∃ t ∈ syncFiles language l rest, t.id = id := by
  induction rest generalizing l with
  | nil => exact hid.resolve_right (by simp)
  | cons file rest ih =>
    have hfile := hrest file List.mem_cons_self
    refine ih (h.syncFile hfile)
      (fun later hlater => hrest later (List.mem_cons_of_mem _ hlater)) ?_
    rcases hid with hold | ⟨other, hother, hnew⟩
    · exact Or.inl (exists_id_syncFile hsame h hfile (Or.inl hold))
    · rcases List.mem_cons.1 hother with rfl | hlater
      · exact Or.inl (exists_id_syncFile hsame h hfile (Or.inr hnew))
      · exact Or.inr ⟨other, hlater, hnew⟩

/-- What is stored from scratch comes from the texts. -/
lemma comeFrom_syncFiles (files : List (Uri × String)) :
    ComeFrom language files (syncFiles language [] files) := by
  have hempty : ComeFrom language files [] := fun s hs => by cases hs
  exact hempty.syncFiles fun _ h => h

/-- The identifiers that are stored from scratch are those of the symbols of all texts. -/
lemma exists_id_syncFiles
    (hsame : ∀ {uri text text'}, (uri, text) ∈ files → (uri, text') ∈ files → text = text')
    {id : String} :
    (∃ t ∈ syncFiles language [] files, t.id = id) ↔
      ∃ file ∈ files, ∃ t ∈ language.symbolsOf file, t.id = id := by
  constructor
  · rintro ⟨t, ht, hid⟩
    obtain ⟨file, hfile, hmem⟩ := comeFrom_syncFiles files t ht
    exact ⟨file, hfile, t, hmem, hid⟩
  · intro hid
    refine exists_id_syncFiles_of_come hsame ?_ (fun _ h => h) (Or.inr hid)
    intro s hs
    cases hs

end Runs

end SymbolList

/-! ## The repository follows the list -/

namespace Workspace

variable {language : Language} {w : Workspace}

lemma toList_syncAll (h : w.repository.Consistent) (files : List (Uri × String)) :
    (w.syncAll language files).repository.Consistent ∧
      (w.syncAll language files).repository.toList =
        SymbolList.syncFiles language w.repository.toList files := by
  induction files generalizing w with
  | nil => exact ⟨h, rfl⟩
  | cons file files ih =>
    obtain ⟨hc, hl⟩ := toList_synchronize h file.1 file.2 none
    obtain ⟨hc', hl'⟩ := ih hc
    rw [hl] at hl'
    exact ⟨hc', hl'⟩

@[simp] lemma opened_dropAll (h : w.files.opened = []) (uris : List Uri) :
    (w.dropAll uris).files.opened = [] := by
  induction uris generalizing w with
  | nil => exact h
  | cons uri uris ih =>
    refine ih (w := (w.forget uri).dropSymbols uri) ?_
    show w.files.opened.filter (· ≠ uri) = []
    rw [h, List.filter_nil]

/-- With no file open, a retention leaves the symbols of the files that are kept. -/
lemma symbolsIn_retain (h : w.repository.Consistent) (hopen : w.files.opened = [])
    (keep : List Uri) (uri : Uri) :
    SymbolList.symbolsIn (w.retain keep).1.repository.toList uri =
      if uri ∈ keep then SymbolList.symbolsIn w.repository.toList uri else [] := by
  rw [retain_fst, (toList_dropAll h _).2, SymbolList.symbolsIn, List.filter_filter]
  have hdropped : ∀ s ∈ w.repository.toList,
      (!(w.unretained keep).contains s.uri) = decide (s.uri ∈ keep) := by
    intro s hs
    have hknown : s.uri ∈ w.repository.files := by
      rw [h.mem_files_iff, SymbolList.files, List.mem_dedup]
      exact List.mem_map_of_mem hs
    have hmem : s.uri ∈ w.unretained keep ↔ s.uri ∉ keep := by
      rw [mem_unretained, hopen]
      exact ⟨fun hs => hs.2.1, fun hs => ⟨Or.inl hknown, hs, List.not_mem_nil⟩⟩
    rw [List.contains_eq_mem, decide_eq_decide.2 hmem, decide_not, Bool.not_not]
  by_cases hkeep : uri ∈ keep
  · rw [if_pos hkeep]
    refine List.filter_congr fun s hs => ?_
    rw [hdropped s hs]
    by_cases huri : s.uri = uri
    · rw [huri, decide_eq_true hkeep, Bool.and_true]
    · rw [decide_eq_false huri, Bool.false_and]
  · rw [if_neg hkeep]
    refine List.filter_eq_nil_iff.2 fun s hs hboth => ?_
    rw [hdropped s hs, Bool.and_eq_true, decide_eq_true_eq, decide_eq_true_eq] at hboth
    exact hkeep (hboth.1 ▸ hboth.2)

/-- With no file open, a retention leaves the states of the files that are kept. -/
lemma get?_retain (hopen : w.files.opened = []) (keep : List Uri) (uri : Uri) :
    (w.retain keep).1.files.get? uri = if uri ∈ keep then w.files.get? uri else none := by
  rw [retain_fst, get?_dropAll]
  by_cases hkeep : uri ∈ keep
  · rw [if_pos hkeep, if_neg]
    rw [mem_unretained]
    exact fun h => h.2.1 hkeep
  · rw [if_neg hkeep]
    split
    · rfl
    · next hmem =>
      rw [mem_unretained, hopen] at hmem
      refine OrderedMap.get?_eq_none_iff.2 fun htracked => hmem ?_
      exact ⟨Or.inr htracked, hkeep, List.not_mem_nil⟩

/-- Two workspaces have the same text, tree and symbols for a file. -/
structure SameContent (uri : Uri) (w w' : Workspace) : Prop where
  file : (w.files.get? uri).map (fun file => (file.text, file.root)) =
    (w'.files.get? uri).map fun file => (file.text, file.root)
  symbols : w.repository.symbolsIn uri = w'.repository.symbolsIn uri

end Workspace

/-! ## The two ways to load -/

namespace Server

variable {language : Language} {disk : Disk} {s : Server}

/-- The files that a load under the settings in force finds. -/
def found (language : Language) (disk : Disk) (s : Server) : List Uri :=
  (s.workspace.discover language disk s.settings.indexing.discovery).filterMap Uri.ofPath?

/-- What a load in the background leaves that is not asked to stop. -/
def reindexed (language : Language) (disk : Disk) (s : Server) (reportsProgress : Bool) :
    Workspace :=
  (s.indexWorkspace language disk (fun _ => false) reportsProgress).1.workspace

/-- What a load from scratch leaves, of the same folders and under the same settings. -/
def loadedAfresh (language : Language) (disk : Disk) (s : Server) : Workspace :=
  (s.workspace.load language disk s.workspace.folders s.settings.indexing.discovery
    fun _ => false).1

/-- The files that such a load can read, with their texts. -/
def readFiles (language : Language) (disk : Disk) (s : Server) : List (Uri × String) :=
  readable disk (some s.settings.indexing.maxFileSizeBytes)
    (s.workspace.discover language disk s.settings.indexing.discovery)

/-- Indexing in the background synchronises the files that can be read. -/
lemma workspace_indexPaths (htotal : language.Total) (hopen : s.workspace.files.opened = [])
    (session : ProgressSession) (total done : Nat) (summary : LoadSummary) (paths : List Path) :
    (indexPaths language disk (fun _ => false) session total done summary s paths).1.workspace =
      s.workspace.syncAll language
        (readable disk (some s.settings.indexing.maxFileSizeBytes) paths) := by
  have hindexes := indexes_indexPaths language disk session total done summary s paths
  rw [htotal.untilFault_eq, Workspace.unopened_of_nil hopen] at hindexes
  rw [hindexes.server]

/-- Loading again synchronises the files that can be read, over what a retention left. -/
lemma reindexed_eq (htotal : language.Total) (hopen : s.workspace.files.opened = [])
    (henabled : s.settings.indexing.enabled = true) (reportsProgress : Bool) :
    s.reindexed language disk reportsProgress =
      (s.workspace.retain (s.found language disk)).1.syncAll language
        (s.readFiles language disk) := by
  unfold reindexed indexWorkspace found readFiles
  rw [henabled, Bool.not_true, if_neg Bool.false_ne_true]
  generalize s.workspace.discover language disk s.settings.indexing.discovery = paths
  dsimp only
  split
  · next hempty =>
    rw [List.isEmpty_iff.1 hempty]
    rfl
  · have hretained : (s.workspace.retain (paths.filterMap Uri.ofPath?)).1.files.opened = [] :=
      Workspace.opened_dropAll hopen _
    have hsettings : ∀ s : Server,
        (s.openSession reportsProgress paths.length).1.settings = s.settings := by
      intro s
      unfold openSession
      split <;> rfl
    rw [workspace_indexPaths htotal (by rw [workspace_openSession, hretained]),
      workspace_openSession, hsettings]

/-- A load from scratch synchronises them over nothing. -/
lemma loadedAfresh_eq (htotal : language.Total) :
    s.loadedAfresh language disk =
      (s.workspace.reset s.workspace.folders).syncAll language (s.readFiles language disk) :=
  Workspace.load_fst htotal disk s.workspace s.workspace.folders s.settings.indexing.discovery

/-! ## States -/

/-- After a load from scratch, exactly the files that were read are tracked. -/
lemma get?_loadedAfresh_eq_none (htotal : language.Total) {uri : Uri} :
    (s.loadedAfresh language disk).files.get? uri = none ↔
      ∀ text, (uri, text) ∉ s.readFiles language disk := by
  rw [loadedAfresh_eq htotal]
  constructor
  · intro hnone text hmem
    obtain ⟨parse, hparse⟩ := htotal uri text
    rw [Workspace.get?_syncAll_of_mem hmem
      (fun text' hmem' => text_eq_of_mem_readable hmem' hmem) hparse] at hnone
    cases hnone
  · intro hread
    rw [Workspace.get?_syncAll_of_notMem hread]
    rfl

/-- They have the tree of the text that was read. -/
lemma root_loadedAfresh (htotal : language.Total) {uri : Uri} {text : String}
    (hmem : (uri, text) ∈ s.readFiles language disk) :
    ((s.loadedAfresh language disk).files.get? uri).bind FileState.root =
      language.tree? uri text := by
  obtain ⟨parse, hparse⟩ := htotal uri text
  rw [loadedAfresh_eq htotal, Workspace.get?_syncAll_of_mem hmem
    (fun text' hmem' => text_eq_of_mem_readable hmem' hmem) hparse, Language.tree?, hparse]
  rfl

/-- A file that is found but cannot be read keeps its state; every other file has the state that it
has after a load from scratch. -/
lemma get?_reindexed (htotal : language.Total) (disk : Disk)
    (hopen : s.workspace.files.opened = []) (henabled : s.settings.indexing.enabled = true)
    (reportsProgress : Bool) (uri : Uri) :
    (s.reindexed language disk reportsProgress).files.get? uri =
      if uri ∈ s.found language disk ∧ (s.loadedAfresh language disk).files.get? uri = none then
        s.workspace.files.get? uri
      else (s.loadedAfresh language disk).files.get? uri := by
  rw [reindexed_eq htotal hopen henabled]
  by_cases hread : ∀ text, (uri, text) ∉ s.readFiles language disk
  · have hnone := (get?_loadedAfresh_eq_none htotal).2 hread
    rw [Workspace.get?_syncAll_of_notMem hread, Workspace.get?_retain hopen, hnone]
    simp only [and_true]
  · have hsome := mt (get?_loadedAfresh_eq_none htotal).1 hread
    rw [if_neg fun h => hsome h.2, loadedAfresh_eq htotal]
    obtain ⟨text, hmem⟩ := not_forall_not.1 hread
    obtain ⟨parse, hparse⟩ := htotal uri text
    have hsame : ∀ text', (uri, text') ∈ s.readFiles language disk → text' = text :=
      fun text' hmem' => text_eq_of_mem_readable hmem' hmem
    rw [Workspace.get?_syncAll_of_mem hmem hsame hparse,
      Workspace.get?_syncAll_of_mem hmem hsame hparse]

/-! ## Symbols -/

/-- The symbols after a load from scratch. -/
lemma toList_loadedAfresh (htotal : language.Total) :
    (s.loadedAfresh language disk).repository.Consistent ∧
      (s.loadedAfresh language disk).repository.toList =
        SymbolList.syncFiles language [] (s.readFiles language disk) := by
  rw [loadedAfresh_eq htotal]
  exact Workspace.toList_syncAll (w := s.workspace.reset s.workspace.folders)
    Repository.consistent_empty _

/-- Loading again puts the symbols of a load from scratch behind the old ones that survive. -/
lemma toList_reindexed (htotal : language.Total) (hreach : s.workspace.Reachable language)
    (hopen : s.workspace.files.opened = []) (henabled : s.settings.indexing.enabled = true)
    (reportsProgress : Bool) :
    (s.reindexed language disk reportsProgress).repository.Consistent ∧
      (s.reindexed language disk reportsProgress).repository.toList =
        ((s.workspace.retain (s.found language disk)).1.repository.toList.filter fun t =>
          (s.readFiles language disk).all (SymbolList.survives language t)) ++
            (s.loadedAfresh language disk).repository.toList := by
  rw [reindexed_eq htotal hopen henabled, (toList_loadedAfresh htotal).2,
    ← SymbolList.syncFiles_append, List.append_nil]
  exact Workspace.toList_syncAll (hreach.retain (s.found language disk)).consistent _

/-- Whether a symbol of a file without a tree survives is told by its identifier. -/
lemma all_survives (htotal : language.Total) {t : Symbol}
    (htree : ((s.loadedAfresh language disk).files.get? t.uri).bind FileState.root = none) :
    (s.readFiles language disk).all (SymbolList.survives language t) =
      ((s.loadedAfresh language disk).repository.load? t.id).isNone := by
  obtain ⟨hc, hl⟩ := toList_loadedAfresh (s := s) htotal
  rw [Bool.eq_iff_iff, List.all_eq_true, Option.isNone_iff_eq_none]
  constructor
  · intro hall
    refine Option.eq_none_iff_forall_ne_some.2 fun u hu => ?_
    obtain ⟨hmem, hid⟩ := hc.load?_eq_some_iff.1 hu
    rw [hl] at hmem
    obtain ⟨file, hfile, hsymbol⟩ := SymbolList.comeFrom_syncFiles _ u hmem
    exact (SymbolList.survives_eq_true_iff.1 (hall file hfile)).2 u hsymbol hid.symm
  · rintro hnone ⟨v, text⟩ hfile
    refine SymbolList.survives_eq_true_iff.2 ⟨fun hsome huri => ?_, fun u hu hid => ?_⟩
    · obtain rfl : t.uri = v := huri
      rw [root_loadedAfresh htotal hfile] at htree
      rw [htree] at hsome
      cases hsome
    · have hsame : ∀ {uri text text'}, (uri, text) ∈ s.readFiles language disk →
          (uri, text') ∈ s.readFiles language disk → text = text' := text_eq_of_mem_readable
      obtain ⟨kept, hkept, hkeptid⟩ :=
        (SymbolList.exists_id_syncFiles hsame).2 ⟨(v, text), hfile, u, hu, rfl⟩
      rw [← hl] at hkept
      rw [hc.load?_eq_some_iff.2 ⟨hkept, hkeptid.trans hid.symm⟩] at hnone
      cases hnone

/-- A load from scratch leaves no symbols of a file without a tree. -/
lemma symbolsIn_loadedAfresh_eq_nil (htotal : language.Total) {uri : Uri}
    (htree : ((s.loadedAfresh language disk).files.get? uri).bind FileState.root = none) :
    (s.loadedAfresh language disk).repository.symbolsIn uri = [] := by
  obtain ⟨hc, hl⟩ := toList_loadedAfresh (s := s) htotal
  rw [hc.symbolsIn_eq, hl]
  refine List.filter_eq_nil_iff.2 fun t ht hturi => ?_
  obtain ⟨⟨v, text⟩, hfile, hsymbol⟩ := SymbolList.comeFrom_syncFiles _ t ht
  obtain rfl : v = uri :=
    (Language.uri_of_mem_symbolsOf hsymbol).symm.trans (of_decide_eq_true hturi)
  rw [root_loadedAfresh htotal hfile] at htree
  rw [Language.symbolsOf, htree] at hsymbol
  cases hsymbol

/-- The symbols of a file after loading again: the old ones that survive, if the file is found, in
front of those of a load from scratch. -/
lemma symbolsIn_reindexed_append (htotal : language.Total) (hreach : s.workspace.Reachable language)
    (hopen : s.workspace.files.opened = []) (henabled : s.settings.indexing.enabled = true)
    (reportsProgress : Bool) (uri : Uri) :
    (s.reindexed language disk reportsProgress).repository.symbolsIn uri =
      ((if uri ∈ s.found language disk then s.workspace.repository.symbolsIn uri else []).filter
        fun t => (s.readFiles language disk).all (SymbolList.survives language t)) ++
          (s.loadedAfresh language disk).repository.symbolsIn uri := by
  obtain ⟨hc, -⟩ := toList_loadedAfresh (s := s) htotal
  obtain ⟨hc', hl'⟩ := toList_reindexed htotal hreach hopen henabled reportsProgress
  rw [hc'.symbolsIn_eq, hc.symbolsIn_eq, hreach.consistent.symbolsIn_eq, hl', List.filter_append]
  refine congrArg (· ++ _) ((List.filter_comm _ _ _).trans (congrArg (List.filter _) ?_))
  exact Workspace.symbolsIn_retain hreach.consistent hopen (s.found language disk) uri

/-- No symbol survives of a file that is loaded with a tree. -/
lemma not_all_survives (htotal : language.Total) {t : Symbol}
    (htree : ((s.loadedAfresh language disk).files.get? t.uri).bind FileState.root ≠ none) :
    ¬ (s.readFiles language disk).all (SymbolList.survives language t) = true := by
  intro hall
  have htracked : ¬ (s.loadedAfresh language disk).files.get? t.uri = none := by
    intro hnone
    rw [hnone] at htree
    exact htree rfl
  obtain ⟨text, hfile⟩ := not_forall_not.1 (mt (get?_loadedAfresh_eq_none htotal).2 htracked)
  rw [root_loadedAfresh htotal hfile] at htree
  have hsurvives := List.all_eq_true.1 hall _ hfile
  exact (SymbolList.survives_eq_true_iff.1 hsurvives).1 (Option.isSome_iff_ne_none.2 htree) rfl

/-- A file without a tree keeps those of its symbols whose identifiers are not taken; every other
file has the symbols that it has after a load from scratch. -/
lemma symbolsIn_reindexed (htotal : language.Total) (disk : Disk)
    (hreach : s.workspace.Reachable language) (hopen : s.workspace.files.opened = [])
    (henabled : s.settings.indexing.enabled = true) (reportsProgress : Bool) (uri : Uri) :
    (s.reindexed language disk reportsProgress).repository.symbolsIn uri =
      if uri ∈ s.found language disk ∧
          ((s.loadedAfresh language disk).files.get? uri).bind FileState.root = none then
        (s.workspace.repository.symbolsIn uri).filter fun t =>
          ((s.loadedAfresh language disk).repository.load? t.id).isNone
      else (s.loadedAfresh language disk).repository.symbolsIn uri := by
  have huri : ∀ t ∈ s.workspace.repository.symbolsIn uri, t.uri = uri := by
    intro t ht
    rw [hreach.consistent.symbolsIn_eq] at ht
    exact of_decide_eq_true (List.mem_filter.1 ht).2
  rw [symbolsIn_reindexed_append htotal hreach hopen henabled]
  by_cases hkept : uri ∈ s.found language disk ∧
      ((s.loadedAfresh language disk).files.get? uri).bind FileState.root = none
  · rw [if_pos hkept]
    obtain ⟨hfound, htree⟩ := hkept
    rw [symbolsIn_loadedAfresh_eq_nil htotal htree, List.append_nil, if_pos hfound]
    refine List.filter_congr fun t ht => all_survives htotal ?_
    rwa [huri t ht]
  · rw [if_neg hkept]
    refine (congrArg (· ++ _) ?_).trans (List.nil_append _)
    split
    · next hfound =>
      refine List.filter_eq_nil_iff.2 fun t ht => not_all_survives htotal ?_
      rw [huri t ht]
      exact fun htree => hkept ⟨hfound, htree⟩
    · rfl

/-- **What loading again leaves.** On every reachable server with no file open and with indexing
switched on, compared with a load from scratch of the same folders: a file that is found but cannot
be read keeps its state, and one that is found but has no tree keeps those of its symbols whose
identifiers no loaded symbol takes; everything else is as after a load from scratch. So the two
agree on a file exactly if it had nothing to keep. -/
theorem reindexed_exact (htotal : language.Total) (disk : Disk)
    (hreach : s.workspace.Reachable language) (hopen : s.workspace.files.opened = [])
    (henabled : s.settings.indexing.enabled = true) (reportsProgress : Bool) (uri : Uri) :
    (s.reindexed language disk reportsProgress).files.get? uri =
        (if uri ∈ s.found language disk ∧ (s.loadedAfresh language disk).files.get? uri = none then
          s.workspace.files.get? uri
        else (s.loadedAfresh language disk).files.get? uri) ∧
      (s.reindexed language disk reportsProgress).repository.symbolsIn uri =
        (if uri ∈ s.found language disk ∧
            ((s.loadedAfresh language disk).files.get? uri).bind FileState.root = none then
          (s.workspace.repository.symbolsIn uri).filter fun t =>
            ((s.loadedAfresh language disk).repository.load? t.id).isNone
        else (s.loadedAfresh language disk).repository.symbolsIn uri) ∧
      ((s.reindexed language disk reportsProgress).SameContent uri (s.loadedAfresh language disk) ↔
        (uri ∈ s.found language disk →
          ((s.loadedAfresh language disk).files.get? uri = none →
            s.workspace.files.get? uri = none) ∧
          (((s.loadedAfresh language disk).files.get? uri).bind FileState.root = none →
            ∀ t ∈ s.workspace.repository.symbolsIn uri,
              ((s.loadedAfresh language disk).repository.load? t.id).isSome))) := by
  have hstate := get?_reindexed htotal disk hopen henabled reportsProgress uri
  have hsymbols := symbolsIn_reindexed htotal disk hreach hopen henabled reportsProgress uri
  refine ⟨hstate, hsymbols,
    fun hsame hfound => ⟨fun hnone => ?_, fun htree => ?_⟩, fun hclean => ?_⟩
  · have hfile := hsame.file
    rw [hstate, if_pos ⟨hfound, hnone⟩, hnone, Option.map_none, Option.map_eq_none_iff] at hfile
    exact hfile
  · have hfilter := hsame.symbols
    rw [hsymbols, if_pos ⟨hfound, htree⟩, symbolsIn_loadedAfresh_eq_nil htotal htree,
      List.filter_eq_nil_iff] at hfilter
    intro t ht
    exact Option.isSome_iff_ne_none.2 fun hnone => hfilter t ht (Option.isNone_iff_eq_none.2 hnone)
  · constructor
    · rw [hstate]
      split
      · next hkept => rw [(hclean hkept.1).1 hkept.2, hkept.2]
      · rfl
    · rw [hsymbols]
      split
      · next hkept =>
        rw [symbolsIn_loadedAfresh_eq_nil htotal hkept.2, List.filter_eq_nil_iff]
        intro t ht hnone
        rw [Option.isNone_iff_eq_none] at hnone
        exact Option.isSome_iff_ne_none.1 ((hclean hkept.1).2 hkept.2 t ht) hnone
      · rfl

/-- A disk with a single file, of some content. -/
def diskWith (content : Content) : Disk := ⟨.ofList [(["a"], .file content)]⟩

/-- A server that has loaded a file with a tree. -/
def loadedServer : Server :=
  (Session.run Workspace.twinLanguage
    [.received .empty (.request (.connect ⟨none, {}, some [⟨"file:///"⟩], none⟩)),
      .received .empty (.notification .ready), .settled (diskWith (.text "a"))]).server

/-- The file can no longer be read: loading again leaves the state that it had. -/
theorem reindexed_exact_unreadable :
    (loadedServer.reindexed Workspace.twinLanguage (diskWith (.bytes [0xFF])) false).files.get?
        ⟨"file:///a"⟩ = loadedServer.workspace.files.get? ⟨"file:///a"⟩ := by
  have htotal : Workspace.twinLanguage.Total := fun _ _ => ⟨_, rfl⟩
  have hstate := (reindexed_exact htotal (diskWith (.bytes [0xFF]))
    (Session.reachable_run Workspace.twinLanguage _) (s := loadedServer) (by decide) (by decide)
    false ⟨"file:///a"⟩).1
  exact hstate.trans (if_pos (by decide))

/-- Nothing is open and indexing is switched on, but a load from scratch leaves neither the text nor
the symbols. -/
theorem stale_after_reindexing :
    loadedServer.workspace.files.opened = [] ∧ loadedServer.settings.indexing.enabled = true ∧
      ((loadedServer.reindexed Workspace.twinLanguage (diskWith (.bytes [0xFF])) false).files.get?
        ⟨"file:///a"⟩).map FileState.text = some "a" ∧
      ((loadedServer.loadedAfresh Workspace.twinLanguage (diskWith (.bytes [0xFF]))).files.get?
        ⟨"file:///a"⟩).map FileState.text = none ∧
      ((loadedServer.reindexed Workspace.twinLanguage (diskWith (.bytes [0xFF]))
        false).repository.symbolsIn ⟨"file:///a"⟩).length = 2 ∧
      ((loadedServer.loadedAfresh Workspace.twinLanguage
        (diskWith (.bytes [0xFF]))).repository.symbolsIn ⟨"file:///a"⟩).length = 0 := by
  decide

end Server

end CodeIndex
