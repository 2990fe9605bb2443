import Mathlib.Data.List.Induction
import Mathlib.Data.List.Nodup
import CodeIndex.Proofs.Repository.Refinement
import CodeIndex.Proofs.Symbol.Identifiers
import CodeIndex.Proofs.Workspace.Operations

set_option relaxedAutoImplicit false
set_option autoImplicit false

/-!
# One generation of symbols for each file

A file has the symbols of one tree only: that of the latest text with a tree since the file was
last dropped. This file keeps a history of what the operations of a run did to the texts of files,
reads the current generation of a file off the history, and shows that the repository holds exactly
that generation, whatever the operations were and in whatever order they came.

## Main definitions

* `SymbolList.syncFile` — what a text does to the list of symbols.
* `Workspace.Event` — a text was synchronised, a file was dropped, or all but some files were.
* `Workspace.history` — the events of a run.
* `Workspace.generation` — the latest tree of a file since the file was last dropped.
* `Workspace.Tracks` — the invariant that ties a workspace to the history of its run.

## Main results

* `Workspace.Tracks.apply` — every operation keeps the invariant.
* `Workspace.symbolsIn_run` — in every run, the symbols of a file are those of its generation.

## Design

Whether an operation synchronises a text depends on the open marks, the tracked texts and the disk,
never on the repository; so the history is a description of the run that does not mention symbols.
The invariant needs more than its conclusion: the indices of the repository have to be in step, and
every stored identifier has to belong to the file of its symbol, since otherwise a commit for one
file could evict a symbol of another.
-/

namespace CodeIndex

/-- The tree that a text has, if the parser recovers one. -/
def Language.tree? (language : Language) (uri : Uri) (text : String) : Option Node :=
  match language.parse uri text with
  | .ok parse => parse.root
  | .error _ => none

/-- The parser comes to an end with a text that has a tree. -/
lemma Language.exists_parse_of_tree? {language : Language} {uri : Uri} {text : String} {root : Node}
    (h : language.tree? uri text = some root) :
    ∃ parse, language.parse uri text = .ok parse ∧ parse.root = some root := by
  unfold tree? at h
  split at h
  · next parse hparse => exact ⟨parse, hparse, h⟩
  · cases h

/-- The nodes of every tree that the parser hands out can be told apart. -/
def Language.DistinctNodes (language : Language) : Prop :=
  ∀ {uri text root}, language.tree? uri text = some root → root.Identified

/-- The symbols of a tree all belong to its file. -/
lemma Extraction.symbolsIn_extract (uri : Uri) (root : Node) (ids : IdScheme) (byName : Bool) :
    SymbolList.symbolsIn (extract uri root ids byName) uri = extract uri root ids byName :=
  List.filter_eq_self.2 fun _ hs => decide_eq_true (uri_of_mem_extract hs)

/-- The symbols that a text brings with it; none if it has no tree. -/
def Language.symbolsOf (language : Language) (file : Uri × String) : List Symbol :=
  (language.tree? file.1 file.2).elim [] fun root =>
    Extraction.extract file.1 root language.ids language.resolveByName

lemma Language.uri_of_mem_symbolsOf {language : Language} {file : Uri × String} {s : Symbol}
    (h : s ∈ language.symbolsOf file) : s.uri = file.1 := by
  unfold symbolsOf at h
  cases htree : language.tree? file.1 file.2 with
  | none =>
    rw [htree] at h
    cases h
  | some root =>
    rw [htree] at h
    exact Extraction.uri_of_mem_extract h

namespace SymbolList

variable {language : Language}

/-- The symbols after a text was synchronised. -/
def syncFile (language : Language) (l : List Symbol) (file : Uri × String) : List Symbol :=
  if (language.tree? file.1 file.2).isSome then
    storeAll (deleteFile l file.1) (language.symbolsOf file)
  else l

lemma syncFile_of_none {l : List Symbol} {file : Uri × String}
    (h : language.tree? file.1 file.2 = none) : syncFile language l file = l := by
  rw [syncFile, h]
  rfl

lemma syncFile_of_some {l : List Symbol} {file : Uri × String} {root : Node}
    (h : language.tree? file.1 file.2 = some root) :
    syncFile language l file = storeAll (deleteFile l file.1)
      (Extraction.extract file.1 root language.ids language.resolveByName) := by
  rw [syncFile, Language.symbolsOf, h]
  rfl

/-- A symbol was there before a text was synchronised, or it comes from the text. -/
lemma mem_syncFile {l : List Symbol} {file : Uri × String} {s : Symbol}
    (h : s ∈ syncFile language l file) : s ∈ l ∨ s ∈ language.symbolsOf file := by
  unfold syncFile at h
  split at h
  · rcases mem_storeAll h with hold | hnew
    · exact .inl (List.mem_filter.1 hold).1
    · exact .inr hnew
  · exact .inl h

end SymbolList

namespace Workspace

/-- The commit of a tree stores its symbols, whatever their identifiers are, behind those of the
other files. -/
lemma toList_commitTree (language : Language) {r : Repository} (h : r.Consistent) (uri : Uri)
    (root : Node) :
    (commitTree language r uri root).1.Consistent ∧
      (commitTree language r uri root).1.toList =
        SymbolList.storeAll (SymbolList.deleteFile r.toList uri)
          (Extraction.extract uri root language.ids language.resolveByName) := by
  obtain ⟨hc, hl⟩ := h.commit uri
    (Extraction.extract uri root language.ids language.resolveByName)
  rw [SymbolList.replaceFile, Extraction.symbolsIn_extract] at hl
  exact ⟨hc, hl⟩

/-- A synchronisation changes the symbols as the list says. -/
lemma toList_synchronize {language : Language} {w : Workspace} (h : w.repository.Consistent)
    (uri : Uri) (text : String) (version : Option Int) :
    (w.synchronize language uri text version).1.repository.Consistent ∧
      (w.synchronize language uri text version).1.repository.toList =
        SymbolList.syncFile language w.repository.toList (uri, text) := by
  rw [synchronize_fst]
  cases hparse : language.parse uri text with
  | error fault =>
    have htree : language.tree? uri text = none := by rw [Language.tree?, hparse]
    exact ⟨h, (SymbolList.syncFile_of_none htree).symm⟩
  | ok parse =>
    have htree : language.tree? uri text = parse.root := by rw [Language.tree?, hparse]
    dsimp only
    rw [repository_commitParse]
    cases hroot : parse.root with
    | none => exact ⟨h, (SymbolList.syncFile_of_none (htree.trans hroot)).symm⟩
    | some root =>
      obtain ⟨hc, hl⟩ := toList_commitTree language h uri root
      refine ⟨hc, hl.trans ?_⟩
      rw [SymbolList.syncFile_of_some (htree.trans hroot)]

/-! ## Histories -/

/-- What an operation did to the texts of files. -/
inductive Event where
  | synchronized (uri : Uri) (text : String)
  | removed (uri : Uri)
  /-- Every file was dropped but those kept. -/
  | cleared (kept : List Uri)

section History

variable (language : Language) (disk : Disk)

/-- The events of a load that starts with no file open. It ends when the parser breaks off, or when
it is asked to stop. -/
def loadEvents (limit : Option Nat) (stops : Nat → Bool) : (done : Nat) → List Path → List Event
  | _, [] => []
  | done, path :: paths =>
    if stops done then []
    else
      match Uri.ofPath? path, readSource disk path limit with
      | some uri, .ok text =>
        match language.parse uri text with
        | .error _ => []
        | .ok _ => .synchronized uri text :: loadEvents limit stops (done + 1) paths
      | _, _ => loadEvents limit stops (done + 1) paths

/-- The events of a load, from a workspace that is started over. -/
def freshLoadEvents (w : Workspace) (folders : List Uri) (options : DiscoveryOptions)
    (stops : Nat → Bool) : List Event :=
  .cleared [] :: loadEvents language disk options.maxBytes stops 0
    ((w.reset folders).discover language disk options)

/-- The events of an operation. -/
def Operation.events (w : Workspace) : Operation → List Event
  | .synchronize uri text _ => [.synchronized uri text]
  | .openFile uri text _ => [.synchronized uri text]
  | .change uri text _ => [.synchronized uri text]
  | .save uri text =>
    match savedText disk w uri text with
    | .error _ => []
    | .ok saved => [.synchronized uri saved]
  | .close uri =>
    match readUri disk uri with
    | .error _ => [.removed uri]
    | .ok text => [.synchronized uri text]
  | .delete uri => [.removed uri]
  | .rename old new =>
    .removed old ::
      if language.handlesUri new then
        match renamedText disk w old new with
        | none => []
        | some text => [.synchronized new text]
      else []
  | .retain keep => [.cleared (keep ++ w.files.opened)]
  | .indexFile uri text => if w.files.isOpen uri then [] else [.synchronized uri text]
  | .refresh uri =>
    if w.files.isOpen uri || !language.handlesUri uri then []
    else
      match readUri disk uri with
      | .error _ => []
      | .ok text => [.synchronized uri text]
  | .reset _ => [.cleared []]
  | .load folders options stops => freshLoadEvents language disk w folders options stops

end History

variable (language : Language)

/-- The events of a run. -/
def history (w : Workspace) : List (Disk × Operation) → List Event
  | [] => []
  | (disk, op) :: ops => op.events language disk w ++ history (op.apply language disk w) ops

/-- The current tree of a file after one more event. A text without a tree changes nothing. -/
def Event.step (uri : Uri) (tree : Option Node) : Event → Option Node
  | .synchronized v text => if v = uri then (language.tree? uri text).or tree else tree
  | .removed v => if v = uri then none else tree
  | .cleared kept => if uri ∈ kept then tree else none

/-- The latest tree that was synchronised for a file since the file was last dropped. -/
def generation (uri : Uri) (events : List Event) : Option Node :=
  events.foldl (Event.step language uri) none

/-- The symbols that a generation brings into the repository: those of its tree, one for each
identifier. -/
def stored (uri : Uri) : Option Node → List Symbol
  | none => []
  | some root =>
    SymbolList.storeAll []
      (Extraction.extract uri root language.ids language.resolveByName)

@[simp] lemma generation_append_singleton (uri : Uri) (events : List Event) (e : Event) :
    generation language uri (events ++ [e]) =
      e.step language uri (generation language uri events) := by
  simp only [generation, List.foldl_append, List.foldl_cons, List.foldl_nil]

lemma generation_append_removed (uri : Uri) (events : List Event) (uris : List Uri) :
    generation language uri (events ++ uris.map .removed) =
      if uri ∈ uris then none else generation language uri events := by
  induction uris generalizing events with
  | nil => simp
  | cons v uris ih =>
    rw [List.map_cons, List.append_cons, ih, generation_append_singleton]
    by_cases hv : v = uri
    · simp [Event.step, hv]
    · have hv' : ¬ uri = v := fun h => hv h.symm
      simp [Event.step, hv, hv']

/-- A text without a tree ends no generation. -/
lemma generation_append_treeless {uri : Uri} {text : String}
    (htree : language.tree? uri text = none) (v : Uri) (events : List Event) :
    generation language v (events ++ [.synchronized uri text]) = generation language v events := by
  rw [generation_append_singleton, Event.step]
  split
  · next hv => rw [← hv, htree, Option.none_or]
  · rfl

/-! ## The invariant -/

/-- The workspace holds what the history of its run says. -/
structure Tracks (w : Workspace) (events : List Event) : Prop where
  /-- The indices of the repository are in step. -/
  consistent : w.repository.Consistent
  /-- Every stored identifier belongs to the file of its symbol. -/
  owned : ∀ s ∈ w.repository.toList, Extraction.Positional s.uri s.id
  /-- The symbols of a file are those of its generation. -/
  symbols : ∀ uri, SymbolList.symbolsIn w.repository.toList uri =
    stored language uri (generation language uri events)
  /-- A tree in the state of a file is the generation of the file. -/
  files : ∀ {uri file root}, w.files.get? uri = some file → file.root = some root →
    generation language uri events = some root

variable {language} {w : Workspace} {events : List Event}

namespace Tracks

/-- Forgetting states of files, like opening and closing files, does not touch the invariant. -/
lemma of_files (h : Tracks language w events) {w' : Workspace}
    (hrepo : w'.repository = w.repository)
    (hfiles : ∀ {uri file}, w'.files.get? uri = some file → w.files.get? uri = some file) :
    Tracks language w' events where
  consistent := hrepo ▸ h.consistent
  owned := hrepo ▸ h.owned
  symbols := hrepo ▸ h.symbols
  files := fun hf hroot => h.files (hfiles hf) hroot

lemma forget (h : Tracks language w events) (uri : Uri) : Tracks language (w.forget uri) events := by
  refine h.of_files rfl fun {v file} hf => ?_
  rw [get?_forget] at hf
  split at hf
  · cases hf
  · exact hf

lemma markOpen (h : Tracks language w events) (uri : Uri) :
    Tracks language { w with files := w.files.markOpen uri } events :=
  h.of_files rfl fun {v _} hf => (FileStore.get?_markOpen w.files uri v).symm.trans hf

lemma markClosed (h : Tracks language w events) (uri : Uri) :
    Tracks language { w with files := w.files.markClosed uri } events :=
  h.of_files rfl fun hf => hf

/-- A file without a symbol and without a state may as well have no generation. -/
lemma of_generation (h : Tracks language w events) {events' : List Event}
    (hgen : ∀ uri, generation language uri events' = generation language uri events ∨
      generation language uri events' = none ∧ w.files.get? uri = none ∧
        SymbolList.symbolsIn w.repository.toList uri = []) :
    Tracks language w events' where
  consistent := h.consistent
  owned := h.owned
  symbols := by
    intro uri
    rcases hgen uri with hsame | ⟨hnone, -, hempty⟩
    · rw [hsame, h.symbols]
    · rw [hnone, hempty, stored]
  files := by
    intro uri file root hf hroot
    rcases hgen uri with hsame | ⟨-, hnone, -⟩
    · rw [hsame]
      exact h.files hf hroot
    · rw [hnone] at hf
      cases hf

/-! ## Synchronising a text -/

/-- A commit for one file leaves the symbols of the other files where they are: no identifier of
the new symbols is in use elsewhere. -/
lemma toList_commitTree (h : Tracks language w events) (hids : language.ids = .position) (uri : Uri)
    (root : Node) :
    (commitTree language w.repository uri root).1.Consistent ∧
      (commitTree language w.repository uri root).1.toList =
        SymbolList.deleteFile w.repository.toList uri ++ stored language uri (some root) := by
  obtain ⟨hc, hl⟩ := Workspace.toList_commitTree language h.consistent uri root
  refine ⟨hc, hl.trans ?_⟩
  have hne : ∀ t ∈ SymbolList.deleteFile w.repository.toList uri,
      ∀ s ∈ Extraction.extract uri root language.ids language.resolveByName, t.id ≠ s.id := by
    intro t ht s hs heq
    obtain ⟨htmem, hturi⟩ := List.mem_filter.1 ht
    rw [hids] at hs
    have huri : t.uri = uri :=
      (h.owned t htmem).uri_eq (heq ▸ Extraction.positional_of_mem_extract hs)
    simp [huri] at hturi
  have happend := SymbolList.storeAll_append hne []
  rwa [List.append_nil] at happend

/-- The symbols of a file after its symbols were replaced. -/
lemma symbolsIn_deleteFile_append {l m : List Symbol} {uri : Uri} (hm : ∀ s ∈ m, s.uri = uri)
    (v : Uri) :
    SymbolList.symbolsIn (SymbolList.deleteFile l uri ++ m) v =
      if v = uri then m else SymbolList.symbolsIn l v := by
  unfold SymbolList.symbolsIn SymbolList.deleteFile
  rw [List.filter_append, List.filter_filter]
  split
  · next hv =>
    subst hv
    have hnone : l.filter (fun s => decide (s.uri = v) && !decide (s.uri = v)) = [] :=
      List.filter_eq_nil_iff.2 fun s _ => by simp
    have hall : m.filter (fun s => decide (s.uri = v)) = m :=
      List.filter_eq_self.2 fun s hs => decide_eq_true (hm s hs)
    rw [hnone, hall, List.nil_append]
  · next hv =>
    have hnone : m.filter (fun s => decide (s.uri = v)) = [] :=
      List.filter_eq_nil_iff.2 fun s hs hsv =>
        hv ((of_decide_eq_true hsv).symm.trans (hm s hs))
    have hsame : l.filter (fun s => decide (s.uri = v) && !decide (s.uri = uri)) =
        l.filter fun s => decide (s.uri = v) := by
      refine List.filter_congr fun s _ => ?_
      by_cases hs : s.uri = v
      · simp [hs, hv]
      · simp [hs]
    rw [hnone, hsame, List.append_nil]

lemma mem_stored {uri : Uri} {tree : Option Node} {s : Symbol}
    (hids : language.ids = .position) (hs : s ∈ stored language uri tree) :
    s.uri = uri ∧ Extraction.Positional uri s.id := by
  cases tree with
  | none => cases hs
  | some root =>
    rcases SymbolList.mem_storeAll hs with hnil | hmem
    · cases hnil
    · rw [hids] at hmem
      exact ⟨Extraction.uri_of_mem_extract hmem, Extraction.positional_of_mem_extract hmem⟩

/-- A tree in the state of a file is its generation after a parse was taken over. -/
lemma files_commitParse (h : Tracks language w events) {uri : Uri} {text : String} {parse : Parse}
    (htree : language.tree? uri text = parse.root) (version : Option Int) {v : Uri}
    {file : FileState} {root : Node}
    (hfile : (w.commitParse language uri text version parse).1.files.get? v = some file)
    (hroot : file.root = some root) :
    generation language v (events ++ [.synchronized uri text]) = some root := by
  rw [get?_commitParse] at hfile
  rw [generation_append_singleton, Event.step]
  split at hfile
  · next hv =>
    obtain rfl := Option.some.inj hfile
    have hparsed : parse.root = some root := hroot
    rw [if_pos hv.symm, hv, htree, hparsed, Option.some_or]
  · next hv =>
    rw [if_neg fun heq => hv heq.symm]
    exact h.files hfile hroot

/-- **Synchronising a text starts a new generation of its file**, if the text has a tree. -/
lemma synchronize (h : Tracks language w events) (hids : language.ids = .position) (uri : Uri)
    (text : String) (version : Option Int) :
    Tracks language (w.synchronize language uri text version).1
      (events ++ [.synchronized uri text]) := by
  have hstep : ∀ v, generation language v (events ++ [.synchronized uri text]) =
      if uri = v then (language.tree? v text).or (generation language v events)
      else generation language v events := fun v => generation_append_singleton ..
  rw [synchronize_fst]
  cases hparse : language.parse uri text with
  | error fault =>
    have htree : language.tree? uri text = none := by rw [Language.tree?, hparse]
    exact h.of_generation fun v => Or.inl (generation_append_treeless language htree v events)
  | ok parse =>
    have hparsed : language.tree? uri text = parse.root := by rw [Language.tree?, hparse]
    dsimp only
    have hrepo := repository_commitParse language w uri text version parse
    cases hroot : parse.root with
    | none =>
      have htree := hparsed.trans hroot
      rw [hroot] at hrepo
      refine ⟨hrepo ▸ h.consistent, hrepo ▸ h.owned, fun v => ?_, h.files_commitParse hparsed version⟩
      rw [hrepo, h.symbols, generation_append_treeless language htree]
    | some root =>
      have htree := hparsed.trans hroot
      rw [hroot] at hrepo
      obtain ⟨hc, hl⟩ := h.toList_commitTree hids uri root
      have hlist : (w.commitParse language uri text version parse).1.repository.toList =
          SymbolList.deleteFile w.repository.toList uri ++ stored language uri (some root) := by
        rw [hrepo]
        exact hl
      refine ⟨hrepo ▸ hc, ?_, fun v => ?_, h.files_commitParse hparsed version⟩
      · intro s hs
        rw [hlist] at hs
        rcases List.mem_append.1 hs with hold | hnew
        · exact h.owned s (List.mem_filter.1 hold).1
        · obtain ⟨huri, hpos⟩ := mem_stored hids hnew
          rwa [huri]
      · rw [hlist, symbolsIn_deleteFile_append fun s hs => (mem_stored hids hs).1, hstep]
        split
        · next hv => rw [if_pos hv.symm, hv, htree, Option.some_or]
        · next hv => rw [if_neg fun heq => hv heq.symm, h.symbols]

/-! ## Dropping files -/

/-- Dropping a file ends its generation. -/
lemma drop (h : Tracks language w events) (uri : Uri) :
    Tracks language ((w.forget uri).dropSymbols uri) (events ++ [.removed uri]) := by
  have hstep : ∀ v, generation language v (events ++ [.removed uri]) =
      if uri = v then none else generation language v events :=
    fun v => generation_append_singleton ..
  have hlist : ((w.forget uri).dropSymbols uri).repository.toList =
      SymbolList.deleteFile w.repository.toList uri ++ [] := by
    rw [List.append_nil]
    exact h.consistent.toList_deleteFile uri
  refine ⟨h.consistent.deleteFile uri, fun s hs => ?_, fun v => ?_, fun {v file root} hf hroot => ?_⟩
  · rw [hlist, List.append_nil] at hs
    exact h.owned s (List.mem_filter.1 hs).1
  · rw [hlist, symbolsIn_deleteFile_append (by simp), hstep]
    split
    · next hv => rw [if_pos hv.symm, stored]
    · next hv => rw [if_neg fun heq => hv heq.symm, h.symbols]
  · rw [get?_drop] at hf
    split at hf
    · cases hf
    · next hv =>
      rw [hstep, if_neg fun heq => hv heq.symm]
      exact h.files hf hroot

lemma dropAll (h : Tracks language w events) (uris : List Uri) :
    Tracks language (w.dropAll uris) (events ++ uris.map .removed) := by
  induction uris generalizing w events with
  | nil =>
    rw [List.map_nil, List.append_nil]
    exact h
  | cons uri uris ih =>
    rw [List.map_cons, List.append_cons]
    exact ih (h.drop uri)

/-- A file that is not listed has no symbols. -/
lemma symbolsIn_eq_nil (h : Tracks language w events) {uri : Uri} (huri : uri ∉ w.repository.files) :
    SymbolList.symbolsIn w.repository.toList uri = [] := by
  refine List.filter_eq_nil_iff.2 fun s hs hsuri => huri ?_
  rw [h.consistent.mem_files_iff, SymbolList.files, List.mem_dedup]
  exact List.mem_map.2 ⟨s, hs, of_decide_eq_true hsuri⟩

/-- A retention ends the generations of the files that are neither kept nor open. -/
lemma retain (h : Tracks language w events) (keep : List Uri) :
    Tracks language (w.retain keep).1 (events ++ [.cleared (keep ++ w.files.opened)]) := by
  have hdropped := h.dropAll (w.unretained keep)
  rw [retain_fst]
  refine hdropped.of_generation fun uri => ?_
  have hsymbols := hdropped.symbols uri
  rw [generation_append_singleton, generation_append_removed]
  rw [generation_append_removed] at hsymbols
  by_cases hkept : uri ∈ keep ++ w.files.opened
  · have hnot : uri ∉ w.unretained keep := by
      rw [mem_unretained]
      rintro ⟨-, hkeep, hopen⟩
      exact (List.mem_append.1 hkept).elim hkeep hopen
    exact Or.inl (by rw [if_neg hnot, Event.step, if_pos hkept])
  · by_cases hmem : uri ∈ w.unretained keep
    · exact Or.inl (by rw [if_pos hmem, Event.step, if_neg hkept])
    · -- the file is unknown: it has no symbols to lose
      have hunknown : uri ∉ w.repository.files ∧ uri ∉ w.files.uris := by
        rw [List.mem_append, not_or] at hkept
        rw [mem_unretained] at hmem
        exact not_or.1 fun hknown => hmem ⟨hknown, hkept⟩
      refine Or.inr ⟨by rw [Event.step, if_neg hkept], ?_, ?_⟩
      · rw [get?_dropAll, if_neg hmem]
        exact OrderedMap.get?_eq_none_iff.2 hunknown.2
      · rw [hsymbols, if_neg hmem, ← h.symbols, h.symbolsIn_eq_nil hunknown.1]

/-- A workspace without files and symbols has no generations. -/
lemma of_empty (hfiles : w.files = .empty) (hrepo : w.repository = .empty)
    (hgen : ∀ uri, generation language uri events = none) : Tracks language w events where
  consistent := hrepo ▸ Repository.consistent_empty
  owned := by
    intro s hs
    rw [hrepo] at hs
    cases hs
  symbols := by
    intro uri
    rw [hrepo, hgen, stored]
    rfl
  files := by
    intro uri file root hf
    rw [hfiles] at hf
    cases hf

lemma reset (w : Workspace) (events : List Event) (folders : List Uri) :
    Tracks language (w.reset folders) (events ++ [.cleared []]) :=
  of_empty rfl rfl fun uri => by
    rw [generation_append_singleton, Event.step, if_neg List.not_mem_nil]

/-! ## Loading -/

/-- Indexing synchronises the text, unless the file is open. -/
lemma indexFile (h : Tracks language w events) (hids : language.ids = .position) (uri : Uri)
    (text : String) :
    Tracks language (w.indexFile language uri text).1
      (events ++ if w.files.isOpen uri then [] else [.synchronized uri text]) := by
  rw [indexFile_fst]
  split
  · rwa [List.append_nil]
  · exact h.synchronize hids uri text none

/-- Each file that a load reads starts a generation. -/
lemma loadFiles (hids : language.ids = .position) (disk : Disk) (limit : Option Nat)
    (stops : Nat → Bool) (done : Nat) (summary : LoadSummary) (paths : List Path)
    (h : Tracks language w events) (hopen : w.files.opened = []) :
    Tracks language (w.loadFiles language disk limit stops done summary paths).1
      (events ++ loadEvents language disk limit stops done paths) := by
  induction paths generalizing done w events summary with
  | nil =>
    rw [loadEvents, List.append_nil]
    exact h
  | cons path paths ih =>
    unfold Workspace.loadFiles loadEvents
    split
    · rwa [List.append_nil]
    · cases hpath : Uri.ofPath? path with
      | none => exact ih _ _ h hopen
      | some uri =>
        cases hread : readSource disk path limit with
        | error e => exact ih _ _ h hopen
        | ok text =>
          have hclosed : w.files.isOpen uri = false := by rw [FileStore.isOpen, hopen]; rfl
          have hsync := h.synchronize hids uri text none
          dsimp only
          unfold Workspace.indexFile Workspace.synchronize at *
          cases hparse : language.parse uri text with
          | error fault =>
            simp only [hclosed, Bool.false_eq_true, ↓reduceIte, List.append_nil]
            exact h
          | ok parse =>
            rw [hparse] at hsync
            simp only [hclosed, Bool.false_eq_true, ↓reduceIte]
            rw [List.append_cons]
            exact ih _ _ hsync hopen

/-! ## Runs -/

lemma load (hids : language.ids = .position) (disk : Disk) (w : Workspace) (events : List Event)
    (folders : List Uri) (options : DiscoveryOptions) (stops : Nat → Bool) :
    Tracks language (w.load language disk folders options stops).1
      (events ++ freshLoadEvents language disk w folders options stops) := by
  rw [freshLoadEvents, List.append_cons]
  exact loadFiles hids disk _ _ _ _ _ (reset w events folders) rfl

/-- Every operation keeps the invariant. -/
lemma apply (h : Tracks language w events) (hids : language.ids = .position) (disk : Disk)
    (op : Operation) :
    Tracks language (op.apply language disk w) (events ++ op.events language disk w) := by
  cases op with
  | synchronize uri text version => exact h.synchronize hids uri text version
  | openFile uri text version => exact (h.markOpen uri).synchronize hids uri text (some version)
  | change uri text version => exact h.synchronize hids uri text (some version)
  | save uri text =>
    simp only [Operation.apply, Operation.events, save_fst]
    cases savedText disk w uri text with
    | error e => rwa [List.append_nil]
    | ok saved => exact h.synchronize hids uri saved _
  | close uri =>
    simp only [Operation.apply, Operation.events, close_fst]
    cases readUri disk uri with
    | error e => exact (h.markClosed uri).drop uri
    | ok text =>
      have hsync := (h.markClosed uri).synchronize hids uri text none
      dsimp only
      generalize Workspace.synchronize language { w with files := w.files.markClosed uri } uri text
        none = outcome at hsync ⊢
      rcases outcome with ⟨w', fault | report⟩
      · exact hsync
      · exact hsync.forget uri
  | delete uri => exact h.drop uri
  | rename old new =>
    have hdrop := h.drop old
    simp only [Operation.apply, Operation.events, rename_fst]
    rw [List.append_cons]
    split
    · cases renamedText disk w old new with
      | none => rwa [List.append_nil]
      | some text =>
        refine Tracks.synchronize ?_ hids new text none
        exact carriedOver_induction (P := fun v => Tracks language v _) hdrop (hdrop.markOpen new)
    · rwa [List.append_nil]
  | retain keep => exact h.retain keep
  | indexFile uri text => exact h.indexFile hids uri text
  | refresh uri =>
    simp only [Operation.apply, Operation.events, refresh_fst]
    split
    · rwa [List.append_nil]
    · cases readUri disk uri with
      | error e => rwa [List.append_nil]
      | ok text => exact h.synchronize hids uri text none
  | reset folders => exact reset w events folders
  | load folders options stops => exact load hids disk w events folders options stops

/-- Every run does. -/
lemma run (h : Tracks language w events) (hids : language.ids = .position)
    (ops : List (Disk × Operation)) :
    Tracks language (w.run language ops) (events ++ history language w ops) := by
  induction ops generalizing w events with
  | nil => rwa [history, List.append_nil]
  | cons step ops ih =>
    obtain ⟨disk, op⟩ := step
    rw [history, ← List.append_assoc]
    exact ih (h.apply hids disk op)

/-- The invariant holds of a run from the empty workspace on. -/
lemma run_empty (hids : language.ids = .position) (ops : List (Disk × Operation)) :
    Tracks language (Workspace.run language .empty ops) (history language .empty ops) := by
  have hempty : Tracks language .empty [] := of_empty rfl rfl fun _ => rfl
  exact hempty.run hids ops

end Tracks

/-- The tree of a generation is one that the parser handed out for the file. -/
lemma exists_tree_of_generation {uri : Uri} {root : Node}
    (h : generation language uri events = some root) :
    ∃ text, language.tree? uri text = some root := by
  induction events using List.reverseRecOn with
  | nil => cases h
  | append_singleton events e ih =>
    rw [generation_append_singleton] at h
    cases e with
    | synchronized v text =>
      rw [Event.step] at h
      split at h
      · cases htree : language.tree? uri text with
        | none =>
          rw [htree, Option.none_or] at h
          exact ih h
        | some tree =>
          rw [htree, Option.some_or] at h
          exact ⟨text, by rw [htree, h]⟩
      · exact ih h
    | removed v =>
      rw [Event.step] at h
      split at h
      · cases h
      · exact ih h
    | cleared kept =>
      rw [Event.step] at h
      split at h
      · exact ih h
      · cases h

/-- A tree of distinct nodes has distinct identifiers, so that all its symbols are stored. -/
lemma stored_eq_extract (hids : language.ids = .position) (uri : Uri) {root : Node}
    (h : root.Identified) :
    stored language uri (some root) =
      Extraction.extract uri root .position language.resolveByName := by
  rw [stored, hids]
  exact SymbolList.storeAll_of_nodup (Extraction.nodup_extract language.resolveByName h)

/-- **A file has the symbols of one generation.** After any run from the empty workspace, the
symbols of a file are those of the latest tree that was synchronised for it since it was last
dropped, in the order of extraction; there are none if there is no such tree. A tree in the state
of a file is that tree. -/
theorem symbolsIn_run (hids : language.ids = .position) (hnodes : language.DistinctNodes)
    (ops : List (Disk × Operation)) (uri : Uri) :
    (run language .empty ops).repository.symbolsIn uri =
        (generation language uri (history language .empty ops)).elim []
          (fun root => Extraction.extract uri root .position language.resolveByName) ∧
      ∀ file root, (run language .empty ops).files.get? uri = some file →
        file.root = some root →
          (run language .empty ops).repository.symbolsIn uri =
            Extraction.extract uri root .position language.resolveByName := by
  have h := Tracks.run_empty hids ops
  have hsymbols : (run language .empty ops).repository.symbolsIn uri =
      (generation language uri (history language .empty ops)).elim []
        (fun root => Extraction.extract uri root .position language.resolveByName) := by
    rw [h.consistent.symbolsIn_eq]
    refine (h.symbols uri).trans ?_
    cases hgen : generation language uri (history language .empty ops) with
    | none => rfl
    | some root =>
      obtain ⟨text, htree⟩ := exists_tree_of_generation hgen
      exact stored_eq_extract hids uri (hnodes htree)
  refine ⟨hsymbols, fun file root hfile hroot => ?_⟩
  rw [hsymbols, h.files hfile hroot, Option.elim_some]

/-- A tree of a node and a child with the same range. -/
def twinTree : Node :=
  .mk ⟨0, "Block", some ⟨⟨1, 0⟩, ⟨1, 4⟩⟩, none, .ok .variable, []⟩
    [.mk ⟨1, "Name", some ⟨⟨1, 0⟩, ⟨1, 4⟩⟩, some "a", .ok .variable, []⟩ []]

/-- A language in which every text has the same tree, but for the empty text, which has none. -/
def twinLanguage : Language :=
  .create "twin" fun _ text => .ok ⟨if text = "" then none else some twinTree, []⟩

lemma distinctNodes_twinLanguage : twinLanguage.DistinctNodes := by
  intro uri text root htree
  have hroot : (if text = "" then none else some twinTree) = some root := htree
  split at hroot
  · cases hroot
  · obtain rfl := Option.some.inj hroot
    unfold Node.Identified
    decide

/-- A text without a tree and the removal of a file whose name extends that of the first leave the
symbols of the first alone. -/
theorem symbolsIn_run_twin :
    (run twinLanguage .empty
        [(.empty, .openFile ⟨"file:///a"⟩ "a" 1), (.empty, .openFile ⟨"file:///a:1:0"⟩ "b" 1),
          (.empty, .change ⟨"file:///a"⟩ "" 2), (.empty, .delete ⟨"file:///a:1:0"⟩)]
      ).repository.symbolsIn ⟨"file:///a"⟩ =
      Extraction.extract ⟨"file:///a"⟩ twinTree .position false :=
  (symbolsIn_run (rfl : twinLanguage.ids = .position) distinctNodes_twinLanguage _ _).1

end Workspace

end CodeIndex
