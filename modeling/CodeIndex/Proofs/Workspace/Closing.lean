import Mathlib.Data.List.Perm.Basic
import CodeIndex.Proofs.Workspace.Interleaving

set_option relaxedAutoImplicit false
set_option autoImplicit false

/-!
# What closing a file leaves of its unsaved text

When a file is closed, its text on disk takes the place of the text in the editor, so that nothing
of the unsaved text should be left. This file compares two workspaces that differ in what is known
of one file only, say because the editor sent different texts for it, and asks whether they can
still be told apart once the file is closed.

They cannot, if the file is unreadable or its text on disk has a tree. A text on disk without a
tree, however, leaves the symbols of the unsaved text where they are, and if the parser breaks off
on the text on disk, the state of the file stays as well.

## Main definitions

* `Repository.AnswersAlike` — two repositories answer every query alike.
* `Workspace.AgreeBut` — two workspaces agree except in the state and the symbols of one file.
* `Workspace.Indistinguishable` — two workspaces answer every query alike.
* `Workspace.diskSymbols?` — the symbols that the disk has for a file, if it decides on them.
* `Workspace.breaksOff` — whether the parser breaks off on the text on disk.

## Main results

* `Workspace.AgreeBut.synchronize` — different texts for a file only make a difference there.
* `Workspace.toList_close`, `Workspace.get?_close` — what is left after a file was closed.
* `Workspace.indistinguishable_close_iff` — when closing a file erases every trace of its unsaved
  text.
-/

namespace CodeIndex

/-! ## Repositories that answer alike -/

namespace Repository

/-- Two repositories answer every query alike, with everything in the same order. -/
structure AnswersAlike (r r' : Repository) : Prop where
  loadAll : ∀ p, r.loadAll p = r'.loadAll p
  load : ∀ id, r.load? id = r'.load? id
  symbolsIn : ∀ uri, r.symbolsIn uri = r'.symbolsIn uri
  search : ∀ uri p, r.search uri p = r'.search uri p
  find : ∀ uri p, r.find? uri p = r'.find? uri p
  definition : ∀ uri pos, Navigation.definition? r uri pos = Navigation.definition? r' uri pos
  references : ∀ uri pos declaration,
    Navigation.references r uri pos declaration = Navigation.references r' uri pos declaration
  hover : ∀ uri pos, Navigation.hover? r uri pos = Navigation.hover? r' uri pos
  workspaceSymbols : ∀ query limit,
    Navigation.workspaceSymbols r query limit = Navigation.workspaceSymbols r' query limit

/-- Every query is about the list of symbols, whatever their numbers are. -/
lemma answersAlike_of_toList_eq {r r' : Repository} (h : r.Consistent) (h' : r'.Consistent)
    (hlist : r.toList = r'.toList) : AnswersAlike r r' := by
  have hanswers := h.answers
  have hanswers' := h'.answers
  rw [← hlist] at hanswers'
  have hfind : ∀ uri p, r.find? uri p = r'.find? uri p :=
    fun uri p => (hanswers.find uri p).trans (hanswers'.find uri p).symm
  have hload : ∀ id, r.load? id = r'.load? id :=
    fun id => (hanswers.load id).trans (hanswers'.load id).symm
  refine ⟨fun p => (hanswers.loadAll p).trans (hanswers'.loadAll p).symm, hload,
    fun uri => (hanswers.symbolsIn uri).trans (hanswers'.symbolsIn uri).symm,
    fun uri p => (hanswers.search uri p).trans (hanswers'.search uri p).symm, hfind,
    fun uri pos => ?_, fun uri pos declaration => ?_, fun uri pos => ?_, fun query limit => ?_⟩
  · simp only [Navigation.definition?, hfind, hload]
  · unfold Navigation.references
    rw [hfind, hlist]
  · unfold Navigation.hover?
    rw [hfind]
  · unfold Navigation.workspaceSymbols
    rw [hlist]

end Repository

namespace Workspace

variable {language : Language} {disk : Disk} {w w' : Workspace} {uri v : Uri}

/-! ## Workspaces that differ in one file -/

/-- Two workspaces agree except in the state and the symbols of one file. -/
structure AgreeBut (uri : Uri) (w w' : Workspace) : Prop where
  folders : w.folders = w'.folders
  state : ∀ v ≠ uri, w.files.get? v = w'.files.get? v
  mark : ∀ v, w.files.isOpen v = w'.files.isOpen v
  /-- The symbols of the other files are the same, in the same order. -/
  symbols : SymbolList.deleteFile w.repository.toList uri =
    SymbolList.deleteFile w'.repository.toList uri

/-- Two workspaces answer every query alike. The order in which files are listed is left open. -/
structure Indistinguishable (w w' : Workspace) : Prop where
  folders : w.folders = w'.folders
  state : ∀ uri, w.files.get? uri = w'.files.get? uri
  mark : ∀ uri, w.files.isOpen uri = w'.files.isOpen uri
  tracked : w.files.uris.Perm w'.files.uris
  /-- Both repositories answer as one and the same list. -/
  repository : ∃ l, w.repository.Answers l ∧ w'.repository.Answers l
  definition : ∀ uri pos, Navigation.definition? w.repository uri pos =
    Navigation.definition? w'.repository uri pos
  references : ∀ uri pos declaration, Navigation.references w.repository uri pos declaration =
    Navigation.references w'.repository uri pos declaration
  hover : ∀ uri pos, Navigation.hover? w.repository uri pos =
    Navigation.hover? w'.repository uri pos
  workspaceSymbols : ∀ query limit, Navigation.workspaceSymbols w.repository query limit =
    Navigation.workspaceSymbols w'.repository query limit

/-- The tracked files are those that have a state. -/
lemma mem_uris_iff : uri ∈ w.files.uris ↔ (w.files.get? uri).isSome = true := by
  rw [Option.isSome_iff_ne_none]
  unfold FileStore.uris FileStore.get?
  rw [Ne, OrderedMap.get?_eq_none_iff, not_not]

/-- Every query is about folders, states, open marks or the list of symbols. -/
lemma indistinguishable_of_toList_eq (h : w.repository.Consistent) (h' : w'.repository.Consistent)
    (hfolders : w.folders = w'.folders) (hstate : ∀ uri, w.files.get? uri = w'.files.get? uri)
    (hmark : ∀ uri, w.files.isOpen uri = w'.files.isOpen uri)
    (hlist : w.repository.toList = w'.repository.toList) : Indistinguishable w w' := by
  have hcommon := h'.answers
  rw [← hlist] at hcommon
  have halike := Repository.answersAlike_of_toList_eq h h' hlist
  refine ⟨hfolders, hstate, hmark, ?_, ⟨_, h.answers, hcommon⟩, halike.definition,
    halike.references, halike.hover, halike.workspaceSymbols⟩
  refine (List.perm_ext_iff_of_nodup w.files.files.nodup_keys w'.files.files.nodup_keys).2 ?_
  intro uri
  exact mem_uris_iff.trans ((by rw [hstate uri] : _ ↔ _).trans mem_uris_iff.symm)

/-! ## What is left after a file was closed -/

/-- The symbols that the disk has for a file. A file that cannot be read has none, and a text
without a tree does not decide on them, nor does one on which the parser breaks off. -/
def diskSymbols? (language : Language) (disk : Disk) (uri : Uri) : Option (List Symbol) :=
  match readUri disk uri with
  | .error _ => some []
  | .ok text => (language.tree? uri text).map fun root => stored language uri (some root)

/-- Whether the parser breaks off on the text that the disk has for a file. -/
def breaksOff (language : Language) (disk : Disk) (uri : Uri) : Bool :=
  match readUri disk uri with
  | .error _ => false
  | .ok text => !(language.parse uri text).isOk

/-- What is left of a workspace when a file is closed: the file is dropped, or the open mark goes
and nothing else, or the text on disk is taken over and its state forgotten. -/
lemma close_fst_eq (language : Language) (disk : Disk) (w : Workspace) (uri : Uri) :
    (w.close language disk uri).1 =
      match readUri disk uri with
      | .error _ =>
        (dropSymbols { w with files := w.files.markClosed uri } uri).forget uri
      | .ok text =>
        match language.parse uri text with
        | .error _ => { w with files := w.files.markClosed uri }
        | .ok parse =>
          (commitParse language { w with files := w.files.markClosed uri } uri text none
            parse).1.forget uri := by
  rw [close_fst]
  cases readUri disk uri with
  | error e => rfl
  | ok text =>
    dsimp only
    unfold Workspace.synchronize
    cases language.parse uri text <;> rfl

/-- The symbols after a parse was taken over: with a tree, those of the file are replaced. -/
lemma toList_commitParse (hids : language.ids = .position) (h : w.Reachable language) (uri : Uri)
    (text : String) (version : Option Int) (parse : Parse) :
    (w.commitParse language uri text version parse).1.repository.toList =
      match parse.root with
      | none => w.repository.toList
      | some root =>
        SymbolList.deleteFile w.repository.toList uri ++ stored language uri (some root) := by
  obtain ⟨events, htracks⟩ := h.tracks hids
  rw [repository_commitParse]
  cases parse.root with
  | none => rfl
  | some root => exact (htracks.toList_commitTree hids uri root).2

/-- Closing a file puts the symbols that the disk has for it in the place of the old ones, if the
disk decides on them. -/
lemma toList_close (hids : language.ids = .position) (h : w.Reachable language) (disk : Disk)
    (uri : Uri) :
    (w.close language disk uri).1.repository.toList =
      match diskSymbols? language disk uri with
      | none => w.repository.toList
      | some symbols => SymbolList.deleteFile w.repository.toList uri ++ symbols := by
  rw [close_fst_eq, diskSymbols?]
  cases readUri disk uri with
  | error e =>
    show (w.repository.deleteFile uri).1.toList = _ ++ []
    rw [h.consistent.toList_deleteFile, List.append_nil]
    rfl
  | ok text =>
    dsimp only
    rw [Language.tree?]
    cases language.parse uri text with
    | error fault => rfl
    | ok parse =>
      refine (toList_commitParse hids (h.markClosed uri) uri text none parse).trans ?_
      dsimp only
      cases parse.root <;> rfl

/-- Closing a file forgets its state, unless the parser breaks off. -/
lemma get?_close (language : Language) (disk : Disk) (w : Workspace) (uri v : Uri) :
    (w.close language disk uri).1.files.get? v =
      if v = uri then if breaksOff language disk uri then w.files.get? uri else none
      else w.files.get? v := by
  rw [close_fst_eq]
  cases hread : readUri disk uri with
  | error e =>
    have hbreaks : breaksOff language disk uri = false := by rw [breaksOff, hread]
    rw [hbreaks]
    exact get?_forget { w with files := w.files.markClosed uri } uri v
  | ok text =>
    dsimp only
    cases hparse : language.parse uri text with
    | error fault =>
      have hbreaks : breaksOff language disk uri = true := by
        simp only [breaksOff, hread, hparse]
        rfl
      rw [hbreaks]
      show w.files.get? v = if v = uri then w.files.get? uri else w.files.get? v
      split
      · next hv => rw [hv]
      · rfl
    | ok parse =>
      have hbreaks : breaksOff language disk uri = false := by
        simp only [breaksOff, hread, hparse]
        rfl
      rw [hbreaks]
      dsimp only
      rw [get?_forget, get?_commitParse]
      split <;> rfl

/-- Closing a file takes its open mark away and no other. -/
lemma isOpen_close (language : Language) (disk : Disk) (w : Workspace) (uri v : Uri) :
    (w.close language disk uri).1.files.isOpen v = (w.files.isOpen v && decide (v ≠ uri)) := by
  have hclosed : (w.files.markClosed uri).isOpen v = (w.files.isOpen v && decide (v ≠ uri)) :=
    FileStore.isOpen_markClosed w.files uri v
  have hagain : ((w.files.markClosed uri).isOpen v && decide (v ≠ uri)) =
      (w.files.isOpen v && decide (v ≠ uri)) := by rw [hclosed, Bool.and_assoc, Bool.and_self]
  rw [close_fst_eq]
  split
  · rw [isOpen_forget]
    exact hagain
  · split
    · exact hclosed
    · rw [isOpen_forget]
      exact hagain

lemma folders_close (language : Language) (disk : Disk) (w : Workspace) (uri : Uri) :
    (w.close language disk uri).1.folders = w.folders := by
  rw [close_fst_eq]
  split
  · rfl
  · split <;> rfl

lemma uri_of_mem_diskSymbols (hids : language.ids = .position) {symbols : List Symbol}
    (h : diskSymbols? language disk uri = some symbols) : ∀ s ∈ symbols, s.uri = uri := by
  unfold diskSymbols? at h
  split at h
  · obtain rfl := Option.some.inj h
    simp
  · obtain ⟨root, -, rfl⟩ := Option.map_eq_some_iff.1 h
    exact fun s hs => (Tracks.mem_stored hids hs).1

lemma symbolsIn_close (hids : language.ids = .position) (h : w.Reachable language) (disk : Disk)
    (uri : Uri) :
    (w.close language disk uri).1.repository.symbolsIn uri =
      (diskSymbols? language disk uri).getD (w.repository.symbolsIn uri) := by
  have hclosed : (w.close language disk uri).1.Reachable language := h.apply disk (.close uri)
  rw [hclosed.consistent.symbolsIn_eq, h.consistent.symbolsIn_eq, toList_close hids h]
  cases hsymbols : diskSymbols? language disk uri with
  | none => rfl
  | some symbols =>
    have hown := uri_of_mem_diskSymbols hids hsymbols
    exact (Tracks.symbolsIn_deleteFile_append hown uri).trans (if_pos rfl)

namespace AgreeBut

lemma refl (uri : Uri) (w : Workspace) : AgreeBut uri w w :=
  ⟨rfl, fun _ _ => rfl, fun _ => rfl, rfl⟩

lemma symm (h : AgreeBut uri w w') : AgreeBut uri w' w :=
  ⟨h.folders.symm, fun v hv => (h.state v hv).symm, fun v => (h.mark v).symm, h.symbols.symm⟩

lemma trans {w'' : Workspace} (h : AgreeBut uri w w') (h' : AgreeBut uri w' w'') :
    AgreeBut uri w w'' :=
  ⟨h.folders.trans h'.folders, fun v hv => (h.state v hv).trans (h'.state v hv),
    fun v => (h.mark v).trans (h'.mark v), h.symbols.trans h'.symbols⟩

/-- A text for the file makes a difference there only. -/
lemma synchronize (hids : language.ids = .position) (h : w.Reachable language) (uri : Uri)
    (text : String) (version : Option Int) :
    AgreeBut uri (w.synchronize language uri text version).1 w := by
  rw [synchronize_fst]
  cases language.parse uri text with
  | error fault => exact .refl uri w
  | ok parse =>
    refine ⟨rfl, fun v hv => by rw [get?_commitParse, if_neg hv], fun v => rfl, ?_⟩
    dsimp only
    rw [toList_commitParse hids h]
    cases parse.root with
    | none => rfl
    | some root =>
      dsimp only
      have hnone : SymbolList.deleteFile (stored language uri (some root)) uri = [] := by
        refine List.filter_eq_nil_iff.2 fun s hs => ?_
        simp [(Tracks.mem_stored hids hs).1]
      have hagain : SymbolList.deleteFile (SymbolList.deleteFile w.repository.toList uri) uri =
          SymbolList.deleteFile w.repository.toList uri :=
        List.filter_eq_self.2 fun s hs => (List.mem_filter.1 hs).2
      calc _ = SymbolList.deleteFile (SymbolList.deleteFile w.repository.toList uri) uri ++
            SymbolList.deleteFile (stored language uri (some root)) uri := List.filter_append ..
        _ = _ := by rw [hnone, hagain, List.append_nil]

/-- So two texts with which the editor may open a file make a difference there only. -/
lemma openFile (hids : language.ids = .position) (h : w.Reachable language) (uri : Uri)
    (text text' : String) (version : Int) :
    AgreeBut uri (w.openFile language uri text version).1
      (w.openFile language uri text' version).1 := by
  have hopened : Reachable language { w with files := w.files.markOpen uri } := h.markOpen uri
  exact (synchronize hids hopened uri text _).trans (synchronize hids hopened uri text' _).symm

end AgreeBut

/-- **Closing a file erases every trace of its unsaved text exactly if the disk decides on its
symbols, or there was nothing to tell apart.** Take two reachable workspaces that agree except in
the state and the symbols of one file, and close the file on the same disk. Its symbols are then
those that the disk has for it, and the old ones if the disk does not decide on them: the text on
disk has no tree, or the parser breaks off on it. Its state is forgotten, unless the parser breaks
off. So the two workspaces answer every query alike if the file is unreadable or its text has a
tree; otherwise only if they had the same symbols already and, where the parser breaks off, the same
state of the file. -/
theorem indistinguishable_close_iff (hids : language.ids = .position) (h : w.Reachable language)
    (h' : w'.Reachable language) (hagree : AgreeBut uri w w') (disk : Disk) :
    (w.close language disk uri).1.repository.symbolsIn uri =
      (diskSymbols? language disk uri).getD (w.repository.symbolsIn uri) ∧
    (w.close language disk uri).1.files.get? uri =
      (if breaksOff language disk uri then w.files.get? uri else none) ∧
    (Indistinguishable (w.close language disk uri).1 (w'.close language disk uri).1 ↔
      ((diskSymbols? language disk uri).isSome = true ∨
        w.repository.toList = w'.repository.toList) ∧
      (breaksOff language disk uri = true → w.files.get? uri = w'.files.get? uri)) := by
  refine ⟨symbolsIn_close hids h disk uri, ?_, fun halike => ⟨?_, ?_⟩, ?_⟩
  · rw [get?_close, if_pos rfl]
  · cases hsymbols : diskSymbols? language disk uri with
    | some symbols => exact .inl rfl
    | none =>
      obtain ⟨l, hl, hl'⟩ := halike.repository
      have hlist := hl.toList.trans hl'.toList.symm
      rw [toList_close hids h, toList_close hids h', hsymbols] at hlist
      exact .inr hlist
  · intro hbreaks
    have hstate := halike.state uri
    rwa [get?_close, get?_close, if_pos rfl, if_pos rfl, if_pos hbreaks, if_pos hbreaks] at hstate
  · rintro ⟨hsymbols, hstate⟩
    have hclosed : (w.close language disk uri).1.Reachable language := h.apply disk (.close uri)
    have hclosed' : (w'.close language disk uri).1.Reachable language := h'.apply disk (.close uri)
    refine indistinguishable_of_toList_eq hclosed.consistent hclosed'.consistent ?_ ?_ ?_ ?_
    · rw [folders_close, folders_close, hagree.folders]
    · intro v
      rw [get?_close, get?_close]
      split
      · split
        · next hbreaks => exact hstate hbreaks
        · rfl
      · next hv => exact hagree.state v hv
    · intro v
      rw [isOpen_close, isOpen_close, hagree.mark]
    · rw [toList_close hids h, toList_close hids h']
      cases hdisk : diskSymbols? language disk uri with
      | some symbols => exact congrArg (· ++ symbols) hagree.symbols
      | none =>
        rw [hdisk] at hsymbols
        exact hsymbols.resolve_left Bool.false_ne_true

/-- A file that the disk has with a tree leaves no trace of what was typed. -/
theorem indistinguishable_close_iff_tree :
    Indistinguishable
      ((empty.openFile twinLanguage ⟨"file:///a"⟩ "x" 1).1.close twinLanguage twoFileDisk
        ⟨"file:///a"⟩).1
      ((empty.openFile twinLanguage ⟨"file:///a"⟩ "" 1).1.close twinLanguage twoFileDisk
        ⟨"file:///a"⟩).1 := by
  have hids : twinLanguage.ids = .position := rfl
  have hreach : ∀ text, (empty.openFile twinLanguage ⟨"file:///a"⟩ text 1).1.Reachable
      twinLanguage := fun text => Reachable.empty.apply .empty (.openFile ⟨"file:///a"⟩ text 1)
  have hagree := AgreeBut.openFile hids .empty ⟨"file:///a"⟩ "x" "" 1
  have hiff := (indistinguishable_close_iff hids (hreach "x") (hreach "") hagree twoFileDisk).2.2
  exact hiff.2 ⟨.inl (by decide), fun hbreaks => absurd hbreaks (by decide)⟩

/-- The language of twins, but for the empty text, on which the parser breaks off. -/
def brittleLanguage : Language :=
  .create "brittle" fun _ text =>
    if text = "" then .error ⟨"empty"⟩ else .ok ⟨some twinTree, []⟩

/-- A file that the disk has with a text without a tree keeps the symbols of what was typed, and it
keeps its state as well if the parser breaks off on that text. -/
theorem unsaved_text_lingers :
    AgreeBut ⟨"file:///b"⟩ (empty.openFile twinLanguage ⟨"file:///b"⟩ "x" 1).1
      (empty.openFile twinLanguage ⟨"file:///b"⟩ "" 1).1 ∧
    (((empty.openFile twinLanguage ⟨"file:///b"⟩ "x" 1).1.close twinLanguage twoFileDisk
      ⟨"file:///b"⟩).1.repository.symbolsIn ⟨"file:///b"⟩).length = 2 ∧
    (((empty.openFile twinLanguage ⟨"file:///b"⟩ "" 1).1.close twinLanguage twoFileDisk
      ⟨"file:///b"⟩).1.repository.symbolsIn ⟨"file:///b"⟩).length = 0 ∧
    (((empty.openFile brittleLanguage ⟨"file:///b"⟩ "x" 1).1.close brittleLanguage twoFileDisk
      ⟨"file:///b"⟩).1.files.get? ⟨"file:///b"⟩).map FileState.text = some "x" :=
  ⟨.openFile rfl .empty _ _ _ _, by decide, by decide, by decide⟩

end Workspace

end CodeIndex
