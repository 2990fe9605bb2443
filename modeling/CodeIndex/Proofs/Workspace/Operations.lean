import Mathlib.Tactic.Lemma
import CodeIndex.Workspace.Basic

set_option relaxedAutoImplicit false
set_option autoImplicit false

/-!
# Operations on a workspace

The operations that change what a workspace knows of its files, as one type, so that a run is a
list of them. Every operation finds the disk in some state, which may differ from one operation to
the next. The parser may break off; the operation then leaves what it had changed before.

## Main definitions

* `Workspace.Operation` — an operation with what it is given.
* `Workspace.Operation.apply` — the workspace after an operation.
* `Workspace.run` — the workspace after a list of operations.
* `Workspace.dropAll` — files dropped one after the other, which is what a retention does.

## Main results

* `Workspace.save_fst`, `Workspace.close_fst`, `Workspace.rename_fst`, `Workspace.indexFile_fst`,
  `Workspace.refresh_fst` — each operation as a choice between leaving the workspace alone,
  synchronising a text and dropping a file.
* `Workspace.loadFiles_induction`, `Workspace.rename_induction` — a load keeps what the indexing of
  texts keeps, and a renaming what dropping a file and synchronising a text do.
* `Workspace.get?_dropAll`, `Workspace.isOpen_dropAll` — dropping files leaves the others alone.
-/

namespace CodeIndex

/-- The parser never breaks off. -/
def Language.Total (language : Language) : Prop :=
  ∀ uri text, ∃ parse, language.parse uri text = .ok parse

/-! ## Open marks -/

namespace FileStore

lemma isOpen_markOpen (s : FileStore) (uri v : Uri) :
    (s.markOpen uri).isOpen v = (s.isOpen v || decide (v = uri)) := by
  unfold markOpen
  split
  · next hopen =>
    by_cases hv : v = uri
    · rw [hv, hopen, Bool.true_or]
    · rw [decide_eq_false hv, Bool.or_false]
  · unfold isOpen
    rw [List.contains_eq_mem, List.contains_eq_mem, ← Bool.decide_or]
    exact decide_eq_decide.2 (by rw [List.mem_append, List.mem_singleton])

lemma isOpen_markClosed (s : FileStore) (uri v : Uri) :
    (s.markClosed uri).isOpen v = (s.isOpen v && decide (v ≠ uri)) := by
  unfold markClosed isOpen
  rw [List.contains_eq_mem, List.contains_eq_mem, ← Bool.decide_and]
  exact decide_eq_decide.2 (by rw [List.mem_filter, decide_eq_true_eq])

lemma get?_markOpen (s : FileStore) (uri v : Uri) : (s.markOpen uri).get? v = s.get? v := by
  unfold markOpen
  split <;> rfl

end FileStore

namespace Workspace

/-! ## Runs -/

/-- An operation on a workspace, with what it is given. -/
inductive Operation where
  | synchronize (uri : Uri) (text : String) (version : Option Int)
  | openFile (uri : Uri) (text : String) (version : Int)
  | change (uri : Uri) (text : String) (version : Int)
  | save (uri : Uri) (text : Option String)
  | close (uri : Uri)
  | delete (uri : Uri)
  | rename (old new : Uri)
  | retain (keep : List Uri)
  | indexFile (uri : Uri) (text : String)
  | refresh (uri : Uri)
  | reset (folders : List Uri)
  /-- Load folders, with the moments between two files at which the load is asked to stop. -/
  | load (folders : List Uri) (options : DiscoveryOptions) (stops : Nat → Bool)

variable (language : Language) (disk : Disk)

/-- The workspace after an operation, whether it succeeded or the parser broke off. -/
def Operation.apply (w : Workspace) : Operation → Workspace
  | .synchronize uri text version => (w.synchronize language uri text version).1
  | .openFile uri text version => (w.openFile language uri text version).1
  | .change uri text version => (w.change language uri text version).1
  | .save uri text => (w.save language disk uri text).1
  | .close uri => (w.close language disk uri).1
  | .delete uri => (w.delete uri).1
  | .rename old new => (w.rename language disk old new).1
  | .retain keep => (w.retain keep).1
  | .indexFile uri text => (w.indexFile language uri text).1
  | .refresh uri => (w.refresh language disk uri).1
  | .reset folders => w.reset folders
  | .load folders options stops => (w.load language disk folders options stops).1

/-- The workspace after some operations, each of which finds its own disk. -/
def run (w : Workspace) (ops : List (Disk × Operation)) : Workspace :=
  ops.foldl (fun w step => step.2.apply language step.1 w) w

/-! ## Synchronising -/

/-- The parser breaks off and nothing changes, or its result is taken over. -/
lemma synchronize_fst (w : Workspace) (uri : Uri) (text : String) (version : Option Int) :
    (w.synchronize language uri text version).1 =
      match language.parse uri text with
      | .error _ => w
      | .ok parse => (w.commitParse language uri text version parse).1 := by
  unfold synchronize
  cases language.parse uri text <;> rfl

/-- A text on which the parser breaks off changes nothing. -/
lemma synchronize_of_error {uri : Uri} {text : String} {fault : Fault}
    (h : language.parse uri text = .error fault) (w : Workspace) (version : Option Int) :
    w.synchronize language uri text version = (w, .error fault) := by
  unfold synchronize
  rw [h]

/-- Any other text is taken over. -/
lemma synchronize_of_ok {uri : Uri} {text : String} {parse : Parse}
    (h : language.parse uri text = .ok parse) (w : Workspace) (version : Option Int) :
    w.synchronize language uri text version =
      ((w.commitParse language uri text version parse).1,
        .ok (w.commitParse language uri text version parse).2) := by
  unfold synchronize
  rw [h]

/-- Synchronising a text changes no folder. -/
lemma folders_synchronize (w : Workspace) (uri : Uri) (text : String) (version : Option Int) :
    (w.synchronize language uri text version).1.folders = w.folders := by
  rw [synchronize_fst]
  split <;> rfl

/-- The state of a file after a parse was taken over. -/
lemma get?_commitParse (w : Workspace) (uri v : Uri) (text : String) (version : Option Int)
    (parse : Parse) :
    (w.commitParse language uri text version parse).1.files.get? v =
      if v = uri then some (.ofParse uri text version parse) else w.files.get? v :=
  OrderedMap.get?_insert _ _ _ _

/-- With a tree the symbols of the file are replaced; without one they stay. -/
lemma repository_commitParse (w : Workspace) (uri : Uri) (text : String) (version : Option Int)
    (parse : Parse) :
    (w.commitParse language uri text version parse).1.repository =
      match parse.root with
      | none => w.repository
      | some root => (commitTree language w.repository uri root).1 := by
  unfold commitParse
  cases parse.root <;> rfl

/-! ## Each operation as a choice -/

/-- Saving synchronises the saved text, if there is one. -/
lemma save_fst (w : Workspace) (uri : Uri) (text : Option String) :
    (w.save language disk uri text).1 =
      match savedText disk w uri text with
      | .error _ => w
      | .ok saved =>
        (w.synchronize language uri saved ((w.files.get? uri).bind (·.version))).1 := by
  unfold save
  cases savedText disk w uri text with
  | error e => rfl
  | ok saved =>
    dsimp only
    rcases w.synchronize language uri saved ((w.files.get? uri).bind (·.version)) with
      ⟨w', fault | report⟩ <;> rfl

/-- Indexing synchronises the text, unless the file is open. -/
lemma indexFile_fst (w : Workspace) (uri : Uri) (text : String) :
    (w.indexFile language uri text).1 =
      if w.files.isOpen uri then w else (w.synchronize language uri text none).1 := by
  unfold indexFile
  split
  · rfl
  · rcases w.synchronize language uri text none with ⟨w', fault | report⟩ <;> rfl

/-- What indexing a text keeps for each of the files, indexing them one after the other keeps. -/
lemma loadFiles_induction {P : Workspace → Prop} {paths : List Path}
    (hindex : ∀ w uri text, (∃ path ∈ paths, Uri.ofPath? path = some uri) → P w →
      P (w.indexFile language uri text).1)
    (limit : Option Nat) (stops : Nat → Bool) (done : Nat) (summary : LoadSummary) {w : Workspace}
    (h : P w) : P (w.loadFiles language disk limit stops done summary paths).1 := by
  induction paths generalizing done w summary with
  | nil => exact h
  | cons path paths ih =>
    have hlater : ∀ w uri text, (∃ path ∈ paths, Uri.ofPath? path = some uri) → P w →
        P (w.indexFile language uri text).1 := fun w uri text ⟨later, hmem, huri⟩ =>
      hindex w uri text ⟨later, List.mem_cons_of_mem _ hmem, huri⟩
    unfold loadFiles
    split
    · exact h
    · split
      · next uri text huri _ =>
        have hindexed := hindex w uri text ⟨path, List.mem_cons_self, huri⟩ h
        generalize w.indexFile language uri text = outcome at hindexed ⊢
        rcases outcome with ⟨w', fault | _ | report⟩
        · exact hindexed
        · exact ih hlater _ _ hindexed
        · exact ih hlater _ _ hindexed
      · exact ih hlater _ _ h

/-- Refreshing synchronises the text on disk, unless the file is open, of another language or
unreadable. -/
lemma refresh_fst (w : Workspace) (uri : Uri) :
    (w.refresh language disk uri).1 =
      if w.files.isOpen uri || !language.handlesUri uri then w
      else
        match readUri disk uri with
        | .error _ => w
        | .ok text => (w.synchronize language uri text none).1 := by
  unfold refresh
  split
  · rfl
  · next hopen =>
    cases readUri disk uri with
    | error e => rfl
    | ok text =>
      have hclosed : w.files.isOpen uri = false := by
        simp only [Bool.or_eq_true, not_or, Bool.not_eq_true] at hopen
        exact hopen.1
      have hfst := indexFile_fst language w uri text
      rw [hclosed] at hfst
      dsimp only
      rcases h : w.indexFile language uri text with ⟨w', fault | report⟩ <;>
        · rw [h] at hfst
          exact hfst

/-- Closing synchronises the text on disk and forgets the state of the file; an unreadable file is
dropped. -/
lemma close_fst (w : Workspace) (uri : Uri) :
    (w.close language disk uri).1 =
      let w := { w with files := w.files.markClosed uri }
      match readUri disk uri with
      | .error _ => (w.dropSymbols uri).forget uri
      | .ok text =>
        match w.synchronize language uri text none with
        | (w, .error _) => w
        | (w, .ok _) => w.forget uri := by
  unfold close
  cases readUri disk uri with
  | error e => rfl
  | ok text =>
    dsimp only
    rcases synchronize language { w with files := w.files.markClosed uri } uri text none with
      ⟨w', fault | report⟩ <;> rfl

/-- The text that a renamed file has under its new name. -/
def renamedText (disk : Disk) (w : Workspace) (old new : Uri) : Option String :=
  match w.files.get? old with
  | some state => some state.text
  | none => (readUri disk new).toOption

/-- The workspace in which a renamed file gets its text: the old name is dropped, and the open mark,
if there was one, is carried over. -/
def carriedOver (w : Workspace) (old new : Uri) : Workspace :=
  if w.files.isOpen old then
    { (w.delete old).1 with files := (w.delete old).1.files.markOpen new }
  else (w.delete old).1

/-- Renaming drops the old file and synchronises its text under the new name, if the name is of the
language and there is a text. -/
lemma rename_eq (w : Workspace) (old new : Uri) :
    w.rename language disk old new =
      if language.handlesUri new then
        match renamedText disk w old new with
        | none => ((w.delete old).1, .ok none)
        | some text =>
          (((w.carriedOver old new).synchronize language new text none).1,
            ((w.carriedOver old new).synchronize language new text none).2.map some)
      else ((w.delete old).1, .ok none) := by
  have hsync : ∀ text, (match (w.carriedOver old new).synchronize language new text none with
      | (w, .error fault) => (w, .error fault)
      | (w, .ok report) => (w, Except.ok (some report))) =
      (((w.carriedOver old new).synchronize language new text none).1,
        ((w.carriedOver old new).synchronize language new text none).2.map some) := by
    intro text
    rcases (w.carriedOver old new).synchronize language new text none with ⟨w', fault | report⟩ <;>
      rfl
  unfold rename renamedText
  dsimp only
  split
  · cases w.files.get? old with
    | some state => exact hsync state.text
    | none =>
      cases readUri disk new with
      | error e => rfl
      | ok text => exact hsync text
  · rfl

lemma rename_fst (w : Workspace) (old new : Uri) :
    (w.rename language disk old new).1 =
      if language.handlesUri new then
        match renamedText disk w old new with
        | none => (w.delete old).1
        | some text => ((w.carriedOver old new).synchronize language new text none).1
      else (w.delete old).1 := by
  rw [rename_eq]
  split
  · split <;> rfl
  · rfl

/-- Carrying an open mark over keeps what dropping the old file and opening the new one keep. -/
lemma carriedOver_induction {P : Workspace → Prop} {w : Workspace} {old new : Uri}
    (hdelete : P (w.delete old).1)
    (hopen : P { (w.delete old).1 with files := (w.delete old).1.files.markOpen new }) :
    P (w.carriedOver old new) := by
  unfold carriedOver
  split
  · exact hopen
  · exact hdelete

/-- A renaming ends when the old file is dropped, or goes on to synchronise its text. -/
lemma rename_induction {P : Workspace → Prop} {w : Workspace} {old new : Uri}
    (hdelete : P (w.delete old).1)
    (hsync : ∀ text, language.handlesUri new = true → renamedText disk w old new = some text →
      P ((w.carriedOver old new).synchronize language new text none).1) :
    P (w.rename language disk old new).1 := by
  rw [rename_fst]
  split
  · next hhandles =>
    split
    · exact hdelete
    · next text htext => exact hsync text hhandles htext
  · exact hdelete

/-! ## Dropping files -/

/-- Forgetting a file takes its state away and no other. -/
lemma get?_forget (w : Workspace) (uri v : Uri) :
    (w.forget uri).files.get? v = if v = uri then none else w.files.get? v :=
  OrderedMap.get?_erase _ _ _

/-- Forgetting a file takes its open mark away and no other. -/
lemma isOpen_forget (w : Workspace) (uri v : Uri) :
    (w.forget uri).files.isOpen v = (w.files.isOpen v && decide (v ≠ uri)) :=
  FileStore.isOpen_markClosed _ _ _

/-- Dropping a file takes its state away and no other. -/
lemma get?_drop (w : Workspace) (uri v : Uri) :
    ((w.forget uri).dropSymbols uri).files.get? v = if v = uri then none else w.files.get? v :=
  get?_forget w uri v

/-- Dropping a file takes its open mark away and no other. -/
lemma isOpen_drop (w : Workspace) (uri v : Uri) :
    ((w.forget uri).dropSymbols uri).files.isOpen v =
      (w.files.isOpen v && decide (v ≠ uri)) :=
  isOpen_forget w uri v

/-- Drop files one after the other. -/
def dropAll (w : Workspace) (uris : List Uri) : Workspace :=
  uris.foldl (fun w uri => (w.forget uri).dropSymbols uri) w

lemma get?_dropAll (w : Workspace) (uris : List Uri) (v : Uri) :
    (w.dropAll uris).files.get? v = if v ∈ uris then none else w.files.get? v := by
  induction uris generalizing w with
  | nil => rfl
  | cons uri uris ih =>
    show (((w.forget uri).dropSymbols uri).dropAll uris).files.get? v = _
    rw [ih, get?_drop]
    by_cases hv : v = uri
    · simp [hv]
    · simp [hv]

lemma isOpen_dropAll (w : Workspace) (uris : List Uri) (v : Uri) :
    (w.dropAll uris).files.isOpen v = (w.files.isOpen v && decide (v ∉ uris)) := by
  induction uris generalizing w with
  | nil => simp [dropAll]
  | cons uri uris ih =>
    show (((w.forget uri).dropSymbols uri).dropAll uris).files.isOpen v = _
    rw [ih, isOpen_drop, Bool.and_assoc, ← Bool.decide_and]
    simp only [ne_eq, List.mem_cons, not_or]

/-- The files that a retention drops. -/
def unretained (w : Workspace) (keep : List Uri) : List Uri :=
  w.knownFiles.filter fun uri => !keep.contains uri && !w.files.isOpen uri

lemma retain_fst (w : Workspace) (keep : List Uri) :
    (w.retain keep).1 = w.dropAll (w.unretained keep) := rfl

lemma mem_unretained {w : Workspace} {keep : List Uri} {uri : Uri} :
    uri ∈ w.unretained keep ↔
      (uri ∈ w.repository.files ∨ uri ∈ w.files.uris) ∧ uri ∉ keep ∧ uri ∉ w.files.opened := by
  unfold unretained knownFiles FileStore.isOpen
  rw [List.mem_filter, List.mem_eraseDups, List.mem_append]
  simp only [List.contains_eq_mem, Bool.and_eq_true, Bool.not_eq_true', decide_eq_false_iff_not]

end Workspace

end CodeIndex
