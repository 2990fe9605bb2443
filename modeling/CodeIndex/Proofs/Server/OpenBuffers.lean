import Mathlib.Tactic.Lemma
import CodeIndex.Proofs.Server.Ownership
import CodeIndex.Proofs.Workspace.Interleaving

set_option relaxedAutoImplicit false
set_option autoImplicit false

/-!
# The disk leaves open files alone

Text that comes from disk, a retention and a whole load in the background all pass over the files
that are open in the editor. The open marks are looked at in three places for that: before a text
is indexed, before a file is read again, and for every file that is about to be dropped. What is
shown of an open file also depends on other files, whose commits could take its symbols away; with
the default identifiers they do not.

An open mark is of use only if there is something to leave alone. As long as the parser does not
break off, every open file is tracked.

## Main definitions

* `Workspace.FileView`, `Workspace.view` — what is shown of a file.
* `Workspace.Operation.completes` — the parser comes through an operation.
* `Workspace.FaultFree` — the workspaces that are reached without a fault of the parser.
* `Workspace.OpenTracked` — every open file has a state.

## Main results

* `Workspace.sameAt_retain`, `Workspace.sameAt_indexFile`, `Workspace.sameAt_refresh` — each of
  the three leaves what is known of an open file as it was.
* `Workspace.FaultFree.openTracked` — without faults every open file is tracked.
* `Server.view_of_isOpen` — work that starts from the disk does not touch an open file.
-/

namespace CodeIndex

namespace Workspace

variable {language : Language} {disk : Disk} {w w' : Workspace} {uri v : Uri}

/-! ## What is shown of a file -/

/-- What is shown of a file. -/
structure FileView where
  state : Option FileState
  isOpen : Bool
  symbols : List Symbol

/-- What a workspace shows of a file. -/
def view (w : Workspace) (uri : Uri) : FileView :=
  ⟨w.files.get? uri, w.files.isOpen uri, w.repository.symbolsIn uri⟩

lemma SameAt.view_eq (hsame : SameAt uri w w') (h : w.repository.Consistent)
    (h' : w'.repository.Consistent) : w.view uri = w'.view uri := by
  have hsymbols : w.repository.symbolsIn uri = w'.repository.symbolsIn uri := by
    rw [h.symbolsIn_eq, h'.symbolsIn_eq]
    exact hsame.symbols
  unfold view
  rw [hsame.state, hsame.mark, hsymbols]

/-! ## Work that starts from the disk -/

lemma sameAt_indexFile (hids : language.ids = .position) (h : w.Reachable language)
    (hopen : w.files.isOpen uri = true) (v : Uri) (text : String) :
    SameAt uri (w.indexFile language v text).1 w := by
  by_cases hv : uri = v
  · rw [indexFile_fst, ← hv, if_pos hopen]
    exact .refl uri w
  · have hlocal := local_apply hids .empty (rfl : (Operation.indexFile v text).target? = some v)
    exact hlocal.frame h hv

lemma sameAt_refresh (hids : language.ids = .position) (h : w.Reachable language)
    (hopen : w.files.isOpen uri = true) (disk : Disk) (v : Uri) :
    SameAt uri (w.refresh language disk v).1 w := by
  by_cases hv : uri = v
  · rw [refresh_fst, ← hv, hopen, Bool.true_or, if_pos rfl]
    exact .refl uri w
  · have hlocal := local_apply hids disk (rfl : (Operation.refresh v).target? = some v)
    exact hlocal.frame h hv

/-- A file that is not among those dropped stays as it was. -/
lemma sameAt_dropAll (h : w.Reachable language) {uris : List Uri} (huri : uri ∉ uris) :
    SameAt uri (w.dropAll uris) w := by
  induction uris generalizing w with
  | nil => exact .refl uri w
  | cons v uris ih =>
    rw [List.mem_cons, not_or] at huri
    obtain ⟨hne, hnotMem⟩ := huri
    exact (ih (h.drop v) hnotMem).trans ((Local.drop language v).frame h hne)

lemma sameAt_retain (h : w.Reachable language) (hopen : w.files.isOpen uri = true)
    (keep : List Uri) : SameAt uri (w.retain keep).1 w := by
  rw [retain_fst]
  refine sameAt_dropAll h fun hdropped => ?_
  exact (mem_unretained.1 hdropped).2.2 (List.contains_iff_mem.1 hopen)

/-- A whole load is made of retentions and texts that are indexed, and what it has done so far
leaves the open mark in place for the next of them to see. -/
lemma sameAt_indexWorkspace (hids : language.ids = .position) {s : Server}
    (h : s.workspace.Reachable language) (hopen : s.workspace.files.isOpen uri = true)
    (disk : Disk) (stops : Nat → Bool) (reportsProgress : Bool) :
    (s.indexWorkspace language disk stops reportsProgress).1.workspace.Reachable language ∧
      SameAt uri (s.indexWorkspace language disk stops reportsProgress).1.workspace
        s.workspace := by
  refine Server.indexWorkspace_induction
    (P := fun w => w.Reachable language ∧ SameAt uri w s.workspace) ?_ ?_ ⟨h, .refl uri _⟩ _ _
  · rintro w keep ⟨hreach, hsame⟩
    exact ⟨hreach.retain keep, (sameAt_retain hreach (hsame.mark.trans hopen) keep).trans hsame⟩
  · rintro w - v text - ⟨hreach, hsame⟩
    exact ⟨hreach.indexFile v text,
      (sameAt_indexFile hids hreach (hsame.mark.trans hopen) v text).trans hsame⟩

/-! ## Workspaces that are reached without a fault -/

/-- Whether the parser comes through an operation. -/
def Operation.completes (language : Language) (disk : Disk) (w : Workspace) : Operation → Bool
  | .synchronize uri text version => (w.synchronize language uri text version).2.isOk
  | .openFile uri text version => (w.openFile language uri text version).2.isOk
  | .change uri text version => (w.change language uri text version).2.isOk
  | .save uri text => (w.save language disk uri text).2.isOk
  | .close uri => (w.close language disk uri).2.isOk
  | .rename old new => (w.rename language disk old new).2.isOk
  | .indexFile uri text => (w.indexFile language uri text).2.isOk
  | .refresh uri => (w.refresh language disk uri).2.isOk
  | .load folders options stops => (w.load language disk folders options stops).2.isOk
  | .delete _ | .retain _ | .reset _ => true

/-- The workspaces that operations lead to from the empty one while the parser comes through all of
them. In between, folders change and tokens are computed. -/
inductive FaultFree (language : Language) : Workspace → Prop where
  | empty : FaultFree language .empty
  | apply {w : Workspace} (h : FaultFree language w) (disk : Disk) (op : Operation)
      (hdone : op.completes language disk w = true) :
      FaultFree language (op.apply language disk w)
  | redirect {w : Workspace} (h : FaultFree language w) (folders : List Uri) :
      FaultFree language { w with folders := folders }
  | tokenize {w : Workspace} (h : FaultFree language w) {uri : Uri} {file : FileState}
      (hfile : w.files.get? uri = some file) (tokens : Option (List Token)) :
      FaultFree language { w with files := w.files.replace { file with tokens := tokens } }

/-- Every open file has a state. -/
def OpenTracked (w : Workspace) : Prop :=
  ∀ uri, w.files.isOpen uri = true → ∃ file, w.files.get? uri = some file

namespace OpenTracked

/-- A synchronisation takes no state away, even if the parser breaks off. -/
lemma synchronize (h : OpenTracked w) (language : Language) (v : Uri) (text : String)
    (version : Option Int) : OpenTracked (w.synchronize language v text version).1 := by
  intro uri hopen
  rw [isOpen_synchronize] at hopen
  rw [synchronize_fst]
  split
  · exact h uri hopen
  · rw [get?_commitParse]
    split
    · exact ⟨_, rfl⟩
    · exact h uri hopen

/-- The file itself may be open without a state before, if the parser comes through. -/
lemma synchronize_of_parse (h : ∀ uri ≠ v, w.files.isOpen uri = true →
    ∃ file, w.files.get? uri = some file) {text : String} {parse : Parse}
    (hparse : language.parse v text = .ok parse) (version : Option Int) :
    OpenTracked (w.synchronize language v text version).1 := by
  intro uri hopen
  rw [isOpen_synchronize] at hopen
  by_cases hv : uri = v
  · subst hv
    exact ⟨_, get?_synchronize_self hparse w version⟩
  · rw [get?_synchronize_of_ne (Ne.symm hv)]
    exact h uri hv hopen

lemma markClosed (h : OpenTracked w) (v : Uri) :
    OpenTracked { w with files := w.files.markClosed v } := by
  intro uri hopen
  have hmark := (FileStore.isOpen_markClosed w.files v uri).symm.trans hopen
  exact h uri (Bool.and_eq_true_iff.1 hmark).1

lemma forget (h : OpenTracked w) (v : Uri) : OpenTracked (w.forget v) := by
  intro uri hopen
  rw [isOpen_forget, Bool.and_eq_true, decide_eq_true_eq] at hopen
  rw [get?_forget, if_neg hopen.2]
  exact h uri hopen.1

/-- The symbols of a file have no part in its state. -/
lemma dropSymbols (h : OpenTracked w) (v : Uri) : OpenTracked (w.dropSymbols v) := h

lemma dropAll (h : OpenTracked w) (uris : List Uri) : OpenTracked (w.dropAll uris) := by
  induction uris generalizing w with
  | nil => exact h
  | cons v uris ih => exact ih ((h.forget v).dropSymbols v)

lemma indexFile (h : OpenTracked w) (language : Language) (v : Uri) (text : String) :
    OpenTracked (w.indexFile language v text).1 := by
  rw [indexFile_fst]
  split
  · exact h
  · exact h.synchronize language v text none

lemma of_opened_eq_nil (h : w.files.opened = []) : OpenTracked w := by
  intro uri hopen
  rw [FileStore.isOpen, h] at hopen
  cases hopen

lemma load (language : Language) (disk : Disk) (w : Workspace) (folders : List Uri)
    (options : DiscoveryOptions) (stops : Nat → Bool) :
    OpenTracked (w.load language disk folders options stops).1 :=
  loadFiles_induction language disk (fun _ uri text _ h => h.indexFile language uri text) _ _ _ _
    (of_opened_eq_nil (w := w.reset folders) rfl)

end OpenTracked

/-- If a synchronisation comes to its end, the text was parsed. -/
lemma parse_of_synchronize {text : String} {version : Option Int}
    (hdone : (w.synchronize language uri text version).2.isOk = true) :
    ∃ parse, language.parse uri text = .ok parse := by
  unfold synchronize at hdone
  cases hparse : language.parse uri text with
  | ok parse => exact ⟨parse, rfl⟩
  | error fault =>
    rw [hparse] at hdone
    cases hdone

/-- If a renaming comes to its end, the text was parsed under the new name. -/
lemma parse_of_rename {old new : Uri} (hdone : (w.rename language disk old new).2.isOk = true)
    (hhandles : language.handlesUri new = true) {text : String}
    (htext : renamedText disk w old new = some text) :
    ∃ parse, language.parse new text = .ok parse := by
  rw [rename_eq, if_pos hhandles, htext] at hdone
  have hsync : ((w.carriedOver old new).synchronize language new text none).2.isOk = true := by
    dsimp only at hdone
    generalize ((w.carriedOver old new).synchronize language new text none).2 = result at hdone ⊢
    cases result with
    | error fault => cases hdone
    | ok report => rfl
  exact parse_of_synchronize hsync

namespace OpenTracked

/-- A mark that a file gets does not concern the states of the others. -/
lemma markOpen (h : OpenTracked w) (uri : Uri) {v : Uri} (hv : v ≠ uri)
    (hopen : (w.files.markOpen uri).isOpen v = true) :
    ∃ file, (w.files.markOpen uri).get? v = some file := by
  rw [FileStore.isOpen_markOpen, decide_eq_false hv, Bool.or_false] at hopen
  obtain ⟨file, hfile⟩ := h v hopen
  exact ⟨file, (FileStore.get?_markOpen w.files uri v).trans hfile⟩

/-- Opening gives the file a mark before it has a state, so here the parser has to come through. -/
lemma openFile (h : OpenTracked w) {text : String} {version : Int}
    (hdone : (w.openFile language uri text version).2.isOk = true) :
    OpenTracked (w.openFile language uri text version).1 := by
  obtain ⟨parse, hparse⟩ := parse_of_synchronize hdone
  exact synchronize_of_parse (fun v hv hopen => h.markOpen uri hv hopen) hparse _

/-- So does renaming, which carries the mark over before the text. -/
lemma rename (h : OpenTracked w) {old new : Uri}
    (hdone : (w.rename language disk old new).2.isOk = true) :
    OpenTracked (w.rename language disk old new).1 := by
  have hdropped : OpenTracked (w.delete old).1 := (h.forget old).dropSymbols old
  refine rename_induction language disk hdropped fun text hhandles htext => ?_
  obtain ⟨parse, hparse⟩ := parse_of_rename hdone hhandles htext
  refine synchronize_of_parse ?_ hparse none
  exact carriedOver_induction
    (P := fun x => ∀ v, v ≠ new → x.files.isOpen v = true → ∃ file, x.files.get? v = some file)
    (fun v _ => hdropped v) fun v hv hopen => hdropped.markOpen new hv hopen

/-- Every operation that comes to its end leaves every open file with a state. -/
lemma apply (h : OpenTracked w) {op : Operation} (hdone : op.completes language disk w = true) :
    OpenTracked (op.apply language disk w) := by
  cases op with
  | synchronize uri text version => exact h.synchronize language uri text version
  | openFile uri text version => exact h.openFile hdone
  | change uri text version => exact h.synchronize language uri text (some version)
  | save uri text =>
    rw [Operation.apply, save_fst]
    split
    · exact h
    · exact h.synchronize language uri _ _
  | close uri =>
    rw [Operation.apply, close_fst]
    dsimp only
    split
    · exact ((h.markClosed uri).dropSymbols uri).forget uri
    · next text _ =>
      have hsync := (h.markClosed uri).synchronize language uri text none
      generalize Workspace.synchronize language { w with files := w.files.markClosed uri } uri text
        none = outcome at hsync ⊢
      rcases outcome with ⟨w', fault | report⟩
      · exact hsync
      · exact hsync.forget uri
  | delete uri => exact (h.forget uri).dropSymbols uri
  | rename old new => exact h.rename hdone
  | retain keep => exact h.dropAll _
  | indexFile uri text => exact h.indexFile language uri text
  | refresh uri =>
    rw [Operation.apply, refresh_fst]
    split
    · exact h
    · split
      · exact h
      · exact h.synchronize language uri _ none
  | reset folders => exact of_opened_eq_nil rfl
  | load folders options stops => exact load language disk w folders options stops

end OpenTracked

/-- Without a fault of the parser, every open file is tracked. -/
lemma FaultFree.openTracked (h : FaultFree language w) : OpenTracked w := by
  induction h with
  | empty => exact .of_opened_eq_nil rfl
  | apply _ disk op hdone ih => exact ih.apply hdone
  | redirect _ folders ih => exact ih
  | @tokenize w _ uri file hfile tokens ih =>
    intro v hopen
    have hget : (w.files.replace { file with tokens := tokens }).get? v =
        if v = file.uri then some { file with tokens := tokens } else w.files.get? v :=
      OrderedMap.get?_insert _ _ _ _
    rw [hget]
    split
    · exact ⟨_, rfl⟩
    · exact ih v hopen

end Workspace

namespace Server

variable {language : Language}

/-- **Work that starts from the disk does not touch an open file.** With the default identifiers:
from every reachable workspace, for every open file, whatever is indexed, read again, retained or
loaded in the background, on whatever disk, even if the parser breaks off or the load is stopped,
the file is shown with the same state, mark and symbols afterwards. And as long as the parser does
not break off there is such a state: every open file is tracked. -/
theorem view_of_isOpen (hids : language.ids = .position) :
    (∀ w : Workspace, w.Reachable language → ∀ uri, w.files.isOpen uri = true →
      (∀ v text, (w.indexFile language v text).1.view uri = w.view uri) ∧
      (∀ disk v, (w.refresh language disk v).1.view uri = w.view uri) ∧
      (∀ keep, (w.retain keep).1.view uri = w.view uri) ∧
      ∀ s : Server, s.workspace = w → ∀ disk stops reportsProgress,
        (s.indexWorkspace language disk stops reportsProgress).1.workspace.view uri =
          w.view uri) ∧
    ∀ w, Workspace.FaultFree language w → ∀ uri, w.files.isOpen uri = true →
      ∃ file, w.files.get? uri = some file := by
  refine ⟨fun w h uri hopen => ⟨?_, ?_, ?_, ?_⟩, fun w h => h.openTracked⟩
  · intro v text
    exact (Workspace.sameAt_indexFile hids h hopen v text).view_eq
      (h.indexFile v text).consistent h.consistent
  · intro disk v
    exact (Workspace.sameAt_refresh hids h hopen disk v).view_eq
      (h.apply disk (.refresh v)).consistent h.consistent
  · intro keep
    exact (Workspace.sameAt_retain h hopen keep).view_eq (h.retain keep).consistent h.consistent
  · rintro s rfl disk stops reportsProgress
    obtain ⟨hreach, hsame⟩ :=
      Workspace.sameAt_indexWorkspace hids h hopen disk stops reportsProgress
    exact hsame.view_eq hreach.consistent h.consistent

/-- A workspace with one file open, below the only folder. -/
def oneFileOpen : Workspace :=
  { Workspace.run Workspace.twinLanguage .empty [(.empty, .openFile ⟨"file:///a"⟩ "x" 1)] with
    folders := [⟨"file:///"⟩] }

/-- A load in the background that comes upon the open file, with another text, and a retention that
does not keep it. -/
theorem view_of_isOpen_oneFileOpen :
    ({ empty with workspace := oneFileOpen }.indexWorkspace Workspace.twinLanguage
        Workspace.twoFileDisk (fun _ => false) false).1.workspace.view ⟨"file:///a"⟩ =
      oneFileOpen.view ⟨"file:///a"⟩ ∧
    (oneFileOpen.retain []).1.view ⟨"file:///a"⟩ = oneFileOpen.view ⟨"file:///a"⟩ ∧
    ∃ file, oneFileOpen.files.get? ⟨"file:///a"⟩ = some file := by
  have hids : Workspace.twinLanguage.ids = .position := rfl
  have hopen : oneFileOpen.files.isOpen ⟨"file:///a"⟩ = true := by decide
  have hreach : oneFileOpen.Reachable Workspace.twinLanguage :=
    (Workspace.Reachable.empty.run _).redirect _
  have hfree : Workspace.FaultFree Workspace.twinLanguage oneFileOpen :=
    (Workspace.FaultFree.empty.apply .empty (.openFile ⟨"file:///a"⟩ "x" 1) rfl).redirect _
  obtain ⟨-, -, hretain, hload⟩ := (view_of_isOpen hids).1 oneFileOpen hreach _ hopen
  exact ⟨hload _ rfl _ _ _, hretain [], (view_of_isOpen hids).2 oneFileOpen hfree _ hopen⟩

end Server

end CodeIndex
