import Mathlib.Tactic.Lemma
import CodeIndex.Proofs.Workspace.Operations

set_option relaxedAutoImplicit false
set_option autoImplicit false

/-!
# Open files

While a file is open, its text is the business of the editor. This file says what an operation has
to leave alone for that, the open mark of the file and, as long as the mark is there, its state;
and it shows which operations do so: all that are about other files, and all that bring in text
from disk.

## Main definitions

* `Workspace.Spares` — a workspace has the mark of a file as another one and, if the file is open,
  its state.

## Main results

* `Workspace.Spares.indexFile`, `Workspace.Spares.refresh`, `Workspace.Spares.retain` — text from
  disk does not touch an open file, and an open file is not dropped.
* `Workspace.Spares.openFile_of_ne` and the like — what happens to one file does not touch another.
-/

namespace CodeIndex

namespace Workspace

variable {language : Language} {disk : Disk} {w w' : Workspace} {uri v : Uri}

/-! ## Synchronising -/

/-- Synchronising opens and closes nothing. -/
lemma isOpen_synchronize (w : Workspace) (v : Uri) (text : String) (version : Option Int)
    (uri : Uri) :
    (w.synchronize language v text version).1.files.isOpen uri = w.files.isOpen uri := by
  rw [synchronize_fst]
  split <;> rfl

/-- Synchronising a file leaves the states of the others alone. -/
lemma get?_synchronize_of_ne (h : v ≠ uri) (w : Workspace) (text : String)
    (version : Option Int) :
    (w.synchronize language v text version).1.files.get? uri = w.files.get? uri := by
  rw [synchronize_fst]
  split
  · rfl
  · rw [get?_commitParse, if_neg h.symm]

/-- If the parser does not break off, the synchronised text is the tracked one. -/
lemma get?_synchronize_self {text : String} {parse : Parse}
    (hparse : language.parse uri text = .ok parse) (w : Workspace) (version : Option Int) :
    (w.synchronize language uri text version).1.files.get? uri =
      some (.ofParse uri text version parse) := by
  rw [synchronize_fst, hparse]
  dsimp only
  rw [get?_commitParse, if_pos rfl]

/-! ## Sparing an open file -/

/-- A file has the open mark that it had before and, if it is open, the state that it had. -/
structure Spares (uri : Uri) (w w' : Workspace) : Prop where
  isOpen : w'.files.isOpen uri = w.files.isOpen uri
  get? : w.files.isOpen uri = true → w'.files.get? uri = w.files.get? uri

namespace Spares

lemma refl (uri : Uri) (w : Workspace) : Spares uri w w := ⟨rfl, fun _ => rfl⟩

lemma trans {w'' : Workspace} (h : Spares uri w w') (h' : Spares uri w' w'') :
    Spares uri w w'' := by
  refine ⟨h'.isOpen.trans h.isOpen, fun hopen => ?_⟩
  rw [h'.get? (h.isOpen.trans hopen), h.get? hopen]

/-- A text is synchronised for another file, or the file is not open. -/
lemma synchronize (language : Language) (h : v = uri → w.files.isOpen uri = false) (text : String)
    (version : Option Int) : Spares uri w (w.synchronize language v text version).1 := by
  refine ⟨isOpen_synchronize .., fun hopen => get?_synchronize_of_ne ?_ ..⟩
  intro hv
  rw [h hv] at hopen
  cases hopen

/-- The symbols of a file have no part in its state. -/
lemma dropSymbols (v : Uri) : Spares uri w (w.dropSymbols v) := ⟨rfl, fun _ => rfl⟩

/-! ### Text from disk -/

lemma indexFile (text : String) : Spares uri w (w.indexFile language v text).1 := by
  rw [indexFile_fst]
  split
  · exact refl uri w
  · next hclosed => exact synchronize language (fun hv => by rw [← hv, Bool.eq_false_iff]; exact hclosed) ..

lemma refresh : Spares uri w (w.refresh language disk v).1 := by
  rw [refresh_fst]
  split
  · exact refl uri w
  · next hclosed =>
    split
    · exact refl uri w
    · refine synchronize language (fun hv => ?_) ..
      rw [Bool.or_eq_true, not_or, Bool.not_eq_true] at hclosed
      exact hv ▸ hclosed.1

/-- Only files that are not open are dropped. -/
lemma retain (keep : List Uri) : Spares uri w (w.retain keep).1 := by
  rw [retain_fst]
  have hspared : w.files.isOpen uri = true → uri ∉ w.unretained keep := by
    intro hopen hmem
    exact (mem_unretained.1 hmem).2.2 (List.contains_iff_mem.1 hopen)
  refine ⟨?_, fun hopen => by rw [get?_dropAll, if_neg (hspared hopen)]⟩
  rw [isOpen_dropAll]
  cases hopen : w.files.isOpen uri with
  | false => rw [Bool.false_and]
  | true => rw [Bool.true_and, decide_eq_true (hspared hopen)]

/-! ### Other files -/

lemma markOpen_of_ne (h : v ≠ uri) : Spares uri w { w with files := w.files.markOpen v } := by
  refine ⟨?_, fun _ => FileStore.get?_markOpen ..⟩
  show (w.files.markOpen v).isOpen uri = _
  rw [FileStore.isOpen_markOpen, decide_eq_false h.symm, Bool.or_false]

lemma markClosed_of_ne (h : v ≠ uri) : Spares uri w { w with files := w.files.markClosed v } := by
  refine ⟨?_, fun _ => rfl⟩
  show (w.files.markClosed v).isOpen uri = _
  rw [FileStore.isOpen_markClosed, decide_eq_true h.symm, Bool.and_true]

lemma forget_of_ne (h : v ≠ uri) : Spares uri w (w.forget v) := by
  refine ⟨?_, fun _ => by rw [get?_forget, if_neg h.symm]⟩
  rw [isOpen_forget, decide_eq_true h.symm, Bool.and_true]

lemma openFile_of_ne (h : v ≠ uri) (text : String) (version : Int) :
    Spares uri w (w.openFile language v text version).1 :=
  (markOpen_of_ne h).trans (synchronize language (fun hv => absurd hv h) ..)

lemma change_of_ne (h : v ≠ uri) (text : String) (version : Int) :
    Spares uri w (w.change language v text version).1 :=
  synchronize language (fun hv => absurd hv h) ..

lemma save_of_ne (h : v ≠ uri) (text : Option String) :
    Spares uri w (w.save language disk v text).1 := by
  rw [save_fst]
  split
  · exact refl uri w
  · exact synchronize language (fun hv => absurd hv h) ..

lemma close_of_ne (h : v ≠ uri) : Spares uri w (w.close language disk v).1 := by
  rw [close_fst]
  dsimp only
  have hclosed : Spares uri w { w with files := w.files.markClosed v } := markClosed_of_ne h
  split
  · exact hclosed.trans ((dropSymbols v).trans (forget_of_ne h))
  · next text _ =>
    have hsync := hclosed.trans (synchronize language (fun hv => absurd hv h) text none)
    generalize Workspace.synchronize language { w with files := w.files.markClosed v } v text none =
      outcome at hsync ⊢
    rcases outcome with ⟨w', fault | report⟩
    · exact hsync
    · exact hsync.trans (forget_of_ne h)

lemma delete_of_ne (h : v ≠ uri) : Spares uri w (w.delete v).1 :=
  (forget_of_ne h).trans (dropSymbols v)

end Spares

end Workspace

end CodeIndex
