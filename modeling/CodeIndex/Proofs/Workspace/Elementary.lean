import Mathlib.Tactic.Lemma
import CodeIndex.Proofs.Workspace.Operations

set_option relaxedAutoImplicit false
set_option autoImplicit false

/-!
# Elementary changes

Whatever happens to a workspace is made of a few elementary changes: a text is synchronised, an
open mark comes or goes, a state is forgotten, a file is dropped, everything is started over, or
the tokens of a file are computed. What each of them keeps, every operation keeps. Texts are
synchronised only for the files that an operation names, so a property may ask something of those
names.

## Main definitions

* `Workspace.Kept` — a property is kept by every elementary change, as long as the names of the
  files for which texts are synchronised are of a certain kind.

## Main results

* `Workspace.Kept.openFile`, `Workspace.Kept.save` and the like — such a property is kept by every
  operation.
-/

namespace CodeIndex

namespace Workspace

/-- A property of workspaces is kept by every elementary change, as long as texts are synchronised
for files with names in `A` only. -/
structure Kept (language : Language) (A : Uri → Prop) (P : Workspace → Prop) : Prop where
  synchronize : ∀ {w uri} text version, A uri → P w →
    P (w.synchronize language uri text version).1
  markOpen : ∀ {w} uri, P w → P { w with files := w.files.markOpen uri }
  markClosed : ∀ {w} uri, P w → P { w with files := w.files.markClosed uri }
  forget : ∀ {w} uri, P w → P (w.forget uri)
  drop : ∀ {w} uri, P w → P ((w.forget uri).dropSymbols uri)
  reset : ∀ {w} folders, P w → P (w.reset folders)
  redirect : ∀ {w} folders, P w → P { w with folders := folders }
  /-- Proposals are asked for, which computes the tokens of a tracked file. -/
  complete : ∀ {w uri file support} p options, w.files.get? uri = some file →
    language.completion = some support → P w → P (w.complete support file p options).1

namespace Kept

variable {language : Language} {disk : Disk} {A : Uri → Prop} {P : Workspace → Prop}
  {w : Workspace} {uri : Uri}

lemma dropAll (hP : Kept language A P) (h : P w) (uris : List Uri) : P (w.dropAll uris) := by
  induction uris generalizing w with
  | nil => exact h
  | cons uri uris ih => exact ih (hP.drop uri h)

lemma retain (hP : Kept language A P) (h : P w) (keep : List Uri) : P (w.retain keep).1 := by
  rw [retain_fst]
  exact hP.dropAll h _

lemma indexFile (hP : Kept language A P) (h : P w) (huri : A uri) (text : String) :
    P (w.indexFile language uri text).1 := by
  rw [indexFile_fst]
  split
  · exact h
  · exact hP.synchronize text none huri h

lemma openFile (hP : Kept language A P) (h : P w) (huri : A uri) (text : String)
    (version : Int) : P (w.openFile language uri text version).1 :=
  hP.synchronize text (some version) huri (hP.markOpen uri h)

lemma save (hP : Kept language A P) (h : P w) (huri : A uri) (text : Option String) :
    P (w.save language disk uri text).1 := by
  rw [save_fst]
  split
  · exact h
  · exact hP.synchronize _ _ huri h

lemma close (hP : Kept language A P) (h : P w) (huri : A uri) :
    P (w.close language disk uri).1 := by
  have hclosed := hP.markClosed uri h
  rw [close_fst]
  dsimp only
  split
  · exact hP.drop uri hclosed
  · next text _ =>
    have hsync := hP.synchronize text none huri hclosed
    generalize Workspace.synchronize language { w with files := w.files.markClosed uri } uri text
      none = outcome at hsync ⊢
    rcases outcome with ⟨w', fault | report⟩
    · exact hsync
    · exact hP.forget uri hsync

lemma rename (hP : Kept language A P) (h : P w) (old : Uri) {new : Uri} (hnew : A new) :
    P (w.rename language disk old new).1 := by
  have hdrop : P (w.delete old).1 := hP.drop old h
  refine rename_induction language disk hdrop fun text _ _ => ?_
  exact hP.synchronize text none hnew (carriedOver_induction hdrop (hP.markOpen new hdrop))

lemma refresh (hP : Kept language A P) (h : P w) (huri : A uri) :
    P (w.refresh language disk uri).1 := by
  rw [refresh_fst]
  split
  · exact h
  · split
    · exact h
    · exact hP.synchronize _ none huri h

end Kept

end Workspace

end CodeIndex
