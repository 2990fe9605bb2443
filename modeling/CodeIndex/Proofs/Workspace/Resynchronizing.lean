import CodeIndex.Proofs.Workspace.Closing
import CodeIndex.Proofs.Workspace.OpenFiles
import CodeIndex.Proofs.Workspace.WholeTrees

set_option relaxedAutoImplicit false
set_option autoImplicit false

/-!
# Synchronising the same text again

When a text is synchronised that its file already has, every symbol of the file is taken out of the
repository and stored anew under a fresh number. The symbols were the last ones before, so they come
back to the same places, and no query shows the numbers: but for the version of the file, nothing
has changed. This holds for every scheme of identifiers, also for one that takes symbols away from
other files or loses some of its own, since all of that has happened the first time.

## Main results

* `SymbolList.syncFile_syncFile` — the same text again does not change the list of symbols.
* `Workspace.resynchronized` — the same text again leaves every answer as it was.
-/

namespace CodeIndex

/-- Synchronising the same text again does not change the list of symbols. -/
lemma SymbolList.syncFile_syncFile (language : Language) (l : List Symbol) (file : Uri × String) :
    syncFile language (syncFile language l file) file = syncFile language l file := by
  cases htree : language.tree? file.1 file.2 with
  | none => rw [syncFile_of_none htree, syncFile_of_none htree]
  | some root =>
    have hreplace : ∀ m, syncFile language m file = replaceFile m file.1
        (Extraction.extract file.1 root language.ids language.resolveByName) := by
      intro m
      rw [syncFile_of_some htree, replaceFile, Extraction.symbolsIn_extract]
    rw [hreplace, hreplace, replaceFile_replaceFile]

namespace Workspace

open Extraction

variable {language : Language} {w : Workspace} {uri : Uri} {text : String}

/-- The state of a file after the same text came again is that of the second time. -/
lemma get?_resynchronize (language : Language) (w : Workspace) (uri v : Uri) (text : String)
    (version version' : Option Int) :
    ((w.synchronize language uri text version).1.synchronize language uri text
        version').1.files.get? v =
      (w.synchronize language uri text version').1.files.get? v := by
  by_cases hv : uri = v
  · subst hv
    cases hparse : language.parse uri text with
    | error fault => simp only [synchronize_of_error language hparse]
    | ok parse => rw [get?_synchronize_self hparse, get?_synchronize_self hparse]
  · rw [get?_synchronize_of_ne hv, get?_synchronize_of_ne hv, get?_synchronize_of_ne hv]

/-- **The same text again leaves every answer as it was.** When a text that was synchronised for a
file is synchronised again, in whatever version, the repository lists the same symbols in the same
order and so answers every query alike; the workspace is one that the second version alone would
have led to. If the text has a tree, as many symbols are reported as removed as the file has; as
many are reported as inserted exactly if the tree is stored whole, as it is with the default
identifiers if its nodes can be told apart.

**Proof sketch.** The list of symbols determines every answer. After the first time it consists of
symbols of other files, none of which has an identifier of the tree, and behind them of what the
tree leaves; the second time takes the latter away and puts the same back. -/
theorem resynchronized (h : Reachable language w) (uri : Uri) (text : String)
    (version version' : Option Int) :
    let first := (w.synchronize language uri text version).1
    let again := first.synchronize language uri text version'
    Repository.AnswersAlike again.1.repository first.repository ∧
      Indistinguishable again.1 (w.synchronize language uri text version').1 ∧
      ∀ root, language.tree? uri text = some root →
        ∃ state removed inserted, again.2 = .ok ⟨state, some ⟨removed, inserted⟩⟩ ∧
          removed = (again.1.repository.symbolsIn uri).length ∧
          inserted = (root.preorder.filter Node.positioned).length ∧
          (inserted = removed ↔ ToldApart uri language.ids root) ∧
          (language.ids = .position → root.Identified → inserted = removed) := by
  intro first again
  have hfirst : Reachable language first := h.synchronize uri text version
  have hagain : Reachable language again.1 := hfirst.synchronize uri text version'
  have hlisted : first.repository.toList =
      SymbolList.syncFile language w.repository.toList (uri, text) :=
    (toList_synchronize h.consistent uri text version).2
  have hlist : again.1.repository.toList = first.repository.toList := by
    rw [(toList_synchronize hfirst.consistent uri text version').2, hlisted,
      SymbolList.syncFile_syncFile]
  have halike := Repository.answersAlike_of_toList_eq hagain.consistent hfirst.consistent hlist
  refine ⟨halike, ?_, fun root htree => ?_⟩
  · refine indistinguishable_of_toList_eq hagain.consistent
      (h.synchronize uri text version').consistent ?_ ?_ ?_ ?_
    · rw [folders_synchronize, folders_synchronize, folders_synchronize]
    · exact fun v => get?_resynchronize language w uri v text version version'
    · intro v
      rw [isOpen_synchronize, isOpen_synchronize, isOpen_synchronize]
    · rw [hlist, hlisted, (toList_synchronize h.consistent uri text version').2]
  · obtain ⟨parse, hparse, hroot⟩ := Language.exists_parse_of_tree? htree
    obtain ⟨w', state, hsync, hstored⟩ := synchronize_of_root hfirst hparse hroot version'
    have hw' : again.1 = w' := congrArg Prod.fst hsync
    have hremoved : first.repository.symbolsIn uri = again.1.repository.symbolsIn uri :=
      (halike.symbolsIn uri).symm
    -- what the second commit removes is what the first one stored
    have hwhole : (root.preorder.filter Node.positioned).length =
        (first.repository.symbolsIn uri).length ↔ ToldApart uri language.ids root := by
      rw [hremoved, hw', hstored, ← length_extract uri root language.ids language.resolveByName,
        eq_comm, SymbolList.length_latest_eq_iff, nodup_extract_iff]
    exact ⟨state, _, _, congrArg Prod.snd hsync, by rw [hremoved], rfl, hwhole,
      fun hids hnodes => hwhole.2 (hids ▸ toldApart_position uri hnodes)⟩

/-- Two files that are open with the same tree. -/
def bothOpen : Workspace :=
  run twinLanguage .empty
    [(.empty, .openFile ⟨"file:///a"⟩ "x" 1), (.empty, .openFile ⟨"file:///b"⟩ "x" 1)]

/-- The first file gets a text, and then the same text in another version: two symbols make room for
two. -/
theorem resynchronized_bothOpen :
    Repository.AnswersAlike
        ((bothOpen.synchronize twinLanguage ⟨"file:///a"⟩ "y" (some 2)).1.synchronize twinLanguage
          ⟨"file:///a"⟩ "y" (some 3)).1.repository
        (bothOpen.synchronize twinLanguage ⟨"file:///a"⟩ "y" (some 2)).1.repository ∧
      ∃ state, ((bothOpen.synchronize twinLanguage ⟨"file:///a"⟩ "y" (some 2)).1.synchronize
        twinLanguage ⟨"file:///a"⟩ "y" (some 3)).2 = .ok ⟨state, some ⟨2, 2⟩⟩ := by
  have hreach : Reachable twinLanguage bothOpen := Reachable.empty.run _
  have htree : twinLanguage.tree? ⟨"file:///a"⟩ "y" = some twinTree := rfl
  obtain ⟨halike, -, hreport⟩ := resynchronized hreach ⟨"file:///a"⟩ "y" (some 2) (some 3)
  obtain ⟨state, removed, inserted, heq, -, hinserted, -, hequal⟩ := hreport twinTree htree
  obtain rfl : inserted = 2 := hinserted
  obtain rfl : 2 = removed := hequal rfl (distinctNodes_twinLanguage htree)
  exact ⟨halike, state, heq⟩

end Workspace

end CodeIndex
