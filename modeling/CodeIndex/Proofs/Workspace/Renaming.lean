import CodeIndex.Proofs.Workspace.Interleaving
import CodeIndex.Proofs.Workspace.OpenFiles
import CodeIndex.Proofs.Workspace.Separation

set_option relaxedAutoImplicit false
set_option autoImplicit false

/-!
# Renaming a file

A renamed file is dropped under its old name, and its text is synchronised under the new one: the
text that was tracked or, if the file was not tracked, the text on disk. This file says what is
known of the two names afterwards, and that nothing else changes. If the editor has a document open
under the new name, its text is replaced like any other.

## Main definitions

* `Workspace.arrival` — the text that arrives under the new name, with its parse.
* `Workspace.Gone` — nothing is left of a file.
* `Workspace.Arrived` — a file has a text that was synchronised without a version.
* `Workspace.Moved` — a file was moved, and nothing else has changed.

## Main results

* `Workspace.get?_rename_new`, `Workspace.isOpen_rename_new` — the state and the open mark under the
  new name.
* `Workspace.moved_of_rename` — a renaming moves exactly one file.
* `Workspace.buffer_of_rename` — what becomes of a document that is open under the new name.
-/

namespace CodeIndex

namespace Workspace

open Extraction

variable {language : Language} {disk : Disk} {w : Workspace} {old new uri : Uri}

/-! ## Carrying the open mark over -/

lemma get?_carriedOver (w : Workspace) (old new v : Uri) :
    (w.carriedOver old new).files.get? v = if v = old then none else w.files.get? v := by
  unfold carriedOver delete
  split
  · rw [FileStore.get?_markOpen, get?_drop]
  · rw [get?_drop]

lemma isOpen_carriedOver (w : Workspace) (old new v : Uri) :
    (w.carriedOver old new).files.isOpen v =
      (w.files.isOpen v && decide (v ≠ old) || w.files.isOpen old && decide (v = new)) := by
  unfold carriedOver delete
  split
  · next hopen => rw [FileStore.isOpen_markOpen, isOpen_drop, hopen, Bool.true_and]
  · next hclosed => rw [isOpen_drop, Bool.eq_false_iff.2 hclosed, Bool.false_and, Bool.or_false]

lemma repository_carriedOver (w : Workspace) (old new : Uri) :
    (w.carriedOver old new).repository = (w.delete old).1.repository :=
  carriedOver_induction (P := fun v => v.repository = (w.delete old).1.repository) rfl rfl

lemma Reachable.carriedOver (h : Reachable language w) (old new : Uri) :
    Reachable language (w.carriedOver old new) :=
  carriedOver_induction (h.drop old) ((h.drop old).markOpen new)

/-! ## What arrives under the new name -/

/-- The text that arrives under the new name of a renamed file, with what the parser makes of it.
Nothing arrives if the name is not of the language, if the file has no text, or if the parser breaks
off on it. -/
def arrival (language : Language) (disk : Disk) (w : Workspace) (old new : Uri) :
    Option (String × Parse) :=
  if language.handlesUri new then
    (renamedText disk w old new).bind fun text =>
      (language.parse new text).toOption.map fun parse => (text, parse)
  else none

/-- What arrives becomes the state under the new name, without a version. -/
lemma get?_rename_new (language : Language) (disk : Disk) (w : Workspace) (hne : old ≠ new) :
    (w.rename language disk old new).1.files.get? new =
      (arrival language disk w old new).elim (w.files.get? new) fun a =>
        some (.ofParse new a.1 none a.2) := by
  have hdelete : (w.delete old).1.files.get? new = w.files.get? new :=
    (get?_drop w old new).trans (if_neg hne.symm)
  have hcarried : (w.carriedOver old new).files.get? new = w.files.get? new :=
    (get?_carriedOver w old new new).trans (if_neg hne.symm)
  rw [rename_fst, arrival]
  split
  · cases renamedText disk w old new with
    | none => exact hdelete
    | some text =>
      cases hparse : language.parse new text with
      | error fault =>
        simp only [synchronize_of_error language hparse, hparse, Option.bind_some]
        exact hcarried
      | ok parse =>
        simp only [Option.bind_some, hparse]
        exact get?_synchronize_self hparse _ _
  · exact hdelete

/-- A document that is open under the new name stays open. -/
lemma isOpen_rename_new (language : Language) (disk : Disk) (hne : old ≠ new)
    (hopen : w.files.isOpen new = true) :
    (w.rename language disk old new).1.files.isOpen new = true := by
  refine rename_induction (P := fun v => v.files.isOpen new = true) language disk ?_
    fun text _ _ => ?_
  · refine (isOpen_drop w old new).trans ?_
    rw [hopen, decide_eq_true hne.symm]
    rfl
  · rw [isOpen_synchronize, isOpen_carriedOver, hopen, decide_eq_true hne.symm]
    rfl

/-- **A renaming onto an open document replaces its text.** The document stays open, but what
arrives under its name becomes its state, whatever the editor had sent for it. So its text and its
version survive exactly if nothing arrives, or the same text arrives and there was no version. -/
theorem buffer_of_rename (language : Language) (disk : Disk) (hne : old ≠ new) {state : FileState}
    (hstate : w.files.get? new = some state) (hopen : w.files.isOpen new = true) :
    (w.rename language disk old new).1.files.isOpen new = true ∧
      (w.rename language disk old new).1.files.get? new =
        some ((arrival language disk w old new).elim state fun a =>
          .ofParse new a.1 none a.2) ∧
      (((w.rename language disk old new).1.files.get? new).map (fun f => (f.text, f.version)) =
          some (state.text, state.version) ↔
        ∀ a ∈ arrival language disk w old new, a.1 = state.text ∧ state.version = none) := by
  have hget : (w.rename language disk old new).1.files.get? new =
      some ((arrival language disk w old new).elim state fun a => .ofParse new a.1 none a.2) := by
    rw [get?_rename_new language disk w hne, hstate]
    cases arrival language disk w old new <;> rfl
  refine ⟨isOpen_rename_new language disk hne hopen, hget, ?_⟩
  rw [hget, Option.map_some]
  cases arrival language disk w old new with
  | none => simp
  | some a => simp [FileState.ofParse, eq_comm]

/-- A document that the editor has open, and a file that was indexed from disk. -/
def drafted : Workspace :=
  run twinLanguage .empty
    [(.empty, .openFile ⟨"file:///a"⟩ "x" 1), (.empty, .indexFile ⟨"file:///b"⟩ "y")]

lemma reachable_drafted : Reachable twinLanguage drafted := Reachable.empty.run _

/-- A file that is neither tracked nor on disk brings nothing along. -/
theorem buffer_of_rename_nothing :
    (drafted.files.get? ⟨"file:///a"⟩).isSome = true ∧
      drafted.files.isOpen ⟨"file:///a"⟩ = true ∧
      ((drafted.rename twinLanguage .empty ⟨"file:///c"⟩ ⟨"file:///a"⟩).1.files.get?
        ⟨"file:///a"⟩).map (fun f => (f.text, f.version)) = some ("x", some 1) := by
  have hopen : drafted.files.isOpen ⟨"file:///a"⟩ = true := by decide
  refine ⟨by decide, hopen, ?_⟩
  refine (buffer_of_rename twinLanguage .empty (by decide)
    (rfl : drafted.files.get? ⟨"file:///a"⟩ =
      some (.ofParse ⟨"file:///a"⟩ "x" (some 1) ⟨some twinTree, []⟩)) hopen).2.2.2 ?_
  intro a ha
  cases ha

/-- The editor has sent a text for the document. A file that it does not have open is renamed onto
it, and the document has the text of that file, or the text on disk, and no version. -/
theorem buffer_lost_by_rename :
    Reachable twinLanguage drafted ∧
      drafted.files.isOpen ⟨"file:///a"⟩ = true ∧
      (drafted.files.get? ⟨"file:///a"⟩).map (fun f => (f.text, f.version)) =
        some ("x", some 1) ∧
      drafted.files.isOpen ⟨"file:///b"⟩ = false ∧
      ((drafted.rename twinLanguage .empty ⟨"file:///b"⟩ ⟨"file:///a"⟩).1.files.get?
        ⟨"file:///a"⟩).map (fun f => (f.text, f.version)) = some ("y", none) ∧
      drafted.files.isOpen ⟨"file:///c"⟩ = false ∧
      ((drafted.rename twinLanguage twoFileDisk ⟨"file:///c"⟩ ⟨"file:///a"⟩).1.files.get?
        ⟨"file:///a"⟩).map (fun f => (f.text, f.version)) = some ("a", none) :=
  ⟨reachable_drafted, by decide, by decide, by decide, by decide, by decide, by decide⟩

/-! ## Moving a file -/

/-- Nothing is left of a file: no state, no open mark, no symbol of its own, and no symbol under an
identifier that one of its trees could bring with it. -/
structure Gone (w : Workspace) (uri : Uri) : Prop where
  state : w.files.get? uri = none
  mark : w.files.isOpen uri = false
  symbols : w.repository.symbolsIn uri = []
  load : ∀ root, ∀ e ∈ assign uri .position root, w.repository.load? e.2 = none

/-- An identifier is read from its end, so that it leads to its own file or to nothing. -/
lemma Reachable.gone (h : Reachable language w) (hids : language.ids = .position)
    (hstate : w.files.get? uri = none) (hmark : w.files.isOpen uri = false)
    (hsymbols : SymbolList.symbolsIn w.repository.toList uri = []) : Gone w uri where
  state := hstate
  mark := hmark
  symbols := (h.consistent.symbolsIn_eq uri).trans hsymbols
  load := by
    intro root e he
    cases hload : w.repository.load? e.2 with
    | none => rfl
    | some s =>
      -- what is found would be a symbol of the file, and there is none
      obtain ⟨hs, hid⟩ := h.consistent.load?_eq_some_iff.1 hload
      have huri : s.uri = uri :=
        h.uri_eq_of_positional hids hs (hid ▸ positional_of_mem_assign he)
      have hmem : s ∈ SymbolList.symbolsIn w.repository.toList uri :=
        SymbolList.mem_symbolsIn.2 ⟨hs, huri⟩
      rw [hsymbols] at hmem
      cases hmem

/-- A file that is gone stays so as long as what is known of it does not change. -/
lemma Gone.of_sameAt {w' : Workspace} (hgone : Gone w uri) (hsame : SameAt uri w' w)
    (h : Reachable language w) (h' : Reachable language w') (hids : language.ids = .position) :
    Gone w' uri := by
  refine h'.gone hids (hsame.state.trans hgone.state) (hsame.mark.trans hgone.mark) ?_
  exact hsame.symbols.trans ((h.consistent.symbolsIn_eq uri).symm.trans hgone.symbols)

/-- Nothing is left of a file that was dropped. -/
lemma Reachable.gone_delete (h : Reachable language w) (hids : language.ids = .position)
    (uri : Uri) : Gone (w.delete uri).1 uri := by
  refine (h.drop uri).gone hids ?_ ?_ ?_
  · exact (get?_drop w uri uri).trans (if_pos rfl)
  · refine (isOpen_drop w uri uri).trans ?_
    rw [decide_eq_false (not_not.2 rfl), Bool.and_false]
  · exact (Local.symbolsIn_drop h uri uri).trans (if_pos rfl)

/-- A file has a text that was synchronised without a version. If the text has a tree, the symbols
of the file are those of the tree; otherwise they are what they were. -/
structure Arrived (language : Language) (before after : Workspace) (uri : Uri) (text : String)
    (mark : Bool) : Prop where
  state : ∃ parse, language.parse uri text = .ok parse ∧
    after.files.get? uri = some (.ofParse uri text none parse)
  mark : after.files.isOpen uri = mark
  /-- Of several symbols with one identifier the last one stays; nodes that can be told apart have
  one symbol each. -/
  tree : ∀ {root}, language.tree? uri text = some root →
    after.repository.symbolsIn uri =
        SymbolList.latest (extract uri root .position language.resolveByName) ∧
      (root.Identified → after.repository.symbolsIn uri =
        extract uri root .position language.resolveByName)
  treeless : language.tree? uri text = none →
    after.repository.symbolsIn uri = before.repository.symbolsIn uri

/-- What a text without a version leaves of its file. -/
lemma Reachable.arrived_synchronize (h : Reachable language w) (hids : language.ids = .position)
    {text : String} {parse : Parse} (hparse : language.parse uri text = .ok parse) :
    Arrived language w (w.synchronize language uri text none).1 uri text
      (w.files.isOpen uri) := by
  have hafter := (h.synchronize uri text none).consistent
  have hsymbols : (w.synchronize language uri text none).1.repository.symbolsIn uri =
      (language.tree? uri text).elim (SymbolList.symbolsIn w.repository.toList uri)
        fun root => stored language uri (some root) := by
    rw [hafter.symbolsIn_eq]
    exact (Local.symbolsIn_synchronize hids h uri uri text none).trans (if_pos rfl)
  refine ⟨⟨parse, hparse, get?_synchronize_self hparse w none⟩, isOpen_synchronize .., ?_, ?_⟩
  · intro root htree
    rw [htree, Option.elim_some] at hsymbols
    refine ⟨?_, fun hroot => hsymbols.trans (stored_eq_extract hids uri hroot)⟩
    rw [hsymbols, stored, SymbolList.storeAll_nil, hids]
  · intro htree
    rw [htree, Option.elim_none] at hsymbols
    exact hsymbols.trans (h.consistent.symbolsIn_eq uri).symm

/-- Where two workspaces know the same symbols of a file, a text arrives at it in the same way. -/
lemma Arrived.of_symbolsIn_eq {before before' after : Workspace} {text : String} {mark : Bool}
    (h : Arrived language before after uri text mark)
    (hsymbols : before.repository.symbolsIn uri = before'.repository.symbolsIn uri) :
    Arrived language before' after uri text mark :=
  ⟨h.state, h.mark, h.tree, fun htree => (h.treeless htree).trans hsymbols⟩

/-- Under all names but the new one, a renaming does what dropping the old one does. -/
lemma sameAt_rename (h : Reachable language w) (hids : language.ids = .position) (disk : Disk)
    (old : Uri) (hv : uri ≠ new) :
    SameAt uri (w.rename language disk old new).1 (w.delete old).1 := by
  have hcarried : SameAt uri (w.carriedOver old new) (w.delete old).1 :=
    carriedOver_induction (P := fun v => SameAt uri v (w.delete old).1) (.refl _ _)
      ((Local.markOpen language new).frame (h.drop old) hv)
  refine rename_induction (P := fun v => SameAt uri v (w.delete old).1) language disk (.refl _ _)
    fun text _ _ => ?_
  exact ((Local.synchronize hids new text none).frame (h.carriedOver old new) hv).trans hcarried

/-- The text of a renamed file arrives under a new name of the language. -/
lemma arrived_rename (h : Reachable language w) (hids : language.ids = .position)
    (htotal : language.Total) (hne : old ≠ new) (hhandles : language.handlesUri new = true)
    {text : String} (htext : renamedText disk w old new = some text) :
    Arrived language w (w.rename language disk old new).1 new text
      (w.files.isOpen new || w.files.isOpen old) := by
  have hcarried := h.carriedOver old new
  have hmark : (w.carriedOver old new).files.isOpen new =
      (w.files.isOpen new || w.files.isOpen old) := by
    rw [isOpen_carriedOver, decide_eq_true hne.symm, decide_eq_true rfl, Bool.and_true,
      Bool.and_true]
  -- the old file takes no symbol of the new one along
  have hsymbols : (w.carriedOver old new).repository.symbolsIn new =
      w.repository.symbolsIn new := by
    rw [hcarried.consistent.symbolsIn_eq, h.consistent.symbolsIn_eq, repository_carriedOver]
    exact (Local.symbolsIn_drop h old new).trans (if_neg hne.symm)
  obtain ⟨parse, hparse⟩ := htotal new text
  rw [rename_fst, if_pos hhandles, htext, ← hmark]
  exact (hcarried.arrived_synchronize hids hparse).of_symbolsIn_eq hsymbols

/-- A file was moved: of all names, only the old and the new one see something of it. -/
structure Moved (language : Language) (disk : Disk) (before after : Workspace) (old new : Uri) :
    Prop where
  gone : Gone after old
  others : ∀ {v}, v ≠ old → v ≠ new → SameAt v after before
  /-- Under a name that is not of the language, nothing arrives. -/
  unhandled : language.handlesUri new = false → SameAt new after before
  /-- A tracked file takes its text along, and its open mark. -/
  tracked : language.handlesUri new = true → ∀ {file}, before.files.get? old = some file →
    Arrived language before after new file.text
      (before.files.isOpen new || before.files.isOpen old)
  /-- The text of any other file is read from disk. -/
  readable : language.handlesUri new = true → before.files.get? old = none →
    ∀ {text}, readUri disk new = .ok text →
      Arrived language before after new text (before.files.isOpen new || before.files.isOpen old)
  unreadable : before.files.get? old = none → ∀ {error}, readUri disk new = .error error →
    SameAt new after before

/-- A parser that never breaks off lets every renaming come to its end. -/
lemma exists_answer_rename (htotal : language.Total) (disk : Disk) (w : Workspace) (old new : Uri) :
    ∃ answer, (w.rename language disk old new).2 = .ok answer := by
  rw [rename_eq]
  split
  · split
    · exact ⟨none, rfl⟩
    · next text _ =>
      obtain ⟨parse, hparse⟩ := htotal new text
      rw [synchronize_of_ok language hparse]
      exact ⟨_, rfl⟩
  · exact ⟨none, rfl⟩

/-- **A renaming moves exactly one file.** Nothing is left under the old name, and no other file
sees anything of it, whatever was known of the two names before. If the new name is of the language,
the text that was tracked, or else the one on disk, is tracked there without a version; its tree
replaces the symbols there, and the document is open exactly if one of the two names was. If the
name is not of the language, or there is no text, everything under it stays as it was. -/
theorem moved_of_rename (hids : language.ids = .position) (htotal : language.Total)
    (h : Reachable language w) (disk : Disk) (hne : old ≠ new) :
    (∃ answer, (w.rename language disk old new).2 = .ok answer) ∧
      Moved language disk w (w.rename language disk old new).1 old new := by
  have hothers : ∀ {v}, v ≠ old → SameAt v (w.delete old).1 w :=
    fun hv => (Local.drop language old).frame h hv
  have hafter : Reachable language (w.rename language disk old new).1 :=
    h.apply disk (.rename old new)
  refine ⟨exists_answer_rename htotal disk w old new, ?_⟩
  exact
    { gone := (h.gone_delete hids old).of_sameAt (sameAt_rename h hids disk old hne) (h.drop old)
        hafter hids
      others := fun hold hnew => (sameAt_rename h hids disk old hnew).trans (hothers hold)
      unhandled := by
        intro hhandles
        rw [rename_fst, hhandles, if_neg Bool.false_ne_true]
        exact hothers hne.symm
      tracked := by
        intro hhandles file hfile
        refine arrived_rename h hids htotal hne hhandles ?_
        rw [renamedText, hfile]
      readable := by
        intro hhandles huntracked text hread
        refine arrived_rename h hids htotal hne hhandles ?_
        rw [renamedText, huntracked, hread]
        rfl
      unreadable := by
        intro huntracked error hread
        have htext : renamedText disk w old new = none := by
          rw [renamedText, huntracked, hread]
          rfl
        rw [rename_fst, htext, ite_self]
        exact hothers hne.symm }

/-- A document that is open is moved with its text, its symbols and its open mark. -/
theorem moved_of_rename_drafted :
    Moved twinLanguage .empty drafted
        (drafted.rename twinLanguage .empty ⟨"file:///a"⟩ ⟨"file:///c"⟩).1 ⟨"file:///a"⟩
        ⟨"file:///c"⟩ ∧
      (drafted.rename twinLanguage .empty ⟨"file:///a"⟩ ⟨"file:///c"⟩).1.files.isOpen
        ⟨"file:///c"⟩ = true ∧
      (drafted.rename twinLanguage .empty ⟨"file:///a"⟩ ⟨"file:///c"⟩).1.repository.symbolsIn
        ⟨"file:///c"⟩ = extract ⟨"file:///c"⟩ twinTree .position false := by
  have hmoved := (moved_of_rename (rfl : twinLanguage.ids = .position) (fun _ _ => ⟨_, rfl⟩)
    reachable_drafted .empty (by decide : (⟨"file:///a"⟩ : Uri) ≠ ⟨"file:///c"⟩)).2
  have harrived := hmoved.tracked rfl
    (rfl : drafted.files.get? ⟨"file:///a"⟩ =
      some (.ofParse ⟨"file:///a"⟩ "x" (some 1) ⟨some twinTree, []⟩))
  have htree : twinLanguage.tree? ⟨"file:///c"⟩ "x" = some twinTree := rfl
  exact ⟨hmoved, harrived.mark, (harrived.tree htree).2 (distinctNodes_twinLanguage htree)⟩

end Workspace

end CodeIndex
