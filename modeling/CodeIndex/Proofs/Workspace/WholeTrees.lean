import CodeIndex.Proofs.Repository.Batches
import CodeIndex.Proofs.Symbol.Clashes
import CodeIndex.Proofs.Workspace.Reachable

set_option relaxedAutoImplicit false
set_option autoImplicit false

/-!
# Trees that are stored whole

When a text is synchronised, the symbols of its tree are committed in one batch, and the report says
how many there were. A symbol that shares its identifier with a later one is displaced by it in the
same commit, and the report does not show that. So the repository has the whole tree exactly if its
identifiers are distinct, which depends on the tree and on the scheme.

## Main results

* `Workspace.synchronize_of_root` — what a text with a tree leaves, and what is reported.
* `Workspace.stored_whole_iff` — when the repository has a symbol for each positioned node.

## Design

With the default identifiers no mark fails. A scheme of an adapter may be any function, and
`Workspace.node_lost_behind_mark` shows one that loses a node.
-/

namespace CodeIndex

namespace Workspace

open Extraction

variable {language : Language} {w : Workspace}

/-- There are as many symbols as positioned nodes. -/
lemma length_extract (uri : Uri) (root : Node) (ids : IdScheme) (byName : Bool) :
    (extract uri root ids byName).length = (root.preorder.filter Node.positioned).length :=
  (forall₂_extract uri root ids byName).length_eq.symm

/-- A parse with a tree is taken over together with the commit of the tree. -/
lemma commitParse_of_root {uri : Uri} {parse : Parse} {root : Node} (hroot : parse.root = some root)
    (text : String) (version : Option Int) :
    w.commitParse language uri text version parse =
      ({ w with
          files := w.files.replace (.ofParse uri text version parse)
          repository := (commitTree language w.repository uri root).1 },
        ⟨.ofParse uri text version parse,
          some (commitTree language w.repository uri root).2⟩) := by
  unfold commitParse
  rw [hroot]

/-- A text with a tree commits the symbols of the tree: of several with one identifier, the last one
stays, but all of them are counted. -/
lemma synchronize_of_root (h : Reachable language w) {uri : Uri} {text : String} {parse : Parse}
    {root : Node} (hparse : language.parse uri text = .ok parse) (hroot : parse.root = some root)
    (version : Option Int) :
    ∃ w' state, w.synchronize language uri text version =
        (w', .ok ⟨state, some ⟨(w.repository.symbolsIn uri).length,
          (root.preorder.filter Node.positioned).length⟩⟩) ∧
      w'.repository.symbolsIn uri =
        SymbolList.latest (extract uri root language.ids language.resolveByName) := by
  set symbols := extract uri root language.ids language.resolveByName
  have hown : SymbolList.symbolsIn symbols uri = symbols := symbolsIn_extract ..
  have hcount : symbols.length = (root.preorder.filter Node.positioned).length :=
    length_extract uri root language.ids language.resolveByName
  have hreport := h.consistent.answers.committed uri symbols
  have hremoved : SymbolList.symbolsIn w.repository.toList uri = w.repository.symbolsIn uri :=
    (h.consistent.symbolsIn_eq uri).symm
  rw [hown, hremoved, hcount] at hreport
  have hstored := (h.consistent.swapped uri symbols).own
  rw [hown] at hstored
  refine ⟨(w.commitParse language uri text version parse).1, .ofParse uri text version parse, ?_, ?_⟩
  · rw [synchronize_of_ok language hparse, commitParse_of_root hroot, ← hreport]
    rfl
  · rw [commitParse_of_root hroot]
    exact hstored

/-- **A tree is stored whole exactly if its identifiers are told apart.** Whatever scheme the
identifiers follow, those of the symbols of a tree are distinct exactly if its nodes can be told
apart and no mark fails; with the default scheme none does. When a text with that tree is
synchronised, the report counts a symbol for each positioned node. The repository has as many for
the file exactly in that case, and then it has those of the extraction, in order; otherwise a node
is lost without a trace in the report. -/
theorem stored_whole_iff (language : Language) (uri : Uri) (root : Node) :
    (((extract uri root language.ids language.resolveByName).map Symbol.id).Nodup ↔
        ToldApart uri language.ids root) ∧
      (language.ids = .position → ∀ k, ¬ MarkFails uri language.ids root.preorder k) ∧
      ∀ {w : Workspace} {text : String} {parse : Parse} (version : Option Int),
        Reachable language w → language.parse uri text = .ok parse → parse.root = some root →
          ∃ w' state removed inserted, w.synchronize language uri text version =
              (w', .ok ⟨state, some ⟨removed, inserted⟩⟩) ∧
            inserted = (root.preorder.filter Node.positioned).length ∧
            (w'.repository.symbolsIn uri).length ≤ inserted ∧
            ((w'.repository.symbolsIn uri).length = inserted ↔ ToldApart uri language.ids root) ∧
            (ToldApart uri language.ids root → w'.repository.symbolsIn uri =
              extract uri root language.ids language.resolveByName) := by
  have hapart : ((extract uri root language.ids language.resolveByName).map Symbol.id).Nodup ↔
      ToldApart uri language.ids root := nodup_extract_iff language.resolveByName
  refine ⟨hapart, fun hids => hids ▸ not_markFails_position uri root.preorder,
    fun version h hparse hroot => ?_⟩
  obtain ⟨w', state, hsync, hstored⟩ := synchronize_of_root h hparse hroot version
  have hcount := length_extract uri root language.ids language.resolveByName
  rw [← hapart, ← SymbolList.latest_eq_self_iff]
  set symbols := extract uri root language.ids language.resolveByName
  have hsublist := SymbolList.latest_sublist symbols
  refine ⟨w', state, _, _, hsync, rfl, ?_, ?_, fun hall => hstored.trans hall⟩
  · rw [hstored, ← hcount]
    exact hsublist.length_le
  · rw [hstored, ← hcount]
    exact ⟨hsublist.eq_of_length, congrArg List.length⟩

/-- Identifiers that name what a node declares, or its type. -/
def declaredName : IdScheme := fun _ n _ => n.name.getD n.type

/-- Two nodes that declare the same name, and one whose name looks like the mark of the second. -/
def markTree : Node :=
  .mk ⟨0, "Block", some ⟨⟨1, 0⟩, ⟨1, 9⟩⟩, some "a", .ok .variable, []⟩
    [.mk ⟨1, "Def", some ⟨⟨1, 0⟩, ⟨1, 4⟩⟩, some "a#2", .ok .variable, []⟩ [],
      .mk ⟨2, "Def", some ⟨⟨1, 5⟩, ⟨1, 9⟩⟩, some "a", .ok .variable, []⟩ []]

/-- A language in which every text has that tree. -/
def markLanguage : Language :=
  { Language.create "mark" fun _ _ => .ok ⟨some markTree, []⟩ with ids := declaredName }

/-- Where a mark fails, two of three symbols are left. -/
theorem stored_whole_iff_markTree :
    Reachable markLanguage .empty ∧
      ∃ w' state removed inserted,
        Workspace.empty.synchronize markLanguage ⟨"file:///a"⟩ "x" none =
          (w', .ok ⟨state, some ⟨removed, inserted⟩⟩) ∧
        inserted = (markTree.preorder.filter Node.positioned).length ∧
        (w'.repository.symbolsIn ⟨"file:///a"⟩).length ≤ inserted ∧
        ((w'.repository.symbolsIn ⟨"file:///a"⟩).length = inserted ↔
          ToldApart ⟨"file:///a"⟩ declaredName markTree) ∧
        (ToldApart ⟨"file:///a"⟩ declaredName markTree →
          w'.repository.symbolsIn ⟨"file:///a"⟩ =
            extract ⟨"file:///a"⟩ markTree declaredName false) :=
  ⟨.empty, (stored_whole_iff markLanguage ⟨"file:///a"⟩ markTree).2.2 none .empty rfl rfl⟩

/-- The third node is marked as what the second one is called. Three symbols are reported, and two
are stored. -/
theorem node_lost_behind_mark :
    markTree.Identified ∧
      ¬ ((extract ⟨"file:///a"⟩ markTree declaredName false).map Symbol.id).Nodup ∧
      ((Workspace.empty.synchronize markLanguage ⟨"file:///a"⟩ "x" none).2.toOption.bind
        (·.committed)) = some ⟨0, 3⟩ ∧
      ((Workspace.empty.synchronize markLanguage ⟨"file:///a"⟩ "x" none).1.repository.symbolsIn
        ⟨"file:///a"⟩).map Symbol.range =
          [some ⟨⟨1, 0⟩, ⟨1, 9⟩⟩, some ⟨⟨1, 5⟩, ⟨1, 9⟩⟩] := by
  refine ⟨?_, by decide, by decide, by decide⟩
  unfold Node.Identified
  decide

end Workspace

end CodeIndex
