import CodeIndex.Proofs.Repository.Batches
import CodeIndex.Proofs.Workspace.Reachable

set_option relaxedAutoImplicit false
set_option autoImplicit false

/-!
# Files do not take identifiers from each other

The repository knows a symbol by its identifier alone, so a file that used an identifier of another
one would take a symbol away from it. With the default identifiers that cannot happen. An identifier
is read from its end: four numbers behind colons, and perhaps a mark; what is left is the text of
the file, even if that ends in numbers and marks of its own.

## Main definitions

* `Workspace.LeavesOthers` — the symbols of all files but one are as they were.

## Main results

* `Workspace.Reachable.leavesOthers_commitTree` — a commit displaces symbols of its own file only.
* `Workspace.separate_files` — an identifier belongs to one file and to one node of a tree.
-/

namespace CodeIndex

namespace Workspace

open Extraction

variable {language : Language} {w : Workspace}

/-- Every stored identifier belongs to the file of its symbol. -/
lemma Reachable.owned (h : Reachable language w) (hids : language.ids = .position) {s : Symbol}
    (hs : s ∈ w.repository.toList) : Positional s.uri s.id := by
  obtain ⟨events, htracks⟩ := h.tracks hids
  exact htracks.owned s hs

/-- A symbol whose identifier belongs to a file is a symbol of that file. -/
lemma Reachable.uri_eq_of_positional (h : Reachable language w) (hids : language.ids = .position)
    {uri : Uri} {s : Symbol} (hs : s ∈ w.repository.toList) (hpos : Positional uri s.id) :
    s.uri = uri :=
  (h.owned hids hs).uri_eq hpos

/-- A change of the repository has left all files but one alone. -/
structure LeavesOthers (uri : Uri) (before after : Repository) : Prop where
  /-- The symbols of the other files are the same, in the same order. -/
  inOrder : (after.loadAll fun s => !decide (s.uri = uri)) =
    before.loadAll fun s => !decide (s.uri = uri)
  symbolsIn : ∀ v, v ≠ uri → after.symbolsIn v = before.symbolsIn v
  /-- Each of them is still found under its identifier. -/
  load : ∀ s ∈ before.toList, s.uri ≠ uri → after.load? s.id = some s

/-- No symbol of another file has an identifier that a tree brings with it. -/
lemma Reachable.id_ne (h : Reachable language w) (hids : language.ids = .position) {uri : Uri}
    {root : Node} {s t : Symbol} (hs : s ∈ w.repository.toList) (hne : s.uri ≠ uri)
    (ht : t ∈ extract uri root language.ids language.resolveByName) : s.id ≠ t.id := by
  intro hid
  rw [hids] at ht
  exact hne (h.uri_eq_of_positional hids hs (hid ▸ positional_of_mem_extract ht))

/-- A commit of a tree displaces symbols of its own file only. -/
lemma Reachable.leavesOthers_commitTree (h : Reachable language w)
    (hids : language.ids = .position) (uri : Uri) (root : Node) :
    LeavesOthers uri w.repository (commitTree language w.repository uri root).1 := by
  set symbols := extract uri root language.ids language.resolveByName
  have hswapped := h.consistent.swapped uri symbols
  have hfree : ∀ s ∈ w.repository.toList, s.uri ≠ uri →
      (SymbolList.symbolsIn symbols uri).all (fun t => !decide (s.id = t.id)) = true := by
    intro s hs hne
    refine List.all_eq_true.2 fun t ht => ?_
    simp [h.id_ne hids hs hne (List.mem_filter.1 ht).1]
  have hothers : ((commitTree language w.repository uri root).1.loadAll fun s =>
      !decide (s.uri = uri)) = w.repository.loadAll fun s => !decide (s.uri = uri) := by
    refine hswapped.others.trans (List.filter_eq_self.2 fun s hs => ?_)
    obtain ⟨hmem, hne⟩ := List.mem_filter.1 hs
    exact hfree s hmem (by simpa using hne)
  refine ⟨hothers, fun v hv => ?_, fun s hs hne => ?_⟩
  · refine (hswapped.symbolsIn v hv).trans (List.filter_eq_self.2 fun s hs => ?_)
    rw [h.consistent.symbolsIn_eq] at hs
    obtain ⟨hmem, huri⟩ := SymbolList.mem_symbolsIn.1 hs
    exact hfree s hmem fun heq => hv (huri.symm.trans heq)
  · have hmem : s ∈ (commitTree language w.repository uri root).1.loadAll
        fun s => !decide (s.uri = uri) := by
      rw [hothers]
      exact List.mem_filter.2 ⟨hs, by simp [hne]⟩
    exact (h.consistent.commit uri symbols).1.load?_eq_some_iff.2 ⟨(List.mem_filter.1 hmem).1, rfl⟩

/-- **Files do not take identifiers from each other.** Default identifiers, with or without a mark,
belong to one file, whatever the names of the files look like, and within a tree to one node. So in
every workspace that can be reached, a commit of any tree for one file leaves the symbols of all
other files in place. -/
theorem separate_files (hids : language.ids = .position) (h : Reachable language w) :
    (∀ u v root root' (i j : Nat) (e f : Node × String), (assign u .position root)[i]? = some e →
      (assign v .position root')[j]? = some f → e.2 = f.2 → u = v ∧ (root = root' → i = j)) ∧
    (∀ u v root root' byName byName' m n s t,
      symbolOf? u (assign u .position root) byName m = some s →
        symbolOf? v (assign v .position root') byName' n = some t → s.id = t.id →
          u = v ∧ (root = root' → m.key = n.key ∧ m.type = n.type)) ∧
    ∀ uri root,
      LeavesOthers uri w.repository (commitTree language w.repository uri root).1 := by
  refine ⟨?_, ?_, h.leavesOthers_commitTree hids⟩
  · intro u v root root' i j e f he hf hid
    have hu := positional_of_mem_assign (List.mem_of_getElem? he)
    have hv := positional_of_mem_assign (List.mem_of_getElem? hf)
    obtain rfl : u = v := hu.uri_eq (hid ▸ hv)
    refine ⟨rfl, ?_⟩
    rintro rfl
    exact number_eq_of_id_eq he hf hid
  · intro u v root root' byName byName' m n s t hs ht hid
    obtain rfl : u = v := (positional_of_symbolOf? hs).uri_eq (hid ▸ positional_of_symbolOf? ht)
    refine ⟨rfl, ?_⟩
    rintro rfl
    exact key_eq_of_id_eq hs ht hid

/-- The name of a file with symbols may look like an identifier of another one. -/
theorem separate_files_lookalike :
    ((Workspace.empty.synchronize twinLanguage
        ⟨"file:///a:1:0:1:4#1"⟩ "x" none).1.repository.symbolsIn
          ⟨"file:///a:1:0:1:4#1"⟩).length = 2 ∧
      LeavesOthers ⟨"file:///a"⟩
        (Workspace.empty.synchronize twinLanguage ⟨"file:///a:1:0:1:4#1"⟩ "x" none).1.repository
        (commitTree twinLanguage (Workspace.empty.synchronize twinLanguage
          ⟨"file:///a:1:0:1:4#1"⟩ "x" none).1.repository ⟨"file:///a"⟩ twinTree).1 :=
  ⟨by decide, (separate_files (rfl : twinLanguage.ids = .position)
    (.synchronize .empty ⟨"file:///a:1:0:1:4#1"⟩ "x" none)).2.2 ⟨"file:///a"⟩ twinTree⟩

end Workspace

end CodeIndex
