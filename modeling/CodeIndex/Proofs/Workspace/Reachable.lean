import Mathlib.Tactic.Lemma
import CodeIndex.Proofs.Workspace.Elementary
import CodeIndex.Proofs.Workspace.Generations

set_option relaxedAutoImplicit false
set_option autoImplicit false

/-!
# Workspaces that can be reached

Whatever happens to a workspace is made of a few elementary changes: a text is synchronised, an
open mark comes or goes, a state is forgotten, a file is dropped, everything is started over. This
file collects the workspaces that such changes lead to, in whatever order they come, and shows that
every operation stays among them. Invariants are then proved for one elementary change at a time.

## Main definitions

* `Workspace.Reachable` — the workspaces that elementary changes lead to from the empty one.
* `Workspace.IndexedUnder` — all symbols belong to files with names of a certain kind.

## Main results

* `Workspace.Reachable.apply` — every operation leads from such a workspace to another.
* `Workspace.Reachable.consistent` — the indices of the repository are in step, whatever scheme
  the identifiers follow.
* `Workspace.Reachable.uri_of_get?` — the state of a file bears the name of the file.
* `Workspace.Reachable.tracks` — with the default identifiers, the workspace holds one generation
  of symbols for each file.
* `Workspace.kept_indexedUnder` — symbols belong to files for which a text was synchronised.

## Design

Elementary changes may come in more orders than operations can bring about; what is shown of every
reachable workspace therefore also holds while operations and background work interleave.
-/

namespace CodeIndex

namespace Workspace

/-- The workspaces that elementary changes lead to from the empty one. -/
inductive Reachable (language : Language) : Workspace → Prop where
  | empty : Reachable language .empty
  | synchronize {w : Workspace} (h : Reachable language w) (uri : Uri) (text : String)
      (version : Option Int) : Reachable language (w.synchronize language uri text version).1
  | markOpen {w : Workspace} (h : Reachable language w) (uri : Uri) :
      Reachable language { w with files := w.files.markOpen uri }
  | markClosed {w : Workspace} (h : Reachable language w) (uri : Uri) :
      Reachable language { w with files := w.files.markClosed uri }
  | forget {w : Workspace} (h : Reachable language w) (uri : Uri) :
      Reachable language (w.forget uri)
  | drop {w : Workspace} (h : Reachable language w) (uri : Uri) :
      Reachable language ((w.forget uri).dropSymbols uri)
  | reset {w : Workspace} (h : Reachable language w) (folders : List Uri) :
      Reachable language (w.reset folders)
  | redirect {w : Workspace} (h : Reachable language w) (folders : List Uri) :
      Reachable language { w with folders := folders }
  /-- The tokens of a tracked file are computed. -/
  | tokenize {w : Workspace} (h : Reachable language w) {uri : Uri} {file : FileState}
      (hfile : w.files.get? uri = some file) (tokens : Option (List Token)) :
      Reachable language { w with files := w.files.replace { file with tokens := tokens } }

namespace Reachable

variable {language : Language} {w : Workspace}

/-! ## Operations -/

/-- Asking for proposals computes the tokens of a file and changes nothing else. -/
lemma complete (h : Reachable language w) {uri : Uri} {file : FileState}
    (hfile : w.files.get? uri = some file) (support : CompletionSupport) (p : Point)
    (options : CompletionOptions) :
    Reachable language (w.complete support file p options).1 := by
  have hprovide :
      ∃ tokens, (support.provide file p options).1 = { file with tokens := tokens } := by
    unfold CompletionSupport.provide FileState.tokenized
    cases htokens : file.tokens with
    | some tokens => exact ⟨some tokens, by simp only [← htokens]⟩
    | none =>
      cases support.tokenize file.text with
      | ok tokens => exact ⟨some tokens, rfl⟩
      | error fault => exact ⟨none, by simp only [← htokens]⟩
  obtain ⟨tokens, htokens⟩ := hprovide
  have hfst : (w.complete support file p options).1 =
      { w with files := w.files.replace (support.provide file p options).1 } := rfl
  rw [hfst, htokens]
  exact h.tokenize hfile tokens

/-- Every elementary change leads from such a workspace to another. -/
lemma kept (language : Language) : Kept language (fun _ => True) (Reachable language) where
  synchronize text version _ h := h.synchronize _ text version
  markOpen uri h := h.markOpen uri
  markClosed uri h := h.markClosed uri
  forget uri h := h.forget uri
  drop uri h := h.drop uri
  reset folders h := h.reset folders
  redirect folders h := h.redirect folders
  complete p options hfile _ h := h.complete hfile _ p options

lemma retain (h : Reachable language w) (keep : List Uri) :
    Reachable language (w.retain keep).1 :=
  (kept language).retain h keep

lemma indexFile (h : Reachable language w) (uri : Uri) (text : String) :
    Reachable language (w.indexFile language uri text).1 :=
  (kept language).indexFile h trivial text

lemma loadFiles (h : Reachable language w) (disk : Disk) (limit : Option Nat)
    (stops : Nat → Bool) (done : Nat) (summary : LoadSummary) (paths : List Path) :
    Reachable language (w.loadFiles language disk limit stops done summary paths).1 :=
  loadFiles_induction language disk (fun _ uri text _ h => h.indexFile uri text) _ _ _ _ h

lemma load (h : Reachable language w) (disk : Disk) (folders : List Uri)
    (options : DiscoveryOptions) (stops : Nat → Bool) :
    Reachable language (w.load language disk folders options stops).1 :=
  (h.reset folders).loadFiles disk _ _ _ _ _

/-- Every operation is made of elementary changes. -/
lemma apply (h : Reachable language w) (disk : Disk) (op : Operation) :
    Reachable language (op.apply language disk w) := by
  cases op with
  | synchronize uri text version => exact h.synchronize uri text version
  | openFile uri text version => exact (kept language).openFile h trivial text version
  | change uri text version => exact h.synchronize uri text (some version)
  | save uri text => exact (kept language).save h trivial text
  | close uri => exact (kept language).close h trivial
  | delete uri => exact h.drop uri
  | rename old new => exact (kept language).rename h old trivial
  | retain keep => exact h.retain keep
  | indexFile uri text => exact h.indexFile uri text
  | refresh uri => exact (kept language).refresh h trivial
  | reset folders => exact h.reset folders
  | load folders options stops => exact h.load disk folders options stops

/-- Every run of operations is. -/
lemma run (h : Reachable language w) (ops : List (Disk × Operation)) :
    Reachable language (w.run language ops) := by
  induction ops generalizing w with
  | nil => exact h
  | cons step ops ih => exact ih (h.apply step.1 step.2)

/-! ## Invariants -/

/-- The indices of the repository are in step, whatever scheme the identifiers follow. -/
lemma consistent (h : Reachable language w) : w.repository.Consistent := by
  induction h with
  | empty => exact Repository.consistent_empty
  | @synchronize w _ uri text version ih =>
    rw [synchronize_fst]
    split
    · exact ih
    · next parse _ =>
      rw [repository_commitParse]
      split
      · exact ih
      · exact (ih.commit uri _).1
  | markOpen _ uri ih => exact ih
  | markClosed _ uri ih => exact ih
  | forget _ uri ih => exact ih
  | drop _ uri ih => exact ih.deleteFile uri
  | reset _ folders _ => exact Repository.consistent_empty
  | redirect _ folders ih => exact ih
  | tokenize _ hfile tokens ih => exact ih

/-- The state of a file bears the name of the file. -/
lemma uri_of_get? (h : Reachable language w) {uri : Uri} {file : FileState}
    (hfile : w.files.get? uri = some file) : file.uri = uri := by
  induction h generalizing uri file with
  | empty => cases hfile
  | @synchronize w _ v text version ih =>
    rw [synchronize_fst] at hfile
    split at hfile
    · exact ih hfile
    · rw [get?_commitParse] at hfile
      split at hfile
      · next huri =>
        obtain rfl := Option.some.inj hfile
        exact huri.symm
      · exact ih hfile
  | markOpen _ v ih =>
    rw [FileStore.get?_markOpen] at hfile
    exact ih hfile
  | markClosed _ v ih => exact ih hfile
  | forget _ v ih =>
    rw [get?_forget] at hfile
    split at hfile
    · cases hfile
    · exact ih hfile
  | drop _ v ih =>
    rw [get?_drop] at hfile
    split at hfile
    · cases hfile
    · exact ih hfile
  | reset _ folders _ => cases hfile
  | redirect _ folders ih => exact ih hfile
  | @tokenize w _ v tracked _ tokens ih =>
    have hget : (w.files.replace { tracked with tokens := tokens }).get? uri =
        if uri = tracked.uri then some { tracked with tokens := tokens } else w.files.get? uri :=
      OrderedMap.get?_insert _ _ _ _
    rw [hget] at hfile
    split at hfile
    · next huri =>
      obtain rfl := Option.some.inj hfile
      exact huri.symm
    · exact ih hfile

/-- Computing the tokens of a file is no business of the repository. -/
lemma tracks_tokenize {events : List Event} (h : Tracks language w events) {uri : Uri}
    {file : FileState} (hfile : w.files.get? uri = some file) (huri : file.uri = uri)
    (tokens : Option (List Token)) :
    Tracks language { w with files := w.files.replace { file with tokens := tokens } } events where
  consistent := h.consistent
  owned := h.owned
  symbols := h.symbols
  files := by
    intro v f root hf hroot
    have hget : (w.files.replace { file with tokens := tokens }).get? v =
        if v = file.uri then some { file with tokens := tokens } else w.files.get? v :=
      OrderedMap.get?_insert _ _ _ _
    have hf' : (if v = file.uri then some { file with tokens := tokens } else w.files.get? v) =
        some f := hget.symm.trans hf
    split at hf'
    · next hv =>
      obtain rfl := Option.some.inj hf'
      rw [hv, huri]
      exact h.files hfile hroot
    · exact h.files hf' hroot

/-- With the default identifiers, the workspace holds one generation of symbols for each file. -/
lemma tracks (h : Reachable language w) (hids : language.ids = .position) :
    ∃ events, Tracks language w events := by
  induction h with
  | empty => exact ⟨[], Tracks.of_empty rfl rfl fun _ => rfl⟩
  | synchronize _ uri text version ih =>
    obtain ⟨events, htracks⟩ := ih
    exact ⟨_, htracks.synchronize hids uri text version⟩
  | markOpen _ uri ih =>
    obtain ⟨events, htracks⟩ := ih
    exact ⟨events, htracks.markOpen uri⟩
  | markClosed _ uri ih =>
    obtain ⟨events, htracks⟩ := ih
    exact ⟨events, htracks.markClosed uri⟩
  | forget _ uri ih =>
    obtain ⟨events, htracks⟩ := ih
    exact ⟨events, htracks.forget uri⟩
  | drop _ uri ih =>
    obtain ⟨events, htracks⟩ := ih
    exact ⟨_, htracks.drop uri⟩
  | @reset w _ folders _ => exact ⟨_, Tracks.reset w [] folders⟩
  | redirect _ folders ih =>
    obtain ⟨events, htracks⟩ := ih
    exact ⟨events, htracks.of_files rfl fun hf => hf⟩
  | tokenize hreach hfile tokens ih =>
    obtain ⟨events, htracks⟩ := ih
    exact ⟨events, tracks_tokenize htracks hfile (hreach.uri_of_get? hfile) tokens⟩

end Reachable

/-! ## Names of indexed files -/

/-- All symbols belong to files with names in `A`. -/
structure IndexedUnder (A : Uri → Prop) (w : Workspace) : Prop where
  consistent : w.repository.Consistent
  uri : ∀ s ∈ w.repository.toList, A s.uri

/-- Symbols belong to files for which a text was synchronised. -/
lemma kept_indexedUnder (language : Language) (A : Uri → Prop) :
    Kept language A (IndexedUnder A) where
  synchronize {w uri} text version huri h := by
    obtain ⟨hconsistent, hsymbols⟩ :
        (w.synchronize language uri text version).1.repository.Consistent ∧
          (w.synchronize language uri text version).1.repository.toList =
            SymbolList.syncFile language w.repository.toList (uri, text) :=
      toList_synchronize h.consistent uri text version
    refine ⟨hconsistent, fun s hs => ?_⟩
    rw [hsymbols] at hs
    rcases SymbolList.mem_syncFile hs with hold | hnew
    · exact h.uri s hold
    · rw [Language.uri_of_mem_symbolsOf hnew]
      exact huri
  markOpen uri h := ⟨h.consistent, h.uri⟩
  markClosed uri h := ⟨h.consistent, h.uri⟩
  forget uri h := ⟨h.consistent, h.uri⟩
  drop {w} uri h := by
    refine ⟨h.consistent.deleteFile uri, fun s hs => h.uri s ?_⟩
    have hsymbols : ((w.forget uri).dropSymbols uri).repository.toList =
        SymbolList.deleteFile w.repository.toList uri := h.consistent.toList_deleteFile uri
    rw [hsymbols] at hs
    exact (List.mem_filter.1 hs).1
  reset folders _ := ⟨Repository.consistent_empty, nofun⟩
  redirect folders h := ⟨h.consistent, h.uri⟩
  complete p options _ _ h := ⟨h.consistent, h.uri⟩

/-- A file with symbols has a name of the kind. -/
lemma IndexedUnder.of_symbolsIn_ne_nil {A : Uri → Prop} {w : Workspace} (h : w.IndexedUnder A)
    {uri : Uri} (hsymbols : w.repository.symbolsIn uri ≠ []) : A uri := by
  obtain ⟨s, hs⟩ := List.exists_mem_of_ne_nil _ hsymbols
  rw [h.consistent.symbolsIn_eq] at hs
  obtain ⟨hmem, huri⟩ := List.mem_filter.1 hs
  rw [← of_decide_eq_true huri]
  exact h.uri s hmem

end Workspace

end CodeIndex
