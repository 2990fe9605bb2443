import Mathlib.Data.Set.Card
import CodeIndex.Proofs.Settings.NormalForm
import CodeIndex.Proofs.Workspace.Closing

set_option relaxedAutoImplicit false
set_option autoImplicit false

/-!
# Retaining some files

Before files are indexed again, those that are neither to be kept nor open are dropped. The files in
question are the ones that have a state or a symbol, and either can be without the other: a closed
file has symbols only, and a file whose symbols were taken over by another has a state only. The
files are looked at in no particular order, each of them is dropped on its own, and its open mark is
asked for only when its turn comes. This file shows that exactly the right files go, that nothing
else changes, and that the number reported is the number of files that went.

## Main definitions

* `Workspace.Known` — a file has a state or a symbol.
* `Workspace.retainStep` — look at one file, and drop it if it is to go.
* `Workspace.Retained` — what a retention leaves, and how many files it drops.

## Main results

* `Workspace.foldl_retainStep` — looking at the files one after the other drops those that were to
  go from the start.
* `Workspace.retained_retain` — a retention drops exactly the right files, whatever the order in
  which it comes upon them.
-/

namespace CodeIndex

namespace Workspace

variable {w : Workspace} {keep dropped : List Uri} {uri : Uri}

/-- A file has a state or a symbol. -/
def Known (w : Workspace) (uri : Uri) : Prop :=
  w.files.get? uri ≠ none ∨ w.repository.symbolsIn uri ≠ []

/-- Look at a file: unless it is to be kept or is open by now, drop it and count it. -/
def retainStep (keep : List Uri) (state : Workspace × Nat) (uri : Uri) : Workspace × Nat :=
  if keep.contains uri || state.1.files.isOpen uri then state
  else ((state.1.forget uri).dropSymbols uri, state.2 + 1)

/-- Of the files that are neither to be kept nor open nothing is left, and everything of the others
stays. -/
structure Retained (keep : List Uri) (before : Workspace) (after : Workspace × Nat) : Prop where
  gone : ∀ uri ∉ keep, before.files.isOpen uri = false →
    after.1.files.get? uri = none ∧ after.1.repository.symbolsIn uri = []
  spared : ∀ uri, uri ∈ keep ∨ before.files.isOpen uri = true →
    after.1.files.get? uri = before.files.get? uri ∧
      after.1.repository.symbolsIn uri = before.repository.symbolsIn uri
  /-- A file that goes had no open mark, so that every mark stays as it was. -/
  marks : ∀ uri, after.1.files.isOpen uri = before.files.isOpen uri
  /-- The symbols of the files that stay keep their order among all symbols. -/
  order : after.1.repository.toList =
    before.repository.toList.filter fun s => keep.contains s.uri || before.files.isOpen s.uri
  /-- Folders are not concerned. -/
  folders : after.1.folders = before.folders
  /-- The number reported is that of the files that something was known of and that went. -/
  count : (after.2 : ℕ∞) =
    {uri | before.Known uri ∧ uri ∉ keep ∧ before.files.isOpen uri = false}.encard

/-! ## Dropping several files -/

lemma folders_dropAll (w : Workspace) (uris : List Uri) : (w.dropAll uris).folders = w.folders := by
  induction uris generalizing w with
  | nil => rfl
  | cons uri uris ih => exact ih _

/-- The repository keeps the symbols of the other files, in order. -/
lemma toList_dropAll (h : w.repository.Consistent) (uris : List Uri) :
    (w.dropAll uris).repository.Consistent ∧
      (w.dropAll uris).repository.toList =
        w.repository.toList.filter fun s => !uris.contains s.uri := by
  induction uris generalizing w with
  | nil => exact ⟨h, by simp [dropAll]⟩
  | cons uri uris ih =>
    have hdrop : ((w.forget uri).dropSymbols uri).repository.toList =
        SymbolList.deleteFile w.repository.toList uri := h.toList_deleteFile uri
    obtain ⟨hc, hl⟩ := ih (w := (w.forget uri).dropSymbols uri) (h.deleteFile uri)
    refine ⟨hc, hl.trans ?_⟩
    rw [hdrop, SymbolList.deleteFile, List.filter_filter]
    refine List.filter_congr fun s _ => ?_
    rw [List.contains_cons, Bool.not_or, Bool.and_comm]
    rfl

/-- The symbols of a file go if the file is dropped, and stay otherwise. -/
lemma symbolsIn_dropAll (h : w.repository.Consistent) (uris : List Uri) (v : Uri) :
    (w.dropAll uris).repository.symbolsIn v =
      if v ∈ uris then [] else w.repository.symbolsIn v := by
  obtain ⟨hc, hl⟩ := toList_dropAll h uris
  rw [hc.symbolsIn_eq, h.symbolsIn_eq, hl, List.filter_filter]
  split
  · next hv =>
    refine List.filter_eq_nil_iff.2 fun s _ hs => ?_
    simp only [Bool.and_eq_true, decide_eq_true_eq, Bool.not_eq_true', List.contains_eq_mem,
      decide_eq_false_iff_not] at hs
    exact hs.2 (hs.1 ▸ hv)
  · next hv =>
    refine List.filter_congr fun s _ => ?_
    by_cases hs : s.uri = v
    · simp [hs, hv]
    · simp [hs]

/-- The files that a repository lists, or that are tracked, are those that something is known of. -/
lemma mem_knownFiles_iff (h : w.repository.Consistent) : uri ∈ w.knownFiles ↔ w.Known uri := by
  have htracked : uri ∈ w.files.uris ↔ w.files.get? uri ≠ none := by
    rw [mem_uris_iff, Option.isSome_iff_ne_none]
  have hlisted : uri ∈ w.repository.files ↔ w.repository.symbolsIn uri ≠ [] := by
    rw [h.mem_files_iff, SymbolList.files, List.mem_dedup, List.mem_map, h.symbolsIn_eq, Ne,
      List.filter_eq_nil_iff]
    simp
  rw [knownFiles, List.mem_eraseDups, List.mem_append, htracked, hlisted, Known, or_comm]

/-- Dropping the known files that are neither to be kept nor open is what a retention is meant to
do. -/
lemma retained_dropAll (h : w.repository.Consistent) (hnodup : dropped.Nodup)
    (hdropped : ∀ uri, uri ∈ dropped ↔
      w.Known uri ∧ uri ∉ keep ∧ w.files.isOpen uri = false) :
    Retained keep w (w.dropAll dropped, dropped.length) where
  gone := by
    intro uri hkeep hclosed
    rw [get?_dropAll, symbolsIn_dropAll h]
    split
    · exact ⟨rfl, rfl⟩
    · next hnot =>
      -- a file that need not be dropped is one that nothing is known of
      have hunknown : ¬ w.Known uri := fun hknown =>
        hnot ((hdropped uri).2 ⟨hknown, hkeep, hclosed⟩)
      simpa only [Known, not_or, not_not] using hunknown
  spared := by
    intro uri hspared
    have hnot : uri ∉ dropped := by
      rw [hdropped]
      rintro ⟨-, hkeep, hclosed⟩
      rcases hspared with hmem | hopen
      · exact hkeep hmem
      · simp [hopen] at hclosed
    rw [get?_dropAll, symbolsIn_dropAll h, if_neg hnot, if_neg hnot]
    exact ⟨rfl, rfl⟩
  marks := by
    intro uri
    rw [isOpen_dropAll]
    cases hopen : w.files.isOpen uri with
    | false => rfl
    | true =>
      have hnot : uri ∉ dropped := by
        rw [hdropped, hopen]
        simp
      rw [decide_eq_true hnot, Bool.and_true]
  order := by
    rw [(toList_dropAll h dropped).2]
    refine List.filter_congr fun s hs => ?_
    have hknown : w.Known s.uri := by
      refine Or.inr (List.ne_nil_of_mem (a := s) ?_)
      rw [h.symbolsIn_eq]
      exact SymbolList.mem_symbolsIn.2 ⟨hs, rfl⟩
    rw [Bool.eq_iff_iff]
    simp [hdropped, hknown, or_iff_not_imp_left]
  folders := folders_dropAll w dropped
  count := by
    have hset : {uri | w.Known uri ∧ uri ∉ keep ∧ w.files.isOpen uri = false} =
        (dropped.toFinset : Set Uri) := by
      ext uri
      simp [hdropped]
    rw [hset, Set.encard_coe_eq_coe_finsetCard, List.toFinset_card_of_nodup hnodup]

/-! ## Looking at the files one after the other -/

/-- Whether a file is to go does not depend on the files that went before it. -/
lemma foldl_retainStep (keep : List Uri) {order : List Uri} (hnodup : order.Nodup) (w : Workspace)
    (n : Nat) :
    order.foldl (retainStep keep) (w, n) =
      (w.dropAll (order.filter fun uri => !keep.contains uri && !w.files.isOpen uri),
        n + (order.filter fun uri => !keep.contains uri && !w.files.isOpen uri).length) := by
  induction order generalizing w n with
  | nil => rfl
  | cons uri order ih =>
    obtain ⟨huri, hrest⟩ := List.nodup_cons.1 hnodup
    rw [List.foldl_cons, retainStep, List.filter_cons]
    by_cases hspared : (keep.contains uri || w.files.isOpen uri) = true
    · have hstays : (!keep.contains uri && !w.files.isOpen uri) = false := by
        rw [← Bool.not_or, hspared]
        rfl
      rw [if_pos hspared, ih hrest, hstays]
      rfl
    · have hgoes : (!keep.contains uri && !w.files.isOpen uri) = true := by
        rw [← Bool.not_or, Bool.eq_false_iff.2 hspared]
        rfl
      have hmarks : (order.filter fun v => !keep.contains v &&
          !((w.forget uri).dropSymbols uri).files.isOpen v) =
          order.filter fun v => !keep.contains v && !w.files.isOpen v := by
        refine List.filter_congr fun v hv => ?_
        have hne : v ≠ uri := fun heq => huri (heq ▸ hv)
        rw [isOpen_drop, decide_eq_true hne, Bool.and_true]
      rw [if_neg hspared, ih hrest, hmarks, hgoes, if_pos rfl, List.length_cons]
      dsimp only [dropAll]
      rw [List.foldl_cons, Nat.add_right_comm, Nat.add_assoc]

/-- **A retention drops exactly the right files.** In every workspace whose repository is in step,
as it is in every workspace that can be reached, whatever scheme the identifiers follow, nothing is
left of the files that are neither to be kept nor open. All other files keep their state, their open
mark and their symbols, in order, and the number reported is the number of the files that something
was known of and that went. The same comes of looking at the known files one after the other, in
whatever order: no file that goes decides on another. -/
theorem retained_retain (h : w.repository.Consistent) (keep : List Uri) :
    Retained keep w (w.retain keep) ∧
      ∀ order : List Uri, order.Nodup → (∀ uri, uri ∈ order ↔ w.Known uri) →
        Retained keep w (order.foldl (retainStep keep) (w, 0)) := by
  have hloop : ∀ order : List Uri, order.Nodup → (∀ uri, uri ∈ order ↔ w.Known uri) →
      Retained keep w (order.foldl (retainStep keep) (w, 0)) := by
    intro order hnodup hknown
    rw [foldl_retainStep keep hnodup, Nat.zero_add]
    refine retained_dropAll h (hnodup.filter _) fun uri => ?_
    rw [List.mem_filter, hknown]
    simp
  refine ⟨?_, hloop⟩
  -- a retention goes through the known files as they are listed
  have hlisted : w.knownFiles.Nodup := nodup_eraseDups _
  have hretain : w.retain keep = w.knownFiles.foldl (retainStep keep) (w, 0) := by
    rw [foldl_retainStep keep hlisted, Nat.zero_add]
    rfl
  rw [hretain]
  exact hloop _ hlisted fun uri => mem_knownFiles_iff h

/-- A language in which all symbols have the same identifier, so that every file takes the symbols
of the others away. -/
def oneNameLanguage : Language := { twinLanguage with ids := fun _ _ _ => "X" }

/-- A file whose symbols were taken over by another, which was closed since, a file that is open,
and one that has no tree. -/
def leftovers : Workspace :=
  run oneNameLanguage .empty
    [(.empty, .indexFile ⟨"file:///a"⟩ "x"), (.empty, .indexFile ⟨"file:///b"⟩ "x"),
      (twoFileDisk, .close ⟨"file:///b"⟩), (.empty, .openFile ⟨"file:///c"⟩ "" 1),
      (.empty, .indexFile ⟨"file:///d"⟩ "")]

/-- The file without symbols and the one without a state go, and they are two. -/
theorem retained_retain_leftovers :
    (leftovers.files.get? ⟨"file:///a"⟩).isSome = true ∧
      leftovers.repository.symbolsIn ⟨"file:///a"⟩ = [] ∧
      leftovers.files.get? ⟨"file:///b"⟩ = none ∧
      leftovers.repository.symbolsIn ⟨"file:///b"⟩ ≠ [] ∧
      Retained [⟨"file:///d"⟩] leftovers (leftovers.retain [⟨"file:///d"⟩]) ∧
      (leftovers.retain [⟨"file:///d"⟩]).2 = 2 := by
  have hreach : Reachable oneNameLanguage leftovers := Reachable.empty.run _
  exact ⟨by decide, by decide, by decide, by decide,
    (retained_retain hreach.consistent [⟨"file:///d"⟩]).1, by decide⟩

end Workspace

end CodeIndex
