import CodeIndex.Proofs.Repository.Refinement

set_option relaxedAutoImplicit false
set_option autoImplicit false

/-!
# What a batch does

A batch collects symbols for one file, apart from the repository, and puts them in the place of the
old symbols of the file when it is committed. The queued symbols may repeat identifiers, and they
may take identifiers away from other files. This file says what is left in every case, and that the
repository is none the wiser until the commit, whatever else happens to it meanwhile.

## Main definitions

* `SymbolList.latest` — the last symbol of each identifier.
* `Batch.Step` — what happens between the start of a batch and its end.
* `Repository.Swapped` — the old symbols of a file have made room for queued ones, and nothing else
  has happened.

## Main results

* `SymbolList.storeAll_nil` — of several symbols with one identifier, the last one stays.
* `SymbolList.replaceFile_eq`, `SymbolList.replaceFile_replaceFile` — what is left when the symbols
  of a file are replaced, and that doing it again changes nothing.
* `Batch.pending_eq` — offering symbols does not change the repository, and changes of the
  repository do not change the queue.
* `Repository.commit_effect` — what a commit leaves, in every state of the repository.
-/

namespace CodeIndex

/-! ## Identifiers that repeat -/

namespace SymbolList

/-- The last symbol of each identifier, in the order of these last occurrences. -/
def latest : List Symbol → List Symbol
  | [] => []
  | s :: ss => if ss.any fun t => decide (s.id = t.id) then latest ss else s :: latest ss

/-- Of several symbols with one identifier, the last one stays, and it stays in its own place. -/
lemma storeAll_nil (ss : List Symbol) : storeAll [] ss = latest ss := by
  induction ss with
  | nil => rfl
  | cons s ss ih =>
    have hsplit : storeAll [] (s :: ss) =
        ([s].filter fun t => ss.all fun u => !decide (t.id = u.id)) ++ storeAll [] ss :=
      storeAll_append_filter [s] [] ss
    rw [hsplit, ih, latest]
    cases hlater : ss.any fun t => decide (s.id = t.id) with
    | true => simp [List.all_eq_not_any_not, hlater]
    | false => simp [List.all_eq_not_any_not, hlater]

lemma latest_sublist (ss : List Symbol) : (latest ss).Sublist ss := by
  induction ss with
  | nil => exact .slnil
  | cons s ss ih =>
    rw [latest]
    split
    · exact ih.cons s
    · exact ih.cons_cons s

lemma nodup_latest (ss : List Symbol) : ((latest ss).map Symbol.id).Nodup := by
  induction ss with
  | nil => exact List.nodup_nil
  | cons s ss ih =>
    rw [latest]
    split
    · exact ih
    · next hlater =>
      refine List.nodup_cons.2 ⟨fun hmem => hlater ?_, ih⟩
      obtain ⟨t, ht, hid⟩ := List.mem_map.1 hmem
      exact List.any_eq_true.2 ⟨t, (latest_sublist ss).subset ht, decide_eq_true hid.symm⟩

/-- Nothing is displaced exactly if no identifier repeats. -/
lemma latest_eq_self_iff {ss : List Symbol} : latest ss = ss ↔ (ss.map Symbol.id).Nodup := by
  constructor
  · intro h
    have hnodup := nodup_latest ss
    rwa [h] at hnodup
  · intro h
    rw [← storeAll_nil, storeAll_of_nodup h]

/-- None is lost exactly if no identifier repeats. -/
lemma length_latest_eq_iff {ss : List Symbol} :
    (latest ss).length = ss.length ↔ (ss.map Symbol.id).Nodup := by
  rw [← latest_eq_self_iff]
  exact ⟨(latest_sublist ss).eq_of_length, congrArg List.length⟩

/-- What is left of the new symbols of a file belongs to the file. -/
lemma uri_of_mem_latest {uri : Uri} {offered : List Symbol} {s : Symbol}
    (h : s ∈ latest (symbolsIn offered uri)) : s.uri = uri :=
  (mem_symbolsIn.1 ((latest_sublist _).subset h)).2

/-- The symbols of the other files stay in front, less those whose identifiers are taken; behind
them come the new ones. -/
lemma replaceFile_eq (l : List Symbol) (uri : Uri) (ss : List Symbol) :
    replaceFile l uri ss =
      (l.filter fun s => !decide (s.uri = uri) &&
        (symbolsIn ss uri).all fun t => !decide (s.id = t.id)) ++ latest (symbolsIn ss uri) := by
  have hsplit := storeAll_append_filter (deleteFile l uri) [] (symbolsIn ss uri)
  rw [List.append_nil, storeAll_nil, deleteFile, List.filter_filter] at hsplit
  rw [replaceFile, deleteFile, hsplit]
  simp only [Bool.and_comm]

/-- The same symbols take each other's places. -/
lemma replaceFile_replaceFile (l : List Symbol) (uri : Uri) (ss : List Symbol) :
    replaceFile (replaceFile l uri ss) uri ss = replaceFile l uri ss := by
  -- the symbols of the first time are of the file, so all of them go
  have hnew : (latest (symbolsIn ss uri)).filter (fun s => !decide (s.uri = uri) &&
      (symbolsIn ss uri).all fun t => !decide (s.id = t.id)) = [] :=
    List.filter_eq_nil_iff.2 fun s hs => by simp [uri_of_mem_latest hs]
  rw [replaceFile_eq (replaceFile l uri ss), replaceFile_eq l, List.filter_append, hnew,
    List.append_nil, List.filter_filter]
  simp only [Bool.and_self]

end SymbolList

/-! ## Before the commit -/

namespace Batch

open Repository (Change)

/-- What happens between the start of a batch and its end: the repository changes, or a symbol is
offered to the batch. -/
inductive Step where
  | change (c : Change)
  | offer (s : Symbol)

namespace Step

/-- The repository and the pending batch after a step. -/
def apply : Repository × Batch → Step → Repository × Batch
  | (r, b), .change c => (c.apply r, b)
  | (r, b), .offer s => (r, (b.add s).1)

/-- The change that a step makes to the repository. -/
def change? : Step → Option Change
  | .change c => some c
  | .offer _ => none

/-- The symbol that a step offers to the batch. -/
def offered? : Step → Option Symbol
  | .change _ => none
  | .offer s => some s

end Step

/-- The repository goes its way as if nothing was offered, and the queue as if nothing else
happened. -/
lemma pending_eq (r : Repository) (b : Batch) (steps : List Step) :
    steps.foldl Step.apply (r, b) =
      ((steps.filterMap Step.change?).foldl Change.apply r,
        b.addAll (steps.filterMap Step.offered?)) := by
  induction steps generalizing r b with
  | nil => rfl
  | cons step steps ih =>
    rw [List.foldl_cons]
    cases step with
    | change c => exact ih (c.apply r) b
    | offer s => exact ih r (b.add s).1

/-- A symbol is taken exactly if it belongs to the file of the batch. -/
lemma add_snd (b : Batch) (s : Symbol) : (b.add s).2 = true ↔ s.uri = b.uri := by
  unfold add
  split <;> simp_all

end Batch

/-! ## The commit -/

namespace Repository

/-- The old symbols of a file have made room for queued ones, and nothing else has happened. -/
structure Swapped (uri : Uri) (queued : List Symbol) (before after : Repository) : Prop where
  /-- The file has the queued symbols, the last one of each identifier. -/
  own : after.symbolsIn uri = SymbolList.latest queued
  /-- The symbols of other files stay as they are and in order, but for those whose identifiers
  are queued. -/
  others : (after.loadAll fun s => !decide (s.uri = uri)) =
    (before.loadAll fun s => !decide (s.uri = uri)).filter fun s =>
      queued.all fun t => !decide (s.id = t.id)
  /-- So it is in each file. -/
  symbolsIn : ∀ v, v ≠ uri → after.symbolsIn v =
    (before.symbolsIn v).filter fun s => queued.all fun t => !decide (s.id = t.id)
  /-- A symbol of another file is gone if its identifier is queued. -/
  displaced : ∀ s t, s.uri ≠ uri → t ∈ queued → s.id = t.id → s ∉ after.toList
  /-- Nothing is stored that was neither there nor queued. -/
  origin : ∀ s ∈ after.toList, s ∈ before.toList ∨ s ∈ queued

/-- A commit puts the queued symbols behind those of the other files. -/
lemma Consistent.toList_commit {r : Repository} (h : r.Consistent) (uri : Uri)
    (offered : List Symbol) :
    (((Batch.start uri).addAll offered).commit r).1.toList =
      (r.toList.filter fun s => !decide (s.uri = uri) &&
        (SymbolList.symbolsIn offered uri).all fun t => !decide (s.id = t.id)) ++
          SymbolList.latest (SymbolList.symbolsIn offered uri) :=
  (h.commit uri offered).2.trans (SymbolList.replaceFile_eq r.toList uri offered)

/-- Of symbols that are not of the file, a commit takes away those whose identifiers are queued. -/
lemma Consistent.filter_commit {r : Repository} (h : r.Consistent) {uri : Uri}
    (offered : List Symbol) {p : Symbol → Bool} (hp : ∀ s, s.uri = uri → p s = false) :
    (((Batch.start uri).addAll offered).commit r).1.toList.filter p =
      (r.toList.filter p).filter fun s =>
        (SymbolList.symbolsIn offered uri).all fun t => !decide (s.id = t.id) := by
  have hnew : (SymbolList.latest (SymbolList.symbolsIn offered uri)).filter p = [] :=
    List.filter_eq_nil_iff.2 fun s hs => by simp [hp s (SymbolList.uri_of_mem_latest hs)]
  rw [h.toList_commit, List.filter_append, hnew, List.append_nil, List.filter_filter,
    List.filter_filter]
  refine List.filter_congr fun s _ => ?_
  by_cases hs : s.uri = uri
  · simp [hp s hs]
  · simp [hs, Bool.and_comm]

/-- The file has the queued symbols, the last one of each identifier. -/
lemma Consistent.symbolsIn_commit {r : Repository} (h : r.Consistent) (uri : Uri)
    (offered : List Symbol) :
    (((Batch.start uri).addAll offered).commit r).1.symbolsIn uri =
      SymbolList.latest (SymbolList.symbolsIn offered uri) := by
  have hold : (r.toList.filter fun s => !decide (s.uri = uri) &&
      (SymbolList.symbolsIn offered uri).all fun t => !decide (s.id = t.id)).filter
        (fun s => decide (s.uri = uri)) = [] :=
    List.filter_eq_nil_iff.2 fun s hs => by
      simpa using (Bool.and_eq_true_iff.1 (List.mem_filter.1 hs).2).1
  have hnew : (SymbolList.latest (SymbolList.symbolsIn offered uri)).filter
      (fun s => decide (s.uri = uri)) = SymbolList.latest (SymbolList.symbolsIn offered uri) :=
    List.filter_eq_self.2 fun s hs => decide_eq_true (SymbolList.uri_of_mem_latest hs)
  rw [(h.commit uri offered).1.symbolsIn_eq, h.toList_commit, List.filter_append, hold, hnew,
    List.nil_append]

/-- A committed batch swaps the symbols of its file. -/
lemma Consistent.swapped {r : Repository} (h : r.Consistent) (uri : Uri) (offered : List Symbol) :
    Swapped uri (SymbolList.symbolsIn offered uri) r
      (((Batch.start uri).addAll offered).commit r).1 where
  own := h.symbolsIn_commit uri offered
  others := h.filter_commit offered fun s hs => by simp [hs]
  symbolsIn v hv := by
    rw [(h.commit uri offered).1.symbolsIn_eq, h.symbolsIn_eq]
    exact h.filter_commit offered fun s hs => by simp [hs, Ne.symm hv]
  displaced s t hs ht hid hmem := by
    rw [h.toList_commit] at hmem
    rcases List.mem_append.1 hmem with hold | hnew
    · have hfree := (Bool.and_eq_true_iff.1 (List.mem_filter.1 hold).2).2
      simpa [hid] using List.all_eq_true.1 hfree t ht
    · exact hs (SymbolList.uri_of_mem_latest hnew)
  origin s hs := by
    rw [h.toList_commit] at hs
    rcases List.mem_append.1 hs with hold | hnew
    · exact Or.inl (List.mem_filter.1 hold).1
    · exact Or.inr ((SymbolList.latest_sublist _).subset hnew)

/-- **What a batch does.** In any state of the repository a batch for a file is started; then
symbols are offered to it while the repository changes in whatever way. Until the commit the
repository is what the changes alone make of it, and the queue holds the offered symbols that belong
to the file, in order; all others are refused. The commit swaps the symbols of the file for the
queued ones, and reports how many symbols the file had and how many were queued. -/
theorem commit_effect (changes : List Change) (uri : Uri) (steps : List Batch.Step) :
    ∃ r b, steps.foldl Batch.Step.apply (run changes, .start uri) = (r, b) ∧
      r = run (changes ++ steps.filterMap Batch.Step.change?) ∧
      b.symbols = (steps.filterMap Batch.Step.offered?).filter (fun s => decide (s.uri = uri)) ∧
      (∀ s, (b.add s).2 = true ↔ s.uri = uri) ∧
      Swapped uri b.symbols r (b.commit r).1 ∧
      (b.commit r).2 = ⟨(r.symbolsIn uri).length, b.symbols.length⟩ := by
  set offered := steps.filterMap Batch.Step.offered?
  set r := run (changes ++ steps.filterMap Batch.Step.change?)
  have hb : (Batch.start uri).addAll offered = ⟨uri, SymbolList.symbolsIn offered uri⟩ :=
    addAll_eq (Batch.start uri) offered
  have hrun : (steps.filterMap Batch.Step.change?).foldl Change.apply (run changes) = r :=
    (List.foldl_append ..).symm
  have hconsistent : r.Consistent := consistent_run _
  have hswapped := hconsistent.swapped uri offered
  have hreport := hconsistent.answers.committed uri offered
  have hremoved : SymbolList.symbolsIn r.toList uri = r.symbolsIn uri :=
    (hconsistent.symbolsIn_eq uri).symm
  rw [hremoved] at hreport
  rw [hb] at hswapped hreport
  refine ⟨r, ⟨uri, SymbolList.symbolsIn offered uri⟩, ?_, rfl, rfl, fun s => Batch.add_snd _ s,
    hswapped, hreport⟩
  rw [Batch.pending_eq, hrun, hb]

/-- A queue that repeats an identifier and takes one from another file. -/
example :
    ((run [.store (.create "x" ⟨"file:///a"⟩ none), .store (.create "y" ⟨"file:///b"⟩ none),
        .store (.create "z" ⟨"file:///b"⟩ none),
        .commit ⟨"file:///a"⟩ [.create "y" ⟨"file:///a"⟩ none, .create "x" ⟨"file:///a"⟩ none,
          .create "y" ⟨"file:///a"⟩ none]]).toList.map fun s => (s.id, s.uri.text)) =
      [("z", "file:///b"), ("x", "file:///a"), ("y", "file:///a")] := by decide

end Repository

end CodeIndex
