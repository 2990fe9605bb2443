import Mathlib.Data.List.Dedup
import CodeIndex.Proofs.Repository.Ranking

set_option relaxedAutoImplicit false
set_option autoImplicit false

/-!
# The repository as a plain list

The repository stands for a list of symbols in the order in which they were stored, with pairwise
distinct identifiers. Storing a symbol erases the one with its identifier and appends it; removing
a file erases all symbols of the file. This file gives that list its own operations and queries,
and shows that the repository follows them through every sequence of changes.

## Main definitions

* `SymbolList.store`, `SymbolList.delete`, `SymbolList.deleteFile`, `SymbolList.replaceFile` — the
  changes of the plain list.
* `SymbolList.search`, `SymbolList.files` — the queries that are not mere filters.
* `Repository.Change` — a change, applied to a repository and to a plain list.
* `Repository.Answers` — every query to the repository is answered as by the plain list.

## Main results

* `Repository.run_refines` — after any changes, the repository is consistent and answers every
  query as the plain list does.
-/

namespace CodeIndex

/-! ## The plain list -/

namespace SymbolList

/-- Erase the symbol with the identifier of a new one, and append the new one. -/
def store (l : List Symbol) (s : Symbol) : List Symbol :=
  (l.filter fun t => !decide (t.id = s.id)) ++ [s]

/-- Erase the symbol with an identifier. -/
def delete (l : List Symbol) (id : String) : List Symbol :=
  l.filter fun s => !decide (s.id = id)

/-- Erase the symbols of a file. -/
def deleteFile (l : List Symbol) (uri : Uri) : List Symbol :=
  l.filter fun s => !decide (s.uri = uri)

/-- The symbols of a file. -/
def symbolsIn (l : List Symbol) (uri : Uri) : List Symbol :=
  l.filter fun s => decide (s.uri = uri)

/-- Store several symbols in order. -/
def storeAll (l : List Symbol) (ss : List Symbol) : List Symbol := ss.foldl store l

/-- Put symbols in the place of those of a file. Symbols of other files are not taken. -/
def replaceFile (l : List Symbol) (uri : Uri) (ss : List Symbol) : List Symbol :=
  storeAll (deleteFile l uri) (symbolsIn ss uri)

/-- The symbols of a file around a point: narrowest first, and newest first among equally wide
ones. -/
def search (l : List Symbol) (uri : Uri) (p : Point) : List Symbol :=
  (l.filter fun s => decide (s.uri = uri) && s.containsPoint p).reverse.mergeSort
    fun s t => decide (s.width ≤ t.width)

/-- The files of the symbols, each once. -/
def files (l : List Symbol) : List Uri := (l.map Symbol.uri).dedup

lemma mem_symbolsIn {l : List Symbol} {uri : Uri} {s : Symbol} :
    s ∈ symbolsIn l uri ↔ s ∈ l ∧ s.uri = uri := by
  rw [symbolsIn, List.mem_filter, decide_eq_true_eq]

lemma mem_storeAll {l ss : List Symbol} {s : Symbol} (h : s ∈ storeAll l ss) : s ∈ l ∨ s ∈ ss := by
  induction ss generalizing l with
  | nil => exact Or.inl h
  | cons t ss ih =>
    rcases ih h with hl | hss
    · rcases List.mem_append.1 hl with hold | hnew
      · exact Or.inl (List.mem_filter.1 hold).1
      · exact Or.inr (by simp [List.mem_singleton.1 hnew])
    · exact Or.inr (List.mem_cons_of_mem _ hss)

/-- Storing symbols takes those with the same identifiers out of a list, wherever they are. -/
lemma storeAll_append_filter (l m ss : List Symbol) :
    storeAll (l ++ m) ss =
      (l.filter fun t => ss.all fun s => !decide (t.id = s.id)) ++ storeAll m ss := by
  induction ss generalizing l m with
  | nil => simp [storeAll]
  | cons s ss ih =>
    have hstore : store (l ++ m) s = l.filter (fun t => !decide (t.id = s.id)) ++ store m s := by
      rw [store, store, List.filter_append, List.append_assoc]
    show storeAll (store (l ++ m) s) ss = _
    rw [hstore, ih, List.filter_filter]
    refine congrArg (· ++ _) (List.filter_congr fun t _ => ?_)
    rw [List.all_cons, Bool.and_comm]

/-- Symbols with other identifiers stay in front. -/
lemma storeAll_append {l ss : List Symbol} (h : ∀ t ∈ l, ∀ s ∈ ss, t.id ≠ s.id)
    (m : List Symbol) : storeAll (l ++ m) ss = l ++ storeAll m ss := by
  rw [storeAll_append_filter, List.filter_eq_self.2 fun t ht => ?_]
  rw [List.all_eq_true]
  intro s hs
  simp [h t ht s hs]

/-- Symbols with distinct identifiers are stored as they come. -/
lemma storeAll_of_nodup {ss : List Symbol} (h : (ss.map Symbol.id).Nodup) : storeAll [] ss = ss := by
  induction ss with
  | nil => rfl
  | cons s ss ih =>
    rw [List.map_cons, List.nodup_cons] at h
    have hne : ∀ t ∈ [s], ∀ u ∈ ss, t.id ≠ u.id := by
      intro t ht u hu heq
      rw [List.mem_singleton.1 ht] at heq
      exact h.1 (heq ▸ List.mem_map_of_mem hu)
    calc storeAll [] (s :: ss) = storeAll ([s] ++ []) ss := rfl
      _ = [s] ++ storeAll [] ss := storeAll_append hne []
      _ = s :: ss := by rw [ih h.2]; rfl

end SymbolList

namespace Repository

/-! ## Changes -/

/-- A change of the repository. -/
inductive Change where
  | store (s : Symbol)
  | delete (id : String)
  | deleteFile (uri : Uri)
  | clear
  /-- Symbols are offered to a batch for a file, and the batch is committed. -/
  | commit (uri : Uri) (offered : List Symbol)

/-- The repository after a change. -/
def Change.apply (r : Repository) : Change → Repository
  | .store s => r.store s
  | .delete id => r.delete id
  | .deleteFile uri => (r.deleteFile uri).1
  | .clear => empty
  | .commit uri offered => (((Batch.start uri).addAll offered).commit r).1

/-- The plain list after a change. -/
def Change.applyList (l : List Symbol) : Change → List Symbol
  | .store s => SymbolList.store l s
  | .delete id => SymbolList.delete l id
  | .deleteFile uri => SymbolList.deleteFile l uri
  | .clear => []
  | .commit uri offered => SymbolList.replaceFile l uri offered

/-- The repository after some changes, from the empty one on. -/
def run (changes : List Change) : Repository := changes.foldl Change.apply empty

/-- The plain list after some changes, from the empty one on. -/
def runList (changes : List Change) : List Symbol := changes.foldl Change.applyList []

lemma addAll_eq (b : Batch) (ss : List Symbol) :
    b.addAll ss = { b with symbols := b.symbols ++ SymbolList.symbolsIn ss b.uri } := by
  induction ss generalizing b with
  | nil => simp [Batch.addAll, SymbolList.symbolsIn]
  | cons s ss ih =>
    rw [Batch.addAll, List.foldl_cons, ← Batch.addAll, ih]
    by_cases h : s.uri = b.uri
    · simp [Batch.add, SymbolList.symbolsIn, h]
    · simp [Batch.add, SymbolList.symbolsIn, h]

/-- Storing several symbols keeps the repository consistent and follows the plain list. -/
lemma Consistent.storeAll {r : Repository} (h : r.Consistent) (ss : List Symbol) :
    (ss.foldl Repository.store r).Consistent ∧
      (ss.foldl Repository.store r).toList = SymbolList.storeAll r.toList ss := by
  induction ss generalizing r with
  | nil => exact ⟨h, rfl⟩
  | cons s ss ih =>
    obtain ⟨hc, hl⟩ := ih (h.store s)
    rw [h.toList_store] at hl
    exact ⟨hc, hl⟩

/-- A committed batch puts the symbols of its file that were offered in the place of the old
ones. -/
lemma Consistent.commit {r : Repository} (h : r.Consistent) (uri : Uri) (offered : List Symbol) :
    (((Batch.start uri).addAll offered).commit r).1.Consistent ∧
      (((Batch.start uri).addAll offered).commit r).1.toList =
        SymbolList.replaceFile r.toList uri offered := by
  obtain ⟨hc, hl⟩ := (h.deleteFile uri).storeAll (SymbolList.symbolsIn offered uri)
  rw [h.toList_deleteFile] at hl
  rw [addAll_eq]
  exact ⟨hc, hl⟩

/-- One change keeps the repository consistent and follows the plain list. -/
lemma Consistent.apply {r : Repository} (h : r.Consistent) (c : Change) :
    (c.apply r).Consistent ∧ (c.apply r).toList = c.applyList r.toList := by
  cases c with
  | store s => exact ⟨h.store s, h.toList_store s⟩
  | delete id => exact ⟨h.delete id, h.toList_delete id⟩
  | deleteFile uri => exact ⟨h.deleteFile uri, h.toList_deleteFile uri⟩
  | clear => exact ⟨consistent_empty, rfl⟩
  | commit uri offered => exact h.commit uri offered

/-- Any sequence of changes does. -/
lemma Consistent.applyAll {r : Repository} (h : r.Consistent) (changes : List Change) :
    (changes.foldl Change.apply r).Consistent ∧
      (changes.foldl Change.apply r).toList = changes.foldl Change.applyList r.toList := by
  induction changes generalizing r with
  | nil => exact ⟨h, rfl⟩
  | cons c changes ih =>
    obtain ⟨hc, hl⟩ := h.apply c
    rw [List.foldl_cons, List.foldl_cons, ← hl]
    exact ih hc

/-- After any sequence of changes the indices are in step. -/
lemma consistent_run (changes : List Change) : (run changes).Consistent :=
  (consistent_empty.applyAll changes).1

/-! ## Queries -/

/-- Every query to the repository is answered as by the plain list. The order of the files is left
open. -/
structure Answers (r : Repository) (l : List Symbol) : Prop where
  toList : r.toList = l
  load : ∀ id, r.load? id = l.find? fun s => decide (s.id = id)
  loadAll : ∀ p, r.loadAll p = l.filter p
  symbolsIn : ∀ uri, r.symbolsIn uri = SymbolList.symbolsIn l uri
  search : ∀ uri p, r.search uri p = SymbolList.search l uri p
  find : ∀ uri p, r.find? uri p = (SymbolList.search l uri p).head?
  size : r.size = l.length
  isEmpty : r.isEmpty = l.isEmpty
  files : r.files.Perm (SymbolList.files l)
  fileCount : r.fileCount = (SymbolList.files l).length
  /-- The number of symbols that the removal of a file reports. -/
  removed : ∀ uri, (r.deleteFile uri).2 = (SymbolList.symbolsIn l uri).length
  /-- The numbers that a committed batch reports. -/
  committed : ∀ uri offered, (((Batch.start uri).addAll offered).commit r).2 =
    ⟨(SymbolList.symbolsIn l uri).length, (SymbolList.symbolsIn offered uri).length⟩

namespace Consistent

variable {r : Repository}

/-- The symbol with an identifier is the one that the list has. -/
lemma load?_eq (h : r.Consistent) (id : String) :
    r.load? id = r.toList.find? fun s => decide (s.id = id) := by
  cases hfind : r.toList.find? fun s => decide (s.id = id) with
  | none =>
    rcases h.exists_or_none id with ⟨s, hs, rfl⟩ | hnone
    · have hne := List.find?_eq_none.1 hfind s hs
      simp at hne
    · rw [load?, hnone, Option.bind_none]
  | some s =>
    obtain ⟨n, hn⟩ := mem_toList_iff.1 (List.mem_of_find?_eq_some hfind)
    have hid : s.id = id := by simpa using List.find?_some hfind
    rw [load?, h.sequenceOf_iff.2 ⟨s, hn, hid⟩, Option.bind_some, hn]

/-- The symbol with an identifier is the one in the list that carries it. -/
lemma load?_eq_some_iff (h : r.Consistent) {id : String} {s : Symbol} :
    r.load? id = some s ↔ s ∈ r.toList ∧ s.id = id := by
  constructor
  · intro hs
    rw [h.load?_eq] at hs
    exact ⟨List.mem_of_find?_eq_some hs, by simpa using List.find?_some hs⟩
  · rintro ⟨hs, hid⟩
    obtain ⟨n, hn⟩ := mem_toList_iff.1 hs
    rw [load?, h.sequenceOf_iff.2 ⟨s, hn, hid⟩, Option.bind_some, hn]

/-- A file is listed exactly if it has a symbol. -/
lemma mem_files_iff (h : r.Consistent) {uri : Uri} :
    uri ∈ r.files ↔ uri ∈ SymbolList.files r.toList := by
  rw [files, SymbolList.files, List.mem_dedup, List.mem_map, ← not_iff_not,
    ← OrderedMap.get?_eq_none_iff]
  constructor
  · rintro hnone ⟨s, hs, rfl⟩
    have hid := h.mem_idsIn_iff.2 ⟨s, hs, rfl, rfl⟩
    rw [idsIn, hnone] at hid
    cases hid
  · intro hno
    cases hids : r.byUri.get? uri with
    | none => rfl
    | some ids =>
      obtain ⟨id, hid⟩ := List.exists_mem_of_ne_nil _ (h.listed hids).1
      have hmem : id ∈ r.idsIn uri := by rwa [idsIn, hids]
      obtain ⟨s, hs, huri, -⟩ := h.mem_idsIn_iff.1 hmem
      exact absurd ⟨s, hs, huri⟩ hno

lemma files_perm (h : r.Consistent) : r.files.Perm (SymbolList.files r.toList) :=
  (List.perm_ext_iff_of_nodup r.byUri.nodup_keys (List.nodup_dedup _)).2 fun _ => h.mem_files_iff

/-- Identifiers are distinct in the list. -/
lemma nodup_ids (h : r.Consistent) : (r.toList.map Symbol.id).Nodup := by
  rw [toList, OrderedMap.values, List.map_map]
  refine (nodup_entries r).map_on ?_
  intro e he f hf hid
  exact h.eq_of_id_eq he hf hid

/-- The index of a file lists as many identifiers as the file has symbols. -/
lemma idsIn_perm (h : r.Consistent) (uri : Uri) :
    (r.idsIn uri).Perm ((SymbolList.symbolsIn r.toList uri).map Symbol.id) := by
  refine (List.perm_ext_iff_of_nodup (h.nodup_idsIn uri)
    (h.nodup_ids.sublist (List.filter_sublist.map _))).2 fun id => ?_
  rw [h.mem_idsIn_iff, List.mem_map]
  constructor
  · rintro ⟨s, hs, huri, rfl⟩
    exact ⟨s, List.mem_filter.2 ⟨hs, decide_eq_true huri⟩, rfl⟩
  · rintro ⟨s, hs, rfl⟩
    obtain ⟨hmem, huri⟩ := List.mem_filter.1 hs
    exact ⟨s, hmem, of_decide_eq_true huri, rfl⟩

/-- The removal of a file reports the number of its symbols. -/
lemma deleteFile_count (h : r.Consistent) (uri : Uri) :
    (r.deleteFile uri).2 = (SymbolList.symbolsIn r.toList uri).length := by
  have hlen := (h.idsIn_perm uri).length_eq
  rw [List.length_map] at hlen
  cases hids : r.byUri.get? uri with
  | none =>
    rw [deleteFile_of_none hids, ← hlen, idsIn, hids]
    rfl
  | some ids =>
    have hidsIn : r.idsIn uri = ids := by rw [idsIn, hids, Option.getD_some]
    rw [deleteFile_of_some hids, ← hlen, hidsIn]
    -- every listed identifier has a number, so none is left out of the count
    refine congrArg List.length (List.filter_eq_self.2 fun id hid => ?_)
    rw [← hidsIn] at hid
    obtain ⟨s, hs, -, rfl⟩ := h.mem_idsIn_iff.1 hid
    obtain ⟨n, hn⟩ := mem_toList_iff.1 hs
    rw [OrderedMap.contains, h.sequenceOf_iff.2 ⟨s, hn, rfl⟩, Option.isSome_some]

/-- A consistent repository answers every query as its list does. -/
lemma answers (h : r.Consistent) : r.Answers r.toList where
  toList := rfl
  load := h.load?_eq
  loadAll := fun _ => rfl
  symbolsIn := h.symbolsIn_eq
  search := h.search_eq
  find := fun uri p => by rw [find?, h.search_eq]; rfl
  size := by rw [size, OrderedMap.size, Repository.toList, OrderedMap.values, List.length_map]
  isEmpty := by
    rw [isEmpty, OrderedMap.isEmpty, Repository.toList, OrderedMap.values, List.isEmpty_map]
  files := h.files_perm
  fileCount := by
    rw [← h.files_perm.length_eq, fileCount, OrderedMap.size, files, OrderedMap.keys,
      List.length_map]
  removed := h.deleteFile_count
  committed := by
    intro uri offered
    rw [addAll_eq, ← h.deleteFile_count]
    rfl

end Consistent

/-- **The repository refines a plain list of symbols.** After any sequence of changes, its indices
are in step, the identifiers in the list are distinct, and every query is answered as the list
answers it. -/
theorem run_refines (changes : List Change) :
    (run changes).Consistent ∧ ((runList changes).map Symbol.id).Nodup ∧
      (run changes).Answers (runList changes) := by
  obtain ⟨hc, hl⟩ := consistent_empty.applyAll changes
  have hlist : (run changes).toList = runList changes := hl
  rw [← hlist]
  exact ⟨hc, hc.nodup_ids, hc.answers⟩

end Repository

end CodeIndex
