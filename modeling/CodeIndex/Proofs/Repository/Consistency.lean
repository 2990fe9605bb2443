import Mathlib.Data.List.Nodup
import CodeIndex.Repository.Basic

set_option relaxedAutoImplicit false
set_option autoImplicit false

/-!
# Consistency of the repository

A stored symbol stands in three places: under its number, under its identifier, and in the index of
its file. The three are in step when each can be read off the others. This file states that as an
invariant and shows that every change keeps it, together with what the change does to the plain
list of symbols that the repository stands for.

## Main definitions

* `Repository.Numbered` — identifiers and numbered symbols are mutually inverse, and the numbers
  ascend below the next one.
* `Repository.Consistent` — moreover, the index of each file lists the identifiers of its symbols.

## Main results

* `Repository.Consistent.delete`, `Repository.Consistent.store`,
  `Repository.Consistent.deleteFile` — every change keeps the repository consistent.
* `Repository.Consistent.toList_delete`, `Repository.Consistent.toList_store`,
  `Repository.Consistent.toList_deleteFile` — what every change does to the list of symbols.

## Design

Removing one symbol and removing a file take different paths through the indices, but both take a
symbol out of the two numberings in the same way. That common step is `Repository.unnumber`; the
two removals differ only in what they do to the index of files.
-/

namespace CodeIndex

namespace Repository

variable {r : Repository}

/-- The identifiers that are listed for a file. -/
def idsIn (r : Repository) (uri : Uri) : List String := (r.byUri.get? uri).getD []

/-- Identifiers and numbered symbols are mutually inverse, and the numbers ascend below the next
one. -/
structure Numbered (r : Repository) : Prop where
  /-- An identifier has the number of the symbol that carries it. -/
  sequenceOf_iff : ∀ {id : String} {n : Nat},
    r.sequenceOf.get? id = some n ↔ ∃ s, r.symbols.get? n = some s ∧ s.id = id
  /-- Every number in use is below the next one. -/
  lt_next : ∀ {n : Nat}, n ∈ r.symbols.keys → n < r.next
  /-- The symbols are held in the order of their numbers. -/
  ascending : r.symbols.keys.Pairwise (· < ·)

/-- The three indices are in step. -/
structure Consistent (r : Repository) : Prop extends Numbered r where
  /-- The index of a file lists the identifiers of its symbols. -/
  mem_idsIn_iff : ∀ {uri : Uri} {id : String},
    id ∈ r.idsIn uri ↔ ∃ s ∈ r.toList, s.uri = uri ∧ s.id = id
  /-- No file is listed without an identifier, and no identifier twice. -/
  listed : ∀ {uri : Uri} {ids : List String},
    r.byUri.get? uri = some ids → ids ≠ [] ∧ ids.Nodup

/-! ## Taking a symbol out of the two numberings -/

/-- Forget the number and the symbol of an identifier, and leave the index of files alone. -/
def unnumber (r : Repository) (id : String) : Repository :=
  match r.sequenceOf.get? id with
  | none => r
  | some n => { r with sequenceOf := r.sequenceOf.erase id, symbols := r.symbols.erase n }

@[simp] lemma next_unnumber (r : Repository) (id : String) : (r.unnumber id).next = r.next := by
  unfold unnumber
  split <;> rfl

@[simp] lemma byUri_unnumber (r : Repository) (id : String) : (r.unnumber id).byUri = r.byUri := by
  unfold unnumber
  split <;> rfl

/-- Afterwards the identifier has no number, and the others have theirs. -/
lemma sequenceOf_unnumber (r : Repository) (id j : String) :
    (r.unnumber id).sequenceOf.get? j = if j = id then none else r.sequenceOf.get? j := by
  unfold unnumber
  split
  · next h =>
    by_cases hj : j = id
    · rw [if_pos hj, hj, h]
    · rw [if_neg hj]
  · exact OrderedMap.get?_erase _ _ _

lemma mem_toList_iff {s : Symbol} : s ∈ r.toList ↔ ∃ n, r.symbols.get? n = some s := by
  simp only [toList, OrderedMap.values, List.mem_map, OrderedMap.get?_eq_some_iff]
  constructor
  · rintro ⟨⟨n, s⟩, he, rfl⟩
    exact ⟨n, he⟩
  · rintro ⟨n, he⟩
    exact ⟨(n, s), he, rfl⟩

namespace Numbered

/-- A stored symbol is found under its identifier. -/
lemma sequenceOf_of_mem (h : r.Numbered) {e : Nat × Symbol} (he : e ∈ r.symbols.entries) :
    r.sequenceOf.get? e.2.id = some e.1 :=
  h.sequenceOf_iff.2 ⟨e.2, OrderedMap.get?_eq_some_iff.2 he, rfl⟩

/-- Exactly the symbol with the identifier goes.

**Proof sketch.** Without a number for the identifier no symbol carries it. With a number, the
entry under that number is the only one whose symbol carries the identifier, since the two
numberings are inverse. -/
lemma entries_unnumber (h : r.Numbered) (id : String) :
    (r.unnumber id).symbols.entries = r.symbols.entries.filter fun e => !decide (e.2.id = id) := by
  unfold unnumber
  split
  · next hid =>
    refine (List.filter_eq_self.2 fun e he => ?_).symm
    have hne : e.2.id ≠ id := by
      intro heq
      have hseq := h.sequenceOf_of_mem he
      rw [heq, hid] at hseq
      cases hseq
    simp [hne]
  · next n hid =>
    rw [OrderedMap.entries_erase]
    refine List.filter_congr fun e he => ?_
    have hiff : e.1 = n ↔ e.2.id = id := by
      constructor
      · rintro rfl
        obtain ⟨s, hs, hsid⟩ := h.sequenceOf_iff.1 hid
        have hes := OrderedMap.get?_eq_some_iff.2 he
        rw [hs, Option.some.injEq] at hes
        rw [← hes, hsid]
      · rintro rfl
        have hseq := h.sequenceOf_of_mem he
        rw [hid, Option.some.injEq] at hseq
        exact hseq.symm
    simp [hiff]

lemma toList_unnumber (h : r.Numbered) (id : String) :
    (r.unnumber id).toList = r.toList.filter fun s => !decide (s.id = id) := by
  simp only [toList, OrderedMap.values, h.entries_unnumber, List.filter_map]
  rfl

lemma get?_unnumber (h : r.Numbered) {id : String} {n : Nat} {s : Symbol} :
    (r.unnumber id).symbols.get? n = some s ↔ r.symbols.get? n = some s ∧ s.id ≠ id := by
  simp [OrderedMap.get?_eq_some_iff, h.entries_unnumber]

lemma keys_unnumber_sublist (h : r.Numbered) (id : String) :
    (r.unnumber id).symbols.keys.Sublist r.symbols.keys := by
  simp only [OrderedMap.keys, h.entries_unnumber]
  exact List.filter_sublist.map Prod.fst

/-- The two numberings stay inverse. -/
lemma unnumber (h : r.Numbered) (id : String) : (r.unnumber id).Numbered where
  sequenceOf_iff := by
    intro j n
    rw [sequenceOf_unnumber]
    by_cases hj : j = id
    · subst hj
      simp only [↓reduceIte, reduceCtorEq, false_iff, not_exists, not_and, h.get?_unnumber]
      rintro s ⟨-, hne⟩
      exact hne
    · rw [if_neg hj, h.sequenceOf_iff]
      constructor
      · rintro ⟨s, hs, rfl⟩
        exact ⟨s, h.get?_unnumber.2 ⟨hs, hj⟩, rfl⟩
      · rintro ⟨s, hs, hid⟩
        exact ⟨s, (h.get?_unnumber.1 hs).1, hid⟩
  lt_next := by
    intro n hn
    rw [next_unnumber]
    exact h.lt_next ((h.keys_unnumber_sublist id).subset hn)
  ascending := h.ascending.sublist (h.keys_unnumber_sublist id)

/-- Identifiers are unique among the stored symbols. -/
lemma eq_of_id_eq (h : r.Numbered) {e f : Nat × Symbol} (he : e ∈ r.symbols.entries)
    (hf : f ∈ r.symbols.entries) (hid : e.2.id = f.2.id) : e = f := by
  have hn : e.1 = f.1 := by
    have hse := h.sequenceOf_of_mem he
    rw [hid, h.sequenceOf_of_mem hf, Option.some.injEq] at hse
    exact hse.symm
  have hge := OrderedMap.get?_eq_some_iff.2 he
  rw [hn, OrderedMap.get?_eq_some_iff.2 hf, Option.some.injEq] at hge
  exact Prod.ext hn hge.symm

end Numbered

/-! ## Taking an identifier out of the index of files -/

/-- What is listed for a file after an identifier was taken out of the index of another or the
same file. -/
lemma getD_unlist (m : OrderedMap Uri (List String)) (uri v : Uri) (id : String) :
    ((unlist m uri id).get? v).getD [] =
      if v = uri then ((m.get? uri).getD []).filter (· ≠ id) else (m.get? v).getD [] := by
  unfold unlist
  split
  · next h =>
    by_cases hv : v = uri
    · subst hv
      simp [h]
    · rw [if_neg hv]
  · next ids h =>
    split
    · next hnil =>
      rw [OrderedMap.get?_erase]
      by_cases hv : v = uri
      · rw [if_pos hv, if_pos hv, h, Option.getD_some, hnil, Option.getD_none]
      · rw [if_neg hv, if_neg hv]
    · rw [OrderedMap.get?_insert]
      by_cases hv : v = uri
      · simp [hv, h]
      · simp [hv]

/-- Taking an identifier out leaves every listed file with an identifier, and none twice. -/
lemma listed_unlist {m : OrderedMap Uri (List String)} (uri : Uri) (id : String)
    (h : ∀ {v : Uri} {ids : List String}, m.get? v = some ids → ids ≠ [] ∧ ids.Nodup)
    {v : Uri} {ids : List String} (hv : (unlist m uri id).get? v = some ids) :
    ids ≠ [] ∧ ids.Nodup := by
  unfold unlist at hv
  split at hv
  · exact h hv
  · next old hold =>
    split at hv
    · rw [OrderedMap.get?_erase] at hv
      split at hv
      · cases hv
      · exact h hv
    · next hne =>
      rw [OrderedMap.get?_insert] at hv
      split at hv
      · obtain rfl := Option.some.inj hv
        exact ⟨hne, (h hold).2.filter _⟩
      · exact h hv

/-! ## Removing one symbol -/

/-- Without a number there is nothing to remove. -/
lemma delete_of_none {id : String} (h : r.sequenceOf.get? id = none) : r.delete id = r := by
  simp only [delete, h]

namespace Numbered

/-- A removal takes the symbol out of the two numberings and its identifier out of the index of its
file. -/
lemma delete_eq (h : r.Numbered) {s : Symbol} (hs : s ∈ r.toList) :
    r.delete s.id = { r.unnumber s.id with byUri := unlist r.byUri s.uri s.id } := by
  obtain ⟨n, hn⟩ := mem_toList_iff.1 hs
  have hseq : r.sequenceOf.get? s.id = some n := h.sequenceOf_iff.2 ⟨s, hn, rfl⟩
  simp only [delete, Repository.unnumber, hseq, hn]

/-- Either a symbol carries the identifier, or the identifier has no number. -/
lemma exists_or_none (h : r.Numbered) (id : String) :
    (∃ s ∈ r.toList, s.id = id) ∨ r.sequenceOf.get? id = none := by
  cases hid : r.sequenceOf.get? id with
  | none => exact Or.inr rfl
  | some n =>
    obtain ⟨s, hs, hsid⟩ := h.sequenceOf_iff.1 hid
    exact Or.inl ⟨s, mem_toList_iff.2 ⟨n, hs⟩, hsid⟩

/-- The two numberings after a removal. -/
lemma delete_numbering (h : r.Numbered) (id : String) :
    (r.delete id).sequenceOf = (r.unnumber id).sequenceOf ∧
      (r.delete id).symbols = (r.unnumber id).symbols ∧ (r.delete id).next = r.next := by
  rcases h.exists_or_none id with ⟨s, hs, rfl⟩ | hnone
  · rw [h.delete_eq hs]
    exact ⟨rfl, rfl, next_unnumber _ _⟩
  · rw [delete_of_none hnone]
    simp only [Repository.unnumber, hnone, and_self]

lemma delete (h : r.Numbered) (id : String) : (r.delete id).Numbered := by
  obtain ⟨hseq, hsym, hnext⟩ := h.delete_numbering id
  have hu := h.unnumber id
  constructor
  · rw [hseq, hsym]
    exact hu.sequenceOf_iff
  · rw [hsym, hnext, ← next_unnumber r id]
    exact hu.lt_next
  · rw [hsym]
    exact hu.ascending

/-- Removing the symbol with an identifier erases it from the list. -/
lemma toList_delete (h : r.Numbered) (id : String) :
    (r.delete id).toList = r.toList.filter fun s => !decide (s.id = id) := by
  rw [← h.toList_unnumber id, toList, toList, (h.delete_numbering id).2.1]

end Numbered

namespace Consistent

/-- A symbol is listed for its own file and for no other. -/
lemma uri_eq_of_mem_idsIn (h : r.Consistent) {s : Symbol} {uri : Uri} (hs : s ∈ r.toList)
    (hid : s.id ∈ r.idsIn uri) : s.uri = uri := by
  obtain ⟨t, ht, huri, htid⟩ := h.mem_idsIn_iff.1 hid
  obtain ⟨n, hn⟩ := mem_toList_iff.1 hs
  obtain ⟨m, hm⟩ := mem_toList_iff.1 ht
  have heq := h.eq_of_id_eq (OrderedMap.get?_eq_some_iff.1 hn)
    (OrderedMap.get?_eq_some_iff.1 hm) htid.symm
  obtain ⟨-, rfl⟩ := Prod.mk.inj heq
  exact huri

/-- What is listed for a file after a removal. -/
lemma idsIn_delete (h : r.Consistent) (id : String) (uri : Uri) :
    (r.delete id).idsIn uri = (r.idsIn uri).filter (· ≠ id) := by
  rcases h.exists_or_none id with ⟨s, hs, rfl⟩ | hnone
  · rw [h.delete_eq hs, idsIn, getD_unlist]
    split
    · next huri => rw [idsIn, huri]
    · next hne =>
      refine (List.filter_eq_self.2 fun j hj => ?_).symm
      have hj' : j ≠ s.id := by
        rintro rfl
        exact hne (h.uri_eq_of_mem_idsIn hs hj).symm
      simp [hj']
  · rw [delete_of_none hnone]
    refine (List.filter_eq_self.2 fun j hj => ?_).symm
    have hj' : j ≠ id := by
      rintro rfl
      obtain ⟨s, hs, -, rfl⟩ := h.mem_idsIn_iff.1 hj
      obtain ⟨n, hn⟩ := mem_toList_iff.1 hs
      rw [h.sequenceOf_iff.2 ⟨s, hn, rfl⟩] at hnone
      cases hnone
    simp [hj']

/-- Removing a symbol keeps the repository consistent. -/
lemma delete (h : r.Consistent) (id : String) : (r.delete id).Consistent where
  toNumbered := h.toNumbered.delete id
  mem_idsIn_iff := by
    intro uri j
    rw [h.idsIn_delete, h.toList_delete, List.mem_filter, h.mem_idsIn_iff]
    constructor
    · rintro ⟨⟨s, hs, huri, rfl⟩, hne⟩
      exact ⟨s, by simpa [hs] using hne, huri, rfl⟩
    · rintro ⟨s, hs, huri, rfl⟩
      rw [List.mem_filter] at hs
      exact ⟨⟨s, hs.1, huri, rfl⟩, by simpa using hs.2⟩
  listed := by
    intro uri ids hids
    rcases h.exists_or_none id with ⟨s, hs, rfl⟩ | hnone
    · rw [h.delete_eq hs] at hids
      exact listed_unlist s.uri s.id h.listed hids
    · rw [delete_of_none hnone] at hids
      exact h.listed hids

end Consistent

/-! ## Storing a symbol -/

/-- Store a symbol whose identifier is not in use. -/
def append (r : Repository) (s : Symbol) : Repository where
  next := r.next + 1
  sequenceOf := r.sequenceOf.insert s.id r.next
  symbols := r.symbols.insert r.next s
  byUri := r.byUri.insert s.uri (r.idsIn s.uri ++ [s.id])

/-- Storing is removing what has the identifier, then appending. -/
lemma store_eq (r : Repository) (s : Symbol) : r.store s = (r.delete s.id).append s := rfl

namespace Numbered

/-- The next number is not in use. -/
lemma next_notMem (h : r.Numbered) : r.next ∉ r.symbols.keys :=
  fun hmem => Nat.lt_irrefl _ (h.lt_next hmem)

lemma entries_append (h : r.Numbered) (s : Symbol) :
    (r.append s).symbols.entries = r.symbols.entries ++ [(r.next, s)] :=
  OrderedMap.entries_insert_of_notMem s h.next_notMem

/-- The appended symbol comes last. -/
lemma toList_append (h : r.Numbered) (s : Symbol) : (r.append s).toList = r.toList ++ [s] := by
  simp only [toList, OrderedMap.values, h.entries_append, List.map_append, List.map_cons,
    List.map_nil]

/-- Appending a symbol with a new identifier keeps the two numberings inverse. -/
lemma append (h : r.Numbered) {s : Symbol} (hs : ∀ t ∈ r.toList, t.id ≠ s.id) :
    (r.append s).Numbered where
  sequenceOf_iff := by
    intro id n
    -- the symbols after the step, by number
    have hget : ∀ t, (r.append s).symbols.get? n = some t ↔
        r.symbols.get? n = some t ∨ n = r.next ∧ t = s := by
      intro t
      rw [OrderedMap.get?_eq_some_iff, h.entries_append, List.mem_append, List.mem_singleton,
        Prod.mk.injEq, OrderedMap.get?_eq_some_iff]
    have hseq : (r.append s).sequenceOf.get? id =
        if id = s.id then some r.next else r.sequenceOf.get? id := OrderedMap.get?_insert _ _ _ _
    rw [hseq]
    by_cases hid : id = s.id
    · subst hid
      rw [if_pos rfl, Option.some.injEq]
      constructor
      · rintro rfl
        exact ⟨s, (hget s).2 (Or.inr ⟨rfl, rfl⟩), rfl⟩
      · rintro ⟨t, ht, htid⟩
        rcases (hget t).1 ht with hold | ⟨rfl, -⟩
        · exact absurd htid (hs t (mem_toList_iff.2 ⟨n, hold⟩))
        · rfl
    · rw [if_neg hid, h.sequenceOf_iff]
      constructor
      · rintro ⟨t, ht, rfl⟩
        exact ⟨t, (hget t).2 (Or.inl ht), rfl⟩
      · rintro ⟨t, ht, rfl⟩
        rcases (hget t).1 ht with hold | ⟨-, rfl⟩
        · exact ⟨t, hold, rfl⟩
        · exact absurd rfl hid
  lt_next := by
    intro n hn
    simp only [OrderedMap.keys, h.entries_append, List.map_append, List.map_cons, List.map_nil,
      List.mem_append, List.mem_singleton] at hn
    have hnext : (r.append s).next = r.next + 1 := rfl
    rcases hn with hold | rfl
    · have := h.lt_next hold
      omega
    · omega
  ascending := by
    simp only [OrderedMap.keys, h.entries_append, List.map_append, List.map_cons, List.map_nil]
    refine List.pairwise_append.2 ⟨h.ascending, List.pairwise_singleton _ _, ?_⟩
    intro n hn m hm
    rw [List.mem_singleton] at hm
    rw [hm]
    exact h.lt_next hn

end Numbered

/-- What is listed for a file after a symbol was appended. -/
lemma idsIn_append (r : Repository) (s : Symbol) (uri : Uri) :
    (r.append s).idsIn uri = if uri = s.uri then r.idsIn uri ++ [s.id] else r.idsIn uri := by
  unfold idsIn append
  rw [OrderedMap.get?_insert]
  split
  · next h =>
    subst h
    rfl
  · rfl

namespace Consistent

/-- Appending a symbol with a new identifier keeps the repository consistent. -/
lemma append (h : r.Consistent) {s : Symbol} (hs : ∀ t ∈ r.toList, t.id ≠ s.id) :
    (r.append s).Consistent where
  toNumbered := h.toNumbered.append hs
  mem_idsIn_iff := by
    intro uri id
    rw [idsIn_append, h.toList_append]
    by_cases huri : uri = s.uri
    · subst huri
      rw [if_pos rfl, List.mem_append, List.mem_singleton, h.mem_idsIn_iff]
      constructor
      · rintro (⟨t, ht, htu, rfl⟩ | rfl)
        · exact ⟨t, by simp [ht], htu, rfl⟩
        · exact ⟨s, by simp, rfl, rfl⟩
      · rintro ⟨t, ht, htu, rfl⟩
        rcases List.mem_append.1 ht with hold | hnew
        · exact Or.inl ⟨t, hold, htu, rfl⟩
        · rw [List.mem_singleton.1 hnew]
          exact Or.inr rfl
    · rw [if_neg huri, h.mem_idsIn_iff]
      constructor
      · rintro ⟨t, ht, htu, rfl⟩
        exact ⟨t, by simp [ht], htu, rfl⟩
      · rintro ⟨t, ht, htu, rfl⟩
        rcases List.mem_append.1 ht with hold | hnew
        · exact ⟨t, hold, htu, rfl⟩
        · rw [List.mem_singleton.1 hnew] at htu
          exact absurd htu.symm huri
  listed := by
    intro uri ids hids
    have hget : (r.append s).byUri.get? uri =
        if uri = s.uri then some (r.idsIn s.uri ++ [s.id]) else r.byUri.get? uri :=
      OrderedMap.get?_insert _ _ _ _
    rw [hget] at hids
    split at hids
    · obtain rfl := Option.some.inj hids
      refine ⟨by simp, List.nodup_append.2 ⟨?_, List.nodup_singleton _, ?_⟩⟩
      · rw [idsIn]
        cases hold : r.byUri.get? s.uri with
        | none => exact List.nodup_nil
        | some old => exact (h.listed hold).2
      · intro a ha b hb
        rw [List.mem_singleton] at hb
        obtain ⟨t, ht, -, rfl⟩ := h.mem_idsIn_iff.1 ha
        rw [hb]
        exact hs t ht
    · exact h.listed hids

/-- No symbol carries the identifier of one that was removed. -/
lemma ne_of_mem_delete (h : r.Consistent) {id : String} {s : Symbol}
    (hs : s ∈ (r.delete id).toList) : s.id ≠ id := by
  rw [h.toList_delete, List.mem_filter] at hs
  simpa using hs.2

/-- Storing a symbol keeps the repository consistent. -/
lemma store (h : r.Consistent) (s : Symbol) : (r.store s).Consistent := by
  rw [store_eq]
  exact (h.delete s.id).append fun t ht => h.ne_of_mem_delete ht

/-- Storing a symbol erases the one with its identifier from the list and appends it. -/
lemma toList_store (h : r.Consistent) (s : Symbol) :
    (r.store s).toList = (r.toList.filter fun t => !decide (t.id = s.id)) ++ [s] := by
  rw [store_eq, (h.delete s.id).toList_append, h.toList_delete]

end Consistent

/-! ## Removing a file -/

/-- Removing several identifiers takes them out one after the other. -/
lemma dropIds_cons (r : Repository) (id : String) (ids : List String) :
    r.dropIds (id :: ids) = (r.unnumber id).dropIds ids := rfl

@[simp] lemma byUri_dropIds (r : Repository) (ids : List String) :
    (r.dropIds ids).byUri = r.byUri := by
  induction ids generalizing r with
  | nil => rfl
  | cons id ids ih => rw [dropIds_cons, ih, byUri_unnumber]

namespace Numbered

lemma dropIds (h : r.Numbered) (ids : List String) : (r.dropIds ids).Numbered := by
  induction ids generalizing r with
  | nil => exact h
  | cons id ids ih => exact ih (h.unnumber id)

lemma toList_dropIds (h : r.Numbered) (ids : List String) :
    (r.dropIds ids).toList = r.toList.filter fun s => !decide (s.id ∈ ids) := by
  induction ids generalizing r with
  | nil => simp [Repository.dropIds]
  | cons id ids ih =>
    rw [dropIds_cons, ih (h.unnumber id), h.toList_unnumber, List.filter_filter]
    refine List.filter_congr fun s _ => ?_
    simp only [List.mem_cons, Bool.decide_or, Bool.not_or, Bool.and_comm]

/-- The two numberings do not depend on the index of files. -/
lemma of_byUri (h : r.Numbered) (m : OrderedMap Uri (List String)) :
    ({ r with byUri := m } : Repository).Numbered :=
  ⟨h.sequenceOf_iff, h.lt_next, h.ascending⟩

end Numbered

/-- A file without a list has nothing to remove. -/
lemma deleteFile_of_none {uri : Uri} (h : r.byUri.get? uri = none) : r.deleteFile uri = (r, 0) := by
  simp only [deleteFile, h]

lemma deleteFile_of_some {uri : Uri} {ids : List String} (h : r.byUri.get? uri = some ids) :
    r.deleteFile uri = (({ r with byUri := r.byUri.erase uri } : Repository).dropIds ids,
      (ids.filter r.sequenceOf.contains).length) := by
  simp only [deleteFile, h]

/-- What is listed for a file after another or the same file was removed. -/
lemma byUri_deleteFile (r : Repository) (uri v : Uri) :
    (r.deleteFile uri).1.byUri.get? v = if v = uri then none else r.byUri.get? v := by
  cases hids : r.byUri.get? uri with
  | none =>
    rw [deleteFile_of_none hids]
    by_cases hv : v = uri
    · rw [if_pos hv, hv, hids]
    · rw [if_neg hv]
  | some ids =>
    rw [deleteFile_of_some hids, byUri_dropIds]
    exact OrderedMap.get?_erase _ _ _

namespace Consistent

/-- The identifiers listed for a file are those of its symbols. -/
lemma decide_mem_idsIn (h : r.Consistent) {s : Symbol} (hs : s ∈ r.toList) (uri : Uri) :
    decide (s.id ∈ r.idsIn uri) = decide (s.uri = uri) := by
  rw [decide_eq_decide]
  constructor
  · exact h.uri_eq_of_mem_idsIn hs
  · rintro rfl
    exact h.mem_idsIn_iff.2 ⟨s, hs, rfl, rfl⟩

/-- Removing a file erases its symbols from the list. -/
lemma toList_deleteFile (h : r.Consistent) (uri : Uri) :
    (r.deleteFile uri).1.toList = r.toList.filter fun s => !decide (s.uri = uri) := by
  have hcongr : (r.toList.filter fun s => !decide (s.uri = uri)) =
      r.toList.filter fun s => !decide (s.id ∈ r.idsIn uri) :=
    List.filter_congr fun s hs => by rw [h.decide_mem_idsIn hs]
  rw [hcongr]
  cases hids : r.byUri.get? uri with
  | none =>
    rw [deleteFile_of_none hids]
    simp [idsIn, hids]
  | some ids =>
    rw [deleteFile_of_some hids, (h.toNumbered.of_byUri _).toList_dropIds]
    simp only [idsIn, hids, Option.getD_some]
    rfl

/-- Removing a file keeps the repository consistent. -/
lemma deleteFile (h : r.Consistent) (uri : Uri) : (r.deleteFile uri).1.Consistent where
  toNumbered := by
    cases hids : r.byUri.get? uri with
    | none =>
      rw [deleteFile_of_none hids]
      exact h.toNumbered
    | some ids =>
      rw [deleteFile_of_some hids]
      exact (h.toNumbered.of_byUri _).dropIds ids
  mem_idsIn_iff := by
    intro v id
    rw [h.toList_deleteFile, idsIn, byUri_deleteFile]
    by_cases hv : v = uri
    · subst hv
      simp only [↓reduceIte, Option.getD_none, List.not_mem_nil, false_iff, not_exists, not_and,
        List.mem_filter]
      rintro s ⟨-, hs⟩ hsv
      simp [hsv] at hs
    · rw [if_neg hv, ← idsIn, h.mem_idsIn_iff]
      constructor
      · rintro ⟨s, hs, rfl, rfl⟩
        exact ⟨s, by simp [hs, hv], rfl, rfl⟩
      · rintro ⟨s, hs, rfl, rfl⟩
        exact ⟨s, (List.mem_filter.1 hs).1, rfl, rfl⟩
  listed := by
    intro v ids hv
    rw [byUri_deleteFile] at hv
    split at hv
    · cases hv
    · exact h.listed hv

end Consistent

/-- The repository without symbols is consistent. -/
lemma consistent_empty : empty.Consistent where
  sequenceOf_iff := by
    intro id n
    simp [empty]
  lt_next := by
    intro n hn
    simp [empty, OrderedMap.empty, OrderedMap.keys] at hn
  ascending := List.Pairwise.nil
  mem_idsIn_iff := by
    intro uri id
    simp [empty, idsIn, toList, OrderedMap.values, OrderedMap.empty, OrderedMap.get?,
      OrderedMap.lookup]
  listed := by
    intro uri ids hids
    simp [empty] at hids

end Repository

end CodeIndex
