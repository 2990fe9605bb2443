set_option autoImplicit false

/-!
# Ordered finite maps

A finite map that remembers the order in which its keys first arrived. Giving a key a new value
keeps its place, so listing the entries is reproducible. The map is a list of pairs without
repeated keys: every operation is a short recursion on that list and evaluates by reduction.

## Main definitions

* `OrderedMap` — the map: a list of entries whose keys are pairwise distinct.
* `OrderedMap.get?`, `OrderedMap.contains` — look-up by key.
* `OrderedMap.insert` — overwrite in place, or append a new key at the end.
* `OrderedMap.erase` — forget a key.

## Main results

* `OrderedMap.get?_insert`, `OrderedMap.get?_erase` — what a look-up sees after each operation.
* `OrderedMap.get?_eq_some_iff` — a look-up answers with the entries.
* `OrderedMap.keys_insert`, `OrderedMap.keys_erase` — the order of the keys after each operation.
-/

namespace CodeIndex

universe u v

/-- A finite map that lists its entries in the order in which their keys first arrived. -/
structure OrderedMap (κ : Type u) (α : Type v) where
  /-- The entries, oldest key first. -/
  entries : List (κ × α)
  /-- No key occurs twice. -/
  nodup_keys : (entries.map Prod.fst).Nodup

namespace OrderedMap

variable {κ : Type u} {α : Type v}

/-- The map without entries. -/
def empty : OrderedMap κ α := ⟨[], by simp⟩

instance : EmptyCollection (OrderedMap κ α) := ⟨empty⟩

instance : Inhabited (OrderedMap κ α) := ⟨empty⟩

/-- Two maps with the same entries are equal. -/
@[ext] theorem ext {m n : OrderedMap κ α} (h : m.entries = n.entries) : m = n := by
  cases m; cases n; simp_all

instance [DecidableEq κ] [DecidableEq α] : DecidableEq (OrderedMap κ α) := fun m n =>
  decidable_of_iff (m.entries = n.entries) ⟨ext, fun h => h ▸ rfl⟩

/-- The keys, oldest first. -/
def keys (m : OrderedMap κ α) : List κ := m.entries.map Prod.fst

/-- The values, in the order of their keys. -/
def values (m : OrderedMap κ α) : List α := m.entries.map Prod.snd

/-- The number of entries. -/
def size (m : OrderedMap κ α) : Nat := m.entries.length

/-- Whether there is no entry. -/
def isEmpty (m : OrderedMap κ α) : Bool := m.entries.isEmpty

variable [DecidableEq κ]

/-- The value of the first entry under `k`. -/
def lookup (k : κ) : List (κ × α) → Option α
  | [] => none
  | (j, a) :: es => if j = k then some a else lookup k es

/-- Overwrite the first entry under `k`, or append one. -/
def put (k : κ) (a : α) : List (κ × α) → List (κ × α)
  | [] => [(k, a)]
  | (j, b) :: es => if j = k then (k, a) :: es else (j, b) :: put k a es

/-- Leave out every entry under `k`. -/
def drop (k : κ) (es : List (κ × α)) : List (κ × α) := es.filter fun e => !decide (e.1 = k)

/-- Overwriting keeps the keys in place; a new key comes last. -/
theorem map_fst_put (k : κ) (a : α) (es : List (κ × α)) :
    (put k a es).map Prod.fst =
      if k ∈ es.map Prod.fst then es.map Prod.fst else es.map Prod.fst ++ [k] := by
  induction es with
  | nil => simp [put]
  | cons e es ih =>
    by_cases h : e.1 = k
    · simp [put, h]
    · have h' : ¬ k = e.1 := fun e => h e.symm
      by_cases hk : k ∈ es.map Prod.fst <;> simp_all [put]

/-- The value under a key. -/
def get? (m : OrderedMap κ α) (k : κ) : Option α := lookup k m.entries

/-- Whether a key has a value. -/
def contains (m : OrderedMap κ α) (k : κ) : Bool := (m.get? k).isSome

/-- Give `k` the value `a`: in place if `k` is known, as the newest entry otherwise. -/
def insert (m : OrderedMap κ α) (k : κ) (a : α) : OrderedMap κ α where
  entries := put k a m.entries
  nodup_keys := by
    rw [map_fst_put]
    split
    · exact m.nodup_keys
    · next h =>
      refine List.nodup_append.2 ⟨m.nodup_keys, by simp, ?_⟩
      intro x hx y hy
      rw [List.mem_singleton] at hy
      rintro rfl
      exact h (hy ▸ hx)

/-- Forget `k` and its value. -/
def erase (m : OrderedMap κ α) (k : κ) : OrderedMap κ α where
  entries := drop k m.entries
  nodup_keys := m.nodup_keys.sublist (List.filter_sublist.map Prod.fst)

/-- Collect pairs in order; a repeated key keeps its place and takes the later value. -/
def ofList (es : List (κ × α)) : OrderedMap κ α :=
  es.foldl (fun m e => m.insert e.1 e.2) empty

/-! ## What a look-up sees -/

@[simp] theorem get?_empty (k : κ) : (empty : OrderedMap κ α).get? k = none := rfl

theorem lookup_put (k j : κ) (a : α) (es : List (κ × α)) :
    lookup j (put k a es) = if j = k then some a else lookup j es := by
  induction es with
  | nil => by_cases h : j = k <;> simp [put, lookup, h, eq_comm (a := k)]
  | cons e es ih =>
    by_cases hk : e.1 = k <;> by_cases hj : j = k
    · simp [put, lookup, hk, hj]
    · have : ¬ k = j := fun h => hj h.symm
      simp [put, lookup, hk, hj, this]
    · have : ¬ e.1 = j := fun h => hk (h.trans hj)
      simp_all [put, lookup]
    · simp_all [put, lookup]

theorem lookup_drop (k j : κ) (es : List (κ × α)) :
    lookup j (drop k es) = if j = k then none else lookup j es := by
  induction es with
  | nil => simp [drop, lookup]
  | cons e es ih =>
    simp only [drop] at ih
    by_cases hk : e.1 = k
    · by_cases hj : j = k
      · simp_all [drop]
      · have : ¬ k = j := fun h => hj h.symm
        simp_all [drop, lookup]
    · by_cases hj : j = k
      · have : ¬ e.1 = j := fun h => hk (h.trans hj)
        simp_all [drop, lookup]
      · simp_all [drop, lookup]

/-- A list of entries has a value under `k` exactly when `k` is one of its keys. -/
theorem isSome_lookup {k : κ} {es : List (κ × α)} :
    (lookup k es).isSome = true ↔ k ∈ es.map Prod.fst := by
  induction es with
  | nil => simp [lookup]
  | cons e es ih =>
    by_cases h : e.1 = k
    · simp [lookup, h]
    · have h' : ¬ k = e.1 := fun e => h e.symm
      simp_all [lookup]

/-- After an insertion the key has the new value and every other key its old one. -/
theorem get?_insert (m : OrderedMap κ α) (k j : κ) (a : α) :
    (m.insert k a).get? j = if j = k then some a else m.get? j :=
  lookup_put k j a m.entries

/-- After an erasure the key has no value and every other key its old one. -/
theorem get?_erase (m : OrderedMap κ α) (k j : κ) :
    (m.erase k).get? j = if j = k then none else m.get? j :=
  lookup_drop k j m.entries

/-- A key has a value exactly when it is listed. -/
theorem contains_eq_true_iff {m : OrderedMap κ α} {k : κ} : m.contains k = true ↔ k ∈ m.keys :=
  isSome_lookup

/-- In a list of entries without repeated keys, the value under a key is that of its entry. -/
theorem lookup_eq_some_iff {k : κ} {a : α} {es : List (κ × α)} (h : (es.map Prod.fst).Nodup) :
    lookup k es = some a ↔ (k, a) ∈ es := by
  induction es with
  | nil => simp [lookup]
  | cons e es ih =>
    obtain ⟨j, b⟩ := e
    simp only [List.map_cons, List.nodup_cons] at h
    by_cases hj : j = k
    · subst hj
      have hne : (j, a) ∉ es := fun hm => h.1 (List.mem_map.2 ⟨_, hm, rfl⟩)
      simp [lookup, hne, eq_comm]
    · have hj' : ¬ k = j := fun e => hj e.symm
      simp [lookup, hj, hj', ih h.2]

/-- A look-up answers with the entries. -/
theorem get?_eq_some_iff {m : OrderedMap κ α} {k : κ} {a : α} :
    m.get? k = some a ↔ (k, a) ∈ m.entries :=
  lookup_eq_some_iff m.nodup_keys

/-- A key without a value is not listed. -/
theorem get?_eq_none_iff {m : OrderedMap κ α} {k : κ} : m.get? k = none ↔ k ∉ m.keys := by
  rw [← contains_eq_true_iff, contains]
  cases m.get? k <;> simp

/-! ## The order of the entries -/

theorem put_of_notMem {k : κ} (a : α) {es : List (κ × α)} (h : k ∉ es.map Prod.fst) :
    put k a es = es ++ [(k, a)] := by
  induction es with
  | nil => rfl
  | cons e es ih =>
    simp only [List.map_cons, List.mem_cons, not_or] at h
    have he : ¬ e.1 = k := fun e => h.1 e.symm
    simp [put, he, ih h.2]

/-- A new key brings its entry to the end. -/
theorem entries_insert_of_notMem {m : OrderedMap κ α} {k : κ} (a : α) (h : k ∉ m.keys) :
    (m.insert k a).entries = m.entries ++ [(k, a)] :=
  put_of_notMem a h

/-- Erasing a key leaves the other entries in order. -/
theorem entries_erase (m : OrderedMap κ α) (k : κ) :
    (m.erase k).entries = m.entries.filter fun e => !decide (e.1 = k) := rfl

/-! ## The order of the keys -/

/-- A known key keeps its place; a new key comes last. -/
theorem keys_insert (m : OrderedMap κ α) (k : κ) (a : α) :
    (m.insert k a).keys = if k ∈ m.keys then m.keys else m.keys ++ [k] :=
  map_fst_put k a m.entries

/-- Erasing a key leaves the others in order. -/
theorem keys_erase (m : OrderedMap κ α) (k : κ) :
    (m.erase k).keys = m.keys.filter fun j => !decide (j = k) := by
  simp only [erase, drop, keys, List.filter_map]
  rfl

end OrderedMap

end CodeIndex
