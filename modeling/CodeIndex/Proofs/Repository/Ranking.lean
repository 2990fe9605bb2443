import Mathlib.Data.List.Nodup
import CodeIndex.Proofs.Repository.Consistency

set_option relaxedAutoImplicit false
set_option autoImplicit false

/-!
# Ordered answers of the repository

The index of a file lists its symbols in no particular order; a query puts them in order itself,
by number or by width. This file shows that the answer depends only on the list of symbols that the
repository stands for: in a consistent repository, the symbols of a file come out as they stand in
that list, and the symbols around a point as a stable sort of it, newest first, by width.

## Main definitions

* `Symbol.width` — what a symbol is ranked by around a point.

## Main results

* `Repository.sortBy_eq_of_perm` — a list that a strict order arranges is the result of sorting any
  rearrangement of it.
* `Repository.Consistent.symbolsIn_eq` — the symbols of a file, off the list.
* `Repository.Consistent.search_eq` — the symbols around a point, off the list.
-/

namespace CodeIndex

/-- The width of the range of a symbol. -/
def Symbol.width (s : Symbol) : Int := s.range.elim 0 Span.size

namespace Repository

/-! ## Sorting -/

section Sorting

variable {α : Type} {before : α → α → Bool}

lemma insertBy_perm (before : α → α → Bool) (x : α) (ys : List α) :
    (insertBy before x ys).Perm (x :: ys) := by
  induction ys with
  | nil => exact List.Perm.refl _
  | cons y ys ih =>
    unfold insertBy
    split
    · exact List.Perm.refl _
    · exact (ih.cons y).trans (List.Perm.swap x y ys)

/-- Sorting rearranges. -/
lemma sortBy_perm (before : α → α → Bool) (xs : List α) : (sortBy before xs).Perm xs := by
  induction xs with
  | nil => exact List.Perm.refl _
  | cons x xs ih => exact (insertBy_perm before x _).trans (ih.cons x)

variable (hasymm : ∀ a b, before a b = true → before b a = false)
  (htrans : ∀ a b c, before a b = true → before b c = true → before a c = true)

include hasymm htrans in
lemma pairwise_insertBy (x : α) {ys : List α} (h : ys.Pairwise fun a b => before b a = false) :
    (insertBy before x ys).Pairwise fun a b => before b a = false := by
  induction ys with
  | nil => exact List.pairwise_singleton _ _
  | cons y ys ih =>
    rw [List.pairwise_cons] at h
    unfold insertBy
    split
    · next hxy =>
      refine List.pairwise_cons.2 ⟨?_, List.pairwise_cons.2 h⟩
      intro z hz
      rcases List.mem_cons.1 hz with rfl | hz
      · exact hasymm x z hxy
      · by_contra hzx
        rw [Bool.not_eq_false] at hzx
        have hzy := htrans z x y hzx hxy
        rw [h.1 z hz] at hzy
        cases hzy
    · next hxy =>
      refine List.pairwise_cons.2 ⟨?_, ih h.2⟩
      intro z hz
      rcases List.mem_cons.1 ((insertBy_perm before x ys).mem_iff.1 hz) with rfl | hz
      · simpa using hxy
      · exact h.1 z hz

include hasymm htrans in
/-- In the sorted list nothing stands behind what it precedes. -/
lemma pairwise_sortBy (xs : List α) :
    (sortBy before xs).Pairwise fun a b => before b a = false := by
  induction xs with
  | nil => exact List.Pairwise.nil
  | cons x xs ih => exact pairwise_insertBy hasymm htrans x ih

include hasymm htrans in
/-- A list that a strict order arranges is the result of sorting any rearrangement of it.

**Proof sketch.** Both lists are arranged in the weak sense that nothing stands behind what it
precedes. Of two members of the strictly arranged list one precedes the other, so two members
neither of which precedes the other are equal, and an arranged rearrangement is unique. -/
lemma sortBy_eq_of_perm {l l' : List α} (hperm : l.Perm l')
    (hsorted : l'.Pairwise fun a b => before a b = true) : sortBy before l = l' := by
  have hweak : l'.Pairwise fun a b => before b a = false :=
    hsorted.imp fun {a b} h => hasymm a b h
  have htotal : ∀ {a}, a ∈ l' → ∀ {b}, b ∈ l' → a = b ∨ before a b = true ∨ before b a = true :=
    fun {a} ha {b} hb => List.Pairwise.forall_of_forall_of_flip
      (R := fun a b => a = b ∨ before a b = true ∨ before b a = true) (fun _ _ => Or.inl rfl)
      (hsorted.imp fun {a b} h => Or.inr (Or.inl h))
      (hsorted.imp fun {a b} h => Or.inr (Or.inr h)) ha hb
  have hp : (sortBy before l).Perm l' := (sortBy_perm before l).trans hperm
  refine hp.eq_of_pairwise ?_ (pairwise_sortBy hasymm htrans l) hweak
  intro a b ha hb hba hab
  rcases htotal (hp.mem_iff.1 ha) hb with rfl | h | h
  · rfl
  · rw [h] at hab
    cases hab
  · rw [h] at hba
    cases hba

/-- A stable sort keeps the members of one key in their order.

**Proof sketch.** They form a sorted sublist of the list, hence a sublist of the result, and the
result has no more members of that key. -/
lemma filter_mergeSort (key : α → Int) (l : List α) (k : Int) :
    (l.mergeSort fun a b => decide (key a ≤ key b)).filter (fun a => decide (key a = k)) =
      l.filter fun a => decide (key a = k) := by
  set le : α → α → Bool := fun a b => decide (key a ≤ key b) with hle
  have htrans : ∀ a b c, le a b = true → le b c = true → le a c = true := by
    intro a b c hab hbc
    simp only [hle, decide_eq_true_eq] at hab hbc ⊢
    omega
  have htotal : ∀ a b, (le a b || le b a) = true := by
    intro a b
    simp only [hle, Bool.or_eq_true, decide_eq_true_eq]
    omega
  have hsorted : (l.filter fun a => decide (key a = k)).Pairwise fun a b => le a b = true := by
    refine List.pairwise_of_forall_mem_list fun a ha b hb => ?_
    simp only [List.mem_filter, decide_eq_true_eq] at ha hb
    simp [hle, ha.2, hb.2]
  have hsub := (List.sublist_mergeSort htrans htotal hsorted List.filter_sublist).filter
    fun a => decide (key a = k)
  rw [List.filter_filter] at hsub
  simp only [Bool.and_self] at hsub
  exact (hsub.eq_of_length ((List.mergeSort_perm l le).filter _).length_eq.symm).symm

/-- After a stable sort by a key, members of one key stand as they stood before. -/
lemma pairwise_mergeSort_key {newer : α → α → Prop} (key : α → Int) {l : List α}
    (h : l.Pairwise newer) : (l.mergeSort fun a b => decide (key a ≤ key b)).Pairwise
      fun a b => key a < key b ∨ key a = key b ∧ newer a b := by
  have hkeys : (l.mergeSort fun a b => decide (key a ≤ key b)).Pairwise
      fun a b => decide (key a ≤ key b) = true := by
    refine List.pairwise_mergeSort ?_ ?_ l
    · intro a b c hab hbc
      simp only [decide_eq_true_eq] at hab hbc ⊢
      omega
    · intro a b
      simp only [Bool.or_eq_true, decide_eq_true_eq]
      omega
  rw [List.pairwise_iff_forall_sublist] at hkeys h ⊢
  intro a b hab
  have hle : key a ≤ key b := by simpa using hkeys hab
  rcases Int.lt_or_eq_of_le hle with hlt | heq
  · exact Or.inl hlt
  · refine Or.inr ⟨heq, h ?_⟩
    have hsub := hab.filter fun c => decide (key c = key b)
    rw [filter_mergeSort] at hsub
    simp only [heq, decide_true, List.filter_cons_of_pos, List.filter_nil] at hsub
    exact hsub.trans List.filter_sublist

end Sorting

/-! ## The symbols of a file -/

/-- The entry of a stored symbol under its identifier. -/
lemma Numbered.lookup_eq_some_iff {r : Repository} (h : r.Numbered) {id : String}
    {e : Nat × Symbol} :
    ((r.sequenceOf.get? id).bind fun n => (r.symbols.get? n).map (n, ·)) = some e ↔
      e ∈ r.symbols.entries ∧ e.2.id = id := by
  rw [Option.bind_eq_some_iff]
  constructor
  · rintro ⟨n, hn, he⟩
    obtain ⟨s, hs, rfl⟩ := Option.map_eq_some_iff.1 he
    obtain ⟨t, ht, htid⟩ := h.sequenceOf_iff.1 hn
    rw [hs, Option.some.injEq] at ht
    exact ⟨OrderedMap.get?_eq_some_iff.1 hs, ht ▸ htid⟩
  · rintro ⟨he, rfl⟩
    refine ⟨e.1, h.sequenceOf_of_mem he, ?_⟩
    rw [OrderedMap.get?_eq_some_iff.2 he, Option.map_some]

namespace Consistent

variable {r : Repository}

/-- The identifiers listed for a file are pairwise distinct. -/
lemma nodup_idsIn (h : r.Consistent) (uri : Uri) : (r.idsIn uri).Nodup := by
  rw [idsIn]
  cases hids : r.byUri.get? uri with
  | none => exact List.nodup_nil
  | some ids => exact (h.listed hids).2

lemma nodup_entries (r : Repository) : r.symbols.entries.Nodup :=
  List.Nodup.of_map Prod.fst r.symbols.nodup_keys

/-- The index finds the entries of a file, in some order.

**Proof sketch.** Both lists are free of repetitions: in the index no identifier stands twice, and
an entry determines the identifier it was found by. They have the same members, since the index
lists exactly the identifiers of the symbols of the file. -/
lemma numberedIn_perm (h : r.Consistent) (uri : Uri) :
    (r.numberedIn uri).Perm (r.symbols.entries.filter fun e => decide (e.2.uri = uri)) := by
  refine (List.perm_ext_iff_of_nodup ?_ ((nodup_entries r).filter _)).2 fun e => ?_
  · refine List.Nodup.filterMap ?_ (h.nodup_idsIn uri)
    intro i j e hi hj
    rw [Option.mem_def, h.lookup_eq_some_iff] at hi hj
    exact hi.2.symm.trans hj.2
  · rw [numberedIn, List.mem_filterMap, List.mem_filter, decide_eq_true_eq]
    constructor
    · rintro ⟨id, hid, he⟩
      obtain ⟨hmem, rfl⟩ := h.lookup_eq_some_iff.1 he
      exact ⟨hmem, h.uri_eq_of_mem_idsIn (List.mem_map_of_mem hmem) hid⟩
    · rintro ⟨hmem, rfl⟩
      exact ⟨e.2.id, h.mem_idsIn_iff.2 ⟨e.2, List.mem_map_of_mem hmem, rfl, rfl⟩,
        h.lookup_eq_some_iff.2 ⟨hmem, rfl⟩⟩

/-- The entries stand in the order of their numbers. -/
lemma entries_ascending (h : r.Consistent) : r.symbols.entries.Pairwise fun a b => a.1 < b.1 :=
  List.pairwise_map.1 h.ascending

/-- The symbols of a file come out as they stand in the list of all symbols. -/
lemma symbolsIn_eq (h : r.Consistent) (uri : Uri) :
    r.symbolsIn uri = r.toList.filter fun s => decide (s.uri = uri) := by
  have hsort : sortBy (fun a b : Nat × Symbol => decide (a.1 < b.1)) (r.numberedIn uri) =
      r.symbols.entries.filter fun e => decide (e.2.uri = uri) := by
    refine sortBy_eq_of_perm ?_ ?_ (h.numberedIn_perm uri) ?_
    · intro a b hab
      simp only [decide_eq_true_eq, decide_eq_false_iff_not] at hab ⊢
      omega
    · intro a b c hab hbc
      simp only [decide_eq_true_eq] at hab hbc ⊢
      omega
    · exact (h.entries_ascending.filter _).imp fun hab => decide_eq_true hab
  rw [symbolsIn, hsort, toList, OrderedMap.values, List.filter_map]
  rfl

end Consistent

/-! ## The symbols around a point -/

/-- What is ranked of a numbered symbol, if it contains a point. -/
def hit? (p : Point) (e : Nat × Symbol) : Option Hit :=
  match e.2.range with
  | some range => if range.containsPoint p then some ⟨range.size, e.1, e.2⟩ else none
  | none => none

lemma hits_eq (r : Repository) (uri : Uri) (p : Point) :
    r.hits uri p = (r.numberedIn uri).filterMap (hit? p) := rfl

/-- A numbered symbol is ranked exactly if it contains the point, by its width and its number. -/
lemma hit?_eq (p : Point) (e : Nat × Symbol) :
    hit? p e = if e.2.containsPoint p then some ⟨e.2.width, e.1, e.2⟩ else none := by
  unfold hit? Symbol.containsPoint Symbol.width
  cases e.2.range with
  | none => rfl
  | some range => rfl

lemma Hit.before_asymm (a b : Hit) (h : a.before b = true) : b.before a = false := by
  simp only [Hit.before, Bool.or_eq_true, Bool.and_eq_true, decide_eq_true_eq, Bool.or_eq_false_iff,
    Bool.and_eq_false_iff, decide_eq_false_iff_not] at h ⊢
  omega

lemma Hit.before_trans (a b c : Hit) (hab : a.before b = true) (hbc : b.before c = true) :
    a.before c = true := by
  simp only [Hit.before, Bool.or_eq_true, Bool.and_eq_true, decide_eq_true_eq] at hab hbc ⊢
  omega

namespace Consistent

variable {r : Repository}

/-- The hits of a file, in the order of their numbers. -/
def orderedHits (r : Repository) (uri : Uri) (p : Point) : List Hit :=
  (r.symbols.entries.filter fun e => decide (e.2.uri = uri)).filterMap (hit? p)

lemma map_symbol_orderedHits (r : Repository) (uri : Uri) (p : Point) :
    (orderedHits r uri p).map Hit.symbol =
      r.toList.filter fun s => decide (s.uri = uri) && s.containsPoint p := by
  rw [orderedHits, toList, OrderedMap.values]
  induction r.symbols.entries with
  | nil => rfl
  | cons e es ih =>
    have he := hit?_eq p e
    by_cases huri : e.2.uri = uri <;> by_cases hp : e.2.containsPoint p = true <;>
      simp [huri, hp, he, ih]

/-- A hit carries the width of its symbol. -/
lemma size_of_mem_orderedHits {uri : Uri} {p : Point} {a : Hit} (ha : a ∈ orderedHits r uri p) :
    a.size = a.symbol.width := by
  obtain ⟨e, -, he⟩ := List.mem_filterMap.1 ha
  rw [hit?_eq] at he
  split at he
  · obtain rfl := Option.some.inj he
    rfl
  · cases he

lemma orderedHits_ascending (h : r.Consistent) (uri : Uri) (p : Point) :
    (orderedHits r uri p).Pairwise fun a b => a.sequence < b.sequence := by
  refine (h.entries_ascending.filter _).filterMap _ fun e f hef a ha b hb => ?_
  rw [hit?_eq] at ha hb
  split at ha <;> split at hb
  · obtain rfl := Option.some.inj ha
    obtain rfl := Option.some.inj hb
    exact hef
  · cases hb
  · cases ha
  · cases ha

/-- Whatever order the hits come in, they are ranked alike: the symbols around a point are those of
the list, newest first, in a stable sort by width.

**Proof sketch.** Reversing the hits that ascend by number puts the newest first; a stable sort of
them by width is then arranged strictly by `Hit.before`, so it is what sorting the hits in any order
gives. Symbols and hits have the same widths, so the sort commutes with taking the symbols out. -/
lemma sortBy_of_perm_hits (h : r.Consistent) (uri : Uri) (p : Point) {found : List Hit}
    (hfound : found.Perm (r.hits uri p)) :
    (sortBy Hit.before found).map Hit.symbol =
      (r.toList.filter fun s => decide (s.uri = uri) && s.containsPoint p).reverse.mergeSort
        fun s t => decide (s.width ≤ t.width) := by
  set ranked := (orderedHits r uri p).reverse.mergeSort fun a b => decide (a.size ≤ b.size)
    with hranked
  have hperm : found.Perm ranked := by
    rw [hits_eq] at hfound
    exact hfound.trans (((h.numberedIn_perm uri).filterMap _).trans
      ((List.mergeSort_perm _ _).trans (List.reverse_perm _)).symm)
  have hsorted : ranked.Pairwise fun a b => a.before b = true := by
    have hnewest : (orderedHits r uri p).reverse.Pairwise fun a b => b.sequence < a.sequence :=
      List.pairwise_reverse.2 (h.orderedHits_ascending uri p)
    refine (pairwise_mergeSort_key Hit.size hnewest).imp fun hab => ?_
    simpa [Hit.before] using hab
  have hwidth : ∀ a ∈ (orderedHits r uri p).reverse, ∀ b ∈ (orderedHits r uri p).reverse,
      decide (a.size ≤ b.size) = decide (a.symbol.width ≤ b.symbol.width) := by
    intro a ha b hb
    rw [size_of_mem_orderedHits (List.mem_reverse.1 ha),
      size_of_mem_orderedHits (List.mem_reverse.1 hb)]
  rw [sortBy_eq_of_perm Hit.before_asymm Hit.before_trans hperm hsorted, hranked,
    List.map_mergeSort (s := fun s t => decide (s.width ≤ t.width)) hwidth, List.map_reverse,
    map_symbol_orderedHits]

/-- The symbols around a point are those of the list, newest first, in a stable sort by width. -/
lemma search_eq (h : r.Consistent) (uri : Uri) (p : Point) :
    r.search uri p =
      (r.toList.filter fun s => decide (s.uri = uri) && s.containsPoint p).reverse.mergeSort
        fun s t => decide (s.width ≤ t.width) :=
  h.sortBy_of_perm_hits uri p (.refl _)

end Consistent

end Repository

end CodeIndex
