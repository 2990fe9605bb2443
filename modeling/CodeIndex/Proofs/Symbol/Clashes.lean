import CodeIndex.Proofs.Symbol.Identifiers

set_option relaxedAutoImplicit false
set_option autoImplicit false

/-!
# Identifiers that clash

A scheme may wish the same identifier for several nodes of a tree. The later ones are then marked
with their number in the walk. Nobody looks whether the marked identifier is in use as well, and it
can be: an earlier node may have been given it because the scheme wished it. This file shows that
there is no other way in which two nodes that can be told apart end up with one identifier.

## Main definitions

* `Extraction.wish?` — the identifier that the scheme wishes for a node of a walk.
* `Extraction.given` — the identifiers of the nodes in front of a number.
* `Extraction.MarkFails` — a mark makes a node look like an earlier one.
* `Extraction.ToldApart` — the nodes of a tree can be told apart, and no mark fails.

## Main results

* `Extraction.nodup_given_iff` — the identifiers of a walk are distinct exactly if no mark fails.
* `Extraction.nodup_extract_iff` — so are those of the symbols of a tree.
-/

namespace CodeIndex

namespace Extraction

variable {uri : Uri} {ids : IdScheme} {walk : List Node}

/-! ## Wishes -/

/-- The identifier that the scheme wishes for the node with a number in a walk, if the node is
positioned. -/
def wish? (uri : Uri) (ids : IdScheme) (walk : List Node) (k : Nat) : Option String :=
  (walk[k]?.filter Node.positioned).map fun n => ids uri n k

/-- The identifiers of the nodes in front of a number. -/
def given (uri : Uri) (ids : IdScheme) (walk : List Node) (k : Nat) : List String :=
  (assignFrom uri ids [] 0 (walk.take k)).map Prod.snd

/-- The mark of a node fails: what the scheme wishes for the node is in use, and what it is marked
as was wished for an earlier node. -/
def MarkFails (uri : Uri) (ids : IdScheme) (walk : List Node) (k : Nat) : Prop :=
  ∃ id, wish? uri ids walk k = some id ∧ id ∈ given uri ids walk k ∧
    ∃ j < k, wish? uri ids walk j = some (marked id k)

/-- A wish is granted, unless the identifier is in use. -/
lemma mem_or_freshId_eq (taken : List String) (id : String) (k : Nat) :
    id ∈ taken ∨ freshId taken id k = id := by
  unfold freshId
  split
  · next hused => exact Or.inl (by simpa using hused)
  · exact Or.inr rfl

/-- A node is given a marked form of what it wishes for, or that itself. -/
lemma freshId_cases (taken : List String) (id : String) (k : Nat) :
    freshId taken id k = marked id k ∨ freshId taken id k = id := by
  unfold freshId
  split
  · exact Or.inl rfl
  · exact Or.inr rfl

/-- An identifier that is meant to be fresh is in use exactly if the wish and its mark both are. -/
lemma freshId_mem_iff {taken : List String} {id : String} {k : Nat} :
    freshId taken id k ∈ taken ↔ id ∈ taken ∧ marked id k ∈ taken := by
  unfold freshId marked
  split
  · next hused =>
    have hmem : id ∈ taken := by simpa using hused
    simp only [hmem, true_and]
  · next hfree =>
    have hnot : id ∉ taken := by simpa using hfree
    simp only [hnot, false_and]

/-- Whether an identifier is fresh depends on which ones are in use, not on their order. -/
lemma freshId_congr {taken taken' : List String} (h : ∀ id, id ∈ taken ↔ id ∈ taken')
    (id : String) (k : Nat) : freshId taken id k = freshId taken' id k := by
  have hcontains : taken.contains id = taken'.contains id := by
    rw [Bool.eq_iff_iff, List.contains_iff_mem, List.contains_iff_mem, h]
  rw [freshId, freshId, hcontains]

/-! ## The identifiers along a walk -/

/-- In the middle of a walk, the identifiers in use are those at the start and those given since:
whatever was wished and not granted was in use before. -/
lemma exists_taken (taken : List String) (k : Nat) (ms : List Node) :
    ∃ taken', (∀ id, id ∈ taken' ↔
        id ∈ taken ∨ id ∈ (assignFrom uri ids taken k ms).map Prod.snd) ∧
      ∀ ns, assignFrom uri ids taken k (ms ++ ns) =
        assignFrom uri ids taken k ms ++ assignFrom uri ids taken' (k + ms.length) ns := by
  induction ms generalizing taken k with
  | nil => exact ⟨taken, by simp [assignFrom], fun ns => rfl⟩
  | cons m ms ih =>
    have hlength : k + 1 + ms.length = k + (m :: ms).length := by
      rw [List.length_cons]
      omega
    cases hm : m.positioned with
    | false =>
      obtain ⟨taken', hmem, hrest⟩ := ih taken (k + 1)
      refine ⟨taken', fun id => ?_, fun ns => ?_⟩
      · rw [assignFrom_cons_of_neg ms hm, hmem]
      · rw [List.cons_append, assignFrom_cons_of_neg _ hm, assignFrom_cons_of_neg ms hm, hrest,
          hlength]
    | true =>
      set id := freshId taken (ids uri m k) k with hid
      obtain ⟨taken', hmem, hrest⟩ := ih (ids uri m k :: id :: taken) (k + 1)
      refine ⟨taken', fun j => ?_, fun ns => ?_⟩
      · rw [assignFrom_cons_of_pos ms hm, hmem, List.map_cons, List.mem_cons, List.mem_cons,
          List.mem_cons, ← hid]
        rcases mem_or_freshId_eq taken (ids uri m k) k with hused | hgranted
        · constructor
          · rintro ((rfl | rfl | hj) | hj)
            · exact Or.inl hused
            · exact Or.inr (Or.inl rfl)
            · exact Or.inl hj
            · exact Or.inr (Or.inr hj)
          · rintro (hj | rfl | hj)
            · exact Or.inl (Or.inr (Or.inr hj))
            · exact Or.inl (Or.inr (Or.inl rfl))
            · exact Or.inr hj
        · rw [← hid] at hgranted
          rw [hgranted]
          tauto
      · rw [List.cons_append, assignFrom_cons_of_pos _ hm, assignFrom_cons_of_pos ms hm, hrest,
          hlength, List.cons_append]

/-- The next positioned node of a walk is given what it wishes for, or a marked form of it. -/
lemma given_succ (k : Nat) :
    given uri ids walk (k + 1) = given uri ids walk k ++
      ((wish? uri ids walk k).map fun id => freshId (given uri ids walk k) id k).toList := by
  unfold given wish?
  rw [List.take_add_one]
  cases hn : walk[k]? with
  | none => simp
  | some n =>
    have hlength : (walk.take k).length = k := by
      have := (List.getElem?_eq_some_iff.1 hn).1
      rw [List.length_take]
      omega
    obtain ⟨taken', hmem, hrest⟩ := exists_taken [] 0 (walk.take k)
    rw [Option.toList_some, hrest, List.map_append, hlength, Nat.zero_add]
    refine congrArg (_ ++ ·) ?_
    cases hpos : n.positioned with
    | false =>
      rw [assignFrom_cons_of_neg [] hpos, Option.filter_some, hpos]
      rfl
    | true =>
      have hfresh : freshId taken' (ids uri n k) k =
          freshId ((assignFrom uri ids [] 0 (walk.take k)).map Prod.snd) (ids uri n k) k :=
        freshId_congr (fun id => (hmem id).trans (by simp)) _ _
      rw [assignFrom_cons_of_pos [] hpos, Option.filter_some, hpos, hfresh]
      rfl

/-- Every wish is in use behind the node. -/
lemma mem_given_of_wish {j k : Nat} {id : String} (h : wish? uri ids walk j = some id)
    (hjk : j < k) : id ∈ given uri ids walk k := by
  induction k with
  | zero => omega
  | succ k ih =>
    rw [given_succ, List.mem_append]
    rcases Nat.lt_succ_iff_lt_or_eq.1 hjk with hbefore | rfl
    · exact Or.inl (ih hbefore)
    · rw [h, Option.map_some, Option.toList_some, List.mem_singleton]
      exact (mem_or_freshId_eq _ id j).imp_right Eq.symm

/-- The marked form of an identifier with a number that is still to come is in use only if it was
wished: marks carry the numbers of their own nodes. -/
lemma exists_wish_of_mem_given {m k : Nat} {id : String} (h : marked id m ∈ given uri ids walk k)
    (hkm : k ≤ m) : ∃ j < k, wish? uri ids walk j = some (marked id m) := by
  induction k with
  | zero => cases h
  | succ k ih =>
    rw [given_succ, List.mem_append] at h
    rcases h with hbefore | hlast
    · obtain ⟨j, hj, hwish⟩ := ih hbefore (by omega)
      exact ⟨j, by omega, hwish⟩
    · rw [Option.mem_toList, Option.map_eq_some_iff] at hlast
      obtain ⟨wished, hwish, heq⟩ := hlast
      rcases freshId_cases (given uri ids walk k) wished k with hmark | hplain
      · have := (marked_inj (hmark.symm.trans heq)).2
        omega
      · exact ⟨k, by omega, by rw [hwish, ← heq, hplain]⟩

/-- **The identifiers of a walk are distinct exactly if no mark fails.**

**Proof sketch.** Induction on the number of nodes. The identifier of the next node is in use
exactly if its wish and the marked form of the wish both are. No node is marked with the number of
another one, so the marked form is in use only if it was wished. -/
lemma nodup_given_iff (k : Nat) :
    (given uri ids walk k).Nodup ↔ ∀ i < k, ¬ MarkFails uri ids walk i := by
  induction k with
  | zero => simp [given, assignFrom]
  | succ k ih =>
    have hnext : (∀ a ∈ given uri ids walk k, ∀ b ∈ ((wish? uri ids walk k).map fun id =>
        freshId (given uri ids walk k) id k).toList, a ≠ b) ↔ ¬ MarkFails uri ids walk k := by
      constructor
      · rintro hnew ⟨id, hwish, hused, j, hj, hmark⟩
        have hmem := freshId_mem_iff.2 ⟨hused, mem_given_of_wish hmark hj⟩
        exact hnew _ hmem _ (by rw [hwish, Option.map_some, Option.mem_toList]) rfl
      · rintro hholds a ha b hb rfl
        rw [Option.mem_toList, Option.map_eq_some_iff] at hb
        obtain ⟨id, hwish, rfl⟩ := hb
        obtain ⟨hused, hmark⟩ := freshId_mem_iff.1 ha
        exact hholds ⟨id, hwish, hused, exists_wish_of_mem_given hmark (Nat.le_refl k)⟩
    rw [given_succ, List.nodup_append, ih, hnext]
    constructor
    · rintro ⟨hbefore, -, hlast⟩ i hi
      rcases Nat.lt_succ_iff_lt_or_eq.1 hi with hik | rfl
      · exact hbefore i hik
      · exact hlast
    · intro hall
      refine ⟨fun i hi => hall i (by omega), ?_, hall k (by omega)⟩
      cases wish? uri ids walk k <;> simp

/-! ## The identifiers of a tree -/

/-- The positioned nodes of a tree can be told apart, and no mark fails in its walk. -/
structure ToldApart (uri : Uri) (ids : IdScheme) (root : Node) : Prop where
  nodes : ((root.preorder.filter Node.positioned).map fun n => (n.key, n.type)).Nodup
  marks : ∀ k, ¬ MarkFails uri ids root.preorder k

/-- With default identifiers no mark fails: none of them is wished in a marked form. -/
lemma not_markFails_position (uri : Uri) (walk : List Node) (k : Nat) :
    ¬ MarkFails uri .position walk k := by
  rintro ⟨id, -, -, j, -, hwish⟩
  obtain ⟨n, hn, heq⟩ := Option.map_eq_some_iff.1 hwish
  obtain ⟨span, hspan⟩ := Option.isSome_iff_exists.1 (Option.filter_eq_some_iff.1 hn).2
  rw [position_eq hspan] at heq
  exact positionText_ne_marked uri span id k heq

/-- With default identifiers, nodes that differ in key or type are told apart. -/
lemma toldApart_position (uri : Uri) {root : Node} (h : root.Identified) :
    ToldApart uri .position root where
  nodes := by
    rw [← Node.walk_eq_preorder]
    exact h.sublist (List.filter_sublist.map _)
  marks := not_markFails_position uri root.preorder

/-- The table has the identifiers of the whole walk. -/
lemma map_snd_assign (uri : Uri) (ids : IdScheme) (root : Node) :
    (assign uri ids root).map Prod.snd = given uri ids root.preorder root.preorder.length := by
  rw [given, List.take_length, assign, Node.walk_eq_preorder]

/-- Behind the end of a walk there is no mark to fail. -/
lemma lt_length_of_markFails {k : Nat} (h : MarkFails uri ids walk k) : k < walk.length := by
  obtain ⟨id, hwish, -⟩ := h
  by_contra hbehind
  rw [wish?, List.getElem?_eq_none (by omega)] at hwish
  cases hwish

/-- **The identifiers of the symbols of a tree are distinct exactly if its nodes can be told apart
and no mark fails**, whatever the scheme is. -/
lemma nodup_extract_iff (byName : Bool) {root : Node} :
    ((extract uri root ids byName).map Symbol.id).Nodup ↔ ToldApart uri ids root := by
  constructor
  · intro h
    have hnodes : ((assign uri ids root).map fun e => (e.1.key, e.1.type)).Nodup := by
      have hsome := h.map fun _ _ => Option.some.inj
      rw [map_id_extract] at hsome
      exact .of_map _ hsome
    rw [map_id_extract_of_nodup byName hnodes, map_snd_assign, nodup_given_iff] at h
    rw [map_key_assign] at hnodes
    exact ⟨hnodes, fun k hk => h k (lt_length_of_markFails hk) hk⟩
  · intro h
    have hnodes := h.nodes
    rw [← map_key_assign uri ids] at hnodes
    rw [map_id_extract_of_nodup byName hnodes, map_snd_assign, nodup_given_iff]
    exact fun i _ => h.marks i

end Extraction

end CodeIndex
