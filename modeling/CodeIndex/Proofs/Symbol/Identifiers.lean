import Mathlib.Data.List.Nodup
import CodeIndex.Proofs.Tree.Preorder
import CodeIndex.Symbol.Extraction

set_option relaxedAutoImplicit false
set_option autoImplicit false

/-!
# Identifiers of extracted symbols

A default identifier is the text of a file, followed by the four numbers of a range and, where two
nodes share a range, by a mark with the number of the node in the walk. The numbers can be read off
from the end, whatever characters the text of the file has, so an identifier belongs to one file
only, and a marked identifier is never the identifier of another node.

## Main definitions

* `Extraction.Positional` — the forms that a default identifier of a file can have.
* `Node.Identified` — no two nodes of a tree share both key and type.
* `Extraction.symbolOf?` — what extraction makes of one node.

## Main results

* `Extraction.Positional.uri_eq` — a default identifier belongs to one file.
* `Extraction.nodup_assign` — the default identifiers of a tree are pairwise distinct.
* `Extraction.key_eq_of_id_eq` — symbols of a tree with one default identifier are of one node.
* `Extraction.nodup_extract` — so are those of the symbols, if the nodes can be told apart.
-/

namespace CodeIndex

/-- Nodes are told apart by their key and their type: no two nodes of the tree share both. -/
def Node.Identified (root : Node) : Prop := (root.walk.map fun n => (n.key, n.type)).Nodup

namespace Extraction

/-! ## Reading numbers off the end of a text -/

/-- A number is written in decimal digits. -/
lemma toList_toString (n : Nat) : (toString n).toList = Nat.toDigits 10 n := Nat.toList_repr

lemma isDigit_of_mem_toString {n : Nat} {c : Char} (h : c ∈ (toString n).toList) :
    c.isDigit = true := by
  rw [toList_toString] at h
  exact Nat.isDigit_of_mem_toDigits (by decide) (by decide) h

/-- What stands in front of the digits at the end of a text is determined by the text. -/
lemma append_digits_inj {x y d e : List Char} {a b : Char} (hd : ∀ c ∈ d, c.isDigit = true)
    (he : ∀ c ∈ e, c.isDigit = true) (ha : a.isDigit = false) (hb : b.isDigit = false)
    (h : x ++ a :: d = y ++ b :: e) : x = y ∧ a = b ∧ d = e := by
  have hrev : d.reverse ++ a :: x.reverse = e.reverse ++ b :: y.reverse := by
    simpa using congrArg List.reverse h
  have hd' : ∀ c ∈ d.reverse, c.isDigit = true := fun c hc => hd c (List.mem_reverse.1 hc)
  have he' : ∀ c ∈ e.reverse, c.isDigit = true := fun c hc => he c (List.mem_reverse.1 hc)
  have htake := congrArg (List.takeWhile Char.isDigit) hrev
  have hdrop := congrArg (List.dropWhile Char.isDigit) hrev
  rw [List.takeWhile_append_of_pos hd', List.takeWhile_append_of_pos he',
    List.takeWhile_cons_of_neg (by simp [ha]), List.takeWhile_cons_of_neg (by simp [hb])] at htake
  rw [List.dropWhile_append_of_pos hd', List.dropWhile_append_of_pos he',
    List.dropWhile_cons_of_neg (by simp [ha]), List.dropWhile_cons_of_neg (by simp [hb]),
    List.cons.injEq, List.reverse_inj] at hdrop
  simp only [List.append_nil, List.reverse_inj] at htake
  exact ⟨hdrop.2, hdrop.1, htake⟩

/-- A text, a separator and a number can be read off their concatenation. -/
lemma append_number_inj {x y s t : String} {a b : Char} {m n : Nat} (hs : s.toList = [a])
    (ht : t.toList = [b]) (ha : a.isDigit = false) (hb : b.isDigit = false)
    (h : x ++ s ++ toString m = y ++ t ++ toString n) : x = y ∧ a = b ∧ m = n := by
  have hlist := congrArg String.toList h
  simp only [String.toList_append, hs, ht, List.append_assoc, List.cons_append,
    List.nil_append] at hlist
  obtain ⟨hx, hab, hmn⟩ := append_digits_inj (fun c hc => isDigit_of_mem_toString hc)
    (fun c hc => isDigit_of_mem_toString hc) ha hb hlist
  rw [toList_toString, toList_toString] at hmn
  have hnum := congrArg (Nat.ofDigitChars 10 · 0) hmn
  simp only [Nat.ofDigitChars_ten_toDigits] at hnum
  exact ⟨String.toList_inj.1 hx, hab, hnum⟩

/-! ## The forms of a default identifier -/

/-- The text of a file followed by the four numbers of a range. -/
def positionText (uri : Uri) (s : Span) : String :=
  uri.text ++ ":" ++ toString s.start.line.toNat ++ ":" ++ toString s.start.column.toNat ++ ":" ++
    toString s.stop.line.toNat ++ ":" ++ toString s.stop.column.toNat

/-- An identifier with the mark of a node number. -/
def marked (id : String) (ordinal : Nat) : String := id ++ "#" ++ toString ordinal

/-- The default identifier of a positioned node names its range. -/
lemma position_eq {uri : Uri} {n : Node} {ordinal : Nat} {s : Span} (h : n.span = some s) :
    IdScheme.position uri n ordinal = positionText uri s := by
  simp only [IdScheme.position, h, positionText]

lemma positionText_inj {u v : Uri} {s t : Span} (h : positionText u s = positionText v t) :
    u = v := by
  have hcolon : ":".toList = [':'] := rfl
  have hdigit : ':'.isDigit = false := rfl
  unfold positionText at h
  obtain ⟨h, -, -⟩ := append_number_inj hcolon hcolon hdigit hdigit h
  obtain ⟨h, -, -⟩ := append_number_inj hcolon hcolon hdigit hdigit h
  obtain ⟨h, -, -⟩ := append_number_inj hcolon hcolon hdigit hdigit h
  obtain ⟨h, -, -⟩ := append_number_inj hcolon hcolon hdigit hdigit h
  cases u
  cases v
  exact congrArg Uri.mk h

lemma marked_inj {i j : String} {m n : Nat} (h : marked i m = marked j n) : i = j ∧ m = n := by
  have hmark : "#".toList = ['#'] := rfl
  obtain ⟨hij, -, hmn⟩ := append_number_inj hmark hmark rfl rfl h
  exact ⟨hij, hmn⟩

/-- An identifier without a mark is not one with a mark: the digits at its end follow a colon. -/
lemma positionText_ne_marked (u : Uri) (s : Span) (i : String) (n : Nat) :
    positionText u s ≠ marked i n := by
  intro h
  have hcolon : ":".toList = [':'] := rfl
  have hmark : "#".toList = ['#'] := rfl
  obtain ⟨-, hne, -⟩ := append_number_inj hcolon hmark rfl rfl h
  exact absurd hne (by decide)

/-- The forms that a default identifier of a file can have when the walk has come to a node
number: the plain one, and the marked ones of earlier nodes. -/
def PositionalBelow (uri : Uri) (ordinal : Nat) (id : String) : Prop :=
  ∃ s, id = positionText uri s ∨ ∃ k < ordinal, id = marked (positionText uri s) k

/-- The forms that a default identifier of a file can have. -/
def Positional (uri : Uri) (id : String) : Prop := ∃ ordinal, PositionalBelow uri ordinal id

lemma PositionalBelow.mono {uri : Uri} {j k : Nat} {id : String} (h : PositionalBelow uri j id)
    (hjk : j ≤ k) : PositionalBelow uri k id := by
  obtain ⟨s, rfl | ⟨i, hi, rfl⟩⟩ := h
  · exact ⟨s, Or.inl rfl⟩
  · exact ⟨s, Or.inr ⟨i, by omega, rfl⟩⟩

/-- A default identifier belongs to one file, whatever the texts of the files are. -/
lemma Positional.uri_eq {u v : Uri} {id : String} (hu : Positional u id) (hv : Positional v id) :
    u = v := by
  obtain ⟨_, s, hs⟩ := hu
  obtain ⟨_, t, ht⟩ := hv
  rcases hs with rfl | ⟨j, -, rfl⟩ <;> rcases ht with ht | ⟨k, -, ht⟩
  · exact positionText_inj ht
  · exact absurd ht (positionText_ne_marked _ _ _ _)
  · exact absurd ht.symm (positionText_ne_marked _ _ _ _)
  · exact positionText_inj (marked_inj ht).1

/-! ## The table of identifiers -/

section Table

variable {uri : Uri} {ids : IdScheme} {taken : List String} {ordinal : Nat}

lemma assignFrom_cons_of_pos {n : Node} (ns : List Node) (h : n.positioned = true) :
    assignFrom uri ids taken ordinal (n :: ns) =
      (n, freshId taken (ids uri n ordinal) ordinal) ::
        assignFrom uri ids
          (ids uri n ordinal :: freshId taken (ids uri n ordinal) ordinal :: taken)
          (ordinal + 1) ns := by
  simp only [assignFrom, h, ↓reduceIte]

lemma assignFrom_cons_of_neg {n : Node} (ns : List Node) (h : n.positioned = false) :
    assignFrom uri ids taken ordinal (n :: ns) = assignFrom uri ids taken (ordinal + 1) ns := by
  simp only [assignFrom, h, Bool.false_eq_true, ↓reduceIte]

/-- The table lists the positioned nodes in order. -/
lemma map_fst_assignFrom (ns : List Node) :
    (assignFrom uri ids taken ordinal ns).map Prod.fst = ns.filter Node.positioned := by
  induction ns generalizing taken ordinal with
  | nil => rfl
  | cons n ns ih =>
    cases h : n.positioned with
    | true => rw [assignFrom_cons_of_pos ns h, List.map_cons, ih, List.filter_cons_of_pos h]
    | false =>
      rw [assignFrom_cons_of_neg ns h, ih, List.filter_cons_of_neg (by simp [h])]

/-- A default identifier that is made fresh is not in use and has one of the known forms. -/
lemma freshId_position {n : Node} (htaken : ∀ id ∈ taken, PositionalBelow uri ordinal id)
    (h : n.positioned = true) :
    freshId taken (IdScheme.position uri n ordinal) ordinal ∉ taken ∧
      PositionalBelow uri (ordinal + 1)
        (freshId taken (IdScheme.position uri n ordinal) ordinal) := by
  obtain ⟨s, hs⟩ := Option.isSome_iff_exists.1 h
  rw [position_eq hs]
  unfold freshId
  split
  · refine ⟨fun hmem => ?_, s, Or.inr ⟨ordinal, by omega, rfl⟩⟩
    -- the marks in use carry smaller numbers
    obtain ⟨t, ht | ⟨k, hk, ht⟩⟩ := htaken _ hmem
    · exact positionText_ne_marked _ _ _ _ ht.symm
    · have := (marked_inj ht).2
      omega
  · next hfree => exact ⟨by simpa using hfree, s, Or.inl rfl⟩

/-- Default identifiers are distinct from each other and from those in use, and have one of the
known forms.

**Proof sketch.** Induction on the nodes. The identifiers in use are plain, or marked with the
number of an earlier node; so a fresh identifier is either plain and not in use, or marked with a
number that no mark in use has. -/
lemma assignFrom_position (ns : List Node)
    (htaken : ∀ id ∈ taken, PositionalBelow uri ordinal id) :
    ((assignFrom uri .position taken ordinal ns).map Prod.snd).Nodup ∧
      ∀ e ∈ assignFrom uri .position taken ordinal ns, e.2 ∉ taken ∧ Positional uri e.2 := by
  induction ns generalizing taken ordinal with
  | nil => exact ⟨List.nodup_nil, fun e he => by cases he⟩
  | cons n ns ih =>
    cases h : n.positioned with
    | false =>
      rw [assignFrom_cons_of_neg ns h]
      exact ih fun id hid => (htaken id hid).mono (by omega)
    | true =>
      obtain ⟨hfree, hform⟩ := freshId_position htaken h
      set id := freshId taken (IdScheme.position uri n ordinal) ordinal with hid
      obtain ⟨s, hs⟩ := Option.isSome_iff_exists.1 h
      have htaken' : ∀ j ∈ IdScheme.position uri n ordinal :: id :: taken,
          PositionalBelow uri (ordinal + 1) j := by
        intro j hj
        rcases List.mem_cons.1 hj with rfl | hj
        · exact ⟨s, Or.inl (position_eq hs)⟩
        · rcases List.mem_cons.1 hj with rfl | hj
          · exact hform
          · exact (htaken j hj).mono (by omega)
      obtain ⟨hnodup, hrest⟩ := ih htaken'
      rw [assignFrom_cons_of_pos ns h]
      refine ⟨List.nodup_cons.2 ⟨fun hmem => ?_, hnodup⟩, ?_⟩
      · obtain ⟨e, he, heq⟩ := List.mem_map.1 hmem
        exact (hrest e he).1 (by simp [heq, hid])
      · intro e he
        rcases List.mem_cons.1 he with rfl | he
        · exact ⟨hfree, ordinal + 1, hform⟩
        · obtain ⟨hnot, hpos⟩ := hrest e he
          exact ⟨fun hmem => hnot (by simp [hmem]), hpos⟩

end Table

/-- The default identifiers of a tree are pairwise distinct. -/
lemma nodup_assign (uri : Uri) (root : Node) :
    ((assign uri .position root).map Prod.snd).Nodup :=
  (assignFrom_position root.walk (by simp)).1

/-- The default identifiers of a tree belong to its file. -/
lemma positional_of_mem_assign {uri : Uri} {root : Node} {e : Node × String}
    (he : e ∈ assign uri .position root) : Positional uri e.2 :=
  ((assignFrom_position root.walk (by simp)).2 e he).2

/-! ## Extracted symbols -/

section Symbols

variable {uri : Uri} {table : List (Node × String)} {byName : Bool}

/-- Adding references changes the fields of a symbol only. -/
lemma foldl_addReference (owner : Span) (refs : List NamedReference) (s : Symbol) :
    (refs.foldl (addReference table byName owner) s).id = s.id ∧
      (refs.foldl (addReference table byName owner) s).uri = s.uri ∧
      (refs.foldl (addReference table byName owner) s).range = s.range := by
  induction refs generalizing s with
  | nil => exact ⟨rfl, rfl, rfl⟩
  | cons r refs ih => exact ih (addReference table byName owner s r)

@[simp] lemma symbolOf_id (n : Node) (span : Span) (id : String) :
    (symbolOf uri table byName n span id).id = id :=
  (foldl_addReference span n.references _).1

@[simp] lemma symbolOf_uri (n : Node) (span : Span) (id : String) :
    (symbolOf uri table byName n span id).uri = uri :=
  (foldl_addReference span n.references _).2.1

@[simp] lemma symbolOf_range (n : Node) (span : Span) (id : String) :
    (symbolOf uri table byName n span id).range = some span :=
  (foldl_addReference span n.references _).2.2

/-- What extraction makes of one node, given the table of identifiers. -/
def symbolOf? (uri : Uri) (table : List (Node × String)) (byName : Bool) (n : Node) :
    Option Symbol :=
  match n.span, idOf? table n.key n.type with
  | some span, some id => some (symbolOf uri table byName n span id)
  | _, _ => none

lemma extract_eq (uri : Uri) (root : Node) (ids : IdScheme) (byName : Bool) :
    extract uri root ids byName =
      root.walk.filterMap (symbolOf? uri (assign uri ids root) byName) := rfl

/-- A node becomes a symbol of its file with the range of the node and an identifier out of the
table. -/
lemma symbolOf?_eq_some {n : Node} {s : Symbol} (h : symbolOf? uri table byName n = some s) :
    s.uri = uri ∧ s.range = n.span ∧ idOf? table n.key n.type = some s.id := by
  unfold symbolOf? at h
  split at h
  · next span id hspan hid =>
    obtain rfl := Option.some.inj h
    exact ⟨symbolOf_uri .., by rw [symbolOf_range, hspan], by rw [symbolOf_id, hid]⟩
  · cases h

/-- An identifier that is found in the table is that of a node with the key and the type. -/
lemma exists_mem_of_idOf? {key : Nat} {type id : String} (h : idOf? table key type = some id) :
    ∃ e ∈ table, e.2 = id ∧ e.1.key = key ∧ e.1.type = type := by
  obtain ⟨e, he, rfl⟩ := Option.map_eq_some_iff.1 h
  have hsame := List.find?_some he
  simp only [Bool.and_eq_true, beq_iff_eq] at hsame
  exact ⟨e, List.mem_of_find?_eq_some he, rfl, hsame⟩

/-- A node that can be told apart from the others finds its own identifier. -/
lemma idOf?_of_mem (htable : (table.map fun e => (e.1.key, e.1.type)).Nodup) {e : Node × String}
    (he : e ∈ table) : idOf? table e.1.key e.1.type = some e.2 := by
  have hidOf : idOf? table e.1.key e.1.type =
      (table.find? fun f => f.1.key == e.1.key && f.1.type == e.1.type).map Prod.snd := rfl
  rw [hidOf]
  cases hfind : table.find? fun f => f.1.key == e.1.key && f.1.type == e.1.type with
  | none =>
    have hne := List.find?_eq_none.1 hfind e he
    simp at hne
  | some f =>
    have hmem := List.mem_of_find?_eq_some hfind
    have hkey := List.find?_some hfind
    simp only [Bool.and_eq_true, beq_iff_eq] at hkey
    rw [Option.map_some, List.inj_on_of_nodup_map htable hmem he (Prod.ext hkey.1 hkey.2)]

/-- The table lists the positioned nodes of the tree, in pre-order. -/
lemma map_fst_assign (uri : Uri) (ids : IdScheme) (root : Node) :
    (assign uri ids root).map Prod.fst = root.preorder.filter Node.positioned := by
  rw [assign, map_fst_assignFrom, Node.walk_eq_preorder]

/-- The table has the keys and types of the positioned nodes. -/
lemma map_key_assign (uri : Uri) (ids : IdScheme) (root : Node) :
    (assign uri ids root).map (fun e => (e.1.key, e.1.type)) =
      (root.preorder.filter Node.positioned).map fun n => (n.key, n.type) := by
  rw [← map_fst_assign uri ids, List.map_map]
  rfl

/-- The nodes of the table can be told apart if those of the tree can. -/
lemma nodup_table (uri : Uri) (ids : IdScheme) {root : Node} (h : root.Identified) :
    ((assign uri ids root).map fun e => (e.1.key, e.1.type)).Nodup := by
  rw [map_key_assign, ← Node.walk_eq_preorder]
  exact h.sublist (List.filter_sublist.map _)

/-- Every positioned node of a tree has a symbol. -/
lemma exists_symbolOf? {ids : IdScheme} {root n : Node} (hn : n ∈ root.preorder) {span : Span}
    (hspan : n.span = some span) :
    ∃ id, symbolOf? uri (assign uri ids root) byName n =
      some (symbolOf uri (assign uri ids root) byName n span id) := by
  have hmem : n ∈ (assign uri ids root).map Prod.fst := by
    rw [map_fst_assign]
    exact List.mem_filter.2 ⟨hn, by rw [Node.positioned, hspan, Option.isSome_some]⟩
  obtain ⟨e, he, rfl⟩ := List.mem_map.1 hmem
  cases hid : idOf? (assign uri ids root) e.1.key e.1.type with
  | none =>
    have hne := List.find?_eq_none.1 (Option.map_eq_none_iff.1 hid) e he
    simp at hne
  | some id => exact ⟨id, by rw [symbolOf?, hspan, hid]⟩

/-- The positioned ones among some nodes of a tree have one symbol each, in order. -/
lemma forall₂_symbolOf? {ids : IdScheme} {root : Node} (ns : List Node)
    (hns : ∀ n ∈ ns, n ∈ root.preorder) :
    List.Forall₂ (fun n s => symbolOf? uri (assign uri ids root) byName n = some s)
      (ns.filter Node.positioned)
      (ns.filterMap (symbolOf? uri (assign uri ids root) byName)) := by
  induction ns with
  | nil => exact .nil
  | cons n ns ih =>
    have hrest := ih fun m hm => hns m (List.mem_cons_of_mem _ hm)
    cases hspan : n.span with
    | none =>
      rw [List.filter_cons_of_neg (by simp [Node.positioned, hspan]),
        List.filterMap_cons_none (by simp [symbolOf?, hspan])]
      exact hrest
    | some span =>
      obtain ⟨id, hid⟩ : ∃ id, symbolOf? uri (assign uri ids root) byName n =
          some (symbolOf uri (assign uri ids root) byName n span id) :=
        exists_symbolOf? (hns n List.mem_cons_self) hspan
      rw [List.filter_cons_of_pos (by simp [Node.positioned, hspan]),
        List.filterMap_cons_some hid]
      exact .cons hid hrest

end Symbols

/-- The positioned nodes of a tree have one symbol each, in pre-order. -/
lemma forall₂_extract (uri : Uri) (root : Node) (ids : IdScheme) (byName : Bool) :
    List.Forall₂ (fun n s => symbolOf? uri (assign uri ids root) byName n = some s)
      (root.preorder.filter Node.positioned) (extract uri root ids byName) := by
  rw [extract_eq, Node.walk_eq_preorder]
  exact forall₂_symbolOf? root.preorder fun _ hn => hn

/-- The identifier of a symbol is what the table has for the key and the type of its node. -/
lemma map_id_extract (uri : Uri) (root : Node) (ids : IdScheme) (byName : Bool) :
    ((extract uri root ids byName).map Symbol.id).map some =
      ((assign uri ids root).map fun e => (e.1.key, e.1.type)).map fun key =>
        idOf? (assign uri ids root) key.1 key.2 := by
  rw [map_key_assign, List.map_map, List.map_map, ← List.forall₂_eq_eq_eq,
    List.forall₂_map_left_iff, List.forall₂_map_right_iff]
  exact (forall₂_extract uri root ids byName).flip.imp fun s n h =>
    (symbolOf?_eq_some h).2.2.symm

/-- The symbols carry the identifiers that their nodes were given, if the positioned nodes can be
told apart. -/
lemma map_id_extract_of_nodup {uri : Uri} {root : Node} {ids : IdScheme} (byName : Bool)
    (h : ((assign uri ids root).map fun e => (e.1.key, e.1.type)).Nodup) :
    (extract uri root ids byName).map Symbol.id = (assign uri ids root).map Prod.snd := by
  refine List.map_injective_iff.2 (fun _ _ => Option.some.inj) ?_
  rw [map_id_extract, List.map_map, List.map_map]
  exact List.map_congr_left fun e he => idOf?_of_mem h he

/-- The symbols of a tree belong to its file. -/
lemma uri_of_mem_extract {uri : Uri} {root : Node} {ids : IdScheme} {byName : Bool} {s : Symbol}
    (h : s ∈ extract uri root ids byName) : s.uri = uri := by
  obtain ⟨n, -, hn⟩ := List.mem_filterMap.1 h
  exact (symbolOf?_eq_some hn).1

/-- With default identifiers, the identifier of a symbol belongs to the file as well. -/
lemma positional_of_symbolOf? {uri : Uri} {root n : Node} {byName : Bool} {s : Symbol}
    (h : symbolOf? uri (assign uri .position root) byName n = some s) : Positional uri s.id := by
  obtain ⟨e, he, heq, -⟩ := exists_mem_of_idOf? (symbolOf?_eq_some h).2.2
  rw [← heq]
  exact positional_of_mem_assign he

/-- With default identifiers, the identifiers of the symbols of a tree belong to the file. -/
lemma positional_of_mem_extract {uri : Uri} {root : Node} {byName : Bool} {s : Symbol}
    (h : s ∈ extract uri root .position byName) : Positional uri s.id := by
  obtain ⟨n, -, hn⟩ := List.mem_filterMap.1 h
  exact positional_of_symbolOf? hn

/-- Within a tree, a default identifier is given to one node. -/
lemma number_eq_of_id_eq {uri : Uri} {root : Node} {i j : Nat} {e f : Node × String}
    (he : (assign uri .position root)[i]? = some e) (hf : (assign uri .position root)[j]? = some f)
    (hid : e.2 = f.2) : i = j := by
  have hi : ((assign uri .position root).map Prod.snd)[i]? = some e.2 := by
    rw [List.getElem?_map, he, Option.map_some]
  have hj : ((assign uri .position root).map Prod.snd)[j]? = some f.2 := by
    rw [List.getElem?_map, hf, Option.map_some]
  exact (List.getElem?_inj (List.getElem?_eq_some_iff.1 hi).1 (nodup_assign uri root)).1
    (hi.trans (hid ▸ hj.symm))

/-- With default identifiers, two symbols of a tree with one identifier come from nodes with one key
and one type. -/
lemma key_eq_of_id_eq {uri : Uri} {root m n : Node} {byName byName' : Bool} {s t : Symbol}
    (hs : symbolOf? uri (assign uri .position root) byName m = some s)
    (ht : symbolOf? uri (assign uri .position root) byName' n = some t) (hid : s.id = t.id) :
    m.key = n.key ∧ m.type = n.type := by
  obtain ⟨e, he, heid, hekey, hetype⟩ := exists_mem_of_idOf? (symbolOf?_eq_some hs).2.2
  obtain ⟨f, hf, hfid, hfkey, hftype⟩ := exists_mem_of_idOf? (symbolOf?_eq_some ht).2.2
  have hsame : e = f :=
    List.inj_on_of_nodup_map (nodup_assign uri root) he hf (by rw [heid, hfid, hid])
  subst hsame
  exact ⟨hekey.symm.trans hfkey, hetype.symm.trans hftype⟩

/-- With default identifiers, the identifiers of the symbols of a tree are pairwise distinct, if
its nodes can be told apart. -/
lemma nodup_extract {uri : Uri} {root : Node} (byName : Bool) (h : root.Identified) :
    ((extract uri root .position byName).map Symbol.id).Nodup := by
  rw [map_id_extract_of_nodup byName (nodup_table uri .position h)]
  exact nodup_assign uri root

end Extraction

end CodeIndex
