import CodeIndex.Proofs.Symbol.References

set_option relaxedAutoImplicit false
set_option autoImplicit false

/-!
# What references resolve to

A reference names a node of its tree, or it has nothing but a name; then, where names are resolved,
it means the node that declared the name last. Extraction looks the node up by its key and type, or
by its name, in the table of identifiers, and stores the identifier that it finds. This file says in
terms of the tree alone which node a reference means, and shows that a reference is stored with the
identifier of the symbol of that node, and without one only if it means no node.

## Main definitions

* `Node.DeclaresLast` — of the positioned nodes that declare a name, a node is the last one.
* `Extraction.Means` — a node of a tree is what a reference means.

## Main results

* `Extraction.isSome_idNamed?_iff`, `Extraction.idNamed?_of_declaresLast` — a name finds the node
  that declared it last.
* `Extraction.isSome_resolve_iff` — a reference resolves exactly if it means a node.
* `Extraction.exists_symbolOf?_of_means` — it resolves to the identifier of the symbol of that node.
-/

namespace CodeIndex

/-- Of the positioned nodes that declare a name, a node is the last one in pre-order. -/
def Node.DeclaresLast (root : Node) (name : String) (n : Node) : Prop :=
  ∃ before after, root.preorder.filter Node.positioned = before ++ n :: after ∧
    n.name = some name ∧ ∀ m ∈ after, m.name ≠ some name

lemma Node.DeclaresLast.mem {root n : Node} {name : String} (h : root.DeclaresLast name n) :
    n ∈ root.preorder.filter Node.positioned := by
  obtain ⟨before, after, hsplit, -⟩ := h
  rw [hsplit]
  exact List.mem_append_right _ List.mem_cons_self

namespace Extraction

/-- A node of a tree is what a reference means. -/
inductive Means (root : Node) (byName : Bool) (r : NamedReference) (n : Node) : Prop where
  /-- The reference names the node, which is positioned. -/
  | node (hn : n ∈ root.preorder) (hpos : n.positioned = true)
      (htarget : r.target = some (.node n.key n.type))
  /-- Names are resolved, the reference has nothing else, and the node declared the name last. -/
  | name {x : String} (hbyName : byName = true) (htarget : r.target = none)
      (hname : r.name = some x) (hlast : root.DeclaresLast x n)

variable {uri : Uri} {ids : IdScheme} {root : Node} {byName : Bool}

lemma Means.mem {r : NamedReference} {n : Node} (h : Means root byName r n) :
    n ∈ root.preorder ∧ n.positioned = true := by
  cases h with
  | node hn hpos _ => exact ⟨hn, hpos⟩
  | name _ _ _ hlast => exact List.mem_filter.1 hlast.mem

/-! ## Looking nodes up -/

/-- A key and a type are found exactly if a positioned node has them. -/
lemma isSome_idOf?_iff {key : Nat} {type : String} :
    (idOf? (assign uri ids root) key type).isSome = true ↔
      ∃ n ∈ root.preorder, n.positioned = true ∧ n.key = key ∧ n.type = type := by
  constructor
  · intro h
    obtain ⟨id, hid⟩ := Option.isSome_iff_exists.1 h
    obtain ⟨e, he, -, hkey, htype⟩ := exists_mem_of_idOf? hid
    have hmem : e.1 ∈ root.preorder.filter Node.positioned := by
      rw [← map_fst_assign uri ids]
      exact List.mem_map_of_mem he
    obtain ⟨hn, hpos⟩ := List.mem_filter.1 hmem
    exact ⟨e.1, hn, hpos, hkey, htype⟩
  · rintro ⟨n, hn, hpos, rfl, rfl⟩
    obtain ⟨span, hspan⟩ := Option.isSome_iff_exists.1 hpos
    obtain ⟨id, hid⟩ : ∃ id, symbolOf? uri (assign uri ids root) false n =
        some (symbolOf uri (assign uri ids root) false n span id) := exists_symbolOf? hn hspan
    rw [(symbolOf?_eq_some hid).2.2]
    rfl

/-- A name is found at the last entry whose node declares it. -/
lemma idNamed?_eq_some_iff {table : List (Node × String)} {name id : String} :
    idNamed? table name = some id ↔
      ∃ front n rest, table = front ++ (n, id) :: rest ∧ n.name = some name ∧
        ∀ e ∈ rest, e.1.name ≠ some name := by
  have hfind : idNamed? table name =
      (table.reverse.find? fun e => e.1.name == some name).map Prod.snd := rfl
  rw [hfind, Option.map_eq_some_iff]
  constructor
  · rintro ⟨⟨n, _⟩, he, rfl⟩
    obtain ⟨hname, behind, front, hsplit, hbehind⟩ := List.find?_eq_some_iff_append.1 he
    refine ⟨front.reverse, n, behind.reverse, ?_, by simpa using hname, fun e he => ?_⟩
    · rw [← List.reverse_reverse table, hsplit, List.reverse_append, List.reverse_cons,
        List.append_assoc, List.singleton_append]
    · simpa using hbehind e (List.mem_reverse.1 he)
  · rintro ⟨front, n, rest, rfl, hname, hrest⟩
    refine ⟨(n, id), List.find?_eq_some_iff_append.2 ⟨by simpa using hname, rest.reverse,
      front.reverse, ?_, fun e he => ?_⟩, rfl⟩
    · rw [List.reverse_append, List.reverse_cons, List.append_assoc, List.singleton_append]
    · simpa using hrest e (List.mem_reverse.1 he)

/-- The table is split where its nodes are. -/
lemma exists_split_assign (uri : Uri) (ids : IdScheme) {before after : List Node} {n : Node}
    (hsplit : root.preorder.filter Node.positioned = before ++ n :: after) :
    ∃ front id rest, assign uri ids root = front ++ (n, id) :: rest ∧
      rest.map Prod.fst = after := by
  rw [← map_fst_assign uri ids] at hsplit
  obtain ⟨front, behind, htable, -, hbehind⟩ := List.map_eq_append_iff.1 hsplit
  obtain ⟨⟨_, id⟩, rest, rfl, rfl, hrest⟩ := List.map_eq_cons_iff.1 hbehind
  exact ⟨front, id, rest, htable, hrest⟩

/-- A name is found exactly if a positioned node declares it. -/
lemma isSome_idNamed?_iff {name : String} :
    (idNamed? (assign uri ids root) name).isSome = true ↔ ∃ n, root.DeclaresLast name n := by
  rw [Option.isSome_iff_exists]
  constructor
  · rintro ⟨id, hid⟩
    obtain ⟨front, n, rest, htable, hname, hrest⟩ := idNamed?_eq_some_iff.1 hid
    refine ⟨n, front.map Prod.fst, rest.map Prod.fst, ?_, hname, fun m hm => ?_⟩
    · rw [← map_fst_assign uri ids, htable, List.map_append, List.map_cons]
    · obtain ⟨e, he, rfl⟩ := List.mem_map.1 hm
      exact hrest e he
  · rintro ⟨n, before, after, hsplit, hname, hafter⟩
    obtain ⟨front, id, rest, htable, rfl⟩ := exists_split_assign uri ids hsplit
    exact ⟨id, idNamed?_eq_some_iff.2 ⟨front, n, rest, htable, hname,
      fun e he => hafter e.1 (List.mem_map_of_mem he)⟩⟩

/-- A name finds the node that declared it last, if the nodes can be told apart: the identifier that
was given to the node is also found under its key and type. -/
lemma idNamed?_of_declaresLast (hnodes : root.Identified) {name : String} {n : Node}
    (h : root.DeclaresLast name n) :
    idNamed? (assign uri ids root) name = idOf? (assign uri ids root) n.key n.type := by
  obtain ⟨before, after, hsplit, hname, hafter⟩ := h
  -- the entry of the node has those of the later nodes behind it, and none of them has the name
  obtain ⟨front, id, rest, htable, rfl⟩ := exists_split_assign uri ids hsplit
  have hmem : (n, id) ∈ assign uri ids root := by
    rw [htable]
    exact List.mem_append_right _ List.mem_cons_self
  have hown : idOf? (assign uri ids root) n.key n.type = some id :=
    idOf?_of_mem (nodup_table uri ids hnodes) hmem
  rw [hown]
  exact idNamed?_eq_some_iff.2 ⟨front, n, rest, htable, hname,
    fun e he => hafter e.1 (List.mem_map_of_mem he)⟩

/-! ## Resolving references -/

/-- A reference resolves exactly if it means a node, unless the adapter supplies an identifier. -/
lemma isSome_resolve_iff (uri : Uri) (ids : IdScheme) {r : NamedReference}
    (hplain : ∀ id, r.target ≠ some (.identifier id)) :
    (resolve (assign uri ids root) byName r).isSome = true ↔ ∃ n, Means root byName r n := by
  cases htarget : r.target with
  | some target =>
    cases target with
    | identifier id => exact absurd htarget (hplain id)
    | node key type =>
      have hresolve : resolve (assign uri ids root) byName r =
          idOf? (assign uri ids root) key type := by rw [resolve, htarget]
      rw [hresolve, isSome_idOf?_iff]
      constructor
      · rintro ⟨n, hn, hpos, rfl, rfl⟩
        exact ⟨n, .node hn hpos htarget⟩
      · rintro ⟨n, ⟨hn, hpos, hnode⟩ | ⟨-, hnone, -, -⟩⟩
        · cases htarget.symm.trans hnode
          exact ⟨n, hn, hpos, rfl, rfl⟩
        · cases htarget.symm.trans hnone
  | none =>
    have hresolve : resolve (assign uri ids root) byName r =
        if byName then r.name.bind (idNamed? (assign uri ids root)) else none := by
      rw [resolve, htarget]
    rw [hresolve]
    constructor
    · intro h
      split at h
      · next hbyName =>
        obtain ⟨id, hid⟩ := Option.isSome_iff_exists.1 h
        obtain ⟨x, hname, hx⟩ := Option.bind_eq_some_iff.1 hid
        obtain ⟨n, hlast⟩ := isSome_idNamed?_iff.1 (Option.isSome_iff_exists.2 ⟨id, hx⟩)
        exact ⟨n, .name hbyName htarget hname hlast⟩
      · cases h
    · rintro ⟨n, ⟨-, -, hnode⟩ | ⟨hbyName, -, hname, hlast⟩⟩
      · cases htarget.symm.trans hnode
      · rw [if_pos hbyName, hname]
        exact isSome_idNamed?_iff.2 ⟨n, hlast⟩

/-- **A reference resolves to the identifier of the symbol of the node that it means**, if the nodes
can be told apart. -/
lemma exists_symbolOf?_of_means (uri : Uri) (ids : IdScheme) (hnodes : root.Identified)
    {r : NamedReference} {n : Node} (h : Means root byName r n) :
    ∃ t, symbolOf? uri (assign uri ids root) byName n = some t ∧
      resolve (assign uri ids root) byName r = some t.id := by
  obtain ⟨hn, hpos⟩ := h.mem
  obtain ⟨span, hspan⟩ := Option.isSome_iff_exists.1 hpos
  obtain ⟨id, hsymbol⟩ : ∃ id, symbolOf? uri (assign uri ids root) byName n =
      some (symbolOf uri (assign uri ids root) byName n span id) := exists_symbolOf? hn hspan
  refine ⟨_, hsymbol, ?_⟩
  have hown := (symbolOf?_eq_some hsymbol).2.2
  cases h with
  | node _ _ htarget => rw [resolve, htarget, ← hown]
  | name hbyName htarget hname hlast =>
    rw [resolve, htarget, hname, ← hown, ← idNamed?_of_declaresLast hnodes hlast, hbyName]
    rfl

end Extraction

end CodeIndex
