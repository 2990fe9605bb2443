import CodeIndex.Proofs.Symbol.References

set_option relaxedAutoImplicit false
set_option autoImplicit false

/-!
# What a symbol records of its node

A symbol says where its node stands, what it is called and of which type it is, and it has a field
for every reference of the node. Fields are kept under keys, and a key that is given twice loses its
first value; so nothing is lost only if every reference finds a key of its own, however the slots of
the references are named. This file says what the fields of a symbol are, and that a tree has one
such symbol for each positioned node.

## Main definitions

* `Extraction.FirstFree` — the key that a slot gets next to some that are taken.
* `Extraction.Appended` — one field for every reference, in order, each under the first free key.
* `Extraction.Describes` — a symbol records everything of its node.

## Main results

* `Extraction.firstFree_freeKey` — the search for a free key ends with the first one.
* `Extraction.appended_foldl` — adding references appends one field for each.
* `Extraction.describes_extract` — every positioned node has one symbol, which describes it.
-/

namespace CodeIndex

namespace Extraction

/-! ## Keys of fields -/

/-- The key that a slot gets next to some that are taken: its own name if that is free, otherwise
the first of its numbered variants that is. -/
structure FirstFree (taken : List String) (slot key : String) : Prop where
  free : key ∉ taken
  plain : slot ∉ taken → key = slot
  numbered : slot ∈ taken → ∃ n, key = slot ++ "." ++ toString (n + 1) ∧
    ∀ m < n, slot ++ "." ++ toString (m + 1) ∈ taken

/-- A search among as many numbers as there are fields finds what a search among all numbers would
find: the first one that is free. -/
lemma firstFree_freeKey (fields : OrderedMap String FieldValue) (slot : String) :
    FirstFree fields.keys slot (freeKey fields slot) where
  free := freeKey_notMem fields slot
  plain h := by
    have hunused : fields.contains slot = false := by
      rwa [← Bool.not_eq_true, OrderedMap.contains_eq_true_iff]
    rw [freeKey, hunused, if_neg Bool.false_ne_true]
  numbered h := by
    obtain ⟨k, hk, hfree⟩ := exists_free fields slot
    obtain ⟨n, hn, rfl⟩ := List.mem_map.1 hk
    cases hfind : (List.range (fields.size + 1)).find?
        ((fun k => !fields.contains k) ∘ fun n => slot ++ "." ++ toString (n + 1)) with
    | none =>
      have hused := List.find?_eq_none.1 hfind n hn
      rw [Function.comp_apply, Bool.not_eq_true', Bool.not_eq_false,
        OrderedMap.contains_eq_true_iff] at hused
      exact absurd hused hfree
    | some i =>
      refine ⟨i, ?_, fun m hm => ?_⟩
      · rw [freeKey, OrderedMap.contains_eq_true_iff.2 h, if_pos rfl, List.find?_map, hfind]
        rfl
      · have hbefore := (List.find?_range_eq_some.1 hfind).2.2 m hm
        simpa [OrderedMap.contains_eq_true_iff] using hbefore

/-! ## Fields of references -/

/-- What is recorded of a reference: its name, what it resolves to, and its range as long as that
lies inside the range of the owner. -/
structure Records (table : List (Node × String)) (byName : Bool) (owner : Span)
    (r : NamedReference) (ref : Reference) : Prop where
  name : ref.name = r.name
  target : ref.target = resolve table byName r
  occurrence : ∀ o, ref.occurrence = some o ↔ r.span = some o ∧ owner.containsSpan o = true

/-- One field for every reference, in order, each under the first key that is free by then. -/
inductive Appended (table : List (Node × String)) (byName : Bool) (owner : Span) :
    List String → List NamedReference → List (String × FieldValue) → Prop where
  | nil (taken : List String) : Appended table byName owner taken [] []
  | cons {taken : List String} {r : NamedReference} {refs : List NamedReference} {key : String}
      {ref : Reference} {fields : List (String × FieldValue)}
      (hkey : FirstFree taken r.field key) (href : Records table byName owner r ref)
      (hrest : Appended table byName owner (taken ++ [key]) refs fields) :
      Appended table byName owner taken (r :: refs) ((key, .reference ref) :: fields)

variable {uri : Uri} {table : List (Node × String)} {byName : Bool}

/-- What is stored of a reference records it. -/
lemma records_storedReference (owner : Span) (r : NamedReference) :
    Records table byName owner r (storedReference table byName owner r) where
  name := rfl
  target := rfl
  occurrence _ := Option.filter_eq_some_iff

/-- Adding references appends one field for each. -/
lemma appended_foldl (owner : Span) (refs : List NamedReference) (s : Symbol) :
    ∃ fields, (refs.foldl (addReference table byName owner) s).fields.entries =
        s.fields.entries ++ fields ∧
      Appended table byName owner s.fields.keys refs fields := by
  induction refs generalizing s with
  | nil => exact ⟨[], (List.append_nil _).symm, .nil _⟩
  | cons r refs ih =>
    obtain ⟨fields, hentries, hrest⟩ := ih (addReference table byName owner s r)
    have hkeys : (addReference table byName owner s r).fields.keys =
        s.fields.keys ++ [freeKey s.fields r.field] := by
      rw [OrderedMap.keys, entries_addReference, List.map_append]
      rfl
    rw [hkeys] at hrest
    refine ⟨_, ?_, .cons (firstFree_freeKey s.fields r.field) (records_storedReference owner r)
      hrest⟩
    rw [List.foldl_cons, hentries, entries_addReference, List.append_assoc, List.singleton_append]

/-! ## Symbols of nodes -/

/-- A symbol records everything of its node. -/
structure Describes (uri : Uri) (table : List (Node × String)) (byName : Bool) (n : Node)
    (s : Symbol) : Prop where
  uri_eq : s.uri = uri
  range_eq : s.range = n.span
  /-- First come the file, the name, for which the identifier stands in, and the type; then one
  field for each reference. -/
  fields : ∃ owner references, n.span = some owner ∧
    s.fields.entries = (Symbol.uriField, .text uri.text) ::
      (Symbol.nameField, .text (n.name.getD s.id)) :: (Symbol.typeField, .text n.type) ::
        references ∧
    Appended table byName owner [Symbol.uriField, Symbol.nameField, Symbol.typeField]
      n.references references
  /-- No key stands for two fields. -/
  nodup_keys : s.fields.keys.Nodup

/-- The name that is looked up is that of the node, or the identifier. -/
lemma Describes.name?_eq {n : Node} {s : Symbol} (h : Describes uri table byName n s) :
    s.name? = some (n.name.getD s.id) := by
  obtain ⟨_, _, -, hentries, -⟩ := h.fields
  rw [Symbol.name?, OrderedMap.get?, hentries]
  rfl

/-- The type that is looked up is that of the node. -/
lemma Describes.type?_eq {n : Node} {s : Symbol} (h : Describes uri table byName n s) :
    s.type? = some n.type := by
  obtain ⟨_, _, -, hentries, -⟩ := h.fields
  rw [Symbol.type?, OrderedMap.get?, hentries]
  rfl

/-- The symbol of a node describes it. -/
lemma describes_symbolOf {n : Node} {owner : Span} (h : n.span = some owner) (id : String) :
    Describes uri table byName n (symbolOf uri table byName n owner id) where
  uri_eq := symbolOf_uri ..
  range_eq := by rw [symbolOf_range, h]
  fields := by
    set bare := ((Symbol.create id uri (some owner)).withField Symbol.nameField
      (.text (n.name.getD id))).withField Symbol.typeField (.text n.type)
    obtain ⟨references, hentries, happended⟩ : ∃ references,
        (n.references.foldl (addReference table byName owner) bare).fields.entries =
          bare.fields.entries ++ references ∧
        Appended table byName owner bare.fields.keys n.references references :=
      appended_foldl owner n.references bare
    refine ⟨owner, references, h, ?_, happended⟩
    rw [symbolOf_id]
    exact hentries
  nodup_keys := OrderedMap.nodup_keys _

/-- What extraction makes of a node describes it. -/
lemma describes_of_symbolOf? {n : Node} {s : Symbol} (h : symbolOf? uri table byName n = some s) :
    Describes uri table byName n s := by
  unfold symbolOf? at h
  split at h
  · next owner id howner _ =>
    obtain rfl := Option.some.inj h
    exact describes_symbolOf howner id
  · cases h

/-- **Extraction loses nothing.** Whatever scheme the identifiers follow, and whether or not names
are resolved, the positioned nodes of a tree have one symbol each, in pre-order. It has the range of
its node; its fields are the file, the name, the type, and one for every reference, in order and
under distinct keys, with the range of the reference exactly if the symbol contains that. If the
nodes can be told apart, the identifier of each symbol is the one that was given to its own node. -/
theorem describes_extract (uri : Uri) (root : Node) (ids : IdScheme) (byName : Bool) :
    List.Forall₂ (Describes uri (assign uri ids root) byName)
        (root.preorder.filter Node.positioned) (extract uri root ids byName) ∧
      (assign uri ids root).map Prod.fst = root.preorder.filter Node.positioned ∧
      (root.Identified →
        (extract uri root ids byName).map Symbol.id = (assign uri ids root).map Prod.snd) := by
  refine ⟨?_, map_fst_assign uri ids root, fun h => ?_⟩
  · exact (forall₂_extract uri root ids byName).imp fun n s => describes_of_symbolOf?
  · exact map_id_extract_of_nodup byName (nodup_table uri ids h)

/-- A node with slots that repeat, that look numbered, and that are named like other fields. -/
def slotTree : Node :=
  .mk ⟨0, "Call", some ⟨⟨1, 0⟩, ⟨1, 9⟩⟩, none, .ok .variable,
      [⟨"f", some "a", some ⟨⟨1, 0⟩, ⟨1, 4⟩⟩, none⟩, ⟨"f.1", some "b", none, none⟩,
        ⟨"f", some "c", some ⟨⟨1, 5⟩, ⟨2, 0⟩⟩, none⟩, ⟨"name", some "d", none, none⟩]⟩
    [.mk ⟨1, "Name", some ⟨⟨1, 0⟩, ⟨1, 9⟩⟩, some "g", .ok .variable, []⟩ []]

/-- Two nodes with one range, which the scheme gives one identifier, are told apart by the number of
the second one. -/
theorem describes_extract_slots :
    slotTree.Identified ∧
      (extract ⟨"file:///a"⟩ slotTree .position true).map Symbol.id =
        (assign ⟨"file:///a"⟩ .position slotTree).map Prod.snd := by
  have hnodes : slotTree.Identified := by
    unfold Node.Identified
    decide
  exact ⟨hnodes, (describes_extract ⟨"file:///a"⟩ slotTree .position true).2.2 hnodes⟩

example : ((extract ⟨"file:///a"⟩ slotTree .position true).map fun s => s.fields.keys) =
    [["uri", "name", "type", "f", "f.1", "f.2", "name.1"], ["uri", "name", "type"]] := by decide

end Extraction

end CodeIndex
