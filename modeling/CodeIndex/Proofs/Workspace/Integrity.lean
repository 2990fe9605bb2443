import CodeIndex.Proofs.Symbol.Resolution
import CodeIndex.Proofs.Workspace.Reachable

set_option relaxedAutoImplicit false
set_option autoImplicit false

/-!
# References inside a file do not dangle

A reference is resolved once, when the tree of its file is extracted; what is stored is the text of
an identifier, which is looked up much later, in a repository that has changed since. The look-up
still finds the symbol of the node that was meant: the symbols of a file come and go as the symbols
of one tree, and no other file can take an identifier away from them.

## Main definitions

* `Node.SelfContained` — no reference of a tree has an identifier that the adapter supplied.
* `Workspace.Current` — the tree that the symbols of a file are of.
* `Workspace.LeadsTo` — what is stored of a reference leads to what the reference means.
* `Workspace.Linked` — a symbol is that of a node, and its references lead where those of the node
  do.

## Main results

* `Workspace.Reachable.exists_current` — a file with a symbol has a current tree.
* `Workspace.Current.leadsTo` — the references of the current tree lead to what they mean.
* `Workspace.linked_of_mem` — every symbol is linked, and where the tree is self-contained, no
  reference of the symbol dangles.

## Design

The nodes of a tree have an identity, which is their key together with their type. It is what a
reference to a node names, and what the identifier of a node is looked up by; so it is taken to
differ from node to node.
-/

namespace CodeIndex

/-- No reference of a tree has an identifier that the adapter supplied. -/
def Node.SelfContained (root : Node) : Prop :=
  ∀ n ∈ root.preorder, ∀ r ∈ n.references, ∀ id, r.target ≠ some (.identifier id)

namespace Workspace

open Extraction

variable {language : Language} {w : Workspace} {uri : Uri} {root : Node}

/-- A tree is the current one of a file. -/
structure Current (language : Language) (w : Workspace) (uri : Uri) (root : Node) : Prop where
  /-- The parser handed it out for some text of the file. -/
  parsed : ∃ text, language.tree? uri text = some root
  /-- The symbols of the file are those of the tree. -/
  symbols : w.repository.symbolsIn uri =
    extract uri root language.ids language.resolveByName
  /-- If the file is tracked with a tree, it is this one. -/
  tracked : ∀ {file tree}, w.files.get? uri = some file → file.root = some tree → tree = root

/-- What is stored of a reference of a tree leads to what the reference means. -/
structure LeadsTo (language : Language) (w : Workspace) (uri : Uri) (root : Node)
    (r : NamedReference) (f : Reference) : Prop where
  name : f.name = r.name
  /-- An identifier that the adapter supplied is stored as it is. -/
  supplied : ∀ {id}, r.target = some (.identifier id) → f.target = some id
  /-- Otherwise there is a target exactly if the reference means a node. -/
  resolved : (∀ id, r.target ≠ some (.identifier id)) →
    (f.target = none ↔ ¬ ∃ m, Means root language.resolveByName r m)
  /-- The target is the identifier of the symbol of that node, and that symbol is found under it. -/
  found : ∀ {m}, Means root language.resolveByName r m → ∃ t,
    symbolOf? uri (assign uri language.ids root) language.resolveByName m = some t ∧
      f.target = some t.id ∧ w.repository.load? t.id = some t ∧ t.uri = uri

/-- A symbol is that of a node, and its references lead where those of the node do. -/
structure Linked (language : Language) (w : Workspace) (root n : Node) (s : Symbol) : Prop where
  mem : n ∈ root.preorder
  symbol : symbolOf? s.uri (assign s.uri language.ids root) language.resolveByName n = some s
  /-- The references of the symbol are those of the node, in order. -/
  references : List.Forall₂ (LeadsTo language w s.uri root) n.references
    (s.references.map Prod.snd)

/-! ## The current tree of a file -/

/-- A file with a symbol has a current tree. -/
lemma Reachable.exists_current (h : Reachable language w) (hids : language.ids = .position)
    (hnodes : language.DistinctNodes) {s : Symbol} (hs : s ∈ w.repository.toList) :
    ∃ root, Current language w s.uri root := by
  obtain ⟨events, htracks⟩ := h.tracks hids
  have hsymbols := htracks.symbols s.uri
  have hmem : s ∈ SymbolList.symbolsIn w.repository.toList s.uri :=
    SymbolList.mem_symbolsIn.2 ⟨hs, rfl⟩
  cases hgen : generation language s.uri events with
  | none =>
    rw [hsymbols, hgen] at hmem
    cases hmem
  | some root =>
    obtain ⟨text, htree⟩ := exists_tree_of_generation hgen
    refine ⟨root, ⟨text, htree⟩, ?_, fun hfile htracked => ?_⟩
    · rw [htracks.consistent.symbolsIn_eq, hids, ← stored_eq_extract hids s.uri (hnodes htree),
        ← hgen]
      exact hsymbols
    · exact Option.some.inj ((htracks.files hfile htracked).symm.trans hgen)

/-- The symbols of the current tree are found under their identifiers. -/
lemma Current.load? (hcurrent : Current language w uri root) (h : Reachable language w)
    {t : Symbol} (ht : t ∈ extract uri root language.ids language.resolveByName) :
    w.repository.load? t.id = some t := by
  rw [← hcurrent.symbols, h.consistent.symbolsIn_eq] at ht
  exact h.consistent.load?_eq_some_iff.2 ⟨(SymbolList.mem_symbolsIn.1 ht).1, rfl⟩

/-! ## References -/

/-- A target that the adapter did not supply is found, as a symbol of the file. -/
lemma LeadsTo.exists_load? {r : NamedReference} {f : Reference}
    (h : LeadsTo language w uri root r f) (hplain : ∀ id, r.target ≠ some (.identifier id))
    {id : String} (hid : f.target = some id) :
    ∃ t, w.repository.load? id = some t ∧ t.uri = uri := by
  have hresolved : ∃ m, Means root language.resolveByName r m := by
    by_contra hnone
    rw [(h.resolved hplain).2 hnone] at hid
    cases hid
  obtain ⟨m, hm⟩ := hresolved
  obtain ⟨t, -, htarget, hload, huri⟩ := h.found hm
  obtain rfl := Option.some.inj (hid.symm.trans htarget)
  exact ⟨t, hload, huri⟩

/-- **The references of the current tree lead to what they mean.** -/
lemma Current.leadsTo (hcurrent : Current language w uri root) (h : Reachable language w)
    (hnodes : root.Identified) (owner : Span) (r : NamedReference) :
    LeadsTo language w uri root r
      (storedReference (assign uri language.ids root) language.resolveByName owner r) where
  name := rfl
  supplied := by
    intro id hid
    rw [storedReference, resolve, hid]
  resolved := by
    intro hplain
    rw [← isSome_resolve_iff uri language.ids hplain,
      Option.not_isSome_iff_eq_none]
    rfl
  found := by
    intro m hm
    obtain ⟨t, hsymbol, htarget⟩ := exists_symbolOf?_of_means uri language.ids hnodes hm
    have ht : t ∈ extract uri root language.ids language.resolveByName := by
      rw [extract_eq, Node.walk_eq_preorder]
      exact List.mem_filterMap.2 ⟨m, hm.mem.1, hsymbol⟩
    exact ⟨t, hsymbol, htarget, hcurrent.load? h ht, uri_of_mem_extract ht⟩

/-- **References inside a file do not dangle.** With the default identifiers and trees of distinct
nodes, every symbol in every workspace that can be reached is that of a node of the current tree
of its file. What it stores of a reference leads to what the reference means in that tree: there is
a target exactly if the reference names a positioned node or, where names are resolved and no target
is given, a positioned node declares the name; and the target is found in the repository as the
symbol of that node, or of the last one that declares the name. So where the adapter supplies no
identifiers, every target is found, as a symbol of the same file.

**Proof sketch.** The file of the symbol has the symbols of its current tree and no others
(`Reachable.exists_current`), so the symbol is that of a node of this tree. A reference of the node
was resolved in the table of the same tree, to the identifier of the symbol of what it means
(`Extraction.exists_symbolOf?_of_means`); that symbol is among those of the file, and what is stored
is found under its identifier. -/
theorem linked_of_mem (hids : language.ids = .position) (hnodes : language.DistinctNodes)
    (h : Reachable language w) {s : Symbol} (hs : s ∈ w.repository.toList) :
    ∃ root n, Current language w s.uri root ∧ Linked language w root n s ∧
      (root.SelfContained → ∀ field ∈ s.references, ∀ id, field.2.target = some id →
        ∃ t, w.repository.load? id = some t ∧ t.uri = s.uri) := by
  -- the symbol and those that its references lead to are all of one tree
  obtain ⟨root, hcurrent⟩ := h.exists_current hids hnodes hs
  obtain ⟨text, htree⟩ := hcurrent.parsed
  have hmem : s ∈ extract s.uri root language.ids language.resolveByName := by
    rw [← hcurrent.symbols, h.consistent.symbolsIn_eq]
    exact SymbolList.mem_symbolsIn.2 ⟨hs, rfl⟩
  rw [extract_eq, Node.walk_eq_preorder] at hmem
  obtain ⟨n, hn, hsymbol⟩ := List.mem_filterMap.1 hmem
  obtain ⟨owner, -, hreferences⟩ := references_of_symbolOf? hsymbol
  have hleads : ∀ r, LeadsTo language w s.uri root r
      (storedReference (assign s.uri language.ids root) language.resolveByName owner r) :=
    hcurrent.leadsTo h (hnodes htree) owner
  refine ⟨root, n, hcurrent, ⟨hn, hsymbol, ?_⟩, fun hself field hfield id hid => ?_⟩
  · rw [hreferences, List.forall₂_map_right_iff, List.forall₂_same]
    exact fun r _ => hleads r
  · have hstored : field.2 ∈ s.references.map Prod.snd := List.mem_map_of_mem hfield
    rw [hreferences] at hstored
    obtain ⟨r, hr, heq⟩ := List.mem_map.1 hstored
    exact (hleads r).exists_load? (hself n hn r hr) (heq ▸ hid)

/-- A call whose references name what it calls, the first declaration of that name, the unit, which
has no range, and something that is not declared. -/
def shadowCall : Node :=
  .mk ⟨3, "Call", some ⟨⟨3, 0⟩, ⟨3, 5⟩⟩, none, .ok .variable,
    [⟨"callee", some "a", none, none⟩, ⟨"first", some "a", none, some (.node 1 "Def")⟩,
      ⟨"unit", none, none, some (.node 0 "Unit")⟩, ⟨"other", some "b", none, none⟩]⟩ []

/-- Two declarations of one name, and a call. -/
def shadowTree : Node :=
  .mk ⟨0, "Unit", none, none, .ok .variable, []⟩
    [.mk ⟨1, "Def", some ⟨⟨1, 0⟩, ⟨1, 5⟩⟩, some "a", .ok .variable, []⟩ [],
      .mk ⟨2, "Def", some ⟨⟨2, 0⟩, ⟨2, 5⟩⟩, some "a", .ok .variable, []⟩ [], shadowCall]

/-- A language that resolves names, in which every text has that tree. -/
def shadowLanguage : Language :=
  { Language.create "shadow" fun _ _ => .ok ⟨some shadowTree, []⟩ with
    resolveByName := true }

lemma distinctNodes_shadowLanguage : shadowLanguage.DistinctNodes := by
  intro uri text root htree
  obtain rfl := Option.some.inj htree
  unfold Node.Identified
  decide

lemma selfContained_shadowTree : shadowTree.SelfContained := by
  have htargets : ∀ n ∈ shadowTree.preorder, ∀ r ∈ n.references,
      r.target ∈ [none, some (.node 1 "Def"), some (.node 0 "Unit")] := by decide
  intro n hn r hr id hid
  have hmem := htargets n hn r hr
  rw [hid] at hmem
  simp at hmem

/-- Two files with the tree, of which the one was opened again, and the other deleted. -/
def shadowed : Workspace :=
  run shadowLanguage .empty
    [(.empty, .openFile ⟨"file:///a"⟩ "x" 1), (.empty, .openFile ⟨"file:///b"⟩ "x" 1),
      (.empty, .openFile ⟨"file:///a"⟩ "y" 2), (.empty, .delete ⟨"file:///b"⟩)]

/-- The symbol of the call. -/
def shadowCallSymbol : Symbol :=
  symbolOf ⟨"file:///a"⟩ (assign ⟨"file:///a"⟩ .position shadowTree) true shadowCall
    ⟨⟨3, 0⟩, ⟨3, 5⟩⟩ "file:///a:3:0:3:5"

/-- The name leads to its last declaration, the node to the first one. -/
theorem linked_of_mem_shadow :
    shadowCallSymbol.references.map (·.2.target) =
        [some "file:///a:2:0:2:5", some "file:///a:1:0:1:5", none, none] ∧
      shadowCallSymbol ∈ shadowed.repository.toList ∧
      ∀ field ∈ shadowCallSymbol.references, ∀ id, field.2.target = some id →
        ∃ t, shadowed.repository.load? id = some t ∧ t.uri = ⟨"file:///a"⟩ := by
  have hmem : shadowCallSymbol ∈ shadowed.repository.toList :=
    List.mem_of_getElem? (i := 2) rfl
  refine ⟨by decide, hmem, ?_⟩
  obtain ⟨root, n, hcurrent, -, hself⟩ := linked_of_mem rfl distinctNodes_shadowLanguage
    (Reachable.empty.run _) hmem
  obtain ⟨text, htree⟩ := hcurrent.parsed
  obtain rfl := Option.some.inj htree
  exact hself selfContained_shadowTree

end Workspace

end CodeIndex
