import Mathlib.Data.List.Nodup
import CodeIndex.Navigation
import CodeIndex.Proofs.Symbol.References
import CodeIndex.Proofs.Workspace.PositionLookup

set_option relaxedAutoImplicit false
set_option autoImplicit false

/-!
# Following a reference from its occurrence

A definition is asked for at a point, and the answer is looked for on the narrowest symbol there.
The node that holds a reference need not be that symbol at every point of the occurrence: the name
that is referred to may have a node of its own, for instance. This file says which node a query
commits itself to, for every tree, whether its ranges are nested or not; and it shows that a
reference is followed to its target from every point of its occurrence at which its own node is that
one.

## Main definitions

* `Node.Coherent` — the keys and types of a tree tell its nodes apart.
* `Node.NarrowestAt` — the node that a query at a point commits itself to.
* `Navigation.follow` — where the reference of a symbol at a point leads.

## Main results

* `Node.exists_narrowestAt` — where a node contains a point, there is a narrowest one.
* `Workspace.Tracks.find?_of_narrowestAt` — the symbol of the narrowest node is found.
* `Navigation.definition_of_occurrence` — a reference can be followed from every point of its
  occurrence at which its node is the narrowest.
-/

namespace CodeIndex

/-! ## The narrowest node at a point -/

namespace Node

variable {root : Node} {p : Point}

/-- The keys and types of a tree tell its nodes apart. One and the same node may be met twice. -/
def Coherent (root : Node) : Prop :=
  ∀ m ∈ root.preorder, ∀ n ∈ root.preorder, m.key = n.key → m.type = n.type → m = n

lemma Identified.coherent (h : root.Identified) : root.Coherent := by
  unfold Identified at h
  rw [walk_eq_preorder] at h
  intro m hm n hn hkey htype
  exact List.inj_on_of_nodup_map h hm hn (Prod.ext hkey htype)

/-- The width of the range of a node. -/
def width (n : Node) : Int := n.span.elim 0 Span.size

/-- The narrowest node of a tree at a point; among equally wide ones, the last in pre-order. -/
def NarrowestAt (root : Node) (p : Point) (n : Node) : Prop :=
  ∃ before after, root.preorder = before ++ n :: after ∧ n.containsPoint p = true ∧
    (∀ m ∈ before, m.containsPoint p = true → n.width ≤ m.width) ∧
    ∀ m ∈ after, m.containsPoint p = true → n.width < m.width

lemma NarrowestAt.mem {n : Node} (h : root.NarrowestAt p n) : n ∈ root.preorder := by
  obtain ⟨before, after, hsplit, -⟩ := h
  rw [hsplit]
  exact List.mem_append_right _ List.mem_cons_self

/-- The search goes through the nodes from the last to the first, and changes its mind only for a
narrower one. -/
lemma exists_split_narrowest (ns : List Node) (h : ∃ n ∈ ns, n.containsPoint p = true) :
    ∃ before n after, ns = before ++ n :: after ∧ n.containsPoint p = true ∧
      (∀ m ∈ before, m.containsPoint p = true → n.width ≤ m.width) ∧
      ∀ m ∈ after, m.containsPoint p = true → n.width < m.width := by
  induction ns with
  | nil =>
    obtain ⟨n, hn, -⟩ := h
    cases hn
  | cons m ns ih =>
    by_cases hrest : ∃ n ∈ ns, n.containsPoint p = true
    · obtain ⟨before, n, after, rfl, hn, hbefore, hafter⟩ := ih hrest
      by_cases hm : m.containsPoint p = true ∧ m.width < n.width
      · refine ⟨[], m, before ++ n :: after, rfl, hm.1, by simp, fun k hk hkp => ?_⟩
        have hle : n.width ≤ k.width := by
          rcases List.mem_append.1 hk with hk | hk
          · exact hbefore k hk hkp
          · rcases List.mem_cons.1 hk with rfl | hk
            · exact Int.le_refl _
            · exact Int.le_of_lt (hafter k hk hkp)
        exact Int.lt_of_lt_of_le hm.2 hle
      · refine ⟨m :: before, n, after, rfl, hn, fun k hk hkp => ?_, hafter⟩
        rcases List.mem_cons.1 hk with rfl | hk
        · rw [not_and, Int.not_lt] at hm
          exact hm hkp
        · exact hbefore k hk hkp
    · push Not at hrest
      obtain ⟨n, hn, hp⟩ := h
      obtain rfl : n = m := by
        rcases List.mem_cons.1 hn with rfl | hn
        · rfl
        · exact absurd hp (hrest n hn)
      exact ⟨[], n, ns, rfl, hp, by simp, fun k hk hkp => absurd hkp (hrest k hk)⟩

/-- Where a node contains a point, there is a narrowest one. -/
lemma exists_narrowestAt {n : Node} (hn : n ∈ root.preorder) (hp : n.containsPoint p = true) :
    ∃ m, root.NarrowestAt p m := by
  obtain ⟨before, m, after, hsplit⟩ := exists_split_narrowest root.preorder ⟨n, hn, hp⟩
  exact ⟨m, before, after, hsplit⟩

end Node

/-! ## Its symbol -/

namespace Extraction

variable {uri : Uri} {root : Node} {byName : Bool} {p : Point}

/-- The symbols of different nodes have different identifiers. -/
lemma eq_of_symbolOf?_id_eq (hnodes : root.Coherent) {m n : Node} (hm : m ∈ root.preorder)
    (hn : n ∈ root.preorder) {s t : Symbol}
    (hs : symbolOf? uri (assign uri .position root) byName m = some s)
    (ht : symbolOf? uri (assign uri .position root) byName n = some t) (hid : s.id = t.id) :
    m = n := by
  obtain ⟨hkey, htype⟩ := key_eq_of_id_eq hs ht hid
  exact hnodes m hm n hn hkey htype

/-- A symbol is as wide as its node. -/
lemma width_eq_of_symbolOf? {table : List (Node × String)} {n : Node} {s : Symbol}
    (h : symbolOf? uri table byName n = some s) : s.width = n.width := by
  rw [Symbol.width, Node.width, (symbolOf?_eq_some h).2.1]

end Extraction

namespace SymbolList

/-- A symbol whose identifier does not come up again stays between what was stored before it and
what is stored after it. -/
lemma storeAll_append_cons {rest : List Symbol} {s : Symbol} (hs : ∀ t ∈ rest, s.id ≠ t.id)
    (front : List Symbol) :
    ∃ front', storeAll [] (front ++ s :: rest) = front' ++ s :: storeAll [] rest ∧
      ∀ t ∈ front', t ∈ front := by
  set old := (storeAll [] front).filter fun t => !decide (t.id = s.id)
  have hstart : storeAll [] (front ++ s :: rest) = storeAll (old ++ [s]) rest := by
    rw [storeAll, List.foldl_append, List.foldl_cons]
    rfl
  have hstays : storeAll ([s] ++ []) rest = [s] ++ storeAll [] rest := by
    refine storeAll_append (fun t ht u hu => ?_) []
    rw [List.mem_singleton.1 ht]
    exact hs u hu
  refine ⟨_, hstart.trans ((storeAll_append_filter old [s] rest).trans
    (congrArg (_ ++ ·) hstays)), fun t ht => ?_⟩
  have hmem : t ∈ storeAll [] front := List.mem_of_mem_filter (List.mem_of_mem_filter ht)
  exact (mem_storeAll hmem).resolve_left List.not_mem_nil

end SymbolList

namespace Repository

/-- After a stable sort, the first of the least members comes first. -/
lemma head?_mergeSort_of_split {α : Type} (key : α → Int) {newer older : List α} {s : α}
    (hnewer : ∀ t ∈ newer, key s < key t) (holder : ∀ t ∈ older, t ≠ s ∧ key s ≤ key t) :
    ((newer ++ s :: older).mergeSort fun a b => decide (key a ≤ key b)).head? = some s := by
  have hany : ∀ l : List α, l.Pairwise fun _ _ => True :=
    fun l => List.pairwise_of_forall fun _ _ => trivial
  have horder : (newer ++ s :: older).Pairwise fun a b => b = s → key s < key a := by
    rw [List.pairwise_append, List.pairwise_cons]
    refine ⟨?_, ⟨fun b hb heq => absurd heq (holder b hb).1, ?_⟩, fun a ha _ _ _ => hnewer a ha⟩
    · exact (hany newer).imp_of_mem fun ha _ _ _ => hnewer _ ha
    · exact (hany older).imp_of_mem fun _ hb _ heq => absurd heq (holder _ hb).1
  have hsorted := pairwise_mergeSort_key key horder
  have hperm := List.mergeSort_perm (newer ++ s :: older) fun a b => decide (key a ≤ key b)
  generalize ((newer ++ s :: older).mergeSort fun a b => decide (key a ≤ key b)) = sorted
    at hsorted hperm ⊢
  have hs : s ∈ sorted := hperm.mem_iff.2 (List.mem_append_right _ List.mem_cons_self)
  cases sorted with
  | nil => cases hs
  | cons x rest =>
    rw [List.head?_cons, Option.some_inj]
    by_contra hx
    -- something else comes first, so it is narrower, or as wide and newer
    have hrest : s ∈ rest := (List.mem_cons.1 hs).resolve_left (Ne.symm hx)
    have hfirst := (List.pairwise_cons.1 hsorted).1 s hrest
    have hle : key s ≤ key x := by
      rcases List.mem_append.1 (hperm.mem_iff.1 List.mem_cons_self) with hmem | hmem
      · exact Int.le_of_lt (hnewer x hmem)
      · exact (holder x ((List.mem_cons.1 hmem).resolve_left hx)).2
    rcases hfirst with hlt | ⟨heq, hlt⟩
    · omega
    · have hlt := hlt rfl
      omega

/-- The symbol found at a point is the narrowest one; among equally wide ones it is the newest. -/
lemma Consistent.find?_of_split {r : Repository} (h : r.Consistent) {uri : Uri} {p : Point}
    {s : Symbol} {front behind : List Symbol}
    (hsplit : SymbolList.symbolsIn r.toList uri = front ++ s :: behind)
    (hs : s.containsPoint p = true)
    (hfront : ∀ t ∈ front, t.containsPoint p = true → s.width ≤ t.width)
    (hbehind : ∀ t ∈ behind, t.containsPoint p = true → s.width < t.width) :
    r.find? uri p = some s := by
  have haround : (r.toList.filter fun t => decide (t.uri = uri) && t.containsPoint p) =
      front.filter (·.containsPoint p) ++ s :: behind.filter (·.containsPoint p) := by
    have hfilter : (r.toList.filter fun t => decide (t.uri = uri) && t.containsPoint p) =
        (SymbolList.symbolsIn r.toList uri).filter (·.containsPoint p) := by
      rw [SymbolList.symbolsIn, List.filter_filter]
      exact List.filter_congr fun t _ => Bool.and_comm _ _
    rw [hfilter, hsplit, List.filter_append, List.filter_cons, if_pos hs]
  -- the identifiers are distinct, so the symbol is not among those before it
  have hnotMem : s ∉ front := by
    intro hmem
    have hnodup : ((front ++ s :: behind).map Symbol.id).Nodup := by
      rw [← hsplit]
      exact h.nodup_ids.sublist (List.filter_sublist.map _)
    rw [List.map_append, List.map_cons] at hnodup
    exact List.disjoint_of_nodup_append hnodup (List.mem_map_of_mem hmem) List.mem_cons_self
  rw [find?, h.search_eq, haround, List.reverse_append, List.reverse_cons, List.append_assoc,
    List.singleton_append]
  refine head?_mergeSort_of_split Symbol.width (fun t ht => ?_) fun t ht => ?_
  · obtain ⟨hmem, hp⟩ := List.mem_filter.1 (List.mem_reverse.1 ht)
    exact hbehind t hmem hp
  · obtain ⟨hmem, hp⟩ := List.mem_filter.1 (List.mem_reverse.1 ht)
    exact ⟨fun heq => hnotMem (heq ▸ hmem), hfront t hmem hp⟩

end Repository

namespace Workspace.Tracks

variable {language : Language} {w : Workspace} {events : List Event}

/-- The symbol found at a point is that of the narrowest node there, in the tree that the file is
indexed by. -/
lemma find?_of_narrowestAt (hids : language.ids = .position) (h : Tracks language w events)
    {uri : Uri} {root : Node} (hnodes : root.Coherent)
    (hroot : generation language uri events = some root) {p : Point} {n : Node}
    (hn : root.NarrowestAt p n) :
    w.repository.find? uri p =
      Extraction.symbolOf? uri (Extraction.assign uri .position root) language.resolveByName n := by
  set symbol := Extraction.symbolOf? uri (Extraction.assign uri .position root)
    language.resolveByName
  have hnmem := hn.mem
  obtain ⟨before, after, hsplit, hp, hbefore, hafter⟩ := hn
  obtain ⟨span, hspan, -⟩ := Node.containsPoint_iff.1 hp
  obtain ⟨s, hs⟩ : ∃ s, symbol n = some s := by
    obtain ⟨id, hid⟩ := Extraction.exists_symbolOf? hnmem hspan
    exact ⟨_, hid⟩
  -- the node does not come up again, as it would have to be narrower than itself
  have hlast : ∀ t ∈ after.filterMap symbol, s.id ≠ t.id := by
    intro t ht hid
    obtain ⟨m, hm, hmt⟩ := List.mem_filterMap.1 ht
    have hmmem : m ∈ root.preorder := by
      rw [hsplit]
      exact List.mem_append_right _ (List.mem_cons_of_mem _ hm)
    obtain rfl := Extraction.eq_of_symbolOf?_id_eq hnodes hnmem hmmem hs hmt hid
    exact absurd (hafter n hm hp) (Int.lt_irrefl _)
  obtain ⟨front, hstored, hfront⟩ :=
    SymbolList.storeAll_append_cons hlast (before.filterMap symbol)
  have hsymbols : SymbolList.symbolsIn w.repository.toList uri =
      front ++ s :: SymbolList.storeAll [] (after.filterMap symbol) := by
    rw [h.symbols, hroot, stored, hids, Extraction.extract_eq, Node.walk_eq_preorder, hsplit,
      List.filterMap_append, List.filterMap_cons_some hs, hstored]
  rw [hs]
  refine h.consistent.find?_of_split hsymbols
    ((Extraction.containsPoint_of_symbolOf? hs).trans hp) (fun t ht htp => ?_) fun t ht htp => ?_
  · obtain ⟨m, hm, hmt⟩ := List.mem_filterMap.1 (hfront t ht)
    rw [Extraction.containsPoint_of_symbolOf? hmt] at htp
    rw [Extraction.width_eq_of_symbolOf? hs, Extraction.width_eq_of_symbolOf? hmt]
    exact hbefore m hm htp
  · obtain ⟨m, hm, hmt⟩ := List.mem_filterMap.1
      ((SymbolList.mem_storeAll ht).resolve_left List.not_mem_nil)
    rw [Extraction.containsPoint_of_symbolOf? hmt] at htp
    rw [Extraction.width_eq_of_symbolOf? hs, Extraction.width_eq_of_symbolOf? hmt]
    exact hafter m hm htp

end Workspace.Tracks

namespace Navigation

variable {language : Language}

/-! ## Following a reference -/

/-- Where the reference of a symbol at a point leads. -/
def follow (r : Repository) (p : Point) (s : Symbol) : Option Location :=
  (s.referenceAt? p).bind fun ref => ref.target.bind fun id => (r.load? id).bind Symbol.location?

lemma definition?_eq (r : Repository) (uri : Uri) (pos : Editor.Position) :
    definition? r uri pos = (r.find? uri pos.toPoint).bind (follow r pos.toPoint) := rfl

/-- A reference whose occurrence is apart from the others leads to its target. -/
lemma follow_symbolOf {r : Repository} {uri : Uri} {table : List (Node × String)} {byName : Bool}
    {n : Node} {owner : Span} (id : String) {front rest : List NamedReference}
    {ref : NamedReference} (hrefs : n.references = front ++ ref :: rest) {c : Span}
    (hc : Extraction.occurrenceWithin owner ref = some c)
    (hapart : ∀ other ∈ front ++ rest, ∀ o,
      Extraction.occurrenceWithin owner other = some o → c.overlaps o = false)
    {p : Point} (hp : c.containsPoint p = true) :
    follow r p (Extraction.symbolOf uri table byName n owner id) =
      ((Extraction.resolve table byName ref).bind r.load?).bind Symbol.location? := by
  have hstored : (Extraction.symbolOf uri table byName n owner id).references.map Prod.snd =
      front.map (Extraction.storedReference table byName owner) ++
        Extraction.storedReference table byName owner ref ::
          rest.map (Extraction.storedReference table byName owner) := by
    rw [Extraction.references_symbolOf, hrefs, List.map_append, List.map_cons]
  have hat := Symbol.referenceAt?_of_apart hstored hc (fun stored hother o ho => ?_) hp
  · rw [follow, hat, Option.bind_some, Option.bind_assoc]
    rfl
  · rw [← List.map_append] at hother
    obtain ⟨other, hmem, rfl⟩ := List.mem_map.1 hother
    exact hapart other hmem o ho

/-- **A reference can be followed from its occurrence.** Take any run, and the tree that a file is
indexed by at its end. If a reference of a positioned node has an occurrence that overlaps no other
occurrence of the node, and a target with a range, then the definition asked for at a point of the
occurrence is the place of the target, provided that no other node at the point is narrower, and
none that comes later is as narrow. Elsewhere on the occurrence, the narrowest node is asked instead
of the one with the reference. -/
theorem definition_of_occurrence (hids : language.ids = .position)
    (ops : List (Disk × Workspace.Operation)) {uri : Uri} {root : Node} (hnodes : root.Coherent)
    (hroot : Workspace.generation language uri
      (Workspace.history language .empty ops) = some root)
    {n : Node} (hn : n ∈ root.preorder) {owner : Span} (howner : n.span = some owner)
    {front rest : List NamedReference} {ref : NamedReference}
    (hrefs : n.references = front ++ ref :: rest) {c : Span}
    (hc : Extraction.occurrenceWithin owner ref = some c)
    (hapart : ∀ other ∈ front ++ rest, ∀ o,
      Extraction.occurrenceWithin owner other = some o → c.overlaps o = false)
    {d : Symbol} {range : Span} (hrange : d.range = some range) :
    let r := (Workspace.run language .empty ops).repository
    let table := Extraction.assign uri .position root
    (Extraction.resolve table language.resolveByName ref).bind r.load? = some d →
      ∀ pos : Editor.Position, c.containsPoint pos.toPoint = true →
        (∃ m, root.NarrowestAt pos.toPoint m) ∧
        (root.NarrowestAt pos.toPoint n →
          definition? r uri pos = some ⟨d.uri, range.toEditor⟩) ∧
        ∀ m, root.NarrowestAt pos.toPoint m →
          definition? r uri pos =
            (Extraction.symbolOf? uri table language.resolveByName m).bind
              (follow r pos.toPoint) := by
  intro r table hd pos hp
  have htracks := Workspace.Tracks.run_empty hids ops
  have hanswer : ∀ m, root.NarrowestAt pos.toPoint m → definition? r uri pos =
      (Extraction.symbolOf? uri table language.resolveByName m).bind (follow r pos.toPoint) := by
    intro m hm
    rw [definition?_eq, htracks.find?_of_narrowestAt hids hnodes hroot hm]
  refine ⟨?_, fun hnarrowest => ?_, hanswer⟩
  · refine Node.exists_narrowestAt hn (Node.containsPoint_iff.2 ⟨owner, howner, ?_⟩)
    exact Span.containsPoint_of_containsSpan (Option.filter_eq_some_iff.1 hc).2 hp
  · obtain ⟨id, hsymbol⟩ := Extraction.exists_symbolOf? hn howner
    rw [hanswer n hnarrowest, hsymbol, Option.bind_some, follow_symbolOf id hrefs hc hapart hp, hd,
      Option.bind_some, Symbol.location?, hrange, Option.map_some]

/-- The reference of a call to what is called, by a qualified name. -/
def calleeReference : NamedReference :=
  ⟨"callee", some "m.f", some ⟨⟨1, 5⟩, ⟨1, 8⟩⟩, some (.node 3 "Def")⟩

/-- The reference of a call to the calling convention, which is not resolved. -/
def conventionReference : NamedReference := ⟨"convention", some "call", some ⟨⟨1, 0⟩, ⟨1, 4⟩⟩, none⟩

/-- A call, with a node for the qualifier of the name. -/
def callNode : Node :=
  .mk ⟨1, "Call", some ⟨⟨1, 0⟩, ⟨1, 8⟩⟩, none, .ok .variable,
      [conventionReference, calleeReference]⟩
    [.mk ⟨2, "Qualifier", some ⟨⟨1, 5⟩, ⟨1, 6⟩⟩, none, .ok .variable, []⟩ []]

/-- A call and the declaration that it refers to. -/
def callTree : Node :=
  .mk ⟨0, "Unit", none, none, .ok .variable, []⟩
    [callNode, .mk ⟨3, "Def", some ⟨⟨2, 0⟩, ⟨2, 5⟩⟩, some "f", .ok .variable, []⟩ []]

lemma coherent_callTree : callTree.Coherent := by
  refine Node.Identified.coherent ?_
  unfold Node.Identified
  decide

/-- A language in which every text has the tree with the call. -/
def callLanguage : Language := .create "call" fun _ _ => .ok ⟨some callTree, []⟩

/-- A text with a call is opened. -/
def callOpened : List (Disk × Workspace.Operation) :=
  [(.empty, .openFile ⟨"file:///a"⟩ "call m.f\ndef f" 1)]

/-- The symbol of the declaration that the call refers to. -/
def callee : Symbol :=
  ((Symbol.create "file:///a:2:0:2:5" ⟨"file:///a"⟩ (some ⟨⟨2, 0⟩, ⟨2, 5⟩⟩)).withField
    Symbol.nameField (.text "f")).withField Symbol.typeField (.text "Def")

/-- The call refers to a declaration that the repository has. -/
lemma resolve_calleeReference :
    (Extraction.resolve (Extraction.assign ⟨"file:///a"⟩ .position callTree) false
      calleeReference).bind (Workspace.run callLanguage .empty callOpened).repository.load? =
        some callee := rfl

lemma occurrence_calleeReference :
    Extraction.occurrenceWithin ⟨⟨1, 0⟩, ⟨1, 8⟩⟩ calleeReference = some ⟨⟨1, 5⟩, ⟨1, 8⟩⟩ := by
  decide

lemma apart_calleeReference :
    ∀ other ∈ [conventionReference] ++ [], ∀ o,
      Extraction.occurrenceWithin ⟨⟨1, 0⟩, ⟨1, 8⟩⟩ other = some o →
        (⟨⟨1, 5⟩, ⟨1, 8⟩⟩ : Span).overlaps o = false := by
  intro other hother o ho
  obtain rfl := List.mem_singleton.1 hother
  have hconvention : Extraction.occurrenceWithin ⟨⟨1, 0⟩, ⟨1, 8⟩⟩ conventionReference =
      some ⟨⟨1, 0⟩, ⟨1, 4⟩⟩ := by decide
  obtain rfl := Option.some.inj (hconvention.symm.trans ho)
  decide

/-- Behind the qualifier, the call is the narrowest node, and its reference is followed. -/
theorem definition_of_occurrence_call :
    callTree.NarrowestAt ⟨1, 7⟩ callNode ∧
      definition? (Workspace.run callLanguage .empty callOpened).repository ⟨"file:///a"⟩ ⟨0, 7⟩ =
        some ⟨⟨"file:///a"⟩, ⟨⟨1, 0⟩, ⟨1, 5⟩⟩⟩ := by
  have hnarrowest : callTree.NarrowestAt ⟨1, 7⟩ callNode :=
    ⟨[callTree], callNode.children ++ callTree.children.tail, rfl, rfl, by decide, by decide⟩
  have hrefs : callNode.references = [conventionReference] ++ calleeReference :: [] := rfl
  have hfollowed := definition_of_occurrence (rfl : callLanguage.ids = .position) callOpened
    coherent_callTree rfl hnarrowest.mem rfl hrefs occurrence_calleeReference
    apart_calleeReference (rfl : callee.range = some ⟨⟨2, 0⟩, ⟨2, 5⟩⟩) resolve_calleeReference
    ⟨0, 7⟩ (by decide)
  exact ⟨hnarrowest, hfollowed.2.1 hnarrowest⟩

/-- On the qualifier, nothing is found: the occurrence of the reference covers the point and
overlaps no other one, and the target is in the repository and has a range, but the qualifier is
narrower than the call. -/
theorem definition_missed_on_qualifier :
    Workspace.generation callLanguage ⟨"file:///a"⟩
        (Workspace.history callLanguage .empty callOpened) = some callTree ∧
      callNode ∈ callTree.preorder ∧ callNode.span = some ⟨⟨1, 0⟩, ⟨1, 8⟩⟩ ∧
      callNode.references = [conventionReference] ++ calleeReference :: [] ∧
      Extraction.occurrenceWithin ⟨⟨1, 0⟩, ⟨1, 8⟩⟩ calleeReference = some ⟨⟨1, 5⟩, ⟨1, 8⟩⟩ ∧
      (∀ other ∈ [conventionReference] ++ [], ∀ o,
        Extraction.occurrenceWithin ⟨⟨1, 0⟩, ⟨1, 8⟩⟩ other = some o →
          (⟨⟨1, 5⟩, ⟨1, 8⟩⟩ : Span).overlaps o = false) ∧
      (Extraction.resolve (Extraction.assign ⟨"file:///a"⟩ .position callTree) false
        calleeReference).bind (Workspace.run callLanguage .empty callOpened).repository.load? =
          some callee ∧
      callee.location? = some ⟨⟨"file:///a"⟩, ⟨⟨1, 0⟩, ⟨1, 5⟩⟩⟩ ∧
      (⟨⟨1, 5⟩, ⟨1, 8⟩⟩ : Span).containsPoint (⟨0, 5⟩ : Editor.Position).toPoint = true ∧
      definition? (Workspace.run callLanguage .empty callOpened).repository ⟨"file:///a"⟩ ⟨0, 5⟩ =
        none := by
  refine ⟨rfl, ?_, rfl, rfl, occurrence_calleeReference, apart_calleeReference,
    resolve_calleeReference, rfl, by decide, by decide⟩
  exact List.mem_cons_of_mem _ List.mem_cons_self

end Navigation

end CodeIndex
