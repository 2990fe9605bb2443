import Mathlib.Data.List.Basic
import Mathlib.Data.List.Forall2
import CodeIndex.Proofs.Tree.Preorder
import CodeIndex.Tree.Outline

set_option relaxedAutoImplicit false
set_option autoImplicit false

/-!
# Outlines and trees

An outline leaves out the nodes without a name or a range, and what stands below them moves up to
the nearest node that is listed. So the outline of a tree is the tree of its listed nodes: one
entry for each, in the order of the walk, and one entry below another exactly where the one node is
below the other. Entries are told apart by their places, which say at every step which of the
nested entries to take, as nodes are told apart by their paths.

## Main definitions

* `Node.listed` — whether a node has an entry in outlines.
* `Heading` — what an entry says of its node.
* `Outline.entries` — the entries of an outline in pre-order, each with its place.
* `Node.Nearest` — a node is the nearest listed one above another.
* `Outline.Mirrors` — an outline is the tree of the listed nodes.

## Main results

* `Node.isOk_outline_iff` — an outline fails exactly if the kind of one of its nodes does.
* `Outline.matched_outline` — entries stand below each other as their nodes do.
* `Outline.mirrors_outline` — the outline of a tree is the tree of its listed nodes.

## Design

Places and paths are compared by one relation, that of being a prefix: an entry is above another one
exactly if their nodes are. What is the direct parent on one side is then the nearest one above on
the other, since every beginning of a place is a place.
-/

namespace CodeIndex

/-! ## When there is an outline -/

namespace Node

/-- Asking the node for its kind fails. -/
def KindFails (n : Node) : Prop := ∃ fault, n.info.kind = .error fault

lemma isOk_outlineAll (ns : List Node) : (outlineAll ns).isOk = ns.all fun n => n.outline.isOk := by
  induction ns with
  | nil => rfl
  | cons n ns ih =>
    rw [outlineAll, List.all_cons, ← ih]
    cases outline n with
    | error fault => rfl
    | ok entries => cases outlineAll ns <;> rfl

/-- An outline fails exactly if the kind of one of the nodes fails that have a name and a range.

**Proof sketch.** By induction on the tree. The entries of the children are made first, and then, if
the node has a name and a range, its kind is asked for. -/
lemma isOk_outline_iff (root : Node) :
    root.outline.isOk = true ↔
      ∀ n ∈ root.preorder, n.name.isSome = true → n.positioned = true → ¬ n.KindFails := by
  induction root with
  | mk info children ih =>
    have hchildren : (outlineAll children).isOk = true ↔ ∀ c ∈ children, ∀ n ∈ c.preorder,
        n.name.isSome = true → n.positioned = true → ¬ n.KindFails := by
      rw [isOk_outlineAll, List.all_eq_true]
      exact forall₂_congr ih
    have hnode : (outline (mk info children)).isOk = true ↔ (outlineAll children).isOk = true ∧
        (info.name.isSome = true → info.span.isSome = true → info.kind.isOk = true) := by
      rw [outline]
      cases outlineAll children with
      | error fault => simp [Except.isOk, Except.toBool]
      | ok entries =>
        cases info.name <;> cases info.span <;> cases info.kind <;>
          simp [Except.isOk, Except.toBool]
    have hkind : info.kind.isOk = true ↔ ¬ KindFails (mk info children) := by
      unfold KindFails Node.info
      cases info.kind <;> simp [Except.isOk, Except.toBool]
    rw [hnode, hchildren, hkind, preorder_eq, List.forall_mem_cons, List.forall_mem_flatMap]
    exact and_comm

end Node

/-! ## What is listed -/

/-- Whether a node has an entry in outlines: it needs a name and a range. -/
def Node.listed (n : Node) : Bool := n.name.isSome && n.positioned

/-- The listed nodes of a tree in pre-order, each with its path. -/
def Node.listedOccurrences (root : Node) : List (List Nat × Node) :=
  root.occurrences.filter fun o => o.2.listed

/-- What an entry of an outline says of its node. -/
structure Heading where
  name : String
  type : String
  kind : SymbolKind
  range : Editor.Range

/-- A heading tells the name, the type, the kind and the range of a node. -/
structure Heading.Describes (h : Heading) (n : Node) : Prop where
  name_eq : n.name = some h.name
  type_eq : n.type = h.type
  kind_eq : n.info.kind = .ok h.kind
  range_eq : n.span.map Span.toEditor = some h.range

/-- One path leads to a proper ancestor of the end of another. -/
def Above (path path' : List Nat) : Prop := path <+: path' ∧ path ≠ path'

/-- The node at the end of one path is the nearest listed one above the end of another: it is above
it, and every other listed node that is stands above the nearest one, too. -/
structure Node.Nearest (root : Node) (path path' : List Nat) : Prop where
  above : Above path path'
  least : ∀ {other : List Nat} {m : Node}, root.at? other = some m → m.listed = true →
    Above other path' → other <+: path

lemma Above.iff_not_prefix {path path' : List Nat} :
    Above path path' ↔ path <+: path' ∧ ¬ path' <+: path := by
  refine and_congr_right fun hpre => not_congr ⟨?_, fun hback => ?_⟩
  · rintro rfl
    exact List.prefix_rfl
  · exact hpre.eq_of_length (Nat.le_antisymm hpre.length_le hback.length_le)

namespace Outline

/-! ## Entries and their places -/

mutual

/-- An entry and those below it in pre-order, each with its place, when the entry is the one with
the number `k` in its list. -/
def entriesAt (k : Nat) : Outline → List (List Nat × Heading)
  | entry name type kind range children =>
    ([k], ⟨name, type, kind, range⟩) :: (entriesFrom 0 children).map (Prod.map (k :: ·) id)

/-- The entries of a list in pre-order, when those of the list are numbered from `k` on. -/
def entriesFrom (k : Nat) : List Outline → List (List Nat × Heading)
  | [] => []
  | e :: es => entriesAt k e ++ entriesFrom (k + 1) es

end

/-- The entries of an outline in pre-order, each with its place: the number in its own list comes
behind the place of its parent. -/
def entries (es : List Outline) : List (List Nat × Heading) := entriesFrom 0 es

/-- A property holds of every outline if it passes from the nested entries to the entry. -/
@[elab_as_elim]
theorem entryInduction {motive : Outline → Prop}
    (entry : ∀ name type kind range children, (∀ c ∈ children, motive c) →
      motive (entry name type kind range children)) (e : Outline) : motive e :=
  @Outline.rec motive (fun es => ∀ c ∈ es, motive c) entry
    (fun _ hc => absurd hc List.not_mem_nil) (fun _ _ he hes => List.forall_mem_cons.2 ⟨he, hes⟩) e

lemma entriesFrom_append (k : Nat) (es es' : List Outline) :
    entriesFrom k (es ++ es') = entriesFrom k es ++ entriesFrom (k + es.length) es' := by
  induction es generalizing k with
  | nil => rfl
  | cons e es ih =>
    rw [List.cons_append, entriesFrom, entriesFrom, ih, List.append_assoc, List.length_cons,
      Nat.add_right_comm, Nat.add_assoc k]

/-- The beginning of a place is a place, and no place is empty. -/
def Closed (places : List (List Nat)) : Prop :=
  ∀ place ∈ places, place ≠ [] ∧ ∀ parent k, place = parent ++ [k] → parent ≠ [] → parent ∈ places

lemma Closed.append {places places' : List (List Nat)} (h : Closed places)
    (h' : Closed places') : Closed (places ++ places') := by
  intro place hplace
  rcases List.mem_append.1 hplace with hmem | hmem
  · exact ⟨(h place hmem).1, fun parent k heq hne =>
      List.mem_append_left _ ((h place hmem).2 parent k heq hne)⟩
  · exact ⟨(h' place hmem).1, fun parent k heq hne =>
      List.mem_append_right _ ((h' place hmem).2 parent k heq hne)⟩

/-- Nested entries take their places below the entry. -/
lemma Closed.below {places : List (List Nat)} (h : Closed places) (k : Nat) :
    Closed ([k] :: places.map (k :: ·)) := by
  intro place hplace
  rcases List.mem_cons.1 hplace with rfl | hmem
  · refine ⟨List.cons_ne_nil _ _, fun parent j heq hne => absurd ?_ hne⟩
    exact (List.append_eq_singleton_iff.1 heq.symm).elim And.left fun h => by simp at h
  · obtain ⟨below, hbelow, rfl⟩ := List.mem_map.1 hmem
    refine ⟨List.cons_ne_nil _ _, fun parent j heq hne => ?_⟩
    obtain ⟨i, parent, rfl⟩ := List.exists_cons_of_ne_nil hne
    obtain ⟨rfl, hrest⟩ := List.cons.inj heq
    cases parent with
    | nil => exact List.mem_cons_self
    | cons i parent =>
      exact List.mem_cons_of_mem _ (List.mem_map_of_mem
        ((h below hbelow).2 (i :: parent) j hrest (List.cons_ne_nil _ _)))

lemma closed_entriesFrom_of_forall {es : List Outline}
    (h : ∀ e ∈ es, ∀ k, Closed ((entriesAt k e).map Prod.fst)) (k : Nat) :
    Closed ((entriesFrom k es).map Prod.fst) := by
  induction es generalizing k with
  | nil => exact fun place hplace => absurd hplace List.not_mem_nil
  | cons e es ih =>
    rw [entriesFrom, List.map_append]
    exact (h e List.mem_cons_self k).append (ih (fun c hc => h c (List.mem_cons_of_mem _ hc)) _)

/-- The beginning of the place of an entry is the place of an entry. -/
lemma closed_entries (es : List Outline) : Closed ((entries es).map Prod.fst) := by
  have hentry : ∀ e k, Closed ((entriesAt k e).map Prod.fst) := by
    intro e
    induction e using entryInduction with
    | entry name type kind range children ih =>
      intro k
      have hbelow := (closed_entriesFrom_of_forall ih 0).below k
      rw [List.map_map] at hbelow
      rw [entriesAt, List.map_cons, List.map_map]
      exact hbelow
  exact closed_entriesFrom_of_forall (fun e _ => hentry e) 0

/-! ## Entries next to nodes -/

/-- Entries stand next to the nodes that they describe, and an entry is above another one exactly if
its node is above the other node. -/
structure Matched (es : List (List Nat × Heading)) (os : List (List Nat × Node)) : Prop where
  describes : List.Forall₂ (fun e o => e.2.Describes o.2) es os
  prefix_iff : ∀ x ∈ es.zip os, ∀ y ∈ es.zip os, (x.1.1 <+: y.1.1 ↔ x.2.1 <+: y.2.1)

/-- The places and paths of a list begin with numbers from `lo` on and below `hi`. -/
def Within {α : Type} (lo hi : Nat) (l : List (List Nat × α)) : Prop :=
  ∀ x ∈ l, ∃ i below, x.1 = i :: below ∧ lo ≤ i ∧ i < hi

lemma Within.not_prefix {α : Type} {lo mid hi : Nat} {l l' : List (List Nat × α)}
    (h : Within lo mid l) (h' : Within mid hi l') {x y : List Nat × α} (hx : x ∈ l) (hy : y ∈ l') :
    ¬ x.1 <+: y.1 ∧ ¬ y.1 <+: x.1 := by
  obtain ⟨i, below, hxi, -, hi⟩ := h x hx
  obtain ⟨j, below', hyj, hj, -⟩ := h' y hy
  rw [hxi, hyj, List.cons_prefix_cons, List.cons_prefix_cons]
  omega

namespace Matched

variable {es es' : List (List Nat × Heading)} {os os' : List (List Nat × Node)}

lemma nil : Matched [] [] where
  describes := .nil
  prefix_iff := fun _ hx => absurd hx List.not_mem_nil

/-- Lists that begin with different numbers have nothing to do with each other. -/
lemma append (h : Matched es os) (h' : Matched es' os') {k m k' i j i' : Nat}
    (hes : Within k m es) (hes' : Within m k' es') (hos : Within i j os) (hos' : Within j i' os') :
    Matched (es ++ es') (os ++ os') where
  describes := List.rel_append h.describes h'.describes
  prefix_iff := by
    rw [List.zip_append h.describes.length_eq]
    intro x hx y hy
    have hcross : ∀ a ∈ es.zip os, ∀ b ∈ es'.zip os', (a.1.1 <+: b.1.1 ↔ a.2.1 <+: b.2.1) ∧
        (b.1.1 <+: a.1.1 ↔ b.2.1 <+: a.2.1) := by
      intro a ha b hb
      have hplace := hes.not_prefix hes' (List.of_mem_zip ha).1 (List.of_mem_zip hb).1
      have hpath := hos.not_prefix hos' (List.of_mem_zip ha).2 (List.of_mem_zip hb).2
      exact ⟨iff_of_false hplace.1 hpath.1, iff_of_false hplace.2 hpath.2⟩
    rcases List.mem_append.1 hx with hx | hx <;> rcases List.mem_append.1 hy with hy | hy
    · exact h.prefix_iff x hx y hy
    · exact (hcross x hx y hy).1
    · exact (hcross y hy x hx).2
    · exact h'.prefix_iff x hx y hy

/-- Going down one more step changes nothing. -/
lemma below (h : Matched es os) (i : Nat) : Matched es (os.map (Prod.map (i :: ·) id)) where
  describes := by
    rw [List.forall₂_map_right_iff]
    exact h.describes
  prefix_iff := by
    intro x hx y hy
    rw [List.zip_map_right] at hx hy
    obtain ⟨x, hx', rfl⟩ := List.mem_map.1 hx
    obtain ⟨y, hy', rfl⟩ := List.mem_map.1 hy
    have hstep : i :: x.2.1 <+: i :: y.2.1 ↔ x.2.1 <+: y.2.1 := by simp [List.cons_prefix_cons]
    exact (h.prefix_iff x hx' y hy').trans hstep.symm

/-- An entry for the root of a tree goes above those for what stands below. -/
lemma above (h : Matched es os) {k m i : Nat} (hes : Within 0 m es) (hos : Within 0 i os)
    {a : Heading} {n : Node} (hn : a.Describes n) :
    Matched (([k], a) :: es.map (Prod.map (k :: ·) id)) (([], n) :: os) where
  describes := by
    refine .cons hn ?_
    rw [List.forall₂_map_left_iff]
    exact h.describes
  prefix_iff := by
    have hroot : ∀ z ∈ es.zip os, ¬ k :: z.1.1 <+: [k] ∧ ¬ z.2.1 <+: [] := by
      intro z hz
      obtain ⟨_, _, hplace, -⟩ := hes _ (List.of_mem_zip hz).1
      obtain ⟨_, _, hpath, -⟩ := hos _ (List.of_mem_zip hz).2
      simp [hplace, hpath, List.cons_prefix_cons]
    intro x hx y hy
    rw [List.zip_cons_cons, List.zip_map_left] at hx hy
    rcases List.mem_cons.1 hx with rfl | hx <;> rcases List.mem_cons.1 hy with rfl | hy
    · exact iff_of_true List.prefix_rfl List.prefix_rfl
    · obtain ⟨y, -, rfl⟩ := List.mem_map.1 hy
      exact iff_of_true (List.prefix_append [k] y.1.1) List.nil_prefix
    · obtain ⟨x, hx', rfl⟩ := List.mem_map.1 hx
      exact iff_of_false (hroot x hx').1 (hroot x hx').2
    · obtain ⟨x, hx', rfl⟩ := List.mem_map.1 hx
      obtain ⟨y, hy', rfl⟩ := List.mem_map.1 hy
      have hstep : k :: x.1.1 <+: k :: y.1.1 ↔ x.1.1 <+: y.1.1 := by simp [List.cons_prefix_cons]
      exact hstep.trans (h.prefix_iff x hx' y hy')

end Matched

/-! ## The outline of a tree -/

lemma Within.filter {α : Type} {lo hi : Nat} {l : List (List Nat × α)} (h : Within lo hi l)
    (p : List Nat × α → Bool) : Within lo hi (l.filter p) :=
  fun x hx => h x (List.mem_filter.1 hx).1

lemma within_entriesAt (k : Nat) (e : Outline) : Within k (k + 1) (entriesAt k e) := by
  cases e with
  | entry name type kind range children =>
    intro x hx
    rw [entriesAt] at hx
    rcases List.mem_cons.1 hx with rfl | hx
    · exact ⟨k, [], rfl, Nat.le_refl k, Nat.lt_succ_self k⟩
    · obtain ⟨y, -, rfl⟩ := List.mem_map.1 hx
      exact ⟨k, y.1, rfl, Nat.le_refl k, Nat.lt_succ_self k⟩

lemma within_entriesFrom (k : Nat) (es : List Outline) :
    Within k (k + es.length) (entriesFrom k es) := by
  induction es generalizing k with
  | nil => exact fun x hx => absurd hx List.not_mem_nil
  | cons e es ih =>
    intro x hx
    rw [entriesFrom] at hx
    rw [List.length_cons]
    rcases List.mem_append.1 hx with hx | hx
    · obtain ⟨i, below, heq, hlo, hhi⟩ := within_entriesAt k e x hx
      exact ⟨i, below, heq, hlo, by omega⟩
    · obtain ⟨i, below, heq, hlo, hhi⟩ := ih (k + 1) x hx
      exact ⟨i, below, heq, by omega, by omega⟩

lemma within_occurrencesFrom (i : Nat) (ns : List Node) :
    Within i (i + ns.length) (Node.occurrencesFrom i ns) := by
  rintro ⟨path, n⟩ hx
  obtain ⟨j, c, below, rfl, hc, -⟩ := Node.mem_occurrencesFrom_iff.1 hx
  have hj := (List.getElem?_eq_some_iff.1 hc).1
  exact ⟨i + j, below, rfl, by omega, by omega⟩

/-- The paths in one of several trees all begin with the number of the tree. -/
lemma within_map_occurrences {α : Type} (i : Nat) (l : List (List Nat × α)) :
    Within i (i + 1) (l.map (Prod.map (i :: ·) id)) := by
  intro x hx
  obtain ⟨y, -, rfl⟩ := List.mem_map.1 hx
  exact ⟨i, y.1, rfl, Nat.le_refl i, Nat.lt_succ_self i⟩

open Node (outlineAll occurrencesFrom)

lemma outlineAll_cons_eq_ok {n : Node} {ns : List Node} {es : List Outline}
    (h : outlineAll (n :: ns) = .ok es) :
    ∃ first rest, n.outline = .ok first ∧ outlineAll ns = .ok rest ∧ es = first ++ rest := by
  rw [outlineAll] at h
  split at h
  · cases h
  · next first hfirst =>
    split at h
    · cases h
    · next rest hrest => exact ⟨first, rest, hfirst, hrest, (Except.ok.inj h).symm⟩

/-- The outline of a tree has an entry of its own for the root, or it is that of what stands
below. -/
lemma outline_eq_ok {info : NodeInfo} {children : List Node} {es : List Outline}
    (h : (Node.mk info children).outline = .ok es) :
    ∃ below, outlineAll children = .ok below ∧
      ((Node.mk info children).listed = false ∧ es = below ∨
        ∃ name span kind, info.name = some name ∧ info.span = some span ∧ info.kind = .ok kind ∧
          es = [.entry name info.type kind span.toEditor below]) := by
  rw [Node.outline] at h
  split at h
  · cases h
  · next below hbelow =>
    refine ⟨below, hbelow, ?_⟩
    split at h
    · next name span hname hspan =>
      split at h
      · cases h
      · next kind hkind =>
        exact Or.inr ⟨name, span, kind, hname, hspan, hkind, (Except.ok.inj h).symm⟩
    · next hnone =>
      refine Or.inl ⟨?_, (Except.ok.inj h).symm⟩
      rw [Node.listed, Node.name, Node.positioned, Node.span, Node.info, Bool.and_eq_false_iff,
        Option.isSome_eq_false_iff, Option.isSome_eq_false_iff, Option.isNone_iff_eq_none,
        Option.isNone_iff_eq_none]
      cases hname : info.name with
      | none => exact Or.inl rfl
      | some name =>
        cases hspan : info.span with
        | none => exact Or.inr rfl
        | some span => exact absurd hspan (hnone name span hname)

/-- The outlines of several trees, one behind the other, match their listed nodes. -/
lemma matched_outlineAll {ns : List Node} {es : List Outline}
    (h : ∀ c ∈ ns, ∀ {first}, c.outline = .ok first → ∀ k,
      Matched (entriesFrom k first) c.listedOccurrences)
    (hes : outlineAll ns = .ok es) (i k : Nat) :
    Matched (entriesFrom k es) ((occurrencesFrom i ns).filter fun o => o.2.listed) := by
  induction ns generalizing es i k with
  | nil =>
    obtain rfl := Except.ok.inj hes
    exact .nil
  | cons n ns ih =>
    obtain ⟨first, rest, hfirst, hrest, rfl⟩ := outlineAll_cons_eq_ok hes
    have hn := (h n List.mem_cons_self hfirst k).below i
    have hns := ih (fun c hc => h c (List.mem_cons_of_mem _ hc)) hrest (i + 1) (k + first.length)
    rw [entriesFrom_append, occurrencesFrom, List.filter_append, List.filter_map]
    exact hn.append hns (within_entriesFrom k first) (within_entriesFrom _ rest)
      (within_map_occurrences i _) ((within_occurrencesFrom (i + 1) ns).filter _)

/-- **Entries stand below each other as their nodes do.** In pre-order, the entries of the outline
of a tree match its listed nodes.

**Proof sketch.** Induction on the tree. For a node that is not listed, the entries of the children
move up, and only the paths of the nodes get longer. For a listed one, a new entry and the root go
above all the others, on both sides. Entries of different children, like the children themselves,
have places and paths that begin with different numbers. -/
theorem matched_outline {root : Node} {es : List Outline} (h : root.outline = .ok es) (k : Nat) :
    Matched (entriesFrom k es) root.listedOccurrences := by
  induction root generalizing es k with
  | mk info children ih =>
    obtain ⟨below, hbelow, hcases⟩ := outline_eq_ok h
    have hchildren := fun k => matched_outlineAll (fun c hc {_} hes => ih c hc hes) hbelow 0 k
    rw [Node.listedOccurrences, Node.occurrences_eq]
    rcases hcases with ⟨hlisted, rfl⟩ | ⟨name, span, kind, hname, hspan, hkind, rfl⟩
    · rw [List.filter_cons_of_neg (by rw [hlisted]; exact Bool.false_ne_true)]
      exact hchildren k
    · have hdescribes : Heading.Describes ⟨name, info.type, kind, span.toEditor⟩
          (.mk info children) :=
        ⟨hname, rfl, hkind, by rw [Node.span, Node.info, hspan, Option.map_some]⟩
      have hlisted : (Node.mk info children).listed = true := by
        rw [Node.listed, Node.name, Node.positioned, Node.span, Node.info, hname, hspan]
        rfl
      rw [List.filter_cons_of_pos (by exact hlisted), entriesFrom, entriesFrom, List.append_nil,
        entriesAt]
      exact (hchildren 0).above (within_entriesFrom 0 below)
        ((within_occurrencesFrom 0 children).filter _) hdescribes

/-! ## Parents -/

/-- An outline is the tree of the listed nodes of a tree. -/
structure Mirrors (es : List Outline) (root : Node) : Prop where
  /-- In pre-order, the entries describe the listed nodes, one entry for each. -/
  describes : List.Forall₂ (fun e o => e.2.Describes o.2) (entries es) root.listedOccurrences
  /-- The listed nodes come in the order of the walk. -/
  walk : root.listedOccurrences.map Prod.snd = root.walk.filter Node.listed
  /-- The parent of an entry is the entry of the nearest listed node above. -/
  parent_iff : ∀ {place place' path path' : List Nat} {a b : Heading} {m n : Node},
    ((place, a), path, m) ∈ (entries es).zip root.listedOccurrences →
      ((place', b), path', n) ∈ (entries es).zip root.listedOccurrences →
        ((∃ k, place' = place ++ [k]) ↔ root.Nearest path path')
  /-- An entry has no parent if no listed node is above. -/
  top_iff : ∀ {place path : List Nat} {a : Heading} {n : Node},
    ((place, a), path, n) ∈ (entries es).zip root.listedOccurrences →
      ((∃ k, place = [k]) ↔
        ∀ {other m}, root.at? other = some m → m.listed = true → ¬ Above other path)

namespace Matched

variable {root : Node} {es : List Outline} {place place' path path' : List Nat} {a b : Heading}
  {m n : Node}

lemma above_iff (h : Matched (entries es) root.listedOccurrences)
    (hx : ((place, a), path, m) ∈ (entries es).zip root.listedOccurrences)
    (hy : ((place', b), path', n) ∈ (entries es).zip root.listedOccurrences) :
    Above place place' ↔ Above path path' := by
  rw [Above.iff_not_prefix, Above.iff_not_prefix]
  exact and_congr (h.prefix_iff _ hx _ hy) (not_congr (h.prefix_iff _ hy _ hx))

/-- A listed node has an entry. -/
lemma exists_entry (h : Matched (entries es) root.listedOccurrences)
    (hat : root.at? path = some n) (hn : n.listed = true) :
    ∃ place a, ((place, a), path, n) ∈ (entries es).zip root.listedOccurrences := by
  have hmem : (path, n) ∈ root.listedOccurrences :=
    List.mem_filter.2 ⟨Node.mem_occurrences_iff.2 hat, hn⟩
  rw [← List.map_snd_zip (Nat.le_of_eq h.describes.length_eq.symm)] at hmem
  obtain ⟨⟨⟨place, a⟩, o⟩, hx, rfl⟩ := List.mem_map.1 hmem
  exact ⟨place, a, hx⟩

/-- An entry above another one belongs to a listed node above. -/
lemma exists_node_above (h : Matched (entries es) root.listedOccurrences)
    (hy : ((place', b), path', n) ∈ (entries es).zip root.listedOccurrences)
    (hplace : place ∈ (entries es).map Prod.fst) (hab : Above place place') :
    ∃ a path m, ((place, a), path, m) ∈ (entries es).zip root.listedOccurrences ∧
      root.at? path = some m ∧ m.listed = true ∧ Above path path' := by
  rw [← List.map_fst_zip (Nat.le_of_eq h.describes.length_eq)] at hplace
  obtain ⟨_, he, rfl⟩ := List.mem_map.1 hplace
  obtain ⟨⟨⟨place, a⟩, path, m⟩, hx, rfl⟩ := List.mem_map.1 he
  obtain ⟨hocc, hlisted⟩ := List.mem_filter.1 (List.of_mem_zip hx).2
  exact ⟨a, path, m, hx, Node.mem_occurrences_iff.1 hocc, hlisted, (h.above_iff hx hy).1 hab⟩

lemma parent_iff (h : Matched (entries es) root.listedOccurrences)
    (hx : ((place, a), path, m) ∈ (entries es).zip root.listedOccurrences)
    (hy : ((place', b), path', n) ∈ (entries es).zip root.listedOccurrences) :
    (∃ k, place' = place ++ [k]) ↔ root.Nearest path path' := by
  constructor
  · rintro ⟨k, rfl⟩
    refine ⟨(h.above_iff hx hy).1 ⟨List.prefix_append _ _, by simp⟩, fun hat hlisted hother => ?_⟩
    obtain ⟨other, c, hz⟩ := h.exists_entry hat hlisted
    obtain ⟨hpre, hne⟩ := (h.above_iff hz hy).2 hother
    exact (h.prefix_iff _ hz _ hx).1 ((List.prefix_concat_iff.1 hpre).resolve_left hne)
  · rintro ⟨habove, hleast⟩
    obtain ⟨hpre, hne⟩ := (h.above_iff hx hy).2 habove
    have hclosed := closed_entries es
    have hplace : place ∈ (entries es).map Prod.fst := List.mem_map_of_mem (List.of_mem_zip hx).1
    obtain ⟨hne', hparent⟩ := hclosed place' (List.mem_map_of_mem (List.of_mem_zip hy).1)
    -- the parent of the lower entry is not above the nearest node, so it is the upper entry
    obtain ⟨parent, k, rfl⟩ := (List.eq_nil_or_concat' place').resolve_left hne'
    have hle : place <+: parent := (List.prefix_concat_iff.1 hpre).resolve_left hne
    have hsome : parent ≠ [] := by
      rintro rfl
      exact (hclosed place hplace).1 (List.prefix_nil.1 hle)
    obtain ⟨c, other, o, hz, hat, hlisted, hother⟩ :=
      h.exists_node_above hy (hparent parent k rfl hsome) ⟨List.prefix_append _ _, by simp⟩
    have hge : parent <+: place := (h.prefix_iff _ hz _ hx).2 (hleast hat hlisted hother)
    exact ⟨k, by rw [hle.eq_of_length (Nat.le_antisymm hle.length_le hge.length_le)]⟩

lemma top_iff (h : Matched (entries es) root.listedOccurrences)
    (hx : ((place, a), path, m) ∈ (entries es).zip root.listedOccurrences) :
    (∃ k, place = [k]) ↔
      ∀ {other n}, root.at? other = some n → n.listed = true → ¬ Above other path := by
  obtain ⟨hne, hparent⟩ := closed_entries es place (List.mem_map_of_mem (List.of_mem_zip hx).1)
  constructor
  · rintro ⟨k, rfl⟩ other n hat hlisted hother
    obtain ⟨place', b, hy⟩ := h.exists_entry hat hlisted
    obtain ⟨hpre, hne'⟩ := (h.above_iff hy hx).2 hother
    have hsome := (closed_entries es place' (List.mem_map_of_mem (List.of_mem_zip hy).1)).1
    exact hsome (List.prefix_nil.1 ((List.prefix_concat_iff.1 hpre).resolve_left hne'))
  · intro hnone
    obtain ⟨parent, k, rfl⟩ := (List.eq_nil_or_concat' place).resolve_left hne
    refine ⟨k, ?_⟩
    by_contra htop
    have hsome : parent ≠ [] := by
      rintro rfl
      exact htop rfl
    obtain ⟨-, other, o, -, hat, hlisted, hother⟩ :=
      h.exists_node_above hx (hparent parent k rfl hsome) ⟨List.prefix_append _ _, by simp⟩
    exact hnone hat hlisted hother

end Matched

/-- **The outline of a tree is the tree of its listed nodes.** Unless one of them has no kind to
tell, there is an outline. In pre-order it has an entry for each node of the walk that has a name
and a range, with the name, the type, the kind and the range of the node; the parent of an entry is
the entry of the nearest such node above, and there is no parent if no such node is above. -/
theorem mirrors_outline (root : Node) :
    ((∃ es, root.outline = .ok es) ↔ ∀ n ∈ root.walk, n.listed = true → ¬ n.KindFails) ∧
      ∀ {es}, root.outline = .ok es → Mirrors es root := by
  refine ⟨?_, fun {es} h => ?_⟩
  · have hok : (∃ es, root.outline = .ok es) ↔ root.outline.isOk = true := by
      cases root.outline <;> simp [Except.isOk, Except.toBool]
    rw [hok, Node.isOk_outline_iff, Node.walk_eq_preorder]
    simp only [Node.listed, Bool.and_eq_true, and_imp]
  · have hmatched : Matched (entries es) root.listedOccurrences := matched_outline h 0
    refine ⟨hmatched.describes, ?_, hmatched.parent_iff, hmatched.top_iff⟩
    rw [Node.listedOccurrences, Node.walk_eq_preorder, ← Node.map_snd_occurrences, List.filter_map]
    rfl

/-- A group in a tree that has no name itself. Below the group there are a definition in a block
without a name and one in a macro without a range; behind it there is a third one. -/
def shapesTree : Node :=
  .mk ⟨0, "Program", some ⟨⟨1, 0⟩, ⟨9, 0⟩⟩, none, .ok .variable, []⟩
    [.mk ⟨1, "Group", some ⟨⟨1, 0⟩, ⟨6, 1⟩⟩, some "shapes", .ok ⟨3⟩, []⟩
      [.mk ⟨2, "Block", some ⟨⟨2, 2⟩, ⟨5, 3⟩⟩, none, .ok .variable, []⟩
        [.mk ⟨3, "Def", some ⟨⟨3, 4⟩, ⟨3, 14⟩⟩, some "circle", .ok ⟨12⟩, []⟩ []],
      .mk ⟨4, "Macro", none, some "twice", .error ⟨"no kind"⟩, []⟩
        [.mk ⟨5, "Def", some ⟨⟨4, 4⟩, ⟨4, 14⟩⟩, some "square", .ok ⟨12⟩, []⟩ []]],
    .mk ⟨6, "Def", some ⟨⟨7, 0⟩, ⟨7, 8⟩⟩, some "circle", .ok ⟨12⟩, []⟩ []]

/-- Both inner definitions move up to the group, and the macro is left out with its name. -/
theorem mirrors_outline_shapes :
    shapesTree.outline =
        .ok [.entry "shapes" "Group" ⟨3⟩ ⟨⟨0, 0⟩, ⟨5, 1⟩⟩
            [.entry "circle" "Def" ⟨12⟩ ⟨⟨2, 4⟩, ⟨2, 14⟩⟩ [],
              .entry "square" "Def" ⟨12⟩ ⟨⟨3, 4⟩, ⟨3, 14⟩⟩ []],
          .entry "circle" "Def" ⟨12⟩ ⟨⟨6, 0⟩, ⟨6, 8⟩⟩ []] ∧
      Mirrors [.entry "shapes" "Group" ⟨3⟩ ⟨⟨0, 0⟩, ⟨5, 1⟩⟩
            [.entry "circle" "Def" ⟨12⟩ ⟨⟨2, 4⟩, ⟨2, 14⟩⟩ [],
              .entry "square" "Def" ⟨12⟩ ⟨⟨3, 4⟩, ⟨3, 14⟩⟩ []],
          .entry "circle" "Def" ⟨12⟩ ⟨⟨6, 0⟩, ⟨6, 8⟩⟩ []] shapesTree :=
  ⟨rfl, (mirrors_outline shapesTree).2 rfl⟩

end Outline

end CodeIndex
