import Mathlib.Data.List.Perm.Subperm
import CodeIndex.Proofs.Symbol.Identifiers
import CodeIndex.Proofs.Tree.Nesting

set_option relaxedAutoImplicit false
set_option autoImplicit false

/-!
# The references of an extracted symbol

Extraction stores every reference of a node as a field of its symbol. The field is named after the
slot of the reference, unless the name is in use, in which case a number is appended. There is
always a free number, so no reference takes the place of another field: a symbol carries exactly the
references of its node, in order. Where the occurrences of these do not overlap, the one that covers
a point decides on the reference there.

## Main definitions

* `Extraction.storedReference` — what is stored of a reference of a node.
* `Reference.around?` — a reference with the size of its occurrence, if that covers a point.

## Main results

* `Extraction.freeKey_notMem` — a free key is free.
* `Extraction.references_symbolOf` — a symbol carries the references of its node, in order.
* `Symbol.referenceAt?_of_apart` — the reference at a point that no other occurrence covers.
-/

namespace CodeIndex

namespace Extraction

/-! ## Free keys -/

/-- Numbered variants of a key differ, so one more than there are fields cannot all be in use. -/
lemma exists_free (fields : OrderedMap String FieldValue) (key : String) :
    ∃ k ∈ (List.range (fields.size + 1)).map fun n => key ++ "." ++ toString (n + 1),
      k ∉ fields.keys := by
  by_contra hall
  push Not at hall
  have hnodup : ((List.range (fields.size + 1)).map fun n =>
      key ++ "." ++ toString (n + 1)).Nodup := by
    refine List.nodup_range.map fun m n hmn => ?_
    have hdot : ".".toList = ['.'] := rfl
    have hnumber := (append_number_inj hdot hdot rfl rfl hmn).2.2
    omega
  have hlength := (hnodup.subperm hall).length_le
  have hsize : fields.keys.length = fields.size := List.length_map ..
  rw [List.length_map, List.length_range, hsize] at hlength
  omega

/-- A free key is free. -/
lemma freeKey_notMem (fields : OrderedMap String FieldValue) (key : String) :
    freeKey fields key ∉ fields.keys := by
  unfold freeKey
  split
  · obtain ⟨k, hk, hfree⟩ := exists_free fields key
    cases hfind : ((List.range (fields.size + 1)).map fun n =>
        key ++ "." ++ toString (n + 1)).find? fun k => !fields.contains k with
    | none =>
      have hused := List.find?_eq_none.1 hfind k hk
      rw [Bool.not_eq_true', Bool.not_eq_false, OrderedMap.contains_eq_true_iff] at hused
      exact absurd hused hfree
    | some k' =>
      have hunused := List.find?_some hfind
      rw [Option.getD_some, ← OrderedMap.contains_eq_true_iff]
      simpa using hunused
  · next hunused => rwa [OrderedMap.contains_eq_true_iff] at hunused

/-! ## Stored references -/

variable {uri : Uri} {table : List (Node × String)} {byName : Bool}

/-- What is stored of a reference of a node. -/
def storedReference (table : List (Node × String)) (byName : Bool) (owner : Span)
    (r : NamedReference) : Reference :=
  ⟨r.name, resolve table byName r, occurrenceWithin owner r⟩

/-- A reference is added under a free key, so that its field comes behind those that are there. -/
lemma entries_addReference (owner : Span) (s : Symbol) (r : NamedReference) :
    (addReference table byName owner s r).fields.entries = s.fields.entries ++
      [(freeKey s.fields r.field, .reference (storedReference table byName owner r))] :=
  OrderedMap.entries_insert_of_notMem _ (freeKey_notMem s.fields r.field)

/-- A reference is added behind those that are there. -/
lemma references_addReference (owner : Span) (s : Symbol) (r : NamedReference) :
    (addReference table byName owner s r).references =
      s.references ++ [(freeKey s.fields r.field, storedReference table byName owner r)] := by
  rw [Symbol.references, entries_addReference, List.filterMap_append]
  rfl

lemma references_foldl_addReference (owner : Span) (refs : List NamedReference) (s : Symbol) :
    (refs.foldl (addReference table byName owner) s).references.map Prod.snd =
      s.references.map Prod.snd ++ refs.map (storedReference table byName owner) := by
  induction refs generalizing s with
  | nil => simp
  | cons r refs ih =>
    rw [List.foldl_cons, ih, references_addReference, List.map_append, List.append_assoc]
    rfl

/-- A symbol carries the references of its node, in order. -/
lemma references_symbolOf (n : Node) (owner : Span) (id : String) :
    (symbolOf uri table byName n owner id).references.map Prod.snd =
      n.references.map (storedReference table byName owner) := by
  unfold symbolOf
  rw [references_foldl_addReference]
  rfl

/-- So does what extraction makes of a node. -/
lemma references_of_symbolOf? {n : Node} {s : Symbol} (h : symbolOf? uri table byName n = some s) :
    ∃ owner, n.span = some owner ∧
      s.references.map Prod.snd = n.references.map (storedReference table byName owner) := by
  unfold symbolOf? at h
  split at h
  · next owner id howner _ =>
    obtain rfl := Option.some.inj h
    exact ⟨owner, howner, references_symbolOf n owner id⟩
  · cases h

end Extraction

/-! ## The reference at a point -/

/-- A reference with the size of its occurrence, if that covers a point. -/
def Reference.around? (p : Point) (r : Reference) : Option (Int × Reference) :=
  match r.occurrence with
  | some o => if o.containsPoint p then some (o.size, r) else none
  | none => none

lemma Reference.around?_eq_none {p : Point} {r : Reference}
    (h : ∀ o, r.occurrence = some o → o.containsPoint p = false) : r.around? p = none := by
  unfold around?
  split
  · next o ho => rw [h o ho, if_neg Bool.false_ne_true]
  · rfl

namespace Symbol

lemma referencesAround_eq (s : Symbol) (p : Point) :
    s.referencesAround p = (s.references.map Prod.snd).filterMap (Reference.around? p) := by
  rw [List.filterMap_map]
  rfl

/-- Where no other occurrence overlaps that of a reference, the reference is the one at every point
of its occurrence. -/
lemma referenceAt?_of_apart {s : Symbol} {front rest : List Reference} {ref : Reference}
    (hrefs : s.references.map Prod.snd = front ++ ref :: rest) {c : Span}
    (hc : ref.occurrence = some c)
    (hapart : ∀ other ∈ front ++ rest, ∀ o, other.occurrence = some o → c.overlaps o = false)
    {p : Point} (hp : c.containsPoint p = true) : s.referenceAt? p = some ref := by
  have hnone : ∀ other ∈ front ++ rest, other.around? p = none := by
    refine fun other hother => Reference.around?_eq_none fun o ho => ?_
    rw [Bool.eq_false_iff]
    intro hcovers
    have hoverlaps := Span.overlaps_of_containsPoint hp hcovers
    rw [hapart other hother o ho] at hoverlaps
    cases hoverlaps
  have hfront : front.filterMap (Reference.around? p) = [] :=
    List.filterMap_eq_nil_iff.2 fun other hother => hnone other (List.mem_append_left _ hother)
  have hrest : rest.filterMap (Reference.around? p) = [] :=
    List.filterMap_eq_nil_iff.2 fun other hother => hnone other (List.mem_append_right _ hother)
  have href : ref.around? p = some (c.size, ref) := by
    simp only [Reference.around?, hc, hp, if_true]
  rw [referenceAt?, referencesAround_eq, hrefs, List.filterMap_append, hfront, List.nil_append,
    List.filterMap_cons_some href, hrest]
  rfl

end Symbol

end CodeIndex
