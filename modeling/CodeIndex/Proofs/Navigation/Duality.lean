import Mathlib.Data.List.Basic
import CodeIndex.Navigation
import CodeIndex.Proofs.Repository.Refinement

set_option relaxedAutoImplicit false
set_option autoImplicit false

/-!
# From a reference to its definition and back

Following a reference commits itself three times: to the narrowest symbol at the position, to the
narrowest occurrence on that symbol, and to the symbol that carries the identifier of the target.
Listing the references of a symbol looks at every field of every symbol. This file shows that the
second undoes the first: asked at the symbol that a definition leads to, the list contains the
occurrence one came from, and it has exactly one place for each field that refers to the symbol.

## Main definitions

* `Navigation.occurrenceCount` — how many fields of a repository refer to an identifier and say
  where.
* `Navigation.LeadsBack` — the references of the symbol at a location contain the occurrence at a
  position.

## Main results

* `Repository.Consistent.find?_eq_some` — the symbol found at a point is a narrowest one there.
* `Navigation.length_flatMap_occurrencesOf` — one place is listed for each referring field.
* `Navigation.leadsBack_definition` — following a reference leads back.
-/

namespace CodeIndex

/-! ## What the queries find -/

namespace Symbol

lemma mem_of_leastOf {α : Type} {l : List (Int × α)} {x : Int × α} (h : leastOf l = some x) :
    x ∈ l := by
  induction l with
  | nil => cases h
  | cons y ys ih =>
    rw [leastOf] at h
    cases hys : leastOf ys with
    | none =>
      rw [hys] at h
      simp_all
    | some z =>
      rw [hys] at h
      dsimp only at h
      split at h
      · obtain rfl := Option.some.inj h
        exact List.mem_cons_of_mem _ (ih hys)
      · obtain rfl := Option.some.inj h
        exact List.mem_cons_self

/-- The listed references are the reference fields. -/
lemma mem_references_iff {s : Symbol} {key : String} {ref : Reference} :
    (key, ref) ∈ s.references ↔ s.fields.get? key = some (.reference ref) := by
  rw [references, List.mem_filterMap, OrderedMap.get?_eq_some_iff]
  constructor
  · rintro ⟨⟨k, value⟩, hmem, hvalue⟩
    cases value with
    | reference r =>
      obtain ⟨rfl, rfl⟩ : k = key ∧ r = ref := by simpa [FieldValue.reference?] using hvalue
      exact hmem
    | text _ => cases hvalue
    | flag _ => cases hvalue
    | number _ => cases hvalue
  · intro hmem
    exact ⟨_, hmem, rfl⟩

/-- The reference at a point is a reference field whose occurrence covers the point. -/
lemma exists_field_of_referenceAt? {s : Symbol} {p : Point} {ref : Reference}
    (h : s.referenceAt? p = some ref) :
    ∃ key occurrence, s.fields.get? key = some (.reference ref) ∧
      ref.occurrence = some occurrence ∧ occurrence.containsPoint p = true := by
  obtain ⟨⟨size, r⟩, hleast, rfl⟩ := Option.map_eq_some_iff.1 h
  obtain ⟨⟨key, r'⟩, hmem, hr⟩ := List.mem_filterMap.1 (mem_of_leastOf hleast)
  dsimp only at hr
  split at hr
  · next occurrence hocc =>
    split at hr
    · next hp =>
      obtain ⟨-, rfl⟩ := Prod.mk.inj (Option.some.inj hr)
      exact ⟨key, occurrence, mem_references_iff.1 hmem, hocc, hp⟩
    · cases hr
  · cases hr

end Symbol

namespace Repository.Consistent

variable {r : Repository}

/-- The symbol found at a point belongs to the file, contains the point, and is no wider than any
other symbol of the file that does. -/
lemma find?_eq_some (h : r.Consistent) {uri : Uri} {p : Point} {s : Symbol}
    (hs : r.find? uri p = some s) :
    s ∈ r.toList ∧ s.uri = uri ∧ s.containsPoint p = true ∧
      ∀ t ∈ r.toList, t.uri = uri → t.containsPoint p = true → s.width ≤ t.width := by
  rw [find?, h.search_eq] at hs
  set around := r.toList.filter fun s => decide (s.uri = uri) && s.containsPoint p with haround
  have hmem : ∀ t, t ∈ around ↔ t ∈ r.toList ∧ t.uri = uri ∧ t.containsPoint p = true := by
    intro t
    simp [haround, List.mem_filter]
  have hfirst : s ∈ around := by simpa using List.mem_of_head? hs
  refine ⟨((hmem s).1 hfirst).1, ((hmem s).1 hfirst).2.1, ((hmem s).1 hfirst).2.2, ?_⟩
  intro t ht huri hp
  have hall : around.reverse.Pairwise fun _ _ => True := List.pairwise_of_forall fun _ _ => trivial
  have hsorted := pairwise_mergeSort_key Symbol.width hall
  obtain ⟨rest, hrest⟩ := List.head?_eq_some_iff.1 hs
  rw [hrest, List.pairwise_cons] at hsorted
  have hmemsort : t ∈ s :: rest := by
    rw [← hrest, List.mem_mergeSort, List.mem_reverse]
    exact (hmem t).2 ⟨ht, huri, hp⟩
  rcases List.mem_cons.1 hmemsort with rfl | hlater
  · exact Int.le_refl _
  · have := hsorted.1 t hlater
    omega

end Repository.Consistent

namespace Navigation

/-! ## Counting references -/

/-- Whether a field refers to an identifier and says where. -/
def refersTo (id : String) (value : FieldValue) : Bool :=
  match value with
  | .reference ref => ref.target == some id && ref.occurrence.isSome
  | _ => false

/-- The number of fields in a repository that refer to an identifier and say where. -/
def occurrenceCount (r : Repository) (id : String) : Nat :=
  (r.toList.flatMap fun s => s.fields.values).countP (refersTo id)

/-- One place is listed for each field of a symbol that refers to the identifier. -/
lemma length_occurrencesOf (id : String) (s : Symbol) :
    (occurrencesOf id s).length = s.fields.values.countP (refersTo id) := by
  rw [occurrencesOf, Symbol.referencesTo, Symbol.references, OrderedMap.values]
  induction s.fields.entries with
  | nil => rfl
  | cons e es ih =>
    obtain ⟨key, value⟩ := e
    cases value with
    | reference ref =>
      by_cases htarget : ref.target = some id
      · cases hocc : ref.occurrence <;>
          simp_all [FieldValue.reference?, refersTo]
      · simp_all [FieldValue.reference?, refersTo]
    | text _ => simpa [FieldValue.reference?, refersTo] using ih
    | flag _ => simpa [FieldValue.reference?, refersTo] using ih
    | number _ => simpa [FieldValue.reference?, refersTo] using ih

/-- One place is listed for each field in the repository that refers to the identifier. -/
lemma length_flatMap_occurrencesOf (r : Repository) (id : String) :
    (r.toList.flatMap (occurrencesOf id)).length = occurrenceCount r id := by
  rw [occurrenceCount, List.length_flatMap, List.countP_flatMap]
  refine congrArg List.sum (List.map_congr_left fun s _ => ?_)
  exact length_occurrencesOf id s

/-- A field that refers to the identifier has its place in the list. -/
lemma mem_occurrencesOf {id key : String} {s : Symbol} {ref : Reference} {occurrence : Span}
    (hfield : s.fields.get? key = some (.reference ref)) (htarget : ref.target = some id)
    (hocc : ref.occurrence = some occurrence) :
    ⟨s.uri, occurrence.toEditor⟩ ∈ occurrencesOf id s := by
  refine List.mem_filterMap.2 ⟨ref, List.mem_filter.2 ⟨?_, by simp [htarget]⟩, by rw [hocc]; rfl⟩
  exact List.mem_map.2 ⟨(key, ref), Symbol.mem_references_iff.2 hfield, rfl⟩

/-! ## There and back -/

/-- A location is that of a stored symbol, the narrowest symbol at a position has a field that
refers to it there, and wherever the symbol is the one found, its references contain the occurrence
of that field: one place for each field that refers to the symbol, followed by the location of the
symbol itself if it is asked for. -/
def LeadsBack (r : Repository) (uri : Uri) (pos : Editor.Position) (loc : Location) : Prop :=
  ∃ d ∈ r.toList, (∃ range, d.range = some range ∧ loc = ⟨d.uri, range.toEditor⟩) ∧
    ∃ o, r.find? uri pos.toPoint = some o ∧
      (∀ s ∈ r.toList, s.uri = uri → s.containsPoint pos.toPoint = true → o.width ≤ s.width) ∧
      ∃ key ref occurrence, o.fields.get? key = some (.reference ref) ∧
        ref.target = some d.id ∧ ref.occurrence = some occurrence ∧
        occurrence.containsPoint pos.toPoint = true ∧
        ∀ q : Editor.Position, r.find? d.uri q.toPoint = some d →
          ⟨o.uri, occurrence.toEditor⟩ ∈ references r d.uri q false ∧
          (references r d.uri q false).length = occurrenceCount r d.id ∧
          references r d.uri q true = references r d.uri q false ++ [loc]

/-- The references at a position where a symbol is found. -/
lemma references_of_find? {r : Repository} {uri : Uri} {q : Editor.Position} {d : Symbol}
    (h : r.find? uri q.toPoint = some d) (declaration : Bool) :
    references r uri q declaration = r.toList.flatMap (occurrencesOf d.id) ++
      (if declaration then d.location?.toList else []) := by
  rw [references, h]

/-- **Following a reference leads back.** In every repository, whatever was stored, removed and
committed before: if the definition of what is referred to at a position is found, then its
location is that of a stored symbol, and the references of that symbol contain the occurrence at
the position. -/
theorem leadsBack_definition (changes : List Repository.Change) {uri : Uri}
    {pos : Editor.Position} {loc : Location}
    (h : definition? (Repository.run changes) uri pos = some loc) :
    LeadsBack (Repository.run changes) uri pos loc := by
  obtain ⟨hc, -⟩ := Repository.consistent_empty.applyAll changes
  obtain ⟨o, hfind, h⟩ := Option.bind_eq_some_iff.1 h
  obtain ⟨ref, href, h⟩ := Option.bind_eq_some_iff.1 h
  obtain ⟨id, htarget, h⟩ := Option.bind_eq_some_iff.1 h
  obtain ⟨d, hload, hloc⟩ := Option.bind_eq_some_iff.1 h
  obtain ⟨range, hrange, rfl⟩ := Option.map_eq_some_iff.1 hloc
  obtain ⟨hd, rfl⟩ := (Repository.Consistent.load?_eq_some_iff hc).1 hload
  obtain ⟨ho, -, -, hleast⟩ := Repository.Consistent.find?_eq_some hc hfind
  obtain ⟨key, occurrence, hfield, hocc, hcovers⟩ := Symbol.exists_field_of_referenceAt? href
  refine ⟨d, hd, ⟨range, hrange, rfl⟩, o, hfind, hleast, key, ref, occurrence, hfield, htarget,
    hocc, hcovers, fun q hq => ?_⟩
  rw [references_of_find? hq, references_of_find? hq, hloc]
  simp only [Bool.false_eq_true, ↓reduceIte, List.append_nil, Option.toList_some]
  refine ⟨?_, length_flatMap_occurrencesOf _ _, trivial⟩
  exact List.mem_flatMap.2 ⟨o, ho, mem_occurrencesOf hfield htarget hocc⟩

/-- A declaration in one file, and in another a symbol that refers to it twice, by overlapping
occurrences, and once without saying where. -/
def crossReferences : List Repository.Change :=
  [.store (.create "d" ⟨"file:///d"⟩ (some ⟨⟨3, 0⟩, ⟨3, 9⟩⟩)),
    .store ((((Symbol.create "o" ⟨"file:///o"⟩ (some ⟨⟨1, 0⟩, ⟨2, 0⟩⟩)).withField "wide"
      (.reference ⟨none, some "d", some ⟨⟨1, 0⟩, ⟨1, 8⟩⟩⟩)).withField "narrow"
      (.reference ⟨some "x", some "d", some ⟨⟨1, 2⟩, ⟨1, 4⟩⟩⟩)).withField "nowhere"
      (.reference ⟨some "x", some "d", none⟩))]

/-- The definition is found across files, and the references lead back to the place. -/
theorem leadsBack_definition_crossReferences :
    definition? (Repository.run crossReferences) ⟨"file:///o"⟩ ⟨0, 3⟩ =
        some ⟨⟨"file:///d"⟩, ⟨⟨2, 0⟩, ⟨2, 9⟩⟩⟩ ∧
      LeadsBack (Repository.run crossReferences) ⟨"file:///o"⟩ ⟨0, 3⟩
        ⟨⟨"file:///d"⟩, ⟨⟨2, 0⟩, ⟨2, 9⟩⟩⟩ := by
  have hdefinition : definition? (Repository.run crossReferences) ⟨"file:///o"⟩ ⟨0, 3⟩ =
      some ⟨⟨"file:///d"⟩, ⟨⟨2, 0⟩, ⟨2, 9⟩⟩⟩ := by decide
  exact ⟨hdefinition, leadsBack_definition crossReferences hdefinition⟩

end Navigation

end CodeIndex
