import Mathlib.Data.List.Infix
import CodeIndex.Navigation
import CodeIndex.Proofs.Text.LowerCase

set_option relaxedAutoImplicit false
set_option autoImplicit false

/-!
# Finding symbols by a piece of their name

A name query compares lower-case forms, which are made of the query and of the name as whole texts.
A piece of a name as it is written finds the symbol if its capital sigmas keep their forms, so
certainly if it has none; but where a sigma stands at the end of the piece and not at the end of a
word of the name, or the other way round, the piece may find nothing.

## Main results

* `Navigation.occursIn_iff` — the search for one text in another.
* `Navigation.workspaceSymbols_of_size_le` — a limit that no repository of this size reaches.
* `Navigation.found_by_piece` — which queries find a symbol by its name, and which pieces of the
  name are among them.
* `Navigation.piece_not_found` — a piece of a name that does not find it.
-/

namespace CodeIndex

namespace Navigation

/-- The search for one text in another finds it exactly if it is a piece of the other. -/
lemma occursIn_iff {needle hay : List Char} : occursIn needle hay = true ↔ needle <:+: hay := by
  induction hay with
  | nil => rw [occursIn, List.isEmpty_iff, List.infix_nil]
  | cons c cs ih =>
    rw [occursIn, Bool.or_eq_true, ih, List.isPrefixOf_iff_prefix, List.infix_cons_iff]

/-- What is listed of a symbol with a range and a name of its own, if its name contains the
query. -/
lemma information?_eq_some_iff {query : String} {s : Symbol} {info : SymbolInformation} :
    information? query s = some info ↔ ∃ name range, s.name? = some name ∧ s.range = some range ∧
      name ≠ s.id ∧ query.toList <:+: (Text.lowercase name).toList ∧
        info = ⟨name, .variable, ⟨s.uri, range.toEditor⟩, s.type?⟩ := by
  unfold information?
  split
  · next name range hname hrange =>
    have hmatch : (name == s.id || !occursIn query.toList (Text.lowercase name).toList) = true ↔
        ¬ (name ≠ s.id ∧ query.toList <:+: (Text.lowercase name).toList) := by
      rw [Bool.or_eq_true, beq_iff_eq, Bool.not_eq_true', ← Bool.not_eq_true, occursIn_iff, ne_eq,
        not_and_or, not_not]
    constructor
    · intro h
      split at h
      · cases h
      · next hcond =>
        obtain ⟨hne, hpiece⟩ := not_not.1 (mt hmatch.2 hcond)
        exact ⟨name, range, hname, hrange, hne, hpiece, (Option.some.inj h).symm⟩
    · rintro ⟨name', range', hname', hrange', hne, hpiece, rfl⟩
      obtain rfl := Option.some.inj (hname.symm.trans hname')
      obtain rfl := Option.some.inj (hrange.symm.trans hrange')
      rw [if_neg fun h => hmatch.1 h ⟨hne, hpiece⟩]
  · next hnone =>
    refine iff_of_false (by simp) ?_
    rintro ⟨name, range, hname, hrange, -⟩
    exact hnone name range hname hrange

variable {r : Repository} {query : String} {limit : Nat}

/-- A limit that no repository of this size reaches cuts nothing off. -/
lemma workspaceSymbols_of_size_le (h : r.size ≤ limit) :
    workspaceSymbols r query limit = r.toList.filterMap (information? (Text.lowercase query)) := by
  have hlength : r.toList.length = r.size := List.length_map ..
  refine List.take_of_length_le ?_
  exact Nat.le_trans (List.length_filterMap_le ..) (hlength ▸ h)

/-- **A symbol is found by the pieces of its name whose sigmas keep.** With a limit that is not
reached, a symbol that has a range and a name of its own is listed exactly if the lower-case form of
the query is a piece of that of its name. So it is for every piece of the name as written without a
capital sigma, and for every piece whose capital sigmas stand at the end of a word of the piece
exactly if they do of the name. -/
theorem found_by_piece {s : Symbol} {name : String} {range : Span} (hs : s ∈ r.toList)
    (hname : s.name? = some name) (hrange : s.range = some range) (hne : name ≠ s.id)
    (hlimit : r.size ≤ limit) (query : String) :
    let listed := (⟨name, .variable, ⟨s.uri, range.toEditor⟩, s.type?⟩ : SymbolInformation) ∈
      workspaceSymbols r query limit
    (listed ↔ (Text.lowercase query).toList <:+: (Text.lowercase name).toList) ∧
      ('Σ' ∉ query.toList → query.toList <:+: name.toList → listed) ∧
      ∀ {before after}, name.toList = before ++ query.toList ++ after →
        Text.SigmasKeep before query.toList after → listed := by
  intro listed
  have hlisted : listed ↔ (Text.lowercase query).toList <:+: (Text.lowercase name).toList := by
    rw [show listed = (_ ∈ workspaceSymbols r query limit) from rfl,
      workspaceSymbols_of_size_le hlimit, List.mem_filterMap]
    constructor
    · -- another symbol may be listed with the same name, but then its name contains the query
      rintro ⟨t, -, ht⟩
      obtain ⟨name', range', -, -, -, hmatch, hsame⟩ := information?_eq_some_iff.1 ht
      rwa [(SymbolInformation.mk.inj hsame).1]
    · intro hmatch
      exact ⟨s, hs, information?_eq_some_iff.2 ⟨name, range, hname, hrange, hne, hmatch, rfl⟩⟩
  refine ⟨hlisted, fun hsigma hpiece => ?_, fun hsplit hkeep => ?_⟩
  · obtain ⟨before, after, hsplit⟩ := hpiece
    exact hlisted.2
      (Text.lowercase_isInfix hsplit.symm (Text.sigmasKeep_of_notMem hsigma before after))
  · exact hlisted.2 (Text.lowercase_isInfix hsplit hkeep)

/-- A repository with one symbol, which is named by three Greek capitals, a sigma in their
middle. -/
def greekRepository : Repository :=
  Repository.empty.store ((Symbol.create "n1" ⟨"file:///w/a.mini"⟩
    (some ⟨⟨1, 0⟩, ⟨1, 3⟩⟩)).withField Symbol.nameField (.text "ΑΣΑ"))

/-- The sigma begins the last two letters and so is not final there, and neither is it in the
name. -/
theorem found_by_piece_greek :
    "ΑΣΑ".toList = ['Α'] ++ "ΣΑ".toList ++ [] ∧
      ⟨"ΑΣΑ", .variable, ⟨⟨"file:///w/a.mini"⟩, ⟨⟨0, 0⟩, ⟨0, 3⟩⟩⟩, none⟩ ∈
        workspaceSymbols greekRepository "ΣΑ" 1 := by
  have hs : (Symbol.create "n1" ⟨"file:///w/a.mini"⟩ (some ⟨⟨1, 0⟩, ⟨1, 3⟩⟩)).withField
      Symbol.nameField (.text "ΑΣΑ") ∈ greekRepository.toList := List.mem_singleton.2 rfl
  have hne : "ΑΣΑ" ≠ "n1" := by decide
  have hkeep : Text.SigmasKeep ['Α'] "ΣΑ".toList [] := by
    intro l r hsplit
    have hletters : ['Σ', 'Α'] = l ++ 'Σ' :: r := hsplit
    rcases l with _ | ⟨c, _ | ⟨d, l⟩⟩
    · obtain rfl : ['Α'] = r := (List.cons.inj hletters).2
      decide +kernel
    · simp at hletters
    · simp at hletters
  exact ⟨rfl, (found_by_piece hs rfl rfl hne (Nat.le_refl 1) "ΣΑ").2.2 rfl hkeep⟩

/-- At the end of the first two letters the sigma is final, but in the name it is not: they do not
find the symbol although they stand in its name. -/
theorem piece_not_found :
    greekRepository.toList.map (fun s => (s.id, s.name?, s.range)) =
        [("n1", some "ΑΣΑ", some ⟨⟨1, 0⟩, ⟨1, 3⟩⟩)] ∧
      "ΑΣ".toList <:+: "ΑΣΑ".toList ∧ greekRepository.size ≤ 1 ∧
      workspaceSymbols greekRepository "ΑΣ" 1 = [] := by
  decide +kernel

end Navigation

end CodeIndex
