import Mathlib.Data.List.Forall2
import CodeIndex.Proofs.Navigation.Matching
import CodeIndex.Proofs.Symbol.Fields
import CodeIndex.Proofs.Workspace.WholeTrees

set_option relaxedAutoImplicit false
set_option autoImplicit false

/-!
# Listing the named symbols of a workspace

The empty query asks for every symbol that has a name of its own. Whether a symbol has one is not
stored: extraction lets the identifier stand in for a missing name, and the listing takes a name
that equals the identifier for one that was missing. So what is listed depends on the scheme of the
identifiers. A symbol whose node declares no name is never listed, and one whose node declares a
name is left out exactly if its identifier came out as that name.

## Main definitions

* `Language.Extracts` — a symbol was made of a node of a tree of its file.
* `Navigation.declared` — what there is to list of a symbol, by the name that its node declares.

## Main results

* `Workspace.Reachable.exists_nodes` — every symbol of a workspace was made of a node.
* `Navigation.listed_of_reachable` — what the empty query lists, and when it lists every symbol
  whose node declares a name.
* `Navigation.declared_name_unlisted` — a workspace with distinct identifiers in which it does not.
-/

namespace CodeIndex

open Extraction

/-- A symbol is what extraction makes of a node of a tree, which the parser handed out for some text
of the file. -/
def Language.Extracts (language : Language) (n : Node) (s : Symbol) : Prop :=
  ∃ text root, language.tree? s.uri text = some root ∧ n ∈ root.preorder ∧
    symbolOf? s.uri (assign s.uri language.ids root) language.resolveByName n = some s

/-! ## The nodes of stored symbols -/

namespace Workspace

variable {language : Language} {w : Workspace}

/-- Every symbol of a workspace was made of a node, whatever came before. -/
lemma Reachable.exists_extracts (h : Reachable language w) {s : Symbol}
    (hs : s ∈ w.repository.toList) : ∃ n, language.Extracts n s := by
  induction h with
  | empty => cases hs
  | @synchronize w h uri text version ih =>
    rw [(toList_synchronize h.consistent uri text version).2] at hs
    cases htree : language.tree? uri text with
    | none =>
      rw [SymbolList.syncFile_of_none htree] at hs
      exact ih hs
    | some root =>
      rw [SymbolList.syncFile_of_some htree] at hs
      rcases SymbolList.mem_storeAll hs with hold | hnew
      · exact ih (List.mem_filter.1 hold).1
      · obtain ⟨n, hn, hsymbol⟩ := List.mem_filterMap.1 hnew
        obtain rfl := (symbolOf?_eq_some hsymbol).1
        rw [Node.walk_eq_preorder] at hn
        exact ⟨n, text, root, htree, hn, hsymbol⟩
  | drop h uri ih =>
    have hmem := (h.consistent.toList_deleteFile uri) ▸ hs
    exact ih (List.mem_filter.1 hmem).1
  | reset => cases hs
  | markOpen _ _ ih => exact ih hs
  | markClosed _ _ ih => exact ih hs
  | forget _ _ ih => exact ih hs
  | redirect _ _ ih => exact ih hs
  | tokenize _ _ _ ih => exact ih hs

/-- The symbols of a workspace in store order, each with a node of which it was made. -/
lemma Reachable.exists_nodes (h : Reachable language w) :
    ∃ nodes, List.Forall₂ language.Extracts nodes w.repository.toList := by
  have hall : ∀ s ∈ w.repository.toList, ∃ n, language.Extracts n s := fun s => h.exists_extracts
  generalize w.repository.toList = symbols at hall
  induction symbols with
  | nil => exact ⟨[], .nil⟩
  | cons s symbols ih =>
    obtain ⟨⟨n, hn⟩, hrest⟩ := List.forall_mem_cons.1 hall
    obtain ⟨nodes, hnodes⟩ := ih hrest
    exact ⟨n :: nodes, .cons hn hnodes⟩

end Workspace

/-! ## What is listed -/

namespace Navigation

/-- What there is to list of a symbol, by the name, the range and the type of its node; nothing if
the node declares no name. -/
def declared (x : Node × Symbol) : Option SymbolInformation :=
  x.1.name.bind fun name =>
    x.1.span.map fun range => ⟨name, .variable, ⟨x.2.uri, range.toEditor⟩, some x.1.type⟩

/-- Nothing but the name decides whether the empty query lists a symbol with a range. -/
lemma information?_empty {s : Symbol} {name : String} {range : Span} (hname : s.name? = some name)
    (hrange : s.range = some range) :
    information? "" s = if name = s.id then none
      else some ⟨name, .variable, ⟨s.uri, range.toEditor⟩, s.type?⟩ := by
  split
  · next hid =>
    rw [Option.eq_none_iff_forall_ne_some]
    intro info hinfo
    obtain ⟨name', _, hname', -, hne, -⟩ := information?_eq_some_iff.1 hinfo
    obtain rfl := Option.some.inj (hname.symm.trans hname')
    exact hne hid
  · next hid =>
    exact information?_eq_some_iff.2
      ⟨name, range, hname, hrange, hid, List.nil_infix, rfl⟩

/-- The empty query lists what the node of a symbol declares, unless the name that it declares is
the identifier. -/
lemma information?_of_extracts {language : Language} {n : Node} {s : Symbol}
    (h : language.Extracts n s) :
    information? "" s = if n.name ≠ some s.id then declared (n, s) else none := by
  obtain ⟨text, root, -, -, hsymbol⟩ := h
  have hdescribes := describes_of_symbolOf? hsymbol
  obtain ⟨owner, references, howner, -⟩ := hdescribes.fields
  rw [information?_empty hdescribes.name?_eq (hdescribes.range_eq.trans howner), declared,
    hdescribes.type?_eq, howner]
  cases n.name with
  | none => simp
  | some name => simp

/-- Everything is left in a list that a map is applied to only if the map has no value where
something is taken out. -/
lemma filterMap_filter_eq_iff {α β : Type} {p : α → Bool} {f : α → Option β} {l : List α} :
    (l.filter p).filterMap f = l.filterMap f ↔ ∀ a ∈ l, p a = false → f a = none := by
  induction l with
  | nil => simp
  | cons a l ih =>
    rw [List.forall_mem_cons, ← ih, List.filterMap_cons, List.filter_cons]
    cases hp : p a with
    | true => cases hf : f a <;> simp [hf]
    | false =>
      cases hf : f a with
      | none => simp
      | some b =>
        refine iff_of_false (fun heq => ?_) (by simp)
        have hle : ((l.filter p).filterMap f).length ≤ (l.filterMap f).length :=
          (List.filter_sublist.filterMap f).length_le
        have hlength := congrArg List.length heq
        simp only [Bool.false_eq_true, if_false, List.length_cons] at hlength
        omega

/-- What a map takes from the second of two related lists can be taken from their pairs. -/
lemma filterMap_of_forall₂ {α β γ : Type} {R : α → β → Prop} {f : β → Option γ}
    {g : α × β → Option γ} (hfg : ∀ {a b}, R a b → f b = g (a, b)) {as : List α} {bs : List β}
    (h : List.Forall₂ R as bs) : bs.filterMap f = (as.zip bs).filterMap g := by
  induction h with
  | nil => rfl
  | cons hab _ ih => rw [List.zip_cons_cons, List.filterMap_cons, List.filterMap_cons, hfg hab, ih]

/-- **The empty query lists what nodes declare, except what is called as it is identified.** In
every state of a workspace, whatever scheme the identifiers follow, every symbol was made of a
node. With a limit that is not reached, the empty query lists, in store order, the name, the range
and the type of each symbol whose node declares a name, but not if this name is the identifier of
the symbol. So it lists exactly the symbols whose nodes declare a name if there is no such symbol,
and otherwise it does not. -/
theorem listed_of_reachable {language : Language} {w : Workspace} {limit : Nat}
    (h : Workspace.Reachable language w) (hlimit : w.repository.size ≤ limit) :
    (∃ nodes, List.Forall₂ language.Extracts nodes w.repository.toList) ∧
      ∀ {nodes}, List.Forall₂ language.Extracts nodes w.repository.toList →
        let made := nodes.zip w.repository.toList
        let listed := workspaceSymbols w.repository "" limit
        listed = (made.filter fun x => x.1.name ≠ some x.2.id).filterMap declared ∧
          (listed = made.filterMap declared ↔ ∀ x ∈ made, x.1.name ≠ some x.2.id) := by
  refine ⟨h.exists_nodes, fun {nodes} hnodes => ?_⟩
  intro made listed
  have hlisted : listed = (made.filter fun x => x.1.name ≠ some x.2.id).filterMap declared := by
    have hquery : Text.lowercase "" = "" := rfl
    rw [List.filterMap_filter, show listed = _ from workspaceSymbols_of_size_le hlimit, hquery]
    exact filterMap_of_forall₂ (fun hx => by simpa using information?_of_extracts hx) hnodes
  refine ⟨hlisted, ?_⟩
  rw [hlisted, filterMap_filter_eq_iff]
  refine forall₂_congr fun x hx => ?_
  -- a node of which a symbol was made has a range, so only the name can be missing
  obtain ⟨text, root, -, -, hsymbol⟩ := (List.forall₂_iff_zip.1 hnodes).2 hx
  obtain ⟨owner, _, howner, -⟩ := (describes_of_symbolOf? hsymbol).fields
  rw [decide_eq_false_iff_not, not_not, declared, howner]
  cases hname : x.1.name <;> simp

/-- A definition that is named by its text. -/
def definitionNode (text : String) : Node :=
  .mk ⟨0, "Def", some ⟨⟨1, 0⟩, ⟨1, 9⟩⟩, some text, .ok .variable, []⟩ []

/-- A language in which every text is a definition. -/
def definitionLanguage (ids : IdScheme) : Language :=
  { Language.create "def" fun _ text => .ok ⟨some (definitionNode text), []⟩ with
    ids := ids }

/-- Two files with one definition each. -/
def definitionWorkspace (ids : IdScheme) : Workspace :=
  ((Workspace.empty.synchronize (definitionLanguage ids) ⟨"file:///a"⟩ "alpha" none).1.synchronize
    (definitionLanguage ids) ⟨"file:///b"⟩ "beta" none).1

lemma reachable_definitionWorkspace (ids : IdScheme) :
    Workspace.Reachable (definitionLanguage ids) (definitionWorkspace ids) :=
  (Workspace.Reachable.empty.synchronize _ _ _).synchronize _ _ _

/-- With the default identifiers both definitions are listed. -/
theorem listed_of_reachable_position :
    let w := definitionWorkspace .position
    let nodes := [definitionNode "alpha", definitionNode "beta"]
    w.repository.size ≤ 2 ∧
      List.Forall₂ (definitionLanguage .position).Extracts nodes w.repository.toList ∧
      workspaceSymbols w.repository "" 2 =
        (nodes.zip w.repository.toList).filterMap declared := by
  intro w nodes
  have hsize : w.repository.size ≤ 2 := by decide
  have hnodes : List.Forall₂ (definitionLanguage .position).Extracts nodes w.repository.toList :=
    .cons ⟨"alpha", definitionNode "alpha", rfl, .head _, rfl⟩ <|
      .cons ⟨"beta", definitionNode "beta", rfl, .head _, rfl⟩ .nil
  refine ⟨hsize, hnodes, ?_⟩
  rw [((listed_of_reachable (reachable_definitionWorkspace .position) hsize).2 hnodes).2]
  decide

/-- With identifiers that are the names, which are distinct too, neither of them is. -/
theorem declared_name_unlisted :
    let w := definitionWorkspace Workspace.declaredName
    let nodes := [definitionNode "alpha", definitionNode "beta"]
    w.repository.toList.map Symbol.id = ["alpha", "beta"] ∧ w.repository.size ≤ 2 ∧
      List.Forall₂ (definitionLanguage Workspace.declaredName).Extracts nodes
        w.repository.toList ∧
      (nodes.zip w.repository.toList).filterMap declared =
        [⟨"alpha", .variable, ⟨⟨"file:///a"⟩, ⟨⟨0, 0⟩, ⟨0, 9⟩⟩⟩, some "Def"⟩,
          ⟨"beta", .variable, ⟨⟨"file:///b"⟩, ⟨⟨0, 0⟩, ⟨0, 9⟩⟩⟩, some "Def"⟩] ∧
      workspaceSymbols w.repository "" 2 = [] := by
  refine ⟨by decide, by decide, ?_, by decide, by decide⟩
  exact .cons ⟨"alpha", definitionNode "alpha", rfl, .head _, rfl⟩ <|
    .cons ⟨"beta", definitionNode "beta", rfl, .head _, rfl⟩ .nil

end Navigation

end CodeIndex
