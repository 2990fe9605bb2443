import Mathlib.Data.List.Basic
import CodeIndex.Proofs.Text.Pieces
import CodeIndex.Proofs.Text.Roundtrip
import CodeIndex.Workspace.Source

set_option relaxedAutoImplicit false
set_option autoImplicit false

/-!
# One identifier, one file

Several paths can have the same identifier: empty components and single dots are left out of it.
Such paths lead to the same place, as long as they lead anywhere, so whatever is read under an
identifier is the same text.

## Main definitions

* `Disk.Moves`, `Disk.Meets` — where a component leads from a directory, and where it meets a link.
* `Disk.Thins` — components from which some that say nothing were left out.

## Main results

* `Uri.components_eq_of_ofPath_eq` — the identifier of a file determines the components of its path.
* `Disk.advance_cons` — what going along a component can do.
* `Disk.follow_thins` — leaving out components that say nothing leads to the same place.
* `text_eq_of_ofPath?_eq` — paths with the same identifier have the same text.

## Implementation notes

Leaving components out can make a path lead somewhere that led nowhere before, as with a slash
after the name of a file; so the main results ask that both paths can be read.
-/

namespace CodeIndex

/-! ## Pieces -/

namespace Text

variable {α : Type} [DecidableEq α] {separator : α}

/-- Pieces with a separator in front of each are found again, after an empty one. -/
lemma pieces_flatMap {β : Type} (f : β → List α) {xs : List β} (h : ∀ x ∈ xs, separator ∉ f x) :
    pieces separator (xs.flatMap fun x => separator :: f x) = [] :: xs.map f := by
  have hgeneral : ∀ cs : List α, separator ∉ cs →
      pieces separator (cs ++ xs.flatMap fun x => separator :: f x) = cs :: xs.map f := by
    induction xs with
    | nil =>
      intro cs hcs
      rw [List.flatMap_nil, List.append_nil, pieces_of_notMem hcs, List.map_nil]
    | cons x xs ih =>
      intro cs hcs
      rw [List.flatMap_cons, List.cons_append, pieces_append_cons hcs,
        ih (fun y hy => h y (List.mem_cons_of_mem _ hy)) (f x) (h x List.mem_cons_self),
        List.map_cons]
  exact hgeneral [] List.not_mem_nil

end Text

/-! ## Identifiers of files -/

namespace Uri

/-- An escaped component holds no character that divides a uri into parts. -/
lemma notMem_percentEncode_of_divides {d : Char} (hd : d = '/' ∨ d = '?' ∨ d = '#')
    (bs : List UInt8) : d ∉ Text.percentEncode keptInFileSegment bs := by
  have hhex : ∀ n < 16, Text.upperHex n ≠ '/' ∧ Text.upperHex n ≠ '?' ∧ Text.upperHex n ≠ '#' := by
    intro n hn
    interval_cases n <;> decide
  rcases hd with rfl | rfl | rfl
  · exact Text.notMem_percentEncode (by decide) (by decide) (fun n hn => (hhex n hn).1.symm) bs
  · exact Text.notMem_percentEncode (by decide) (by decide) (fun n hn => (hhex n hn).2.1.symm) bs
  · exact Text.notMem_percentEncode (by decide) (by decide) (fun n hn => (hhex n hn).2.2.symm) bs

/-- An escaped component holds no slash. -/
lemma slash_notMem_percentEncode (bs : List UInt8) :
    '/' ∉ Text.percentEncode keptInFileSegment bs :=
  notMem_percentEncode_of_divides (.inl rfl) bs

lemma keptInFileSegment_percent : keptInFileSegment '%' = false := by decide

/-- A component that counts is not empty, and stays so when it is escaped. -/
lemma percentEncode_ne_nil {p : Path} {c : FileName} (hc : c ∈ p.components) :
    Text.percentEncode keptInFileSegment c.bytes ≠ [] := by
  intro hnil
  have hempty : c.bytes = [] := Text.percentEncode_injective keptInFileSegment_percent hnil
  obtain rfl : c = "" := congrArg FileName.mk hempty
  simp [Path.components] at hc

lemma ofPath?_eq_some_iff {p : Path} {u : Uri} :
    ofPath? p = some u ↔ p.isAbsolute = true ∧ ofPath p = u := by
  rw [ofPath?, Option.ite_none_right_eq_some, Option.some.injEq]

/-- The identifier of a file determines the components of its path. -/
lemma components_eq_of_ofPath_eq {p q : Path} (h : ofPath p = ofPath q) :
    p.components = q.components := by
  -- what can be read off an identifier: the escaped components, in order
  have hread : ∀ p : Path, ((Text.pieces '/' ((ofPath p).text.toList.drop 7)).tail.filter
      fun cs => !cs.isEmpty) =
        p.components.map fun c => Text.percentEncode keptInFileSegment c.bytes := by
    intro p
    have htext : (ofPath p).text.toList.drop 7 =
        if (p.components.flatMap fun c =>
            '/' :: Text.percentEncode keptInFileSegment c.bytes).isEmpty then ['/']
        else p.components.flatMap fun c =>
          '/' :: Text.percentEncode keptInFileSegment c.bytes := by
      unfold ofPath
      simp
    rw [htext]
    split
    · next hempty =>
      cases hcomponents : p.components with
      | nil => decide
      | cons c cs => simp [hcomponents] at hempty
    · rw [Text.pieces_flatMap _ fun c _ => slash_notMem_percentEncode c.bytes, List.tail_cons]
      refine List.filter_eq_self.2 fun cs hcs => ?_
      obtain ⟨c, hc, rfl⟩ := List.mem_map.1 hcs
      simpa using percentEncode_ne_nil hc
  have hmap := (hread p).symm.trans ((congrArg _ (by rw [h])).trans (hread q))
  refine List.map_injective_iff.2 ?_ hmap
  intro c d hcd
  exact congrArg FileName.mk (Text.percentEncode_injective keptInFileSegment_percent hcd)

end Uri

/-! ## Places -/

namespace Disk

/-- Where a component leads from a directory if it meets no link: an empty one and a dot stay, a
double dot leaves the directory, and any other name enters what stands there. -/
inductive Moves (d : Disk) (place : List FileName) (c : FileName) : List FileName → Prop where
  | stay (silent : (c == "" || c == ".") = true) : Moves d place c place
  | leave (counts : (c == "" || c == ".") = false) (up : (c == "..") = true) :
      Moves d place c place.dropLast
  | enter {inode : Inode} (counts : (c == "" || c == ".") = false) (up : (c == "..") = false)
      (there : d.inode? (place ++ [c]) = some inode) (plain : ∀ target, inode ≠ .link target) :
      Moves d place c (place ++ [c])

/-- A component meets a link in a directory. -/
structure Meets (d : Disk) (place : List FileName) (c : FileName) (target : Path) : Prop where
  counts : (c == "" || c == ".") = false
  up : (c == "..") = false
  there : d.inode? (place ++ [c]) = some (.link target)

section Advance

variable {d : Disk} {place next there cs : List FileName} {c : FileName} {target : Path}
  {follow : List FileName → Path → List FileName → Except DiskError (List FileName)}

lemma advance_of_moves (hplace : d.inode? place = some .directory) (h : d.Moves place c next) :
    d.advance follow place (c :: cs) = d.advance follow next cs := by
  rw [advance, hplace]
  cases h with
  | stay silent => exact if_pos silent
  | leave counts up => simp only [counts, up, Bool.false_eq_true, if_false, if_true]
  | @enter inode counts up there plain =>
    simp only [counts, up, there, Bool.false_eq_true, if_false]

lemma advance_of_meets (hplace : d.inode? place = some .directory) (h : d.Meets place c target) :
    d.advance follow place (c :: cs) = follow place target cs := by
  rw [advance, hplace]
  simp only [h.counts, h.up, h.there, Bool.false_eq_true, if_false]

/-- What going along a component can do: it starts from a directory, and it moves on or meets a link
that is followed. -/
lemma advance_cons (h : d.advance follow place (c :: cs) = .ok there) :
    d.inode? place = some .directory ∧
      ((∃ next, d.Moves place c next ∧ d.advance follow next cs = .ok there) ∨
        ∃ target, d.Meets place c target ∧ follow place target cs = .ok there) := by
  unfold advance at h
  split at h
  · next hplace =>
    refine ⟨hplace, ?_⟩
    split at h
    · next hsilent => exact .inl ⟨place, .stay hsilent, h⟩
    · next hcounts =>
      rw [Bool.not_eq_true] at hcounts
      split at h
      · next hup => exact .inl ⟨_, .leave hcounts hup, h⟩
      · next hup =>
        rw [Bool.not_eq_true] at hup
        split at h
        · cases h
        · next hthere => exact .inr ⟨_, ⟨hcounts, hup, hthere⟩, h⟩
        · next hplain hthere =>
          refine .inl ⟨_, .enter hcounts hup hthere ?_, h⟩
          rintro target rfl
          exact hplain target rfl
  · cases h
  · cases h

end Advance

/-- Components from which some that say nothing were left out. -/
inductive Thins : List FileName → List FileName → Prop where
  | nil : Thins [] []
  | keep {cs cs' : List FileName} (c : FileName) (h : Thins cs cs') : Thins (c :: cs) (c :: cs')
  | skip {cs cs' : List FileName} (c : FileName) (hc : (c == "" || c == ".") = true)
      (h : Thins cs cs') : Thins (c :: cs) cs'

lemma Thins.append_left {cs cs' : List FileName} (h : Thins cs cs') (before : List FileName) :
    Thins (before ++ cs) (before ++ cs') := by
  induction before with
  | nil => exact h
  | cons c before ih => exact .keep c ih

/-- The components that count are such a selection. -/
lemma thins_components (p : Path) : Thins p.pieces p.components := by
  unfold Path.components
  induction p.pieces with
  | nil => exact .nil
  | cons c cs ih =>
    by_cases hc : (c == "" || c == ".") = true
    · rw [List.filter_cons_of_neg (by simp [hc])]
      exact .skip c hc ih
    · rw [List.filter_cons_of_pos (by simpa using hc)]
      exact .keep c ih

variable {d : Disk} {cs cs' : List FileName} {place : List FileName}

/-- Leaving out components that say nothing leads to the same place, if links do. -/
lemma advance_thins
    {follow : List FileName → Path → List FileName → Except DiskError (List FileName)}
    (hfollow : ∀ {place target rest rest' there}, Thins rest rest' →
      follow place target rest = .ok there → follow place target rest' = .ok there)
    (h : Thins cs cs') {there : List FileName} (hthere : d.advance follow place cs = .ok there) :
    d.advance follow place cs' = .ok there := by
  induction h generalizing place with
  | nil => exact hthere
  | keep c hthins ih =>
    obtain ⟨hplace, ⟨next, hmoves, hnext⟩ | ⟨target, hmeets, htarget⟩⟩ := advance_cons hthere
    · rw [advance_of_moves hplace hmoves]
      exact ih hnext
    · rw [advance_of_meets hplace hmeets]
      exact hfollow hthins htarget
  | skip c hc hthins ih =>
    obtain ⟨hplace, -⟩ := advance_cons hthere
    rw [advance_of_moves hplace (.stay hc)] at hthere
    exact ih hthere

/-- Leaving out components that say nothing leads to the same place. -/
lemma follow_thins {links : Nat} (h : Thins cs cs') {there : List FileName}
    (hthere : d.follow links place cs = .ok there) : d.follow links place cs' = .ok there := by
  induction links generalizing place cs cs' there with
  | zero => exact advance_thins (fun _ herror => by cases herror) h hthere
  | succ links ih =>
    refine advance_thins ?_ h hthere
    intro place target rest rest' there hrest hlink
    exact ih (hrest.append_left _) hlink

/-- Paths with the same components lead to the same place, if they lead anywhere. -/
lemma canonical_eq_of_components_eq {p q : Path} (h : p.components = q.components)
    {there there' : List FileName} (hp : d.canonical p = .ok there)
    (hq : d.canonical q = .ok there') : there = there' := by
  have hcomponents : ∀ {p : Path} {there : List FileName}, d.canonical p = .ok there →
      d.follow maxLinks [] p.components = .ok there := by
    intro p there hp
    unfold canonical at hp
    split at hp
    · exact follow_thins (thins_components p) hp
    · cases hp
  have hp' := hcomponents hp
  rw [h, hcomponents hq] at hp'
  exact (Except.ok.inj hp').symm

/-- So they have the same text, if they have any. -/
lemma readText_eq_of_components_eq {p q : Path} (h : p.components = q.components)
    {text text' : String} (hp : d.readText p = .ok text) (hq : d.readText q = .ok text') :
    text = text' := by
  unfold readText at hp hq
  cases hcp : d.canonical p with
  | error e => simp [hcp] at hp
  | ok there =>
    cases hcq : d.canonical q with
    | error e => simp [hcq] at hq
    | ok there' =>
      obtain rfl := canonical_eq_of_components_eq h hcp hcq
      rw [hcp] at hp
      rw [hcq, hp] at hq
      exact Except.ok.inj hq

end Disk

/-- What is read below a size limit is the text of the file. -/
lemma readText_of_readSource {disk : Disk} {path : Path} {limit : Option Nat} {text : String}
    (h : readSource disk path limit = .ok text) : disk.readText path = .ok text := by
  unfold readSource at h
  cases hread : disk.readText path with
  | ok read =>
    simp only [hread] at h
    split at h
    · exact congrArg _ (Except.ok.inj h)
    · split at h
      · cases h
      · split at h
        · cases h
        · exact congrArg _ (Except.ok.inj h)
  | error e =>
    simp only [hread] at h
    split at h
    · cases h
    · split at h
      · cases h
      · split at h <;> cases h

/-- Paths with the same identifier have the same text. -/
lemma text_eq_of_ofPath?_eq {disk : Disk} {p q : Path} {uri : Uri} {limit : Option Nat}
    {text text' : String} (hp : Uri.ofPath? p = some uri) (hq : Uri.ofPath? q = some uri)
    (htext : readSource disk p limit = .ok text) (htext' : readSource disk q limit = .ok text') :
    text = text' := by
  have hsame : Uri.ofPath p = Uri.ofPath q :=
    (Uri.ofPath?_eq_some_iff.1 hp).2.trans (Uri.ofPath?_eq_some_iff.1 hq).2.symm
  exact Disk.readText_eq_of_components_eq (Uri.components_eq_of_ofPath_eq hsame)
    (readText_of_readSource htext) (readText_of_readSource htext')

end CodeIndex
