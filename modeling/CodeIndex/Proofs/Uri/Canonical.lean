import Mathlib.Data.List.TakeWhile
import Mathlib.Tactic.Lemma
import CodeIndex.Proofs.Disk.SameFile

set_option relaxedAutoImplicit false
set_option autoImplicit false

/-!
# The spelling of a file

A file has many identifiers: characters may be escaped or not, and slashes may be doubled. The index
compares identifiers by their text. One spelling of each file is distinguished, the one that is made
from its path, and identifiers that are spelled so are equal if they name the same file.

## Main definitions

* `Uri.SameFile` — two identifiers name the same file.
* `Uri.Canonical` — an identifier is spelled as it is made from the path of its file.

## Main results

* `Uri.toPath?_ofPath` — the identifier made from a path names a path with the same components.
* `Uri.canonical_of_ofPath?` — so it is canonical.
* `Uri.Canonical.eq_of_sameFile` — a file has one canonical identifier.
-/

namespace CodeIndex

/-! ## Components -/

namespace Path

lemma slash_notMem_of_mem_components {p : Path} {c : FileName} (h : c ∈ p.components) :
    slash ∉ c.bytes := by
  obtain ⟨piece, hpiece, rfl⟩ := List.mem_map.1 (List.mem_filter.1 h).1
  exact Text.notMem_of_mem_pieces hpiece

/-- The path in which slashes come before some names has those of the names as its components that
count. -/
lemma components_flatMap {cs : List FileName} (h : ∀ c ∈ cs, slash ∉ c.bytes) :
    components ⟨cs.flatMap fun c => slash :: c.bytes⟩ =
      cs.filter fun c : FileName => !(c == "" || c == ".") := by
  have hnames : (cs.map FileName.bytes).map FileName.mk = cs := by
    rw [List.map_map]
    exact List.map_id cs
  unfold components pieces
  rw [Text.pieces_flatMap _ h, List.map_cons, hnames, List.filter_cons]
  rfl

/-- The components of a path all count. -/
lemma filter_components (p : Path) :
    (p.components.filter fun c : FileName => !(c == "" || c == ".")) = p.components := by
  unfold components
  rw [List.filter_filter]
  simp

end Path

namespace Uri

/-! ## The file of an identifier that is made from a path -/

/-- Some names with a slash before each, escaped as in an identifier. -/
def segments (cs : List FileName) : List Char :=
  cs.flatMap fun c => '/' :: Text.percentEncode keptInFileSegment c.bytes

lemma percentDecode_segments (cs : List FileName) :
    Text.percentDecode (segments cs) = cs.flatMap fun c => Path.slash :: c.bytes := by
  induction cs with
  | nil => rfl
  | cons c cs ih =>
    rw [segments, List.flatMap_cons, List.cons_append, Text.percentDecode_cons_of_ne (by decide),
      Text.percentDecode_percentEncode_append keptInFileSegment_percent, ← segments, ih]
    rfl

/-- The segments are the whole path of the identifier that is made of them: they hold neither a
query nor a fragment, and no host comes before them. -/
lemma toPath?_segments {cs : List FileName} (hcs : cs ≠ []) :
    toPath? ⟨"file://" ++ String.ofList (segments cs)⟩ =
      some ⟨if endsInDrive (cs.flatMap fun c => Path.slash :: c.bytes) then
          (cs.flatMap fun c => Path.slash :: c.bytes) ++ [Path.slash]
        else cs.flatMap fun c => Path.slash :: c.bytes⟩ := by
  have hplain : ∀ d ∈ segments cs, (!endsPath d) = true := by
    intro d hd
    obtain ⟨c, -, hc⟩ := List.mem_flatMap.1 hd
    rcases List.mem_cons.1 hc with rfl | hmem
    · rfl
    · have hnot : ¬ (d = '?' ∨ d = '#') := fun hor =>
        notMem_percentEncode_of_divides (.inr hor) c.bytes hmem
      rw [not_or] at hnot
      simp [endsPath, hnot.1, hnot.2]
  obtain ⟨rest, hrest⟩ : ∃ rest, segments cs = '/' :: rest := by
    cases cs with
    | nil => exact absurd rfl hcs
    | cons c cs => exact ⟨_, rfl⟩
  have hafter : afterScheme ⟨"file://" ++ String.ofList (segments cs)⟩ =
      '/' :: '/' :: segments cs := by
    simp [afterScheme]
  generalize (⟨"file://" ++ String.ofList (segments cs)⟩ : Uri) = u at hafter ⊢
  have hlocal : u.isLocal = true := by
    unfold isLocal host? authority?
    rw [hafter, hrest]
    rfl
  have hpath : u.path = '/' :: rest := by
    unfold path
    rw [hafter, hrest]
    show List.takeWhile (fun c => !endsPath c) ('/' :: rest) = '/' :: rest
    rw [← hrest, List.takeWhile_eq_self_iff.2 hplain]
  unfold toPath?
  rw [hlocal, hpath, ← percentDecode_segments, hrest]
  rfl

/-- The identifier made from a path names a path from the root with the same components. -/
lemma toPath?_ofPath (p : Path) :
    ∃ q, (ofPath p).toPath? = some q ∧ q.isAbsolute = true ∧ q.components = p.components := by
  -- a path without components is written as if it had an empty one
  obtain ⟨cs, hcs, htext, hslash, hcount⟩ : ∃ cs : List FileName, cs ≠ [] ∧
      ofPath p = ⟨"file://" ++ String.ofList (segments cs)⟩ ∧ (∀ c ∈ cs, Path.slash ∉ c.bytes) ∧
      (cs.filter fun c : FileName => !(c == "" || c == ".")) = p.components := by
    cases hcomponents : p.components with
    | nil =>
      refine ⟨[""], by simp, ?_, by decide, rfl⟩
      unfold ofPath
      rw [hcomponents]
      rfl
    | cons c cs =>
      refine ⟨p.components, by simp [hcomponents], ?_,
        fun c hc => Path.slash_notMem_of_mem_components hc, ?_⟩
      · unfold ofPath
        rw [hcomponents]
        rfl
      · rw [Path.filter_components, hcomponents]
  refine ⟨_, by rw [htext, toPath?_segments hcs], ?_, ?_⟩
  · obtain ⟨c, cs, rfl⟩ := List.exists_cons_of_ne_nil hcs
    unfold Path.isAbsolute
    split <;> rfl
  · split
    · -- the slash after a drive letter is one more empty component
      have hdrive : (cs.flatMap fun c => Path.slash :: c.bytes) ++ [Path.slash] =
          (cs ++ [("" : FileName)]).flatMap fun c => Path.slash :: c.bytes := by
        rw [List.flatMap_append]
        rfl
      rw [hdrive, Path.components_flatMap, List.filter_append, hcount]
      · simp
      · intro c hc
        rcases List.mem_append.1 hc with hc | hc
        · exact hslash c hc
        · rw [List.mem_singleton.1 hc]
          decide
    · rw [Path.components_flatMap hslash, hcount]

/-! ## Canonical identifiers -/

/-- Two identifiers name the same file: both name a file, by paths with the same components. -/
def SameFile (u v : Uri) : Prop :=
  ∃ p q, u.toPath? = some p ∧ v.toPath? = some q ∧ p.components = q.components

/-- The identifier is spelled as it is made from the path of the file that it names. -/
def Canonical (u : Uri) : Prop := u.toPath?.bind ofPath? = some u

instance : DecidablePred Canonical := fun u =>
  inferInstanceAs (Decidable (u.toPath?.bind ofPath? = some u))

lemma ofPath_eq_of_components_eq {p q : Path} (h : p.components = q.components) :
    ofPath p = ofPath q := by
  unfold ofPath
  rw [h]

/-- What is made from a path is canonical. -/
lemma canonical_of_ofPath? {path : Path} {u : Uri} (h : ofPath? path = some u) : u.Canonical := by
  obtain ⟨-, rfl⟩ := ofPath?_eq_some_iff.1 h
  obtain ⟨q, hq, habsolute, hcomponents⟩ := toPath?_ofPath path
  rw [Canonical, hq, Option.bind_some, ofPath?_eq_some_iff]
  exact ⟨habsolute, ofPath_eq_of_components_eq hcomponents⟩

/-- A file has one canonical identifier. -/
lemma Canonical.eq_of_sameFile {u v : Uri} (hu : u.Canonical) (hv : v.Canonical)
    (h : u.SameFile v) : u = v := by
  have hofPath : ∀ {u : Uri} {p : Path}, u.Canonical → u.toPath? = some p → u = ofPath p := by
    intro u p hcanonical hp
    rw [Canonical, hp, Option.bind_some, ofPath?_eq_some_iff] at hcanonical
    exact hcanonical.2.symm
  obtain ⟨p, q, hp, hq, hcomponents⟩ := h
  rw [hofPath hu hp, hofPath hv hq, ofPath_eq_of_components_eq hcomponents]

end Uri

end CodeIndex
