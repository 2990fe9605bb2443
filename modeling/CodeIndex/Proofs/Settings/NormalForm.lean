import CodeIndex.Proofs.Settings.Merging
import Mathlib.Data.List.DropRight

set_option relaxedAutoImplicit false
set_option autoImplicit false

/-!
# Settings in normal form

Settings are normalized after every merge. What this comes to can be said without the normalizer:
the size limit is within its bounds, so that it does not overflow as a number of bytes; categories
and paths do not repeat; patterns and paths are not empty and have no blanks at their ends. Settings
of that form are left alone by the normalizer, and so a merge that is repeated changes nothing.

## Main definitions

* `Text.Trimmed` — a text has no blanks at its ends.
* `Settings.Normal` — settings in normal form.

## Main results

* `Text.trimmed_trim`, `Text.Trimmed.trim_eq` — trimming gives the trimmed texts, and keeps them.
* `Settings.normal_normalize`, `Settings.normal_merge` — settings are in normal form after the
  normalizer, and so after every merge.
* `Settings.normal_iff` — the normal form is what the normalizer leaves alone.
* `Settings.Normal.foldl_merge` — they stay so through any number of merges.
* `Settings.merge_merge` — a repeated merge changes nothing.
-/

namespace CodeIndex

/-! ## Trimmed texts -/

namespace Text

/-- A text has no blanks at its ends. -/
def Trimmed (text : String) : Prop :=
  (∀ c ∈ text.toList.head?, ¬ isBlank c) ∧ ∀ c ∈ text.toList.getLast?, ¬ isBlank c

lemma trimLeft_eq_self {cs : List Char} (h : ∀ c ∈ cs.head?, ¬ isBlank c) : trimLeft cs = cs := by
  cases cs with
  | nil => rfl
  | cons c cs => exact List.dropWhile_cons_of_neg (h c rfl)

lemma head?_trimLeft (cs : List Char) : ∀ c ∈ (trimLeft cs).head?, ¬ isBlank c := by
  intro c hc
  have hnot := List.head?_dropWhile_not isBlank cs
  rw [show (cs.dropWhile isBlank).head? = some c from hc] at hnot
  exact Bool.eq_false_iff.mp hnot

/-- Trimming on the right is trimming on the left of the reversed text. -/
lemma trimRight_eq (cs : List Char) : trimRight cs = (trimLeft cs.reverse).reverse := rfl

lemma trimRight_eq_self {cs : List Char} (h : ∀ c ∈ cs.getLast?, ¬ isBlank c) :
    trimRight cs = cs := by
  rw [trimRight_eq, trimLeft_eq_self, List.reverse_reverse]
  rwa [List.head?_reverse]

lemma getLast?_trimRight (cs : List Char) : ∀ c ∈ (trimRight cs).getLast?, ¬ isBlank c := by
  rw [trimRight_eq, List.getLast?_reverse]
  exact head?_trimLeft cs.reverse

/-- A text keeps its first character when it is trimmed on the right, unless nothing is left. -/
lemma head?_trimRight {cs : List Char} {c : Char} (hc : c ∈ (trimRight cs).head?) :
    c ∈ cs.head? := by
  obtain ⟨rest, hrest⟩ : trimRight cs <+: cs := List.rdropWhile_prefix isBlank cs
  rw [← hrest, List.head?_append, Option.mem_def.mp hc]
  rfl

/-- Trimming gives a trimmed text. -/
theorem trimmed_trim (text : String) : Trimmed (trim text) := by
  unfold Trimmed trim
  rw [String.toList_ofList]
  exact ⟨fun c hc => head?_trimLeft text.toList c (head?_trimRight hc), getLast?_trimRight _⟩

/-- A trimmed text is kept as it is. -/
theorem Trimmed.trim_eq {text : String} (h : Trimmed text) : trim text = text := by
  rw [trim, trimLeft_eq_self h.1, trimRight_eq_self h.2, String.ofList_toList]

end Text

/-! ## Lists in normal form -/

/-- A list without repetitions is left. -/
lemma nodup_eraseDups {α : Type} [BEq α] [LawfulBEq α] (as : List α) : as.eraseDups.Nodup := by
  cases as with
  | nil => exact List.nodup_nil
  | cons a as =>
    rw [List.eraseDups_cons, List.nodup_cons]
    refine ⟨?_, nodup_eraseDups _⟩
    rw [List.mem_eraseDups, List.mem_filter]
    simp
termination_by as.length
decreasing_by exact Nat.lt_succ_of_le (List.length_filter_le _ _)

namespace Settings

lemma eraseDups_eq_self {α : Type} [BEq α] [LawfulBEq α] {as : List α} (h : as.Nodup) :
    as.eraseDups = as := by
  induction as with
  | nil => rfl
  | cons a as ih =>
    obtain ⟨ha, has⟩ := List.nodup_cons.mp h
    have hfilter : (as.filter fun b => !b == a) = as :=
      List.filter_eq_self.mpr fun b hb => by
        simpa using fun h : b = a => ha (h ▸ hb)
    rw [List.eraseDups_cons, hfilter, ih has]

lemma mem_trimAll {texts : List String} {text : String} (h : text ∈ trimAll texts) :
    Text.Trimmed text ∧ text ≠ "" := by
  obtain ⟨hmap, hne⟩ := List.mem_filter.mp h
  obtain ⟨text, -, rfl⟩ := List.mem_map.mp hmap
  exact ⟨Text.trimmed_trim text, of_decide_eq_true hne⟩

lemma trimAll_eq_self {texts : List String}
    (h : ∀ text ∈ texts, Text.Trimmed text ∧ text ≠ "") : trimAll texts = texts := by
  have hmap : texts.map Text.trim = texts :=
    (List.map_congr_left fun text htext => (h text htext).1.trim_eq).trans (List.map_id texts)
  rw [trimAll, hmap]
  exact List.filter_eq_self.mpr fun text htext => decide_eq_true (h text htext).2

/-! ## Settings in normal form -/

/-- Settings in normal form. -/
structure Normal (s : Settings) : Prop where
  minSize : 16 ≤ s.indexing.maxFileSizeKb
  maxSize : s.indexing.maxFileSizeKb ≤ 65536
  /-- The limit in bytes is exact: it fits in a word. -/
  bytes : s.indexing.maxFileSizeBytes = 1024 * s.indexing.maxFileSizeKb
  categories : s.diagnostics.suppressCategories.Nodup
  patterns : ∀ pattern ∈ s.diagnostics.suppressPatterns, Text.Trimmed pattern ∧ pattern ≠ ""
  paths : ∀ path ∈ s.indexing.excludePaths, Text.Trimmed path ∧ path ≠ ""
  distinctPaths : s.indexing.excludePaths.Nodup

/-- The default settings are in normal form. -/
lemma normal_default : Normal {} :=
  ⟨by decide, by decide, by decide, by decide, nofun, nofun, by decide⟩

/-- The normalizer gives settings in normal form, whatever it is given. -/
theorem normal_normalize (s : Settings) : s.normalize.Normal := by
  have hsize : s.normalize.indexing.maxFileSizeKb = min (max s.indexing.maxFileSizeKb 16) 65536 :=
    rfl
  have hpaths : s.normalize.indexing.excludePaths = (trimAll s.indexing.excludePaths).eraseDups :=
    rfl
  refine ⟨by omega, by omega, ?_, nodup_eraseDups _, fun _ => mem_trimAll, fun path hpath => ?_,
    nodup_eraseDups _⟩
  · unfold IndexingSettings.maxFileSizeBytes
    omega
  · rw [hpaths, List.mem_eraseDups] at hpath
    exact mem_trimAll hpath

/-- Settings are in normal form after every merge. -/
theorem normal_merge (s : Settings) (payload : Json) (sectionName : String) :
    (s.merge payload sectionName).Normal :=
  normal_normalize _

/-- Settings in normal form stay so through any number of merges. -/
theorem Normal.foldl_merge {s : Settings} (h : s.Normal) (payloads : List (Json × String)) :
    (payloads.foldl (fun s p => s.merge p.1 p.2) s).Normal := by
  induction payloads generalizing s with
  | nil => exact h
  | cons p payloads ih => exact ih (normal_merge s p.1 p.2)

/-- Settings in normal form are kept as they are. -/
theorem Normal.normalize_eq {s : Settings} (h : s.Normal) : s.normalize = s := by
  have hsize : min (max s.indexing.maxFileSizeKb minFileSizeKb) CodeIndex.maxFileSizeKb =
      s.indexing.maxFileSizeKb := by
    have hmin := h.minSize
    have hmax := h.maxSize
    unfold minFileSizeKb CodeIndex.maxFileSizeKb
    omega
  rw [normalize, DiagnosticsSettings.normalize, IndexingSettings.normalize, hsize,
    eraseDups_eq_self h.categories, trimAll_eq_self h.patterns, trimAll_eq_self h.paths,
    eraseDups_eq_self h.distinctPaths]

/-- The normal form is what the normalizer leaves alone. -/
theorem normal_iff {s : Settings} : s.Normal ↔ s.normalize = s :=
  ⟨Normal.normalize_eq, fun h => h ▸ normal_normalize s⟩

/-- **A repeated merge changes nothing.**

**Proof sketch.** Field by field: where a candidate sets the field, both merges give the normal form
of the same value; where none does, the second merge normalizes what is in normal form already. -/
theorem merge_merge (s : Settings) (payload : Json) (sectionName : String) :
    (s.merge payload sectionName).merge payload sectionName = s.merge payload sectionName := by
  have hnormal := (normal_merge s payload sectionName).normalize_eq
  refine Field.ext_read fun f => ?_
  rw [read_merge]
  cases hset : ((payload.member? sectionName).bind f.set?).or (f.set? payload) with
  | none =>
    show f.normal (f.read (s.merge payload sectionName)) = f.read (s.merge payload sectionName)
    rw [← Field.read_normalize, hnormal]
  | some v =>
    rw [read_merge, hset]
    rfl

end Settings

end CodeIndex
