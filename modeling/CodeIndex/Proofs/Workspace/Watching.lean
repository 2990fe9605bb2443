import Mathlib.Data.List.TakeWhile
import CodeIndex.Proofs.Workspace.Refreshing
import CodeIndex.Server.Capabilities

set_option relaxedAutoImplicit false
set_option autoImplicit false

/-!
# Files that the client is asked to watch

The extensions of a language are read twice. For the client they are the ends of patterns, so that a
file matches if its name ends in a dot and an extension. The index compares them with what follows
the last dot of a name, and with nothing if that dot is the first character. The two readings agree
on names that go on before the dot, as long as there is no dot within the extension. The client
watches more than that: a file that bears nothing but an extension, and files with an extension that
has a dot within; the index leaves these alone.

## Main definitions

* `Glob.Matches` — a pattern matches a file.
* `ClientCapabilities.Asks` — the client is asked to watch the files of a pattern, or to report when
  they are renamed.
* `Language.Recognizes` — a name with an extension of the language is seen to have one.

## Main results

* `Path.extensionOf?_append` — what follows the last dot of a name.
* `Language.handlesExtension_append_iff` — which names with an extension of the language are of it.
* `Workspace.follows_of_asks` — which of the watched files are read again.
-/

namespace CodeIndex

/-! ## The last dot -/

namespace Path

lemma splitLastDot_append {bs bs' : List UInt8} (h : dot ∉ bs') :
    splitLastDot (bs ++ dot :: bs') = some (bs, bs') := by
  have hplain : ∀ b ∈ bs'.reverse, decide (b ≠ dot) = true := by
    intro b hb
    rw [decide_eq_true_eq]
    rintro rfl
    exact h (List.mem_reverse.1 hb)
  have hreverse : (bs ++ dot :: bs').reverse = bs'.reverse ++ dot :: bs.reverse := by
    simp
  have hafter : (bs ++ dot :: bs').reverse.takeWhile (fun b => decide (b ≠ dot)) =
      bs'.reverse := by
    rw [hreverse, List.takeWhile_append_of_pos hplain]
    simp
  have hbefore : (bs ++ dot :: bs').reverse.dropWhile (fun b => decide (b ≠ dot)) =
      dot :: bs.reverse := by
    rw [hreverse, List.dropWhile_append_of_pos hplain]
    simp
  unfold splitLastDot
  simp only [hafter, hbefore, List.reverse_reverse]

/-- What follows the last dot of a name is its extension, unless nothing comes before the dot. -/
lemma extensionOf?_append {stem : FileName} {last : String} (h : '.' ∉ last.toList) :
    extensionOf? (stem ++ .ofText ("." ++ last)) =
      if stem = "" then none else some (.ofText last) := by
  have hdot : dot ∉ (FileName.ofText last).bytes := fun hmem =>
    h (Text.mem_of_mem_encodeUtf8 (by decide) hmem)
  have hbytes : (stem ++ .ofText ("." ++ last)).bytes =
      stem.bytes ++ dot :: (FileName.ofText last).bytes := by
    rw [FileName.bytes_append, FileName.ofText_append]
    rfl
  unfold extensionOf?
  rw [hbytes, splitLastDot_append hdot]
  by_cases hstem : stem = ""
  · rw [if_pos hstem, FileName.bytes_eq_nil_iff.2 hstem]
  · obtain ⟨b, bs, hbs⟩ :=
      List.exists_cons_of_ne_nil fun hnil => hstem (FileName.bytes_eq_nil_iff.1 hnil)
    rw [if_neg hstem, hbs]

/-- A text with a dot has a last one. -/
lemma exists_last_dot {e : String} (h : '.' ∈ e.toList) :
    ∃ front last : String, e = front ++ "." ++ last ∧ '.' ∉ last.toList := by
  obtain ⟨after, before, hsplit, hafter⟩ := List.eq_append_cons_of_mem (List.mem_reverse.2 h)
  refine ⟨String.ofList before.reverse, String.ofList after.reverse, ?_, ?_⟩
  · apply String.toList_injective
    have hreverse := congrArg List.reverse hsplit
    simpa using hreverse
  · rwa [String.toList_ofList, List.mem_reverse]

end Path

/-! ## Names with an extension -/

namespace Language

variable {language : Language} {stem : FileName} {e : String}

/-- A name that consists of a stem, a dot and an extension is seen to have one: the stem is not
empty and the extension has no dot within, or what follows the last dot of the extension is one as
well. -/
def Recognizes (language : Language) (stem : FileName) (e : String) : Prop :=
  ('.' ∉ e.toList ∧ stem ≠ "") ∨
    ∃ front last, e = front ++ "." ++ last ∧ '.' ∉ last.toList ∧
      ∃ known ∈ language.extensions, sameExtension known last = true

lemma handlesExtension_some_iff (hsome : language.extensions ≠ []) :
    language.handlesExtension (some (.ofText e)) = true ↔
      ∃ known ∈ language.extensions, sameExtension known e = true := by
  rw [handlesExtension, List.isEmpty_eq_false_iff.2 hsome, Bool.false_or, Option.bind_some,
    FileName.text?_ofText, Option.any_some, List.any_eq_true]

/-- Which names with an extension of the language are of the language. -/
lemma handlesExtension_append_iff (he : e ∈ language.extensions) :
    language.handlesExtension (Path.extensionOf? (stem ++ .ofText ("." ++ e))) = true ↔
      language.Recognizes stem e := by
  have hsome : language.extensions ≠ [] := List.ne_nil_of_mem he
  by_cases hdot : '.' ∈ e.toList
  · -- the last dot of the name is that of the extension, and something comes before it
    have hname : ∀ {front last : String}, e = front ++ "." ++ last → '.' ∉ last.toList →
        Path.extensionOf? (stem ++ .ofText ("." ++ e)) = some (.ofText last) := by
      rintro front last rfl hlast
      have hassoc : stem ++ .ofText ("." ++ (front ++ "." ++ last)) =
          stem ++ .ofText ("." ++ front) ++ .ofText ("." ++ last) := by
        rw [FileName.append_assoc, ← FileName.ofText_append]
        simp only [String.append_assoc]
      have hstem : stem ++ .ofText ("." ++ front) ≠ "" := by
        rw [FileName.ofText_append, ne_eq, ← FileName.bytes_eq_nil_iff]
        exact fun hempty => absurd (List.append_eq_nil_iff.1 hempty).2 (List.cons_ne_nil _ _)
      rw [hassoc, Path.extensionOf?_append hlast, if_neg hstem]
    constructor
    · intro hhandles
      obtain ⟨front, last, hsplit, hlast⟩ := Path.exists_last_dot hdot
      rw [hname hsplit hlast, handlesExtension_some_iff hsome] at hhandles
      exact .inr ⟨front, last, hsplit, hlast, hhandles⟩
    · rintro (⟨hplain, -⟩ | ⟨front, last, hsplit, hlast, hknown⟩)
      · exact absurd hdot hplain
      · rwa [hname hsplit hlast, handlesExtension_some_iff hsome]
  · have hplain : ¬ ∃ front last : String, e = front ++ "." ++ last ∧ '.' ∉ last.toList ∧
        ∃ known ∈ language.extensions, sameExtension known last = true := by
      rintro ⟨front, last, rfl, -⟩
      simp at hdot
    rw [Path.extensionOf?_append hdot, Recognizes, or_iff_left hplain, and_iff_right hdot]
    split
    · next hstem =>
      rw [handlesExtension, List.isEmpty_eq_false_iff.2 hsome]
      simp [hstem]
    · next hstem =>
      rw [handlesExtension_some_iff hsome]
      exact iff_of_true ⟨e, he, by simp [sameExtension]⟩ hstem

end Language

/-! ## Patterns -/

/-- A pattern for files in all directories matches a file: the name of the file ends as the pattern
does, after zero or more characters for the star. -/
def Glob.Matches (pattern : String) (p : Path) : Prop :=
  ∃ (stem : FileName) (ending : String),
    pattern = "**/*" ++ ending ∧ p.fileName? = some (stem ++ .ofText ending)

/-- The client is asked to report when files of a pattern are renamed, or to watch them. -/
def ClientCapabilities.Asks (c : ClientCapabilities) (language : Language) (pattern : String) :
    Prop :=
  pattern ∈ (c.offer language).renameGlobs ∨
    ∃ registration ∈ c.registrations language, ∃ patterns,
      registration.scope = .watchers patterns ∧ pattern ∈ patterns

/-- It is asked so for the patterns of the language and for no others. -/
lemma ClientCapabilities.asks_iff {c : ClientCapabilities} {language : Language}
    {pattern : String} : c.Asks language pattern ↔ pattern ∈ language.globs := by
  constructor
  · rintro (hrename | ⟨registration, hmem, patterns, hscope, hpattern⟩)
    · exact hrename
    · simp only [registrations, List.mem_append] at hmem
      rcases hmem with ((hmem | hmem) | hmem) | hmem <;> split at hmem <;> simp at hmem <;>
        subst hmem <;> cases hscope
      exact hpattern
  · exact Or.inl

/-- What matches a pattern of a language with extensions has one of them. -/
lemma Language.exists_extension_of_matches {language : Language} {pattern : String} {p : Path}
    (hpattern : pattern ∈ language.globs) (hmatches : Glob.Matches pattern p) :
    language.extensions = [] ∨ ∃ stem, ∃ e ∈ language.extensions,
      pattern = "**/*." ++ e ∧ p.fileName? = some (stem ++ .ofText ("." ++ e)) := by
  unfold globs at hpattern
  split at hpattern
  · next hempty => exact .inl (List.isEmpty_iff.1 hempty)
  · obtain ⟨e, he, rfl⟩ := List.mem_map.1 hpattern
    obtain ⟨stem, ending, hending, hname⟩ := hmatches
    have hsuffix : ending = "." ++ e := by
      rw [show ("**/*." : String) = "**/*" ++ "." from rfl, String.append_assoc] at hending
      exact (String.append_right_inj _).1 hending.symm
    refine .inr ⟨stem, e, he, rfl, ?_⟩
    rw [hname, hsuffix]

namespace Workspace

/-- **Which of the watched files are read again.** Take any language with any extensions, given with
or without leading dots, and any client. Of the files that match a pattern which the client is asked
to watch, those are of the language that are seen to have an extension of it, and all of them if it
has no extensions. These are followed on disk; every other one is ignored for good, although it is
watched. -/
theorem follows_of_asks (c : ClientCapabilities) (l : Language) (es : List String) {uri : Uri}
    {p : Path} {pattern : String} (hpattern : c.Asks (l.withExtensions es) pattern)
    (hp : uri.toPath? = some p) (hmatches : Glob.Matches pattern p) :
    ((l.withExtensions es).handlesPath p = true ↔
        es = [] ∨ ∃ stem e, pattern = "**/*." ++ e ∧
          p.fileName? = some (stem ++ .ofText ("." ++ e)) ∧
            (l.withExtensions es).Recognizes stem e) ∧
      ((l.withExtensions es).handlesPath p = true → Follows (l.withExtensions es) uri) ∧
      ((l.withExtensions es).handlesPath p = false → Ignores (l.withExtensions es) uri) := by
  have huri : (l.withExtensions es).handlesUri uri = (l.withExtensions es).handlesPath p := by
    unfold Language.handlesUri
    rw [hp]
  refine ⟨?_, fun h => follows_of_handlesUri (huri.trans h),
    fun h => ignores_of_handlesUri (huri.trans h)⟩
  have hextensions : (l.withExtensions es).extensions = [] ↔ es = [] := List.map_eq_nil_iff
  have hhandles : ∀ {stem : FileName} {e : String}, e ∈ (l.withExtensions es).extensions →
      p.fileName? = some (stem ++ .ofText ("." ++ e)) →
        ((l.withExtensions es).handlesPath p = true ↔
          (l.withExtensions es).Recognizes stem e) := by
    intro stem e he hname
    rw [Language.handlesPath, Path.extension?, hname, Option.bind_some,
      Language.handlesExtension_append_iff he]
  rcases Language.exists_extension_of_matches (ClientCapabilities.asks_iff.1 hpattern) hmatches with
    hnone | ⟨stem, e, he, hstar, hname⟩
  · refine iff_of_true ?_ (.inl (hextensions.1 hnone))
    rw [Language.handlesPath, Language.handlesExtension, hnone]
    rfl
  · have hsome : es ≠ [] := fun hes => List.ne_nil_of_mem he (hextensions.2 hes)
    rw [or_iff_right hsome]
    constructor
    · exact fun h => ⟨stem, e, hstar, hname, (hhandles he hname).1 h⟩
    · -- the pattern determines the extension
      rintro ⟨stem', e', hstar', hname', hrecognizes⟩
      obtain rfl : e = e' := (String.append_right_inj _).1 (hstar.symm.trans hstar')
      exact (hhandles he hname').2 hrecognizes

/-- A file with an extension that has a dot within is followed if what comes after the dot is an
extension as well. -/
theorem follows_of_asks_declarations :
    ClientCapabilities.Asks {} (Discovery.miniLanguage.withExtensions [".d.ts", ".ts"])
        "**/*.d.ts" ∧
      (⟨"file:///w/a.d.ts"⟩ : Uri).toPath? = some (.ofText "/w/a.d.ts") ∧
      Glob.Matches "**/*.d.ts" "/w/a.d.ts" ∧
      Follows (Discovery.miniLanguage.withExtensions [".d.ts", ".ts"]) ⟨"file:///w/a.d.ts"⟩ := by
  have hpattern : ClientCapabilities.Asks {}
      (Discovery.miniLanguage.withExtensions [".d.ts", ".ts"]) "**/*.d.ts" := .inl (by decide)
  have hp : (⟨"file:///w/a.d.ts"⟩ : Uri).toPath? = some (.ofText "/w/a.d.ts") := by decide
  have hmatches : Glob.Matches "**/*.d.ts" "/w/a.d.ts" := ⟨"a", ".d.ts", by decide, by decide⟩
  obtain ⟨-, hfollows, -⟩ := follows_of_asks {} Discovery.miniLanguage [".d.ts", ".ts"] hpattern hp
    hmatches
  exact ⟨hpattern, hp, hmatches, hfollows (by decide)⟩

/-- If it is not, the file is watched and ignored; and so is a file that bears nothing but an
extension. -/
theorem watched_file_ignored :
    (ClientCapabilities.Asks {} (Discovery.miniLanguage.withExtensions ["d.ts"]) "**/*.d.ts" ∧
      Glob.Matches "**/*.d.ts" "/w/a.d.ts" ∧
      (Discovery.miniLanguage.withExtensions ["d.ts"]).handlesPath "/w/a.d.ts" = false ∧
      Ignores (Discovery.miniLanguage.withExtensions ["d.ts"]) ⟨"file:///w/a.d.ts"⟩) ∧
    (ClientCapabilities.Asks {} (Discovery.miniLanguage.withExtensions ["mini"]) "**/*.mini" ∧
      Glob.Matches "**/*.mini" "/w/.mini" ∧
      (Discovery.miniLanguage.withExtensions ["mini"]).handlesPath "/w/.mini" = false ∧
      Ignores (Discovery.miniLanguage.withExtensions ["mini"]) ⟨"file:///w/.mini"⟩) :=
  ⟨⟨.inl (by decide), ⟨"a", ".d.ts", by decide, by decide⟩, by decide,
      ignores_of_handlesUri (by decide)⟩,
    ⟨.inl (by decide), ⟨"", ".mini", by decide, by decide⟩, by decide,
      ignores_of_handlesUri (by decide)⟩⟩

end Workspace

end CodeIndex
