import Mathlib.Tactic.Lemma
import CodeIndex.Proofs.Disk.Discovering
import CodeIndex.Proofs.Workspace.Retaining

set_option relaxedAutoImplicit false
set_option autoImplicit false

/-!
# Files that are read again

A file that changes on disk is read again if it is of the language, and left alone otherwise. Which
of the two it is, is read off its identifier, which names the file itself. A load goes by the name
under which it meets a file, which can be that of a link. So a load takes files that are never read
again: those that it meets under names of the language while their own names are of another.

## Main definitions

* `Workspace.Follows` — a file is read again whenever it changes on disk.
* `Workspace.Ignores` — a file is left alone, whatever happens to it on disk.

## Main results

* `Workspace.follows_of_handlesUri`, `Workspace.ignores_of_handlesUri` — every file is one or the
  other.
* `Workspace.exists_path_of_known_load` — after a load only files that it found are known.
* `Workspace.follows_of_known_load` — which of the loaded files are read again.
-/

namespace CodeIndex

/-- Whether a file is of the language is decided by its path, however it was made an identifier. -/
lemma Language.handlesUri_ofPath (language : Language) (p : Path) :
    language.handlesUri (Uri.ofPath p) = language.handlesPath p := by
  obtain ⟨q, hq, -, hcomponents⟩ := Uri.toPath?_ofPath p
  have hextension : q.extension? = p.extension? := by
    unfold Path.extension? Path.fileName?
    rw [hcomponents]
  unfold handlesUri handlesPath
  rw [hq]
  exact congrArg language.handlesExtension hextension

namespace Workspace

open Discovery (Admits)

variable {language : Language} {disk : Disk} {w : Workspace} {uri : Uri}

/-! ## Followed and ignored files -/

/-- Whenever the file is refreshed, the text that is on disk by then is synchronised, or the error
is reported if there is none. Only the text of the editor stands above it. -/
structure Follows (language : Language) (uri : Uri) : Prop where
  spared : ∀ (disk : Disk) (w : Workspace), w.files.isOpen uri = true →
    w.refresh language disk uri = (w, .ok (.ok none))
  failed : ∀ (disk : Disk) (w : Workspace) (e : ReadError), w.files.isOpen uri = false →
    readUri disk uri = .error e → w.refresh language disk uri = (w, .ok (.error e))
  read : ∀ (disk : Disk) (w : Workspace) (text : String), w.files.isOpen uri = false →
    readUri disk uri = .ok text →
      w.refresh language disk uri = ((w.synchronize language uri text none).1,
        (w.synchronize language uri text none).2.map fun report => .ok (some report))

/-- Refreshing the file does nothing, whatever is on disk by then. -/
def Ignores (language : Language) (uri : Uri) : Prop :=
  ∀ (disk : Disk) (w : Workspace), w.refresh language disk uri = (w, .ok (.ok none))

/-- A file of the language is followed. -/
lemma follows_of_handlesUri (h : language.handlesUri uri = true) : Follows language uri where
  spared disk w hopen := by
    unfold refresh
    rw [hopen, Bool.true_or, if_pos rfl]
  failed disk w e hclosed hread := by
    unfold refresh
    rw [hclosed, h, hread]
    rfl
  read disk w text hclosed hread := by
    unfold refresh indexFile
    simp only [hclosed, h, hread, Bool.not_true, Bool.or_self, Bool.false_eq_true, if_false]
    rcases w.synchronize language uri text none with ⟨w', fault | report⟩ <;> rfl

/-- A file of another language is ignored. -/
lemma ignores_of_handlesUri (h : language.handlesUri uri = false) : Ignores language uri := by
  intro disk w
  unfold refresh
  rw [h, Bool.not_false, Bool.or_true, if_pos rfl]

/-! ## Loaded files -/

variable {folders : List Uri} {options : DiscoveryOptions} {stops : Nat → Bool}

/-- After a load, a state or a symbol is there only for files that the load found. -/
lemma exists_path_of_known_load
    (hknown : (w.load language disk folders options stops).1.Known uri) :
    ∃ path ∈ (w.reset folders).discover language disk options, Uri.ofPath? path = some uri := by
  let Found : Uri → Prop := fun v =>
    ∃ path ∈ (w.reset folders).discover language disk options, Uri.ofPath? path = some v
  have hload : IndexedUnder Found (w.load language disk folders options stops).1 ∧
      ∀ v, (w.load language disk folders options stops).1.files.get? v ≠ none → Found v := by
    refine loadFiles_induction language disk
      (P := fun w => w.IndexedUnder Found ∧ ∀ v, w.files.get? v ≠ none → Found v) ?_ _ _ _ _
      ⟨⟨Repository.consistent_empty, nofun⟩, fun v hstate => absurd rfl hstate⟩
    rintro w v text hfound ⟨hindexed, htracked⟩
    refine ⟨(kept_indexedUnder language Found).indexFile hindexed hfound text, ?_⟩
    intro u hstate
    rw [indexFile_fst] at hstate
    split at hstate
    · exact htracked u hstate
    · rw [synchronize_fst] at hstate
      split at hstate
      · exact htracked u hstate
      · rw [get?_commitParse] at hstate
        split at hstate
        · next hu => exact hu ▸ hfound
        · exact htracked u hstate
  rcases hknown with hstate | hsymbols
  · exact hload.2 uri hstate
  · exact hload.1.of_symbolsIn_ne_nil hsymbols

/-- **Which of the loaded files are read again.** Take any disk with names as operating systems give
them, whatever directories, files and links are on it, and any folders and options. Every file of
which something is known after a load is one that an admitted walk led to, and it is known under its
own path. If that path is of the language, the file is followed on disk from then on; otherwise it
is ignored for good. It is followed whenever one of the walks met it under its own extension, which
only a link can keep from being so. -/
theorem follows_of_known_load (hnamed : disk.Named)
    (hknown : (w.load language disk folders options stops).1.Known uri) :
    ∃ place : List FileName, uri = Uri.ofPath (.ofComponents true place) ∧
      (∃ folder ∈ folders.filterMap Uri.toPath?, ∃ root steps,
        Admits disk language (folders.filterMap Uri.toPath?) options folder root steps place) ∧
      language.handlesUri uri = language.handlesPath (.ofComponents true place) ∧
      (language.handlesUri uri = true → Follows language uri) ∧
      (language.handlesUri uri = false → Ignores language uri) ∧
      ∀ folder root steps,
        Admits disk language (folders.filterMap Uri.toPath?) options folder root steps place →
          (Disk.walked folder steps).extension? = (Path.ofComponents true place).extension? →
            Follows language uri := by
  obtain ⟨path, hpath, huri⟩ := exists_path_of_known_load hknown
  obtain ⟨folder, hfolder, root, steps, place, hadmits, rfl⟩ :=
    (Discovery.mem_discover_iff hnamed).1 hpath
  obtain ⟨-, rfl⟩ := Uri.ofPath?_eq_some_iff.1 huri
  have hhandles := language.handlesUri_ofPath (.ofComponents true place)
  refine ⟨place, rfl, ⟨folder, hfolder, root, steps, hadmits⟩, hhandles, follows_of_handlesUri,
    ignores_of_handlesUri, ?_⟩
  intro folder root steps hadmits hextension
  refine follows_of_handlesUri ?_
  rw [hhandles, Language.handlesPath, ← hextension]
  exact hadmits.handled

/-- A folder with a file of no language and a link to it whose name is of one. -/
def linkedDisk (text : String) : Disk where
  entries := .ofList
    [(["w"], .directory), (["w", "notes.txt"], .file (.text text)),
      (["w", "alias.mini"], .link "notes.txt"), (["w", "b.mini"], .file (.text text))]

/-- What a load of that folder leaves. -/
def linkedWorkspace : Workspace :=
  (empty.load Discovery.miniLanguage (linkedDisk "def one") [⟨"file:///w"⟩] {} fun _ => false).1

/-- The file that has a name of the language itself is followed: when its text changes, it is read
again. -/
theorem follows_of_known_load_plain :
    (linkedDisk "def one").Named ∧ linkedWorkspace.Known ⟨"file:///w/b.mini"⟩ ∧
      Follows Discovery.miniLanguage ⟨"file:///w/b.mini"⟩ ∧
      ((linkedWorkspace.refresh Discovery.miniLanguage (linkedDisk "def two")
        ⟨"file:///w/b.mini"⟩).1.files.get? ⟨"file:///w/b.mini"⟩).map (·.text) =
          some "def two" := by
  have hnamed : (linkedDisk "def one").Named := by decide
  have hknown : linkedWorkspace.Known ⟨"file:///w/b.mini"⟩ := .inl (by decide)
  obtain ⟨place, -, -, -, hfollows, -⟩ := follows_of_known_load hnamed hknown
  exact ⟨hnamed, hknown, hfollows (by decide), by decide⟩

/-- The other file is loaded through the link. When its text changes, it is not read again, although
it can be. -/
theorem linked_file_ignored :
    linkedWorkspace.Known ⟨"file:///w/notes.txt"⟩ ∧
      Discovery.miniLanguage.handlesUri ⟨"file:///w/notes.txt"⟩ = false ∧
      linkedWorkspace.files.isOpen ⟨"file:///w/notes.txt"⟩ = false ∧
      readUri (linkedDisk "def two") ⟨"file:///w/notes.txt"⟩ = .ok "def two" ∧
      linkedWorkspace.refresh Discovery.miniLanguage (linkedDisk "def two")
        ⟨"file:///w/notes.txt"⟩ = (linkedWorkspace, .ok (.ok none)) ∧
      (linkedWorkspace.files.get? ⟨"file:///w/notes.txt"⟩).map (·.text) = some "def one" :=
  ⟨.inl (by decide), by decide, by decide, by decide, ignores_of_handlesUri (by decide) _ _,
    by decide⟩

end Workspace

end CodeIndex
