import Mathlib.Data.List.Infix
import CodeIndex.Proofs.Workspace.Interleaving

set_option relaxedAutoImplicit false
set_option autoImplicit false

/-!
# Loads that are asked to stop

A load starts over, finds files and takes them in order. Between two files it looks whether it is
asked to stop; the request may come at any moment, before the load, while a file is parsed or while
one that cannot be read is passed over. This file settles the books of such a load: which files it
is through with, what its counts say of them, and that nothing but these files shows in the
workspace afterwards, whatever was there before.

## Main definitions

* `Workspace.filesBelow` — the files below some folders, in the order in which a load takes them.
* `Workspace.indexAll` — index texts one after the other.
* `Workspace.Accounting` — the counts of a load are about the files that it is through with.

## Main results

* `Workspace.content_syncAll` — the folders have no part in what is synchronised.
* `Workspace.load_accounts` — a load is through with the files up to the first request to stop,
  counts them, and leaves what indexing them leaves in a workspace without any.
-/

namespace CodeIndex

namespace Workspace

variable {language : Language} {w w' : Workspace}

/-- The files below some folders, in the order in which a load takes them. -/
def filesBelow (language : Language) (disk : Disk) (folders : List Uri)
    (options : DiscoveryOptions) : List Path :=
  Discovery.discover disk language (folders.filterMap Uri.toPath?) options

/-- Index texts one after the other. -/
def indexAll (language : Language) (w : Workspace) (files : List (Uri × String)) : Workspace :=
  files.foldl (fun w file => (w.indexFile language file.1 file.2).1) w

/-! ## Indexing over nothing -/

/-- With no file open, indexing texts is synchronising them. -/
lemma indexAll_eq_syncAll (hopen : w.files.opened = []) (files : List (Uri × String)) :
    w.indexAll language files = w.syncAll language files := by
  induction files generalizing w with
  | nil => rfl
  | cons file files ih =>
    have hclosed : w.files.isOpen file.1 = false := by
      rw [FileStore.isOpen, hopen]
      rfl
    have hindex : (w.indexFile language file.1 file.2).1 =
        (w.synchronize language file.1 file.2 none).1 := by
      rw [indexFile_fst, hclosed, if_neg Bool.false_ne_true]
    show ((w.indexFile language file.1 file.2).1).indexAll language files = _
    rw [hindex]
    exact ih (by rw [opened_synchronize, hopen])

/-- What a text is synchronised into depends on the states and the symbols only. -/
lemma content_synchronize (hfiles : w.files = w'.files) (hsymbols : w.repository = w'.repository)
    (uri : Uri) (text : String) (version : Option Int) :
    (w.synchronize language uri text version).1.files =
        (w'.synchronize language uri text version).1.files ∧
      (w.synchronize language uri text version).1.repository =
        (w'.synchronize language uri text version).1.repository := by
  rw [synchronize_fst, synchronize_fst]
  cases language.parse uri text with
  | error fault => exact ⟨hfiles, hsymbols⟩
  | ok parse =>
    refine ⟨congrArg (FileStore.replace · _) hfiles, ?_⟩
    dsimp only
    rw [repository_commitParse, repository_commitParse, hsymbols]

/-- So do the states and the symbols after several texts. -/
lemma content_syncAll (hfiles : w.files = w'.files) (hsymbols : w.repository = w'.repository)
    (files : List (Uri × String)) :
    (w.syncAll language files).files = (w'.syncAll language files).files ∧
      (w.syncAll language files).repository = (w'.syncAll language files).repository := by
  induction files generalizing w w' with
  | nil => exact ⟨hfiles, hsymbols⟩
  | cons file files ih =>
    obtain ⟨hfiles', hsymbols'⟩ := content_synchronize hfiles hsymbols file.1 file.2 none
    exact ih hfiles' hsymbols'

lemma folders_syncAll (w : Workspace) (files : List (Uri × String)) :
    (w.syncAll language files).folders = w.folders := by
  induction files generalizing w with
  | nil => rfl
  | cons file files ih => exact (ih _).trans (folders_synchronize language w file.1 file.2 none)

/-! ## The books of a load -/

/-- The counts of a load that found some files are about those that it is through with; `stops` says
whether it is asked to stop at the moment when it is through with a number of files. -/
structure Accounting (disk : Disk) (limit : Option Nat) (stops : Nat → Bool)
    (found processed : List Path) (summary : LoadSummary) : Prop where
  /-- The files are taken in order. -/
  inOrder : processed <+: found
  discovered : summary.discovered = found.length
  indexed : summary.indexed = (readable disk limit processed).length
  skippedOpen : summary.skippedOpen = 0
  /-- Each file is counted once. -/
  counted : summary.indexed + summary.skippedUnreadable + summary.skippedOpen = processed.length
  /-- A load counts as cancelled exactly if files are left. -/
  cancelled : summary.cancelled = true ↔ processed ≠ found
  completed : summary.cancelled = false ↔
    summary.indexed + summary.skippedUnreadable + summary.skippedOpen = summary.discovered
  /-- The load goes on as long as it is not asked to stop. -/
  goesOn : ∀ k < processed.length, stops k = false
  /-- It ends before its last file, if it does, because it is. -/
  endsEarly : processed ≠ found → stops processed.length = true

/-- A load that takes files as `loadFiles_take` says keeps its books. -/
lemma accounting_take {disk : Disk} {limit : Option Nat} {stops : Nat → Bool}
    {found : List Path} {n : Nat} (hn : n ≤ found.length) (hgoes : ∀ k < n, stops k = false)
    (hstops : n < found.length → stops n = true) :
    Accounting disk limit stops found (found.take n)
      { discovered := found.length
        indexed := (readable disk limit (found.take n)).length
        skippedUnreadable := n - (readable disk limit (found.take n)).length
        cancelled := decide (n < found.length) } := by
  have hlength : (found.take n).length = n := List.length_take_of_le hn
  have hreadable : (readable disk limit (found.take n)).length ≤ n :=
    (List.length_filterMap_le ..).trans hlength.le
  have hproper : found.take n ≠ found ↔ n < found.length := by
    rw [Ne, List.take_eq_self_iff]
    exact not_le
  refine ⟨List.take_prefix n found, rfl, rfl, rfl, ?_, ?_, ?_, fun k hk => hgoes k (hlength ▸ hk),
    fun h => hlength.symm ▸ hstops (hproper.1 h)⟩
  · simp only [hlength]
    omega
  · rw [hproper, decide_eq_true_eq]
  · simp only [decide_eq_false_iff_not]
    omega

/-- **The books of a load.** Whatever a workspace held before, and at whatever moments the load is
asked to stop: it takes the files below the folders in order up to the first moment between two
files at which it is asked. Each of these files counts as indexed or as unreadable and none as open,
and the load counts as cancelled exactly if files are left. Afterwards the folders are the given
ones, and states, open marks and symbols are those of a workspace without any in which the readable
ones among these files were indexed. -/
theorem load_accounts (htotal : language.Total) (disk : Disk) (w : Workspace) (folders : List Uri)
    (options : DiscoveryOptions) (stops : Nat → Bool) :
    ∃ processed summary,
      (w.load language disk folders options stops).2 = .ok summary ∧
      Accounting disk options.maxBytes stops (filesBelow language disk folders options) processed
        summary ∧
      (w.load language disk folders options stops).1.folders = folders ∧
      (w.load language disk folders options stops).1.files =
        (empty.indexAll language (readable disk options.maxBytes processed)).files ∧
      (w.load language disk folders options stops).1.repository =
        (empty.indexAll language (readable disk options.maxBytes processed)).repository := by
  have hload : w.load language disk folders options stops =
      (w.reset folders).loadFiles language disk options.maxBytes stops 0
        { discovered := (filesBelow language disk folders options).length }
        (filesBelow language disk folders options) := rfl
  rw [hload]
  generalize filesBelow language disk folders options = found
  have hopen : (w.reset folders).files.opened = [] := rfl
  obtain ⟨n, hn, hgoes, hstops, htaken⟩ :=
    loadFiles_take htotal disk options.maxBytes hopen stops 0 { discovered := found.length } found
  simp only [Nat.zero_add] at hgoes hstops
  obtain ⟨hfiles, hsymbols⟩ :
      ((w.reset folders).syncAll language (readable disk options.maxBytes (found.take n))).files =
          (empty.syncAll language (readable disk options.maxBytes (found.take n))).files ∧
        ((w.reset folders).syncAll language
          (readable disk options.maxBytes (found.take n))).repository =
            (empty.syncAll language
              (readable disk options.maxBytes (found.take n))).repository := by
    refine content_syncAll ?_ ?_ _ <;> rfl
  rw [← indexAll_eq_syncAll (rfl : empty.files.opened = [])] at hfiles hsymbols
  rw [htaken]
  refine ⟨found.take n, _, rfl, ?_, folders_syncAll _ _, hfiles, hsymbols⟩
  simpa using accounting_take hn hgoes hstops

/-- A disk with two files, the first of which is no text. -/
def halfReadableDisk : Disk :=
  ⟨.ofList [(["a"], .file (.bytes [0xFF])), (["b"], .file (.text "b"))]⟩

/-- A load over a workspace with an open file, which is asked to stop while the file that is no text
is passed over: it is through with that file, and the other one is left. -/
theorem load_accounts_unreadable :
    ∃ (processed : List Path) (summary : LoadSummary),
      (load twinLanguage halfReadableDisk
        (empty.openFile twinLanguage ⟨"file:///b"⟩ "x" 1).1 [⟨"file:///"⟩] {} (· == 1)).2 =
          .ok summary ∧
      summary = { discovered := 2, skippedUnreadable := 1, cancelled := true } ∧
      processed <+: ["/a", "/b"] ∧ processed ≠ (["/a", "/b"] : List Path) ∧
      processed.length = 1 ∧
      (load twinLanguage halfReadableDisk
        (empty.openFile twinLanguage ⟨"file:///b"⟩ "x" 1).1 [⟨"file:///"⟩] {} (· == 1)).1.files =
          (empty.indexAll twinLanguage (readable halfReadableDisk none processed)).files := by
  have htotal : twinLanguage.Total := fun _ _ => ⟨_, rfl⟩
  have hfound : filesBelow twinLanguage halfReadableDisk [⟨"file:///"⟩] {} =
      (["/a", "/b"] : List Path) := by decide
  obtain ⟨processed, summary, hresult, hbooks, -, hfiles, -⟩ :=
    load_accounts htotal halfReadableDisk (empty.openFile twinLanguage ⟨"file:///b"⟩ "x" 1).1
      [⟨"file:///"⟩] {} (· == 1)
  have hsummary : summary = { discovered := 2, skippedUnreadable := 1, cancelled := true } :=
    (Except.ok.inj hresult).symm
  rw [hfound] at hbooks
  have hleft : processed ≠ (["/a", "/b"] : List Path) := hbooks.cancelled.1 (by rw [hsummary])
  exact ⟨processed, summary, hresult, hsummary, hbooks.inOrder, hleft,
    beq_iff_eq.1 (hbooks.endsEarly hleft), hfiles⟩

end Workspace

end CodeIndex
