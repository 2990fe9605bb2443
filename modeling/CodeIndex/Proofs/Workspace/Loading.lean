import Mathlib.Data.List.Perm.Basic
import CodeIndex.Proofs.Disk.SameFile
import CodeIndex.Proofs.Workspace.Operations

set_option relaxedAutoImplicit false
set_option autoImplicit false

/-!
# What loads do

A load with no file open synchronises the files that it can read, one after the other, and counts
them, until it is through or it was asked to stop. This file says so in terms of a list of files
and texts, for other files to build on.

## Main definitions

* `readable` — the files of a load that can be read, with their texts.
* `Workspace.syncAll` — synchronise texts that come from disk, one after the other.
* `LoadSummary.Completed` — a load that came to its end.

## Main results

* `text_eq_of_mem_readable` — a file that is met twice has the same text both times.
* `Workspace.loadFiles_take` — a load is through with the files up to the first request to stop.
* `Workspace.completed_loadFiles` — a load that is not asked to stop comes to its end.
* `Workspace.loadFiles_eq`, `Workspace.load_fst` — what a load did that came to its end.
* `Workspace.get?_syncAll_of_mem`, `Workspace.get?_syncAll_of_notMem` — the states afterwards.
-/

namespace CodeIndex

/-! ## Readable files -/

/-- The files of a load that can be read, with their texts. -/
def readable (disk : Disk) (limit : Option Nat) (paths : List Path) : List (Uri × String) :=
  paths.filterMap fun path =>
    match Uri.ofPath? path, readSource disk path limit with
    | some uri, .ok text => some (uri, text)
    | _, _ => none

variable {disk : Disk} {limit : Option Nat} {paths : List Path}

lemma readable_cons_of_read {path : Path} {uri : Uri} {text : String}
    (huri : Uri.ofPath? path = some uri) (htext : readSource disk path limit = .ok text) :
    readable disk limit (path :: paths) = (uri, text) :: readable disk limit paths := by
  unfold readable
  rw [List.filterMap_cons]
  simp only [huri, htext]

lemma readable_cons_of_unread {path : Path}
    (h : ∀ uri text, Uri.ofPath? path = some uri → readSource disk path limit ≠ .ok text) :
    readable disk limit (path :: paths) = readable disk limit paths := by
  unfold readable
  rw [List.filterMap_cons]
  split
  · rfl
  · next hread =>
    split at hread
    · next huri htext => exact absurd htext (h _ _ huri)
    · cases hread

lemma mem_readable {uri : Uri} {text : String} :
    (uri, text) ∈ readable disk limit paths ↔
      ∃ path ∈ paths, Uri.ofPath? path = some uri ∧ readSource disk path limit = .ok text := by
  unfold readable
  rw [List.mem_filterMap]
  refine exists_congr fun path => and_congr_right fun _ => ?_
  cases Uri.ofPath? path with
  | none => simp
  | some v => cases readSource disk path limit <;> simp

/-- The order of the paths decides on the order of the files only. -/
lemma readable_perm (disk : Disk) (limit : Option Nat) {paths paths' : List Path}
    (h : paths.Perm paths') : (readable disk limit paths).Perm (readable disk limit paths') :=
  h.filterMap _

/-- A file that is met twice has the same text both times. -/
lemma text_eq_of_mem_readable {uri : Uri} {text text' : String}
    (h : (uri, text) ∈ readable disk limit paths) (h' : (uri, text') ∈ readable disk limit paths) :
    text = text' := by
  obtain ⟨p, -, hp, htext⟩ := mem_readable.1 h
  obtain ⟨q, -, hq, htext'⟩ := mem_readable.1 h'
  exact text_eq_of_ofPath?_eq hp hq htext htext'

/-! ## Synchronising several files -/

/-- A load came to its end: neither did the parser break off, nor was the load stopped. -/
def LoadSummary.Completed (result : Except Fault LoadSummary) : Prop :=
  ∃ summary, result = .ok summary ∧ summary.cancelled = false

namespace Workspace

variable {language : Language} {w : Workspace}

/-- Synchronise texts that come from disk, one after the other. -/
def syncAll (language : Language) (w : Workspace) (files : List (Uri × String)) : Workspace :=
  files.foldl (fun w file => (w.synchronize language file.1 file.2 none).1) w

lemma syncAll_eq_run (disk : Disk) (w : Workspace) (files : List (Uri × String)) :
    w.syncAll language files = w.run language
      ((files.map fun file => Operation.synchronize file.1 file.2 none).map (disk, ·)) := by
  induction files generalizing w with
  | nil => rfl
  | cons file files ih => exact ih _

@[simp] lemma opened_synchronize (w : Workspace) (uri : Uri) (text : String)
    (version : Option Int) :
    (w.synchronize language uri text version).1.files.opened = w.files.opened := by
  rw [synchronize_fst]
  split <;> rfl

/-- With no file open and a parser that does not break off, indexing a text synchronises it. -/
lemma indexFile_of_closed (htotal : language.Total) (hopen : w.files.opened = []) (uri : Uri)
    (text : String) :
    ∃ report, w.indexFile language uri text =
      ((w.synchronize language uri text none).1, .ok (some report)) := by
  obtain ⟨parse, hparse⟩ := htotal uri text
  have hclosed : w.files.isOpen uri = false := by
    rw [FileStore.isOpen, hopen]
    rfl
  unfold indexFile synchronize
  simp only [hclosed, hparse, Bool.false_eq_true, ↓reduceIte]
  exact ⟨_, rfl⟩

/-- A load with no file open is through with the first `n` files: it goes on before each of them, as
it is not asked to stop then, and it stops before the next one, as it is. It has synchronised those
of them that can be read, and counted all of them.

**Proof sketch.** Induction on the files, over all workspaces, moments and counts so far. A load
that is asked to stop at once is through with none of the files. Otherwise it is through with the
first file, and the moments of the rest come one later. -/
lemma loadFiles_take (htotal : language.Total) (disk : Disk) (limit : Option Nat)
    (hopen : w.files.opened = []) (stops : Nat → Bool) (done : Nat) (summary : LoadSummary)
    (paths : List Path) :
    ∃ n ≤ paths.length, (∀ k < n, stops (done + k) = false) ∧
      (n < paths.length → stops (done + n) = true) ∧
      w.loadFiles language disk limit stops done summary paths =
        (w.syncAll language (readable disk limit (paths.take n)),
          .ok { summary with
            indexed := summary.indexed + (readable disk limit (paths.take n)).length
            skippedUnreadable := summary.skippedUnreadable +
              (n - (readable disk limit (paths.take n)).length)
            cancelled := summary.cancelled || decide (n < paths.length) }) := by
  induction paths generalizing done w summary with
  | nil => exact ⟨0, le_rfl, by simp, by simp, by simp [loadFiles, readable, syncAll]⟩
  | cons path paths ih =>
    by_cases hstop : stops done = true
    · refine ⟨0, Nat.zero_le _, by simp, fun _ => hstop, ?_⟩
      rw [loadFiles, if_pos hstop]
      simp [readable, syncAll]
    · have hmoments : ∀ {n}, (∀ k < n, stops (done + 1 + k) = false) →
          ∀ k < n + 1, stops (done + k) = false := by
        intro n hgoes k hk
        cases k with
        | zero => exact Bool.eq_false_iff.2 hstop
        | succ k =>
          rw [Nat.add_comm k 1, ← Nat.add_assoc]
          exact hgoes k (Nat.lt_of_succ_lt_succ hk)
      have hlast : ∀ n, done + 1 + n = done + (n + 1) := by
        intro n
        omega
      rw [loadFiles, if_neg hstop]
      split
      · next uri text huri htext =>
        obtain ⟨report, hindex⟩ := indexFile_of_closed htotal hopen uri text
        obtain ⟨n, hn, hgoes, hstops, hload⟩ := ih (w := (w.synchronize language uri text none).1)
          (by rw [opened_synchronize, hopen]) (done + 1)
          { summary with indexed := summary.indexed + 1 }
        refine ⟨n + 1, Nat.succ_le_succ hn, hmoments hgoes,
          fun hlt => hlast n ▸ hstops (Nat.lt_of_succ_lt_succ hlt), ?_⟩
        rw [hindex, List.take_succ_cons, readable_cons_of_read huri htext]
        refine hload.trans ?_
        simp only [List.length_cons, Nat.add_sub_add_right, Nat.add_lt_add_iff_right,
          Nat.add_assoc, Nat.add_comm 1]
        rfl
      · next hunread =>
        obtain ⟨n, hn, hgoes, hstops, hload⟩ := ih hopen (done + 1)
          { summary with skippedUnreadable := summary.skippedUnreadable + 1 }
        refine ⟨n + 1, Nat.succ_le_succ hn, hmoments hgoes,
          fun hlt => hlast n ▸ hstops (Nat.lt_of_succ_lt_succ hlt), ?_⟩
        rw [List.take_succ_cons, readable_cons_of_unread hunread]
        have hlength : (readable disk limit (paths.take n)).length ≤ n :=
          (List.length_filterMap_le ..).trans (List.length_take_le ..)
        have hskipped : summary.skippedUnreadable +
            (n + 1 - (readable disk limit (paths.take n)).length) =
              summary.skippedUnreadable + 1 +
                (n - (readable disk limit (paths.take n)).length) := by omega
        rw [hskipped]
        simpa only [List.length_cons, Nat.add_lt_add_iff_right] using hload

/-- A load that is not asked to stop comes to its end. -/
lemma completed_loadFiles (htotal : language.Total) (hopen : w.files.opened = [])
    {stops : Nat → Bool} (hgoes : ∀ k < paths.length, stops k = false) {summary : LoadSummary}
    (hsummary : summary.cancelled = false) :
    LoadSummary.Completed (w.loadFiles language disk limit stops 0 summary paths).2 := by
  obtain ⟨n, -, -, hstops, hload⟩ := loadFiles_take htotal disk limit hopen stops 0 summary paths
  have hall : ¬ n < paths.length := by
    intro hlt
    have hstop := hstops hlt
    rw [Nat.zero_add, hgoes n hlt] at hstop
    cases hstop
  rw [hload]
  exact ⟨_, rfl, by simp [hsummary, hall]⟩

/-- A load that is asked to stop before its first file does nothing. -/
lemma loadFiles_of_stopped {stops : Nat → Bool} {done : Nat} (hstopped : stops done = true)
    (w : Workspace) (summary : LoadSummary) (paths : List Path) :
    w.loadFiles language disk limit stops done summary paths =
      (w, .ok (if paths = [] then summary else { summary with cancelled := true })) := by
  cases paths with
  | nil => rfl
  | cons path paths =>
    unfold loadFiles
    rw [if_pos hstopped, if_neg (List.cons_ne_nil _ _)]

/-- What a load did that came to its end: it synchronised the files that can be read. -/
lemma loadFiles_eq (htotal : language.Total) (hopen : w.files.opened = []) {stops : Nat → Bool}
    {done : Nat} {summary : LoadSummary} {paths : List Path}
    (hdone : LoadSummary.Completed
      (w.loadFiles language disk limit stops done summary paths).2) :
    w.loadFiles language disk limit stops done summary paths =
      (w.syncAll language (readable disk limit paths),
        .ok { summary with
          indexed := summary.indexed + (readable disk limit paths).length
          skippedUnreadable := summary.skippedUnreadable +
            (paths.length - (readable disk limit paths).length) }) := by
  obtain ⟨n, hn, -, -, hload⟩ := loadFiles_take htotal disk limit hopen stops done summary paths
  obtain ⟨result, hresult, hcancelled⟩ := hdone
  rw [hload] at hresult
  obtain rfl := Except.ok.inj hresult
  obtain ⟨hbefore, hall⟩ : summary.cancelled = false ∧ paths.length ≤ n := by
    simpa using hcancelled
  obtain rfl : n = paths.length := le_antisymm hn hall
  rw [hload, List.take_length]
  simp [hbefore]

/-- A load that is not asked to stop synchronises the files that can be read, over nothing. -/
lemma load_fst (htotal : language.Total) (disk : Disk) (w : Workspace) (folders : List Uri)
    (options : DiscoveryOptions) :
    (w.load language disk folders options fun _ => false).1 =
      (w.reset folders).syncAll language
        (readable disk options.maxBytes ((w.reset folders).discover language disk options)) := by
  have hopen : (w.reset folders).files.opened = [] := rfl
  exact congrArg Prod.fst
    (loadFiles_eq htotal hopen (completed_loadFiles htotal hopen (fun _ _ => rfl) rfl))

/-- A file that is not among those synchronised keeps its state. -/
lemma get?_syncAll_of_notMem {files : List (Uri × String)} {uri : Uri}
    (h : ∀ text, (uri, text) ∉ files) :
    (w.syncAll language files).files.get? uri = w.files.get? uri := by
  induction files generalizing w with
  | nil => rfl
  | cons file files ih =>
    obtain ⟨v, text⟩ := file
    have hne : uri ≠ v := by
      rintro rfl
      exact h text List.mem_cons_self
    refine (ih fun text hmem => h text (List.mem_cons_of_mem _ hmem)).trans ?_
    dsimp only
    rw [synchronize_fst]
    split
    · rfl
    · rw [get?_commitParse, if_neg hne]

/-- A file that is among those synchronised, always with the same text, has the state of it. -/
lemma get?_syncAll_of_mem {files : List (Uri × String)} {uri : Uri} {text : String}
    (hmem : (uri, text) ∈ files) (hsame : ∀ text', (uri, text') ∈ files → text' = text)
    {parse : Parse} (hparse : language.parse uri text = .ok parse) :
    (w.syncAll language files).files.get? uri = some (.ofParse uri text none parse) := by
  induction files generalizing w with
  | nil => cases hmem
  | cons file files ih =>
    have hlater : ∀ text', (uri, text') ∈ files → text' = text :=
      fun text' hmem' => hsame text' (List.mem_cons_of_mem _ hmem')
    by_cases hagain : (uri, text) ∈ files
    · exact ih hagain hlater
    · have hlast : ∀ text', (uri, text') ∉ files := by
        intro text' hmem'
        rw [hlater text' hmem'] at hmem'
        exact hagain hmem'
      obtain rfl : (uri, text) = file := (List.mem_cons.1 hmem).resolve_right hagain
      refine (get?_syncAll_of_notMem hlast).trans ?_
      dsimp only
      rw [synchronize_fst, hparse]
      exact (get?_commitParse language w uri uri text none parse).trans (if_pos rfl)

end Workspace

end CodeIndex
