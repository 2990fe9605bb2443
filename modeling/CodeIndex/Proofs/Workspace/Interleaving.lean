import Mathlib.Data.List.Perm.Basic
import CodeIndex.Navigation
import CodeIndex.Proofs.Workspace.Loading
import CodeIndex.Proofs.Workspace.Reachable

set_option relaxedAutoImplicit false
set_option autoImplicit false

/-!
# Operations on different files do not interfere

What a workspace knows of a file is the state of the file, its open mark and its symbols. An
operation on one file reads and changes this view of that file and of no other. Whatever is done to
several files therefore only depends on what is done to each of them in turn, not on how the turns
interleave. The numbers of the symbols do depend on it, and with them the order in which a scan
meets the files; no query shows more of it than the order of its answer.

## Main definitions

* `Workspace.Operation.target?` — the file of an operation on a single file.
* `Workspace.SameAt` — two workspaces know the same of a file.
* `Workspace.Local` — a change that reads and changes what is known of one file only.
* `Workspace.Alike` — two workspaces answer alike, but for the order of references.

## Main results

* `Workspace.local_apply` — every operation on a single file is local to it.
* `Workspace.sameAt_run` — what a run does to a file is done by the operations on that file.
* `Workspace.alike_of_sameAt` — workspaces that know the same of every file answer alike.
* `Workspace.alike_run` — how the operations on different files interleave does not matter, nor
  does the order in which a load comes upon the files.
-/

namespace CodeIndex

namespace Workspace

/-! ## Views of a file -/

/-- Two workspaces know the same of a file. -/
structure SameAt (uri : Uri) (w w' : Workspace) : Prop where
  state : w.files.get? uri = w'.files.get? uri
  mark : w.files.isOpen uri = w'.files.isOpen uri
  symbols : SymbolList.symbolsIn w.repository.toList uri =
    SymbolList.symbolsIn w'.repository.toList uri

namespace SameAt

variable {uri : Uri} {w w' w'' : Workspace}

lemma refl (uri : Uri) (w : Workspace) : SameAt uri w w := ⟨rfl, rfl, rfl⟩

lemma symm (h : SameAt uri w w') : SameAt uri w' w :=
  ⟨h.state.symm, h.mark.symm, h.symbols.symm⟩

lemma trans (h : SameAt uri w w') (h' : SameAt uri w' w'') : SameAt uri w w'' :=
  ⟨h.state.trans h'.state, h.mark.trans h'.mark, h.symbols.trans h'.symbols⟩

end SameAt

/-- A change that reads and changes what is known of one file only. -/
structure Local (language : Language) (uri : Uri) (f : Workspace → Workspace) : Prop where
  reachable : ∀ {w}, w.Reachable language → (f w).Reachable language
  /-- What is known of other files stays. -/
  frame : ∀ {w}, w.Reachable language → ∀ {v}, v ≠ uri → SameAt v (f w) w
  /-- What is known of the file afterwards depends on what was known of it before. -/
  congr : ∀ {w w'}, w.Reachable language → w'.Reachable language → SameAt uri w w' →
    SameAt uri (f w) (f w')

/-- Synchronise what was read of a file, if anything was. -/
def syncRead (language : Language) (w : Workspace) (uri : Uri) (version : Option Int) :
    Except ReadError String → Workspace
  | .error _ => w
  | .ok text => (w.synchronize language uri text version).1

namespace Local

variable {language : Language} {uri : Uri} {f g : Workspace → Workspace}

/-! ## Elementary changes -/

lemma id (language : Language) (uri : Uri) : Local language uri fun w => w where
  reachable := fun h => h
  frame := fun _ _ _ => .refl _ _
  congr := fun _ _ h => h

lemma comp (hg : Local language uri g) (hf : Local language uri f) :
    Local language uri fun w => g (f w) where
  reachable := fun h => hg.reachable (hf.reachable h)
  frame := fun h _ hv => (hg.frame (hf.reachable h) hv).trans (hf.frame h hv)
  congr := fun h h' hsame => hg.congr (hf.reachable h) (hf.reachable h') (hf.congr h h' hsame)

/-- A choice may depend on the state and the open mark of the file. -/
lemma choose {g : Option FileState → Bool → Workspace → Workspace}
    (hf : ∀ w, f w = g (w.files.get? uri) (w.files.isOpen uri) w)
    (hg : ∀ state mark, Local language uri (g state mark)) : Local language uri f where
  reachable := by
    intro w h
    rw [hf]
    exact (hg _ _).reachable h
  frame := by
    intro w h v hv
    rw [hf]
    exact (hg _ _).frame h hv
  congr := by
    intro w w' h h' hsame
    rw [hf, hf, hsame.state, hsame.mark]
    exact (hg _ _).congr h h' hsame

lemma markOpen (language : Language) (uri : Uri) :
    Local language uri fun w => { w with files := w.files.markOpen uri } where
  reachable := fun h => h.markOpen uri
  frame := by
    intro w _ v hv
    refine ⟨FileStore.get?_markOpen _ _ _, ?_, rfl⟩
    rw [FileStore.isOpen_markOpen, decide_eq_false hv, Bool.or_false]
  congr := by
    intro w w' _ _ hsame
    refine ⟨?_, ?_, hsame.symbols⟩
    · rw [FileStore.get?_markOpen, FileStore.get?_markOpen, hsame.state]
    · rw [FileStore.isOpen_markOpen, FileStore.isOpen_markOpen, hsame.mark]

lemma markClosed (language : Language) (uri : Uri) :
    Local language uri fun w => { w with files := w.files.markClosed uri } where
  reachable := fun h => h.markClosed uri
  frame := by
    intro w _ v hv
    refine ⟨rfl, ?_, rfl⟩
    rw [FileStore.isOpen_markClosed, decide_eq_true hv, Bool.and_true]
  congr := by
    intro w w' _ _ hsame
    refine ⟨hsame.state, ?_, hsame.symbols⟩
    rw [FileStore.isOpen_markClosed, FileStore.isOpen_markClosed, hsame.mark]

lemma forget (language : Language) (uri : Uri) : Local language uri (·.forget uri) where
  reachable := fun h => h.forget uri
  frame := by
    intro w _ v hv
    refine ⟨?_, ?_, rfl⟩
    · rw [get?_forget, if_neg hv]
    · rw [isOpen_forget, decide_eq_true hv, Bool.and_true]
  congr := by
    intro w w' _ _ hsame
    refine ⟨?_, ?_, hsame.symbols⟩
    · rw [get?_forget, get?_forget, hsame.state]
    · rw [isOpen_forget, isOpen_forget, hsame.mark]

/-- Dropping a file leaves none of its symbols, and all others. -/
lemma symbolsIn_drop {w : Workspace} (h : w.Reachable language) (uri v : Uri) :
    SymbolList.symbolsIn ((w.forget uri).dropSymbols uri).repository.toList v =
      if v = uri then [] else SymbolList.symbolsIn w.repository.toList v := by
  have hlist : ((w.forget uri).dropSymbols uri).repository.toList =
      SymbolList.deleteFile w.repository.toList uri ++ [] := by
    rw [List.append_nil]
    exact h.consistent.toList_deleteFile uri
  rw [hlist, Tracks.symbolsIn_deleteFile_append (by simp)]

lemma drop (language : Language) (uri : Uri) :
    Local language uri fun w => (w.forget uri).dropSymbols uri where
  reachable := fun h => h.drop uri
  frame := by
    intro w h v hv
    have hframe := (forget language uri).frame h hv
    exact ⟨hframe.state, hframe.mark, by rw [symbolsIn_drop h, if_neg hv]⟩
  congr := by
    intro w w' h h' hsame
    have hforget := (forget language uri).congr h h' hsame
    refine ⟨hforget.state, hforget.mark, ?_⟩
    rw [symbolsIn_drop h, symbolsIn_drop h', if_pos rfl, if_pos rfl]

/-- With the default identifiers, a synchronisation evicts no symbol of another file. -/
lemma symbolsIn_synchronize (hids : language.ids = .position) {w : Workspace}
    (h : w.Reachable language) (uri v : Uri) (text : String) (version : Option Int) :
    SymbolList.symbolsIn (w.synchronize language uri text version).1.repository.toList v =
      if v = uri then
        (language.tree? uri text).elim (SymbolList.symbolsIn w.repository.toList uri)
          fun root => stored language uri (some root)
      else SymbolList.symbolsIn w.repository.toList v := by
  obtain ⟨events, htracks⟩ := h.tracks hids
  have hsync := htracks.synchronize hids uri text version
  rw [hsync.symbols, generation_append_singleton, Event.step, htracks.symbols, htracks.symbols]
  by_cases hv : v = uri
  · rw [if_pos hv, if_pos hv.symm, hv]
    cases language.tree? uri text with
    | none => rw [Option.none_or, Option.elim_none]
    | some root => rw [Option.some_or, Option.elim_some]
  · rw [if_neg hv, if_neg (Ne.symm hv)]

lemma synchronize (hids : language.ids = .position) (uri : Uri) (text : String)
    (version : Option Int) :
    Local language uri fun w => (w.synchronize language uri text version).1 where
  reachable := fun h => h.synchronize uri text version
  frame := by
    intro w h v hv
    refine ⟨?_, ?_, ?_⟩
    · rw [synchronize_fst]
      split
      · rfl
      · rw [get?_commitParse, if_neg hv]
    · rw [synchronize_fst]
      split <;> rfl
    · rw [symbolsIn_synchronize hids h, if_neg hv]
  congr := by
    intro w w' h h' hsame
    refine ⟨?_, ?_, ?_⟩
    · rw [synchronize_fst, synchronize_fst]
      split
      · exact hsame.state
      · rw [get?_commitParse, get?_commitParse, if_pos rfl, if_pos rfl]
    · rw [synchronize_fst, synchronize_fst]
      split <;> exact hsame.mark
    · rw [symbolsIn_synchronize hids h, symbolsIn_synchronize hids h', if_pos rfl, if_pos rfl,
        hsame.symbols]

lemma syncRead (hids : language.ids = .position) (uri : Uri) (version : Option Int)
    (read : Except ReadError String) :
    Local language uri fun w => w.syncRead language uri version read := by
  cases read with
  | error e => exact .id language uri
  | ok text => exact .synchronize hids uri text version

end Local

/-! ## Operations on a single file -/

/-- The file of an operation on a single file. -/
def Operation.target? : Operation → Option Uri
  | .synchronize uri _ _ | .openFile uri _ _ | .change uri _ _ | .save uri _ | .close uri
  | .delete uri | .indexFile uri _ | .refresh uri => some uri
  | .rename .. | .retain .. | .reset .. | .load .. => none

variable {language : Language} {disk : Disk}

/-- Every operation on a single file is local to it. -/
lemma local_apply (hids : language.ids = .position) (disk : Disk) {op : Operation} {uri : Uri}
    (htarget : op.target? = some uri) : Local language uri fun w => op.apply language disk w := by
  cases op with
  | synchronize v text version =>
    obtain rfl := Option.some.inj htarget
    exact .synchronize hids v text version
  | openFile v text version =>
    obtain rfl := Option.some.inj htarget
    exact (Local.synchronize hids v text (some version)).comp (.markOpen language v)
  | change v text version =>
    obtain rfl := Option.some.inj htarget
    exact .synchronize hids v text (some version)
  | save v text =>
    obtain rfl := Option.some.inj htarget
    refine Local.choose (g := fun state _ w => w.syncRead language v (state.bind (·.version))
      ((text.map .ok).getD ((state.map (.ok ·.text)).getD (readUri disk v)))) ?_
      fun state mark => .syncRead hids v _ _
    intro w
    rw [Operation.apply, save_fst]
    unfold savedText
    cases text with
    | some text => rfl
    | none => cases w.files.get? v <;> rfl
  | close v =>
    obtain rfl := Option.some.inj htarget
    have hclosed := Local.markClosed language v
    simp only [Operation.apply, close_fst]
    cases readUri disk v with
    | error e => exact (Local.drop language v).comp hclosed
    | ok text =>
      cases hparse : language.parse v text with
      | error fault => simpa only [Workspace.synchronize, hparse] using hclosed
      | ok parse =>
        have hsync := (Local.synchronize hids v text none).comp hclosed
        have hforgotten := (Local.forget language v).comp hsync
        simpa only [Workspace.synchronize, hparse] using hforgotten
  | delete v =>
    obtain rfl := Option.some.inj htarget
    exact .drop language v
  | indexFile v text =>
    obtain rfl := Option.some.inj htarget
    refine Local.choose (g := fun _ mark w =>
      if mark then w else (w.synchronize language v text none).1)
      (fun w => indexFile_fst language w v text) fun state mark => ?_
    split
    · exact .id language v
    · exact .synchronize hids v text none
  | refresh v =>
    obtain rfl := Option.some.inj htarget
    refine Local.choose (g := fun _ mark w =>
      if mark || !language.handlesUri v then w
      else w.syncRead language v none (readUri disk v))
      (fun w => refresh_fst language disk w v) fun state mark => ?_
    split
    · exact .id language v
    · exact .syncRead hids v none _
  | rename old new => cases htarget
  | retain keep => cases htarget
  | reset folders => cases htarget
  | load folders options token => cases htarget

/-- What a run does to a file is done by the operations on that file. -/
lemma sameAt_run (hids : language.ids = .position) (disk : Disk) {ops : List Operation}
    (hops : ∀ op ∈ ops, op.target?.isSome) {w w' : Workspace} (h : w.Reachable language)
    (h' : w'.Reachable language) {uri : Uri} (hsame : SameAt uri w w') :
    SameAt uri (w.run language (ops.map (disk, ·)))
      (w'.run language ((ops.filter fun op => op.target? = some uri).map (disk, ·))) := by
  induction ops generalizing w w' with
  | nil => exact hsame
  | cons op ops ih =>
    obtain ⟨v, hv⟩ := Option.isSome_iff_exists.1 (hops op List.mem_cons_self)
    have hop := local_apply hids disk hv
    replace hops : ∀ op ∈ ops, op.target?.isSome :=
      fun op hmem => hops op (List.mem_cons_of_mem _ hmem)
    by_cases htarget : op.target? = some uri
    · obtain rfl : v = uri := Option.some.inj (hv.symm.trans htarget)
      rw [List.filter_cons_of_pos (by simpa using htarget)]
      exact ih hops (hop.reachable h) (hop.reachable h') (hop.congr h h' hsame)
    · have hne : uri ≠ v := by
        rintro rfl
        exact htarget hv
      rw [List.filter_cons_of_neg (by simpa using htarget)]
      exact ih hops (hop.reachable h) h' ((hop.frame h hne).trans hsame)

/-! ## Answers -/

/-- Two workspaces answer alike, but for the order of references. -/
structure Alike (w w' : Workspace) : Prop where
  state : ∀ uri, w.files.get? uri = w'.files.get? uri
  mark : ∀ uri, w.files.isOpen uri = w'.files.isOpen uri
  symbolsIn : ∀ uri, w.repository.symbolsIn uri = w'.repository.symbolsIn uri
  search : ∀ uri p, w.repository.search uri p = w'.repository.search uri p
  definition : ∀ uri pos, Navigation.definition? w.repository uri pos =
    Navigation.definition? w'.repository uri pos
  hover : ∀ uri pos, Navigation.hover? w.repository uri pos =
    Navigation.hover? w'.repository uri pos
  references : ∀ uri pos declaration,
    (Navigation.references w.repository uri pos declaration).Perm
      (Navigation.references w'.repository uri pos declaration)

/-- Symbols that are the same for each file are the same up to the order of the files. -/
lemma perm_of_symbolsIn_eq {l l' : List Symbol}
    (h : ∀ uri, SymbolList.symbolsIn l uri = SymbolList.symbolsIn l' uri) : l.Perm l' := by
  classical
  refine List.perm_iff_count.2 fun s => ?_
  have hcount : ∀ l : List Symbol, (SymbolList.symbolsIn l s.uri).count s = l.count s :=
    fun l => List.count_filter (decide_eq_true rfl)
  rw [← hcount, h, hcount]

/-- Workspaces that know the same of every file answer alike. -/
lemma alike_of_sameAt {w w' : Workspace} (h : w.repository.Consistent)
    (h' : w'.repository.Consistent) (hsame : ∀ uri, SameAt uri w w') : Alike w w' := by
  have hperm : w.repository.toList.Perm w'.repository.toList :=
    perm_of_symbolsIn_eq fun uri => (hsame uri).symbols
  have hsearch : ∀ uri p, w.repository.search uri p = w'.repository.search uri p := by
    intro uri p
    have hhits : ∀ l : List Symbol, (l.filter fun s => decide (s.uri = uri) && s.containsPoint p) =
        (SymbolList.symbolsIn l uri).filter (·.containsPoint p) := by
      intro l
      rw [SymbolList.symbolsIn, List.filter_filter]
      exact List.filter_congr fun s _ => Bool.and_comm _ _
    rw [h.search_eq, h'.search_eq, hhits, hhits, (hsame uri).symbols]
  have hfind : ∀ uri p, w.repository.find? uri p = w'.repository.find? uri p :=
    fun uri p => congrArg List.head? (hsearch uri p)
  have hload : ∀ id, w.repository.load? id = w'.repository.load? id := by
    intro id
    ext s
    rw [h.load?_eq_some_iff, h'.load?_eq_some_iff, hperm.mem_iff]
  refine ⟨fun uri => (hsame uri).state, fun uri => (hsame uri).mark, ?_, hsearch, ?_, ?_, ?_⟩
  · intro uri
    rw [h.symbolsIn_eq, h'.symbolsIn_eq]
    exact (hsame uri).symbols
  · intro uri pos
    simp only [Navigation.definition?, hfind, hload]
  · intro uri pos
    unfold Navigation.hover?
    rw [hfind]
  · intro uri pos declaration
    unfold Navigation.references
    rw [hfind]
    split
    · exact .refl _
    · exact (hperm.flatMap_right _).append_right _

/-! ## Interleavings -/

/-- Runs with the same operations for each file, in the same order for each file, lead to workspaces
that answer alike. -/
lemma alike_of_targets_eq (hids : language.ids = .position) (disk : Disk) {w : Workspace}
    (h : w.Reachable language) {ops ops' : List Operation}
    (hops : ∀ op ∈ ops, op.target?.isSome) (hops' : ∀ op ∈ ops', op.target?.isSome)
    (horder : ∀ uri, (ops.filter fun op => op.target? = some uri) =
      ops'.filter fun op => op.target? = some uri) :
    Alike (w.run language (ops.map (disk, ·))) (w.run language (ops'.map (disk, ·))) := by
  refine alike_of_sameAt (h.run _).consistent (h.run _).consistent fun uri => ?_
  have hfirst := sameAt_run hids disk hops h h (.refl uri w)
  have hsecond := sameAt_run hids disk hops' h h (.refl uri w)
  rw [horder] at hfirst
  exact hfirst.trans hsecond.symm

/-- The files that a load reads, in whatever order it comes upon them, are synchronised to the same
effect: a file that is met twice is met with the same text. -/
lemma alike_syncAll_readable (hids : language.ids = .position) (disk : Disk) {w : Workspace}
    (h : w.Reachable language) (limit : Option Nat) {paths paths' : List Path}
    (hperm : paths.Perm paths') :
    Alike (w.syncAll language (readable disk limit paths))
      (w.syncAll language (readable disk limit paths')) := by
  have htargets : ∀ files : List (Uri × String),
      ∀ op ∈ files.map fun file => Operation.synchronize file.1 file.2 none, op.target?.isSome := by
    intro files op hop
    obtain ⟨file, -, rfl⟩ := List.mem_map.1 hop
    rfl
  rw [syncAll_eq_run disk, syncAll_eq_run disk]
  refine alike_of_targets_eq hids disk h (htargets _) (htargets _) fun uri => ?_
  -- rearranged lists of one and the same operation are equal
  have hperms := ((readable_perm disk limit hperm).map fun file =>
    Operation.synchronize file.1 file.2 none).filter fun op => op.target? = some uri
  have hmem : ∀ {paths op}, op ∈ ((readable disk limit paths).map fun file =>
      Operation.synchronize file.1 file.2 none).filter (fun op => op.target? = some uri) →
      ∃ text, (uri, text) ∈ readable disk limit paths ∧ op = .synchronize uri text none := by
    intro paths op hop
    obtain ⟨hmap, htarget⟩ := List.mem_filter.1 hop
    obtain ⟨⟨v, text⟩, hfile, rfl⟩ := List.mem_map.1 hmap
    obtain rfl : v = uri := Option.some.inj (of_decide_eq_true htarget)
    exact ⟨text, hfile, rfl⟩
  have hany : ∀ ops : List Operation, ops.Pairwise fun _ _ => True :=
    fun _ => List.pairwise_of_forall fun _ _ => trivial
  refine List.Perm.eq_of_pairwise ?_ (hany _) (hany _) hperms
  intro op op' hop hop' _ _
  obtain ⟨text, htext, rfl⟩ := hmem hop
  obtain ⟨text', htext', rfl⟩ := hmem (hperms.mem_iff.2 hop')
  rw [text_eq_of_mem_readable htext htext']

/-- **How operations on different files interleave does not matter.** From every reachable
workspace, on a fixed disk: two sequences of operations on single files that bring the same
operations in the same order for each file lead to workspaces that answer alike. In particular a
load that comes to its end, as every load does that is not asked to stop, counts and leaves the
same, whatever the order in which it comes upon the files. So does one that is stopped from the
start. -/
theorem alike_run (hids : language.ids = .position) (htotal : language.Total) (disk : Disk)
    {w : Workspace} (hreach : w.Reachable language) :
    (∀ ops ops' : List Operation, (∀ op ∈ ops, op.target?.isSome) →
      (∀ op ∈ ops', op.target?.isSome) →
      (∀ uri, (ops.filter fun op => op.target? = some uri) =
        ops'.filter fun op => op.target? = some uri) →
      Alike (w.run language (ops.map (disk, ·))) (w.run language (ops'.map (disk, ·)))) ∧
    ∀ folders options stops paths,
      paths.Perm ((w.reset folders).discover language disk options) →
      let walked := w.load language disk folders options stops
      let listed := (w.reset folders).loadFiles language disk options.maxBytes stops 0
        { discovered := paths.length } paths
      ((∀ k < paths.length, stops k = false) →
        LoadSummary.Completed walked.2 ∧ LoadSummary.Completed listed.2) ∧
      (stops 0 = true → walked = listed) ∧
      (LoadSummary.Completed walked.2 → LoadSummary.Completed listed.2 →
        walked.2 = listed.2 ∧ Alike walked.1 listed.1) := by
  refine ⟨fun ops ops' hops hops' => alike_of_targets_eq hids disk hreach hops hops', ?_⟩
  intro folders options stops paths hperm walked listed
  have hopen : (w.reset folders).files.opened = [] := rfl
  refine ⟨?_, ?_, fun hwalked hlisted => ?_⟩
  · intro hgoes
    have hgoes' := hgoes
    rw [hperm.length_eq] at hgoes'
    exact ⟨completed_loadFiles htotal hopen hgoes' rfl, completed_loadFiles htotal hopen hgoes rfl⟩
  · intro hstopped
    have hnil : paths = [] ↔ (w.reset folders).discover language disk options = [] := by
      rw [← List.length_eq_zero_iff, ← List.length_eq_zero_iff, hperm.length_eq]
    have hwalked : walked = _ := loadFiles_of_stopped hstopped _ _ _
    have hlisted : listed = _ := loadFiles_of_stopped hstopped _ _ _
    rw [hwalked, hlisted, hperm.length_eq, if_congr hnil rfl rfl]
  · have hlength : (readable disk options.maxBytes paths).length =
        (readable disk options.maxBytes
          ((w.reset folders).discover language disk options)).length :=
      (readable_perm disk options.maxBytes hperm).length_eq
    have halike := alike_syncAll_readable hids disk (hreach.reset folders) options.maxBytes
      hperm.symm
    have hwalked' : walked = _ := loadFiles_eq htotal hopen hwalked
    have hlisted' : listed = _ := loadFiles_eq htotal hopen hlisted
    rw [hwalked', hlisted', hlength, hperm.length_eq]
    exact ⟨rfl, halike⟩

/-- A disk with two files, the second of them empty. -/
def twoFileDisk : Disk :=
  ⟨.ofList [(["a"], .file (.text "a")), (["b"], .file (.text ""))]⟩

/-- Two files are opened; then the first is closed and the second saved. -/
def turnsTaken : List Operation :=
  [.openFile ⟨"file:///a"⟩ "x" 1, .openFile ⟨"file:///b"⟩ "y" 1, .close ⟨"file:///a"⟩,
    .save ⟨"file:///b"⟩ none]

/-- The same, first for the second file and then for the first. -/
def oneAfterTheOther : List Operation :=
  [.openFile ⟨"file:///b"⟩ "y" 1, .save ⟨"file:///b"⟩ none, .openFile ⟨"file:///a"⟩ "x" 1,
    .close ⟨"file:///a"⟩]

lemma turnsTaken_filter (uri : Uri) :
    (turnsTaken.filter fun op => op.target? = some uri) =
      oneAfterTheOther.filter fun op => op.target? = some uri := by
  by_cases ha : ⟨"file:///a"⟩ = uri
  · subst ha
    rfl
  · by_cases hb : ⟨"file:///b"⟩ = uri
    · subst hb
      rfl
    · simp [turnsTaken, oneAfterTheOther, Operation.target?, ha, hb]

/-- Two files that take turns, and a load that comes upon them in the other order. -/
theorem alike_run_twoFiles :
    Alike (run twinLanguage .empty (turnsTaken.map (twoFileDisk, ·)))
      (run twinLanguage .empty (oneAfterTheOther.map (twoFileDisk, ·))) ∧
    Alike (load twinLanguage twoFileDisk .empty [⟨"file:///"⟩] {} fun _ => false).1
      (loadFiles twinLanguage twoFileDisk none (fun _ => false) 0 (empty.reset [⟨"file:///"⟩])
        { discovered := 2 } ["/b", "/a"]).1 := by
  have htotal : twinLanguage.Total := fun _ _ => ⟨_, rfl⟩
  obtain ⟨hturns, hload⟩ := alike_run rfl htotal twoFileDisk .empty
  obtain ⟨hcompleted, -, hsame⟩ :=
    hload [⟨"file:///"⟩] {} (fun _ => false) ["/b", "/a"] (by decide)
  refine ⟨hturns turnsTaken oneAfterTheOther (by decide) (by decide) turnsTaken_filter, ?_⟩
  have hends := hcompleted fun _ _ => rfl
  exact (hsame hends.1 hends.2).2

end Workspace

end CodeIndex
