import Mathlib.Tactic.Lemma
import CodeIndex.Proofs.Completion.Proposals
import CodeIndex.Proofs.Workspace.Elementary

set_option relaxedAutoImplicit false
set_option autoImplicit false

/-!
# Token caches

The tokens of a file are computed when proposals are asked for, and kept. This file shows that
nothing but the time they save tells whether they were computed before: every operation does to a
workspace without cached tokens what it does to the same workspace with them, and proposals come
out the same, because cached tokens are always those of the text.

## Main definitions

* `FileState.uncached`, `Workspace.uncached` — a file and a workspace without cached tokens.
* `Workspace.Faithful` — the cached tokens of a file are those of its text.

## Main results

* `Workspace.kept_faithful` — every elementary change keeps caches faithful.
* `Workspace.synchronize_uncached` and the like — operations do not see caches.
* `CompletionSupport.provide_snd` — faithful caches have no part in the proposals.
* `Workspace.uncached_complete` — asking for proposals changes caches only.
-/

namespace CodeIndex

/-! ## Maps with other values -/

namespace OrderedMap

variable {κ α β : Type}

/-- The map with the same keys, in the same order, and a function applied to every value. -/
def mapValues (f : α → β) (m : OrderedMap κ α) : OrderedMap κ β where
  entries := m.entries.map fun e => (e.1, f e.2)
  nodup_keys := by
    rw [List.map_map]
    exact m.nodup_keys

@[simp] lemma keys_mapValues (f : α → β) (m : OrderedMap κ α) : (m.mapValues f).keys = m.keys := by
  simp [mapValues, keys, Function.comp_def]

@[simp] lemma values_mapValues (f : α → β) (m : OrderedMap κ α) :
    (m.mapValues f).values = m.values.map f := by
  simp [mapValues, values, Function.comp_def]

lemma mapValues_mapValues {γ : Type} (f : α → β) (g : β → γ) (m : OrderedMap κ α) :
    (m.mapValues f).mapValues g = m.mapValues (g ∘ f) := by
  refine OrderedMap.ext ?_
  simp [mapValues, Function.comp_def]

variable [DecidableEq κ]

@[simp] lemma get?_mapValues (f : α → β) (m : OrderedMap κ α) (k : κ) :
    (m.mapValues f).get? k = (m.get? k).map f := by
  show lookup k (m.entries.map fun e => (e.1, f e.2)) = (lookup k m.entries).map f
  induction m.entries with
  | nil => rfl
  | cons e es ih =>
    by_cases h : e.1 = k
    · simp [lookup, h]
    · simp [lookup, h, ih]

lemma mapValues_insert (f : α → β) (m : OrderedMap κ α) (k : κ) (a : α) :
    (m.insert k a).mapValues f = (m.mapValues f).insert k (f a) := by
  refine OrderedMap.ext ?_
  show (put k a m.entries).map (fun e => (e.1, f e.2)) =
    put k (f a) (m.entries.map fun e => (e.1, f e.2))
  induction m.entries with
  | nil => rfl
  | cons e es ih =>
    by_cases h : e.1 = k
    · simp [put, h]
    · simp [put, h, ih]

lemma mapValues_erase (f : α → β) (m : OrderedMap κ α) (k : κ) :
    (m.erase k).mapValues f = (m.mapValues f).erase k := by
  refine OrderedMap.ext ?_
  show (m.entries.filter _).map _ = (m.entries.map _).filter _
  rw [List.filter_map]
  rfl

/-- Giving a key the value that it has changes nothing. -/
lemma insert_of_get? {m : OrderedMap κ α} {k : κ} {a : α} (h : m.get? k = some a) :
    m.insert k a = m := by
  have hput : ∀ es : List (κ × α), lookup k es = some a → put k a es = es := by
    intro es hlookup
    induction es with
    | nil => cases hlookup
    | cons e es ih =>
      obtain ⟨j, b⟩ := e
      by_cases hj : j = k
      · simp_all [put, lookup]
      · simp_all [put, lookup]
  exact OrderedMap.ext (hput m.entries h)

end OrderedMap

/-! ## Files without cached tokens -/

/-- The file without its cached tokens. -/
def FileState.uncached (f : FileState) : FileState := { f with tokens := none }

namespace FileStore

/-- The store in which no tokens are cached. -/
def uncached (s : FileStore) : FileStore := { s with files := s.files.mapValues FileState.uncached }

variable (s : FileStore) (uri : Uri)

@[simp] lemma get?_uncached : s.uncached.get? uri = (s.get? uri).map FileState.uncached :=
  OrderedMap.get?_mapValues _ _ _

@[simp] lemma isOpen_uncached : s.uncached.isOpen uri = s.isOpen uri := rfl

@[simp] lemma uris_uncached : s.uncached.uris = s.uris := OrderedMap.keys_mapValues _ _

@[simp] lemma states_uncached : s.uncached.states = s.states.map FileState.uncached :=
  OrderedMap.values_mapValues _ _

lemma uncached_replace (f : FileState) :
    (s.replace f).uncached = s.uncached.replace f.uncached := by
  show FileStore.mk ((s.files.insert f.uri f).mapValues _) s.opened = _
  rw [OrderedMap.mapValues_insert]
  rfl

lemma uncached_remove : (s.remove uri).uncached = s.uncached.remove uri := by
  show FileStore.mk ((s.files.erase uri).mapValues _) _ = _
  rw [OrderedMap.mapValues_erase]
  rfl

lemma uncached_markOpen : (s.markOpen uri).uncached = s.uncached.markOpen uri := by
  unfold markOpen
  rw [isOpen_uncached]
  split <;> rfl

end FileStore

/-! ## Operations on workspaces without cached tokens -/

namespace Workspace

variable {language : Language} {disk : Disk}

/-- The workspace in which no tokens are cached. -/
def uncached (w : Workspace) : Workspace := { w with files := w.files.uncached }

variable (w : Workspace) (uri : Uri)

@[simp] lemma files_uncached : w.uncached.files = w.files.uncached := rfl

@[simp] lemma folders_uncached : w.uncached.folders = w.folders := rfl

@[simp] lemma uncached_uncached : w.uncached.uncached = w.uncached := by
  simp only [uncached, FileStore.uncached, OrderedMap.mapValues_mapValues]
  rfl

/-- Workspaces that differ in caches only have everything else in common. -/
lemma eq_of_uncached_eq {w w' : Workspace} (h : w.uncached = w'.uncached) :
    w.repository = w'.repository ∧ w.folders = w'.folders ∧ w.files.opened = w'.files.opened ∧
      ∀ uri, (w.files.get? uri).map FileState.uncached =
        (w'.files.get? uri).map FileState.uncached := by
  have hrepository := congrArg Workspace.repository h
  have hfolders := congrArg Workspace.folders h
  have hfiles := congrArg Workspace.files h
  have hopened := congrArg FileStore.opened hfiles
  refine ⟨hrepository, hfolders, hopened, fun uri => ?_⟩
  have hget := congrArg (fun s : FileStore => s.get? uri) hfiles
  simpa using hget

lemma synchronize_uncached (text : String) (version : Option Int) :
    w.uncached.synchronize language uri text version =
      (w.synchronize language uri text version).map uncached id := by
  have hcommit : ∀ parse, w.uncached.commitParse language uri text version parse =
      (w.commitParse language uri text version parse).map uncached id := by
    intro parse
    have hreplace : (w.files.replace (.ofParse uri text version parse)).uncached =
        w.files.uncached.replace (.ofParse uri text version parse) :=
      FileStore.uncached_replace _ _
    unfold commitParse
    cases parse.root with
    | none => simp [uncached, hreplace]
    | some root => simp [uncached, hreplace]
  unfold synchronize
  cases language.parse uri text with
  | error fault => rfl
  | ok parse => simp only [hcommit, Prod.map_fst, Prod.map_snd, Prod.map_apply, id_eq]

lemma markOpen_uncached :
    { w.uncached with files := w.uncached.files.markOpen uri } =
      uncached { w with files := w.files.markOpen uri } := by
  simp only [uncached, FileStore.uncached_markOpen]

lemma forget_uncached : w.uncached.forget uri = (w.forget uri).uncached := by
  simp only [forget, uncached, FileStore.uncached_remove]

lemma dropSymbols_uncached : w.uncached.dropSymbols uri = (w.dropSymbols uri).uncached := rfl

lemma reset_uncached (folders : List Uri) :
    w.uncached.reset folders = (w.reset folders).uncached := rfl

lemma delete_uncached : w.uncached.delete uri = (w.delete uri).map uncached id := by
  unfold delete
  rw [forget_uncached, dropSymbols_uncached]
  rfl

lemma openFile_uncached (text : String) (version : Int) :
    w.uncached.openFile language uri text version =
      (w.openFile language uri text version).map uncached id := by
  unfold openFile
  rw [markOpen_uncached, synchronize_uncached]

lemma savedText_uncached (text : Option String) :
    savedText disk w.uncached uri text = savedText disk w uri text := by
  unfold savedText
  rw [files_uncached, FileStore.get?_uncached]
  cases text with
  | some text => rfl
  | none => cases w.files.get? uri <;> rfl

lemma save_uncached (text : Option String) :
    w.uncached.save language disk uri text =
      (w.save language disk uri text).map uncached id := by
  have hversion : (w.uncached.files.get? uri).bind (·.version) =
      (w.files.get? uri).bind (·.version) := by
    rw [files_uncached, FileStore.get?_uncached]
    cases w.files.get? uri <;> rfl
  unfold save
  rw [savedText_uncached, hversion]
  cases savedText disk w uri text with
  | error e => rfl
  | ok saved =>
    dsimp only
    rw [synchronize_uncached]
    rcases w.synchronize language uri saved ((w.files.get? uri).bind (·.version)) with
      ⟨w', fault | report⟩ <;> rfl

lemma close_uncached :
    w.uncached.close language disk uri = (w.close language disk uri).map uncached id := by
  have hmark : { w.uncached with files := w.uncached.files.markClosed uri } =
      uncached { w with files := w.files.markClosed uri } := rfl
  unfold close
  dsimp only
  rw [hmark]
  cases readUri disk uri with
  | error e =>
    dsimp only
    rw [dropSymbols_uncached, forget_uncached]
    rfl
  | ok text =>
    dsimp only
    rw [synchronize_uncached]
    rcases Workspace.synchronize language { w with files := w.files.markClosed uri } uri text none
      with ⟨w', fault | report⟩
    · rfl
    · simp only [Prod.map_apply, id_eq, forget_uncached]

lemma rename_uncached (old new : Uri) :
    w.uncached.rename language disk old new =
      (w.rename language disk old new).map uncached id := by
  have hcarried : w.uncached.carriedOver old new = (w.carriedOver old new).uncached := by
    unfold carriedOver
    rw [delete_uncached, files_uncached, FileStore.isOpen_uncached]
    split
    · exact markOpen_uncached _ _
    · rfl
  have htext : renamedText disk w.uncached old new = renamedText disk w old new := by
    unfold renamedText
    rw [files_uncached, FileStore.get?_uncached]
    cases w.files.get? old <;> rfl
  rw [rename_eq, rename_eq, htext, hcarried, delete_uncached]
  split
  · cases renamedText disk w old new with
    | none => rfl
    | some text =>
      dsimp only
      rw [synchronize_uncached]
      rfl
  · rfl

lemma retain_uncached (keep : List Uri) :
    w.uncached.retain keep = (w.retain keep).map uncached id := by
  have hdrop : ∀ (uris : List Uri) (w : Workspace),
      w.uncached.dropAll uris = (w.dropAll uris).uncached := by
    intro uris
    induction uris with
    | nil => exact fun w => rfl
    | cons uri uris ih =>
      intro w
      show ((w.uncached.forget uri).dropSymbols uri).dropAll uris = _
      rw [forget_uncached, dropSymbols_uncached, ih]
      rfl
  have hdropped : w.uncached.unretained keep = w.unretained keep := by
    unfold unretained knownFiles
    rw [files_uncached, FileStore.uris_uncached]
    rfl
  refine Prod.ext ?_ (congrArg List.length hdropped)
  show w.uncached.dropAll (w.uncached.unretained keep) = (w.dropAll (w.unretained keep)).uncached
  rw [hdropped, hdrop]

lemma indexFile_uncached (text : String) :
    w.uncached.indexFile language uri text =
      (w.indexFile language uri text).map uncached id := by
  unfold indexFile
  rw [files_uncached, FileStore.isOpen_uncached, synchronize_uncached]
  split
  · rfl
  · rcases w.synchronize language uri text none with ⟨w', fault | report⟩ <;> rfl

lemma refresh_uncached :
    w.uncached.refresh language disk uri = (w.refresh language disk uri).map uncached id := by
  unfold refresh
  rw [files_uncached, FileStore.isOpen_uncached]
  split
  · rfl
  · cases readUri disk uri with
    | error e => rfl
    | ok text =>
      dsimp only
      rw [indexFile_uncached]
      rcases w.indexFile language uri text with ⟨w', fault | report⟩ <;> rfl

end Workspace

/-! ## Faithful caches -/

/-- The cached tokens of the file, if there are any, are those of its text. -/
def FileState.Faithful (tokenize : String → Except Fault (List Token)) (f : FileState) : Prop :=
  ∀ tokens, f.tokens = some tokens → tokenize f.text = .ok tokens

lemma FileState.Faithful.of_none {tokenize : String → Except Fault (List Token)} {f : FileState}
    (h : f.tokens = none) : f.Faithful tokenize := by
  intro tokens htokens
  rw [h] at htokens
  cases htokens

/-- Computing the tokens of a file changes nothing but its cache. -/
lemma FileState.uncached_tokenized (f : FileState)
    (tokenize : String → Except Fault (List Token)) :
    (f.tokenized tokenize).1.uncached = f.uncached := by
  unfold tokenized
  cases f.tokens with
  | some tokens => rfl
  | none => cases tokenize f.text <;> rfl

/-- The cache stays faithful if the tokenizer comes to the tokens of the text or to no end. -/
lemma FileState.Faithful.tokenized {tokenize run : String → Except Fault (List Token)}
    {f : FileState} (h : f.Faithful tokenize)
    (hrun : ∀ tokens, run f.text = .ok tokens → tokenize f.text = .ok tokens) :
    (f.tokenized run).1.Faithful tokenize := by
  unfold FileState.tokenized
  cases htokens : f.tokens with
  | some tokens => exact h
  | none =>
    cases hread : run f.text with
    | ok tokens =>
      intro tokens' htokens'
      obtain rfl := Option.some.inj htokens'
      exact hrun tokens hread
    | error fault => exact h

/-- Computing the tokens of a file fills its cache and nothing else, and keeps it faithful. -/
lemma FileState.tokenized_fst {tokenize : String → Except Fault (List Token)} {f : FileState}
    (h : f.Faithful tokenize) :
    (f.tokenized tokenize).1.uncached = f.uncached ∧
      (f.tokenized tokenize).1.Faithful tokenize :=
  ⟨f.uncached_tokenized tokenize, h.tokenized fun _ hrun => hrun⟩

lemma FileState.tokenized_snd {tokenize : String → Except Fault (List Token)} {f : FileState}
    (h : f.Faithful tokenize) : (f.tokenized tokenize).2 = tokenize f.text := by
  unfold tokenized
  cases htokens : f.tokens with
  | some tokens => exact (h tokens htokens).symm
  | none => cases tokenize f.text <;> rfl

namespace CompletionSupport

variable {support : CompletionSupport} {file : FileState}

lemma provide_fst (p : Point) (options : CompletionOptions) :
    (support.provide file p options).1 = (file.tokenized support.tokenize).1 := by
  unfold provide
  rcases file.tokenized support.tokenize with ⟨file', fault | tokens⟩ <;> rfl

lemma uri_provide (p : Point) (options : CompletionOptions) :
    (support.provide file p options).1.uri = file.uri := by
  rw [provide_fst]
  show (file.tokenized support.tokenize).1.uncached.uri = file.uncached.uri
  rw [FileState.uncached_tokenized]

/-- With a faithful cache, the proposals are those of the tokens of the text. -/
lemma provide_snd (h : file.Faithful support.tokenize) (p : Point) (options : CompletionOptions) :
    (support.provide file p options).2 =
      (support.tokenize file.text).bind fun tokens => support.propose file tokens p options := by
  rw [provide_eq_bind, FileState.tokenized_snd h]

end CompletionSupport

namespace Workspace

variable {language : Language} {w : Workspace}

/-- A request for proposals replaces the state of its file and no other. -/
lemma get?_complete {uri : Uri} {file : FileState} (huri : file.uri = uri)
    (support : CompletionSupport) (p : Point) (options : CompletionOptions) (v : Uri) :
    (w.complete support file p options).1.files.get? v =
      if v = uri then some (support.provide file p options).1 else w.files.get? v := by
  have hprovided : (support.provide file p options).1.uri = uri :=
    (CompletionSupport.uri_provide p options).trans huri
  rw [← hprovided]
  exact OrderedMap.get?_insert _ _ _ _

/-- After a text was synchronised, the state of a file is the one that it had, or it is the new one
of a text that the parser took, which has no tokens yet. -/
lemma get?_of_synchronize {uri v : Uri} {text : String} {version : Option Int} {file : FileState}
    (hfile : (w.synchronize language uri text version).1.files.get? v = some file) :
    w.files.get? v = some file ∨
      uri = v ∧ file.uri = v ∧ file.tokens = none ∧ (language.parse uri text).isOk = true := by
  rw [synchronize_fst] at hfile
  split at hfile
  · exact .inl hfile
  · next parse hparse =>
    rw [get?_commitParse] at hfile
    split at hfile
    · next hv =>
      obtain rfl := Option.some.inj hfile
      rw [hparse]
      exact .inr ⟨hv.symm, hv.symm, rfl, rfl⟩
    · exact .inl hfile

/-- No file has a state after one was forgotten that it did not have before. -/
lemma get?_of_forget {uri v : Uri} {file : FileState}
    (hfile : (w.forget uri).files.get? v = some file) : w.files.get? v = some file := by
  rw [get?_forget] at hfile
  split at hfile
  · cases hfile
  · exact hfile

/-- Every file bears its name, and its cached tokens are those of its text. -/
structure Faithful (language : Language) (w : Workspace) : Prop where
  uri : ∀ {uri file}, w.files.get? uri = some file → file.uri = uri
  tokens : ∀ {uri file support}, w.files.get? uri = some file →
    language.completion = some support → file.Faithful support.tokenize

namespace Faithful

/-- Every file is as before, or it has no tokens yet. -/
lemma of_states {w' : Workspace} (h : w.Faithful language)
    (hstates : ∀ uri file, w'.files.get? uri = some file →
      w.files.get? uri = some file ∨ file.uri = uri ∧ file.tokens = none) :
    w'.Faithful language where
  uri hfile := by
    rcases hstates _ _ hfile with hbefore | ⟨huri, -⟩
    · exact h.uri hbefore
    · exact huri
  tokens hfile hsupport := by
    rcases hstates _ _ hfile with hbefore | ⟨-, hnone⟩
    · exact h.tokens hbefore hsupport
    · exact .of_none hnone

/-- Without cached tokens there is nothing to be unfaithful. -/
lemma uncached (h : w.Faithful language) : w.uncached.Faithful language where
  uri hfile := by
    rw [files_uncached, FileStore.get?_uncached] at hfile
    obtain ⟨file, hget, rfl⟩ := Option.map_eq_some_iff.1 hfile
    have huri := h.uri hget
    exact huri
  tokens hfile _ := by
    rw [files_uncached, FileStore.get?_uncached] at hfile
    obtain ⟨file, -, rfl⟩ := Option.map_eq_some_iff.1 hfile
    exact .of_none rfl

/-- The tokens of a file are computed. -/
lemma complete {uri : Uri} {file : FileState} {support : CompletionSupport}
    (h : w.Faithful language) (hfile : w.files.get? uri = some file)
    (hsupport : language.completion = some support) (p : Point) (options : CompletionOptions) :
    (w.complete support file p options).1.Faithful language := by
  refine ⟨fun {v f} hf => ?_, fun {v f support'} hf hsupport' => ?_⟩
  · rw [get?_complete (h.uri hfile)] at hf
    split at hf
    · next hv =>
      obtain rfl := Option.some.inj hf
      exact (CompletionSupport.uri_provide p options).trans ((h.uri hfile).trans hv.symm)
    · exact h.uri hf
  · rw [get?_complete (h.uri hfile)] at hf
    split at hf
    · obtain rfl := Option.some.inj hf
      obtain rfl : support = support' := Option.some.inj (hsupport.symm.trans hsupport')
      rw [CompletionSupport.provide_fst]
      exact (FileState.tokenized_fst (h.tokens hfile hsupport)).2
    · exact h.tokens hf hsupport'

end Faithful

/-- Caches stay faithful, whatever happens to a workspace. -/
lemma kept_faithful (language : Language) :
    Kept language (fun _ => True) (Faithful language) where
  synchronize text version _ h := h.of_states fun v file hfile =>
    (get?_of_synchronize hfile).imp_right fun ⟨_, huri, hnone, _⟩ => ⟨huri, hnone⟩
  markOpen uri h := h.of_states fun v file hfile => by
    rw [FileStore.get?_markOpen] at hfile
    exact .inl hfile
  markClosed uri h := h.of_states fun v file hfile => .inl hfile
  forget uri h := h.of_states fun v file hfile => .inl (get?_of_forget hfile)
  drop uri h := h.of_states fun v file hfile => .inl (get?_of_forget hfile)
  reset folders h := h.of_states fun v file hfile => by cases hfile
  redirect folders h := h.of_states fun v file hfile => .inl hfile
  complete p options hfile hsupport h := h.complete hfile hsupport p options

/-! ## Proposals -/

/-- Asking for proposals changes caches only. -/
lemma uncached_complete {uri : Uri} {file : FileState} {support : CompletionSupport}
    (h : w.Faithful language) (hfile : w.files.get? uri = some file)
    (hsupport : language.completion = some support) (p : Point) (options : CompletionOptions) :
    (w.complete support file p options).1.uncached = w.uncached := by
  obtain ⟨hsame, -⟩ := FileState.tokenized_fst (h.tokens hfile hsupport)
  rw [← CompletionSupport.provide_fst p options] at hsame
  have hkept : w.files.uncached.replace file.uncached = w.files.uncached := by
    have hget : w.files.uncached.get? file.uncached.uri = some file.uncached := by
      rw [FileStore.get?_uncached]
      show (w.files.get? file.uri).map FileState.uncached = _
      rw [h.uri hfile, hfile]
      rfl
    show FileStore.mk (w.files.uncached.files.insert file.uncached.uri file.uncached) _ = _
    rw [OrderedMap.insert_of_get? hget]
  show { w with files := (w.files.replace (support.provide file p options).1).uncached } = _
  rw [FileStore.uncached_replace, hsame, hkept]
  rfl

/-- Proposals do not depend on caches. -/
lemma complete_uncached {uri : Uri} {file : FileState} {support : CompletionSupport}
    (h : w.Faithful language) (hfile : w.files.get? uri = some file)
    (hsupport : language.completion = some support) (p : Point) (options : CompletionOptions) :
    (w.uncached.complete support file.uncached p options).2 =
      (w.complete support file p options).2 := by
  have huncached : file.uncached.Faithful support.tokenize := .of_none rfl
  show (support.provide file.uncached p options).2 = (support.provide file p options).2
  rw [CompletionSupport.provide_snd huncached, CompletionSupport.provide_snd
    (h.tokens hfile hsupport)]
  rfl

end Workspace

end CodeIndex
