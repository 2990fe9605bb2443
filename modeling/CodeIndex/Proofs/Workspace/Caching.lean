import Mathlib.Tactic.Lemma
import CodeIndex.Proofs.Workspace.Generations
import CodeIndex.Proofs.Workspace.TokenCaches

set_option relaxedAutoImplicit false
set_option autoImplicit false

/-!
# Requests that share caches

Requests for proposals come in between the operations on a workspace, and each of them may leave
tokens behind for the next. The adapter may break off in any of them, at one time and not at
another. Whatever the order, a request is answered as if nothing was ever kept: from the text and
the tree that its file has now. And what is kept is kept for as long as it is of use: after the
tokenizer has come to an end for a file, it does so again only when a text was synchronised for the
file in between.

## Main definitions

* `Workspace.Action` — an operation, a change of folders or a request, and `Workspace.proceed`.
* `Workspace.Event.renews` — a text that the parser takes gives a file a new state.
* `Workspace.Action.tokenizes?` — the file for which a request has the tokenizer come to an end.
* `Workspace.Steady` — whatever the tokenizer comes to an end with is a function of the text.
* `Workspace.AnswersUncached` — what a request should be answered.

## Main results

* `Workspace.renewed_apply` — an operation leaves the state of a file alone, takes it away, or
  replaces it by one without cached tokens, and an event of the operation tells.
* `Workspace.transparent_cache` — caches do not show, and spare the tokenizer.
-/

namespace CodeIndex

/-- Tokens are computed and kept: the tokenizer is run and comes to an end. -/
def FileState.fills (f : FileState) (tokenize : String → Except Fault (List Token)) : Bool :=
  !f.hasTokens && (f.tokenized tokenize).1.hasTokens

/-- The tokenizer is run if there are no tokens yet, and only then does it matter. -/
lemma FileState.fills_eq_true_iff {f : FileState} {tokenize : String → Except Fault (List Token)} :
    f.fills tokenize = true ↔ f.tokens = none ∧ ∃ tokens, tokenize f.text = .ok tokens := by
  unfold fills hasTokens tokenized
  cases htokens : f.tokens with
  | some tokens => simp
  | none => cases htokenize : tokenize f.text <;> simp [htokens]

/-- Tokens stay where they are when they are asked for. -/
lemma FileState.hasTokens_tokenized {f : FileState} (h : f.hasTokens = true)
    (tokenize : String → Except Fault (List Token)) :
    (f.tokenized tokenize).1.hasTokens = true := by
  obtain ⟨tokens, htokens⟩ := Option.isSome_iff_exists.1 h
  unfold tokenized
  rw [htokens]
  exact h

namespace Workspace

variable {language : Language} {w w' : Workspace}

/-! ## New states -/

/-- A text that the parser takes gives its file a new state. -/
def Event.renews (language : Language) (uri : Uri) : Event → Bool
  | .synchronized v text => decide (v = uri) && (language.parse v text).isOk
  | _ => false

/-- Every state was there before, or it is one without tokens that an event gave to its file. -/
def Renewed (language : Language) (w w' : Workspace) (events : List Event) : Prop :=
  ∀ uri file, w'.files.get? uri = some file → w.files.get? uri = some file ∨
    file.uri = uri ∧ file.tokens = none ∧ ∃ e ∈ events, e.renews language uri = true

namespace Renewed

variable {events events' : List Event}

lemma of_get? (h : ∀ uri file, w'.files.get? uri = some file → w.files.get? uri = some file)
    (events : List Event) : Renewed language w w' events :=
  fun uri file hfile => .inl (h uri file hfile)

lemma refl (w : Workspace) (events : List Event) : Renewed language w w events :=
  of_get? (fun _ _ hfile => hfile) events

lemma trans {v : Workspace} (h : Renewed language w v events)
    (h' : Renewed language v w' events') : Renewed language w w' (events ++ events') := by
  intro uri file hfile
  rcases h' uri file hfile with hbefore | ⟨huri, hnone, e, he, hrenews⟩
  · rcases h uri file hbefore with hbefore | ⟨huri, hnone, e, he, hrenews⟩
    · exact .inl hbefore
    · exact .inr ⟨huri, hnone, e, List.mem_append_left _ he, hrenews⟩
  · exact .inr ⟨huri, hnone, e, List.mem_append_right _ he, hrenews⟩

lemma synchronize (w : Workspace) (uri : Uri) (text : String) (version : Option Int) :
    Renewed language w (w.synchronize language uri text version).1 [.synchronized uri text] := by
  intro v file hfile
  refine (get?_of_synchronize hfile).imp_right fun ⟨hv, huri, hnone, hparse⟩ =>
    ⟨huri, hnone, _, List.mem_singleton_self _, ?_⟩
  rw [Event.renews, hparse, decide_eq_true hv]
  rfl

lemma markOpen (w : Workspace) (uri : Uri) (events : List Event) :
    Renewed language w { w with files := w.files.markOpen uri } events :=
  of_get? (fun v _ hfile => (FileStore.get?_markOpen w.files uri v).symm.trans hfile) events

lemma dropAll (w : Workspace) (uris : List Uri) (events : List Event) :
    Renewed language w (w.dropAll uris) events := by
  refine of_get? (fun v file hfile => ?_) events
  rw [get?_dropAll] at hfile
  split at hfile
  · cases hfile
  · exact hfile

lemma forget (w : Workspace) (uri : Uri) (events : List Event) :
    Renewed language w (w.forget uri) events :=
  of_get? (fun _ _ hfile => get?_of_forget hfile) events

lemma indexFile (w : Workspace) (uri : Uri) (text : String) :
    Renewed language w (w.indexFile language uri text).1
      (if w.files.isOpen uri then [] else [.synchronized uri text]) := by
  rw [indexFile_fst]
  split
  · exact refl w _
  · exact synchronize w uri text none

/-- Each text that a load reads gives its file a new state, up to the one on which the parser breaks
off. -/
lemma loadFiles (disk : Disk) (limit : Option Nat) (stops : Nat → Bool) (done : Nat)
    (summary : LoadSummary) (paths : List Path) (hopen : w.files.opened = []) :
    Renewed language w (w.loadFiles language disk limit stops done summary paths).1
      (loadEvents language disk limit stops done paths) := by
  induction paths generalizing done w summary with
  | nil => exact refl w _
  | cons path paths ih =>
    unfold Workspace.loadFiles loadEvents
    split
    · exact refl w _
    · cases hpath : Uri.ofPath? path with
      | none => exact ih _ _ hopen
      | some uri =>
        cases hread : readSource disk path limit with
        | error e => exact ih _ _ hopen
        | ok text =>
          have hclosed : w.files.isOpen uri = false := by rw [FileStore.isOpen, hopen]; rfl
          have hsync : Renewed language w (w.synchronize language uri text none).1
              [.synchronized uri text] := synchronize w uri text none
          dsimp only
          unfold Workspace.indexFile Workspace.synchronize at *
          cases hparse : language.parse uri text with
          | error fault =>
            simp only [hclosed, Bool.false_eq_true, ↓reduceIte]
            exact refl w _
          | ok parse =>
            rw [hparse] at hsync
            simp only [hclosed, Bool.false_eq_true, ↓reduceIte]
            exact hsync.trans (ih _ _ hopen)

lemma load (disk : Disk) (w : Workspace) (folders : List Uri) (options : DiscoveryOptions)
    (stops : Nat → Bool) :
    Renewed language w (w.load language disk folders options stops).1
      (freshLoadEvents language disk w folders options stops) := by
  have hreset : Renewed language w (w.reset folders) [.cleared []] :=
    of_get? (fun _ _ hfile => by cases hfile) _
  exact hreset.trans (loadFiles (w := w.reset folders) disk _ _ _ _ _ rfl)

end Renewed

/-- **New states come from texts.** After an operation, the state of a file is the one it had, or it
has no tokens yet and an event of the operation gave it to the file. -/
theorem renewed_apply (w : Workspace) (disk : Disk) (op : Operation) :
    Renewed language w (op.apply language disk w) (op.events language disk w) := by
  cases op with
  | synchronize uri text version => exact .synchronize w uri text version
  | openFile uri text version =>
    exact (Renewed.markOpen w uri []).trans (.synchronize _ uri text (some version))
  | change uri text version => exact .synchronize w uri text (some version)
  | save uri text =>
    simp only [Operation.apply, Operation.events, save_fst]
    cases savedText disk w uri text with
    | error e => exact .refl w _
    | ok saved => exact .synchronize w uri saved _
  | close uri =>
    have hclosed : Renewed language w { w with files := w.files.markClosed uri } [] :=
      .of_get? (fun _ _ hfile => hfile) _
    simp only [Operation.apply, Operation.events, close_fst]
    cases readUri disk uri with
    | error e => exact hclosed.trans (.forget (dropSymbols _ uri) uri _)
    | ok text =>
      have hsync := hclosed.trans (.synchronize _ uri text none)
      dsimp only
      generalize Workspace.synchronize language { w with files := w.files.markClosed uri } uri text
        none = outcome at hsync ⊢
      rcases outcome with ⟨w', fault | report⟩
      · exact hsync
      · exact hsync.trans (.forget w' uri [])
  | delete uri => exact .dropAll w [uri] _
  | rename old new =>
    have hdrop : Renewed language w (w.delete old).1 [.removed old] := .dropAll w [old] _
    simp only [Operation.apply, Operation.events, rename_fst]
    split
    · cases renamedText disk w old new with
      | none => exact hdrop
      | some text =>
        have hcarried : Renewed language w (w.carriedOver old new) [.removed old] :=
          carriedOver_induction (P := fun v => Renewed language w v _) hdrop
            (hdrop.trans (.markOpen _ new []))
        exact hcarried.trans (.synchronize _ new text none)
    · exact hdrop
  | retain keep => exact .dropAll w (w.unretained keep) _
  | indexFile uri text => exact .indexFile w uri text
  | refresh uri =>
    simp only [Operation.apply, Operation.events, refresh_fst]
    split
    · exact .refl w _
    · cases readUri disk uri with
      | error e => exact .refl w _
      | ok text => exact .synchronize w uri text none
  | reset folders => exact .of_get? (fun _ _ hfile => by cases hfile) _
  | load folders options stops => exact .load disk w folders options stops

/-! ## Requests among operations -/

/-- What happens to a workspace: an operation on some disk, a change of its folders, or a request
for proposals at a point of a file. A request comes with the adapter as it is at the time. -/
inductive Action where
  | operation (disk : Disk) (op : Operation)
  | redirect (added removed : List Uri)
  | request (uri : Uri) (support : CompletionSupport) (p : Point) (options : CompletionOptions)

variable (language) in
/-- The workspace after an action. Requests for files that are not tracked are not let through. -/
def Action.apply (w : Workspace) : Action → Workspace
  | .operation disk op => op.apply language disk w
  | .redirect added removed => (w.addFolders added).removeFolders removed
  | .request uri support p options =>
    match w.files.get? uri with
    | none => w
    | some file => (w.complete support file p options).1

lemma apply_request_of_none {uri : Uri} (h : w.files.get? uri = none)
    (support : CompletionSupport) (p : Point) (options : CompletionOptions) :
    (Action.request uri support p options).apply language w = w := by
  rw [Action.apply, h]

lemma apply_request_of_some {uri : Uri} {file : FileState} (h : w.files.get? uri = some file)
    (support : CompletionSupport) (p : Point) (options : CompletionOptions) :
    (Action.request uri support p options).apply language w =
      (w.complete support file p options).1 := by
  rw [Action.apply, h]

variable (language) in
/-- The workspace after some actions. -/
def proceed (w : Workspace) (actions : List Action) : Workspace :=
  actions.foldl (Action.apply language) w

lemma proceed_append (w : Workspace) (before after : List Action) :
    w.proceed language (before ++ after) = (w.proceed language before).proceed language after :=
  List.foldl_append

/-- The events of an action. -/
def Action.events (language : Language) (w : Workspace) : Action → List Event
  | .operation disk op => op.events language disk w
  | _ => []

/-- The events of some actions. -/
def events (language : Language) (w : Workspace) : List Action → List Event
  | [] => []
  | a :: actions => a.events language w ++ events language (a.apply language w) actions

/-- The file for which the tokenizer is run and comes to an end, if the action is such a request. -/
def Action.tokenizes? (w : Workspace) : Action → Option Uri
  | .request uri support _ _ =>
    if (w.files.get? uri).any (·.fills support.tokenize) then some uri else none
  | _ => none

lemma exists_request_of_tokenizes? {a : Action} {uri : Uri} (h : a.tokenizes? w = some uri) :
    ∃ support p options file, a = .request uri support p options ∧
      w.files.get? uri = some file ∧ file.fills support.tokenize = true := by
  cases a with
  | operation disk op => cases h
  | redirect added removed => cases h
  | request v support p options =>
    rw [Action.tokenizes?] at h
    split at h
    · next hfills =>
      obtain rfl := Option.some.inj h
      obtain ⟨file, hfile, hfills⟩ := (Option.any_eq_true _ _).1 hfills
      exact ⟨support, p, options, file, rfl, hfile, hfills⟩
    · cases h

/-- The tokenizers of the requests, if they come to an end, come to the same for the same text. -/
def Steady (tokenize : String → Except Fault (List Token)) (actions : List Action) : Prop :=
  ∀ uri support p options, Action.request uri support p options ∈ actions →
    ∀ text tokens, support.tokenize text = .ok tokens → tokenize text = .ok tokens

lemma Steady.of_append {tokenize : String → Except Fault (List Token)} {before after : List Action}
    (h : Steady tokenize (before ++ after)) : Steady tokenize before ∧ Steady tokenize after :=
  ⟨fun uri support p options hmem => h uri support p options (List.mem_append_left _ hmem),
    fun uri support p options hmem => h uri support p options (List.mem_append_right _ hmem)⟩

lemma Steady.of_cons {tokenize : String → Except Fault (List Token)} {a : Action}
    {actions : List Action} (h : Steady tokenize (a :: actions)) :
    Steady tokenize [a] ∧ Steady tokenize actions :=
  of_append (show Steady tokenize ([a] ++ actions) from h)

/-- The answer to a request without regard to caches. If the file has no tokens yet and the
tokenizer breaks off, then so does the request; otherwise it is what is computed from the text and
the tree of the file alone. -/
inductive AnswersUncached (tokenize : String → Except Fault (List Token))
    (support : CompletionSupport) (file : FileState) (p : Point) (options : CompletionOptions) :
    Except Fault (List CompletionItem) → Prop where
  | broken {fault : Fault} (unread : file.tokens = none)
      (breaks : support.tokenize file.text = .error fault) :
      AnswersUncached tokenize support file p options (.error fault)
  | computed {answer : Except Fault (List CompletionItem)}
      (uncached : ∀ fresh : FileState, fresh.text = file.text → fresh.root = file.root →
        fresh.tokens = none →
          answer = ({ support with tokenize := tokenize }.provide fresh p options).2) :
      AnswersUncached tokenize support file p options answer

/-- Every state bears the name of its file, and its cached tokens are those of its text. -/
def Cached (tokenize : String → Except Fault (List Token)) (w : Workspace) : Prop :=
  ∀ uri file, w.files.get? uri = some file → file.uri = uri ∧ file.Faithful tokenize

section Requests

variable {tokenize : String → Except Fault (List Token)}

lemma Cached.of_renewed {events : List Event} (h : Cached tokenize w)
    (hrenewed : Renewed language w w' events) : Cached tokenize w' := by
  intro uri file hfile
  rcases hrenewed uri file hfile with hbefore | ⟨huri, hnone, -⟩
  · exact h uri file hbefore
  · exact ⟨huri, .of_none hnone⟩

lemma Cached.apply (h : Cached tokenize w) {a : Action} (hsteady : Steady tokenize [a]) :
    Cached tokenize (a.apply language w) := by
  cases a with
  | operation disk op => exact h.of_renewed (renewed_apply w disk op)
  | redirect added removed => exact h
  | request uri support p options =>
    cases hfile : w.files.get? uri with
    | none =>
      rw [apply_request_of_none hfile]
      exact h
    | some file =>
      rw [apply_request_of_some hfile]
      obtain ⟨huri, hfaithful⟩ := h uri file hfile
      intro v f hf
      rw [get?_complete huri] at hf
      split at hf
      · next hv =>
        obtain rfl := Option.some.inj hf
        rw [CompletionSupport.uri_provide, CompletionSupport.provide_fst]
        exact ⟨huri.trans hv.symm, hfaithful.tokenized
          (hsteady uri support p options (List.mem_singleton_self _) _)⟩
      · exact h v f hf

/-- Caches are faithful throughout. -/
lemma Cached.proceed (h : Cached tokenize w) {actions : List Action}
    (hsteady : Steady tokenize actions) : Cached tokenize (w.proceed language actions) := by
  induction actions generalizing w with
  | nil => exact h
  | cons a actions ih =>
    obtain ⟨hfirst, hrest⟩ := hsteady.of_cons
    exact ih (h.apply hfirst) hrest

/-- A faithful cache does not show in the answer to a request. -/
lemma answersUncached_complete {support : CompletionSupport} {file : FileState}
    (h : file.Faithful tokenize)
    (hsteady : ∀ tokens, support.tokenize file.text = .ok tokens → tokenize file.text = .ok tokens)
    (w : Workspace) (p : Point) (options : CompletionOptions) :
    AnswersUncached tokenize support file p options (w.complete support file p options).2 := by
  show AnswersUncached _ _ _ _ _ (support.provide file p options).2
  rw [CompletionSupport.provide_eq_bind]
  have hcomputed : ∀ tokens, tokenize file.text = .ok tokens →
      AnswersUncached tokenize support file p options
        (support.propose file tokens p options) := by
    intro tokens htokens
    refine .computed fun fresh htext hroot hfresh => ?_
    rw [CompletionSupport.provide_snd (.of_none hfresh)]
    show _ = (tokenize fresh.text).bind _
    rw [htext, htokens]
    exact CompletionSupport.propose_congr hroot.symm tokens p options
  unfold FileState.tokenized
  cases hcached : file.tokens with
  | some tokens => exact hcomputed tokens (h tokens hcached)
  | none =>
    cases hread : support.tokenize file.text with
    | ok tokens => exact hcomputed tokens (hsteady tokens hread)
    | error fault => exact .broken hcached hread

end Requests

/-! ## When the tokenizer is run -/

/-- The file has no state without tokens. -/
def Spared (uri : Uri) (w : Workspace) : Prop :=
  ∀ file, w.files.get? uri = some file → file.hasTokens = true

section Spared

variable {tokenize : String → Except Fault (List Token)} {uri : Uri}

/-- Tokens stay as long as no event gives the file a new state. -/
lemma Spared.apply (hcached : Cached tokenize w) (h : Spared uri w) {a : Action}
    (hevents : ∀ e ∈ a.events language w, e.renews language uri = false) :
    Spared uri (a.apply language w) := by
  cases a with
  | operation disk op =>
    intro file hfile
    rcases renewed_apply w disk op uri file hfile with hbefore | ⟨-, -, e, he, hrenews⟩
    · exact h file hbefore
    · rw [hevents e he] at hrenews
      cases hrenews
  | redirect added removed => exact h
  | request v support p options =>
    cases hfile : w.files.get? v with
    | none =>
      rw [apply_request_of_none hfile]
      exact h
    | some file =>
      rw [apply_request_of_some hfile]
      intro f hf
      rw [get?_complete (hcached v file hfile).1] at hf
      split at hf
      · next huri =>
        obtain rfl := Option.some.inj hf
        rw [CompletionSupport.provide_fst]
        exact FileState.hasTokens_tokenized (h file (huri ▸ hfile)) _
      · exact h f hf

lemma Spared.proceed (hcached : Cached tokenize w) (h : Spared uri w) {actions : List Action}
    (hsteady : Steady tokenize actions)
    (hevents : ∀ e ∈ events language w actions, e.renews language uri = false) :
    Spared uri (w.proceed language actions) := by
  induction actions generalizing w with
  | nil => exact h
  | cons a actions ih =>
    obtain ⟨hfirst, hrest⟩ := List.forall_mem_append.1 hevents
    obtain ⟨hsteadyFirst, hsteadyRest⟩ := hsteady.of_cons
    exact ih (hcached.apply hsteadyFirst) (h.apply hcached hfirst) hsteadyRest hrest

/-- After the tokenizer has come to an end for a file, there are tokens. -/
lemma spared_of_tokenizes? (hcached : Cached tokenize w) {a : Action}
    (h : a.tokenizes? w = some uri) : Spared uri (a.apply language w) := by
  obtain ⟨support, p, options, file, rfl, hfile, hfills⟩ := exists_request_of_tokenizes? h
  intro f hf
  rw [apply_request_of_some hfile, get?_complete (hcached uri file hfile).1, if_pos rfl] at hf
  obtain rfl := Option.some.inj hf
  rw [CompletionSupport.provide_fst]
  exact (Bool.and_eq_true _ _ ▸ hfills).2

end Spared

/-- **Caches do not show, and spare the tokenizer.** Let operations, changes of folders and requests
for proposals follow each other in any order from the empty workspace on, such that the tokenizer
comes to the same tokens for the same text whenever it comes to an end. A request for a tracked file
is answered as the text and the tree of the file alone would have it, unless the tokenizer has to be
run and breaks off. If the tokenizer comes to an end twice for a file, then in between a text was
synchronised that gave the file a new state. -/
theorem transparent_cache {tokenize : String → Except Fault (List Token)} {actions : List Action}
    (h : Steady tokenize actions) :
    (∀ before uri support p options after file,
      actions = before ++ .request uri support p options :: after →
        (proceed language .empty before).files.get? uri = some file →
          AnswersUncached tokenize support file p options
            ((proceed language .empty before).complete support file p options).2) ∧
    ∀ before a between a' after uri, actions = before ++ a :: (between ++ a' :: after) →
      a.tokenizes? (proceed language .empty before) = some uri →
        a'.tokenizes? (proceed language .empty (before ++ a :: between)) = some uri →
          ∃ e ∈ events language (proceed language .empty (before ++ [a])) between,
            e.renews language uri = true := by
  have hempty : Cached tokenize .empty := fun _ _ hfile => by cases hfile
  constructor
  · rintro before uri support p options after file rfl hfile
    obtain ⟨hbefore, hrest⟩ := h.of_append
    have hcached : Cached tokenize (proceed language .empty before) := hempty.proceed hbefore
    exact answersUncached_complete (hcached uri file hfile).2
      (hrest uri support p options List.mem_cons_self file.text) _ p options
  · rintro before a between a' after uri rfl hfirst hsecond
    by_contra hnone
    have hquiet : ∀ e ∈ events language (proceed language .empty (before ++ [a])) between,
        e.renews language uri = false :=
      fun e he => Bool.eq_false_iff.2 fun hrenews => hnone ⟨e, he, hrenews⟩
    obtain ⟨hbefore, hrest⟩ := h.of_append
    obtain ⟨ha, hrest⟩ := hrest.of_cons
    have hcached : Cached tokenize (proceed language .empty before) := hempty.proceed hbefore
    have hspared : Spared uri (proceed language .empty (before ++ a :: between)) := by
      rw [List.append_cons, proceed_append]
      rw [proceed_append] at hquiet ⊢
      exact (spared_of_tokenizes? hcached hfirst).proceed (hcached.apply ha) hrest.of_append.1
        hquiet
    obtain ⟨support, p, options, file, rfl, hfile, hfills⟩ := exists_request_of_tokenizes? hsecond
    have hnone := (FileState.fills_eq_true_iff.1 hfills).1
    have htokens := hspared file hfile
    rw [FileState.hasTokens, hnone] at htokens
    cases htokens

/-- A parser that takes every text but one. -/
def draftLanguage : Language :=
  .create "draft" fun _ text => if text = "?" then .error ⟨"no end"⟩ else .ok ⟨none, []⟩

/-- The whole text is one token. -/
def wholeText (text : String) : Except Fault (List Token) :=
  .ok [⟨0, 0, text, ⟨⟨1, 0⟩, ⟨1, UInt32.ofNat text.length⟩⟩⟩]

/-- An adapter that offers one spelling everywhere, with some tokenizer. -/
def spellingSupport (tokenize : String → Except Fault (List Token)) : CompletionSupport :=
  ⟨tokenize, fun _ _ => .ok (some ⟨[], [0]⟩), fun _ => .ok (some "def"), scopeless, [], []⟩

/-- The tokenizer breaks off, comes to an end, and breaks off again; then a text is synchronised on
which the parser breaks off, and another one that it takes. -/
def draftActions : List Action :=
  let uri : Uri := ⟨"file:///a"⟩
  let broken := spellingSupport fun _ => .error ⟨"no end"⟩
  [.operation .empty (.openFile uri "one" 1), .request uri broken ⟨1, 1⟩ ⟨false, true⟩,
    .request uri (spellingSupport wholeText) ⟨1, 1⟩ ⟨false, true⟩,
    .request uri broken ⟨1, 1⟩ ⟨false, true⟩, .operation .empty (.change uri "?" 2),
    .operation .empty (.change uri "three" 3),
    .request uri (spellingSupport wholeText) ⟨1, 1⟩ ⟨false, true⟩]

/-- What is sent in answer to the requests of a run. -/
def answers (language : Language) (w : Workspace) :
    List Action → List (Except Fault (List CompletionItem))
  | [] => []
  | .request uri support p options :: actions =>
    ((w.files.get? uri).map fun file => (w.complete support file p options).2).toList ++
      answers language ((Action.request uri support p options).apply language w) actions
  | a :: actions => answers language (a.apply language w) actions

/-- The first request breaks off with the tokenizer, the third one is answered from the cache, and
the last one is not: the tokenizer comes to an end in the second and in the last one. -/
theorem transparent_cache_retried :
    Steady wholeText draftActions ∧
      answers draftLanguage .empty draftActions =
        [.error ⟨"no end"⟩, .ok [⟨"def", .keyword, ⟨⟨0, 0⟩, ⟨0, 3⟩⟩, "def"⟩],
          .ok [⟨"def", .keyword, ⟨⟨0, 0⟩, ⟨0, 3⟩⟩, "def"⟩],
          .ok [⟨"def", .keyword, ⟨⟨0, 0⟩, ⟨0, 5⟩⟩, "def"⟩]] ∧
      (∀ before uri support p options after file,
        draftActions = before ++ .request uri support p options :: after →
          (proceed draftLanguage .empty before).files.get? uri = some file →
            AnswersUncached wholeText support file p options
              ((proceed draftLanguage .empty before).complete support file p options).2) ∧
      ∃ e ∈ events draftLanguage (proceed draftLanguage .empty (draftActions.take 3))
          ((draftActions.drop 3).take 3), e.renews draftLanguage ⟨"file:///a"⟩ = true := by
  have hsteady : Steady wholeText draftActions := by
    intro uri support p options hmem text tokens htokens
    simp only [draftActions, List.mem_cons, List.not_mem_nil, reduceCtorEq, false_or, or_false,
      Action.request.injEq] at hmem
    rcases hmem with ⟨-, rfl, -⟩ | ⟨-, rfl, -⟩ | ⟨-, rfl, -⟩ | ⟨-, rfl, -⟩
    · cases htokens
    · exact htokens
    · cases htokens
    · exact htokens
  obtain ⟨hanswers, honce⟩ := @transparent_cache draftLanguage _ _ hsteady
  exact ⟨hsteady, by rfl, hanswers,
    honce (draftActions.take 2) _ ((draftActions.drop 3).take 3) _ [] ⟨"file:///a"⟩ rfl rfl rfl⟩

end Workspace

end CodeIndex
