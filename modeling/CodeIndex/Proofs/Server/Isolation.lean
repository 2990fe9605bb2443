import Mathlib.Tactic.Lemma
import CodeIndex.Proofs.Server.Indexing
import CodeIndex.Proofs.Server.TokenCaches
import CodeIndex.Proofs.Tree.Outlines
import CodeIndex.Proofs.Workspace.Closing

set_option relaxedAutoImplicit false
set_option autoImplicit false

/-!
# Faults of the adapter leave no trace

The adapter can break off in the middle of a message: the parser on a text that the message brings
in, the tokenizer, the collector or the scope while proposals are made, a node when it is asked for
its kind. This file says when that happens, without regard to what the server makes of it, and shows
that the server is then as it was, but for tokens that were cached on the way; that the user is told
once; that the answer is the empty one of its kind; and that whatever comes later comes as if the
message had never been sent.

## Main definitions

* `Message.Guarded` — the messages in question, each with its method and its empty answer.
* `Server.BreaksOff` — the adapter breaks off while a message is handled.
* `Session.Isolated` — a message leaves no trace but an error shown to the user.

## Main results

* `Server.protected_of_guarded` — every fault is caught, and no error is shown without one.
* `Session.isolated_of_breaksOff` — every fault is isolated.
-/

namespace CodeIndex

/-! ## When the adapter breaks off -/

/-- The messages that are handled so that a fault of the adapter is caught, each with the method
that the user is told about and the answer that is given in place of a proper one. -/
inductive Message.Guarded : Message → String → Option Answer → Prop where
  | changed (uri : Uri) (changes : List TextChange) (version : Int) :
      Guarded (.notification (.changed uri changes version)) "textDocument/didChange" none
  | saved (uri : Uri) (text : Option String) :
      Guarded (.notification (.saved uri text)) "textDocument/didSave" none
  | touched (uri : Uri) :
      Guarded (.notification (.watched [(uri, .touched)])) "workspace/didChangeWatchedFiles" none
  | hover (uri : Uri) (pos : Editor.Position) :
      Guarded (.request (.hover uri pos)) "textDocument/hover" (some (.hover none))
  | definition (uri : Uri) (pos : Editor.Position) :
      Guarded (.request (.definition uri pos)) "textDocument/definition" (some (.definition none))
  | references (uri : Uri) (pos : Editor.Position) (declaration : Bool) :
      Guarded (.request (.references uri pos declaration)) "textDocument/references"
        (some (.references []))
  | completion (uri : Uri) (pos : Editor.Position) :
      Guarded (.request (.completion uri pos)) "textDocument/completion"
        (some (.completion (some [])))
  | outline (uri : Uri) :
      Guarded (.request (.outline uri)) "textDocument/documentSymbol" (some (.outline (some [])))

namespace Server

/-- The adapter breaks off while a message is handled. Hovers, definitions and references are read
off the index, so the adapter has no part in them. -/
inductive BreaksOff (language : Language) (disk : Disk) (s : Server) : Message → Prop where
  /-- The parser, on the first change of the whole text. -/
  | changed {uri : Uri} {changes : List TextChange} {version : Int} {change : TextChange}
      {fault : Fault} (hchange : changes.find? (fun c => !c.partly) = some change)
      (hparse : language.parse uri change.text = .error fault) :
      BreaksOff language disk s (.notification (.changed uri changes version))
  /-- The parser, on the text that is saved. -/
  | saved {uri : Uri} {text : Option String} {saved : String} {fault : Fault}
      (hsaved : s.workspace.savedText disk uri text = .ok saved)
      (hparse : language.parse uri saved = .error fault) :
      BreaksOff language disk s (.notification (.saved uri text))
  /-- The parser, on the text on disk of a watched file that is not open. -/
  | touched {uri : Uri} {text : String} {fault : Fault}
      (hclosed : s.workspace.files.isOpen uri = false) (hhandles : language.handlesUri uri = true)
      (hread : readUri disk uri = .ok text) (hparse : language.parse uri text = .error fault) :
      BreaksOff language disk s (.notification (.watched [(uri, .touched)]))
  /-- The tokenizer, the collector or the scope, while proposals for a tracked file are made. -/
  | completion {uri : Uri} {pos : Editor.Position} {support : CompletionSupport} {file : FileState}
      (hsupport : language.completion = some support)
      (hfile : s.workspace.files.get? uri = some file)
      (hbroken : support.BreaksOff file pos.toPoint s.settings.completion) :
      BreaksOff language disk s (.request (.completion uri pos))
  /-- The kind of a node with a name and a range. -/
  | kind {uri : Uri} {file : FileState} {root n : Node}
      (hfile : s.workspace.files.get? uri = some file) (hroot : file.root = some root)
      (hnode : n ∈ root.walk) (hname : n.name.isSome = true) (hspan : n.positioned = true)
      (hkind : n.KindFails) : BreaksOff language disk s (.request (.outline uri))

/-- A fault was caught: the server is as before, but for caches, the user is told and nobody else,
and the answer is the given one. -/
structure Caught (language : Language) (disk : Disk) (s : Server) (message : Message)
    (method : String) (answer : Option Answer) : Prop where
  uncached : (s.handle language disk message).1.uncached = s.uncached
  told : (s.handle language disk message).2 = [internalError method]
  answered : s.answer? language message = answer

/-- The adapter broke off and the fault was caught, or it came through and no error is shown. -/
def Protected (language : Language) (disk : Disk) (s : Server) (message : Message)
    (method : String) (answer : Option Answer) : Prop :=
  s.BreaksOff language disk message ∧ s.Caught language disk message method answer ∨
    ¬ s.BreaksOff language disk message ∧
      (s.handle language disk message).2.any Outgoing.isError = false

/-! ## Faults of the parser -/

variable {language : Language}

lemma protected_changed (disk : Disk) (s : Server) (uri : Uri) (changes : List TextChange)
    (version : Int) :
    s.Protected language disk (.notification (.changed uri changes version))
      "textDocument/didChange" none := by
  have hhandle : s.handle language disk (.notification (.changed uri changes version)) =
      s.change language uri changes version := rfl
  cases hchange : changes.find? fun c => !c.partly with
  | none =>
    refine .inr ⟨?_, by rw [hhandle, change, hchange]; rfl⟩
    intro hbroken
    cases hbroken with
    | changed hchange' _ =>
      rw [hchange] at hchange'
      cases hchange'
  | some c =>
    rw [change, hchange] at hhandle
    dsimp only [Workspace.change] at hhandle
    cases hparse : language.parse uri c.text with
    | error fault =>
      rw [Workspace.synchronize_of_error _ hparse] at hhandle
      refine .inl ⟨.changed hchange hparse, ?_, ?_, rfl⟩ <;> rw [hhandle] <;> rfl
    | ok parse =>
      rw [Workspace.synchronize_of_ok _ hparse] at hhandle
      refine .inr ⟨?_, by rw [hhandle]; rfl⟩
      intro hbroken
      cases hbroken with
      | changed hchange' hfault =>
        obtain rfl := Option.some.inj (hchange.symm.trans hchange')
        rw [hparse] at hfault
        cases hfault

lemma protected_saved (disk : Disk) (s : Server) (uri : Uri) (text : Option String) :
    s.Protected language disk (.notification (.saved uri text)) "textDocument/didSave" none := by
  have hhandle : s.handle language disk (.notification (.saved uri text)) =
      s.save language disk uri text := rfl
  cases hsaved : s.workspace.savedText disk uri text with
  | error e =>
    refine .inr ⟨?_, by rw [hhandle, save, Workspace.save, hsaved]; rfl⟩
    intro hbroken
    cases hbroken with
    | saved hsaved' _ =>
      rw [hsaved] at hsaved'
      cases hsaved'
  | ok saved =>
    rw [save, Workspace.save, hsaved] at hhandle
    dsimp only at hhandle
    cases hparse : language.parse uri saved with
    | error fault =>
      rw [Workspace.synchronize_of_error _ hparse] at hhandle
      refine .inl ⟨.saved hsaved hparse, ?_, ?_, rfl⟩ <;> rw [hhandle] <;> rfl
    | ok parse =>
      rw [Workspace.synchronize_of_ok _ hparse] at hhandle
      refine .inr ⟨?_, by rw [hhandle]; rfl⟩
      intro hbroken
      cases hbroken with
      | saved hsaved' hfault =>
        obtain rfl := Except.ok.inj (hsaved.symm.trans hsaved')
        rw [hparse] at hfault
        cases hfault

lemma watch_touched_of_error {s : Server} {disk : Disk} {uri : Uri} {text : String} {fault : Fault}
    (hclosed : s.workspace.files.isOpen uri = false) (hhandles : language.handlesUri uri = true)
    (hread : readUri disk uri = .ok text) (hparse : language.parse uri text = .error fault) :
    s.watch language disk uri .touched =
      (s, [internalError "workspace/didChangeWatchedFiles"]) := by
  unfold watch Workspace.refresh
  rw [hclosed, hhandles, hread]
  dsimp only
  rw [Workspace.indexFile, hclosed, Workspace.synchronize_of_error _ hparse]
  rfl

lemma protected_touched (disk : Disk) (s : Server) (uri : Uri) :
    s.Protected language disk (.notification (.watched [(uri, .touched)]))
      "workspace/didChangeWatchedFiles" none := by
  have hhandle : s.handle language disk (.notification (.watched [(uri, .touched)])) =
      ((s.watch language disk uri .touched).1, (s.watch language disk uri .touched).2 ++ []) := rfl
  rw [List.append_nil] at hhandle
  cases hspared : s.workspace.files.isOpen uri || !language.handlesUri uri with
  | true =>
    refine .inr ⟨?_, by rw [hhandle, watch, Workspace.refresh, hspared]; rfl⟩
    intro hbroken
    cases hbroken with
    | touched hclosed hhandles _ _ =>
      rw [hclosed, hhandles] at hspared
      cases hspared
  | false =>
    obtain ⟨hclosed, hhandles⟩ := Bool.or_eq_false_iff.1 hspared
    rw [Bool.not_eq_false'] at hhandles
    cases hread : readUri disk uri with
    | error e =>
      refine .inr ⟨?_, by rw [hhandle, watch, Workspace.refresh, hspared, hread]; rfl⟩
      intro hbroken
      cases hbroken with
      | touched _ _ hread' _ =>
        rw [hread] at hread'
        cases hread'
    | ok text =>
      cases hparse : language.parse uri text with
      | error fault =>
        rw [watch_touched_of_error hclosed hhandles hread hparse] at hhandle
        refine .inl ⟨.touched hclosed hhandles hread hparse, ?_, ?_, rfl⟩ <;> rw [hhandle]
      | ok parse =>
        rw [watch, Workspace.refresh, hspared, hread] at hhandle
        dsimp only at hhandle
        rw [Workspace.indexFile, hclosed, Workspace.synchronize_of_ok _ hparse] at hhandle
        refine .inr ⟨?_, by rw [hhandle]; rfl⟩
        intro hbroken
        cases hbroken with
        | touched _ _ hread' hfault =>
          obtain rfl := Except.ok.inj (hread.symm.trans hread')
          rw [hparse] at hfault
          cases hfault

/-! ## Faults while a request is answered -/

/-- With a faithful cache, proposals fail exactly if the adapter breaks off. -/
lemma isOk_provide_eq_false_iff {support : CompletionSupport} {file : FileState}
    (h : file.Faithful support.tokenize) (p : Point) (options : CompletionOptions) :
    (support.provide file p options).2.isOk = false ↔ support.BreaksOff file p options := by
  rw [CompletionSupport.provide_snd h, CompletionSupport.breaksOff_iff]

lemma complete_snd {s : Server} {uri : Uri} {support : CompletionSupport} {file : FileState}
    (hsupport : language.completion = some support)
    (hfile : s.workspace.files.get? uri = some file) (pos : Editor.Position) :
    (s.complete language uri pos).2 =
      match (support.provide file pos.toPoint s.settings.completion).2 with
      | .ok items => ([], some items)
      | .error _ => ([internalError "textDocument/completion"], some []) := by
  unfold complete Workspace.complete
  rw [hsupport, hfile]
  dsimp only
  rcases support.provide file pos.toPoint s.settings.completion with ⟨file', fault | items⟩ <;> rfl

lemma breaksOff_completion_iff {s : Server} (h : s.workspace.Faithful language) (disk : Disk)
    (uri : Uri) (pos : Editor.Position) :
    s.BreaksOff language disk (.request (.completion uri pos)) ↔
      ∃ support file, language.completion = some support ∧
        s.workspace.files.get? uri = some file ∧
        (support.provide file pos.toPoint s.settings.completion).2.isOk = false := by
  refine ⟨fun hbroken => ?_, ?_⟩
  · cases hbroken with
    | completion hsupport hfile hbroken =>
      exact ⟨_, _, hsupport, hfile,
        (isOk_provide_eq_false_iff (h.tokens hfile hsupport) _ _).2 hbroken⟩
  · rintro ⟨support, file, hsupport, hfile, hfails⟩
    exact .completion hsupport hfile
      ((isOk_provide_eq_false_iff (h.tokens hfile hsupport) _ _).1 hfails)

lemma protected_completion {s : Server} (h : s.workspace.Faithful language) (disk : Disk)
    (uri : Uri) (pos : Editor.Position) :
    s.Protected language disk (.request (.completion uri pos)) "textDocument/completion"
      (some (.completion (some []))) := by
  have hhandle : (s.handle language disk (.request (.completion uri pos))).2 =
      (s.complete language uri pos).2.1 := rfl
  have hanswer : s.answer? language (.request (.completion uri pos)) =
      some (.completion (s.complete language uri pos).2.2) := rfl
  unfold Protected
  rw [breaksOff_completion_iff h]
  cases hsupport : language.completion with
  | none =>
    refine .inr ⟨fun ⟨_, _, hsome, _⟩ => (by cases hsome), ?_⟩
    rw [hhandle, complete, hsupport]
    rfl
  | some support =>
    cases hfile : s.workspace.files.get? uri with
    | none =>
      refine .inr ⟨fun ⟨_, _, _, hsome, _⟩ => (by cases hsome), ?_⟩
      rw [hhandle, complete, hsupport, hfile]
      rfl
    | some file =>
      have hcomplete := complete_snd hsupport hfile pos
      cases hprovide : (support.provide file pos.toPoint s.settings.completion).2 with
      | error fault =>
        rw [hprovide] at hcomplete
        refine .inl ⟨⟨support, file, rfl, rfl, by rw [hprovide]; rfl⟩, ?_, ?_, ?_⟩
        · exact uncached_complete h uri pos
        · rw [hhandle, hcomplete]
        · rw [hanswer, hcomplete]
      | ok items =>
        rw [hprovide] at hcomplete
        refine .inr ⟨?_, by rw [hhandle, hcomplete]; rfl⟩
        rintro ⟨_, _, hsome, hsome', hfails⟩
        obtain rfl := Option.some.inj hsome
        obtain rfl := Option.some.inj hsome'
        rw [hprovide] at hfails
        cases hfails

lemma breaksOff_outline_iff (disk : Disk) (s : Server) (uri : Uri) :
    s.BreaksOff language disk (.request (.outline uri)) ↔
      ∃ root, (s.workspace.files.get? uri).bind FileState.root = some root ∧
        root.outline.isOk = false := by
  refine ⟨fun hbroken => ?_, ?_⟩
  · cases hbroken with
    | @kind _ file root n hfile hroot hnode hname hspan hkind =>
      refine ⟨root, by rw [hfile]; exact hroot, ?_⟩
      rw [← Bool.not_eq_true, Node.isOk_outline_iff, ← Node.walk_eq_preorder]
      exact fun hall => hall n hnode hname hspan hkind
  · rintro ⟨root, hroot, hfails⟩
    obtain ⟨file, hfile, hfileRoot⟩ := Option.bind_eq_some_iff.1 hroot
    rw [← Bool.not_eq_true, Node.isOk_outline_iff, ← Node.walk_eq_preorder] at hfails
    by_contra hquiet
    refine hfails fun n hnode hname hspan hkind => hquiet ?_
    exact .kind hfile hfileRoot hnode hname hspan hkind

lemma protected_outline (disk : Disk) (s : Server) (uri : Uri) :
    s.Protected language disk (.request (.outline uri)) "textDocument/documentSymbol"
      (some (.outline (some []))) := by
  have hhandle : s.handle language disk (.request (.outline uri)) = (s, (s.outline uri).1) := rfl
  have hanswer : s.answer? language (.request (.outline uri)) =
      some (.outline (s.outline uri).2) := rfl
  unfold Protected
  rw [breaksOff_outline_iff]
  cases hroot : (s.workspace.files.get? uri).bind FileState.root with
  | none =>
    refine .inr ⟨fun ⟨_, hsome, _⟩ => (by cases hsome), ?_⟩
    rw [hhandle, outline, hroot]
    rfl
  | some root =>
    cases houtline : root.outline with
    | error fault =>
      have hfails : s.outline uri =
          ([internalError "textDocument/documentSymbol"], some []) := by
        rw [outline, hroot]
        dsimp only
        rw [houtline]
      refine .inl ⟨⟨root, rfl, by rw [houtline]; rfl⟩, ?_, ?_, ?_⟩
      · rw [hhandle]
      · rw [hhandle, hfails]
      · rw [hanswer, hfails]
    | ok entries =>
      refine .inr ⟨?_, ?_⟩
      · rintro ⟨_, hsome, hfails⟩
        obtain rfl := Option.some.inj hsome
        rw [houtline] at hfails
        cases hfails
      · rw [hhandle, outline, hroot]
        dsimp only
        rw [houtline]
        rfl

/-- Every fault is caught, and no error is shown without one. -/
lemma protected_of_guarded {s : Server} (h : s.workspace.Faithful language) (disk : Disk)
    {message : Message} {method : String} {answer : Option Answer}
    (hguarded : message.Guarded method answer) :
    s.Protected language disk message method answer := by
  cases hguarded with
  | changed uri changes version => exact protected_changed disk s uri changes version
  | saved uri text => exact protected_saved disk s uri text
  | touched uri => exact protected_touched disk s uri
  | hover uri pos => exact .inr ⟨nofun, rfl⟩
  | definition uri pos => exact .inr ⟨nofun, rfl⟩
  | references uri pos declaration => exact .inr ⟨nofun, rfl⟩
  | completion uri pos => exact protected_completion h disk uri pos
  | outline uri => exact protected_outline disk s uri

lemma Protected.caught {s : Server} {disk : Disk} {message : Message} {method : String}
    {answer : Option Answer} (h : s.Protected language disk message method answer)
    (hbroken : s.BreaksOff language disk message) :
    s.Caught language disk message method answer :=
  h.elim And.right fun hquiet => absurd hbroken hquiet.1

/-- The user is told exactly if the adapter breaks off. -/
lemma Protected.any_isError_iff {s : Server} {disk : Disk} {message : Message} {method : String}
    {answer : Option Answer} (h : s.Protected language disk message method answer) :
    (s.handle language disk message).2.any Outgoing.isError = true ↔
      s.BreaksOff language disk message := by
  rcases h with ⟨hbroken, hcaught⟩ | ⟨hquiet, hnone⟩
  · rw [hcaught.told]
    exact iff_of_true rfl hbroken
  · rw [hnone]
    exact iff_of_false Bool.false_ne_true hquiet

/-! ## Several watched files in one message -/

lemma inOrder_append {α : Type} (step : Server → α → Server × List Outgoing) (s : Server)
    (before after : List α) :
    s.inOrder step (before ++ after) =
      (((s.inOrder step before).1.inOrder step after).1,
        (s.inOrder step before).2 ++ ((s.inOrder step before).1.inOrder step after).2) := by
  induction before generalizing s with
  | nil => rfl
  | cons event before ih =>
    simp only [List.cons_append, inOrder, ih, List.append_assoc]

/-- A watched file on which the parser breaks off is passed over, and those behind it are not. -/
lemma notify_watched_of_breaksOff {s : Server} {disk : Disk} {before : List (Uri × FileEvent)}
    {uri : Uri} (hbroken : (s.notify language disk (.watched before)).1.BreaksOff language disk
      (.notification (.watched [(uri, .touched)]))) (after : List (Uri × FileEvent)) :
    s.notify language disk (.watched (before ++ (uri, .touched) :: after)) =
      ((s.notify language disk (.watched (before ++ after))).1,
        (s.notify language disk (.watched before)).2 ++
          internalError "workspace/didChangeWatchedFiles" ::
            ((s.notify language disk (.watched before)).1.notify language disk
              (.watched after)).2) := by
  have hwatch : (s.notify language disk (.watched before)).1.watch language disk uri .touched =
      ((s.notify language disk (.watched before)).1,
        [internalError "workspace/didChangeWatchedFiles"]) := by
    cases hbroken with
    | touched hclosed hhandles hread hparse =>
      exact watch_touched_of_error hclosed hhandles hread hparse
  unfold notify at hwatch ⊢
  dsimp only at hwatch ⊢
  rw [inOrder_append, inOrder_append, inOrder, hwatch]
  rfl

end Server

/-! ## Sessions -/

namespace Session

variable {language : Language}

/-- A message leaves no trace but an error that is shown to the user once: the index, the folders,
the open marks and, but for cached tokens, the states of all files are as before; no diagnostics are
published; the answer is the given one; and whatever happens from then on, the client sees what it
would have seen without the message, and the server stays what it would have been, but for cached
tokens. -/
structure Isolated (language : Language) (disk : Disk) (t : Session) (message : Message)
    (method : String) (answer : Option Answer) : Prop where
  repository : (t.step language (.received disk message)).server.workspace.repository =
    t.server.workspace.repository
  folders : (t.step language (.received disk message)).server.workspace.folders =
    t.server.workspace.folders
  opened : (t.step language (.received disk message)).server.workspace.files.opened =
    t.server.workspace.files.opened
  states : ∀ uri, ((t.step language (.received disk message)).server.workspace.files.get? uri).map
    FileState.uncached = (t.server.workspace.files.get? uri).map FileState.uncached
  seen : t.seen language (.received disk message) = ([Server.internalError method], answer)
  later : ∀ events, (t.step language (.received disk message)).transcript language events =
    t.transcript language events
  laterServer : ∀ events : List Event,
    (events.foldl (step language) (t.step language (.received disk message))).server.uncached =
      (events.foldl (step language) t).server.uncached

lemma admits_of_guarded {t : Session} (h : t.connected = true) {message : Message}
    {method : String} {answer : Option Answer} (hguarded : message.Guarded method answer) :
    t.admits message = true := by
  cases hguarded <;> exact h

/-- **Faults of the adapter leave no trace.** In whatever state a session under way is, and whatever
message comes in that is handled under a guard: if the adapter breaks off while it is handled, the
message is isolated, and if not, no error is shown. In a message about several watched files, a file
on which the parser breaks off is passed over, an error is shown in its place, and all others are
handled as if it had not been mentioned.

**Proof sketch.** The parser is asked before anything is changed, and nothing but a cache is filled
while proposals are made; so the server after a fault is the server before, but for caches. Caches
are faithful in every session, so two sessions that differ in them only show the same for ever. -/
theorem isolated_of_breaksOff (events : List Event)
    (hconnected : (run language events).connected = true) (disk : Disk) :
    (∀ message method answer, message.Guarded method answer →
      ((run language events).server.BreaksOff language disk message →
        (run language events).Isolated language disk message method answer) ∧
      (((run language events).server.handle language disk message).2.any Outgoing.isError = true ↔
        (run language events).server.BreaksOff language disk message)) ∧
    ∀ before uri after,
      ((run language events).server.notify language disk (.watched before)).1.BreaksOff language
        disk (.notification (.watched [(uri, .touched)])) →
      (run language events).server.notify language disk
          (.watched (before ++ (uri, .touched) :: after)) =
        (((run language events).server.notify language disk (.watched (before ++ after))).1,
          ((run language events).server.notify language disk (.watched before)).2 ++
            Server.internalError "workspace/didChangeWatchedFiles" ::
              (((run language events).server.notify language disk (.watched before)).1.notify
                language disk (.watched after)).2) := by
  have hfaithful := faithful_run language events
  generalize run language events = t at hconnected hfaithful ⊢
  refine ⟨fun message method answer hguarded => ?_, fun before uri after hbroken => ?_⟩
  · have hprotected := Server.protected_of_guarded hfaithful disk hguarded
    refine ⟨fun hbroken => ?_, hprotected.any_isError_iff⟩
    have hcaught := hprotected.caught hbroken
    have hadmits := admits_of_guarded hconnected hguarded
    have hstep : t.step language (.received disk message) =
        ⟨(t.server.handle language disk message).1, true,
          t.sent ++ (t.server.handle language disk message).2⟩ := by
      unfold step
      dsimp only
      rw [if_pos hadmits]
    have hsame : SameButCaches language (t.step language (.received disk message)) t := by
      refine ⟨?_, ?_, ?_, hfaithful⟩
      · rw [hstep]
        exact hcaught.uncached
      · rw [hstep, hconnected]
      · exact kept_step (Workspace.kept_faithful language) (fun _ _ _ => trivial) hfaithful
          fun _ _ => trivial
    obtain ⟨hrepository, hfolders, hopened, hstates⟩ :=
      Workspace.eq_of_uncached_eq (congrArg Server.workspace hsame.server)
    refine ⟨hrepository, hfolders, hopened, hstates, ?_, hsame.transcript_eq,
      fun later => (hsame.foldl_step later).server⟩
    unfold seen
    dsimp only
    rw [if_pos hadmits, hcaught.told, hcaught.answered]
  · exact Server.notify_watched_of_breaksOff hbroken after

/-- A session in which a file was opened. -/
def openedOnce : List Event :=
  [.received .empty (.request (.connect ⟨none, {}, none, none⟩)),
    .received .empty (.notification (.opened ⟨"file:///a"⟩ "x" 1))]

/-- The file is emptied, and the parser breaks off on the empty text. -/
theorem isolated_of_breaksOff_emptied :
    (run Workspace.brittleLanguage openedOnce).connected = true ∧
      (run Workspace.brittleLanguage openedOnce).Isolated Workspace.brittleLanguage .empty
        (.notification (.changed ⟨"file:///a"⟩ [⟨false, ""⟩] 2)) "textDocument/didChange" none := by
  have hconnected : (run Workspace.brittleLanguage openedOnce).connected = true := rfl
  refine ⟨hconnected, ((isolated_of_breaksOff openedOnce hconnected .empty).1 _ _ _
    (.changed _ _ _)).1 ?_⟩
  exact .changed rfl rfl

end Session

end CodeIndex
