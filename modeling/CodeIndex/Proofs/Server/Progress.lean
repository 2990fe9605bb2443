import CodeIndex.Proofs.Server.BrokenLoads
import CodeIndex.Proofs.Server.Session
import CodeIndex.Proofs.Symbol.Identifiers

set_option relaxedAutoImplicit false
set_option autoImplicit false

/-!
# Progress of loads

A load in the background can come to its end, be asked to stop between two files, or be broken off
by the parser, and it reports only after some of the files. Its progress session is closed in one of
two places, which must never both act. This file shows that the client always sees a session that
begins, reports and ends, with shares that only grow, and that no other load speaks under its token,
whatever else happens before and after.

## Main definitions

* `stepsUnder` — what the client receives for a progress session.
* `ProgressValue.reportOf` — the report that some of the files are done.
* `ProgressProtocol` — a session that begins once, reports, and ends once, with growing shares.
* `Server.loadPaths`, `Server.loadToken` — the files that a load takes, and its token.
* `Server.History` — a stretch of the life of a server, with loads that are asked to stop at
  whatever moments.

## Main results

* `Server.progressEvents_indexWorkspace` — what a load says about its progress.
* `Session.history_run` — every session is such a stretch.
* `Server.progress_of_load` — the session of a load, in the midst of everything else.
-/

namespace CodeIndex

/-! ## What the client sees of a session -/

/-- The step of a progress session that a message is about, if it is about one. -/
def Outgoing.progressEvent? : Outgoing → Option ProgressEvent
  | .progress event => some event
  | _ => none

/-- What some messages say about progress sessions. -/
def progressEvents (out : List Outgoing) : List ProgressEvent :=
  out.filterMap Outgoing.progressEvent?

/-- The token that an event is about. -/
def ProgressEvent.token : ProgressEvent → String
  | .create token => token
  | .value token _ => token

/-- The step that an event is under a token. -/
def ProgressEvent.stepUnder? (token : String) : ProgressEvent → Option ProgressValue
  | .create _ => none
  | .value t step => if t = token then some step else none

/-- What the client receives for the session under a token. -/
def stepsUnder (token : String) (out : List Outgoing) : List ProgressValue :=
  (progressEvents out).filterMap (ProgressEvent.stepUnder? token)

namespace ProgressValue

/-- The text that some of the files are done. -/
def filesDone (done total : Nat) : String := toString done ++ " / " ++ toString total ++ " files"

/-- The report that some of the files are done, with their share in per cent. -/
def reportOf (total done : Nat) : ProgressValue :=
  .report (some (filesDone done total)) (some (100 * done / total))

/-- The share that a report gives. -/
def percentage? : ProgressValue → Option Nat
  | .report _ percentage => percentage
  | _ => none

end ProgressValue

/-- A session over some files as the client should see it. -/
structure ProgressProtocol (total : Nat) (steps : List ProgressValue) : Prop where
  /-- It begins, reports that some files are done, and ends. -/
  bracketed : ∃ (title : String) (opening : Option String) (dones : List Nat)
      (closing : Option String),
    steps = .start title opening ::
      (dones.map (ProgressValue.reportOf total) ++ [.finish closing]) ∧ ∀ done ∈ dones, done ≤ total
  /-- The shares only grow. -/
  ascending : (steps.filterMap ProgressValue.percentage?).Pairwise (· ≤ ·)
  /-- No share is above 100. -/
  bounded : ∀ percentage ∈ steps.filterMap ProgressValue.percentage?, percentage ≤ 100

lemma progressEvents_append (out out' : List Outgoing) :
    progressEvents (out ++ out') = progressEvents out ++ progressEvents out' :=
  List.filterMap_append

lemma stepsUnder_append (token : String) (out out' : List Outgoing) :
    stepsUnder token (out ++ out') = stepsUnder token out ++ stepsUnder token out' := by
  rw [stepsUnder, progressEvents_append, List.filterMap_append, stepsUnder, stepsUnder]

lemma progressEvents_map (events : List ProgressEvent) :
    progressEvents (events.map .progress) = events := by
  rw [progressEvents, List.filterMap_map]
  exact List.filterMap_some

/-- The shares of reports in the order of the files are those of a session. -/
lemma ProgressProtocol.of_ascending {total : Nat} {dones : List Nat}
    (hdones : dones.Pairwise (· < ·)) (hle : ∀ done ∈ dones, done ≤ total) (title : String)
    (opening closing : Option String) :
    ProgressProtocol total (.start title opening ::
      (dones.map (ProgressValue.reportOf total) ++ [.finish closing])) := by
  have hshares : (ProgressValue.start title opening ::
      (dones.map (ProgressValue.reportOf total) ++ [.finish closing])).filterMap
        ProgressValue.percentage? = dones.map fun done => 100 * done / total := by
    rw [List.filterMap_cons_none rfl, List.filterMap_append, List.filterMap_map]
    simp [ProgressValue.percentage?, ProgressValue.reportOf, Function.comp_def]
  refine ⟨⟨title, opening, dones, closing, rfl, hle⟩, ?_, ?_⟩
  · rw [hshares, List.pairwise_map]
    exact hdones.imp fun hlt => Nat.div_le_div_right (by omega)
  · rw [hshares]
    intro percentage hpercentage
    obtain ⟨done, hdone, rfl⟩ := List.mem_map.1 hpercentage
    have := hle done hdone
    exact Nat.div_le_of_le_mul (by omega)

/-- A token tells the number of its session. -/
lemma progressToken_inj {title : String} {m n : Nat}
    (h : progressToken title m = progressToken title n) : m = n :=
  (Extraction.append_number_inj (rfl : "/".toList = ['/']) (rfl : "/".toList = ['/']) rfl rfl h).2.2

namespace Server

variable {language : Language} {disk : Disk} {s s' s'' : Server} {out out' : List Outgoing}

/-! ## A load -/

/-- The files that a load takes: those that it finds, if indexing is switched on. -/
def loadPaths (language : Language) (disk : Disk) (s : Server) : List Path :=
  if s.settings.indexing.enabled then
    s.workspace.discover language disk s.settings.indexing.discovery
  else []

/-- The token of the next load that reports its progress. -/
def loadToken (s : Server) : String := progressToken "Indexing" s.nextProgress

/-- After some of the files, the session of a load reports how many they are or nothing. -/
lemma progressEvents_progressReport (token : String) {done total : Nat} (hpos : 0 < total)
    (hle : done ≤ total) :
    progressEvents (progressReport ⟨some token⟩ done total) =
      if done % 5 = 0 ∨ done = total then [.value token (.reportOf total done)] else [] := by
  unfold progressReport
  split
  · have hshare : min (percentOf done total) 100 = 100 * done / total := by
      rw [percentOf, if_neg (by omega), Nat.min_eq_left hle, Nat.mul_comm]
      exact Nat.min_eq_left (Nat.div_le_of_le_mul (by omega))
    rw [progressEvents_map, ProgressSession.report, Option.map_some, hshare]
    rfl
  · rfl

/-- Some events report numbers of files under a token, and nothing else: numbers that grow, above
those done before. -/
def CountsFrom (token : String) (total done : Nat) (events : List ProgressEvent) : Prop :=
  ∃ dones : List Nat, dones.Pairwise (· < ·) ∧ (∀ n ∈ dones, done < n ∧ n ≤ total) ∧
    events = dones.map fun n => .value token (.reportOf total n)

namespace CountsFrom

variable {token : String} {total done : Nat} {events : List ProgressEvent}

lemma nothing (token : String) (total done : Nat) : CountsFrom token total done [] :=
  ⟨[], .nil, nofun, rfl⟩

/-- What is reported after one more file counts from before it as well. -/
lemma skip (h : CountsFrom token total (done + 1) events) : CountsFrom token total done events := by
  obtain ⟨dones, hdones, hrange, rfl⟩ := h
  exact ⟨dones, hdones, fun n hn => ⟨by have := (hrange n hn).1; omega, (hrange n hn).2⟩, rfl⟩

/-- So it does behind the report on that file. -/
lemma report (h : CountsFrom token total (done + 1) events) (hle : done + 1 ≤ total) :
    CountsFrom token total done
      (progressEvents (progressReport ⟨some token⟩ (done + 1) total) ++ events) := by
  rw [progressEvents_progressReport token (by omega) hle]
  split
  · obtain ⟨dones, hdones, hrange, rfl⟩ := h
    refine ⟨(done + 1) :: dones, List.pairwise_cons.2 ⟨fun n hn => (hrange n hn).1, hdones⟩, ?_,
      rfl⟩
    intro n hn
    rcases List.mem_cons.1 hn with rfl | hn
    · exact ⟨by omega, hle⟩
    · exact ⟨by have := (hrange n hn).1; omega, (hrange n hn).2⟩
  · exact h.skip

end CountsFrom

/-- While a load goes through its files, its session reports how many are done, and the numbers
grow.

**Proof sketch.** Induction on the files that are left. Whatever becomes of a file, the load goes on
with one more file done, and reports nothing but, maybe, that number. -/
lemma countsFrom_indexPaths (language : Language) (disk : Disk) (stops : Nat → Bool)
    (token : String) {total done : Nat} (summary : LoadSummary) (s : Server) {paths : List Path}
    (htotal : done + paths.length = total) :
    CountsFrom token total done (progressEvents
      (indexPaths language disk stops ⟨some token⟩ total done summary s paths).2.1) := by
  induction paths generalizing done summary s with
  | nil => exact .nothing token total done
  | cons path paths ih =>
    have hlater : done + 1 + paths.length = total := by
      rw [List.length_cons] at htotal
      omega
    unfold indexPaths
    split
    · exact .nothing token total done
    · split
      · split
        · exact .nothing token total done
        · next report _ =>
          -- the diagnostics that are published in front say nothing about the progress
          rcases report with _ | report
          · exact progressEvents_append _ _ ▸ (ih _ _ hlater).report (by omega)
          · exact progressEvents_append _ _ ▸ (ih _ _ hlater).report (by omega)
      · exact (ih _ s hlater).skip

/-- A load that does not report its progress says nothing about it. -/
lemma progressEvents_indexPaths_disabled (language : Language) (disk : Disk) (stops : Nat → Bool)
    (total done : Nat) (summary : LoadSummary) (s : Server) (paths : List Path) :
    progressEvents (indexPaths language disk stops .disabled total done summary s paths).2.1 =
      [] := by
  have hquiet : ∀ done, progressReport .disabled done total = [] := by
    intro done
    unfold progressReport
    split <;> rfl
  induction paths generalizing done summary s with
  | nil => rfl
  | cons path paths ih =>
    unfold indexPaths
    split
    · rfl
    · split
      · split
        · rfl
        · next report _ =>
          rcases report with _ | report
          · refine (progressEvents_append _ _).trans ?_
            rw [hquiet, ih]
            rfl
          · refine (progressEvents_append _ _).trans ?_
            rw [hquiet, ih]
            rfl
      · exact ih _ _ s

/-- Files that are indexed have no session of their own. -/
lemma nextProgress_indexPaths (language : Language) (disk : Disk) (stops : Nat → Bool)
    (session : ProgressSession) (total done : Nat) (summary : LoadSummary) (s : Server)
    (paths : List Path) :
    (indexPaths language disk stops session total done summary s paths).1.nextProgress =
      s.nextProgress := by
  induction paths generalizing done summary s with
  | nil => rfl
  | cons path paths ih =>
    unfold indexPaths
    split
    · rfl
    · split
      · split
        · rfl
        · next report _ =>
          rcases report with _ | report
          · exact ih _ _ _
          · exact ih _ _ _
      · exact ih _ _ s

/-- A load that takes no files only drops some. -/
lemma indexWorkspace_of_nil (hpaths : s.loadPaths language disk = []) (stops : Nat → Bool)
    (reportsProgress : Bool) :
    ∃ w, s.indexWorkspace language disk stops reportsProgress =
      ({ s with workspace := w }, []) := by
  unfold indexWorkspace
  cases henabled : s.settings.indexing.enabled with
  | false => exact ⟨_, rfl⟩
  | true =>
    rw [loadPaths, if_pos henabled] at hpaths
    rw [hpaths]
    exact ⟨_, rfl⟩

/-- A load that takes files drops others, opens its session, goes through the files and closes the
session. -/
lemma indexWorkspace_of_ne_nil {paths : List Path} (hpaths : s.loadPaths language disk = paths)
    (hne : paths ≠ []) (stops : Nat → Bool) (reportsProgress : Bool) :
    ∃ w opened indexed,
      openSession { s with workspace := w } reportsProgress paths.length = opened ∧
      indexPaths language disk stops opened.2.1 paths.length 0 { discovered := paths.length }
        opened.1 paths = indexed ∧
      s.indexWorkspace language disk stops reportsProgress =
        (indexed.1, opened.2.2 ++ indexed.2.1 ++ closeSession opened.2.1 indexed.2.2) := by
  unfold loadPaths at hpaths
  split at hpaths
  · next henabled =>
    refine ⟨(s.workspace.retain (paths.filterMap Uri.ofPath?)).1, _, _, rfl, rfl, ?_⟩
    unfold indexWorkspace
    rw [henabled, Bool.not_true, if_neg Bool.false_ne_true]
    dsimp only
    rw [hpaths, if_neg (by simpa using hne)]
  · exact absurd hpaths.symm hne

/-- A load that takes files and reports its progress asks for a session, begins it, reports, and
ends it, all under its token.

**Proof sketch.** However the load leaves its files, its session is closed with one message. -/
lemma progressEvents_indexWorkspace (hne : s.loadPaths language disk ≠ []) (stops : Nat → Bool) :
    ∃ steps, ProgressProtocol (s.loadPaths language disk).length steps ∧
      progressEvents (s.indexWorkspace language disk stops true).2 =
        .create s.loadToken :: steps.map (.value s.loadToken) ∧
      (s.indexWorkspace language disk stops true).1.nextProgress = s.nextProgress + 1 := by
  generalize hpaths : s.loadPaths language disk = paths at hne ⊢
  obtain ⟨w, opened, indexed, rfl, hindexed, hload⟩ :=
    indexWorkspace_of_ne_nil hpaths hne stops true
  have hcounts := countsFrom_indexPaths language disk stops s.loadToken
    { discovered := paths.length } { s with workspace := w, nextProgress := s.nextProgress + 1 }
    (Nat.zero_add paths.length)
  have hnext := nextProgress_indexPaths language disk stops ⟨some s.loadToken⟩ paths.length 0
    { discovered := paths.length } { s with workspace := w, nextProgress := s.nextProgress + 1 }
    paths
  have hopened : openSession { s with workspace := w } true paths.length =
      ({ s with workspace := w, nextProgress := s.nextProgress + 1 }, ⟨some s.loadToken⟩,
        [.progress (.create s.loadToken), .progress (.value s.loadToken
          (.start (progressTitle "Indexing") (some (ProgressValue.filesDone 0 paths.length))))]) :=
    rfl
  rw [hopened] at hindexed hload
  rw [hindexed] at hcounts hnext
  obtain ⟨dones, hdones, hrange, hevents⟩ := hcounts
  obtain ⟨closing, hclosed⟩ : ∃ closing, closeSession ⟨some s.loadToken⟩ indexed.2.2 =
      [.progress (.value s.loadToken (.finish closing))] := by
    cases indexed.2.2 <;> exact ⟨_, rfl⟩
  refine ⟨_, .of_ascending hdones (fun n hn => (hrange n hn).2) (progressTitle "Indexing")
    (some (ProgressValue.filesDone 0 paths.length)) closing, ?_, ?_⟩
  · rw [hload, progressEvents_append, progressEvents_append, hevents, hclosed, List.map_cons,
      List.map_append, List.map_map]
    rfl
  · rw [hload]
    exact hnext

/-- A load that takes no files, or is not to report, says nothing about its progress. -/
lemma progressEvents_indexWorkspace_eq_nil {reportsProgress : Bool}
    (h : reportsProgress = false ∨ s.loadPaths language disk = []) (stops : Nat → Bool) :
    progressEvents (s.indexWorkspace language disk stops reportsProgress).2 = [] ∧
      (s.indexWorkspace language disk stops reportsProgress).1.nextProgress = s.nextProgress := by
  by_cases hne : s.loadPaths language disk = []
  · obtain ⟨w, hload⟩ := indexWorkspace_of_nil hne stops reportsProgress
    rw [hload]
    exact ⟨rfl, rfl⟩
  · obtain rfl := h.resolve_right hne
    obtain ⟨w, opened, indexed, rfl, hindexed, hload⟩ :=
      indexWorkspace_of_ne_nil rfl hne stops false
    have hopened : ∀ total, openSession { s with workspace := w } false total =
      ({ s with workspace := w }, .disabled, []) := fun _ => rfl
    have hclosed : closeSession .disabled indexed.2.2 = [] := by
      cases indexed.2.2 <;> rfl
    rw [hopened] at hindexed hload
    rw [hload, hclosed, ← hindexed, List.nil_append, List.append_nil]
    exact ⟨progressEvents_indexPaths_disabled .., nextProgress_indexPaths ..⟩

/-! ## Everything else -/

/-- Nothing is said about progress, and no session is begun. -/
structure Quiet (s s' : Server) (out : List Outgoing) : Prop where
  nextProgress : s'.nextProgress = s.nextProgress
  progressEvents : progressEvents out = []

namespace Quiet

lemma refl (s : Server) : Quiet s s [] := ⟨rfl, rfl⟩

lemma trans (h : Quiet s s' out) (h' : Quiet s' s'' out') : Quiet s s'' (out ++ out') where
  nextProgress := h'.nextProgress.trans h.nextProgress
  progressEvents := by
    rw [progressEvents_append, h.progressEvents, h'.progressEvents, List.append_nil]

end Quiet

lemma quiet_published (s : Server) (method : String)
    (outcome : Workspace × Except Fault (Option SyncReport)) :
    Quiet s (s.published language method outcome).1 (s.published language method outcome).2 := by
  rcases outcome with ⟨w, fault | _ | report⟩ <;> exact ⟨rfl, rfl⟩

lemma quiet_inOrder {α : Type} {handle : Server → α → Server × List Outgoing}
    (hhandle : ∀ (s : Server) a, Quiet s (handle s a).1 (handle s a).2) (s : Server)
    (events : List α) : Quiet s (s.inOrder handle events).1 (s.inOrder handle events).2 := by
  induction events generalizing s with
  | nil => exact .refl s
  | cons event events ih => exact (hhandle s event).trans (ih _)

lemma quiet_configure (s : Server) (payload : Json) :
    Quiet s (s.configure language payload).1 (s.configure language payload).2 := by
  have hstates : ∀ (s : Server) (states : List FileState),
      progressEvents (states.map (s.publishState language)) = [] := by
    intro s states
    rw [progressEvents, List.filterMap_map]
    exact List.filterMap_eq_nil_iff.2 fun _ _ => rfl
  unfold configure
  dsimp only
  split
  · exact .refl s
  · refine ⟨?_, ?_⟩
    · dsimp only
      split <;> rfl
    · dsimp only
      split
      · exact hstates _ _
      · rfl

/-- No notification says anything about progress: what a load has to say comes from the
background. -/
lemma quiet_notify (s : Server) (notification : Notification) :
    Quiet s (s.notify language disk notification).1 (s.notify language disk notification).2 := by
  cases notification with
  | ready =>
    refine ⟨?_, rfl⟩
    show (s.ready language).nextProgress = s.nextProgress
    unfold ready
    dsimp only
    split <;> split <;> rfl
  | configured payload => exact quiet_configure s payload
  | opened uri text version =>
    have hlogged : Quiet s s (if s.settings.logLevel.allowsInfo then
        [Outgoing.log (labelled ("Opened " ++ uri.shortName))] else []) := by
      split <;> exact ⟨rfl, rfl⟩
    exact hlogged.trans (quiet_published s _ _)
  | changed uri changes version =>
    show Quiet s (s.change language uri changes version).1 (s.change language uri changes version).2
    unfold change
    split
    · exact .refl s
    · exact quiet_published s _ _
  | saved uri text => exact quiet_published s _ _
  | closed uri =>
    show Quiet s (s.close language disk uri).1 (s.close language disk uri).2
    unfold close
    split
    · exact ⟨rfl, rfl⟩
    · exact ⟨rfl, rfl⟩
    · exact quiet_published s _ _
  | foldersChanged added removed => exact ⟨rfl, rfl⟩
  | watched events =>
    refine quiet_inOrder (fun s e => ?_) s events
    obtain ⟨uri, _ | _⟩ := e
    · exact quiet_published s _ _
    · exact ⟨rfl, rfl⟩
  | renamed pairs =>
    refine quiet_inOrder (fun s e => ?_) s pairs
    show Quiet s (s.rename language disk e.1 e.2).1 (s.rename language disk e.1 e.2).2
    unfold rename
    split
    · next old new _ _ =>
      have hcleared : Quiet s s [clear old] := ⟨rfl, rfl⟩
      exact hcleared.trans (quiet_published s _ _)
    · exact .refl s

/-- Nor does any request. -/
lemma quiet_respond (s : Server) (request : Request) :
    Quiet s (s.respond language request).1 (s.respond language request).2.1 := by
  cases request with
  | completion uri pos =>
    show Quiet s (s.complete language uri pos).1 (s.complete language uri pos).2.1
    unfold complete
    split
    · exact .refl s
    · exact .refl s
    · split <;> exact ⟨rfl, rfl⟩
  | outline uri =>
    refine ⟨rfl, ?_⟩
    show progressEvents (s.outline uri).1 = []
    unfold outline
    split
    · rfl
    · split <;> rfl
  | connect greeting => exact ⟨rfl, rfl⟩
  | shutdown => exact ⟨rfl, rfl⟩
  | hover uri pos => exact ⟨rfl, rfl⟩
  | definition uri pos => exact ⟨rfl, rfl⟩
  | references uri pos declaration => exact ⟨rfl, rfl⟩
  | symbols query => exact ⟨rfl, rfl⟩

lemma quiet_handle (s : Server) (message : Message) :
    Quiet s (s.handle language disk message).1 (s.handle language disk message).2 := by
  cases message with
  | notification notification => exact quiet_notify s notification
  | request request => exact quiet_respond s request

/-! ## Loads in the midst of everything else -/

/-- A stretch of the life of a server, with all that it sends. Loads are run on whatever disks and
are asked to stop at whatever moments; what happens between them says nothing about progress. -/
inductive History (language : Language) : Server → List Outgoing → Server → Prop where
  | nothing (s : Server) : History language s [] s
  | quiet {s s' s'' : Server} {out out' : List Outgoing} :
      History language s out s' → Quiet s' s'' out' → History language s (out ++ out') s''
  | load {s s' : Server} {out : List Outgoing} (disk : Disk) (stops : Nat → Bool)
      (reportsProgress : Bool) :
      History language s out s' →
        History language s (out ++ (s'.indexWorkspace language disk stops reportsProgress).2)
          (s'.indexWorkspace language disk stops reportsProgress).1

namespace History

lemma trans (h : History language s out s') (h' : History language s' out' s'') :
    History language s (out ++ out') s'' := by
  induction h' with
  | nothing => rwa [List.append_nil]
  | quiet _ hquiet ih => rw [← List.append_assoc]; exact ih.quiet hquiet
  | load disk stops reportsProgress _ ih =>
    rw [← List.append_assoc]
    exact ih.load disk stops reportsProgress

/-- The sessions of a stretch are numbered on, and each event is about one of them.

**Proof sketch.** Induction on the stretch. A load that reports its progress takes the next number
and speaks under its token only; everything else leaves the numbers alone and says nothing. -/
lemma numbered (h : History language s out s') :
    s.nextProgress ≤ s'.nextProgress ∧
      ∀ event ∈ progressEvents out, ∃ n, s.nextProgress ≤ n ∧ n < s'.nextProgress ∧
        event.token = progressToken "Indexing" n := by
  induction h with
  | nothing => exact ⟨Nat.le_refl _, nofun⟩
  | quiet _ hquiet ih =>
    rw [hquiet.nextProgress, progressEvents_append, hquiet.progressEvents, List.append_nil]
    exact ih
  | @load s' out disk stops reportsProgress _ ih =>
    rw [progressEvents_append]
    by_cases hquiet : reportsProgress = false ∨ s'.loadPaths language disk = []
    · obtain ⟨hevents, hnext⟩ := progressEvents_indexWorkspace_eq_nil hquiet stops
      rw [hevents, hnext, List.append_nil]
      exact ih
    · rw [not_or, Bool.not_eq_false] at hquiet
      obtain ⟨rfl, hne⟩ := hquiet
      obtain ⟨steps, -, hevents, hnext⟩ := progressEvents_indexWorkspace hne stops
      refine ⟨by omega, fun event hevent => ?_⟩
      rcases List.mem_append.1 hevent with hearlier | hload
      · obtain ⟨n, hle, hlt, htoken⟩ := ih.2 event hearlier
        exact ⟨n, hle, by omega, htoken⟩
      · refine ⟨s'.nextProgress, ih.1, by omega, ?_⟩
        rw [hevents] at hload
        rcases List.mem_cons.1 hload with rfl | hstep
        · rfl
        · obtain ⟨step, -, rfl⟩ := List.mem_map.1 hstep
          rfl

/-- Nothing is said under the token of a session that is not begun in the stretch. -/
lemma stepsUnder_eq_nil (h : History language s out s') {n : Nat}
    (hn : n < s.nextProgress ∨ s'.nextProgress ≤ n) :
    stepsUnder (progressToken "Indexing" n) out = [] := by
  refine List.filterMap_eq_nil_iff.2 fun event hevent => ?_
  obtain ⟨m, hle, hlt, htoken⟩ := h.numbered.2 event hevent
  cases event with
  | create token => rfl
  | value token step =>
    refine if_neg fun hsame => ?_
    have := progressToken_inj (htoken.symm.trans hsame)
    omega

/-- Background work is such a stretch: the loads that wait are run one after the other. -/
lemma settle (language : Language) (disk : Disk) (s : Server) :
    History language s (s.settle language disk).2 (s.settle language disk).1 := by
  have htasks : ∀ (tasks : List Task) (s : Server),
      History language s (s.runTasks language disk tasks).2 (s.runTasks language disk tasks).1 := by
    intro tasks
    induction tasks with
    | nil => exact fun s => .nothing s
    | cons task tasks ih =>
      intro s
      refine .trans ?_ (ih (s.runTask language disk task).1)
      cases task with
      | register registrations =>
        have hquiet : Quiet s s [.register registrations] := ⟨rfl, rfl⟩
        exact (nothing s).quiet hquiet
      | load number reportsProgress =>
        exact (nothing s).load disk (fun _ => s.stops number) reportsProgress
  have hemptied : History language s ([] ++ []) { s with waiting := [] } :=
    (nothing s).quiet ⟨rfl, rfl⟩
  exact hemptied.trans (htasks s.waiting { s with waiting := [] })

end History

end Server

/-- Every session is a stretch of the life of a server. -/
theorem Session.history_run (language : Language) (events : List Session.Event) :
    Server.History language .empty (Session.run language events).sent
      (Session.run language events).server := by
  refine Session.run_induction (P := fun t => Server.History language .empty t.sent t.server)
    (.nothing _) (fun t event h => ?_) events
  cases event with
  | received disk message =>
    unfold Session.step
    dsimp only
    split
    · exact h.quiet (Server.quiet_handle t.server message)
    · exact h
  | settled disk => exact h.trans (.settle language disk t.server)

namespace Server

variable {language : Language} {s₀ s s₁ : Server} {before after : List Outgoing}

/-- **What the client sees of a load.** Take any load in the midst of a stretch of the life of a
server: on whatever disk, asked to stop at whatever moments, with whatever comes before and after.
If it finds files and reports its progress, then all that the client ever receives under its token
is one session, which begins, reports how many of the files are done, and ends; its shares only
grow, and every later load has another token. Otherwise the load says nothing about progress. Every
session of a server with its client is such a stretch. -/
theorem progress_of_load (hbefore : History language s₀ before s) (disk : Disk)
    (stops : Nat → Bool) (reportsProgress : Bool)
    (hafter : History language (s.indexWorkspace language disk stops reportsProgress).1 after s₁) :
    (reportsProgress = true → s.loadPaths language disk ≠ [] →
      ProgressProtocol (s.loadPaths language disk).length (stepsUnder s.loadToken
        (before ++ (s.indexWorkspace language disk stops reportsProgress).2 ++ after)) ∧
      s₁.loadToken ≠ s.loadToken) ∧
    (reportsProgress = false ∨ s.loadPaths language disk = [] →
      progressEvents (s.indexWorkspace language disk stops reportsProgress).2 = []) ∧
    ∀ events, History language .empty (Session.run language events).sent
      (Session.run language events).server := by
  refine ⟨?_, fun hquiet => (progressEvents_indexWorkspace_eq_nil hquiet stops).1,
    Session.history_run language⟩
  rintro rfl hne
  obtain ⟨steps, hprotocol, hevents, hnext⟩ := progressEvents_indexWorkspace hne stops
  have hload : stepsUnder s.loadToken (s.indexWorkspace language disk stops true).2 = steps := by
    rw [stepsUnder, hevents, List.filterMap_cons_none rfl, List.filterMap_map]
    refine (List.filterMap_congr fun step _ => ?_).trans List.filterMap_some
    exact if_pos rfl
  have hearlier : stepsUnder s.loadToken before = [] :=
    hbefore.stepsUnder_eq_nil (.inr (Nat.le_refl _))
  have hlater : stepsUnder s.loadToken after = [] := hafter.stepsUnder_eq_nil (.inl (by omega))
  refine ⟨?_, fun hsame => ?_⟩
  · rw [stepsUnder_append, stepsUnder_append, hearlier, hload, hlater, List.nil_append,
      List.append_nil]
    exact hprotocol
  · have hnumber := progressToken_inj hsame
    have hafterwards := hafter.numbered.1
    omega

/-- A disk with six files. -/
def sixFileDisk : Disk :=
  ⟨.ofList (["a", "b", "c", "d", "e", "f"].map fun name =>
    ([.ofText name], .file (.text "x")))⟩

/-- The load of six files that is asked to stop when five are done. -/
def stoppedLoad : Server × List Outgoing :=
  rootServer.indexWorkspace Workspace.brittleLanguage sixFileDisk (fun done => done == 5) true

/-- The load after it, which the parser breaks off. -/
def brokenLoad : Server × List Outgoing :=
  stoppedLoad.1.indexWorkspace Workspace.brittleLanguage badFileFirst (fun _ => false) true

/-- The session of the first load keeps to the protocol, and the second load speaks under another
token. -/
theorem progress_of_load_stopped :
    rootServer.loadPaths Workspace.brittleLanguage sixFileDisk ≠ [] ∧
      ProgressProtocol (rootServer.loadPaths Workspace.brittleLanguage sixFileDisk).length
        (stepsUnder rootServer.loadToken ([] ++ stoppedLoad.2 ++ ([] ++ brokenLoad.2))) ∧
      brokenLoad.1.loadToken ≠ rootServer.loadToken := by
  have hfound : rootServer.loadPaths Workspace.brittleLanguage sixFileDisk ≠ [] := by decide
  have hafter : History Workspace.brittleLanguage stoppedLoad.1 ([] ++ brokenLoad.2) brokenLoad.1 :=
    (History.nothing stoppedLoad.1).load badFileFirst (fun _ => false) true
  exact ⟨hfound, (progress_of_load (.nothing rootServer) sixFileDisk (fun done => done == 5) true
    hafter).1 rfl hfound⟩

/-- The first load reports after five files and ends as one that was cancelled. -/
example : stepsUnder rootServer.loadToken stoppedLoad.2 =
    [.start "arbor-analyzer: Indexing" (some "0 / 6 files"),
      .report (some "5 / 6 files") (some 83), .finish (some "Cancelled after 5 file(s)")] := by
  decide

end Server

end CodeIndex
