import CodeIndex.Proofs.Server.Publishing
import CodeIndex.Proofs.Settings.NormalForm

set_option relaxedAutoImplicit false
set_option autoImplicit false

/-!
# Changes of the configuration

Two messages change the settings of a server: the greeting, which may bring a payload of its own,
and the notification that the configuration changed. Throughout a session the settings are what the
payloads give one after the other, so they are in normal form. A notification whose payload is
already in force has no effect: nothing is published, no load is started, and the server stays what
it is. Other messages and background work may well come in between.

## Main definitions

* `Message.reconfigure` — what a message makes of the settings.
* `Message.Configures`, `Session.Event.Configures` — a message, and an event that brings it, that
  may change the settings.

## Main results

* `Server.settings_handle` — the settings after a message.
* `Session.settings_step`, `Session.normal_run` — the settings after an event, and their normal form
  throughout a session.
* `Session.configuration_stable` — settings stay in normal form, and repeated payloads have no
  effect.
-/

namespace CodeIndex

/-- What a message makes of the settings: the greeting sets them, and the notification that the
configuration changed merges its payload. -/
def Message.reconfigure (language : Language) : Message → Settings → Settings
  | .notification (.configured payload), settings => settings.merge payload language.id
  | .request (.connect greeting), _ => .ofPayload greeting.options language.id
  | _, settings => settings

namespace Server

variable {language : Language} {disk : Disk} (s : Server)

/-! ## The settings after a message -/

lemma settings_close (uri : Uri) : (s.close language disk uri).1.settings = s.settings := by
  unfold close
  rcases s.workspace.close language disk uri with ⟨w, fault | _ | report⟩ <;> rfl

lemma settings_configure (payload : Json) :
    (s.configure language payload).1.settings = s.settings.merge payload language.id := by
  unfold configure
  dsimp only
  split
  · next hmerged => exact hmerged.symm
  · split <;> rfl

lemma settings_complete (uri : Uri) (pos : Editor.Position) :
    (s.complete language uri pos).1.settings = s.settings := by
  unfold complete
  split
  · rfl
  · rfl
  · split <;> rfl

lemma settings_notify (notification : Notification) :
    (s.notify language disk notification).1.settings =
      (Message.notification notification).reconfigure language s.settings := by
  cases notification with
  | ready => exact (reports_ready s).settings
  | configured payload => exact settings_configure s payload
  | opened uri text version => exact (reports_openFile s uri text version).settings
  | changed uri changes version => exact (reports_change s uri changes version).settings
  | saved uri text => exact (reports_save s uri text).settings
  | closed uri => exact settings_close s uri
  | foldersChanged added removed => rfl
  | watched events =>
    exact (reports_inOrder (fun s e => reports_watch s e.1 e.2) s events).settings
  | renamed pairs =>
    have hrename : ∀ (s : Server) (pair : String × String), Reports language s
        (s.rename language disk pair.1 pair.2).1 (s.rename language disk pair.1 pair.2).2 :=
      fun s pair => reports_rename s pair.1 pair.2
    exact (reports_inOrder hrename s pairs).settings

/-- The settings after a message are what the message makes of those before. -/
theorem settings_handle (message : Message) :
    (s.handle language disk message).1.settings = message.reconfigure language s.settings := by
  cases message with
  | notification notification => exact settings_notify s notification
  | request request =>
    cases request with
    | completion uri pos => exact settings_complete s uri pos
    | _ => rfl

/-! ## A payload that is in force -/

/-- A payload that changes no setting has no effect at all. -/
lemma configure_of_merge_eq {payload : Json}
    (h : s.settings.merge payload language.id = s.settings) :
    s.configure language payload = (s, []) :=
  if_pos h

/-- A payload is in force once it was merged. -/
lemma configure_configure (payload : Json) :
    (s.configure language payload).1.configure language payload =
      ((s.configure language payload).1, []) := by
  apply configure_of_merge_eq
  rw [settings_configure, Settings.merge_merge]

end Server

/-! ## Sessions -/

/-- A message that may change the settings. -/
def Message.Configures : Message → Prop
  | .notification (.configured _) => True
  | .request (.connect _) => True
  | _ => False

lemma Message.reconfigure_of_not {message : Message} (h : ¬ message.Configures)
    (language : Language) (settings : Settings) :
    message.reconfigure language settings = settings := by
  unfold reconfigure
  split
  · exact absurd trivial h
  · exact absurd trivial h
  · rfl

/-- Messages keep settings in normal form. -/
lemma Message.normal_reconfigure (message : Message) (language : Language) {settings : Settings}
    (h : settings.Normal) : (message.reconfigure language settings).Normal := by
  unfold reconfigure
  split
  · exact Settings.normal_merge _ _ _
  · next greeting =>
    cases greeting.options with
    | none => exact Settings.normal_default
    | some payload => exact Settings.normal_merge _ _ _
  · exact h

namespace Session

variable {language : Language}

/-- An event that brings such a message. -/
def Event.Configures : Event → Prop
  | .received _ message => message.Configures
  | .settled _ => False

/-- The settings after an event: only a message that is let through may change them. -/
lemma settings_step (t : Session) (event : Event) :
    (t.step language event).server.settings =
      match event with
      | .received _ message =>
        if t.admits message then message.reconfigure language t.server.settings
        else t.server.settings
      | .settled _ => t.server.settings := by
  cases event with
  | received disk message =>
    unfold step
    dsimp only
    split
    · exact Server.settings_handle t.server message
    · rfl
  | settled disk => exact (Server.reports_settle t.server).settings

/-- **Throughout every session, the settings are in normal form.** -/
theorem normal_run (language : Language) (events : List Event) :
    (run language events).server.settings.Normal := by
  refine run_induction (P := fun t => t.server.settings.Normal) Settings.normal_default
    (fun t event h => ?_) events
  rw [settings_step]
  cases event with
  | received disk message =>
    dsimp only
    split
    · exact message.normal_reconfigure language h
    · exact h
  | settled disk => exact h

/-- The settings and the connection are left alone by events that do not configure. -/
structure SameConfiguration (t t' : Session) : Prop where
  settings : t'.server.settings = t.server.settings
  connected : t'.connected = t.connected

lemma admits_of_not {message : Message} (h : ¬ message.Configures) (t : Session) :
    t.admits message = t.connected := by
  unfold admits
  split
  · exact absurd trivial h
  · rfl

lemma sameConfiguration_step (language : Language) {event : Event} (h : ¬ event.Configures)
    (t : Session) : t.SameConfiguration (t.step language event) := by
  cases event with
  | received disk message =>
    refine ⟨?_, ?_⟩
    · rw [settings_step]
      dsimp only
      rw [message.reconfigure_of_not h, ite_self]
    · unfold step
      dsimp only
      split
      · next hadmits => exact hadmits.symm.trans (admits_of_not h t)
      · rfl
  | settled disk => exact ⟨settings_step t (.settled disk), rfl⟩

/-- So do any number of them. -/
lemma sameConfiguration_steps (language : Language) {later : List Event}
    (h : ∀ event ∈ later, ¬ event.Configures) (t : Session) :
    t.SameConfiguration (later.foldl (step language) t) := by
  induction later generalizing t with
  | nil => exact ⟨rfl, rfl⟩
  | cons event later ih =>
    have hstep := sameConfiguration_step language (h event List.mem_cons_self) t
    have hlater := ih (fun event hevent => h event (List.mem_cons_of_mem _ hevent))
      (t.step language event)
    exact ⟨hlater.settings.trans hstep.settings, hlater.connected.trans hstep.connected⟩

/-- The notification that the configuration changed, as it arrives. -/
def configured (disk : Disk) (payload : Json) : Event :=
  .received disk (.notification (.configured payload))

/-- A payload that is in force has no effect when it arrives again. -/
lemma step_configured_of_merge_eq {t : Session} {payload : Json}
    (h : t.connected = true → t.server.settings.merge payload language.id = t.server.settings)
    (disk : Disk) : t.step language (configured disk payload) = t := by
  obtain ⟨server, connected, sent⟩ := t
  cases connected with
  | false => rfl
  | true =>
    show Session.mk (server.configure language payload).1 true
      (sent ++ (server.configure language payload).2) = ⟨server, true, sent⟩
    rw [server.configure_of_merge_eq (h rfl), List.append_nil]

/-- A payload that arrived stays in force as long as nothing else configures the server. -/
lemma merge_settings_of_configured {t t' : Session} {disk : Disk} {payload : Json}
    (h : (t.step language (configured disk payload)).SameConfiguration t')
    (hconnected : t'.connected = true) :
    t'.server.settings.merge payload language.id = t'.server.settings := by
  rw [h.connected] at hconnected
  rw [h.settings]
  obtain ⟨server, connected, sent⟩ := t
  cases connected with
  | false => exact absurd hconnected Bool.false_ne_true
  | true =>
    show (server.configure language payload).1.settings.merge payload language.id =
      (server.configure language payload).1.settings
    rw [server.settings_configure, Settings.merge_merge]

/-- **Settings stay in normal form, and repeated payloads have no effect.** However many payloads
are merged into the default settings, and under whatever names of sections, the outcome is in normal
form. To merge a payload again changes nothing. So a server that is told of a configuration twice in
a row publishes nothing and starts nothing the second time; and in a session, a notification that
arrives again has no effect even if other messages were handled and background work was run in
between, as long as none of them configures the server.

**Proof sketch.** Every merge ends with the normalizer (`Settings.normal_normalize`), and
`Settings.merge_merge` makes the merge of a payload in force the identity. Whatever does not
configure leaves the settings alone (`Session.sameConfiguration_steps`), so the payload is still in
force when it arrives again. -/
theorem configuration_stable :
    (∀ payloads : List (Json × String),
      (payloads.foldl (fun s p => s.merge p.1 p.2) ({} : Settings)).Normal) ∧
    (∀ (s : Settings) (payload : Json) (sectionName : String),
      (s.merge payload sectionName).merge payload sectionName = s.merge payload sectionName) ∧
    (∀ (language : Language) (s : Server) (payload : Json),
      (s.configure language payload).1.configure language payload =
        ((s.configure language payload).1, [])) ∧
    ∀ (language : Language) (events later : List Event) (disk disk' : Disk) (payload : Json),
      (∀ event ∈ later, ¬ event.Configures) →
        (run language (events ++ configured disk payload :: later)).step language
            (configured disk' payload) =
          run language (events ++ configured disk payload :: later) := by
  refine ⟨Settings.normal_default.foldl_merge, Settings.merge_merge, fun language s payload =>
    s.configure_configure payload, fun language events later disk disk' payload hlater => ?_⟩
  apply step_configured_of_merge_eq
  rw [run, List.foldl_append]
  exact merge_settings_of_configured (sameConfiguration_steps language hlater _)

/-- A payload that leaves out a directory. -/
def leaveOut : Json :=
  .object [("indexing", .object [("excludePaths", .array [.string " out ", .string "out"])])]

/-- A session that leaves the directory out and then runs the load that this starts. -/
def leftOut : Session :=
  run faultyLanguage ([.received .empty (.request (.connect ⟨none, {}, none, none⟩))] ++
    configured .empty leaveOut :: [.settled .empty])

/-- One load was started, and to leave the directory out again starts no other. -/
theorem configuration_stable_leftOut :
    leftOut.server.settings.indexing.excludePaths = ["out"] ∧ leftOut.server.latestLoad = 1 ∧
      leftOut.step faultyLanguage (configured .empty leaveOut) = leftOut :=
  ⟨by decide, by decide, configuration_stable.2.2.2 faultyLanguage _ [.settled .empty] .empty .empty
    leaveOut fun event hevent => by obtain rfl := List.mem_singleton.1 hevent; exact id⟩

end Session

end CodeIndex
