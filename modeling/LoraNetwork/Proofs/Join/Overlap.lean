import LoraNetwork.Proofs.Join.Installing
import LoraNetwork.Proofs.Join.Agreement

/-!
# Joins of a device that overlap

The steps of two joins of one device may fall between each other, since nothing makes one wait for
the other. As long as the joins take turns with writing and installing, the registry ends with the
session whose record was written last. If one join writes between the write and the installation of
another, the registry may end with a session whose keys are in no record any more.
-/

namespace LoraNetwork

/-! ## What is in the store and in the registry -/

/-- The address and the keys of a record. -/
def SessionRecord.credentials (record : SessionRecord) : DevAddr × SessionKeys :=
  (record.devAddr, record.keys)

/-- The address and the keys of a session. -/
def Session.credentials (s : Session) : DevAddr × SessionKeys := (s.devAddr, s.keys)

/-- Address and keys belong to the profile. -/
theorem Session.SameProfile.credentials {s after : Session} (h : s.SameProfile after) :
    after.credentials = s.credentials := by
  rw [Session.credentials, h.devAddr, h.keys, Session.credentials]

/-- The session that the index leads to. -/
def Memory.installed (m : Memory) (eui : Eui64) : Option Session :=
  ((m.index.get? eui).map Stamped.value).bind fun handle => m.session? handle.slot

/-- The record of a device after an event: a write that the store took changes it. -/
def Event.record (eui : Eui64) (stored : Option SessionRecord) :
    Event serverInterface → Option SessionRecord
  | ⟨.call (.persist other delta), .ok ()⟩ => if other = eui then delta.write eui stored else stored
  | _ => stored

/-- The record of a device after what has happened so far. -/
def recordAfter (eui : Eui64) (stored : Option SessionRecord) (history : List Moment) :
    Option SessionRecord :=
  history.foldl (fun stored m => m.event.record eui stored) stored

/-! ## Taking turns -/

/-- The event renews the session of a device in the store, or installs or forgets one in the
registry. -/
def Event.touches (eui : Eui64) (event : Event serverInterface) : Bool :=
  event.renews eui || event.installs eui || event.forgets eui

/-- How joins of a device took turns. -/
structure JoinTurns where
  /-- The task that wrote last, unless it has installed what it wrote. -/
  pending : Option TaskId := none
  /-- Nobody wrote while another task had yet to install what it wrote. -/
  kept : Bool := true

/-- The turns after a moment. -/
def JoinTurns.next (eui : Eui64) (turns : JoinTurns) (m : Moment) : JoinTurns :=
  if m.event.renews eui then
    ⟨some m.task, turns.kept && turns.pending.all fun task => task = m.task⟩
  else if m.event.installs eui ∧ turns.pending = some m.task then ⟨none, turns.kept⟩
  else turns

/-- The turns after what has happened so far. -/
def joinTurns (eui : Eui64) (history : List Moment) : JoinTurns :=
  history.foldl (JoinTurns.next eui) {}

/-- The joins of a device take turns: who writes a new session installs it before another one
writes. -/
def JoinsTakeTurns (eui : Eui64) (history : List Moment) : Prop :=
  (joinTurns eui history).kept = true

/-- The session of a device is renewed, installed and forgotten by requests to join only. -/
def ServerState.OnlyJoins (σ : ServerState) (eui : Eui64) (history : List Moment) : Prop :=
  ∀ m ∈ history, m.event.touches eui = true → ∀ job, σ.jobs[m.task]? = some job →
    job.activity.RequestsJoin eui

section History

variable {net : Network} {eui : Eui64} {stored : Option SessionRecord} {history : List Moment}
variable {m : Moment} {task : TaskId}

/-- The turns go on as they were after an event that renews and installs nothing. -/
theorem JoinTurns.next_of_untouched {turns : JoinTurns} (h : m.event.touches eui = false) :
    turns.next eui m = turns := by
  simp only [Event.touches, Bool.or_eq_false_iff] at h
  obtain ⟨⟨hrenews, hinstalls⟩, -⟩ := h
  simp [next, hrenews, hinstalls]

theorem recordAfter_snoc : recordAfter eui stored (history ++ [m]) =
    m.event.record eui (recordAfter eui stored history) := by
  rw [recordAfter, List.foldl_append]
  rfl

theorem joinTurns_snoc :
    joinTurns eui (history ++ [m]) = (joinTurns eui history).next eui m := by
  rw [joinTurns, List.foldl_append]
  rfl

theorem installStage_snoc : installStage net eui task (history ++ [m]) =
    if m.task = task then (installStage net eui task history).next eui m.event
    else installStage net eui task history :=
  Contract.along_snoc

end History

/-! ## Single events -/

namespace Event

variable {eui : Eui64} {event : Event serverInterface} {stored : Option SessionRecord}

theorem eq_of_renews (h : event.renews eui = true) :
    ∃ delta : SessionDelta, event = ⟨.call (.persist eui delta), .ok ()⟩ ∧ delta.renews = true := by
  unfold renews at h
  split at h
  · obtain ⟨heui, hrenews⟩ := Bool.and_eq_true_iff.mp h
    obtain rfl := of_decide_eq_true heui
    exact ⟨_, rfl, hrenews⟩
  · cases h

theorem eq_of_installs (h : event.installs eui = true) :
    ∃ handle, event = ⟨.memory (.storeSession eui handle), ()⟩ := by
  unfold installs at h
  split at h
  · obtain rfl := of_decide_eq_true h
    exact ⟨_, rfl⟩
  · cases h

theorem eq_of_forgets (h : event.forgets eui = true) :
    event = ⟨.memory (.forgetSession eui), ()⟩ := by
  unfold forgets at h
  split at h
  · obtain rfl := of_decide_eq_true h
    rfl
  · cases h

/-- A slot that was made before an event, or is made by it. -/
theorem made_next {stage : InstallStage} {handle : DeviceHandle} {session : Session}
    (h : (stage.next eui event).made = some (handle, session)) :
    stage.made = some (handle, session) ∨ event = ⟨.memory (.newSlot session), handle⟩ := by
  unfold InstallStage.next at h
  split at h
  · split at h <;> exact .inl h
  · obtain ⟨rfl, rfl⟩ := Prod.mk.inj (Option.some.inj h)
    exact .inr rfl
  · split at h <;> exact .inl h
  · exact .inl h

/-- Changes that renew no session leave address and keys. -/
theorem credentials_write {delta : SessionDelta} (h : delta.renews = false) :
    (delta.write eui stored).map SessionRecord.credentials =
      stored.map SessionRecord.credentials := by
  simp only [SessionDelta.renews, Bool.or_eq_false_iff, Option.isSome_eq_false_iff,
    Option.isNone_iff_eq_none] at h
  obtain ⟨⟨haddr, hnetwork⟩, happlication⟩ := h
  cases stored with
  | none => simp only [SessionDelta.write, haddr]
  | some record =>
    simp [SessionDelta.write, SessionDelta.applyTo, SessionRecord.credentials, haddr, hnetwork,
      happlication]

/-- Writing a whole session gives the record its address and keys. -/
theorem credentials_write_full (record : SessionRecord) :
    ((SessionDelta.full record).write eui stored).map SessionRecord.credentials =
      some record.credentials := by
  cases stored <;> rfl

/-- An event that renews no session leaves address and keys of the record. -/
theorem credentials_record (h : event.renews eui = false) :
    (event.record eui stored).map SessionRecord.credentials =
      stored.map SessionRecord.credentials := by
  unfold record
  split
  · rename_i other delta
    split
    · rename_i heui
      refine credentials_write ?_
      simpa [renews, heui] using h
    · rfl
  · rfl

/-- An event that renews, installs and forgets nothing leaves the index. -/
theorem session_of_untouched {known : Option DeviceHandle} (h : event.touches eui = false) :
    event.session eui known = known := by
  unfold session
  split
  · exact if_neg (by simpa [touches, renews, installs, forgets] using h)
  · exact if_neg (by simpa [touches, renews, installs, forgets] using h)
  · rfl

/-- It leaves what is written and not installed. -/
theorem written_of_untouched {stage : InstallStage} (h : event.touches eui = false) :
    (stage.next eui event).written = stage.written := by
  unfold InstallStage.next
  split
  · rw [if_neg (by simpa [touches, renews, installs, forgets] using h)]
  · rfl
  · rw [if_neg (by simpa [touches, renews, installs, forgets] using h)]
  · rfl

end Event

/-! ## Along a run -/

/-- What joins have left in the store and in the registry so far. -/
structure ServerState.Joining (net : Network) (eui : Eui64) (stored : Option SessionRecord)
    (history : List Moment) (σ : ServerState) : Prop where
  /-- The task whose turn it is has written a session and not installed it, and no other has. -/
  pending : ∀ task, (joinTurns eui history).pending = some task ↔
    (installStage net eui task history).written.isSome = true
  /-- What it wrote is in the record. -/
  written : ∀ task delta, (installStage net eui task history).written = some delta →
    ∃ record, delta = SessionDelta.full record ∧
      (recordAfter eui stored history).map SessionRecord.credentials = some record.credentials
  /-- It is a request to join the device. -/
  owner : ∀ task, (installStage net eui task history).written.isSome = true →
    ∃ job, σ.jobs[task]? = some job ∧ job.activity.RequestsJoin eui
  /-- A slot that was made has the session that it was made for. -/
  made : ∀ task handle session, (installStage net eui task history).made = some (handle, session) →
    ∃ s, σ.memory.session? handle.slot = some s ∧ session.SameProfile s
  /-- When it is nobody's turn, the registry leads to a session with address and keys of the
  record. -/
  settled : (∃ m ∈ history, m.event.renews eui = true) → (joinTurns eui history).pending = none →
    ∃ session, σ.memory.installed eui = some session ∧
      (recordAfter eui stored history).map SessionRecord.credentials = some session.credentials

namespace ServerState.Joining

variable {net : Network} {eui : Eui64} {stored : Option SessionRecord}
variable {history moments : List Moment} {σ next : ServerState} {m : Moment}

theorem boot (now : Instant) : Joining net eui stored [] { now := now } where
  pending task := by simp [joinTurns, installStage, Contract.along]
  written task delta h := by cases h
  owner task h := by cases h
  made task handle session h := by cases h
  settled h := by simp at h

/-- A step in which nothing is performed leaves everything. -/
theorem silent (h : Joining net eui stored history σ) (step : σ.Step net [] next) :
    Joining net eui stored history next := by
  have hmemory : next.memory = σ.memory := by
    cases step <;> rfl
  refine ⟨h.pending, h.written, fun task hwritten => ?_, ?_, ?_⟩
  · obtain ⟨job, hjob, hrequests⟩ := h.owner task hwritten
    obtain ⟨later, hlater, hsame⟩ := step.persists hjob
    exact ⟨later, hlater, hsame ▸ hrequests⟩
  · rw [hmemory]
    exact h.made
  · rw [hmemory]
    exact h.settled

/-- What the registry leads to keeps its profile while nothing is installed or forgotten. -/
theorem exists_installed (run : ServerRun net history σ) (step : σ.Step net [m] next)
    (huntouched : m.event.touches eui = false) {session : Session}
    (h : σ.memory.installed eui = some session) :
    ∃ after, next.memory.installed eui = some after ∧ session.SameProfile after := by
  have hindex : (next.memory.index.get? eui).map Stamped.value =
      (σ.memory.index.get? eui).map Stamped.value := by
    rw [(run.step step).session_eq eui, sessionOf_snoc, Event.session_of_untouched huntouched,
      run.session_eq eui]
  obtain ⟨handle, hhandle, hsession⟩ := Option.bind_eq_some_iff.mp h
  obtain ⟨after, hafter, hprofile⟩ := run.sameProfile_of_step step hsession
  refine ⟨after, ?_, hprofile⟩
  rw [Memory.installed, hindex, hhandle]
  exact hafter

/-- A slot that was made goes on to have its session. -/
theorem made_step (h : Joining net eui stored history σ) (run : ServerRun net history σ)
    (step : σ.Step net [m] next) {task : TaskId} {handle : DeviceHandle} {session : Session}
    (hmade : (installStage net eui task (history ++ [m])).made = some (handle, session)) :
    ∃ s, next.memory.session? handle.slot = some s ∧ session.SameProfile s := by
  have hold : (installStage net eui task history).made = some (handle, session) →
      ∃ s, next.memory.session? handle.slot = some s ∧ session.SameProfile s := by
    intro hbefore
    obtain ⟨s, hs, hprofile⟩ := h.made task handle session hbefore
    obtain ⟨after, hafter, hkept⟩ := run.sameProfile_of_step step hs
    exact ⟨after, hafter, hprofile.trans hkept⟩
  rw [installStage_snoc] at hmade
  split at hmade
  · cases Event.made_next hmade with
    | inl hbefore => exact hold hbefore
    | inr hevent =>
      obtain ⟨performer, event, before, after⟩ := m
      dsimp only at hevent
      subst hevent
      obtain ⟨activity, rest, found, admitted⟩ := step.performs List.mem_cons_self
      obtain ⟨rfl, hafter⟩ := Prod.mk.inj (Option.some.inj admitted)
      refine ⟨session, ?_, .refl session⟩
      rw [← hafter]
      simp [Memory.session?, Device.ofSession]
  · exact hold hmade

/-- An event that renews, installs and forgets nothing leaves what joins have left. -/
theorem untouched (h : Joining net eui stored history σ) (run : ServerRun net history σ)
    (step : σ.Step net [m] next) (huntouched : m.event.touches eui = false) :
    Joining net eui stored (history ++ [m]) next := by
  have hrenews : m.event.renews eui = false := by
    simp only [Event.touches, Bool.or_eq_false_iff] at huntouched
    exact huntouched.1.1
  have hturns : joinTurns eui (history ++ [m]) = joinTurns eui history := by
    rw [joinTurns_snoc, JoinTurns.next_of_untouched huntouched]
  have hwritten : ∀ task, (installStage net eui task (history ++ [m])).written =
      (installStage net eui task history).written := by
    intro task
    rw [installStage_snoc]
    split
    · exact Event.written_of_untouched huntouched
    · rfl
  have hrecord : (recordAfter eui stored (history ++ [m])).map SessionRecord.credentials =
      (recordAfter eui stored history).map SessionRecord.credentials := by
    rw [recordAfter_snoc, Event.credentials_record hrenews]
  refine ⟨fun task => ?_, fun task delta hsome => ?_, fun task hsome => ?_,
    fun task handle session hmade => h.made_step run step hmade, ?_⟩
  · rw [hturns, hwritten]
    exact h.pending task
  · rw [hwritten] at hsome
    rw [hrecord]
    exact h.written task delta hsome
  · rw [hwritten] at hsome
    obtain ⟨job, hjob, hrequests⟩ := h.owner task hsome
    obtain ⟨later, hlater, hsame⟩ := step.persists hjob
    exact ⟨later, hlater, hsame ▸ hrequests⟩
  · rintro ⟨writer, hmem, hwrites⟩ hnobody
    have hbefore : ∃ m ∈ history, m.event.renews eui = true := by
      cases List.mem_append.mp hmem with
      | inl hold => exact ⟨writer, hold, hwrites⟩
      | inr hnew =>
        rw [List.mem_singleton.mp hnew, hrenews] at hwrites
        cases hwrites
    rw [hturns] at hnobody
    obtain ⟨session, hinstalled, hcredentials⟩ := h.settled hbefore hnobody
    obtain ⟨after, hafter, hprofile⟩ := exists_installed run step huntouched hinstalled
    refine ⟨after, hafter, ?_⟩
    rw [hrecord, hcredentials, hprofile.credentials]

/-- A join that writes when it is nobody else's turn is the one that has to install what it wrote. -/
theorem renewed (h : Joining net eui stored history σ) (run : ServerRun net history σ)
    (step : σ.Step net [m] next) (hrenews : m.event.renews eui = true)
    (hrequests : ∀ job, σ.jobs[m.task]? = some job → job.activity.RequestsJoin eui)
    (hturns : JoinsTakeTurns eui (history ++ [m])) :
    Joining net eui stored (history ++ [m]) next := by
  obtain ⟨delta, hevent, hdelta⟩ := Event.eq_of_renews hrenews
  obtain ⟨activity, rest, found, -⟩ := step.performs List.mem_cons_self
  have hallowed := (run.keeps_installRules found (hrequests _ found)).1
  have hnext : joinTurns eui (history ++ [m]) = ⟨some m.task, (joinTurns eui history).kept &&
      (joinTurns eui history).pending.all fun task => task = m.task⟩ := by
    rw [joinTurns_snoc, JoinTurns.next, if_pos hrenews]
  -- Nobody else has written and not installed.
  have hothers : ∀ task, task ≠ m.task →
      (installStage net eui task history).written = none := by
    intro task hne
    by_contra hsome
    have hpending := (h.pending task).mpr (Option.isSome_iff_ne_none.mpr hsome)
    rw [JoinsTakeTurns, hnext, hpending] at hturns
    simp [hne] at hturns
  have hwritten : ∀ task, (installStage net eui task (history ++ [m])).written =
      if m.task = task then some delta else none := by
    intro task
    rw [installStage_snoc]
    split
    · rw [hevent, InstallStage.next_renewed _ hdelta]
    · rename_i hne
      exact hothers task (Ne.symm hne)
  rw [hevent] at hallowed
  obtain ⟨record, rfl⟩ := hallowed rfl
  have hrecord : (recordAfter eui stored (history ++ [m])).map SessionRecord.credentials =
      some record.credentials := by
    have hwrite : recordAfter eui stored (history ++ [m]) =
        (SessionDelta.full record).write eui (recordAfter eui stored history) := by
      rw [recordAfter_snoc, hevent]
      exact if_pos rfl
    rw [hwrite, Event.credentials_write_full]
  refine ⟨fun task => ?_, fun task delta hsome => ?_, fun task hsome => ?_,
    fun task handle session hmade => h.made_step run step hmade, ?_⟩
  · rw [hnext, hwritten]
    split <;> simp_all
  · rw [hwritten] at hsome
    split at hsome
    · exact ⟨record, (Option.some.inj hsome).symm, hrecord⟩
    · cases hsome
  · rw [hwritten] at hsome
    split at hsome
    · rename_i htask
      obtain ⟨later, hlater, hsame⟩ := step.persists found
      exact ⟨later, htask ▸ hlater, hsame ▸ hrequests _ found⟩
    · cases hsome
  · intro _ hnobody
    rw [hnext] at hnobody
    cases hnobody

/-- A join that installs what it wrote leaves registry and store with the same address and keys. -/
theorem installed (h : Joining net eui stored history σ) (run : ServerRun net history σ)
    (step : σ.Step net [m] next) (hinstalls : m.event.installs eui = true)
    (hrequests : ∀ job, σ.jobs[m.task]? = some job → job.activity.RequestsJoin eui) :
    Joining net eui stored (history ++ [m]) next := by
  obtain ⟨handle, hevent⟩ := Event.eq_of_installs hinstalls
  obtain ⟨activity, rest, found, -⟩ := step.performs List.mem_cons_self
  have hallowed := (run.keeps_installRules found (hrequests _ found)).1
  rw [hevent] at hallowed
  obtain ⟨record, hpending, hmade⟩ := hallowed rfl
  have hturn : (joinTurns eui history).pending = some m.task :=
    (h.pending m.task).mpr (by rw [hpending]; rfl)
  have hnext : joinTurns eui (history ++ [m]) = ⟨none, (joinTurns eui history).kept⟩ := by
    have hrenews : m.event.renews eui = false := by rw [hevent]; rfl
    rw [joinTurns_snoc, JoinTurns.next, hrenews, if_neg nofun, if_pos ⟨hinstalls, hturn⟩]
  have hwritten : ∀ task, (installStage net eui task (history ++ [m])).written = none := by
    intro task
    rw [installStage_snoc]
    split
    · rw [hevent, InstallStage.next_installed]
    · rename_i hne
      by_contra hsome
      have hother := (h.pending task).mpr (Option.isSome_iff_ne_none.mpr hsome)
      exact hne (Option.some.inj (hturn.symm.trans hother))
  have hrecord : recordAfter eui stored (history ++ [m]) = recordAfter eui stored history := by
    rw [recordAfter_snoc, hevent]
    rfl
  refine ⟨fun task => ?_, fun task delta hsome => ?_, fun task hsome => ?_,
    fun task handle session hmade => h.made_step run step hmade, fun _ _ => ?_⟩
  · rw [hnext, hwritten]
    simp
  · rw [hwritten] at hsome
    cases hsome
  · rw [hwritten] at hsome
    cases hsome
  · obtain ⟨s, hs, hprofile⟩ := h.made m.task handle _ hmade
    obtain ⟨after, hafter, hkept⟩ := run.sameProfile_of_step step hs
    have hindex : (next.memory.index.get? eui).map Stamped.value = some handle := by
      rw [(run.step step).session_eq eui, sessionOf_snoc, hevent]
      exact if_pos rfl
    obtain ⟨written, hwrote, hcredentials⟩ := h.written m.task _ hpending
    have hsame : record.credentials = written.credentials := by
      have haddr := Option.some.inj (congrArg SessionDelta.devAddr hwrote)
      have hnetwork := Option.some.inj (congrArg SessionDelta.networkKey hwrote)
      have happlication := Option.some.inj (congrArg SessionDelta.applicationKey hwrote)
      have hkeys : record.keys = written.keys := by
        calc record.keys = ⟨record.keys.network, record.keys.application⟩ := rfl
          _ = ⟨written.keys.network, written.keys.application⟩ := by rw [hnetwork, happlication]
          _ = written.keys := rfl
      exact Prod.ext haddr hkeys
    refine ⟨after, ?_, ?_⟩
    · rw [Memory.installed, hindex]
      exact hafter
    · rw [hrecord, hcredentials, (hprofile.trans hkept).credentials, ← hsame]
      rfl

/-- What joins have left is as stated after every step in which they take turns. -/
theorem step (h : Joining net eui stored history σ) (run : ServerRun net history σ)
    (step : σ.Step net moments next) (hjoins : next.OnlyJoins eui (history ++ moments))
    (hturns : JoinsTakeTurns eui (history ++ moments)) :
    Joining net eui stored (history ++ moments) next := by
  match moments, step with
  | [], step =>
    rw [List.append_nil]
    exact h.silent step
  | first :: rest, step =>
    obtain rfl : rest = [] := (List.cons.inj (step.eq_singleton List.mem_cons_self)).2
    have hrequests : first.event.touches eui = true →
        ∀ job, σ.jobs[first.task]? = some job → job.activity.RequestsJoin eui := by
      intro htouches job hjob
      obtain ⟨later, hlater, hsame⟩ := step.persists hjob
      exact hsame ▸ hjoins first (by simp) htouches later hlater
    cases htouches : first.event.touches eui with
    | false => exact h.untouched run step htouches
    | true =>
      simp only [Event.touches, Bool.or_eq_true] at htouches
      rcases htouches with (hrenews | hinstalls) | hforgets
      · exact h.renewed run step hrenews (hrequests (by simp [Event.touches, hrenews])) hturns
      · exact h.installed run step hinstalls (hrequests (by simp [Event.touches, hinstalls]))
      · -- A request to join forgets no session.
        obtain ⟨activity, rest, found, -⟩ := step.performs List.mem_cons_self
        have hjoin := hrequests (by simp [Event.touches, hforgets]) _ found
        have hallowed := (run.keeps_installRules found hjoin).1
        rw [Event.eq_of_forgets hforgets] at hallowed
        exact absurd rfl hallowed

end ServerState.Joining

/-- Joins that took turns took turns up to any moment. -/
theorem JoinsTakeTurns.of_append {eui : Eui64} {history moments : List Moment}
    (h : JoinsTakeTurns eui (history ++ moments)) : JoinsTakeTurns eui history := by
  rw [JoinsTakeTurns, joinTurns, List.foldl_append] at h
  change (joinTurns eui history).kept = true
  change (moments.foldl (JoinTurns.next eui) (joinTurns eui history)).kept = true at h
  generalize joinTurns eui history = turns at h ⊢
  induction moments generalizing turns with
  | nil => exact h
  | cons m rest ih =>
    have hnext := ih _ h
    rw [JoinTurns.next] at hnext
    split at hnext
    · exact (Bool.and_eq_true_iff.mp hnext).1
    · split at hnext <;> exact hnext

namespace ServerRun

variable {net : Network} {eui : Eui64} {history : List Moment} {σ : ServerState}

/-- In every run in which joins take turns, what they have left is as stated. -/
theorem joining (run : ServerRun net history σ) (stored : Option SessionRecord)
    (hjoins : σ.OnlyJoins eui history) (hturns : JoinsTakeTurns eui history) :
    σ.Joining net eui stored history := by
  induction run with
  | boot now => exact .boot now
  | @step history moments σ next run step ih =>
    have hbefore : σ.OnlyJoins eui history := by
      intro m hmem htouches job hjob
      obtain ⟨later, hlater, hsame⟩ := step.persists hjob
      exact hsame ▸ hjoins m (List.mem_append_left _ hmem) htouches later hlater
    exact (ih hbefore hturns.of_append).step run step hjoins hturns

/-- When all requests to join a device have come to their end and their joins took turns, the session
in the registry has the address and the keys of the record in the store, whatever was stored before.
Other tasks are asked only to leave the session alone: no loader files one of the device, and nobody
forgets it. -/
theorem joined_as_recorded (run : ServerRun net history σ) (stored : Option SessionRecord)
    (hjoins : σ.OnlyJoins eui history) (hturns : JoinsTakeTurns eui history)
    (hfinished : ∀ job ∈ σ.jobs, job.activity.RequestsJoin eui → ∃ verdict, job.rest = .done verdict)
    (hjoined : ∃ m ∈ history, m.event.renews eui = true) :
    ∃ session record, σ.memory.installed eui = some session ∧
      recordAfter eui stored history = some record ∧ session.devAddr = record.devAddr ∧
        session.keys = record.keys := by
  have hjoining := run.joining stored hjoins hturns
  have hnobody : (joinTurns eui history).pending = none := by
    cases hturn : (joinTurns eui history).pending with
    | none => rfl
    | some task =>
      have hwritten := (hjoining.pending task).mp hturn
      obtain ⟨job, hjob, hrequests⟩ := hjoining.owner task hwritten
      obtain ⟨verdict, hdone⟩ := hfinished job (List.mem_of_getElem? hjob) hrequests
      have hkeeps := run.keeps_installRules hjob hrequests
      rw [hdone] at hkeeps
      rw [hkeeps.1] at hwritten
      cases hwritten
  obtain ⟨session, hinstalled, hcredentials⟩ := hjoining.settled hjoined hnobody
  obtain ⟨record, hrecord, hsame⟩ := Option.map_eq_some_iff.mp hcredentials
  obtain ⟨haddr, hkeys⟩ := Prod.mk.inj hsame
  exact ⟨session, record, hinstalled, hrecord, haddr.symm, hkeys.symm⟩

end ServerRun

/-! ## Two joins of a device -/

namespace Sample

/-- The device asks to join with a nonce. -/
def joinAttempt (nonce : UInt16) : Activity :=
  .dispatch ⟨JoinRequest.build joinable.suite appKey ⟨2⟩ ⟨1⟩ nonce, 0, {}⟩

/-- A store that knows the device and takes every write. -/
def joinStore : (request : Request) → request.Answer
  | .fetchJoinInfo _ => .ok (some joinInfo)
  | .persist .. => .ok ()
  | _ => .error .timeout

/-- The device asks twice, and the steps of the two joins follow each other in some order. -/
def twoJoins (order : List TaskId) : List Moment × ServerState :=
  ServerState.play joinable
    [.arrive (joinAttempt 7), .arrive (joinAttempt 8), .turns joinStore order] ([], { now := 0 })

/-- Both joins ask and draw before the first one writes; the second one writes when the first one
has installed its session, and before the first one answers. -/
def inTurn : List TaskId := [0, 0, 0, 1, 1, 1, 0, 0, 0, 0, 1, 0, 1, 1, 1, 1, 0, 1, 1]

/-- The second join writes and installs its session after the first one has written its own and
before it installs it. -/
def overtaking : List TaskId := [0, 0, 0, 0, 1, 1, 1, 1, 1, 1, 1, 1, 1, 0, 0, 0, 0, 0, 0]

theorem run_twoJoins (order : List TaskId) :
    ServerRun joinable (twoJoins order).1 (twoJoins order).2 :=
  (ServerRun.boot 0).reaches (.play _ .start)

/-- A task is a join of the device that was answered. -/
def isAnswered (job : Job) : Bool :=
  (job.activity.joinRequest?.any fun request => request.devEui = ⟨1⟩) &&
    match job.rest with
    | .done (.outcome (.ok (some _))) => true
    | _ => false

theorem requestsJoin_of_isAnswered {job : Job} (h : isAnswered job = true) :
    job.activity.RequestsJoin ⟨1⟩ := by
  obtain ⟨request, hrequest, hdevice⟩ :=
    (Option.any_eq_true _ _).mp (Bool.and_eq_true_iff.mp h).1
  exact ⟨request, hrequest, of_decide_eq_true hdevice⟩

theorem exists_downlink_of_isAnswered {job : Job} (h : isAnswered job = true) :
    ∃ downlink, job.rest = .done (.outcome (.ok (some downlink))) := by
  have hrest := (Bool.and_eq_true_iff.mp h).2
  split at hrest
  · rename_i downlink heq
    exact ⟨downlink, heq⟩
  · cases hrest

end Sample

namespace ServerRun

/-- Two joins that take turns end with the keys of the second one, in the registry as in the
store. -/
theorem joined_as_recorded_in_turn :
    let reached := Sample.twoJoins Sample.inTurn
    (∀ job ∈ reached.2.jobs, Sample.isAnswered job = true) ∧ JoinsTakeTurns ⟨1⟩ reached.1 ∧
      ∃ session record, reached.2.memory.installed ⟨1⟩ = some session ∧
        recordAfter ⟨1⟩ none reached.1 = some record ∧ session.devAddr = record.devAddr ∧
          session.keys = record.keys := by
  intro reached
  have hanswered : ∀ job ∈ reached.2.jobs, Sample.isAnswered job = true :=
    List.all_eq_true.mp (by decide +kernel)
  have hturns : JoinsTakeTurns ⟨1⟩ reached.1 := by
    rw [JoinsTakeTurns]
    decide +kernel
  have hjoins : reached.2.OnlyJoins ⟨1⟩ reached.1 := fun m _ _ job hjob =>
    Sample.requestsJoin_of_isAnswered (hanswered job (List.mem_of_getElem? hjob))
  have hfinished : ∀ job ∈ reached.2.jobs, job.activity.RequestsJoin ⟨1⟩ →
      ∃ verdict, job.rest = .done verdict := by
    intro job hmem _
    obtain ⟨downlink, hrest⟩ := Sample.exists_downlink_of_isAnswered (hanswered job hmem)
    exact ⟨_, hrest⟩
  have hjoined : ∃ m ∈ reached.1, m.event.renews ⟨1⟩ = true :=
    List.any_eq_true.mp (by decide +kernel)
  exact ⟨hanswered, hturns, joined_as_recorded (Sample.run_twoJoins Sample.inTurn) none hjoins hturns
    hfinished hjoined⟩

/-- Two joins of a device are answered, and the keys of the session in the registry are not those in
the store: the second join wrote and installed its session after the first one had written its own
and before it installed it. -/
theorem exists_overtaken_join :
    ∃ history σ, ServerRun Sample.joinable history σ ∧
      (∀ job ∈ σ.jobs, job.activity.RequestsJoin ⟨1⟩ ∧
        ∃ downlink, job.rest = .done (.outcome (.ok (some downlink)))) ∧
      ∃ session record, σ.memory.installed ⟨1⟩ = some session ∧
        recordAfter ⟨1⟩ none history = some record ∧ session.keys ≠ record.keys := by
  let reached := Sample.twoJoins Sample.overtaking
  have hanswered : ∀ job ∈ reached.2.jobs, Sample.isAnswered job = true :=
    List.all_eq_true.mp (by decide +kernel)
  have hdiffers : ((reached.2.memory.installed ⟨1⟩).any fun session =>
      (recordAfter ⟨1⟩ none reached.1).any fun record => session.keys ≠ record.keys) = true := by
    decide +kernel
  obtain ⟨session, hsession, hrecords⟩ := (Option.any_eq_true _ _).mp hdiffers
  obtain ⟨record, hrecord, hkeys⟩ := (Option.any_eq_true _ _).mp hrecords
  refine ⟨reached.1, reached.2, Sample.run_twoJoins _, fun job hmem => ?_, session, record, hsession,
    hrecord, of_decide_eq_true hkeys⟩
  exact ⟨Sample.requestsJoin_of_isAnswered (hanswered job hmem),
    Sample.exists_downlink_of_isAnswered (hanswered job hmem)⟩

end ServerRun

end LoraNetwork
