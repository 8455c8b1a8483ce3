import LoraNetwork.Proofs.Join.Agreement

/-!
# A joined session loaded again

A join installs its session and writes it to the store as a delta. A delta says what changes and
cannot say that something is gone, so where the new session has nothing, the record keeps what an
earlier session left. For the address, the keys, the counters and their starts this never happens: a
session that is loaded from the record begins like the one installed, and a reset that waits in the
record finds both counters at their starts already. But settings commanded during an earlier session
are still in the record, and the session loaded from it takes them for its own.
-/

namespace LoraNetwork

/-- Two sessions have the same address and keys, and count alike. -/
structure Session.StartsLike (s other : Session) : Prop where
  /-- The same address. -/
  devAddr : s.devAddr = other.devAddr
  /-- The same keys. -/
  keys : s.keys = other.keys
  /-- The same last uplink counter. -/
  fcntUp : s.progress.fcntUp = other.progress.fcntUp
  /-- The same next downlink counter. -/
  fcntDown : s.progress.fcntDown = other.progress.fcntDown
  /-- The same start of the uplink count. -/
  fcntUpStart : s.progress.fcntUpStart = other.progress.fcntUpStart
  /-- The same start of the downlink count. -/
  fcntDownStart : s.progress.fcntDownStart = other.progress.fcntDownStart

/-- The settings that a stored session holds. -/
def SessionRecord.settings (record : SessionRecord) : Option AdrSettings :=
  (SessionProgress.ofRecord record).adr

/-- A new session: it counts from zero, and nobody has asked for a reset or commanded anything. -/
structure SessionRecord.Fresh (record : SessionRecord) : Prop where
  /-- No uplink was accepted. -/
  fcntUp : record.fcntUp = 0
  /-- No downlink was sent. -/
  fcntDown : record.fcntDown = 0
  /-- Uplinks start at zero. -/
  fcntUpStart : record.fcntUpStart = 0
  /-- Downlinks start at zero. -/
  fcntDownStart : record.fcntDownStart = 0
  /-- No reset was asked for. -/
  resetDesired : record.resetDesired = none
  /-- None was honoured. -/
  resetReported : record.resetReported = none
  /-- No data rate was commanded. -/
  dataRate : record.dataRate = none
  /-- No power was commanded. -/
  txPower : record.txPower = none
  /-- No repetitions were commanded. -/
  repetitions : record.repetitions = none

namespace SessionRecord

variable {record : SessionRecord}

/-- What the store holds after a new session was written over an old one: all that is new, and of
the old one the settings and the state of its reset. -/
structure Replaces (after record : SessionRecord) (old : Option SessionRecord) : Prop where
  /-- The new address. -/
  devAddr : after.devAddr = record.devAddr
  /-- The new keys. -/
  keys : after.keys = record.keys
  /-- The new uplink counter. -/
  fcntUp : after.fcntUp = record.fcntUp
  /-- The new downlink counter. -/
  fcntDown : after.fcntDown = record.fcntDown
  /-- The new start of the uplink count. -/
  fcntUpStart : after.fcntUpStart = record.fcntUpStart
  /-- The new start of the downlink count. -/
  fcntDownStart : after.fcntDownStart = record.fcntDownStart
  /-- The old settings. -/
  settings : after.settings = old.bind settings
  /-- The old reset. -/
  pendingReset : Session.pendingReset after = old.any Session.pendingReset

/-- Writing a new session replaces the old one, but for its settings and its reset. -/
theorem replaces_of_write (hfresh : record.Fresh) (eui : Eui64) (old : Option SessionRecord) :
    ∃ after, (SessionDelta.full record).write eui old = some after ∧
      after.Replaces record old := by
  have hsettings : ∀ stored : SessionRecord,
      ((SessionDelta.full record).applyTo stored).settings = stored.settings := by
    intro stored
    simp [settings, SessionProgress.ofRecord, SessionDelta.applyTo, SessionDelta.full,
      hfresh.dataRate, hfresh.txPower, hfresh.repetitions]
  have hreset : ∀ stored : SessionRecord,
      Session.pendingReset ((SessionDelta.full record).applyTo stored) =
        Session.pendingReset stored := by
    intro stored
    simp [Session.pendingReset, SessionDelta.applyTo, SessionDelta.full, hfresh.resetReported]
  cases old with
  | none => exact ⟨_, rfl, rfl, rfl, rfl, rfl, rfl, rfl, hsettings _, hreset _⟩
  | some stored => exact ⟨_, rfl, rfl, rfl, rfl, rfl, rfl, rfl, hsettings _, hreset _⟩

/-- A session that counts from its starts is loaded with its counters as they are, whether or not a
reset is pending. -/
theorem loaded_at_starts (config : ServerConfig) (hup : record.fcntUp = record.fcntUpStart)
    (hdown : record.fcntDown = record.fcntDownStart) :
    let loaded := (Session.ofRecord config record).progress
    loaded.fcntUp = record.fcntUp ∧ loaded.fcntDown = record.fcntDown ∧
      loaded.fcntUpStart = record.fcntUpStart ∧ loaded.fcntDownStart = record.fcntDownStart ∧
        loaded.adr = record.settings := by
  intro loaded
  have hloaded : loaded = if Session.pendingReset record then
      (SessionProgress.ofRecord record).restarted record.resetDesired
      else SessionProgress.ofRecord record := rfl
  rw [hloaded]
  split
  · exact ⟨hup.symm, hdown.symm, rfl, rfl, rfl⟩
  · exact ⟨rfl, rfl, rfl, rfl, rfl⟩

end SessionRecord

namespace JoinHandling

variable {net : Network} {uplink : JoinUplink} {events : List (Event joinInterface)}
variable {downlink : Downlink}

/-- The session that a join creates is new. -/
theorem fresh_newRecord (net : Network) (request : JoinRequest) (info : JoinInfo) (drawn : JoinDraw) :
    (newRecord net request info drawn).Fresh := ⟨rfl, rfl, rfl, rfl, rfl, rfl, rfl, rfl, rfl⟩

/-- After a join that was answered, the store holds a record that replaces the old one, and the
session that is loaded from it starts like the new one, with the settings of the old one. -/
theorem Answered.reloaded {info : JoinInfo} {drawn : JoinDraw}
    (h : Answered net uplink info drawn events downlink) (now : Instant) (task : TaskId)
    (scene : JoinScene) :
    ∃ record, (scene.along net.config now task events).store uplink.request.devEui = some record ∧
      Session.pendingReset record =
        (scene.store uplink.request.devEui).any Session.pendingReset ∧
      let reloaded := Session.ofRecord net.config record
      reloaded.StartsLike
          (Session.ofRecord net.config (newRecord net uplink.request info drawn)) ∧
        reloaded.progress.fcntUp = record.fcntUp ∧ reloaded.progress.fcntDown = record.fcntDown ∧
        reloaded.progress.adr =
          (scene.store uplink.request.devEui).bind SessionRecord.settings := by
  have hfresh := fresh_newRecord net uplink.request info drawn
  obtain ⟨record, hwrite, hreplaces⟩ := SessionRecord.replaces_of_write hfresh
    uplink.request.devEui (scene.store uplink.request.devEui)
  have hup : record.fcntUp = record.fcntUpStart := by
    rw [hreplaces.fcntUp, hreplaces.fcntUpStart, hfresh.fcntUp, hfresh.fcntUpStart]
  have hdown : record.fcntDown = record.fcntDownStart := by
    rw [hreplaces.fcntDown, hreplaces.fcntDownStart, hfresh.fcntDown, hfresh.fcntDownStart]
  obtain ⟨hloadedUp, hloadedDown, hloadedUpStart, hloadedDownStart, hloadedAdr⟩ :=
    SessionRecord.loaded_at_starts net.config hup hdown
  refine ⟨record, (h.store_eq now task scene).trans hwrite, hreplaces.pendingReset, ?_, hloadedUp,
    hloadedDown, hloadedAdr.trans hreplaces.settings⟩
  exact ⟨hreplaces.devAddr, hreplaces.keys, hloadedUp.trans hreplaces.fcntUp,
    hloadedDown.trans hreplaces.fcntDown, hloadedUpStart.trans hreplaces.fcntUpStart,
    hloadedDownStart.trans hreplaces.fcntDownStart⟩

/-- After a join that was answered, a session that is loaded from the store starts like the one in
the registry, and loading it leaves the counters as they are stored. A reset is pending in the store
exactly if one was before the join. The session in the registry has no commanded settings; the one
that is loaded has those of the session stored before the join. -/
theorem reloaded_session (h : (handle net uplink).Trace events (.ok downlink)) (now : Instant)
    (task : TaskId) (scene : JoinScene) :
    let eui := uplink.request.devEui
    let after := scene.along net.config now task events
    ∃ record session, after.store eui = some record ∧
      after.memory.deviceOf eui = some (.ofSession session) ∧
      Session.pendingReset record = (scene.store eui).any Session.pendingReset ∧
      let reloaded := Session.ofRecord net.config record
      reloaded.StartsLike session ∧
        reloaded.progress.fcntUp = record.fcntUp ∧ reloaded.progress.fcntDown = record.fcntDown ∧
        session.progress.adr = none ∧
        reloaded.progress.adr = (scene.store eui).bind SessionRecord.settings := by
  intro eui after
  obtain ⟨info, drawn, hanswered⟩ := answered_of_trace h
  obtain ⟨record, hstore, hreset, hstarts, hup, hdown, hadr⟩ := hanswered.reloaded now task scene
  have hdevice := hanswered.deviceOf_eq now task scene
  exact ⟨record, _, hstore, hdevice, hreset, hstarts, hup, hdown, rfl, hadr⟩

end JoinHandling

/-! ## Settings that outlive their session -/

namespace Sample

/-- The store while the device has a session in which settings were commanded, and in which a reset
is still to be honoured; the registry knows nothing of it. -/
def beforeRejoin : JoinScene where
  store := fun _ => some
    { record with
      resetDesired := some 1
      dataRate := some 5
      txPower := some 2 }
  memory := {}

end Sample

namespace JoinHandling

/-- The device joins anew: its loaded session starts like the one in the registry. -/
theorem reloaded_session_of_rejoin :
    ∃ events downlink, (handle Sample.joinable Sample.joinUplink).Trace events (.ok downlink) ∧
      let after := Sample.beforeRejoin.along Sample.joinable.config 0 0 events
      ∃ record session, after.store ⟨1⟩ = some record ∧
        after.memory.deviceOf ⟨1⟩ = some (.ofSession session) ∧
        (Session.ofRecord Sample.joinable.config record).StartsLike session ∧
        Session.pendingReset record = true := by
  obtain ⟨events, downlink, htrace, -⟩ := Sample.exists_answered_join
  obtain ⟨record, session, hstore, hdevice, hpending, hstarts, -⟩ :=
    reloaded_session htrace 0 0 Sample.beforeRejoin
  have hreset : ((Sample.beforeRejoin.store ⟨1⟩).any Session.pendingReset) = true := by decide
  exact ⟨events, downlink, htrace, record, session, hstore, hdevice, hstarts,
    hpending.trans hreset⟩

/-- The loaded session may have other settings than the one in the registry: after that join the old
session's settings come back. -/
theorem exists_reloaded_with_old_settings :
    ∃ events downlink, (handle Sample.joinable Sample.joinUplink).Trace events (.ok downlink) ∧
      let after := Sample.beforeRejoin.along Sample.joinable.config 0 0 events
      ∃ record session, after.store ⟨1⟩ = some record ∧
        after.memory.deviceOf ⟨1⟩ = some (.ofSession session) ∧ session.progress.adr = none ∧
        (Session.ofRecord Sample.joinable.config record).progress.adr = some ⟨5, 2, 1⟩ := by
  obtain ⟨events, downlink, htrace, -⟩ := Sample.exists_answered_join
  obtain ⟨info, drawn, hanswered⟩ := answered_of_trace htrace
  obtain ⟨record, hstore, -, -, -, -, hadr⟩ := hanswered.reloaded 0 0 Sample.beforeRejoin
  have hdevice := hanswered.deviceOf_eq 0 0 Sample.beforeRejoin
  have hsettings : (Sample.beforeRejoin.store ⟨1⟩).bind SessionRecord.settings =
      some ⟨5, 2, 1⟩ := rfl
  exact ⟨events, downlink, htrace, record, _, hstore, hdevice, rfl, hadr.trans hsettings⟩

end JoinHandling

end LoraNetwork
