import LoraNetwork.Proofs.Uplink.Commanding
import LoraNetwork.Proofs.Uplink.Generation

/-!
# A session as a record and back

A session that is written down and loaded again goes on where it was, unless the record asks for a
reset. Two generations decide on that, the one asked for and the one reported last, and nothing
keeps a session as such from holding two that call for a reset. One that was loaded from a record
holds no such two, and no uplink leads to them. What is lost in any case is what no record holds:
the samples, the answer kept for repeats, and that an uplink was seen.
-/

namespace LoraNetwork

/-! ## Writing down and loading -/

namespace Session

variable {s : Session} {record : SessionRecord} {told : Bool}

/-- The progress survives the way into a record and back: the three settings are there together or
not at all. -/
theorem ofRecord_progress (s : Session) : SessionProgress.ofRecord s.toRecord = s.progress := by
  have hadr : (SessionProgress.ofRecord s.toRecord).adr = s.progress.adr := by
    cases hsettings : s.progress.adr with
    | none => simp [SessionProgress.ofRecord, toRecord, hsettings]
    | some settings => simp [SessionProgress.ofRecord, toRecord, hsettings]
  calc SessionProgress.ofRecord s.toRecord
      = { s.progress with adr := (SessionProgress.ofRecord s.toRecord).adr } := rfl
    _ = s.progress := by rw [hadr]

/-- The session with everything saved and nothing learnt. -/
def reloaded (config : ServerConfig) (s : Session) : Session :=
  { s with
    saved := s.progress
    history := .empty config.adr.historySize
    uplinkSeen := false
    confirmation := none }

/-- Without a reset that waits, a session is loaded as it was written down. -/
theorem ofRecord_toRecord (config : ServerConfig) (h : pendingReset s.toRecord = false) :
    ofRecord config s.toRecord = s.reloaded config := by
  rw [ofRecord, h, ofRecord_progress]
  rfl

/-- With everything saved nothing is left to be written. -/
theorem isDirty_reloaded (config : ServerConfig) (s : Session) :
    (s.reloaded config).isDirty = false := by
  have hempty := (SessionProgress.isEmpty_deltaFrom_iff (.refl s.progress)).mpr rfl
  rw [isDirty, delta, reloaded, hempty]
  rfl

/-- A session is loaded as it was written down exactly if no reset waits. -/
theorem toRecord_ofRecord_iff (config : ServerConfig) (s : Session) :
    (ofRecord config s.toRecord).toRecord = s.toRecord ↔ pendingReset s.toRecord = false := by
  constructor
  · intro hsame
    have hreported : loadedGeneration s.toRecord = s.progress.resetReported := by
      rw [← resetReported_ofRecord config]
      exact congrArg SessionRecord.resetReported hsame
    have hidle := not_allows_loadedGeneration s.toRecord
    rw [hreported] at hidle
    exact hidle
  · intro hquiet
    rw [ofRecord_toRecord config hquiet]
    rfl

/-- A session that goes by the generations of a record it was loaded from waits for no reset. -/
theorem Reports.not_pendingReset (h : s.Reports record told) : pendingReset s.toRecord = false := by
  have hidle := not_allows_loadedGeneration record
  rw [← h.reported, ← h.desired] at hidle
  exact hidle

end Session

/-! ## What a write leaves of a record -/

/-- The delta names nothing but what is written while a session is in use. -/
structure SessionDelta.Running (delta : SessionDelta) : Prop where
  /-- No new address. -/
  devAddr : delta.devAddr = none
  /-- No new network key. -/
  networkKey : delta.networkKey = none
  /-- No new application key. -/
  applicationKey : delta.applicationKey = none
  /-- No new nonce. -/
  devNonce : delta.devNonce = none
  /-- No new owner. -/
  gatewayId : delta.gatewayId = none

namespace SessionRecord

variable {record middle after : SessionRecord}

/-- Only what is written while a session is in use has changed. -/
def SameSession (record after : SessionRecord) : Prop :=
  after = { record with
    fcntUp := after.fcntUp
    fcntDown := after.fcntDown
    fcntUpStart := after.fcntUpStart
    fcntDownStart := after.fcntDownStart
    resetReported := after.resetReported
    dataRate := after.dataRate
    txPower := after.txPower
    repetitions := after.repetitions }

theorem SameSession.refl (record : SessionRecord) : record.SameSession record := rfl

theorem SameSession.trans (h : record.SameSession middle) (h' : middle.SameSession after) :
    record.SameSession after := by
  unfold SameSession at *
  rw [h] at h'
  exact h'

/-- A write of a session in use leaves the rest of the record. -/
theorem sameSession_applyTo {delta : SessionDelta} (h : delta.Running) (record : SessionRecord) :
    record.SameSession (delta.applyTo record) := by
  unfold SameSession SessionDelta.applyTo
  rw [h.devAddr, h.networkKey, h.applicationKey, h.devNonce, h.gatewayId]
  rfl

/-- Every write that the store took among the events is one of a session in use. -/
def WritesRunning (events : List (Event dataInterface)) : Prop :=
  ∀ event ∈ events, ∀ eui delta, event.written? = some (eui, delta) → delta.Running

/-- Writes of a session in use leave the rest of the record. -/
theorem sameSession_afterEvents {events : List (Event dataInterface)} (h : WritesRunning events)
    (record : SessionRecord) : record.SameSession (record.afterEvents events) := by
  induction events generalizing record with
  | nil => exact .refl record
  | cons event rest ih =>
    have hfirst : record.SameSession (record.afterEvent event) := by
      unfold afterEvent
      split
      · rename_i eui delta hwritten
        split
        · exact sameSession_applyTo (h event List.mem_cons_self eui delta hwritten) record
        · exact .refl record
      · exact .refl record
    exact hfirst.trans (ih (fun other hmem => h other (List.mem_cons_of_mem _ hmem)) _)

end SessionRecord

namespace DataHandling

open SessionRecord

variable {net : Network} {s recorded after : Session} {uplink : DataUplink} {forced : Bool}
variable {events : List (Event dataInterface)}

/-- Of a single write only its delta matters. -/
theorem writesRunning_singleton {device : Eui64} {delta : SessionDelta} (h : delta.Running)
    (answer : Except StoreError Unit) :
    WritesRunning [⟨.call (.persist device delta), answer⟩] := by
  intro event hmem eui named hwritten
  rw [List.mem_singleton.mp hmem] at hwritten
  cases answer with
  | error error => cases hwritten
  | ok _ =>
    cases hwritten
    exact h

/-- To record an uplink is a write of a session in use, if it is one. -/
theorem Recorded.writesRunning (h : Recorded net s uplink events recorded) :
    WritesRunning events := by
  cases h with
  | repeated | accepted counter => exact fun event hmem => nomatch hmem
  | restarted examined => exact writesRunning_singleton ⟨rfl, rfl, rfl, rfl, rfl⟩ _

/-- So is the write at the end. -/
theorem Persisted.writesRunning (h : Persisted net s forced events after) :
    WritesRunning events := by
  cases h with
  | skipped idle => exact fun event hmem => nomatch hmem
  | failed error => exact writesRunning_singleton ⟨rfl, rfl, rfl, rfl, rfl⟩ _
  | written => exact writesRunning_singleton ⟨rfl, rfl, rfl, rfl, rfl⟩ _

end DataHandling

/-- A call writes nothing but its session in use. -/
theorem Handling.Occurs.writesRunning {net : Network} {call : Handling} (h : call.Occurs net) :
    SessionRecord.WritesRunning call.events := by
  cases h.outcome with
  | refused after events =>
    rw [events]
    exact fun event hmem => nomatch hmem
  | unsaved after events =>
    rw [events]
    exact DataHandling.writesRunning_singleton ⟨rfl, rfl, rfl, rfl, rfl⟩ _
  | concluded concluded =>
    obtain ⟨events, recorded, silent, same, moves, write⟩ := concluded
    rw [events]
    intro event hmem eui delta hwritten
    rcases List.mem_append.mp hmem with hmem | hwriting
    · rcases List.mem_append.mp hmem with hrecording | hanswering
      · exact recorded.writesRunning event hrecording eui delta hwritten
      · rw [Event.written?_eq_none (silent event hanswering)] at hwritten
        cases hwritten
    · exact write.writesRunning event hwriting eui delta hwritten

/-! ## Runs -/

namespace HandlingRun

variable {net : Network} {start last : Device} {calls : List Handling} {record : SessionRecord}

/-- A run leaves the rest of the record. -/
theorem sameSession_stored (run : HandlingRun net start calls last) (record : SessionRecord) :
    record.SameSession (stored record calls) := by
  refine SessionRecord.sameSession_afterEvents (fun event hmem => ?_) record
  obtain ⟨call, hcall, hevent⟩ := List.mem_flatMap.mp hmem
  exact (run.occurs call hcall).writesRunning event hevent

/-- A session can be written down and loaded again at any time. -/
structure Restorable (record : SessionRecord) (calls : List Handling) (s : Session) : Prop where
  /-- Loaded from its own record, it is as it was, with everything saved and nothing learnt. -/
  loaded : ∀ config, Session.ofRecord config s.toRecord = s.reloaded config
  /-- Nothing is left to be written then. -/
  clean : ∀ config, (Session.ofRecord config s.toRecord).isDirty = false
  /-- Written down again, it gives the same record. -/
  same : ∀ config, (Session.ofRecord config s.toRecord).toRecord = s.toRecord
  /-- Once everything is written, it is loaded from the store as from its own record. Only the
  region may be another, if the record in the store leaves it to the server. -/
  stored : s.isDirty = false → ∀ config, Session.ofRecord config (stored record calls) =
    { Session.ofRecord config s.toRecord with
      region := record.region.getD config.defaultRegion }

/-- A session whose progress is stored is loaded from the store as it is. -/
theorem ofRecord_stored {config : ServerConfig} (config' : ServerConfig)
    (run : HandlingRun net (.ofSession (.ofRecord config record)) calls last)
    (hclean : last.session.isDirty = false)
    (hquiet : Session.pendingReset last.session.toRecord = false) :
    Session.ofRecord config' (stored record calls) =
      { last.session.reloaded config' with
        region := record.region.getD config'.defaultRegion } := by
  have hprogress := (clean_iff_stored run).mp hclean
  have hsame := run.sameSession_stored record
  have hprofile := run.sameProfile
  generalize stored record calls = held at hprogress hsame ⊢
  -- The generations of the record are those of the session.
  have hdesired : held.resetDesired = last.session.resetDesired := by
    rw [run.resetDesired]
    unfold SessionRecord.SameSession at hsame
    rw [hsame]
    rfl
  have hreported : held.resetReported = last.session.progress.resetReported :=
    congrArg SessionProgress.resetReported hprogress
  have hidle : Session.pendingReset held = false := by
    rw [Session.pendingReset, hdesired, hreported]
    exact hquiet
  unfold Session.SameProfile at hprofile
  unfold SessionRecord.SameSession at hsame
  rw [Session.ofRecord, hidle, hprogress, hsame, hprofile]
  rfl

/-- Load a session from any record, under any configuration, and let it handle any uplinks with any
answers and any success of the writes: then it can be written down and loaded again. -/
theorem restorable {config : ServerConfig}
    (run : HandlingRun net (.ofSession (.ofRecord config record)) calls last) :
    Restorable record calls last.session := by
  have hreports := run.reports (.ofRecord config record) (.ofRecord config record)
  have hquiet := hreports.not_pendingReset
  have hloaded := fun config' => Session.ofRecord_toRecord config' hquiet
  refine ⟨hloaded, fun config' => ?_, fun config' => ?_, fun hclean config' => ?_⟩
  · rw [hloaded config']
    exact Session.isDirty_reloaded config' last.session
  · exact (Session.toRecord_ofRecord_iff config' last.session).mpr hquiet
  · rw [hloaded config']
    exact ofRecord_stored config' run hclean hquiet

/-- The record asks for a third reset and names no region. Loading honours the reset, and an uplink
leads to settings; the session that is loaded from what it leaves, under another region, has both
and goes on from the counter of the uplink. -/
theorem restorable_after_reset :
    let record := { Sample.record with resetDesired := some 3, resetReported := some 2 }
    let call := Handling.answeredBy Sample.network (Sample.answers (.ok ()))
      (.ofSession (.ofRecord {} record)) (Sample.asking 6 0)
    let config : ServerConfig := { defaultRegion := .us915 }
    Session.pendingReset record = true ∧ Restorable record [call] call.after.session ∧
      (Session.ofRecord config call.after.session.toRecord).progress =
        { fcntUp := 6, fcntDown := 1, resetReported := some 3, adr := some ⟨5, 0, 1⟩ } ∧
      (Session.ofRecord config call.after.session.toRecord).region = .eu868 := by
  intro record call config
  have hrun : HandlingRun Sample.network (.ofSession (.ofRecord {} record)) [call] call.after :=
    .cons (Handling.occurs_answeredBy _ _ _ _) (.nil _)
  exact ⟨by decide, restorable hrun, by decide +kernel, by decide +kernel⟩

end HandlingRun

end LoraNetwork
