import LoraNetwork.Adr.Plan
import LoraNetwork.Config.Server
import LoraNetwork.Counter
import LoraNetwork.Session.Record

/-!
# Sessions in memory

The session of one device while its server runs. The part that the store has to know is kept twice:
as it is now and as it was last written, and what differs between the two is the delta still to be
written. A session is loaded from its record, and on loading honours a reset of the counters that
the operator asked for since the last one honoured.
-/

namespace LoraNetwork

/-- The part of a session that is written to the store while it is in use. -/
structure SessionProgress where
  /-- The last accepted uplink counter. -/
  fcntUp : UInt32 := 0
  /-- The next downlink counter. -/
  fcntDown : UInt32 := 0
  /-- Where the uplink count started. -/
  fcntUpStart : UInt32 := 0
  /-- Where the downlink count started. -/
  fcntDownStart : UInt32 := 0
  /-- The generation of the reset that was honoured last. -/
  resetReported : Option UInt32 := none
  /-- The settings commanded last. -/
  adr : Option AdrSettings := none
  deriving DecidableEq, Repr

namespace SessionProgress

/-- A value that differs from the one saved. -/
def changed {α : Type} [DecidableEq α] (now saved : α) : Option α :=
  if now = saved then none else some now

/-- An optional value that differs from the one saved; that it was cleared cannot be told. -/
def changedOption {α : Type} [DecidableEq α] (now saved : Option α) : Option α :=
  if now = saved then none else now

/-- What has to be written so that the store catches up. -/
def deltaFrom (now saved : SessionProgress) : SessionDelta :=
  let adr := changedOption now.adr saved.adr
  { fcntUp := changed now.fcntUp saved.fcntUp
    fcntDown := changed now.fcntDown saved.fcntDown
    fcntUpStart := changed now.fcntUpStart saved.fcntUpStart
    fcntDownStart := changed now.fcntDownStart saved.fcntDownStart
    resetReported := changedOption now.resetReported saved.resetReported
    dataRate := adr.map AdrSettings.dataRate
    txPower := adr.map AdrSettings.txPower
    repetitions := adr.map AdrSettings.repetitions }

/-- The settings of a delta, if it has all three. -/
def deltaSettings (delta : SessionDelta) : Option AdrSettings :=
  match delta.dataRate, delta.txPower, delta.repetitions with
  | some dataRate, some txPower, some repetitions => some ⟨dataRate, txPower, repetitions⟩
  | _, _, _ => none

/-- What is known to be saved after a delta was written. -/
def afterWrite (saved : SessionProgress) (delta : SessionDelta) : SessionProgress where
  fcntUp := delta.fcntUp.getD saved.fcntUp
  fcntDown := delta.fcntDown.getD saved.fcntDown
  fcntUpStart := delta.fcntUpStart.getD saved.fcntUpStart
  fcntDownStart := delta.fcntDownStart.getD saved.fcntDownStart
  resetReported := delta.resetReported.or saved.resetReported
  adr := (deltaSettings delta).or saved.adr

/-- The progress that a record holds. Settings count only with data rate and power; repetitions
default to one. -/
def ofRecord (record : SessionRecord) : SessionProgress where
  fcntUp := record.fcntUp
  fcntDown := record.fcntDown
  fcntUpStart := record.fcntUpStart
  fcntDownStart := record.fcntDownStart
  resetReported := record.resetReported
  adr :=
    match record.dataRate, record.txPower with
    | some dataRate, some txPower => some ⟨dataRate, txPower, record.repetitions.getD 1⟩
    | _, _ => none

/-- The progress with both counters back at their starts for a reset of the given generation. -/
def restarted (progress : SessionProgress) (generation : Option UInt32) : SessionProgress :=
  { progress with
    fcntUp := progress.fcntUpStart
    fcntDown := progress.fcntDownStart
    resetReported := generation }

end SessionProgress

/-- A downlink as first sent; the windows are chosen anew for each repeat. -/
structure CachedDownlink where
  /-- The frame. -/
  payload : Bytes
  /-- Its counter. -/
  fcntDown : UInt32
  deriving DecidableEq, Repr

/-- The answer kept for repeats of the last confirmed uplink. -/
structure Confirmation where
  /-- The counter of the uplink. -/
  fcntUp : UInt32
  /-- What was sent, if anything was. -/
  downlink : Option CachedDownlink
  /-- How many repeats have come. -/
  resubmits : UInt32
  deriving DecidableEq, Repr

/-- The session of one device. -/
structure Session where
  /-- The device. -/
  devEui : Eui64
  /-- Its address. -/
  devAddr : DevAddr
  /-- Its keys. -/
  keys : SessionKeys
  /-- The application it belongs to. -/
  applicationId : Option String
  /-- The gateway it belongs to; none if several gateways share it. -/
  gatewayId : Option String
  /-- The generation of the reset the operator asked for last. -/
  resetDesired : Option UInt32
  /-- The device counts in thirty-two bits. -/
  wideCounter : Bool
  /-- The device may start to count again. -/
  relaxed : Bool
  /-- How the device listens. -/
  listening : ListeningProfile
  /-- The region. -/
  region : Region
  /-- Cloud messages may be sent to the device. -/
  downlinkEnabled : Bool
  /-- How long the session stays in memory unused, in milliseconds, if not the server's time. -/
  keepAlive : Option Nat
  /-- The nonce of the join that created the session. -/
  devNonce : Option UInt16
  /-- Counters, reset generation and commanded settings as they are now. -/
  progress : SessionProgress
  /-- The same as last written. -/
  saved : SessionProgress
  /-- Recent uplinks. -/
  history : UplinkHistory
  /-- A frame was accepted, or a restart honoured, since the session was loaded. -/
  uplinkSeen : Bool
  /-- The answer kept for repeats of the last confirmed uplink. -/
  confirmation : Option Confirmation

namespace Session

/-- The generation of a reset that the record waits for: one was asked for and may be honoured. -/
def pendingReset (record : SessionRecord) : Bool :=
  record.resetDesired.isSome &&
    Counter.generationAllowsReset record.resetDesired record.resetReported

/-- Loads a session, honouring a reset that is pending. -/
def ofRecord (config : ServerConfig) (record : SessionRecord) : Session :=
  let saved := SessionProgress.ofRecord record
  { devEui := record.devEui
    devAddr := record.devAddr
    keys := record.keys
    applicationId := record.applicationId
    gatewayId := record.gatewayId
    resetDesired := record.resetDesired
    wideCounter := record.wideCounter
    relaxed := record.relaxed
    listening := record.listening
    region := record.region.getD config.defaultRegion
    downlinkEnabled := record.downlinkEnabled
    keepAlive := record.keepAlive
    devNonce := record.devNonce
    progress := if pendingReset record then saved.restarted record.resetDesired else saved
    saved := saved
    history := UplinkHistory.empty config.adr.historySize
    uplinkSeen := false
    confirmation := none }

/-- The record that would hold the session as it is now. -/
def toRecord (s : Session) : SessionRecord where
  devEui := s.devEui
  devAddr := s.devAddr
  keys := s.keys
  applicationId := s.applicationId
  gatewayId := s.gatewayId
  fcntUp := s.progress.fcntUp
  fcntDown := s.progress.fcntDown
  fcntUpStart := s.progress.fcntUpStart
  fcntDownStart := s.progress.fcntDownStart
  resetDesired := s.resetDesired
  resetReported := s.progress.resetReported
  wideCounter := s.wideCounter
  relaxed := s.relaxed
  listening := s.listening
  region := some s.region
  downlinkEnabled := s.downlinkEnabled
  keepAlive := s.keepAlive
  dataRate := s.progress.adr.map AdrSettings.dataRate
  txPower := s.progress.adr.map AdrSettings.txPower
  repetitions := s.progress.adr.map AdrSettings.repetitions
  devNonce := s.devNonce

/-- The timing of the device's windows. -/
def timing (s : Session) : ReceiveTiming := ReceiveTiming.ofDelay s.listening.rxDelay

/-- A restart of the count may be honoured now. -/
def resetAllowed (s : Session) : Bool :=
  s.relaxed && Counter.generationAllowsReset s.resetDesired s.progress.resetReported

/-- What decides on the next frame's counter. -/
def counterState (s : Session) (maxGap : UInt32) : CounterState where
  last := s.progress.fcntUp
  fresh := !s.uplinkSeen && s.progress.fcntUp = 0 && s.progress.fcntDown = 0
  uplinkSeen := s.uplinkSeen
  wide := s.wideCounter
  resetAllowed := s.resetAllowed
  maxGap := maxGap

/-- Records the counter of a new frame. The answer to an earlier frame is forgotten. -/
def accept (s : Session) (counter : UInt32) : Session :=
  { s with
    progress := { s.progress with fcntUp := counter }
    uplinkSeen := true
    confirmation := none }

/-- Honours a restart of the count: both counters start again, the reset generation is used up, and
what was learnt from earlier uplinks is forgotten. -/
def restart (s : Session) (counter : UInt32) : Session :=
  { s with
    progress :=
      { s.progress with
        fcntUp := counter
        fcntDown := 0
        fcntUpStart := counter
        fcntDownStart := 0
        resetReported := s.resetDesired }
    uplinkSeen := true
    confirmation := none
    history := s.history.clear }

/-- The session after its next downlink counter was taken. -/
def issue (s : Session) : Session :=
  { s with progress := { s.progress with fcntDown := s.progress.fcntDown + 1 } }

/-- The session after a downlink counter was taken that was allocated elsewhere. -/
def adopt (s : Session) (allocated : UInt32) : Session :=
  { s with progress := { s.progress with fcntDown := allocated + 1 } }

/-- The settings the device transmits with: the commanded ones once its uplinks use the commanded
data rate, and full power without repetition before that. -/
def effectiveSettings (s : Session) (uplinkDataRate : UInt8) : AdrSettings :=
  match s.progress.adr with
  | some settings =>
    if settings.dataRate = uplinkDataRate then settings else ⟨uplinkDataRate, 0, 1⟩
  | none => ⟨uplinkDataRate, 0, 1⟩

/-- Records settings that the device is commanded to use. -/
def command (s : Session) (settings : AdrSettings) : Session :=
  { s with progress := { s.progress with adr := some settings } }

/-- The changes that are not written yet. -/
def delta (s : Session) : SessionDelta := s.progress.deltaFrom s.saved

/-- Some change is not written yet. -/
def isDirty (s : Session) : Bool := !s.delta.isEmpty

/-- How far apart two counters are. -/
def distance (a b : UInt32) : UInt32 := if a ≤ b then b - a else a - b

/-- A counter has moved so far since the last write that it has to be written. -/
def reaches (s : Session) (threshold : UInt32) : Bool :=
  threshold ≤ distance s.progress.fcntUp s.saved.fcntUp ||
    threshold ≤ distance s.progress.fcntDown s.saved.fcntDown

/-- The session after a delta has reached the store. -/
def written (s : Session) (delta : SessionDelta) : Session :=
  { s with saved := s.saved.afterWrite delta }

end Session

end LoraNetwork
