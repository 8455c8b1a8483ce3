import LoraNetwork.Simulation.Machine

/-!
# Scenarios

A scenario drives a server and its collaborators step by step: it changes what the collaborators
hold, lets time pass, sends uplinks and looks at what the server keeps. Uplinks may be given as
bytes or described, and then they are built with the address and the keys that the scenario knows of
a device. A session that a join created has a name of its own, the number of the join.
-/

namespace LoraNetwork

/-- How a scenario names a session. -/
inductive SessionName where
  /-- The session last given for a device. -/
  | device (eui : Eui64)
  /-- The session of a join, by its number, starting at one. -/
  | joined (number : Nat)
  deriving DecidableEq, Repr

/-- How a scenario names an address. -/
inductive AddressName where
  /-- The address itself. -/
  | address (addr : DevAddr)
  /-- The address of a join's session. -/
  | joined (number : Nat)
  deriving DecidableEq, Repr

/-- A data uplink to be built. -/
structure FrameDraft where
  /-- The session it belongs to. -/
  session : SessionName
  /-- The full counter. -/
  fcnt : UInt32
  /-- It asks for an acknowledgement. -/
  confirmed : Bool
  /-- The port. -/
  port : Option UInt8
  /-- The payload in the clear. -/
  payload : Bytes
  /-- The flags. -/
  control : FrameControl
  /-- The options, announced by their length. -/
  options : Option Bytes
  /-- Another address than the session's. -/
  devAddr : Option AddressName
  /-- Another network key than the session's. -/
  networkKey : Option AesKey

/-- A frame to be sent. -/
inductive FrameSource where
  /-- Given bytes. -/
  | bytes (payload : Bytes)
  /-- A join request. -/
  | join (appKey : AesKey) (joinEui devEui : Eui64) (devNonce : UInt16)
  /-- A data uplink. -/
  | data (draft : FrameDraft)

/-- An uplink to be sent. -/
structure UplinkDraft where
  /-- Its frame. -/
  source : FrameSource
  /-- What the radio reports. -/
  metadata : RadioMetadata
  /-- How long ago it came off the air, in milliseconds. -/
  age : Int

/-- A setting of the collaborators. -/
inductive Switch where
  /-- How long requests take. -/
  | delay (kind : RequestKind) (plan : DelayPlan)
  /-- Which requests fail. -/
  | failure (kind : RequestKind) (plan : FailurePlan)
  /-- How downlink counters are allocated. -/
  | allocation (mode : AllocationMode)

/-- One step of a scenario. -/
inductive ScenarioStep where
  /-- Stores a session. -/
  | insert (record : SessionRecord)
  /-- Tells the scenario of a session that is not stored. -/
  | know (eui : Eui64) (addr : DevAddr) (keys : SessionKeys)
  /-- Removes a session from the store. -/
  | remove (eui : Eui64)
  /-- Stores what a join needs. -/
  | joinInfo (eui : Eui64) (info : JoinInfo)
  /-- Fixes the answer about an address. -/
  | candidates (addr : DevAddr) (devices : List DeviceCandidate)
  /-- Sets delays, failures and the allocation of counters. -/
  | set (switches : List Switch)
  /-- Adds a message to a queue; it is made at the instant of the step. -/
  | push (eui : Eui64) (message : Instant → CloudMessage)
  /-- Looks at a queue. -/
  | queue (eui : Eui64)
  /-- Looks at a stored session. -/
  | stored (eui : Eui64)
  /-- Lets time pass, in milliseconds. -/
  | advance (ms : Nat)
  /-- Sends an uplink. -/
  | uplink (draft : UplinkDraft)
  /-- Sends uplinks at the same time. -/
  | submit (drafts : List UplinkDraft)
  /-- Looks up a session in memory, which prolongs its life. -/
  | session (eui : Eui64)
  /-- Looks at the devices cached under an address. -/
  | resolve (addr : AddressName)
  /-- Forgets a device. -/
  | invalidate (eui : Eui64)
  /-- Forgets an address. -/
  | invalidateAddress (addr : AddressName)
  /-- Finds the device that signed a frame. -/
  | resolveFrame (draft : UplinkDraft)
  /-- Installs a session as a join does. -/
  | install (record : SessionRecord)
  /-- Makes a device that the registry does not know. -/
  | device (record : SessionRecord)
  /-- Handles an uplink on a device made before. -/
  | handle (eui : Eui64) (draft : UplinkDraft)

/-- What a downlink contains, as far as it can be told. -/
inductive DownlinkContent where
  /-- The frame as sent. -/
  | frame (payload : Bytes)
  /-- A data frame for the session of a join, with its payload in the clear and whether its code
  verifies. -/
  | joinedData (frame : DataFrame) (plaintext : Bytes) (verifies : Bool)
  /-- A join accept, whether the keys derived from it are those of the newest join, and its size. -/
  | accept (accept : JoinAccept) (keysMatch : Bool) (size : Nat)

/-- The end of an uplink as a scenario reports it. -/
abbrev OutcomeReport : Type := Except UplinkFailure (Option (Downlink × DownlinkContent))

/-- What a step shows. -/
inductive StepResult where
  /-- Nothing. -/
  | nothing
  /-- The session was stored before it was removed. -/
  | removed (wasStored : Bool)
  /-- The messages that wait. -/
  | messages (ids : List String)
  /-- A stored session. -/
  | record (record : Option SessionRecord)
  /-- The end of an uplink, and the devices cached under its address. -/
  | uplink (outcome : OutcomeReport) (devices : Option (List Session))
  /-- The ends of uplinks, and the number of loaders that still run. -/
  | submitted (outcomes : List OutcomeReport) (loaders : Nat)
  /-- A session in memory. -/
  | session (session : Option Session)
  /-- The devices cached under an address. -/
  | devices (euis : Option (List Eui64))
  /-- The bytes are no data frame. -/
  | refused (error : FrameError)
  /-- The device that signed a frame. -/
  | resolved (resolution : Except FailureReason Eui64)
  /-- The end of an uplink, and the session it was handled on. -/
  | handled (outcome : OutcomeReport) (session : Session)

/-- A scenario under way. -/
structure Scenario where
  /-- The configuration and the cipher suite of the server. -/
  net : Network
  /-- The server and its collaborators. -/
  machine : Machine
  /-- The sessions that can be named. -/
  known : Table Eui64 (DevAddr × SessionKeys) := {}
  /-- The devices that the registry does not know. -/
  devices : Table Eui64 SlotId := {}

namespace Scenario

/-! ## Names and frames -/

/-- The session of a join. -/
def joinOf (s : Scenario) (number : Nat) : Option (DevAddr × SessionKeys) :=
  if number = 0 then none else s.machine.backend.joins[number - 1]?

/-- The address and the keys of a session. -/
def lookUp (s : Scenario) : SessionName → Option (DevAddr × SessionKeys)
  | .device eui => s.known.get? eui
  | .joined number => s.joinOf number

/-- The address that is named. -/
def addressOf (s : Scenario) : AddressName → Option DevAddr
  | .address addr => some addr
  | .joined number => (s.joinOf number).map Prod.fst

/-- The header of a frame that is described. -/
def headerOf (draft : FrameDraft) (addr : DevAddr) : Except FrameError FrameHeader :=
  let header : FrameHeader :=
    { devAddr := addr, control := draft.control, counter := draft.fcnt.toUInt16 }
  match draft.options with
  | none => .ok header
  | some options => header.withOptions options

/-- The type of an uplink. -/
def uplinkType (confirmed : Bool) : MessageType :=
  if confirmed then .confirmedDataUp else .unconfirmedDataUp

/-- The bytes of a data uplink that is described; none if it cannot be built. -/
def dataBytes (s : Scenario) (draft : FrameDraft) : Option Bytes := do
  let (addr, keys) ← s.lookUp draft.session
  let addr ←
    match draft.devAddr with
    | none => some addr
    | some name => s.addressOf name
  let header ← (headerOf draft addr).toOption
  let keys := { keys with network := draft.networkKey.getD keys.network }
  (DataFrame.build s.net.suite (uplinkType draft.confirmed) header draft.port draft.payload keys
    draft.fcnt).toOption

/-- The bytes of a frame. -/
def bytesOf (s : Scenario) : FrameSource → Option Bytes
  | .bytes payload => some payload
  | .join appKey joinEui devEui devNonce =>
    some (JoinRequest.build s.net.suite appKey joinEui devEui devNonce)
  | .data draft => s.dataBytes draft

/-- The uplink that is described. -/
def uplinkOf (s : Scenario) (draft : UplinkDraft) : Option RadioUplink :=
  (s.bytesOf draft.source).map fun payload =>
    ⟨payload, s.machine.now - 1000000 * draft.age, draft.metadata⟩

/-! ## Looking at the server -/

/-- The session in a slot. -/
def sessionIn (s : Scenario) (slot : SlotId) : Option Session :=
  s.machine.memory.slots[slot]?.map fun place => place.device.session

/-- The devices cached under an address. -/
def cached (s : Scenario) (addr : DevAddr) : Option (List DeviceHandle) :=
  s.machine.memory.addressEntry s.net.config s.machine.now addr

/-- The devices cached under the address of an uplink. -/
def cachedFor (s : Scenario) (payload : Bytes) : Option (List Session) :=
  match UplinkFrame.parse payload with
  | .ok (.data frame) =>
    (s.cached frame.devAddr).map fun handles =>
      handles.filterMap fun handle => s.sessionIn handle.slot
  | _ => none

/-- What the accept for a join request contains. -/
def acceptContent (s : Scenario) (request : JoinRequest) (payload : Bytes) :
    Option DownlinkContent := do
  let info ← s.machine.backend.joinInfos.get? request.devEui
  let accept ← (JoinAccept.decode s.net.suite info.appKey payload).toOption
  let derived := s.net.suite.deriveKeys info.appKey accept.nonce accept.netId request.devNonce
  let newest := s.machine.backend.joins.getLast?.map Prod.snd
  return .accept accept (newest = some derived) payload.length

/-- What a data frame for the session of a join contains. -/
def joinedContent (s : Scenario) (downlink : Downlink) : Option DownlinkContent := do
  let frame ← (DataFrame.parse downlink.payload).toOption
  let keys ← s.machine.backend.joins.lookup frame.devAddr
  let counter ← downlink.fcntDown
  return .joinedData frame (frame.plaintext s.net.suite keys counter)
    (frame.verifies s.net.suite keys.network counter)

/-- What a downlink contains that answers an uplink. -/
def contentOf (s : Scenario) (uplink : Bytes) (downlink : Downlink) : DownlinkContent :=
  let told :=
    match UplinkFrame.parse uplink with
    | .ok (.join request) => s.acceptContent request downlink.payload
    | _ => s.joinedContent downlink
  told.getD (.frame downlink.payload)

/-- The report of how an activity ended that handled an uplink. -/
def report (s : Scenario) (uplink : Bytes) : Option Verdict → Option OutcomeReport
  | some (.outcome (.ok downlink)) =>
    some (.ok (downlink.map fun d => (d, s.contentOf uplink d)))
  | some (.outcome (.error failure)) => some (.error failure)
  | _ => none

/-! ## Steps -/

/-- The scenario with a change to the collaborators. -/
def changeBackend (s : Scenario) (f : Backend → Backend) : Scenario :=
  { s with machine := { s.machine with backend := f s.machine.backend } }

/-- The scenario in which a device can be named. -/
def name (s : Scenario) (eui : Eui64) (addr : DevAddr) (keys : SessionKeys) : Scenario :=
  { s with known := s.known.set eui (addr, keys) }

/-- The scenario in which the device of a record can be named. -/
def nameRecord (s : Scenario) (record : SessionRecord) : Scenario :=
  s.name record.devEui record.devAddr record.keys

/-- Sets one switch. -/
def setSwitch (b : Backend) : Switch → Backend
  | .delay kind plan => { b with delays := b.delays.set kind plan }
  | .failure kind plan => { b with failures := b.failures.set kind plan }
  | .allocation mode => { b with allocation := mode }

/-- Runs an activity. -/
def run (s : Scenario) (activity : Activity) : Option Verdict × Scenario :=
  let ran := s.machine.run s.net activity
  (ran.1, { s with machine := ran.2 })

/-- Sends an uplink. -/
def send (s : Scenario) (draft : UplinkDraft) : Option (StepResult × Scenario) := do
  let uplink ← s.uplinkOf draft
  let (verdict, s) := s.run (.dispatch uplink)
  let outcome ← s.report uplink.payload verdict
  return (.uplink outcome (s.cachedFor uplink.payload), s)

/-- Sends uplinks at the same time. -/
def sendAll (s : Scenario) (drafts : List UplinkDraft) : Option (StepResult × Scenario) := do
  let uplinks ← drafts.mapM s.uplinkOf
  let (verdicts, machine) := s.machine.runAll s.net (uplinks.map Activity.dispatch)
  let s := { s with machine := machine }
  let outcomes ← (uplinks.zip verdicts).mapM fun pair => s.report pair.1.payload pair.2
  return (.submitted outcomes s.machine.memory.loaders.entries.length, s)

/-- Looks up a session in memory. -/
def look (s : Scenario) (eui : Eui64) : StepResult × Scenario :=
  let (handle, memory) := s.machine.memory.readIndex s.net.config s.machine.now eui
  (.session (handle.bind fun h => s.sessionIn h.slot),
    { s with machine := { s.machine with memory := memory } })

/-- Finds the device that signed a frame. -/
def findDevice (s : Scenario) (draft : UplinkDraft) : Option (StepResult × Scenario) := do
  let uplink ← s.uplinkOf draft
  match DataFrame.parse uplink.payload with
  | .error e => return (.refused e, s)
  | .ok frame =>
    match s.run (.resolve frame) with
    | (some (.resolved resolution), s) =>
      return (.resolved (resolution.map fun handle => handle.card.devEui), s)
    | _ => none

/-- Installs a session as a join does. -/
def install (s : Scenario) (record : SessionRecord) : Option (StepResult × Scenario) :=
  match (s.nameRecord record).run (.install record) with
  | (some (.resolved (.ok handle)), s) => some (.session (s.sessionIn handle.slot), s)
  | _ => none

/-- Makes a device that the registry does not know. -/
def makeDevice (s : Scenario) (record : SessionRecord) : Scenario :=
  let s := s.nameRecord record
  let memory := s.machine.memory
  let slot : Slot := { device := Device.ofSession (Session.ofRecord s.net.config record) }
  { s with
    machine := { s.machine with memory := { memory with slots := memory.slots ++ [slot] } }
    devices := s.devices.set record.devEui memory.slots.length }

/-- Handles an uplink on a device made before. -/
def handleOn (s : Scenario) (eui : Eui64) (draft : UplinkDraft) :
    Option (StepResult × Scenario) := do
  let slot ← s.devices.get? eui
  let uplink ← s.uplinkOf draft
  match DataFrame.parse uplink.payload with
  | .error e => return (.refused e, s)
  | .ok frame =>
    let (verdict, s) := s.run (.handle slot ⟨frame, uplink.metadata, uplink.arrival⟩)
    let outcome ← s.report uplink.payload verdict
    let session ← s.sessionIn slot
    return (.handled outcome session, s)

/-- Takes a step: what it shows and the scenario after it. A step that names what does not exist
cannot be taken. -/
def step (s : Scenario) : ScenarioStep → Option (StepResult × Scenario)
  | .insert record =>
    some (.nothing, (s.nameRecord record).changeBackend fun b =>
      { b with sessions := b.sessions.set record.devEui record })
  | .know eui addr keys => some (.nothing, s.name eui addr keys)
  | .remove eui =>
    some (.removed (s.machine.backend.sessions.get? eui).isSome, s.changeBackend fun b =>
      { b with sessions := b.sessions.erase eui })
  | .joinInfo eui info =>
    some (.nothing, s.changeBackend fun b => { b with joinInfos := b.joinInfos.set eui info })
  | .candidates addr devices =>
    some (.nothing, s.changeBackend fun b =>
      { b with candidates := b.candidates.set addr devices })
  | .set switches => some (.nothing, s.changeBackend fun b => switches.foldl setSwitch b)
  | .push eui message =>
    some (.nothing, s.changeBackend fun b =>
      { b with queues := b.queues.set eui (b.queueOf eui ++ [message s.machine.now]) })
  | .queue eui => some (.messages ((s.machine.backend.queueOf eui).map CloudMessage.id), s)
  | .stored eui => some (.record (s.machine.backend.sessions.get? eui), s)
  | .advance ms =>
    some (.nothing, { s with machine := s.machine.elapse s.net (Duration.ofMillis ms) })
  | .uplink draft => s.send draft
  | .submit drafts => s.sendAll drafts
  | .session eui => some (s.look eui)
  | .resolve addr =>
    (s.addressOf addr).map fun addr =>
      (.devices ((s.cached addr).map fun handles => handles.map fun h => h.card.devEui), s)
  | .invalidate eui => some (.nothing, (s.run (.forgetDevice eui)).2)
  | .invalidateAddress addr =>
    (s.addressOf addr).map fun addr => (.nothing, (s.run (.forgetAddress addr)).2)
  | .resolveFrame draft => s.findDevice draft
  | .install record => s.install record
  | .device record => some (.nothing, s.makeDevice record)
  | .handle eui draft => s.handleOn eui draft

/-- What a step shows, and the requests that were made during it. -/
structure StepReport where
  /-- The step was one of sending uplinks at the same time. -/
  concurrent : Bool
  /-- What the step shows. -/
  result : StepResult
  /-- The requests, first one first. -/
  requests : List Request

/-- Sending uplinks at the same time leaves open in which order requests about different subjects
are made. -/
def isConcurrent : ScenarioStep → Bool
  | .submit _ => true
  | _ => false

/-- Takes steps one after the other. -/
def play (s : Scenario) : List ScenarioStep → Option (List StepReport × Scenario)
  | [] => some ([], s)
  | first :: rest => do
    let (result, next) ← s.step first
    let requests := next.machine.backend.log.drop s.machine.backend.log.length
    let (reports, last) ← play next rest
    return (⟨isConcurrent first, result, requests⟩ :: reports, last)

end Scenario

end LoraNetwork
