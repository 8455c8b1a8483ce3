import LoraNetwork.Frame.Join
import LoraNetwork.Uplink.Handling

/-!
# Handling a join request

A join creates a new session with new keys. The store has to hold it before the accept is handed
out; otherwise a restart of the server could leave a device with keys that the network forgot.
-/

namespace LoraNetwork

/-- A join request as received. -/
structure JoinUplink where
  /-- The request. -/
  request : JoinRequest
  /-- What the radio reported. -/
  metadata : RadioMetadata
  /-- When it came off the air. -/
  arrival : Instant

namespace JoinHandling

/-- The bits of an address below the part that names its network. -/
def addressMask : UInt32 := 0x01FFFFFF

/-- The address with given low bits in a network. -/
def addressIn (net : NetId) (bits : UInt32) : DevAddr :=
  ⟨(net.networkPart.toUInt32 <<< 25) ||| (bits &&& addressMask)⟩

/-- The record of the session that a join creates. -/
def newRecord (net : Network) (request : JoinRequest) (info : JoinInfo) (drawn : JoinDraw) :
    SessionRecord where
  devEui := request.devEui
  devAddr := addressIn net.config.netId drawn.address
  keys := net.suite.deriveKeys info.appKey drawn.nonce net.config.netId request.devNonce
  applicationId := info.applicationId
  gatewayId := info.gatewayId
  wideCounter := info.wideCounter
  listening := info.listening
  region := info.region
  downlinkEnabled := info.downlinkEnabled
  keepAlive := info.keepAlive
  devNonce := some request.devNonce

/-- The windows after a join request. -/
def timer (net : Network) (uplink : JoinUplink) (info : JoinInfo) : WindowTimer :=
  WindowTimer.ofJoin uplink.arrival (ReceiveTiming.ofDelay info.listening.rxDelay) net.config

/-- The accept that tells a device its new session. -/
def acceptFor (net : Network) (info : JoinInfo) (region : Region) (drawn : JoinDraw)
    (record : SessionRecord) : JoinAccept where
  nonce := drawn.nonce
  netId := net.config.netId
  devAddr := record.devAddr
  rx1Offset := info.listening.rx1Offset
  rx2DataRate := info.listening.rx2DataRate.getD region.rx2Default.2
  rxDelay := info.listening.rxDelay

/-- Answers a join whose session was stored and installed. -/
def respond (net : Network) (uplink : JoinUplink) (info : JoinInfo) (drawn : JoinDraw)
    (record : SessionRecord) : JoinHandling (Except UplinkFailure Downlink) := do
  let now ← clock
  let timer := timer net uplink info
  let region := record.region.getD net.config.defaultRegion
  match timer.choose info.listening.preferredWindow (timer.elapsed now) with
  | none => pure (.error ⟨.receiveWindowMissed, .processing⟩)
  | some window =>
    match WindowParams.ofWindow region window uplink.metadata info.listening.rx1Offset
        info.listening.rx2DataRate with
    | none => pure (.error ⟨.invalidFrame, .processing⟩)
    | some params =>
      let accept := acceptFor net info region drawn record
      pure (.ok (Downlink.inWindow (accept.encode net.suite info.appKey) timer window params
        uplink.metadata none))

/-- Creates the session of a join that was found in order. -/
def create (net : Network) (uplink : JoinUplink) (info : JoinInfo) :
    JoinHandling (Except UplinkFailure Downlink) := do
  let now ← clock
  let timer := timer net uplink info
  if (timer.choose info.listening.preferredWindow (timer.elapsed now)).isNone then
    pure (.error ⟨.receiveWindowMissed, .processing⟩)
  else
    let drawn ← draw
    let record := newRecord net uplink.request info drawn
    let written ← call (.persist uplink.request.devEui (SessionDelta.full record))
    match written with
    | .error _ => pure (.error ⟨.backendUnavailable, .processing⟩)
    | .ok () => do
      install record
      respond net uplink info drawn record

/-- Why a join is refused, given what is known of its device; `none` if it is in order. -/
def refusal (net : Network) (request : JoinRequest) (info : JoinInfo) : Option UplinkFailure :=
  if info.gatewayId.any fun owner => owner ≠ net.config.gatewayId then
    some ⟨.belongsToAnotherGateway, .authenticating⟩
  else if info.joinEui ≠ request.joinEui ∨ request.verifies net.suite info.appKey = false then
    some ⟨.authenticationFailed, .authenticating⟩
  else if info.lastDevNonce = some request.devNonce then some ⟨.devNonceReused, .counterCheck⟩
  else none

/-- Handles a join request. -/
def handle (net : Network) (uplink : JoinUplink) :
    JoinHandling (Except UplinkFailure Downlink) := do
  let answer ← call (.fetchJoinInfo uplink.request.devEui)
  match answer with
  | .error _ => pure (.error ⟨.backendUnavailable, .authenticating⟩)
  | .ok none => pure (.error ⟨.unknownDevice, .authenticating⟩)
  | .ok (some info) =>
    match refusal net uplink.request info with
    | some failure => pure (.error failure)
    | none => create net uplink info

end JoinHandling

end LoraNetwork
