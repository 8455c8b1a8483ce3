import LoraNetwork.Frame.Uplink
import LoraNetwork.Server.Resolution

/-!
# Dispatching uplinks

From the bytes of an uplink to its outcome: reading the frame, keeping out foreign networks, finding
the device and handling the uplink on it. Uplinks of one device wait for each other in line, so each
is handled from start to end before the next. Every failure is an outcome.
-/

namespace LoraNetwork

namespace Service

/-- Handles a data uplink on the device in a slot, once it is its turn. -/
def handleOn (net : Network) (slot : SlotId) (uplink : DataUplink) : Service UplinkOutcome := do
  memory (.lineUp slot)
  let device ← memory (.takeSlot slot)
  let result ← (DataHandling.handle net device uplink).expand (ofDataOperation slot)
  memory (.giveBack slot result.1)
  pure result.2

/-- The outcome says that the device belongs to another gateway. -/
def isForeign : UplinkOutcome → Bool
  | .error failure => failure.reason = .belongsToAnotherGateway
  | .ok _ => false

/-- Dispatches a data frame; `none` if it has to be tried again. A device that turns out to belong
to another gateway is forgotten. -/
def dispatchData (net : Network) (uplink : RadioUplink) (frame : DataFrame) :
    Service (Option UplinkOutcome) :=
  if net.config.accepts frame.devAddr = false then
    pure (some (.error (.early .invalidNetworkId)))
  else do
    let resolution ← resolve net frame
    match resolution with
    | none => pure none
    | some (.error reason) => pure (some (.error (.early reason)))
    | some (.ok handle) => do
      let outcome ← handleOn net handle.slot ⟨frame, uplink.metadata, uplink.arrival⟩
      if isForeign outcome then do
        ofUpkeep (Upkeep.forgetDevice handle.card.devEui)
        pure (some outcome)
      else pure (some outcome)

/-- Dispatches a join request. -/
def dispatchJoin (net : Network) (uplink : RadioUplink) (request : JoinRequest) :
    Service UplinkOutcome := do
  let result ←
    (JoinHandling.handle net ⟨request, uplink.metadata, uplink.arrival⟩).expand
      (ofJoinOperation net)
  pure (result.map some)

/-- Takes an uplink from the radio to its outcome; `none` if it has to be tried again. -/
def dispatch (net : Network) (uplink : RadioUplink) : Service (Option UplinkOutcome) :=
  match UplinkFrame.parse uplink.payload with
  | .error _ => pure (some (.error (.early .invalidFrame)))
  | .ok (.data frame) => dispatchData net uplink frame
  | .ok (.join request) => do
    let outcome ← dispatchJoin net uplink request
    pure (some outcome)

end Service

/-- The program of an activity. -/
def Activity.program (net : Network) : Activity → Service Verdict
  | dispatch uplink => do
    let outcome ← Service.dispatch net uplink
    pure (match outcome with
      | none => .again
      | some outcome => .outcome outcome)
  | resolve frame => do
    let resolution ← Service.resolve net frame
    pure (match resolution with
      | none => .again
      | some resolution => .resolved resolution)
  | handle slot uplink => do
    let outcome ← Service.handleOn net slot uplink
    pure (.outcome outcome)
  | loadAddress loader addr => do
    Service.loadAddress net loader addr
    pure .finished
  | loadCandidate loader place addr eui => do
    let load ← Service.loadCandidate net addr eui
    Service.memory (.deposit loader place load)
    pure .finished
  | install record => do
    let handle ← Service.ofUpkeep (Upkeep.install (Session.ofRecord net.config record))
    pure (.resolved (.ok handle))
  | forgetDevice eui => do
    Service.ofUpkeep (Upkeep.forgetDevice eui)
    pure .finished
  | forgetAddress addr => do
    Service.ofUpkeep (Upkeep.forgetAddress addr)
    pure .finished

end LoraNetwork
