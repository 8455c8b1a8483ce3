/-!
# Failures of uplinks

Why an uplink was refused and how far it had come. Each reason has a code for reports and a text.
-/

namespace LoraNetwork

/-- Why an uplink failed. -/
inductive FailureReason where
  /-- The integrity code does not verify under the key of the session or the join. -/
  | authenticationFailed
  /-- The counter is a replay, out of range or no valid restart. -/
  | invalidFrameCounter
  /-- No device under the address signed the frame. -/
  | notMatchingDeviceByAddress
  /-- The device belongs to another gateway. -/
  | belongsToAnotherGateway
  /-- The address belongs to another network. -/
  | invalidNetworkId
  /-- Both windows are out of reach. -/
  | receiveWindowMissed
  /-- The confirmed uplink was repeated too often. -/
  | resubmitThresholdExceeded
  /-- A collaborator failed that the uplink depended on. -/
  | backendUnavailable
  /-- The bytes are no frame, or there is no way to answer it. -/
  | invalidFrame
  /-- The MAC commands could not be read. -/
  | malformedMacCommands
  /-- A join of a device that nobody knows. -/
  | unknownDevice
  /-- A join that repeats its nonce. -/
  | devNonceReused
  /-- Another gateway answers the uplink. -/
  | handledByAnotherGateway
  deriving DecidableEq, Repr

namespace FailureReason

/-- Every reason. -/
def all : List FailureReason :=
  [authenticationFailed, invalidFrameCounter, notMatchingDeviceByAddress, belongsToAnotherGateway,
    invalidNetworkId, receiveWindowMissed, resubmitThresholdExceeded, backendUnavailable,
    invalidFrame, malformedMacCommands, unknownDevice, devNonceReused, handledByAnotherGateway]

/-- The code of a reason in reports. -/
def code : FailureReason → String
  | authenticationFailed => "authentication-failed"
  | invalidFrameCounter => "invalid-frame-counter"
  | notMatchingDeviceByAddress => "not-matching-device-by-address"
  | belongsToAnotherGateway => "belongs-to-another-gateway"
  | invalidNetworkId => "invalid-network-id"
  | receiveWindowMissed => "receive-window-missed"
  | resubmitThresholdExceeded => "confirmation-resubmit-threshold-exceeded"
  | backendUnavailable => "backend-unavailable"
  | invalidFrame => "invalid-frame"
  | malformedMacCommands => "malformed-mac-commands"
  | unknownDevice => "unknown-device"
  | devNonceReused => "join-dev-nonce-reused"
  | handledByAnotherGateway => "handled-by-another-gateway"

/-- The text of a reason. -/
def message : FailureReason → String
  | authenticationFailed => "MIC check failed"
  | invalidFrameCounter => "invalid frame counter"
  | notMatchingDeviceByAddress => "no matching device by address"
  | belongsToAnotherGateway => "device belongs to another gateway"
  | invalidNetworkId => "invalid network id"
  | receiveWindowMissed => "receive window missed"
  | resubmitThresholdExceeded => "resubmit threshold exceeded"
  | backendUnavailable => "backend unavailable"
  | invalidFrame => "invalid frame"
  | malformedMacCommands => "malformed MAC commands"
  | unknownDevice => "unknown device"
  | devNonceReused => "join DevNonce already used"
  | handledByAnotherGateway => "handled by another gateway"

end FailureReason

/-- How far an uplink has come. -/
inductive UplinkStage where
  /-- No session is bound to it yet. -/
  | unloaded
  /-- Its sender and form are checked. -/
  | authenticating
  /-- Its counter is checked. -/
  | counterCheck
  /-- It is being answered. -/
  | processing
  /-- It was answered. -/
  | committed
  /-- It was refused. -/
  | rejected
  deriving DecidableEq, Repr

/-- The name of a stage in reports. -/
def UplinkStage.name : UplinkStage → String
  | unloaded => "Unloaded"
  | authenticating => "Authenticating"
  | counterCheck => "FrameCounterCheck"
  | processing => "Processing"
  | committed => "Committed"
  | rejected => "Rejected"

/-- A refused uplink. -/
structure UplinkFailure where
  /-- Why it was refused. -/
  reason : FailureReason
  /-- The stage it was refused in. -/
  stage : UplinkStage
  deriving DecidableEq, Repr

/-- The text of a failure. -/
def UplinkFailure.message (f : UplinkFailure) : String :=
  f.reason.message ++ " (" ++ f.stage.name ++ ")"

/-- A failure before any session was involved. -/
def UplinkFailure.early (reason : FailureReason) : UplinkFailure := ⟨reason, .unloaded⟩

end LoraNetwork
