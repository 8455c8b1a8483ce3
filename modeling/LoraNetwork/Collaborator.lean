import LoraNetwork.MacCommand.Basic
import LoraNetwork.Session.Record

/-!
# Collaborators

A server owns neither the device store nor the queue of cloud messages nor the sink of telemetry. It
asks them, and this module is the list of what it asks: one constructor per request, and for each
the type of its answer. Every request may fail.
-/

namespace LoraNetwork

/-- How a collaborator failed. -/
inductive StoreError where
  /-- It did not answer in time. -/
  | timeout
  /-- It could not be reached or failed inside. -/
  | unavailable (detail : String)
  /-- It refused the request. -/
  | refused (detail : String)
  deriving DecidableEq, Repr

/-- The wording of a collaborator's failure. -/
def StoreError.message : StoreError → String
  | timeout => "backend call timed out"
  | unavailable detail => "backend unavailable: " ++ detail
  | refused detail => "backend rejected the request: " ++ detail

/-- A device registered under an address. -/
structure DeviceCandidate where
  /-- The address. -/
  devAddr : DevAddr
  /-- The device. -/
  devEui : Eui64
  deriving DecidableEq, Repr

/-- What is needed to accept a join. -/
structure JoinInfo where
  /-- The key of the device. -/
  appKey : AesKey
  /-- The join server that the device must name. -/
  joinEui : Eui64
  /-- The application it belongs to. -/
  applicationId : Option String := none
  /-- The gateway it belongs to; none if several gateways share it. -/
  gatewayId : Option String := none
  /-- The region, if it is not the server's. -/
  region : Option Region := none
  /-- How the device listens. -/
  listening : ListeningProfile := {}
  /-- The device counts in thirty-two bits. -/
  wideCounter : Bool := false
  /-- Cloud messages may be sent to the device. -/
  downlinkEnabled : Bool := true
  /-- How long its session stays in memory unused, in milliseconds, if not the server's time. -/
  keepAlive : Option Nat := none
  /-- The nonce of the last accepted join. -/
  lastDevNonce : Option UInt16 := none
  deriving DecidableEq, Repr

/-- A message from the cloud that waits for a downlink. -/
structure CloudMessage where
  /-- The name it is settled by. -/
  id : String
  /-- The port. -/
  port : UInt8
  /-- The payload. -/
  payload : Bytes
  /-- The device has to acknowledge it. -/
  confirmed : Bool
  /-- MAC commands that the application asks for. -/
  commands : List MacCommand
  /-- From this instant on it must not be delivered. -/
  expiresAt : Option Instant
  deriving DecidableEq, Repr

namespace CloudMessage

/-- The room it takes in a frame. -/
def size (m : CloudMessage) : Nat := m.payload.length + MacCommand.totalSize m.commands

/-- The first port that applications may not use. -/
def reservedPortStart : UInt8 := 224

/-- It names a port that an application may not use: port 0 with a payload, or one reserved. -/
def usesReservedPort (m : CloudMessage) : Bool :=
  (m.port = 0 && !m.payload.isEmpty) || reservedPortStart ≤ m.port

end CloudMessage

/-- What becomes of a message that was received. -/
inductive Settlement where
  /-- It was sent. -/
  | complete
  /-- It was not sent and waits again. -/
  | abandon
  /-- It can never be sent. -/
  | reject
  deriving DecidableEq, Repr

/-- What a server forwards of an uplink. -/
structure Telemetry where
  /-- The device. -/
  devEui : Eui64
  /-- Its address. -/
  devAddr : DevAddr
  /-- The full counter. -/
  fcnt : UInt32
  /-- The port. -/
  port : UInt8
  /-- The payload in the clear. -/
  payload : Bytes
  /-- The uplink asked for an acknowledgement. -/
  confirmed : Bool
  /-- What the radio reported. -/
  metadata : RadioMetadata

/-- A request to a collaborator. -/
inductive Request where
  /-- The session of a device. -/
  | fetchSession (eui : Eui64)
  /-- The devices registered under an address. -/
  | fetchCandidates (addr : DevAddr)
  /-- Writes changes of a session. -/
  | persist (eui : Eui64) (delta : SessionDelta)
  /-- Allocates the downlink counter of a shared device for the answer to one uplink. -/
  | allocate (eui : Eui64) (current fcntUp : UInt32) (gateway : String)
  /-- Drops what is cached for the allocation of counters, after a restart. -/
  | resetAllocation (eui : Eui64) (generation : Option UInt32) (gateway : String)
  /-- What is needed to accept a join. -/
  | fetchJoinInfo (eui : Eui64)
  /-- The next cloud message, waiting at most so long. -/
  | receive (eui : Eui64) (wait : Duration)
  /-- Settles a message that was received. -/
  | settle (how : Settlement) (eui : Eui64) (message : CloudMessage)
  /-- Forwards telemetry. -/
  | sendTelemetry (telemetry : Telemetry)

namespace Request

/-- What a request asks for. -/
abbrev Result : Request → Type
  | fetchSession _ => Option SessionRecord
  | fetchCandidates _ => List DeviceCandidate
  | persist .. => Unit
  | allocate .. => Option UInt32
  | resetAllocation .. => Unit
  | fetchJoinInfo _ => Option JoinInfo
  | receive .. => Option CloudMessage
  | settle .. => Unit
  | sendTelemetry _ => Unit

/-- What a request is answered with. -/
abbrev Answer (r : Request) : Type := Except StoreError r.Result

end Request

end LoraNetwork
