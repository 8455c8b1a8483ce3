import LoraNetwork.Collaborator
import LoraNetwork.Frame.Data
import LoraNetwork.MacCommand.Wire

/-!
# Assembling a downlink

The content of one data downlink within its size limit. MAC commands are placed first, each whole or
not at all; a cloud message is carried whole or not at all. Commands of the network travel in the
options, or on port 0 when the device sent its own there; commands of a cloud message always travel
in the options.
-/

namespace LoraNetwork

/-- How a cloud message relates to the frame that is being assembled. -/
inductive CloudFit where
  /-- It is carried. -/
  | fits
  /-- It is too large for the frame. -/
  | tooLarge
  /-- It names a port that an application may not use. -/
  | reservedPort
  /-- Port 0 already carries MAC commands. -/
  | blocked
  deriving DecidableEq, Repr

/-- The content of a downlink so far. -/
structure DownlinkBuilder where
  /-- The room after header and port. -/
  available : Nat
  /-- Commands travel on port 0 instead of in the options. -/
  onPortZero : Bool
  /-- The commands, in order. -/
  commands : List MacCommand
  /-- The cloud message. -/
  cloud : Option CloudMessage
  /-- The uplink is acknowledged. -/
  ack : Bool
  /-- The network controls the data rate. -/
  adr : Bool
  /-- More downlinks are waiting. -/
  fPending : Bool
  deriving DecidableEq, Repr

namespace DownlinkBuilder

/-- What header and port take of the size limit. -/
def overhead : Nat := FrameHeader.minSize + 1

/-- An empty downlink within a size limit. -/
def new (maxPayload : Nat) (onPortZero ack adr : Bool) : DownlinkBuilder where
  available := maxPayload - overhead
  onPortZero := onPortZero
  commands := []
  cloud := none
  ack := ack
  adr := adr
  fPending := false

/-- The room that is taken. -/
def used (b : DownlinkBuilder) : Nat :=
  MacCommand.totalSize b.commands + (b.cloud.map CloudMessage.size).getD 0

/-- The size of the commands of the cloud message. -/
def cloudCommandSize (b : DownlinkBuilder) : Nat :=
  (b.cloud.map fun m => MacCommand.totalSize m.commands).getD 0

/-- The size of the options. -/
def optionsUsed (b : DownlinkBuilder) : Nat :=
  if b.onPortZero then b.cloudCommandSize
  else MacCommand.totalSize b.commands + b.cloudCommandSize

/-- There is room for a command, in the frame and where commands travel. -/
def hasRoomFor (b : DownlinkBuilder) (c : MacCommand) : Bool :=
  b.used + c.size ≤ b.available && (b.onPortZero || b.optionsUsed + c.size ≤ maxOptions)

/-- Adds a command, or drops it if there is no room. -/
def add (b : DownlinkBuilder) (c : MacCommand) : DownlinkBuilder :=
  if b.hasRoomFor c then { b with commands := b.commands ++ [c] } else b

/-- Adds commands one after the other. -/
def addAll (b : DownlinkBuilder) (commands : List MacCommand) : DownlinkBuilder :=
  commands.foldl add b

/-- Port 0 carries commands. -/
def portZeroTaken (b : DownlinkBuilder) : Bool := b.onPortZero && !b.commands.isEmpty

/-- How a cloud message would fit. -/
def fit (b : DownlinkBuilder) (m : CloudMessage) : CloudFit :=
  if m.usesReservedPort then .reservedPort
  else if b.portZeroTaken then .blocked
  else if b.available < b.used + m.size ∨
      maxOptions < b.optionsUsed + MacCommand.totalSize m.commands then .tooLarge
  else .fits

/-- Takes a cloud message if it fits. -/
def offer (b : DownlinkBuilder) (m : CloudMessage) : DownlinkBuilder :=
  if b.fit m = .fits then { b with cloud := some m } else b

/-- Announces that more downlinks are waiting, or not. -/
def setPending (b : DownlinkBuilder) (pending : Bool) : DownlinkBuilder :=
  { b with fPending := pending }

/-- Nothing but an acknowledgement would be sent. -/
def isEmpty (b : DownlinkBuilder) : Bool := b.commands.isEmpty && b.cloud.isNone

/-- The frame is a confirmed one exactly when the cloud message it carries is. -/
def messageType (b : DownlinkBuilder) : MessageType :=
  if (b.cloud.map CloudMessage.confirmed).getD false then .confirmedDataDown
  else .unconfirmedDataDown

/-- The options of the frame. -/
def options (b : DownlinkBuilder) : Bytes :=
  (if b.onPortZero then [] else MacCommand.encodeAll b.commands) ++
    (b.cloud.map fun m => MacCommand.encodeAll m.commands).getD []

/-- The port and the payload of the frame. -/
def content (b : DownlinkBuilder) : Option UInt8 × Bytes :=
  if b.portZeroTaken then (some 0, MacCommand.encodeAll b.commands)
  else
    match b.cloud with
    | none => (none, [])
    | some m => if m.payload.isEmpty then (none, []) else (some m.port, m.payload)

/-- Writes and signs the frame. -/
def build (suite : CipherSuite) (b : DownlinkBuilder) (addr : DevAddr) (keys : SessionKeys)
    (fcntDown : UInt32) : Except FrameError Bytes :=
  let header : FrameHeader :=
    { devAddr := addr
      control := { adr := b.adr, ack := b.ack, fPending := b.fPending }
      counter := fcntDown.toUInt16 }
  match header.withOptions b.options with
  | .error e => .error e
  | .ok header =>
    DataFrame.build suite b.messageType header b.content.1 b.content.2 keys fcntDown

end DownlinkBuilder

end LoraNetwork
