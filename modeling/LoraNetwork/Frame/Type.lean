/-!
# Message types and directions

The first byte of a frame holds its type in the top three bits and the major version in the low two;
the bits between are reserved.
-/

namespace LoraNetwork

/-- Who sends a frame. -/
inductive Direction where
  /-- From a device to the network. -/
  | up
  /-- From the network to a device. -/
  | down
  deriving DecidableEq, Repr

/-- The byte that stands for a direction in cipher blocks. -/
def Direction.byte : Direction → UInt8
  | up => 0
  | down => 1

/-- The eight types of frame. -/
inductive MessageType where
  /-- A device asks to join. -/
  | joinRequest
  /-- The network accepts a join. -/
  | joinAccept
  /-- Data from a device that wants no acknowledgement. -/
  | unconfirmedDataUp
  /-- Data to a device that needs no acknowledgement. -/
  | unconfirmedDataDown
  /-- Data from a device that wants an acknowledgement. -/
  | confirmedDataUp
  /-- Data to a device that needs an acknowledgement. -/
  | confirmedDataDown
  /-- A device asks to join again. -/
  | rejoinRequest
  /-- Anything outside the standard. -/
  | proprietary
  deriving DecidableEq, Repr

namespace MessageType

/-- The type bits, at their place in the first byte. -/
def byte : MessageType → UInt8
  | joinRequest => 0x00
  | joinAccept => 0x20
  | unconfirmedDataUp => 0x40
  | unconfirmedDataDown => 0x60
  | confirmedDataUp => 0x80
  | confirmedDataDown => 0xA0
  | rejoinRequest => 0xC0
  | proprietary => 0xE0

/-- The type bits of a first byte. -/
def bits (first : UInt8) : UInt8 := first &&& 0xE0

/-- The type a first byte announces. -/
def ofFirstByte (first : UInt8) : MessageType :=
  if bits first = 0x00 then joinRequest
  else if bits first = 0x20 then joinAccept
  else if bits first = 0x40 then unconfirmedDataUp
  else if bits first = 0x60 then unconfirmedDataDown
  else if bits first = 0x80 then confirmedDataUp
  else if bits first = 0xA0 then confirmedDataDown
  else if bits first = 0xC0 then rejoinRequest
  else proprietary

/-- The major version in a first byte; zero is the only one in use. -/
def majorOf (first : UInt8) : UInt8 := first &&& 0x03

/-- Who sends frames of the type. -/
def direction : MessageType → Direction
  | unconfirmedDataDown | confirmedDataDown | joinAccept => .down
  | _ => .up

/-- Whether frames of the type ask for an acknowledgement. -/
def isConfirmed : MessageType → Bool
  | confirmedDataUp | confirmedDataDown => true
  | _ => false

/-- Whether frames of the type carry data. -/
def isData : MessageType → Bool
  | unconfirmedDataUp | unconfirmedDataDown | confirmedDataUp | confirmedDataDown => true
  | _ => false

/-- The type bits announce the type they were made from. -/
theorem ofFirstByte_byte (t : MessageType) : ofFirstByte t.byte = t := by cases t <;> rfl

end MessageType

end LoraNetwork
