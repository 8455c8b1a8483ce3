import LoraNetwork.Frame.Error
import LoraNetwork.Identifier

/-!
# Frame headers

The header of a data frame: address, flags, the low half of the counter and up to fifteen bytes of
options. The bound on the options is part of the type. The announced length of the options is a
field of its own, because a header can be written whose flags announce another length; headers that
announce the right one are `FrameHeader.Announced`.
-/

namespace LoraNetwork

/-- The flags of a data frame. -/
structure FrameControl where
  /-- The sender takes part in adaptive data rate. -/
  adr : Bool := false
  /-- The device asks the network for a sign of life. -/
  adrAckReq : Bool := false
  /-- The last confirmed frame is acknowledged. -/
  ack : Bool := false
  /-- More downlinks are waiting. -/
  fPending : Bool := false
  /-- The announced length of the options. -/
  optionsLength : UInt8 := 0
  deriving DecidableEq, Repr

namespace FrameControl

/-- One bit of the control byte. -/
def flag (set : Bool) (bit : UInt8) : UInt8 := if set then bit else 0

/-- The control byte; a length wider than four bits is cut. -/
def byte (c : FrameControl) : UInt8 :=
  (c.optionsLength &&& 0x0F) ||| flag c.adr 0x80 ||| flag c.adrAckReq 0x40 ||| flag c.ack 0x20 |||
    flag c.fPending 0x10

/-- The flags of a control byte. -/
def ofByte (b : UInt8) : FrameControl where
  adr := b &&& 0x80 ≠ 0
  adrAckReq := b &&& 0x40 ≠ 0
  ack := b &&& 0x20 ≠ 0
  fPending := b &&& 0x10 ≠ 0
  optionsLength := b &&& 0x0F

end FrameControl

/-- The most bytes of options a header can hold. -/
def maxOptions : Nat := 15

/-- The header of a data frame. -/
structure FrameHeader where
  /-- The address of the device. -/
  devAddr : DevAddr
  /-- The flags. -/
  control : FrameControl
  /-- The low half of the frame counter. -/
  counter : UInt16
  /-- The options: MAC commands in the clear. -/
  options : Bytes := []
  /-- The options fit their four-bit length. -/
  options_le : options.length ≤ maxOptions := by exact Nat.zero_le maxOptions
  deriving DecidableEq, Repr

namespace FrameHeader

/-- The size of a header without options. -/
def minSize : Nat := 7

/-- The flags announce the length that the options have. -/
def Announced (h : FrameHeader) : Prop := h.control.optionsLength.toNat = h.options.length

/-- The header with other options, announcing their length. -/
def withOptions (h : FrameHeader) (options : Bytes) : Except FrameError FrameHeader :=
  if fits : options.length ≤ maxOptions then
    .ok
      { devAddr := h.devAddr
        control := { h.control with optionsLength := UInt8.ofNat options.length }
        counter := h.counter
        options := options
        options_le := fits }
  else .error .bufferTooSmall

/-- The bytes of the header. -/
def bytes (h : FrameHeader) : Bytes :=
  h.devAddr.wire ++ h.control.byte :: Bytes.littleEndian 2 h.counter.toNat ++ h.options

end FrameHeader

end LoraNetwork
