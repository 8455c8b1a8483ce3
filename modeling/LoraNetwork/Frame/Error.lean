import LoraNetwork.Text.Hex

/-!
# Frame errors

Why bytes are not a frame, or a frame cannot be written as bytes.
-/

namespace LoraNetwork

/-- Why a frame could not be read or written. -/
inductive FrameError where
  /-- Fewer bytes than the smallest frame of its type, or another count than the fixed one. -/
  | tooShort (length : Nat)
  /-- A message type that is not expected here, as the type bits of its first byte. -/
  | unsupportedType (bits : UInt8)
  /-- A major version other than the first one. -/
  | unsupportedMajor (version : UInt8)
  /-- The options are announced longer than the frame. -/
  | invalidOptionsLength (length : UInt8)
  /-- Commands both in the options and in a payload on port 0. -/
  | duplicateMacCommands
  /-- The options are longer than a header can hold. -/
  | bufferTooSmall
  /-- A payload without a port. -/
  | missingPort
  /-- The integrity code of a join accept does not verify. -/
  | invalidMic
  deriving DecidableEq, Repr

/-- The wording of a frame error. -/
def FrameError.message : FrameError → String
  | tooShort length => "frame too short: " ++ toString length ++ " bytes"
  | unsupportedType bits => "unsupported message type 0x" ++ Text.Hex.atLeast 2 bits.toNat
  | unsupportedMajor version => "unsupported major version " ++ toString version.toNat
  | invalidOptionsLength length => "invalid FOpts length " ++ toString length.toNat
  | duplicateMacCommands => "MAC commands present in FOpts and FRMPayload"
  | bufferTooSmall => "buffer too small"
  | missingPort => "payload without FPort"
  | invalidMic => "invalid MIC"

end LoraNetwork
