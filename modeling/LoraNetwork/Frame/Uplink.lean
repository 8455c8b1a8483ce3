import LoraNetwork.Frame.Data
import LoraNetwork.Frame.Join

/-!
# Uplink frames

What a packet forwarder hands over is a join request or a data frame from a device; nothing else is
an uplink. The type is looked at before anything else, so an empty text and a frame of another type
are told apart from a malformed uplink.
-/

namespace LoraNetwork

/-- A frame that devices send. -/
inductive UplinkFrame where
  /-- A request to join. -/
  | join (request : JoinRequest)
  /-- Data. -/
  | data (frame : DataFrame)
  deriving DecidableEq, Repr

/-- Reads an uplink. -/
def UplinkFrame.parse (bytes : Bytes) : Except FrameError UplinkFrame :=
  match bytes with
  | [] => .error (.tooShort 0)
  | first :: _ =>
    match MessageType.ofFirstByte first with
    | .joinRequest => (JoinRequest.parse bytes).map UplinkFrame.join
    | .unconfirmedDataUp | .confirmedDataUp => (DataFrame.parse bytes).map UplinkFrame.data
    | _ => .error (.unsupportedType (MessageType.bits first))

end LoraNetwork
