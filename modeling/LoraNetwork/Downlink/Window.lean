import LoraNetwork.ReceiveWindow

/-!
# Downlinks

The radio parameters of a receive window, and the downlink that is handed to the packet forwarder.
-/

namespace LoraNetwork

/-- Where and how a device listens in a window. -/
structure WindowParams where
  /-- The frequency in Hz. -/
  frequency : UInt32
  /-- The data rate index. -/
  dataRateIndex : UInt8
  /-- The modulation. -/
  dataRate : DataRate
  deriving DecidableEq, Repr

namespace WindowParams

/-- The frequency and the data rate index of a window: the first follows the uplink, the second is
the device's own or the region's. -/
def place (region : Region) (uplink : RadioMetadata) (rx1Offset : UInt8)
    (rx2DataRate : Option UInt8) : ReceiveWindow → Option (UInt32 × UInt8)
  | .rx1 =>
    match region.uplinkIndex uplink.dataRate with
    | none => none
    | some index =>
      (region.rx1DataRate index rx1Offset).map fun rate =>
        (region.rx1Frequency uplink.frequency, rate)
  | .rx2 => some (region.rx2Default.1, rx2DataRate.getD region.rx2Default.2)

/-- The parameters of a window; `none` if the region has no such data rate. -/
def ofWindow (region : Region) (window : ReceiveWindow) (uplink : RadioMetadata)
    (rx1Offset : UInt8) (rx2DataRate : Option UInt8) : Option WindowParams :=
  match place region uplink rx1Offset rx2DataRate window with
  | none => none
  | some (frequency, index) =>
    (region.dataRate index).map fun rate => ⟨frequency, index, rate⟩

end WindowParams

/-- A downlink for the packet forwarder. -/
structure Downlink where
  /-- The frame. -/
  payload : Bytes
  /-- The window. -/
  window : ReceiveWindow
  /-- When to send, from the arrival of the uplink. -/
  delay : Duration
  /-- The time stamp of the concentrator to send at, in microseconds. -/
  timestamp : UInt32
  /-- The frequency in Hz. -/
  frequency : UInt32
  /-- The modulation. -/
  dataRate : DataRate
  /-- The data rate index. -/
  dataRateIndex : UInt8
  /-- The downlink counter; none for a join accept. -/
  fcntDown : Option UInt32
  deriving DecidableEq, Repr

/-- The downlink that carries a frame in a window. The time stamp wraps around. -/
def Downlink.inWindow (payload : Bytes) (timer : WindowTimer) (window : ReceiveWindow)
    (params : WindowParams) (uplink : RadioMetadata) (fcntDown : Option UInt32) : Downlink where
  payload := payload
  window := window
  delay := timer.delay window
  timestamp := uplink.timestamp + UInt32.ofNat (timer.delay window).toMicros
  frequency := params.frequency
  dataRate := params.dataRate
  dataRateIndex := params.dataRateIndex
  fcntDown := fcntDown

end LoraNetwork
