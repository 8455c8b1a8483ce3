import LoraNetwork.Frame.Data
import LoraNetwork.Session.State

/-!
# Devices

A session as the server keeps it: beside the session itself, which one uplink at a time may use, a
card with the facts that never change during it, and the last counter announced. Card and counter
are enough to tell whether a frame was signed by the device, so that can be asked while the session
is in use.
-/

namespace LoraNetwork

/-- What never changes during a session. -/
structure DeviceCard where
  /-- The device. -/
  devEui : Eui64
  /-- Its address. -/
  devAddr : DevAddr
  /-- The key that signs its frames. -/
  networkKey : AesKey
  /-- The device counts in thirty-two bits. -/
  wideCounter : Bool
  /-- The device may start to count again. -/
  relaxed : Bool
  /-- How long the session stays in memory unused, in milliseconds, if not the server's time. -/
  keepAlive : Option Nat
  deriving DecidableEq, Repr

/-- The card of a session. -/
def DeviceCard.ofSession (s : Session) : DeviceCard where
  devEui := s.devEui
  devAddr := s.devAddr
  networkKey := s.keys.network
  wideCounter := s.wideCounter
  relaxed := s.relaxed
  keepAlive := s.keepAlive

namespace DeviceCard

/-- Whether the device signed a frame, given the last counter announced. A relaxed device may have
started to count again, so the counter as sent is tried as well. -/
def authenticates (suite : CipherSuite) (card : DeviceCard) (announced : UInt32)
    (frame : DataFrame) : Bool :=
  if frame.devAddr = card.devAddr then
    let incoming := frame.header.counter
    let counter := Counter.resolve announced incoming card.wideCounter
    frame.verifies suite card.networkKey counter ||
      (card.relaxed && counter ≠ incoming.toUInt32 &&
        frame.verifies suite card.networkKey incoming.toUInt32)
  else false

end DeviceCard

/-- A device and its session. -/
structure Device where
  /-- What never changes. -/
  card : DeviceCard
  /-- The last counter announced to those who authenticate frames. -/
  announced : UInt32
  /-- The session. -/
  session : Session

namespace Device

/-- The device of a session that was just loaded or joined. -/
def ofSession (s : Session) : Device := ⟨DeviceCard.ofSession s, s.progress.fcntUp, s⟩

/-- Whether the device signed a frame. -/
def authenticates (suite : CipherSuite) (device : Device) (frame : DataFrame) : Bool :=
  device.card.authenticates suite device.announced frame

end Device

end LoraNetwork
