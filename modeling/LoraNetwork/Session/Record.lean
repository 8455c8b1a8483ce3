import LoraNetwork.Frame.Security
import LoraNetwork.Radio

/-!
# Session records

A session as the device store holds it, and the changes that are written to it. A change that is
absent from a delta leaves the stored field alone, so a field cannot be cleared by a delta;
`SessionDelta.applyTo` is the meaning of a write.
-/

namespace LoraNetwork

/-- How a device listens. -/
structure ListeningProfile where
  /-- The preferred window: two forgoes the first one. -/
  preferredWindow : UInt8 := 1
  /-- The delay of the first window in seconds; zero means one. -/
  rxDelay : UInt8 := 0
  /-- The offset from an uplink's data rate to that of the first window. -/
  rx1Offset : UInt8 := 0
  /-- The data rate index of the second window, if it is not the region's. -/
  rx2DataRate : Option UInt8 := none
  deriving DecidableEq, Repr

/-- A session as stored. -/
structure SessionRecord where
  /-- The device. -/
  devEui : Eui64
  /-- Its address during the session. -/
  devAddr : DevAddr
  /-- Its keys. -/
  keys : SessionKeys
  /-- The application it belongs to. -/
  applicationId : Option String := none
  /-- The gateway it belongs to; none if several gateways share it. -/
  gatewayId : Option String := none
  /-- The last accepted uplink counter. -/
  fcntUp : UInt32 := 0
  /-- The next downlink counter. -/
  fcntDown : UInt32 := 0
  /-- Where the uplink count starts after a reset by the operator. -/
  fcntUpStart : UInt32 := 0
  /-- Where the downlink count starts after a reset by the operator. -/
  fcntDownStart : UInt32 := 0
  /-- The generation of the reset the operator asked for last. -/
  resetDesired : Option UInt32 := none
  /-- The generation of the reset that was honoured last. -/
  resetReported : Option UInt32 := none
  /-- The device counts in thirty-two bits. -/
  wideCounter : Bool := false
  /-- The device may start to count again. -/
  relaxed : Bool := false
  /-- How the device listens. -/
  listening : ListeningProfile := {}
  /-- The region, if it is not the server's. -/
  region : Option Region := none
  /-- Cloud messages may be sent to the device. -/
  downlinkEnabled : Bool := true
  /-- How long the session stays in memory unused, in milliseconds, if not the server's time. -/
  keepAlive : Option Nat := none
  /-- The data rate index commanded last. -/
  dataRate : Option UInt8 := none
  /-- The power index commanded last. -/
  txPower : Option UInt8 := none
  /-- The repetitions commanded last. -/
  repetitions : Option UInt8 := none
  /-- The nonce of the join that created the session. -/
  devNonce : Option UInt16 := none
  deriving DecidableEq, Repr

/-- Changes to a stored session; what is absent stays as it is. -/
structure SessionDelta where
  /-- A new address. -/
  devAddr : Option DevAddr := none
  /-- A new network key. -/
  networkKey : Option AesKey := none
  /-- A new application key. -/
  applicationKey : Option AesKey := none
  /-- The nonce of a new join. -/
  devNonce : Option UInt16 := none
  /-- A new owner. -/
  gatewayId : Option String := none
  /-- The last accepted uplink counter. -/
  fcntUp : Option UInt32 := none
  /-- The next downlink counter. -/
  fcntDown : Option UInt32 := none
  /-- A new start of the uplink count. -/
  fcntUpStart : Option UInt32 := none
  /-- A new start of the downlink count. -/
  fcntDownStart : Option UInt32 := none
  /-- The generation of a reset that was honoured. -/
  resetReported : Option UInt32 := none
  /-- A commanded data rate index. -/
  dataRate : Option UInt8 := none
  /-- A commanded power index. -/
  txPower : Option UInt8 := none
  /-- Commanded repetitions. -/
  repetitions : Option UInt8 := none
  deriving DecidableEq, Repr

namespace SessionDelta

/-- Nothing changes. -/
def isEmpty (delta : SessionDelta) : Bool := delta = {}

/-- Everything that a join writes. -/
def full (record : SessionRecord) : SessionDelta where
  devAddr := some record.devAddr
  networkKey := some record.keys.network
  applicationKey := some record.keys.application
  devNonce := record.devNonce
  gatewayId := record.gatewayId
  fcntUp := some record.fcntUp
  fcntDown := some record.fcntDown
  fcntUpStart := some record.fcntUpStart
  fcntDownStart := some record.fcntDownStart
  resetReported := record.resetReported
  dataRate := record.dataRate
  txPower := record.txPower
  repetitions := record.repetitions

/-- The record after the changes were written to it. -/
def applyTo (delta : SessionDelta) (record : SessionRecord) : SessionRecord :=
  { record with
    devAddr := delta.devAddr.getD record.devAddr
    keys :=
      { network := delta.networkKey.getD record.keys.network
        application := delta.applicationKey.getD record.keys.application }
    devNonce := delta.devNonce.or record.devNonce
    gatewayId := delta.gatewayId.or record.gatewayId
    fcntUp := delta.fcntUp.getD record.fcntUp
    fcntDown := delta.fcntDown.getD record.fcntDown
    fcntUpStart := delta.fcntUpStart.getD record.fcntUpStart
    fcntDownStart := delta.fcntDownStart.getD record.fcntDownStart
    resetReported := delta.resetReported.or record.resetReported
    dataRate := delta.dataRate.or record.dataRate
    txPower := delta.txPower.or record.txPower
    repetitions := delta.repetitions.or record.repetitions }

/-- A store's answer to a write: a known record takes the changes; an unknown one is created if the
changes name an address and both keys, and not otherwise. -/
def write (delta : SessionDelta) (eui : Eui64) (stored : Option SessionRecord) :
    Option SessionRecord :=
  match stored with
  | some record => some (delta.applyTo record)
  | none =>
    match delta.devAddr, delta.networkKey, delta.applicationKey with
    | some addr, some network, some application =>
      some (delta.applyTo { devEui := eui, devAddr := addr, keys := ⟨network, application⟩ })
    | _, _, _ => none

end SessionDelta

end LoraNetwork
