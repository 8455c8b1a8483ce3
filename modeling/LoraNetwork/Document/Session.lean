import LoraNetwork.Document.Radio
import LoraNetwork.Session.State

/-!
# Sessions as structured values

The stored record of a session, the changes written to it, and an overview of a session in memory.
-/

namespace LoraNetwork

instance : ToValue SessionRecord where
  toValue r := .table
    [member "eui" r.devEui, member "addr" r.devAddr, member "nwk" r.keys.network,
      member "app" r.keys.application, member "application_id" r.applicationId,
      member "gateway_id" r.gatewayId, member "fcnt_up" r.fcntUp, member "fcnt_down" r.fcntDown,
      member "fcnt_up_start" r.fcntUpStart, member "fcnt_down_start" r.fcntDownStart,
      member "reset_desired" r.resetDesired, member "reset_reported" r.resetReported,
      member "supports_32bit" r.wideCounter, member "relaxed" r.relaxed,
      member "window" r.listening.preferredWindow, member "rx_delay" r.listening.rxDelay,
      member "rx1_dr_offset" r.listening.rx1Offset,
      member "rx2_data_rate" r.listening.rx2DataRate, member "region" r.region,
      member "downlink_enabled" r.downlinkEnabled, member "keep_alive_ms" r.keepAlive,
      member "data_rate" r.dataRate, member "tx_power" r.txPower, member "nb_rep" r.repetitions,
      member "dev_nonce" r.devNonce]

instance : OfValue ListeningProfile where
  ofValue v := do
    return {
      preferredWindow := ← v.getD "window" 1
      rxDelay := ← v.getD "rx_delay" 0
      rx1Offset := ← v.getD "rx1_dr_offset" 0
      rx2DataRate := ← v.get? "rx2_data_rate" }

instance : OfValue SessionRecord where
  ofValue v := do
    return {
      devEui := ← v.get "eui"
      devAddr := ← v.get "addr"
      keys := ← ofValue v
      applicationId := ← v.get? "application_id"
      gatewayId := ← v.get? "gateway_id"
      fcntUp := ← v.getD "fcnt_up" 0
      fcntDown := ← v.getD "fcnt_down" 0
      fcntUpStart := ← v.getD "fcnt_up_start" 0
      fcntDownStart := ← v.getD "fcnt_down_start" 0
      resetDesired := ← v.get? "reset_desired"
      resetReported := ← v.get? "reset_reported"
      wideCounter := ← v.flag "supports_32bit"
      relaxed := ← v.flag "relaxed"
      listening := ← ofValue v
      region := ← v.get? "region"
      downlinkEnabled := ← v.getD "downlink_enabled" true
      keepAlive := ← v.get? "keep_alive_ms"
      dataRate := ← v.get? "data_rate"
      txPower := ← v.get? "tx_power"
      repetitions := ← v.get? "nb_rep"
      devNonce := ← v.get? "dev_nonce" }

/-- A delta has members for its changes only. -/
instance : ToValue SessionDelta where
  toValue d := .table
    (memberIfSome "addr" d.devAddr ++ memberIfSome "nwk" d.networkKey ++
      memberIfSome "app" d.applicationKey ++ memberIfSome "dev_nonce" d.devNonce ++
      memberIfSome "gateway_id" d.gatewayId ++ memberIfSome "fcnt_up" d.fcntUp ++
      memberIfSome "fcnt_down" d.fcntDown ++ memberIfSome "fcnt_up_start" d.fcntUpStart ++
      memberIfSome "fcnt_down_start" d.fcntDownStart ++
      memberIfSome "reset_reported" d.resetReported ++ memberIfSome "data_rate" d.dataRate ++
      memberIfSome "tx_power" d.txPower ++ memberIfSome "nb_rep" d.repetitions)

instance : OfValue SessionDelta where
  ofValue v := do
    return {
      devAddr := ← v.get? "addr"
      networkKey := ← v.get? "nwk"
      applicationKey := ← v.get? "app"
      devNonce := ← v.get? "dev_nonce"
      gatewayId := ← v.get? "gateway_id"
      fcntUp := ← v.get? "fcnt_up"
      fcntDown := ← v.get? "fcnt_down"
      fcntUpStart := ← v.get? "fcnt_up_start"
      fcntDownStart := ← v.get? "fcnt_down_start"
      resetReported := ← v.get? "reset_reported"
      dataRate := ← v.get? "data_rate"
      txPower := ← v.get? "tx_power"
      repetitions := ← v.get? "nb_rep" }

instance : ToValue AdrSettings where
  toValue s := .table
    [member "data_rate" s.dataRate, member "tx_power" s.txPower, member "nb_rep" s.repetitions]

instance : OfValue AdrSettings where
  ofValue v := do
    return {
      dataRate := ← v.getD "data_rate" 0
      txPower := ← v.getD "tx_power" 0
      repetitions := ← v.getD "nb_rep" 0 }

instance : ToValue UplinkHistory where
  toValue h := .table
    [member "len" h.samples.length, member "empty" h.samples.isEmpty, member "full" h.isFull,
      member "data_rate" h.dataRate]

instance : ToValue Confirmation where
  toValue c := .table
    [member "fcnt_up" c.fcntUp, member "resubmits" c.resubmits,
      member "fcnt_down" (c.downlink.map CachedDownlink.fcntDown)]

instance : ToValue Session where
  toValue s := .table
    [member "attrs" s.toRecord, member "reset_allowed" s.resetAllowed, member "dirty" s.isDirty,
      member "delta" s.delta, member "adr" s.progress.adr, member "history" s.history,
      member "confirmation" s.confirmation]

instance : ToValue CounterVerdict where
  toValue verdict :=
    let decision :=
      match verdict with
      | .accept _ => "Accept"
      | .reset _ => "Reset"
      | .resubmit _ => "Resubmit"
      | .invalid _ => "Invalid"
    .table [member "decision" decision, member "counter" verdict.counter]

end LoraNetwork
