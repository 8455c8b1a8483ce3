import LoraNetwork.Collaborator
import LoraNetwork.Document.MacCommand
import LoraNetwork.Document.Session
import LoraNetwork.Downlink.Builder
import LoraNetwork.Downlink.Window
import LoraNetwork.Failure

/-!
# Uplinks, downlinks and requests as structured values

What goes in and out of the uplink path, and the log of what collaborators were asked.
-/

namespace LoraNetwork

instance : ToValue ReceiveWindow where
  toValue
    | .rx1 => .text "Rx1"
    | .rx2 => .text "Rx2"

instance : ToValue WindowState where
  toValue
    | .beforeRx1 => .text "BeforeRx1"
    | .beforeRx2 => .text "BeforeRx2"
    | .missed => .text "Missed"

instance : ToValue WindowParams where
  toValue p := .table
    [member "frequency" p.frequency, member "data_rate_index" p.dataRateIndex,
      member "data_rate" p.dataRate]

instance : ToValue CloudFit where
  toValue
    | .fits => .text "Fits"
    | .tooLarge => .text "TooLarge"
    | .reservedPort => .text "ReservedPort"
    | .blocked => .text "Blocked"

/-- Reads a cloud message at an instant, from which the time until it expires is counted. -/
def CloudMessage.describedBy (v : Value) (now : Instant) : Except FormError CloudMessage := do
  let lifetime : Option Int ← v.get? "expires_in_ms"
  return {
    id := ← v.getD "id" "m"
    port := ← v.getD "f_port" 1
    payload := ← v.getD "payload" []
    confirmed := ← v.flag "confirmed"
    commands := ← v.getD "mac" []
    expiresAt := lifetime.map fun ms => now + 1000000 * ms }

instance : OfValue JoinInfo where
  ofValue v := do
    return {
      appKey := ← v.get "app_key"
      joinEui := ← v.get "join_eui"
      applicationId := ← v.get? "application_id"
      gatewayId := ← v.get? "gateway_id"
      region := ← v.get? "region"
      listening := ← ofValue v
      wideCounter := ← v.flag "supports_32bit"
      downlinkEnabled := ← v.getD "downlink_enabled" true
      keepAlive := ← v.get? "keep_alive_ms"
      lastDevNonce := ← v.get? "last_dev_nonce" }

instance : OfValue DeviceCandidate where
  ofValue v := do return ⟨← v.get "addr", ← v.get "eui"⟩

/-- The members of a failure: its code, the stage it came from and its text. -/
def UplinkFailure.members (f : UplinkFailure) : List (String × Value) :=
  [member "failed" f.reason.code, member "stage" f.stage.name, member "text" f.message]

instance : ToValue Telemetry where
  toValue t := .table
    [member "addr" t.devAddr, member "fcnt" t.fcnt, member "f_port" t.port,
      member "payload" t.payload, member "confirmed" t.confirmed, member "meta" t.metadata]

/-- The name of a way to settle a message. -/
def Settlement.name : Settlement → String
  | complete => "complete"
  | abandon => "abandon"
  | reject => "reject"

/-- A request is logged as a list: its name, whom it concerns, and its details. -/
instance : ToValue Request where
  toValue
    | .fetchSession eui => .list [.text "fetch_session", toValue eui]
    | .fetchCandidates addr => .list [.text "fetch_candidates", toValue addr]
    | .persist eui delta => .list [.text "persist", toValue eui, toValue delta]
    | .allocate eui current fcntUp gateway =>
      .list [.text "allocate", toValue eui, toValue current, toValue fcntUp, toValue gateway]
    | .resetAllocation eui generation gateway =>
      .list [.text "reset_cache", toValue eui, toValue generation, toValue gateway]
    | .fetchJoinInfo eui => .list [.text "join_info", toValue eui]
    | .receive eui wait => .list [.text "receive", toValue eui, toValue wait.toMillis]
    | .settle how eui message => .list [.text how.name, toValue eui, toValue message.id]
    | .sendTelemetry telemetry =>
      .list [.text "telemetry", toValue telemetry.devEui, toValue telemetry]

end LoraNetwork
