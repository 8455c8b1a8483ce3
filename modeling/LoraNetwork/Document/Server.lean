import LoraNetwork.Config.Server
import LoraNetwork.Document.Radio

/-!
# Server configurations as structured values

Reading is strict here: every member has the form it is written in. The lenient reading of
configuration files is in `Config/Loading`.
-/

namespace LoraNetwork

instance : ToValue AdrConfig where
  toValue c := .table
    [member "history_size" c.historySize,
      member "installation_margin_db_bits" c.marginBits]

instance : OfValue AdrConfig where
  ofValue v := do
    let usual : AdrConfig := {}
    let margin ← v.getD "installation_margin_db" usual.installationMargin
    return {
      historySize := ← v.getD "history_size" usual.historySize
      marginBits := margin.toBits }

/-- A configuration is reported with the forms its network identifier takes. -/
instance : ToValue ServerConfig where
  toValue c := .table
    [member "gateway_id" c.gatewayId, member "net_id" c.netId.value,
      member "net_id_debug" c.netId.shown, member "net_id_le" c.netId.wire,
      member "net_nwk_id" c.netId.networkPart, member "allowed_dev_addrs" c.allowedAddrs,
      member "default_region" c.defaultRegion,
      member "dev_addr_reload_interval_ms" c.addressLifetime,
      member "session_idle_timeout_ms" c.sessionIdle,
      member "candidate_fetch_timeout_ms" c.candidateTimeout,
      member "max_fcnt_gap" c.maxCounterGap, member "fcnt_save_delta" c.saveDelta,
      member "max_confirmation_resubmits" c.maxResubmits,
      member "expected_processing_time_ms" c.processingTime,
      member "min_cloud_check_time_ms" c.cloudCheckTime, member "adr" c.adr,
      member "log_filter" c.logFilter]

instance : OfValue ServerConfig where
  ofValue v := do
    let usual : ServerConfig := {}
    return {
      gatewayId := ← v.getD "gateway_id" usual.gatewayId
      netId := ⟨← v.getD "net_id" usual.netId.value⟩
      allowedAddrs := ← v.getD "allowed_dev_addrs" usual.allowedAddrs
      defaultRegion := ← v.getD "default_region" usual.defaultRegion
      addressLifetime := ← v.getD "dev_addr_reload_interval_ms" usual.addressLifetime
      sessionIdle := ← v.getD "session_idle_timeout_ms" usual.sessionIdle
      candidateTimeout := ← v.getD "candidate_fetch_timeout_ms" usual.candidateTimeout
      maxCounterGap := ← v.getD "max_fcnt_gap" usual.maxCounterGap
      saveDelta := ← v.getD "fcnt_save_delta" usual.saveDelta
      maxResubmits := ← v.getD "max_confirmation_resubmits" usual.maxResubmits
      processingTime := ← v.getD "expected_processing_time_ms" usual.processingTime
      cloudCheckTime := ← v.getD "min_cloud_check_time_ms" usual.cloudCheckTime
      adr := ← v.getD "adr" usual.adr
      logFilter := ← v.getD "log_filter" usual.logFilter }

end LoraNetwork
