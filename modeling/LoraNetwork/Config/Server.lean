import LoraNetwork.Identifier
import LoraNetwork.ReceiveWindow

/-!
# Server configuration

What an operator sets once for a server: its identity, the network it serves, the lifetimes of its
caches, and the budgets of the uplink path. Every field has a default, and the defaults are valid.
How a configuration is read from files and environment is in `Config/Loading`.
-/

namespace LoraNetwork

/-- Tuning of adaptive data rate. -/
structure AdrConfig where
  /-- How many uplinks are kept per device, and needed before settings are computed. -/
  historySize : Nat := 20
  /-- The bits of the margin in dB that is left unused. The bits keep the sign of a margin that is
  no number. -/
  marginBits : UInt32 := 0x40A00000
  deriving DecidableEq, Repr

/-- The margin in dB that is left unused: five by default. -/
def AdrConfig.installationMargin (config : AdrConfig) : Float32 := Float32.ofBits config.marginBits

/-- The configuration of a server. Times are in milliseconds. -/
structure ServerConfig where
  /-- The identity of this server, to which devices can belong. -/
  gatewayId : String := "gateway"
  /-- The network. -/
  netId : NetId := ⟨0⟩
  /-- Addresses that are served although they belong to another network. -/
  allowedAddrs : List DevAddr := []
  /-- The region of sessions that name none. -/
  defaultRegion : Region := .eu868
  /-- How long the devices found under an address are remembered. -/
  addressLifetime : Nat := 30000
  /-- How long an unused session stays in memory. -/
  sessionIdle : Nat := 86400000
  /-- The longest wait for the record of one candidate. -/
  candidateTimeout : Nat := 2000
  /-- The largest step forward of an uplink counter. -/
  maxCounterGap : UInt32 := 16384
  /-- How far a counter may move before it is written to the store. -/
  saveDelta : UInt32 := 10
  /-- How many repeats of a confirmed uplink are answered. -/
  maxResubmits : UInt32 := 3
  /-- The time that packaging a downlink takes. -/
  processingTime : Nat := 300
  /-- The least time worth spending on a look for a cloud message. -/
  cloudCheckTime : Nat := 200
  /-- Adaptive data rate. -/
  adr : AdrConfig := {}
  /-- What is logged. -/
  logFilter : String := "info"

/-- Why a server cannot run with a configuration. -/
inductive ConfigFault where
  /-- The server has no name. -/
  | emptyGatewayId
  /-- No uplink could ever be accepted. -/
  | zeroCounterGap
  /-- No history could ever be full. -/
  | zeroHistorySize
  /-- Packaging takes so long that the first window is never reached. -/
  | processingTooLong
  deriving DecidableEq, Repr

/-- The wording of a fault. -/
def ConfigFault.message : ConfigFault → String
  | emptyGatewayId => "invalid configuration: gateway_id must not be empty"
  | zeroCounterGap => "invalid configuration: max_fcnt_gap must be positive"
  | zeroHistorySize => "invalid configuration: adr.history_size must be positive"
  | processingTooLong =>
    "invalid configuration: expected_processing_time_ms leaves no room for the first receive window"

namespace ServerConfig

/-- The first fault of a configuration, if it has one. -/
def fault (config : ServerConfig) : Option ConfigFault :=
  if (Text.Blank.trim config.gatewayId).isEmpty then some .emptyGatewayId
  else if config.maxCounterGap = 0 then some .zeroCounterGap
  else if config.adr.historySize = 0 then some .zeroHistorySize
  else if 1000 ≤ config.processingTime then some .processingTooLong
  else none

/-- Whether uplinks from an address are served: it belongs to the network or is allowed by name. -/
def accepts (config : ServerConfig) (addr : DevAddr) : Bool :=
  addr.networkPart = config.netId.networkPart || config.allowedAddrs.contains addr

end ServerConfig

namespace WindowTimer

/-- The windows after a data uplink. -/
def ofData (arrival : Instant) (timing : ReceiveTiming) (config : ServerConfig) : WindowTimer where
  arrival := arrival
  rx1Delay := timing.rx1
  rx2Delay := timing.rx2
  processing := Duration.ofMillis config.processingTime
  cloudMinimum := Duration.ofMillis config.cloudCheckTime

/-- The windows after a join request. -/
def ofJoin (arrival : Instant) (timing : ReceiveTiming) (config : ServerConfig) : WindowTimer :=
  { ofData arrival timing config with rx1Delay := timing.join1, rx2Delay := timing.join2 }

end WindowTimer

end LoraNetwork
