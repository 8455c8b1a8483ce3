import LoraNetwork.Region.Plan

/-!
# Time and radio metadata

Durations count nanoseconds, and instants count nanoseconds from an arbitrary origin of the clock
that receive windows and deadlines use. Wall-clock time is a different thing and has its own type.
What the radio reports beside an uplink is here as well; the concentrator's own time stamps count
microseconds.
-/

namespace LoraNetwork

/-- A span of time in nanoseconds. -/
abbrev Duration := Nat

/-- A point on the monotonic clock, in nanoseconds from an arbitrary origin. -/
abbrev Instant := Int

namespace Duration

/-- A span of whole milliseconds. -/
def ofMillis (ms : Nat) : Duration := 1000000 * ms

/-- A span of whole seconds. -/
def ofSeconds (s : Nat) : Duration := 1000000000 * s

/-- The whole milliseconds in a span. -/
def toMillis (d : Duration) : Nat := d / 1000000

/-- The whole microseconds in a span. -/
def toMicros (d : Duration) : Nat := d / 1000

end Duration

/-- The time from one instant to a later one, and no time if it is not later. -/
def Instant.since (later earlier : Instant) : Duration := (later - earlier).toNat

/-- Wall-clock time: the seconds and nanoseconds since the start of 1970. Times before it count as
the start itself. -/
structure UnixTime where
  /-- Whole seconds. -/
  seconds : Nat
  /-- Nanoseconds within the second. -/
  nanos : Nat
  deriving DecidableEq, Repr

/-- What the radio reports beside an uplink. -/
structure RadioMetadata where
  /-- The frequency in Hz. -/
  frequency : UInt32 := 868100000
  /-- The modulation. -/
  dataRate : DataRate := .sf7bw125
  /-- The channel of the concentrator. -/
  channel : UInt8 := 0
  /-- The signal strength in dBm. -/
  rssi : Int16 := -60
  /-- The signal-to-noise ratio in dB. -/
  snr : Float32 := 7.5
  /-- The time stamp of the concentrator in microseconds, which wraps around. -/
  timestamp : UInt32 := 0

/-- When the two receive windows of a device open, counted from the arrival of its uplink. -/
structure ReceiveTiming where
  /-- The first window after data. -/
  rx1 : Duration
  /-- The second window after data. -/
  rx2 : Duration
  /-- The first window after a join request. -/
  join1 : Duration
  /-- The second window after a join request. -/
  join2 : Duration
  deriving DecidableEq, Repr

/-- The timing of a device with a delay of its own, in seconds: zero stands for one second and
fifteen is the longest. The second window follows one second later; joins have fixed delays. -/
def ReceiveTiming.ofDelay (rxDelay : UInt8) : ReceiveTiming :=
  let rx1 := Duration.ofSeconds (min (max rxDelay.toNat 1) 15)
  { rx1 := rx1
    rx2 := rx1 + Duration.ofSeconds 1
    join1 := Duration.ofSeconds 5
    join2 := Duration.ofSeconds 6 }

end LoraNetwork
