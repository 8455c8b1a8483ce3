import LoraNetwork.Uplink.Handling

/-!
# Answers to MAC commands

What the network says to a device of its own accord: the answers to the requests in an uplink, and a
command of adaptive data rate when its settings should change.
-/

namespace LoraNetwork

namespace GpsTime

/-- The start of GPS time, in seconds of Unix time. -/
def epoch : Nat := 315964800

/-- The leap seconds that GPS time runs ahead. -/
def leapSeconds : Nat := 18

/-- The answer to a request for the time. Times before the start of GPS count as the start. -/
def answer (now : UnixTime) : MacCommand :=
  if now.seconds < epoch then .deviceTimeAns (UInt32.ofNat leapSeconds) 0
  else
    .deviceTimeAns (UInt32.ofNat (now.seconds - epoch + leapSeconds))
      (UInt8.ofNat (now.nanos * 256 / 1000000000))

end GpsTime

namespace DataHandling

/-- How far an uplink was heard above what its data rate needs, in whole dB from 0 to 254. -/
def linkMargin (metadata : RadioMetadata) : UInt8 :=
  let margin := metadata.snr - metadata.dataRate.requiredSnr
  if margin < 0.0 then 0 else if 254.0 < margin then 254 else margin.toUInt8

/-- The answers to the requests of an uplink, in order. What the device answers is not answered. -/
def answersTo (metadata : RadioMetadata) : List MacCommand → DataHandling (List MacCommand)
  | [] => pure []
  | command :: rest =>
    match command with
    | .linkCheckReq => do
      let others ← answersTo metadata rest
      pure (.linkCheckAns (linkMargin metadata) 1 :: others)
    | .deviceTimeReq => do
      let now ← wallClock
      let others ← answersTo metadata rest
      pure (GpsTime.answer now :: others)
    | _ => answersTo metadata rest

end DataHandling

namespace Session

/-- The command that tells a device its settings. -/
def settingsCommand (region : Region) (settings : AdrSettings) : MacCommand :=
  .linkAdrReq settings.dataRate settings.txPower region.adrChannelMask.1 region.adrChannelMask.2
    settings.repetitions

/-- Learns from an uplink and decides what to command. Settings that are in effect or commanded
already are not commanded again, unless the device asks for a sign of life. -/
def adapt (config : ServerConfig) (s : Session) (counter : UInt32) (metadata : RadioMetadata)
    (ackRequested : Bool) : Session × Option MacCommand :=
  match s.region.uplinkIndex metadata.dataRate with
  | none => (s, none)
  | some rate =>
    let learnt := { s with history := s.history.record counter metadata.snr rate }
    let current := learnt.effectiveSettings rate
    match Adr.plan s.region config.adr.installationMargin learnt.history current ackRequested with
    | none => (learnt, none)
    | some next =>
      if ackRequested = false ∧ (next = current ∨ learnt.progress.adr = some next) then
        (learnt, none)
      else (learnt.command next, some (settingsCommand s.region next))

end Session

end LoraNetwork
