import LoraNetwork.Adr.History
import LoraNetwork.Region.Plan

/-!
# Adaptive data rate

Given enough history, the headroom of the link above what demodulation needs is turned into steps of
3 dB. Steps to spare go into a faster data rate first and into less power after that; missing steps
are bought back with power only. The number of repetitions follows from the loss between samples.
-/

namespace LoraNetwork

/-- The radio settings that a device is commanded to use. -/
structure AdrSettings where
  /-- The data rate index. -/
  dataRate : UInt8
  /-- The power index; zero is the highest power. -/
  txPower : UInt8
  /-- How often each uplink is sent. -/
  repetitions : UInt8
  deriving DecidableEq, Repr

namespace AdrSettings

/-- Spends steps of headroom: on the data rate up to a limit, then on lower power up to a limit. -/
def spend (maxDataRate maxPower : UInt8) : Nat → AdrSettings → AdrSettings
  | 0, s => s
  | steps + 1, s =>
    if s.dataRate < maxDataRate then
      spend maxDataRate maxPower steps { s with dataRate := s.dataRate + 1 }
    else if s.txPower < maxPower then
      spend maxDataRate maxPower steps { s with txPower := s.txPower + 1 }
    else s

/-- Buys missing steps back with power, up to the highest power. -/
def raisePower : Nat → AdrSettings → AdrSettings
  | 0, s => s
  | steps + 1, s =>
    if 0 < s.txPower then raisePower steps { s with txPower := s.txPower - 1 } else s

/-- The settings after a number of steps of headroom, which is negative when headroom is missing. -/
def afterSteps (region : Region) (steps : Int) (s : AdrSettings) : AdrSettings :=
  match steps with
  | .ofNat count => spend region.maxAdrDataRate region.maxTxPower count s
  | .negSucc count => raisePower (count + 1) s

end AdrSettings

namespace Adr

/-- The size of a step of headroom in dB. -/
def stepSize : Float32 := 3.0

/-- The number of repetitions for a loss rate, given the present number: four classes of loss by
three numbers. -/
def repetitionsFor (loss : Float32) (current : UInt8) : UInt8 :=
  let row : UInt8 × UInt8 × UInt8 :=
    if loss < 0.05 then (1, 1, 2)
    else if loss < 0.10 then (1, 2, 3)
    else if loss < 0.30 then (2, 3, 3)
    else (3, 3, 3)
  if current ≤ 1 then row.1 else if current = 2 then row.2.1 else row.2.2

/-- The steps of headroom of a link: the best ratio above what the data rate needs and above the
margin of the installation, in whole steps. -/
def headroomSteps (best required margin : Float32) : Int :=
  ((best - required - margin) / stepSize).floor.toInt32.toInt

/-- New settings for a device, or `none` when there is nothing to tell it. A device that asks for a
sign of life before its history is full is sent its settings at full power. -/
def plan (region : Region) (margin : Float32) (history : UplinkHistory) (current : AdrSettings)
    (ackRequested : Bool) : Option AdrSettings :=
  if history.isFull then
    match region.dataRate current.dataRate, history.bestSnr with
    | some rate, some best =>
      let next := current.afterSteps region (headroomSteps best rate.requiredSnr margin)
      some { next with repetitions := repetitionsFor history.lossRate current.repetitions }
    | _, _ => none
  else if ackRequested then some { current with txPower := 0 }
  else none

end Adr

end LoraNetwork
