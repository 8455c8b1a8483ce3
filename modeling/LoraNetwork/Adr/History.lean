/-!
# Uplink history

Adaptive data rate looks at the recent uplinks of a device: how well they were heard and which
counters are missing between them. A history holds uplinks of one data rate only, and at most as
many as its capacity; the oldest makes room for the newest.
-/

namespace LoraNetwork

/-- One uplink as the history keeps it. -/
structure UplinkSample where
  /-- The full counter. -/
  counter : UInt32
  /-- The signal-to-noise ratio in dB. -/
  snr : Float32

/-- Recent uplinks at one data rate. -/
structure UplinkHistory where
  /-- The data rate index of the samples; none before the first. -/
  dataRate : Option UInt8
  /-- The samples, oldest first. -/
  samples : List UplinkSample
  /-- How many samples are kept. -/
  capacity : Nat

namespace UplinkHistory

/-- A history without samples. -/
def empty (capacity : Nat) : UplinkHistory := ⟨none, [], capacity⟩

/-- The history that a sample at a data rate is added to: a change of data rate starts anew. -/
def atRate (history : UplinkHistory) (dataRate : UInt8) : UplinkHistory :=
  if history.dataRate = some dataRate then history
  else { history with dataRate := some dataRate, samples := [] }

/-- Adds a sample at the current data rate. A second sample of one counter changes nothing. -/
def push (history : UplinkHistory) (sample : UplinkSample) : UplinkHistory :=
  if (history.samples.getLast?.map UplinkSample.counter) = some sample.counter then history
  else
    let kept :=
      if history.samples.length = history.capacity then history.samples.drop 1
      else history.samples
    { history with samples := kept ++ [sample] }

/-- Records an uplink. -/
def record (history : UplinkHistory) (counter : UInt32) (snr : Float32) (dataRate : UInt8) :
    UplinkHistory :=
  (history.atRate dataRate).push ⟨counter, snr⟩

/-- Forgets every sample and their data rate. -/
def clear (history : UplinkHistory) : UplinkHistory :=
  { history with dataRate := none, samples := [] }

/-- Enough samples to judge by. -/
def isFull (history : UplinkHistory) : Bool := history.capacity ≤ history.samples.length

/-- The greater of two ratios; one that is not a number gives way to the other. -/
def greater (a b : Float32) : Float32 :=
  if a.isNaN then b else if b.isNaN then a else if a < b then b else a

/-- The best ratio among the samples. -/
def bestSnr (history : UplinkHistory) : Option Float32 :=
  match history.samples with
  | [] => none
  | first :: rest => some (rest.foldl (fun best sample => greater best sample.snr) first.snr)

/-- The number of frames the device must have sent from the first sample to the last, or `none` if
the counters do not increase. -/
def expectedFrames (history : UplinkHistory) : Option UInt32 :=
  match history.samples.head?, history.samples.getLast? with
  | some first, some last =>
    if first.counter < last.counter then some (last.counter - first.counter + 1) else none
  | _, _ => none

/-- The share of frames that were lost between the first sample and the last. -/
def lossRate (history : UplinkHistory) : Float32 :=
  match history.expectedFrames with
  | none => 0.0
  | some expected =>
    let loss := 1.0 - history.samples.length.toFloat32 / expected.toFloat32
    if loss < 0.0 then 0.0 else loss

end UplinkHistory

end LoraNetwork
