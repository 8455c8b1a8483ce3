import LoraNetwork.Region.DataRate

/-!
# Regional plans

What a region fixes: which data rates its indices stand for, how large a payload each admits, where
the two receive windows after an uplink lie, and how far adaptive data rate may go. Frequencies are
in Hz.
-/

namespace LoraNetwork

/-- The regions this network serves. -/
inductive Region where
  /-- The band from 863 to 870 MHz. -/
  | eu868
  /-- The band from 902 to 928 MHz. -/
  | us915
  deriving DecidableEq, Repr

namespace Region

/-- The name of a region. -/
def name : Region → String
  | eu868 => "EU868"
  | us915 => "US915"

/-- Reads the name of a region. -/
def ofName (name : String) : Option Region :=
  [eu868, us915].find? fun region => region.name = name

/-- The modulation that a data rate index stands for. -/
def dataRate : Region → UInt8 → Option DataRate
  | eu868, 0 => some .sf12bw125
  | eu868, 1 => some .sf11bw125
  | eu868, 2 => some .sf10bw125
  | eu868, 3 => some .sf9bw125
  | eu868, 4 => some .sf8bw125
  | eu868, 5 => some .sf7bw125
  | eu868, 6 => some .sf7bw250
  | us915, 0 => some .sf10bw125
  | us915, 1 => some .sf9bw125
  | us915, 2 => some .sf8bw125
  | us915, 3 => some .sf7bw125
  | us915, 4 => some .sf8bw500
  | us915, 8 => some .sf12bw500
  | us915, 9 => some .sf11bw500
  | us915, 10 => some .sf10bw500
  | us915, 11 => some .sf9bw500
  | us915, 12 => some .sf8bw500
  | us915, 13 => some .sf7bw500
  | _, _ => none

/-- The indices that uplinks use. -/
def uplinkIndices : Region → List UInt8
  | eu868 => [0, 1, 2, 3, 4, 5, 6]
  | us915 => [0, 1, 2, 3, 4]

/-- The index of the modulation of an uplink. -/
def uplinkIndex (region : Region) (rate : DataRate) : Option UInt8 :=
  region.uplinkIndices.find? fun index => region.dataRate index = some rate

/-- The largest payload, header and port included, at a data rate index. -/
def maxPayload : Region → UInt8 → Option Nat
  | eu868, index => if index ≤ 2 then some 59 else if index ≤ 3 then some 123
    else if index ≤ 7 then some 230 else none
  | us915, 0 => some 19
  | us915, 1 => some 61
  | us915, 2 => some 133
  | us915, 3 => some 250
  | us915, 4 => some 250
  | us915, 8 => some 61
  | us915, 9 => some 137
  | us915, index => if 10 ≤ index ∧ index ≤ 13 then some 250 else none

/-- The highest data rate index that adaptive data rate assigns. -/
def maxAdrDataRate : Region → UInt8
  | eu868 => 5
  | us915 => 3

/-- The highest index of transmission power, which is the lowest power. -/
def maxTxPower : Region → UInt8
  | eu868 => 7
  | us915 => 14

/-- The channel mask and its control value that keep every channel enabled. -/
def adrChannelMask : Region → UInt16 × UInt8
  | eu868 => (0x0000, 6)
  | us915 => (0x00FF, 6)

/-- The data rate index of the first window after an uplink. -/
def rx1DataRate : Region → UInt8 → UInt8 → Option UInt8
  | eu868, uplink, offset =>
    if 7 < uplink ∨ 5 < offset then none
    else some (UInt8.ofNat (uplink.toNat - offset.toNat))
  | us915, uplink, offset =>
    if 4 < uplink ∨ 3 < offset then none
    else some (UInt8.ofNat (min (max (10 + uplink.toNat - offset.toNat) 8) 13))

/-- The first of the wide uplink channels of the American plan. -/
def wideChannelBase : Nat := 903000000

/-- The first of the narrow uplink channels of the American plan. -/
def narrowChannelBase : Nat := 902300000

/-- The number of an American uplink channel among its kind: a frequency on the raster of the eight
wide channels is one of them, any other counts on the raster of the narrow ones. -/
def uplinkChannel (frequency : Nat) : Nat :=
  if wideChannelBase ≤ frequency ∧ (frequency - wideChannelBase) % 1600000 = 0 ∧
      frequency ≤ 914200000 then (frequency - wideChannelBase) / 1600000
  else (frequency - narrowChannelBase) / 200000

/-- The frequency of the first window after an uplink. In the American plan all uplink channels
share eight downlink channels. -/
def rx1Frequency : Region → UInt32 → UInt32
  | eu868, frequency => frequency
  | us915, frequency => UInt32.ofNat (923300000 + uplinkChannel frequency.toNat % 8 * 600000)

/-- The frequency and the data rate index of the second window, unless a device has its own. -/
def rx2Default : Region → UInt32 × UInt8
  | eu868 => (869525000, 0)
  | us915 => (923300000, 8)

end Region

end LoraNetwork
