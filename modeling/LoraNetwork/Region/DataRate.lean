import LoraNetwork.Text.Blank
import LoraNetwork.Text.Quoted

/-!
# Data rates

A data rate is a spreading factor and a bandwidth. Packet forwarders spell it in one word such as
`SF7BW125`; the word is read without regard to case and to blanks around it.
-/

namespace LoraNetwork

/-- The modulations in use. -/
inductive DataRate where
  /-- Spreading factor 12 at 125 kHz. -/
  | sf12bw125
  /-- Spreading factor 11 at 125 kHz. -/
  | sf11bw125
  /-- Spreading factor 10 at 125 kHz. -/
  | sf10bw125
  /-- Spreading factor 9 at 125 kHz. -/
  | sf9bw125
  /-- Spreading factor 8 at 125 kHz. -/
  | sf8bw125
  /-- Spreading factor 7 at 125 kHz. -/
  | sf7bw125
  /-- Spreading factor 7 at 250 kHz. -/
  | sf7bw250
  /-- Spreading factor 12 at 500 kHz. -/
  | sf12bw500
  /-- Spreading factor 11 at 500 kHz. -/
  | sf11bw500
  /-- Spreading factor 10 at 500 kHz. -/
  | sf10bw500
  /-- Spreading factor 9 at 500 kHz. -/
  | sf9bw500
  /-- Spreading factor 8 at 500 kHz. -/
  | sf8bw500
  /-- Spreading factor 7 at 500 kHz. -/
  | sf7bw500
  deriving DecidableEq, Repr

/-- A text that spells no data rate. -/
structure UnknownDataRate where
  /-- The text as given. -/
  text : String
  deriving DecidableEq, Repr

/-- The wording of the error. -/
def UnknownDataRate.message (e : UnknownDataRate) : String :=
  "unknown data rate " ++ Text.Quoted.encode e.text

namespace DataRate

/-- Every modulation. -/
def all : List DataRate :=
  [sf12bw125, sf11bw125, sf10bw125, sf9bw125, sf8bw125, sf7bw125, sf7bw250, sf12bw500, sf11bw500,
    sf10bw500, sf9bw500, sf8bw500, sf7bw500]

/-- The spreading factor. -/
def spreadingFactor : DataRate → Nat
  | sf12bw125 | sf12bw500 => 12
  | sf11bw125 | sf11bw500 => 11
  | sf10bw125 | sf10bw500 => 10
  | sf9bw125 | sf9bw500 => 9
  | sf8bw125 | sf8bw500 => 8
  | sf7bw125 | sf7bw250 | sf7bw500 => 7

/-- The bandwidth in Hz. -/
def bandwidth : DataRate → Nat
  | sf7bw250 => 250000
  | sf12bw500 | sf11bw500 | sf10bw500 | sf9bw500 | sf8bw500 | sf7bw500 => 500000
  | _ => 125000

/-- The signal-to-noise ratio in dB that a receiver needs. -/
def requiredSnr (rate : DataRate) : Float32 :=
  match rate.spreadingFactor with
  | 12 => -20.0
  | 11 => -17.5
  | 10 => -15.0
  | 9 => -12.5
  | 8 => -10.0
  | _ => -7.5

/-- The word for a data rate: spreading factor and bandwidth in kHz. -/
def text (rate : DataRate) : String :=
  "SF" ++ toString rate.spreadingFactor ++ "BW" ++ toString (rate.bandwidth / 1000)

/-- Reads the word for a data rate. -/
def ofText (text : String) : Except UnknownDataRate DataRate :=
  let wanted := (Text.Blank.trim text).map Char.toUpper
  match all.find? fun rate => rate.text.toList = wanted with
  | some rate => .ok rate
  | none => .error ⟨text⟩

end DataRate

end LoraNetwork
