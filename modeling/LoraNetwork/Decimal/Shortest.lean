/-!
# The shortest decimal of a number

A number of double precision stands for every real that rounds to it. Among the decimals in that
interval the shortest is written, and of those the nearest to the number itself. All digits are
written out: there is no exponent, and a whole number has no point.
-/

namespace LoraNetwork.Decimal

/-- A positive number and the interval of reals that round to it, over a common denominator. -/
structure Interval where
  /-- The numerator of the lower end. -/
  low : Nat
  /-- The numerator of the number. -/
  value : Nat
  /-- The numerator of the upper end. -/
  high : Nat
  /-- The denominator. -/
  den : Nat
  /-- The ends themselves round to the number. -/
  closed : Bool

namespace Interval

/-- The interval around `significand * 2 ^ unit`. Below a power of two the numbers lie twice as
close, unless they have reached the least unit. -/
def around (significand : Nat) (unit : Int) (atBoundary : Bool) : Interval :=
  let below := if atBoundary then 1 else 2
  let up := (unit - 2).toNat
  let down := (2 - unit).toNat
  { low := (4 * significand - below) * Nat.pow 2 up
    value := 4 * significand * Nat.pow 2 up
    high := (4 * significand + 2) * Nat.pow 2 up
    den := Nat.pow 2 down
    closed := significand % 2 = 0 }

/-- The interval in units of a power of ten. -/
def scaled (i : Interval) (exponent : Int) : Interval :=
  let factor := Nat.pow 10 (-exponent).toNat
  { i with
    low := i.low * factor
    value := i.value * factor
    high := i.high * factor
    den := i.den * Nat.pow 10 exponent.toNat }

/-- A whole number of units lies in the interval. -/
def holds (i : Interval) (n : Nat) : Bool :=
  if i.closed then i.low ≤ n * i.den && n * i.den ≤ i.high
  else i.low < n * i.den && n * i.den < i.high

/-- The whole number of units nearest to the number among its two neighbours that lie in the
interval. -/
def hit (i : Interval) : Option Nat :=
  let below := i.value / i.den
  match i.holds below && 0 < below, i.holds (below + 1) with
  | false, false => none
  | true, false => some below
  | false, true => some (below + 1)
  | true, true =>
    if 2 * (i.value % i.den) < i.den then some below else some (below + 1)

/-- Searches finer and finer powers of ten for a hit. -/
def search (i : Interval) : Nat → Int → Nat × Int
  | 0, exponent => (0, exponent)
  | fuel + 1, exponent =>
    match (i.scaled exponent).hit with
    | some digits => (digits, exponent)
    | none => search i fuel (exponent - 1)

/-- The exponent of the first digit of the number, or one more. -/
def firstExponent (i : Interval) : Int :=
  if i.den ≤ i.value then ((Nat.toDigits 10 (i.value / i.den)).length : Int)
  else 1 - ((Nat.toDigits 10 (i.den / i.value)).length : Int)

/-- The shortest decimal in the interval: its digits and the exponent of the last one. Eighteen
digits are always enough. -/
def shortest (i : Interval) : Nat × Int := i.search 20 i.firstExponent

end Interval

/-- The interval of a positive finite number, from its bits. -/
def intervalOfBits (bits : Nat) : Interval :=
  let fraction : Nat := bits % Nat.pow 2 52
  let biased : Nat := bits / Nat.pow 2 52 % 2048
  if biased = 0 then Interval.around fraction (-1074) false
  else Interval.around (fraction + Nat.pow 2 52) ((biased : Int) - 1075) (fraction = 0 ∧ biased ≠ 1)

/-- The digits of a positive decimal written out. -/
def positional (digits : Nat) (exponent : Int) : List Char :=
  let chars := Nat.toDigits 10 digits
  if 0 ≤ exponent then chars ++ List.replicate exponent.toNat '0'
  else
    let places := (-exponent).toNat
    let padded := List.replicate (places + 1 - chars.length) '0' ++ chars
    padded.take (padded.length - places) ++ '.' :: padded.drop (padded.length - places)

/-- The text of a number. -/
def text (x : Float) : String :=
  let bits := x.toBits.toNat
  let sign := if Nat.pow 2 63 ≤ bits then "-" else ""
  let magnitude := bits % Nat.pow 2 63
  if x.isNaN then "NaN"
  else if x.isInf then sign ++ "inf"
  else if magnitude = 0 then sign ++ "0"
  else
    let (digits, exponent) := (intervalOfBits magnitude).shortest
    sign ++ String.ofList (positional digits exponent)

end LoraNetwork.Decimal
