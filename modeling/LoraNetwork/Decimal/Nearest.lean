/-!
# The number nearest to a decimal

A decimal `digits * 10 ^ exponent` is rounded to double precision in exact arithmetic: to the
nearest number there is, and to the one with the even significand when two are equally near.
Decimals beyond the largest number become infinite.
-/

namespace LoraNetwork.Decimal

/-- The quotient of two numbers, rounded to the nearest; a half goes to the even neighbour. -/
def roundDiv (num den : Nat) : Nat :=
  let below := num / den
  let twice := 2 * (num % den)
  if twice < den then below
  else if den < twice then below + 1
  else below + below % 2

/-- The exponent of the highest power of two that is not above a positive fraction. -/
def log2Div (num den : Nat) : Int :=
  let guess : Int := (num.log2 : Int) - den.log2
  let reached :=
    if 0 ≤ guess then den * Nat.pow 2 guess.toNat ≤ num
    else den ≤ num * Nat.pow 2 (-guess).toNat
  if reached then guess else guess - 1

/-- The least exponent of a unit in the last place. -/
def leastUnit : Int := -1074

/-- The bits of positive infinity. -/
def infinityBits : Nat := 0x7FF0000000000000

/-- The bits of the number nearest to a positive fraction. The significand may round up to the next
power of two; adding it to the exponent field then carries into the exponent, as it should. -/
def nearestBits (num den : Nat) : Nat :=
  let unit := max (log2Div num den - 52) leastUnit
  let significand :=
    if 0 ≤ unit then roundDiv num (den * Nat.pow 2 unit.toNat)
    else roundDiv (num * Nat.pow 2 (-unit).toNat) den
  min ((unit - leastUnit).toNat * Nat.pow 2 52 + significand) infinityBits

/-- The decimal exponents beyond which every decimal is infinite or zero. -/
def exponentBound : Int := 400

/-- The number nearest to `digits * 10 ^ exponent`. -/
def nearest (digits : Nat) (exponent : Int) : Float :=
  let magnitude := exponent + ((Nat.toDigits 10 digits).length : Int)
  if digits = 0 ∨ magnitude < -exponentBound then 0.0
  else if exponentBound < magnitude then Float.ofBits (UInt64.ofNat infinityBits)
  else if 0 ≤ exponent then
    Float.ofBits (UInt64.ofNat (nearestBits (digits * Nat.pow 10 exponent.toNat) 1))
  else Float.ofBits (UInt64.ofNat (nearestBits digits (Nat.pow 10 (-exponent).toNat)))

end LoraNetwork.Decimal
