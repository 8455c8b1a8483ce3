import LoraNetwork.Decimal.Nearest

/-!
# Numerals

Reading numbers from text. A numeral is the whole text: blanks are not skipped. Whole numbers have a
range and a text beyond it is no numeral; decimals round to the nearest number instead.
-/

namespace LoraNetwork.Text.Numeral

/-- The value of a decimal digit. -/
def digitValue (c : Char) : Option Nat :=
  if '0' ≤ c ∧ c ≤ '9' then some (c.toNat - '0'.toNat) else none

/-- A character is a decimal digit. -/
def isDigit (c : Char) : Bool := (digitValue c).isSome

/-- The number that digits stand for. -/
def valueOf (digits : List Char) : Nat :=
  digits.foldl (fun n c => 10 * n + (digitValue c).getD 0) 0

/-- A natural number from one or more digits. -/
def natural (chars : List Char) : Option Nat :=
  if chars.isEmpty || !chars.all isDigit then none else some (valueOf chars)

/-- The least number that does not fit 64 bits. -/
def unsignedBound : Nat := 18446744073709551616

/-- The numbers of 64 bits with a sign go from minus this bound to one below it. -/
def signedBound : Nat := 9223372036854775808

/-- A number of 64 bits, with or without a plus sign. -/
def unsigned (chars : List Char) : Option Nat := do
  let n ←
    match chars with
    | '+' :: rest => natural rest
    | _ => natural chars
  if n < unsignedBound then some n else none

/-- A number is one of 64 bits with a sign. -/
def fitsSigned (n : Int) : Bool := -(signedBound : Int) ≤ n && n < (signedBound : Int)

/-- A number of 64 bits with a sign, which is written or left out. -/
def signed (chars : List Char) : Option Int := do
  let n : Int ←
    match chars with
    | '+' :: rest => (natural rest).map Int.ofNat
    | '-' :: rest => (natural rest).map fun n => -Int.ofNat n
    | _ => (natural chars).map Int.ofNat
  if fitsSigned n then some n else none

/-- An exponent: a sign or none, and digits to the end. -/
def exponent (chars : List Char) : Option Int :=
  match chars with
  | '+' :: rest => (natural rest).map Int.ofNat
  | '-' :: rest => (natural rest).map fun n => -Int.ofNat n
  | _ => (natural chars).map Int.ofNat

/-- The magnitude of a decimal: digits with a point or none, at least one digit, and an exponent or
none. -/
def decimalMagnitude (chars : List Char) : Option Float := do
  let whole := chars.takeWhile isDigit
  let afterWhole := chars.dropWhile isDigit
  let (fraction, rest) :=
    match afterWhole with
    | '.' :: tail => (tail.takeWhile isDigit, tail.dropWhile isDigit)
    | _ => ([], afterWhole)
  if whole.isEmpty && fraction.isEmpty then none
  let scale ←
    match rest with
    | [] => some 0
    | c :: tail => if c = 'e' ∨ c = 'E' then exponent tail else none
  return Decimal.nearest (valueOf (whole ++ fraction)) (scale - fraction.length)

/-- A magnitude that is spelled or written in digits. -/
def magnitude (chars : List Char) : Option Float :=
  let word := chars.map Char.toLower
  if word = "inf".toList ∨ word = "infinity".toList then some (1.0 / 0.0)
  else decimalMagnitude chars

/-- A number of double precision, with or without a sign. -/
def decimal (chars : List Char) : Option Float :=
  match chars with
  | '+' :: rest => magnitude rest
  | '-' :: rest => (magnitude rest).map fun x => -x
  | _ => magnitude chars

/-- Whether a text spells what is no number, without a sign. -/
def spellsNan (chars : List Char) : Bool := chars.map Char.toLower = "nan".toList

/-- The sign of what is no number, if a text spells it: whether it is a minus sign. -/
def nan (chars : List Char) : Option Bool :=
  match chars with
  | '+' :: rest => if spellsNan rest then some false else none
  | '-' :: rest => if spellsNan rest then some true else none
  | _ => if spellsNan chars then some false else none

end LoraNetwork.Text.Numeral
