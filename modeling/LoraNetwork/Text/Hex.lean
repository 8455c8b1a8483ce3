import LoraNetwork.Bytes

/-!
# Hexadecimal text

Byte strings are written as two digits per byte, and numbers as a fixed count of upper-case
digits. Reading accepts digits of either case and nothing else: no blanks, no sign and no
leading marker.
-/

namespace LoraNetwork.Text.Hex

/-- The lower-case digit of a number below sixteen. -/
def digit (n : Nat) : Char := Nat.digitChar (n % 16)

/-- The upper-case digit of a number below sixteen. -/
def upperDigit (n : Nat) : Char := (digit n).toUpper

/-- The number a digit of either case stands for. -/
def digitValue (c : Char) : Option Nat :=
  if '0' ≤ c ∧ c ≤ '9' then some (c.toNat - '0'.toNat)
  else if 'a' ≤ c ∧ c ≤ 'f' then some (c.toNat - 'a'.toNat + 10)
  else if 'A' ≤ c ∧ c ≤ 'F' then some (c.toNat - 'A'.toNat + 10)
  else none

/-- Two lower-case digits per byte. -/
def encodeChars (bytes : Bytes) : List Char :=
  bytes.flatMap fun byte => [digit (byte.toNat / 16), digit byte.toNat]

/-- The lower-case text of a byte string. -/
def encode (bytes : Bytes) : String := String.ofList (encodeChars bytes)

/-- The upper-case text of a byte string. -/
def encodeUpper (bytes : Bytes) : String :=
  String.ofList ((encodeChars bytes).map Char.toUpper)

/-- Reads pairs of digits; an odd digit or any other character refuses the whole text. -/
def decodeChars : List Char → Option Bytes
  | [] => some []
  | [_] => none
  | high :: low :: rest => do
    let h ← digitValue high
    let l ← digitValue low
    let tail ← decodeChars rest
    return UInt8.ofNat (16 * h + l) :: tail

/-- The bytes a hexadecimal text stands for. -/
def decode (text : String) : Option Bytes := decodeChars text.toList

/-- The last `count` upper-case digits of a number, most significant first. -/
def fixed : Nat → Nat → List Char
  | 0, _ => []
  | count + 1, n => fixed count (n / 16) ++ [upperDigit n]

/-- A number in upper-case digits, padded with zeros to a least count. -/
def atLeast (count n : Nat) : String :=
  String.ofList (fixed (max count (Nat.toDigits 16 n).length) n)

/-- A number in lower-case digits without padding. -/
def minimal (n : Nat) : String := String.ofList (Nat.toDigits 16 n)

end LoraNetwork.Text.Hex
