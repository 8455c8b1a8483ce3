import LoraNetwork.Document.Value
import LoraNetwork.Text.Hex
import LoraNetwork.Text.Numeral

/-!
# JSON text

Reading structured values from JSON. The grammar is the standard one, without comments or trailing
commas, and values nest at most 127 deep. A name that occurs twice in a table keeps its last value.

A whole number of 64 bits, with or without a sign, is read exactly. Every other number has double
precision: the digits that fit 64 bits are scaled by powers of ten, which is exact up to rounding
for short numbers; a number too large for that is refused.
-/

namespace LoraNetwork.Json

open Text.Numeral (isDigit valueOf digitValue signedBound unsignedBound)

/-- A character that may stand between tokens. -/
def isBlank (c : Char) : Bool := c = ' ' || c = '\n' || c = '\t' || c = '\r'

/-- The text without the blanks it starts with. -/
def skipBlanks (chars : List Char) : List Char := chars.dropWhile isBlank

/-! ## Strings -/

/-- Reads the four digits of a numbered character. -/
def codeUnit : List Char → Option (Nat × List Char)
  | a :: b :: c :: d :: rest => do
    let high ← Text.Hex.decodeChars [a, b]
    let low ← Text.Hex.decodeChars [c, d]
    return (256 * Bytes.bigEndianValue high + Bytes.bigEndianValue low, rest)
  | _ => none

/-- Reads a numbered character after its mark. A character beyond the first plane is written as a
pair of surrogates, and no surrogate stands alone. -/
def numbered (chars : List Char) : Option (Char × List Char) := do
  let (first, rest) ← codeUnit chars
  if 0xD800 ≤ first ∧ first < 0xDC00 then
    match rest with
    | '\\' :: 'u' :: rest =>
      let (second, rest) ← codeUnit rest
      if 0xDC00 ≤ second ∧ second < 0xE000 then
        some (Char.ofNat (0x10000 + (first - 0xD800) * 0x400 + (second - 0xDC00)), rest)
      else none
    | _ => none
  else if 0xDC00 ≤ first ∧ first < 0xE000 then none
  else some (Char.ofNat first, rest)

/-- The characters that a letter after a backslash stands for. -/
def escapes : List (Char × Char) :=
  [('"', '"'), ('\\', '\\'), ('/', '/'), ('b', '\x08'), ('f', '\x0c'), ('n', '\n'), ('r', '\r'),
    ('t', '\t')]

/-- Reads one character of a string. -/
def character : List Char → Option (Char × List Char)
  | [] => none
  | '\\' :: 'u' :: rest => numbered rest
  | '\\' :: c :: rest => (escapes.lookup c).map fun meant => (meant, rest)
  | c :: rest => if c.toNat < 0x20 then none else some (c, rest)

/-- Reads a string after its opening quote. -/
def stringBody : Nat → List Char → Option (List Char × List Char)
  | 0, _ => none
  | _ + 1, '"' :: rest => some ([], rest)
  | fuel + 1, chars => do
    let (c, rest) ← character chars
    let (tail, rest) ← stringBody fuel rest
    return (c :: tail, rest)

/-- Reads a string. -/
def string : List Char → Option (String × List Char)
  | '"' :: rest => (stringBody rest.length rest).map fun read => (String.ofList read.1, read.2)
  | _ => none

/-! ## Numbers -/

/-- Takes digits into a significand for as long as it fits 64 bits: the significand and how many
digits were taken. -/
def absorb (significand : Nat) : List Char → Nat × Nat
  | [] => (significand, 0)
  | c :: rest =>
    let next := 10 * significand + (digitValue c).getD 0
    if next < unsignedBound then
      let taken := absorb next rest
      (taken.1, taken.2 + 1)
    else (significand, 0)

/-- The largest power of ten that a number is scaled by at once. -/
def largestPower : Nat := 308

/-- A number scaled by a power of ten, in several steps if it has to become very small. -/
def scale : Nat → Float → Int → Option Float
  | 0, x, _ => some x
  | fuel + 1, x, exponent =>
    if exponent.natAbs ≤ largestPower then
      let power := Decimal.nearest 1 (exponent.natAbs : Int)
      if 0 ≤ exponent then
        if (x * power).isInf then none else some (x * power)
      else some (x / power)
    else if x == 0.0 then some x
    else if 0 ≤ exponent then none
    else scale fuel (x / Decimal.nearest 1 (largestPower : Int)) (exponent + (largestPower : Int))

/-- The largest exponent that is written out. -/
def largestExponent : Nat := 2147483647

/-- The number with a significand and the exponents before and after the mark. -/
def realOf (significand : Nat) (ahead : Int) (negative : Bool) (written : Nat) : Option Float :=
  if largestExponent < written then
    if significand ≠ 0 ∧ negative = false then none else some 0.0
  else
    scale 4 (UInt64.ofNat significand).toFloat
      (if negative then ahead - (written : Int) else ahead + (written : Int))

/-- Reads an exponent, if there is one: its sign and its digits. -/
def exponentPart : List Char → Option (Option (Bool × List Char) × List Char)
  | c :: rest =>
    if c = 'e' ∨ c = 'E' then
      let (negative, rest) :=
        match rest with
        | '+' :: tail => (false, tail)
        | '-' :: tail => (true, tail)
        | _ => (false, rest)
      let digits := rest.takeWhile isDigit
      if digits.isEmpty then none else some (some (negative, digits), rest.dropWhile isDigit)
    else some (none, c :: rest)
  | [] => some (none, [])

/-- Reads a fraction, if there is one: its digits. -/
def fractionPart : List Char → Option (Option (List Char) × List Char)
  | '.' :: rest =>
    let digits := rest.takeWhile isDigit
    if digits.isEmpty then none else some (some digits, rest.dropWhile isDigit)
  | rest => some (none, rest)

/-- A whole number below the least that does not fit 64 bits. There is no negative zero among the
exact numbers. -/
def whole (negative : Bool) (n : Nat) : Value :=
  if negative = false then .integer n
  else if 0 < n ∧ n ≤ signedBound then .integer (-(n : Int))
  else .real (-(UInt64.ofNat n).toFloat)

/-- The number with given digits. -/
def numberOf (negative : Bool) (digits : List Char) (fraction : Option (List Char))
    (exponent : Option (Bool × List Char)) : Option Value := do
  let (significand, taken) := absorb 0 digits
  if fraction.isNone && exponent.isNone && taken = digits.length then
    return whole negative significand
  let (significand, fractionTaken) := absorb significand (fraction.getD [])
  let ahead : Int := ((digits.length - taken : Nat) : Int) - (fractionTaken : Int)
  let written := exponent.getD (false, [])
  let x ← realOf significand ahead written.1 (valueOf written.2)
  return .real (if negative then -x else x)

/-- Reads a number without its sign. -/
def magnitude (negative : Bool) (chars : List Char) : Option (Value × List Char) := do
  let digits := chars.takeWhile isDigit
  if digits.isEmpty || (digits.head? = some '0' && digits.length ≠ 1) then none
  let (fraction, rest) ← fractionPart (chars.dropWhile isDigit)
  let (exponent, rest) ← exponentPart rest
  let v ← numberOf negative digits fraction exponent
  return (v, rest)

/-- Reads a number. -/
def number : List Char → Option (Value × List Char)
  | '-' :: rest => magnitude true rest
  | chars => magnitude false chars

/-! ## Values -/

/-- Reads one or more things with commas between them, up to a closing bracket. -/
def separated {α : Type} (read : List Char → Option (α × List Char)) (close : Char) :
    Nat → List Char → Option (List α × List Char)
  | 0, _ => none
  | fuel + 1, chars => do
    let (item, rest) ← read chars
    match skipBlanks rest with
    | [] => none
    | c :: rest =>
      if c = ',' then
        let (items, rest) ← separated read close fuel rest
        return (item :: items, rest)
      else if c = close then return ([item], rest)
      else none

/-- Reads what stands between brackets, which may be nothing. -/
def bracketed {α : Type} (read : List Char → Option (α × List Char)) (close : Char)
    (chars : List Char) : Option (List α × List Char) :=
  match skipBlanks chars with
  | [] => none
  | c :: rest => if c = close then some ([], rest) else separated read close chars.length chars

/-- Reads a member of a table. -/
def memberOf (readValue : List Char → Option (Value × List Char)) (chars : List Char) :
    Option ((String × Value) × List Char) := do
  let (name, rest) ← string (skipBlanks chars)
  match skipBlanks rest with
  | ':' :: rest =>
    let (v, rest) ← readValue rest
    return ((name, v), rest)
  | _ => none

/-- The table of members, in which the last of one name counts. -/
def tableOf (members : List (String × Value)) : Value :=
  .table (members.foldl (fun table entry => Value.putMember table entry.1 entry.2) [])

/-- Reads a value that is one word. -/
def word (chars : List Char) : Option (Value × List Char) :=
  let words : List (String × Value) :=
    [("null", .null), ("true", .bool true), ("false", .bool false)]
  (words.find? fun entry => entry.1.toList.isPrefixOf chars).map fun entry =>
    (entry.2, chars.drop entry.1.length)

/-- Reads a value that may contain others to a depth. -/
def value : Nat → List Char → Option (Value × List Char)
  | 0, _ => none
  | depth + 1, chars =>
    match skipBlanks chars with
    | [] => none
    | c :: rest =>
      if c = '[' then
        if depth = 0 then none
        else (bracketed (value depth) ']' rest).map fun read => (.list read.1, read.2)
      else if c = '\x7b' then
        if depth = 0 then none
        else
          (bracketed (memberOf (value depth)) '\x7d' rest).map fun read =>
            (tableOf read.1, read.2)
      else if c = '"' then (string (c :: rest)).map fun read => (.text read.1, read.2)
      else if c = '-' ∨ isDigit c = true then number (c :: rest)
      else word (c :: rest)

/-- How deep values may nest, and one more. -/
def depthLimit : Nat := 128

/-- Reads a text that is one value. -/
def parse (text : String) : Option Value :=
  match value depthLimit text.toList with
  | none => none
  | some (v, rest) => if (skipBlanks rest).isEmpty then some v else none

end LoraNetwork.Json
