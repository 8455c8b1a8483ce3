import LoraNetwork.Document.Value
import LoraNetwork.Text.Hex
import LoraNetwork.Text.Numeral

/-!
# TOML scalars

Strings, numbers and times as TOML writes them. A time is kept as its text in the one form that has
a `T` between date and time and no zeros at the end of a fraction.
-/

namespace LoraNetwork.Toml

open Text.Numeral (isDigit digitValue)

/-- A character of a bare name. -/
def isBare (c : Char) : Bool := c.isAlphanum || c = '_' || c = '-'

/-- A blank within a line. -/
def isBlank (c : Char) : Bool := c = ' ' || c = '\t'

/-- The text without the blanks it starts with. -/
def skipBlanks (chars : List Char) : List Char := chars.dropWhile isBlank

/-! ## Strings -/

/-- A character that may stand in a string as it is. -/
def isPlain (c : Char) : Bool := c = '\t' || (0x20 ≤ c.toNat && c.toNat ≠ 0x7F)

/-- The characters that a letter after a backslash stands for. -/
def escapes : List (Char × Char) :=
  [('"', '"'), ('\\', '\\'), ('b', '\x08'), ('f', '\x0c'), ('n', '\n'), ('r', '\r'), ('t', '\t')]

/-- Reads a character written as so many digits. -/
def numbered (count : Nat) (chars : List Char) : Option (Char × List Char) := do
  let digits := chars.take count
  let bytes ← Text.Hex.decodeChars digits
  let code := Bytes.bigEndianValue bytes
  if digits.length = count ∧ code.isValidChar then some (Char.ofNat code, chars.drop count)
  else none

/-- Reads what follows a backslash. -/
def escaped : List Char → Option (Char × List Char)
  | 'u' :: rest => numbered 4 rest
  | 'U' :: rest => numbered 8 rest
  | c :: rest => (escapes.lookup c).map fun meant => (meant, rest)
  | [] => none

/-- What is left after a backslash at the end of a line: the line breaks and blanks after it do not
count. -/
def continued (chars : List Char) : Option (List Char) :=
  match skipBlanks chars with
  | '\n' :: rest => some (rest.dropWhile fun c => isBlank c || c = '\n')
  | _ => none

/-- Reads a quoted string of one line after its opening quote. -/
def lineString (quote : Char) : Nat → List Char → Option (List Char × List Char)
  | 0, _ | _, [] => none
  | fuel + 1, c :: rest =>
    if c = quote then some ([], rest)
    else do
      let (c, rest) ← if c = '\\' ∧ quote = '"' then escaped rest
        else if isPlain c then some (c, rest) else none
      let (tail, rest) ← lineString quote fuel rest
      return (c :: tail, rest)

/-- Splits what follows three quotes at the end of a string. Of a longer row of quotes the last
three close the string, and up to two before them belong to it. -/
def closing (quote : Char) (chars : List Char) : List Char × List Char :=
  let kept := (chars.take 2).takeWhile fun c => c = quote
  (kept, chars.drop kept.length)

/-- Reads a quoted string of several lines after its opening quotes. -/
def blockString (quote : Char) : Nat → List Char → Option (List Char × List Char)
  | 0, _ | _, [] => none
  | fuel + 1, c :: rest =>
    if [quote, quote, quote].isPrefixOf (c :: rest) then some (closing quote (rest.drop 2))
    else if c = '\\' ∧ quote = '"' then
      match continued rest with
      | some rest => blockString quote fuel rest
      | none => do
        let (c, rest) ← escaped rest
        let (tail, rest) ← blockString quote fuel rest
        return (c :: tail, rest)
    else if isPlain c ∨ c = '\n' then do
      let (tail, rest) ← blockString quote fuel rest
      return (c :: tail, rest)
    else none

/-- A line break right after the opening quotes does not count. -/
def withoutFirstBreak : List Char → List Char
  | '\n' :: rest => rest
  | chars => chars

/-- Reads a string from its opening quote; strings of several lines are allowed or not. -/
def string (blocks : Bool) : List Char → Option (String × List Char)
  | [] => none
  | quote :: rest =>
    if quote ≠ '"' ∧ quote ≠ '\'' then none
    else
      let read :=
        if [quote, quote].isPrefixOf rest then
          if blocks then
            let body := withoutFirstBreak (rest.drop 2)
            blockString quote (body.length + 1) body
          else none
        else lineString quote (rest.length + 1) rest
      read.map fun (chars, rest) => (String.ofList chars, rest)

/-! ## Numbers -/

/-- The digits of a number without the underscores between them; none if there is no digit or an
underscore does not stand between two digits. -/
def digitsOf (isDigit : Char → Bool) (chars : List Char) : Option (List Char) :=
  let digits := chars.filter fun c => c ≠ '_'
  let doubled := (chars.zip (chars.drop 1)).any fun pair => pair.1 = '_' && pair.2 = '_'
  if digits.isEmpty || !digits.all isDigit || chars.head? = some '_' || chars.getLast? = some '_' ||
      doubled then none
  else some digits

/-- Takes a sign off an exponent. -/
def signOf : List Char → Bool × List Char
  | '+' :: rest => (false, rest)
  | '-' :: rest => (true, rest)
  | chars => (false, chars)

/-- The digits before a point: no zero in front of others. -/
def wholeDigits (chars : List Char) : Option (List Char) := do
  let digits ← digitsOf isDigit chars
  if digits.head? = some '0' ∧ digits.length ≠ 1 then none else some digits

/-- A whole number that fits 64 bits with its sign. -/
def fitted (negative : Bool) (n : Nat) : Option Value :=
  let value : Int := if negative then -(n : Int) else n
  if Text.Numeral.fitsSigned value then some (.integer value) else none

/-- A digit in a base. -/
def isDigitIn (base : Nat) (c : Char) : Bool :=
  (Text.Hex.digitValue c).any fun value => value < base

/-- A number in a base other than ten. -/
def based (base : Nat) (chars : List Char) : Option Value := do
  let digits ← digitsOf (isDigitIn base) chars
  fitted false (digits.foldl (fun n c => base * n + (Text.Hex.digitValue c).getD 0) 0)

/-- A number that is not whole: digits, then a fraction or an exponent or both. -/
def real (negative : Bool) (chars : List Char) : Option Value := do
  let isMark := fun (c : Char) => c = 'e' || c = 'E'
  let mantissa := chars.takeWhile fun c => !isMark c
  let whole ← wholeDigits (mantissa.takeWhile fun c => c ≠ '.')
  let fraction ←
    match mantissa.dropWhile fun c => c ≠ '.' with
    | [] => some []
    | _ :: rest => digitsOf isDigit rest
  let exponent : Int ←
    match chars.dropWhile fun c => !isMark c with
    | [] => some 0
    | _ :: rest =>
      let (below, rest) := signOf rest
      (digitsOf isDigit rest).map fun digits =>
        let n : Int := Text.Numeral.valueOf digits
        if below then -n else n
  let x := Decimal.nearest (Text.Numeral.valueOf (whole ++ fraction)) (exponent - fraction.length)
  if x.isInf then none else some (.real (if negative then -x else x))

/-- Takes a minus sign off a number. -/
def minusOf : List Char → Bool × List Char
  | '-' :: rest => (true, rest)
  | chars => (false, chars)

/-- A number without a plus sign before it. -/
def plainNumber (chars : List Char) : Option Value :=
  let (negative, rest) := minusOf chars
  if rest = "inf".toList then some (.real (if negative then -1.0 / 0.0 else 1.0 / 0.0))
  else if rest = "nan".toList then some (.nan negative)
  else
    match rest with
    | '0' :: 'x' :: digits => if negative then none else based 16 digits
    | '0' :: 'o' :: digits => if negative then none else based 8 digits
    | '0' :: 'b' :: digits => if negative then none else based 2 digits
    | _ =>
      if rest.any fun c => c = '.' || c = 'e' || c = 'E' then real negative rest
      else (wholeDigits rest).bind fun digits => fitted negative (Text.Numeral.valueOf digits)

/-- A number. A plus sign before it does not count, not even before a minus sign. -/
def number : List Char → Option Value
  | '+' :: rest => plainNumber rest
  | chars => plainNumber chars

/-! ## Times -/

/-- Reads so many digits as a number between two bounds. -/
def clockNumber (count low high : Nat) (chars : List Char) : Option (List Char × List Char) :=
  let digits := chars.take count
  let value := Text.Numeral.valueOf digits
  if digits.length = count ∧ digits.all isDigit ∧ low ≤ value ∧ value ≤ high then
    some (digits, chars.drop count)
  else none

/-- Reads one given character. -/
def expect (c : Char) : List Char → Option (List Char)
  | first :: rest => if first = c then some rest else none
  | [] => none

/-- Reads a date. -/
def date (chars : List Char) : Option (List Char × List Char) := do
  let (year, rest) ← clockNumber 4 0 9999 chars
  let (month, rest) ← clockNumber 2 1 12 (← expect '-' rest)
  let (day, rest) ← clockNumber 2 1 31 (← expect '-' rest)
  return (year ++ '-' :: month ++ '-' :: day, rest)

/-- Reads the fraction of a second: nine digits count. -/
def fractionOfSecond : List Char → Option (List Char × List Char)
  | '.' :: rest =>
    let digits := rest.takeWhile isDigit
    let kept := ((digits.take 9).reverse.dropWhile fun c => c = '0').reverse
    if digits.isEmpty then none
    else some (if kept.isEmpty then [] else '.' :: kept, rest.dropWhile isDigit)
  | rest => some ([], rest)

/-- Reads a time of day. -/
def timeOfDay (chars : List Char) : Option (List Char × List Char) := do
  let (hour, rest) ← clockNumber 2 0 24 chars
  let (minute, rest) ← clockNumber 2 0 59 (← expect ':' rest)
  let (second, rest) ← clockNumber 2 0 59 (← expect ':' rest)
  let (fraction, rest) ← fractionOfSecond rest
  return (hour ++ ':' :: minute ++ ':' :: second ++ fraction, rest)

/-- Reads the offset from universal time to the end. Its sign is that of its hours, so that an
offset of no whole hour has a plus sign. -/
def offset : List Char → Option (List Char)
  | [] => some []
  | ['Z'] | ['z'] => some ['Z']
  | sign :: rest =>
    if sign ≠ '+' ∧ sign ≠ '-' then none
    else do
      let (hour, rest) ← clockNumber 2 0 99 rest
      let (minute, rest) ← clockNumber 2 0 99 (← expect ':' rest)
      let sign := if hour = ['0', '0'] then '+' else sign
      if rest.isEmpty then some (sign :: hour ++ ':' :: minute) else none

/-- A date, a time of day, or both with an offset or without. -/
def time (chars : List Char) : Option String :=
  let written :=
    match date chars with
    | none =>
      match timeOfDay chars with
      | some (text, []) => some text
      | _ => none
    | some (day, []) => some day
    | some (day, mark :: rest) =>
      if mark = 'T' ∨ mark = 't' ∨ mark = ' ' then do
        let (clock, rest) ← timeOfDay rest
        let zone ← offset rest
        some (day ++ 'T' :: clock ++ zone)
      else none
  written.map String.ofList

end LoraNetwork.Toml
