import LoraNetwork.Document.Toml.Section

/-!
# TOML text

Reading values from TOML. A text is a sequence of lines: headers that start a section, and settings
with names that may have points. A mark of byte order at the very start does not count.
-/

namespace LoraNetwork.Toml

open Text.Numeral (isDigit)

/-- The mark of byte order. -/
def byteOrderMark : Char := '\uFEFF'

/-- The text without a mark of byte order that it starts with. -/
def withoutMark : List Char → List Char
  | c :: rest => if c = byteOrderMark then rest else c :: rest
  | [] => []

/-- The text with every line break written in one way. -/
def withPlainBreaks : List Char → List Char
  | '\r' :: '\n' :: rest => '\n' :: withPlainBreaks rest
  | c :: rest => c :: withPlainBreaks rest
  | [] => []

/-- The text without a comment it starts with. -/
def skipComment : List Char → List Char
  | '#' :: rest => rest.dropWhile fun c => c = '\t' || 0x20 ≤ c.toNat
  | chars => chars

/-- The text without the blanks, comments and line breaks it starts with. -/
def skipLines : Nat → List Char → List Char
  | 0, chars => chars
  | fuel + 1, chars =>
    match skipComment (skipBlanks chars) with
    | '\n' :: rest => skipLines fuel rest
    | rest => rest

/-! ## Names -/

/-- Reads one name: bare or quoted. -/
def simpleName (chars : List Char) : Option (String × List Char) :=
  match chars with
  | [] => none
  | c :: _ =>
    if c = '"' ∨ c = '\'' then string false chars
    else
      let bare := chars.takeWhile isBare
      if bare.isEmpty then none else some (String.ofList bare, chars.dropWhile isBare)

/-- Reads a name with points: the names before the last, and the last. -/
def dottedName : Nat → List Char → Option ((List String × String) × List Char)
  | 0, _ => none
  | fuel + 1, chars => do
    let (name, rest) ← simpleName (skipBlanks chars)
    match skipBlanks rest with
    | '.' :: rest =>
      let ((path, last), rest) ← dottedName fuel rest
      return ((name :: path, last), rest)
    | rest => return (([], name), rest)

/-! ## Values -/

/-- A character of a number or a time. -/
def isWordChar (c : Char) : Bool := isBare c || c = '+' || c = '.' || c = ':'

/-- Reads a value that is one word. A date and a time of day may have one blank between them. -/
def word (chars : List Char) : Option (Draft × List Char) :=
  let first := chars.takeWhile isWordChar
  let rest := chars.dropWhile isWordChar
  let (taken, rest) :=
    match (date first).map Prod.snd, rest with
    | some [], ' ' :: tail =>
      if (tail.head?.map isDigit).getD false then
        (first ++ ' ' :: tail.takeWhile isWordChar, tail.dropWhile isWordChar)
      else (first, rest)
    | _, _ => (first, rest)
  let draft :=
    if taken = "true".toList then some (.scalar (.bool true))
    else if taken = "false".toList then some (.scalar (.bool false))
    else ((time taken).map Draft.time).or ((number taken).map Draft.scalar)
  draft.map fun d => (d, rest)

/-- Reads the items of a list after its opening bracket. -/
def listItems (read : List Char → Option (Draft × List Char)) :
    Nat → List Char → Option (List Draft × List Char)
  | 0, _ => none
  | fuel + 1, chars =>
    match skipLines chars.length chars with
    | ']' :: rest => some ([], rest)
    | chars => do
      let (item, rest) ← read chars
      match skipLines rest.length rest with
      | ',' :: rest =>
        let (items, rest) ← listItems read fuel rest
        return (item :: items, rest)
      | ']' :: rest => return ([item], rest)
      | _ => none

/-- Reads a name, an equals sign and a value. -/
def assignment (read : List Char → Option (Draft × List Char)) (chars : List Char) :
    Option ((List String × String × Draft) × List Char) := do
  let ((path, last), rest) ← dottedName chars.length chars
  let (draft, rest) ← read (skipBlanks (← expect '=' rest))
  return ((path, last, draft), skipBlanks rest)

/-- Reads the members of a table on one line after its opening brace. -/
def inlineMembers (read : List Char → Option (Draft × List Char)) (members : Settings) :
    Nat → List Char → Option (Settings × List Char)
  | 0, _ => none
  | fuel + 1, chars => do
    let ((path, last, draft), rest) ← assignment read chars
    let members ← Settings.add draft last path members
    match rest with
    | c :: rest =>
      if c = ',' then inlineMembers read members fuel rest
      else if c = '\x7d' then return (members, rest)
      else none
    | [] => none

/-- Reads a table on one line after its opening brace. -/
def inlineTable (read : List Char → Option (Draft × List Char)) (chars : List Char) :
    Option (Draft × List Char) :=
  match skipBlanks chars with
  | [] => none
  | c :: rest =>
    if c = '\x7d' then some (.table false [], rest)
    else
      (inlineMembers read [] chars.length chars).map fun read => (.table false read.1, read.2)

/-- Reads a value that may contain others to a depth. -/
def value : Nat → List Char → Option (Draft × List Char)
  | 0, _ => none
  | depth + 1, chars =>
    match chars with
    | [] => none
    | c :: rest =>
      if c = '[' then
        (listItems (value depth) (rest.length + 1) rest).map fun read => (.list read.1, read.2)
      else if c = '\x7b' then inlineTable (value depth) rest
      else if c = '"' ∨ c = '\'' then
        (string true chars).map fun read => (.scalar (.text read.1), read.2)
      else word chars

/-! ## Lines -/

/-- A text as read so far: its sections. -/
structure Reading where
  /-- The section that the next line belongs to. -/
  current : Section := {}
  /-- The sections before it, the latest first. -/
  earlier : List Section := []

/-- The sections in order. -/
def Reading.sections (r : Reading) : List Section := (r.current :: r.earlier).reverse

/-- Reads a header after its opening bracket, or brackets if it adds to a list of tables. -/
def header (added : Bool) (chars : List Char) (r : Reading) : Option (Reading × List Char) := do
  let ((path, last), rest) ← dottedName chars.length chars
  let rest ← expect ']' rest
  let rest ← if added then expect ']' rest else some rest
  return (⟨⟨path ++ [last], added, []⟩, r.current :: r.earlier⟩, rest)

/-- Reads one line that is not empty. -/
def line (chars : List Char) (r : Reading) : Option (Reading × List Char) :=
  match chars with
  | '[' :: '[' :: rest => header true rest r
  | '[' :: rest => header false rest r
  | _ => do
    let ((path, last, draft), rest) ← assignment (value chars.length) chars
    let settings ← Settings.add draft last path r.current.settings
    return ({ r with current := { r.current with settings := settings } }, rest)

/-- Reads lines to the end of a text. -/
def lines : Nat → List Char → Reading → Option Reading
  | 0, _, _ => none
  | fuel + 1, chars, r =>
    match skipLines (chars.length + 1) chars with
    | [] => some r
    | chars => do
      let (r, rest) ← line chars r
      match skipComment (skipBlanks rest) with
      | [] => some r
      | '\n' :: rest => lines fuel rest r
      | _ => none

/-- Reads a text. -/
def parse (text : String) : Option Value := do
  let chars := withoutMark (withPlainBreaks text.toList)
  let r ← lines (chars.length + 1) chars {}
  Section.root? r.sections

end LoraNetwork.Toml
