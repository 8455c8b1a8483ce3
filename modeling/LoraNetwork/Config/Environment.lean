import LoraNetwork.Document.Value
import LoraNetwork.Text.Numeral

/-!
# Settings from the environment

Environment variables whose names start with a mark, in any case, are settings. Two underscores in a
name stand for the point between the names of a path. A value is a truth value or a number if it
reads as one; a setting that is a list is split at commas, and every other value is text.
-/

namespace LoraNetwork.Environment

/-- The mark that the names of settings start with. -/
def mark : List Char := "lorans__".toList

/-- The settings that are lists. -/
def listSettings : List (List Char) := ["allowed_dev_addrs".toList]

/-- Writes a point for each pair of underscores. -/
def withPoints : List Char → List Char
  | '_' :: '_' :: rest => '.' :: withPoints rest
  | c :: rest => c :: withPoints rest
  | [] => []

/-- The kelvin sign, which is a capital letter. -/
def kelvinSign : Char := '\u212A'

/-- A letter of a name in lower case. Beyond the basic capital letters only the kelvin sign turns
into a letter that a name of a setting may have. -/
def lowerLetter (c : Char) : Char := if c = kelvinSign then 'k' else c.toLower

/-- The path that a variable sets, if it is a setting. -/
def pathOf (name : String) : Option (List Char) :=
  let lower := name.toList.map lowerLetter
  if mark.isPrefixOf lower then some (withPoints (lower.drop mark.length)) else none

/-- The parts of a text between commas. -/
def parts (chars : List Char) : List (List Char) :=
  match chars with
  | [] => [[]]
  | c :: rest =>
    match parts rest with
    | [] => [[c]]
    | first :: others => if c = ',' then [] :: first :: others else (c :: first) :: others

/-- The value of a setting. -/
def valueOf (path : List Char) (text : String) : Value :=
  let chars := text.toList
  let lower := chars.map Char.toLower
  if lower = "true".toList then .bool true
  else if lower = "false".toList then .bool false
  else
    match Text.Numeral.signed chars, Text.Numeral.decimal chars, Text.Numeral.nan chars with
    | some n, _, _ => .integer n
    | none, some x, _ => .real x
    | none, none, some negative => .nan negative
    | none, none, none =>
      if listSettings.contains path then
        .list ((parts chars).map fun part => .text (String.ofList part))
      else .text text

/-- The settings among named texts; of two with one path the last counts. -/
def settings (named : List (String × String)) : List (String × Value) :=
  named.foldl
    (fun table entry =>
      match pathOf entry.1 with
      | none => table
      | some path => Value.putMember table (String.ofList path) (valueOf path entry.2))
    []

end LoraNetwork.Environment
