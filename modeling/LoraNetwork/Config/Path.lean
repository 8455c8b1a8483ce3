import LoraNetwork.Document.Value
import LoraNetwork.Text.Numeral

/-!
# Paths into a configuration

A setting is named by a path: a name, then names of members after points and positions in lists
between square brackets. A name that is no path is taken as it stands. Setting a value makes every
table and list on the way that is not there yet; a table that is set is merged into the one that is
there, member by member.
-/

namespace LoraNetwork

/-- One step from a value to a part of it. -/
inductive PathStep where
  /-- To the member with a name. -/
  | child (name : String)
  /-- To the item at a position; a negative one counts from the end. -/
  | item (position : Int)
  deriving DecidableEq, Repr

/-- A path from a table to a setting. -/
structure SettingPath where
  /-- The name of the first member. -/
  first : String
  /-- The steps after it. -/
  steps : List PathStep
  deriving DecidableEq, Repr

namespace SettingPath

/-- A character that names in a path may have. -/
def isNameChar (c : Char) : Bool :=
  ('a' ≤ c && c ≤ 'z') || ('A' ≤ c && c ≤ 'Z') || ('0' ≤ c && c ≤ '9') || c = '_' || c = '-' ||
    c = ' '

/-- Reads a name. -/
def nameOf (chars : List Char) : Option (String × List Char) :=
  let name := chars.takeWhile isNameChar
  if name.isEmpty then none else some (String.ofList name, chars.dropWhile isNameChar)

/-- A blank that may stand beside a position. -/
def isBlank (c : Char) : Bool := c = ' ' || c = '\t'

/-- Reads a position between brackets. -/
def positionOf (chars : List Char) : Option (Int × List Char) :=
  let inner := chars.takeWhile fun c => c ≠ ']'
  let trimmed := ((inner.dropWhile isBlank).reverse.dropWhile isBlank).reverse
  match chars.drop inner.length with
  | ']' :: rest =>
    if trimmed.head? = some '+' then none
    else (Text.Numeral.signed trimmed).map fun position => (position, rest)
  | _ => none

/-- Reads steps to the end of a text. -/
def stepsOf : Nat → List Char → Option (List PathStep)
  | _, [] => some []
  | 0, _ => none
  | fuel + 1, '.' :: rest => do
    let (name, rest) ← nameOf rest
    let steps ← stepsOf fuel rest
    return .child name :: steps
  | fuel + 1, '[' :: rest => do
    let (position, rest) ← positionOf rest
    let steps ← stepsOf fuel rest
    return .item position :: steps
  | _, _ => none

/-- Reads a path. -/
def parse (text : String) : Option SettingPath := do
  let (first, rest) ← nameOf text.toList
  let steps ← stepsOf rest.length rest
  return ⟨first, steps⟩

/-- The path that a text names: itself, if it is no path otherwise. -/
def ofText (text : String) : SettingPath := (parse text).getD ⟨text, []⟩

end SettingPath

namespace Value

mutual

/-- A value that is set where there was another one or none. -/
def mergedOver (existing : Option Value) : Value → Value
  | .table members => mergedMembers (existing.getD (.table [])) members
  | .null => .null
  | .bool b => .bool b
  | .integer n => .integer n
  | .real x => .real x
  | .nan negative => .nan negative
  | .text s => .text s
  | .list items => .list items

/-- A value with members set in it, one after the other. -/
def mergedMembers (target : Value) : List (String × Value) → Value
  | [] => target
  | entry :: rest =>
    mergedMembers
      (.table (putMember target.members entry.1
        (mergedOver (target.members.lookup entry.1) entry.2)))
      rest

end

/-- The items of a list, and none of any other value. -/
def items : Value → List Value
  | list items => items
  | _ => []

/-- The place of a position in a list of a given length. -/
def placeOf (position : Int) (length : Nat) : Nat :=
  if 0 ≤ position then position.toNat else length - (-position).toNat

/-- A list with another item at a place, filled up with nothing where it is too short. -/
def putItem (items : List Value) (place : Nat) (value : Value) : List Value :=
  (items ++ List.replicate (place + 1 - items.length) Value.null).set place value

/-- A value with a setting at the end of some steps. -/
def setAlong (value : Value) : List PathStep → Value → Value
  | [], _ => value
  | [.child name], target =>
    .table (putMember target.members name (mergedOver (target.members.lookup name) value))
  | [.item position], target =>
    .list (putItem target.items (placeOf position target.items.length) value)
  | .child name :: rest, target =>
    let inner := (target.members.lookup name).getD .null
    .table (putMember target.members name (setAlong value rest inner))
  | .item position :: rest, target =>
    let place := placeOf position target.items.length
    let inner := (target.items[place]?).getD .null
    .list (putItem target.items place (setAlong value rest inner))

/-- A configuration with a setting. -/
def setAt (target : Value) (path : SettingPath) (value : Value) : Value :=
  setAlong value (.child path.first :: path.steps) target

end Value

end LoraNetwork
