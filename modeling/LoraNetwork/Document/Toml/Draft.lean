import LoraNetwork.Document.Toml.Scalar

/-!
# TOML values as they are written

A value of a text is first taken down as it is written, and turned into a structured value when the
table that it belongs to is complete. Two rules wait until then: no two members of a table have one
name, and a table whose first member has the name kept for times is that time.
-/

namespace LoraNetwork.Toml

/-- A value as it is written. -/
inductive Draft where
  /-- A string, a number or a truth value. -/
  | scalar (value : Value)
  /-- A time. -/
  | time (text : String)
  /-- A list. -/
  | list (items : List Draft)
  /-- A table: one that names with points made, or one in braces. -/
  | table (dotted : Bool) (members : List (String × Draft))

/-- Members of a table as they are written. -/
abbrev Settings := List (String × Draft)

/-- The name kept for times. -/
def timeName : String := "$__toml_private_datetime"

namespace Settings

/-- Changes the first member with a name, or makes one. -/
def alter (name : String) (f : Option Draft → Option Draft) : Settings → Option Settings
  | [] => (f none).map fun draft => [(name, draft)]
  | entry :: rest =>
    if entry.1 = name then (f (some entry.2)).map fun draft => (name, draft) :: rest
    else (alter name f rest).map fun rest => entry :: rest

/-- Adds a value under a name with points: the names before the last lead through tables that such
names made, or make them. -/
def add (draft : Draft) (last : String) : List String → Settings → Option Settings
  | [], settings => some (settings ++ [(last, draft)])
  | name :: path, settings =>
    settings.alter name fun
      | none => (add draft last path []).map (Draft.table true)
      | some (.table true inner) => (add draft last path inner).map (Draft.table true)
      | some _ => none

/-- Whether the first member has the name kept for times. -/
def startWithTime (settings : Settings) : Bool :=
  match settings with
  | [] => false
  | entry :: _ => entry.1 = timeName

/-- The time that the first member is, if it is the text of one. -/
def firstTime? (settings : Settings) : Option Value :=
  match settings with
  | (_, .scalar (.text s)) :: _ => (time s.toList).map Value.text
  | _ => none

end Settings

mutual

/-- The structured value. -/
def Draft.value? : Draft → Option Value
  | .scalar v => some v
  | .time text => some (.text text)
  | .list items => (itemValues? items).map Value.list
  | .table _ members =>
    if Settings.startWithTime members then Settings.firstTime? members
    else (memberValues? [] members).map Value.table

/-- The structured values of items. -/
def itemValues? : List Draft → Option (List Value)
  | [] => some []
  | draft :: rest => do
    let item ← draft.value?
    let items ← itemValues? rest
    return item :: items

/-- The structured values of members, none of which may have the name of another or a name that is
taken. -/
def memberValues? (taken : List String) : List (String × Draft) → Option (List (String × Value))
  | [] => some []
  | (name, draft) :: rest =>
    if taken.contains name then none
    else do
      let v ← draft.value?
      let members ← memberValues? (name :: taken) rest
      return (name, v) :: members

end

end LoraNetwork.Toml
