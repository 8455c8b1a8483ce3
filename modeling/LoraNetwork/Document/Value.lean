import LoraNetwork.Bytes

/-!
# Structured values

Configurations, scripts and reports are trees of values: scalars, lists, and tables whose members
have names. Types of the network are written as such values and read from them by the two classes of
this module. A member that is absent and a member that is null are the same to a reader.
-/

namespace LoraNetwork

/-- A structured value. -/
inductive Value where
  /-- Nothing. -/
  | null
  /-- A truth value. -/
  | bool (value : Bool)
  /-- A whole number. -/
  | integer (value : Int)
  /-- A number that need not be whole. -/
  | real (value : Float)
  /-- What is no number, with its sign. -/
  | nan (negative : Bool)
  /-- A text. -/
  | text (value : String)
  /-- Values in order. -/
  | list (items : List Value)
  /-- Values with names. -/
  | table (members : List (String × Value))
  deriving Inhabited

/-- Why a value could not be read. -/
inductive FormError where
  /-- A member is absent. -/
  | absent (name : String)
  /-- A value of another form was expected. -/
  | expected (form : String)
  deriving DecidableEq, Repr

/-- Types whose values are written as structured values. -/
class ToValue (α : Type) where
  /-- The structured form. -/
  toValue : α → Value

/-- Types whose values are read from structured values. -/
class OfValue (α : Type) where
  /-- Reads the structured form. -/
  ofValue : Value → Except FormError α

export ToValue (toValue)
export OfValue (ofValue)

/-- A member with a name. -/
def member {α : Type} [ToValue α] (name : String) (value : α) : String × Value :=
  (name, toValue value)

/-- A member with a name, or none at all. -/
def memberIfSome {α : Type} [ToValue α] (name : String) (value : Option α) :
    List (String × Value) :=
  match value with
  | none => []
  | some v => [member name v]

namespace Value

/-- The member of a table with a name, if it is present and not null. -/
def find? (v : Value) (name : String) : Option Value :=
  match v with
  | table members =>
    match members.lookup name with
    | some null => none
    | found => found
  | _ => none

/-- The members of a table with another value for a name. -/
def putMember (members : List (String × Value)) (name : String) (value : Value) :
    List (String × Value) :=
  match members with
  | [] => [(name, value)]
  | entry :: rest =>
    if entry.1 = name then (name, value) :: rest else entry :: putMember rest name value

/-- The members of a table, and none of any other value. -/
def members : Value → List (String × Value)
  | table members => members
  | _ => []

/-- Reads a member that may be absent. -/
def get? {α : Type} [OfValue α] (v : Value) (name : String) : Except FormError (Option α) :=
  match v.find? name with
  | none => .ok none
  | some member => (ofValue member).map some

/-- Reads a member that must be present. -/
def get {α : Type} [OfValue α] (v : Value) (name : String) : Except FormError α :=
  match v.find? name with
  | none => .error (.absent name)
  | some member => ofValue member

/-- Reads a member, with a default for an absent one. -/
def getD {α : Type} [OfValue α] (v : Value) (name : String) (default : α) : Except FormError α :=
  match v.find? name with
  | none => .ok default
  | some member => ofValue member

/-- Whether a flag is set; an absent one is not. -/
def flag [OfValue Bool] (v : Value) (name : String) : Except FormError Bool := v.getD name false

end Value

/-! ## Scalars and lists -/

instance : ToValue Value := ⟨id⟩
instance : ToValue Bool := ⟨.bool⟩
instance : ToValue String := ⟨.text⟩
instance : ToValue Int := ⟨.integer⟩
instance : ToValue Nat := ⟨fun n => .integer n⟩
instance : ToValue UInt8 := ⟨fun n => toValue n.toNat⟩
instance : ToValue UInt16 := ⟨fun n => toValue n.toNat⟩
instance : ToValue UInt32 := ⟨fun n => toValue n.toNat⟩
instance : ToValue Int8 := ⟨fun n => toValue n.toInt⟩
instance : ToValue Int16 := ⟨fun n => toValue n.toInt⟩

/-- An optional value is written as itself or as null. -/
instance {α : Type} [ToValue α] : ToValue (Option α) where
  toValue
    | none => .null
    | some v => toValue v

instance {α : Type} [ToValue α] : ToValue (List α) := ⟨fun items => .list (items.map toValue)⟩

instance : OfValue Value := ⟨.ok⟩

instance : OfValue Bool where
  ofValue
    | .bool b => .ok b
    | _ => .error (.expected "a truth value")

instance : OfValue String where
  ofValue
    | .text s => .ok s
    | _ => .error (.expected "a text")

instance : OfValue Int where
  ofValue
    | .integer n => .ok n
    | _ => .error (.expected "a whole number")

instance : OfValue Nat where
  ofValue
    | .integer (.ofNat n) => .ok n
    | _ => .error (.expected "a whole number that is not negative")

instance : OfValue UInt8 := ⟨fun v => (ofValue v : Except FormError Nat).map UInt8.ofNat⟩
instance : OfValue UInt16 := ⟨fun v => (ofValue v : Except FormError Nat).map UInt16.ofNat⟩
instance : OfValue UInt32 := ⟨fun v => (ofValue v : Except FormError Nat).map UInt32.ofNat⟩
instance : OfValue Int8 := ⟨fun v => (ofValue v : Except FormError Int).map Int8.ofInt⟩
instance : OfValue Int16 := ⟨fun v => (ofValue v : Except FormError Int).map Int16.ofInt⟩

/-- A number of single precision is rounded from double precision. The numbers that have no digits
are spelled. -/
instance : OfValue Float32 where
  ofValue
    | .integer n => .ok (Float.ofInt n).toFloat32
    | .real x => .ok x.toFloat32
    | .nan _ => .ok (0.0 / 0.0)
    | .text "NaN" => .ok (0.0 / 0.0)
    | .text "inf" => .ok (1.0 / 0.0)
    | .text "-inf" => .ok (-1.0 / 0.0)
    | _ => .error (.expected "a number")

instance {α : Type} [OfValue α] : OfValue (List α) where
  ofValue
    | .list items => items.mapM ofValue
    | _ => .error (.expected "a list")

end LoraNetwork
