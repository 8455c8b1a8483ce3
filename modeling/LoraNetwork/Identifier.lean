import LoraNetwork.Text.Blank
import LoraNetwork.Text.Quoted

/-!
# Identifiers and keys

Identifiers are numbers that people and backends write in big-endian hexadecimal and that frames
carry least significant byte first. This module holds the four of them, their text forms, the
error for a text that is none, and the part of an address that names its network.
-/

namespace LoraNetwork

/-- A 64-bit extended unique identifier: of a device or of a join server. -/
structure Eui64 where
  /-- The identifier as a number. -/
  value : UInt64
  deriving DecidableEq, Repr

/-- The 32-bit address a device uses on the air during one session. -/
structure DevAddr where
  /-- The address as a number. -/
  value : UInt32
  deriving DecidableEq, Repr

/-- The identifier of a network. Only its low 24 bits travel on the air. -/
structure NetId where
  /-- The identifier as configured. -/
  value : UInt32
  deriving DecidableEq, Repr

/-- Sixteen bytes: a cipher block. -/
abbrev Block := Vector UInt8 16

namespace Block

/-- The first sixteen bytes of a string, filled up with zeros. -/
def ofBytes (bytes : Bytes) : Block := Vector.ofFn fun i => bytes.getD i.val 0

/-- Bytewise exclusive or. -/
def xor (a b : Block) : Block := Vector.zipWith (fun x y => x ^^^ y) a b

/-- The block of zeros. -/
def zero : Block := Vector.replicate 16 0

end Block

/-- A 128-bit key. -/
structure AesKey where
  /-- The key bytes in the order they are written. -/
  block : Block
  deriving DecidableEq, Repr

/-- The identifiers that can be read from text. -/
inductive IdentifierKind where
  /-- An extended unique identifier. -/
  | eui64
  /-- A device address. -/
  | devAddr
  /-- A key. -/
  | aesKey
  deriving DecidableEq, Repr

namespace IdentifierKind

/-- The name an error gives the kind. -/
def name : IdentifierKind → String
  | eui64 => "EUI64"
  | devAddr => "DevAddr"
  | aesKey => "AESKey"

/-- The width in bytes. -/
def width : IdentifierKind → Nat
  | eui64 => 8
  | devAddr => 4
  | aesKey => 16

end IdentifierKind

/-- A text that is not an identifier of the kind asked for. -/
structure IdentifierError where
  /-- What was expected. -/
  kind : IdentifierKind
  /-- The text as given, blanks included. -/
  text : String
  deriving DecidableEq, Repr

/-- The wording of the error. -/
def IdentifierError.message (e : IdentifierError) : String :=
  "invalid " ++ e.kind.name ++ ": expected " ++ toString (2 * e.kind.width) ++
    " hex characters, got " ++ Text.Quoted.encode e.text

/-- Reads the bytes of an identifier; blanks around the digits are allowed. -/
def IdentifierKind.readBytes (kind : IdentifierKind) (text : String) :
    Except IdentifierError Bytes :=
  match Text.Hex.decodeChars (Text.Blank.trim text) with
  | some bytes => if bytes.length = kind.width then .ok bytes else .error ⟨kind, text⟩
  | none => .error ⟨kind, text⟩

namespace Eui64

/-- The bytes on the air. -/
def wire (eui : Eui64) : Bytes := Bytes.littleEndian 8 eui.value.toNat

/-- The identifier that eight bytes on the air stand for. -/
def ofWire (bytes : Bytes) : Eui64 := ⟨UInt64.ofNat (Bytes.value bytes)⟩

/-- Sixteen upper-case digits. -/
def text (eui : Eui64) : String := String.ofList (Text.Hex.fixed 16 eui.value.toNat)

/-- Reads the identifier from text. -/
def ofText (text : String) : Except IdentifierError Eui64 :=
  (IdentifierKind.eui64.readBytes text).map fun bytes =>
    ⟨UInt64.ofNat (Bytes.bigEndianValue bytes)⟩

/-- Reading the bytes on the air gives the identifier back. -/
theorem ofWire_wire (eui : Eui64) : ofWire eui.wire = eui := by
  have hlt : eui.value.toNat < Bytes.capacity 8 :=
    Nat.lt_of_lt_of_eq eui.value.toNat_lt (by decide)
  rw [ofWire, wire, Bytes.value_littleEndian, Nat.mod_eq_of_lt hlt, UInt64.ofNat_toNat]

end Eui64

namespace DevAddr

/-- The bytes on the air. -/
def wire (addr : DevAddr) : Bytes := Bytes.littleEndian 4 addr.value.toNat

/-- The address that four bytes on the air stand for. -/
def ofWire (bytes : Bytes) : DevAddr := ⟨UInt32.ofNat (Bytes.value bytes)⟩

/-- The bytes in the order they are written. -/
def bytes (addr : DevAddr) : Bytes := Bytes.bigEndian 4 addr.value.toNat

/-- The part of an address that names its network: the top seven bits. -/
def networkPart (addr : DevAddr) : UInt8 := (addr.value >>> 25).toUInt8

/-- Eight upper-case digits. -/
def text (addr : DevAddr) : String := String.ofList (Text.Hex.fixed 8 addr.value.toNat)

/-- Reads the address from text. -/
def ofText (text : String) : Except IdentifierError DevAddr :=
  (IdentifierKind.devAddr.readBytes text).map fun bytes =>
    ⟨UInt32.ofNat (Bytes.bigEndianValue bytes)⟩

/-- Reading the bytes on the air gives the address back. -/
theorem ofWire_wire (addr : DevAddr) : ofWire addr.wire = addr := by
  have hlt : addr.value.toNat < Bytes.capacity 4 :=
    Nat.lt_of_lt_of_eq addr.value.toNat_lt (by decide)
  rw [ofWire, wire, Bytes.value_littleEndian, Nat.mod_eq_of_lt hlt, UInt32.ofNat_toNat]

end DevAddr

namespace NetId

/-- The identifier with only the 24 bits that travel on the air. -/
def ofNumber (value : UInt32) : NetId := ⟨value &&& 0x00FFFFFF⟩

/-- The three bytes on the air. -/
def wire (net : NetId) : Bytes := Bytes.littleEndian 3 net.value.toNat

/-- The part of the identifier that the network's addresses repeat: the low seven bits. -/
def networkPart (net : NetId) : UInt8 := (net.value &&& 0x7F).toUInt8

/-- The identifier as reports show it: at least six digits. -/
def shown (net : NetId) : String := "NetId(" ++ Text.Hex.atLeast 6 net.value.toNat ++ ")"

end NetId

namespace AesKey

/-- Thirty-two upper-case digits. -/
def text (key : AesKey) : String := Text.Hex.encodeUpper key.block.toList

/-- Reads the key from text. -/
def ofText (text : String) : Except IdentifierError AesKey :=
  (IdentifierKind.aesKey.readBytes text).map fun bytes => ⟨Block.ofBytes bytes⟩

/-- Keys never show their bytes in reports. -/
def shown (_ : AesKey) : String := "AESKey(..)"

end AesKey

end LoraNetwork
