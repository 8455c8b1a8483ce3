/-!
# Byte strings

Frames, keys and payloads are lists of bytes. A number on the air is written with its least
significant byte first; `Bytes.littleEndian` writes it at a given width and `Bytes.value` reads it
back. The lemmas of this module say that each undoes the other, up to the width. Big-endian text
forms of identifiers are not covered here.
-/

namespace LoraNetwork

/-- A byte string, first byte first. -/
abbrev Bytes := List UInt8

namespace Bytes

/-- The low `8 * width` bits of a number, least significant byte first. -/
def littleEndian : Nat → Nat → Bytes
  | 0, _ => []
  | width + 1, value => UInt8.ofNat value :: littleEndian width (value / 256)

/-- The number a byte string stands for when its least significant byte comes first. -/
def value : Bytes → Nat
  | [] => 0
  | byte :: rest => byte.toNat + 256 * value rest

/-- The number a byte string stands for when its most significant byte comes first. -/
def bigEndianValue (bytes : Bytes) : Nat := value bytes.reverse

/-- The bytes of a number, most significant byte first. -/
def bigEndian (width value : Nat) : Bytes := (littleEndian width value).reverse

/-- How many numbers a width can hold. -/
def capacity : Nat → Nat
  | 0 => 1
  | width + 1 => 256 * capacity width

/-- The width asked for is the number of bytes written. -/
theorem length_littleEndian (width value : Nat) :
    (littleEndian width value).length = width := by
  induction width generalizing value with
  | zero => rfl
  | succ width ih => simp [littleEndian, ih]

/-- Reading what was written gives the number modulo what the width can hold. -/
theorem value_littleEndian (width n : Nat) :
    value (littleEndian width n) = n % capacity width := by
  induction width generalizing n with
  | zero => simp [littleEndian, value, capacity, Nat.mod_one]
  | succ width ih =>
    have hb : (UInt8.ofNat n).toNat = n % 256 := by simp [UInt8.toNat_ofNat']
    rw [littleEndian, value, ih, hb, capacity, Nat.mod_mul]

/-- A byte string stands for a number that its width can hold. -/
theorem value_lt (bytes : Bytes) : value bytes < capacity bytes.length := by
  induction bytes with
  | nil => exact Nat.one_pos
  | cons byte rest ih =>
    have hbyte : byte.toNat < 256 := byte.toNat_lt
    rw [value, List.length_cons, capacity]
    omega

/-- Writing the number a byte string stands for gives the byte string back. -/
theorem littleEndian_value (bytes : Bytes) :
    littleEndian bytes.length (value bytes) = bytes := by
  induction bytes with
  | nil => rfl
  | cons byte rest ih =>
    have hlt : byte.toNat < 256 := byte.toNat_lt
    have hhead : UInt8.ofNat (byte.toNat + 256 * value rest) = byte := by
      apply UInt8.toNat_inj.1
      simp only [UInt8.toNat_ofNat']
      omega
    have htail : (byte.toNat + 256 * value rest) / 256 = value rest := by omega
    simp [value, littleEndian, hhead, htail, ih]

/-- What holds of each of the first `n` bytes holds of every byte below `n`. -/
theorem of_lt {n : Nat} {p : UInt8 → Prop} (h : ∀ k : Fin n, p (UInt8.ofNat k)) {b : UInt8}
    (hb : b.toNat < n) : p b := by
  have hk := h ⟨b.toNat, hb⟩
  rwa [UInt8.ofNat_toNat] at hk

end Bytes

end LoraNetwork
