import LoraNetwork.Cipher.Suite

/-!
# The AES-128 block cipher

A block is four columns of four bytes, column after column. The substitution box is tabulated from
its definition: the inverse in the field of 256 elements, followed by an affine map of the bits.
Both directions of the cipher and the expansion of the key are here; that the directions undo each
other is assumed where it is needed and not shown.
-/

namespace LoraNetwork.Aes

/-- Multiplication by the polynomial `x`, reduced by `x^8 + x^4 + x^3 + x + 1`. -/
def double (a : UInt8) : UInt8 := if a &&& 0x80 = 0 then a <<< 1 else (a <<< 1) ^^^ 0x1B

/-- The product of two field elements, taking `bits` bits of the second factor. -/
def mulBits : Nat → UInt8 → UInt8 → UInt8
  | 0, _, _ => 0
  | bits + 1, a, b => (if b &&& 1 = 0 then 0 else a) ^^^ mulBits bits (double a) (b >>> 1)

/-- The product of two field elements. -/
def mul (a b : UInt8) : UInt8 := mulBits 8 a b

/-- A power of a field element. -/
def pow (a : UInt8) : Nat → UInt8
  | 0 => 1
  | n + 1 => mul a (pow a n)

/-- The byte rotated left. -/
def rotate (a : UInt8) (count : UInt8) : UInt8 := (a <<< count) ||| (a >>> (8 - count))

/-- The value of the substitution box: the field inverse (zero stays zero), then the affine map. -/
def substituteValue (a : UInt8) : UInt8 :=
  let b := pow a 254
  b ^^^ rotate b 1 ^^^ rotate b 2 ^^^ rotate b 3 ^^^ rotate b 4 ^^^ 0x63

/-- The substitution box. -/
def box : Vector UInt8 256 := Vector.ofFn fun i => substituteValue (UInt8.ofNat i.val)

/-- The inverse substitution box. -/
def inverseBox : Vector UInt8 256 :=
  Vector.ofFn fun i =>
    (((List.range 256).map UInt8.ofNat).find? fun a =>
      substituteValue a = UInt8.ofNat i.val).getD 0

/-- Looks a byte up in the substitution box. -/
def substitute (a : UInt8) : UInt8 := box.get ⟨a.toNat, a.toNat_lt⟩

/-- Looks a byte up in the inverse substitution box. -/
def unsubstitute (a : UInt8) : UInt8 := inverseBox.get ⟨a.toNat, a.toNat_lt⟩

/-- Row `r` of the block moves `r` columns to the left. -/
def shiftRows (b : Block) : Block :=
  Vector.ofFn fun i => b.get ⟨4 * ((i.val / 4 + i.val % 4) % 4) + i.val % 4, by omega⟩

/-- Row `r` of the block moves `r` columns to the right. -/
def unshiftRows (b : Block) : Block :=
  Vector.ofFn fun i => b.get ⟨4 * ((i.val / 4 + 4 - i.val % 4) % 4) + i.val % 4, by omega⟩

/-- The byte `step` rows below position `i` in the same column. -/
def below (b : Block) (i : Fin 16) (step : Nat) : UInt8 :=
  b.get ⟨4 * (i.val / 4) + (i.val + step) % 4, by omega⟩

/-- Each column times the circulant matrix of 2, 3, 1, 1. -/
def mixColumns (b : Block) : Block :=
  Vector.ofFn fun i =>
    double (below b i 0) ^^^ (double (below b i 1) ^^^ below b i 1) ^^^ below b i 2 ^^^ below b i 3

/-- Each column times the circulant matrix of 14, 11, 13, 9. -/
def unmixColumns (b : Block) : Block :=
  Vector.ofFn fun i =>
    mul (below b i 0) 14 ^^^ mul (below b i 1) 11 ^^^ mul (below b i 2) 13 ^^^ mul (below b i 3) 9

/-- The round key after a given one. -/
def nextRoundKey (round : UInt8) (k : Block) : Block :=
  let feed : Fin 4 → UInt8 := fun row =>
    substitute (k.get ⟨12 + (row.val + 1) % 4, by omega⟩) ^^^ (if row.val = 0 then round else 0)
  let column0 : Fin 4 → UInt8 := fun row => feed row ^^^ k.get ⟨row.val, by omega⟩
  let column1 : Fin 4 → UInt8 := fun row => column0 row ^^^ k.get ⟨4 + row.val, by omega⟩
  let column2 : Fin 4 → UInt8 := fun row => column1 row ^^^ k.get ⟨8 + row.val, by omega⟩
  let column3 : Fin 4 → UInt8 := fun row => column2 row ^^^ k.get ⟨12 + row.val, by omega⟩
  Vector.ofFn fun i =>
    let row : Fin 4 := ⟨i.val % 4, by omega⟩
    if i.val < 4 then column0 row
    else if i.val < 8 then column1 row
    else if i.val < 12 then column2 row
    else column3 row

/-- The given number of round keys that follow a round key, with the constant of the first. -/
def roundKeysAfter : Nat → UInt8 → Block → List Block
  | 0, _, _ => []
  | count + 1, round, k =>
    let next := nextRoundKey round k
    next :: roundKeysAfter count (double round) next

/-- The ten round keys after the key itself. -/
def roundKeys (key : AesKey) : List Block := roundKeysAfter 10 1 key.block

/-- The rounds of the cipher; the last one does not mix columns. -/
def encryptRounds : List Block → Block → Block
  | [], b => b
  | [last], b => Block.xor (shiftRows (b.map substitute)) last
  | k :: rest, b => encryptRounds rest (Block.xor (mixColumns (shiftRows (b.map substitute))) k)

/-- Enciphers one block. -/
def encrypt (key : AesKey) (b : Block) : Block :=
  encryptRounds (roundKeys key) (Block.xor b key.block)

/-- Undoes the substitution and the shifting of rows of one round. -/
def unsubstituteRows (b : Block) : Block := (unshiftRows b).map unsubstitute

/-- Deciphers one block: the last round first, then the mixing rounds in reverse. -/
def decrypt (key : AesKey) (b : Block) : Block :=
  match (roundKeys key).reverse with
  | [] => Block.xor b key.block
  | last :: earlier =>
    let start := unsubstituteRows (Block.xor b last)
    Block.xor
      (earlier.foldl (fun state k => unsubstituteRows (unmixColumns (Block.xor state k))) start)
      key.block

end LoraNetwork.Aes
