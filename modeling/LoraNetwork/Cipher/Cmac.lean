import LoraNetwork.Cipher.Aes

/-!
# The authentication code over a block cipher

The tag chains the blocks of the message through the cipher. The last block is masked by one of two
subkeys, so that a message and its padded form have different tags. `CipherSuite.standard` is the
suite of AES-128 with this code over it.
-/

namespace LoraNetwork.Cmac

/-- Doubling in the field of the code: the block shifted left by one bit, least significant byte
last, with the reduction constant in the last byte. -/
def doubleBlock (b : Block) : Block :=
  let carry : UInt8 := if b.get 0 &&& 0x80 = 0 then 0 else 0x87
  Vector.ofFn fun i =>
    let high := b.get i <<< 1
    if h : i.val < 15 then high ||| (b.get ⟨i.val + 1, by omega⟩ >>> 7) else high ^^^ carry

/-- The first subkey, for a message that fills its last block. -/
def fullMask (encipher : Block → Block) : Block := doubleBlock (encipher Block.zero)

/-- The second subkey, for a message that does not. -/
def partialMask (encipher : Block → Block) : Block := doubleBlock (fullMask encipher)

/-- Chains the message from a given state; the last block, full or not, takes its mask. -/
def chain (encipher : Block → Block) (state : Block) (message : Bytes) : Block :=
  if _h : 16 < message.length then
    chain encipher (encipher (Block.xor state (Block.ofBytes (message.take 16)))) (message.drop 16)
  else if message.length = 16 then
    encipher (Block.xor state (Block.xor (Block.ofBytes message) (fullMask encipher)))
  else
    encipher
      (Block.xor state (Block.xor (Block.ofBytes (message ++ [0x80])) (partialMask encipher)))
termination_by message.length
decreasing_by simp only [List.length_drop]; omega

/-- The tag of a message. -/
def tag (encipher : Block → Block) (message : Bytes) : Block := chain encipher Block.zero message

end LoraNetwork.Cmac

namespace LoraNetwork

/-- AES-128 with the authentication code over it, the suite of every network. -/
def CipherSuite.standard : CipherSuite where
  encrypt := Aes.encrypt
  decrypt := Aes.decrypt
  tag key := Cmac.tag (Aes.encrypt key)

end LoraNetwork
