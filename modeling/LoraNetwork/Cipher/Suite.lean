import LoraNetwork.Identifier

/-!
# Cipher suites

The frame layer needs a block cipher in both directions and a message authentication code. It is
written over any such suite: nothing in it depends on which permutation the cipher is, and what
does depend on it says so as a property of the suite. `Cipher/Aes` and `Cipher/Cmac` hold the suite
that networks use.
-/

namespace LoraNetwork

/-- The primitives that frames are secured with. -/
structure CipherSuite where
  /-- Enciphers one block. -/
  encrypt : AesKey → Block → Block
  /-- Deciphers one block. -/
  decrypt : AesKey → Block → Block
  /-- The authentication tag of a byte string. -/
  tag : AesKey → Bytes → Block

/-- The two directions of the cipher undo each other under every key. -/
structure CipherSuite.Inverse (suite : CipherSuite) : Prop where
  /-- Deciphering undoes enciphering. -/
  decrypt_encrypt : ∀ key block, suite.decrypt key (suite.encrypt key block) = block
  /-- Enciphering undoes deciphering. -/
  encrypt_decrypt : ∀ key block, suite.encrypt key (suite.decrypt key block) = block

end LoraNetwork
