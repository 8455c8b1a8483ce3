import LoraNetwork.Cipher.Suite
import LoraNetwork.Frame.Type

/-!
# Frame security

Integrity codes, payload encryption, join-accept encryption and key derivation, over any cipher
suite. A payload is combined with a key stream, so enciphering and deciphering are one operation and
applying it twice gives the payload back, whatever the cipher.
-/

namespace LoraNetwork

/-- The four bytes that close a frame and prove who wrote it. -/
structure Mic where
  /-- The first byte. -/
  b0 : UInt8
  /-- The second byte. -/
  b1 : UInt8
  /-- The third byte. -/
  b2 : UInt8
  /-- The fourth byte. -/
  b3 : UInt8
  deriving DecidableEq, Repr

namespace Mic

/-- The code as bytes of the frame. -/
def bytes (mic : Mic) : Bytes := [mic.b0, mic.b1, mic.b2, mic.b3]

/-- The first four bytes of a tag. -/
def ofTag (tag : Block) : Mic := ⟨tag[0], tag[1], tag[2], tag[3]⟩

/-- The number of bytes an integrity code adds to a frame. -/
def size : Nat := 4

end Mic

namespace CipherSuite

/-- What is common to the blocks that protect one data frame: a purpose, the direction, the address
and the full counter. -/
def frameBlock (purpose : UInt8) (addr : DevAddr) (counter : UInt32) (dir : Direction)
    (last : UInt8) : Bytes :=
  [purpose, 0, 0, 0, 0, dir.byte] ++ addr.wire ++ Bytes.littleEndian 4 counter.toNat ++ [0, last]

/-- The integrity code of a data frame: a tag over a block of its own and the frame up to the
code. -/
def dataMic (suite : CipherSuite) (key : AesKey) (message : Bytes) (addr : DevAddr)
    (counter : UInt32) (dir : Direction) : Mic :=
  Mic.ofTag (suite.tag key
    (frameBlock 0x49 addr counter dir (UInt8.ofNat message.length) ++ message))

/-- The integrity code of a join request or a join accept. -/
def joinMic (suite : CipherSuite) (key : AesKey) (message : Bytes) : Mic :=
  Mic.ofTag (suite.tag key message)

/-- Combines a text with a key stream given in blocks: `ready` is what is left of the current block
and `next` the number of the block after it. -/
def applyStream (stream : Nat → Block) : Nat → Bytes → Bytes → Bytes
  | _, _, [] => []
  | next, pad :: ready, byte :: rest => (byte ^^^ pad) :: applyStream stream next ready rest
  | next, [], byte :: rest =>
    match (stream next).toList with
    | pad :: ready => (byte ^^^ pad) :: applyStream stream (next + 1) ready rest
    | [] => byte :: applyStream stream (next + 1) [] rest

/-- Enciphers or deciphers the payload of a data frame. -/
def cryptPayload (suite : CipherSuite) (key : AesKey) (addr : DevAddr) (counter : UInt32)
    (dir : Direction) (payload : Bytes) : Bytes :=
  applyStream
    (fun n => suite.encrypt key (Block.ofBytes (frameBlock 0x01 addr counter dir (UInt8.ofNat n))))
    1 [] payload

/-- Applies a block map to a text block by block; the last block is filled up with zeros and its
image cut to the length it had. -/
def mapBlocks (f : Block → Block) (text : Bytes) : Bytes :=
  if _h : 16 < text.length then
    (f (Block.ofBytes (text.take 16))).toList ++ mapBlocks f (text.drop 16)
  else (f (Block.ofBytes text)).toList.take text.length
termination_by text.length
decreasing_by simp only [List.length_drop]; omega

/-- Enciphers the body of a join accept. The network deciphers, so that a device only ever has to
encipher. -/
def sealAccept (suite : CipherSuite) (key : AesKey) (body : Bytes) : Bytes :=
  mapBlocks (suite.decrypt key) body

/-- Opens the body of a join accept, as the device does. -/
def openAccept (suite : CipherSuite) (key : AesKey) (body : Bytes) : Bytes :=
  mapBlocks (suite.encrypt key) body

end CipherSuite

/-- The three random bytes of a join accept. -/
structure AppNonce where
  /-- The first byte on the air. -/
  b0 : UInt8
  /-- The second byte on the air. -/
  b1 : UInt8
  /-- The third byte on the air. -/
  b2 : UInt8
  deriving DecidableEq, Repr

/-- The nonce as bytes of the accept. -/
def AppNonce.bytes (nonce : AppNonce) : Bytes := [nonce.b0, nonce.b1, nonce.b2]

/-- The two keys of a session. -/
structure SessionKeys where
  /-- Signs frames and protects port 0. -/
  network : AesKey
  /-- Protects every other port. -/
  application : AesKey
  deriving DecidableEq, Repr

/-- The keys both sides derive from a join. -/
def CipherSuite.deriveKeys (suite : CipherSuite) (appKey : AesKey) (nonce : AppNonce)
    (net : NetId) (devNonce : UInt16) : SessionKeys :=
  let derive : UInt8 → AesKey := fun purpose =>
    ⟨suite.encrypt appKey (Block.ofBytes
      (purpose :: nonce.bytes ++ net.wire ++ Bytes.littleEndian 2 devNonce.toNat))⟩
  ⟨derive 0x01, derive 0x02⟩

namespace CipherSuite

/-- A key stream changes no length. -/
theorem length_applyStream (stream : Nat → Block) (next : Nat) (ready text : Bytes) :
    (applyStream stream next ready text).length = text.length := by
  fun_induction applyStream stream next ready text <;> simp_all

/-- Applying a key stream twice gives the text back. -/
theorem applyStream_applyStream (stream : Nat → Block) (next : Nat) (ready text : Bytes) :
    applyStream stream next ready (applyStream stream next ready text) = text := by
  have hpad : ∀ byte pad : UInt8, byte ^^^ pad ^^^ pad = byte := fun byte pad => by
    rw [UInt8.xor_assoc, UInt8.xor_self, UInt8.xor_zero]
  fun_induction applyStream stream next ready text with
  | case1 => rfl
  | case2 next pad ready byte rest ih => rw [applyStream, hpad, ih]
  | case3 next byte rest pad ready hblock ih =>
    rw [applyStream, hblock]
    dsimp only
    rw [hpad, ih]
  | case4 next byte rest hblock ih =>
    rw [applyStream, hblock]
    dsimp only
    rw [ih]

/-- Deciphering a payload is enciphering it again. -/
theorem cryptPayload_cryptPayload (suite : CipherSuite) (key : AesKey) (addr : DevAddr)
    (counter : UInt32) (dir : Direction) (payload : Bytes) :
    suite.cryptPayload key addr counter dir (suite.cryptPayload key addr counter dir payload) =
      payload :=
  applyStream_applyStream _ _ _ _

end CipherSuite

end LoraNetwork
