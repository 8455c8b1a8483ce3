import LoraNetwork.Frame.Uplink

/-!
# Join frames read back

A join request is read as it was written. An accept is enciphered with the inverse of the cipher, so
whoever only enciphers opens it; for that the two directions have to undo each other. Of the fields
of an accept, the reader gets the bits that travel. The keys of a session hang on no other bits of
the network's identifier, so both sides derive the same ones.
-/

namespace LoraNetwork

namespace Bytes

/-- A number is written like what is left of it at the width. -/
theorem littleEndian_mod (width n : Nat) :
    littleEndian width (n % capacity width) = littleEndian width n := by
  have hread := littleEndian_value (littleEndian width n)
  rwa [length_littleEndian, value_littleEndian] at hread

end Bytes

namespace Block

/-- A block is read as it was written. -/
theorem ofBytes_toList (block : Block) : ofBytes block.toList = block := by
  apply Vector.ext
  intro i hi
  simp [ofBytes]

/-- Sixteen bytes make a block of just these bytes. -/
theorem toList_ofBytes {bytes : Bytes} (h : bytes.length = 16) :
    (ofBytes bytes).toList = bytes := by
  apply List.ext_getElem
  · simp [h]
  · intro i _ hi
    simp [ofBytes, hi]

end Block

namespace CipherSuite

/-- A text of one block is mapped by one use of the map. -/
theorem mapBlocks_of_length (f : Block → Block) {text : Bytes} (h : text.length = 16) :
    mapBlocks f text = (f (Block.ofBytes text)).toList := by
  have hshort : ¬ 16 < text.length := by omega
  have hlength : (f (Block.ofBytes text)).toList.length = text.length := by simp [h]
  rw [mapBlocks, dif_neg hshort, ← hlength, List.take_length]

/-- A text of one block that was mapped is a text of one block. -/
theorem length_mapBlocks (f : Block → Block) {text : Bytes} (h : text.length = 16) :
    (mapBlocks f text).length = 16 := by
  rw [mapBlocks_of_length f h, Vector.length_toList]

/-- Whoever holds the key opens a body that was sealed. -/
theorem openAccept_sealAccept {suite : CipherSuite} (hinverse : suite.Inverse) (key : AesKey)
    {body : Bytes} (h : body.length = 16) :
    suite.openAccept key (suite.sealAccept key body) = body := by
  have hsealed : (suite.sealAccept key body).length = 16 := length_mapBlocks _ h
  have hblock : Block.ofBytes (suite.sealAccept key body) =
      suite.decrypt key (Block.ofBytes body) := by
    rw [sealAccept, mapBlocks_of_length _ h, Block.ofBytes_toList]
  rw [openAccept, mapBlocks_of_length _ hsealed, hblock, hinverse.encrypt_decrypt,
    Block.toList_ofBytes h]

end CipherSuite

namespace NetId

/-- The bits of an identifier that travel. -/
def travelled (net : NetId) : NetId := ofNumber net.value

/-- Reading three bytes on the air gives the bits that travel. -/
theorem ofNumber_wire (net : NetId) :
    ofNumber (UInt32.ofNat (Bytes.value net.wire)) = net.travelled := by
  have hvalue : Bytes.value net.wire = net.value.toNat % 2 ^ 24 := Bytes.value_littleEndian _ _
  have hsame : UInt32.ofNat (net.value.toNat % 2 ^ 24) &&& 0x00FFFFFF =
      net.value &&& 0x00FFFFFF := by
    apply UInt32.toNat_inj.mp
    have hlt := net.value.toNat_lt
    have hmask : (0x00FFFFFF : UInt32).toNat = 2 ^ 24 - 1 := rfl
    rw [UInt32.toNat_and, UInt32.toNat_and, hmask, Nat.and_two_pow_sub_one_eq_mod,
      Nat.and_two_pow_sub_one_eq_mod, UInt32.toNat_ofNat']
    omega
  rw [hvalue, travelled, ofNumber, ofNumber, hsame]

/-- What travels of an identifier is on the air like the identifier. -/
theorem wire_travelled (net : NetId) : net.travelled.wire = net.wire := by
  have hmask : (0x00FFFFFF : UInt32).toNat = 2 ^ 24 - 1 := rfl
  have hvalue : net.travelled.value.toNat = net.value.toNat % Bytes.capacity 3 := by
    rw [travelled, ofNumber, UInt32.toNat_and, hmask, Nat.and_two_pow_sub_one_eq_mod]
    rfl
  rw [wire, hvalue, Bytes.littleEndian_mod, wire]

end NetId

/-- Both sides derive the same keys, though one of them knows only what travels of the network's
identifier. -/
theorem CipherSuite.deriveKeys_travelled (suite : CipherSuite) (appKey : AesKey) (nonce : AppNonce)
    (net : NetId) (devNonce : UInt16) :
    suite.deriveKeys appKey nonce net.travelled devNonce =
      suite.deriveKeys appKey nonce net devNonce := by
  simp only [deriveKeys, NetId.wire_travelled]

/-! ## Requests -/

namespace JoinRequest

/-- The request that is read back. -/
def signedBy (suite : CipherSuite) (appKey : AesKey) (joinEui devEui : Eui64)
    (devNonce : UInt16) : JoinRequest :=
  let signed := MessageType.joinRequest.byte :: joinEui.wire ++ devEui.wire ++
    Bytes.littleEndian 2 devNonce.toNat
  { joinEui := joinEui
    devEui := devEui
    devNonce := devNonce
    mic := suite.joinMic appKey signed
    signed := signed }

/-- A request that was written is read back. -/
theorem parse_build (suite : CipherSuite) (appKey : AesKey) (joinEui devEui : Eui64)
    (devNonce : UInt16) :
    parse (build suite appKey joinEui devEui devNonce) =
      .ok (signedBy suite appKey joinEui devEui devNonce) := by
  have hjoin : Eui64.ofWire joinEui.wire = joinEui := Eui64.ofWire_wire joinEui
  have hdev : Eui64.ofWire devEui.wire = devEui := Eui64.ofWire_wire devEui
  have hnonce : UInt16.ofNat (Bytes.value (Bytes.littleEndian 2 devNonce.toNat)) = devNonce := by
    have hlt : devNonce.toNat < Bytes.capacity 2 := devNonce.toNat_lt
    rw [Bytes.value_littleEndian, Nat.mod_eq_of_lt hlt, UInt16.ofNat_toNat]
  simp only [Eui64.wire, Bytes.littleEndian] at hjoin hdev hnonce
  simp only [build, signedBy, Eui64.wire, Bytes.littleEndian, List.cons_append, List.nil_append,
    Mic.bytes, parse]
  simpa [size, Mic.size, MessageType.ofFirstByte_byte] using ⟨hjoin, hdev, hnonce⟩

/-- Whoever takes an uplink from the radio reads a request that was written. -/
theorem uplink_parse_build (suite : CipherSuite) (appKey : AesKey) (joinEui devEui : Eui64)
    (devNonce : UInt16) :
    UplinkFrame.parse (build suite appKey joinEui devEui devNonce) =
      .ok (.join (signedBy suite appKey joinEui devEui devNonce)) := by
  have hread := parse_build suite appKey joinEui devEui devNonce
  have hparse : UplinkFrame.parse (build suite appKey joinEui devEui devNonce) =
      (parse (build suite appKey joinEui devEui devNonce)).map UplinkFrame.join := rfl
  rw [hparse, hread]
  rfl

end JoinRequest

/-! ## Accepts -/

namespace JoinAccept

/-- What a device gets of an accept: the bits that travel. -/
def received (accept : JoinAccept) : JoinAccept where
  nonce := accept.nonce
  netId := accept.netId.travelled
  devAddr := accept.devAddr
  rx1Offset := accept.rx1Offset &&& 0x07
  rx2DataRate := accept.rx2DataRate &&& 0x0F
  rxDelay := accept.rxDelay &&& 0x0F

/-- The two settings that share a byte are told apart. -/
theorem settings_apart (offset rate : UInt8) :
    ((((offset &&& 0x07) <<< 4) ||| (rate &&& 0x0F)) >>> 4) &&& 0x07 = offset &&& 0x07 ∧
      (((offset &&& 0x07) <<< 4) ||| (rate &&& 0x0F)) &&& 0x0F = rate &&& 0x0F := by
  have hall : ∀ o : Fin 8, ∀ r : Fin 16,
      ((UInt8.ofNat o <<< 4 ||| UInt8.ofNat r) >>> 4) &&& 0x07 = UInt8.ofNat o ∧
        (UInt8.ofNat o <<< 4 ||| UInt8.ofNat r) &&& 0x0F = UInt8.ofNat r := by decide +kernel
  have hoffset : (offset &&& 0x07).toNat < 8 := by
    rw [UInt8.toNat_and]
    exact Nat.lt_succ_of_le Nat.and_le_right
  have hrate : (rate &&& 0x0F).toNat < 16 := by
    rw [UInt8.toNat_and]
    exact Nat.lt_succ_of_le Nat.and_le_right
  have hread := hall ⟨_, hoffset⟩ ⟨_, hrate⟩
  rwa [UInt8.ofNat_toNat, UInt8.ofNat_toNat] at hread

/-- An accept in the clear is read, up to the bits that travel. -/
theorem readOpened_signed (suite : CipherSuite) (appKey : AesKey) (accept : JoinAccept) :
    readOpened suite appKey MessageType.joinAccept.byte
        (accept.signedBytes.drop 1 ++ (suite.joinMic appKey accept.signedBytes).bytes) =
      .ok accept.received := by
  have hnet := NetId.ofNumber_wire accept.netId
  have haddr : DevAddr.ofWire accept.devAddr.wire = accept.devAddr := DevAddr.ofWire_wire _
  obtain ⟨hoffset, hrate⟩ := settings_apart accept.rx1Offset accept.rx2DataRate
  have hdelay : accept.rxDelay &&& 0x0F &&& 0x0F = accept.rxDelay &&& 0x0F := by
    rw [UInt8.and_assoc]
    rfl
  simp only [NetId.wire, DevAddr.wire, Bytes.littleEndian] at hnet haddr
  simp only [signedBytes, AppNonce.bytes, NetId.wire, DevAddr.wire, Bytes.littleEndian,
    List.cons_append, List.nil_append, List.drop_succ_cons, List.drop_zero, Mic.bytes, readOpened,
    if_true, received, hnet, haddr, hoffset, hrate, hdelay]

/-- The body of an accept with its code is one block. -/
theorem length_body (suite : CipherSuite) (appKey : AesKey) (accept : JoinAccept) :
    (accept.signedBytes.drop 1 ++ (suite.joinMic appKey accept.signedBytes).bytes).length = 16 :=
  rfl

/-- A device reads an accept that was written for its key, up to the bits that travel. -/
theorem decode_encode {suite : CipherSuite} (hinverse : suite.Inverse) (appKey : AesKey)
    (accept : JoinAccept) :
    decode suite appKey (encode suite accept appKey) = .ok accept.received := by
  have hbody := length_body suite appKey accept
  have hlength : (encode suite accept appKey).length = size := by
    rw [encode, List.length_cons, CipherSuite.sealAccept, CipherSuite.length_mapBlocks _ hbody]
    rfl
  have htype := MessageType.ofFirstByte_byte .joinAccept
  have hopen : decode suite appKey (encode suite accept appKey) =
      readOpened suite appKey MessageType.joinAccept.byte
        (suite.openAccept appKey (suite.sealAccept appKey
          (accept.signedBytes.drop 1 ++ (suite.joinMic appKey accept.signedBytes).bytes))) := by
    rw [decode.eq_def, if_neg (not_not_intro hlength)]
    exact if_neg (not_not_intro htype)
  rw [hopen, CipherSuite.openAccept_sealAccept hinverse appKey hbody, readOpened_signed]

end JoinAccept

end LoraNetwork
