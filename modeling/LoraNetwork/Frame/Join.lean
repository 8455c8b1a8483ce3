import LoraNetwork.Frame.Error
import LoraNetwork.Frame.Security

/-!
# Join frames

The request with which a device asks for a session and the accept that answers it. Requests are in
the clear and signed with the application key; an accept is signed and then enciphered with it.
-/

namespace LoraNetwork

/-- A join request as read. -/
structure JoinRequest where
  /-- The join server the device names. -/
  joinEui : Eui64
  /-- The device. -/
  devEui : Eui64
  /-- The number a device must not use twice. -/
  devNonce : UInt16
  /-- The integrity code. -/
  mic : Mic
  /-- The bytes that the code covers. -/
  signed : Bytes
  deriving DecidableEq, Repr

namespace JoinRequest

/-- The size of a join request. -/
def size : Nat := 1 + 8 + 8 + 2 + Mic.size

/-- Reads a join request. -/
def parse (bytes : Bytes) : Except FrameError JoinRequest :=
  if bytes.length ≠ size then .error (.tooShort bytes.length)
  else
    match bytes, bytes.drop (size - Mic.size) with
    | first :: rest, [m0, m1, m2, m3] =>
      if MessageType.ofFirstByte first ≠ .joinRequest then
        .error (.unsupportedType (MessageType.bits first))
      else
        .ok
          { joinEui := Eui64.ofWire (rest.take 8)
            devEui := Eui64.ofWire ((rest.drop 8).take 8)
            devNonce := UInt16.ofNat (Bytes.value ((rest.drop 16).take 2))
            mic := ⟨m0, m1, m2, m3⟩
            signed := bytes.take (size - Mic.size) }
    | _, _ => .error (.tooShort bytes.length)

/-- Whether the code verifies under an application key. -/
def verifies (suite : CipherSuite) (request : JoinRequest) (appKey : AesKey) : Bool :=
  suite.joinMic appKey request.signed = request.mic

/-- Writes and signs a join request. -/
def build (suite : CipherSuite) (appKey : AesKey) (joinEui devEui : Eui64) (devNonce : UInt16) :
    Bytes :=
  let signed := MessageType.joinRequest.byte :: joinEui.wire ++ devEui.wire ++
    Bytes.littleEndian 2 devNonce.toNat
  signed ++ (suite.joinMic appKey signed).bytes

end JoinRequest

/-- The contents of a join accept. -/
structure JoinAccept where
  /-- The random part of the key derivation. -/
  nonce : AppNonce
  /-- The network. -/
  netId : NetId
  /-- The address of the new session. -/
  devAddr : DevAddr
  /-- The offset from an uplink's data rate to that of the first window; three bits travel. -/
  rx1Offset : UInt8
  /-- The data rate of the second window; four bits travel. -/
  rx2DataRate : UInt8
  /-- The delay of the first window in seconds; four bits travel. -/
  rxDelay : UInt8
  deriving DecidableEq, Repr

namespace JoinAccept

/-- The size of a join accept. -/
def size : Nat := 1 + 12 + Mic.size

/-- The accept in the clear, without its code. -/
def signedBytes (accept : JoinAccept) : Bytes :=
  MessageType.joinAccept.byte :: accept.nonce.bytes ++ accept.netId.wire ++ accept.devAddr.wire ++
    [((accept.rx1Offset &&& 0x07) <<< 4) ||| (accept.rx2DataRate &&& 0x0F),
      accept.rxDelay &&& 0x0F]

/-- Signs the accept and enciphers everything after the first byte. -/
def encode (suite : CipherSuite) (accept : JoinAccept) (appKey : AesKey) : Bytes :=
  let signed := accept.signedBytes
  MessageType.joinAccept.byte ::
    suite.sealAccept appKey (signed.drop 1 ++ (suite.joinMic appKey signed).bytes)

/-- Reads the opened accept: its first byte, body and code. -/
def readOpened (suite : CipherSuite) (appKey : AesKey) (first : UInt8) (opened : Bytes) :
    Except FrameError JoinAccept :=
  match opened with
  | [n0, n1, n2, i0, i1, i2, a0, a1, a2, a3, settings, delay, m0, m1, m2, m3] =>
    let signed := [first, n0, n1, n2, i0, i1, i2, a0, a1, a2, a3, settings, delay]
    if suite.joinMic appKey signed = ⟨m0, m1, m2, m3⟩ then
      .ok
        { nonce := ⟨n0, n1, n2⟩
          netId := NetId.ofNumber (UInt32.ofNat (Bytes.value [i0, i1, i2]))
          devAddr := DevAddr.ofWire [a0, a1, a2, a3]
          rx1Offset := (settings >>> 4) &&& 0x07
          rx2DataRate := settings &&& 0x0F
          rxDelay := delay &&& 0x0F }
    else .error .invalidMic
  | _ => .error (.tooShort (opened.length + 1))

/-- Opens, checks and reads an accept, as the device does. -/
def decode (suite : CipherSuite) (appKey : AesKey) (bytes : Bytes) : Except FrameError JoinAccept :=
  if bytes.length ≠ size then .error (.tooShort bytes.length)
  else
    match bytes with
    | [] => .error (.tooShort 0)
    | first :: body =>
      if MessageType.ofFirstByte first ≠ .joinAccept then
        .error (.unsupportedType (MessageType.bits first))
      else readOpened suite appKey first (suite.openAccept appKey body)

end JoinAccept

end LoraNetwork
