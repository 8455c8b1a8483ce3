import LoraNetwork.Frame.Header
import LoraNetwork.Frame.Security

/-!
# Data frames

Reading, checking and writing the frames that carry data in either direction. A frame that was read
keeps the bytes its integrity code covers, reserved bits included, and its payload stays enciphered
until a key and the full counter are given. Port 0 carries MAC commands under the network key; every
other port belongs to the application.
-/

namespace LoraNetwork

/-- A data frame as read. -/
structure DataFrame where
  /-- The message type. -/
  type : MessageType
  /-- The header. -/
  header : FrameHeader
  /-- The port, if the frame has one. -/
  port : Option UInt8
  /-- The payload as it travelled. -/
  payload : Bytes
  /-- The integrity code. -/
  mic : Mic
  /-- The bytes that the code covers. -/
  signed : Bytes
  deriving DecidableEq, Repr

/-- The key that protects the payload of a port. -/
def SessionKeys.forPort (keys : SessionKeys) (port : Option UInt8) : AesKey :=
  if port = some 0 then keys.network else keys.application

namespace DataFrame

/-- The smallest data frame: type byte, header and code. -/
def minSize : Nat := 1 + FrameHeader.minSize + Mic.size

/-- What a frame carries after its fixed header: options, port and payload. -/
def readBody (type : MessageType) (addr : DevAddr) (control : FrameControl) (counter : UInt16)
    (body : Bytes) (mic : Mic) (signed : Bytes) : Except FrameError DataFrame :=
  if body.length < control.optionsLength.toNat then
    .error (.invalidOptionsLength control.optionsLength)
  else
    let options := body.take control.optionsLength.toNat
    if fits : options.length ≤ maxOptions then
      let header : FrameHeader :=
        { devAddr := addr, control := control, counter := counter, options := options,
          options_le := fits }
      match body.drop control.optionsLength.toNat with
      | [] => .ok ⟨type, header, none, [], mic, signed⟩
      | port :: payload =>
        if port = 0 ∧ options ≠ [] then .error .duplicateMacCommands
        else .ok ⟨type, header, some port, payload, mic, signed⟩
    else .error (.invalidOptionsLength control.optionsLength)

/-- Reads the part of a frame that its code covers. -/
def readSigned (signed : Bytes) (mic : Mic) : Except FrameError DataFrame :=
  match signed with
  | first :: a0 :: a1 :: a2 :: a3 :: control :: c0 :: c1 :: body =>
    if MessageType.majorOf first ≠ 0 then .error (.unsupportedMajor (MessageType.majorOf first))
    else if (MessageType.ofFirstByte first).isData = false then
      .error (.unsupportedType (MessageType.bits first))
    else
      readBody (MessageType.ofFirstByte first) (DevAddr.ofWire [a0, a1, a2, a3])
        (FrameControl.ofByte control) (UInt16.ofNat (Bytes.value [c0, c1])) body mic signed
  | _ => .error (.tooShort (signed.length + Mic.size))

/-- Reads a data frame of either direction. -/
def parse (bytes : Bytes) : Except FrameError DataFrame :=
  if bytes.length < minSize then .error (.tooShort bytes.length)
  else
    match bytes.drop (bytes.length - Mic.size) with
    | [m0, m1, m2, m3] => readSigned (bytes.take (bytes.length - Mic.size)) ⟨m0, m1, m2, m3⟩
    | _ => .error (.tooShort bytes.length)

/-- The address in the header. -/
def devAddr (frame : DataFrame) : DevAddr := frame.header.devAddr

/-- Whether the code verifies under a key for a full counter. -/
def verifies (suite : CipherSuite) (frame : DataFrame) (network : AesKey) (counter : UInt32) :
    Bool :=
  suite.dataMic network frame.signed frame.devAddr counter frame.type.direction = frame.mic

/-- The payload in the clear. -/
def plaintext (suite : CipherSuite) (frame : DataFrame) (keys : SessionKeys) (counter : UInt32) :
    Bytes :=
  suite.cryptPayload (keys.forPort frame.port) frame.devAddr counter frame.type.direction
    frame.payload

/-- The bytes that the code of a frame covers. -/
def signedBytes (suite : CipherSuite) (type : MessageType) (header : FrameHeader)
    (port : Option UInt8) (payload : Bytes) (keys : SessionKeys) (counter : UInt32) : Bytes :=
  type.byte :: header.bytes ++
    match port with
    | none => []
    | some p =>
      p :: suite.cryptPayload (keys.forPort port) header.devAddr counter type.direction payload

/-- Writes and signs a data frame. The payload is given in the clear and the counter in full. -/
def build (suite : CipherSuite) (type : MessageType) (header : FrameHeader) (port : Option UInt8)
    (payload : Bytes) (keys : SessionKeys) (counter : UInt32) : Except FrameError Bytes :=
  if type.isData = false then .error (.unsupportedType type.byte)
  else if port = none ∧ payload ≠ [] then .error .missingPort
  else if port = some 0 ∧ header.options ≠ [] then .error .duplicateMacCommands
  else
    let signed := signedBytes suite type header port payload keys counter
    .ok (signed ++
      (suite.dataMic keys.network signed header.devAddr counter type.direction).bytes)

end DataFrame

end LoraNetwork
