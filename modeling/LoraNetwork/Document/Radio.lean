import LoraNetwork.Document.Value
import LoraNetwork.Frame.Uplink
import LoraNetwork.Radio

/-!
# Identifiers, frames and radio metadata as structured values

Byte strings are hexadecimal texts, identifiers and data rates the words people use for them, and
floating-point numbers are written as the number of their bit pattern.
-/

namespace LoraNetwork

/-- Reads a text that is parsed further. -/
def ofWord {ε α : Type} (parse : String → Except ε α) (form : String) (v : Value) :
    Except FormError α :=
  match v with
  | .text word => (parse word).mapError fun _ => .expected form
  | _ => .error (.expected form)

/-- Reads one of some words. -/
def ofChoice {α : Type} (choices : List (String × α)) (form : String) (v : Value) :
    Except FormError α :=
  match v with
  | .text word =>
    match choices.lookup word with
    | some choice => .ok choice
    | none => .error (.expected form)
  | _ => .error (.expected form)

instance : ToValue (List UInt8) := ⟨fun bytes => .text (Text.Hex.encode bytes)⟩

instance : OfValue (List UInt8) where
  ofValue
    | .text digits =>
      match Text.Hex.decode digits with
      | some bytes => .ok bytes
      | none => .error (.expected "hexadecimal digits")
    | _ => .error (.expected "hexadecimal digits")

instance : ToValue Eui64 := ⟨fun eui => .text eui.text⟩
instance : OfValue Eui64 := ⟨ofWord Eui64.ofText "an identifier"⟩
instance : ToValue DevAddr := ⟨fun addr => .text addr.text⟩
instance : OfValue DevAddr := ⟨ofWord DevAddr.ofText "an address"⟩
instance : ToValue AesKey := ⟨fun key => .text key.text⟩
instance : OfValue AesKey := ⟨ofWord AesKey.ofText "a key"⟩
instance : ToValue Mic := ⟨fun mic => toValue mic.bytes⟩
instance : ToValue AppNonce := ⟨fun nonce => toValue nonce.bytes⟩

instance : OfValue AppNonce where
  ofValue v := do
    match ← (ofValue v : Except FormError Bytes) with
    | [b0, b1, b2] => .ok ⟨b0, b1, b2⟩
    | _ => .error (.expected "three bytes")

instance : ToValue Region := ⟨fun region => .text region.name⟩

instance : OfValue Region :=
  ⟨ofChoice [("EU868", .eu868), ("US915", .us915)] "a region"⟩

instance : ToValue DataRate := ⟨fun rate => .text rate.text⟩
instance : OfValue DataRate := ⟨ofWord DataRate.ofText "a data rate"⟩

instance : ToValue Direction where
  toValue
    | .up => .text "up"
    | .down => .text "down"

instance : OfValue Direction := ⟨ofChoice [("up", .up), ("down", .down)] "a direction"⟩

/-- The name of a message type. -/
def MessageType.name : MessageType → String
  | joinRequest => "JoinRequest"
  | joinAccept => "JoinAccept"
  | unconfirmedDataUp => "UnconfirmedDataUp"
  | unconfirmedDataDown => "UnconfirmedDataDown"
  | confirmedDataUp => "ConfirmedDataUp"
  | confirmedDataDown => "ConfirmedDataDown"
  | rejoinRequest => "RejoinRequest"
  | proprietary => "Proprietary"

/-- Every message type. -/
def MessageType.all : List MessageType :=
  [joinRequest, joinAccept, unconfirmedDataUp, unconfirmedDataDown, confirmedDataUp,
    confirmedDataDown, rejoinRequest, proprietary]

instance : ToValue MessageType := ⟨fun type => .text type.name⟩

instance : OfValue MessageType :=
  ⟨ofChoice (MessageType.all.map fun type => (type.name, type)) "a message type"⟩

/-- The bit pattern of a number of single precision. -/
def bitsOf (x : Float32) : Value := toValue x.toBits.toNat

instance : ToValue RadioMetadata where
  toValue m := .table
    [member "frequency" m.frequency, member "data_rate" m.dataRate, member "channel" m.channel,
      member "rssi" m.rssi, ("snr_bits", bitsOf m.snr), member "tmst" m.timestamp]

instance : OfValue RadioMetadata where
  ofValue v := do
    let usual : RadioMetadata := {}
    return {
      frequency := ← v.getD "frequency" usual.frequency
      dataRate := ← v.getD "data_rate" usual.dataRate
      channel := ← v.getD "channel" usual.channel
      rssi := ← v.getD "rssi" usual.rssi
      snr := ← v.getD "snr" usual.snr
      timestamp := ← v.getD "tmst" usual.timestamp }

instance : OfValue FrameControl where
  ofValue v := do
    return {
      adr := ← v.flag "adr"
      adrAckReq := ← v.flag "adr_ack_req"
      ack := ← v.flag "ack"
      fPending := ← v.flag "f_pending"
      optionsLength := ← v.getD "f_opts_len" 0 }

/-- Reads the header of a frame to be written: flags, and options that overwrite the announced
length. -/
def FrameHeader.describedBy (v : Value) (addr : DevAddr) (counter : UInt16) :
    Except FormError (Except FrameError FrameHeader) := do
  let header : FrameHeader := { devAddr := addr, control := ← ofValue v, counter := counter }
  let options : Option Bytes ← v.get? "f_opts"
  match options with
  | none => .ok (.ok header)
  | some options => .ok (header.withOptions options)

/-- The members of a frame; its payload is still enciphered. -/
def DataFrame.members (frame : DataFrame) : List (String × Value) :=
  [member "mtype" frame.type, member "dev_addr" frame.devAddr,
    member "adr" frame.header.control.adr, member "adr_ack_req" frame.header.control.adrAckReq,
    member "ack" frame.header.control.ack, member "f_pending" frame.header.control.fPending,
    member "f_opts_len" frame.header.control.optionsLength, member "f_cnt" frame.header.counter,
    member "f_opts" frame.header.options, member "f_port" frame.port,
    member "frm_payload" frame.payload, member "mic" frame.mic]

instance : ToValue DataFrame := ⟨fun frame => .table frame.members⟩

/-- The members of a join request. -/
def JoinRequest.members (request : JoinRequest) : List (String × Value) :=
  [member "join_eui" request.joinEui, member "dev_eui" request.devEui,
    member "dev_nonce" request.devNonce, member "mic" request.mic]

instance : ToValue JoinRequest := ⟨fun request => .table request.members⟩

instance : ToValue UplinkFrame where
  toValue
    | .data frame => .table [member "data" frame]
    | .join request => .table [member "join" request]

instance : ToValue JoinAccept where
  toValue a := .table
    [member "app_nonce" a.nonce, member "net_id" a.netId.value, member "addr" a.devAddr,
      member "rx1_dr_offset" a.rx1Offset, member "rx2_data_rate" a.rx2DataRate,
      member "rx_delay" a.rxDelay]

instance : OfValue JoinAccept where
  ofValue v := do
    return {
      nonce := ← v.get "app_nonce"
      netId := NetId.ofNumber (← v.getD "net_id" 0)
      devAddr := ← v.get "addr"
      rx1Offset := ← v.getD "rx1_dr_offset" 0
      rx2DataRate := ← v.getD "rx2_data_rate" 0
      rxDelay := ← v.getD "rx_delay" 0 }

instance : OfValue SessionKeys where
  ofValue v := do return ⟨← v.get "nwk", ← v.get "app"⟩

/-- The kinds of frame error have names in reports. -/
def FrameError.kindName : FrameError → String
  | tooShort _ => "TooShort"
  | unsupportedType _ => "UnsupportedMType"
  | unsupportedMajor _ => "UnsupportedMajor"
  | invalidOptionsLength _ => "InvalidFOptsLength"
  | duplicateMacCommands => "DuplicateMacCommands"
  | bufferTooSmall => "BufferTooSmall"
  | missingPort => "MissingFPort"
  | invalidMic => "InvalidMic"

/-- The report of an error: its kind and its text. -/
def errorReport (kind message : String) : Value :=
  .table [member "error" kind, member "message" message]

instance : ToValue FrameError := ⟨fun e => errorReport e.kindName e.message⟩
instance : ToValue IdentifierError := ⟨fun e => errorReport "ParseIdError" e.message⟩
instance : ToValue UnknownDataRate := ⟨fun e => errorReport "UnknownDataRate" e.message⟩

/-- A result is written as its value or as the report of its error. -/
instance {ε α : Type} [ToValue ε] [ToValue α] : ToValue (Except ε α) where
  toValue
    | .ok v => toValue v
    | .error e => toValue e

end LoraNetwork
