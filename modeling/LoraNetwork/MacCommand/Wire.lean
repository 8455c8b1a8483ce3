import LoraNetwork.MacCommand.Basic
import LoraNetwork.Text.Hex

/-!
# MAC commands as bytes

Each command is its identifier followed by a payload of the length that identifier and direction
fix. A sequence of commands is read to its end or not at all: one unknown identifier or one cut
payload refuses every command in it. Frequencies travel in steps of 100 Hz in three bytes.
-/

namespace LoraNetwork

/-- Why bytes are no sequence of commands. -/
inductive MacCommandError where
  /-- A byte where an identifier was expected that is none. -/
  | unknownCommand (id : UInt8)
  /-- A payload cut short. -/
  | truncated (id : UInt8)
  deriving DecidableEq, Repr

/-- The wording of the error. -/
def MacCommandError.message : MacCommandError → String
  | unknownCommand id => "unknown MAC command 0x" ++ Text.Hex.atLeast 2 id.toNat
  | truncated id => "truncated MAC command 0x" ++ Text.Hex.atLeast 2 id.toNat

namespace MacCommand

/-- A frequency as it travels: in steps of 100 Hz, three bytes. -/
def frequencyBytes (frequency : UInt32) : Bytes :=
  Bytes.littleEndian 3 (frequency.toNat / 100)

/-- The frequency that three bytes stand for. -/
def frequencyOf (b0 b1 b2 : UInt8) : UInt32 := UInt32.ofNat (Bytes.value [b0, b1, b2] * 100)

/-- A bit that is set or not. -/
def bit (set : Bool) (mask : UInt8) : UInt8 := if set then mask else 0

/-- A high and a low half byte. -/
def halves (high low : UInt8) : UInt8 := (high <<< 4) ||| (low &&& 0x0F)

/-- The bytes after the identifier. Fields are cut to their bits. -/
def payload : MacCommand → Bytes
  | linkCheckReq | dutyCycleAns | devStatusReq | rxTimingSetupAns | txParamSetupAns
  | deviceTimeReq => []
  | linkCheckAns margin gateways => [margin, gateways]
  | linkAdrReq dataRate txPower mask control repetitions =>
    halves dataRate txPower :: Bytes.littleEndian 2 mask.toNat ++
      [halves (control &&& 0x07) repetitions]
  | linkAdrAns power dataRate mask => [bit power 0x04 ||| bit dataRate 0x02 ||| bit mask 0x01]
  | dutyCycleReq exponent => [exponent &&& 0x0F]
  | rxParamSetupReq offset dataRate frequency =>
    halves (offset &&& 0x07) dataRate :: frequencyBytes frequency
  | rxParamSetupAns offset dataRate channel =>
    [bit offset 0x04 ||| bit dataRate 0x02 ||| bit channel 0x01]
  | devStatusAns battery margin => [battery, margin.toUInt8 &&& 0x3F]
  | newChannelReq index frequency maxRate minRate =>
    index :: frequencyBytes frequency ++ [halves maxRate minRate]
  | newChannelAns frequencyOk dataRateOk => [bit dataRateOk 0x02 ||| bit frequencyOk 0x01]
  | rxTimingSetupReq delay => [delay &&& 0x0F]
  | txParamSetupReq downDwell upDwell maxPower =>
    [bit downDwell 0x20 ||| bit upDwell 0x10 ||| (maxPower &&& 0x0F)]
  | dlChannelReq index frequency => index :: frequencyBytes frequency
  | dlChannelAns frequencyOk uplinkExists => [bit uplinkExists 0x02 ||| bit frequencyOk 0x01]
  | deviceTimeAns seconds fraction => Bytes.littleEndian 4 seconds.toNat ++ [fraction]

/-- The bytes of a command. -/
def encode (c : MacCommand) : Bytes := c.id.byte :: c.payload

/-- The bytes of a sequence of commands. -/
def encodeAll (commands : List MacCommand) : Bytes := commands.flatMap encode

/-- The command that an identifier and its payload stand for; `none` if the payload has another
length than the identifier fixes. -/
def ofPayload : CommandId → Direction → Bytes → Option MacCommand
  | .linkCheck, .up, [] => some linkCheckReq
  | .linkCheck, .down, [margin, gateways] => some (linkCheckAns margin gateways)
  | .linkAdr, .up, [b] => some (linkAdrAns (b &&& 0x04 ≠ 0) (b &&& 0x02 ≠ 0) (b &&& 0x01 ≠ 0))
  | .linkAdr, .down, [b, m0, m1, c] =>
    some (linkAdrReq (b >>> 4) (b &&& 0x0F) (UInt16.ofNat (Bytes.value [m0, m1]))
      ((c >>> 4) &&& 0x07) (c &&& 0x0F))
  | .dutyCycle, .up, [] => some dutyCycleAns
  | .dutyCycle, .down, [b] => some (dutyCycleReq (b &&& 0x0F))
  | .rxParamSetup, .up, [b] =>
    some (rxParamSetupAns (b &&& 0x04 ≠ 0) (b &&& 0x02 ≠ 0) (b &&& 0x01 ≠ 0))
  | .rxParamSetup, .down, [b, f0, f1, f2] =>
    some (rxParamSetupReq ((b >>> 4) &&& 0x07) (b &&& 0x0F) (frequencyOf f0 f1 f2))
  | .devStatus, .up, [battery, b] => some (devStatusAns battery ((b <<< 2).toInt8 >>> 2))
  | .devStatus, .down, [] => some devStatusReq
  | .newChannel, .up, [b] => some (newChannelAns (b &&& 0x01 ≠ 0) (b &&& 0x02 ≠ 0))
  | .newChannel, .down, [index, f0, f1, f2, b] =>
    some (newChannelReq index (frequencyOf f0 f1 f2) (b >>> 4) (b &&& 0x0F))
  | .rxTimingSetup, .up, [] => some rxTimingSetupAns
  | .rxTimingSetup, .down, [b] => some (rxTimingSetupReq (b &&& 0x0F))
  | .txParamSetup, .up, [] => some txParamSetupAns
  | .txParamSetup, .down, [b] =>
    some (txParamSetupReq (b &&& 0x20 ≠ 0) (b &&& 0x10 ≠ 0) (b &&& 0x0F))
  | .dlChannel, .up, [b] => some (dlChannelAns (b &&& 0x01 ≠ 0) (b &&& 0x02 ≠ 0))
  | .dlChannel, .down, [index, f0, f1, f2] => some (dlChannelReq index (frequencyOf f0 f1 f2))
  | .deviceTime, .up, [] => some deviceTimeReq
  | .deviceTime, .down, [s0, s1, s2, s3, fraction] =>
    some (deviceTimeAns (UInt32.ofNat (Bytes.value [s0, s1, s2, s3])) fraction)
  | _, _, _ => none

/-- Reads a sequence of commands that travel in one direction: all of it or nothing. -/
def decode (dir : Direction) (bytes : Bytes) : Except MacCommandError (List MacCommand) :=
  match bytes with
  | [] => .ok []
  | first :: rest =>
    match CommandId.ofByte first with
    | none => .error (.unknownCommand first)
    | some id =>
      match ofPayload id dir (rest.take (id.payloadLength dir)) with
      | none => .error (.truncated first)
      | some command =>
        match decode dir (rest.drop (id.payloadLength dir)) with
        | .ok commands => .ok (command :: commands)
        | .error e => .error e
termination_by bytes.length
decreasing_by simp only [List.length_drop, List.length_cons]; omega

end MacCommand

end LoraNetwork
