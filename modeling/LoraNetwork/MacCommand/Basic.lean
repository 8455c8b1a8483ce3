import LoraNetwork.Bytes
import LoraNetwork.Frame.Type

/-!
# MAC commands

The requests and answers that device and network exchange inside data frames. A request and its
answer share one identifier and are told apart by the direction they travel in. Sizes depend on
identifier and direction alone; the byte forms are in `MacCommand/Wire`.
-/

namespace LoraNetwork

/-- The identifiers of the commands. -/
inductive CommandId where
  /-- Checking the link. -/
  | linkCheck
  /-- Adaptive data rate. -/
  | linkAdr
  /-- Limiting the duty cycle. -/
  | dutyCycle
  /-- Setting up the receive windows. -/
  | rxParamSetup
  /-- The status of the device. -/
  | devStatus
  /-- Adding or changing a channel. -/
  | newChannel
  /-- Setting the delay of the first window. -/
  | rxTimingSetup
  /-- Setting dwell time and power. -/
  | txParamSetup
  /-- Setting the downlink frequency of a channel. -/
  | dlChannel
  /-- The time. -/
  | deviceTime
  deriving DecidableEq, Repr

namespace CommandId

/-- The byte of an identifier. -/
def byte : CommandId → UInt8
  | linkCheck => 0x02
  | linkAdr => 0x03
  | dutyCycle => 0x04
  | rxParamSetup => 0x05
  | devStatus => 0x06
  | newChannel => 0x07
  | rxTimingSetup => 0x08
  | txParamSetup => 0x09
  | dlChannel => 0x0A
  | deviceTime => 0x0D

/-- Every identifier. -/
def all : List CommandId :=
  [linkCheck, linkAdr, dutyCycle, rxParamSetup, devStatus, newChannel, rxTimingSetup, txParamSetup,
    dlChannel, deviceTime]

/-- The identifier of a byte, if it is one. -/
def ofByte (b : UInt8) : Option CommandId := all.find? fun id => id.byte = b

/-- How many bytes follow the identifier in a direction. -/
def payloadLength : CommandId → Direction → Nat
  | linkCheck, .up => 0
  | linkCheck, .down => 2
  | linkAdr, .up => 1
  | linkAdr, .down => 4
  | dutyCycle, .up => 0
  | dutyCycle, .down => 1
  | rxParamSetup, .up => 1
  | rxParamSetup, .down => 4
  | devStatus, .up => 2
  | devStatus, .down => 0
  | newChannel, .up => 1
  | newChannel, .down => 5
  | rxTimingSetup, .up => 0
  | rxTimingSetup, .down => 1
  | txParamSetup, .up => 0
  | txParamSetup, .down => 1
  | dlChannel, .up => 1
  | dlChannel, .down => 4
  | deviceTime, .up => 0
  | deviceTime, .down => 5

/-- The byte of an identifier is read back. -/
theorem ofByte_byte (id : CommandId) : ofByte id.byte = some id := by cases id <;> rfl

end CommandId

/-- A MAC command. Fields may hold more than their bits on the air. -/
inductive MacCommand where
  /-- Asks how well the device is heard. -/
  | linkCheckReq
  /-- The margin above the demodulation floor in dB, and how many gateways heard the request. -/
  | linkCheckAns (margin gatewayCount : UInt8)
  /-- Commands data rate, transmission power, channels and repetitions. -/
  | linkAdrReq (dataRate txPower : UInt8) (channelMask : UInt16) (maskControl repetitions : UInt8)
  /-- What the device accepted of the command. -/
  | linkAdrAns (powerAck dataRateAck channelMaskAck : Bool)
  /-- Limits the duty cycle by an exponent. -/
  | dutyCycleReq (exponent : UInt8)
  /-- Answers the limit. -/
  | dutyCycleAns
  /-- Sets up the receive windows; the frequency is in Hz. -/
  | rxParamSetupReq (rx1Offset rx2DataRate : UInt8) (frequency : UInt32)
  /-- What the device accepted of the set-up. -/
  | rxParamSetupAns (rx1OffsetAck rx2DataRateAck channelAck : Bool)
  /-- Asks for the status of the device. -/
  | devStatusReq
  /-- The battery level, and the margin of the last request in dB. -/
  | devStatusAns (battery : UInt8) (margin : Int8)
  /-- Adds or changes a channel; the frequency is in Hz. -/
  | newChannelReq (index : UInt8) (frequency : UInt32) (maxDataRate minDataRate : UInt8)
  /-- What the device accepted of the channel. -/
  | newChannelAns (frequencyOk dataRateOk : Bool)
  /-- Sets the delay of the first window in seconds. -/
  | rxTimingSetupReq (delay : UInt8)
  /-- Answers the delay. -/
  | rxTimingSetupAns
  /-- Sets the dwell times and the highest power. -/
  | txParamSetupReq (downlinkDwell uplinkDwell : Bool) (maxPower : UInt8)
  /-- Answers the setting. -/
  | txParamSetupAns
  /-- Sets the downlink frequency of a channel, in Hz. -/
  | dlChannelReq (index : UInt8) (frequency : UInt32)
  /-- What the device accepted of the frequency. -/
  | dlChannelAns (frequencyOk uplinkExists : Bool)
  /-- Asks for the time. -/
  | deviceTimeReq
  /-- The seconds since the epoch of GPS and the fraction in 1/256 s. -/
  | deviceTimeAns (seconds : UInt32) (fraction : UInt8)
  deriving DecidableEq, Repr

namespace MacCommand

/-- The identifier of a command. -/
def id : MacCommand → CommandId
  | linkCheckReq | linkCheckAns .. => .linkCheck
  | linkAdrReq .. | linkAdrAns .. => .linkAdr
  | dutyCycleReq .. | dutyCycleAns => .dutyCycle
  | rxParamSetupReq .. | rxParamSetupAns .. => .rxParamSetup
  | devStatusReq | devStatusAns .. => .devStatus
  | newChannelReq .. | newChannelAns .. => .newChannel
  | rxTimingSetupReq .. | rxTimingSetupAns => .rxTimingSetup
  | txParamSetupReq .. | txParamSetupAns => .txParamSetup
  | dlChannelReq .. | dlChannelAns .. => .dlChannel
  | deviceTimeReq | deviceTimeAns .. => .deviceTime

/-- The direction a command travels in. -/
def direction : MacCommand → Direction
  | linkCheckReq | linkAdrAns .. | dutyCycleAns | rxParamSetupAns .. | devStatusAns ..
  | newChannelAns .. | rxTimingSetupAns | txParamSetupAns | dlChannelAns .. | deviceTimeReq => .up
  | _ => .down

/-- The number of bytes of a command, its identifier included. -/
def size (c : MacCommand) : Nat := 1 + c.id.payloadLength c.direction

/-- The number of bytes of a sequence of commands. -/
def totalSize : List MacCommand → Nat
  | [] => 0
  | c :: rest => c.size + totalSize rest

end MacCommand

end LoraNetwork
