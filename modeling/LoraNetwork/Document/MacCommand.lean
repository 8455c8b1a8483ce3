import LoraNetwork.Document.Radio
import LoraNetwork.MacCommand.Wire

/-!
# MAC commands as structured values

A command is a table with its name and one member per field.
-/

namespace LoraNetwork

namespace MacCommand

/-- The name of a command. -/
def name : MacCommand → String
  | linkCheckReq => "LinkCheckReq"
  | linkCheckAns .. => "LinkCheckAns"
  | linkAdrReq .. => "LinkADRReq"
  | linkAdrAns .. => "LinkADRAns"
  | dutyCycleReq _ => "DutyCycleReq"
  | dutyCycleAns => "DutyCycleAns"
  | rxParamSetupReq .. => "RXParamSetupReq"
  | rxParamSetupAns .. => "RXParamSetupAns"
  | devStatusReq => "DevStatusReq"
  | devStatusAns .. => "DevStatusAns"
  | newChannelReq .. => "NewChannelReq"
  | newChannelAns .. => "NewChannelAns"
  | rxTimingSetupReq _ => "RXTimingSetupReq"
  | rxTimingSetupAns => "RXTimingSetupAns"
  | txParamSetupReq .. => "TxParamSetupReq"
  | txParamSetupAns => "TxParamSetupAns"
  | dlChannelReq .. => "DlChannelReq"
  | dlChannelAns .. => "DlChannelAns"
  | deviceTimeReq => "DeviceTimeReq"
  | deviceTimeAns .. => "DeviceTimeAns"

/-- The fields of a command, with their names. -/
def fields : MacCommand → List (String × Value)
  | linkCheckReq | dutyCycleAns | devStatusReq | rxTimingSetupAns | txParamSetupAns
  | deviceTimeReq => []
  | linkCheckAns margin gateways => [member "margin" margin, member "gateway_count" gateways]
  | linkAdrReq dataRate txPower mask control repetitions =>
    [member "data_rate" dataRate, member "tx_power" txPower, member "ch_mask" mask,
      member "ch_mask_cntl" control, member "nb_trans" repetitions]
  | linkAdrAns power dataRate mask =>
    [member "power_ack" power, member "data_rate_ack" dataRate, member "channel_mask_ack" mask]
  | dutyCycleReq exponent => [member "max_duty_cycle" exponent]
  | rxParamSetupReq offset dataRate frequency =>
    [member "rx1_dr_offset" offset, member "rx2_data_rate" dataRate, member "freq" frequency]
  | rxParamSetupAns offset dataRate channel =>
    [member "rx1_dr_offset_ack" offset, member "rx2_data_rate_ack" dataRate,
      member "channel_ack" channel]
  | devStatusAns battery margin => [member "battery" battery, member "margin" margin]
  | newChannelReq index frequency maxRate minRate =>
    [member "ch_index" index, member "freq" frequency, member "max_dr" maxRate,
      member "min_dr" minRate]
  | newChannelAns frequencyOk dataRateOk =>
    [member "channel_freq_ok" frequencyOk, member "data_rate_ok" dataRateOk]
  | rxTimingSetupReq delay => [member "delay" delay]
  | txParamSetupReq downDwell upDwell maxPower =>
    [member "downlink_dwell_time" downDwell, member "uplink_dwell_time" upDwell,
      member "max_eirp" maxPower]
  | dlChannelReq index frequency => [member "ch_index" index, member "freq" frequency]
  | dlChannelAns frequencyOk uplinkExists =>
    [member "channel_freq_ok" frequencyOk, member "uplink_freq_exists" uplinkExists]
  | deviceTimeAns seconds fraction => [member "seconds" seconds, member "fraction" fraction]

/-- Reads a request or answer about link, data rate, duty cycle or receive windows, by its name. -/
def readLinkCommand (name : String) (v : Value) : Except FormError (Option MacCommand) := do
  match name with
  | "LinkCheckReq" => return some linkCheckReq
  | "LinkCheckAns" => return some (linkCheckAns (← v.getD "margin" 0) (← v.getD "gateway_count" 0))
  | "LinkADRReq" =>
    return some (linkAdrReq (← v.getD "data_rate" 0) (← v.getD "tx_power" 0) (← v.getD "ch_mask" 0)
      (← v.getD "ch_mask_cntl" 0) (← v.getD "nb_trans" 0))
  | "LinkADRAns" =>
    return some (linkAdrAns (← v.flag "power_ack") (← v.flag "data_rate_ack")
      (← v.flag "channel_mask_ack"))
  | "DutyCycleReq" => return some (dutyCycleReq (← v.getD "max_duty_cycle" 0))
  | "DutyCycleAns" => return some dutyCycleAns
  | "RXParamSetupReq" =>
    return some (rxParamSetupReq (← v.getD "rx1_dr_offset" 0) (← v.getD "rx2_data_rate" 0)
      (← v.getD "freq" 0))
  | "RXParamSetupAns" =>
    return some (rxParamSetupAns (← v.flag "rx1_dr_offset_ack") (← v.flag "rx2_data_rate_ack")
      (← v.flag "channel_ack"))
  | "RXTimingSetupReq" => return some (rxTimingSetupReq (← v.getD "delay" 0))
  | "RXTimingSetupAns" => return some rxTimingSetupAns
  | _ => return none

/-- Reads a request or answer about status, channels, power or time, by its name. -/
def readDeviceCommand (name : String) (v : Value) : Except FormError (Option MacCommand) := do
  match name with
  | "DevStatusReq" => return some devStatusReq
  | "DevStatusAns" => return some (devStatusAns (← v.getD "battery" 0) (← v.getD "margin" 0))
  | "NewChannelReq" =>
    return some (newChannelReq (← v.getD "ch_index" 0) (← v.getD "freq" 0) (← v.getD "max_dr" 0)
      (← v.getD "min_dr" 0))
  | "NewChannelAns" =>
    return some (newChannelAns (← v.flag "channel_freq_ok") (← v.flag "data_rate_ok"))
  | "TxParamSetupReq" =>
    return some (txParamSetupReq (← v.flag "downlink_dwell_time") (← v.flag "uplink_dwell_time")
      (← v.getD "max_eirp" 0))
  | "TxParamSetupAns" => return some txParamSetupAns
  | "DlChannelReq" => return some (dlChannelReq (← v.getD "ch_index" 0) (← v.getD "freq" 0))
  | "DlChannelAns" =>
    return some (dlChannelAns (← v.flag "channel_freq_ok") (← v.flag "uplink_freq_exists"))
  | "DeviceTimeReq" => return some deviceTimeReq
  | "DeviceTimeAns" => return some (deviceTimeAns (← v.getD "seconds" 0) (← v.getD "fraction" 0))
  | _ => return none

end MacCommand

instance : ToValue MacCommand := ⟨fun c => .table (member "cmd" c.name :: c.fields)⟩

instance : OfValue MacCommand where
  ofValue v := do
    let name : String ← v.get "cmd"
    match ← MacCommand.readLinkCommand name v, ← MacCommand.readDeviceCommand name v with
    | some command, _ => return command
    | none, some command => return command
    | none, none => .error (.expected "a MAC command")

/-- The name of an identifier. -/
def CommandId.name : CommandId → String
  | linkCheck => "LinkCheck"
  | linkAdr => "LinkADR"
  | dutyCycle => "DutyCycle"
  | rxParamSetup => "RXParamSetup"
  | devStatus => "DevStatus"
  | newChannel => "NewChannel"
  | rxTimingSetup => "RXTimingSetup"
  | txParamSetup => "TxParamSetup"
  | dlChannel => "DlChannel"
  | deviceTime => "DeviceTime"

/-- The kinds of command error have names in reports. -/
def MacCommandError.kindName : MacCommandError → String
  | unknownCommand _ => "UnknownCommand"
  | truncated _ => "Truncated"

instance : ToValue MacCommandError := ⟨fun e => errorReport e.kindName e.message⟩

end LoraNetwork
