import LoraNetwork.Config.Environment
import LoraNetwork.Config.Path
import LoraNetwork.Config.Server
import LoraNetwork.Decimal.Shortest
import LoraNetwork.Document.Json
import LoraNetwork.Document.Toml

/-!
# Loading a configuration

A configuration comes from a file, which may be left out, and from the environment, whose settings
win one by one. Reading is lenient about scalars: numbers, truth values and their texts stand for
one another where a setting needs one of them. It is strict about everything else, and a
configuration that can be read still has to be one that a server can run with.
-/

namespace LoraNetwork

/-- The text of a configuration file. -/
inductive ConfigFile where
  /-- JSON. -/
  | json (text : String)
  /-- TOML. -/
  | toml (text : String)
  /-- The file does not exist. -/
  | missing

/-- Why no configuration was loaded. -/
inductive LoadError where
  /-- A source cannot be read, or does not hold what a setting needs. -/
  | unreadable
  /-- No server can run with it. -/
  | fault (fault : ConfigFault)
  deriving DecidableEq, Repr

namespace Setting

/-! ## Scalars -/

/-- The words for yes and no. -/
def switchOf (text : String) : Option Bool :=
  let word := text.toList.map Char.toLower
  if ["true".toList, "on".toList, "yes".toList].contains word then some true
  else if ["false".toList, "off".toList, "no".toList].contains word then some false
  else none

/-- A setting as it is kept: a whole number that does not fit 64 bits with a sign has double
precision. -/
def kept : Value → Value
  | .integer n => if Text.Numeral.fitsSigned n then .integer n else .real (Float.ofInt n)
  | v => v

/-- A number from 0 to 2^64 - 1. Numbers that are not whole are rounded, and cut to the range; what
is no number counts as zero. -/
def unsigned (v : Value) : Option Nat :=
  match kept v with
  | .integer n => if 0 ≤ n then some n.toNat else none
  | .bool b => some (if b then 1 else 0)
  | .real x => some x.round.toUInt64.toNat
  | .nan _ => some 0
  | .text s =>
    match switchOf s with
    | some b => some (if b then 1 else 0)
    | none => Text.Numeral.unsigned s.toList
  | _ => none

/-- The low 32 bits of a number. -/
def word (v : Value) : Option UInt32 := (unsigned v).map UInt32.ofNat

/-- The bits of a number that is rounded to single precision. -/
def roundedBits (x : Float) : UInt32 := x.toFloat32.toBits

/-- The bits in single precision of one and of zero. -/
def switchBits (b : Bool) : UInt32 := roundedBits (if b then 1.0 else 0.0)

/-- The bits in single precision of what is no number. -/
def nanBits (negative : Bool) : UInt32 := if negative then 0xFFC00000 else 0x7FC00000

/-- The bits of a number of single precision. -/
def singleBits : Value → Option UInt32
  | .integer n => some (roundedBits (Float.ofInt n))
  | .bool b => some (switchBits b)
  | .real x => some (roundedBits x)
  | .nan negative => some (nanBits negative)
  | .text s =>
    match switchOf s, Text.Numeral.nan s.toList with
    | some b, _ => some (switchBits b)
    | none, some negative => some (nanBits negative)
    | none, none => (Text.Numeral.decimal s.toList).map roundedBits
  | _ => none

/-- A text, or the text of a number or a truth value. -/
def text (v : Value) : Option String :=
  match kept v with
  | .text s => some s
  | .bool b => some (if b then "true" else "false")
  | .integer n => some (toString n)
  | .real x => some (Decimal.text x)
  | .nan _ => some "NaN"
  | _ => none

/-! ## Other settings -/

/-- An address, written as a text. -/
def addr (v : Value) : Option DevAddr := do (DevAddr.ofText (← text v)).toOption

/-- A list of addresses. -/
def addrs : Value → Option (List DevAddr)
  | .list items => items.mapM addr
  | _ => none

/-- A region: its name, or a table whose only member has its name. -/
def region : Value → Option Region
  | .text name => Region.ofName name
  | .table [(name, _)] => Region.ofName name
  | _ => none

/-- A setting of a table, with a default for an absent one. -/
def ofMember {α : Type} (members : List (String × Value)) (name : String) (read : Value → Option α)
    (default : α) : Option α :=
  match members.lookup name with
  | none => some default
  | some v => read v

/-- The tuning of adaptive data rate: a table, or a list of the same settings in order. -/
def adr (v : Value) : Option AdrConfig := do
  let usual : AdrConfig := {}
  let members ←
    match v with
    | .table members => some members
    | .list items => some (["history_size", "installation_margin_db"].zip items)
    | _ => none
  return {
    historySize := ← ofMember members "history_size" unsigned usual.historySize
    marginBits := ← ofMember members "installation_margin_db" singleBits usual.marginBits }

end Setting

namespace ServerConfig

open Setting (ofMember unsigned)

/-- Reads a configuration from its settings; what is absent has its default, and what is unknown is
ignored. -/
def ofSettings (settings : Value) : Option ServerConfig := do
  let usual : ServerConfig := {}
  let m := settings.members
  return {
    gatewayId := ← ofMember m "gateway_id" Setting.text usual.gatewayId
    netId := ⟨← ofMember m "net_id" Setting.word usual.netId.value⟩
    allowedAddrs := ← ofMember m "allowed_dev_addrs" Setting.addrs usual.allowedAddrs
    defaultRegion := ← ofMember m "default_region" Setting.region usual.defaultRegion
    addressLifetime := ← ofMember m "dev_addr_reload_interval_ms" unsigned usual.addressLifetime
    sessionIdle := ← ofMember m "session_idle_timeout_ms" unsigned usual.sessionIdle
    candidateTimeout := ← ofMember m "candidate_fetch_timeout_ms" unsigned usual.candidateTimeout
    maxCounterGap := ← ofMember m "max_fcnt_gap" Setting.word usual.maxCounterGap
    saveDelta := ← ofMember m "fcnt_save_delta" Setting.word usual.saveDelta
    maxResubmits := ← ofMember m "max_confirmation_resubmits" Setting.word usual.maxResubmits
    processingTime := ← ofMember m "expected_processing_time_ms" unsigned usual.processingTime
    cloudCheckTime := ← ofMember m "min_cloud_check_time_ms" unsigned usual.cloudCheckTime
    adr := ← ofMember m "adr" Setting.adr usual.adr
    logFilter := ← ofMember m "log_filter" Setting.text usual.logFilter }

/-- The settings in a file: the members of the value that it holds. A value that is no table holds
no settings. -/
def fileSettings : ConfigFile → Option (List (String × Value))
  | .missing => none
  | .json text => (Json.parse text).map Value.members
  | .toml text => (Toml.parse text).map Value.members

/-- Settings made one after the other. -/
def applied (settings : List (String × Value)) (target : Value) : Value :=
  settings.foldl (fun target entry => target.setAt (SettingPath.ofText entry.1) entry.2) target

/-- Loads a configuration. -/
def load (file : Option ConfigFile) (environment : List (String × String)) :
    Except LoadError ServerConfig := do
  let settings ←
    match file with
    | none => .ok []
    | some file =>
      match fileSettings file with
      | some settings => .ok settings
      | none => .error .unreadable
  let merged := applied (Environment.settings environment) (applied settings (.table []))
  match ofSettings merged with
  | none => .error .unreadable
  | some config =>
    match config.fault with
    | some fault => .error (.fault fault)
    | none => .ok config

end ServerConfig

end LoraNetwork
