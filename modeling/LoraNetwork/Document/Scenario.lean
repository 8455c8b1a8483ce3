import LoraNetwork.Document.Server
import LoraNetwork.Document.Uplink
import LoraNetwork.Simulation.Scenario

/-!
# Scenarios as structured values

Reading the steps of a scenario and reporting what they show. What a join draws at random never
appears in a report: the address and the keys of its session are replaced by names that say which
join it was.
-/

namespace LoraNetwork

/-! ## Names -/

/-- The mark of a name that means the session of a join. -/
def joinMark : String := "joined:"

/-- The name of the session of a join. -/
def joinName (number : Nat) : String := joinMark ++ toString number

/-- The number in the name of a join's session. -/
def joinNumber? (text : String) : Option Nat :=
  if text.startsWith joinMark then (text.drop joinMark.length).toString.toNat? else none

instance : OfValue SessionName where
  ofValue v :=
    match v with
    | .text word =>
      match joinNumber? word with
      | some number => .ok (.joined number)
      | none => (ofValue v).map SessionName.device
    | _ => .error (.expected "the name of a session")

instance : OfValue AddressName where
  ofValue v :=
    match v with
    | .text word =>
      match joinNumber? word with
      | some number => .ok (.joined number)
      | none => (ofValue v).map AddressName.address
    | _ => .error (.expected "the name of an address")

/-! ## Switches -/

/-- Reads whom a setting is about: a device, or an address for requests about addresses. -/
def Subject.named (kind : RequestKind) (name : String) : Except FormError Subject :=
  match kind with
  | .candidates => (ofValue (Value.text name)).map Subject.address
  | _ => (ofValue (Value.text name)).map Subject.device

/-- Reads how long requests take. -/
def DelayPlan.describedBy (kind : RequestKind) (v : Value) : Except FormError DelayPlan := do
  match v with
  | .null => return .uniform 0
  | .table members =>
    return .bySubject (← members.mapM fun entry => do
      return (← Subject.named kind entry.1, ← ofValue entry.2))
  | _ => return .uniform (← ofValue v)

/-- Reads which requests fail. -/
def FailurePlan.describedBy (kind : RequestKind) (v : Value) : Except FormError FailurePlan := do
  match v with
  | .bool true => return .always
  | .list items =>
    return .about (← items.mapM fun item => do Subject.named kind (← ofValue item))
  | _ => return .about []

/-- Reads how downlink counters are allocated. -/
def AllocationMode.describedBy (v : Value) : Except FormError AllocationMode := do
  match v with
  | .null => return .proposed
  | .text _ => return .taken
  | _ => return .fixed (← ofValue v)

/-- The kinds of request by the names that switches give them. -/
def requestKinds : List (String × RequestKind) :=
  [("session", .session), ("candidates", .candidates), ("persist", .persist),
    ("allocate", .allocate), ("reset_cache", .resetCache), ("join_info", .joinInfo),
    ("receive", .receive), ("complete", .settle .complete), ("abandon", .settle .abandon),
    ("reject", .settle .reject), ("telemetry", .telemetry)]

/-- Reads a switch by its name. -/
def Switch.describedBy (name : String) (v : Value) : Except FormError Switch := do
  if name = "allocate" then return .allocation (← AllocationMode.describedBy v)
  match requestKinds.find? fun entry => entry.1 ++ "_delay" = name with
  | some (_, kind) => return .delay kind (← DelayPlan.describedBy kind v)
  | none =>
    match requestKinds.find? fun entry => entry.1 ++ "_fail" = name with
    | some (_, kind) => return .failure kind (← FailurePlan.describedBy kind v)
    | none => throw (.expected "a switch")

/-! ## Steps -/

instance : OfValue FrameDraft where
  ofValue v := do
    return {
      session := ← v.get "dev"
      fcnt := ← v.getD "fcnt" 0
      confirmed := ← v.flag "confirmed"
      port := ← v.get? "f_port"
      payload := ← v.getD "payload" []
      control := ← ofValue v
      options := ← v.get? "f_opts"
      devAddr := ← v.get? "addr"
      networkKey := ← v.get? "nwk" }

instance : OfValue FrameSource where
  ofValue v := do
    match v.find? "join", v.find? "frame" with
    | some join, _ =>
      return .join (← join.get "app_key") (← join.get "join_eui") (← join.get "eui")
        (← join.getD "nonce" 0)
    | none, some frame => return .data (← ofValue frame)
    | none, none => return .bytes (← v.getD "phy" [])

instance : OfValue UplinkDraft where
  ofValue v := do
    return ⟨← ofValue v, ← v.getD "meta" {}, ← v.getD "ago_ms" 0⟩

/-- Reads a step that changes or shows what the collaborators hold, by its name. -/
def ScenarioStep.ofBackendStep (name : String) (v : Value) :
    Except FormError (Option ScenarioStep) := do
  match name with
  | "insert" => return some (.insert (← ofValue v))
  | "know" => return some (.know (← v.get "eui") (← v.get "addr") (← ofValue v))
  | "remove" => return some (.remove (← v.get "eui"))
  | "join_info" => return some (.joinInfo (← v.get "eui") (← ofValue v))
  | "candidates" => return some (.candidates (← v.get "addr") (← v.getD "list" []))
  | "set" =>
    let switches := v.members.filter fun entry => entry.1 ≠ "do"
    return some (.set (← switches.mapM fun entry => Switch.describedBy entry.1 entry.2))
  | "push" =>
    let drafted ← CloudMessage.describedBy v 0
    return some (.push (← v.get "eui") fun now =>
      { drafted with expiresAt := drafted.expiresAt.map fun expiry => now + expiry })
  | "queue" => return some (.queue (← v.get "eui"))
  | "stored" => return some (.stored (← v.get "eui"))
  | _ => return none

/-- Reads a step on the server, by its name. -/
def ScenarioStep.ofServerStep (name : String) (v : Value) :
    Except FormError (Option ScenarioStep) := do
  match name with
  | "advance" => return some (.advance (← v.getD "ms" 0))
  | "uplink" => return some (.uplink (← ofValue v))
  | "submit" => return some (.submit (← v.getD "uplinks" []))
  | "session" => return some (.session (← v.get "eui"))
  | "resolve" => return some (.resolve (← v.get "addr"))
  | "invalidate" => return some (.invalidate (← v.get "eui"))
  | "invalidate_addr" => return some (.invalidateAddress (← v.get "addr"))
  | "resolve_frame" => return some (.resolveFrame (← ofValue v))
  | "install" => return some (.install (← ofValue v))
  | "device" => return some (.device (← ofValue v))
  | "handle" => return some (.handle (← v.get "device") (← ofValue v))
  | _ => return none

instance : OfValue ScenarioStep where
  ofValue v := do
    let name : String ← v.get "do"
    match ← ScenarioStep.ofBackendStep name v with
    | some step => return step
    | none =>
      match ← ScenarioStep.ofServerStep name v with
      | some step => return step
      | none => throw (.expected "a step")

/-! ## Reports -/

instance : ToValue DownlinkContent where
  toValue
    | .frame payload => .table [member "phy" payload]
    | .joinedData frame plaintext verifies =>
      let shown := frame.members.filter fun entry =>
        entry.1 ≠ "frm_payload" && entry.1 ≠ "mic"
      .table [("frame", .table (shown ++ [member "frm_payload" plaintext, member "mic" verifies]))]
    | .accept accept keysMatch size =>
      .table [("accept", .table
        [member "net_id" accept.netId.value, member "addr" accept.devAddr,
          member "nwk_id" accept.devAddr.networkPart, member "rx1_dr_offset" accept.rx1Offset,
          member "rx2_data_rate" accept.rx2DataRate, member "rx_delay" accept.rxDelay,
          member "keys_match" keysMatch, member "len" size])]

/-- The report of a downlink. -/
def downlinkReport (entry : Downlink × DownlinkContent) : Value :=
  .table [member "content" entry.2, member "window" entry.1.window,
    member "delay_ms" entry.1.delay.toMillis, member "tmst" entry.1.timestamp,
    member "frequency" entry.1.frequency, member "data_rate" entry.1.dataRate,
    member "data_rate_index" entry.1.dataRateIndex, member "fcnt_down" entry.1.fcntDown]

/-- The members of the report of an uplink's end. -/
def outcomeMembers : OutcomeReport → List (String × Value)
  | .ok downlink => [member "ok" true, member "downlink" (downlink.map downlinkReport)]
  | .error failure => failure.members

/-- The members of the report of an uplink's end among several. -/
def submittedMembers (outcome : OutcomeReport) : List (String × Value) :=
  let reason :=
    match outcome with
    | .ok _ => none
    | .error failure => some failure.reason.code
  outcomeMembers outcome ++ [member "failure_reason" reason, member "is_success" reason.isNone]

/-- The report of a device that is cached. -/
def cachedReport (s : Session) : Value :=
  .table [member "eui" s.devEui, member "fcnt_up" s.progress.fcntUp,
    member "fcnt_down" s.progress.fcntDown, member "delta" s.delta,
    member "history" s.history.samples.length,
    member "resubmits" (s.confirmation.map Confirmation.resubmits)]

instance : ToValue StepResult where
  toValue
    | .nothing => .null
    | .removed wasStored => toValue wasStored
    | .messages ids => toValue ids
    | .record record => toValue record
    | .uplink outcome devices =>
      .table (outcomeMembers outcome ++ [member "devices" (devices.map fun list =>
        list.map cachedReport)])
    | .submitted outcomes loaders =>
      .table [member "early" (outcomes.map fun _ => false),
        member "outcomes" (outcomes.map fun outcome => Value.table (submittedMembers outcome)),
        member "loaders" loaders]
    | .session session => toValue session
    | .devices euis => toValue euis
    | .refused e => toValue e
    | .resolved (.ok eui) => .table [member "eui" eui]
    | .resolved (.error reason) => .table [member "failed" reason.code]
    | .handled outcome session => .table (outcomeMembers outcome ++ [member "session" session])

/-! ## Hiding what was drawn -/

mutual

/-- A value with its texts replaced. -/
def Value.mapTexts (f : String → String) : Value → Value
  | .text s => .text (f s)
  | .list items => .list (Value.mapTextsOfItems f items)
  | .table members => .table (Value.mapTextsOfMembers f members)
  | .null => .null
  | .bool b => .bool b
  | .integer n => .integer n
  | .real x => .real x
  | .nan negative => .nan negative

/-- The items of a list with their texts replaced. -/
def Value.mapTextsOfItems (f : String → String) : List Value → List Value
  | [] => []
  | item :: rest => item.mapTexts f :: Value.mapTextsOfItems f rest

/-- The members of a table with the texts of their values replaced. -/
def Value.mapTextsOfMembers (f : String → String) :
    List (String × Value) → List (String × Value)
  | [] => []
  | entry :: rest => (entry.1, entry.2.mapTexts f) :: Value.mapTextsOfMembers f rest

end

/-- The names of what joins created: the texts of address and keys, and what to write instead. -/
def joinNames (joins : List (DevAddr × SessionKeys)) : List (String × String) :=
  (joins.mapIdx fun place join =>
    [(join.1.text, joinName (place + 1)), (join.2.network.text, joinName (place + 1) ++ ".nwk"),
      (join.2.application.text, joinName (place + 1) ++ ".app")]).flatten

/-- The text that a log entry is sorted by: whom the request concerns. -/
def subjectText : Value → String
  | .list (_ :: .text subject :: _) => subject
  | _ => ""

/-- The log of a step, with the requests about each subject in the order they were made. -/
def logOf (names : List (String × String)) (report : Scenario.StepReport) : List Value :=
  let entries := report.requests.map fun request =>
    (toValue request).mapTexts fun text => (names.lookup text).getD text
  if report.concurrent then
    entries.mergeSort fun a b => subjectText a ≤ subjectText b
  else entries

/-- The report of a step: what it shows, and the log if any request was made. -/
def stepReport (names : List (String × String)) (report : Scenario.StepReport) : Value :=
  let result := (toValue report.result).mapTexts fun text => (names.lookup text).getD text
  match logOf names report with
  | [] => result
  | log => .table [("result", result), ("log", .list log)]

/-- Reads a scenario, plays it and reports every step. -/
def playScenario (suite : CipherSuite) (v : Value) : Except FormError Value := do
  let unixMillis : Nat ← v.getD "unix_ms" 1700000000000
  let scenario : Scenario :=
    { net := ⟨← v.getD "config" {}, suite⟩
      machine := { wallClock := ⟨unixMillis / 1000, unixMillis % 1000 * 1000000⟩ } }
  match scenario.play (← v.getD "steps" []) with
  | some (reports, last) =>
    return .list (reports.map (stepReport (joinNames last.machine.backend.joins)))
  | none => throw (.expected "steps that can be taken")

end LoraNetwork
