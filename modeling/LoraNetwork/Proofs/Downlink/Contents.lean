import LoraNetwork.Proofs.Downlink.Assembly
import LoraNetwork.Proofs.Frame.Writing
import LoraNetwork.Proofs.MacCommand.RoundTrip

/-!
# What a downlink carries

A downlink is put together from commands in order and at most one message behind them. The commands
that find room are carried whole and in order, in the options or, under the network key, on port 0;
the others leave no trace. A message that fits is carried whole, and one that does not changes
nothing. For every size limit that leaves room for the header such a downlink can be written, keeps
its limit, and is read back with all of this. When a message is offered, and what becomes of one
that does not fit, is the handler's matter and not covered here.
-/

namespace LoraNetwork

/-- The commands that travel in the options: those of the network, unless they travel on port 0, and
those of the message. -/
def DownlinkBuilder.inOptions (onPortZero : Bool) (commands : List MacCommand)
    (carried : Option CloudMessage) : List MacCommand :=
  (if onPortZero then [] else commands) ++ (carried.map CloudMessage.commands).getD []

/-- What a device finds in a frame: commands of the network, where they belong, a message if one is
carried, and nothing else. Commands that can be told to a device are read one by one. -/
structure DataFrame.Delivers (suite : CipherSuite) (keys : SessionKeys) (counter : UInt32)
    (onPortZero : Bool) (commands : List MacCommand) (carried : Option CloudMessage)
    (frame : DataFrame) : Prop where
  /-- The options are the commands that travel there. -/
  options : frame.header.options =
    MacCommand.encodeAll (DownlinkBuilder.inOptions onPortZero commands carried)
  /-- The device reads them. -/
  optionsRead : (∀ c ∈ DownlinkBuilder.inOptions onPortZero commands carried,
      c.Conveyed .down) →
    MacCommand.decode .down frame.header.options =
      .ok (DownlinkBuilder.inOptions onPortZero commands carried)
  /-- Commands on port 0 are the whole payload, under the network key. -/
  portZero : onPortZero = true → commands ≠ [] → frame.port = some 0 ∧
    suite.cryptPayload keys.network frame.devAddr counter .down frame.payload =
      MacCommand.encodeAll commands
  /-- The device reads them. -/
  portZeroRead : onPortZero = true → commands ≠ [] → (∀ c ∈ commands, c.Conveyed .down) →
    MacCommand.decode .down
      (suite.cryptPayload keys.network frame.devAddr counter .down frame.payload) = .ok commands
  /-- The payload of the message is the whole payload, on the port that it names and under the key of
  that port, which is not port 0. -/
  payload : ∀ m ∈ carried, m.payload ≠ [] → frame.port = some m.port ∧ m.port ≠ 0 ∧
    suite.cryptPayload keys.application frame.devAddr counter .down frame.payload = m.payload
  /-- Without either there is no payload. -/
  unused : (onPortZero = false ∨ commands = []) → (∀ m ∈ carried, m.payload = []) →
    frame.port = none ∧ frame.payload = []
  /-- The device has to acknowledge the frame exactly if it has to acknowledge the message. -/
  confirmed : frame.type = .confirmedDataDown ↔ ∃ m ∈ carried, m.confirmed = true

namespace DownlinkBuilder

variable {b : DownlinkBuilder} {limit : Nat} {onPortZero ack adr pending : Bool}
variable {commands : List MacCommand} {message : Option CloudMessage}

/-- The commands that find room when they are added one after the other. -/
def accepted (b : DownlinkBuilder) : List MacCommand → List MacCommand
  | [] => []
  | c :: rest =>
    if b.hasRoomFor c then c :: (b.add c).accepted rest else (b.add c).accepted rest

/-- Nothing but the commands that find room is added. -/
theorem addAll_eq (b : DownlinkBuilder) (commands : List MacCommand) :
    b.addAll commands = { b with commands := b.commands ++ b.accepted commands } := by
  induction commands generalizing b with
  | nil => simp [addAll, accepted]
  | cons c rest ih =>
    have hrest : b.addAll (c :: rest) = (b.add c).addAll rest := rfl
    rw [hrest, ih, accepted]
    split
    · rename_i hroom
      simp [add, hroom]
    · rename_i hfull
      simp [add, hfull]

/-- A downlink with commands and at most one message that is offered behind them. -/
def assemble (limit : Nat) (onPortZero ack adr : Bool) (commands : List MacCommand)
    (message : Option CloudMessage) (pending : Bool) : DownlinkBuilder :=
  let filled := (new limit onPortZero ack adr).addAll commands
  ((message.map filled.offer).getD filled).setPending pending

/-- The message that is carried: the one that was offered, if it fits. -/
def carried (limit : Nat) (onPortZero ack adr : Bool) (commands : List MacCommand)
    (message : Option CloudMessage) : Option CloudMessage :=
  message.filter fun m => ((new limit onPortZero ack adr).addAll commands).fit m = .fits

/-- Nothing was put together but the commands that found room and the message that fits. -/
theorem assemble_eq (limit : Nat) (onPortZero ack adr : Bool) (commands : List MacCommand)
    (message : Option CloudMessage) (pending : Bool) :
    assemble limit onPortZero ack adr commands message pending =
      { new limit onPortZero ack adr with
        commands := (new limit onPortZero ack adr).accepted commands
        cloud := carried limit onPortZero ack adr commands message
        fPending := pending } := by
  have hfilled := addAll_eq (new limit onPortZero ack adr) commands
  cases message with
  | none =>
    have hbare : assemble limit onPortZero ack adr commands none pending =
        ((new limit onPortZero ack adr).addAll commands).setPending pending := rfl
    rw [hbare, hfilled]
    rfl
  | some m =>
    have hoffered : assemble limit onPortZero ack adr commands (some m) pending =
        (((new limit onPortZero ack adr).addAll commands).offer m).setPending pending := rfl
    by_cases hfits : ((new limit onPortZero ack adr).addAll commands).fit m = .fits
    · rw [hoffered, offer, if_pos hfits, carried, Option.filter_some_pos (by simpa using hfits),
        hfilled]
      rfl
    · rw [hoffered, offer, if_neg hfits, carried, Option.filter_some_neg (by simpa using hfits),
        hfilled]
      rfl

/-- What was put together in this order can be written. -/
theorem writable_assemble :
    (assemble limit onPortZero ack adr commands message pending).Writable := by
  have hfilled := (writable_new limit onPortZero ack adr).addAll rfl commands
  cases message with
  | none => exact hfilled.setPending pending
  | some m => exact (hfilled.offer m).setPending pending

/-- What was put together keeps within its room. -/
theorem within_assemble :
    (assemble limit onPortZero ack adr commands message pending).Within := by
  have hfilled := (within_new limit onPortZero ack adr).addAll commands
  cases message with
  | none => exact hfilled.setPending pending
  | some m => exact (hfilled.offer m).setPending pending

/-- The options of a downlink are the commands that travel there. -/
theorem options_eq (b : DownlinkBuilder) :
    b.options = MacCommand.encodeAll (inOptions b.onPortZero b.commands b.cloud) := by
  unfold options inOptions MacCommand.encodeAll
  rw [List.flatMap_append]
  cases b.onPortZero <;> cases b.cloud <;> rfl

/-- Commands on port 0 are the whole content. -/
theorem content_of_portZero (hport : b.onPortZero = true) (hcommands : b.commands ≠ []) :
    b.content = (some 0, MacCommand.encodeAll b.commands) := by
  have htaken : b.portZeroTaken = true := by simp [portZeroTaken, hport, hcommands]
  rw [content, if_pos htaken]

/-- The payload of a message is the whole content, on a port other than 0. -/
theorem content_of_message {m : CloudMessage} (hwritable : b.Writable) (hm : m ∈ b.cloud)
    (hpayload : m.payload ≠ []) : b.content = (some m.port, m.payload) ∧ m.port ≠ 0 := by
  have hfree : ¬ b.portZeroTaken = true := fun htaken => by
    rw [hwritable.alone htaken] at hm
    cases hm
  have hcloud : b.cloud = some m := hm
  refine ⟨by simp [content, hfree, hcloud, hpayload], fun hzero => ?_⟩
  have hunreserved := hwritable.unreserved m hm
  simp [CloudMessage.usesReservedPort, hzero, hpayload] at hunreserved

/-- Without either there is no content. -/
theorem content_of_unused (hcommands : b.onPortZero = false ∨ b.commands = [])
    (hmessage : ∀ m ∈ b.cloud, m.payload = []) : b.content = (none, []) := by
  obtain ⟨htaken, -⟩ | hcontent | ⟨m, hm, hpayload, -⟩ := b.content_cases
  · simp only [portZeroTaken, Bool.and_eq_true, Bool.not_eq_true', List.isEmpty_eq_false_iff]
      at htaken
    rcases hcommands with hport | hnone
    · exact absurd (hport.symm.trans htaken.1) Bool.false_ne_true
    · exact absurd hnone htaken.2
  · exact hcontent
  · exact absurd (hmessage m hm) hpayload

/-- A frame shows its content under the key of its port. -/
theorem deciphered_of_shows {suite : CipherSuite} {addr : DevAddr} {keys : SessionKeys}
    {counter : UInt32} {frame : DataFrame} {content : Option UInt8 × Bytes}
    (hshows : frame.Shows suite addr keys counter b) (hcontent : b.content = content) :
    frame.port = content.1 ∧ suite.cryptPayload (keys.forPort content.1) frame.devAddr counter
      .down frame.payload = content.2 := by
  have hport : frame.port = content.1 := by rw [hshows.port, hcontent]
  have hdirection : frame.type.direction = .down := by
    rw [hshows.type, messageType]
    split <;> rfl
  have hplain := hshows.plaintext
  rw [DataFrame.plaintext, hdirection, hport, hcontent] at hplain
  exact ⟨hport, hplain⟩

/-- A device reads from a frame what was put together for it. -/
theorem delivers_of_shows {suite : CipherSuite} {addr : DevAddr} {keys : SessionKeys}
    {counter : UInt32} {frame : DataFrame} (hwritable : b.Writable)
    (hshows : frame.Shows suite addr keys counter b) :
    frame.Delivers suite keys counter b.onPortZero b.commands b.cloud := by
  have hoptions : frame.header.options =
      MacCommand.encodeAll (inOptions b.onPortZero b.commands b.cloud) :=
    hshows.options.trans b.options_eq
  have hzero : b.onPortZero = true → b.commands ≠ [] → frame.port = some 0 ∧
      suite.cryptPayload keys.network frame.devAddr counter .down frame.payload =
        MacCommand.encodeAll b.commands := fun hport hcommands =>
    deciphered_of_shows hshows (content_of_portZero hport hcommands)
  constructor
  case options => exact hoptions
  case optionsRead =>
    intro hconveyed
    rw [hoptions]
    exact MacCommand.decode_encodeAll hconveyed
  case portZero => exact hzero
  case portZeroRead =>
    intro hport hcommands hconveyed
    rw [(hzero hport hcommands).2]
    exact MacCommand.decode_encodeAll hconveyed
  case payload =>
    intro m hm hpayload
    obtain ⟨hcontent, happlication⟩ := content_of_message hwritable hm hpayload
    obtain ⟨hport, hplain⟩ := deciphered_of_shows hshows hcontent
    have hkey : keys.forPort (some m.port) = keys.application :=
      if_neg fun heq => happlication (Option.some.inj heq)
    exact ⟨hport, happlication, hkey ▸ hplain⟩
  case unused =>
    intro hcommands hmessage
    obtain ⟨hport, hempty⟩ := deciphered_of_shows hshows (content_of_unused hcommands hmessage)
    refine ⟨hport, List.length_eq_zero_iff.mp ?_⟩
    exact (CipherSuite.length_applyStream _ _ _ _).symm.trans (congrArg List.length hempty)
  case confirmed =>
    rw [hshows.type, messageType]
    cases b.cloud with
    | none => simp
    | some m => cases hconfirmed : m.confirmed <;> simp [hconfirmed]

/-- Whatever commands and message a downlink is put together from, it is written, keeps its size
limit, and is read back with its flags, the low half of its counter, a code that verifies, the
commands that found room and the message if it fits. A message that does not fit leaves no trace. -/
theorem assembled_and_read_back (suite : CipherSuite) (addr : DevAddr) (keys : SessionKeys)
    (counter : UInt32) (hlimit : 8 ≤ limit) (onPortZero ack adr pending : Bool)
    (commands : List MacCommand) (message : Option CloudMessage) :
    (∃ bytes frame,
      (assemble limit onPortZero ack adr commands message pending).build suite addr keys counter =
        .ok bytes ∧
      bytes.length ≤ 1 + limit + Mic.size ∧
      DataFrame.parse bytes = .ok frame ∧
      frame.header.options.length ≤ maxOptions ∧
      frame.devAddr = addr ∧
      frame.header.control.ack = ack ∧ frame.header.control.adr = adr ∧
        frame.header.control.fPending = pending ∧
      frame.header.counter = counter.toUInt16 ∧
      frame.verifies suite keys.network counter = true ∧
      frame.Delivers suite keys counter onPortZero
        ((new limit onPortZero ack adr).accepted commands)
        (carried limit onPortZero ack adr commands message)) ∧
    (carried limit onPortZero ack adr commands message = none →
      (assemble limit onPortZero ack adr commands message pending).build suite addr keys counter =
        (assemble limit onPortZero ack adr commands none pending).build suite addr keys
          counter) := by
  constructor
  · obtain ⟨bytes, hbuild⟩ := (@writable_assemble limit onPortZero ack adr pending commands
      message).exists_build suite addr keys counter
    obtain ⟨frame, hparse, hshows⟩ := parse_of_build hbuild
    have hlength := within_assemble.length_of_build hbuild
    have hdelivers := delivers_of_shows writable_assemble hshows
    have hcontrol := hshows.control
    rw [assemble_eq] at hlength hdelivers hcontrol
    refine ⟨bytes, frame, hbuild, ?_, hparse, frame.header.options_le, hshows.devAddr, ?_, ?_, ?_,
      hshows.lowHalf, hshows.verifies, hdelivers⟩
    · have hroom : overhead + (limit - overhead) = limit := Nat.add_sub_of_le hlimit
      have hbound : bytes.length ≤ 1 + overhead + (limit - overhead) + Mic.size := hlength
      rwa [Nat.add_assoc 1, hroom] at hbound
    · rw [hcontrol]
      rfl
    · rw [hcontrol]
      rfl
    · rw [hcontrol]
  · intro hnone
    rw [assemble_eq, assemble_eq, hnone]
    rfl

namespace Sample

/-- Answers and requests of which the fourth finds no room in the options. -/
def answers : List MacCommand :=
  [.linkCheckAns 10 1, .deviceTimeAns 1000 128, .linkAdrReq 5 2 7 0 1, .linkCheckAns 11 1,
    .devStatusReq]

/-- A message that fills what these leave of 59 bytes. -/
def parcel : CloudMessage where
  id := "m1"
  port := 7
  payload := List.replicate 36 0xAB
  confirmed := true
  commands := []
  expiresAt := none

end Sample

/-- Full options and a message that fits to the byte: four of five commands and the whole message
arrive. -/
theorem assembled_and_read_back_full :
    8 ≤ 59 ∧ ∃ bytes frame,
      (assemble 59 false true false Sample.answers (some Sample.parcel) true).build
        DataFrame.Sample.suite ⟨0x26011BDA⟩ DataFrame.Sample.keys 70000 = .ok bytes ∧
      bytes.length ≤ 64 ∧ DataFrame.parse bytes = .ok frame ∧ frame.header.counter = 4464 ∧
      frame.Delivers DataFrame.Sample.suite DataFrame.Sample.keys 70000 false
        [.linkCheckAns 10 1, .deviceTimeAns 1000 128, .linkAdrReq 5 2 7 0 1, .devStatusReq]
        (some Sample.parcel) := by
  obtain ⟨⟨bytes, frame, hbuild, hlength, hparse, -, -, -, -, -, hcounter, -, hdelivers⟩, -⟩ :=
    assembled_and_read_back DataFrame.Sample.suite ⟨0x26011BDA⟩ DataFrame.Sample.keys 70000
      (show 8 ≤ 59 by decide) false true false true Sample.answers (some Sample.parcel)
  have haccepted : (new 59 false true false).accepted Sample.answers =
      [.linkCheckAns 10 1, .deviceTimeAns 1000 128, .linkAdrReq 5 2 7 0 1, .devStatusReq] := by
    decide
  have hcarried : carried 59 false true false Sample.answers (some Sample.parcel) =
      some Sample.parcel := by decide
  rw [haccepted, hcarried] at hdelivers
  exact ⟨by decide, bytes, frame, hbuild, hlength, hparse, hcounter, hdelivers⟩

end DownlinkBuilder

end LoraNetwork
