import LoraNetwork.Downlink.Builder
import LoraNetwork.Downlink.Window
import LoraNetwork.Proofs.Frame.Reading

/-!
# Sizes of downlinks

How long an assembled downlink gets. The sizes that commands announce are the sizes they have on the
air, a builder never takes more than its room, and so a frame that is written keeps the limit that
its builder was made for. The limit of a region covers header, options, port and payload, but
neither the type byte nor the integrity code.
-/

namespace LoraNetwork

/-! ## MAC commands -/

namespace MacCommand

/-- The bytes after an identifier are as many as identifier and direction fix. -/
theorem length_payload (c : MacCommand) :
    c.payload.length = c.id.payloadLength c.direction := by
  cases c <;> rfl

/-- A command is as long as its size says. -/
@[simp] theorem length_encode (c : MacCommand) : c.encode.length = c.size := by
  rw [encode, List.length_cons, length_payload, size, Nat.add_comm]

/-- Commands are as long as their sizes say. -/
@[simp] theorem length_encodeAll (commands : List MacCommand) :
    (encodeAll commands).length = totalSize commands := by
  induction commands with
  | nil => rfl
  | cons c rest ih =>
    have hsplit : encodeAll (c :: rest) = c.encode ++ encodeAll rest := List.flatMap_cons
    rw [hsplit, List.length_append, length_encode, ih, totalSize]

theorem totalSize_append (first second : List MacCommand) :
    totalSize (first ++ second) = totalSize first + totalSize second := by
  induction first with
  | nil => simp [totalSize]
  | cons c rest ih => simp only [List.cons_append, totalSize, ih, Nat.add_assoc]

end MacCommand

/-! ## Frames -/

/-- A frame takes its type byte, its header, its port if it has one, its payload and its code. -/
theorem DataFrame.length_of_build {suite : CipherSuite} {type : MessageType}
    {header : FrameHeader} {port : Option UInt8} {payload : Bytes} {keys : SessionKeys}
    {counter : UInt32} {frame : Bytes}
    (h : DataFrame.build suite type header port payload keys counter = .ok frame) :
    frame.length = 1 + FrameHeader.minSize + header.options.length +
      (if port.isSome then 1 + payload.length else 0) + Mic.size := by
  unfold DataFrame.build at h
  split at h
  · cases h
  · split at h
    · cases h
    · split at h
      · cases h
      · rw [← Except.ok.inj h]
        cases port <;>
          simp [signedBytes, FrameHeader.length_bytes, CipherSuite.cryptPayload,
            CipherSuite.length_applyStream, Mic.bytes, Mic.size] <;>
          omega

/-! ## Builders -/

namespace DownlinkBuilder

variable {b : DownlinkBuilder}

/-- What was taken in fits the room. -/
def Within (b : DownlinkBuilder) : Prop := b.used ≤ b.available

theorem within_new (maxPayload : Nat) (onPortZero ack adr : Bool) :
    (new maxPayload onPortZero ack adr).Within :=
  Nat.zero_le _

theorem Within.add (h : b.Within) (c : MacCommand) : (b.add c).Within := by
  unfold DownlinkBuilder.add
  split
  · rename_i hroom
    simp only [hasRoomFor, Bool.and_eq_true, decide_eq_true_eq] at hroom
    have hsize : MacCommand.totalSize (b.commands ++ [c]) =
        MacCommand.totalSize b.commands + c.size := by
      rw [MacCommand.totalSize_append, MacCommand.totalSize, MacCommand.totalSize, Nat.add_zero]
    have hused : ({ b with commands := b.commands ++ [c] } : DownlinkBuilder).used =
        b.used + c.size := by
      simp only [used, hsize]
      omega
    rw [Within, hused]
    exact hroom.1
  · exact h

theorem Within.addAll (h : b.Within) (commands : List MacCommand) :
    (b.addAll commands).Within := by
  induction commands generalizing b with
  | nil => exact h
  | cons c rest ih => exact ih (h.add c)

theorem Within.offer (h : b.Within) (m : CloudMessage) : (b.offer m).Within := by
  unfold DownlinkBuilder.offer
  split
  · rename_i hfits
    have hroom : b.used + m.size ≤ b.available := by
      unfold fit at hfits
      split at hfits
      · cases hfits
      · split at hfits
        · cases hfits
        · split at hfits
          · cases hfits
          · omega
    -- The message takes the place of one that was offered before.
    have hused : ({ b with cloud := some m } : DownlinkBuilder).used ≤ b.used + m.size := by
      simp only [used, Option.map_some, Option.getD_some]
      omega
    exact Nat.le_trans hused hroom
  · exact h

theorem Within.setPending (h : b.Within) (pending : Bool) : (b.setPending pending).Within := h

/-- A command finds the room that was there before. -/
@[simp] theorem available_add (b : DownlinkBuilder) (c : MacCommand) :
    (b.add c).available = b.available := by
  unfold DownlinkBuilder.add
  split <;> rfl

@[simp] theorem available_addAll (b : DownlinkBuilder) (commands : List MacCommand) :
    (b.addAll commands).available = b.available := by
  induction commands generalizing b with
  | nil => rfl
  | cons c rest ih => exact (ih (b.add c)).trans (available_add b c)

@[simp] theorem available_offer (b : DownlinkBuilder) (m : CloudMessage) :
    (b.offer m).available = b.available := by
  unfold DownlinkBuilder.offer
  split <;> rfl

/-- Options and payload together are what was taken in. -/
theorem length_options_content (b : DownlinkBuilder) :
    b.options.length + b.content.2.length ≤ b.used := by
  unfold options content portZeroTaken used
  cases hport : b.onPortZero <;> cases hcloud : b.cloud with
  | none => cases hcommands : b.commands <;> simp [MacCommand.totalSize]
  | some m =>
    cases hcommands : b.commands <;> cases hpayload : m.payload <;>
      simp [MacCommand.totalSize, CloudMessage.size, hpayload] <;> omega

/-- A frame that a builder writes takes no more than type byte, header, port, the builder's room and
code. -/
theorem Within.length_of_build {suite : CipherSuite} {addr : DevAddr} {keys : SessionKeys}
    {counter : UInt32} {frame : Bytes} (hwithin : b.Within)
    (h : b.build suite addr keys counter = .ok frame) :
    frame.length ≤ 1 + overhead + b.available + Mic.size := by
  unfold build at h
  dsimp only at h
  split at h
  · cases h
  · rename_i header hheader
    have hoptions : header.options = b.options := by
      unfold FrameHeader.withOptions at hheader
      split at hheader
      · rw [← Except.ok.inj hheader]
      · cases hheader
    have hlength := DataFrame.length_of_build h
    have htaken := b.length_options_content
    have hroom : b.used ≤ b.available := hwithin
    rw [hoptions] at hlength
    rw [hlength, overhead]
    split <;> omega

end DownlinkBuilder

/-! ## Limits of a region -/

namespace Region

/-- Every limit leaves room for header and port. -/
theorem overhead_le_of_maxPayload {region : Region} {index : UInt8} {limit : Nat}
    (h : region.maxPayload index = some limit) : DownlinkBuilder.overhead ≤ limit := by
  unfold maxPayload at h
  repeat' split at h
  all_goals cases h
  all_goals decide

/-- Every data rate has a limit. -/
theorem exists_maxPayload_of_dataRate {region : Region} {index : UInt8} {rate : DataRate}
    (h : region.dataRate index = some rate) : ∃ limit, region.maxPayload index = some limit := by
  unfold dataRate at h
  split at h <;> first | exact ⟨_, rfl⟩ | cases h

end Region

/-- The downlink carries no more than its region admits at its data rate: header, options, port and
payload, without the type byte and the integrity code. -/
def Downlink.WithinLimit (region : Region) (downlink : Downlink) : Prop :=
  ∃ limit, region.maxPayload downlink.dataRateIndex = some limit ∧
    downlink.payload.length - (1 + Mic.size) ≤ limit

instance (region : Region) (downlink : Downlink) : Decidable (downlink.WithinLimit region) :=
  inferInstanceAs (Decidable (∃ limit ∈ region.maxPayload downlink.dataRateIndex,
    downlink.payload.length - (1 + Mic.size) ≤ limit))

/-- A frame of a builder that was made for a limit keeps the limit. -/
theorem DownlinkBuilder.Within.withinLimit {b : DownlinkBuilder} {region : Region}
    {suite : CipherSuite} {addr : DevAddr} {keys : SessionKeys} {counter : UInt32} {limit : Nat}
    {downlink : Downlink} (hwithin : b.Within) (hroom : b.available = limit - overhead)
    (hlimit : region.maxPayload downlink.dataRateIndex = some limit)
    (hbuild : b.build suite addr keys counter = .ok downlink.payload) :
    downlink.WithinLimit region := by
  have hlength := hwithin.length_of_build hbuild
  have hoverhead := Region.overhead_le_of_maxPayload hlimit
  exact ⟨limit, hlimit, by omega⟩

end LoraNetwork
