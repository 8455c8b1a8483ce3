import LoraNetwork.Downlink.Builder
import LoraNetwork.Proofs.Frame.Reading

/-!
# Downlinks read back

What a device finds in a downlink that a builder wrote: the flags that were set, the low half of the
counter, the commands that were placed and the cloud message that was taken in. A message is taken
in whole. Its commands end the options, and its payload is the payload of the frame, on the port
that the message names.
-/

namespace LoraNetwork

/-- What a device reads from a frame that a builder wrote for it. -/
structure DataFrame.Shows (suite : CipherSuite) (addr : DevAddr) (keys : SessionKeys)
    (counter : UInt32) (frame : DataFrame) (b : DownlinkBuilder) : Prop where
  /-- It is meant for the device. -/
  devAddr : frame.devAddr = addr
  /-- Its type. -/
  type : frame.type = b.messageType
  /-- Its flags. -/
  control : frame.header.control =
    { adr := b.adr, ack := b.ack, fPending := b.fPending,
      optionsLength := UInt8.ofNat b.options.length }
  /-- The low half of the counter. -/
  lowHalf : frame.header.counter = counter.toUInt16
  /-- Its options. -/
  options : frame.header.options = b.options
  /-- Its port. -/
  port : frame.port = b.content.1
  /-- Its payload in the clear. -/
  plaintext : frame.plaintext suite keys counter = b.content.2
  /-- Its code verifies. -/
  verifies : frame.verifies suite keys.network counter = true

/-- A frame carries a cloud message: the payload on the port of the message, if there is a payload,
and the commands of the message at the end of the options. -/
structure DataFrame.Carries (suite : CipherSuite) (keys : SessionKeys) (counter : UInt32)
    (frame : DataFrame) (message : CloudMessage) : Prop where
  /-- The whole payload is there. -/
  payload : message.payload ≠ [] →
    frame.port = some message.port ∧ frame.plaintext suite keys counter = message.payload
  /-- So are the commands. -/
  commands : ∃ own, frame.header.options = MacCommand.encodeAll (own ++ message.commands)

/-- A frame has a payload for an application on a port. -/
def DataFrame.HasPayload (suite : CipherSuite) (keys : SessionKeys) (counter : UInt32)
    (frame : DataFrame) (port : UInt8) (payload : Bytes) : Prop :=
  frame.port = some port ∧ port ≠ 0 ∧ frame.plaintext suite keys counter = payload

namespace DownlinkBuilder

variable {b : DownlinkBuilder} {suite : CipherSuite} {addr : DevAddr} {keys : SessionKeys}
variable {counter : UInt32} {message : CloudMessage} {frame : DataFrame}

/-- A frame that a builder wrote is read back as it was put together. -/
theorem parse_of_build {bytes : Bytes} (h : b.build suite addr keys counter = .ok bytes) :
    ∃ frame, DataFrame.parse bytes = .ok frame ∧ frame.Shows suite addr keys counter b := by
  unfold build at h
  dsimp only at h
  split at h
  · cases h
  · rename_i header hheader
    have hannounced := FrameHeader.announced_of_withOptions hheader
    obtain ⟨frame, hread, htells⟩ := DataFrame.exists_tells_of_build hannounced h
    unfold FrameHeader.withOptions at hheader
    split at hheader
    · have hparts := Except.ok.inj hheader
      refine ⟨frame, hread, ?_⟩
      constructor
      · rw [DataFrame.devAddr, htells.header, ← hparts]
      · exact htells.type
      · rw [htells.header, ← hparts]
      · rw [htells.header, ← hparts]
      · rw [htells.header, ← hparts]
      · exact htells.port
      · exact htells.plaintext
      · exact htells.verifies
    · cases hheader

/-- A message that fits keeps off the ports it may not use, and port 0 is free. -/
theorem free_of_fit (h : b.fit message = .fits) :
    message.usesReservedPort = false ∧ b.portZeroTaken = false := by
  unfold fit at h
  split at h
  · cases h
  · rename_i hreserved
    split at h
    · cases h
    · rename_i hblocked
      exact ⟨Bool.eq_false_iff.mpr hreserved, Bool.eq_false_iff.mpr hblocked⟩

/-- A downlink with a message that fits is not empty. -/
theorem isEmpty_of_fit (h : b.fit message = .fits) (pending : Bool) :
    ((b.offer message).setPending pending).isEmpty = false := by
  simp [isEmpty, setPending, offer, h]

/-- Behind a message that fits, a frame has nothing else on its port. -/
theorem content_of_fit (h : b.fit message = .fits) (pending : Bool) :
    ((b.offer message).setPending pending).content =
      if message.payload.isEmpty then (none, []) else (some message.port, message.payload) := by
  have hfree : b.portZeroTaken = false := (free_of_fit h).2
  unfold portZeroTaken at hfree
  simp [offer, h, setPending, content, portZeroTaken, hfree]

/-- The commands of a message that fits end the options. -/
theorem options_of_fit (h : b.fit message = .fits) (pending : Bool) :
    ∃ own, ((b.offer message).setPending pending).options =
      MacCommand.encodeAll (own ++ message.commands) := by
  cases hport : b.onPortZero with
  | true => exact ⟨[], by simp [offer, h, setPending, options, hport]⟩
  | false =>
    refine ⟨b.commands, ?_⟩
    simp [offer, h, setPending, options, hport, MacCommand.encodeAll]

/-- A message that fits is carried, and nothing else is in the payload. -/
theorem carries_of_fit {pending : Bool} (h : b.fit message = .fits)
    (hshows : frame.Shows suite addr keys counter ((b.offer message).setPending pending)) :
    frame.Carries suite keys counter message ∧
      ∀ port payload, frame.HasPayload suite keys counter port payload →
        port = message.port ∧ payload = message.payload := by
  have hport := hshows.port
  have hplain := hshows.plaintext
  rw [content_of_fit h pending] at hport hplain
  obtain ⟨own, hoptions⟩ := options_of_fit h pending
  rw [← hshows.options] at hoptions
  constructor
  · refine ⟨fun hpayload => ?_, own, hoptions⟩
    rw [if_neg (by simpa using hpayload)] at hport hplain
    exact ⟨hport, hplain⟩
  · intro port payload hhas
    obtain ⟨hsome, -, hclear⟩ := hhas
    split at hport
    · rw [hport] at hsome
      cases hsome
    · rename_i hnonempty
      rw [if_neg hnonempty] at hplain
      rw [hport] at hsome
      rw [hplain] at hclear
      exact ⟨(Option.some.inj hsome).symm, hclear.symm⟩

/-- Commands leave the message that was taken in. -/
@[simp] theorem cloud_addAll (b : DownlinkBuilder) (commands : List MacCommand) :
    (b.addAll commands).cloud = b.cloud := by
  induction commands generalizing b with
  | nil => rfl
  | cons c rest ih =>
    have hstep : (b.add c).cloud = b.cloud := by
      unfold DownlinkBuilder.add
      split <;> rfl
    exact (ih (b.add c)).trans hstep

/-- Without a message nothing is in the payload but commands on port 0. -/
theorem not_hasPayload_of_none (hnone : b.cloud = none)
    (hshows : frame.Shows suite addr keys counter b) (port : UInt8) (payload : Bytes) :
    ¬ frame.HasPayload suite keys counter port payload := by
  intro hhas
  obtain ⟨hsome, hzero, -⟩ := hhas
  rw [hshows.port, content, hnone] at hsome
  split at hsome
  · exact hzero (Option.some.inj hsome).symm
  · cases hsome

end DownlinkBuilder

end LoraNetwork
