import LoraNetwork.Frame.Data

/-!
# Data frames read back

What was written into a data frame is what is read from it. The header comes back with its options,
provided that its flags announce their length; the code verifies under the key and the counter that
the frame was signed with; and deciphering gives the payload back, since a key stream that is
applied twice cancels out. The cipher and the code may be any functions.
-/

namespace LoraNetwork

namespace FrameControl

/-- Flags are read as they were written if the length of the options fits its four bits. -/
theorem ofByte_byte {c : FrameControl} (h : c.optionsLength.toNat ≤ maxOptions) :
    ofByte c.byte = c := by
  have hall : ∀ length : Fin 16, ∀ adr request ack pending : Bool,
      ofByte (byte ⟨adr, request, ack, pending, UInt8.ofNat length⟩) =
        ⟨adr, request, ack, pending, UInt8.ofNat length⟩ := by decide +kernel
  obtain ⟨adr, request, ack, pending, length⟩ := c
  have hlt : length.toNat < 16 := Nat.lt_succ_of_le h
  have hread := hall ⟨length.toNat, hlt⟩ adr request ack pending
  rw [UInt8.ofNat_toNat] at hread
  exact hread

end FrameControl

namespace FrameHeader

/-- A header takes its fixed part and its options. -/
theorem length_bytes (h : FrameHeader) :
    h.bytes.length = FrameHeader.minSize + h.options.length := by
  simp [bytes, DevAddr.wire, Bytes.length_littleEndian, minSize]
  omega

/-- A header that is given options announces their length. -/
theorem announced_of_withOptions {h after : FrameHeader} {options : Bytes}
    (hoptions : h.withOptions options = .ok after) : after.Announced := by
  unfold withOptions at hoptions
  split at hoptions
  · rename_i hfits
    have hsmall : options.length < 256 := Nat.lt_of_le_of_lt hfits (by decide)
    rw [← Except.ok.inj hoptions]
    exact UInt8.toNat_ofNat_of_lt' hsmall
  · cases hoptions

end FrameHeader

namespace DataFrame

variable {suite : CipherSuite} {type : MessageType} {header : FrameHeader} {keys : SessionKeys}
variable {counter : UInt32} {mic : Mic} {port : Option UInt8} {payload signed tail : Bytes}

/-- A frame is cut where its code begins. -/
theorem parse_append (hlong : 1 + FrameHeader.minSize ≤ signed.length) :
    parse (signed ++ mic.bytes) = readSigned signed mic := by
  have hmic : mic.bytes.length = Mic.size := rfl
  have hlength : (signed ++ mic.bytes).length = signed.length + Mic.size := by
    rw [List.length_append, hmic]
  have hcut : (signed ++ mic.bytes).length - Mic.size = signed.length := by
    rw [hlength, Nat.add_sub_cancel]
  have hnotShort : ¬ (signed ++ mic.bytes).length < minSize := by
    rw [hlength, minSize]
    omega
  rw [parse, if_neg hnotShort, hcut, List.drop_left, List.take_left]
  rfl

/-- What follows a header that announces the length of its options is read behind them. -/
theorem readBody_append (h : header.Announced) :
    readBody type header.devAddr header.control header.counter (header.options ++ tail) mic signed =
      match tail with
      | [] => .ok ⟨type, header, none, [], mic, signed⟩
      | port :: payload =>
        if port = 0 ∧ header.options ≠ [] then .error .duplicateMacCommands
        else .ok ⟨type, header, some port, payload, mic, signed⟩ := by
  have hlength : header.control.optionsLength.toNat = header.options.length := h
  have henough : ¬ (header.options ++ tail).length < header.options.length := by
    rw [List.length_append]
    omega
  simp only [readBody, hlength, henough, List.take_left, List.drop_left, header.options_le,
    if_false, dif_pos]
  cases tail <;> rfl

/-- A header is read as it was written, if it announces the length of its options. -/
theorem readSigned_append (hdata : type.isData = true) (h : header.Announced) :
    readSigned (type.byte :: header.bytes ++ tail) mic =
      readBody type header.devAddr header.control header.counter (header.options ++ tail) mic
        (type.byte :: header.bytes ++ tail) := by
  have hmajor : MessageType.majorOf type.byte = 0 := by cases type <;> rfl
  have hcontrol : FrameControl.ofByte header.control.byte = header.control :=
    FrameControl.ofByte_byte (h ▸ header.options_le)
  have haddr : DevAddr.ofWire header.devAddr.wire = header.devAddr := DevAddr.ofWire_wire _
  have hcounter : UInt16.ofNat (Bytes.value (Bytes.littleEndian 2 header.counter.toNat)) =
      header.counter := by
    have hlt : header.counter.toNat < Bytes.capacity 2 := header.counter.toNat_lt
    rw [Bytes.value_littleEndian, Nat.mod_eq_of_lt hlt, UInt16.ofNat_toNat]
  simp only [DevAddr.wire, Bytes.littleEndian] at haddr hcounter
  simp only [FrameHeader.bytes, DevAddr.wire, Bytes.littleEndian, List.cons_append,
    List.nil_append, readSigned, hmajor, MessageType.ofFirstByte_byte, hdata,
    haddr, hcontrol, hcounter]
  simp

/-- What a frame tells to whoever holds the keys and knows the full counter. -/
structure Tells (suite : CipherSuite) (keys : SessionKeys) (counter : UInt32) (frame : DataFrame)
    (type : MessageType) (header : FrameHeader) (port : Option UInt8) (payload : Bytes) : Prop where
  /-- The type. -/
  type : frame.type = type
  /-- The header. -/
  header : frame.header = header
  /-- The port. -/
  port : frame.port = port
  /-- The payload in the clear. -/
  plaintext : frame.plaintext suite keys counter = payload
  /-- The code verifies. -/
  verifies : frame.verifies suite keys.network counter = true

/-- The frame that is read back. -/
def sealed (suite : CipherSuite) (type : MessageType) (header : FrameHeader) (port : Option UInt8)
    (payload : Bytes) (keys : SessionKeys) (counter : UInt32) : DataFrame :=
  let signed := signedBytes suite type header port payload keys counter
  { type := type
    header := header
    port := port
    payload := suite.cryptPayload (keys.forPort port) header.devAddr counter type.direction payload
    mic := suite.dataMic keys.network signed header.devAddr counter type.direction
    signed := signed }

/-- A sealed frame says what went into it. -/
theorem tells_sealed (suite : CipherSuite) (type : MessageType) (header : FrameHeader)
    (port : Option UInt8) (payload : Bytes) (keys : SessionKeys) (counter : UInt32) :
    (sealed suite type header port payload keys counter).Tells suite keys counter type header port
      payload where
  type := rfl
  header := rfl
  port := rfl
  plaintext := suite.cryptPayload_cryptPayload _ _ _ _ _
  verifies := decide_eq_true rfl

/-- What the code covers is read back. A frame without a port has no payload, and one with commands
on port 0 has no options. -/
theorem readSigned_signedBytes (hdata : type.isData = true) (hannounced : header.Announced)
    (hempty : port = none → payload = []) (hcommands : port = some 0 → header.options = []) :
    readSigned (signedBytes suite type header port payload keys counter)
        (suite.dataMic keys.network (signedBytes suite type header port payload keys counter)
          header.devAddr counter type.direction) =
      .ok (sealed suite type header port payload keys counter) := by
  cases port with
  | none =>
    have hpayload := hempty rfl
    subst hpayload
    have hsigned : signedBytes suite type header none [] keys counter =
        type.byte :: header.bytes ++ [] := rfl
    rw [hsigned, readSigned_append hdata hannounced, readBody_append hannounced]
    rfl
  | some p =>
    have hallowed : ¬ (p = 0 ∧ header.options ≠ []) := by simpa using hcommands
    have hsigned : signedBytes suite type header (some p) payload keys counter =
        type.byte :: header.bytes ++ p :: suite.cryptPayload (keys.forPort (some p)) header.devAddr
          counter type.direction payload := rfl
    rw [hsigned, readSigned_append hdata hannounced, readBody_append hannounced]
    dsimp only
    rw [if_neg hallowed]
    rfl

/-- A frame that was written is read back. -/
theorem parse_of_build {frame : Bytes} (hannounced : header.Announced)
    (h : build suite type header port payload keys counter = .ok frame) :
    parse frame = .ok (sealed suite type header port payload keys counter) := by
  unfold build at h
  split at h
  · cases h
  · rename_i hdata
    split at h
    · cases h
    · rename_i hport
      split at h
      · cases h
      · rename_i hcommands
        have htype : type.isData = true := Bool.of_not_eq_false hdata
        have hempty : port = none → payload = [] := by simpa using hport
        have hoptions : port = some 0 → header.options = [] := by simpa using hcommands
        have hlong : 1 + FrameHeader.minSize ≤
            (signedBytes suite type header port payload keys counter).length := by
          simp [signedBytes, FrameHeader.length_bytes]
          omega
        rw [← Except.ok.inj h, parse_append hlong]
        exact readSigned_signedBytes htype hannounced hempty hoptions

/-- Whoever holds the keys reads what was written. -/
theorem exists_tells_of_build {bytes : Bytes} (hannounced : header.Announced)
    (h : build suite type header port payload keys counter = .ok bytes) :
    ∃ frame, parse bytes = .ok frame ∧
      frame.Tells suite keys counter type header port payload :=
  ⟨_, parse_of_build hannounced h, tells_sealed suite type header port payload keys counter⟩

end DataFrame

end LoraNetwork
