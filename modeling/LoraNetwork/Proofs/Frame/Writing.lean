import LoraNetwork.Proofs.Frame.Reading

/-!
# Data frames written back

A frame that was read is written back as the bytes it came from, so no two frames share a reading.
Three things stand in for what a reading drops: the reserved bits of the first byte are zero, the
payload is deciphered with the keys and the counter that encipher it again, and the code verifies
under them.
-/

namespace LoraNetwork

namespace MessageType

/-- The bits of a first byte between type and version. -/
def reservedOf (first : UInt8) : UInt8 := first &&& 0x1C

/-- A first byte of the version in use with no reserved bit set is the byte of its type. -/
theorem byte_ofFirstByte {first : UInt8} (hmajor : majorOf first = 0)
    (hreserved : reservedOf first = 0) : (ofFirstByte first).byte = first := by
  have hall : ∀ k : Fin 256, majorOf (UInt8.ofNat k) = 0 → reservedOf (UInt8.ofNat k) = 0 →
      (ofFirstByte (UInt8.ofNat k)).byte = UInt8.ofNat k := by decide +kernel
  exact Bytes.of_lt (p := fun b => majorOf b = 0 → reservedOf b = 0 → (ofFirstByte b).byte = b)
    hall first.toNat_lt hmajor hreserved

end MessageType

/-- A control byte is written as it was read. -/
theorem FrameControl.byte_ofByte (b : UInt8) : (ofByte b).byte = b := by
  have hall : ∀ k : Fin 256, (ofByte (UInt8.ofNat k)).byte = UInt8.ofNat k := by decide +kernel
  exact Bytes.of_lt (p := fun b => (ofByte b).byte = b) hall b.toNat_lt

/-- An address of four bytes is written as it was read. -/
theorem DevAddr.wire_ofWire {bytes : Bytes} (h : bytes.length = 4) : (ofWire bytes).wire = bytes := by
  have hlt : Bytes.value bytes < 2 ^ 32 := by
    have hbound := Bytes.value_lt bytes
    rwa [h] at hbound
  have hwritten := Bytes.littleEndian_value bytes
  rw [h] at hwritten
  rw [ofWire, wire, UInt32.toNat_ofNat_of_lt' hlt, hwritten]

namespace DataFrame

variable {suite : CipherSuite} {type : MessageType} {header : FrameHeader} {keys : SessionKeys}
variable {counter : UInt32} {mic : Mic} {signed bytes : Bytes} {frame : DataFrame}

/-- What a frame carries behind its header, as it travelled. -/
def behindHeader (frame : DataFrame) : Bytes :=
  match frame.port with
  | none => []
  | some port => port :: frame.payload

/-- What a reader that accepts a body tells of it. -/
structure FromBody (type : MessageType) (addr : DevAddr) (control : FrameControl)
    (counter : UInt16) (body : Bytes) (mic : Mic) (signed : Bytes) (frame : DataFrame) : Prop where
  /-- The type is passed on. -/
  type : frame.type = type
  /-- The address is passed on. -/
  devAddr : frame.header.devAddr = addr
  /-- The flags are passed on. -/
  control : frame.header.control = control
  /-- The counter is passed on. -/
  counter : frame.header.counter = counter
  /-- The code is passed on. -/
  mic : frame.mic = mic
  /-- The bytes that the code covers are passed on. -/
  signed : frame.signed = signed
  /-- Options come first, then port and payload. -/
  body : body = frame.header.options ++ frame.behindHeader
  /-- A frame without a port has no payload. -/
  empty : frame.port = none → frame.payload = []
  /-- A frame with commands on port 0 has no options. -/
  commands : frame.port = some 0 → frame.header.options = []

/-- A body is options, port and payload of the frame that is read from it. -/
theorem fromBody_of_readBody {addr : DevAddr} {control : FrameControl} {low : UInt16}
    {body : Bytes} (h : readBody type addr control low body mic signed = .ok frame) :
    FromBody type addr control low body mic signed frame := by
  unfold readBody at h
  split at h
  · cases h
  · dsimp only at h
    split at h
    · have hcut := List.take_append_drop control.optionsLength.toNat body
      split at h
      · rename_i hnothing
        obtain rfl := Except.ok.inj h
        rw [hnothing] at hcut
        exact ⟨rfl, rfl, rfl, rfl, rfl, rfl, hcut.symm, fun _ => rfl, fun hzero => by cases hzero⟩
      · rename_i port payload hsome
        split at h
        · cases h
        · rename_i hallowed
          obtain rfl := Except.ok.inj h
          rw [hsome] at hcut
          have hcommands : some port = some 0 → body.take control.optionsLength.toNat = [] := by
            intro hzero
            exact Decidable.byContradiction fun hoptions =>
              hallowed ⟨Option.some.inj hzero, hoptions⟩
          have hport : some port = none → payload = [] := fun hnone => by cases hnone
          exact ⟨rfl, rfl, rfl, rfl, rfl, rfl, hcut.symm, hport, hcommands⟩
    · cases h

/-- What a frame that was read says about the bytes it came from. -/
structure ReadFrom (frame : DataFrame) (bytes : Bytes) : Prop where
  /-- The type carries data. -/
  isData : frame.type.isData = true
  /-- The code closes the bytes that it covers. -/
  closed : bytes = frame.signed ++ frame.mic.bytes
  /-- The code covers a byte with type and version, the header, the port and the payload. -/
  signed : ∃ first, MessageType.majorOf first = 0 ∧ MessageType.ofFirstByte first = frame.type ∧
    frame.signed = first :: frame.header.bytes ++ frame.behindHeader
  /-- A frame without a port has no payload. -/
  empty : frame.port = none → frame.payload = []
  /-- A frame with commands on port 0 has no options. -/
  commands : frame.port = some 0 → frame.header.options = []

/-- What the code covers is written as the frame says that was read from it. -/
theorem readFrom_of_readSigned (h : readSigned signed mic = .ok frame) :
    frame.ReadFrom (signed ++ mic.bytes) := by
  unfold readSigned at h
  split at h
  · rename_i first a0 a1 a2 a3 control c0 c1 body
    split at h
    · cases h
    · rename_i hmajor
      split at h
      · cases h
      · rename_i hdata
        have hread := fromBody_of_readBody h
        have haddr : frame.header.devAddr.wire = [a0, a1, a2, a3] := by
          rw [hread.devAddr, DevAddr.wire_ofWire rfl]
        have hcontrol : frame.header.control.byte = control := by
          rw [hread.control, FrameControl.byte_ofByte]
        have hcounter : Bytes.littleEndian 2 frame.header.counter.toNat = [c0, c1] := by
          have hlt : Bytes.value [c0, c1] < UInt16.size := Bytes.value_lt [c0, c1]
          rw [hread.counter, UInt16.toNat_ofNat_of_lt' hlt]
          exact Bytes.littleEndian_value [c0, c1]
        have hsigned : frame.signed =
            first :: frame.header.bytes ++ frame.behindHeader := by
          rw [hread.signed, hread.body, FrameHeader.bytes, haddr, hcontrol, hcounter]
          simp only [List.cons_append, List.nil_append]
        exact {
          isData := by rw [hread.type]; exact Bool.of_not_eq_false hdata
          closed := by rw [hread.signed, hread.mic]
          signed := ⟨first, Decidable.of_not_not hmajor, hread.type.symm, hsigned⟩
          empty := hread.empty
          commands := hread.commands }
  · cases h

/-- Bytes are written as the frame says that was read from them. -/
theorem readFrom_of_parse (h : parse bytes = .ok frame) : frame.ReadFrom bytes := by
  unfold parse at h
  split at h
  · cases h
  · split at h
    · rename_i m0 m1 m2 m3 hmic
      have hread := readFrom_of_readSigned h
      have hcut : bytes.take (bytes.length - Mic.size) ++ (⟨m0, m1, m2, m3⟩ : Mic).bytes = bytes := by
        rw [Mic.bytes, ← hmic, List.take_append_drop]
      rwa [hcut] at hread
    · cases h

/-- A frame that was read is written back as the bytes it came from, if they set no reserved bit and
the code verifies. -/
theorem ReadFrom.build_eq (hread : frame.ReadFrom bytes)
    (hreserved : ∀ first ∈ bytes.head?, MessageType.reservedOf first = 0)
    (hverifies : frame.verifies suite keys.network counter = true) :
    build suite frame.type frame.header frame.port (frame.plaintext suite keys counter) keys
      counter = .ok bytes := by
  obtain ⟨first, hmajor, htype, hsigned⟩ := hread.signed
  have hfirst : frame.type.byte = first := by
    have hhead : first ∈ bytes.head? := by
      rw [hread.closed, hsigned]
      rfl
    rw [← htype, MessageType.byte_ofFirstByte hmajor (hreserved first hhead)]
  -- The payload is enciphered again as it travelled.
  have hagain : signedBytes suite frame.type frame.header frame.port
      (frame.plaintext suite keys counter) keys counter = frame.signed := by
    unfold signedBytes
    rw [hsigned, hfirst, behindHeader, plaintext, devAddr]
    cases hport : frame.port with
    | none => rfl
    | some port =>
      dsimp only
      rw [CipherSuite.cryptPayload_cryptPayload]
  have hmic : suite.dataMic keys.network frame.signed frame.header.devAddr counter
      frame.type.direction = frame.mic := of_decide_eq_true hverifies
  have hempty : ¬ (frame.port = none ∧ frame.plaintext suite keys counter ≠ []) := by
    rintro ⟨hport, hpayload⟩
    rw [plaintext, hread.empty hport] at hpayload
    exact hpayload rfl
  have hcommands : ¬ (frame.port = some 0 ∧ frame.header.options ≠ []) := by
    rintro ⟨hport, hoptions⟩
    exact hoptions (hread.commands hport)
  have hdata : ¬ frame.type.isData = false := by
    rw [hread.isData]
    decide
  rw [build, if_neg hdata, if_neg hempty, if_neg hcommands]
  dsimp only
  rw [hagain, hmic, ← hread.closed]

/-- A frame that was written is read as what went into it, and a frame that was read is written back
as the bytes it came from. -/
theorem read_and_written_back (suite : CipherSuite) (keys : SessionKeys) (counter : UInt32) :
    (∀ type header port payload bytes, header.Announced →
      build suite type header port payload keys counter = .ok bytes →
      ∃ frame, parse bytes = .ok frame ∧
        frame.Tells suite keys counter type header port payload) ∧
    ∀ bytes frame, parse bytes = .ok frame →
      (∀ first ∈ bytes.head?, MessageType.reservedOf first = 0) →
      frame.verifies suite keys.network counter = true →
      build suite frame.type frame.header frame.port (frame.plaintext suite keys counter) keys
        counter = .ok bytes := by
  constructor
  · intro type header port payload bytes hannounced hbuild
    exact exists_tells_of_build hannounced hbuild
  · intro bytes frame hparse hreserved hverifies
    exact (readFrom_of_parse hparse).build_eq hreserved hverifies

end DataFrame

namespace DataFrame.Sample

/-- A suite whose cipher adds the key, and whose code adds it to the first bytes of the frame. -/
def suite : CipherSuite where
  encrypt key block := Block.xor key.block block
  decrypt key block := Block.xor key.block block
  tag key text := Block.xor key.block (Block.ofBytes (text.drop 16))

/-- Keys that differ. -/
def keys : SessionKeys := ⟨⟨Vector.replicate 16 0x5A⟩, ⟨Vector.replicate 16 0xA5⟩⟩

/-- A header with two bytes of options. -/
def header : FrameHeader where
  devAddr := ⟨0x26011BDA⟩
  control := { adr := true, ack := true, optionsLength := 2 }
  counter := 0x1170
  options := [0x03, 0x07]
  options_le := by decide

/-- A payload that fills one block and begins another. -/
def payload : Bytes := [0, 1, 2, 3, 4, 5, 6, 7, 8, 9, 10, 11, 12, 13, 14, 15, 16, 17]

/-- The frame that is written of them. -/
def packet : Bytes :=
  [0x80, 0xDA, 0x1B, 0x01, 0x26, 0xA2, 0x70, 0x11, 0x03, 0x07, 0x05, 0xA4, 0xA4, 0xA7, 0xA6, 0xA1,
    0xA0, 0x79, 0xB9, 0xAC, 0x8A, 0xDF, 0xBF, 0xA8, 0xA8, 0xAB, 0xAB, 0xB4, 0xB4, 0xDA, 0x80, 0x41,
    0x5B]

end DataFrame.Sample

/-- A confirmed uplink with options and more than one block of payload comes back both ways. -/
theorem DataFrame.read_and_written_back_of_sample :
    (build Sample.suite .confirmedDataUp Sample.header (some 5) Sample.payload Sample.keys 70000 =
        .ok Sample.packet ∧
      ∃ frame, parse Sample.packet = .ok frame ∧
        frame.Tells Sample.suite Sample.keys 70000 .confirmedDataUp Sample.header (some 5)
          Sample.payload) ∧
    ∃ frame, parse Sample.packet = .ok frame ∧
      (∀ first ∈ Sample.packet.head?, MessageType.reservedOf first = 0) ∧
      frame.verifies Sample.suite Sample.keys.network 70000 = true ∧
      build Sample.suite frame.type frame.header frame.port
        (frame.plaintext Sample.suite Sample.keys 70000) Sample.keys 70000 = .ok Sample.packet := by
  obtain ⟨hread, hwritten⟩ := read_and_written_back Sample.suite Sample.keys 70000
  have hbuild : build Sample.suite .confirmedDataUp Sample.header (some 5) Sample.payload
      Sample.keys 70000 = .ok Sample.packet := by
    rw [build, if_neg (by decide), if_neg (by decide), if_neg (by decide)]
    exact congrArg Except.ok (by decide +kernel)
  have hannounced : Sample.header.Announced := rfl
  have hreserved : ∀ first ∈ Sample.packet.head?, MessageType.reservedOf first = 0 := by
    intro first hfirst
    obtain rfl := Option.some.inj hfirst
    rfl
  obtain ⟨frame, hparse, htells⟩ := hread _ _ _ _ _ hannounced hbuild
  exact ⟨⟨hbuild, frame, hparse, htells⟩, frame, hparse, hreserved, htells.verifies,
    hwritten _ _ hparse hreserved htells.verifies⟩

end LoraNetwork
