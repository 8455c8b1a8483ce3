import LoraNetwork.MacCommand.Wire
import LoraNetwork.Proofs.Downlink.Size

/-!
# MAC commands written and read

A command whose fields fit their bits is read as it was written, in front of whatever follows it,
so a sequence of commands of one direction is read back whole. What is read always fits: a decoder
never reports a field that an encoder would cut. The bytes themselves need not come back, since the
bits that a payload leaves unused are not looked at.
-/

namespace LoraNetwork

namespace MacCommand

/-! ## Fields and their bits -/

/-- A frequency that three bytes can hold in steps of 100 Hz. -/
def FrequencyFits (frequency : UInt32) : Prop :=
  frequency.toNat % 100 = 0 ∧ frequency.toNat < Bytes.capacity 3 * 100

/-- Whether the fields of a command fit the bits that they have on the air. Fields that travel whole
always do. -/
def Fits : MacCommand → Prop
  | linkAdrReq dataRate txPower _ maskControl repetitions =>
    dataRate < 16 ∧ txPower < 16 ∧ maskControl < 8 ∧ repetitions < 16
  | dutyCycleReq exponent => exponent < 16
  | rxParamSetupReq offset dataRate frequency =>
    offset < 8 ∧ dataRate < 16 ∧ FrequencyFits frequency
  | devStatusAns _ margin => -32 ≤ margin.toInt ∧ margin.toInt ≤ 31
  | newChannelReq _ frequency maxDataRate minDataRate =>
    FrequencyFits frequency ∧ maxDataRate < 16 ∧ minDataRate < 16
  | rxTimingSetupReq delay => delay < 16
  | txParamSetupReq _ _ maxPower => maxPower < 16
  | dlChannelReq _ frequency => FrequencyFits frequency
  | _ => True

/-- A command that the other side can be told: it travels in the direction and fits its bits. -/
structure Conveyed (dir : Direction) (c : MacCommand) : Prop where
  /-- It travels in the direction. -/
  direction : c.direction = dir
  /-- Its fields fit. -/
  fits : c.Fits

instance (frequency : UInt32) : Decidable (FrequencyFits frequency) :=
  inferInstanceAs (Decidable (_ ∧ _))

instance : (c : MacCommand) → Decidable c.Fits
  | linkAdrReq .. | rxParamSetupReq .. | devStatusAns .. | newChannelReq .. =>
    inferInstanceAs (Decidable (_ ∧ _))
  | dutyCycleReq _ | rxTimingSetupReq _ | txParamSetupReq .. =>
    inferInstanceAs (Decidable (_ < _))
  | dlChannelReq .. => inferInstanceAs (Decidable (FrequencyFits _))
  | linkCheckReq | linkCheckAns .. | linkAdrAns .. | dutyCycleAns | rxParamSetupAns ..
  | devStatusReq | newChannelAns .. | rxTimingSetupAns | txParamSetupAns | dlChannelAns ..
  | deviceTimeReq | deviceTimeAns .. => isTrue trivial

instance (dir : Direction) (c : MacCommand) : Decidable (c.Conveyed dir) :=
  decidable_of_iff (c.direction = dir ∧ c.Fits) ⟨fun h => ⟨h.1, h.2⟩, fun h => ⟨h.1, h.2⟩⟩

/-- A half byte survives the mask of its bits. -/
theorem and_half {b : UInt8} (h : b < 16) : b &&& 0x0F = b := by
  have hall : ∀ k : Fin 16, UInt8.ofNat k &&& 0x0F = UInt8.ofNat k := by decide +kernel
  exact Bytes.of_lt (p := fun b => b &&& 0x0F = b) hall h

/-- Three bits survive the mask of their bits. -/
theorem and_seven {b : UInt8} (h : b < 8) : b &&& 0x07 = b := by
  have hall : ∀ k : Fin 8, UInt8.ofNat k &&& 0x07 = UInt8.ofNat k := by decide +kernel
  exact Bytes.of_lt (p := fun b => b &&& 0x07 = b) hall h

/-- Two half bytes that share a byte are told apart. -/
theorem halves_read {high low : UInt8} (hhigh : high < 16) (hlow : low < 16) :
    halves high low >>> 4 = high ∧ halves high low &&& 0x0F = low := by
  have hall : ∀ i j : Fin 16, halves (UInt8.ofNat i) (UInt8.ofNat j) >>> 4 = UInt8.ofNat i ∧
      halves (UInt8.ofNat i) (UInt8.ofNat j) &&& 0x0F = UInt8.ofNat j := by decide +kernel
  have hlower : ∀ j : Fin 16, halves high (UInt8.ofNat j) >>> 4 = high ∧
      halves high (UInt8.ofNat j) &&& 0x0F = UInt8.ofNat j := by
    intro j
    exact Bytes.of_lt (p := fun b => halves b (UInt8.ofNat j) >>> 4 = b ∧
      halves b (UInt8.ofNat j) &&& 0x0F = UInt8.ofNat j) (fun i => hall i j) hhigh
  exact Bytes.of_lt (p := fun b => halves high b >>> 4 = high ∧ halves high b &&& 0x0F = b)
    hlower hlow

/-- What is read from the parts of a byte fits them. -/
theorem parts_lt (b : UInt8) : b >>> 4 < 16 ∧ b &&& 0x0F < 16 ∧ (b >>> 4) &&& 0x07 < 8 := by
  have hall : ∀ k : Fin 256, UInt8.ofNat k >>> 4 < 16 ∧ UInt8.ofNat k &&& 0x0F < 16 ∧
      (UInt8.ofNat k >>> 4) &&& 0x07 < 8 := by decide +kernel
  exact Bytes.of_lt (p := fun b => b >>> 4 < 16 ∧ b &&& 0x0F < 16 ∧ (b >>> 4) &&& 0x07 < 8)
    hall b.toNat_lt

/-- Dwell times and power that share a byte are told apart. -/
theorem dwell_read (down up : Bool) {power : UInt8} (h : power < 16) :
    decide ((bit down 0x20 ||| bit up 0x10 ||| (power &&& 0x0F)) &&& 0x20 ≠ 0) = down ∧
      decide ((bit down 0x20 ||| bit up 0x10 ||| (power &&& 0x0F)) &&& 0x10 ≠ 0) = up ∧
      (bit down 0x20 ||| bit up 0x10 ||| (power &&& 0x0F)) &&& 0x0F = power := by
  have hall : ∀ k : Fin 16,
      decide ((bit down 0x20 ||| bit up 0x10 ||| (UInt8.ofNat k &&& 0x0F)) &&& 0x20 ≠ 0) = down ∧
      decide ((bit down 0x20 ||| bit up 0x10 ||| (UInt8.ofNat k &&& 0x0F)) &&& 0x10 ≠ 0) = up ∧
      (bit down 0x20 ||| bit up 0x10 ||| (UInt8.ofNat k &&& 0x0F)) &&& 0x0F = UInt8.ofNat k := by
    cases down <;> cases up <;> decide +kernel
  exact Bytes.of_lt (p := fun b =>
    decide ((bit down 0x20 ||| bit up 0x10 ||| (b &&& 0x0F)) &&& 0x20 ≠ 0) = down ∧
    decide ((bit down 0x20 ||| bit up 0x10 ||| (b &&& 0x0F)) &&& 0x10 ≠ 0) = up ∧
    (bit down 0x20 ||| bit up 0x10 ||| (b &&& 0x0F)) &&& 0x0F = b) hall h

/-- A margin of six bits is read with its sign. -/
theorem margin_read {margin : Int8} (hlow : -32 ≤ margin.toInt) (hhigh : margin.toInt ≤ 31) :
    ((margin.toUInt8 &&& 0x3F) <<< 2).toInt8 >>> 2 = margin := by
  have hall : ∀ k : Fin 256, -32 ≤ (UInt8.ofNat k).toInt8.toInt →
      (UInt8.ofNat k).toInt8.toInt ≤ 31 →
      ((UInt8.ofNat k &&& 0x3F) <<< 2).toInt8 >>> 2 = (UInt8.ofNat k).toInt8 := by decide +kernel
  have hbyte := Bytes.of_lt (p := fun b => -32 ≤ b.toInt8.toInt → b.toInt8.toInt ≤ 31 →
    ((b &&& 0x3F) <<< 2).toInt8 >>> 2 = b.toInt8) hall margin.toUInt8.toNat_lt
  exact hbyte hlow hhigh

/-- Six bits give a margin that fits them. -/
theorem margin_range (b : UInt8) :
    -32 ≤ ((b <<< 2).toInt8 >>> 2).toInt ∧ ((b <<< 2).toInt8 >>> 2).toInt ≤ 31 := by
  have hall : ∀ k : Fin 256, -32 ≤ ((UInt8.ofNat k <<< 2).toInt8 >>> 2).toInt ∧
      ((UInt8.ofNat k <<< 2).toInt8 >>> 2).toInt ≤ 31 := by decide +kernel
  exact Bytes.of_lt (p := fun b => -32 ≤ ((b <<< 2).toInt8 >>> 2).toInt ∧
    ((b <<< 2).toInt8 >>> 2).toInt ≤ 31) hall b.toNat_lt

/-- Three bytes give a frequency that fits. -/
theorem frequencyFits_frequencyOf (b0 b1 b2 : UInt8) : FrequencyFits (frequencyOf b0 b1 b2) := by
  have h0 := b0.toNat_lt
  have h1 := b1.toNat_lt
  have h2 := b2.toNat_lt
  have hvalue : (frequencyOf b0 b1 b2).toNat = Bytes.value [b0, b1, b2] * 100 := by
    apply UInt32.toNat_ofNat_of_lt'
    simp only [Bytes.value, UInt32.size]
    omega
  rw [FrequencyFits, hvalue]
  simp only [Bytes.value, Bytes.capacity]
  omega

/-- A frequency that fits is read as it was written. -/
theorem frequency_read {frequency : UInt32} (h : FrequencyFits frequency) :
    UInt32.ofNat (Bytes.value (frequencyBytes frequency) * 100) = frequency := by
  have hsteps : frequency.toNat / 100 < Bytes.capacity 3 := by
    have hbound := h.2
    simp only [Bytes.capacity] at hbound ⊢
    omega
  have hwhole : frequency.toNat / 100 * 100 = frequency.toNat := Nat.div_mul_cancel
    (Nat.dvd_of_mod_eq_zero h.1)
  rw [frequencyBytes, Bytes.value_littleEndian, Nat.mod_eq_of_lt hsteps, hwhole,
    UInt32.ofNat_toNat]

/-! ## One command -/

/-- A command whose fields fit is read from the payload that was written for it. -/
theorem ofPayload_payload {c : MacCommand} (h : c.Fits) :
    ofPayload c.id c.direction c.payload = some c := by
  cases c with
  | linkCheckReq | linkCheckAns | dutyCycleAns | devStatusReq | rxTimingSetupAns | txParamSetupAns
  | deviceTimeReq => rfl
  | linkAdrReq dataRate txPower mask control repetitions =>
    obtain ⟨hrate, hpower, hcontrol, hrepetitions⟩ := h
    have hfirst := halves_read hrate hpower
    have hlast := halves_read (Nat.lt_trans hcontrol (by decide)) hrepetitions
    have hmask : UInt16.ofNat (Bytes.value (Bytes.littleEndian 2 mask.toNat)) = mask := by
      have hlt : mask.toNat < Bytes.capacity 2 := mask.toNat_lt
      rw [Bytes.value_littleEndian, Nat.mod_eq_of_lt hlt, UInt16.ofNat_toNat]
    show some (linkAdrReq (halves dataRate txPower >>> 4) (halves dataRate txPower &&& 0x0F)
      (UInt16.ofNat (Bytes.value (Bytes.littleEndian 2 mask.toNat)))
      ((halves (control &&& 0x07) repetitions >>> 4) &&& 0x07)
      (halves (control &&& 0x07) repetitions &&& 0x0F)) = _
    simp only [and_seven hcontrol, hfirst, hlast, hmask]
  | linkAdrAns power dataRate mask => cases power <;> cases dataRate <;> cases mask <;> rfl
  | dutyCycleReq exponent =>
    show some (dutyCycleReq ((exponent &&& 0x0F) &&& 0x0F)) = _
    simp only [and_half h]
  | rxParamSetupReq offset dataRate frequency =>
    obtain ⟨hoffset, hrate, hfrequency⟩ := h
    have hfirst := halves_read (Nat.lt_trans hoffset (by decide)) hrate
    show some (rxParamSetupReq ((halves (offset &&& 0x07) dataRate >>> 4) &&& 0x07)
      (halves (offset &&& 0x07) dataRate &&& 0x0F)
      (UInt32.ofNat (Bytes.value (frequencyBytes frequency) * 100))) = _
    simp only [and_seven hoffset, hfirst, frequency_read hfrequency]
  | rxParamSetupAns offset dataRate channel =>
    cases offset <;> cases dataRate <;> cases channel <;> rfl
  | devStatusAns battery margin =>
    show some (devStatusAns battery (((margin.toUInt8 &&& 0x3F) <<< 2).toInt8 >>> 2)) = _
    rw [margin_read h.1 h.2]
  | newChannelReq index frequency maxRate minRate =>
    obtain ⟨hfrequency, hmax, hmin⟩ := h
    show some (newChannelReq index (UInt32.ofNat (Bytes.value (frequencyBytes frequency) * 100))
      (halves maxRate minRate >>> 4) (halves maxRate minRate &&& 0x0F)) = _
    simp only [halves_read hmax hmin, frequency_read hfrequency]
  | newChannelAns frequencyOk dataRateOk => cases frequencyOk <;> cases dataRateOk <;> rfl
  | rxTimingSetupReq delay =>
    show some (rxTimingSetupReq ((delay &&& 0x0F) &&& 0x0F)) = _
    simp only [and_half h]
  | txParamSetupReq downDwell upDwell maxPower =>
    obtain ⟨hdown, hup, hpower⟩ := dwell_read downDwell upDwell h
    simp only [payload]
    generalize bit downDwell 0x20 ||| bit upDwell 0x10 ||| (maxPower &&& 0x0F) = b at *
    show some (txParamSetupReq (b &&& 0x20 ≠ 0) (b &&& 0x10 ≠ 0) (b &&& 0x0F)) = _
    rw [hdown, hup, hpower]
  | dlChannelReq index frequency =>
    show some (dlChannelReq index (UInt32.ofNat (Bytes.value (frequencyBytes frequency) * 100))) = _
    rw [frequency_read h]
  | dlChannelAns frequencyOk uplinkExists => cases frequencyOk <;> cases uplinkExists <;> rfl
  | deviceTimeAns seconds fraction =>
    have hseconds : UInt32.ofNat (Bytes.value (Bytes.littleEndian 4 seconds.toNat)) = seconds := by
      have hlt : seconds.toNat < Bytes.capacity 4 := seconds.toNat_lt
      rw [Bytes.value_littleEndian, Nat.mod_eq_of_lt hlt, UInt32.ofNat_toNat]
    show some (deviceTimeAns
      (UInt32.ofNat (Bytes.value (Bytes.littleEndian 4 seconds.toNat))) fraction) = _
    rw [hseconds]

/-- What a payload is read as has the identifier and the direction it was read for, is as long as
the payload and fits its bits. -/
theorem conveyed_of_ofPayload {id : CommandId} {dir : Direction} {bytes : Bytes} {c : MacCommand}
    (h : ofPayload id dir bytes = some c) :
    c.Conveyed dir ∧ c.id = id ∧ bytes.length = id.payloadLength dir := by
  -- No payload is longer than five bytes, and nothing is read where it has another length.
  rcases bytes with - | ⟨b, - | ⟨b1, - | ⟨b2, - | ⟨b3, - | ⟨b4, - | ⟨b5, rest⟩⟩⟩⟩⟩⟩ <;>
    cases id <;> cases dir <;> cases h <;> refine ⟨⟨rfl, ?_⟩, rfl, rfl⟩
  case cons.cons.nil.devStatus.up.refl => exact margin_range b1
  all_goals simp only [Fits, parts_lt, frequencyFits_frequencyOf, and_self]

/-! ## Sequences -/

/-- What is read of the first command and of what follows it is read together. -/
theorem decode_cons {dir : Direction} {first : UInt8} {rest : Bytes} {id : CommandId}
    {c : MacCommand} {commands : List MacCommand} (hid : CommandId.ofByte first = some id)
    (hread : ofPayload id dir (rest.take (id.payloadLength dir)) = some c)
    (hrest : decode dir (rest.drop (id.payloadLength dir)) = .ok commands) :
    decode dir (first :: rest) = .ok (c :: commands) := by
  rw [decode, hid]
  dsimp only
  rw [hread, hrest]

/-- An identifier with a payload that stands for a command is read in front of any bytes. -/
theorem decode_payload_append {dir : Direction} {id : CommandId} {payload : Bytes} {c : MacCommand}
    (hread : ofPayload id dir payload = some c) (rest : Bytes) :
    decode dir (id.byte :: payload ++ rest) = (decode dir rest).map (c :: ·) := by
  obtain ⟨-, -, hlength⟩ := conveyed_of_ofPayload hread
  rw [List.cons_append, decode, CommandId.ofByte_byte]
  dsimp only
  rw [← hlength, List.take_left, List.drop_left, hread]
  dsimp only
  cases decode dir rest <;> rfl

/-- A command that fits is read in front of any bytes. -/
theorem decode_encode_append {dir : Direction} {c : MacCommand} (h : c.Conveyed dir)
    (rest : Bytes) : decode dir (c.encode ++ rest) = (decode dir rest).map (c :: ·) := by
  obtain rfl := h.direction
  exact decode_payload_append (ofPayload_payload h.fits) rest

/-- Commands that fit are read back one by one. -/
theorem decode_encodeAll {dir : Direction} {commands : List MacCommand}
    (h : ∀ c ∈ commands, c.Conveyed dir) : decode dir (encodeAll commands) = .ok commands := by
  induction commands with
  | nil => simp only [encodeAll, List.flatMap_nil, decode]
  | cons c rest ih =>
    have hsplit : encodeAll (c :: rest) = c.encode ++ encodeAll rest := List.flatMap_cons
    have hrest := ih fun c hc => h c (List.mem_cons_of_mem _ hc)
    rw [hsplit, decode_encode_append (h c List.mem_cons_self), hrest]
    rfl

/-- What is read travels in the direction it was read for and fits, and takes all of the bytes. -/
theorem conveyed_of_decode {dir : Direction} {bytes : Bytes} {commands : List MacCommand}
    (h : decode dir bytes = .ok commands) :
    (∀ c ∈ commands, c.Conveyed dir) ∧ totalSize commands = bytes.length := by
  fun_induction decode dir bytes generalizing commands with
  | case1 =>
    obtain rfl := Except.ok.inj h
    exact ⟨fun c hc => absurd hc List.not_mem_nil, rfl⟩
  | case2 first rest hunknown => cases h
  | case3 first rest id hid hcut => cases h
  | case4 first rest id hid command hpayload after hafter ih =>
    obtain rfl := Except.ok.inj h
    obtain ⟨hcommand, hsameId, hlength⟩ := conveyed_of_ofPayload hpayload
    obtain ⟨hafterwards, hsizes⟩ := ih hafter
    constructor
    · intro c hc
      cases List.mem_cons.1 hc with
      | inl hfirst => exact hfirst ▸ hcommand
      | inr hlater => exact hafterwards c hlater
    · have htaken : min (id.payloadLength dir) rest.length = id.payloadLength dir := by
        rw [← List.length_take, hlength]
      rw [totalSize, hsizes, List.length_drop, size, hsameId, hcommand.direction, List.length_cons]
      omega
  | case5 first rest id hid command hpayload e hafter ih => cases h

/-- Commands that travel in one direction and fit their bits are read back as they were written, and
what is read travels in the direction it was read for and fits. Sizes are exact, also where a field
is cut. -/
theorem encoded_and_read_back :
    (∀ dir commands, (∀ c ∈ commands, Conveyed dir c) →
      decode dir (encodeAll commands) = .ok commands) ∧
    (∀ commands, totalSize commands = (encodeAll commands).length) ∧
    ∀ dir bytes commands, decode dir bytes = .ok commands →
      (∀ c ∈ commands, Conveyed dir c) ∧ totalSize commands = bytes.length ∧
        decode dir (encodeAll commands) = .ok commands := by
  refine ⟨fun dir commands hall => decode_encodeAll hall,
    fun commands => (length_encodeAll commands).symm, ?_⟩
  intro dir bytes commands hread
  obtain ⟨hall, hsize⟩ := conveyed_of_decode hread
  exact ⟨hall, hsize, decode_encodeAll hall⟩

namespace Sample

/-- Commands to a device whose fields go to the bounds of their bits. -/
def requests : List MacCommand :=
  [.linkAdrReq 15 15 0xFFFF 7 15, .rxParamSetupReq 7 15 1677721500, .devStatusReq,
    .newChannelReq 255 868100000 15 0, .txParamSetupReq true false 15]

/-- Bytes of a device that sets bits which its payloads leave unused. -/
def untidy : Bytes := [0x06, 0x7F, 0xE0, 0x03, 0xF9]

end Sample

/-- A round of requests is read back, and so is what a device sends with unused bits set. -/
theorem encoded_and_read_back_of_sample :
    ((∀ c ∈ Sample.requests, Conveyed .down c) ∧
      decode .down (encodeAll Sample.requests) = .ok Sample.requests) ∧
    decode .up Sample.untidy = .ok [.devStatusAns 127 (-32), .linkAdrAns false false true] ∧
      totalSize [.devStatusAns 127 (-32), .linkAdrAns false false true] = Sample.untidy.length ∧
      encodeAll [.devStatusAns 127 (-32), .linkAdrAns false false true] ≠ Sample.untidy := by
  have hconveyed : ∀ c ∈ Sample.requests, Conveyed .down c := by decide
  have hstatus : CommandId.ofByte 0x06 = some .devStatus := rfl
  have hadr : CommandId.ofByte 0x03 = some .linkAdr := rfl
  have hnothing : decode .up [] = .ok [] := by rw [decode]
  have huntidy : decode .up Sample.untidy =
      .ok [.devStatusAns 127 (-32), .linkAdrAns false false true] :=
    decode_cons hstatus rfl (decode_cons hadr rfl hnothing)
  obtain ⟨hread, -, hback⟩ := encoded_and_read_back
  exact ⟨⟨hconveyed, hread .down _ hconveyed⟩, huntidy, (hback .up _ _ huntidy).2.1, by decide⟩

end MacCommand

end LoraNetwork
