import LoraNetwork.Frame.Uplink
import LoraNetwork.Proofs.Frame.Reading

/-!
# Which bytes are an uplink

A join request is known by its type and its size of 23 bytes. A data uplink is known by its type,
the version in use, a size of at least 12 bytes, and a body that holds what its header announces:
all of the options, and no port 0 behind options. Nothing else is taken for an uplink. The version
is looked at in data frames only, so a request to join of any other version is taken as well.
-/

namespace LoraNetwork

/-- The type that the first of some bytes announces. -/
def MessageType.announced (bytes : Bytes) : Option MessageType :=
  bytes.head?.map MessageType.ofFirstByte

/-- The major version that the first of some bytes announces. -/
def MessageType.announcedMajor (bytes : Bytes) : Option UInt8 :=
  bytes.head?.map MessageType.majorOf

/-- Four bytes are an integrity code. -/
theorem Mic.exists_bytes_eq {bytes : Bytes} (h : bytes.length = size) :
    ∃ mic : Mic, bytes = mic.bytes := by
  match bytes, h with
  | [b0, b1, b2, b3], _ => exact ⟨⟨b0, b1, b2, b3⟩, rfl⟩

/-! ## Requests to join -/

namespace JoinRequest

variable {bytes : Bytes}

/-- A request to join, by its type and its size. -/
structure Shaped (bytes : Bytes) : Prop where
  /-- The type. -/
  type : MessageType.announced bytes = some .joinRequest
  /-- The size. -/
  length : bytes.length = size

/-- Just what has the type and the size of a request is read as one. -/
theorem parses_iff_shaped : (∃ request, parse bytes = .ok request) ↔ Shaped bytes := by
  constructor
  · rintro ⟨request, h⟩
    unfold parse at h
    split at h
    · cases h
    · rename_i hlength
      split at h
      · split at h
        · cases h
        · rename_i htype
          exact ⟨congrArg some (Decidable.of_not_not htype), Decidable.of_not_not hlength⟩
      · cases h
  · intro h
    obtain ⟨first, rest, rfl⟩ : ∃ first rest, bytes = first :: rest :=
      List.exists_cons_of_length_pos (by rw [h.length]; decide)
    have htype : MessageType.ofFirstByte first = .joinRequest := Option.some.inj h.type
    have hcode : ((first :: rest).drop (size - Mic.size)).length = Mic.size := by
      rw [List.length_drop, h.length]
      rfl
    obtain ⟨mic, hmic⟩ := Mic.exists_bytes_eq hcode
    rw [parse.eq_def, if_neg (not_not_intro h.length), hmic]
    dsimp only [Mic.bytes]
    rw [if_neg (not_not_intro htype)]
    exact ⟨_, rfl⟩

end JoinRequest

/-! ## Data frames -/

namespace DataFrame

variable {bytes : Bytes}

/-- How many bytes of options the control byte announces. -/
def announcedOptions (bytes : Bytes) : Nat :=
  (FrameControl.ofByte (bytes.getD 5 0)).optionsLength.toNat

/-- Where the options end that the control byte announces. -/
def optionsEnd (bytes : Bytes) : Nat := 1 + FrameHeader.minSize + announcedOptions bytes

/-- The bytes in front of the integrity code. -/
def covered (bytes : Bytes) : Bytes := bytes.take (bytes.length - Mic.size)

/-- The bytes hold what their header announces. -/
structure Shaped (bytes : Bytes) : Prop where
  /-- There is a header and a code. -/
  long : minSize ≤ bytes.length
  /-- The options end in front of the code. -/
  options : optionsEnd bytes ≤ bytes.length - Mic.size
  /-- Port 0 follows no options. -/
  port : (covered bytes)[optionsEnd bytes]? = some 0 → announcedOptions bytes = 0

/-- The length of options that a control byte announces is one that a header can hold. -/
theorem optionsLength_le (b : UInt8) :
    (FrameControl.ofByte b).optionsLength.toNat ≤ maxOptions := by
  have hmask : (FrameControl.ofByte b).optionsLength = b &&& 0x0F := rfl
  rw [hmask, UInt8.toNat_and]
  exact Nat.and_le_right

/-- Where bytes are refused no frame is read. -/
theorem not_exists_of_refused (e : FrameError) :
    ¬ ∃ frame : DataFrame, (.error e : Except FrameError DataFrame) = .ok frame := by
  rintro ⟨frame, h⟩
  cases h

/-- A body is read exactly if it holds the options, and no port 0 behind any. -/
theorem readBody_iff {type : MessageType} {addr : DevAddr} {control : FrameControl}
    {counter : UInt16} {body : Bytes} {mic : Mic} {signed : Bytes}
    (hfits : control.optionsLength.toNat ≤ maxOptions) :
    (∃ frame, readBody type addr control counter body mic signed = .ok frame) ↔
      control.optionsLength.toNat ≤ body.length ∧
        (body[control.optionsLength.toNat]? = some 0 → control.optionsLength.toNat = 0) := by
  unfold readBody
  generalize control.optionsLength.toNat = n at hfits ⊢
  by_cases hlong : n ≤ body.length
  case neg =>
    rw [if_pos (Nat.lt_of_not_le hlong)]
    exact iff_of_false (not_exists_of_refused _) fun h => hlong h.1
  have hoptions : (body.take n).length = n := List.length_take_of_le hlong
  have hshort : (body.take n).length ≤ maxOptions := by rwa [hoptions]
  have hempty : body.take n = [] ↔ n = 0 := by
    rw [← List.length_eq_zero_iff, hoptions]
  have hport : body[n]? = (body.drop n).head? := List.head?_drop.symm
  rw [if_neg (Nat.not_lt_of_le hlong)]
  dsimp only
  rw [dif_pos hshort, hport]
  cases body.drop n with
  | nil =>
    refine ⟨fun _ => ⟨hlong, fun h => ?_⟩, fun _ => ⟨_, rfl⟩⟩
    cases h
  | cons port payload =>
    dsimp only
    split
    · rename_i hboth
      exact iff_of_false (not_exists_of_refused _) fun h =>
        hboth.2 (hempty.mpr (h.2 (congrArg some hboth.1)))
    · rename_i hnot
      refine ⟨fun _ => ⟨hlong, fun hzero => ?_⟩, fun _ => ⟨_, rfl⟩⟩
      have hnone : body.take n = [] := Decidable.byContradiction fun hsome =>
        hnot ⟨Option.some.inj hzero, hsome⟩
      exact hempty.mp hnone

/-- Bytes that are long enough are a header, a body and a code. -/
theorem exists_parts (hlong : minSize ≤ bytes.length) :
    ∃ first a0 a1 a2 a3 control c0 c1 body, ∃ mic : Mic,
      bytes = (first :: a0 :: a1 :: a2 :: a3 :: control :: c0 :: c1 :: body) ++ mic.bytes := by
  have hcode : (bytes.drop (bytes.length - Mic.size)).length = Mic.size := by
    rw [List.length_drop]
    simp only [minSize] at hlong
    omega
  have hcovered : 1 + FrameHeader.minSize ≤ (covered bytes).length := by
    rw [covered, List.length_take]
    simp only [minSize] at hlong
    omega
  have hcut : covered bytes ++ bytes.drop (bytes.length - Mic.size) = bytes :=
    List.take_append_drop _ _
  obtain ⟨mic, hmic⟩ := Mic.exists_bytes_eq hcode
  rw [hmic] at hcut
  generalize covered bytes = signed at hcovered hcut
  rcases signed with - | ⟨first, - | ⟨a0, - | ⟨a1, - | ⟨a2, - | ⟨a3, - | ⟨control, - | ⟨c0,
    - | ⟨c1, body⟩⟩⟩⟩⟩⟩⟩⟩
  case cons.cons.cons.cons.cons.cons.cons.cons =>
    exact ⟨first, a0, a1, a2, a3, control, c0, c1, body, mic, hcut.symm⟩
  all_goals simp [FrameHeader.minSize] at hcovered

/-- Whether bytes hold what their header announces hangs on the body alone. -/
theorem shaped_iff (first a0 a1 a2 a3 control c0 c1 : UInt8) (body : Bytes) (mic : Mic) :
    Shaped ((first :: a0 :: a1 :: a2 :: a3 :: control :: c0 :: c1 :: body) ++ mic.bytes) ↔
      (FrameControl.ofByte control).optionsLength.toNat ≤ body.length ∧
        (body[(FrameControl.ofByte control).optionsLength.toNat]? = some 0 →
          (FrameControl.ofByte control).optionsLength.toNat = 0) := by
  generalize hsigned : first :: a0 :: a1 :: a2 :: a3 :: control :: c0 :: c1 :: body = signed
  generalize hn : (FrameControl.ofByte control).optionsLength.toNat = n
  have hmic : mic.bytes.length = Mic.size := rfl
  have hlength : signed.length = 1 + FrameHeader.minSize + body.length := by
    rw [← hsigned]
    simp only [List.length_cons, FrameHeader.minSize]
    omega
  have hcut : (signed ++ mic.bytes).length - Mic.size = signed.length := by
    rw [List.length_append, hmic, Nat.add_sub_cancel]
  have hcovered : covered (signed ++ mic.bytes) = signed := by
    rw [covered, hcut, List.take_left]
  have hannounced : announcedOptions (signed ++ mic.bytes) = n := by
    rw [← hsigned, ← hn]
    rfl
  have hport : signed[1 + FrameHeader.minSize + n]? = body[n]? := by
    rw [← hsigned, Nat.add_comm]
    rfl
  constructor
  · intro h
    have hoptions := h.options
    have hzero := h.port
    rw [optionsEnd, hannounced, hcut, hlength] at hoptions
    rw [hcovered, optionsEnd, hannounced, hport] at hzero
    exact ⟨by omega, hzero⟩
  · rintro ⟨hoptions, hzero⟩
    refine ⟨?_, ?_, ?_⟩
    · rw [List.length_append, hlength, hmic, minSize]
      omega
    · rw [optionsEnd, hannounced, hcut, hlength]
      omega
    · rwa [hcovered, optionsEnd, hannounced, hport]

/-- A frame is read exactly if it is of the version in use, carries data and holds what its header
announces. -/
theorem parses_iff_shaped :
    (∃ frame, parse bytes = .ok frame) ↔ MessageType.announcedMajor bytes = some 0 ∧
      (∃ type, MessageType.announced bytes = some type ∧ type.isData = true) ∧ Shaped bytes := by
  by_cases hlong : minSize ≤ bytes.length
  case neg =>
    rw [parse, if_pos (Nat.lt_of_not_le hlong)]
    exact iff_of_false (not_exists_of_refused _) fun h => hlong h.2.2.long
  obtain ⟨first, a0, a1, a2, a3, control, c0, c1, body, mic, rfl⟩ := exists_parts hlong
  have hmajor : MessageType.announcedMajor
      ((first :: a0 :: a1 :: a2 :: a3 :: control :: c0 :: c1 :: body) ++ mic.bytes) =
        some (MessageType.majorOf first) := rfl
  have htype : MessageType.announced
      ((first :: a0 :: a1 :: a2 :: a3 :: control :: c0 :: c1 :: body) ++ mic.bytes) =
        some (MessageType.ofFirstByte first) := rfl
  rw [shaped_iff, hmajor, htype, parse_append (by simp [FrameHeader.minSize]), readSigned]
  by_cases hversion : MessageType.majorOf first = 0
  case neg =>
    rw [if_pos hversion]
    exact iff_of_false (not_exists_of_refused _) fun h => hversion (Option.some.inj h.1)
  rw [if_neg (not_not_intro hversion)]
  by_cases hdata : (MessageType.ofFirstByte first).isData = true
  case neg =>
    rw [if_pos (Bool.of_not_eq_true hdata)]
    refine iff_of_false (not_exists_of_refused _) ?_
    rintro ⟨-, ⟨type, hsome, htrue⟩, -⟩
    rw [← Option.some.inj hsome] at htrue
    exact hdata htrue
  have hcarries : ¬ (MessageType.ofFirstByte first).isData = false := by
    rw [hdata]
    decide
  rw [if_neg hcarries, readBody_iff (optionsLength_le control)]
  exact ⟨fun h => ⟨congrArg some hversion, ⟨_, rfl, hdata⟩, h⟩, fun h => h.2.2⟩

end DataFrame

/-! ## Uplinks -/

namespace UplinkFrame

variable {bytes : Bytes}

/-- The type is one of the two in which devices send data. -/
def FromDevice (bytes : Bytes) : Prop :=
  MessageType.announced bytes = some .unconfirmedDataUp ∨
    MessageType.announced bytes = some .confirmedDataUp

/-- An uplink of the version in use: a request to join or data. -/
def OfFirstVersion (bytes : Bytes) : Prop :=
  MessageType.announcedMajor bytes = some 0 ∧
    (JoinRequest.Shaped bytes ∨ FromDevice bytes ∧ DataFrame.Shaped bytes)

/-- Requests to join are told by their type. -/
theorem parse_of_joinRequest (h : MessageType.announced bytes = some .joinRequest) :
    parse bytes = (JoinRequest.parse bytes).map join := by
  cases bytes with
  | nil => cases h
  | cons first rest =>
    have htype : MessageType.ofFirstByte first = .joinRequest := Option.some.inj h
    rw [parse, htype]

/-- Data from devices is told by its type. -/
theorem parse_of_fromDevice (h : FromDevice bytes) :
    parse bytes = (DataFrame.parse bytes).map data := by
  cases bytes with
  | nil => rcases h with h | h <;> cases h
  | cons first rest =>
    rcases h with h | h <;>
    · have htype := Option.some.inj h
      rw [parse, htype]

/-- What an uplink is read as: a request to join or data, as its type announces. -/
inductive ReadAs (bytes : Bytes) : UplinkFrame → Prop where
  /-- A request to join. -/
  | join {request : JoinRequest} (type : MessageType.announced bytes = some .joinRequest)
      (read : JoinRequest.parse bytes = .ok request) : ReadAs bytes (.join request)
  /-- Data. -/
  | data {frame : DataFrame} (type : FromDevice bytes) (read : DataFrame.parse bytes = .ok frame) :
      ReadAs bytes (.data frame)

/-- What is read is read as its type announces. -/
theorem readAs_of_parse {frame : UplinkFrame} (h : parse bytes = .ok frame) :
    ReadAs bytes frame := by
  have htype : MessageType.announced bytes = some .joinRequest ∨ FromDevice bytes := by
    unfold parse at h
    split at h
    · cases h
    · split at h
      · rename_i hjoin
        exact .inl (congrArg some hjoin)
      · rename_i hunconfirmed
        exact .inr (.inl (congrArg some hunconfirmed))
      · rename_i hconfirmed
        exact .inr (.inr (congrArg some hconfirmed))
      · cases h
  rcases htype with hjoin | hdevice
  · rw [parse_of_joinRequest hjoin] at h
    cases hread : JoinRequest.parse bytes with
    | error e =>
      rw [hread] at h
      cases h
    | ok request =>
      rw [hread] at h
      cases h
      exact .join hjoin hread
  · rw [parse_of_fromDevice hdevice] at h
    cases hread : DataFrame.parse bytes with
    | error e =>
      rw [hread] at h
      cases h
    | ok frame =>
      rw [hread] at h
      cases h
      exact .data hdevice hread

/-- Just what has the type and the size of a request is read as one. -/
theorem parses_join_iff :
    (∃ request, parse bytes = .ok (join request)) ↔ JoinRequest.Shaped bytes := by
  constructor
  · rintro ⟨request, h⟩
    cases readAs_of_parse h with
    | join type read => exact JoinRequest.parses_iff_shaped.mp ⟨request, read⟩
  · intro h
    obtain ⟨request, hread⟩ := JoinRequest.parses_iff_shaped.mpr h
    rw [parse_of_joinRequest h.type, hread]
    exact ⟨request, rfl⟩

/-- Frames from devices carry data. -/
theorem FromDevice.exists_isData (h : FromDevice bytes) :
    ∃ type, MessageType.announced bytes = some type ∧ type.isData = true := by
  rcases h with h | h
  · exact ⟨_, h, rfl⟩
  · exact ⟨_, h, rfl⟩

/-- Just what devices send as data in the version in use, and holds what its header announces, is
read as data. -/
theorem parses_data_iff :
    (∃ frame, parse bytes = .ok (data frame)) ↔
      MessageType.announcedMajor bytes = some 0 ∧ FromDevice bytes ∧ DataFrame.Shaped bytes := by
  constructor
  · rintro ⟨frame, h⟩
    cases readAs_of_parse h with
    | data type read =>
      obtain ⟨hmajor, -, hshaped⟩ := DataFrame.parses_iff_shaped.mp ⟨frame, read⟩
      exact ⟨hmajor, type, hshaped⟩
  · rintro ⟨hmajor, htype, hshaped⟩
    obtain ⟨frame, hread⟩ := DataFrame.parses_iff_shaped.mpr
      ⟨hmajor, htype.exists_isData, hshaped⟩
    rw [parse_of_fromDevice htype, hread]
    exact ⟨frame, rfl⟩

/-- Every uplink of the version in use is read, and nothing else but requests to join of other
versions. What is read is a request or data as its type announces. -/
theorem admitted_exactly (bytes : Bytes) :
    ((∃ frame, parse bytes = .ok frame) ↔ OfFirstVersion bytes ∨ JoinRequest.Shaped bytes) ∧
    ((∃ request, parse bytes = .ok (join request)) ↔ JoinRequest.Shaped bytes) ∧
    ((∃ frame, parse bytes = .ok (data frame)) ↔
      MessageType.announcedMajor bytes = some 0 ∧ FromDevice bytes ∧ DataFrame.Shaped bytes) := by
  refine ⟨⟨?_, ?_⟩, parses_join_iff, parses_data_iff⟩
  · rintro ⟨frame | frame, h⟩
    · exact .inr (parses_join_iff.mp ⟨frame, h⟩)
    · obtain ⟨hmajor, hbody⟩ := parses_data_iff.mp ⟨frame, h⟩
      exact .inl ⟨hmajor, .inr hbody⟩
  · rintro (⟨hmajor, hjoin | hbody⟩ | hjoin)
    · obtain ⟨request, h⟩ := parses_join_iff.mpr hjoin
      exact ⟨_, h⟩
    · obtain ⟨frame, h⟩ := parses_data_iff.mpr ⟨hmajor, hbody⟩
      exact ⟨_, h⟩
    · obtain ⟨request, h⟩ := parses_join_iff.mpr hjoin
      exact ⟨_, h⟩

namespace Sample

/-- A request to join whose first byte announces major version 1. -/
def laterRequest : Bytes :=
  [0x01, 0x97, 0xB7, 0x9C, 0x51, 0xE4, 0x6F, 0x10, 0xB8, 0x93, 0x28, 0x3C, 0x64, 0x38, 0x2E, 0x7F,
   0x33, 0x01, 0x00, 0x76, 0xF8, 0x32, 0x14]

end Sample

/-- Uplinks of other versions than the one in use are not all refused: a request to join is read
whatever version it announces. -/
theorem exists_request_of_later_version :
    ∃ bytes, (∃ frame, parse bytes = .ok frame) ∧ ¬ OfFirstVersion bytes := by
  have hshaped : JoinRequest.Shaped Sample.laterRequest := ⟨rfl, rfl⟩
  obtain ⟨request, h⟩ := parses_join_iff.mpr hshaped
  refine ⟨Sample.laterRequest, ⟨_, h⟩, fun hfirst => ?_⟩
  have hmajor : MessageType.announcedMajor Sample.laterRequest = some 1 := rfl
  have hzero := hfirst.1
  rw [hmajor] at hzero
  cases hzero

end UplinkFrame

end LoraNetwork
