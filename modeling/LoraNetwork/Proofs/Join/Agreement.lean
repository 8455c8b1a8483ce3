import LoraNetwork.Proofs.Frame.Joining
import LoraNetwork.Proofs.Join.Handling

/-!
# Both sides of a join agree

A device sends a join request that it signed, and opens the accept it gets back. It then knows the
nonce, the network as far as its identifier travels, and its address; with its own nonce and key it
derives the keys of the session. The server took the same keys and the same address into the store
and into the registry, where both counters start at zero. This needs no more of the cipher than that
its two directions undo each other, and nothing of the code.
-/

namespace LoraNetwork

namespace JoinHandling

/-- An address in a network names the network. -/
theorem networkPart_addressIn (net : NetId) (bits : UInt32) :
    (addressIn net bits).networkPart = net.networkPart := by
  have hpart : net.networkPart.toNat < 2 ^ 7 := by
    have hmask : net.value.toNat &&& (0x7F : UInt32).toNat ≤ 0x7F := Nat.and_le_right
    rw [NetId.networkPart, UInt32.toNat_toUInt8, UInt32.toNat_and]
    omega
  have hbits : (bits &&& addressMask).toNat < 2 ^ 25 := by
    rw [UInt32.toNat_and]
    exact Nat.lt_succ_of_le Nat.and_le_right
  have hleft : (net.networkPart.toUInt32 <<< 25).toNat = net.networkPart.toNat <<< 25 := by
    have hmod : net.networkPart.toNat * 2 ^ 25 % 2 ^ 32 = net.networkPart.toNat * 2 ^ 25 := by omega
    rw [UInt32.toNat_shiftLeft, UInt8.toNat_toUInt32, Nat.shiftLeft_eq]
    exact hmod.trans (Nat.shiftLeft_eq _ _).symm
  have hnumber : (addressIn net bits).value.toNat =
      net.networkPart.toNat * 2 ^ 25 + (bits &&& addressMask).toNat := by
    rw [addressIn, UInt32.toNat_or, hleft, ← Nat.shiftLeft_add_eq_or_of_lt hbits, Nat.shiftLeft_eq]
  have hright : ((addressIn net bits).value >>> 25).toNat =
      (addressIn net bits).value.toNat / 2 ^ 25 := by
    rw [UInt32.toNat_shiftRight, Nat.shiftRight_eq_div_pow]
    rfl
  apply UInt8.toNat_inj.mp
  rw [DevAddr.networkPart, UInt32.toNat_toUInt8, hright, hnumber]
  omega

/-- Uplinks from an address in the network are served. -/
theorem accepts_addressIn (config : ServerConfig) (bits : UInt32) :
    config.accepts (addressIn config.netId bits) = true := by
  rw [ServerConfig.accepts, networkPart_addressIn, decide_eq_true rfl, Bool.true_or]

/-- The network's side of a session that just started: its address is served, and store and registry
hold its keys and its address and count from zero. -/
structure Started (net : Network) (devEui : Eui64) (keys : SessionKeys) (addr : DevAddr)
    (scene : JoinScene) : Prop where
  /-- Uplinks from the address are served. -/
  served : net.config.accepts addr = true
  /-- What the store holds. -/
  stored : ∃ record, scene.store devEui = some record ∧ record.keys = keys ∧
    record.devAddr = addr ∧ record.fcntUp = 0 ∧ record.fcntDown = 0
  /-- What the registry holds. -/
  installed : ∃ session, scene.memory.deviceOf devEui = some (.ofSession session) ∧
    session.keys = keys ∧ session.devAddr = addr ∧ session.progress.fcntUp = 0 ∧
      session.progress.fcntDown = 0

/-- A session that replaces another starts afresh. -/
theorem write_full (record : SessionRecord) (eui : Eui64) (stored : Option SessionRecord) :
    ∃ after, (SessionDelta.full record).write eui stored = some after ∧
      after.keys = record.keys ∧ after.devAddr = record.devAddr ∧ after.fcntUp = record.fcntUp ∧
        after.fcntDown = record.fcntDown := by
  cases stored with
  | none => exact ⟨_, rfl, rfl, rfl, rfl, rfl⟩
  | some old => exact ⟨_, rfl, rfl, rfl, rfl, rfl⟩

/-- A join that is answered starts the session that it drew. -/
theorem Answered.started {net : Network} {uplink : JoinUplink} {info : JoinInfo} {drawn : JoinDraw}
    {events : List (Event joinInterface)} {downlink : Downlink}
    (h : Answered net uplink info drawn events downlink) (now : Instant) (task : TaskId)
    (scene : JoinScene) :
    Started net uplink.request.devEui
      (net.suite.deriveKeys info.appKey drawn.nonce net.config.netId uplink.request.devNonce)
      (addressIn net.config.netId drawn.address) (scene.along net.config now task events) where
  served := accepts_addressIn net.config drawn.address
  stored := by
    obtain ⟨record, hwrite, hfields⟩ := write_full (newRecord net uplink.request info drawn)
      uplink.request.devEui (scene.store uplink.request.devEui)
    exact ⟨record, (h.store_eq now task scene).trans hwrite, hfields⟩
  installed := ⟨_, h.deviceOf_eq now task scene, rfl, rfl, rfl, rfl⟩

/-- A device's request is read as it was written. If it is answered, the device opens the accept, and
the keys it derives and the address it gets are those of the session that the network started, in
the store and in the registry. -/
theorem sides_agree {net : Network} (hinverse : net.suite.Inverse) (appKey : AesKey)
    (joinEui devEui : Eui64) (devNonce : UInt16) :
    let request := JoinRequest.signedBy net.suite appKey joinEui devEui devNonce
    UplinkFrame.parse (JoinRequest.build net.suite appKey joinEui devEui devNonce) =
        .ok (.join request) ∧
      ∀ (metadata : RadioMetadata) (arrival : Instant) (info : JoinInfo)
        (events : List (Event joinInterface)) (downlink : Downlink),
        (handle net ⟨request, metadata, arrival⟩).Trace events (.ok downlink) →
        (⟨.call (.fetchJoinInfo devEui), .ok (some info)⟩ : Event joinInterface) ∈ events →
        info.appKey = appKey →
        ∃ accept, JoinAccept.decode net.suite appKey downlink.payload = .ok accept ∧
          ∀ (now : Instant) (task : TaskId) (scene : JoinScene),
            Started net devEui (net.suite.deriveKeys appKey accept.nonce accept.netId devNonce)
              accept.devAddr (scene.along net.config now task events) := by
  intro request
  refine ⟨JoinRequest.uplink_parse_build net.suite appKey joinEui devEui devNonce, ?_⟩
  intro metadata arrival info events downlink htrace hinfo hkey
  obtain ⟨found, drawn, hanswered⟩ := answered_of_trace htrace
  have hfound : info = found := hanswered.info_eq hinfo
  rw [← hfound] at hanswered
  obtain ⟨region, hpayload⟩ := hanswered.payload
  have hdecode := JoinAccept.decode_encode hinverse info.appKey
    (acceptFor net info region drawn
      (newRecord net (JoinUplink.request ⟨request, metadata, arrival⟩) info drawn))
  rw [← hpayload, hkey] at hdecode
  refine ⟨_, hdecode, ?_⟩
  intro now task scene
  have hstarted := hanswered.started now task scene
  rw [hkey, ← CipherSuite.deriveKeys_travelled] at hstarted
  exact hstarted

end JoinHandling

/-! ## A join -/

namespace Sample

/-- A network whose identifier has more bits than travel, and a cipher that combines a block with
the key. -/
def joinable : Network where
  config := { netId := ⟨0x05000013⟩ }
  suite := ⟨fun key block => block.xor key.block, fun key block => block.xor key.block,
    fun key text => (Block.ofBytes text).xor key.block⟩

/-- The key of a device that may join. -/
def appKey : AesKey := ⟨Vector.ofFn fun i => UInt8.ofNat i⟩

/-- What is known of that device. -/
def joinInfo : JoinInfo where
  appKey := appKey
  joinEui := ⟨2⟩

/-- The answers while no time passes and the store takes every write. -/
def joinAnswers : (op : JoinOperation) → op.Answer
  | .clock => (0 : Int)
  | .draw => ⟨⟨1, 2, 3⟩, 0xDEADBEEF⟩
  | .call (.fetchJoinInfo _) => .ok (some joinInfo)
  | .call (.persist ..) => .ok ()
  | .call _ => .error .timeout
  | .install _ => ()

/-- The device asks to join. -/
def joinUplink : JoinUplink where
  request := JoinRequest.signedBy joinable.suite appKey ⟨2⟩ ⟨1⟩ 7
  metadata := {}
  arrival := 0

/-- Combining with a key twice changes nothing. -/
theorem joinable_inverse : joinable.suite.Inverse := by
  have htwice : ∀ key block : Block, (block.xor key).xor key = block := by
    intro key block
    apply Vector.ext
    intro i hi
    simp only [Block.xor, Vector.getElem_zipWith, UInt8.xor_assoc, UInt8.xor_self, UInt8.xor_zero]
  exact ⟨fun key => htwice key.block, fun key => htwice key.block⟩

/-- The device is answered, on the word of the device store. -/
theorem exists_answered_join :
    ∃ events downlink, (JoinHandling.handle joinable joinUplink).Trace events (.ok downlink) ∧
      (⟨.call (.fetchJoinInfo ⟨1⟩), .ok (some joinInfo)⟩ : Event joinInterface) ∈ events := by
  let join := JoinHandling.handle joinable joinUplink
  have hanswered : (join.follow joinAnswers).2.toOption.isSome = true := by decide +kernel
  have hinfo : (⟨.call (.fetchJoinInfo ⟨1⟩), .ok (some joinInfo)⟩ : Event joinInterface) ∈
      (join.follow joinAnswers).1 := .head _
  have htrace := Program.trace_follow joinAnswers join
  generalize (join.follow joinAnswers).2 = result at htrace hanswered
  cases result with
  | error failure => cases hanswered
  | ok downlink => exact ⟨_, downlink, htrace, hinfo⟩

end Sample

namespace JoinHandling

/-- The device joins and is answered, and both sides agree. -/
theorem sides_agree_of_answered_join :
    Sample.joinable.suite.Inverse ∧ Sample.joinInfo.appKey = Sample.appKey ∧
      ∃ events downlink,
        (handle Sample.joinable Sample.joinUplink).Trace events (.ok downlink) ∧
        (⟨.call (.fetchJoinInfo ⟨1⟩), .ok (some Sample.joinInfo)⟩ : Event joinInterface) ∈ events ∧
        ∃ accept, JoinAccept.decode Sample.joinable.suite Sample.appKey downlink.payload =
            .ok accept ∧
          ∀ (now : Instant) (task : TaskId) (scene : JoinScene),
            Started Sample.joinable ⟨1⟩
              (Sample.joinable.suite.deriveKeys Sample.appKey accept.nonce accept.netId 7)
              accept.devAddr (scene.along Sample.joinable.config now task events) := by
  obtain ⟨events, downlink, htrace, hinfo⟩ := Sample.exists_answered_join
  have hagree := (sides_agree Sample.joinable_inverse Sample.appKey ⟨2⟩ ⟨1⟩ 7).2 {} 0
    Sample.joinInfo events downlink htrace hinfo rfl
  exact ⟨Sample.joinable_inverse, rfl, events, downlink, htrace, hinfo, hagree⟩

end JoinHandling

end LoraNetwork
