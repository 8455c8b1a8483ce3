import LoraNetwork.Proofs.Join.Agreement
import LoraNetwork.Proofs.Uplink.Placement

/-!
# What a joined device is told of its windows

The accept of a join carries the delay of the first window in four bits, the offset of its data rate
in three and the data rate of the second window in four. The session takes all three as they were
provisioned: its delay is cut off at fifteen seconds, while the accept carries the lowest bits. So
the device opens its windows when the session expects it to only for delays up to fifteen seconds,
and by chance for some longer ones. Offsets and data rates that do not fit lead to no downlink at
all, since no region has them; what is sent finds the device listening at the right data rate.
-/

namespace LoraNetwork

/-! ## What travels of a delay, an offset and a data rate -/

/-- The lower half of a byte is its remainder by sixteen. -/
theorem Bytes.toNat_and_half (b : UInt8) : (b &&& 0x0F).toNat = b.toNat % 16 := by
  rw [UInt8.toNat_and]
  exact Nat.and_two_pow_sub_one_eq_mod b.toNat 4

/-- The lowest three bits of a byte are its remainder by eight. -/
theorem Bytes.toNat_and_seven (b : UInt8) : (b &&& 0x07).toNat = b.toNat % 8 := by
  rw [UInt8.toNat_and]
  exact Nat.and_two_pow_sub_one_eq_mod b.toNat 3

namespace JoinAccept

variable {accept : JoinAccept}

/-- The seconds before the first window opens: zero means one. -/
def delaySeconds (accept : JoinAccept) : Nat :=
  if accept.rxDelay = 0 then 1 else accept.rxDelay.toNat

/-- When a window opens after data for a device that got the accept: the second one opens a second
after the first. -/
def delay (accept : JoinAccept) : ReceiveWindow → Duration
  | .rx1 => Duration.ofSeconds accept.delaySeconds
  | .rx2 => Duration.ofSeconds accept.delaySeconds + Duration.ofSeconds 1

/-- A device is told the delay that the timing keeps to exactly if it is fifteen seconds at most, or
has the lower half of fifteen by chance. -/
theorem delay_received_iff (window : ReceiveWindow) :
    accept.received.delay window = (ReceiveTiming.ofDelay accept.rxDelay).delay window ↔
      accept.rxDelay.toNat < 16 ∨ accept.rxDelay.toNat % 16 = 15 := by
  have hlow : accept.received.rxDelay.toNat = accept.rxDelay.toNat % 16 :=
    Bytes.toNat_and_half accept.rxDelay
  have hzero : accept.received.rxDelay = 0 ↔ accept.rxDelay.toNat % 16 = 0 := by
    rw [← UInt8.toNat_inj, hlow]
    rfl
  have hseconds : accept.received.delaySeconds = min (max accept.rxDelay.toNat 1) 15 ↔
      accept.rxDelay.toNat < 16 ∨ accept.rxDelay.toNat % 16 = 15 := by
    unfold delaySeconds
    grind
  rw [← hseconds]
  cases window with
  | rx1 => exact Nat.mul_right_inj (by decide)
  | rx2 => exact Nat.add_right_cancel_iff.trans (Nat.mul_right_inj (by decide))

/-- A device is told the offset exactly if it fits into three bits. -/
theorem rx1Offset_received_iff :
    accept.received.rx1Offset = accept.rx1Offset ↔ accept.rx1Offset < 8 := by
  have hlow : accept.received.rx1Offset.toNat = accept.rx1Offset.toNat % 8 :=
    Bytes.toNat_and_seven accept.rx1Offset
  rw [← UInt8.toNat_inj, hlow, UInt8.lt_iff_toNat_lt]
  exact Nat.mod_eq_iff_lt (by decide)

/-- A device is told the data rate of the second window exactly if it fits into four bits. -/
theorem rx2DataRate_received_iff :
    accept.received.rx2DataRate = accept.rx2DataRate ↔ accept.rx2DataRate < 16 := by
  have hlow : accept.received.rx2DataRate.toNat = accept.rx2DataRate.toNat % 16 :=
    Bytes.toNat_and_half accept.rx2DataRate
  rw [← UInt8.toNat_inj, hlow, UInt8.lt_iff_toNat_lt]
  exact Nat.mod_eq_iff_lt (by decide)

end JoinAccept

/-! ## The accept and the session of a join -/

/-- The data rate index of the second window in a session. -/
def Session.rx2DataRate (s : Session) : UInt8 :=
  s.listening.rx2DataRate.getD s.region.rx2Default.2

/-- What a device learns from its accept about the windows, beside what its session goes by. -/
structure WindowsTold (net : Network) (accept : JoinAccept) (session : Session) : Prop where
  /-- The delays are the same for some delays only. -/
  delay : ∀ window, accept.delay window = session.timing.delay window ↔
    session.listening.rxDelay.toNat < 16 ∨ session.listening.rxDelay.toNat % 16 = 15
  /-- The offsets are the same if the session's fits. -/
  offset : accept.rx1Offset = session.listening.rx1Offset ↔ session.listening.rx1Offset < 8
  /-- The data rates of the second window are the same if the session's fits. -/
  rate : accept.rx2DataRate = session.rx2DataRate ↔ session.rx2DataRate < 16
  /-- Every downlink that the session goes on to send has the parameters that the device listens
  with, and is sent after the session's delay. -/
  later : ∀ calls last, HandlingRun net (.ofSession session) calls last →
    ∀ call ∈ calls, ∀ sent, call.downlink = some sent →
      WindowParams.ofWindow session.region sent.window call.uplink.metadata accept.rx1Offset
          (some accept.rx2DataRate) =
        some ⟨sent.frequency, sent.dataRateIndex, sent.dataRate⟩ ∧
      sent.delay = session.timing.delay sent.window

/-- An accept with the settings of a session tells of its windows what travels of them. -/
theorem WindowsTold.received (net : Network) {accept : JoinAccept} {session : Session}
    (hdelay : accept.rxDelay = session.listening.rxDelay)
    (hoffset : accept.rx1Offset = session.listening.rx1Offset)
    (hrate : accept.rx2DataRate = session.rx2DataRate) :
    WindowsTold net accept.received session := by
  have htold : ∀ window, accept.received.delay window = session.timing.delay window ↔
      session.listening.rxDelay.toNat < 16 ∨ session.listening.rxDelay.toNat % 16 = 15 := by
    rw [Session.timing, ← hdelay]
    exact accept.delay_received_iff
  have htoldOffset : accept.received.rx1Offset = session.listening.rx1Offset ↔
      session.listening.rx1Offset < 8 := by
    rw [← hoffset]
    exact accept.rx1Offset_received_iff
  have htoldRate : accept.received.rx2DataRate = session.rx2DataRate ↔
      session.rx2DataRate < 16 := by
    rw [← hrate]
    exact accept.rx2DataRate_received_iff
  refine ⟨htold, htoldOffset, htoldRate, ?_⟩
  intro calls last run call hmem sent hsent
  obtain ⟨hdelay, hparams⟩ := run.places hmem hsent
  refine ⟨?_, hdelay⟩
  rw [← hparams]
  generalize sent.window = window at hparams ⊢
  -- parameters that exist are told by what travels
  cases window with
  | rx1 =>
    rw [htoldOffset.mpr (WindowParams.rx1Offset_lt hparams)]
    rfl
  | rx2 =>
    rw [htoldRate.mpr (WindowParams.rx2DataRate_lt hparams)]
    rfl

namespace JoinHandling

variable {net : Network} {uplink : JoinUplink} {events : List (Event joinInterface)}
variable {downlink : Downlink} {info : JoinInfo} {drawn : JoinDraw}

/-- A device that joins and is answered opens the accept and gets to know its windows from what
travels of the delay, the offset and the data rate. It goes by the same offset and data rate as the
session that was installed if these fit into their bits, which they do in the window of the accept.
All later downlinks of that session have the parameters that the device listens with. They are sent
when its windows open, exactly if the delay is fifteen seconds at most or has the lower half of
fifteen by chance. -/
theorem windows_told (hinverse : net.suite.Inverse)
    (h : (handle net uplink).Trace events (.ok downlink)) :
    ∃ info accept session,
      (⟨.call (.fetchJoinInfo uplink.request.devEui), .ok (some info)⟩ : Event joinInterface) ∈
        events ∧
      JoinAccept.decode net.suite info.appKey downlink.payload = .ok accept ∧
      (∀ (now : Instant) (task : TaskId) (scene : JoinScene),
        (scene.along net.config now task events).memory.deviceOf uplink.request.devEui =
          some (.ofSession session)) ∧
      session.listening = info.listening ∧ WindowsTold net accept session ∧
      (downlink.window = .rx1 → accept.rx1Offset = session.listening.rx1Offset) ∧
      (downlink.window = .rx2 → accept.rx2DataRate = session.rx2DataRate) := by
  obtain ⟨info, drawn, later, params, hinstalled, hplaced, hpayload⟩ := sent_of_trace h
  let record := newRecord net uplink.request info drawn
  let accept := acceptFor net info (regionOf net info) drawn record
  have htold : WindowsTold net accept.received (Session.ofRecord net.config record) :=
    .received net rfl rfl rfl
  have hfetched : (⟨.call (.fetchJoinInfo uplink.request.devEui), .ok (some info)⟩ :
      Event joinInterface) ∈ events := by
    obtain ⟨before, rfl⟩ := hinstalled.events
    exact .head _
  have hdecode := JoinAccept.decode_encode hinverse info.appKey accept
  rw [← hpayload] at hdecode
  refine ⟨info, _, _, hfetched, hdecode, hinstalled.deviceOf_eq, rfl, htold, ?_, ?_⟩
  · intro hwindow
    rw [hwindow] at hplaced
    exact htold.offset.mpr (WindowParams.rx1Offset_lt hplaced)
  · intro hwindow
    rw [hwindow] at hplaced
    exact htold.rate.mpr (WindowParams.rx2DataRate_lt hplaced)

end JoinHandling

/-! ## Two joins -/

namespace Sample

/-- What is known of a device that is to wait for more seconds than an accept can say. -/
def slowInfo : JoinInfo := { joinInfo with listening := { rxDelay := 16 } }

/-- The answers when it asks to join. -/
def slowAnswers : (op : JoinOperation) → op.Answer
  | .call (.fetchJoinInfo _) => .ok (some slowInfo)
  | op => joinAnswers op

end Sample

namespace JoinHandling

/-- A device that is provisioned with no delay of its own opens both windows when its session expects
it to. -/
theorem windows_told_by_default :
    Sample.joinable.suite.Inverse ∧ ∃ events downlink accept session,
      (handle Sample.joinable Sample.joinUplink).Trace events (.ok downlink) ∧
      JoinAccept.decode Sample.joinable.suite Sample.appKey downlink.payload = .ok accept ∧
      (∀ (now : Instant) (task : TaskId) (scene : JoinScene),
        (scene.along Sample.joinable.config now task events).memory.deviceOf ⟨1⟩ =
          some (.ofSession session)) ∧
      WindowsTold Sample.joinable accept session ∧
      ∀ window, accept.delay window = session.timing.delay window := by
  obtain ⟨events, downlink, htrace, hinfo⟩ := Sample.exists_answered_join
  obtain ⟨found, drawn, hanswered⟩ := answered_of_trace htrace
  obtain ⟨info, accept, session, hfetched, hdecode, hdevice, hlistening, htold, -, -⟩ :=
    windows_told Sample.joinable_inverse htrace
  have hsame : info = Sample.joinInfo :=
    (hanswered.info_eq hfetched).trans (hanswered.info_eq hinfo).symm
  rw [hsame] at hdecode hlistening
  have hshort : session.listening.rxDelay.toNat < 16 := by
    rw [hlistening]
    decide
  exact ⟨Sample.joinable_inverse, events, downlink, accept, session, htrace, hdecode, hdevice,
    htold, fun window => (htold.delay window).mpr (.inl hshort)⟩

/-- The two sides do not always agree on the delay. A device that is provisioned with sixteen seconds
is told one second, and its session sends after fifteen. -/
theorem exists_windows_apart :
    ∃ events downlink accept session,
      (handle Sample.joinable Sample.joinUplink).Trace events (.ok downlink) ∧
      JoinAccept.decode Sample.joinable.suite Sample.appKey downlink.payload = .ok accept ∧
      (∀ (now : Instant) (task : TaskId) (scene : JoinScene),
        (scene.along Sample.joinable.config now task events).memory.deviceOf ⟨1⟩ =
          some (.ofSession session)) ∧
      accept.delay .rx1 = Duration.ofSeconds 1 ∧ session.timing.rx1 = Duration.ofSeconds 15 := by
  let join := handle Sample.joinable Sample.joinUplink
  have hanswered : (join.follow Sample.slowAnswers).2.toOption.isSome = true := by decide +kernel
  have hinfo : (⟨.call (.fetchJoinInfo ⟨1⟩), .ok (some Sample.slowInfo)⟩ : Event joinInterface) ∈
      (join.follow Sample.slowAnswers).1 := .head _
  have htrace := Program.trace_follow Sample.slowAnswers join
  generalize (join.follow Sample.slowAnswers).2 = result at htrace hanswered
  cases result with
  | error failure => cases hanswered
  | ok downlink =>
    obtain ⟨info, drawn, later, params, hinstalled, -, hpayload⟩ := sent_of_trace htrace
    have hsame : Sample.slowInfo = info := hinstalled.info_eq hinfo
    subst hsame
    let accept := acceptFor Sample.joinable Sample.slowInfo
      (regionOf Sample.joinable Sample.slowInfo) drawn
      (newRecord Sample.joinable Sample.joinUplink.request Sample.slowInfo drawn)
    have hdecode := JoinAccept.decode_encode Sample.joinable_inverse Sample.appKey accept
    have hread := (congrArg (JoinAccept.decode Sample.joinable.suite Sample.appKey) hpayload).trans
      hdecode
    have hzero : accept.received.rxDelay = 0 := (by decide : (16 : UInt8) &&& 0x0F = 0)
    have hsecond : accept.received.delay .rx1 = Duration.ofSeconds 1 := by
      rw [JoinAccept.delay, JoinAccept.delaySeconds, if_pos hzero]
    exact ⟨_, downlink, _, _, htrace, hread, hinstalled.deviceOf_eq, hsecond, rfl⟩

end JoinHandling

end LoraNetwork
