import LoraNetwork.Proofs.Uplink.Rejection
import LoraNetwork.Proofs.Uplink.Replay

/-!
# Acceptance of what a device sends next

Two places choose the counter of a frame on their own: whoever looks for the device that signed it,
and the handler. The first rebuilds the counter from its low half, and for a relaxed device tries the
low half as well. The handler decides on one counter, and takes the low half alone if it looks like
a restart that is allowed. As long as what is announced of a device is in step with its session, the
first finds every frame that the device sends next, and the handler accepts it, except for the first
two frames of a block of 65536: those of a device that may restart are verified under the low half
of their counter, where their code does not verify.
-/

namespace LoraNetwork

/-- The card of the device is that of its session, and the counter announced last is the one
accepted last. -/
structure Device.InStep (device : Device) : Prop where
  /-- The card of the session. -/
  card : device.card = DeviceCard.ofSession device.session
  /-- The counter accepted last. -/
  announced : device.announced = device.session.progress.fcntUp

/-- A device whose session was just loaded or joined is in step. -/
theorem Device.inStep_ofSession (s : Session) : (Device.ofSession s).InStep := ⟨rfl, rfl⟩

/-- A frame of the device's address is found to be signed by it if its code verifies for the counter
that is rebuilt. -/
theorem DeviceCard.authenticates_of_resolve {suite : CipherSuite} {card : DeviceCard}
    {announced counter : UInt32} {frame : DataFrame} (haddr : frame.devAddr = card.devAddr)
    (hresolve : Counter.resolve announced frame.header.counter card.wideCounter = counter)
    (hsigned : frame.verifies suite card.networkKey counter = true) :
    card.authenticates suite announced frame = true := by
  rw [authenticates, if_pos haddr]
  dsimp only
  rw [hresolve, hsigned, Bool.true_or]

namespace DataUplink

/-- The MAC commands of an uplink as bytes, given its full counter. -/
def commandBytes (net : Network) (s : Session) (uplink : DataUplink) (counter : UInt32) : Bytes :=
  if uplink.onPortZero then uplink.frame.plaintext net.suite s.keys counter
  else uplink.frame.header.options

/-- An uplink that the device of a session, which is this gateway's or nobody's, may send next with
a full counter. -/
structure Continues (net : Network) (s : Session) (uplink : DataUplink) (counter : UInt32) :
    Prop where
  /-- The session belongs to this gateway or to none. -/
  owned : s.gatewayId = none ∨ s.gatewayId = some net.config.gatewayId
  /-- The frame carries the low half of the counter. -/
  low : uplink.frame.header.counter = counter.toUInt16
  /-- The counter lies beyond the last one. -/
  lt : s.progress.fcntUp < counter
  /-- It is within the largest step, and less than a block away. -/
  near : counter.toNat ≤ s.progress.fcntUp.toNat + min net.config.maxCounterGap.toNat 65535
  /-- A device that counts in sixteen bits does not get further. -/
  narrow : s.wideCounter = false → counter.toNat < 65536
  /-- The code verifies for the counter. -/
  signed : uplink.frame.verifies net.suite s.keys.network counter = true
  /-- The data rate is one of the region's. -/
  rate : (s.region.uplinkIndex uplink.metadata.dataRate).isSome = true
  /-- The MAC commands are well formed. -/
  commands : ∃ requests, MacCommand.decode .up (uplink.commandBytes net s counter) = .ok requests

/-- The handler would take the uplink for a restart of the count. -/
def LooksRestarted (s : Session) (counter : UInt32) : Prop :=
  s.resetAllowed = true ∧ Counter.OpensBlock counter

instance (s : Session) (counter : UInt32) : Decidable (LooksRestarted s counter) :=
  inferInstanceAs (Decidable (_ ∧ _))

namespace Continues

variable {net : Network} {s : Session} {uplink : DataUplink} {counter : UInt32}

/-- The counter follows the last one. -/
theorem follows (h : Continues net s uplink counter) :
    Counter.Follows s.progress.fcntUp s.wideCounter counter where
  lt := h.lt
  near := by
    have hnear := h.near
    omega
  narrow := h.narrow

/-- Nobody else owns the session. -/
theorem not_foreign (h : Continues net s uplink counter) :
    ¬ (s.gatewayId.any fun owner => owner ≠ net.config.gatewayId) = true := by
  rcases h.owned with hnone | hours
  · simp [hnone]
  · simp [hours]

/-- An uplink that does not look like a restart passes the examination as a new one. -/
theorem examine_eq (h : Continues net s uplink counter) (hnew : ¬ LooksRestarted s counter) :
    ∃ requests, uplink.examine net s = .ok ⟨.accept counter, requests⟩ := by
  obtain ⟨requests, hdecode⟩ := h.commands
  have hgap : counter.toNat ≤ s.progress.fcntUp.toNat + net.config.maxCounterGap.toNat := by
    have hnear := h.near
    omega
  have hverdict : Counter.evaluate (s.counterState net.config.maxCounterGap)
      uplink.frame.header.counter uplink.confirmed = .accept counter := by
    rw [h.low]
    exact Counter.evaluate_eq_accept h.follows hgap hnew
  have hsigned : ¬ uplink.frame.verifies net.suite s.keys.network counter = false := by
    rw [h.signed]
    decide
  have hrate : ¬ (s.region.uplinkIndex uplink.metadata.dataRate).isNone = true := by
    obtain ⟨index, hindex⟩ := Option.isSome_iff_exists.mp h.rate
    rw [hindex]
    exact Bool.false_ne_true
  refine ⟨requests, ?_⟩
  rw [examine, if_neg h.not_foreign, hverdict]
  refine (if_neg hsigned).trans ((if_neg hrate).trans ?_)
  dsimp only [CounterVerdict.counter]
  rw [commandBytes] at hdecode
  rw [hdecode]

/-- An uplink that looks like a restart is refused, unless its code verifies for the low half of its
counter as well. -/
theorem examine_eq_refused (h : Continues net s uplink counter) (hold : LooksRestarted s counter)
    (hlow : uplink.frame.verifies net.suite s.keys.network counter.toUInt16.toUInt32 = false) :
    uplink.examine net s = .error .authenticationFailed := by
  have hverdict : Counter.evaluate (s.counterState net.config.maxCounterGap)
      uplink.frame.header.counter uplink.confirmed = .reset counter.toUInt16.toUInt32 := by
    rw [h.low]
    exact Counter.evaluate_eq_reset h.follows hold.1 hold.2
  rw [examine, if_neg h.not_foreign, hverdict]
  exact if_pos hlow

/-- Whoever looks for the device that signed the uplink finds it. -/
theorem authenticates {device : Device} (h : Continues net device.session uplink counter)
    (hstep : device.InStep) (haddr : uplink.frame.devAddr = device.session.devAddr) :
    device.authenticates net.suite uplink.frame = true := by
  have hresolve : Counter.resolve device.session.progress.fcntUp uplink.frame.header.counter
      device.session.wideCounter = counter := by
    rw [h.low]
    exact Counter.resolve_eq h.follows
  rw [Device.authenticates, hstep.card, hstep.announced]
  exact DeviceCard.authenticates_of_resolve haddr hresolve h.signed

end Continues

end DataUplink

/-! ## Runs -/

/-- An uplink that is carried out leaves its device in step. -/
theorem DataHandling.CarriedOut.inStep {net : Network} {device after : Device} {recorded : Session}
    {uplink : DataUplink} {counter : UInt32} {requests : List MacCommand}
    {events : List (Event dataInterface)} {result : Except UplinkFailure (Option Downlink)}
    (h : CarriedOut net device recorded uplink counter requests events after result)
    (hcard : device.card = DeviceCard.ofSession after.session)
    (hcounter : recorded.progress.fcntUp = counter) : after.InStep := by
  have hsame := h.sameUplink
  obtain ⟨_, _, _, -, -, -, hafter, -⟩ := h.parts
  rw [hafter]
  exact ⟨hcard, hcounter.symm.trans hsame.fcntUp.symm⟩

namespace Handling

open DataHandling

variable {net : Network} {call : Handling} {counter : UInt32}

/-- A call keeps its device in step. -/
theorem Occurs.inStep (h : call.Occurs net) (hstep : call.before.InStep) : call.after.InStep := by
  obtain ⟨before, uplink, events, after, result⟩ := call
  have hhandled := trace_handle h
  have hprofile := hhandled.sameProfile
  dsimp only at hhandled hstep hprofile ⊢
  cases hhandled with
  | refused | replay | unsaved => exact hstep
  | repeated examined answer write =>
    have hsame := (sameUplink_resubmit answer).trans (sameUplink_persist write)
    exact ⟨hstep.card.trans hprofile.card.symm, hstep.announced.trans hsame.fcntUp.symm⟩
  | restarted examined tells carried =>
    exact carried.inStep (hstep.card.trans hprofile.card.symm) rfl
  | accepted examined carried =>
    exact carried.inStep (hstep.card.trans hprofile.card.symm) rfl

/-- An uplink that the device may send next, and that does not look like a restart, is accepted. -/
theorem Occurs.accepts (h : call.Occurs net)
    (hnext : call.uplink.Continues net call.before.session counter)
    (hnew : ¬ DataUplink.LooksRestarted call.before.session counter) :
    call.accepted net = some counter ∧ call.after.session.progress.fcntUp = counter ∧
      ∀ failure, call.result = .error failure → failure.stage = .processing := by
  obtain ⟨requests, hexamined⟩ := hnext.examine_eq hnew
  have haccepted : call.accepted net = some counter := by
    simp only [accepted, verdict, hexamined]
  have hrecorded : call.recorded net = some counter := by
    rw [recorded, haccepted, Option.some_or]
  have hcount := h.counts.fcntUp
  rw [hrecorded, Option.getD_some] at hcount
  refine ⟨haccepted, hcount, ?_⟩
  intro failure hfailure
  obtain ⟨before, uplink, events, after, result⟩ := call
  have hhandled := trace_handle h
  dsimp only at hhandled hexamined hfailure
  cases hhandled with
  | refused examined | replay examined | repeated examined | unsaved examined
  | restarted examined =>
    rw [hexamined] at examined
    cases examined
  | accepted examined carried =>
    obtain ⟨_, _, answered, -, -, -, -, hresult⟩ := carried.parts
    rw [hfailure] at hresult
    cases hanswer : answered.2 with
    | ok downlink =>
      rw [hanswer] at hresult
      cases hresult
    | error reason =>
      rw [hanswer] at hresult
      rw [Except.error.inj hresult]

/-- An uplink that looks like a restart, and whose code does not verify for the low half of its
counter, is refused. -/
theorem Occurs.refuses (h : call.Occurs net)
    (hnext : call.uplink.Continues net call.before.session counter)
    (hold : DataUplink.LooksRestarted call.before.session counter)
    (hlow : call.uplink.frame.verifies net.suite call.before.session.keys.network
      counter.toUInt16.toUInt32 = false) :
    call.result = .error ⟨.authenticationFailed, .authenticating⟩ ∧ call.after = call.before := by
  have hexamined := hnext.examine_eq_refused hold hlow
  obtain ⟨before, uplink, events, after, result⟩ := call
  have hhandled := trace_handle h
  dsimp only at hhandled hexamined ⊢
  cases hhandled with
  | refused examined =>
    rw [hexamined] at examined
    rw [← Except.error.inj examined]
    exact ⟨rfl, rfl⟩
  | replay examined | repeated examined | unsaved examined | restarted examined
  | accepted examined =>
    rw [hexamined] at examined
    cases examined

end Handling

namespace HandlingRun

variable {net : Network} {start last : Device} {calls : List Handling}

/-- A run keeps its device in step. -/
theorem inStep (run : HandlingRun net start calls last) (hstep : start.InStep) : last.InStep := by
  induction run with
  | nil device => exact hstep
  | cons first rest ih => exact ih (first.inStep hstep)

/-- Whatever came before, an uplink that the device may send next is found to be the device's, and
the handler accepts it under its counter, if it does not look like a restart that is allowed. If it
does, it is one of the first two of a later block of 65536; unless its code verifies for the low
half of its counter too, it is refused, though it was found to be the device's. -/
theorem next_uplink_accepted {config : ServerConfig} {record : SessionRecord}
    {earlier : List Handling} {call : Handling} {counter : UInt32}
    (run : HandlingRun net (.ofSession (.ofRecord config record)) (earlier ++ [call]) last)
    (hnext : call.uplink.Continues net call.before.session counter) :
    (call.uplink.frame.devAddr = call.before.session.devAddr →
        call.before.authenticates net.suite call.uplink.frame = true) ∧
      (¬ DataUplink.LooksRestarted call.before.session counter →
        call.accepted net = some counter ∧ call.after.session.progress.fcntUp = counter ∧
          ∀ failure, call.result = .error failure → failure.stage = .processing) ∧
      (DataUplink.LooksRestarted call.before.session counter →
        call.uplink.frame.verifies net.suite call.before.session.keys.network
            counter.toUInt16.toUInt32 = false →
        call.result = .error ⟨.authenticationFailed, .authenticating⟩ ∧
          call.after = call.before) := by
  obtain ⟨hearlier, hcall, -⟩ := run.of_snoc
  have hstep := hearlier.inStep (Device.inStep_ofSession _)
  exact ⟨fun haddr => hnext.authenticates hstep haddr, fun hnew => hcall.accepts hnext hnew,
    fun hold hlow => hcall.refuses hnext hold hlow⟩

end HandlingRun

/-! ## At the end of a block -/

namespace Sample

/-- A network in which the code of a frame is its counter. -/
def counting : Network where
  config := {}
  suite := ⟨fun _ block => block, fun _ block => block, fun _ text => Block.ofBytes (text.drop 10)⟩

/-- A device that counts in thirty-two bits, at the end of a block. -/
def wideRecord : SessionRecord := { record with fcntUp := 65534, wideCounter := true }

/-- A frame of the device with the code for a counter. -/
def counted (counter : UInt32) : DataUplink :=
  let plain := uplink .unconfirmedDataUp counter.toUInt16
  { plain with
    frame :=
      { plain.frame with
        mic := counting.suite.dataMic record.keys.network [] record.devAddr counter .up } }

/-- The frame is one that the device may send next. -/
theorem counted_continues {s : Session} {counter : UInt32} (howner : s.gatewayId = some "gateway")
    (hkeys : s.keys = record.keys) (hregion : s.region = .eu868) (hwide : s.wideCounter = true)
    (hlt : s.progress.fcntUp < counter)
    (hnear : counter.toNat ≤ s.progress.fcntUp.toNat + 16384) :
    (counted counter).Continues counting s counter where
  owned := .inr howner
  low := rfl
  lt := hlt
  near := hnear
  narrow hnarrow := by
    rw [hwide] at hnarrow
    cases hnarrow
  signed := by
    rw [hkeys]
    exact decide_eq_true rfl
  rate := by
    rw [hregion]
    rfl
  commands := by
    have hbytes : (counted counter).commandBytes counting s counter = [] := rfl
    rw [hbytes, MacCommand.decode]
    exact ⟨[], rfl⟩

end Sample

namespace HandlingRun

/-- The device counts on into the next block, since the one reset that was asked for is used up. -/
theorem next_uplink_accepted_in_next_block :
    let device := Device.ofSession (.ofRecord {}
      { Sample.wideRecord with resetDesired := some 1, resetReported := some 1 })
    let call := Handling.answeredBy Sample.counting (Sample.answers (.ok ())) device
      (Sample.counted 65536)
    call.uplink.Continues Sample.counting device.session 65536 ∧
      device.authenticates Sample.counting.suite call.uplink.frame = true ∧
      call.accepted Sample.counting = some 65536 ∧ call.after.session.progress.fcntUp = 65536 := by
  intro device call
  have hnext : call.uplink.Continues Sample.counting device.session 65536 :=
    Sample.counted_continues rfl rfl rfl rfl (by decide) (by decide)
  have hnew : ¬ DataUplink.LooksRestarted device.session 65536 := by decide
  obtain ⟨last, hrun⟩ : ∃ last, HandlingRun Sample.counting device ([] ++ [call]) last :=
    exists_answeredBy Sample.counting (Sample.answers (.ok ())) device [Sample.counted 65536]
  obtain ⟨hfound, haccepts, -⟩ := next_uplink_accepted hrun hnext
  obtain ⟨haccepted, hcount, -⟩ := haccepts hnew
  exact ⟨hnext, hfound rfl, haccepted, hcount⟩

/-- Not every uplink that a device may send next is accepted. If the device may restart, the first
frame of its next block is found to be its own, and then refused. -/
theorem exists_next_uplink_refused :
    ∃ call last, HandlingRun Sample.counting (.ofSession (.ofRecord {} Sample.wideRecord)) [call]
        last ∧
      call.uplink.Continues Sample.counting call.before.session 65536 ∧
      call.uplink.frame.devAddr = call.before.session.devAddr ∧
      call.before.authenticates Sample.counting.suite call.uplink.frame = true ∧
      call.accepted Sample.counting = none ∧
      call.result = .error ⟨.authenticationFailed, .authenticating⟩ ∧
      last.session.progress.fcntUp = 65534 := by
  let device := Device.ofSession (.ofRecord {} Sample.wideRecord)
  let call := Handling.answeredBy Sample.counting (Sample.answers (.ok ())) device
    (Sample.counted 65536)
  have hoccurs : call.Occurs Sample.counting := Handling.occurs_answeredBy _ _ _ _
  have hnext : call.uplink.Continues Sample.counting call.before.session 65536 :=
    Sample.counted_continues rfl rfl rfl rfl (by decide) (by decide)
  have hold : DataUplink.LooksRestarted call.before.session 65536 := by decide
  have hlow : call.uplink.frame.verifies Sample.counting.suite call.before.session.keys.network 0 =
      false := by decide +kernel
  obtain ⟨hresult, hafter⟩ := hoccurs.refuses hnext hold hlow
  have hstep : call.before.InStep := Device.inStep_ofSession _
  refine ⟨call, call.after, .cons hoccurs (.nil _), hnext, rfl, hnext.authenticates hstep rfl, ?_,
    hresult, ?_⟩
  · decide +kernel
  · rw [hafter]
    rfl

end HandlingRun

end LoraNetwork
