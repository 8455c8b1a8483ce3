import LoraNetwork.Proofs.Downlink.Placing
import LoraNetwork.Proofs.Uplink.Run

/-!
# When and where downlinks are sent

A device listens at certain times, on certain frequencies and at certain data rates, all of which its
session fixes. Whatever an uplink is answered with, be it assembled for the first time, sent again or
a bare acknowledgement, goes out when one of the windows opens and with the parameters that the
session's settings have for that window. Since the settings never change during a session, this
holds for all of its downlinks.
-/

namespace LoraNetwork

/-- When a window opens after data. -/
def ReceiveTiming.delay (timing : ReceiveTiming) : ReceiveWindow → Duration
  | .rx1 => timing.rx1
  | .rx2 => timing.rx2

/-- A downlink is sent when its window opens and with the parameters of that window, by the settings
of a session. -/
structure Session.Places (s : Session) (uplink : RadioMetadata) (downlink : Downlink) : Prop where
  /-- It is sent when its window opens. -/
  delay : downlink.delay = s.timing.delay downlink.window
  /-- It is sent with the parameters of its window. -/
  params : WindowParams.ofWindow s.region downlink.window uplink s.listening.rx1Offset
    s.listening.rx2DataRate =
      some ⟨downlink.frequency, downlink.dataRateIndex, downlink.dataRate⟩

namespace Session.Places

variable {s after : Session} {uplink : RadioMetadata} {downlink : Downlink}

/-- What a session does not change says all that matters. -/
theorem of_sameProfile (h : after.Places uplink downlink) (hprofile : s.SameProfile after) :
    s.Places uplink downlink := by
  unfold Session.SameProfile at hprofile
  rw [hprofile] at h
  exact ⟨h.delay, h.params⟩

/-- A downlink for a window is placed by the session whose timer and parameters are used. -/
theorem inWindow {timer : WindowTimer} {window : ReceiveWindow} {params : WindowParams}
    {payload : Bytes} {fcntDown : Option UInt32}
    (htimer : ∀ window, timer.delay window = s.timing.delay window)
    (hparams : WindowParams.ofWindow s.region window uplink s.listening.rx1Offset
      s.listening.rx2DataRate = some params) :
    s.Places uplink (.inWindow payload timer window params uplink fcntDown) :=
  ⟨htimer window, hparams⟩

end Session.Places

/-! ## One call -/

/-- The windows of an uplink open as its session's timing says. -/
theorem DataUplink.delay_timer (net : Network) (uplink : DataUplink) (s : Session)
    (window : ReceiveWindow) : (uplink.timer net s).delay window = s.timing.delay window := by
  cases window <;> rfl

namespace DataHandling

variable {net : Network} {timer : WindowTimer} {s : Session} {uplink : DataUplink}
variable {fcntUp n : UInt32} {window : ReceiveWindow} {params : WindowParams} {limit : Nat}
variable {commands : List MacCommand} {sent : Downlink} {result : Session × Processed}

/-- A place in a window comes with the parameters of the window. -/
theorem ofWindow_of_place (h : place s uplink window = some (params, limit)) :
    WindowParams.ofWindow s.region window uplink.metadata s.listening.rx1Offset
      s.listening.rx2DataRate = some params := by
  unfold place at h
  split at h
  · cases h
  · rename_i found hfound
    obtain ⟨_, -, hpair⟩ := Option.map_eq_some_iff.mp h
    rw [hfound, (Prod.mk.inj hpair).1]

/-- A first answer is placed by the session. -/
theorem Answered.places (h : Answered net timer s uplink fcntUp commands result)
    (htimer : ∀ window, timer.delay window = s.timing.delay window)
    (hsent : Downlink.ofResult result.2 = some sent) : s.Places uplink.metadata sent := by
  cases h with
  | silent silent =>
    rw [silent] at hsent
    cases hsent
  | drawn own delivered =>
    cases delivered with
    | wasted silent =>
      rw [silent] at hsent
      cases hsent
    | sent answer =>
      obtain ⟨window, params, limit, carried, pending, hplace, -, hdownlink⟩ := answer.assembled
      rw [← Option.some.inj hsent, hdownlink]
      exact .inWindow htimer (ofWindow_of_place hplace)

/-- The answer to a repeat is placed by the session. -/
theorem Repeated.places {kept : Confirmation} (h : Repeated net timer s uplink kept result)
    (htimer : ∀ window, timer.delay window = s.timing.delay window)
    (hsent : Downlink.ofResult result.2 = some sent) : s.Places uplink.metadata sent := by
  cases h with
  | silent silent | wasted own uncached silent =>
    rw [silent] at hsent
    cases hsent
  | replayed cached answer =>
    obtain ⟨window, params, hparams, hdownlink⟩ := answer.chosen
    rw [← Option.some.inj hsent, hdownlink]
    exact .inWindow htimer hparams
  | acknowledged own uncached answer =>
    obtain ⟨window, params, limit, hplace, -, hdownlink⟩ := answer.assembled
    rw [← Option.some.inj hsent, hdownlink]
    exact .inWindow htimer (ofWindow_of_place hplace)

/-- The answer to an uplink that is carried out is placed by the session. -/
theorem CarriedOut.places {device after : Device} {recorded : Session}
    {requests : List MacCommand} {events : List (Event dataInterface)}
    {result : Except UplinkFailure (Option Downlink)}
    (h : CarriedOut net device recorded uplink fcntUp requests events after result)
    (hsent : Downlink.ofResult result = some sent) : recorded.Places uplink.metadata sent := by
  obtain ⟨_, _, answered, -, hprocess, -, -, hresult⟩ := h.parts
  obtain ⟨commands, hanswered⟩ := (process_obeys.trace hprocess).2
  rw [hresult, Downlink.ofResult_mapError] at hsent
  have hprepared := hanswered.places (DataUplink.delay_timer net uplink _) hsent
  exact hprepared.of_sameProfile (sameUplink_prepared net recorded uplink fcntUp).profile

end DataHandling

open DataHandling in
/-- What a call sends is placed by the session of the device. -/
theorem Handling.Occurs.places {net : Network} {call : Handling} {sent : Downlink}
    (h : call.Occurs net) (hsent : call.downlink = some sent) :
    call.before.session.Places call.uplink.metadata sent := by
  obtain ⟨before, uplink, events, after, result⟩ := call
  have hhandled := trace_handle h
  dsimp only [Handling.downlink] at hhandled hsent ⊢
  cases hhandled with
  | refused | replay | unsaved => cases hsent
  | repeated examined answer write =>
    rw [Downlink.ofResult_mapError] at hsent
    have hrepeated := (resubmit_obeys.trace answer).2
    exact (hrepeated.places (DataUplink.delay_timer net uplink _) hsent).of_sameProfile rfl
  | restarted examined tells carried => exact (carried.places hsent).of_sameProfile rfl
  | accepted examined carried => exact (carried.places hsent).of_sameProfile rfl

/-! ## Runs -/

namespace HandlingRun

variable {net : Network} {start last : Device} {calls : List Handling}

/-- All downlinks of a session are placed by the settings that it starts with. -/
theorem places (run : HandlingRun net start calls last) {call : Handling} (hmem : call ∈ calls)
    {sent : Downlink} (hsent : call.downlink = some sent) :
    start.session.Places call.uplink.metadata sent := by
  obtain ⟨earlier, later, rfl⟩ := List.append_of_mem hmem
  obtain ⟨middle, hearlier, hlater⟩ := append_iff.mp run
  cases hlater with
  | cons first rest => exact (first.places hsent).of_sameProfile hearlier.sameProfile

end HandlingRun

end LoraNetwork
