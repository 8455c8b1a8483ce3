import LoraNetwork.Proofs.Uplink.Replay

/-!
# Repeats of a confirmed uplink

A device repeats a confirmed uplink until it hears an answer. From the acceptance of the uplink, or
the restart that it brought, to the next counter that is recorded, the session keeps how many repeats
have come and what was sent. Every repeat is counted, answered or not; past the ceiling it fails and
nothing is done for it. Whatever was sent first is sent each time, and once something was sent no
further downlink counter is taken. Frames that are rejected in between change nothing.

What a repeat that was never answered gets, and whether it fits its window, is not covered here.
-/

namespace LoraNetwork

/-- The request asks for a downlink counter. -/
def Request.allocates : Request → Bool
  | allocate .. => true
  | _ => false

/-- The operation asks for a downlink counter. -/
def DataOperation.allocates : DataOperation → Bool
  | call request | race request _ => request.allocates
  | clock | wallClock | announce _ => false

/-- The session expects repeats of the uplink with a counter. So many have come, and this was sent,
if anything was. -/
structure Session.Expects (s : Session) (counter : UInt32) (repeats : Nat)
    (sent : Option CachedDownlink) : Prop where
  /-- The answer is kept with the number of repeats. -/
  confirmation : s.confirmation = some ⟨counter, sent, UInt32.ofNat repeats⟩
  /-- No other counter was recorded since. -/
  fcntUp : s.progress.fcntUp = counter

/-- The downlink has the payload and the counter of one that was kept. -/
def Downlink.Renders (downlink : Downlink) (kept : CachedDownlink) : Prop :=
  downlink.payload = kept.payload ∧ downlink.fcntDown = some kept.fcntDown

/-- What was sent is kept: what was kept before still is, and a downlink is what is kept now. -/
structure Retains (before after : Option CachedDownlink) (downlink : Option Downlink) : Prop where
  /-- What was kept before is kept. -/
  keeps : ∀ kept, before = some kept → after = some kept
  /-- What is sent is kept. -/
  shows : ∀ d, downlink = some d → ∃ kept, after = some kept ∧ d.Renders kept

/-- When nothing is sent, the same is kept. -/
theorem Retains.of_silent {kept : Option CachedDownlink} {downlink : Option Downlink}
    (h : downlink = none) : Retains kept kept downlink where
  keeps _ := id
  shows d hd := by
    rw [h] at hd
    cases hd

/-- What was kept before is kept. -/
theorem Retains.isSome_of_before {before after : Option CachedDownlink} {downlink : Option Downlink}
    (h : Retains before after downlink) (hsome : before.isSome = true) : after.isSome = true := by
  obtain ⟨kept, hkept⟩ := Option.isSome_iff_exists.mp hsome
  exact Option.isSome_iff_exists.mpr ⟨kept, h.keeps kept hkept⟩

/-- What is sent is kept. -/
theorem Retains.isSome_of_downlink {before after : Option CachedDownlink}
    {downlink : Option Downlink} (h : Retains before after downlink)
    (hsome : downlink.isSome = true) : after.isSome = true := by
  obtain ⟨d, hd⟩ := Option.isSome_iff_exists.mp hsome
  obtain ⟨kept, hkept, -⟩ := h.shows d hd
  exact Option.isSome_iff_exists.mpr ⟨kept, hkept⟩

/-- What is kept later was kept since. -/
theorem Retains.trans {before middle after : Option CachedDownlink} {downlink : Option Downlink}
    (h : Retains before middle downlink) (hlater : Retains middle after none) :
    Retains before after downlink where
  keeps kept hkept := hlater.keeps kept (h.keeps kept hkept)
  shows d hd := by
    obtain ⟨kept, hkept, hrenders⟩ := h.shows d hd
    exact ⟨kept, hlater.keeps kept hkept, hrenders⟩

namespace Handling

/-- The uplink repeats the one with a counter, and passed the examination. -/
def repeats (net : Network) (counter : UInt32) (call : Handling) : Bool :=
  call.verdict net = some (.resubmit counter)

/-- The call took no downlink counter and asked for none. -/
structure TakesNoCounter (call : Handling) : Prop where
  /-- The next counter stays. -/
  count : call.after.session.progress.fcntDown = call.before.session.progress.fcntDown
  /-- The store is not asked for one. -/
  unasked : ∀ event ∈ call.events, event.op.allocates = false

/-- The call refused a repeat for being one too many. -/
def Exceeds (call : Handling) : Prop :=
  call.result = .error ⟨.resubmitThresholdExceeded, .processing⟩

end Handling

namespace DataHandling

open Program

variable {net : Network} {s after : Session} {uplink : DataUplink} {counter : UInt32} {n : Nat}
variable {sent : Option CachedDownlink} {events : List (Event dataInterface)}
variable {result : Session × Processed}

/-! ## One repeat -/

/-- A repeat is counted. -/
theorem countRepeat_eq (h : s.Expects counter n sent) :
    countRepeat s counter = ⟨counter, sent, UInt32.ofNat (n + 1)⟩ := by
  rw [countRepeat, h.confirmation]
  dsimp only
  rw [if_pos rfl, UInt32.ofNat_add]
  rfl

/-- A repeat past the ceiling is counted and refused, and nothing is asked for it. -/
theorem resubmit_exceeded (h : net.config.maxResubmits < (countRepeat s counter).resubmits) :
    (resubmit net s uplink counter).Obeys (· = DataOperation.clock) fun result =>
      result = (counted s counter, .error .resubmitThresholdExceeded) := by
  unfold resubmit
  dsimp only
  rw [if_pos h]
  exact obeys_done.mpr rfl

/-- An acknowledgement fails for other reasons than being one too many. -/
theorem acknowledge_not_exceeded {timer : WindowTimer} {kept : Confirmation}
    {window : ReceiveWindow} {params : WindowParams} :
    (acknowledge net timer s uplink counter kept window params).Obeys (fun _ => True) fun result =>
      result.2 ≠ .error .resubmitThresholdExceeded := by
  refine obeys_bind.mpr ((obeys_true _).mono (fun _ h => h) fun drawn _ => ?_)
  obtain ⟨s, allocation⟩ := drawn
  cases allocation with
  | elsewhere | failed | late => exact obeys_done.mpr (by simp)
  | granted n =>
    dsimp only
    split
    · exact obeys_done.mpr (by simp)
    · split <;> exact obeys_done.mpr (by simp)

/-- Up to the ceiling a repeat is not refused for being one too many. -/
theorem resubmit_not_exceeded (h : ¬ net.config.maxResubmits < (countRepeat s counter).resubmits) :
    (resubmit net s uplink counter).Obeys (fun _ => True) fun result =>
      result.2 ≠ .error .resubmitThresholdExceeded := by
  unfold resubmit
  dsimp only
  rw [if_neg h]
  refine obeys_bind.mpr (obeys_clock.mpr ⟨trivial, fun now => ?_⟩)
  split
  · exact obeys_done.mpr (by simp)
  · split
    · exact obeys_done.mpr (by simp)
    · split
      · exact obeys_done.mpr (by simp)
      · exact acknowledge_not_exceeded

/-- A repeat fails for being one too many when the ceiling lies below its number. -/
theorem resubmit_exceeds_iff (h : (resubmit net s uplink counter).Trace events result) :
    result.2 = .error .resubmitThresholdExceeded ↔
      net.config.maxResubmits < (countRepeat s counter).resubmits := by
  constructor
  · intro hresult
    refine Decidable.byContradiction fun hceiling => ?_
    exact ((resubmit_not_exceeded hceiling).trace h).2 hresult
  · intro hceiling
    rw [((resubmit_exceeded hceiling).trace h).2]

/-- A repeat of what was answered is counted, and nothing but the time is asked for it. -/
theorem resubmit_answered {kept : CachedDownlink}
    (h : (countRepeat s counter).downlink = some kept) :
    (resubmit net s uplink counter).Obeys (· = DataOperation.clock) fun result =>
      result.1 = counted s counter := by
  unfold resubmit
  dsimp only
  split
  · exact obeys_done.mpr rfl
  · refine obeys_bind.mpr (obeys_clock.mpr ⟨rfl, fun now => ?_⟩)
    split
    · exact obeys_done.mpr rfl
    · split
      · exact obeys_done.mpr rfl
      · rw [h]
        exact obeys_done.mpr rfl

/-- A repeat keeps the number of repeats and what was sent, be it now or earlier. -/
theorem Repeated.retains {timer : WindowTimer} {kept : Confirmation} {result : Session × Processed}
    (h : Repeated net timer s uplink kept result) (hkept : s.confirmation = some kept) :
    ∃ sent, result.1.confirmation = some { kept with downlink := sent } ∧
      Retains kept.downlink sent (Downlink.ofResult result.2) := by
  cases h with
  | silent silent => exact ⟨kept.downlink, hkept, .of_silent silent⟩
  | wasted own uncached silent => exact ⟨kept.downlink, hkept, .of_silent silent⟩
  | @replayed sent downlink cached answer =>
    obtain ⟨window, params, -, hdownlink⟩ := answer.chosen
    refine ⟨kept.downlink, hkept, fun _ h => h, fun d hd => ⟨sent, cached, ?_⟩⟩
    rw [← Option.some.inj hd, hdownlink]
    exact ⟨rfl, rfl⟩
  | @acknowledged n downlink own uncached answer =>
    refine ⟨some ⟨downlink.payload, n⟩, rfl, ?_, fun d hd => ⟨_, rfl, ?_⟩⟩
    · rw [uncached]
      exact nofun
    · rw [← Option.some.inj hd]
      exact ⟨rfl, answer.fcntDown⟩

/-- A first answer keeps what was sent, if the uplink may be repeated. -/
theorem Answered.retains {timer : WindowTimer} {commands : List MacCommand}
    {result : Session × Processed} (h : Answered net timer s uplink counter commands result)
    (hconfirmed : uplink.confirmed = true) (hnone : s.confirmation = some ⟨counter, none, 0⟩) :
    ∃ sent, result.1.confirmation = some ⟨counter, sent, 0⟩ ∧
      Retains none sent (Downlink.ofResult result.2) := by
  cases h with
  | silent silent => exact ⟨none, hnone, .of_silent silent⟩
  | @drawn n _ own delivered =>
    cases delivered with
    | wasted silent => exact ⟨none, hnone, .of_silent silent⟩
    | @sent downlink answer =>
      refine ⟨some ⟨downlink.payload, n⟩, ?_, nofun, fun d hd => ⟨_, rfl, ?_⟩⟩
      · simp [remember, hconfirmed]
      · rw [← Option.some.inj hd]
        exact ⟨rfl, answer.fcntDown⟩

/-- A confirmed uplink that was carried out is kept with what was sent for it. -/
theorem CarriedOut.retains {device ended : Device} {recorded : Session}
    {requests : List MacCommand} {outcome : Except UplinkFailure (Option Downlink)}
    (h : CarriedOut net device recorded uplink counter requests events ended outcome)
    (hconfirmed : uplink.confirmed = true) :
    ∃ sent, ended.session.confirmation = some ⟨counter, sent, 0⟩ ∧
      Retains none sent (Downlink.ofResult outcome) := by
  obtain ⟨_, _, answered, -, hprocess, hpersist, -, houtcome⟩ := h.parts
  obtain ⟨commands, hanswered⟩ := (process_obeys.trace hprocess).2
  have hprepared : (prepared net recorded uplink counter).confirmation =
      some ⟨counter, none, 0⟩ := by
    rw [prepared_eq, hconfirmed]
    rfl
  obtain ⟨sent, hsent, hretains⟩ := hanswered.retains hconfirmed hprepared
  refine ⟨sent, (persist_trace hpersist).2.trans hsent, ?_⟩
  rwa [houtcome, Downlink.ofResult_mapError]

/-- A write at the end asks for no counter. -/
theorem allocates_persist {forced : Bool} {saved : Session}
    (h : (persist net s forced).Trace events saved) :
    ∀ event ∈ events, event.op.allocates = false := by
  intro event hmem
  rw [(persist_obeys.trace h).1 event hmem]
  rfl

/-- A repeat that is only counted takes no counter. -/
theorem takesNoCounter_of_counted {device : Device} {answering writing : List (Event dataInterface)}
    {answered : Session × Processed} {saved : Session} {forced : Bool}
    {ended : Except UplinkFailure (Option Downlink)}
    (h : (resubmit net device.session uplink counter).Obeys (· = DataOperation.clock)
      fun result => result.1 = counted device.session counter)
    (answer : (resubmit net device.session uplink counter).Trace answering answered)
    (write : (persist net answered.1 forced).Trace writing saved) :
    Handling.TakesNoCounter
      ⟨device, uplink, answering ++ writing, { device with session := saved }, ended⟩ := by
  obtain ⟨hclock, hcounted⟩ := h.trace answer
  constructor
  · dsimp only
    rw [(persist_trace write).1, hcounted]
    rfl
  · intro event hmem
    rcases List.mem_append.mp hmem with hmem | hmem
    · rw [hclock event hmem]
      rfl
    · exact allocates_persist write event hmem

end DataHandling

namespace Handling

open DataHandling

variable {net : Network} {call : Handling} {counter : UInt32} {n : Nat}
variable {sent : Option CachedDownlink}

/-- A call that records nothing, after so many repeats, with what was sent before it and what is
kept after it. -/
structure Passes (net : Network) (counter : UInt32) (n : Nat) (sent kept : Option CachedDownlink)
    (call : Handling) : Prop where
  /-- A repeat is counted, and only a repeat. -/
  expects : call.after.session.Expects counter (n + [call].countP (repeats net counter)) kept
  /-- What was sent is kept. -/
  retains : Retains sent kept call.downlink
  /-- Once something was sent no counter is taken. -/
  settled : sent.isSome = true → call.TakesNoCounter
  /-- A repeat fails for being one too many when it is. -/
  ceiling : call.repeats net counter = true → n + 1 < UInt32.size →
    (call.Exceeds ↔ net.config.maxResubmits.toNat < n + 1)
  /-- Then it takes no counter. -/
  exceeded : call.Exceeds → call.TakesNoCounter
  /-- A frame that is no repeat is rejected without a trace. -/
  rejected : call.repeats net counter = false → call.after = call.before

/-- A frame that is rejected passes. -/
theorem Passes.of_rejected (hexpects : call.before.session.Expects counter n sent)
    (hrepeats : call.repeats net counter = false) (hafter : call.after = call.before)
    (hdownlink : call.downlink = none) (hevents : ∀ event ∈ call.events, event.op.allocates = false)
    (hexceeds : ¬ call.Exceeds) : call.Passes net counter n sent sent where
  expects := by
    rw [hafter, List.countP_singleton, hrepeats]
    exact hexpects
  retains := .of_silent hdownlink
  settled _ := ⟨by rw [hafter], hevents⟩
  ceiling h := by
    rw [hrepeats] at h
    cases h
  exceeded h := absurd h hexceeds
  rejected _ := hafter

/-- A result that failed while the uplink was processed, for being one repeat too many. -/
theorem exceeds_iff_of_mapError {result : Processed}
    (h : call.result = result.mapError fun reason => ⟨reason, .processing⟩) :
    call.Exceeds ↔ result = .error .resubmitThresholdExceeded := by
  rw [Exceeds, h]
  cases result with
  | ok => exact ⟨nofun, nofun⟩
  | error reason =>
    constructor
    · intro hfailed
      exact congrArg _ (UplinkFailure.mk.inj (Except.error.inj hfailed)).1
    · intro hreason
      rw [Except.error.inj hreason]
      rfl

/-- A repeat passes. -/
theorem passes_of_repeated {device : Device} {uplink : DataUplink} {repeated : UInt32}
    {requests : List MacCommand} {answering writing : List (Event dataInterface)}
    {answered : Session × Processed} {saved : Session} {forced : Bool}
    (examined : uplink.examine net device.session = .ok ⟨.resubmit repeated, requests⟩)
    (answer : (resubmit net device.session uplink repeated).Trace answering answered)
    (write : (persist net answered.1 forced).Trace writing saved)
    (hexpects : device.session.Expects counter n sent) :
    ∃ kept, Passes net counter n sent kept
      ⟨device, uplink, answering ++ writing, { device with session := saved },
        answered.2.mapError fun reason => ⟨reason, .processing⟩⟩ := by
  obtain rfl : repeated = counter :=
    (DataUplink.eq_of_examine_resubmit examined).trans hexpects.fcntUp
  have hcount := countRepeat_eq hexpects
  have hexceeds := resubmit_exceeds_iff answer
  obtain ⟨kept, hkept, hretains⟩ := (resubmit_obeys.trace answer).2.retains rfl
  rw [hcount] at hkept hretains
  have hsame : device.session.SameUplink saved :=
    (sameUplink_resubmit answer).trans (sameUplink_persist write)
  have hrepeats : repeats net repeated ⟨device, uplink, answering ++ writing,
      { device with session := saved },
      answered.2.mapError fun reason => ⟨reason, .processing⟩⟩ = true := by
    simp [repeats, verdict, examined]
  refine ⟨kept, ?_, ?_, ?_, ?_, ?_, ?_⟩
  · rw [List.countP_singleton, if_pos hrepeats]
    exact ⟨(persist_trace write).2.trans hkept, hsame.fcntUp.trans hexpects.fcntUp⟩
  · rwa [downlink, Downlink.ofResult_mapError]
  · intro hsome
    obtain ⟨shown, rfl⟩ := Option.isSome_iff_exists.mp hsome
    exact takesNoCounter_of_counted (resubmit_answered (by rw [hcount])) answer write
  · intro _ hbound
    rw [exceeds_iff_of_mapError rfl, hexceeds, hcount, UInt32.lt_iff_toNat_lt,
      UInt32.toNat_ofNat_of_lt' hbound]
  · intro hexceeded
    have hceiling := hexceeds.mp ((exceeds_iff_of_mapError rfl).mp hexceeded)
    refine takesNoCounter_of_counted ?_ answer write
    exact (resubmit_exceeded hceiling).mono (fun _ h => h) fun _ hresult => by rw [hresult]
  · intro hfalse
    rw [hrepeats] at hfalse
    cases hfalse

/-- Every call that records nothing passes, if repeats are expected. -/
theorem Occurs.passes (h : call.Occurs net) (hnone : call.recorded net = none)
    (hexpects : call.before.session.Expects counter n sent) :
    ∃ kept, call.Passes net counter n sent kept := by
  obtain ⟨before, uplink, events, after, result⟩ := call
  have hhandled := trace_handle h
  dsimp only at hhandled hexpects
  cases hhandled with
  | refused examined =>
    exact ⟨sent, .of_rejected hexpects (by simp [repeats, verdict, examined]) rfl rfl (by simp)
      (by simp [Exceeds])⟩
  | replay examined =>
    exact ⟨sent, .of_rejected hexpects (by simp [repeats, verdict, examined]) rfl rfl (by simp)
      (by simp [Exceeds])⟩
  | unsaved examined =>
    refine ⟨sent, .of_rejected hexpects (by simp [repeats, verdict, examined]) rfl rfl ?_
      (by simp [Exceeds])⟩
    intro event hmem
    rw [List.mem_singleton.mp hmem]
    rfl
  | restarted examined tells carried =>
    simp [recorded, accepted, honoured, verdict, examined, startsWithWrite, restartWrite] at hnone
  | accepted examined carried =>
    simp [recorded, Handling.accepted, verdict, examined] at hnone
  | repeated examined answer write => exact passes_of_repeated examined answer write hexpects

/-- The call that records a confirmed uplink leaves its session in expectation of repeats. -/
theorem Occurs.opens (h : call.Occurs net) (hrecorded : call.recorded net = some counter)
    (hconfirmed : call.uplink.confirmed = true) :
    ∃ kept, call.after.session.Expects counter 0 kept ∧ Retains none kept call.downlink := by
  have hfcntUp := h.counts.fcntUp
  rw [hrecorded, Option.getD_some] at hfcntUp
  obtain ⟨before, uplink, events, after, result⟩ := call
  have hhandled := trace_handle h
  dsimp only [downlink] at hhandled hconfirmed ⊢
  cases hhandled with
  | refused examined => simp [recorded, accepted, honoured, verdict, examined] at hrecorded
  | replay examined => simp [recorded, accepted, honoured, verdict, examined] at hrecorded
  | repeated examined => simp [recorded, accepted, honoured, verdict, examined] at hrecorded
  | unsaved examined =>
    simp [recorded, accepted, honoured, verdict, examined, startsWithWrite, restartWrite]
      at hrecorded
  | @restarted restarted _ _ _ _ _ examined tells carried =>
    obtain rfl : restarted = counter := carried.sameUplink.fcntUp.symm.trans hfcntUp
    obtain ⟨sent, hsent, hretains⟩ := carried.retains hconfirmed
    exact ⟨sent, ⟨hsent, hfcntUp⟩, hretains⟩
  | @accepted accepted _ _ _ _ examined carried =>
    obtain rfl : accepted = counter := carried.sameUplink.fcntUp.symm.trans hfcntUp
    obtain ⟨sent, hsent, hretains⟩ := carried.retains hconfirmed
    exact ⟨sent, ⟨hsent, hfcntUp⟩, hretains⟩

end Handling

/-! ## Runs -/

/-- How the repeats of an uplink are answered, from the call that recorded it over a period in which
no other counter is recorded. -/
structure AnsweredAlike (net : Network) (counter : UInt32) (first : Handling)
    (period : List Handling) : Prop where
  /-- The repeats past the ceiling fail, and no others fail for being one too many. -/
  ceiling : ∀ earlier call later, period = earlier ++ call :: later →
    call.repeats net counter = true →
      earlier.countP (Handling.repeats net counter) + 1 < UInt32.size →
      (call.Exceeds ↔
        net.config.maxResubmits.toNat < earlier.countP (Handling.repeats net counter) + 1)
  /-- Nothing is taken or sent for them. -/
  exceeded : ∀ call ∈ period, call.Exceeds → call.TakesNoCounter ∧ call.downlink = none
  /-- Whatever is sent for the uplink is the same each time. -/
  alike : ∀ one ∈ first :: period, ∀ other ∈ first :: period, ∀ d d', one.downlink = some d →
    other.downlink = some d' → d.payload = d'.payload ∧ d.fcntDown = d'.fcntDown
  /-- Once something was sent no further counter is taken. -/
  settled : (first :: period).Pairwise fun call other =>
    call.downlink.isSome = true → other.TakesNoCounter
  /-- The uplink counter stays, and no telemetry is sent. -/
  silent : ∀ call ∈ period, call.after.session.progress.fcntUp = counter ∧
    telemetryCounters call.events = []
  /-- A frame that is no repeat is rejected without a trace. -/
  rejected : ∀ call ∈ period, call.repeats net counter = false → call.after = call.before

namespace HandlingRun

open Handling

variable {net : Network} {start last : Device} {calls period later : List Handling}
variable {first : Handling} {counter : UInt32} {n : Nat} {sent : Option CachedDownlink}

/-- While nothing is recorded, repeats are counted and what was sent is kept. -/
theorem expects (run : HandlingRun net start calls last)
    (hnone : ∀ call ∈ calls, call.recorded net = none)
    (hexpects : start.session.Expects counter n sent) :
    ∃ kept, last.session.Expects counter (n + calls.countP (repeats net counter)) kept ∧
      Retains sent kept none ∧ ∀ call ∈ calls, Retains none kept call.downlink := by
  induction run generalizing n sent with
  | nil device => exact ⟨sent, hexpects, .of_silent rfl, by simp⟩
  | @cons call calls last first rest ih =>
    obtain ⟨middle, hpasses⟩ := first.passes (hnone call List.mem_cons_self) hexpects
    obtain ⟨kept, hkept, hlater, hcalls⟩ :=
      ih (fun other hmem => hnone other (List.mem_cons_of_mem _ hmem)) hpasses.expects
    refine ⟨kept, ?_, ⟨fun k hk => hlater.keeps k (hpasses.retains.keeps k hk), nofun⟩, ?_⟩
    · rwa [← List.singleton_append, List.countP_append, ← Nat.add_assoc]
    · intro other hmem
      rcases List.mem_cons.mp hmem with rfl | hmem
      · have hkeeps : Retains none middle other.downlink := ⟨nofun, hpasses.retains.shows⟩
        exact hkeeps.trans hlater
      · exact hcalls other hmem

/-- While nothing is recorded, no counter is taken once something was sent. -/
theorem settled (run : HandlingRun net start calls last)
    (hnone : ∀ call ∈ calls, call.recorded net = none)
    (hexpects : start.session.Expects counter n sent) :
    (sent.isSome = true → ∀ call ∈ calls, call.TakesNoCounter) ∧
      calls.Pairwise fun call other => call.downlink.isSome = true → other.TakesNoCounter := by
  induction run generalizing n sent with
  | nil device => simp
  | @cons call calls last first rest ih =>
    obtain ⟨middle, hpasses⟩ := first.passes (hnone call List.mem_cons_self) hexpects
    obtain ⟨hcalls, hpairwise⟩ :=
      ih (fun other hmem => hnone other (List.mem_cons_of_mem _ hmem)) hpasses.expects
    refine ⟨fun hsome other hmem => ?_, List.pairwise_cons.mpr ⟨fun other hmem hsome => ?_,
      hpairwise⟩⟩
    · rcases List.mem_cons.mp hmem with rfl | hmem
      · exact hpasses.settled hsome
      · exact hcalls (hpasses.retains.isSome_of_before hsome) other hmem
    · exact hcalls (hpasses.retains.isSome_of_downlink hsome) other hmem

/-- A call of a period in which nothing is recorded passes, after the repeats before it. -/
theorem passes {earlier : List Handling} {call : Handling}
    (run : HandlingRun net start (earlier ++ call :: later) last)
    (hnone : ∀ other ∈ earlier ++ call :: later, other.recorded net = none)
    (hexpects : start.session.Expects counter n sent) :
    ∃ middle kept,
      call.Passes net counter (n + earlier.countP (repeats net counter)) middle kept := by
  obtain ⟨device, hearlier, hcalls⟩ := append_iff.mp run
  obtain ⟨middle, hmiddle, -⟩ :=
    hearlier.expects (fun other hmem => hnone other (List.mem_append_left _ hmem)) hexpects
  cases hcalls with
  | cons occurs rest =>
    obtain ⟨kept, hpasses⟩ := occurs.passes (hnone call (by simp)) hmiddle
    exact ⟨middle, kept, hpasses⟩

/-- Repeats are answered alike. In every run, from the call that recorded a confirmed uplink and as
long as no other counter is recorded, its repeats are counted whatever becomes of them: those past
the ceiling fail, and take and send nothing. All that is sent for the uplink is one payload under
one counter, and once it was sent no further counter is taken. The uplink counter stays, and no
telemetry is sent. -/
theorem repeats_answered_alike {earlier : List Handling}
    (run : HandlingRun net start (earlier ++ first :: (period ++ later)) last)
    (hfirst : first.recorded net = some counter) (hconfirmed : first.uplink.confirmed = true)
    (hperiod : ∀ call ∈ period, call.recorded net = none) :
    AnsweredAlike net counter first period := by
  obtain ⟨_, -, hrun⟩ := append_iff.mp run
  cases hrun with
  | cons occurs rest =>
    obtain ⟨_, hrepeats, -⟩ := append_iff.mp rest
    obtain ⟨sent, hexpects, hsent⟩ := occurs.opens hfirst hconfirmed
    obtain ⟨kept, -, hkept, hcalls⟩ := hrepeats.expects hperiod hexpects
    have hshows : ∀ call ∈ first :: period, Retains none kept call.downlink := by
      intro call hmem
      rcases List.mem_cons.mp hmem with rfl | hmem
      · exact hsent.trans hkept
      · exact hcalls call hmem
    constructor
    case ceiling =>
      rintro before call after rfl hrepeated hbound
      obtain ⟨_, _, hpasses⟩ := hrepeats.passes hperiod hexpects
      rw [Nat.zero_add] at hpasses
      exact hpasses.ceiling hrepeated hbound
    case exceeded =>
      intro call hmem hexceeds
      obtain ⟨before, after, rfl⟩ := List.append_of_mem hmem
      obtain ⟨_, _, hpasses⟩ := hrepeats.passes hperiod hexpects
      refine ⟨hpasses.exceeded hexceeds, ?_⟩
      rw [downlink, hexceeds]
      rfl
    case alike =>
      intro one hone other hother d d' hd hd'
      obtain ⟨shown, hshown, hpayload, hcount⟩ := (hshows one hone).shows d hd
      obtain ⟨shown', hshown', hpayload', hcount'⟩ := (hshows other hother).shows d' hd'
      rw [hshown] at hshown'
      obtain rfl := Option.some.inj hshown'
      exact ⟨hpayload.trans hpayload'.symm, hcount.trans hcount'.symm⟩
    case settled =>
      obtain ⟨hquiet, hpairwise⟩ := hrepeats.settled hperiod hexpects
      exact List.pairwise_cons.mpr
        ⟨fun other hmem hsome => hquiet (hsent.isSome_of_downlink hsome) other hmem, hpairwise⟩
    case silent =>
      intro call hmem
      have htelemetry := (hrepeats.occurs call hmem).counts.telemetry
      rw [hperiod call hmem] at htelemetry
      obtain ⟨before, after, rfl⟩ := List.append_of_mem hmem
      obtain ⟨_, _, hpasses⟩ := hrepeats.passes hperiod hexpects
      exact ⟨hpasses.expects.fcntUp, by simpa using htelemetry⟩
    case rejected =>
      intro call hmem hrepeated
      obtain ⟨before, after, rfl⟩ := List.append_of_mem hmem
      obtain ⟨_, _, hpasses⟩ := hrepeats.passes hperiod hexpects
      exact hpasses.rejected hrepeated

/-- With a ceiling of one, a device repeats a confirmed uplink twice and sends the next one. The
frame between the repeats has the same counter but asks for nothing, and is rejected. -/
theorem repeats_answered_alike_up_to_next :
    let net : Network := { Sample.network with config := { maxResubmits := 1 } }
    let calls := answeredBy net (Sample.answers (.ok ())) Sample.device
      [Sample.uplink .confirmedDataUp 5, Sample.uplink .confirmedDataUp 5,
        Sample.uplink .unconfirmedDataUp 5, Sample.uplink .confirmedDataUp 5,
        Sample.uplink .confirmedDataUp 6]
    calls.map (Handling.recorded net) = [some 5, none, none, none, some 6] ∧
      calls.map (Handling.repeats net 5) = [false, true, false, true, false] ∧
      (calls.map fun call => call.downlink.map Downlink.fcntDown) =
        [some (some 7), some (some 7), none, none, some (some 8)] ∧
      ∃ first period later, calls = first :: (period ++ later) ∧ period.length = 3 ∧
        AnsweredAlike net 5 first period := by
  intro net calls
  obtain ⟨last, hrun⟩ := exists_answeredBy net (Sample.answers (.ok ())) Sample.device
    [Sample.uplink .confirmedDataUp 5, Sample.uplink .confirmedDataUp 5,
      Sample.uplink .unconfirmedDataUp 5, Sample.uplink .confirmedDataUp 5,
      Sample.uplink .confirmedDataUp 6]
  let first := Handling.answeredBy net (Sample.answers (.ok ())) Sample.device
    (Sample.uplink .confirmedDataUp 5)
  have hsplit : calls = [] ++ first :: (calls.tail.take 3 ++ calls.tail.drop 3) := by
    rw [List.take_append_drop]
    rfl
  have hcalls : HandlingRun net Sample.device
      ([] ++ first :: (calls.tail.take 3 ++ calls.tail.drop 3)) last := hsplit ▸ hrun
  exact ⟨by decide +kernel, by decide +kernel, by decide +kernel, first, _, _, hsplit, rfl,
    repeats_answered_alike hcalls (by decide +kernel) rfl (by decide +kernel)⟩

end HandlingRun

end LoraNetwork
