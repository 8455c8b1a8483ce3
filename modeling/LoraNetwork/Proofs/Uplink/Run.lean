import LoraNetwork.Proofs.Uplink.Processing

/-!
# Runs of handled uplinks

One call of the handler is a trace from a device and an uplink to the device afterwards and a
result. `Handled` lists the six ways such a call can go, and a run is any number of calls on one
device, one after the other. Frames, times and answers are arbitrary throughout.
-/

namespace LoraNetwork

namespace DataHandling

open Program

variable {net : Network} {device : Device} {s : Session} {uplink : DataUplink}
variable {fcntUp : UInt32} {requests : List MacCommand} {events : List (Event dataInterface)}

/-- The session that honoured a restart, once the store holds it. -/
def restarted (s : Session) (counter : UInt32) : Session :=
  (s.restart counter).written (restartDelta (s.restart counter))

/-- The write of a restart and its answer. -/
def restartWrite (s : Session) (counter : UInt32) (answer : Except StoreError Unit) :
    Event dataInterface :=
  ⟨.call (.persist s.devEui (restartDelta (s.restart counter))), answer⟩

/-- A request about a device to drop what is cached for the allocation of its counters. -/
def DropsAllocation (eui : Eui64) (event : Event dataInterface) : Prop :=
  ∃ generation gateway, event.op = .call (.resetAllocation eui generation gateway)

/-- A restart writes to the store first. If that fails nothing else happens; if it succeeds the
session starts again, and at most the allocation of counters is told. -/
theorem trace_restart {result : Option Session}
    (h : (restart net s fcntUp).Trace events result) :
    (∃ error, events = [restartWrite s fcntUp (.error error)] ∧ result = none) ∨
      ∃ told, events = restartWrite s fcntUp (.ok ()) :: told ∧
        (∀ event ∈ told, DropsAllocation s.devEui event) ∧
        result = some (restarted s fcntUp) := by
  obtain ⟨answer, first, second, hwrite, hrest, rfl⟩ := trace_bind.mp h
  obtain ⟨answer', later, rfl, hdone⟩ := trace_perform.mp hwrite
  obtain ⟨rfl, rfl⟩ := trace_done.mp hdone
  cases answer with
  | error error =>
    obtain ⟨rfl, rfl⟩ := trace_done.mp hrest
    exact .inl ⟨error, rfl, rfl⟩
  | ok _ =>
    dsimp only at hrest
    split at hrest
    · obtain ⟨rfl, rfl⟩ := trace_done.mp hrest
      exact .inr ⟨[], rfl, by simp, rfl⟩
    · obtain ⟨told, third, fourth, htell, hend, rfl⟩ := trace_bind.mp hrest
      obtain ⟨told', later', rfl, hdone'⟩ := trace_perform.mp htell
      obtain ⟨rfl, rfl⟩ := trace_done.mp hdone'
      obtain ⟨rfl, rfl⟩ := trace_done.mp hend
      refine .inr ⟨[⟨.call (.resetAllocation s.devEui (restarted s fcntUp).progress.resetReported
        net.config.gatewayId), told⟩], rfl, ?_, rfl⟩
      intro event hmem
      rw [List.mem_singleton.mp hmem]
      exact ⟨_, _, rfl⟩

/-- What carrying out an uplink does: it announces the counter, processes the uplink and writes the
session. -/
structure CarriedOut (net : Network) (device : Device) (recorded : Session) (uplink : DataUplink)
    (counter : UInt32) (requests : List MacCommand) (events : List (Event dataInterface))
    (after : Device) (result : Except UplinkFailure (Option Downlink)) : Prop where
  /-- The parts, in order. -/
  parts : ∃ processing writing answered,
    events = ⟨.announce counter, ()⟩ :: (processing ++ writing) ∧
      (process net recorded uplink counter requests).Trace processing answered ∧
      (persist net answered.1 (mustPersist device.session answered.1)).Trace writing
        after.session ∧
      after = ⟨device.card, counter, after.session⟩ ∧
      result = answered.2.mapError fun reason => ⟨reason, .processing⟩

theorem trace_carryOut {recorded : Session}
    {result : Device × Except UplinkFailure (Option Downlink)}
    (h : (carryOut net device recorded uplink fcntUp requests).Trace events result) :
    CarriedOut net device recorded uplink fcntUp requests events result.1 result.2 := by
  obtain ⟨_, first, second, hannounce, hrest, rfl⟩ := trace_bind.mp h
  obtain ⟨_, later, rfl, hdone⟩ := trace_perform.mp hannounce
  obtain ⟨rfl, rfl⟩ := trace_done.mp hdone
  obtain ⟨answered, processing, third, hprocess, hconclude, rfl⟩ := trace_bind.mp hrest
  obtain ⟨saved, writing, fourth, hpersist, hend, rfl⟩ := trace_bind.mp hconclude
  obtain ⟨rfl, rfl⟩ := trace_done.mp hend
  refine ⟨processing, writing, answered, ?_, hprocess, hpersist, rfl, rfl⟩
  rw [List.append_nil]
  rfl

/-- What was recorded of an uplink stays while it is carried out. -/
theorem CarriedOut.sameUplink {recorded : Session} {after : Device}
    {result : Except UplinkFailure (Option Downlink)}
    (h : CarriedOut net device recorded uplink fcntUp requests events after result) :
    recorded.SameUplink after.session := by
  obtain ⟨_, _, _, -, hprocess, hpersist, -, -⟩ := h.parts
  exact (sameUplink_process hprocess).trans (sameUplink_persist hpersist)

/-- An uplink that is carried out sends its telemetry under the counter that was recorded. -/
theorem CarriedOut.telemetryCounters_eq {recorded : Session} {after : Device}
    {result : Except UplinkFailure (Option Downlink)}
    (h : CarriedOut net device recorded uplink fcntUp requests events after result) :
    telemetryCounters events = if uplink.forApplication then [fcntUp] else [] := by
  obtain ⟨processing, writing, answered, hevents, hprocess, hpersist, -, -⟩ := h.parts
  have hannounce : telemetryCounters [⟨.announce fcntUp, ()⟩] = [] := rfl
  rw [hevents, ← List.singleton_append, telemetryCounters_append, telemetryCounters_append,
    hannounce, telemetryCounters_process hprocess, telemetryCounters_persist hpersist]
  simp

/-- What was recorded of an uplink stays while a repeat of it is answered. -/
theorem sameUplink_resubmit {result : Session × Processed}
    (h : (resubmit net s uplink fcntUp).Trace events result) : s.SameUplink result.1 := by
  have hcounted : s.SameUplink (counted s fcntUp) := rfl
  exact hcounted.trans (resubmit_obeys.trace h).2.sameUplink

/-- A repeat sends no telemetry. -/
theorem telemetryCounters_resubmit {result : Session × Processed}
    (h : (resubmit net s uplink fcntUp).Trace events result) : telemetryCounters events = [] :=
  telemetryCounters_eq_nil fun event hmem => ((resubmit_obeys.trace h).1 event hmem).telemetry

/-- The ways in which the handling of an uplink can go. -/
inductive Handled (net : Network) (device : Device) (uplink : DataUplink) :
    List (Event dataInterface) → Device → Except UplinkFailure (Option Downlink) → Prop where
  /-- It is refused when it is examined. -/
  | refused {reason : FailureReason}
      (examined : uplink.examine net device.session = .error reason) :
      Handled net device uplink [] device (.error ⟨reason, .authenticating⟩)
  /-- Its counter is refused. -/
  | replay {counter : UInt32} {requests : List MacCommand}
      (examined : uplink.examine net device.session = .ok ⟨.invalid counter, requests⟩) :
      Handled net device uplink [] device (.error ⟨.invalidFrameCounter, .counterCheck⟩)
  /-- It repeats the last confirmed uplink. -/
  | repeated {counter : UInt32} {requests : List MacCommand}
      {answering writing : List (Event dataInterface)} {answered : Session × Processed}
      {saved : Session}
      (examined : uplink.examine net device.session = .ok ⟨.resubmit counter, requests⟩)
      (answer : (resubmit net device.session uplink counter).Trace answering answered)
      (write : (persist net answered.1 (mustPersist device.session answered.1)).Trace writing
        saved) :
      Handled net device uplink (answering ++ writing) { device with session := saved }
        (answered.2.mapError fun reason => ⟨reason, .processing⟩)
  /-- It restarts the count, but the store does not take the restart. -/
  | unsaved {counter : UInt32} {requests : List MacCommand} {error : StoreError}
      (examined : uplink.examine net device.session = .ok ⟨.reset counter, requests⟩) :
      Handled net device uplink [restartWrite device.session counter (.error error)] device
        (.error ⟨.backendUnavailable, .counterCheck⟩)
  /-- It restarts the count. -/
  | restarted {counter : UInt32} {requests : List MacCommand}
      {told events : List (Event dataInterface)} {after : Device}
      {result : Except UplinkFailure (Option Downlink)}
      (examined : uplink.examine net device.session = .ok ⟨.reset counter, requests⟩)
      (tells : ∀ event ∈ told, DropsAllocation device.session.devEui event)
      (carried : CarriedOut net device (restarted device.session counter) uplink counter requests
        events after result) :
      Handled net device uplink
        (restartWrite device.session counter (.ok ()) :: (told ++ events)) after result
  /-- It is new. -/
  | accepted {counter : UInt32} {requests : List MacCommand} {events : List (Event dataInterface)}
      {after : Device} {result : Except UplinkFailure (Option Downlink)}
      (examined : uplink.examine net device.session = .ok ⟨.accept counter, requests⟩)
      (carried : CarriedOut net device (device.session.accept counter) uplink counter requests
        events after result) :
      Handled net device uplink events after result

/-- The handling of an uplink goes in one of these ways. -/
theorem trace_handle {result : Device × Except UplinkFailure (Option Downlink)}
    (h : (handle net device uplink).Trace events result) :
    Handled net device uplink events result.1 result.2 := by
  unfold handle at h
  split at h
  · rename_i reason hexamined
    obtain ⟨rfl, rfl⟩ := trace_done.mp h
    exact .refused hexamined
  · rename_i verdict requests hexamined
    cases verdict with
    | invalid counter =>
      obtain ⟨rfl, rfl⟩ := trace_done.mp h
      exact .replay hexamined
    | resubmit counter =>
      obtain ⟨answered, answering, second, hanswer, hconclude, rfl⟩ := trace_bind.mp h
      obtain ⟨saved, writing, third, hpersist, hend, rfl⟩ := trace_bind.mp hconclude
      obtain ⟨rfl, rfl⟩ := trace_done.mp hend
      rw [List.append_nil]
      exact .repeated hexamined hanswer hpersist
    | reset counter =>
      obtain ⟨recorded, first, second, hrestart, hrest, rfl⟩ := trace_bind.mp h
      rcases trace_restart hrestart with ⟨error, rfl, rfl⟩ | ⟨told, rfl, htold, rfl⟩
      · obtain ⟨rfl, rfl⟩ := trace_done.mp hrest
        exact .unsaved hexamined
      · exact .restarted hexamined htold (trace_carryOut hrest)
    | accept counter => exact .accepted hexamined (trace_carryOut h)

/-- Whose session it is does not change. -/
theorem Handled.sameProfile {after : Device} {result : Except UplinkFailure (Option Downlink)}
    (h : Handled net device uplink events after result) :
    device.session.SameProfile after.session := by
  cases h with
  | refused | replay | unsaved => exact .refl _
  | repeated examined answer write =>
    exact ((sameUplink_resubmit answer).trans (sameUplink_persist write)).profile
  | @restarted counter _ _ _ _ _ examined tells carried =>
    have hrestarted : device.session.SameProfile (DataHandling.restarted device.session counter) :=
      rfl
    exact hrestarted.trans carried.sameUplink.profile
  | @accepted counter _ _ _ _ examined carried =>
    have haccepted : device.session.SameProfile (device.session.accept counter) := rfl
    exact haccepted.trans carried.sameUplink.profile

end DataHandling

/-! ## Runs -/

instance decidableEqExcept {ε α : Type} [DecidableEq ε] [DecidableEq α] :
    DecidableEq (Except ε α)
  | .ok first, .ok second => decidable_of_iff (first = second) ⟨congrArg _, Except.ok.inj⟩
  | .error first, .error second => decidable_of_iff (first = second) ⟨congrArg _, Except.error.inj⟩
  | .ok _, .error _ | .error _, .ok _ => .isFalse (by simp)

/-- One call of the handler. -/
structure Handling where
  /-- The device before. -/
  before : Device
  /-- The uplink. -/
  uplink : DataUplink
  /-- What was done, with the answers it got. -/
  events : List (Event dataInterface)
  /-- The device afterwards. -/
  after : Device
  /-- The result. -/
  result : Except UplinkFailure (Option Downlink)

namespace Handling

/-- The call can go like this. -/
def Occurs (net : Network) (call : Handling) : Prop :=
  (DataHandling.handle net call.before call.uplink).Trace call.events (call.after, call.result)

/-- The call in which requests are answered by a rule. -/
def answeredBy (net : Network) (answers : (op : DataOperation) → op.Answer) (device : Device)
    (uplink : DataUplink) : Handling :=
  let outcome := (DataHandling.handle net device uplink).follow answers
  ⟨device, uplink, outcome.1, outcome.2.1, outcome.2.2⟩

theorem occurs_answeredBy (net : Network) (answers : (op : DataOperation) → op.Answer)
    (device : Device) (uplink : DataUplink) : (answeredBy net answers device uplink).Occurs net :=
  @Program.trace_follow dataInterface _ answers _

/-- What the counter made of the uplink, if it passed the examination. -/
def verdict (net : Network) (call : Handling) : Option CounterVerdict :=
  match call.uplink.examine net call.before.session with
  | .error _ => none
  | .ok examined => some examined.verdict

/-- The counter of the uplink if it was accepted as new. -/
def accepted (net : Network) (call : Handling) : Option UInt32 :=
  match call.verdict net with
  | some (.accept counter) => some counter
  | _ => none

/-- The first thing done was a write that succeeded. -/
def startsWithWrite (call : Handling) : Bool :=
  match call.events with
  | ⟨.call (.persist _ _), .ok ()⟩ :: _ => true
  | _ => false

/-- The counter of the uplink if it restarted the count. -/
def honoured (net : Network) (call : Handling) : Option UInt32 :=
  match call.verdict net with
  | some (.reset counter) => if call.startsWithWrite then some counter else none
  | _ => none

/-- The counter that the call recorded, be it a new one or that of a restart. -/
def recorded (net : Network) (call : Handling) : Option UInt32 :=
  (call.accepted net).or (call.honoured net)

/-- The downlink that the call returned. -/
def downlink (call : Handling) : Option Downlink := Downlink.ofResult call.result

end Handling

/-- Calls of the handler on one device, one after the other. -/
inductive HandlingRun (net : Network) : Device → List Handling → Device → Prop where
  /-- No call. -/
  | nil (device : Device) : HandlingRun net device [] device
  /-- A call, and then others. -/
  | cons {call : Handling} {calls : List Handling} {last : Device} (first : call.Occurs net)
      (rest : HandlingRun net call.after calls last) :
      HandlingRun net call.before (call :: calls) last

namespace HandlingRun

variable {net : Network} {start last : Device} {calls : List Handling}

/-- A run can be cut anywhere. -/
theorem append_iff {earlier later : List Handling} :
    HandlingRun net start (earlier ++ later) last ↔
      ∃ middle, HandlingRun net start earlier middle ∧ HandlingRun net middle later last := by
  induction earlier generalizing start with
  | nil =>
    constructor
    · intro h
      exact ⟨start, .nil start, h⟩
    · rintro ⟨middle, hearlier, hlater⟩
      cases hearlier
      exact hlater
  | cons call rest ih =>
    constructor
    · intro h
      cases h with
      | cons first h =>
        obtain ⟨middle, hrest, hlater⟩ := ih.mp h
        exact ⟨middle, .cons first hrest, hlater⟩
    · rintro ⟨middle, hearlier, hlater⟩
      cases hearlier with
      | cons first hrest => exact .cons first (ih.mpr ⟨middle, hrest, hlater⟩)

/-- Without a call nothing changes. -/
theorem eq_of_nil (h : HandlingRun net start [] last) : last = start := by
  cases h
  rfl

/-- A run ends with the device as its last call left it. -/
theorem of_snoc {earlier : List Handling} {call : Handling}
    (h : HandlingRun net start (earlier ++ [call]) last) :
    HandlingRun net start earlier call.before ∧ call.Occurs net ∧ last = call.after := by
  obtain ⟨middle, hearlier, hlater⟩ := append_iff.mp h
  cases hlater with
  | cons first rest => exact ⟨hearlier, first, rest.eq_of_nil⟩

/-- What every call keeps holds before and after each call of a run. -/
theorem invariant {holds : Device → Prop} (h : HandlingRun net start calls last)
    (hstart : holds start)
    (hstep : ∀ call ∈ calls, call.Occurs net → holds call.before → holds call.after) :
    holds last ∧ ∀ call ∈ calls, call.Occurs net ∧ holds call.before ∧ holds call.after := by
  induction h with
  | nil device => exact ⟨hstart, by simp⟩
  | @cons call calls last first rest ih =>
    have hafter := hstep call List.mem_cons_self first hstart
    obtain ⟨hlast, hcalls⟩ := ih hafter fun c hmem => hstep c (List.mem_cons_of_mem _ hmem)
    refine ⟨hlast, ?_⟩
    intro c hmem
    rcases List.mem_cons.mp hmem with rfl | hmem
    · exact ⟨first, hstart, hafter⟩
    · exact hcalls c hmem

/-- Every call of a run occurs. -/
theorem occurs (run : HandlingRun net start calls last) : ∀ call ∈ calls, call.Occurs net := by
  induction run with
  | nil device => simp
  | cons first rest ih =>
    intro call hmem
    rcases List.mem_cons.mp hmem with rfl | hmem
    · exact first
    · exact ih call hmem

/-- Whose session it is does not change. -/
theorem sameProfile (run : HandlingRun net start calls last) :
    start.session.SameProfile last.session := by
  induction run with
  | nil device => exact .refl _
  | cons first rest ih => exact (DataHandling.trace_handle first).sameProfile.trans ih

/-- Uplinks one after the other, their requests answered by a rule. -/
def answeredBy (net : Network) (answers : (op : DataOperation) → op.Answer) (device : Device) :
    List DataUplink → List Handling
  | [] => []
  | uplink :: rest =>
    let call := Handling.answeredBy net answers device uplink
    call :: answeredBy net answers call.after rest

/-- Answers that follow a rule lead to a run. -/
theorem exists_answeredBy (net : Network) (answers : (op : DataOperation) → op.Answer)
    (device : Device) (uplinks : List DataUplink) :
    ∃ last, HandlingRun net device (answeredBy net answers device uplinks) last := by
  induction uplinks generalizing device with
  | nil => exact ⟨device, .nil device⟩
  | cons uplink rest ih =>
    obtain ⟨last, hrest⟩ := ih (Handling.answeredBy net answers device uplink).after
    exact ⟨last, .cons (Handling.occurs_answeredBy net answers device uplink) hrest⟩

end HandlingRun

/-! ## A small network

A network, a device and its frames for runs that are followed to the end. Every frame there carries
the same integrity code, no time passes, and no collaborator but the store can be reached. -/

namespace Sample

/-- A network in which every frame has the code of zeros. -/
def network : Network where
  config := {}
  suite := ⟨fun _ block => block, fun _ block => block, fun _ _ => Block.zero⟩

/-- A device of the network's gateway, in the middle of a session. -/
def record : SessionRecord where
  devEui := ⟨1⟩
  devAddr := ⟨0x01000001⟩
  keys := ⟨⟨Block.zero⟩, ⟨Block.zero⟩⟩
  gatewayId := some "gateway"
  fcntUp := 4
  fcntDown := 7
  relaxed := true

/-- The device when its session was just loaded. -/
def device : Device := .ofSession (.ofRecord {} record)

/-- A frame of the device with one byte for the application. -/
def uplink (type : MessageType) (counter : UInt16) : DataUplink where
  frame :=
    { type := type
      header := { devAddr := ⟨0x01000001⟩, control := {}, counter := counter }
      port := some 1
      payload := [1]
      mic := ⟨0, 0, 0, 0⟩
      signed := [] }
  metadata := {}
  arrival := 0

/-- The answers while no time passes, the store answers every write alike, and nobody else can be
reached. -/
def answers (write : Except StoreError Unit) : (op : DataOperation) → op.Answer
  | .clock => (0 : Int)
  | .wallClock => ⟨0, 0⟩
  | .call (.persist ..) => write
  | .call _ => .error .timeout
  | .race _ _ => none
  | .announce _ => ()

end Sample

end LoraNetwork
