import LoraNetwork.Proofs.Uplink.Answering

/-!
# What processing an uplink does

A recorded uplink is processed and its session is written. Every request on the way concerns the
device and the counter of the uplink. Telemetry is sent exactly once for an uplink of an application
and never otherwise, and a write changes nothing but what is known to be saved. At the end stands
the way from the examination of an uplink to the parts that handle it.
-/

namespace LoraNetwork

/-- The request concerns a device and the uplink with a counter. -/
def Request.Concerns (card : DeviceCard) (fcntUp : UInt32) : Request → Prop
  | persist device _ | resetAllocation device .. | receive device _ | settle _ device _ =>
    device = card.devEui
  | allocate device _ up _ => device = card.devEui ∧ up = fcntUp
  | sendTelemetry telemetry =>
    telemetry.devEui = card.devEui ∧ telemetry.devAddr = card.devAddr ∧ telemetry.fcnt = fcntUp
  | _ => False

/-- The operation concerns a device and the uplink with a counter. -/
def DataOperation.Concerns (card : DeviceCard) (fcntUp : UInt32) : DataOperation → Prop
  | clock | wallClock => True
  | call request | race request _ => request.Concerns card fcntUp
  | announce counter => counter = fcntUp

/-- What belongs to the answer of an uplink concerns the uplink. -/
theorem DataOperation.ServesAnswer.concerns {card : DeviceCard} {fcntUp : UInt32}
    {op : DataOperation} (h : op.ServesAnswer card.devEui fcntUp) : op.Concerns card fcntUp := by
  cases op with
  | clock => trivial
  | wallClock | announce counter => exact h.elim
  | call request | race request deadline => cases request <;> first | exact h | exact h.elim

/-- The telemetry that a request forwards. -/
def Request.telemetry? : Request → Option Telemetry
  | sendTelemetry telemetry => some telemetry
  | _ => none

/-- The telemetry that an operation forwards. -/
def DataOperation.telemetry? : DataOperation → Option Telemetry
  | call request | race request _ => request.telemetry?
  | clock | wallClock | announce _ => none

/-- What belongs to the answer of an uplink forwards nothing. -/
theorem DataOperation.ServesAnswer.telemetry {eui : Eui64} {fcntUp : UInt32}
    {op : DataOperation} (h : op.ServesAnswer eui fcntUp) : op.telemetry? = none := by
  cases op with
  | clock | wallClock | announce counter => rfl
  | call request | race request deadline => cases request <;> first | rfl | exact h.elim

/-- The counters of the telemetry that events forward, in order. -/
def telemetryCounters (events : List (Event dataInterface)) : List UInt32 :=
  events.filterMap fun event => event.op.telemetry?.map Telemetry.fcnt

theorem telemetryCounters_append (first second : List (Event dataInterface)) :
    telemetryCounters (first ++ second) = telemetryCounters first ++ telemetryCounters second :=
  List.filterMap_append

/-- Operations that forward nothing leave no telemetry. -/
theorem telemetryCounters_eq_nil {events : List (Event dataInterface)}
    (h : ∀ event ∈ events, event.op.telemetry? = none) : telemetryCounters events = [] := by
  refine List.filterMap_eq_nil_iff.mpr fun event hmem => ?_
  rw [h event hmem]
  rfl

/-- The uplink carries something for the application. -/
def DataUplink.forApplication (uplink : DataUplink) : Bool := uplink.frame.port.any fun p => p ≠ 0

/-- Nothing of a session that stays the same while it is in use has changed. -/
def Session.SameProfile (s after : Session) : Prop :=
  after = { s with
    progress := after.progress
    saved := after.saved
    history := after.history
    uplinkSeen := after.uplinkSeen
    confirmation := after.confirmation }

namespace Session.SameProfile

variable {s middle after : Session}

theorem refl (s : Session) : s.SameProfile s := rfl

theorem symm (h : s.SameProfile after) : after.SameProfile s := by
  unfold SameProfile at *
  rw [h]

theorem trans (h : s.SameProfile middle) (h' : middle.SameProfile after) :
    s.SameProfile after := by
  unfold SameProfile at *
  rw [h] at h'
  exact h'

theorem card (h : s.SameProfile after) : DeviceCard.ofSession after = DeviceCard.ofSession s := by
  unfold SameProfile at h
  rw [h]
  rfl

theorem gatewayId (h : s.SameProfile after) : after.gatewayId = s.gatewayId := by
  unfold SameProfile at h
  rw [h]

theorem region (h : s.SameProfile after) : after.region = s.region := by
  unfold SameProfile at h
  rw [h]

end Session.SameProfile

/-- What was recorded of an uplink stays: only downlink counter, commanded settings, history, kept
answer and what is known to be saved have changed. -/
def Session.SameUplink (s after : Session) : Prop :=
  after = { s with
    progress :=
      { s.progress with
        fcntDown := after.progress.fcntDown
        adr := after.progress.adr }
    saved := after.saved
    history := after.history
    confirmation := after.confirmation }

namespace Session.SameUplink

variable {s middle after : Session}

theorem refl (s : Session) : s.SameUplink s := rfl

theorem trans (h : s.SameUplink middle) (h' : middle.SameUplink after) : s.SameUplink after := by
  unfold SameUplink at *
  rw [h] at h'
  exact h'

theorem profile (h : s.SameUplink after) : s.SameProfile after := by
  unfold SameUplink at h
  rw [h]
  rfl

theorem fcntUp (h : s.SameUplink after) : after.progress.fcntUp = s.progress.fcntUp := by
  unfold SameUplink at h
  rw [h]

theorem uplinkSeen (h : s.SameUplink after) : after.uplinkSeen = s.uplinkSeen := by
  unfold SameUplink at h
  rw [h]

theorem adopt (s : Session) (n : UInt32) : s.SameUplink (s.adopt n) := rfl

theorem written (s : Session) (delta : SessionDelta) : s.SameUplink (s.written delta) := rfl

theorem remember (s : Session) (confirmed : Bool) (fcntUp : UInt32) (sent : CachedDownlink) :
    s.SameUplink (DataHandling.remember s confirmed fcntUp sent) := by
  cases confirmed <;> rfl

end Session.SameUplink

namespace DataHandling

open Program

variable {net : Network} {timer : WindowTimer} {s : Session} {uplink : DataUplink}
variable {fcntUp : UInt32} {requests : List MacCommand}

/-! ## Commands, telemetry and adaptive data rate -/

theorem answersTo_obeys (metadata : RadioMetadata) (commands : List MacCommand) :
    (answersTo metadata commands).Obeys (· = DataOperation.wallClock) fun _ => True := by
  induction commands with
  | nil => trivial
  | cons command rest ih =>
    cases command
    case linkCheckReq => exact obeys_bind.mpr (ih.mono (fun _ h => h) fun _ _ => trivial)
    case deviceTimeReq =>
      refine obeys_bind.mpr (obeys_wallClock.mpr ⟨rfl, fun now => ?_⟩)
      exact obeys_bind.mpr (ih.mono (fun _ h => h) fun _ _ => trivial)
    all_goals exact ih

theorem forward_obeys :
    (forward net s uplink fcntUp).Obeys (DataOperation.Concerns (.ofSession s) fcntUp)
      fun _ => True := by
  unfold forward
  split
  · trivial
  · split
    · trivial
    · exact obeys_bind.mpr (obeys_call.mpr ⟨⟨rfl, rfl, rfl⟩, fun _ => trivial⟩)

/-- Nothing but telemetry is sent when an uplink is forwarded. -/
theorem forward_sends :
    (forward net s uplink fcntUp).Obeys
      (fun op : DataOperation => ∃ telemetry, op = .call (.sendTelemetry telemetry))
      fun _ => True := by
  unfold forward
  split
  · trivial
  · split
    · trivial
    · exact obeys_bind.mpr (obeys_call.mpr ⟨⟨_, rfl⟩, fun _ => trivial⟩)

/-- An uplink for the application is forwarded once, under its counter. -/
theorem telemetryCounters_forward {events : List (Event dataInterface)}
    (h : (forward net s uplink fcntUp).Trace events ()) :
    telemetryCounters events = if uplink.forApplication then [fcntUp] else [] := by
  unfold forward at h
  split at h
  · rename_i hport
    rw [pure_eq_done, trace_done] at h
    rw [h.1]
    simp [telemetryCounters, DataUplink.forApplication, hport]
  · rename_i port hport
    split at h
    · rename_i hzero
      rw [pure_eq_done, trace_done] at h
      rw [h.1]
      simp [telemetryCounters, DataUplink.forApplication, hport, hzero]
    · rename_i hzero
      obtain ⟨answer, first, second, hcall, hend, rfl⟩ := trace_bind.mp h
      obtain ⟨answer', later, rfl, hdone⟩ := trace_perform.mp hcall
      rw [pure_eq_done, trace_done] at hend
      rw [trace_done] at hdone
      rw [hend.1, hdone.1]
      simp [telemetryCounters, DataUplink.forApplication, hport, hzero, DataOperation.telemetry?,
        Request.telemetry?]

/-- The session that the first answer starts from. -/
def prepared (net : Network) (s : Session) (uplink : DataUplink) (fcntUp : UInt32) : Session :=
  expectRepeats (adaptIfAsked net s uplink fcntUp).1 uplink.confirmed fcntUp

/-- Learning from an uplink changes the history and the commanded settings only. -/
theorem adaptIfAsked_eq (net : Network) (s : Session) (uplink : DataUplink) (fcntUp : UInt32) :
    (adaptIfAsked net s uplink fcntUp).1 =
      { s with
        progress :=
          { s.progress with adr := (adaptIfAsked net s uplink fcntUp).1.progress.adr }
        history := (adaptIfAsked net s uplink fcntUp).1.history } := by
  unfold adaptIfAsked Session.adapt
  split
  · split
    · rfl
    · dsimp only
      split
      · rfl
      · split <;> rfl
  · rfl

/-- Before the first answer, history, commanded settings and the kept answer have changed. -/
theorem prepared_eq (net : Network) (s : Session) (uplink : DataUplink) (fcntUp : UInt32) :
    prepared net s uplink fcntUp =
      { s with
        progress := { s.progress with adr := (prepared net s uplink fcntUp).progress.adr }
        history := (prepared net s uplink fcntUp).history
        confirmation := if uplink.confirmed then some ⟨fcntUp, none, 0⟩ else s.confirmation } := by
  have hadapt := adaptIfAsked_eq net s uplink fcntUp
  unfold prepared expectRepeats
  split
  · rw [hadapt]
  · rw [hadapt]

theorem sameUplink_prepared (net : Network) (s : Session) (uplink : DataUplink)
    (fcntUp : UInt32) : s.SameUplink (prepared net s uplink fcntUp) := by
  rw [prepared_eq]
  rfl

/-- The first answer leaves what was recorded of the uplink. -/
theorem Answered.sameUplink {commands : List MacCommand} {result : Session × Processed}
    (h : Answered net timer s uplink fcntUp commands result) : s.SameUplink result.1 := by
  cases h with
  | silent => exact .refl s
  | drawn own delivered =>
    cases delivered with
    | wasted => exact .adopt s _
    | sent answer => exact (Session.SameUplink.adopt s _).trans (.remember _ _ _ _)

/-- The answer to a repeat leaves what was recorded of the uplink. -/
theorem Repeated.sameUplink {kept : Confirmation} {result : Session × Processed}
    (h : Repeated net timer s uplink kept result) : s.SameUplink result.1 := by
  cases h <;> rfl

/-- Processing concerns the uplink and ends as its first answer does. -/
theorem process_obeys :
    (process net s uplink fcntUp requests).Obeys (DataOperation.Concerns (.ofSession s) fcntUp)
      fun result => ∃ commands,
        Answered net (uplink.timer net (prepared net s uplink fcntUp))
          (prepared net s uplink fcntUp) uplink fcntUp commands result := by
  have hadapted : s.SameProfile (adaptIfAsked net s uplink fcntUp).1 := by
    rw [adaptIfAsked_eq]
    rfl
  have hprepared := (sameUplink_prepared net s uplink fcntUp).profile
  refine obeys_bind.mpr ((answersTo_obeys _ _).mono ?_ fun answers _ => ?_)
  · rintro op rfl
    trivial
  · refine obeys_bind.mpr (forward_obeys.mono ?_ fun _ _ => ?_)
    · rw [← hadapted.card]
      exact fun _ h => h
    · refine respond_obeys.mono (fun op hop => ?_) fun result h => ⟨_, h⟩
      rw [← hprepared.card]
      exact DataOperation.ServesAnswer.concerns hop

/-- Processing sends telemetry once if the uplink carries something for the application. -/
theorem telemetryCounters_process {events : List (Event dataInterface)}
    {result : Session × Processed}
    (h : (process net s uplink fcntUp requests).Trace events result) :
    telemetryCounters events = if uplink.forApplication then [fcntUp] else [] := by
  obtain ⟨answers, asking, later, hanswers, hlater, rfl⟩ := trace_bind.mp h
  obtain ⟨_, forwarding, answering, hforward, hrespond, rfl⟩ := trace_bind.mp hlater
  have hasking : telemetryCounters asking = [] := by
    refine telemetryCounters_eq_nil fun event hmem => ?_
    rw [((answersTo_obeys _ _).trace hanswers).1 event hmem]
    rfl
  have hanswering : telemetryCounters answering = [] := by
    refine telemetryCounters_eq_nil fun event hmem => ?_
    exact ((respond_obeys.trace hrespond).1 event hmem).telemetry
  rw [telemetryCounters_append, telemetryCounters_append, hasking, hanswering,
    telemetryCounters_forward hforward]
  simp

/-- Processing leaves what was recorded of the uplink. -/
theorem sameUplink_process {events : List (Event dataInterface)} {result : Session × Processed}
    (h : (process net s uplink fcntUp requests).Trace events result) : s.SameUplink result.1 := by
  obtain ⟨commands, hanswered⟩ := (process_obeys.trace h).2
  exact (sameUplink_prepared net s uplink fcntUp).trans hanswered.sameUplink

/-! ## Writing the session -/

/-- A write at the end asks the store at most once, and changes only what is known to be saved. -/
theorem persist_obeys {forced : Bool} :
    (persist net s forced).Obeys (· = DataOperation.call (.persist s.devEui s.delta))
      fun after => after = s ∨ after = s.written s.delta := by
  unfold persist
  split
  · exact obeys_done.mpr (Or.inl rfl)
  · dsimp only
    split
    · exact obeys_done.mpr (Or.inl rfl)
    · refine obeys_bind.mpr (obeys_call.mpr ⟨rfl, fun answer => ?_⟩)
      cases answer with
      | ok _ => exact obeys_done.mpr (Or.inr rfl)
      | error _ => exact obeys_done.mpr (Or.inl rfl)

/-- A write at the end leaves the session as it is in use. -/
theorem persist_trace {events : List (Event dataInterface)} {forced : Bool} {after : Session}
    (h : (persist net s forced).Trace events after) :
    after.progress = s.progress ∧ after.confirmation = s.confirmation := by
  rcases (persist_obeys.trace h).2 with hafter | hafter <;> rw [hafter]
  · exact ⟨rfl, rfl⟩
  · exact ⟨rfl, rfl⟩

theorem sameUplink_persist {events : List (Event dataInterface)} {forced : Bool} {after : Session}
    (h : (persist net s forced).Trace events after) : s.SameUplink after := by
  rcases (persist_obeys.trace h).2 with hafter | hafter <;> rw [hafter]
  · exact .refl s
  · exact .written s _

theorem telemetryCounters_persist {events : List (Event dataInterface)} {forced : Bool}
    {after : Session} (h : (persist net s forced).Trace events after) :
    telemetryCounters events = [] := by
  refine telemetryCounters_eq_nil fun event hmem => ?_
  rw [(persist_obeys.trace h).1 event hmem]
  rfl

end DataHandling

end LoraNetwork
