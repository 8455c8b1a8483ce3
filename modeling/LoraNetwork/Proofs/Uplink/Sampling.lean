import LoraNetwork.Proofs.Adr.Loss
import LoraNetwork.Proofs.Uplink.Commanding
import LoraNetwork.Proofs.Uplink.Examination

/-!
# Samples in step with the counter

The estimate of what was lost takes for granted that the counters of the samples increase. Nothing
in a history provides for that. It is the handler that does: an uplink is only recorded under a
counter beyond the last one, or as the very first of a session, or by a restart, which forgets the
samples before it goes back to the start. So on every run no sample is beyond the counter of the
session, and the next one that is recorded is beyond them all.
-/

namespace LoraNetwork

open DataHandling

/-! ## What is done to the history -/

/-- Adaptive data rate leaves the history, or records the uplink in it. -/
theorem Session.history_adapt (config : ServerConfig) (s : Session) (counter : UInt32)
    (metadata : RadioMetadata) (ackRequested : Bool) :
    (s.adapt config counter metadata ackRequested).1.history =
      match s.region.uplinkIndex metadata.dataRate with
      | none => s.history
      | some rate => s.history.record counter metadata.snr rate := by
  cases hrate : s.region.uplinkIndex metadata.dataRate with
  | none => simp only [adapt, hrate]
  | some rate =>
    simp only [adapt, hrate]
    split
    · rfl
    · split <;> rfl

namespace DataHandling

variable {net : Network} {timer : WindowTimer} {s : Session} {uplink : DataUplink}
variable {fcntUp : UInt32} {requests : List MacCommand} {events : List (Event dataInterface)}

/-- A first answer leaves the history. -/
theorem Answered.history_eq {commands : List MacCommand} {result : Session × Processed}
    (h : Answered net timer s uplink fcntUp commands result) :
    result.1.history = s.history := by
  cases h with
  | silent => rfl
  | drawn own delivered =>
    cases delivered with
    | wasted => rfl
    | sent answer =>
      unfold remember
      split <;> rfl

/-- The answer to a repeat leaves the history. -/
theorem Repeated.history_eq {kept : Confirmation} {result : Session × Processed}
    (h : Repeated net timer s uplink kept result) : result.1.history = s.history := by
  cases h <;> rfl

/-- A write at the end leaves the history. -/
theorem history_persist {forced : Bool} {after : Session}
    (h : (persist net s forced).Trace events after) : after.history = s.history := by
  rcases (persist_obeys.trace h).2 with rfl | rfl <;> rfl

/-- Before the first answer the history is as adaptive data rate left it. -/
theorem history_prepared (net : Network) (s : Session) (uplink : DataUplink) (fcntUp : UInt32) :
    (prepared net s uplink fcntUp).history = (adaptIfAsked net s uplink fcntUp).1.history := by
  unfold prepared expectRepeats
  split <;> rfl

/-- An uplink that is carried out leaves the history as adaptive data rate left it. -/
theorem CarriedOut.history_eq {device after : Device}
    {result : Except UplinkFailure (Option Downlink)}
    (h : CarriedOut net device s uplink fcntUp requests events after result) :
    after.session.history = (adaptIfAsked net s uplink fcntUp).1.history := by
  obtain ⟨_, _, _, -, hprocess, hpersist, -, -⟩ := h.parts
  obtain ⟨commands, hanswered⟩ := (process_obeys.trace hprocess).2
  rw [history_persist hpersist, hanswered.history_eq, history_prepared]

/-- Adaptive data rate leaves as much room as before. -/
theorem capacity_adaptIfAsked (net : Network) (s : Session) (uplink : DataUplink)
    (fcntUp : UInt32) :
    (adaptIfAsked net s uplink fcntUp).1.history.capacity = s.history.capacity := by
  unfold adaptIfAsked
  split
  · rw [Session.history_adapt]
    split
    · rfl
    · rw [UplinkHistory.record, UplinkHistory.capacity_push, UplinkHistory.capacity_atRate]
  · rfl

/-- An uplink is recorded beyond all the samples, if it is recorded. -/
theorem ordered_adaptIfAsked (net : Network) (uplink : DataUplink)
    (hcapacity : 1 ≤ s.history.capacity) (h : s.history.Ordered fcntUp.toNat) :
    (adaptIfAsked net s uplink fcntUp).1.history.Ordered (fcntUp.toNat + 1) := by
  unfold adaptIfAsked
  split
  · rw [Session.history_adapt]
    split
    · exact h.mono (Nat.le_succ _)
    · exact h.record hcapacity _ _
  · exact h.mono (Nat.le_succ _)

end DataHandling

/-! ## One call -/

/-- What a session keeps of recent uplinks is in step with its counter. -/
structure Session.Sampled (capacity : Nat) (s : Session) : Prop where
  /-- There is as much room as at the start. -/
  room : s.history.capacity = capacity
  /-- The samples are in order, and none is beyond the counter. -/
  ordered : s.history.Ordered (s.progress.fcntUp.toNat + 1)
  /-- There are none before the first uplink. -/
  unseen : s.uplinkSeen = false → s.history.samples = []

/-- A session that was just loaded has no samples. -/
theorem Session.Sampled.ofRecord (config : ServerConfig) (record : SessionRecord) :
    (Session.ofRecord config record).Sampled config.adr.historySize where
  room := rfl
  ordered := .of_samples_eq_nil rfl
  unseen _ := rfl

/-- A session that recorded a counter, and is about to learn from the uplink, has samples below that
counter only. -/
structure Session.Awaits (capacity : Nat) (counter : UInt32) (s : Session) : Prop where
  /-- There is as much room as at the start. -/
  room : s.history.capacity = capacity
  /-- The samples are in order, and all are below the counter. -/
  ordered : s.history.Ordered counter.toNat
  /-- The counter is that of the session. -/
  recorded : s.progress.fcntUp = counter
  /-- An uplink was seen. -/
  seen : s.uplinkSeen = true

namespace DataHandling

variable {net : Network} {s recorded : Session} {uplink : DataUplink} {counter : UInt32}
variable {requests : List MacCommand} {events : List (Event dataInterface)} {capacity : Nat}

/-- A new frame is beyond all the samples, or there are none. -/
theorem awaits_accept (h : s.Sampled capacity)
    (hexamined : uplink.examine net s = .ok ⟨.accept counter, requests⟩) :
    (s.accept counter).Awaits capacity counter := by
  refine ⟨h.room, ?_, rfl, rfl⟩
  rcases DataUplink.lt_of_examine_accept hexamined with hlt | ⟨-, -, hunseen⟩
  · exact h.ordered.mono (UInt32.lt_iff_toNat_lt.mp hlt)
  · exact .of_samples_eq_nil (h.unseen hunseen)

/-- A restart forgets all samples. -/
theorem awaits_restarted (h : s.Sampled capacity) (counter : UInt32) :
    (restarted s counter).Awaits capacity counter :=
  ⟨h.room, .of_samples_eq_nil rfl, rfl, rfl⟩

/-- An uplink that is carried out is recorded behind the samples. -/
theorem CarriedOut.sampled {device after : Device}
    {result : Except UplinkFailure (Option Downlink)}
    (h : CarriedOut net device recorded uplink counter requests events after result)
    (hawaits : recorded.Awaits capacity counter) (hcapacity : 1 ≤ capacity) :
    after.session.Sampled capacity := by
  have hsame := h.sameUplink
  have hhistory := h.history_eq
  have hroom := hawaits.room
  have hordered := ordered_adaptIfAsked net uplink (hroom ▸ hcapacity) hawaits.ordered
  refine ⟨?_, ?_, fun hunseen => ?_⟩
  · rw [hhistory, capacity_adaptIfAsked, hroom]
  · rw [hhistory, hsame.fcntUp, hawaits.recorded]
    exact hordered
  · rw [hsame.uplinkSeen, hawaits.seen] at hunseen
    cases hunseen

end DataHandling

namespace Handling

variable {net : Network} {call : Handling} {capacity : Nat}

/-- Every call keeps samples and counter in step. -/
theorem Occurs.sampled (h : call.Occurs net) (hcapacity : 1 ≤ capacity)
    (hsampled : call.before.session.Sampled capacity) : call.after.session.Sampled capacity := by
  obtain ⟨before, uplink, events, after, result⟩ := call
  have hhandled := trace_handle h
  dsimp only at hhandled hsampled
  cases hhandled with
  | refused examined | replay examined | unsaved examined => exact hsampled
  | repeated examined answer write =>
    have hsame := (sameUplink_resubmit answer).trans (sameUplink_persist write)
    have hhistory := (history_persist write).trans (resubmit_obeys.trace answer).2.history_eq
    refine ⟨?_, ?_, fun hunseen => ?_⟩
    · rw [hhistory]
      exact hsampled.room
    · rw [hhistory, hsame.fcntUp]
      exact hsampled.ordered
    · rw [hhistory]
      exact hsampled.unseen (hsame.uplinkSeen ▸ hunseen)
  | restarted examined tells carried =>
    exact carried.sampled (awaits_restarted hsampled _) hcapacity
  | accepted examined carried =>
    exact carried.sampled (awaits_accept hsampled examined) hcapacity

end Handling

/-! ## Runs -/

namespace HandlingRun

variable {net : Network} {start last : Device} {calls : List Handling} {record : SessionRecord}

/-- Samples and counter stay in step along a run. -/
theorem sampled {capacity : Nat} (run : HandlingRun net start calls last)
    (hcapacity : 1 ≤ capacity) (hstart : start.session.Sampled capacity) :
    last.session.Sampled capacity := by
  induction run with
  | nil device => exact hstart
  | cons first rest ih => exact ih (first.sampled hcapacity hstart)

/-- What is lost of the uplinks of a session can be estimated from its samples. -/
structure Estimable (capacity : Nat) (s : Session) : Prop where
  /-- The counters of the samples increase. -/
  increasing :
    s.history.samples.Pairwise fun earlier later => earlier.counter < later.counter
  /-- None is beyond the counter of the session. -/
  bounded : ∀ sample ∈ s.history.samples, sample.counter ≤ s.progress.fcntUp
  /-- There are no more of them than there is room for. -/
  few : s.history.samples.length ≤ capacity
  /-- The estimate is sound until the counter is the greatest there is. -/
  sound : s.progress.fcntUp.toNat < 2 ^ 32 - 1 → s.history.LossSound

/-- Load a session from any record, with room for one sample at least, and let it handle any uplinks
with any answers and any success of the writes: its losses can be estimated. -/
theorem estimable {config : ServerConfig}
    (run : HandlingRun net (.ofSession (.ofRecord config record)) calls last)
    (hcapacity : 1 ≤ config.adr.historySize) :
    Estimable config.adr.historySize last.session := by
  have hsampled := run.sampled hcapacity (.ofRecord config record)
  have hordered := hsampled.ordered
  refine ⟨hordered.increasing, fun sample hmem => ?_, ?_, fun hcounter => ?_⟩
  · exact UInt32.le_iff_toNat_le.mpr (Nat.le_of_lt_succ (hordered.below sample hmem))
  · rw [← hsampled.room]
    exact hordered.few
  · exact UplinkHistory.lossSound_of_ordered hordered hcounter

/-- Of the frames from the fifth to the eighth the two in between are lost. -/
theorem estimable_after_gap :
    let first := Handling.answeredBy Sample.network (Sample.answers (.ok ())) Sample.device
      (Sample.asking 5 0)
    let second := Handling.answeredBy Sample.network (Sample.answers (.ok ())) first.after
      (Sample.asking 8 0)
    1 ≤ ({} : ServerConfig).adr.historySize ∧
      Estimable ({} : ServerConfig).adr.historySize second.after.session ∧
      second.after.session.history.samples.length = 2 ∧
      second.after.session.history.expectedFrames = some 4 ∧
      second.after.session.history.LossSound := by
  intro first second
  have hrun : HandlingRun Sample.network Sample.device [first, second] second.after :=
    .cons (Handling.occurs_answeredBy _ _ _ _) (.cons (Handling.occurs_answeredBy _ _ _ _) (.nil _))
  have hcapacity : 1 ≤ ({} : ServerConfig).adr.historySize := by decide
  have hestimable := estimable hrun hcapacity
  exact ⟨hcapacity, hestimable, by decide +kernel, by decide +kernel,
    hestimable.sound (by decide +kernel)⟩

end HandlingRun

end LoraNetwork
