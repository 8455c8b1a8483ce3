import LoraNetwork.Proofs.Uplink.Acceptance

/-!
# What goes by the session of a device

Some facts about a session are kept a second time. The card and the counter announced last can be
read while an uplink uses the session, and the answer that the session keeps for repeats names the
counter it was made for. Each call of the handler leaves them as the session says: one that is
refused touches none of them, a counter that is recorded is announced and clears what was kept, and
what is kept from then on is kept for that counter. A repeat carries the counter of the session, so
it never finds an answer that was kept for another one.

Only announcements move the counter that can be read: a call leaves the device with the one that it
announced last. What is read while an uplink uses the session is not covered here.
-/

namespace LoraNetwork

/-! ## What is kept for repeats -/

/-- What a session keeps for repeats, if it keeps anything, is kept for a counter. -/
def Session.KeepsFor (s : Session) (counter : UInt32) : Prop :=
  ∀ kept, s.confirmation = some kept → kept.fcntUp = counter

namespace Session

variable {s after : Session} {counter : UInt32}

/-- A session that keeps nothing keeps it for any counter. -/
theorem keepsFor_of_none (h : s.confirmation = none) : s.KeepsFor counter := by
  intro kept hkept
  rw [h] at hkept
  cases hkept

/-- A session keeps one answer at most. -/
theorem keepsFor_of_some {kept : Confirmation} (h : s.confirmation = some kept)
    (hcounter : kept.fcntUp = counter) : s.KeepsFor counter := by
  intro other hother
  rw [h] at hother
  rw [← Option.some.inj hother, hcounter]

/-- Only what is kept counts. -/
theorem KeepsFor.of_eq (h : s.KeepsFor counter) (hsame : after.confirmation = s.confirmation) :
    after.KeepsFor counter :=
  fun kept hkept => h kept (hsame ▸ hkept)

end Session

namespace DataHandling

variable {net : Network} {timer : WindowTimer} {s : Session} {uplink : DataUplink}
variable {fcntUp : UInt32}

/-- Before the first answer, repeats of the uplink are expected under its counter. -/
theorem keepsFor_prepared (hkeeps : s.KeepsFor fcntUp) :
    (prepared net s uplink fcntUp).KeepsFor fcntUp := by
  rw [prepared_eq]
  cases uplink.confirmed with
  | true => exact Session.keepsFor_of_some rfl rfl
  | false => exact hkeeps

/-- A repeat is counted under its counter. -/
theorem fcntUp_countRepeat (s : Session) (fcntUp : UInt32) :
    (countRepeat s fcntUp).fcntUp = fcntUp := by
  unfold countRepeat
  split
  · split
    · assumption
    · rfl
  · rfl

/-- A repeat goes on from what is kept for its counter, and begins anew only if nothing is kept. -/
theorem countRepeat_of_keepsFor (hkeeps : s.KeepsFor fcntUp) :
    countRepeat s fcntUp =
      let kept := s.confirmation.getD ⟨fcntUp, none, 0⟩
      { kept with resubmits := kept.resubmits + 1 } := by
  unfold countRepeat
  cases hkept : s.confirmation with
  | none => rfl
  | some kept => exact if_pos (hkeeps kept hkept)

/-- A first answer is kept for the counter of its uplink. -/
theorem Answered.keepsFor {commands : List MacCommand} {result : Session × Processed}
    (h : Answered net timer s uplink fcntUp commands result) (hkeeps : s.KeepsFor fcntUp) :
    result.1.KeepsFor fcntUp := by
  cases h with
  | silent => exact hkeeps
  | drawn own delivered =>
    cases delivered with
    | wasted => exact hkeeps
    | sent answer =>
      unfold remember
      cases uplink.confirmed with
      | true => exact Session.keepsFor_of_some rfl rfl
      | false => exact hkeeps

/-- The answer to a repeat is kept for the counter that the repeat was counted under. -/
theorem Repeated.keepsFor {kept : Confirmation} {result : Session × Processed}
    (h : Repeated net timer s uplink kept result) (hkept : s.confirmation = some kept) :
    result.1.KeepsFor kept.fcntUp := by
  have hkeeps : s.KeepsFor kept.fcntUp := Session.keepsFor_of_some hkept rfl
  cases h with
  | silent | replayed | wasted => exact hkeeps
  | acknowledged => exact Session.keepsFor_of_some rfl rfl

/-- What is kept when an uplink was carried out is kept for its counter, if nothing was kept. -/
theorem CarriedOut.keepsFor {device after : Device} {recorded : Session}
    {requests : List MacCommand} {events : List (Event dataInterface)}
    {result : Except UplinkFailure (Option Downlink)}
    (h : CarriedOut net device recorded uplink fcntUp requests events after result)
    (hnone : recorded.confirmation = none) : after.session.KeepsFor fcntUp := by
  obtain ⟨_, _, answered, -, hprocess, hpersist, -, -⟩ := h.parts
  obtain ⟨commands, hanswered⟩ := (process_obeys.trace hprocess).2
  have hprepared : (prepared net recorded uplink fcntUp).KeepsFor fcntUp :=
    keepsFor_prepared (Session.keepsFor_of_none hnone)
  exact (hanswered.keepsFor hprepared).of_eq (persist_trace hpersist).2

end DataHandling

/-! ## The counter announced last -/

/-- The counter that an operation announces. -/
def DataOperation.announced? : DataOperation → Option UInt32
  | announce counter => some counter
  | _ => none

/-- An operation that concerns an uplink announces at most its counter. -/
theorem DataOperation.Concerns.announced {card : DeviceCard} {fcntUp counter : UInt32}
    {op : DataOperation} (h : op.Concerns card fcntUp) (hannounced : op.announced? = some counter) :
    counter = fcntUp := by
  cases op with
  | clock | wallClock | call | race => cases hannounced
  | announce => exact (Option.some.inj hannounced).symm.trans h

/-- What belongs to the answer of an uplink announces nothing. -/
theorem DataOperation.ServesAnswer.announced {eui : Eui64} {fcntUp : UInt32} {op : DataOperation}
    (h : op.ServesAnswer eui fcntUp) : op.announced? = none := by
  cases op with
  | clock | wallClock | call | race => rfl
  | announce => exact h.elim

/-- The counter announced last after some events, if one was announced before them. -/
def announcedAfter (announced : UInt32) (events : List (Event dataInterface)) : UInt32 :=
  events.foldl (fun last event => event.op.announced?.getD last) announced

theorem announcedAfter_append (announced : UInt32) (first second : List (Event dataInterface)) :
    announcedAfter announced (first ++ second) =
      announcedAfter (announcedAfter announced first) second :=
  List.foldl_append

/-- Events that announce nothing else leave the counter announced last. -/
theorem announcedAfter_eq {announced : UInt32} {events : List (Event dataInterface)}
    (h : ∀ event ∈ events, ∀ counter, event.op.announced? = some counter → counter = announced) :
    announcedAfter announced events = announced := by
  induction events with
  | nil => rfl
  | cons event rest ih =>
    have hfirst : event.op.announced?.getD announced = announced := by
      cases hop : event.op.announced? with
      | none => rfl
      | some counter => exact h event List.mem_cons_self counter hop
    refine (congrArg (announcedAfter · rest) hfirst).trans (ih fun other hmem => ?_)
    exact h other (List.mem_cons_of_mem _ hmem)

namespace DataHandling

variable {net : Network} {device after : Device} {recorded : Session} {uplink : DataUplink}
variable {fcntUp : UInt32} {requests : List MacCommand} {events : List (Event dataInterface)}
variable {result : Except UplinkFailure (Option Downlink)}

/-- A write of the session announces nothing. -/
theorem announced_of_persist {s saved : Session} {forced : Bool}
    (h : (persist net s forced).Trace events saved) :
    ∀ event ∈ events, event.op.announced? = none := by
  intro event hmem
  rw [(persist_obeys.trace h).1 event hmem]
  rfl

/-- An uplink that is carried out is left with its counter, and announces no other. -/
theorem CarriedOut.announced
    (h : CarriedOut net device recorded uplink fcntUp requests events after result)
    (before : UInt32) : after.announced = announcedAfter before events := by
  obtain ⟨processing, writing, _, rfl, hprocess, hpersist, hafter, -⟩ := h.parts
  have hrest : announcedAfter fcntUp (processing ++ writing) = fcntUp := by
    refine announcedAfter_eq fun event hmem counter hop => ?_
    rcases List.mem_append.mp hmem with hprocessing | hwriting
    · exact ((process_obeys.trace hprocess).1 event hprocessing).announced hop
    · rw [announced_of_persist hpersist event hwriting] at hop
      cases hop
  rw [hafter]
  exact hrest.symm

/-- A handled uplink leaves the counter that it announced last. -/
theorem Handled.announced (h : Handled net device uplink events after result) :
    after.announced = announcedAfter device.announced events := by
  cases h with
  | refused | replay | unsaved => rfl
  | repeated examined answer write =>
    refine (announcedAfter_eq fun event hmem counter hop => ?_).symm
    rcases List.mem_append.mp hmem with hanswering | hwriting
    · rw [((resubmit_obeys.trace answer).1 event hanswering).announced] at hop
      cases hop
    · rw [announced_of_persist write event hwriting] at hop
      cases hop
  | restarted examined tells carried =>
    rw [← List.cons_append, announcedAfter_append]
    exact carried.announced _
  | accepted examined carried => exact carried.announced _

end DataHandling

/-! ## The device -/

/-- A repeat with a counter goes on from what a session keeps, if it keeps anything. -/
structure Session.GoesOn (s : Session) (counter : UInt32) : Prop where
  /-- What is kept was not kept for another counter. -/
  keepsFor : s.KeepsFor counter
  /-- What is kept is counted on, and not replaced. -/
  countRepeat : DataHandling.countRepeat s counter =
    let kept := s.confirmation.getD ⟨counter, none, 0⟩
    { kept with resubmits := kept.resubmits + 1 }

/-- Everything that goes by the session of a device is as the session says: the card, the counter
announced last, and the counter of what is kept for repeats. -/
structure Device.Consistent (device : Device) : Prop extends Device.InStep device where
  /-- What is kept is kept for the counter accepted last. -/
  kept : device.session.KeepsFor device.session.progress.fcntUp
  /-- So whatever repeat the device is sent, it goes on from what is kept. -/
  repeats : ∀ (net : Network) (uplink : DataUplink) (counter : UInt32)
    (requests : List MacCommand),
    uplink.examine net device.session = .ok ⟨.resubmit counter, requests⟩ →
      device.session.GoesOn counter

namespace Device

/-- A repeat carries the counter of the session, so what is kept for that counter is kept for it. -/
theorem consistent_of_kept {device : Device} (hstep : device.InStep)
    (hkept : device.session.KeepsFor device.session.progress.fcntUp) : device.Consistent := by
  refine ⟨hstep, hkept, fun net uplink counter requests examined => ?_⟩
  have hkeeps : device.session.KeepsFor counter := by
    rw [DataUplink.eq_of_examine_resubmit examined]
    exact hkept
  exact ⟨hkeeps, DataHandling.countRepeat_of_keepsFor hkeeps⟩

/-- A device whose session was just loaded or joined is consistent. -/
theorem consistent_ofSession {s : Session} (h : s.confirmation = none) :
    (Device.ofSession s).Consistent :=
  consistent_of_kept (inStep_ofSession s) (Session.keepsFor_of_none h)

end Device

/-! ## Calls and runs -/

namespace Handling

open DataHandling

variable {net : Network} {call : Handling}

/-- A call leaves a consistent device consistent. -/
theorem Occurs.consistent (h : call.Occurs net) (hbefore : call.before.Consistent) :
    call.after.Consistent := by
  refine Device.consistent_of_kept (h.inStep hbefore.toInStep) ?_
  obtain ⟨before, uplink, events, after, result⟩ := call
  have hhandled := trace_handle h
  dsimp only at hhandled hbefore ⊢
  cases hhandled with
  | refused | replay | unsaved => exact hbefore.kept
  | @repeated counter _ _ _ _ _ examined answer write =>
    have hsame := (sameUplink_resubmit answer).trans (sameUplink_persist write)
    have hcounted := (resubmit_obeys.trace answer).2.keepsFor rfl
    rw [fcntUp_countRepeat] at hcounted
    rw [hsame.fcntUp, ← DataUplink.eq_of_examine_resubmit examined]
    exact hcounted.of_eq (persist_trace write).2
  | restarted examined tells carried =>
    rw [carried.sameUplink.fcntUp]
    exact carried.keepsFor rfl
  | accepted examined carried =>
    rw [carried.sameUplink.fcntUp]
    exact carried.keepsFor rfl

/-- A call leaves the counter that it announced last. -/
theorem Occurs.announced (h : call.Occurs net) :
    call.after.announced = announcedAfter call.before.announced call.events :=
  (trace_handle h).announced

end Handling

namespace HandlingRun

variable {net : Network} {start last : Device} {calls : List Handling}

/-- A run leaves a consistent device consistent, and so does each of its calls. -/
theorem consistent (run : HandlingRun net start calls last) (hstart : start.Consistent) :
    last.Consistent ∧ ∀ call ∈ calls, call.before.Consistent ∧ call.after.Consistent := by
  obtain ⟨hlast, hcalls⟩ := run.invariant hstart fun _ _ hoccurs hbefore =>
    hoccurs.consistent hbefore
  exact ⟨hlast, fun call hmem => (hcalls call hmem).2⟩

end HandlingRun

end LoraNetwork
