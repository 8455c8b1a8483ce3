import LoraNetwork.Proofs.Uplink.Account
import LoraNetwork.Proofs.Uplink.Restoration

/-!
# Allocated counters and the store

The counter that the store allocates for a shared device is taken, and the one after it is written
back at the end of the call. Whether that has to be is decided by comparing the counter at the end
with the one before the call. If the two agree the write may be left out, and that does no harm as
long as the store holds the counter from before. It may hold another one: an earlier write may have
failed, and a restart has written a zero in between. So a counter that was allocated right after a
restart is lost to the store when it leads back to where the count had been.
-/

namespace LoraNetwork

/-- What a clean session takes to be saved is its progress. -/
theorem Session.Backed.saved_eq_of_clean {s : Session} {record : SessionRecord}
    (h : s.Backed record) (hclean : s.isDirty = false) : s.saved = s.progress := by
  have hheld := h.isDirty_iff.mp hclean
  rw [← h.saved] at hheld
  exact hheld

namespace DataHandling

variable {net : Network} {call : Handling} {recorded before after : Session}
variable {recording rest : List (Event dataInterface)}

/-- Where no write is forced, the downlink counter of a shared device is the one from before. -/
theorem fcntDown_of_not_mustPersist (hshared : after.gatewayId = none)
    (h : mustPersist before after = false) :
    after.progress.fcntDown = before.progress.fcntDown := by
  have hcounter := (Bool.or_eq_false_iff.mp h).1
  rw [hshared] at hcounter
  simpa using hcounter

/-- What is saved stays the same while an uplink is recorded, unless it restarts the count. -/
theorem Recorded.saved_or_honoured
    (h : Recorded net call.before.session call.uplink recording recorded)
    (hevents : call.events = recording ++ rest) :
    recorded.saved = call.before.session.saved ∨ (call.honoured net).isSome = true := by
  cases h with
  | repeated => exact .inl rfl
  | accepted counter => exact .inl rfl
  | restarted examined =>
    right
    simp [Handling.honoured, Handling.verdict, examined, Handling.startsWithWrite, hevents,
      restartWrite]

end DataHandling

namespace Handling

open DataHandling

variable {net : Network} {call : Handling} {record : SessionRecord} {n : UInt32}

/-- The counter that the store allocated last is the one before that of the session. -/
theorem Occurs.taken (h : call.Occurs net) :
    Taken call.before.session call.after.session call.account := by
  cases h.accounted with
  | first recorded attended => exact attended.counters
  | other unrecorded unattended => exact unattended.counters

/-- A call that leaves an allocated counter unwritten ends with the counter that it started from. -/
theorem Occurs.written_or_same (h : call.Occurs net)
    (hbacked : call.before.session.Backed record) (hallocated : n ∈ call.account.allocated)
    (hwrites : WritesSucceed call.events) :
    (record.afterEvents call.events).fcntDown = n + 1 ∨
      call.before.session.progress.fcntDown = n + 1 ∧
        ((call.honoured net).isSome = true ∨ call.before.session.isDirty = true) ∧
        call.after.session.reaches net.config.saveDelta = false := by
  obtain ⟨hshared, htaken⟩ := h.taken n hallocated
  have hheld : (record.afterEvents call.events).fcntDown = call.after.session.saved.fcntDown := by
    rw [(h.backed hbacked).saved]
    rfl
  have hentered : ¬ ∀ event ∈ call.events, event.op.entersAccount = false := by
    intro hquiet
    have hempty : call.account = {} := Account.of_eq_empty hquiet
    rw [hempty] at hallocated
    cases hallocated
  cases h.outcome with
  | refused after events => exact absurd (by simp [events]) hentered
  | unsaved after events =>
    exact absurd (by simp [events, restartWrite, DataOperation.entersAccount]) hentered
  | concluded concluded =>
    obtain ⟨events, record, silent, same, moves, write⟩ := concluded
    have hextends := ((record.backed hbacked).movesOn moves).extends_saved
    rw [events] at hwrites
    rcases write.caught_up hextends hwrites.of_append.2 with hcaught | ⟨hfree, hafter, hnear⟩
    · left
      rw [hheld, ← hcaught]
      exact htaken
    · -- The write was left out, so the counter is the one from before the call.
      have hprofile := (trace_handle h).sameProfile.gatewayId
      rw [hafter] at htaken hheld hprofile ⊢
      have hback := fcntDown_of_not_mustPersist (hprofile.trans hshared) hfree
      have hbefore := hback.symm.trans htaken
      cases hdirty : call.before.session.isDirty with
      | true => exact .inr ⟨hbefore, .inr rfl, hnear⟩
      | false =>
        rw [List.append_assoc] at events
        rcases record.saved_or_honoured events with hsaved | hhonoured
        · left
          rw [hheld, moves.saved, hsaved, hbacked.saved_eq_of_clean hdirty]
          exact hbefore
        · exact .inr ⟨hbefore, .inl hhonoured, hnear⟩

end Handling

namespace HandlingRun

variable {net : Network} {last : Device} {earlier : List Handling} {call : Handling}
variable {record : SessionRecord}

/-- The last call finds the record as the calls before left it. -/
theorem stored_snoc (record : SessionRecord) (earlier : List Handling) (call : Handling) :
    stored record (earlier ++ [call]) = (stored record earlier).afterEvents call.events := by
  simp [stored, List.flatMap_append]

/-- An allocated counter is written back, unless it leads back to where the count had been. Let the
store allocate a downlink counter during a call on a session that was loaded from any record, and
take every write of that call. When the call returns the session counts from the one after it, and
so does the record; or else that was the session's counter before the call, the record did not hold
it since the call restarted the count or the session was dirty before, and neither counter has moved
so far that it had to be written. -/
theorem allocation_written_back {config : ServerConfig} {n : UInt32}
    (run : HandlingRun net (.ofSession (.ofRecord config record)) (earlier ++ [call]) last)
    (hallocated : n ∈ call.account.allocated) (hwrites : WritesSucceed call.events) :
    last.session.progress.fcntDown = n + 1 ∧
      ((stored record (earlier ++ [call])).fcntDown = n + 1 ∨
        call.before.session.progress.fcntDown = n + 1 ∧
          ((call.honoured net).isSome = true ∨ call.before.session.isDirty = true) ∧
          last.session.reaches net.config.saveDelta = false) := by
  obtain ⟨hearlier, hcall, hlast⟩ := run.of_snoc
  have hbacked := hearlier.backed (.ofRecord config record)
  have hwritten := hcall.written_or_same hbacked hallocated hwrites
  rw [hlast, stored_snoc]
  exact ⟨(hcall.taken n hallocated).2, hwritten⟩

end HandlingRun

namespace Sample

/-- The device when several gateways share it, after its first downlink. -/
def sharedRecord : SessionRecord := { record with gatewayId := none, fcntDown := 1 }

/-- The device when its session was just loaded. -/
def sharedDevice : Device := .ofSession (.ofRecord {} sharedRecord)

/-- The answers while no time passes, the store takes every write and allocates always the same
counter, and nobody else can be reached. -/
def allocating (counter : UInt32) : (op : DataOperation) → op.Answer
  | .race (.allocate ..) _ => some (.ok (some counter))
  | op => answers (.ok ()) op

end Sample

namespace HandlingRun

/-- The counter allocated for the acknowledgement of a new uplink is written back. -/
theorem allocation_written_back_for_new_uplink :
    let call := Handling.answeredBy Sample.network (Sample.allocating 7) Sample.sharedDevice
      (Sample.uplink .confirmedDataUp 5)
    7 ∈ call.account.allocated ∧ call.after.session.progress.fcntDown = 8 ∧
      (stored Sample.sharedRecord [call]).fcntDown = 8 := by
  intro call
  have hcall : call.Occurs Sample.network := Handling.occurs_answeredBy _ _ _ _
  have hrun : HandlingRun Sample.network Sample.sharedDevice ([] ++ [call]) call.after :=
    .cons hcall (.nil _)
  have hallocated : 7 ∈ call.account.allocated := by decide +kernel
  have hwrites : WritesSucceed call.events := by decide +kernel
  obtain ⟨hcounter, hheld⟩ := allocation_written_back hrun hallocated hwrites
  have hmoved : call.before.session.progress.fcntDown ≠ 7 + 1 := by decide +kernel
  rcases hheld with hheld | ⟨hsame, -⟩
  · exact ⟨hallocated, hcounter, hheld⟩
  · exact absurd hsame hmoved

/-- An allocated counter is not always written back. The count was at one, a restart writes a zero,
the counter zero is allocated, and the session is at one again. No write is forced, and the record
keeps the zero. -/
theorem exists_allocation_not_written_back :
    ∃ call last, HandlingRun Sample.network Sample.sharedDevice [call] last ∧
      0 ∈ call.account.allocated ∧ WritesSucceed call.events ∧
      last.session.progress.fcntDown = 1 ∧
      (stored Sample.sharedRecord [call]).fcntDown = 0 := by
  let call := Handling.answeredBy Sample.network (Sample.allocating 0) Sample.sharedDevice
    (Sample.uplink .confirmedDataUp 0)
  have hcall : call.Occurs Sample.network := Handling.occurs_answeredBy _ _ _ _
  refine ⟨call, call.after, .cons hcall (.nil _), ?_, ?_, ?_, ?_⟩ <;> decide +kernel

end HandlingRun

end LoraNetwork
