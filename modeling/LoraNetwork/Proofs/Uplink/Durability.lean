import LoraNetwork.Proofs.Uplink.Replay
import LoraNetwork.Proofs.Uplink.Restoration

/-!
# A restart is durable before it is visible

A device that starts to count again is taken at its word only after the store knows. The write of
the restart is the first thing that its uplink leads to, it names both counters and their starts
whether or not they have changed, and nothing else happens if it fails. From then on the call may be
cut off anywhere: whoever loads the session from the store finds it as the restart left it, or, if
the write at the end got through as well, as the call left it.
-/

namespace LoraNetwork

/-! ## Loading what was written -/

namespace Session

variable {s after : Session} {record : SessionRecord}

/-- The generation of the reset that the operator asked for last is used up. -/
def UsedUp (s : Session) : Prop := s.progress.resetReported = s.resetDesired

/-- What is done for an uplink that was recorded leaves the generation used up. -/
theorem UsedUp.sameUplink (h : s.UsedUp) (hsame : s.SameUplink after) : after.UsedUp := by
  unfold SameUplink at hsame
  rw [hsame]
  exact h

theorem usedUp_restarted (s : Session) (counter : UInt32) :
    (DataHandling.restarted s counter).UsedUp := rfl

/-- A session is loaded as it was, if nothing of it was left unwritten and no reset waits. -/
theorem Backed.progress_ofRecord (h : s.Backed record) (hsaved : s.saved = s.progress)
    (hdesired : record.resetDesired = s.resetDesired) (hused : s.UsedUp) (config : ServerConfig) :
    (Session.ofRecord config record).progress = s.progress := by
  have hheld : SessionProgress.ofRecord record = s.progress := h.saved.symm.trans hsaved
  have hreported : record.resetReported = s.resetDesired := by
    have hprogress : record.resetReported = s.progress.resetReported :=
      congrArg SessionProgress.resetReported hheld
    exact hprogress.trans hused
  have hquiet : pendingReset record = false := by
    rw [pendingReset, hdesired, hreported]
    exact not_pending_of_usedUp s.resetDesired
  rw [← hheld]
  simp [Session.ofRecord, hquiet]

end Session

/-! ## After the write of a restart -/

namespace DataHandling

open Program

variable {net : Network} {device : Device} {s after : Session} {uplink : DataUplink}
variable {counter : UInt32} {requests : List MacCommand} {record : SessionRecord}
variable {events later : List (Event dataInterface)}

/-- What a restart stores is the progress that it leads to. -/
theorem saved_restarted (hbacked : s.Backed record) (hallowed : s.resetAllowed = true) :
    (restarted s counter).saved = (restarted s counter).progress := by
  have hmoved := hbacked.movesOn (.restart counter hallowed)
  exact afterWrite_restartDelta hmoved.extends_saved

/-- After a restart, the events up to the write at the end, that write, and what it was made of. -/
theorem exists_written_of_restart {result : Device × Except UplinkFailure (Option Downlink)}
    (hexamined : uplink.examine net device.session = .ok ⟨.reset counter, requests⟩)
    (h : (handle net device uplink).Trace (restartWrite device.session counter (.ok ()) :: events)
      result) :
    ∃ answering writing processed forced,
      events = answering ++ writing ∧ (∀ event ∈ answering, event.op.writes = false) ∧
        (restarted device.session counter).SameUplink processed ∧
        (restarted device.session counter).MovesOn processed ∧
        Persisted net processed forced writing result.1.session := by
  obtain ⟨ended, outcome⟩ := result
  generalize hevents : restartWrite device.session counter (.ok ()) :: events = all at h
  have hhandled := trace_handle h
  dsimp only at hhandled
  cases hhandled with
  | refused examined | replay examined | repeated examined | accepted examined =>
    rw [hexamined] at examined
    cases examined
  | unsaved examined =>
    have hfirst := (List.cons.inj hevents).1
    have hwritten := congrArg Event.written? hfirst
    simp [restartWrite, Event.written?] at hwritten
  | @restarted _ _ told rest _ _ examined tells carried =>
    rw [hexamined] at examined
    cases examined
    obtain ⟨processing, writing, answered, hrest, hprocess, hpersist, -, -⟩ := carried.parts
    have htold := (List.cons.inj hevents).2
    refine ⟨told ++ ⟨.announce counter, ()⟩ :: processing, writing, answered.1, _, ?_, ?_,
      sameUplink_process hprocess, movesOn_process hprocess, persisted_of_trace hpersist⟩
    · rw [htold, hrest, List.append_assoc, List.cons_append]
    · intro event hmem
      rcases List.mem_append.mp hmem with hmem | hmem
      · obtain ⟨_, _, hop⟩ := tells event hmem
        rw [hop]
        rfl
      · rcases List.mem_cons.mp hmem with hannounce | hmem
        · rw [hannounce]
          rfl
        · exact (process_not_writes.trace hprocess).1 event hmem

/-- A write takes place at once: what was done of it so far is nothing, or all of it. -/
theorem Persisted.nil_or_whole {forced : Bool} {done rest : List (Event dataInterface)}
    (h : Persisted net s forced (done ++ rest) after) : done = [] ∨ rest = [] := by
  cases done with
  | nil => exact .inl rfl
  | cons event done =>
    right
    generalize hevents : event :: done ++ rest = all at h
    cases h with
    | skipped idle => cases hevents
    | failed error | written =>
      have htail := (List.cons.inj hevents).2
      exact (List.append_eq_nil_iff.mp htail).2

/-- What there is to answer a program with that was cut off. -/
def unreachable : (op : DataOperation) → op.Answer
  | .clock => (0 : Int)
  | .wallClock => ⟨0, 0⟩
  | .call _ => .error .timeout
  | .race _ _ => none
  | .announce _ => ()

/-- The record at the end of a call that honoured a restart, and how much of the call was needed. -/
theorem Persisted.reloaded {forced : Bool} (h : Persisted net s forced events after)
    (hbacked : s.Backed record) (hdesired : record.resetDesired = s.resetDesired)
    (hused : s.UsedUp) (config : ServerConfig) :
    record.afterEvents events = record ∨
      s.SameUplink after ∧
        (Session.ofRecord config (record.afterEvents events)).progress = after.progress := by
  have hafter := h.backed hbacked
  cases h with
  | skipped idle => exact .inl rfl
  | failed error => exact .inl rfl
  | written =>
    right
    have hcaught := SessionProgress.afterWrite_deltaFrom hbacked.extends_saved
    have hasked := SessionRecord.resetDesired_afterEvents record [sessionWrite s (.ok ())]
    exact ⟨.written s _, hafter.progress_ofRecord hcaught (hasked.trans hdesired) hused config⟩

/-- Whatever was done of events that end in a write, the record is as it was before them, or they
have all been done and the session that is loaded then is as they left it. -/
theorem Persisted.reloaded_of_prefix {forced : Bool}
    {answering writing more : List (Event dataInterface)}
    (h : Persisted net s forced writing after) (hevents : later ++ more = answering ++ writing)
    (hsilent : ∀ event ∈ answering, event.op.writes = false) (hbacked : s.Backed record)
    (hdesired : record.resetDesired = s.resetDesired) (hused : s.UsedUp) (config : ServerConfig) :
    record.afterEvents later = record ∨
      more = [] ∧ s.SameUplink after ∧
        (Session.ofRecord config (record.afterEvents later)).progress = after.progress := by
  rcases List.append_eq_append_iff.mp hevents with ⟨rest, rfl, -⟩ | ⟨done, rfl, rfl⟩
  · exact .inl (SessionRecord.afterEvents_of_not_writes fun event hmem =>
      hsilent event (List.mem_append_left _ hmem))
  · have hanswered : record.afterEvents (answering ++ done) = record.afterEvents done := by
      rw [SessionRecord.afterEvents_append, SessionRecord.afterEvents_of_not_writes hsilent]
    rw [hanswered]
    rcases h.nil_or_whole with rfl | rfl
    · exact .inl rfl
    · rw [List.append_nil] at h
      exact (h.reloaded hbacked hdesired hused config).imp_right fun hloaded => ⟨rfl, hloaded⟩

/-- Whatever was done since the write of a restart, a session that is loaded then is as the restart
left it, or the call has ended and it is as the call left it. -/
theorem progress_ofRecord_of_restart
    {remaining : DataHandling (Device × Except UplinkFailure (Option Downlink))}
    (hexamined : uplink.examine net device.session = .ok ⟨.reset counter, requests⟩)
    (hreaches : (handle net device uplink).Reaches
      (restartWrite device.session counter (.ok ()) :: later) remaining)
    (hbacked : device.session.Backed record)
    (hdesired : record.resetDesired = device.session.resetDesired) (config : ServerConfig) :
    let held := record.afterEvents (restartWrite device.session counter (.ok ()) :: later)
    let progress := (Session.ofRecord config held).progress
    progress = (device.session.restart counter).progress ∨
      ∃ after result, remaining = .done (after, result) ∧
        (restarted device.session counter).SameUplink after.session ∧
        progress = after.session.progress := by
  intro held progress
  have hallowed := DataUplink.resetAllowed_of_examine hexamined
  -- Record and session right after the write of the restart.
  let first := record.afterEvents [restartWrite device.session counter (.ok ())]
  have hfirst : (restarted device.session counter).Backed first :=
    backed_restarted counter hbacked hallowed
  have hasked : first.resetDesired = device.session.resetDesired :=
    (SessionRecord.resetDesired_afterEvents record _).trans hdesired
  have hheld : held = first.afterEvents later := rfl
  obtain ⟨more, result, hmore, htrace⟩ := hreaches.exists_trace unreachable
  obtain ⟨answering, writing, processed, forced, hevents, hsilent, hsame, hmoves, hwriting⟩ :=
    exists_written_of_restart hexamined htrace
  have hprocessed : first.resetDesired = processed.resetDesired := by
    have hprofile := hsame.profile
    unfold Session.SameProfile at hprofile
    rw [hasked, hprofile]
    rfl
  have hused := (Session.usedUp_restarted _ _).sameUplink hsame
  -- What is still to come decides whether the write at the end has taken place.
  rcases hwriting.reloaded_of_prefix hevents hsilent (hfirst.movesOn hmoves) hprocessed hused
    config with hunwritten | ⟨rfl, hafter, hloaded⟩
  · left
    have hloaded := hfirst.progress_ofRecord (saved_restarted hbacked hallowed) hasked
      (Session.usedUp_restarted _ _) config
    rw [← hunwritten, ← hheld] at hloaded
    exact hloaded
  · right
    rw [← hheld] at hloaded
    exact ⟨result.1, result.2, eq_done_of_trace_nil hmore, hsame.trans hafter, hloaded⟩

end DataHandling

namespace HandlingRun

open DataHandling

variable {net : Network} {device : Device} {uplink : DataUplink}
variable {counter : UInt32} {requests : List MacCommand}

/-- A restart is durable before it is visible. Let an uplink of any session restart the count. The
first thing that is done is one write, which names the counter of the uplink as the last counter and
as the start of the count, a zero for the next downlink and for its start, and whatever else is not
yet saved. If the write fails nothing else is done, and the device stays as it is. Suppose that it
succeeds and that the record of a session from the store has had no other writer. Cut the call off
wherever you like: a session that is loaded from the record then counts from the restart. It is as
the restart left it, or else the call has ended and it is as the call left it. -/
theorem restart_durable
    (hexamined : uplink.examine net device.session = .ok ⟨.reset counter, requests⟩) :
    let delta : SessionDelta :=
      { (device.session.restart counter).delta with
        fcntUp := some counter
        fcntDown := some 0
        fcntUpStart := some counter
        fcntDownStart := some 0 }
    ∃ next : Except StoreError Unit →
        DataHandling (Device × Except UplinkFailure (Option Downlink)),
      handle net device uplink = .perform (.call (.persist device.session.devEui delta)) next ∧
        (∀ error, next (.error error) =
          .done (device, .error ⟨.backendUnavailable, .counterCheck⟩)) ∧
        ∀ (config config' : ServerConfig) (record : SessionRecord) (calls : List Handling)
          (later : List (Event dataInterface))
          (remaining : DataHandling (Device × Except UplinkFailure (Option Downlink))),
          HandlingRun net (.ofSession (.ofRecord config record)) calls device →
          (next (.ok ())).Reaches later remaining →
          let held := (stored record calls).afterEvents
            (⟨.call (.persist device.session.devEui delta), .ok ()⟩ :: later)
          let progress := (Session.ofRecord config' held).progress
          progress.fcntUp = counter ∧ progress.fcntUpStart = counter ∧
            progress.fcntDownStart = 0 ∧
            (progress = (device.session.restart counter).progress ∨
              ∃ after result, remaining = .done (after, result) ∧
                progress = after.session.progress) := by
  intro delta
  have hhandle := handle.eq_1 net device uplink
  rw [hexamined] at hhandle
  refine ⟨_, hhandle, fun error => rfl, ?_⟩
  intro config config' record calls later remaining run hlater held progress
  have hreaches : (handle net device uplink).Reaches
      (restartWrite device.session counter (.ok ()) :: later) remaining := by
    rw [hhandle]
    exact .answered _ hlater
  have hbacked := run.backed (.ofRecord config record)
  have hdesired : (stored record calls).resetDesired = device.session.resetDesired := by
    rw [run.resetDesired]
    exact SessionRecord.resetDesired_afterEvents record _
  rcases progress_ofRecord_of_restart hexamined hreaches hbacked hdesired config' with
    hloaded | ⟨after, result, hended, hsame, hloaded⟩
  · have hprogress : progress = (device.session.restart counter).progress := hloaded
    rw [hprogress]
    exact ⟨rfl, rfl, rfl, .inl rfl⟩
  · have hprogress : progress = after.session.progress := hloaded
    have hafter : after.session.progress.fcntUp = counter ∧
        after.session.progress.fcntUpStart = counter ∧
        after.session.progress.fcntDownStart = 0 := by
      unfold Session.SameUplink at hsame
      rw [hsame]
      exact ⟨rfl, rfl, rfl⟩
    rw [hprogress]
    exact ⟨hafter.1, hafter.2.1, hafter.2.2, .inr ⟨after, result, hended, rfl⟩⟩

/-- A confirmed uplink restarts the count at one and is acknowledged. Nothing more is written during
the call, and a session that is loaded afterwards has the counters of the restart, not the four and
the seven that the record held before. -/
theorem restart_durable_through_acknowledgement :
    let call := Handling.answeredBy Sample.network (Sample.answers (.ok ())) Sample.device
      (Sample.uplink .confirmedDataUp 1)
    let progress := (Session.ofRecord {} (stored Sample.record [call])).progress
    call.downlink.isSome = true ∧ progress.fcntUp = 1 ∧ progress.fcntUpStart = 1 ∧
      progress.fcntDownStart = 0 := by
  intro call progress
  have hhonoured : call.honoured Sample.network = some 1 := by decide +kernel
  obtain ⟨requests, hexamined⟩ := Handling.examine_of_honoured hhonoured
  obtain ⟨next, hhandle, -, hloaded⟩ := restart_durable hexamined
  have hoccurs : (handle Sample.network call.before call.uplink).Trace call.events
      (call.after, call.result) := Handling.occurs_answeredBy _ _ _ _
  rw [hhandle] at hoccurs
  obtain ⟨answer, later, hevents, hlater⟩ := Program.trace_perform.mp hoccurs
  have hwritten : call.startsWithWrite = true := by decide +kernel
  cases answer with
  | error error => simp [Handling.startsWithWrite, hevents] at hwritten
  | ok _ =>
    obtain ⟨hup, hstart, hdown, -⟩ :=
      hloaded {} {} Sample.record [] later _ (.nil _) hlater
    have hheld : stored Sample.record [call] =
        (stored Sample.record []).afterEvents call.events := by
      simp [stored]
    rw [← hevents, ← hheld] at hup hstart hdown
    exact ⟨by decide +kernel, hup, hstart, hdown⟩

end HandlingRun

end LoraNetwork
