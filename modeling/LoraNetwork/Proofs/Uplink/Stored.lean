import LoraNetwork.Proofs.Session.Written
import LoraNetwork.Proofs.Uplink.Examination
import LoraNetwork.Proofs.Uplink.Rejection

/-!
# What the store holds

The record of a device beside its session, over a whole run of handled uplinks. Nobody else writes
the record. A write that succeeds changes the fields that its delta names, and one that fails leaves
the record alone. What a session takes to be saved is then what the record holds, whatever became of
the writes so far, and so the session is dirty exactly when its progress is not the one stored.
-/

namespace LoraNetwork

/-! ## Writes -/

/-- The operation writes to the store. -/
def DataOperation.writes : DataOperation → Bool
  | call (.persist ..) | race (.persist ..) _ => true
  | _ => false

/-- The device and the delta of a write that the store took. -/
def Event.written? : Event dataInterface → Option (Eui64 × SessionDelta)
  | ⟨.call (.persist eui delta), .ok _⟩ => some (eui, delta)
  | ⟨.race (.persist eui delta) _, some (.ok _)⟩ => some (eui, delta)
  | _ => none

theorem Event.written?_eq_none {event : Event dataInterface} (h : event.op.writes = false) :
    event.written? = none := by
  obtain ⟨op, answer⟩ := event
  cases op with
  | clock | wallClock | announce counter => rfl
  | call request | race request deadline => cases request <;> first | rfl | cases h

/-- What belongs to the answer of an uplink writes nothing. -/
theorem DataOperation.ServesAnswer.not_writes {eui : Eui64} {fcntUp : UInt32}
    {op : DataOperation} (h : op.ServesAnswer eui fcntUp) : op.writes = false := by
  cases op with
  | clock => rfl
  | wallClock | announce counter => exact h.elim
  | call request | race request deadline => cases request <;> first | rfl | exact h.elim

namespace SessionRecord

variable {record : SessionRecord} {events : List (Event dataInterface)}

/-- The record in the store after an event. -/
def afterEvent (record : SessionRecord) (event : Event dataInterface) : SessionRecord :=
  match event.written? with
  | some (eui, delta) => if eui = record.devEui then delta.applyTo record else record
  | none => record

/-- The record in the store after events, one after the other. -/
def afterEvents (record : SessionRecord) (events : List (Event dataInterface)) : SessionRecord :=
  events.foldl afterEvent record

@[simp] theorem afterEvents_nil : record.afterEvents [] = record := rfl

@[simp] theorem afterEvents_cons (event : Event dataInterface) :
    record.afterEvents (event :: events) = (record.afterEvent event).afterEvents events := rfl

@[simp] theorem afterEvents_append (first second : List (Event dataInterface)) :
    record.afterEvents (first ++ second) = (record.afterEvents first).afterEvents second :=
  List.foldl_append

/-- An event that is no write leaves the record alone. -/
theorem afterEvent_of_not_writes {event : Event dataInterface} (h : event.op.writes = false) :
    record.afterEvent event = record := by
  have hnone := Event.written?_eq_none h
  simp [afterEvent, hnone]

/-- Events without a write leave the record alone. -/
theorem afterEvents_of_not_writes (h : ∀ event ∈ events, event.op.writes = false) :
    record.afterEvents events = record := by
  induction events with
  | nil => rfl
  | cons event rest ih =>
    have hfirst := h event List.mem_cons_self
    have hrest := ih fun other hmem => h other (List.mem_cons_of_mem _ hmem)
    rw [afterEvents_cons, afterEvent_of_not_writes hfirst, hrest]

end SessionRecord

/-! ## Sessions and their records -/

namespace Session

variable {s middle after : Session} {record : SessionRecord} {delta : SessionDelta}

/-- Without a reset that the operator asked for, a restart is allowed only if none was honoured. -/
theorem resetReported_of_allowed (h : s.resetAllowed = true) (hdesired : s.resetDesired = none) :
    s.progress.resetReported = none := by
  cases hreported : s.progress.resetReported with
  | none => rfl
  | some reported =>
    simp [resetAllowed, hdesired, hreported, Counter.generationAllowsReset] at h

/-- A generation that was used up does not allow another reset. -/
theorem not_pending_of_usedUp (generation : Option UInt32) :
    (generation.isSome && Counter.generationAllowsReset generation generation) = false := by
  cases generation with
  | none => rfl
  | some generation => simp [Counter.generationAllowsReset]

/-- What a session takes to be saved is what the record holds, and none of it was cleared since. -/
structure Backed (s : Session) (record : SessionRecord) : Prop where
  /-- The record is that of the device. -/
  devEui : s.devEui = record.devEui
  /-- What is saved is what the record holds. -/
  saved : s.saved = .ofRecord record
  /-- Nothing of it was cleared. -/
  extends_saved : s.progress.Extends s.saved

/-- The session moved on: nothing was written, and nothing was cleared. -/
structure MovesOn (s after : Session) : Prop where
  /-- It is the session of the same device. -/
  profile : s.SameProfile after
  /-- What is saved stays the same. -/
  saved : after.saved = s.saved
  /-- Nothing was cleared. -/
  extends_progress : after.progress.Extends s.progress

namespace MovesOn

theorem refl (s : Session) : s.MovesOn s := ⟨.refl s, rfl, .refl _⟩

theorem trans (h : s.MovesOn middle) (h' : middle.MovesOn after) : s.MovesOn after where
  profile := h.profile.trans h'.profile
  saved := h'.saved.trans h.saved
  extends_progress := h'.extends_progress.trans h.extends_progress

theorem accept (s : Session) (counter : UInt32) : s.MovesOn (s.accept counter) :=
  ⟨rfl, rfl, ⟨id, id⟩⟩

theorem adopt (s : Session) (n : UInt32) : s.MovesOn (s.adopt n) := ⟨rfl, rfl, ⟨id, id⟩⟩

theorem remember (s : Session) (confirmed : Bool) (fcntUp : UInt32) (sent : CachedDownlink) :
    s.MovesOn (DataHandling.remember s confirmed fcntUp sent) := by
  cases confirmed with
  | true => exact ⟨rfl, rfl, ⟨id, id⟩⟩
  | false => exact .refl s

/-- A restart that is allowed clears no generation. -/
theorem restart (counter : UInt32) (h : s.resetAllowed = true) :
    s.MovesOn (s.restart counter) := by
  have hgeneration : s.resetDesired = none → s.progress.resetReported = none :=
    resetReported_of_allowed h
  exact ⟨rfl, rfl, ⟨hgeneration, id⟩⟩

end MovesOn

namespace Backed

/-- A session that was just loaded is backed by its record. -/
theorem ofRecord (config : ServerConfig) (record : SessionRecord) :
    (Session.ofRecord config record).Backed record := by
  refine ⟨rfl, rfl, ?_⟩
  unfold Session.ofRecord
  dsimp only
  split
  · rename_i hpending
    have hdesired : record.resetDesired.isSome = true := (Bool.and_eq_true_iff.mp hpending).1
    constructor
    · intro hnone
      have hcleared : record.resetDesired = none := hnone
      rw [hcleared] at hdesired
      cases hdesired
    · intro hnone
      exact hnone
  · exact .refl _

/-- The record goes on to back a session that moves on. -/
theorem movesOn (h : s.Backed record) (hmoves : s.MovesOn after) : after.Backed record := by
  have hprofile := hmoves.profile
  have hextends := hmoves.extends_progress.trans h.extends_saved
  have heui : after.devEui = s.devEui := by
    unfold SameProfile at hprofile
    rw [hprofile]
  rw [← hmoves.saved] at hextends
  exact ⟨heui.trans h.devEui, hmoves.saved.trans h.saved, hextends⟩

/-- A write that brings what is saved up to date brings the record up to date as well. -/
theorem written (h : s.Backed record) (hwhole : SessionProgress.WritesWhole delta)
    (hcaught : s.saved.afterWrite delta = s.progress) :
    (s.written delta).Backed (delta.applyTo record) := by
  have hsaved : (s.written delta).saved = .ofRecord (delta.applyTo record) := by
    rw [SessionProgress.ofRecord_applyTo hwhole, ← h.saved]
    rfl
  have hextends : (s.written delta).progress.Extends (s.written delta).saved := by
    have hcurrent : (s.written delta).saved = s.progress := hcaught
    rw [hcurrent]
    exact .refl _
  exact ⟨h.devEui, hsaved, hextends⟩

/-- A session with a record is dirty unless its progress is the one stored. -/
theorem isDirty_iff (h : s.Backed record) :
    s.isDirty = false ↔ SessionProgress.ofRecord record = s.progress := by
  have hempty := SessionProgress.isEmpty_deltaFrom_iff h.extends_saved
  rw [← h.saved]
  constructor
  · intro hclean
    have hdelta : (s.progress.deltaFrom s.saved).isEmpty = true := by
      simpa [isDirty, delta] using hclean
    exact (hempty.mp hdelta).symm
  · intro hsame
    have hdelta := hempty.mpr hsame.symm
    simp [isDirty, Session.delta, hdelta]

end Backed

end Session

/-! ## One call -/

namespace DataHandling

open Program

variable {net : Network} {timer : WindowTimer} {s after : Session} {uplink : DataUplink}
variable {fcntUp : UInt32} {requests : List MacCommand} {record : SessionRecord}
variable {events : List (Event dataInterface)}

/-- To process an uplink writes nothing. -/
theorem process_not_writes :
    (process net s uplink fcntUp requests).Obeys (fun op : DataOperation => op.writes = false)
      fun _ => True := by
  refine obeys_bind.mpr ((answersTo_obeys _ _).mono ?_ fun answers _ => ?_)
  · intro op hclock
    rw [hclock]
    rfl
  · refine obeys_bind.mpr (forward_sends.mono ?_ fun _ _ => ?_)
    · intro op hsends
      obtain ⟨telemetry, hop⟩ := hsends
      rw [hop]
      rfl
    · exact respond_obeys.mono (fun _ => DataOperation.ServesAnswer.not_writes) fun _ _ => trivial

/-- The first answer moves a session on. -/
theorem Answered.movesOn {commands : List MacCommand} {result : Session × Processed}
    (h : Answered net timer s uplink fcntUp commands result) : s.MovesOn result.1 := by
  cases h with
  | silent => exact .refl s
  | drawn own delivered =>
    cases delivered with
    | wasted => exact .adopt s _
    | sent answer => exact (Session.MovesOn.adopt s _).trans (.remember _ _ _ _)

/-- The answer to a repeat moves a session on. -/
theorem Repeated.movesOn {kept : Confirmation} {result : Session × Processed}
    (h : Repeated net timer s uplink kept result) : s.MovesOn result.1 := by
  cases h <;> exact ⟨rfl, rfl, ⟨id, id⟩⟩

/-- Adaptive data rate does not take commanded settings back. -/
theorem adr_adaptIfAsked (h : (adaptIfAsked net s uplink fcntUp).1.progress.adr = none) :
    s.progress.adr = none := by
  unfold adaptIfAsked Session.adapt at h
  split at h
  · split at h
    · exact h
    · dsimp only at h
      split at h
      · exact h
      · split at h
        · exact h
        · cases h
  · exact h

/-- What comes before the first answer moves a session on. -/
theorem movesOn_prepared (net : Network) (s : Session) (uplink : DataUplink) (fcntUp : UInt32) :
    s.MovesOn (prepared net s uplink fcntUp) := by
  have hprepared := prepared_eq net s uplink fcntUp
  have hadr : (prepared net s uplink fcntUp).progress.adr =
      (adaptIfAsked net s uplink fcntUp).1.progress.adr := by
    unfold prepared expectRepeats
    split <;> rfl
  have hsaved : (prepared net s uplink fcntUp).saved = s.saved := by rw [hprepared]
  have hreported : (prepared net s uplink fcntUp).progress.resetReported =
      s.progress.resetReported := by rw [hprepared]
  refine ⟨(sameUplink_prepared net s uplink fcntUp).profile, hsaved, ?_, ?_⟩
  · intro hnone
    rw [← hreported]
    exact hnone
  · intro hnone
    rw [hadr] at hnone
    exact adr_adaptIfAsked hnone

/-- To process an uplink moves its session on. -/
theorem movesOn_process {result : Session × Processed}
    (h : (process net s uplink fcntUp requests).Trace events result) : s.MovesOn result.1 := by
  obtain ⟨commands, hanswered⟩ := (process_obeys.trace h).2
  exact (movesOn_prepared net s uplink fcntUp).trans hanswered.movesOn

/-- To answer a repeat moves its session on. -/
theorem movesOn_resubmit {result : Session × Processed}
    (h : (resubmit net s uplink fcntUp).Trace events result) : s.MovesOn result.1 := by
  have hcounted : s.MovesOn (counted s fcntUp) := ⟨rfl, rfl, ⟨id, id⟩⟩
  exact hcounted.trans (resubmit_obeys.trace h).2.movesOn

/-- The write of a session and its answer. -/
def sessionWrite (s : Session) (answer : Except StoreError Unit) : Event dataInterface :=
  ⟨.call (.persist s.devEui s.delta), answer⟩

/-- The ways in which the write at the end can go. -/
inductive Persisted (net : Network) (s : Session) (forced : Bool) :
    List (Event dataInterface) → Session → Prop where
  /-- There is nothing to write, or it can wait. -/
  | skipped (idle : s.delta.isEmpty = true ∨
      forced = false ∧ s.reaches net.config.saveDelta = false) : Persisted net s forced [] s
  /-- The store does not take the write. -/
  | failed (error : StoreError) : Persisted net s forced [sessionWrite s (.error error)] s
  /-- The store takes the write. -/
  | written : Persisted net s forced [sessionWrite s (.ok ())] (s.written s.delta)

/-- The write at the end goes in one of these ways. -/
theorem persisted_of_trace {forced : Bool} (h : (persist net s forced).Trace events after) :
    Persisted net s forced events after := by
  unfold persist at h
  split at h
  · rename_i hidle
    have hskip : forced = false ∧ s.reaches net.config.saveDelta = false := by simpa using hidle
    obtain ⟨rfl, rfl⟩ := trace_done.mp h
    exact .skipped (.inr hskip)
  · dsimp only at h
    split at h
    · rename_i hempty
      obtain ⟨rfl, rfl⟩ := trace_done.mp h
      exact .skipped (.inl hempty)
    · obtain ⟨answer, first, second, hwrite, hend, rfl⟩ := trace_bind.mp h
      obtain ⟨answer', later, rfl, hdone⟩ := trace_perform.mp hwrite
      obtain ⟨rfl, rfl⟩ := trace_done.mp hdone
      cases answer with
      | ok _ =>
        obtain ⟨rfl, rfl⟩ := trace_done.mp hend
        exact .written
      | error error =>
        obtain ⟨rfl, rfl⟩ := trace_done.mp hend
        exact .failed error

/-- The write at the end keeps session and record together, whatever becomes of it. -/
theorem Persisted.backed {forced : Bool} (h : Persisted net s forced events after)
    (hbacked : s.Backed record) : after.Backed (record.afterEvents events) := by
  cases h with
  | skipped idle => exact hbacked
  | failed error => exact hbacked
  | written =>
    have happlied : record.afterEvents [sessionWrite s (.ok ())] = s.delta.applyTo record := by
      simp [SessionRecord.afterEvent, sessionWrite, Event.written?, hbacked.devEui]
    rw [happlied]
    exact hbacked.written (SessionProgress.writesWhole_deltaFrom _ _)
      (SessionProgress.afterWrite_deltaFrom hbacked.extends_saved)

/-- After a restart was written, what is saved is the progress as it is then. -/
theorem afterWrite_restartDelta (h : s.progress.Extends s.saved) :
    s.saved.afterWrite (restartDelta s) = s.progress := by
  have hgeneration := SessionProgress.or_changedOption h.resetReported
  have hchanged := SessionProgress.or_changedOption h.adr
  have hsettings : SessionProgress.deltaSettings (restartDelta s) =
      SessionProgress.changedOption s.progress.adr s.saved.adr :=
    SessionProgress.deltaSettings_of_map rfl rfl rfl
  unfold SessionProgress.afterWrite
  rw [hsettings, hchanged]
  simp [restartDelta, Session.delta, SessionProgress.deltaFrom, hgeneration]

/-- The write of a restart keeps session and record together. -/
theorem backed_restarted (counter : UInt32) (hbacked : s.Backed record)
    (hallowed : s.resetAllowed = true) :
    (restarted s counter).Backed (record.afterEvents [restartWrite s counter (.ok ())]) := by
  have hmoved := hbacked.movesOn (.restart counter hallowed)
  have happlied : record.afterEvents [restartWrite s counter (.ok ())] =
      (restartDelta (s.restart counter)).applyTo record := by
    simp [SessionRecord.afterEvent, restartWrite, Event.written?, hbacked.devEui]
  have hcaught := afterWrite_restartDelta hmoved.extends_saved
  rw [happlied]
  exact hmoved.written ⟨_, rfl, rfl, rfl⟩ hcaught

/-- What is recorded of an uplink before it is answered, and the write that this takes. -/
inductive Recorded (net : Network) (s : Session) (uplink : DataUplink) :
    List (Event dataInterface) → Session → Prop where
  /-- Of a repeat nothing is recorded. -/
  | repeated : Recorded net s uplink [] s
  /-- A new counter. -/
  | accepted (counter : UInt32) : Recorded net s uplink [] (s.accept counter)
  /-- A restart, which the store took. -/
  | restarted {counter : UInt32} {requests : List MacCommand}
      (examined : uplink.examine net s = .ok ⟨.reset counter, requests⟩) :
      Recorded net s uplink [restartWrite s counter (.ok ())] (restarted s counter)

/-- To record an uplink keeps session and record together. -/
theorem Recorded.backed {recorded : Session} (h : Recorded net s uplink events recorded)
    (hbacked : s.Backed record) : recorded.Backed (record.afterEvents events) := by
  cases h with
  | repeated => exact hbacked
  | accepted counter => exact hbacked.movesOn (.accept s counter)
  | @restarted counter _ examined =>
    exact backed_restarted counter hbacked (DataUplink.resetAllowed_of_examine examined)

end DataHandling

namespace Handling

open DataHandling

variable {net : Network} {call : Handling} {record : SessionRecord}

/-- The uplink was recorded and answered, and then the session was written, if need be. -/
inductive Concluded (net : Network) (call : Handling) : Prop where
  /-- What was recorded, what the answer led to, and the write. -/
  | intro {recording answering writing : List (Event dataInterface)} {recorded processed : Session}
      (events : call.events = recording ++ answering ++ writing)
      (record : Recorded net call.before.session call.uplink recording recorded)
      (silent : ∀ event ∈ answering, event.op.writes = false)
      (same : recorded.SameUplink processed) (moves : recorded.MovesOn processed)
      (write : Persisted net processed (mustPersist call.before.session processed) writing
        call.after.session)

/-- The ways in which a call can treat session and store. -/
inductive Outcome (net : Network) (call : Handling) : Prop where
  /-- The uplink was refused. -/
  | refused (after : call.after.session = call.before.session) (events : call.events = [])
  /-- The uplink restarts the count, but the store does not take the restart. -/
  | unsaved {counter : UInt32} {error : StoreError}
      (after : call.after.session = call.before.session)
      (events : call.events = [restartWrite call.before.session counter (.error error)])
  /-- The uplink was recorded and answered, and then the session was written, if need be. -/
  | concluded (concluded : call.Concluded net)

/-- A call that carries an uplink out records it first. -/
theorem Concluded.of_carriedOut {recording told rest : List (Event dataInterface)}
    {recorded : Session} {counter : UInt32} {requests : List MacCommand}
    (hrecorded : Recorded net call.before.session call.uplink recording recorded)
    (htold : ∀ event ∈ told, event.op.writes = false)
    (hcarried : CarriedOut net call.before recorded call.uplink counter requests rest call.after
      call.result)
    (hevents : call.events = recording ++ told ++ rest) : call.Concluded net := by
  obtain ⟨processing, writing, answered, hrest, hprocess, hpersist, -, -⟩ := hcarried.parts
  have hsilent : ∀ event ∈ told ++ ⟨.announce counter, ()⟩ :: processing,
      event.op.writes = false := by
    intro event hmem
    rcases List.mem_append.mp hmem with hmem | hmem
    · exact htold event hmem
    · rcases List.mem_cons.mp hmem with hannounce | hmem
      · rw [hannounce]
        rfl
      · exact (process_not_writes.trace hprocess).1 event hmem
  refine .intro ?_ hrecorded hsilent (sameUplink_process hprocess) (movesOn_process hprocess)
    (persisted_of_trace hpersist)
  rw [hevents, hrest]
  simp

/-- A call fails early with an unchanged session, or it is concluded. -/
theorem Occurs.early_or_concluded (h : call.Occurs net) :
    call.isRejectedEarly = true ∧ call.after.session = call.before.session ∧
        (call.events = [] ∨ ∃ counter error,
          call.events = [restartWrite call.before.session counter (.error error)]) ∨
      call.Concluded net := by
  obtain ⟨before, uplink, events, after, result⟩ := call
  have hhandled := trace_handle h
  dsimp only at hhandled
  cases hhandled with
  | refused examined => exact .inl ⟨rfl, rfl, .inl rfl⟩
  | replay examined => exact .inl ⟨rfl, rfl, .inl rfl⟩
  | unsaved examined => exact .inl ⟨rfl, rfl, .inr ⟨_, _, rfl⟩⟩
  | repeated examined answer write =>
    have hsilent := fun event hmem => ((resubmit_obeys.trace answer).1 event hmem).not_writes
    exact .inr (.intro rfl .repeated hsilent (sameUplink_resubmit answer) (movesOn_resubmit answer)
      (persisted_of_trace write))
  | restarted examined tells carried =>
    refine .inr (.of_carriedOut (.restarted examined) ?_ carried rfl)
    intro event hmem
    obtain ⟨_, _, hop⟩ := tells event hmem
    rw [hop]
    rfl
  | @accepted counter _ _ _ _ examined carried =>
    have hevents : events = [] ++ [] ++ events := rfl
    exact .inr (.of_carriedOut (.accepted counter) (by simp) carried hevents)

/-- Every call goes one of these ways. -/
theorem Occurs.outcome (h : call.Occurs net) : call.Outcome net := by
  rcases h.early_or_concluded with ⟨-, hafter, hevents | ⟨counter, error, hevents⟩⟩ | hconcluded
  · exact .refused hafter hevents
  · exact .unsaved hafter hevents
  · exact .concluded hconcluded

/-- Every call leaves session and record together. -/
theorem Occurs.backed (h : call.Occurs net) (hbacked : call.before.session.Backed record) :
    call.after.session.Backed (record.afterEvents call.events) := by
  cases h.outcome with
  | refused after events =>
    rw [after, events]
    exact hbacked
  | unsaved after events =>
    rw [after, events]
    exact hbacked
  | concluded concluded =>
    obtain ⟨events, recorded, silent, same, moves, write⟩ := concluded
    have hprocessed := (recorded.backed hbacked).movesOn moves
    rw [events, SessionRecord.afterEvents_append, SessionRecord.afterEvents_append,
      SessionRecord.afterEvents_of_not_writes silent]
    exact write.backed hprocessed

end Handling

/-! ## Runs -/

namespace HandlingRun

variable {net : Network} {start last : Device} {calls : List Handling} {record : SessionRecord}

/-- The record in the store after calls, if nobody else writes it. -/
def stored (record : SessionRecord) (calls : List Handling) : SessionRecord :=
  record.afterEvents (calls.flatMap Handling.events)

/-- The calls after the first find the record as the first left it. -/
theorem stored_cons (record : SessionRecord) (call : Handling) (calls : List Handling) :
    stored record (call :: calls) = stored (record.afterEvents call.events) calls := by
  simp [stored, List.flatMap_cons]

/-- The record backs the session all along a run. -/
theorem backed (run : HandlingRun net start calls last)
    (hbacked : start.session.Backed record) : last.session.Backed (stored record calls) := by
  induction run generalizing record with
  | nil device => exact hbacked
  | @cons call calls last first rest ih =>
    have hafter := first.backed hbacked
    have hrest := ih hafter
    rw [stored_cons]
    exact hrest

/-- The session of a device tells the truth about what is stored. Load it from any record and let it
handle any uplinks, with any answers and any success of the writes. After each call it is clean
exactly when the record holds its progress: both counters, where they started, the generation of
the reset honoured last, and the commanded settings. -/
theorem clean_iff_stored {config : ServerConfig}
    (run : HandlingRun net (.ofSession (.ofRecord config record)) calls last) :
    last.session.isDirty = false ↔
      SessionProgress.ofRecord (stored record calls) = last.session.progress :=
  (run.backed (.ofRecord config record)).isDirty_iff

end HandlingRun

namespace Sample

/-- The answers while no time passes and the store takes no write but that of a restart. -/
def forgetful : (op : DataOperation) → op.Answer
  | .call (.persist _ delta) => if delta.fcntUpStart.isSome then .ok () else .error .timeout
  | op => answers (.ok ()) op

end Sample

namespace HandlingRun

/-- A write that fails leaves the session dirty and behind it the record as it was; the write of the
restart that follows brings both to the same state. -/
theorem clean_iff_stored_after_restart :
    let first := Handling.answeredBy Sample.network Sample.forgetful Sample.device
      (Sample.uplink .unconfirmedDataUp 20)
    let second := Handling.answeredBy Sample.network Sample.forgetful first.after
      (Sample.uplink .unconfirmedDataUp 0)
    SessionProgress.ofRecord (stored Sample.record [first]) ≠ first.after.session.progress ∧
      SessionProgress.ofRecord (stored Sample.record [first, second]) =
        second.after.session.progress := by
  intro first second
  have hfirst : first.Occurs Sample.network := Handling.occurs_answeredBy _ _ _ _
  have hsecond : second.Occurs Sample.network := Handling.occurs_answeredBy _ _ _ _
  have hone : HandlingRun Sample.network Sample.device [first] first.after :=
    .cons hfirst (.nil _)
  have htwo : HandlingRun Sample.network Sample.device [first, second] second.after :=
    .cons hfirst (.cons hsecond (.nil _))
  have hdirty : first.after.session.isDirty = true := by decide +kernel
  have hclean : second.after.session.isDirty = false := by decide +kernel
  constructor
  · intro hstored
    have hfalse := (clean_iff_stored hone).mpr hstored
    rw [hdirty] at hfalse
    cases hfalse
  · exact (clean_iff_stored htwo).mp hclean

end HandlingRun

end LoraNetwork
