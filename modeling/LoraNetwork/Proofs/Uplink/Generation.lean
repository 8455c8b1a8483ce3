import LoraNetwork.Proofs.Uplink.Restoration

/-!
# A reset is honoured once

An operator asks for a reset by naming a generation. Loading a session honours the reset: both
counters go back to their starts, and the session reports the generation from then on. No restart
that a device begins by itself changes that, since such a restart is only allowed while no generation
was ever named. The record learns of the generation by the first write that the store takes. Each
call tries that write until then, and afterwards no load of the record honours the reset once more.
-/

namespace LoraNetwork

/-! ## The generation of a session -/

namespace Session

variable {s after : Session} {record : SessionRecord} {told : Bool}

/-- The generation that a session reports once it is loaded. -/
def loadedGeneration (record : SessionRecord) : Option UInt32 :=
  if pendingReset record then record.resetDesired else record.resetReported

/-- Loading a session is what changes the generation that it reports. -/
theorem resetReported_ofRecord (config : ServerConfig) (record : SessionRecord) :
    (ofRecord config record).progress.resetReported = loadedGeneration record := by
  unfold ofRecord loadedGeneration
  dsimp only
  split <;> rfl

/-- Loading a session never goes back to an earlier generation. -/
theorem le_loadedGeneration {generation : UInt32} (h : record.resetReported = some generation) :
    ∃ later, loadedGeneration record = some later ∧ generation ≤ later := by
  unfold loadedGeneration
  cases hpending : pendingReset record with
  | false => exact ⟨generation, h, UInt32.le_refl _⟩
  | true =>
    obtain ⟨hdesired, hallows⟩ := Bool.and_eq_true_iff.mp hpending
    obtain ⟨desired, hasked⟩ := Option.isSome_iff_exists.mp hdesired
    rw [h, hasked] at hallows
    exact ⟨desired, hasked, UInt32.le_of_lt (of_decide_eq_true hallows)⟩

/-- A reset that loading honoured does not wait any longer. -/
theorem not_allows_loadedGeneration (record : SessionRecord) :
    (record.resetDesired.isSome &&
      Counter.generationAllowsReset record.resetDesired (loadedGeneration record)) = false := by
  unfold loadedGeneration
  cases hpending : pendingReset record with
  | false => exact hpending
  | true => exact not_pending_of_usedUp record.resetDesired

/-- The generations that a session goes by, for a record from which it was loaded: whether the store
has been told of the one reported is the only thing that changes. -/
structure Reports (record : SessionRecord) (told : Bool) (s : Session) : Prop where
  /-- It is the session of the device. -/
  devEui : s.devEui = record.devEui
  /-- The operator asks for what the record says. -/
  desired : s.resetDesired = record.resetDesired
  /-- The session reports the generation it was loaded with. -/
  reported : s.progress.resetReported = loadedGeneration record
  /-- It knows whether the store was told. -/
  saved : s.saved.resetReported = if told then loadedGeneration record else record.resetReported

namespace Reports

/-- A session that was just loaded has told the store nothing. -/
theorem ofRecord (config : ServerConfig) (record : SessionRecord) :
    (Session.ofRecord config record).Reports record false :=
  ⟨rfl, rfl, resetReported_ofRecord config record, rfl⟩

/-- A device may start to count again only if nobody ever named a generation. -/
theorem of_resetAllowed (h : s.Reports record told) (hallowed : s.resetAllowed = true) :
    s.relaxed = true ∧ s.resetDesired = none ∧ s.progress.resetReported = none := by
  obtain ⟨hrelaxed, hallows⟩ := Bool.and_eq_true_iff.mp hallowed
  have hidle := not_allows_loadedGeneration record
  rw [← h.reported, ← h.desired, hallows, Bool.and_true] at hidle
  have hdesired := Option.isNone_iff_eq_none.mp (Option.isSome_eq_false_iff.mp hidle)
  exact ⟨hrelaxed, hdesired, resetReported_of_allowed hallowed hdesired⟩

/-- What is done for an uplink that was recorded leaves the generations alone. -/
theorem sameUplink (h : s.Reports record told) (hsame : s.SameUplink after)
    (hsaved : after.saved = s.saved) : after.Reports record told := by
  have hdevice : after.devEui = s.devEui := by
    unfold SameUplink at hsame
    rw [hsame]
  have hdesired : after.resetDesired = s.resetDesired := by
    unfold SameUplink at hsame
    rw [hsame]
  have hreported : after.progress.resetReported = s.progress.resetReported := by
    unfold SameUplink at hsame
    rw [hsame]
  exact ⟨hdevice.trans h.devEui, hdesired.trans h.desired, hreported.trans h.reported,
    hsaved ▸ h.saved⟩

/-- A restart that the session allows reports no generation, as before. -/
theorem restart (h : s.Reports record told) (hallowed : s.resetAllowed = true) (counter : UInt32) :
    (s.restart counter).Reports record told := by
  obtain ⟨-, hdesired, hreported⟩ := h.of_resetAllowed hallowed
  have hsame : (s.restart counter).progress.resetReported = s.progress.resetReported :=
    hdesired.trans hreported.symm
  exact ⟨h.devEui, h.desired, hsame.trans h.reported, h.saved⟩

/-- A write that brings what is saved up to date tells the store. -/
theorem written {delta : SessionDelta} (h : s.Reports record told)
    (hcaught : s.saved.afterWrite delta = s.progress) : (s.written delta).Reports record true := by
  have hsaved : (s.written delta).saved.resetReported = s.progress.resetReported :=
    congrArg SessionProgress.resetReported hcaught
  exact ⟨h.devEui, h.desired, h.reported, hsaved.trans h.reported⟩

/-- Until the store was told of a reset, the generation is among what is left to be written. -/
theorem delta_eq (h : s.Reports record false) (hpending : pendingReset record = true) :
    s.delta.resetReported = record.resetDesired := by
  have hloaded : loadedGeneration record = record.resetDesired := if_pos hpending
  have hreported := h.reported.trans hloaded
  have hunsaved : s.saved.resetReported = record.resetReported := h.saved
  have hne : record.resetDesired ≠ record.resetReported := by
    intro heq
    rw [pendingReset, ← heq, not_pending_of_usedUp] at hpending
    cases hpending
  unfold delta SessionProgress.deltaFrom
  dsimp only
  rw [hreported, hunsaved]
  exact if_neg hne

/-- Whether the record asks for a reset once more depends on whether the store was told. -/
theorem pendingReset_eq {held : SessionRecord} (h : s.Reports record told)
    (hbacked : s.Backed held) (hdesired : held.resetDesired = record.resetDesired) :
    pendingReset held = (pendingReset record && !told) := by
  have hheld : held.resetReported = s.saved.resetReported :=
    (congrArg SessionProgress.resetReported hbacked.saved).symm
  rw [pendingReset, hdesired, hheld, h.saved]
  cases told with
  | true => simpa using not_allows_loadedGeneration record
  | false => simp [pendingReset]

end Reports

end Session

/-! ## One call -/

namespace DataHandling

variable {net : Network} {s recorded after : Session} {uplink : DataUplink}
variable {record : SessionRecord} {told : Bool} {events : List (Event dataInterface)}

/-- The store took a write among the events. -/
def storeTook (events : List (Event dataInterface)) : Bool :=
  events.any fun event => event.written?.isSome

theorem storeTook_append (first second : List (Event dataInterface)) :
    storeTook (first ++ second) = (storeTook first || storeTook second) :=
  List.any_append

/-- Without a write there is none that the store took. -/
theorem storeTook_of_not_writes (h : ∀ event ∈ events, event.op.writes = false) :
    storeTook events = false := by
  refine List.any_eq_false.mpr fun event hmem => ?_
  rw [Event.written?_eq_none (h event hmem)]
  exact Bool.false_ne_true

/-- To record an uplink tells the store only by the write of a restart. -/
theorem Recorded.reports (h : Recorded net s uplink events recorded)
    (hextends : s.progress.Extends s.saved) (hreports : s.Reports record told) :
    recorded.Reports record (told || storeTook events) := by
  cases h with
  | repeated => simpa [storeTook] using hreports
  | accepted counter =>
    have hsame : (s.accept counter).Reports record told :=
      ⟨hreports.devEui, hreports.desired, hreports.reported, hreports.saved⟩
    simpa [storeTook] using hsame
  | @restarted counter _ examined =>
    have hallowed := DataUplink.resetAllowed_of_examine examined
    have hmoved := (Session.MovesOn.restart counter hallowed).extends_progress.trans hextends
    have hwritten : (DataHandling.restarted s counter).Reports record true :=
      (hreports.restart hallowed counter).written (afterWrite_restartDelta hmoved)
    simpa [storeTook, restartWrite, Event.written?] using hwritten

/-- The write at the end tells the store, if it gets through. -/
theorem Persisted.reports {forced : Bool} (h : Persisted net s forced events after)
    (hextends : s.progress.Extends s.saved) (hreports : s.Reports record told) :
    after.Reports record (told || storeTook events) := by
  cases h with
  | skipped idle => simpa [storeTook] using hreports
  | failed error => simpa [storeTook, sessionWrite, Event.written?] using hreports
  | written =>
    have hwritten : (s.written s.delta).Reports record true :=
      hreports.written (SessionProgress.afterWrite_deltaFrom hextends)
    simpa [storeTook, sessionWrite, Event.written?] using hwritten

/-- A write at the end that is forced and has something to say is attempted. -/
theorem Persisted.attempted (h : Persisted net s true events after)
    (hfull : s.delta.resetReported.isSome = true) :
    ∃ answer, events = [sessionWrite s answer] := by
  cases h with
  | skipped idle =>
    rcases idle with hempty | ⟨hfree, -⟩
    · have hnothing : s.delta = {} := of_decide_eq_true hempty
      rw [hnothing] at hfull
      cases hfull
    · cases hfree
  | failed error => exact ⟨_, rfl⟩
  | written => exact ⟨_, rfl⟩

end DataHandling

namespace Handling

open DataHandling

variable {net : Network} {call : Handling} {record held : SessionRecord} {told : Bool}

/-- The store took a write of the call. -/
def isStored (call : Handling) : Bool := storeTook call.events

/-- The call asked the store to take the generation of the reset that the operator asked for. -/
def ReportsReset (record : SessionRecord) (call : Handling) : Prop :=
  ∃ event ∈ call.events, ∃ delta, event.op = .call (.persist record.devEui delta) ∧
    delta.resetReported = record.resetDesired

/-- A call leaves the generations alone, and tells the store if it takes a write. -/
theorem Occurs.reports (h : call.Occurs net) (hbacked : call.before.session.Backed held)
    (hreports : call.before.session.Reports record told) :
    call.after.session.Reports record (told || call.isStored) := by
  rcases h.early_or_concluded with
    ⟨-, hafter, hevents | ⟨counter, error, hevents⟩⟩ |
      ⟨hevents, hrecord, hsilent, hsame, hmoves, hwrite⟩
  · rw [isStored, hafter, hevents]
    simpa [storeTook] using hreports
  · rw [isStored, hafter, hevents]
    simpa [storeTook, restartWrite, Event.written?] using hreports
  · have hextends := ((hrecord.backed hbacked).movesOn hmoves).extends_saved
    have hrecorded := hrecord.reports hbacked.extends_saved hreports
    have hprocessed := hrecorded.sameUplink hsame hmoves.saved
    rw [isStored, hevents, storeTook_append, storeTook_append, storeTook_of_not_writes hsilent,
      Bool.or_false, ← Bool.or_assoc]
    exact hwrite.reports hextends hprocessed

/-- While the store has not been told of a reset, every call that gets so far tells it. -/
theorem Occurs.reportsReset (h : call.Occurs net) (hlate : call.isRejectedEarly = false)
    (hbacked : call.before.session.Backed held)
    (hreports : call.before.session.Reports record false)
    (hpending : Session.pendingReset record = true) : call.ReportsReset record := by
  have hdesired : record.resetDesired.isSome = true := (Bool.and_eq_true_iff.mp hpending).1
  rcases h.early_or_concluded with ⟨hearly, -, -⟩ | hconcluded
  · rw [hlate] at hearly
    cases hearly
  · obtain @⟨recording, answering, writing, recorded, processed, hevents, hrecord, hsilent, hsame,
      hmoves, hwrite⟩ := hconcluded
    have hrecording : storeTook recording = false := by
      cases hrecord with
      | repeated | accepted counter => rfl
      | restarted examined =>
        -- the generation that was named does not allow the device to restart
        have hallowed := DataUplink.resetAllowed_of_examine examined
        obtain ⟨-, hnone, -⟩ := hreports.of_resetAllowed hallowed
        rw [← hreports.desired, hnone] at hdesired
        cases hdesired
    have hrecorded := hrecord.reports hbacked.extends_saved hreports
    rw [hrecording, Bool.or_false] at hrecorded
    have hprocessed := hrecorded.sameUplink hsame hmoves.saved
    have hdelta := hprocessed.delta_eq hpending
    have hfull : processed.delta.resetReported.isSome = true := hdelta ▸ hdesired
    have hforced : mustPersist call.before.session processed = true := by
      rw [mustPersist, hfull, Bool.or_true]
    rw [hforced] at hwrite
    obtain ⟨answer, hwritten⟩ := hwrite.attempted hfull
    refine ⟨sessionWrite processed answer, ?_, processed.delta, ?_, hdelta⟩
    · rw [hevents, hwritten]
      simp
    · rw [← hprocessed.devEui]
      rfl

end Handling

/-! ## Runs -/

namespace HandlingRun

variable {net : Network} {start last : Device} {calls : List Handling}
variable {record held : SessionRecord} {told : Bool}

/-- The generations stay the same along a run, whose writes tell the store. -/
theorem reports (run : HandlingRun net start calls last) (hbacked : start.session.Backed held)
    (hreports : start.session.Reports record told) :
    last.session.Reports record (told || calls.any Handling.isStored) := by
  induction run generalizing held told with
  | nil device => simpa using hreports
  | @cons call calls last first rest ih =>
    have hrest := ih (first.backed hbacked) (first.reports hbacked hreports)
    rw [List.any_cons, ← Bool.or_assoc]
    exact hrest

/-- A reset generation is honoured at most once, on any run of calls of a session that was loaded
from a record. -/
structure HonouredOnce (config : ServerConfig) (record : SessionRecord) (calls : List Handling)
    (s : Session) : Prop where
  /-- A restart is allowed only to a device of which no generation was ever named. -/
  unnamed : s.resetAllowed = true →
    s.relaxed = true ∧ s.resetDesired = none ∧ s.progress.resetReported = none
  /-- With a generation named, no uplink at all is taken for a restart. -/
  unclassified : s.resetDesired.isSome = true → ∀ maxGap incoming confirmed counter,
    Counter.evaluate (s.counterState maxGap) incoming confirmed ≠ .reset counter
  /-- The generation that the session reports is the one it was loaded with. -/
  kept : s.progress.resetReported = (Session.ofRecord config record).progress.resetReported
  /-- That one is no earlier than the one in the record. -/
  grown : ∀ generation, record.resetReported = some generation →
    ∃ later, s.progress.resetReported = some later ∧ generation ≤ later
  /-- A reset that was honoured on loading is reported to the store by every call that gets past the
  checks, until a write got through. -/
  attempted : Session.pendingReset record = true → ∀ earlier call later,
    calls = earlier ++ call :: later → earlier.any Handling.isStored = false →
      call.isRejectedEarly = false → call.ReportsReset record
  /-- Until then, and only until then, the record still asks for the reset. -/
  pending : Session.pendingReset (stored record calls) =
    (Session.pendingReset record && !calls.any Handling.isStored)
  /-- Once a write got through, to load the record again leaves the counters where they are. -/
  reloaded : calls.any Handling.isStored = true → ∀ config',
    (Session.ofRecord config' (stored record calls)).progress = .ofRecord (stored record calls)

/-- Load a session from any record, under any configuration, and let it handle any uplinks with any
answers and any success of the writes: a reset generation is honoured at most once. -/
theorem honoured_once {config : ServerConfig}
    (run : HandlingRun net (.ofSession (.ofRecord config record)) calls last) :
    HonouredOnce config record calls last.session := by
  have hbacked := Session.Backed.ofRecord config record
  have hloaded := Session.Reports.ofRecord config record
  have hreports := run.reports hbacked hloaded
  rw [Bool.false_or] at hreports
  have hpending : Session.pendingReset (stored record calls) =
      (Session.pendingReset record && !calls.any Handling.isStored) :=
    hreports.pendingReset_eq (run.backed hbacked) (SessionRecord.resetDesired_afterEvents record _)
  refine ⟨hreports.of_resetAllowed, ?_, ?_, ?_, ?_, hpending, ?_⟩
  · intro hdesired maxGap incoming confirmed counter hreset
    have hallowed : last.session.resetAllowed = true := (Counter.eq_of_evaluate_eq_reset hreset).1
    obtain ⟨-, hnone, -⟩ := hreports.of_resetAllowed hallowed
    rw [hnone] at hdesired
    cases hdesired
  · rw [hreports.reported, Session.resetReported_ofRecord]
  · intro generation hgeneration
    rw [hreports.reported]
    exact Session.le_loadedGeneration hgeneration
  · intro hasked earlier call later hcalls huntold hlate
    subst hcalls
    obtain ⟨middle, hearlier, hlater⟩ := append_iff.mp run
    have hbefore := hearlier.reports hbacked hloaded
    rw [huntold, Bool.false_or] at hbefore
    cases hlater with
    | cons hcall rest =>
      exact hcall.reportsReset hlate (hearlier.backed hbacked) hbefore hasked
  · intro htold config'
    rw [htold, Bool.not_true, Bool.and_false] at hpending
    simp [Session.ofRecord, hpending]

/-- The third reset is honoured on loading. The first uplink fails to tell the store and the second
does; a session that is loaded then goes on from the counter of the second. -/
theorem honoured_once_after_failed_write :
    let record := { Sample.record with resetDesired := some 3, resetReported := some 2 }
    let start := Device.ofSession (.ofRecord {} record)
    let first := Handling.answeredBy Sample.network (Sample.answers (.error .timeout)) start
      (Sample.uplink .unconfirmedDataUp 5)
    let second := Handling.answeredBy Sample.network (Sample.answers (.ok ())) first.after
      (Sample.uplink .unconfirmedDataUp 6)
    Session.pendingReset record = true ∧ first.ReportsReset record ∧ first.isStored = false ∧
      second.isStored = true ∧ HonouredOnce {} record [first, second] second.after.session ∧
      (Session.ofRecord {} (stored record [first, second])).progress.fcntUp = 6 := by
  intro record start first second
  have hrun : HandlingRun Sample.network start [first, second] second.after :=
    .cons (Handling.occurs_answeredBy _ _ _ _) (.cons (Handling.occurs_answeredBy _ _ _ _) (.nil _))
  have honce : HonouredOnce {} record [first, second] second.after.session := honoured_once hrun
  have hpending : Session.pendingReset record = true := by decide
  have hattempted := honce.attempted hpending [] first [second] rfl rfl (by decide +kernel)
  exact ⟨hpending, hattempted, by decide +kernel, by decide +kernel, honce, by decide +kernel⟩

end HandlingRun

end LoraNetwork
