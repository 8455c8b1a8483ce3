import LoraNetwork.Proofs.Uplink.Stored
import Mathlib.Data.Nat.Dist

/-!
# What is lost when a session is loaded again

How far the counters of a session can get from those in the store while the store takes every write.
A write is decided on once, at the end of a call: it may be left out as long as neither counter has
moved by the threshold, and otherwise everything is written. A session that is loaded from the
record later is no further behind, provided that loading does not itself honour a reset; and without
a reset that waits at the start, none ever comes to wait.
-/

namespace LoraNetwork

/-- The store took every write among the events. -/
def WritesSucceed (events : List (Event dataInterface)) : Prop :=
  ∀ event ∈ events, event.op.writes = true → event.written?.isSome = true

instance (events : List (Event dataInterface)) : Decidable (WritesSucceed events) :=
  inferInstanceAs (Decidable (∀ event ∈ events, _ → _))

theorem WritesSucceed.of_append {first second : List (Event dataInterface)}
    (h : WritesSucceed (first ++ second)) : WritesSucceed first ∧ WritesSucceed second := by
  constructor
  · intro event hmem
    exact h event (List.mem_append_left _ hmem)
  · intro event hmem
    exact h event (List.mem_append_right _ hmem)

/-- A write leaves the reset that the operator asked for. -/
theorem SessionRecord.resetDesired_afterEvents (record : SessionRecord)
    (events : List (Event dataInterface)) :
    (record.afterEvents events).resetDesired = record.resetDesired := by
  induction events generalizing record with
  | nil => rfl
  | cons event rest ih =>
    have hevent : (record.afterEvent event).resetDesired = record.resetDesired := by
      unfold afterEvent
      split
      · split <;> rfl
      · rfl
    rw [afterEvents_cons, ih, hevent]

namespace Session

variable {s after : Session} {record : SessionRecord} {threshold : UInt32}

/-- Both ways of counting how far apart two counters are agree. -/
theorem toNat_distance (a b : UInt32) : (distance a b).toNat = Nat.dist a.toNat b.toNat := by
  unfold distance
  split
  · rename_i hle
    have hnat := UInt32.le_iff_toNat_le.mp hle
    rw [UInt32.toNat_sub_of_le b a hle, Nat.dist_eq_sub_of_le hnat]
  · rename_i hlt
    have hle := UInt32.le_of_lt (UInt32.not_le.mp hlt)
    have hnat := UInt32.le_iff_toNat_le.mp hle
    rw [UInt32.toNat_sub_of_le a b hle, Nat.dist_eq_sub_of_le_right hnat]

/-- Neither counter has moved so far that it would have to be written. -/
theorem dist_lt_of_not_reaches (h : s.reaches threshold = false) :
    Nat.dist s.progress.fcntUp.toNat s.saved.fcntUp.toNat < threshold.toNat ∧
      Nat.dist s.progress.fcntDown.toNat s.saved.fcntDown.toNat < threshold.toNat := by
  simp only [reaches, Bool.or_eq_false_iff, decide_eq_false_iff_not, UInt32.not_le,
    UInt32.lt_iff_toNat_lt, toNat_distance] at h
  exact h

/-- Where nothing is left to be written no counter has moved. -/
theorem not_reaches_of_eq (hthreshold : 1 ≤ threshold) (h : s.progress = s.saved) :
    s.reaches threshold = false := by
  have hpositive : 0 < threshold.toNat := UInt32.le_iff_toNat_le.mp hthreshold
  simp only [reaches, h, Bool.or_eq_false_iff, decide_eq_false_iff_not, UInt32.not_le,
    UInt32.lt_iff_toNat_lt, toNat_distance, Nat.dist_self]
  exact ⟨hpositive, hpositive⟩

/-- No reset of the operator waits, neither for the session nor for whoever loads it again. -/
structure Undisturbed (s : Session) : Prop where
  /-- The store knows of every reset that was honoured. -/
  reported : s.progress.resetReported = s.saved.resetReported
  /-- None was asked for since. -/
  idle : (s.resetDesired.isSome &&
    Counter.generationAllowsReset s.resetDesired s.progress.resetReported) = false

namespace Undisturbed

/-- A session that was loaded from a record without a pending reset waits for none. -/
theorem ofRecord {config : ServerConfig} (h : pendingReset record = false) :
    (Session.ofRecord config record).Undisturbed := by
  have hprogress : (Session.ofRecord config record).progress = .ofRecord record := by
    simp [Session.ofRecord, h]
  constructor
  · rw [hprogress]
    rfl
  · rw [hprogress]
    exact h

/-- What is done for an uplink that was recorded disturbs nothing. -/
theorem sameUplink (h : s.Undisturbed) (hsame : s.SameUplink after)
    (hsaved : after.saved = s.saved) : after.Undisturbed := by
  have hreported : after.progress.resetReported = s.progress.resetReported := by
    unfold SameUplink at hsame
    rw [hsame]
  have hdesired : after.resetDesired = s.resetDesired := by
    unfold SameUplink at hsame
    rw [hsame]
  constructor
  · rw [hreported, hsaved]
    exact h.reported
  · rw [hdesired, hreported]
    exact h.idle

/-- Nothing waits after a write that brings what is saved up to date. -/
theorem written {delta : SessionDelta} (h : s.Undisturbed)
    (hcaught : s.saved.afterWrite delta = s.progress) : (s.written delta).Undisturbed := by
  constructor
  · have hsaved : (s.written delta).saved = s.progress := hcaught
    rw [hsaved]
    rfl
  · exact h.idle

/-- A restart that is allowed although no reset waits was never asked for by the operator, and uses
up none. -/
theorem restart (h : s.Undisturbed) (hallowed : s.resetAllowed = true) (counter : UInt32) :
    (s.restart counter).Undisturbed := by
  have hgeneration : Counter.generationAllowsReset s.resetDesired s.progress.resetReported = true :=
    (Bool.and_eq_true_iff.mp hallowed).2
  have hdesired : s.resetDesired = none := by
    have hidle := h.idle
    rw [hgeneration, Bool.and_true] at hidle
    exact Option.isNone_iff_eq_none.mp (Option.isSome_eq_false_iff.mp hidle)
  have hreported := resetReported_of_allowed hallowed hdesired
  constructor
  · have hsaved := h.reported
    rw [hreported] at hsaved
    exact hdesired.trans hsaved
  · have hcleared : (s.restart counter).resetDesired = none := hdesired
    rw [hcleared]
    rfl

end Undisturbed

end Session

/-! ## One call -/

namespace DataHandling

open Program

variable {net : Network} {s after : Session} {events : List (Event dataInterface)}

/-- The write at the end disturbs nothing. -/
theorem Persisted.undisturbed {forced : Bool} (h : Persisted net s forced events after)
    (hextends : s.progress.Extends s.saved) (hquiet : s.Undisturbed) : after.Undisturbed := by
  cases h with
  | skipped idle => exact hquiet
  | failed error => exact hquiet
  | written => exact hquiet.written (SessionProgress.afterWrite_deltaFrom hextends)

/-- After the write at the end everything is saved, or nothing forced it and no counter has moved so
far that it would have to be written. -/
theorem Persisted.caught_up {forced : Bool} (h : Persisted net s forced events after)
    (hextends : s.progress.Extends s.saved) (hwrites : WritesSucceed events) :
    after.progress = after.saved ∨
      forced = false ∧ after = s ∧ s.reaches net.config.saveDelta = false := by
  cases h with
  | skipped idle =>
    rcases idle with hempty | ⟨hfree, hnear⟩
    · exact .inl ((SessionProgress.isEmpty_deltaFrom_iff hextends).mp hempty)
    · exact .inr ⟨hfree, rfl, hnear⟩
  | failed error =>
    have hwritten := hwrites _ List.mem_cons_self rfl
    cases hwritten
  | written => exact .inl (SessionProgress.afterWrite_deltaFrom hextends).symm

/-- After the write at the end, no counter has moved so far that it would have to be written. -/
theorem Persisted.not_reaches {forced : Bool} (h : Persisted net s forced events after)
    (hthreshold : 1 ≤ net.config.saveDelta) (hextends : s.progress.Extends s.saved)
    (hwrites : WritesSucceed events) : after.reaches net.config.saveDelta = false := by
  rcases h.caught_up hextends hwrites with hsame | ⟨-, hafter, hnear⟩
  · exact Session.not_reaches_of_eq hthreshold hsame
  · rw [hafter]
    exact hnear

end DataHandling

namespace Session

/-- The counters are near those of the record, and nothing waits that would change them when the
record is loaded. -/
structure Near (threshold : UInt32) (s : Session) (record : SessionRecord) : Prop where
  /-- The record backs the session. -/
  backed : s.Backed record
  /-- No reset waits. -/
  undisturbed : s.Undisturbed
  /-- No counter has moved too far. -/
  not_reaches : s.reaches threshold = false

end Session

namespace DataHandling

variable {net : Network} {s recorded : Session} {uplink : DataUplink}
variable {events : List (Event dataInterface)}

/-- To record an uplink disturbs nothing. -/
theorem Recorded.undisturbed (h : Recorded net s uplink events recorded)
    (hextends : s.progress.Extends s.saved) (hquiet : s.Undisturbed) : recorded.Undisturbed := by
  cases h with
  | repeated => exact hquiet
  | accepted counter => exact ⟨hquiet.reported, hquiet.idle⟩
  | @restarted counter _ examined =>
    have hallowed := DataUplink.resetAllowed_of_examine examined
    have hmoved := (Session.MovesOn.restart counter hallowed).extends_progress.trans hextends
    exact (hquiet.restart hallowed counter).written (afterWrite_restartDelta hmoved)

end DataHandling

namespace Handling

open DataHandling

variable {net : Network} {call : Handling} {record : SessionRecord}

/-- A call whose writes succeed ends near the record if it starts near it. -/
theorem Occurs.near (h : call.Occurs net) (hthreshold : 1 ≤ net.config.saveDelta)
    (hnear : call.before.session.Near net.config.saveDelta record)
    (hwrites : WritesSucceed call.events) :
    call.after.session.Near net.config.saveDelta (record.afterEvents call.events) := by
  have hafter := h.backed hnear.backed
  cases h.outcome with
  | refused after events =>
    rw [after, events]
    exact hnear
  | unsaved after events =>
    rw [after, events]
    exact hnear
  | concluded concluded =>
    obtain ⟨events, recorded, silent, same, moves, write⟩ := concluded
    rw [events] at hwrites
    have hwriting := hwrites.of_append.2
    have hextends := ((recorded.backed hnear.backed).movesOn moves).extends_saved
    have hrecorded := recorded.undisturbed hnear.backed.extends_saved hnear.undisturbed
    have hprocessed := hrecorded.sameUplink same moves.saved
    exact ⟨hafter, write.undisturbed hextends hprocessed,
      write.not_reaches hthreshold hextends hwriting⟩

end Handling

/-! ## Runs -/

namespace HandlingRun

variable {net : Network} {start last : Device} {calls : List Handling} {record : SessionRecord}

/-- What the operator asked for stays the same. -/
theorem resetDesired (run : HandlingRun net start calls last) :
    last.session.resetDesired = start.session.resetDesired := by
  have hprofile := run.sameProfile
  unfold Session.SameProfile at hprofile
  rw [hprofile]

/-- Session and record stay near each other along a run whose writes succeed. -/
theorem near (run : HandlingRun net start calls last) (hthreshold : 1 ≤ net.config.saveDelta)
    (hnear : start.session.Near net.config.saveDelta record)
    (hwrites : ∀ call ∈ calls, WritesSucceed call.events) :
    last.session.Near net.config.saveDelta (stored record calls) := by
  induction run generalizing record with
  | nil device => exact hnear
  | @cons call calls last first rest ih =>
    have hfirst := first.near hthreshold hnear (hwrites call List.mem_cons_self)
    have hrest := ih hfirst fun other hmem => hwrites other (List.mem_cons_of_mem _ hmem)
    rw [stored_cons]
    exact hrest

/-- A session that was loaded without a pending reset starts near its record. -/
theorem near_ofRecord {config : ServerConfig} {threshold : UInt32} (hthreshold : 1 ≤ threshold)
    (hpending : Session.pendingReset record = false) :
    (Session.ofRecord config record).Near threshold record := by
  have hsame : (Session.ofRecord config record).progress =
      (Session.ofRecord config record).saved := by
    simp [Session.ofRecord, hpending]
  exact ⟨.ofRecord config record, .ofRecord hpending, Session.not_reaches_of_eq hthreshold hsame⟩

/-- Little is lost when a session is loaded again. Load a session from a record in which no reset is
pending, and let it handle any uplinks while the store takes every write. After each call both
counters are less than the threshold away from those in the store, and so they are at most one less
than the threshold away from those of a session that is loaded from the store then. -/
theorem restored_counters_near {config : ServerConfig} (config' : ServerConfig)
    (run : HandlingRun net (.ofSession (.ofRecord config record)) calls last)
    (hpending : Session.pendingReset record = false) (hthreshold : 1 ≤ net.config.saveDelta)
    (hwrites : ∀ call ∈ calls, WritesSucceed call.events) :
    let now := last.session.progress
    let held := stored record calls
    let restored := (Session.ofRecord config' held).progress
    (Nat.dist now.fcntUp.toNat held.fcntUp.toNat < net.config.saveDelta.toNat ∧
        Nat.dist now.fcntDown.toNat held.fcntDown.toNat < net.config.saveDelta.toNat) ∧
      Nat.dist now.fcntUp.toNat restored.fcntUp.toNat ≤ net.config.saveDelta.toNat - 1 ∧
      Nat.dist now.fcntDown.toNat restored.fcntDown.toNat ≤ net.config.saveDelta.toNat - 1 := by
  intro now held restored
  have hnear := run.near hthreshold (near_ofRecord hthreshold hpending) hwrites
  have hsaved : last.session.saved = .ofRecord held := hnear.backed.saved
  have hclose := Session.dist_lt_of_not_reaches hnear.not_reaches
  rw [hsaved] at hclose
  -- Loading the record honours no reset, since the session that it backs waits for none.
  have hasked : held.resetDesired = last.session.resetDesired := by
    rw [run.resetDesired]
    exact SessionRecord.resetDesired_afterEvents record _
  have hhonoured : held.resetReported = last.session.progress.resetReported := by
    rw [hnear.undisturbed.reported, hsaved]
    rfl
  have hquiet : Session.pendingReset held = false := by
    rw [Session.pendingReset, hasked, hhonoured]
    exact hnear.undisturbed.idle
  have hrestored : restored = .ofRecord held := by
    simp [restored, Session.ofRecord, hquiet]
  rw [hrestored]
  exact ⟨hclose, Nat.le_pred_of_lt hclose.1, Nat.le_pred_of_lt hclose.2⟩

/-- The first uplink is written. The second has moved by less than the threshold and is not, so a
session that is loaded then is a little behind. -/
theorem restored_counters_near_before_next_write :
    let first := Handling.answeredBy Sample.network (Sample.answers (.ok ())) Sample.device
      (Sample.uplink .unconfirmedDataUp 20)
    let second := Handling.answeredBy Sample.network (Sample.answers (.ok ())) first.after
      (Sample.uplink .unconfirmedDataUp 25)
    let held := stored Sample.record [first, second]
    second.after.session.progress.fcntUp = 25 ∧ held.fcntUp = 20 ∧
      Nat.dist second.after.session.progress.fcntUp.toNat
        (Session.ofRecord {} held).progress.fcntUp.toNat ≤ 9 := by
  intro first second held
  have hfirst : first.Occurs Sample.network := Handling.occurs_answeredBy _ _ _ _
  have hsecond : second.Occurs Sample.network := Handling.occurs_answeredBy _ _ _ _
  have hrun : HandlingRun Sample.network Sample.device [first, second] second.after :=
    .cons hfirst (.cons hsecond (.nil _))
  have hpending : Session.pendingReset Sample.record = false := by decide
  have hthreshold : 1 ≤ Sample.network.config.saveDelta := by decide
  have hwrites : ∀ call ∈ [first, second], WritesSucceed call.events := by decide +kernel
  have hnear := restored_counters_near {} hrun hpending hthreshold hwrites
  exact ⟨by decide +kernel, by decide +kernel, hnear.2.1⟩

end HandlingRun

end LoraNetwork
