import LoraNetwork.Proofs.Uplink.Run
import LoraNetwork.Proofs.ReceiveWindow

/-!
# Downlinks in time

How much of the time before a receive window the handling of an uplink takes. Requests take as long
as they like; a race against a deadline is over when the deadline is. Before a downlink is assembled
the clock is read, and the window is one that leaves the time that packaging takes. What comes after
that reading is not measured again: messages are settled, a counter may be allocated and the session
is written. So the downlink is in time if all of this is done within the time for packaging, and
comes too late if a collaborator takes longer than the window lasts.
-/

namespace LoraNetwork

/-! ## Time -/

/-- What is left of a delay after a reading may be spent. -/
theorem Instant.since_le_of_le_add {arrival read finish : Instant} {margin delay : Duration}
    (hread : since read arrival + margin ≤ delay) (hfinish : finish ≤ read + (margin : Int)) :
    since finish arrival ≤ delay := by
  unfold since Instant Duration at *
  omega

/-- How an event passes, from an instant to an instant. The clocks answer at once, and so does an
announcement. A request is answered at any time. A race is answered before its deadline and lost
there; one that starts after its deadline is over at once. -/
def DataOperation.Takes (now later : Instant) : Event dataInterface → Prop
  | ⟨.clock, answer⟩ => answer = now ∧ later = now
  | ⟨.wallClock, _⟩ => later = now
  | ⟨.announce _, _⟩ => later = now
  | ⟨.call _, _⟩ => now ≤ later
  | ⟨.race _ deadline, some _⟩ => now ≤ later ∧ later ≤ max now deadline
  | ⟨.race _ deadline, none⟩ => later = max now deadline

instance (now later : Instant) : DecidablePred (DataOperation.Takes now later)
  | ⟨.clock, answer⟩ => inferInstanceAs (Decidable (answer = now ∧ later = now))
  | ⟨.wallClock, _⟩ => inferInstanceAs (Decidable (later = now))
  | ⟨.announce _, _⟩ => inferInstanceAs (Decidable (later = now))
  | ⟨.call _, _⟩ => inferInstanceAs (Decidable (now ≤ later))
  | ⟨.race _ deadline, some _⟩ =>
    inferInstanceAs (Decidable (now ≤ later ∧ later ≤ max now deadline))
  | ⟨.race _ deadline, none⟩ => inferInstanceAs (Decidable (later = max now deadline))

/-- How events pass one after the other. -/
inductive Passes : Instant → List (Event dataInterface) → Instant → Prop where
  /-- Without events no time passes. -/
  | nil (now : Instant) : Passes now [] now
  /-- An event, and then others. -/
  | cons {now later finish : Instant} {event : Event dataInterface}
      {events : List (Event dataInterface)} (first : DataOperation.Takes now later event)
      (rest : Passes later events finish) : Passes now (event :: events) finish

/-- No event goes back in time. -/
theorem DataOperation.Takes.le {now later : Instant} {event : Event dataInterface}
    (h : Takes now later event) : now ≤ later := by
  obtain ⟨op, answer⟩ := event
  cases op with
  | clock => exact Int.le_of_eq h.2.symm
  | wallClock | announce counter => exact Int.le_of_eq (Eq.symm h)
  | call request => exact h
  | race request deadline =>
    cases answer with
    | none => exact h ▸ Int.le_max_left now deadline
    | some answer => exact h.1

namespace Passes

variable {now later finish : Instant} {events first second : List (Event dataInterface)}

/-- Time does not go back. -/
theorem le (h : Passes now events finish) : now ≤ finish := by
  induction h with
  | nil now => exact Int.le_refl now
  | cons first rest ih => exact Int.le_trans first.le ih

/-- Events can be cut anywhere. -/
theorem append_iff :
    Passes now (first ++ second) finish ↔
      ∃ middle, Passes now first middle ∧ Passes middle second finish := by
  induction first generalizing now with
  | nil =>
    constructor
    · intro h
      exact ⟨now, .nil now, h⟩
    · rintro ⟨middle, hfirst, hsecond⟩
      cases hfirst
      exact hsecond
  | cons event rest ih =>
    constructor
    · intro h
      cases h with
      | cons htakes h =>
        obtain ⟨middle, hrest, hsecond⟩ := ih.mp h
        exact ⟨middle, .cons htakes hrest, hsecond⟩
    · rintro ⟨middle, hfirst, hsecond⟩
      cases hfirst with
      | cons htakes hrest => exact .cons htakes (ih.mpr ⟨middle, hrest, hsecond⟩)

/-- How events pass if each operation takes a time of its own. -/
def withLatency (latency : DataOperation → Duration) (now : Instant) :
    List (Event dataInterface) → Option Instant
  | [] => some now
  | event :: rest =>
    let later := now + (latency event.op : Int)
    if DataOperation.Takes now later event then withLatency latency later rest else none

/-- What was computed of the times of events holds of them. -/
theorem of_withLatency (latency : DataOperation → Duration)
    (h : withLatency latency now events = some finish) : Passes now events finish := by
  induction events generalizing now with
  | nil =>
    rw [← Option.some.inj h]
    exact .nil now
  | cons event rest ih =>
    unfold withLatency at h
    dsimp only at h
    split at h
    · rename_i htakes
      exact .cons htakes (ih h)
    · cases h

end Passes

/-! ## The last reading of the clock -/

/-- The operation belongs to what is done after the window was chosen: a message is settled, a
counter is allocated, or the session is written. -/
def DataOperation.closes : DataOperation → Bool
  | call (.settle ..) | call (.persist ..) | race (.allocate ..) _ => true
  | _ => false

/-- Keeps in mind the last reading of the clock, while only what closes the handling follows. -/
def lastReading : Contract dataInterface (Option Instant) where
  allows _ _ := True
  promises _ _ := True
  next
    | _, ⟨.clock, now⟩ => some now
    | reading, ⟨op, _⟩ => if op.closes then reading else none

/-- What is kept in mind was there before, or it is a reading of the clock; and only what closes the
handling followed. -/
theorem reading_of_foldl {events : List (Event dataInterface)} {reading : Option Instant}
    {now : Instant} (h : events.foldl lastReading.next reading = some now) :
    (reading = some now ∧ ∀ event ∈ events, event.op.closes = true) ∨
      ∃ before after, events = before ++ ⟨.clock, now⟩ :: after ∧
        ∀ event ∈ after, event.op.closes = true := by
  induction events generalizing reading with
  | nil => exact .inl ⟨h, by simp⟩
  | cons event rest ih =>
    obtain ⟨hreading, hrest⟩ | ⟨before, after, rfl, hafter⟩ := ih h
    · obtain ⟨op, answer⟩ := event
      by_cases hclock : op = .clock
      · subst hclock
        rw [← Option.some.inj hreading]
        exact .inr ⟨[], rest, rfl, hrest⟩
      · have hnext : lastReading.next reading ⟨op, answer⟩ =
            if op.closes then reading else none := by
          cases op <;> first | rfl | exact absurd rfl hclock
        rw [hnext] at hreading
        split at hreading
        · rename_i hcloses
          exact .inl ⟨hreading, List.forall_mem_cons.mpr ⟨hcloses, hrest⟩⟩
        · cases hreading
    · exact .inr ⟨event :: before, after, rfl, hafter⟩

namespace DataHandling

open Program

variable {net : Network} {timer : WindowTimer} {s : Session} {uplink : DataUplink}
variable {fcntUp : UInt32} {eui : Eui64} {reading : Option Instant}

/-- The downlink of a result leaves the time for packaging before its window, counted from the last
reading of the clock. -/
def InTime {ε : Type} (net : Network) (uplink : DataUplink) (reading : Option Instant)
    (result : Except ε (Option Downlink)) : Prop :=
  ∀ downlink, Downlink.ofResult result = some downlink → ∃ now, reading = some now ∧
    Instant.since now uplink.arrival + Duration.ofMillis net.config.processingTime ≤ downlink.delay

/-- Where nothing is sent nothing comes too late. -/
theorem inTime_of_silent {ε : Type} {result : Except ε (Option Downlink)}
    (h : Downlink.ofResult result = none) : InTime net uplink reading result := by
  intro downlink hdownlink
  rw [h] at hdownlink
  cases hdownlink

/-- Reading the clock keeps the reading in mind. -/
theorem keeps_reading {α : Type} {f : Instant → DataHandling α} {post : Option Instant → α → Prop}
    (h : ∀ now, (f now).Keeps lastReading post (some now)) :
    (clock.bind f).Keeps lastReading post reading :=
  keeps_perform.mpr ⟨trivial, fun now _ => h now⟩

/-- What closes the handling leaves the last reading in mind. -/
theorem keeps_of_closes {α : Type} {p : DataHandling α} {post : α → Prop}
    (h : p.Obeys (fun op : DataOperation => op.closes = true) post) :
    p.Keeps lastReading (fun now value => now = reading ∧ post value) reading := by
  refine h.keeps (· = reading) (fun _ _ _ _ => trivial) ?_ rfl
  rintro state op answer rfl hcloses
  cases op with
  | clock => cases hcloses
  | wallClock | announce counter => cases hcloses
  | call request | race request deadline => exact if_pos hcloses

theorem settle_closes (how : Settlement) (message : Option CloudMessage) :
    (settle how eui message).Obeys (fun op : DataOperation => op.closes = true) fun _ => True := by
  cases message with
  | none => trivial
  | some message => exact obeys_bind.mpr (obeys_call.mpr ⟨rfl, fun _ => trivial⟩)

theorem load_closes (builder : DownlinkBuilder) (message : Option CloudMessage) :
    (load timer eui builder message).Obeys (fun op : DataOperation => op.closes = true)
      fun _ => True := by
  cases message with
  | none => trivial
  | some message =>
    cases hfit : builder.fit message with
    | fits =>
      simp only [load, hfit]
      trivial
    | tooLarge | reservedPort | blocked =>
      simp only [load, hfit]
      exact obeys_bind.mpr ((settle_closes _ _).mono (fun _ h => h) fun _ _ => trivial)

theorem allocate_closes :
    (allocate net timer s fcntUp).Obeys (fun op : DataOperation => op.closes = true)
      fun _ => True := by
  unfold allocate
  split
  · trivial
  · refine obeys_bind.mpr (obeys_race.mpr ⟨rfl, fun answer => ?_⟩)
    split <;> trivial

theorem persist_closes {forced : Bool} :
    (persist net s forced).Obeys (fun op : DataOperation => op.closes = true) fun _ => True := by
  refine persist_obeys.mono ?_ fun _ _ => trivial
  rintro op rfl
  rfl

/-! ## The ways to a downlink -/

section

variable {t : Session} {now : Instant} {window : ReceiveWindow} {params : WindowParams}

/-- A downlink for a window that was chosen by a reading is in time by that reading. -/
theorem inTime_inWindow {preferred : UInt8} {payload : Bytes} {fcntDown : Option UInt32}
    (h : (uplink.timer net t).choose preferred ((uplink.timer net t).elapsed now) = some window) :
    InTime (ε := FailureReason) net uplink (some now) (.ok (some
      (Downlink.inWindow payload (uplink.timer net t) window params uplink.metadata
        fcntDown))) := by
  intro downlink hdownlink
  rw [← Option.some.inj hdownlink]
  exact ⟨now, rfl, WindowTimer.inTime_of_choose h⟩

/-- Once the window is chosen, what is sent is in time by the reading it was chosen by. -/
theorem send_keeps {preferred : UInt8} {n : UInt32} {commands : List MacCommand}
    {offer : CloudOffer} {limit : Nat}
    (h : (uplink.timer net t).choose preferred ((uplink.timer net t).elapsed now) = some window) :
    (send net (uplink.timer net t) s uplink fcntUp n commands offer window params limit).Keeps
      lastReading (fun reading result => InTime net uplink reading result.2) (some now) := by
  refine keeps_bind.mpr ((keeps_of_closes (load_closes _ _)).mono ?_)
  rintro _ ⟨builder, carried⟩ ⟨rfl, -⟩
  dsimp only
  split
  · exact inTime_of_silent rfl
  · split
    · refine keeps_bind.mpr ((keeps_of_closes (settle_closes _ _)).mono ?_)
      rintro _ _ ⟨rfl, -⟩
      exact inTime_of_silent rfl
    · refine keeps_bind.mpr ((keeps_of_closes (settle_closes _ _)).mono ?_)
      rintro _ _ ⟨rfl, -⟩
      exact inTime_inWindow h

/-- The clock is read before a first answer is assembled. -/
theorem deliver_keeps {n : UInt32} {commands : List MacCommand} {offer : CloudOffer} :
    (deliver net (uplink.timer net t) s uplink fcntUp n commands offer).Keeps
      lastReading (fun reading result => InTime net uplink reading result.2) reading := by
  refine keeps_reading fun now => ?_
  split
  · refine keeps_bind.mpr ((keeps_of_closes (settle_closes _ _)).mono ?_)
    rintro _ _ ⟨rfl, -⟩
    exact inTime_of_silent (ofResult_missed _)
  · rename_i window hchosen
    split
    · refine keeps_bind.mpr ((keeps_of_closes (settle_closes _ _)).mono ?_)
      rintro _ _ ⟨rfl, -⟩
      exact inTime_of_silent rfl
    · exact send_keeps hchosen

/-- Whatever is settled at the end, nothing is sent where a first answer fails. -/
theorem settle_silent {how : Settlement} {message : Option CloudMessage}
    {result : Session × Processed} (h : Downlink.ofResult result.2 = none) :
    ((settle how eui message).bind fun _ => done result).Keeps lastReading
      (fun reading result => InTime net uplink reading result.2) reading :=
  keeps_bind.mpr ((keeps_of_closes (settle_closes _ _)).mono fun _ _ _ => inTime_of_silent h)

theorem respond_keeps {commands : List MacCommand} :
    (respond net (uplink.timer net t) s uplink fcntUp commands).Keeps
      lastReading (fun reading result => InTime net uplink reading result.2) reading := by
  refine keeps_reading fun now => ?_
  split
  · exact inTime_of_silent (ofResult_missed _)
  · refine keeps_bind.mpr ((keeps_of_allows (fun _ _ => trivial) _ _).mono fun _ offer _ => ?_)
    split
    · exact inTime_of_silent rfl
    · refine keeps_bind.mpr ((keeps_of_allows (fun _ _ => trivial) _ _).mono ?_)
      rintro _ ⟨drawn, allocation⟩ -
      cases allocation with
      | granted n => exact deliver_keeps
      | elsewhere | failed => exact settle_silent rfl
      | late => exact settle_silent (ofResult_missed _)

theorem process_keeps {requests : List MacCommand} :
    (process net s uplink fcntUp requests).Keeps lastReading
      (fun reading result => InTime net uplink reading result.2) reading := by
  refine keeps_bind.mpr ((keeps_of_allows (fun _ _ => trivial) _ _).mono fun _ answers _ => ?_)
  refine keeps_bind.mpr ((keeps_of_allows (fun _ _ => trivial) _ _).mono fun _ _ _ => ?_)
  exact respond_keeps

/-- A repeat for which nothing was kept is acknowledged in time by the reading that its window was
chosen by. -/
theorem acknowledge_keeps {preferred : UInt8} {kept : Confirmation}
    (h : (uplink.timer net t).choose preferred ((uplink.timer net t).elapsed now) = some window) :
    (acknowledge net (uplink.timer net t) s uplink fcntUp kept window params).Keeps lastReading
      (fun reading result => InTime net uplink reading result.2) (some now) := by
  refine keeps_bind.mpr ((keeps_of_closes allocate_closes).mono ?_)
  rintro _ ⟨drawn, allocation⟩ ⟨rfl, -⟩
  cases allocation with
  | elsewhere | failed | late => exact inTime_of_silent rfl
  | granted n =>
    dsimp only
    split
    · exact inTime_of_silent rfl
    · split
      · exact inTime_of_silent rfl
      · exact inTime_inWindow h

end

theorem resubmit_keeps :
    (resubmit net s uplink fcntUp).Keeps lastReading
      (fun reading result => InTime net uplink reading result.2) reading := by
  unfold resubmit
  dsimp only
  split
  · exact inTime_of_silent rfl
  · refine keeps_reading fun now => ?_
    split
    · exact inTime_of_silent rfl
    · rename_i window hchosen
      split
      · exact inTime_of_silent rfl
      · split
        · exact inTime_inWindow hchosen
        · exact acknowledge_keeps hchosen

/-- The session is written after the last reading. -/
theorem conclude_keeps {before : Session} {device : Device} {result : Session × Processed}
    (h : InTime net uplink reading result.2) :
    (conclude net before device result).Keeps lastReading
      (fun reading outcome => DataHandling.InTime net uplink reading outcome.2) reading := by
  refine keeps_bind.mpr ((keeps_of_closes persist_closes).mono ?_)
  rintro _ saved ⟨rfl, -⟩ downlink hdownlink
  rw [Downlink.ofResult_mapError] at hdownlink
  exact h downlink hdownlink

theorem carryOut_keeps {device : Device} {recorded : Session} {requests : List MacCommand} :
    (carryOut net device recorded uplink fcntUp requests).Keeps lastReading
      (fun reading outcome => DataHandling.InTime net uplink reading outcome.2) reading := by
  refine keeps_bind.mpr ((keeps_of_allows (fun _ _ => trivial) _ _).mono fun _ _ _ => ?_)
  exact keeps_bind.mpr (process_keeps.mono fun _ _ h => conclude_keeps h)

/-- Whatever comes of an uplink, its downlink is in time by the last reading of the clock. -/
theorem handle_inTime {device : Device} :
    (handle net device uplink).Keeps lastReading
      (fun reading outcome => DataHandling.InTime net uplink reading outcome.2) reading := by
  unfold handle
  split
  · exact inTime_of_silent rfl
  · rename_i verdict requests hexamined
    cases verdict with
    | invalid counter => exact inTime_of_silent rfl
    | resubmit counter => exact keeps_bind.mpr (resubmit_keeps.mono fun _ _ h => conclude_keeps h)
    | reset counter =>
      refine keeps_bind.mpr ((keeps_of_allows (fun _ _ => trivial) _ _).mono ?_)
      rintro _ restarted -
      cases restarted with
      | none => exact inTime_of_silent rfl
      | some recorded => exact carryOut_keeps
    | accept counter => exact carryOut_keeps

end DataHandling

/-! ## Whole calls -/

namespace Handling

variable {net : Network} {call : Handling} {downlink : Downlink} {start finish : Instant}

/-- How late a downlink can be. When a call returns a downlink, however long its requests took, the
clock was read before, and by that reading the time for packaging was left before the window. All
that followed was to settle messages, to allocate a counter and to write the session. So if these
took no longer than the time for packaging, the window is not open yet when the call returns. -/
theorem downlink_in_time (occurs : call.Occurs net) (passes : Passes start call.events finish)
    (sent : call.downlink = some downlink) :
    ∃ before after read,
      call.events = before ++ ⟨.clock, read⟩ :: after ∧
        (∀ event ∈ after, event.op.closes = true) ∧
        Passes start before read ∧ Passes read after finish ∧
        Instant.since read call.uplink.arrival + Duration.ofMillis net.config.processingTime ≤
          downlink.delay ∧
        (finish ≤ read + (Duration.ofMillis net.config.processingTime : Int) →
          Instant.since finish call.uplink.arrival ≤ downlink.delay) := by
  have hkeeps : (DataHandling.handle net call.before call.uplink).Keeps lastReading
      (fun reading outcome => DataHandling.InTime net call.uplink reading outcome.2) none :=
    DataHandling.handle_inTime
  obtain ⟨read, hread, hdelay⟩ := hkeeps.trace occurs (fun _ _ => trivial) downlink sent
  obtain ⟨hnone, -⟩ | ⟨before, after, hevents, hafter⟩ := reading_of_foldl hread
  · cases hnone
  · rw [hevents] at passes
    obtain ⟨middle, hbefore, hrest⟩ := Passes.append_iff.mp passes
    cases hrest with
    | @cons _ later _ _ _ htakes hlater =>
      -- The clock answers with the instant at which it is read.
      obtain ⟨hmiddle, hsame⟩ := htakes
      rw [← hmiddle] at hbefore
      rw [hsame, ← hmiddle] at hlater
      exact ⟨before, after, read, hevents, hafter, hbefore, hlater, hdelay,
        Instant.since_le_of_le_add hdelay⟩

end Handling

/-! ## A write that takes too long -/

namespace Sample

/-- The answers while no time passes until the session is written, and nothing waits in the
queue. -/
def quickAnswers : (op : DataOperation) → op.Answer
  | .race (.receive ..) _ => some (.ok none)
  | op => answers (.ok ()) op

/-- The write of the session takes some time, and nothing else does. -/
def slowWrite (time : Duration) : DataOperation → Duration
  | .call (.persist ..) => time
  | _ => 0

/-- A call that ends with a write: its counter is far beyond the last one written. -/
def writing : Handling :=
  .answeredBy network quickAnswers device (uplink .confirmedDataUp 20)

end Sample

namespace Handling

/-- If the write takes a fifth of a second, the downlink is in time. -/
theorem downlink_in_time_of_prompt_write :
    Passes 0 Sample.writing.events 200000000 ∧
      ∃ downlink, Sample.writing.downlink = some downlink ∧
        Instant.since 200000000 Sample.writing.uplink.arrival ≤ downlink.delay := by
  have hpasses : Passes 0 Sample.writing.events 200000000 :=
    Passes.of_withLatency (Sample.slowWrite 200000000) (by decide +kernel)
  obtain ⟨downlink, hdownlink⟩ : ∃ downlink, Sample.writing.downlink = some downlink :=
    Option.isSome_iff_exists.mp (by decide +kernel)
  obtain ⟨before, after, read, -, -, hbefore, -, -, hprompt⟩ :=
    downlink_in_time (occurs_answeredBy _ _ _ _) hpasses hdownlink
  have hprocessing : (200000000 : Int) ≤
      (Duration.ofMillis Sample.network.config.processingTime : Int) := by decide
  exact ⟨hpasses, downlink, hdownlink,
    hprompt (Int.le_trans hprocessing (Int.le_add_of_nonneg_left hbefore.le))⟩

/-- A downlink may be handed out after its window has opened, when the write of the session takes
five seconds. -/
theorem exists_downlink_too_late :
    ∃ call downlink start finish, Handling.Occurs Sample.network call ∧
      Passes start call.events finish ∧ call.downlink = some downlink ∧
      ¬ Instant.since finish call.uplink.arrival ≤ downlink.delay := by
  have hpasses : Passes 0 Sample.writing.events 5000000000 :=
    Passes.of_withLatency (Sample.slowWrite 5000000000) (by decide +kernel)
  have hlate : ∃ downlink ∈ Sample.writing.downlink,
      ¬ Instant.since 5000000000 Sample.writing.uplink.arrival ≤ downlink.delay := by decide +kernel
  obtain ⟨downlink, hdownlink, hdelay⟩ := hlate
  exact ⟨Sample.writing, downlink, 0, 5000000000, occurs_answeredBy _ _ _ _, hpasses, hdownlink,
    hdelay⟩

end Handling

end LoraNetwork
