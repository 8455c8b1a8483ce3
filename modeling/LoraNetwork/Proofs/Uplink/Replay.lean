import LoraNetwork.Proofs.Uplink.Examination
import LoraNetwork.Proofs.Uplink.Run

/-!
# Replay protection

The uplink counter over a whole run of handled uplinks. A call leaves it alone, moves it forward to
the counter of a new frame, or sets it to the zero or one of a restart. Between two restarts the
recorded counters therefore increase, and so do those of the telemetry. The zero of a session at
zero is the one counter that is recorded without being greater than the last; that nothing was
recorded before it is kept in the session as `uplinkSeen`, and no restart brings it back.
-/

namespace LoraNetwork

namespace Handling

open DataHandling

variable {net : Network} {call : Handling}

/-- What a call leaves of the uplink counter and sends of it. -/
structure Counts (net : Network) (call : Handling) : Prop where
  /-- The counter is the one recorded, if there is one. -/
  fcntUp : call.after.session.progress.fcntUp =
    (call.recorded net).getD call.before.session.progress.fcntUp
  /-- The session keeps in mind that a counter was recorded. -/
  uplinkSeen : call.after.session.uplinkSeen =
    (call.before.session.uplinkSeen || (call.recorded net).isSome)
  /-- Telemetry carries the counter recorded, and nothing else is sent. -/
  telemetry : telemetryCounters call.events =
    if call.uplink.forApplication then (call.recorded net).toList else []

/-- A call that records nothing and keeps what was recorded before. -/
theorem Counts.of_sameUplink (hrecorded : call.recorded net = none)
    (hsession : call.before.session.SameUplink call.after.session)
    (htelemetry : telemetryCounters call.events = []) : call.Counts net where
  fcntUp := by rw [hrecorded, hsession.fcntUp, Option.getD_none]
  uplinkSeen := by rw [hrecorded, hsession.uplinkSeen, Option.isSome_none, Bool.or_false]
  telemetry := by
    rw [hrecorded, htelemetry]
    simp

/-- A call that records a counter and then keeps it. -/
theorem Counts.of_recorded {recorded : Session} {counter : UInt32}
    (hrecorded : call.recorded net = some counter) (hcount : recorded.progress.fcntUp = counter)
    (hseen : recorded.uplinkSeen = true) (hsession : recorded.SameUplink call.after.session)
    (htelemetry : telemetryCounters call.events =
      if call.uplink.forApplication then [counter] else []) : call.Counts net where
  fcntUp := by rw [hrecorded, hsession.fcntUp, hcount, Option.getD_some]
  uplinkSeen := by rw [hrecorded, hsession.uplinkSeen, hseen, Option.isSome_some, Bool.or_true]
  telemetry := by rw [hrecorded, htelemetry, Option.toList_some]

/-- Every call counts. -/
theorem Occurs.counts (h : call.Occurs net) : call.Counts net := by
  obtain ⟨before, uplink, events, after, result⟩ := call
  have hhandled := trace_handle h
  dsimp only at hhandled
  cases hhandled with
  | refused examined =>
    exact .of_sameUplink (by simp [recorded, accepted, honoured, verdict, examined]) (.refl _) rfl
  | replay examined =>
    exact .of_sameUplink (by simp [recorded, accepted, honoured, verdict, examined]) (.refl _) rfl
  | repeated examined answer write =>
    refine .of_sameUplink (by simp [recorded, accepted, honoured, verdict, examined])
      ((sameUplink_resubmit answer).trans (sameUplink_persist write)) ?_
    rw [telemetryCounters_append, telemetryCounters_resubmit answer,
      telemetryCounters_persist write, List.append_nil]
  | unsaved examined =>
    refine .of_sameUplink ?_ (.refl _) rfl
    simp [recorded, accepted, honoured, verdict, examined, startsWithWrite, restartWrite]
  | @restarted counter requests told events _ _ examined tells carried =>
    have htold : telemetryCounters told = [] := by
      refine telemetryCounters_eq_nil fun event hmem => ?_
      obtain ⟨_, _, hop⟩ := tells event hmem
      rw [hop]
      rfl
    have hwrite : telemetryCounters [restartWrite before.session counter (.ok ())] = [] := rfl
    refine .of_recorded ?_ rfl rfl carried.sameUplink ?_
    · simp [recorded, accepted, honoured, verdict, examined, startsWithWrite, restartWrite]
      rfl
    · rw [← List.singleton_append, telemetryCounters_append, telemetryCounters_append, hwrite,
        htold, carried.telemetryCounters_eq]
      rfl
  | accepted examined carried =>
    refine .of_recorded ?_ rfl rfl carried.sameUplink carried.telemetryCounters_eq
    simp [recorded, Handling.accepted, verdict, examined]
    rfl

/-- A repeat records nothing. -/
theorem recorded_of_resubmit {counter : UInt32}
    (h : call.verdict net = some (.resubmit counter)) : call.recorded net = none := by
  simp [recorded, accepted, honoured, h]

/-- The uplink of an accepted counter passed the examination with it. -/
theorem examine_of_accepted {counter : UInt32} (h : call.accepted net = some counter) :
    ∃ requests, call.uplink.examine net call.before.session = .ok ⟨.accept counter, requests⟩ := by
  unfold accepted verdict at h
  cases hexamined : call.uplink.examine net call.before.session with
  | error reason => simp [hexamined] at h
  | ok examined =>
    obtain ⟨verdict, requests⟩ := examined
    cases verdict with
    | accept c =>
      simp only [hexamined, Option.some.injEq] at h
      exact ⟨requests, by rw [h]⟩
    | reset c | resubmit c | invalid c => simp [hexamined] at h

/-- The uplink of a restart passed the examination as one. -/
theorem examine_of_honoured {counter : UInt32} (h : call.honoured net = some counter) :
    ∃ requests, call.uplink.examine net call.before.session = .ok ⟨.reset counter, requests⟩ := by
  unfold honoured verdict at h
  cases hexamined : call.uplink.examine net call.before.session with
  | error reason => simp [hexamined] at h
  | ok examined =>
    obtain ⟨verdict, requests⟩ := examined
    cases verdict with
    | reset c =>
      simp only [hexamined, Option.ite_none_right_eq_some, Option.some.injEq] at h
      exact ⟨requests, by rw [h.2]⟩
    | accept c | resubmit c | invalid c => simp [hexamined] at h

/-- Without a restart, what is recorded is the counter of a new frame. -/
theorem accepted_of_recorded {counter : UInt32} (h : call.recorded net = some counter)
    (hnone : call.honoured net = none) : call.accepted net = some counter := by
  rw [recorded, hnone, Option.or_none] at h
  exact h

/-- The ways in which a call can leave the uplink counter, given the calls before it. -/
inductive Advances (net : Network) (earlier : List Handling) (call : Handling) : Prop where
  /-- Nothing is recorded. -/
  | unchanged (none : call.recorded net = none)
      (same : call.after.session.progress.fcntUp = call.before.session.progress.fcntUp)
  /-- A counter beyond the last one is accepted. -/
  | forward {counter : UInt32} (accepted : call.accepted net = some counter)
      (lt : call.before.session.progress.fcntUp < counter)
      (now : call.after.session.progress.fcntUp = counter)
  /-- Zero is accepted by a session at zero, before anything else was recorded. -/
  | first (accepted : call.accepted net = some 0)
      (zero : call.before.session.progress.fcntUp = 0)
      (fresh : ∀ other ∈ earlier, other.recorded net = none)
      (now : call.after.session.progress.fcntUp = 0)
  /-- A restart is honoured, and the counter is set as it was sent, to zero or one. -/
  | restarted {counter : UInt32} (honoured : call.honoured net = some counter)
      (sent : counter = call.uplink.frame.header.counter.toUInt32)
      (small : call.uplink.frame.header.counter = 0 ∨ call.uplink.frame.header.counter = 1)
      (now : call.after.session.progress.fcntUp = counter)

end Handling

namespace HandlingRun

variable {net : Network} {start last : Device} {calls : List Handling}

/-- The session keeps in mind whether any call has recorded a counter. -/
theorem uplinkSeen (run : HandlingRun net start calls last) :
    last.session.uplinkSeen =
      (start.session.uplinkSeen || calls.any fun call => (call.recorded net).isSome) := by
  induction run with
  | nil device => simp
  | cons first rest ih =>
    rw [ih, first.counts.uplinkSeen, List.any_cons, Bool.or_assoc]

/-- Every call leaves the uplink counter in one of the ways listed, if nothing was recorded before
the first. -/
theorem advances {call : Handling} {earlier later : List Handling}
    (run : HandlingRun net start (earlier ++ call :: later) last)
    (hfresh : start.session.uplinkSeen = false) : call.Advances net earlier := by
  obtain ⟨middle, hearlier, hcalls⟩ := append_iff.mp run
  have hseen := hearlier.uplinkSeen
  cases hcalls with
  | cons first rest =>
    have hcounts := first.counts
    cases haccepted : call.accepted net with
    | some counter =>
      have hrecorded : call.recorded net = some counter := by
        simp [Handling.recorded, haccepted]
      have hnow : call.after.session.progress.fcntUp = counter := by
        rw [hcounts.fcntUp, hrecorded, Option.getD_some]
      obtain ⟨requests, hexamined⟩ := Handling.examine_of_accepted haccepted
      rcases DataUplink.lt_of_examine_accept hexamined with hlt | ⟨rfl, hzero, hunseen⟩
      · exact .forward haccepted hlt hnow
      · refine .first haccepted hzero (fun other hmem => ?_) hnow
        rw [hunseen, hfresh, Bool.false_or] at hseen
        have hnone := List.any_eq_false.mp hseen.symm other hmem
        simpa using hnone
    | none =>
      cases hhonoured : call.honoured net with
      | some counter =>
        have hrecorded : call.recorded net = some counter := by
          simp [Handling.recorded, haccepted, hhonoured]
        obtain ⟨requests, hexamined⟩ := Handling.examine_of_honoured hhonoured
        obtain ⟨hsent, hsmall⟩ := DataUplink.eq_of_examine_reset hexamined
        refine .restarted hhonoured hsent hsmall ?_
        rw [hcounts.fcntUp, hrecorded, Option.getD_some]
      | none =>
        have hrecorded : call.recorded net = none := by
          simp [Handling.recorded, haccepted, hhonoured]
        refine .unchanged hrecorded ?_
        rw [hcounts.fcntUp, hrecorded, Option.getD_none]

/-- The counters of telemetry are among those recorded, in the same order. -/
theorem telemetry_sublist (run : HandlingRun net start calls last) :
    (calls.flatMap fun call => telemetryCounters call.events).Sublist
      (calls.filterMap (Handling.recorded net)) := by
  induction run with
  | nil device => simp
  | @cons call calls last first rest ih =>
    have hsent : (telemetryCounters call.events).Sublist (call.recorded net).toList := by
      rw [first.counts.telemetry]
      split
      · exact List.Sublist.refl _
      · exact List.nil_sublist _
    rw [List.flatMap_cons]
    have happend := hsent.append ih
    cases hrecorded : call.recorded net with
    | none => simpa [hrecorded] using happend
    | some counter => simpa [hrecorded] using happend

/-- Without a restart the recorded counters increase, and once a counter was recorded they lie
beyond it. -/
theorem recorded_pairwise (run : HandlingRun net start calls last)
    (hnone : ∀ call ∈ calls, call.honoured net = none) :
    (calls.filterMap (Handling.recorded net)).Pairwise (· < ·) ∧
      (start.session.uplinkSeen = true →
        ∀ counter ∈ calls.filterMap (Handling.recorded net),
          start.session.progress.fcntUp < counter) := by
  induction run with
  | nil device => simp
  | @cons call calls last first rest ih =>
    obtain ⟨hpairwise, hbeyond⟩ := ih fun other hmem => hnone other (List.mem_cons_of_mem _ hmem)
    have hcounts := first.counts
    cases hrecorded : call.recorded net with
    | none =>
      rw [List.filterMap_cons_none hrecorded]
      rw [hcounts.fcntUp, hcounts.uplinkSeen, hrecorded] at hbeyond
      exact ⟨hpairwise, by simpa using hbeyond⟩
    | some counter =>
      rw [hcounts.fcntUp, hcounts.uplinkSeen, hrecorded] at hbeyond
      have hlater : ∀ c ∈ calls.filterMap (Handling.recorded net), counter < c := by
        simpa using hbeyond
      rw [List.filterMap_cons_some hrecorded]
      refine ⟨List.pairwise_cons.mpr ⟨hlater, hpairwise⟩, fun hseen c hmem => ?_⟩
      have haccepted := Handling.accepted_of_recorded hrecorded (hnone call List.mem_cons_self)
      obtain ⟨requests, hexamined⟩ := Handling.examine_of_accepted haccepted
      have hlt : call.before.session.progress.fcntUp < counter := by
        rcases DataUplink.lt_of_examine_accept hexamined with hlt | ⟨-, -, hunseen⟩
        · exact hlt
        · rw [hseen] at hunseen
          cases hunseen
      rcases List.mem_cons.mp hmem with rfl | hmem
      · exact hlt
      · exact UInt32.lt_trans hlt (hlater c hmem)

/-- From one restart to the next the recorded counters increase. -/
theorem recorded_pairwise_of_tail (run : HandlingRun net start calls last)
    (hnone : ∀ call ∈ calls.tail, call.honoured net = none) :
    (calls.filterMap (Handling.recorded net)).Pairwise (· < ·) := by
  cases run with
  | nil device => simp
  | @cons call calls last first rest =>
    obtain ⟨hpairwise, hbeyond⟩ := rest.recorded_pairwise hnone
    have hcounts := first.counts
    cases hrecorded : call.recorded net with
    | none =>
      rw [List.filterMap_cons_none hrecorded]
      exact hpairwise
    | some counter =>
      rw [hcounts.fcntUp, hcounts.uplinkSeen, hrecorded] at hbeyond
      rw [List.filterMap_cons_some hrecorded]
      exact List.pairwise_cons.mpr ⟨by simpa using hbeyond, hpairwise⟩

/-- Replay protection. In every run from a session as loaded, each call leaves the uplink counter
alone, moves it forward, or restarts it at the zero or one that was sent; only the first counter of
all may be a zero that is not greater. From one restart to the next the counters recorded and those
of the telemetry increase, and repeats send no telemetry. -/
theorem counters_increase_between_restarts {config : ServerConfig} {record : SessionRecord}
    (run : HandlingRun net (.ofSession (.ofRecord config record)) calls last) :
    (∀ earlier call later, calls = earlier ++ call :: later → call.Advances net earlier) ∧
      (∀ before period after, calls = before ++ period ++ after →
        (∀ call ∈ period.tail, call.honoured net = none) →
          (period.filterMap (Handling.recorded net)).Pairwise (· < ·) ∧
            (period.flatMap fun call => telemetryCounters call.events).Pairwise (· < ·)) ∧
      ∀ call ∈ calls, ∀ counter, call.verdict net = some (.resubmit counter) →
        telemetryCounters call.events = [] := by
  refine ⟨?_, ?_, ?_⟩
  · rintro earlier call later rfl
    exact run.advances rfl
  · rintro before period after rfl hnone
    obtain ⟨middle, hearlier, -⟩ := append_iff.mp run
    obtain ⟨begin, -, hperiod⟩ := append_iff.mp hearlier
    have hpairwise := hperiod.recorded_pairwise_of_tail hnone
    exact ⟨hpairwise, hpairwise.sublist hperiod.telemetry_sublist⟩
  · intro call hmem counter hverdict
    rw [(run.occurs call hmem).counts.telemetry, Handling.recorded_of_resubmit hverdict]
    simp

/-- A device that had counted to four sends five twice and then nine, and starts again at zero: the
telemetry of the time before the restart is five and nine. -/
theorem counters_increase_up_to_restart :
    let calls := answeredBy Sample.network (Sample.answers (.ok ())) Sample.device
      [Sample.uplink .confirmedDataUp 5, Sample.uplink .confirmedDataUp 5,
        Sample.uplink .unconfirmedDataUp 9, Sample.uplink .unconfirmedDataUp 0]
    calls.map (Handling.recorded Sample.network) = [some 5, none, some 9, some 0] ∧
      calls.map (Handling.honoured Sample.network) = [none, none, none, some 0] ∧
      ((calls.take 3).flatMap fun call => telemetryCounters call.events) = [5, 9] ∧
      ((calls.take 3).flatMap fun call => telemetryCounters call.events).Pairwise (· < ·) := by
  intro calls
  obtain ⟨last, hrun⟩ := exists_answeredBy Sample.network (Sample.answers (.ok ())) Sample.device
    [Sample.uplink .confirmedDataUp 5, Sample.uplink .confirmedDataUp 5,
      Sample.uplink .unconfirmedDataUp 9, Sample.uplink .unconfirmedDataUp 0]
  have hperiod := (counters_increase_between_restarts hrun).2.1 [] (calls.take 3) (calls.drop 3)
    (by rw [List.nil_append, List.take_append_drop]) (by decide +kernel)
  exact ⟨by decide +kernel, by decide +kernel, by decide +kernel, hperiod.2⟩

end HandlingRun

end LoraNetwork
