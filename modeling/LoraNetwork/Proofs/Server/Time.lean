import LoraNetwork.Proofs.Registry.Joined

/-!
# Runs with times

The history of a run says in which order things happened. In a timed run it also says when: every
moment is kept with what the clock of the server showed. Nothing else changes, so every run is timed
in one way or another, and the times in a history never go back.
-/

namespace LoraNetwork

/-- A moment and what the clock showed. -/
structure TimedMoment where
  /-- When it was. -/
  time : Instant
  /-- What was performed. -/
  moment : Moment

/-- The moments of a history, without their times. -/
def untimed (history : List TimedMoment) : List Moment := history.map TimedMoment.moment

/-- A run of a server from its start, with the times of what was performed. -/
inductive TimedRun (net : Network) : List TimedMoment → ServerState → Prop where
  /-- The server starts. -/
  | boot (now : Instant) : TimedRun net [] { now := now }
  /-- One more step. -/
  | step {history : List TimedMoment} {moments : List Moment} {σ next : ServerState}
      (run : TimedRun net history σ) (step : σ.Step net moments next) :
      TimedRun net (history ++ moments.map (TimedMoment.mk σ.now)) next

section Untimed

variable {history later : List TimedMoment} {moments : List Moment} {now : Instant}

@[simp] theorem untimed_append : untimed (history ++ later) = untimed history ++ untimed later :=
  List.map_append

@[simp] theorem untimed_map : untimed (moments.map (TimedMoment.mk now)) = moments := by
  rw [untimed, List.map_map]
  exact List.map_id moments

theorem mem_untimed {m : Moment} : m ∈ untimed history ↔ ∃ d ∈ history, d.moment = m :=
  List.mem_map

end Untimed

namespace TimedRun

variable {net : Network} {history : List TimedMoment} {σ next : ServerState}
variable {moments : List Moment}

/-- A timed run is a run. -/
theorem run (timed : TimedRun net history σ) : ServerRun net (untimed history) σ := by
  induction timed with
  | boot now => exact .boot now
  | step _ step ih =>
    rw [untimed_append, untimed_map]
    exact ih.step step

/-- Every run can be timed. -/
theorem exists_of_run (run : ServerRun net moments σ) :
    ∃ history, untimed history = moments ∧ TimedRun net history σ := by
  induction run with
  | boot now => exact ⟨[], rfl, .boot now⟩
  | step _ step ih =>
    obtain ⟨history, hsame, timed⟩ := ih
    refine ⟨_, ?_, timed.step step⟩
    rw [untimed_append, untimed_map, hsame]

/-- Nothing was performed later than now. -/
theorem time_le (timed : TimedRun net history σ) : ∀ d ∈ history, d.time ≤ σ.now := by
  induction timed with
  | boot now => exact fun d hmem => nomatch hmem
  | step run step ih =>
    intro d hmem
    have hnow := step.now_le
    cases List.mem_append.mp hmem with
    | inl hold => exact Int.le_trans (ih d hold) hnow
    | inr hnew =>
      obtain ⟨m, -, rfl⟩ := List.mem_map.mp hnew
      exact hnow

/-- The times never go back. -/
theorem sorted (timed : TimedRun net history σ) :
    history.Pairwise fun first second => first.time ≤ second.time := by
  induction timed with
  | boot now => exact .nil
  | @step history moments σ next run step ih =>
    have hsame : (moments.map (TimedMoment.mk σ.now)).Pairwise
        fun first second => first.time ≤ second.time :=
      List.pairwise_map.mpr (List.pairwise_of_forall fun _ _ => Int.le_refl _)
    refine List.pairwise_append.mpr ⟨ih, hsame, fun first hfirst second hsecond => ?_⟩
    obtain ⟨m, -, rfl⟩ := List.mem_map.mp hsecond
    exact run.time_le first hfirst

/-- A timed run can be cut at any of its moments. -/
theorem exists_step {before after : List TimedMoment} {d : TimedMoment}
    (timed : TimedRun net (before ++ d :: after) σ) :
    ∃ earlier later, TimedRun net before earlier ∧ d.time = earlier.now ∧
      earlier.Step net [d.moment] later ∧ later.Reaches net (untimed after) σ := by
  generalize hparts : before ++ d :: after = history at timed
  induction timed generalizing after with
  | boot now => simp at hparts
  | @step history moments σ next run step ih =>
    rcases moments with _ | ⟨m, rest⟩
    · obtain ⟨earlier, later, hbefore, htime, hstep, hreaches⟩ :=
        ih (hparts.trans (List.append_nil history))
      exact ⟨earlier, later, hbefore, htime, hstep, List.append_nil (untimed after) ▸
        hreaches.step step⟩
    · obtain rfl : rest = [] := (List.cons.inj (step.eq_singleton List.mem_cons_self)).2
      -- The moment is the last one, or it was there before the last step.
      rcases List.eq_nil_or_concat after with rfl | ⟨others, last, rfl⟩
      · obtain ⟨rfl, hlast⟩ := List.append_inj' hparts rfl
        obtain rfl := (List.cons.inj hlast).1
        exact ⟨σ, next, run, rfl, step, .start⟩
      · rw [List.concat_eq_append, ← List.cons_append, ← List.append_assoc] at hparts
        obtain ⟨hbefore, hlast⟩ := List.append_inj' hparts rfl
        obtain rfl := (List.cons.inj hlast).1
        obtain ⟨earlier, later, hbefore, htime, hstep, hreaches⟩ := ih hbefore
        refine ⟨earlier, later, hbefore, htime, hstep, ?_⟩
        rw [List.concat_eq_append, untimed_append]
        exact hreaches.step step

end TimedRun

/-- A run can be cut at any of its moments. -/
theorem ServerRun.exists_step {net : Network} {before after : List Moment} {m : Moment}
    {σ : ServerState} (run : ServerRun net (before ++ m :: after) σ) :
    ∃ earlier later, ServerRun net before earlier ∧ earlier.Step net [m] later ∧
      later.Reaches net after σ := by
  obtain ⟨history, hsame, timed⟩ := TimedRun.exists_of_run run
  obtain ⟨first, rest, rfl, rfl, hrest⟩ := List.map_eq_append_iff.mp hsame
  obtain ⟨d, last, rfl, rfl, rfl⟩ := List.map_eq_cons_iff.mp hrest
  obtain ⟨earlier, later, hbefore, -, step, hreaches⟩ := timed.exists_step
  exact ⟨earlier, later, hbefore.run, step, hreaches⟩

/-! ## Turns -/

/-- Tasks go on one after the other, and the times are kept. -/
def ServerState.timedTurns (net : Network) (answers : (request : Request) → request.Answer) :
    List TaskId → List TimedMoment × ServerState → List TimedMoment × ServerState
  | [], reached => reached
  | task :: rest, reached =>
    let next := reached.2.turn net answers task
    timedTurns net answers rest (reached.1 ++ next.1.map (TimedMoment.mk reached.2.now), next.2)

/-- An uplink arrives some time later, and its task goes on in turn with two that it may start. -/
def ServerState.attend (net : Network) (answers : (request : Request) → request.Answer)
    (reached : List TimedMoment × ServerState) (arrival : Duration × RadioUplink) :
    List TimedMoment × ServerState :=
  let now : Instant := reached.2.now + (arrival.1 : Nat)
  let task := reached.2.jobs.length
  timedTurns net answers (List.replicate 30 [task, task + 1, task + 2]).flatten
    (reached.1, { reached.2 with now := now }.launch net [.dispatch arrival.2])

namespace TimedRun

variable {net : Network} {history : List TimedMoment} {σ : ServerState}
variable {answers : (request : Request) → request.Answer}

/-- Tasks that go on one after the other lead a timed run further. -/
theorem turns (timed : TimedRun net history σ) (tasks : List TaskId) :
    TimedRun net (ServerState.timedTurns net answers tasks (history, σ)).1
      (ServerState.timedTurns net answers tasks (history, σ)).2 := by
  induction tasks generalizing history σ with
  | nil => exact timed
  | cons task rest ih =>
    refine ih ?_
    rcases ServerState.turn_cases answers task σ with hstep | hstay
    · exact timed.step hstep
    · rw [hstay, List.map_nil, List.append_nil]
      exact timed

/-- An uplink that arrives leads a timed run further. -/
theorem attend (timed : TimedRun net history σ) (arrival : Duration × RadioUplink) :
    TimedRun net (ServerState.attend net answers (history, σ) arrival).1
      (ServerState.attend net answers (history, σ) arrival).2 := by
  have hwait := timed.step (.wait (Int.le_add_of_nonneg_right (Int.natCast_nonneg arrival.1)))
  have harrive := hwait.step (@ServerState.Step.arrive _ _ (.dispatch arrival.2) rfl)
  rw [List.map_nil, List.append_nil, List.map_nil, List.append_nil] at harrive
  exact harrive.turns _

/-- Uplinks that arrive one after the other lead a timed run further. -/
theorem attendAll (timed : TimedRun net history σ) (arrivals : List (Duration × RadioUplink)) :
    TimedRun net (arrivals.foldl (ServerState.attend net answers) (history, σ)).1
      (arrivals.foldl (ServerState.attend net answers) (history, σ)).2 := by
  induction arrivals generalizing history σ with
  | nil => exact timed
  | cons arrival rest ih =>
    have hnext := @attend _ _ _ answers timed arrival
    rw [List.foldl_cons]
    generalize ServerState.attend net answers (history, σ) arrival = reached at hnext ⊢
    exact ih hnext

end TimedRun

end LoraNetwork
