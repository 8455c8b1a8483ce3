import LoraNetwork.Proofs.Server.Time

/-!
# What a task did

The history of a server holds what all of its tasks did, one moment after the other. What one task
did is a run of its program, from where it began last. So whatever a program does in every run can
be read off the history, for each task by itself.
-/

namespace LoraNetwork

/-- What a task did, in order. -/
def eventsOf (task : TaskId) (history : List Moment) : List (Event serverInterface) :=
  (history.filter fun m => m.task = task).map Moment.event

section Events

variable {task : TaskId} {history later : List Moment} {m : Moment} {event : Event serverInterface}

theorem mem_eventsOf : event ∈ eventsOf task history ↔
    ∃ m ∈ history, m.task = task ∧ m.event = event := by
  simp [eventsOf, and_assoc]

theorem eventsOf_append :
    eventsOf task (history ++ later) = eventsOf task history ++ eventsOf task later := by
  simp [eventsOf]

theorem eventsOf_eq_nil (h : ∀ m ∈ history, m.task ≠ task) : eventsOf task history = [] := by
  simpa [eventsOf] using h

theorem eventsOf_singleton : eventsOf m.task [m] = [m.event] := by simp [eventsOf]

end Events

/-- No task goes away or takes up another activity. -/
theorem ServerState.Reaches.persists {net : Network} {σ reached : ServerState}
    {later : List Moment} {task : TaskId} {job : Job} (h : σ.Reaches net later reached)
    (hjob : σ.jobs[task]? = some job) :
    ∃ last, reached.jobs[task]? = some last ∧ last.activity = job.activity := by
  induction h with
  | start => exact ⟨job, hjob, rfl⟩
  | step _ step ih =>
    obtain ⟨middle, hmiddle, hsame⟩ := ih
    obtain ⟨last, hlast, hactivity⟩ := step.persists hmiddle
    exact ⟨last, hlast, hactivity.trans hsame⟩

/-- A task takes part in the same activity at any later time. -/
theorem ServerState.Reaches.activity_eq {net : Network} {σ reached : ServerState}
    {later : List Moment} {task : TaskId} {job last : Job} (h : σ.Reaches net later reached)
    (hjob : σ.jobs[task]? = some job) (hlast : reached.jobs[task]? = some last) :
    last.activity = job.activity := by
  obtain ⟨found, hfound, hsame⟩ := h.persists hjob
  rw [Option.some.inj (hlast.symm.trans hfound), hsame]

/-- A step and what comes after it lead a server further together. -/
theorem ServerState.Reaches.head {net : Network} {σ middle reached : ServerState}
    {moments later : List Moment} (step : σ.Step net moments middle)
    (h : middle.Reaches net later reached) : σ.Reaches net (moments ++ later) reached := by
  induction h with
  | start =>
    rw [List.append_nil]
    exact ServerState.Reaches.start.step step
  | step _ next ih =>
    rw [← List.append_assoc]
    exact ih.step next

namespace ServerRun

variable {net : Network} {history : List Moment} {σ : ServerState} {task : TaskId} {job : Job}

/-- A moment of a run is what a task did next in a state that the run came through. -/
theorem exists_performed {m : Moment} (run : ServerRun net history σ) (hmem : m ∈ history) :
    ∃ before after earlier activity rest memory, history = before ++ m :: after ∧
      ServerRun net before earlier ∧
        earlier.jobs[m.task]? = some ⟨activity, .perform m.event.op rest⟩ ∧
          earlier.Admits net m.task m.event.op m.event.answer memory ∧
            m.before = earlier.memory ∧ earlier.Reaches net (m :: after) σ := by
  obtain ⟨before, after, rfl⟩ := List.append_of_mem hmem
  obtain ⟨earlier, later, hbefore, step, hreaches⟩ := run.exists_step
  have hwhole := hreaches.head step
  cases step with
  | perform found admitted =>
    exact ⟨before, after, earlier, _, _, _, rfl, hbefore, found, admitted, rfl, hwhole⟩

/-- What a task did since it began last has led its program to what is left of it. Before that it
can only have come to an end that made it begin again. -/
theorem program_reaches (run : ServerRun net history σ) (hjob : σ.jobs[task]? = some job) :
    ∃ earlier last, eventsOf task history = earlier ++ last ∧
      (job.activity.program net).Reaches last job.rest ∧
        (earlier = [] ∨ ∃ events, (job.activity.program net).Trace events .again) := by
  induction run generalizing job with
  | boot now => simp at hjob
  | @step history moments σ next run step ih =>
    have hfresh : ∀ activity : Activity, eventsOf task history = [] →
        eventsOf task moments = [] → ∃ earlier last,
          eventsOf task (history ++ moments) = earlier ++ last ∧
            ((Job.fresh net activity).activity.program net).Reaches last
              (Job.fresh net activity).rest ∧
                (earlier = [] ∨
                  ∃ events, ((Job.fresh net activity).activity.program net).Trace events .again) :=
      fun activity hbefore hnow =>
        ⟨[], [], by rw [eventsOf_append, hbefore, hnow], .start _, .inl rfl⟩
    have habsent : σ.jobs.length ≤ task → eventsOf task history = [] := fun hlen =>
      eventsOf_eq_nil fun m hmem => Nat.ne_of_lt (Nat.lt_of_lt_of_le (run.task_lt m hmem) hlen)
    cases step.came hjob with
    | stayed found still =>
      rw [eventsOf_append, eventsOf_eq_nil still, List.append_nil]
      exact ih found
    | renewed found silent =>
      obtain ⟨earlier, last, -, hreaches, -⟩ := ih found
      rw [silent, List.append_nil]
      exact ⟨_, [], (List.append_nil _).symm, .start _, .inr ⟨last, hreaches⟩⟩
    | arrived new outside silent =>
      exact hfresh _ (habsent new) (by rw [silent]; rfl)
    | @begun starter activity begun activities rest found performed new listed =>
      have hstarter := (List.getElem?_eq_some_iff.mp found).1
      refine hfresh _ (habsent new) (eventsOf_eq_nil fun m hmem => ?_)
      rw [performed, List.mem_singleton] at hmem
      rw [hmem]
      exact Nat.ne_of_lt (Nat.lt_of_lt_of_le hstarter new)
    | performed found admitted performed =>
      obtain ⟨earlier, last, hevents, hreaches, hearlier⟩ := ih found
      refine ⟨earlier, last ++ [_], ?_, hreaches.trans (.answered _ (.start _)), hearlier⟩
      rw [performed, eventsOf_append, hevents, List.append_assoc]
      exact congrArg (fun now => earlier ++ (last ++ now)) eventsOf_singleton

/-- What a task did has led its program to what is left of it, if the program never begins again. -/
theorem program_reaches_of_once (run : ServerRun net history σ) (hjob : σ.jobs[task]? = some job)
    (honce : (job.activity.program net).Obeys (fun _ => True) (· ≠ .again)) :
    (job.activity.program net).Reaches (eventsOf task history) job.rest := by
  obtain ⟨earlier, last, hevents, hreaches, rfl | ⟨events, hagain⟩⟩ := run.program_reaches hjob
  · rwa [hevents]
  · exact absurd rfl (honce.trace hagain).2

end ServerRun

end LoraNetwork
