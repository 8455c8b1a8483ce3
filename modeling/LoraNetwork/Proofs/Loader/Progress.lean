import LoraNetwork.Proofs.Loader.Invariant

/-!
# Nobody waits in vain

A task can go on if its next operation is answered. Only three operations have to wait: for a reply,
for a slot and for the last of some candidates. Every task that loads something can go on, unless it
waits for a candidate that another task is loading. So when none of them can go on, no frame waits
any more: each has its reply.
-/

namespace LoraNetwork

/-- The operation may have to wait. -/
def ServerOperation.blocks : ServerOperation → Bool
  | memory .takeReply | memory (.takeSlot _) | memory (.gather ..) => true
  | _ => false

namespace ServerState

/-- The next operation of a task is answered. -/
def CanGoOn (net : Network) (σ : ServerState) (task : TaskId) : Prop :=
  ∃ (activity : Activity) (op : ServerOperation) (next : op.Answer → Service Verdict)
    (answer : op.Answer) (after : Memory),
    σ.jobs[task]? = some ⟨activity, .perform op next⟩ ∧ σ.Admits net task op answer after

variable {net : Network} {σ : ServerState} {task : TaskId} {op : ServerOperation}

/-- An operation that never has to wait is answered. -/
theorem exists_admits (h : op.blocks = false) :
    ∃ (answer : op.Answer) (after : Memory), σ.Admits net task op answer after := by
  cases op with
  | clock => exact ⟨σ.now, σ.memory, rfl, rfl⟩
  | wallClock => exact ⟨⟨0, 0⟩, σ.memory, rfl⟩
  | draw => exact ⟨⟨⟨0, 0, 0⟩, 0⟩, σ.memory, rfl⟩
  | call request => exact ⟨.error .timeout, σ.memory, rfl⟩
  | race request deadline => exact ⟨none, σ.memory, rfl⟩
  | start activities => exact ⟨(), σ.memory, rfl⟩
  | memory op =>
    cases op with
    | takeReply | takeSlot | gather => cases h
    | _ => exact ⟨_, _, rfl⟩

end ServerState

/-- A task loads something, or is about to start one that does. -/
def Job.IsLoading (job : Job) : Prop :=
  job.activity.fromOutside = false ∨
    ∃ (activities : List Activity) (next : Unit → Service Verdict),
      job.rest = .perform (.start activities) next

/-- No task that loads something can go on. -/
def ServerState.LoadersRest (net : Network) (σ : ServerState) : Prop :=
  ∀ (task : TaskId) (job : Job), σ.jobs[task]? = some job → job.IsLoading →
    ¬ σ.CanGoOn net task

namespace Stage

variable {stage : Stage} {op : ServerOperation} {loader : LoaderId} {addr : DevAddr}

/-- Who made a loader known may only start it. -/
theorem start_of_opened (h : (opened loader addr).Allows op) :
    ∃ activities, op = .start activities := by
  cases op with
  | start activities => exact ⟨activities, rfl⟩
  | clock | wallClock | draw => exact absurd rfl (h loader addr)
  | call request =>
    cases request with
    | fetchCandidates => obtain ⟨_, h⟩ := h; cases h
    | _ => exact absurd rfl (h loader addr)
  | race request deadline =>
    cases request with
    | fetchCandidates => exact h.elim
    | _ => exact absurd rfl (h loader addr)
  | memory op =>
    cases op with
    | joinLoader | takeSlot | takeReply | closeQueue | deposit => cases h
    | gather => obtain ⟨_, h⟩ := h; cases h
    | leaveLoader => obtain ⟨_, h | h⟩ := h <;> cases h
    | reply => obtain ⟨_, _, h⟩ := h; cases h
    | _ => exact absurd rfl (h loader addr)

/-- A task that has to wait waits for a slot, for a reply or for candidates. -/
theorem cases_of_blocks (h : stage.Allows op) (hblocks : op.blocks = true) :
    stage = idle ∨ stage = waiting ∨ ∃ loader addr count, stage = gathering loader addr count ∧
      op = .memory (.gather loader count) := by
  cases op with
  | clock | wallClock | draw | call | race | start => cases hblocks
  | memory op =>
    cases op with
    | takeSlot => exact .inl h
    | takeReply => exact .inr (.inl h)
    | gather loader count =>
      obtain ⟨addr, h⟩ := h
      exact .inr (.inr ⟨loader, addr, count, h, rfl⟩)
    | _ => cases hblocks

/-- The task has nothing to load. -/
def AtRest (stage : Stage) : Prop :=
  stage = idle ∨ stage = waiting ∨ stage.Over

theorem AtRest.hand_serves_unasked (h : stage.AtRest) :
    stage.hand = [] ∧ stage.serves = none ∧ stage.unasked = none := by
  rcases h with rfl | rfl | rfl | rfl | rfl <;> exact ⟨rfl, rfl, rfl⟩

end Stage

/-- A list of lookups that all succeed succeeds. -/
theorem exists_mapM {α β : Type} {f : α → Option β} {l : List α} (h : ∀ x ∈ l, ∃ y, f x = some y) :
    ∃ ys, l.mapM f = some ys := by
  induction l with
  | nil => exact ⟨[], rfl⟩
  | cons x rest ih =>
    obtain ⟨y, hy⟩ := h x List.mem_cons_self
    obtain ⟨ys, hys⟩ := ih fun z hz => h z (List.mem_cons_of_mem _ hz)
    exact ⟨y :: ys, by rw [List.mapM_cons, hy, hys]; rfl⟩

/-- A loader that was told of all candidates can gather them. -/
theorem Memory.exists_gathered {m : Memory} {loader : LoaderId} {count : Nat}
    (hqueue : m.Accepts loader) (h : ∀ place < count, m.HasLoad loader place) :
    ∃ loads, m.gathered loader count = some loads := by
  obtain ⟨queue, hfound, -⟩ := hqueue
  unfold gathered
  rw [hfound]
  refine exists_mapM fun place hplace => ?_
  obtain ⟨other, load, hother, hload⟩ := h place (List.mem_range.mp hplace)
  rw [hfound] at hother
  exact ⟨load, by rw [Option.some.inj hother]; exact hload⟩

namespace ServerRun.Loading

variable {net : Network} {σ : ServerState} {history : List Moment} {task : TaskId} {job : Job}

/-- A task that is not done with loading has an operation to perform that its stage allows. -/
theorem exists_op (h : Loading history σ) (hjob : σ.jobs[task]? = some job)
    (hover : ¬ (σ.roster history task).Over) :
    ∃ (op : ServerOperation) (next : op.Answer → Service Verdict),
      job.rest = .perform op next ∧ (σ.roster history task).Allows op := by
  have hrules := (h.jobs task job hjob).rules
  cases hrest : job.rest with
  | done verdict =>
    rw [hrest] at hrules
    exact absurd hrules.1 hover
  | perform op next =>
    rw [hrest] at hrules
    exact ⟨op, next, rfl, hrules.1⟩

/-- A task whose next operation is answered can go on. -/
theorem canGoOn {op : ServerOperation} {next : op.Answer → Service Verdict}
    (hjob : σ.jobs[task]? = some job) (hrest : job.rest = .perform op next)
    (hadmits : ∃ (answer : op.Answer) (after : Memory), σ.Admits net task op answer after) :
    σ.CanGoOn net task := by
  obtain ⟨answer, after, hadmits⟩ := hadmits
  exact ⟨job.activity, op, next, answer, after, by rw [hjob, ← hrest], hadmits⟩

/-- When no task that loads something can go on, every task is at rest, except for those that wait
for candidates. -/
theorem atRest_or_gathering (h : Loading history σ) (hrest : σ.LoadersRest net)
    (hjob : σ.jobs[task]? = some job) :
    (σ.roster history task).AtRest ∨
      ∃ loader addr count, σ.roster history task = .gathering loader addr count := by
  by_cases hover : (σ.roster history task).Over
  · exact .inl (.inr (.inr hover))
  · obtain ⟨op, next, hperform, hallows⟩ := h.exists_op hjob hover
    have hstuck : job.IsLoading → op.blocks = true := by
      intro hloading
      cases hblocks : op.blocks with
      | true => rfl
      | false =>
        exact absurd (canGoOn hjob hperform (ServerState.exists_admits hblocks))
          (hrest task job hjob hloading)
    have hloading : job.IsLoading ∨ (σ.roster history task).AtRest := by
      cases houtside : job.activity.fromOutside with
      | false => exact .inl (.inl houtside)
      | true =>
        have hstage := (h.jobs task job hjob).outside houtside
        generalize σ.roster history task = stage at *
        cases stage with
        | idle => exact .inr (.inl rfl)
        | waiting => exact .inr (.inr (.inl rfl))
        | opened loader addr =>
          obtain ⟨activities, rfl⟩ := Stage.start_of_opened hallows
          exact .inl (.inr ⟨activities, next, hperform⟩)
        | asking | asked | gathering | gathered | left | answering | loading | deposited =>
          cases hstage
    rcases hloading with hloading | hatRest
    · rcases Stage.cases_of_blocks hallows (hstuck hloading) with
        hidle | hwaiting | ⟨loader, addr, count, hgathering, -⟩
      · exact .inl (.inl hidle)
      · exact .inl (.inr (.inl hwaiting))
      · exact .inr ⟨loader, addr, count, hgathering⟩
    · exact .inl hatRest

/-- When no task that loads something can go on, every task is at rest. -/
theorem atRest (h : Loading history σ) (hrest : σ.LoadersRest net) (task : TaskId) :
    (σ.roster history task).AtRest := by
  cases hjob : σ.jobs[task]? with
  | none =>
    rw [ServerState.roster_of_length_le (List.getElem?_eq_none_iff.mp hjob)]
    exact .inl rfl
  | some job =>
    rcases h.atRest_or_gathering hrest hjob with hatRest | ⟨loader, addr, count, hgathering⟩
    · exact hatRest
    · exfalso
      have hserves : (σ.roster history task).serves = some loader := by rw [hgathering]; rfl
      -- Nobody is loading a candidate any more, so the loader was told of all of them.
      have htold : ∀ place < count, σ.memory.HasLoad loader place := by
        intro place hplace
        rcases h.fits.tied.candidates task loader addr count hgathering place hplace with
          htold | ⟨other, hloading⟩
        · exact htold
        · cases hother : σ.jobs[other]? with
          | none =>
            rw [ServerState.roster_of_length_le (List.getElem?_eq_none_iff.mp hother)] at hloading
            cases hloading
          | some found =>
            rcases h.atRest_or_gathering hrest hother with hatRest | ⟨_, _, _, hgathers⟩
            · rw [hloading] at hatRest
              rcases hatRest with hstage | hstage | hstage | hstage | hstage <;> cases hstage
            · rw [hloading] at hgathers
              cases hgathers
      obtain ⟨op, next, hperform, hallows⟩ := h.exists_op hjob (by simp [hgathering, Stage.Over])
      have hinside : job.activity.fromOutside = false := by
        cases houtside : job.activity.fromOutside with
        | false => rfl
        | true =>
          have hstage := (h.jobs task job hjob).outside houtside
          rw [hgathering] at hstage
          cases hstage
      refine hrest task job hjob (.inl hinside) (canGoOn hjob hperform ?_)
      cases hblocks : op.blocks with
      | false => exact ServerState.exists_admits hblocks
      | true =>
        rcases Stage.cases_of_blocks hallows hblocks with
          hidle | hwaiting | ⟨_, _, _, hstage, rfl⟩
        · rw [hgathering] at hidle
          cases hidle
        · rw [hgathering] at hwaiting
          cases hwaiting
        · rw [hgathering] at hstage
          cases hstage
          obtain ⟨loads, hloads⟩ := Memory.exists_gathered
            (h.fits.tied.accepting task loader hserves) htold
          exact ⟨loads, σ.memory, by
            simp only [ServerState.Admits, Memory.perform, hloads, Option.map_some]⟩

/-- When no task that loads something can go on, nobody is owed a reply. -/
theorem not_owed (h : Loading history σ) (hrest : σ.LoadersRest net) (task : TaskId) :
    ¬ (σ.roster history).Owed σ.memory task := by
  intro howed
  obtain ⟨place, hplace⟩ := (h.fits.served.owed task).mp howed
  cases place with
  | hand other =>
    obtain ⟨hhand, -, -⟩ := (h.atRest hrest other).hand_serves_unasked
    rw [Roster.shelf, hhand] at hplace
    cases hplace
  | queue loader =>
    cases hqueue : σ.memory.queues[loader]? with
    | none =>
      simp only [Roster.shelf, hqueue] at hplace
      cases hplace
    | some queue =>
      have hpending : queue.pending ≠ [] := by
        intro hnil
        simp only [Roster.shelf, hqueue, Option.map_some, Option.getD_some, hnil] at hplace
        cases hplace
      obtain ⟨other, hserves⟩ := h.fits.tied.pending loader queue hqueue hpending
      obtain ⟨-, hnone, -⟩ := (h.atRest hrest other).hand_serves_unasked
      rw [hnone] at hserves
      cases hserves

/-- A task that waits for a reply nobody owes it has received it. -/
theorem canGoOn_of_not_owed (h : Loading history σ) (hjob : σ.jobs[task]? = some job)
    {next : Resolution → Service Verdict} (hwaits : job.rest = .perform (.memory .takeReply) next)
    (howed : ¬ (σ.roster history).Owed σ.memory task) : σ.CanGoOn net task := by
  have hrules := (h.jobs task job hjob).rules
  rw [hwaits] at hrules
  have hwaiting : σ.roster history task = .waiting := hrules.1
  refine canGoOn hjob hwaits ?_
  cases hreply : σ.memory.replies.get? task with
  | none => exact absurd ⟨by rw [hwaiting]; rfl, hreply⟩ howed
  | some resolution =>
    exact ⟨resolution, { σ.memory with replies := σ.memory.replies.erase task }, by
      simp only [ServerState.Admits, Memory.perform, hreply]⟩

end ServerRun.Loading

/-- An activity came to its end. -/
def Job.isFinished (job : Job) : Bool :=
  match job.rest with
  | .done _ => true
  | .perform .. => false

theorem Job.exists_of_isFinished {job : Job} (h : job.isFinished = true) :
    ∃ verdict, job.rest = .done verdict := by
  unfold isFinished at h
  split at h
  · exact ⟨_, ‹_›⟩
  · cases h

/-- Whoever is finished cannot go on. -/
theorem ServerState.loadersRest_of_finished {net : Network} {σ : ServerState}
    (h : σ.jobs.all Job.isFinished = true) : σ.LoadersRest net := by
  rintro task job hjob - ⟨activity, op, next, answer, after, hrest, -⟩
  have hfinished := List.all_eq_true.mp h _ (List.mem_of_getElem? hrest)
  cases hfinished

end LoraNetwork
