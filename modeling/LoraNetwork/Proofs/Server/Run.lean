import LoraNetwork.Proofs.Program.Contract
import LoraNetwork.Server.Dispatch

/-!
# Runs of a server

A server takes one step at a time: time passes, an activity comes from outside, or some task
performs its next operation. Which task goes on is left open, and so is what collaborators, clocks
of the wall and draws answer. A run is any number of such steps from a server whose memory is empty,
and its history is the list of the operations that were performed, with the memory around each.
-/

namespace LoraNetwork

/-- An activity that is under way. -/
structure Job where
  /-- What it does. -/
  activity : Activity
  /-- What is left to do. -/
  rest : Service Verdict

/-- An activity that has yet to begin. -/
def Job.fresh (net : Network) (activity : Activity) : Job := ⟨activity, activity.program net⟩

/-- A server at one instant. The number of a task is its place in the list. -/
structure ServerState where
  /-- The monotonic clock. -/
  now : Instant
  /-- The registry's memory. -/
  memory : Memory := {}
  /-- The tasks. -/
  jobs : List Job := []

/-- An operation that a task performed, and the memory before and after it. -/
structure Moment where
  /-- The task. -/
  task : TaskId
  /-- The operation and its answer. -/
  event : Event serverInterface
  /-- The memory before. -/
  before : Memory
  /-- The memory afterwards. -/
  after : Memory

/-- The registry starts the loading of addresses and candidates by itself; all else comes from
outside. -/
def Activity.fromOutside : Activity → Bool
  | loadAddress .. | loadCandidate .. => false
  | _ => true

/-- The activities that an operation starts. -/
def ServerOperation.started : ServerOperation → List Activity
  | start activities => activities
  | _ => []

namespace ServerState

/-- The server with further activities. -/
def launch (net : Network) (activities : List Activity) (σ : ServerState) : ServerState :=
  { σ with jobs := σ.jobs ++ activities.map (Job.fresh net) }

/-- The server after a task went on. -/
def proceed (task : TaskId) (job : Job) (memory : Memory) (σ : ServerState) : ServerState :=
  { σ with memory := memory, jobs := σ.jobs.set task job }

/-- What an operation of a task can answer, and the memory afterwards. -/
def Admits (net : Network) (σ : ServerState) (task : TaskId) :
    (op : ServerOperation) → op.Answer → Memory → Prop
  | .memory op, answer, after => σ.memory.perform net.config σ.now task op = some (answer, after)
  | .clock, answer, after => answer = σ.now ∧ after = σ.memory
  | _, _, after => after = σ.memory

/-- One step of a server, and what was performed in it. -/
inductive Step (net : Network) (σ : ServerState) : List Moment → ServerState → Prop where
  /-- Time passes. -/
  | wait {now : Instant} (later : σ.now ≤ now) : Step net σ [] { σ with now := now }
  /-- An activity comes from outside. -/
  | arrive {activity : Activity} (outside : activity.fromOutside = true) :
      Step net σ [] (σ.launch net [activity])
  /-- A task starts from the beginning. -/
  | again {task : TaskId} {activity : Activity}
      (found : σ.jobs[task]? = some ⟨activity, .done .again⟩) :
      Step net σ [] (σ.proceed task (Job.fresh net activity) σ.memory)
  /-- A task performs its next operation. -/
  | perform {task : TaskId} {activity : Activity} {op : ServerOperation}
      {next : op.Answer → Service Verdict} {answer : op.Answer} {after : Memory}
      (found : σ.jobs[task]? = some ⟨activity, .perform op next⟩)
      (admitted : σ.Admits net task op answer after) :
      Step net σ [⟨task, ⟨op, answer⟩, σ.memory, after⟩]
        ((σ.proceed task ⟨activity, next answer⟩ after).launch net op.started)

end ServerState

/-- A run of a server from its start: what was performed so far, and the server now. -/
inductive ServerRun (net : Network) : List Moment → ServerState → Prop where
  /-- The server starts. -/
  | boot (now : Instant) : ServerRun net [] { now := now }
  /-- One more step. -/
  | step {history moments : List Moment} {σ next : ServerState} (run : ServerRun net history σ)
      (step : σ.Step net moments next) : ServerRun net (history ++ moments) next

/-- A server gets from one state to another in some steps, and what was performed in them. -/
inductive ServerState.Reaches (net : Network) (σ : ServerState) :
    List Moment → ServerState → Prop where
  /-- It stays. -/
  | start : Reaches net σ [] σ
  /-- One more step. -/
  | step {moments later : List Moment} {reached next : ServerState}
      (reaches : Reaches net σ moments reached) (step : reached.Step net later next) :
      Reaches net σ (moments ++ later) next

/-- What a task of a server was before a step. -/
inductive ServerState.Came (net : Network) (σ : ServerState) (moments : List Moment)
    (task : TaskId) : Job → Prop where
  /-- It was there and did nothing. -/
  | stayed {job : Job} (found : σ.jobs[task]? = some job) (still : ∀ m ∈ moments, m.task ≠ task) :
      Came net σ moments task job
  /-- It ended, and starts from the beginning. -/
  | renewed {activity : Activity} (found : σ.jobs[task]? = some ⟨activity, .done .again⟩)
      (silent : moments = []) : Came net σ moments task (Job.fresh net activity)
  /-- It came from outside. -/
  | arrived {activity : Activity} (new : σ.jobs.length ≤ task)
      (outside : activity.fromOutside = true) (silent : moments = []) :
      Came net σ moments task (Job.fresh net activity)
  /-- Another task started it. -/
  | begun {starter : TaskId} {activity begun : Activity} {activities : List Activity}
      {next : Unit → Service Verdict}
      (found : σ.jobs[starter]? = some ⟨activity, .perform (.start activities) next⟩)
      (performed : moments = [⟨starter, ⟨.start activities, ()⟩, σ.memory, σ.memory⟩])
      (new : σ.jobs.length ≤ task) (listed : activities[task - σ.jobs.length]? = some begun) :
      Came net σ moments task (Job.fresh net begun)
  /-- It performed an operation. -/
  | performed {activity : Activity} {op : ServerOperation} {next : op.Answer → Service Verdict}
      {answer : op.Answer} {after : Memory}
      (found : σ.jobs[task]? = some ⟨activity, .perform op next⟩)
      (admitted : σ.Admits net task op answer after)
      (performed : moments = [⟨task, ⟨op, answer⟩, σ.memory, after⟩]) :
      Came net σ moments task ⟨activity, next answer⟩

namespace ServerState

variable {net : Network} {σ : ServerState} {task other : TaskId} {job found : Job}
variable {memory : Memory} {activities : List Activity}

/-- A task of a server that launched activities was there before or is one of these, in order. -/
theorem getElem?_launch_cases (h : (σ.launch net activities).jobs[other]? = some found) :
    σ.jobs[other]? = some found ∨ σ.jobs.length ≤ other ∧
      ∃ activity, activities[other - σ.jobs.length]? = some activity ∧
        found = Job.fresh net activity := by
  unfold launch at h
  rcases Nat.lt_or_ge other σ.jobs.length with hlt | hge
  · rw [List.getElem?_append_left hlt] at h
    exact .inl h
  · rw [List.getElem?_append_right hge, List.getElem?_map] at h
    obtain ⟨activity, hactivity, heq⟩ := Option.map_eq_some_iff.mp h
    exact .inr ⟨hge, activity, hactivity, heq.symm⟩

/-- A task of a server that launched activities was there before or is one of these. -/
theorem getElem?_launch (h : (σ.launch net activities).jobs[other]? = some found) :
    σ.jobs[other]? = some found ∨
      σ.jobs.length ≤ other ∧ ∃ activity ∈ activities, found = Job.fresh net activity := by
  refine (getElem?_launch_cases h).imp_right ?_
  rintro ⟨hge, activity, hactivity, heq⟩
  exact ⟨hge, activity, List.mem_of_getElem? hactivity, heq⟩

/-- A task of a server in which one went on is this one or was there before. -/
theorem getElem?_proceed (h : (σ.proceed task job memory).jobs[other]? = some found) :
    other = task ∧ found = job ∨ other ≠ task ∧ σ.jobs[other]? = some found := by
  unfold proceed at h
  dsimp only at h
  rw [List.getElem?_set] at h
  split at h
  · rename_i heq
    split at h
    · exact .inl ⟨heq.symm, (Option.some.inj h).symm⟩
    · cases h
  · rename_i hne
    exact .inr ⟨fun heq => hne heq.symm, h⟩

/-- Every task came from somewhere. -/
theorem Step.came {next : ServerState} {moments : List Moment} (step : σ.Step net moments next)
    (h : next.jobs[task]? = some job) : σ.Came net moments task job := by
  cases step with
  | wait => exact .stayed h (by simp)
  | @arrive activity outside =>
    rcases getElem?_launch_cases h with hold | ⟨hge, found, hlisted, rfl⟩
    · exact .stayed hold (by simp)
    · obtain rfl := List.mem_singleton.mp (List.mem_of_getElem? hlisted)
      exact .arrived hge outside rfl
  | again found =>
    rcases getElem?_proceed h with ⟨rfl, rfl⟩ | ⟨-, hold⟩
    · exact .renewed found rfl
    · exact .stayed hold (by simp)
  | @perform performer activity op rest answer after found admitted =>
    rcases getElem?_launch_cases h with hold | ⟨hge, begun, hlisted, rfl⟩
    · rcases getElem?_proceed hold with ⟨rfl, rfl⟩ | ⟨hne, hold⟩
      · exact .performed found admitted rfl
      · exact .stayed hold (by simpa using Ne.symm hne)
    · simp only [proceed, List.length_set] at hge hlisted
      cases op with
      | start activities =>
        obtain rfl : after = σ.memory := admitted
        exact .begun found rfl hge hlisted
      | clock | wallClock | draw | call | race | memory => cases hlisted

/-- Nothing but one operation is performed in a step. -/
theorem Step.eq_singleton {next : ServerState} {moments : List Moment} {m : Moment}
    (step : σ.Step net moments next) (h : m ∈ moments) : moments = [m] := by
  cases step with
  | wait | arrive | again => cases h
  | perform => rw [List.mem_singleton.mp h]

/-- A step takes a step on the registry's memory, or leaves it. -/
theorem Step.memory_cases {next : ServerState} {moments : List Moment}
    (step : σ.Step net moments next) :
    next.memory = σ.memory ∧ (∀ m ∈ moments, ∀ op, m.event.op ≠ .memory op) ∨
      ∃ (task : TaskId) (op : MemoryOperation) (answer : op.Answer),
        moments = [⟨task, ⟨.memory op, answer⟩, σ.memory, next.memory⟩] ∧
          σ.memory.perform net.config σ.now task op = some (answer, next.memory) := by
  cases step with
  | wait | arrive | again => exact .inl ⟨rfl, by simp⟩
  | @perform task activity op rest answer after found admitted =>
    cases op with
    | memory op => exact .inr ⟨task, op, answer, rfl, admitted⟩
    | clock => exact .inl ⟨admitted.2, by simp⟩
    | wallClock | draw | call | race | start => exact .inl ⟨admitted, by simp⟩

/-- No task goes away. -/
theorem Step.length_le {next : ServerState} {moments : List Moment}
    (step : σ.Step net moments next) : σ.jobs.length ≤ next.jobs.length := by
  cases step with
  | wait => exact Nat.le_refl _
  | arrive => exact List.length_append ▸ Nat.le_add_right _ _
  | again => exact Nat.le_of_eq List.length_set.symm
  | perform =>
    unfold launch proceed
    rw [List.length_append, List.length_set]
    exact Nat.le_add_right _ _

/-- The activity of a task never changes. -/
theorem Step.activity_eq {next : ServerState} {moments : List Moment}
    (step : σ.Step net moments next) (hbefore : σ.jobs[task]? = some job)
    (hafter : next.jobs[task]? = some found) : found.activity = job.activity := by
  have hlt := (List.getElem?_eq_some_iff.mp hbefore).1
  cases step.came hafter with
  | stayed h => rw [hbefore] at h; rw [Option.some.inj h]
  | renewed h => rw [hbefore] at h; rw [Option.some.inj h]; rfl
  | arrived new | begun _ _ new => exact absurd hlt (Nat.not_lt.mpr new)
  | performed h => rw [hbefore] at h; rw [Option.some.inj h]

/-- A task that was there is still there. -/
theorem Step.persists {next : ServerState} {moments : List Moment}
    (step : σ.Step net moments next) (h : σ.jobs[task]? = some job) :
    ∃ later, next.jobs[task]? = some later ∧ later.activity = job.activity := by
  have hlt := Nat.lt_of_lt_of_le (List.getElem?_eq_some_iff.mp h).1 step.length_le
  exact ⟨_, List.getElem?_eq_getElem hlt, step.activity_eq h (List.getElem?_eq_getElem hlt)⟩

/-- An activity that does not come from outside was there before, or another task has just started
it. -/
theorem Step.found_or_begun {next : ServerState} {moments : List Moment}
    (step : σ.Step net moments next) (h : next.jobs[task]? = some job)
    (hinside : job.activity.fromOutside = false) :
    (∃ old, σ.jobs[task]? = some old ∧ old.activity = job.activity) ∨
    ∃ starter activity activities rest,
      σ.jobs[starter]? = some ⟨activity, .perform (.start activities) rest⟩ ∧
        moments = [⟨starter, ⟨.start activities, ()⟩, σ.memory, σ.memory⟩] ∧
          σ.jobs.length ≤ task ∧ activities[task - σ.jobs.length]? = some job.activity := by
  cases step.came h with
  | stayed found | renewed found | performed found => exact .inl ⟨_, found, rfl⟩
  | @arrived activity _ outside => exact absurd (outside.symm.trans hinside) (by simp)
  | begun found performed new listed => exact .inr ⟨_, _, _, _, found, performed, new, listed⟩

/-- The operation that was performed in a step, and what it was admitted to answer. -/
theorem Step.performs {next : ServerState} {moments : List Moment}
    (step : σ.Step net moments next) {m : Moment} (h : m ∈ moments) :
    ∃ activity rest, σ.jobs[m.task]? = some ⟨activity, .perform m.event.op rest⟩ ∧
      σ.Admits net m.task m.event.op m.event.answer next.memory := by
  cases step with
  | wait | arrive | again => cases h
  | perform found admitted =>
    obtain rfl := List.mem_singleton.mp h
    exact ⟨_, _, found, admitted⟩

/-- What holds of the memory before an operation holds afterwards, if every step on the memory keeps
it. -/
@[elab_as_elim] theorem memory_of_admits {op : ServerOperation} {answer : op.Answer}
    {motive : Memory → Prop} {after : Memory} (admitted : σ.Admits net task op answer after)
    (hbefore : motive σ.memory)
    (hstep : ∀ (step : MemoryOperation) (answer : step.Answer), op = .memory step →
      σ.memory.perform net.config σ.now task step = some (answer, after) → motive after) :
    motive after := by
  have hsame : after = σ.memory → motive after := fun heq => heq ▸ hbefore
  cases op with
  | memory step => exact hstep step answer rfl admitted
  | clock => exact hsame admitted.2
  | wallClock | draw | call request | race request deadline | start activities =>
    exact hsame admitted

/-! ## Turns

Runs in which a rule answers every request in time, and a list says which task goes on. -/

/-- What an operation answers and the memory afterwards, if a rule answers the requests and draws
nothing but zeros; `none` if the task has to wait. -/
def answer? (net : Network) (answers : (request : Request) → request.Answer) (σ : ServerState)
    (task : TaskId) : (op : ServerOperation) → Option (op.Answer × Memory)
  | .memory op => σ.memory.perform net.config σ.now task op
  | .clock => some (σ.now, σ.memory)
  | .wallClock => some (⟨0, 0⟩, σ.memory)
  | .draw => some (⟨⟨0, 0, 0⟩, 0⟩, σ.memory)
  | .call request => some (answers request, σ.memory)
  | .race request _ => some (some (answers request), σ.memory)
  | .start _ => some ((), σ.memory)

/-- What a rule answers is admitted. -/
theorem admits_of_answer? {answers : (request : Request) → request.Answer} {op : ServerOperation}
    {answer : op.Answer} {after : Memory}
    (h : σ.answer? net answers task op = some (answer, after)) :
    σ.Admits net task op answer after := by
  cases op with
  | memory op => exact h
  | clock =>
    obtain ⟨rfl, rfl⟩ := Prod.mk.inj (Option.some.inj h)
    exact ⟨rfl, rfl⟩
  | wallClock | draw | call request | race request deadline | start activities =>
    exact (Prod.mk.inj (Option.some.inj h)).2.symm

/-- A task goes on, unless it is finished or has to wait. -/
def turn (net : Network) (answers : (request : Request) → request.Answer) (task : TaskId)
    (σ : ServerState) : List Moment × ServerState :=
  match σ.jobs[task]? with
  | some ⟨activity, .perform op next⟩ =>
    match σ.answer? net answers task op with
    | some (answer, after) =>
      ([⟨task, ⟨op, answer⟩, σ.memory, after⟩],
        (σ.proceed task ⟨activity, next answer⟩ after).launch net op.started)
    | none => ([], σ)
  | some ⟨activity, .done .again⟩ => ([], σ.proceed task (Job.fresh net activity) σ.memory)
  | _ => ([], σ)

/-- A turn is a step, or nothing happens. -/
theorem turn_cases (answers : (request : Request) → request.Answer) (task : TaskId)
    (σ : ServerState) :
    σ.Step net (σ.turn net answers task).1 (σ.turn net answers task).2 ∨
      σ.turn net answers task = ([], σ) := by
  unfold turn
  split
  · rename_i hfound
    split
    · rename_i hanswer
      exact .inl (.perform hfound (admits_of_answer? hanswer))
    · exact .inr rfl
  · rename_i hfound
    exact .inl (.again hfound)
  · exact .inr rfl

/-- Tasks go on one after the other. -/
def turns (net : Network) (answers : (request : Request) → request.Answer) :
    List TaskId → List Moment × ServerState → List Moment × ServerState
  | [], reached => reached
  | task :: rest, reached =>
    let next := reached.2.turn net answers task
    turns net answers rest (reached.1 ++ next.1, next.2)

/-- Something that happens to a server: an activity comes from outside, or tasks go on. -/
inductive Move where
  /-- An activity comes from outside. -/
  | arrive (activity : Activity)
  /-- Tasks go on one after the other. -/
  | turns (answers : (request : Request) → request.Answer) (tasks : List TaskId)

/-- The server after some moves. -/
def play (net : Network) : List Move → List Moment × ServerState → List Moment × ServerState
  | [], reached => reached
  | .arrive activity :: rest, reached =>
    if activity.fromOutside then
      play net rest (reached.1, reached.2.launch net [activity])
    else play net rest reached
  | .turns answers tasks :: rest, reached => play net rest (turns net answers tasks reached)

end ServerState

namespace ServerState.Reaches

variable {net : Network} {σ : ServerState} {reached : List Moment × ServerState}

/-- Tasks that go on lead a server further. -/
theorem turns (answers : (request : Request) → request.Answer) (tasks : List TaskId)
    (h : σ.Reaches net reached.1 reached.2) :
    σ.Reaches net (ServerState.turns net answers tasks reached).1
      (ServerState.turns net answers tasks reached).2 := by
  induction tasks generalizing reached with
  | nil => exact h
  | cons task rest ih =>
    refine ih ?_
    rcases turn_cases answers task reached.2 with hstep | hstay
    · exact h.step hstep
    · rw [hstay, List.append_nil]
      exact h

/-- Moves lead a server further. -/
theorem play (moves : List Move) (h : σ.Reaches net reached.1 reached.2) :
    σ.Reaches net (ServerState.play net moves reached).1
      (ServerState.play net moves reached).2 := by
  induction moves generalizing reached with
  | nil => exact h
  | cons move rest ih =>
    cases move with
    | turns answers tasks => exact ih (h.turns answers tasks)
    | arrive activity =>
      unfold ServerState.play
      split
      · rename_i houtside
        refine ih ?_
        have hnext := h.step (.arrive houtside)
        rwa [List.append_nil] at hnext
      · exact ih h

end ServerState.Reaches

namespace ServerRun

variable {net : Network} {σ : ServerState} {history : List Moment}

/-- What a server reaches from the end of a run leads the run further. -/
theorem reaches {reached : ServerState} {moments : List Moment} (run : ServerRun net history σ)
    (h : σ.Reaches net moments reached) : ServerRun net (history ++ moments) reached := by
  induction h with
  | start => exact (List.append_nil history).symm ▸ run
  | step _ step ih => exact List.append_assoc history _ _ ▸ ih.step step

/-- A run leads from a server that was just started to where it ends. -/
theorem exists_reaches (run : ServerRun net history σ) :
    ∃ now : Instant, ServerState.Reaches net { now := now } history σ := by
  induction run with
  | boot now => exact ⟨now, .start⟩
  | step _ step ih =>
    obtain ⟨now, hreaches⟩ := ih
    exact ⟨now, hreaches.step step⟩

/-- Tasks that go on one after the other lead a run further. -/
theorem turns (answers : (request : Request) → request.Answer) (tasks : List TaskId)
    {reached : List Moment × ServerState} (run : ServerRun net reached.1 reached.2) :
    ServerRun net (ServerState.turns net answers tasks reached).1
      (ServerState.turns net answers tasks reached).2 := by
  obtain ⟨now, hreaches⟩ := run.exists_reaches
  exact (ServerRun.boot now).reaches (hreaches.turns answers tasks)

end ServerRun

/-! ## Contracts along a run -/

/-- The state that a contract is in for a task, after what has happened so far. -/
def Contract.along {γ : Type} (C : Contract serverInterface γ) (start : γ) (task : TaskId)
    (history : List Moment) : γ :=
  history.foldl (fun state m => if m.task = task then C.next state m.event else state) start

section Along

variable {γ : Type} {C : Contract serverInterface γ} {start : γ} {task : TaskId}
variable {net : Network} {σ next : ServerState} {history moments : List Moment} {m : Moment}

theorem Contract.along_snoc : C.along start task (history ++ [m]) =
    if m.task = task then C.next (C.along start task history) m.event
    else C.along start task history := by
  rw [Contract.along, List.foldl_append]
  rfl

/-- What holds at the start and is kept by every event holds along a history. -/
theorem Contract.along_of_next (holds : γ → Prop) (hstart : holds start)
    (hnext : ∀ m ∈ history, ∀ state, holds state → holds (C.next state m.event)) :
    holds (C.along start task history) := by
  unfold Contract.along
  induction history generalizing start with
  | nil => exact hstart
  | cons m rest ih =>
    rw [List.foldl_cons]
    refine ih ?_ fun other hmem => hnext other (List.mem_cons_of_mem _ hmem)
    split
    · exact hnext m List.mem_cons_self start hstart
    · exact hstart

/-- Nothing changes for a task while others go on. -/
theorem ServerState.Step.along_of_still (step : σ.Step net moments next)
    (still : ∀ m ∈ moments, m.task ≠ task) :
    C.along start task (history ++ moments) = C.along start task history := by
  cases step with
  | wait | arrive | again => rw [List.append_nil]
  | perform => exact Contract.along_snoc.trans (if_neg (still _ List.mem_cons_self))

/-- The state for a task moves on with what the task does. -/
theorem ServerState.Step.along_cases (step : σ.Step net moments next)
    (C : Contract serverInterface γ) (start : γ) (history : List Moment) (task : TaskId) :
    (C.along start task (history ++ moments) = C.along start task history ∧
        ∀ m ∈ moments, m.task ≠ task) ∨
      ∃ m, moments = [m] ∧ m.task = task ∧
        C.along start task (history ++ moments) = C.next (C.along start task history) m.event := by
  cases step with
  | wait | arrive | again =>
    rw [List.append_nil]
    exact .inl ⟨rfl, fun m hmem => nomatch hmem⟩
  | @perform performer =>
    rw [Contract.along_snoc]
    by_cases htask : performer = task
    · exact .inr ⟨_, rfl, htask, if_pos htask⟩
    · exact .inl ⟨if_neg htask, fun m hmem => List.mem_singleton.mp hmem ▸ htask⟩

/-- What is left of some activities keeps a contract without promises, if their programs keep it in
every state. -/
theorem ServerRun.keeps_along (run : ServerRun net history σ) (start : γ)
    (good : Activity → Prop) (hpromises : ∀ op answer, C.promises op answer)
    (hprogram : ∀ activity, good activity → ∀ state,
      (activity.program net).Keeps C (fun _ _ => True) state) :
    ∀ (task : TaskId) (job : Job), σ.jobs[task]? = some job → good job.activity →
      job.rest.Keeps C (fun _ _ => True) (C.along start task history) := by
  induction run with
  | boot now => exact fun _ _ h => by simp at h
  | @step history moments σ next run step ih =>
    intro task job hjob hgood
    cases step.came hjob with
    | stayed found still =>
      rw [step.along_of_still still]
      exact ih task job found hgood
    | renewed | arrived | begun => exact hprogram _ hgood _
    | performed found admitted performed =>
      rw [performed, Contract.along_snoc, if_pos rfl]
      exact (ih task _ found hgood).2 _ (hpromises _ _)

/-- What has happened was done by tasks that are there. -/
theorem ServerRun.task_lt (run : ServerRun net history σ) :
    ∀ m ∈ history, m.task < σ.jobs.length := by
  induction run with
  | boot now => exact fun m hmem => nomatch hmem
  | @step history moments σ next run step ih =>
    intro m hmem
    have hthere : m.task < σ.jobs.length := by
      cases List.mem_append.mp hmem with
      | inl hbefore => exact ih m hbefore
      | inr hnow =>
        obtain ⟨activity, rest, found, -⟩ := step.performs hnow
        exact (List.getElem?_eq_some_iff.mp found).1
    exact Nat.lt_of_lt_of_le hthere step.length_le

/-- A task that is not there has done nothing. -/
theorem ServerRun.along_of_length_le (run : ServerRun net history σ) (C : Contract serverInterface γ)
    (start : γ) (hlen : σ.jobs.length ≤ task) : C.along start task history = start := by
  have hne : ∀ m ∈ history, m.task ≠ task := fun m hmem =>
    Nat.ne_of_lt (Nat.lt_of_lt_of_le (run.task_lt m hmem) hlen)
  clear run
  unfold Contract.along
  induction history with
  | nil => rfl
  | cons m rest ih =>
    rw [List.foldl_cons, if_neg (hne m List.mem_cons_self)]
    exact ih fun other hmem => hne other (List.mem_cons_of_mem _ hmem)

/-- What is left of some activities keeps a contract without promises, if their programs keep it from
the start and a program that has to begin again is back there. -/
theorem ServerRun.keeps_from (run : ServerRun net history σ) (C : Contract serverInterface γ)
    (start : γ) (post : γ → Verdict → Prop) (good : Activity → Prop)
    (hpromises : ∀ op answer, C.promises op answer)
    (hprogram : ∀ activity, good activity → (activity.program net).Keeps C post start)
    (hagain : ∀ state, post state .again → state = start) :
    ∀ (task : TaskId) (job : Job), σ.jobs[task]? = some job → good job.activity →
      job.rest.Keeps C post (C.along start task history) := by
  induction run with
  | boot now => exact fun _ _ h => by simp at h
  | @step history moments σ next run step ih =>
    intro task job hjob hgood
    have hnew : σ.jobs.length ≤ task → (∀ m ∈ moments, m.task ≠ task) →
        C.along start task (history ++ moments) = start := by
      intro hlen hstill
      rw [step.along_of_still hstill, run.along_of_length_le C start hlen]
    cases step.came hjob with
    | stayed found still =>
      rw [step.along_of_still still]
      exact ih task job found hgood
    | renewed found silent =>
      have hstart : C.along start task history = start := hagain _ (ih task _ found hgood)
      rw [silent, List.append_nil, hstart]
      exact hprogram _ hgood
    | arrived new outside silent =>
      rw [hnew new (by simp [silent])]
      exact hprogram _ hgood
    | begun found performed new =>
      have hstarter := (List.getElem?_eq_some_iff.mp found).1
      rw [hnew new (by simpa [performed] using Nat.ne_of_lt (Nat.lt_of_lt_of_le hstarter new))]
      exact hprogram _ hgood
    | performed found admitted performed =>
      rw [performed, Contract.along_snoc, if_pos rfl]
      exact (ih task _ found hgood).2 _ (hpromises _ _)

end Along

end LoraNetwork
