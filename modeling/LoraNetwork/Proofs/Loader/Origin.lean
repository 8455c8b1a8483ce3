import LoraNetwork.Proofs.Loader.Invariant
import LoraNetwork.Proofs.Registry.Sight

/-!
# Where the frames and the candidates of a loader come from

A loader is made known for the address of a frame, and its number is used once. Whoever waits in its
queue waits with a frame of that address, which is the frame of the task's own activity; the task
that loads is started for that address; and nobody tells it of a candidate before it has started to
load its candidates.
-/

namespace LoraNetwork

/-! ## What every task has seen -/

/-- What a task may have missed of a device, by what it did so far: at first nothing, but that who
joins the device may leave it out. -/
def Sight.of (handle : DeviceHandle) (activity : Activity) (task : TaskId)
    (history : List Moment) : Sight :=
  (rules handle activity).along ⟨activity.Joins handle.card.devEui, False, False⟩ task history

namespace Sight

variable {handle : DeviceHandle} {activity : Activity}

/-- Who joins the device goes on to be excused. -/
theorem excused_of_joins (h : activity.Joins handle.card.devEui) (task : TaskId)
    (history : List Moment) : (Sight.of handle activity task history).excused := by
  exact Contract.along_of_next Sight.excused h fun _ _ _ => excused_next

/-- Whoever sees the same sees as little. -/
theorem Blurs.refl (sight : Sight) : sight.Blurs sight := ⟨id, id, id⟩

end Sight

namespace ServerState.Step

variable {net : Network} {σ next : ServerState} {moments : List Moment} {handle : DeviceHandle}

/-- What is left of the tasks goes on to keep the rules of what they have seen, if what they have
seen moves on with what they do. -/
theorem keeps_sight (step : σ.Step net moments next) (before after : TaskId → Activity → Sight)
    (h : ∀ (task : TaskId) (job : Job), σ.jobs[task]? = some job →
      job.rest.Keeps (Sight.rules handle job.activity) (fun _ _ => True)
        (before task job.activity))
    (hfresh : ∀ task (activity : Activity), activity.Joins handle.card.devEui →
      (after task activity).excused)
    (hstill : ∀ task activity, (∀ m ∈ moments, m.task ≠ task) →
      (before task activity).Blurs (after task activity))
    (hmoves : ∀ m ∈ moments, ∀ job, σ.jobs[m.task]? = some job →
      ((before m.task job.activity).next handle job.activity m.event).Blurs
        (after m.task job.activity)) :
    ∀ (task : TaskId) (job : Job), next.jobs[task]? = some job →
      job.rest.Keeps (Sight.rules handle job.activity) (fun _ _ => True)
        (after task job.activity) := by
  intro task job hjob
  cases step.came hjob with
  | stayed found still => exact (h task job found).blur (hstill task _ still)
  | renewed | arrived | begun => exact Activity.program_sight _ (hfresh task _)
  | @performed activity op rest answer memory found admitted performed =>
    have hmove := hmoves ⟨task, ⟨op, answer⟩, σ.memory, memory⟩ (by rw [performed]; simp) _ found
    exact ((h task _ found).2 answer trivial).blur hmove

end ServerState.Step

/-- At every moment of a run, what is left of a task keeps the rules of what it has seen. -/
theorem ServerRun.keeps_sight {net : Network} {σ : ServerState} {history : List Moment}
    (run : ServerRun net history σ) (handle : DeviceHandle) :
    ∀ (task : TaskId) (job : Job), σ.jobs[task]? = some job →
      job.rest.Keeps (Sight.rules handle job.activity) (fun _ _ => True)
        (.of handle job.activity task history) := by
  induction run with
  | boot now => exact fun _ _ h => by simp at h
  | @step history moments σ next _ step ih =>
    refine step.keeps_sight (fun task activity => .of handle activity task history)
      (fun task activity => .of handle activity task (history ++ moments)) ih
      (fun task activity hjoins => Sight.excused_of_joins hjoins _ _) ?_ ?_
    · intro task activity hstill
      rw [Sight.of, Sight.of, step.along_of_still hstill]
      exact .refl _
    · intro m hmem job hjob
      rw [step.eq_singleton hmem, Sight.of, Sight.of, Contract.along_snoc, if_pos rfl]
      exact .refl _

/-! ## Steps on queues -/

/-- What is found in a list with one more element was found before or is that element. -/
theorem getElem?_snoc_cases {α : Type} {l : List α} {x y : α} {i : Nat}
    (h : (l ++ [x])[i]? = some y) : l[i]? = some y ∨ i = l.length ∧ y = x := by
  rcases Nat.lt_or_ge i l.length with hlt | hge
  · rw [List.getElem?_append_left hlt] at h
    exact .inl h
  · obtain ⟨hlt, -⟩ := List.getElem?_eq_some_iff.mp h
    rw [List.length_append, List.length_singleton] at hlt
    obtain rfl := Nat.le_antisymm (Nat.le_of_lt_succ hlt) hge
    rw [List.getElem?_concat_length] at h
    exact .inr ⟨rfl, (Option.some.inj h).symm⟩

namespace Memory

/-- A task waits in a queue with a frame. -/
def Waits (m : Memory) (loader : LoaderId) (task : TaskId) (frame : DataFrame) : Prop :=
  ∃ queue, m.queues[loader]? = some queue ∧ (task, frame) ∈ queue.pending

/-- A loader was told of a candidate. -/
def Told (m : Memory) (loader : LoaderId) (place : Nat) (load : CandidateLoad) : Prop :=
  ∃ queue, m.queues[loader]? = some queue ∧ (place, load) ∈ queue.loads

/-- What lookups found together each of them found. -/
theorem map_eq_of_mapM {α β : Type} {f : α → Option β} {l : List α} {ys : List β}
    (h : l.mapM f = some ys) : l.map f = ys.map some := by
  induction l generalizing ys with
  | nil =>
    rw [List.mapM_nil] at h
    rw [← Option.some.inj h]
    rfl
  | cons first rest ih =>
    rw [List.mapM_cons] at h
    obtain ⟨one, hone, hrest⟩ := Option.bind_eq_some_iff.mp h
    obtain ⟨others, hothers, hall⟩ := Option.bind_eq_some_iff.mp hrest
    rw [← Option.some.inj hall, List.map_cons, List.map_cons, hone, ih hothers]

/-- What lookups together found was found for one of them. -/
theorem exists_of_mem_mapM {α β : Type} {f : α → Option β} {l : List α} {ys : List β} {y : β}
    (h : l.mapM f = some ys) (hmem : y ∈ ys) : ∃ x ∈ l, f x = some y := by
  have hfound : some y ∈ l.map f := map_eq_of_mapM h ▸ List.mem_map_of_mem hmem
  exact List.mem_map.mp hfound

/-- A loader was told whatever it gathers. -/
theorem told_of_gathered {m : Memory} {loader : LoaderId} {count : Nat} {loads : List CandidateLoad}
    {load : CandidateLoad} (h : m.gathered loader count = some loads) (hmem : load ∈ loads) :
    ∃ place, m.Told loader place load := by
  unfold gathered at h
  split at h
  · cases h
  · rename_i queue hqueue
    obtain ⟨place, -, hfound⟩ := exists_of_mem_mapM h hmem
    obtain ⟨_, _, heq, -⟩ := List.lookup_eq_some_iff.mp hfound
    exact ⟨place, queue, hqueue, by rw [heq]; simp⟩

/-- What a loader gathers at a place it was told of that place. -/
theorem told_at_of_gathered {m : Memory} {loader : LoaderId} {count place : Nat}
    {loads : List CandidateLoad} {load : CandidateLoad} (h : m.gathered loader count = some loads)
    (hload : loads[place]? = some load) : m.Told loader place load := by
  unfold gathered at h
  split at h
  · cases h
  · rename_i queue hqueue
    have hplaces := congrArg (fun found => found[place]?) (map_eq_of_mapM h)
    simp only [List.getElem?_map, hload, Option.map_some] at hplaces
    obtain ⟨spot, hspot, hfound⟩ := Option.map_eq_some_iff.mp hplaces
    obtain ⟨hlt, hrange⟩ := List.getElem?_eq_some_iff.mp hspot
    rw [List.getElem_range] at hrange
    subst hrange
    obtain ⟨_, _, heq, -⟩ := List.lookup_eq_some_iff.mp hfound
    exact ⟨queue, hqueue, by rw [heq]; simp⟩

/-- What a step does to loaders and queues. -/
inductive QueueChange (config : ServerConfig) (now : Instant) (task : TaskId) (m : Memory) :
    (op : MemoryOperation) → op.Answer → Memory → Prop where
  /-- Nothing. -/
  | same {op : MemoryOperation} {answer : op.Answer} {after : Memory}
      (loaders : after.loaders = m.loaders) (queues : after.queues = m.queues) :
      QueueChange config now task m op answer after
  /-- A task joins the loader of an address. -/
  | joined {frame : DataFrame} {joined : Joined} {after : Memory}
      (joins : Joins config now task m frame joined after) :
      QueueChange config now task m (.joinLoader frame) joined after
  /-- A loader becomes unknown. -/
  | left {addr : DevAddr} :
      QueueChange config now task m (.leaveLoader addr) ()
        { m with loaders := m.loaders.erase addr }
  /-- A queue is closed. -/
  | closed {loader : LoaderId} {frames : List (TaskId × DataFrame)} :
      QueueChange config now task m (.closeQueue loader) frames
        (m.updateQueue loader fun q => { q with accepting := false, pending := [] })
  /-- A loader is told of a candidate. -/
  | told {loader : LoaderId} {place : Nat} {load : CandidateLoad} :
      QueueChange config now task m (.deposit loader place load) ()
        (m.updateQueue loader fun q => { q with loads := (place, load) :: q.loads })

variable {config : ServerConfig} {now : Instant} {task : TaskId} {m after : Memory}
variable {op : MemoryOperation} {answer : op.Answer} {addr : DevAddr} {loader : LoaderId}

/-- Every step does one of these. -/
theorem queueChange_of_perform (h : m.perform config now task op = some (answer, after)) :
    QueueChange config now task m op answer after := by
  cases op with
  | joinLoader frame => exact .joined (joins_of_perform h)
  | leaveLoader addr =>
    obtain ⟨rfl, rfl⟩ := Prod.mk.inj (Option.some.inj h)
    exact .left
  | closeQueue loader =>
    obtain ⟨-, rfl⟩ := Prod.mk.inj (Option.some.inj h)
    exact .closed
  | deposit loader place load =>
    obtain ⟨-, rfl⟩ := Prod.mk.inj (Option.some.inj h)
    exact .told
  | takeReply =>
    simp only [Memory.perform] at h
    split at h
    · cases h
    · obtain ⟨-, rfl⟩ := Prod.mk.inj (Option.some.inj h)
      exact .same rfl rfl
  | reply other resolution =>
    obtain ⟨-, rfl⟩ := Prod.mk.inj (Option.some.inj h)
    exact .same rfl rfl
  | gather loader count =>
    obtain ⟨loads, -, heq⟩ := Option.map_eq_some_iff.mp h
    obtain ⟨-, rfl⟩ := Prod.mk.inj heq
    exact .same rfl rfl
  | takeSlot slot =>
    obtain ⟨hloaders, hqueues, -⟩ := same_of_plain h (.inr ⟨slot, rfl⟩)
    exact .same hloaders hqueues
  | _ =>
    obtain ⟨hloaders, hqueues, -⟩ := same_of_plain h (.inl rfl)
    exact .same hloaders hqueues

namespace QueueChange

/-- Queues are only added. -/
theorem length_le (h : QueueChange config now task m op answer after) :
    m.queues.length ≤ after.queues.length := by
  have hupdate : ∀ (loader : LoaderId) (f : LoaderQueue → LoaderQueue),
      m.queues.length ≤ (m.updateQueue loader f).queues.length :=
    fun _ _ => Nat.le_of_eq (List.length_modify _ _ _).symm
  cases h with
  | same loaders queues => exact Nat.le_of_eq (congrArg List.length queues).symm
  | left => exact Nat.le_refl _
  | closed | told => exact hupdate _ _
  | joined joins =>
    cases joins with
    | queued => exact hupdate _ _
    | refused | cached => exact Nat.le_refl _
    | started => simp

/-- A loader that is known was known before or is made known. -/
theorem known (h : QueueChange config now task m op answer after)
    (hknown : after.loaders.get? addr = some loader) :
    m.loaders.get? addr = some loader ∨ loader = m.queues.length ∧ ∃ frame,
      frame.devAddr = addr ∧ (⟨.memory op, answer⟩ : Event serverInterface) =
        ⟨.memory (.joinLoader frame), .started loader⟩ := by
  cases h with
  | same loaders queues => exact .inl (loaders ▸ hknown)
  | closed | told => exact .inl hknown
  | left => exact .inl (get?_of_erase hknown)
  | @joined frame _ _ joins =>
    cases joins with
    | queued | cached => exact .inl hknown
    | refused => exact .inl (get?_of_erase hknown)
    | started =>
      rcases get?_set_or hknown with ⟨haddr, rfl⟩ | hold
      · exact .inr ⟨rfl, frame, haddr, rfl⟩
      · exact .inl hold

/-- Whoever waits in a queue waited there before, or has just joined its loader. -/
theorem waits {other : TaskId} {frame : DataFrame}
    (h : QueueChange config now task m op answer after) (hwaits : after.Waits loader other frame) :
    m.Waits loader other frame ∨ other = task ∧ op = .joinLoader frame ∧
      (m.loaders.get? frame.devAddr = some loader ∨
        (⟨.memory op, answer⟩ : Event serverInterface) =
          ⟨.memory (.joinLoader frame), .started loader⟩) := by
  obtain ⟨queue, hqueue, hmem⟩ := hwaits
  cases h with
  | same loaders queues => exact .inl ⟨queue, queues ▸ hqueue, hmem⟩
  | left => exact .inl ⟨queue, hqueue, hmem⟩
  | closed =>
    obtain ⟨old, hold, rfl | ⟨-, rfl⟩⟩ := queue_of_updateQueue hqueue
    · exact .inl ⟨_, hold, hmem⟩
    · cases hmem
  | told =>
    obtain ⟨old, hold, rfl | ⟨-, rfl⟩⟩ := queue_of_updateQueue hqueue
    · exact .inl ⟨_, hold, hmem⟩
    · exact .inl ⟨old, hold, hmem⟩
  | joined joins =>
    cases joins with
    | refused | cached => exact .inl ⟨queue, hqueue, hmem⟩
    | queued found =>
      obtain ⟨old, hold, rfl | ⟨rfl, rfl⟩⟩ := queue_of_updateQueue hqueue
      · exact .inl ⟨_, hold, hmem⟩
      · rcases List.mem_append.mp hmem with hmem | hmem
        · exact .inl ⟨old, hold, hmem⟩
        · obtain ⟨rfl, rfl⟩ := Prod.mk.inj (List.mem_singleton.mp hmem)
          exact .inr ⟨rfl, rfl, .inl found⟩
    | started =>
      rcases getElem?_snoc_cases hqueue with hold | ⟨rfl, rfl⟩
      · exact .inl ⟨queue, hold, hmem⟩
      · obtain ⟨rfl, rfl⟩ := Prod.mk.inj (List.mem_singleton.mp hmem)
        exact .inr ⟨rfl, rfl, .inr rfl⟩

/-- What a loader was told it was told before, or has just been told. -/
theorem told_cases {place : Nat} {load : CandidateLoad}
    (h : QueueChange config now task m op answer after) (htold : after.Told loader place load) :
    m.Told loader place load ∨ op = .deposit loader place load := by
  obtain ⟨queue, hqueue, hmem⟩ := htold
  cases h with
  | same loaders queues => exact .inl ⟨queue, queues ▸ hqueue, hmem⟩
  | left => exact .inl ⟨queue, hqueue, hmem⟩
  | closed =>
    obtain ⟨old, hold, rfl | ⟨-, rfl⟩⟩ := queue_of_updateQueue hqueue <;>
      exact .inl ⟨_, hold, hmem⟩
  | told =>
    obtain ⟨old, hold, rfl | ⟨rfl, rfl⟩⟩ := queue_of_updateQueue hqueue
    · exact .inl ⟨_, hold, hmem⟩
    · rcases List.mem_cons.mp hmem with hnew | hmem
      · obtain ⟨rfl, rfl⟩ := Prod.mk.inj hnew
        exact .inr rfl
      · exact .inl ⟨old, hold, hmem⟩
  | joined joins =>
    cases joins with
    | refused | cached => exact .inl ⟨queue, hqueue, hmem⟩
    | queued =>
      obtain ⟨old, hold, rfl | ⟨-, rfl⟩⟩ := queue_of_updateQueue hqueue <;>
        exact .inl ⟨_, hold, hmem⟩
    | started =>
      rcases getElem?_snoc_cases hqueue with hold | ⟨rfl, rfl⟩
      · exact .inl ⟨queue, hold, hmem⟩
      · cases hmem

end QueueChange

end Memory

/-! ## Steps on stages -/

/-- How the stage of a task after a step comes about. -/
inductive ServerState.Moved (net : Network) (σ : ServerState) (history moments : List Moment)
    (task : TaskId) : Stage → Prop where
  /-- The task did nothing. -/
  | kept (still : ∀ m ∈ moments, m.task ≠ task) :
      Moved net σ history moments task (σ.roster history task)
  /-- It performed an operation. -/
  | performed {activity : Activity} {op : ServerOperation} {next : op.Answer → Service Verdict}
      {answer : op.Answer} {after : Memory}
      (found : σ.jobs[task]? = some ⟨activity, .perform op next⟩)
      (admitted : σ.Admits net task op answer after)
      (performed : moments = [⟨task, ⟨op, answer⟩, σ.memory, after⟩]) :
      Moved net σ history moments task ((σ.roster history task).next ⟨op, answer⟩)
  /-- Another task started it. -/
  | begun {starter : TaskId} {activity begun : Activity} {activities : List Activity}
      {next : Unit → Service Verdict}
      (found : σ.jobs[starter]? = some ⟨activity, .perform (.start activities) next⟩)
      (performed : moments = [⟨starter, ⟨.start activities, ()⟩, σ.memory, σ.memory⟩])
      (listed : activities[task - σ.jobs.length]? = some begun) :
      Moved net σ history moments task begun.stage

/-- Every stage comes about in one of these ways. -/
theorem ServerRun.moved {net : Network} {σ next : ServerState} {history moments : List Moment}
    (run : ServerRun net history σ) (step : σ.Step net moments next) (task : TaskId) :
    σ.Moved net history moments task (next.roster (history ++ moments) task) := by
  have hloading := run.loading
  cases step with
  | wait =>
    rw [List.append_nil]
    exact .kept (by simp)
  | arrive outside =>
    rw [List.append_nil, hloading.roster_arrive outside]
    exact .kept (by simp)
  | @again renewed activity found =>
    have hroster : (σ.proceed renewed (Job.fresh net activity) σ.memory).roster history =
        σ.roster history := ServerState.roster_proceed found
    rw [List.append_nil, hroster]
    exact .kept (by simp)
  | @perform performer activity op rest answer after found admitted =>
    rw [(hloading.roster_perform found net answer after).2]
    rcases Nat.lt_or_ge task σ.jobs.length with hlt | hge
    · rw [Roster.launch_of_lt hlt]
      rcases Roster.set_cases (σ.roster history) performer
        ((σ.roster history performer).next ⟨op, answer⟩) task with ⟨rfl, heq⟩ | ⟨hne, heq⟩ <;>
        rw [heq]
      · exact .performed found admitted rfl
      · exact .kept (by simpa using Ne.symm hne)
    · rw [Roster.launch_of_le hge]
      cases hnew : op.started[task - σ.jobs.length]? with
      | none =>
        have hidle : σ.roster history task = .idle := ServerState.roster_of_length_le hge
        have hlt := (List.getElem?_eq_some_iff.mp found).1
        show σ.Moved net history _ task .idle
        rw [← hidle]
        exact .kept (by simpa using Nat.ne_of_lt (Nat.lt_of_lt_of_le hlt hge))
      | some begun =>
        cases op with
        | start activities =>
          obtain rfl : after = σ.memory := admitted
          exact .begun found rfl hnew
        | clock | wallClock | draw | call | race | memory => cases hnew

/-! ## Origins -/

namespace Stage

/-- The loader that the task looks after and that has yet to start its candidates. -/
def unstarted : Stage → Option LoaderId
  | opened loader _ | asking loader _ | asked loader _ => some loader
  | _ => none

variable {stage : Stage} {op : ServerOperation} {answer : op.Answer} {loader : LoaderId}

theorem serves_of_unstarted (h : stage.unstarted = some loader) : stage.serves = some loader := by
  cases stage with
  | opened | asking | asked => exact h
  | idle | waiting | gathering | gathered | left | answering | loading | deposited => cases h

/-- A loader has yet to start its candidates after an operation if it had so before, or if it is
just made known. -/
theorem unstarted_of_next (hallows : stage.Allows op)
    (h : (stage.next ⟨op, answer⟩).unstarted = some loader) :
    stage.unstarted = some loader ∨ ∃ frame, (⟨op, answer⟩ : Event serverInterface) =
      ⟨.memory (.joinLoader frame), .started loader⟩ := by
  cases op with
  | clock | wallClock | draw | race => exact .inl h
  | start activities =>
    obtain ⟨loader, addr, rfl, -⟩ | ⟨loader, addr, candidates, rfl, -⟩ := hallows <;> cases h
  | call request =>
    cases request with
    | fetchCandidates addr =>
      obtain ⟨loader, rfl⟩ := hallows
      exact .inl h
    | _ => exact .inl h
  | memory op =>
    cases op with
    | joinLoader frame =>
      cases answer with
      | again => exact .inl h
      | queued => cases h
      | started found =>
        cases h
        exact .inr ⟨frame, rfl⟩
    | takeReply => cases h
    | gather =>
      obtain ⟨addr, rfl⟩ := hallows
      cases h
    | leaveLoader => obtain ⟨loader, rfl | rfl⟩ := hallows <;> cases h
    | closeQueue => cases h
    | reply task resolution =>
      obtain ⟨frame, rest, rfl⟩ := hallows
      cases h
    | deposit => cases h
    | _ => exact .inl h

/-- A frame that a task holds was held before, or has just been taken out of a queue. -/
theorem hand_of_next {waiting : TaskId × DataFrame} (h : waiting ∈ (stage.next ⟨op, answer⟩).hand) :
    waiting ∈ stage.hand ∨ ∃ loader frames, (⟨op, answer⟩ : Event serverInterface) =
      ⟨.memory (.closeQueue loader), frames⟩ ∧ waiting ∈ frames := by
  cases op with
  | clock | wallClock | draw | race => exact .inl h
  | start activities => cases stage <;> exact .inl h
  | call request =>
    cases request with
    | fetchCandidates addr => cases stage <;> exact .inl h
    | _ => exact .inl h
  | memory op =>
    cases op with
    | joinLoader frame => cases answer <;> first | exact .inl h | cases h
    | takeReply | deposit => cases h
    | gather | leaveLoader => cases stage <;> exact .inl h
    | closeQueue loader => exact .inr ⟨loader, answer, rfl, h⟩
    | reply => cases stage <;> first | exact .inl (List.mem_of_mem_drop h) | cases h
    | _ => exact .inl h

end Stage

/-- A loader was made known for an address. -/
def Founded (history : List Moment) (loader : LoaderId) (addr : DevAddr) : Prop :=
  ∃ m ∈ history, ∃ frame : DataFrame, frame.devAddr = addr ∧
    m.event = ⟨.memory (.joinLoader frame), Joined.started loader⟩

/-- A loader started to load a candidate. -/
def Started (history : List Moment) (loader : LoaderId) : Prop :=
  ∃ m ∈ history, ∃ activities, m.event.op = .start activities ∧
    ∃ place addr eui, .loadCandidate loader place addr eui ∈ activities

/-- A task loads the address of a frame, which is that of another task's activity. -/
def ServerState.Answers (σ : ServerState) (task waiter : TaskId) (frame : DataFrame) : Prop :=
  ∃ job, σ.jobs[task]? = some job ∧ (∃ loader, job.activity = .loadAddress loader frame.devAddr) ∧
    ∃ found, σ.jobs[waiter]? = some found ∧ found.activity.frame? = some frame

/-- Some device, for facts about loaders that hold whatever device is looked at. -/
instance : Inhabited DeviceHandle := ⟨⟨0, ⟨⟨0⟩, ⟨0⟩, ⟨Block.zero⟩, false, false, none⟩⟩⟩

/-- Where the frames and the candidates of loaders come from. -/
structure ServerRun.Origins (history : List Moment) (σ : ServerState) : Prop where
  /-- A number was not used before. -/
  made : ∀ loader addr, Founded history loader addr → loader < σ.memory.queues.length
  /-- A loader is made known for one address. -/
  one : ∀ loader addr other, Founded history loader addr → Founded history loader other →
    addr = other
  /-- A loader is known under its address. -/
  known : ∀ addr loader, σ.memory.loaders.get? addr = some loader → Founded history loader addr
  /-- A task waits with the frame of its activity, for the loader of the frame's address. -/
  waits : ∀ loader task frame, σ.memory.Waits loader task frame →
    Founded history loader frame.devAddr ∧
      ∃ job, σ.jobs[task]? = some job ∧ job.activity.frame? = some frame
  /-- A task loads the address of its loader. -/
  loads : ∀ (task : TaskId) (job : Job) loader addr, σ.jobs[task]? = some job →
    job.activity = .loadAddress loader addr → Founded history loader addr
  /-- The loader of a candidate has started. -/
  candidates : ∀ (task : TaskId) (job : Job) loader place addr eui, σ.jobs[task]? = some job →
    job.activity = .loadCandidate loader place addr eui → Started history loader
  /-- A loader is told nothing before it has started. -/
  told : ∀ loader place load, σ.memory.Told loader place load → Started history loader
  /-- A loader that has started was made known. -/
  begun : ∀ loader, Started history loader → loader < σ.memory.queues.length
  /-- A loader that has yet to start has not started. -/
  fresh : ∀ task loader, (σ.roster history task).unstarted = some loader →
    ¬ Started history loader
  /-- A loader answers frames of its address, each to the task whose activity has it. -/
  hands : ∀ task waiter frame, (waiter, frame) ∈ (σ.roster history task).hand →
    σ.Answers task waiter frame

section Histories

variable {history moments : List Moment} {loader : LoaderId} {addr : DevAddr}

theorem founded_append : Founded (history ++ moments) loader addr ↔
    Founded history loader addr ∨ Founded moments loader addr := by
  simp only [Founded, List.mem_append, or_and_right, exists_or]

theorem started_append : Started (history ++ moments) loader ↔
    Started history loader ∨ Started moments loader := by
  simp only [Started, List.mem_append, or_and_right, exists_or]

end Histories

namespace ServerState.Step

variable {net : Network} {σ next : ServerState} {moments : List Moment} {loader : LoaderId}
variable {addr : DevAddr}

/-- Queues are only added. -/
theorem queues_le (step : σ.Step net moments next) :
    σ.memory.queues.length ≤ next.memory.queues.length := by
  rcases step.memory_cases with ⟨hsame, -⟩ | ⟨task, op, answer, -, hperform⟩
  · exact Nat.le_of_eq (by rw [hsame])
  · exact (Memory.queueChange_of_perform hperform).length_le

/-- A loader that is made known has the next number. -/
theorem founded (step : σ.Step net moments next) (h : Founded moments loader addr) :
    loader = σ.memory.queues.length ∧ loader < next.memory.queues.length := by
  obtain ⟨m, hmem, frame, -, hevent⟩ := h
  rcases step.memory_cases with ⟨-, hnone⟩ | ⟨task, op, answer, rfl, hperform⟩
  · exact absurd (congrArg Event.op hevent) (hnone m hmem _)
  · obtain rfl := List.mem_singleton.mp hmem
    cases hevent
    have hjoins := Memory.joins_of_perform hperform
    generalize next.memory = after at hjoins ⊢
    cases hjoins with
    | started => exact ⟨rfl, by simp⟩

/-- In one step only one loader is made known, for one address. -/
theorem founded_one (step : σ.Step net moments next) {other : DevAddr}
    (h : Founded moments loader addr) (hother : Founded moments loader other) : addr = other := by
  obtain ⟨m, hmem, frame, rfl, hevent⟩ := h
  obtain ⟨_, hmem', frame', rfl, hevent'⟩ := hother
  rw [step.eq_singleton hmem] at hmem'
  obtain rfl := List.mem_singleton.mp hmem'
  rw [hevent] at hevent'
  cases hevent'
  rfl

end ServerState.Step

namespace ServerRun

variable {net : Network} {σ next : ServerState} {history moments : List Moment} {task : TaskId}
variable {activity : Activity} {op : ServerOperation} {rest : op.Answer → Service Verdict}

/-- What a task does next is allowed to one that has seen as much. -/
theorem allows_sight (run : ServerRun net history σ) (handle : DeviceHandle)
    (found : σ.jobs[task]? = some ⟨activity, .perform op rest⟩) :
    (Sight.of handle activity task history).Allows handle activity op :=
  (run.keeps_sight handle task _ found).1

/-- A task starts the loader that it made known, or the candidates of the loader that it is. -/
theorem starts {activities : List Activity} {rest : Unit → Service Verdict}
    (run : ServerRun net history σ)
    (found : σ.jobs[task]? = some ⟨activity, .perform (.start activities) rest⟩) :
    (∃ loader addr, σ.roster history task = .opened loader addr ∧
      activities = [.loadAddress loader addr]) ∨
    ∃ loader addr candidates, σ.roster history task = .asked loader addr ∧
      activities = Service.candidateActivities loader addr candidates :=
  (run.loading.jobs task _ found).rules.1

/-- A task that loads a candidate was started by the loader, which had just asked. -/
theorem asked_of_candidate {activities : List Activity} {rest : Unit → Service Verdict}
    {loader : LoaderId} {place : Nat} {addr : DevAddr} {eui : Eui64} (run : ServerRun net history σ)
    (found : σ.jobs[task]? = some ⟨activity, .perform (.start activities) rest⟩)
    (hlisted : .loadCandidate loader place addr eui ∈ activities) :
    σ.roster history task = .asked loader addr := by
  rcases run.starts found with ⟨_, _, -, rfl⟩ | ⟨_, _, candidates, hasked, rfl⟩
  · cases List.mem_singleton.mp hlisted
  · obtain ⟨i, hi, heq⟩ := List.mem_mapIdx.mp hlisted
    cases heq
    exact hasked

end ServerRun

namespace ServerRun.Origins

variable {net : Network} {σ next : ServerState} {history moments : List Moment}
variable {loader : LoaderId} {addr : DevAddr}

/-- At the start there are neither frames nor candidates. -/
theorem boot (now : Instant) : Origins [] { now := now } where
  made := by rintro _ _ ⟨_, hmem, -⟩; cases hmem
  one := by rintro _ _ _ ⟨_, hmem, -⟩; cases hmem
  known _ _ h := by cases h
  waits := by rintro _ _ _ ⟨_, hqueue, -⟩; cases hqueue
  loads _ _ _ _ h := by cases h
  candidates _ _ _ _ _ _ h := by cases h
  told := by rintro _ _ _ ⟨_, hqueue, -⟩; cases hqueue
  begun := by rintro _ ⟨_, hmem, -⟩; cases hmem
  fresh _ _ _ := by rintro ⟨_, hmem, -⟩; cases hmem
  hands _ _ _ h := by cases h

/-- A loader that was there was made known before. -/
theorem founded_before (step : σ.Step net moments next)
    (hfounded : Founded (history ++ moments) loader addr)
    (hold : loader < σ.memory.queues.length) : Founded history loader addr := by
  refine (founded_append.mp hfounded).resolve_right fun hnew => ?_
  exact Nat.lt_irrefl _ ((step.founded hnew).1 ▸ hold)

/-- Loaders go on to be made known once, under the addresses they are made known for. -/
theorem founded_step (h : Origins history σ) (step : σ.Step net moments next) :
    (∀ loader addr, Founded (history ++ moments) loader addr →
      loader < next.memory.queues.length) ∧
    ∀ loader addr other, Founded (history ++ moments) loader addr →
      Founded (history ++ moments) loader other → addr = other := by
  refine ⟨fun loader addr hfounded => ?_, fun loader addr other hone htwo => ?_⟩
  · rcases founded_append.mp hfounded with hold | hnew
    · exact Nat.lt_of_lt_of_le (h.made loader addr hold) step.queues_le
    · exact (step.founded hnew).2
  · rcases founded_append.mp hone with hold | hnew
    · have htwo := founded_before step htwo (h.made loader addr hold)
      exact h.one loader addr other hold htwo
    · rcases founded_append.mp htwo with hold | hnew'
      · have hlt := h.made loader other hold
        rw [(step.founded hnew).1] at hlt
        exact absurd hlt (Nat.lt_irrefl _)
      · exact step.founded_one hnew hnew'

/-- Loaders go on to be known under the addresses that they are made known for. -/
theorem known_step (h : Origins history σ) (step : σ.Step net moments next)
    (hknown : next.memory.loaders.get? addr = some loader) :
    Founded (history ++ moments) loader addr := by
  rw [founded_append]
  rcases step.memory_cases with ⟨hsame, -⟩ | ⟨task, op, answer, rfl, hperform⟩
  · exact .inl (h.known addr loader (hsame ▸ hknown))
  · rcases (Memory.queueChange_of_perform hperform).known hknown with
      hold | ⟨-, frame, haddr, hevent⟩
    · exact .inl (h.known addr loader hold)
    · exact .inr ⟨_, List.mem_cons_self, frame, haddr, hevent⟩

/-- Whoever waits goes on to wait with its frame for the loader of the frame's address. -/
theorem waits_step (h : Origins history σ) (run : ServerRun net history σ)
    (step : σ.Step net moments next) {task : TaskId} {frame : DataFrame}
    (hwaits : next.memory.Waits loader task frame) :
    Founded (history ++ moments) loader frame.devAddr ∧
      ∃ job, next.jobs[task]? = some job ∧ job.activity.frame? = some frame := by
  have hkept : σ.memory.Waits loader task frame →
      Founded (history ++ moments) loader frame.devAddr ∧
        ∃ job, next.jobs[task]? = some job ∧ job.activity.frame? = some frame := by
    intro hold
    obtain ⟨hfounded, job, hjob, hframe⟩ := h.waits loader task frame hold
    obtain ⟨later, hlater, hactivity⟩ := step.persists hjob
    exact ⟨founded_append.mpr (.inl hfounded), later, hlater, hactivity ▸ hframe⟩
  rcases step.memory_cases with ⟨hsame, -⟩ | ⟨performer, op, answer, rfl, hperform⟩
  · exact hkept (hsame ▸ hwaits)
  · rcases (Memory.queueChange_of_perform hperform).waits hwaits with
      hold | ⟨rfl, rfl, hjoined⟩
    · exact hkept hold
    · obtain ⟨activity, rest, found, -⟩ := step.performs List.mem_cons_self
      obtain ⟨later, hlater, hactivity⟩ := step.persists found
      have hframe : activity.frame? = some frame := run.allows_sight default found
      refine ⟨founded_append.mpr (hjoined.imp (h.known _ _) fun hevent => ?_), later, hlater,
        hactivity ▸ hframe⟩
      exact ⟨_, List.mem_cons_self, frame, rfl, hevent⟩

/-- Tasks go on to load the addresses that their loaders were made known for. -/
theorem loads_step (h : Origins history σ) (run : ServerRun net history σ)
    (step : σ.Step net moments next) {task : TaskId} {job : Job}
    (hjob : next.jobs[task]? = some job) (hloads : job.activity = .loadAddress loader addr) :
    Founded (history ++ moments) loader addr := by
  refine founded_append.mpr (.inl ?_)
  rcases step.found_or_begun hjob (by rw [hloads]; rfl) with
    ⟨old, hold, hsame⟩ | ⟨starter, activity, activities, rest, found, -, -, listed⟩
  · exact h.loads task old loader addr hold (hsame.trans hloads)
  · rw [hloads] at listed
    rcases run.starts found with ⟨_, _, hopened, rfl⟩ | ⟨_, _, candidates, -, rfl⟩
    · cases List.mem_singleton.mp (List.mem_of_getElem? listed)
      exact h.known addr loader (run.loading.fits.tied.known starter addr loader (by
        rw [hopened]
        rfl))
    · obtain ⟨_, _, heq⟩ := List.mem_mapIdx.mp (List.mem_of_getElem? listed)
      cases heq

/-- Tasks go on to load candidates of loaders that have started. -/
theorem candidates_step (h : Origins history σ) (step : σ.Step net moments next) {task : TaskId}
    {job : Job} {place : Nat} {eui : Eui64} (hjob : next.jobs[task]? = some job)
    (hloads : job.activity = .loadCandidate loader place addr eui) :
    Started (history ++ moments) loader := by
  rw [started_append]
  rcases step.found_or_begun hjob (by rw [hloads]; rfl) with
    ⟨old, hold, hsame⟩ | ⟨starter, activity, activities, rest, -, performed, -, listed⟩
  · exact .inl (h.candidates task old loader place addr eui hold (hsame.trans hloads))
  · rw [performed]
    exact .inr ⟨_, List.mem_cons_self, activities, rfl, place, addr, eui,
      List.mem_of_getElem? (hloads ▸ listed)⟩

/-- A loader goes on to be told of candidates after it has started. -/
theorem told_step (h : Origins history σ) (run : ServerRun net history σ)
    (step : σ.Step net moments next) {place : Nat} {load : CandidateLoad}
    (htold : next.memory.Told loader place load) : Started (history ++ moments) loader := by
  refine started_append.mpr (.inl ?_)
  rcases step.memory_cases with ⟨hsame, -⟩ | ⟨teller, op, answer, rfl, hperform⟩
  · exact h.told loader place load (hsame ▸ htold)
  · rcases (Memory.queueChange_of_perform hperform).told_cases htold with hold | rfl
    · exact h.told loader place load hold
    · obtain ⟨activity, rest, found, -⟩ := step.performs List.mem_cons_self
      obtain ⟨addr, eui, hactivity, -⟩ := run.allows_sight default found
      exact h.candidates teller _ loader place addr eui found hactivity

/-- A loader that starts a candidate had just asked. -/
theorem asked_of_started (run : ServerRun net history σ) (step : σ.Step net moments next)
    (hstarted : Started moments loader) :
    ∃ m ∈ moments, ∃ addr activities, σ.roster history m.task = .asked loader addr ∧
      m.event.op = .start activities := by
  obtain ⟨m, hmem, activities, hop, place, addr, eui, hlisted⟩ := hstarted
  cases step with
  | wait | arrive | again => cases hmem
  | @perform performer activity op rest answer after found admitted =>
    obtain rfl := List.mem_singleton.mp hmem
    obtain rfl : op = .start activities := hop
    obtain rfl : after = σ.memory := admitted
    exact ⟨_, List.mem_cons_self, addr, activities, run.asked_of_candidate found hlisted, rfl⟩

/-- A loader that starts was made known. -/
theorem begun_step (h : Origins history σ) (run : ServerRun net history σ)
    (step : σ.Step net moments next) (hstarted : Started (history ++ moments) loader) :
    loader < next.memory.queues.length := by
  refine Nat.lt_of_lt_of_le ?_ step.queues_le
  rcases started_append.mp hstarted with hold | hnew
  · exact h.begun loader hold
  · obtain ⟨m, -, addr, activities, hasked, -⟩ := asked_of_started run step hnew
    obtain ⟨queue, hqueue, -⟩ := run.loading.fits.tied.accepting m.task loader (by rw [hasked]; rfl)
    exact (List.getElem?_eq_some_iff.mp hqueue).1

/-- A loader that has yet to start had yet to start before and does not start now, or it is just
made known. -/
theorem unstarted_step (run : ServerRun net history σ) (step : σ.Step net moments next)
    {task : TaskId} (h : (next.roster (history ++ moments) task).unstarted = some loader) :
    (∃ addr, Founded moments loader addr) ∨
      (∃ other, (σ.roster history other).unstarted = some loader) ∧ ¬ Started moments loader := by
  have hloading := run.loading
  -- Only the task that looks after a loader starts it.
  have hstarter : ∀ {other : TaskId}, (σ.roster history other).unstarted = some loader →
      Started moments loader → ∃ m ∈ moments, m.task = other ∧
        ∃ activities, m.event.op = .start activities := by
    intro other hunstarted hstarted
    obtain ⟨m, hmem, addr, activities, hasked, hop⟩ := asked_of_started run step hstarted
    refine ⟨m, hmem, ?_, activities, hop⟩
    exact hloading.fits.tied.apart m.task other loader (by rw [hasked]; rfl)
      (Stage.serves_of_unstarted hunstarted)
  generalize hstage : next.roster (history ++ moments) task = stage at h
  have hmoved := run.moved step task
  rw [hstage] at hmoved
  cases hmoved with
  | kept still =>
    refine .inr ⟨⟨task, h⟩, fun hstarted => ?_⟩
    obtain ⟨m, hmem, heq, -⟩ := hstarter h hstarted
    exact still m hmem heq
  | performed found admitted performed =>
    have hallows := (hloading.jobs task _ found).rules.1
    rcases Stage.unstarted_of_next hallows h with hold | ⟨frame, hevent⟩
    · refine .inr ⟨⟨task, hold⟩, fun hstarted => ?_⟩
      obtain ⟨m, hmem, -, activities, hop⟩ := hstarter hold hstarted
      rw [performed, List.mem_singleton] at hmem
      subst hmem
      obtain rfl := hop
      rcases hallows with ⟨_, _, hstage, -⟩ | ⟨_, _, _, hstage, -⟩ <;> rw [hstage] at h <;> cases h
    · exact .inl ⟨_, by rw [performed]; exact ⟨_, List.mem_cons_self, frame, rfl, hevent⟩⟩
  | @begun starter activity begun activities rest found performed listed =>
    rcases run.starts found with ⟨_, _, hopened, rfl⟩ | ⟨_, _, candidates, -, rfl⟩
    · obtain rfl := List.mem_singleton.mp (List.mem_of_getElem? listed)
      refine .inr ⟨⟨starter, by rw [hopened]; exact h⟩, ?_⟩
      rintro ⟨m, hmem, activities, hop, place, addr, eui, hlisted⟩
      rw [performed, List.mem_singleton] at hmem
      subst hmem
      obtain rfl := ServerOperation.start.inj hop
      cases List.mem_singleton.mp hlisted
    · rw [Service.stage_of_candidate listed] at h
      cases h

/-- A loader goes on to answer frames of its own address. -/
theorem hands_step (h : Origins history σ) (run : ServerRun net history σ)
    (step : σ.Step net moments next) {task waiter : TaskId} {frame : DataFrame}
    (hhand : (waiter, frame) ∈ (next.roster (history ++ moments) task).hand) :
    next.Answers task waiter frame := by
  have hpersists : σ.Answers task waiter frame → next.Answers task waiter frame := by
    rintro ⟨job, hjob, hloads, found, hfound, hframe⟩
    obtain ⟨later, hlater, hactivity⟩ := step.persists hjob
    obtain ⟨last, hlast, hsame⟩ := step.persists hfound
    exact ⟨later, hlater, hactivity ▸ hloads, last, hlast, hsame ▸ hframe⟩
  refine hpersists ?_
  generalize hstage : next.roster (history ++ moments) task = stage at hhand
  have hmoved := run.moved step task
  rw [hstage] at hmoved
  cases hmoved with
  | kept still => exact h.hands task waiter frame hhand
  | performed found admitted performed =>
    rcases Stage.hand_of_next hhand with hold | ⟨loader, frames, hevent, hmem⟩
    · exact h.hands task waiter frame hold
    · have hallows := run.allows_sight default found
      cases hevent
      obtain ⟨addr, hactivity⟩ := hallows
      obtain ⟨hframes, -⟩ := Prod.mk.inj (Option.some.inj admitted)
      cases hqueue : σ.memory.queues[loader]? with
      | none =>
        rw [← hframes, hqueue] at hmem
        cases hmem
      | some queue =>
        rw [← hframes, hqueue] at hmem
        obtain ⟨hfounded, hwaiter⟩ := h.waits loader waiter frame ⟨queue, hqueue, hmem⟩
        have hsame := h.one loader addr frame.devAddr
          (h.loads task _ loader addr found hactivity) hfounded
        exact ⟨_, found, ⟨loader, hsame ▸ hactivity⟩, hwaiter⟩
  | begun found performed listed =>
    rcases run.starts found with ⟨_, _, -, rfl⟩ | ⟨_, _, candidates, -, rfl⟩
    · obtain rfl := List.mem_singleton.mp (List.mem_of_getElem? listed)
      cases hhand
    · rw [Service.stage_of_candidate listed] at hhand
      cases hhand

/-- Where frames and candidates come from survives every step. -/
theorem step (h : Origins history σ) (run : ServerRun net history σ)
    (step : σ.Step net moments next) : Origins (history ++ moments) next where
  made := (h.founded_step step).1
  one := (h.founded_step step).2
  known _ _ hknown := h.known_step step hknown
  waits _ _ _ hwaits := h.waits_step run step hwaits
  loads _ _ _ _ hjob hloads := h.loads_step run step hjob hloads
  candidates _ _ _ _ _ _ hjob hloads := h.candidates_step step hjob hloads
  told _ _ _ htold := h.told_step run step htold
  begun _ hstarted := h.begun_step run step hstarted
  hands _ _ _ hhand := h.hands_step run step hhand
  fresh task loader hunstarted hstarted := by
    rcases unstarted_step run step hunstarted with ⟨addr, hfounded⟩ | ⟨⟨other, hold⟩, hnew⟩
    · -- A loader that is just made known has a new number.
      rcases started_append.mp hstarted with hbefore | hnow
      · have hlt := h.begun loader hbefore
        rw [(step.founded hfounded).1] at hlt
        exact Nat.lt_irrefl _ hlt
      · obtain ⟨m, hmem, _, activities, -, hop⟩ := asked_of_started run step hnow
        obtain ⟨m', hmem', frame, -, hevent⟩ := hfounded
        rw [step.eq_singleton hmem] at hmem'
        rw [← List.mem_singleton.mp hmem', hevent] at hop
        cases hop
    · exact (started_append.mp hstarted).elim (h.fresh other loader hold) hnew

end ServerRun.Origins

/-- Where frames and candidates come from, at every moment of a run. -/
theorem ServerRun.origins {net : Network} {history : List Moment} {σ : ServerState}
    (run : ServerRun net history σ) : Origins history σ := by
  induction run with
  | boot now => exact .boot now
  | step run step ih => exact ih.step run step

end LoraNetwork
