import LoraNetwork.Proofs.Loader.Publication
import LoraNetwork.Proofs.Registry.Finding

/-!
# One loader after another

When a loader has left, nobody knows it any more. Whoever waits for a reply from then on waits for a
loader that was made known later, and is replied to by the task of this loader, which asked the
store itself.
-/

namespace LoraNetwork

namespace ServerState.Reaches

variable {net : Network} {σ reached : ServerState} {later : List Moment} {addr : DevAddr}
variable {loader : LoaderId}

/-- If no loader of an address was known, one that is known by now was made known since. -/
theorem founded_of_known (h : σ.Reaches net later reached)
    (hunknown : σ.memory.loaders.get? addr = none)
    (hknown : reached.memory.loaders.get? addr = some loader) : Founded later loader addr := by
  induction h with
  | start =>
    rw [hunknown] at hknown
    cases hknown
  | @step later moments reached next _ step ih =>
    rw [founded_append]
    rcases step.memory_cases with ⟨hsame, -⟩ | ⟨task, op, answer, rfl, hperform⟩
    · exact .inl (ih (hsame ▸ hknown))
    · rcases (Memory.queueChange_of_perform hperform).known hknown with
        hold | ⟨-, frame, haddr, hevent⟩
      · exact .inl (ih hold)
      · exact .inr ⟨_, List.mem_cons_self, frame, haddr, hevent⟩

/-- Queues are only added. -/
theorem queues_le (h : σ.Reaches net later reached) :
    σ.memory.queues.length ≤ reached.memory.queues.length := by
  induction h with
  | start => exact Nat.le_refl _
  | step _ step ih => exact Nat.le_trans ih step.queues_le

/-- A loader that was made known since has a number that was not used before. -/
theorem queues_le_of_founded (h : σ.Reaches net later reached)
    (hfounded : Founded later loader addr) : σ.memory.queues.length ≤ loader := by
  induction h with
  | start => obtain ⟨_, hmem, -⟩ := hfounded; cases hmem
  | step reaches step ih =>
    rcases founded_append.mp hfounded with hold | hnew
    · exact ih hold
    · rw [(step.founded hnew).1]
      exact reaches.queues_le

end ServerState.Reaches

/-- Nobody knows the loader of an address when it has left. -/
theorem ServerState.Step.unknown_of_leaves {net : Network} {σ next : ServerState} {m : Moment}
    {addr : DevAddr} (step : σ.Step net [m] next) (hleaves : m.event.leaves addr = true) :
    next.memory.loaders.get? addr = none := by
  cases step with
  | @perform task activity op rest answer after found admitted =>
    unfold Event.leaves at hleaves
    split at hleaves
    · rename_i heq
      cases heq
      obtain rfl := of_decide_eq_true hleaves
      obtain ⟨-, rfl⟩ := Prod.mk.inj (Option.some.inj admitted)
      exact (Table.get?_erase _ _ _).trans (if_pos rfl)
    · cases hleaves

/-- The moment adds a frame to the queue of a loader that was known, or that it makes known. -/
def Moment.Joins (m : Moment) (loader : LoaderId) (frame : DataFrame) : Prop :=
  m.event.op = .memory (.joinLoader frame) ∧ (m.before.loaders.get? frame.devAddr = some loader ∨
    m.event = ⟨.memory (.joinLoader frame), Joined.started loader⟩)

namespace ServerRun

variable {net : Network} {history before after : List Moment} {leave : Moment} {σ : ServerState}
variable {task : TaskId} {job : Job} {loader : LoaderId} {addr : DevAddr} {frame : DataFrame}
variable {resolution : Resolution}

/-! ## Replies -/

/-- Whoever waits in a queue has joined its loader. -/
theorem joins_of_waits (run : ServerRun net history σ) (hwaits : σ.memory.Waits loader task frame) :
    ∃ m ∈ history, m.task = task ∧ m.Joins loader frame := by
  induction run with
  | boot now => obtain ⟨_, hqueue, -⟩ := hwaits; cases hqueue
  | @step history moments σ next run step ih =>
    have hbefore : σ.memory.Waits loader task frame →
        ∃ m ∈ history ++ moments, m.task = task ∧ m.Joins loader frame := by
      intro hold
      obtain ⟨m, hmem, hjoins⟩ := ih hold
      exact ⟨m, List.mem_append_left _ hmem, hjoins⟩
    rcases step.memory_cases with ⟨hsame, -⟩ | ⟨performer, op, answer, rfl, hperform⟩
    · exact hbefore (hsame ▸ hwaits)
    · rcases (Memory.queueChange_of_perform hperform).waits hwaits with hold | ⟨rfl, rfl, hjoined⟩
      · exact hbefore hold
      · exact ⟨_, List.mem_append_right _ List.mem_cons_self, rfl, rfl, hjoined⟩

/-- A reply that is there was sent. -/
theorem sent_of_reply (run : ServerRun net history σ)
    (hreply : σ.memory.replies.get? task = some resolution) :
    ∃ m ∈ history, m.event.op = .memory (.reply task resolution) := by
  induction run with
  | boot now => cases hreply
  | @step history moments σ next run step ih =>
    have hbefore : σ.memory.replies.get? task = some resolution →
        ∃ m ∈ history ++ moments, m.event.op = .memory (.reply task resolution) := by
      intro hold
      obtain ⟨m, hmem, hop⟩ := ih hold
      exact ⟨m, List.mem_append_left _ hmem, hop⟩
    rcases step.memory_cases with ⟨hsame, -⟩ | ⟨performer, op, answer, rfl, hperform⟩
    · exact hbefore (hsame ▸ hreply)
    · rcases Memory.reply_of_perform hperform hreply with hold | rfl
      · exact hbefore hold
      · exact ⟨_, List.mem_append_right _ List.mem_cons_self, rfl⟩

/-- A reply that was taken was sent before. -/
theorem sent_of_taken (run : ServerRun net history σ)
    (htakes : ⟨.memory .takeReply, resolution⟩ ∈ eventsOf task history) :
    ∃ m ∈ history, m.event.op = .memory (.reply task resolution) := by
  obtain ⟨m, hmem, rfl, hevent⟩ := mem_eventsOf.mp htakes
  obtain ⟨before, after, earlier, _, _, _, rfl, hbefore, -, admitted, -⟩ :=
    run.exists_performed hmem
  rw [hevent] at admitted
  simp only [ServerState.Admits, Memory.perform] at admitted
  split at admitted
  · cases admitted
  · rename_i found hreply
    obtain ⟨rfl, -⟩ := Prod.mk.inj (Option.some.inj admitted)
    obtain ⟨sent, hsent, hop⟩ := hbefore.sent_of_reply hreply
    exact ⟨sent, List.mem_append_left _ hsent, hop⟩

/-- Whoever replies to a task loads the address of its frame. -/
theorem loads_of_reply (run : ServerRun net history σ) {m : Moment} (hmem : m ∈ history)
    (hop : m.event.op = .memory (.reply task resolution)) (hjob : σ.jobs[task]? = some job)
    (hframe : job.activity.frame? = some frame) :
    ∃ loader replier, σ.jobs[m.task]? = some replier ∧
      replier.activity = .loadAddress loader frame.devAddr := by
  obtain ⟨before, after, earlier, _, _, _, rfl, hbefore, found, -, -, hreaches⟩ :=
    run.exists_performed hmem
  have hallows := (hbefore.loading.jobs m.task _ found).rules.1
  rw [hop] at hallows
  obtain ⟨waits, others, hanswering⟩ := hallows
  obtain ⟨replier, hreplier, ⟨loader, hloads⟩, waiter, hwaiter, hwaits⟩ :=
    hbefore.origins.hands m.task task waits (by rw [hanswering]; exact List.mem_cons_self)
  obtain ⟨last, hlast, hsame⟩ := hreaches.persists hreplier
  rw [hreaches.activity_eq hwaiter hjob, hwaits] at hframe
  obtain rfl := Option.some.inj hframe
  exact ⟨loader, last, hlast, hsame.trans hloads⟩

/-- Whoever is replied to by the task of a loader has joined this loader. -/
theorem joins_of_reply (run : ServerRun net history σ) {m : Moment} (hmem : m ∈ history)
    (hop : m.event.op = .memory (.reply task resolution)) {replier : Job}
    (hreplier : σ.jobs[m.task]? = some replier)
    (hloads : replier.activity = .loadAddress loader addr)
    (hjob : σ.jobs[task]? = some job) (hframe : job.activity.frame? = some frame) :
    ∃ join ∈ history, join.task = task ∧ join.Joins loader frame := by
  have hprogram := run.program_reaches_of_once hreplier (hloads ▸ Activity.loader_once)
  rw [hloads] at hprogram
  obtain ⟨frames, hcloses, waits, hwaits⟩ := Activity.closes_of_loader hprogram
    (mem_eventsOf.mpr ⟨m, hmem, rfl, rfl⟩) hop
  obtain ⟨close, hclose, -, hevent⟩ := mem_eventsOf.mp hcloses
  obtain ⟨before, after, earlier, _, _, _, rfl, hbefore, -, admitted, -, hreaches⟩ :=
    run.exists_performed hclose
  rw [hevent] at admitted
  have hqueued : earlier.memory.Waits loader task waits := by
    obtain rfl : (earlier.memory.queues[loader]?.map LoaderQueue.pending).getD [] = frames :=
      (Prod.mk.inj (Option.some.inj admitted)).1
    cases hqueue : earlier.memory.queues[loader]? with
    | none =>
      rw [hqueue] at hwaits
      cases hwaits
    | some queue =>
      rw [hqueue] at hwaits
      exact ⟨queue, hqueue, hwaits⟩
  obtain ⟨-, waiter, hwaiter, hwaited⟩ := hbefore.origins.waits loader task waits hqueued
  rw [hreaches.activity_eq hwaiter hjob, hwaited] at hframe
  obtain rfl := Option.some.inj hframe
  obtain ⟨join, hjoin, hjoins⟩ := hbefore.joins_of_waits hqueued
  exact ⟨join, List.mem_append_left _ hjoin, hjoins⟩

/-! ## After a loader has left -/

/-- Whoever joins a loader after an earlier one of the address has left joins a later one. -/
theorem founded_of_joins (run : ServerRun net (before ++ leave :: after) σ)
    (hleave : leave.event.leaves frame.devAddr = true) {join : Moment}
    (hmem : join ∈ before ++ leave :: after) (hlater : join ∉ before ++ [leave])
    (hjoins : join.Joins loader frame) : Founded after loader frame.devAddr := by
  obtain ⟨first, rest, middle, _, _, _, hparts, hfirst, -, -, hmemory, -⟩ :=
    run.exists_performed hmem
  rw [← List.singleton_append, ← List.append_assoc] at hparts
  obtain ⟨between, rfl, rfl⟩ := exists_of_not_mem_left hparts hlater
  obtain ⟨hop, hknown | hevent⟩ := hjoins
  · rw [List.append_assoc, List.singleton_append] at hfirst
    obtain ⟨_, next, -, step, hreaches⟩ := hfirst.exists_step
    rw [hmemory] at hknown
    exact founded_append.mpr
      (.inl (hreaches.founded_of_known (step.unknown_of_leaves hleave) hknown))
  · exact founded_append.mpr (.inr ⟨join, List.mem_cons_self, frame, rfl, hevent⟩)

/-- Nothing was done by the task of a loader before the loader was made known. -/
theorem task_ne_of_founded (run : ServerRun net (before ++ leave :: after) σ)
    (hfounded : Founded after loader addr) (hjob : σ.jobs[task]? = some job)
    (hloads : job.activity = .loadAddress loader addr) :
    ∀ m ∈ before ++ [leave], m.task ≠ task := by
  rintro m hmem rfl
  obtain ⟨_, next, hbefore, step, hreaches⟩ := run.exists_step
  have hrun := hbefore.step step
  have horigins := hrun.origins
  have hold := List.getElem?_eq_getElem (hrun.task_lt m hmem)
  have hmade := horigins.made loader addr (horigins.loads m.task _ loader addr hold
    ((hreaches.activity_eq hold hjob).symm.trans hloads))
  exact Nat.not_lt.mpr (hreaches.queues_le_of_founded hfounded) hmade

/-- What the task of a loader did that replies to somebody, it did after it had asked the store. -/
theorem asked_of_reply {replier : TaskId} {rest : Service Verdict} {reply : Moment}
    (hprogram : ((Activity.loadAddress loader addr).program net).Reaches
      (eventsOf replier history) rest)
    (hmem : reply ∈ history) (htask : reply.task = replier)
    (hop : reply.event.op = .memory (.reply task resolution)) :
    ∃ ask, [ask, reply].Sublist history ∧ ask.event.asksFor addr = true ∧ ask.task = replier := by
  have hreply : reply ∈ history.filter fun m => m.task = replier :=
    List.mem_filter.mpr ⟨hmem, decide_eq_true htask⟩
  rcases Activity.asks_of_loader hprogram with hnil | ⟨answer, later, hevents⟩
  · rw [List.map_eq_nil_iff.mp hnil] at hreply
    cases hreply
  · obtain ⟨ask, others, hdone, hasks, rfl⟩ := List.map_eq_cons_iff.mp hevents
    have hask : ask ∈ history.filter fun m => m.task = replier := hdone ▸ List.mem_cons_self
    refine ⟨ask, ?_, hasks ▸ decide_eq_true rfl, of_decide_eq_true (List.mem_filter.mp hask).2⟩
    rw [hdone] at hreply
    have hothers : reply ∈ others := by
      refine (List.mem_cons.mp hreply).resolve_left ?_
      rintro rfl
      rw [hasks] at hop
      cases hop
    have hordered := (List.singleton_sublist.mpr hothers).cons_cons ask
    rw [← hdone] at hordered
    exact hordered.trans List.filter_sublist

/-- Who takes a reply after a loader of its address has left, and had done nothing before, takes it
from a task that asked the store after the loader had left. -/
theorem asked_again (run : ServerRun net (before ++ leave :: after) σ)
    (hleave : leave.event.leaves frame.devAddr = true)
    (hlater : ∀ m ∈ before ++ [leave], m.task ≠ task) (hjob : σ.jobs[task]? = some job)
    (hframe : job.activity.frame? = some frame)
    (htakes : ⟨.memory .takeReply, resolution⟩ ∈ eventsOf task (before ++ leave :: after)) :
    ∃ ask reply, [ask, reply].Sublist after ∧ ask.event.asksFor frame.devAddr = true ∧
      reply.task = ask.task ∧ reply.event.op = .memory (.reply task resolution) := by
  obtain ⟨reply, hreply, hop⟩ := run.sent_of_taken htakes
  obtain ⟨loader, replier, hreplier, hloads⟩ := run.loads_of_reply hreply hop hjob hframe
  obtain ⟨join, hjoin, rfl, hjoins⟩ :=
    run.joins_of_reply hreply hop hreplier hloads hjob hframe
  have hfounded := run.founded_of_joins hleave hjoin (fun hmem => hlater join hmem rfl) hjoins
  have hnone := run.task_ne_of_founded hfounded hreplier hloads
  have hprogram := run.program_reaches_of_once hreplier (hloads ▸ Activity.loader_once)
  -- All that the replier did comes after the loader had left.
  rw [← List.singleton_append, ← List.append_assoc] at hreply hprogram
  rw [hloads, eventsOf_append, eventsOf_eq_nil hnone, List.nil_append] at hprogram
  have hmem : reply ∈ after :=
    (List.mem_append.mp hreply).resolve_left fun hold => hnone reply hold rfl
  obtain ⟨ask, hordered, hasks, hsame⟩ := asked_of_reply hprogram hmem rfl hop
  exact ⟨ask, reply, hordered, hasks, hsame.symm, hop⟩

end ServerRun

end LoraNetwork
