import LoraNetwork.Proofs.Loader.Replies

/-!
# The invariant of loading

The stages of all tasks are read off the history of a run. At every moment they belong to the
registry's memory and to what was counted so far, and whatever is left of a task keeps the rules of
its stage. What a step does to the stages is said once: its task moves on, and the tasks that it
starts are where they begin.
-/

namespace LoraNetwork

/-! ## Stages along a run -/

/-- The stage of a task that began in some stage, after what has happened so far. -/
def stageOf (start : Stage) (task : TaskId) (history : List Moment) : Stage :=
  history.foldl (fun stage m => if m.task = task then stage.next m.event else stage) start

/-- The stage of every task of a server. A task that is not there has nothing to do with loading. -/
def ServerState.roster (σ : ServerState) (history : List Moment) : Roster := fun task =>
  match σ.jobs[task]? with
  | none => .idle
  | some job => stageOf job.activity.stage task history

/-- The roster with further tasks, numbered from the first one that is not there. -/
def Roster.launch (stages : Roster) (first : TaskId) (activities : List Activity) : Roster :=
  fun task =>
    if task < first then stages task else (activities[task - first]?.map Activity.stage).getD .idle

section Stages

variable {start : Stage} {task other : TaskId} {history : List Moment} {m : Moment}
variable {net : Network} {σ : ServerState} {job : Job} {memory : Memory}
variable {activities : List Activity}

theorem stageOf_snoc : stageOf start task (history ++ [m]) =
    if m.task = task then (stageOf start task history).next m.event
    else stageOf start task history := by
  rw [stageOf, List.foldl_append]
  rfl

/-- A task that has done nothing is where it began. -/
theorem stageOf_eq_start (h : ∀ m ∈ history, m.task ≠ task) :
    stageOf start task history = start := by
  induction history with
  | nil => rfl
  | cons m rest ih =>
    rw [stageOf, List.foldl_cons, if_neg (h m List.mem_cons_self)]
    exact ih fun other hmem => h other (List.mem_cons_of_mem _ hmem)

namespace ServerState

theorem roster_eq (h : σ.jobs[task]? = some job) :
    σ.roster history task = stageOf job.activity.stage task history := by
  rw [roster, h]

theorem roster_of_length_le (h : σ.jobs.length ≤ task) : σ.roster history task = .idle := by
  rw [roster, List.getElem?_eq_none_iff.mpr h]

/-- A task that goes on with its activity is in its stage. -/
theorem roster_proceed {activity : Activity} {rest old : Service Verdict}
    (found : σ.jobs[task]? = some ⟨activity, old⟩) :
    (σ.proceed task ⟨activity, rest⟩ memory).roster history = σ.roster history := by
  funext other
  unfold roster proceed
  dsimp only
  rw [List.getElem?_set]
  by_cases heq : task = other
  · subst heq
    rw [if_pos rfl, if_pos (List.getElem?_eq_some_iff.mp found).1, found]
  · rw [if_neg heq]

/-- Tasks that are started are where they begin. -/
theorem roster_launch (hpast : ∀ m ∈ history, m.task < σ.jobs.length) :
    (σ.launch net activities).roster history =
      (σ.roster history).launch σ.jobs.length activities := by
  funext other
  unfold Roster.launch
  split
  · rename_i hlt
    simp only [roster, launch, List.getElem?_append_left hlt]
  · rename_i hge
    have hle : σ.jobs.length ≤ other := Nat.le_of_not_lt hge
    simp only [roster, launch, List.getElem?_append_right hle, List.getElem?_map]
    cases activities[other - σ.jobs.length]? with
    | none => rfl
    | some activity =>
      exact stageOf_eq_start fun m hmem =>
        Nat.ne_of_lt (Nat.lt_of_lt_of_le (hpast m hmem) hle)

/-- A task moves on with what it does. -/
theorem roster_snoc (hm : m.task < σ.jobs.length) : σ.roster (history ++ [m]) =
    (σ.roster history).set m.task ((σ.roster history m.task).next m.event) := by
  funext other
  rcases Roster.set_cases (σ.roster history) m.task
    ((σ.roster history m.task).next m.event) other with ⟨rfl, heq⟩ | ⟨hne, heq⟩ <;> rw [heq]
  · have hfound := List.getElem?_eq_getElem hm
    rw [roster_eq hfound, roster_eq hfound, stageOf_snoc, if_pos rfl]
  · unfold roster
    cases σ.jobs[other]? with
    | none => rfl
    | some job => exact stageOf_snoc.trans (if_neg (Ne.symm hne))

end ServerState

namespace Roster

variable {stages : Roster} {first : TaskId} {stage : Stage} {activity : Activity}

theorem launch_of_lt (h : task < first) : stages.launch first activities task = stages task :=
  if_pos h

theorem launch_of_le (h : first ≤ task) : stages.launch first activities task =
    (activities[task - first]?.map Activity.stage).getD .idle :=
  if_neg (Nat.not_lt.mpr h)

/-- Nobody new is anywhere. -/
theorem launch_nil (hfresh : ∀ task, first ≤ task → stages task = .idle) :
    stages.launch first [] = stages := by
  funext task
  unfold launch
  split
  · rfl
  · rename_i hge
    exact (hfresh task (Nat.le_of_not_lt hge)).symm

/-- Nothing changes by an activity that begins without anything to do with loading. -/
theorem launch_idle (hfresh : ∀ task, first ≤ task → stages task = .idle)
    (hidle : activity.stage = .idle) : stages.launch first [activity] = stages := by
  funext task
  unfold launch
  split
  · rfl
  · rename_i hge
    rw [hfresh task (Nat.le_of_not_lt hge)]
    cases hnew : [activity][task - first]? with
    | none => rfl
    | some found =>
      obtain rfl := List.mem_singleton.mp (List.mem_of_getElem? hnew)
      exact hidle

/-- One more task is the first that was not there. -/
theorem launch_singleton (hfresh : ∀ task, first ≤ task → stages task = .idle) :
    stages.launch first [activity] = stages.set first activity.stage := by
  funext task
  unfold launch
  rcases Nat.lt_trichotomy task first with hlt | rfl | hgt
  · rw [if_pos hlt, set_of_ne _ _ (Nat.ne_of_lt hlt)]
  · rw [if_neg (Nat.lt_irrefl task), Nat.sub_self, set_self]
    rfl
  · rw [if_neg (Nat.lt_asymm hgt), set_of_ne _ _ (Nat.ne_of_gt hgt),
      hfresh task (Nat.le_of_lt hgt), List.getElem?_eq_none_iff.mpr]
    · rfl
    · rw [List.length_singleton]
      omega

end Roster

end Stages

/-! ## Stages, memory and history -/

/-- Activities from outside begin without anything to do with loading. -/
theorem Activity.stage_eq_idle {activity : Activity} (h : activity.fromOutside = true) :
    activity.stage = .idle := by
  cases activity with
  | loadAddress | loadCandidate => cases h
  | dispatch | resolve | handle | install | forgetDevice | forgetAddress => rfl

/-- A task for a candidate begins with loading it. -/
theorem Service.stage_of_candidate {loader : LoaderId} {addr : DevAddr}
    {candidates : List DeviceCandidate} {place : Nat} {activity : Activity}
    (h : (candidateActivities loader addr candidates)[place]? = some activity) :
    activity.stage = .loading loader place := by
  rw [candidateActivities, List.getElem?_mapIdx] at h
  obtain ⟨candidate, -, rfl⟩ := Option.map_eq_some_iff.mp h
  rfl

namespace Roster

open Service

variable {stages : Roster} {task first : TaskId} {loader : LoaderId} {addr : DevAddr}

/-- Who made a loader known hands it over to the task that it starts, and waits. -/
theorem launch_loader (hopened : stages task = .opened loader addr) (htask : task < first)
    (hfresh : ∀ other, first ≤ other → stages other = .idle) :
    (stages.set task ((stages task).next ⟨.start [.loadAddress loader addr], ()⟩)).launch first
      [.loadAddress loader addr] = (stages.set task .waiting).set first (.asking loader addr) := by
  have hnext : (stages task).next ⟨.start [.loadAddress loader addr], ()⟩ = .waiting := by
    rw [hopened]
    rfl
  rw [hnext, launch_singleton]
  · rfl
  · intro other hother
    rw [set_of_ne _ _ (Nat.ne_of_gt (Nat.lt_of_lt_of_le htask hother))]
    exact hfresh other hother

/-- A loader that starts its candidates gathers them. -/
theorem next_candidates (hasked : stages task = .asked loader addr)
    (candidates : List DeviceCandidate) :
    (stages task).next ⟨.start (candidateActivities loader addr candidates), ()⟩ =
      .gathering loader addr (candidateActivities loader addr candidates).length := by
  rw [hasked]
  rfl

end Roster

/-- The stages of all tasks belong to the memory and to the history. -/
structure Roster.Fits (stages : Roster) (history : List Moment) (m : Memory) : Prop where
  /-- Loaders are looked after. -/
  tied : stages.Tied m
  /-- Those who wait will be served. -/
  served : stages.Served m
  /-- Requests and replies add up. -/
  ledger : stages.Ledger history m

namespace Roster.Fits

open Memory Service

variable {stages : Roster} {history : List Moment} {m after : Memory} {task first : TaskId}
variable {net : Network} {σ : ServerState} {op : ServerOperation} {answer : op.Answer}

/-- The stages fit at the start. -/
theorem empty : Fits (fun _ => .idle) [] {} := ⟨.empty, .empty, .empty⟩

/-- An operation that has nothing to do with loading leaves everything. -/
theorem plain {event : Event serverInterface} (h : stages.Fits history m)
    (hnext : (stages task).next event = stages task) (hrequest : event.enqueues = false)
    (hreceipt : event.takesReply = false) (hreply : ∀ other, event.repliesTo other = false)
    (hsame : after.loaders = m.loaders ∧ after.queues = m.queues ∧ after.replies = m.replies) :
    (stages.set task ((stages task).next event)).Fits (history ++ [⟨task, event, m, after⟩])
      after := by
  have hset : stages.set task (stages task) = stages := by
    funext other
    rcases set_cases stages task (stages task) other with ⟨rfl, heq⟩ | ⟨-, heq⟩ <;> rw [heq]
  rw [hnext]
  rw [hset]
  exact ⟨h.tied.of_eq hsame.1 hsame.2.1,
    h.served.recast (fun _ => rfl) (fun _ => rfl) (fun _ => by rw [hsame.2.1]) hsame.2.2,
    h.ledger.skip (fun _ => rfl) hrequest hreceipt hreply hsame.2.2 m⟩

/-- A step on the memory leads to what the next stage says. -/
theorem memory {op : MemoryOperation} {answer : op.Answer} (h : stages.Fits history m)
    (hallows : (stages task).Allows (.memory op)) {config : ServerConfig} {now : Instant}
    (hperform : m.perform config now task op = some (answer, after)) :
    (stages.set task ((stages task).next ⟨.memory op, answer⟩)).Fits
      (history ++ [⟨task, ⟨.memory op, answer⟩, m, after⟩]) after := by
  cases op with
  | lookUpAddress | storeAddress | forgetAddress | lookUpSession | storeSession | forgetSession
    | newSlot | readAnnounced | announce | lineUp | giveBack =>
    exact h.plain rfl rfl rfl (fun _ => rfl) (same_of_plain hperform (.inl rfl))
  | takeSlot slot =>
    exact h.plain rfl rfl rfl (fun _ => rfl) (same_of_plain hperform (.inr ⟨slot, rfl⟩))
  | joinLoader frame =>
    have hidle : stages task = .idle := hallows
    have hjoins := joins_of_perform hperform
    refine ⟨h.tied.join hidle hjoins, h.served.join h.tied hidle hjoins, h.ledger.snoc ?_ ?_ m⟩
    · rw [hidle]
      cases hjoins <;> rfl
    · intro other
      cases hjoins <;> simp [Event.repliesTo, Event.takesReply, updateQueue]
  | takeReply =>
    have hwaiting : stages task = .waiting := hallows
    simp only [Memory.perform] at hperform
    split at hperform
    · cases hperform
    · rename_i resolution hreply
      obtain ⟨rfl, rfl⟩ := Prod.mk.inj (Option.some.inj hperform)
      refine ⟨(h.tied.takeReply hwaiting).of_eq rfl rfl,
        h.served.takeReply hwaiting (by rw [hreply]; simp), h.ledger.snoc ?_ ?_ m⟩
      · rw [hwaiting]
        rfl
      · intro other
        rw [Table.get?_erase]
        by_cases heq : task = other
        · rw [← heq, if_pos rfl, hreply]
          simp [Event.repliesTo, Event.takesReply]
        · simp [Event.repliesTo, Event.takesReply, heq]
  | leaveLoader addr =>
    obtain ⟨rfl, rfl⟩ := Prod.mk.inj (Option.some.inj hperform)
    obtain ⟨loader, hstage⟩ := hallows
    have hleave : (stages task).leave = .left loader := by
      rcases hstage with hstage | hstage <;> rw [hstage] <;> rfl
    have hknown : (stages task).known = some (addr, loader) := by
      rcases hstage with hstage | hstage <;> rw [hstage] <;> rfl
    have hloading : ∀ loader place, stages task ≠ .loading loader place := by
      rcases hstage with hstage | hstage <;> simp [hstage]
    have hhand : (stages task).hand = [] ∧ (stages task).expects = false := by
      rcases hstage with hstage | hstage <;> rw [hstage] <;> exact ⟨rfl, rfl⟩
    have hnext : (stages task).next ⟨.memory (.leaveLoader addr), ()⟩ = .left loader := hleave
    rw [hnext]
    refine ⟨h.tied.leave hknown hloading,
      h.served.relabel hhand.1.symm hhand.2.symm (fun _ => rfl) rfl,
      h.ledger.skip (expects_set ?_) rfl rfl (fun _ => rfl) ?_ m⟩
    · exact hhand.2.symm
    · rfl
  | closeQueue loader =>
    obtain ⟨rfl, rfl⟩ := Prod.mk.inj (Option.some.inj hperform)
    have hleft : stages task = .left loader := hallows
    refine ⟨h.tied.close hleft _, h.served.close hleft,
      h.ledger.skip (expects_set ?_) rfl rfl (fun _ => rfl) ?_ m⟩
    · rw [hleft]
      rfl
    · rfl
  | reply other resolution =>
    obtain ⟨rfl, rfl⟩ := Prod.mk.inj (Option.some.inj hperform)
    obtain ⟨frame, rest, hanswering⟩ := hallows
    obtain ⟨howed, hserved⟩ := h.served.reply hanswering resolution
    have hnext : (stages task).next ⟨.memory (.reply other resolution), ()⟩ = .answering rest := by
      rw [hanswering]
      rfl
    have htied : (stages.set task (.answering rest)).Tied m := h.tied.reply hanswering
    rw [hnext]
    refine ⟨htied.of_eq rfl rfl, hserved, h.ledger.snoc ?_ ?_ m⟩
    · rw [hanswering]
      rfl
    · intro one
      rw [Table.get?_set]
      by_cases heq : other = one
      · rw [← heq, howed.2]
        simp [Event.repliesTo, Event.takesReply]
      · simp [Event.repliesTo, Event.takesReply, heq]
  | deposit loader place load =>
    obtain ⟨rfl, rfl⟩ := Prod.mk.inj (Option.some.inj hperform)
    have hloading : stages task = .loading loader place := hallows
    refine ⟨h.tied.deposit hloading,
      h.served.relabel ?_ ?_ (Served.pending_updateQueue fun _ => rfl) ?_,
      h.ledger.skip (expects_set ?_) rfl rfl (fun _ => rfl) ?_ m⟩
    case refine_3 | refine_5 => rfl
    all_goals
      rw [hloading]
      rfl
  | gather loader count =>
    obtain ⟨loads, -, heq⟩ := Option.map_eq_some_iff.mp hperform
    obtain ⟨rfl, rfl⟩ := Prod.mk.inj heq
    obtain ⟨addr, hgathering⟩ := hallows
    have hnext : (stages task).next ⟨.memory (.gather loader count), loads⟩ =
        .gathered loader addr := by
      rw [hgathering]
      rfl
    rw [hnext]
    exact ⟨h.tied.gather hgathering,
      h.served.relabel (by rw [hgathering]; rfl) (by rw [hgathering]; rfl) (fun _ => rfl) rfl,
      h.ledger.skip (expects_set (by rw [hgathering]; rfl)) rfl rfl (fun _ => rfl) rfl m⟩

/-- An operation that starts nothing leads to what the next stage says. -/
theorem perform (h : stages.Fits history σ.memory) (hallows : (stages task).Allows op)
    (admitted : σ.Admits net task op answer after) (hstart : ∀ activities, op ≠ .start activities) :
    (stages.set task ((stages task).next ⟨op, answer⟩)).Fits
      (history ++ [⟨task, ⟨op, answer⟩, σ.memory, after⟩]) after := by
  cases op with
  | memory op => exact h.memory hallows admitted
  | clock =>
    obtain ⟨rfl, rfl⟩ := admitted
    exact h.plain rfl rfl rfl (fun _ => rfl) ⟨rfl, rfl, rfl⟩
  | wallClock | draw =>
    obtain rfl : after = σ.memory := admitted
    exact h.plain rfl rfl rfl (fun _ => rfl) ⟨rfl, rfl, rfl⟩
  | race request deadline =>
    obtain rfl : after = σ.memory := admitted
    exact h.plain rfl rfl rfl (fun _ => rfl) ⟨rfl, rfl, rfl⟩
  | call request =>
    obtain rfl : after = σ.memory := admitted
    cases request with
    | fetchCandidates addr =>
      obtain ⟨loader, hasking⟩ := hallows
      have hnext : (stages task).next ⟨.call (.fetchCandidates addr), answer⟩ =
          .asked loader addr := by
        rw [hasking]
        rfl
      rw [hnext]
      exact ⟨h.tied.ask hasking,
        h.served.relabel (by rw [hasking]; rfl) (by rw [hasking]; rfl) (fun _ => rfl) rfl,
        h.ledger.skip (expects_set (by rw [hasking]; rfl)) rfl rfl (fun _ => rfl) rfl _⟩
    | _ => exact h.plain rfl rfl rfl (fun _ => rfl) ⟨rfl, rfl, rfl⟩
  | start activities => exact absurd rfl (hstart activities)

/-- Who made a loader known starts it: nobody has another frame in hand or expects more. -/
theorem startLoader (h : stages.Fits history m) {loader : LoaderId} {addr : DevAddr}
    (hopened : stages task = .opened loader addr) (hnew : stages first = .idle) {later : Roster}
    (hlater : (stages.set task .waiting).set first (.asking loader addr) = later) :
    later.Tied m ∧ ∀ other, (later other).hand = (stages other).hand ∧
      (later other).expects = (stages other).expects := by
  rw [← hlater]
  refine ⟨h.tied.startLoader hopened hnew, fun other => ?_⟩
  by_cases heq : other = first
  · rw [heq, set_self, hnew]
    exact ⟨rfl, rfl⟩
  · rw [set_of_ne _ _ heq]
    exact ⟨hand_set (by rw [hopened]; rfl) other, expects_set (by rw [hopened]; rfl) other⟩

/-- A loader starts a task for each candidate: nobody has another frame in hand or expects more. -/
theorem startCandidates (h : stages.Fits history m) {loader : LoaderId} {addr : DevAddr}
    {activities : List Activity} (hasked : stages task = .asked loader addr)
    (hactivities : ∀ (place : Nat) (activity : Activity), activities[place]? = some activity →
      activity.stage = .loading loader place)
    (htask : task < first) (hfresh : ∀ other, first ≤ other → stages other = .idle)
    {later : Roster} (hlater : (stages.set task
      (.gathering loader addr activities.length)).launch first activities = later) :
    later.Tied m ∧ ∀ other, (later other).hand = (stages other).hand ∧
      (later other).expects = (stages other).expects := by
  have hself : later task = .gathering loader addr activities.length := by
    rw [← hlater, launch_of_lt htask, set_self]
  have hothers : ∀ other, other ≠ task → later other = stages other ∨
      stages other = .idle ∧ ∃ place, later other = .loading loader place := by
    intro other hne
    rw [← hlater]
    rcases Nat.lt_or_ge other first with hlt | hge
    · rw [launch_of_lt hlt, set_of_ne _ _ hne]
      exact .inl rfl
    · rw [hfresh other hge, launch_of_le hge]
      cases hnew : activities[other - first]? with
      | none => exact .inl rfl
      | some activity => exact .inr ⟨rfl, other - first, hactivities _ _ hnew⟩
  have hnew : ∀ place < activities.length, ∃ other, later other = .loading loader place := by
    intro place hplace
    refine ⟨first + place, ?_⟩
    rw [← hlater, launch_of_le (Nat.le_add_right _ _), Nat.add_sub_cancel_left,
      List.getElem?_eq_getElem hplace]
    exact hactivities _ _ (List.getElem?_eq_getElem hplace)
  refine ⟨h.tied.startCandidates hasked hself hnew hothers, fun other => ?_⟩
  by_cases heq : other = task
  · rw [heq, hself, hasked]
    exact ⟨rfl, rfl⟩
  · rcases hothers other heq with hsame | ⟨hidle, place, hloading⟩
    · rw [hsame]
      exact ⟨rfl, rfl⟩
    · rw [hloading, hidle]
      exact ⟨rfl, rfl⟩

/-- The start of activities leads to what the next stage says, with the new tasks where they
begin. -/
theorem start {activities : List Activity} (h : stages.Fits history m)
    (hallows : (stages task).Allows (.start activities)) (htask : task < first)
    (hfresh : ∀ other, first ≤ other → stages other = .idle) :
    ((stages.set task ((stages task).next ⟨.start activities, ()⟩)).launch first activities).Fits
      (history ++ [⟨task, ⟨.start activities, ()⟩, m, m⟩]) m := by
  have hrecast : ∀ later : Roster, later.Tied m →
      (∀ other, (later other).hand = (stages other).hand ∧
        (later other).expects = (stages other).expects) →
      later.Fits (history ++ [⟨task, ⟨.start activities, ()⟩, m, m⟩]) m := fun later htied hsame =>
    ⟨htied, h.served.recast (fun other => (hsame other).1) (fun other => (hsame other).2)
      (fun _ => rfl) rfl, h.ledger.skip (fun other => (hsame other).2) rfl rfl (fun _ => rfl) rfl m⟩
  rcases hallows with ⟨loader, addr, hopened, rfl⟩ | ⟨loader, addr, candidates, hasked, rfl⟩
  · have hstarted := h.startLoader hopened (hfresh first (Nat.le_refl _)) rfl
    rw [launch_loader hopened htask hfresh]
    exact hrecast _ hstarted.1 hstarted.2
  · have hcandidates : ∀ (place : Nat) (activity : Activity),
        (candidateActivities loader addr candidates)[place]? = some activity →
          activity.stage = .loading loader place := fun _ _ => stage_of_candidate
    have hstarted := h.startCandidates hasked hcandidates htask hfresh rfl
    rw [next_candidates hasked]
    exact hrecast _ hstarted.1 hstarted.2

end Roster.Fits

/-! ## Who loads -/

namespace Stage

/-- The task asks for devices, and loads nothing itself. -/
def isOutside : Stage → Bool
  | idle | opened .. | waiting => true
  | _ => false

/-- The address and the loader that the task runs as, until it makes itself unknown. -/
def runs : Stage → Option (DevAddr × LoaderId)
  | asking loader addr | asked loader addr | gathering loader addr _ | gathered loader addr =>
    some (addr, loader)
  | _ => none

variable {stage : Stage} {op : ServerOperation} {answer : op.Answer} {addr : DevAddr}
variable {loader : LoaderId}

theorem known_of_runs (h : stage.runs = some (addr, loader)) :
    stage.known = some (addr, loader) := by
  cases stage with
  | asking | asked | gathering | gathered => exact h
  | idle | opened | waiting | left | answering | loading | deposited => cases h

/-- Who loads nothing goes on to load nothing. -/
theorem isOutside_next (h : stage.isOutside = true) (hallows : stage.Allows op) :
    (stage.next ⟨op, answer⟩).isOutside = true := by
  cases op with
  | clock | wallClock | draw | race => exact h
  | call request =>
    cases request with
    | fetchCandidates addr =>
      obtain ⟨loader, rfl⟩ := hallows
      cases h
    | _ => exact h
  | start activities =>
    obtain ⟨loader, addr, rfl, -⟩ | ⟨loader, addr, candidates, rfl, -⟩ := hallows
    · rfl
    · cases h
  | memory op =>
    cases op with
    | joinLoader frame =>
      obtain rfl : stage = .idle := hallows
      cases answer <;> rfl
    | takeReply => rfl
    | gather loader count =>
      obtain ⟨addr, rfl⟩ := hallows
      cases h
    | leaveLoader addr =>
      obtain ⟨loader, rfl | rfl⟩ := hallows <;> cases h
    | closeQueue loader =>
      obtain rfl : stage = .left loader := hallows
      cases h
    | reply task resolution =>
      obtain ⟨frame, rest, rfl⟩ := hallows
      cases h
    | deposit loader place load =>
      obtain rfl : stage = .loading loader place := hallows
      cases h
    | _ => exact h

/-- A loader goes on to run until it makes itself unknown. -/
theorem runs_next (h : stage.runs = some (addr, loader)) (hallows : stage.Allows op) :
    (stage.next ⟨op, answer⟩).runs = some (addr, loader) ∨
      op = .memory (.leaveLoader addr) := by
  cases op with
  | clock | wallClock | draw | race => exact .inl h
  | call request =>
    cases request with
    | fetchCandidates addr =>
      obtain ⟨loader, rfl⟩ := hallows
      exact .inl h
    | _ => exact .inl h
  | start activities =>
    obtain ⟨loader, addr, rfl, -⟩ | ⟨loader, addr, candidates, rfl, -⟩ := hallows
    · cases h
    · exact .inl h
  | memory op =>
    cases op with
    | joinLoader frame =>
      obtain rfl : stage = .idle := hallows
      cases h
    | takeReply =>
      obtain rfl : stage = .waiting := hallows
      cases h
    | gather loader count =>
      obtain ⟨addr, rfl⟩ := hallows
      exact .inl h
    | leaveLoader addr =>
      obtain ⟨loader, rfl | rfl⟩ := hallows <;> cases h <;> exact .inr rfl
    | closeQueue loader =>
      obtain rfl : stage = .left loader := hallows
      cases h
    | reply task resolution =>
      obtain ⟨frame, rest, rfl⟩ := hallows
      cases h
    | deposit loader place load =>
      obtain rfl : stage = .loading loader place := hallows
      cases h
    | _ => exact .inl h

end Stage

/-- A loader made itself unknown. -/
def Event.leaves (addr : DevAddr) : Event serverInterface → Bool
  | ⟨.memory (.leaveLoader other), _⟩ => other = addr
  | _ => false

/-- A task made the loader of an address unknown. -/
def HasLeft (task : TaskId) (addr : DevAddr) (history : List Moment) : Prop :=
  ∃ m ∈ history, m.task = task ∧ m.event.leaves addr = true

/-- If the moment adds a frame for which a loader is known, its queue accepts frames. -/
def Moment.FindsOpen (m : Moment) : Prop :=
  ∀ frame loader, m.event.op = .memory (.joinLoader frame) →
    m.before.loaders.get? frame.devAddr = some loader → m.before.Accepts loader

/-- What holds of one task. -/
structure Job.Loads (history : List Moment) (task : TaskId) (job : Job) (stage : Stage) : Prop where
  /-- What is left of it keeps the rules. -/
  rules : job.rest.Keeps loadingRules job.activity.Closes stage
  /-- An activity from outside loads nothing. -/
  outside : job.activity.fromOutside = true → stage.isOutside = true
  /-- A loader runs until it makes itself unknown. -/
  runs : ∀ loader addr, job.activity = .loadAddress loader addr →
    stage.runs = some (addr, loader) ∨ HasLeft task addr history

/-- The invariant of loading. -/
structure ServerRun.Loading (history : List Moment) (σ : ServerState) : Prop where
  /-- The stages belong to the memory and to the history. -/
  fits : (σ.roster history).Fits history σ.memory
  /-- Every task is as its stage says. -/
  jobs : ∀ (task : TaskId) (job : Job), σ.jobs[task]? = some job →
    job.Loads history task (σ.roster history task)
  /-- Frames were added to open queues only. -/
  open_ : ∀ m ∈ history, m.FindsOpen
  /-- What has happened was done by tasks that are there. -/
  past : ∀ m ∈ history, m.task < σ.jobs.length

namespace ServerRun.Loading

variable {net : Network} {σ next : ServerState} {history moments : List Moment} {task : TaskId}
variable {activity : Activity} {op : ServerOperation} {answer : op.Answer} {after : Memory}
variable {activities : List Activity}

/-- A task that just began is as its stage says. -/
theorem fresh : (Job.fresh net activity).Loads history task activity.stage where
  rules := activity.program_rules
  outside h := by
    rw [Job.fresh] at h
    rw [Activity.stage_eq_idle h]
    rfl
  runs loader addr h := by
    cases h
    exact .inl rfl

/-- The invariant holds at the start. -/
theorem boot (now : Instant) : Loading [] { now := now } where
  fits := .empty
  jobs _ _ h := by simp at h
  open_ := by simp
  past := by simp

/-- The arrival of an activity changes no stage. -/
theorem roster_arrive (h : Loading history σ) (outside : activity.fromOutside = true) :
    (σ.launch net [activity]).roster history = σ.roster history := by
  rw [ServerState.roster_launch h.past]
  exact Roster.launch_idle (fun _ => ServerState.roster_of_length_le)
    (Activity.stage_eq_idle outside)

/-- The invariant survives the arrival of an activity. -/
theorem arrive (h : Loading history σ) (outside : activity.fromOutside = true) :
    Loading history (σ.launch net [activity]) := by
  have hidle := Activity.stage_eq_idle outside
  have hroster : (σ.launch net [activity]).roster history = σ.roster history :=
    h.roster_arrive outside
  refine ⟨?_, ?_, h.open_, ?_⟩
  · rw [hroster]
    exact h.fits
  · intro task job hjob
    rw [hroster]
    rcases ServerState.getElem?_launch hjob with hold | ⟨hlen, found, hmem, rfl⟩
    · exact h.jobs task job hold
    · obtain rfl := List.mem_singleton.mp hmem
      rw [ServerState.roster_of_length_le hlen, ← hidle]
      exact fresh
  · intro m hmem
    rw [ServerState.launch, List.length_append]
    exact Nat.lt_of_lt_of_le (h.past m hmem) (Nat.le_add_right _ _)

/-- The invariant survives the new start of a task. -/
theorem again (h : Loading history σ) (found : σ.jobs[task]? = some ⟨activity, .done .again⟩) :
    Loading history (σ.proceed task (Job.fresh net activity) σ.memory) := by
  have hroster : (σ.proceed task (Job.fresh net activity) σ.memory).roster history =
      σ.roster history := ServerState.roster_proceed found
  refine ⟨?_, ?_, h.open_, ?_⟩
  · rw [hroster]
    exact h.fits
  · intro other job hjob
    rw [hroster]
    rcases ServerState.getElem?_proceed hjob with ⟨rfl, rfl⟩ | ⟨-, hold⟩
    · have hcloses := (h.jobs other _ found).rules.2
      rw [hcloses rfl]
      exact fresh
    · exact h.jobs other job hold
  · intro m hmem
    rw [ServerState.proceed, List.length_set]
    exact h.past m hmem

/-- The stages after an operation of a task. -/
theorem roster_perform (h : Loading history σ) {rest : op.Answer → Service Verdict}
    (found : σ.jobs[task]? = some ⟨activity, .perform op rest⟩) (net : Network)
    (answer : op.Answer) (after : Memory) :
    let reached := σ.proceed task ⟨activity, rest answer⟩ after
    let m : Moment := ⟨task, ⟨op, answer⟩, σ.memory, after⟩
    (∀ other ∈ history ++ [m], other.task < reached.jobs.length) ∧
    (reached.launch net op.started).roster (history ++ [m]) =
      ((σ.roster history).set task ((σ.roster history task).next ⟨op, answer⟩)).launch
        σ.jobs.length op.started := by
  intro reached m
  have hlength : reached.jobs.length = σ.jobs.length := List.length_set
  have htask : task < σ.jobs.length := (List.getElem?_eq_some_iff.mp found).1
  have hpast : ∀ other ∈ history ++ [m], other.task < reached.jobs.length := by
    intro other hmem
    rw [hlength]
    rcases List.mem_append.mp hmem with hmem | hmem
    · exact h.past other hmem
    · rw [List.mem_singleton.mp hmem]
      exact htask
  refine ⟨hpast, ?_⟩
  have hproceed : reached.roster history = σ.roster history := ServerState.roster_proceed found
  have hm : m.task < reached.jobs.length := hlength.symm ▸ htask
  rw [ServerState.roster_launch hpast, ServerState.roster_snoc hm, hproceed, hlength]

/-- The stages fit after an operation of a task. -/
theorem fits_perform (h : Loading history σ) {rest : op.Answer → Service Verdict}
    (found : σ.jobs[task]? = some ⟨activity, .perform op rest⟩)
    (admitted : σ.Admits net task op answer after) :
    (((σ.roster history).set task ((σ.roster history task).next ⟨op, answer⟩)).launch
      σ.jobs.length op.started).Fits (history ++ [⟨task, ⟨op, answer⟩, σ.memory, after⟩])
        after := by
  have hallows := (h.jobs task _ found).rules.1
  have htask := (List.getElem?_eq_some_iff.mp found).1
  have hfresh : ∀ other, σ.jobs.length ≤ other → σ.roster history other = .idle :=
    fun _ => ServerState.roster_of_length_le
  by_cases hstart : ∃ activities, op = .start activities
  · obtain ⟨activities, rfl⟩ := hstart
    obtain rfl : after = σ.memory := admitted
    exact h.fits.start hallows htask hfresh
  · have hnone : op.started = [] := by
      cases op with
      | start activities => exact absurd ⟨activities, rfl⟩ hstart
      | clock | wallClock | draw | call | race | memory => rfl
    rw [hnone, Roster.launch_nil]
    · exact h.fits.perform hallows admitted fun activities heq => hstart ⟨activities, heq⟩
    · intro other hother
      rw [Roster.set_of_ne _ _ (Nat.ne_of_gt (Nat.lt_of_lt_of_le htask hother))]
      exact hfresh other hother

/-- The invariant survives an operation of a task. -/
theorem perform (h : Loading history σ) {rest : op.Answer → Service Verdict}
    (found : σ.jobs[task]? = some ⟨activity, .perform op rest⟩)
    (admitted : σ.Admits net task op answer after) :
    Loading (history ++ [⟨task, ⟨op, answer⟩, σ.memory, after⟩])
      ((σ.proceed task ⟨activity, rest answer⟩ after).launch net op.started) := by
  obtain ⟨hpast, hroster⟩ := h.roster_perform found net answer after
  have hfits := h.fits_perform found admitted
  have htask := (List.getElem?_eq_some_iff.mp found).1
  have hown := h.jobs task _ found
  obtain ⟨hallows, hnext⟩ := hown.rules
  generalize hm : (⟨task, ⟨op, answer⟩, σ.memory, after⟩ : Moment) = m at *
  have hleft : ∀ other addr, HasLeft other addr history → HasLeft other addr (history ++ [m]) :=
    fun _ _ => fun ⟨earlier, hmem, hleft⟩ => ⟨earlier, List.mem_append_left _ hmem, hleft⟩
  refine ⟨?_, fun other job hjob => ?_, fun other hmem => ?_, fun other hmem => ?_⟩
  · rw [hroster]
    exact hfits
  · rcases ServerState.getElem?_launch hjob with hold | ⟨hlen, begun, -, rfl⟩
    · rw [hroster]
      rcases ServerState.getElem?_proceed hold with ⟨rfl, rfl⟩ | ⟨hne, hold⟩
      · rw [Roster.launch_of_lt htask, Roster.set_self]
        refine ⟨hnext answer trivial, fun hout => Stage.isOutside_next (hown.outside hout) hallows,
          fun loader addr hactivity => ?_⟩
        rcases hown.runs loader addr hactivity with hruns | hbefore
        · refine (Stage.runs_next hruns hallows).imp_right ?_
          rintro rfl
          exact ⟨m, List.mem_append_right _ List.mem_cons_self, by rw [← hm], by
            rw [← hm]
            simp [Event.leaves]⟩
        · exact .inr (hleft _ _ hbefore)
      · have hlt := (List.getElem?_eq_some_iff.mp hold).1
        have hother := h.jobs other job hold
        rw [Roster.launch_of_lt hlt, Roster.set_of_ne _ _ hne]
        exact ⟨hother.rules, hother.outside, fun loader addr hactivity =>
          (hother.runs loader addr hactivity).imp_right (hleft _ _)⟩
    · rw [ServerState.roster_eq hjob, stageOf_eq_start]
      · exact fresh
      · intro earlier hmem
        exact Nat.ne_of_lt (Nat.lt_of_lt_of_le (hpast earlier hmem) hlen)
  · rcases List.mem_append.mp hmem with hmem | hmem
    · exact h.open_ other hmem
    · rw [List.mem_singleton.mp hmem, ← hm]
      exact fun frame loader _ hknown => h.fits.tied.accepts_of_known hknown
  · rw [ServerState.launch, List.length_append]
    exact Nat.lt_of_lt_of_le (hpast other hmem) (Nat.le_add_right _ _)

/-- The invariant survives every step. -/
theorem step (h : Loading history σ) (step : σ.Step net moments next) :
    Loading (history ++ moments) next := by
  cases step with
  | wait =>
    rw [List.append_nil]
    exact ⟨h.fits, h.jobs, h.open_, h.past⟩
  | arrive outside =>
    rw [List.append_nil]
    exact h.arrive outside
  | again found =>
    rw [List.append_nil]
    exact h.again found
  | perform found admitted => exact h.perform found admitted

end ServerRun.Loading

/-- The invariant of loading holds at the end of every run. -/
theorem ServerRun.loading {net : Network} {history : List Moment} {σ : ServerState}
    (run : ServerRun net history σ) : Loading history σ := by
  induction run with
  | boot now => exact .boot now
  | step run step ih => exact ih.step step

end LoraNetwork
