import LoraNetwork.Proofs.Server.Moment

/-!
# The invariant of a server's run

The invariant ties the phase of each task to the memory and to the history. A task that holds a slot
finds in it the session that it took, nobody else holds that slot, and all that the task has done
concerns this session and the counter its uplink was verified under. A task that gave its slot back
left a device that is settled. The caches stay sound throughout, so that a task finds the device it
looks for.
-/

namespace LoraNetwork

/-! ## What a task has done -/

/-- All that a task has done is of a certain kind. -/
def Throughout (task : TaskId) (history : List Moment) (kind : Moment → Prop) : Prop :=
  ∀ m ∈ history, m.task = task → kind m

/-- The phase of a task after what has happened so far. -/
def phaseOf (task : TaskId) (history : List Moment) : Phase :=
  history.foldl (fun phase m => if m.task = task then phase.next m.event else phase) .free

section History

variable {task : TaskId} {history : List Moment} {m : Moment} {kind wider : Moment → Prop}

theorem Throughout.mono (h : Throughout task history kind) (hwider : ∀ m, kind m → wider m) :
    Throughout task history wider :=
  fun m hmem htask => hwider m (h m hmem htask)

theorem Throughout.snoc (h : Throughout task history kind) (hnew : m.task = task → kind m) :
    Throughout task (history ++ [m]) kind := by
  intro other hmem htask
  rcases List.mem_append.mp hmem with hmem | hmem
  · exact h other hmem htask
  · obtain rfl := List.mem_singleton.mp hmem
    exact hnew htask

theorem phaseOf_snoc : phaseOf task (history ++ [m]) =
    if m.task = task then (phaseOf task history).next m.event else phaseOf task history := by
  rw [phaseOf, List.foldl_append]
  rfl

/-- A task that has done nothing has taken no slot. -/
theorem phaseOf_eq_free (h : ∀ m ∈ history, m.task ≠ task) : phaseOf task history = .free := by
  unfold phaseOf
  generalize Phase.free = phase
  induction history generalizing phase with
  | nil => rfl
  | cons m rest ih =>
    rw [List.foldl_cons, if_neg (h m List.mem_cons_self)]
    exact ih (fun other hmem => h other (List.mem_cons_of_mem _ hmem)) phase

end History

/-- Who holds a slot after an event held it before, or has just taken it. -/
theorem Phase.holding_of_next {phase : Phase} {event : Event serverInterface} {slot : SlotId}
    {device : Device} {acted : Bool} (h : phase.next event = .holding slot device acted) :
    (∃ before, phase = .holding slot device before) ∨
      event = ⟨.memory (.takeSlot slot), device⟩ := by
  have hact : ∀ took, phase.act took = .holding slot device acted →
      ∃ before, phase = .holding slot device before := by
    intro took hphase
    cases phase with
    | free | released => cases hphase
    | holding slot device before =>
      obtain ⟨rfl, rfl, -⟩ := Phase.holding.inj hphase
      exact ⟨before, rfl⟩
  obtain ⟨op, answer⟩ := event
  cases op with
  | call request | race request deadline => exact .inl (hact _ h)
  | clock | wallClock | draw | start activities => exact .inl ⟨acted, h⟩
  | memory op =>
    cases op with
    | takeSlot other =>
      obtain ⟨rfl, rfl, -⟩ := Phase.holding.inj h
      exact .inr rfl
    | giveBack other returned =>
      cases phase with
      | free | holding | released => cases h
    | _ => exact .inl ⟨acted, h⟩

/-! ## How a task stands -/

/-- A slot is held, and the device in it is the one that was taken. -/
def Memory.Holds (memory : Memory) (slot : SlotId) (device : Device) : Prop :=
  ∃ s, memory.slots[slot]? = some s ∧ s.held = true ∧ s.device.session = device.session ∧
    s.device.card = device.card

/-- The dispatch of a join. It alone may have effects without a slot. -/
def Activity.mayJoin (activity : Activity) : Bool :=
  activity.isDispatch && activity.dataUplink.isNone

/-- A task took a slot for its uplink. -/
structure Took (net : Network) (K : Knowledge) (history : List Moment) (task : TaskId)
    (activity : Activity) (slot : SlotId) (device : Device) (uplink : DataUplink) : Prop where
  /-- It handles the uplink. -/
  handles : activity.dataUplink = some uplink
  /-- It was admitted to the slot. -/
  admits : activity.Admits net K slot uplink
  /-- It took the slot at some moment. -/
  taken : ∃ m ∈ history, m.task = task ∧ m.event = ⟨.memory (.takeSlot slot), device⟩
  /-- The card of the device is that of its session. -/
  card : device.card = .ofSession device.session
  /-- It is the card of the slot. -/
  known : K.card slot = some device.card
  /-- What is kept in the session is a downlink to the device. -/
  keeps : device.session.KeepsOwn net

/-- What a task with a slot has done concerns the session and the counter its uplink was verified
under; as long as the device is untouched it has done nothing. -/
structure Marked (net : Network) (history : List Moment) (task : TaskId) (slot : SlotId)
    (device : Device) (uplink : DataUplink) (untouched : Prop) : Prop where
  /-- An untouched device goes with quiet moments. -/
  quiet : untouched → Throughout task history Moment.Quiet
  /-- Every moment concerns the session. -/
  concerns : ∀ counter, uplink.verified net device.session = some counter →
    Throughout task history fun m => m.Concerns slot device.session counter

/-- What holds of a task in each of its phases. -/
def Stands (net : Network) (K : Knowledge) (memory : Memory) (history : List Moment)
    (task : TaskId) (activity : Activity) : Phase → Prop
  | .free => activity.mayJoin = false → Throughout task history Moment.Quiet
  | .holding slot device acted => memory.Holds slot device ∧
      ∃ uplink, Took net K history task activity slot device uplink ∧
        (acted = true → ∃ counter, uplink.verified net device.session = some counter) ∧
        Marked net history task slot device uplink (acted = false)
  | .released slot device acted after =>
      (∃ m ∈ history, m.task = task ∧ m.event = ⟨.memory (.giveBack slot after), ()⟩) ∧
      ∃ uplink, Took net K history task activity slot device uplink ∧
        Marked net history task slot device uplink
          (acted = false ∧ after.session = device.session) ∧
        ((acted = false ∧ after.session = device.session) ∨
          uplink.verified net device.session = some after.session.progress.fcntUp)

section Standing

variable {net : Network} {K : Knowledge} {memory after : Memory} {history : List Moment}
variable {task : TaskId} {activity : Activity} {phase : Phase} {m : Moment} {slot : SlotId}
variable {device : Device} {uplink : DataUplink} {untouched : Prop}

theorem Took.snoc (h : Took net K history task activity slot device uplink) (m : Moment) :
    Took net K (history ++ [m]) task activity slot device uplink where
  handles := h.handles
  admits := h.admits
  taken := h.taken.imp fun _ htaken => ⟨List.mem_append_left _ htaken.1, htaken.2⟩
  card := h.card
  known := h.known
  keeps := h.keeps

theorem Marked.snoc (h : Marked net history task slot device uplink untouched)
    (hquiet : m.task = task → m.Quiet) :
    Marked net (history ++ [m]) task slot device uplink untouched where
  quiet huntouched := (h.quiet huntouched).snoc hquiet
  concerns counter hverified :=
    (h.concerns counter hverified).snoc fun htask => (hquiet htask).concerns _ _ _

/-- A task that handles no data uplink takes no slot. -/
theorem Stands.eq_free (h : Stands net K memory history task activity phase)
    (hnone : activity.dataUplink = none) : phase = .free := by
  cases phase with
  | free => rfl
  | holding slot device acted =>
    obtain ⟨-, uplink, htook, -⟩ := h
    rw [htook.handles] at hnone
    cases hnone
  | released slot device acted after =>
    obtain ⟨-, uplink, htook, -⟩ := h
    rw [htook.handles] at hnone
    cases hnone

/-- A task stands as before after a quiet moment and after a moment of another task, if the slot it
holds stays. -/
theorem Stands.frame (h : Stands net K memory history task activity phase)
    (hquiet : m.task = task → m.Quiet)
    (hholds : ∀ slot device acted, phase = .holding slot device acted →
      memory.Holds slot device → after.Holds slot device) :
    Stands net K after (history ++ [m]) task activity phase := by
  cases phase with
  | free => exact fun hjoin => (h hjoin).snoc hquiet
  | holding slot device acted =>
    obtain ⟨hslot, uplink, htook, hverified, hmarked⟩ := h
    exact ⟨hholds slot device acted rfl hslot, uplink, htook.snoc m, hverified,
      hmarked.snoc hquiet⟩
  | released slot device acted returned =>
    obtain ⟨⟨gave, hgave, hevent⟩, uplink, htook, hmarked, hleft⟩ := h
    exact ⟨⟨gave, List.mem_append_left _ hgave, hevent⟩, uplink, htook.snoc m,
      hmarked.snoc hquiet, hleft⟩

end Standing

/-! ## What one operation does to its own task -/

section Own

variable {net : Network} {K : Knowledge} {σ : ServerState} {history : List Moment} {task : TaskId}
variable {activity : Activity} {phase : Phase} {op : ServerOperation} {answer : op.Answer}
variable {after : Memory} {slot : SlotId}

/-- What is allowed keeps the caches sound. -/
theorem sound_of_admits (h : σ.memory.Sound K) (admitted : σ.Admits net task op answer after)
    (hallowed : (activity.contract net K task).allows phase op) : after.Sound K := by
  refine ServerState.memory_of_admits admitted h ?_
  rintro step _ rfl hperform
  exact h.perform hallowed.1 hperform

/-- What a sound memory answers is as promised. -/
theorem promised_of_admits (h : σ.memory.Sound K) (hcovers : K.Covers after)
    (admitted : σ.Admits net task op answer after) :
    (activity.contract net K task).promises op answer := by
  cases op with
  | memory op => exact h.promises hcovers admitted
  | clock | wallClock | draw | call request | race request deadline | start activities => trivial

/-- A slot that is held stays so until it is given back. -/
theorem holds_of_admits {device : Device} (h : σ.memory.Holds slot device)
    (admitted : σ.Admits net task op answer after)
    (hgive : ∀ returned, op ≠ .memory (.giveBack slot returned)) : after.Holds slot device := by
  obtain ⟨s, hfound, hheld, hsession, hcard⟩ := h
  obtain ⟨later, hlater, hstays⟩ := ServerState.stays_of_admits admitted hfound hgive
  exact ⟨later, hlater, hstays.held hheld, by rw [hstays.session, hsession],
    by rw [hstays.card, hcard]⟩

/-- A task stands as before after a quiet operation that leaves its phase. -/
theorem stands_quiet (h : Stands net K σ.memory history task activity phase)
    (admitted : σ.Admits net task op answer after)
    (hgive : ∀ slot returned, op ≠ .memory (.giveBack slot returned))
    (hsilent : op.tookEffect answer = false) :
    Stands net K after (history ++ [⟨task, ⟨op, answer⟩, σ.memory, after⟩]) task activity phase :=
  h.frame (fun _ => ServerState.quiet_of_admits admitted hgive hsilent)
    fun slot _ _ _ hholds => holds_of_admits hholds admitted (hgive slot)

/-- A task that looks something up stands as before. -/
theorem looksUp_quiet {request : Request} (hlooks : request.looksUp = true)
    (hrequest : op.request? = some request) : op.tookEffect answer = false := by
  cases op with
  | memory | clock | wallClock | draw | start => rfl
  | call other =>
    obtain rfl := Option.some.inj hrequest
    cases other with
    | fetchSession | fetchCandidates | fetchJoinInfo => rfl
    | persist | allocate | resetAllocation | receive | settle | sendTelemetry => cases hlooks
  | race other deadline =>
    obtain rfl := Option.some.inj hrequest
    simp [ServerOperation.tookEffect, hlooks]

/-- A task that was allowed a request stands after it, with the effect noted. -/
theorem stands_request {request : Request}
    (h : Stands net K σ.memory history task activity phase)
    (admitted : σ.Admits net task op answer after) (hrequest : op.request? = some request)
    (hask : activity.MayAsk net phase request) :
    Stands net K after (history ++ [⟨task, ⟨op, answer⟩, σ.memory, after⟩]) task activity
      (phase.act (op.tookEffect answer)) := by
  have hgive : ∀ slot returned, op ≠ .memory (.giveBack slot returned) := by
    rintro slot returned rfl
    cases hrequest
  unfold Activity.MayAsk at hask
  cases huplink : activity.dataUplink with
  | none =>
    obtain rfl := h.eq_free huplink
    rw [huplink] at hask
    intro hjoin
    refine (h hjoin).snoc fun _ => ServerState.quiet_of_admits admitted hgive ?_
    rcases hask with hdispatch | hlooks
    · simp [Activity.mayJoin, hdispatch, huplink] at hjoin
    · exact looksUp_quiet hlooks hrequest
  | some uplink =>
    rw [huplink] at hask
    obtain ⟨slot, device, acted, counter, rfl, hverified, hconcerns⟩ := hask
    obtain ⟨hslot, other, htook, hacted, hmarked⟩ := h
    have heq : other = uplink := Option.some.inj (htook.handles.symm.trans huplink)
    rw [heq] at htook hacted hmarked
    have hsame : ∀ slot, Moment.SameSession ⟨task, ⟨op, answer⟩, σ.memory, after⟩ slot :=
      fun slot => ServerState.sameSession_of_admits admitted (hgive slot)
    refine ⟨holds_of_admits hslot admitted (hgive slot), uplink, htook.snoc _, fun _ =>
      ⟨counter, hverified⟩, fun huntouched => ?_, fun c hc => ?_⟩
    · obtain ⟨hbefore, hsilent⟩ := Bool.or_eq_false_iff.mp huntouched
      exact (hmarked.quiet hbefore).snoc fun _ => ⟨hsame, hsilent⟩
    · refine (hmarked.concerns c hc).snoc fun _ => ⟨fun slot _ => hsame slot, .inl (hsame slot), ?_⟩
      rw [Option.some.inj (hc.symm.trans hverified)]
      exact fun _ => ⟨request, hrequest, hconcerns⟩

/-- A task that took a slot holds it. -/
theorem stands_takeSlot {device : Device} {uplink : DataUplink}
    (h : Stands net K σ.memory history task activity .free)
    (hkept : ∀ s ∈ σ.memory.slots, s.device.session.KeepsOwn net)
    (admitted : σ.Admits net task (.memory (.takeSlot slot)) device after)
    (hpromised : K.Promises task (.takeSlot slot) device)
    (huplink : activity.dataUplink = some uplink) (hadmits : activity.Admits net K slot uplink) :
    Stands net K after
      (history ++ [⟨task, ⟨.memory (.takeSlot slot), device⟩, σ.memory, after⟩]) task activity
      (.holding slot device false) := by
  have hjoin : activity.mayJoin = false := by simp [Activity.mayJoin, huplink]
  have hquiet : Moment.Quiet ⟨task, ⟨.memory (.takeSlot slot), device⟩, σ.memory, after⟩ :=
    ServerState.quiet_of_admits admitted (by simp) rfl
  have hsofar := (h hjoin).snoc fun _ => hquiet
  obtain ⟨s, hfound, -, rfl, rfl⟩ := Memory.takeSlot_eq admitted
  have hown := hkept s (List.mem_of_getElem? hfound)
  refine ⟨?_, uplink, ⟨huplink, hadmits, ?_, hpromised.2, hpromised.1, hown⟩, by simp,
    fun _ => hsofar, fun counter _ => hsofar.mono fun m hm => hm.concerns _ _ _⟩
  · refine ⟨{ s with held := true, waiting := s.waiting.drop 1 }, ?_, rfl, rfl, rfl⟩
    rw [Memory.getElem?_updateSlot, if_pos rfl, hfound]
    rfl
  · exact ⟨_, List.mem_append_right _ List.mem_cons_self, rfl, rfl⟩

/-- A task that gives its slot back has settled the device. -/
theorem stands_giveBack {device returned : Device} {acted : Bool} {uplink : DataUplink}
    {result : Except UplinkFailure (Option Downlink)}
    (h : Stands net K σ.memory history task activity (.holding slot device acted))
    (admitted : σ.Admits net task (.memory (.giveBack slot returned)) () after)
    (huplink : activity.dataUplink = some uplink)
    (hsettled : DataHandling.Settled net device uplink acted returned result) :
    Stands net K after
      (history ++ [⟨task, ⟨.memory (.giveBack slot returned), ()⟩, σ.memory, after⟩]) task activity
      (.released slot device acted returned) := by
  obtain ⟨⟨s, hfound, hheld, hsession, hcard⟩, other, htook, hacted, hmarked⟩ := h
  have heq : other = uplink := Option.some.inj (htook.handles.symm.trans huplink)
  rw [heq] at htook hacted hmarked
  have hbefore : σ.memory.session? slot = some device.session := by
    rw [Memory.session?, hfound, Option.map_some, hsession]
  have hafter : after.session? slot = some returned.session := by
    rw [Memory.session?, Memory.slots_giveBack hfound admitted]
    rfl
  have hothers : ∀ other, other ≠ slot → Moment.SameSession
      ⟨task, ⟨.memory (.giveBack slot returned), ()⟩, σ.memory, after⟩ other := by
    refine fun other hne => ServerState.sameSession_of_admits admitted fun device heq => hne ?_
    cases heq
    rfl
  have hown : returned.session = device.session → Moment.SameSession
      ⟨task, ⟨.memory (.giveBack slot returned), ()⟩, σ.memory, after⟩ slot := by
    intro heq found hfound
    rw [hbefore] at hfound
    rw [hafter, heq, hfound]
  have hleft : (acted = false ∧ returned.session = device.session) ∨
      uplink.verified net device.session = some returned.session.progress.fcntUp :=
    hsettled.outcome.imp_left fun h => ⟨h.1, h.2.1⟩
  refine ⟨⟨_, List.mem_append_right _ List.mem_cons_self, rfl, rfl⟩, uplink, htook.snoc _,
    ⟨?_, ?_⟩, hleft⟩
  · rintro ⟨huntouched, heq⟩
    refine (hmarked.quiet huntouched).snoc fun _ => ⟨fun other => ?_, rfl⟩
    by_cases hslot : other = slot
    · rw [hslot]
      exact hown heq
    · exact hothers other hslot
  · intro counter hverified
    refine (hmarked.concerns counter hverified).snoc fun _ => ⟨hothers, ?_, fun h => by cases h⟩
    rcases hleft with ⟨-, heq⟩ | hrecorded
    · exact .inl (hown heq)
    · rw [hrecorded] at hverified
      exact .inr ⟨hbefore, returned.session, hafter, hsettled.profile, Option.some.inj hverified⟩

/-- A task stands after an operation that its contract allows. -/
theorem stands_of_admits (h : Stands net K σ.memory history task activity phase)
    (hkept : ∀ s ∈ σ.memory.slots, s.device.session.KeepsOwn net)
    (admitted : σ.Admits net task op answer after)
    (hallowed : (activity.contract net K task).allows phase op)
    (hpromised : (activity.contract net K task).promises op answer) :
    Stands net K after (history ++ [⟨task, ⟨op, answer⟩, σ.memory, after⟩]) task activity
      (phase.next ⟨op, answer⟩) := by
  cases op with
  | clock | wallClock | draw | start activities => exact stands_quiet h admitted (by simp) rfl
  | call request | race request deadline => exact stands_request h admitted rfl hallowed
  | memory op =>
    cases op with
    | takeSlot slot =>
      obtain ⟨-, rfl, uplink, huplink, hadmits⟩ := hallowed
      exact stands_takeSlot h hkept admitted hpromised huplink hadmits
    | giveBack slot returned =>
      obtain ⟨-, device, acted, uplink, result, rfl, huplink, hsettled⟩ := hallowed
      exact stands_giveBack h admitted huplink hsettled
    | _ => exact stands_quiet h admitted (by simp) rfl

end Own

/-! ## The invariant -/

/-- All that a server knows by now is known. -/
structure Knowledge.Sees (K : Knowledge) (σ : ServerState) : Prop where
  /-- The cards of the slots. -/
  cards : K.Covers σ.memory
  /-- What each task looks for. -/
  wanted : ∀ (task : TaskId) (job : Job), σ.jobs[task]? = some job →
    K.wanted task = job.activity.wanted

/-- What a server knows by now. -/
def ServerState.knowledge (σ : ServerState) : Knowledge where
  card slot := σ.memory.slots[slot]?.map fun s => s.device.card
  wanted task := σ.jobs[task]?.bind fun job => job.activity.wanted

theorem Knowledge.sees_knowledge (σ : ServerState) : σ.knowledge.Sees σ where
  cards slot s h := by simp [ServerState.knowledge, h]
  wanted task job h := by simp [ServerState.knowledge, h]

section Sees

variable {net : Network} {K : Knowledge} {σ : ServerState} {activities : List Activity}
variable {task : TaskId} {activity : Activity} {rest old : Service Verdict} {memory : Memory}

/-- What is known with further activities was known before. -/
theorem Knowledge.Sees.of_launch (h : K.Sees (σ.launch net activities)) : K.Sees σ where
  cards := h.cards
  wanted task job hjob := by
    refine h.wanted task job ?_
    have hlt := (List.getElem?_eq_some_iff.mp hjob).1
    rw [ServerState.launch, List.getElem?_append_left hlt]
    exact hjob

/-- What is known after a task went on was known before, if the cards were. -/
theorem Knowledge.Sees.of_proceed (h : K.Sees (σ.proceed task ⟨activity, rest⟩ memory))
    (found : σ.jobs[task]? = some ⟨activity, old⟩) (hcovers : K.Covers σ.memory) : K.Sees σ where
  cards := hcovers
  wanted other job hjob := by
    have hlt := (List.getElem?_eq_some_iff.mp hjob).1
    by_cases heq : task = other
    · subst heq
      rw [found] at hjob
      rw [← Option.some.inj hjob]
      refine h.wanted task ⟨activity, rest⟩ ?_
      rw [ServerState.proceed, List.getElem?_set_self hlt]
    · refine h.wanted other job ?_
      rw [ServerState.proceed, List.getElem?_set_ne heq]
      exact hjob

end Sees

/-- What holds of one task of a server. -/
structure Job.Fine (net : Network) (K : Knowledge) (memory : Memory) (history : List Moment)
    (task : TaskId) (job : Job) : Prop where
  /-- What is left of it keeps the contract of its activity. -/
  keeps : job.rest.Keeps (job.activity.contract net K task) (job.activity.Ends net)
    (phaseOf task history)
  /-- It stands as its phase says. -/
  stands : Stands net K memory history task job.activity (phaseOf task history)

namespace ServerRun

/-- The invariant of a run. -/
structure Invariant (net : Network) (K : Knowledge) (history : List Moment) (σ : ServerState) :
    Prop where
  /-- Everything kept in memory is good. -/
  sound : σ.memory.Sound K
  /-- What is kept in a session is a downlink to its device. -/
  kept : ∀ s ∈ σ.memory.slots, s.device.session.KeepsOwn net
  /-- Every task is fine. -/
  fine : ∀ (task : TaskId) (job : Job), σ.jobs[task]? = some job →
    job.Fine net K σ.memory history task
  /-- No two tasks hold one slot. -/
  apart : ∀ one two slot device device' acted acted',
    phaseOf one history = .holding slot device acted →
      phaseOf two history = .holding slot device' acted' → one = two
  /-- What has happened was done by tasks that are there. -/
  past : ∀ m ∈ history, m.task < σ.jobs.length

variable {net : Network} {K : Knowledge} {σ : ServerState} {history : List Moment}
variable {task : TaskId} {activity : Activity} {op : ServerOperation} {answer : op.Answer}
variable {after : Memory} {activities : List Activity}

namespace Invariant

/-- The invariant holds at the start. -/
theorem boot (now : Instant) : Invariant net K [] { now := now } where
  sound := Memory.sound_empty
  kept := by simp
  fine _ _ h := by simp at h
  apart one two slot device device' acted acted' h := by cases h
  past := by simp

/-- A task that is not there has done nothing. -/
theorem phaseOf_of_length_le (h : Invariant net K history σ) (hlen : σ.jobs.length ≤ task) :
    phaseOf task history = .free ∧ ∀ kind, Throughout task history kind := by
  have hne : ∀ m ∈ history, m.task ≠ task := fun m hmem =>
    Nat.ne_of_lt (Nat.lt_of_lt_of_le (h.past m hmem) hlen)
  exact ⟨phaseOf_eq_free hne, fun _ m hmem htask => absurd htask (hne m hmem)⟩

/-- A task that has taken a slot is there. -/
theorem exists_job (h : Invariant net K history σ) (hphase : phaseOf task history ≠ .free) :
    ∃ job, σ.jobs[task]? = some job := by
  rcases Nat.lt_or_ge task σ.jobs.length with hlt | hge
  · exact ⟨σ.jobs[task], List.getElem?_eq_getElem hlt⟩
  · exact absurd (h.phaseOf_of_length_le hge).1 hphase

/-- A slot that is held by a task is held in memory. -/
theorem holds (h : Invariant net K history σ) {slot : SlotId} {device : Device} {acted : Bool}
    (hphase : phaseOf task history = .holding slot device acted) :
    σ.memory.Holds slot device := by
  obtain ⟨job, hjob⟩ := h.exists_job (by rw [hphase]; simp)
  have hstands := (h.fine task job hjob).stands
  rw [hphase] at hstands
  exact hstands.1

/-- The invariant survives the arrival of activities. -/
theorem launch (h : Invariant net K history σ) (hsees : K.Sees (σ.launch net activities)) :
    Invariant net K history (σ.launch net activities) where
  sound := h.sound
  kept := h.kept
  fine task job hjob := by
    rcases ServerState.getElem?_launch hjob with hold | ⟨hlen, activity, -, rfl⟩
    · exact h.fine task job hold
    · obtain ⟨hfree, hnothing⟩ := h.phaseOf_of_length_le hlen
      refine ⟨?_, ?_⟩ <;> rw [hfree]
      · exact activity.program_keeps (hsees.wanted task _ hjob)
      · exact fun _ => hnothing _
  apart := h.apart
  past m hmem := by
    rw [ServerState.launch, List.length_append]
    exact Nat.lt_of_lt_of_le (h.past m hmem) (Nat.le_add_right _ _)

/-- The invariant survives the new start of a task. -/
theorem again (h : Invariant net K history σ)
    (found : σ.jobs[task]? = some ⟨activity, .done .again⟩) (hsees : K.Sees σ) :
    Invariant net K history (σ.proceed task (Job.fresh net activity) σ.memory) where
  sound := h.sound
  kept := h.kept
  fine other job hjob := by
    rcases ServerState.getElem?_proceed hjob with ⟨rfl, rfl⟩ | ⟨-, hold⟩
    · have hfine := h.fine other _ found
      have hfree : phaseOf other history = .free := hfine.keeps.again rfl
      refine ⟨?_, hfine.stands⟩
      rw [hfree]
      exact activity.program_keeps (hsees.wanted other _ found)
    · exact h.fine other job hold
  apart := h.apart
  past m hmem := by
    rw [ServerState.proceed, List.length_set]
    exact h.past m hmem

/-- A slot that is given back by a task is the one that it holds. -/
theorem holding_of_giveBack (h : Invariant net K history σ) {job : Job}
    (hjob : σ.jobs[task]? = some job) {slot : SlotId} {returned : Device}
    {next : Unit → Service Verdict}
    (hrest : job.rest = .perform (.memory (.giveBack slot returned)) next) :
    ∃ device acted, phaseOf task history = .holding slot device acted ∧
      returned.card = device.card := by
  have hkeeps := (h.fine task job hjob).keeps
  rw [hrest] at hkeeps
  obtain ⟨-, device, acted, uplink, result, hphase, -, hsettled⟩ := hkeeps.1
  exact ⟨device, acted, hphase, hsettled.card⟩

/-- No other task holds the slot that a task takes. -/
theorem apart_of_perform (h : Invariant net K history σ)
    (admitted : σ.Admits net task op answer after) {other : TaskId} (hne : other ≠ task)
    {slot : SlotId} {device device' : Device} {acted acted' : Bool}
    (hown : (phaseOf task history).next ⟨op, answer⟩ = .holding slot device acted) :
    phaseOf other history ≠ .holding slot device' acted' := by
  intro hother
  rcases Phase.holding_of_next hown with ⟨before, hphase⟩ | hevent
  · exact hne (h.apart other task slot device' device acted' before hother hphase)
  · cases hevent
    obtain ⟨s, hfound, hfree, -, -⟩ := Memory.takeSlot_eq admitted
    obtain ⟨s', hfound', hheld, -, -⟩ := h.holds hother
    rw [hfound] at hfound'
    obtain rfl := Option.some.inj hfound'
    rw [hfree] at hheld
    cases hheld

/-- What is kept in a session goes on to be a downlink to its device. -/
theorem kept_of_perform (h : Invariant net K history σ) {next : op.Answer → Service Verdict}
    (found : σ.jobs[task]? = some ⟨activity, .perform op next⟩)
    (admitted : σ.Admits net task op answer after) :
    ∀ s ∈ after.slots, s.device.session.KeepsOwn net := by
  refine ServerState.memory_of_admits admitted h.kept ?_
  rintro step _ rfl hperform
  obtain ⟨⟨hpermits, htouch⟩, -⟩ := (h.fine task _ found).keeps
  refine Memory.sessions_of_perform h.kept hperform ?_ ?_
  · rintro session rfl
    exact Session.keepsOwn_of_none hpermits
  · rintro slot returned rfl
    obtain ⟨device, acted, uplink, result, hphase, -, hsettled⟩ := htouch
    obtain ⟨s, hfound, -, hsession, -⟩ := h.holds hphase
    have hown := h.kept s (List.mem_of_getElem? hfound)
    rw [hsession] at hown
    exact hsettled.keeps hown

/-- The invariant survives an operation of a task. -/
theorem perform (h : Invariant net K history σ) {next : op.Answer → Service Verdict}
    (found : σ.jobs[task]? = some ⟨activity, .perform op next⟩)
    (admitted : σ.Admits net task op answer after) (hcovers : K.Covers after) :
    Invariant net K (history ++ [⟨task, ⟨op, answer⟩, σ.memory, after⟩])
      (σ.proceed task ⟨activity, next answer⟩ after) := by
  obtain ⟨⟨hallowed, hnext⟩, hstands⟩ := h.fine task _ found
  have hpromised : (activity.contract net K task).promises op answer :=
    promised_of_admits h.sound hcovers admitted
  have hphase : ∀ other, other ≠ task →
      phaseOf other (history ++ [⟨task, ⟨op, answer⟩, σ.memory, after⟩]) =
        phaseOf other history := by
    intro other hne
    rw [phaseOf_snoc, if_neg fun heq => hne heq.symm]
  have hown : phaseOf task (history ++ [⟨task, ⟨op, answer⟩, σ.memory, after⟩]) =
      (phaseOf task history).next ⟨op, answer⟩ := by
    rw [phaseOf_snoc, if_pos rfl]
  refine ⟨sound_of_admits h.sound admitted hallowed, h.kept_of_perform found admitted, ?_, ?_, ?_⟩
  · intro other job hjob
    rcases ServerState.getElem?_proceed hjob with ⟨rfl, rfl⟩ | ⟨hne, hold⟩
    · refine ⟨?_, ?_⟩ <;> rw [hown]
      · exact hnext answer hpromised
      · exact stands_of_admits hstands h.kept admitted hallowed hpromised
    · have hfine := h.fine other job hold
      refine ⟨?_, ?_⟩ <;> rw [hphase other hne]
      · exact hfine.keeps
      · refine hfine.stands.frame (fun heq => absurd heq.symm hne) ?_
        intro slot device acted hother hholds
        refine holds_of_admits hholds admitted ?_
        rintro returned rfl
        obtain ⟨device', acted', htask, -⟩ := h.holding_of_giveBack found rfl
        exact hne (h.apart other task slot device device' acted acted' hother htask)
  · intro one two slot device device' acted acted' hone htwo
    by_cases heq : one = task
    · by_cases heq' : two = task
      · rw [heq, heq']
      · rw [heq, hown] at hone
        rw [hphase two heq'] at htwo
        exact absurd htwo (h.apart_of_perform admitted heq' hone)
    · rw [hphase one heq] at hone
      by_cases heq' : two = task
      · rw [heq', hown] at htwo
        exact absurd hone (h.apart_of_perform admitted heq htwo)
      · rw [hphase two heq'] at htwo
        exact h.apart one two slot device device' acted acted' hone htwo
  · intro m hmem
    rw [ServerState.proceed, List.length_set]
    rcases List.mem_append.mp hmem with hmem | hmem
    · exact h.past m hmem
    · rw [List.mem_singleton.mp hmem]
      exact (List.getElem?_eq_some_iff.mp found).1

/-- Cards that are known after an operation were known before. -/
theorem covers_of_perform (h : Invariant net K history σ) {next : op.Answer → Service Verdict}
    (found : σ.jobs[task]? = some ⟨activity, .perform op next⟩)
    (admitted : σ.Admits net task op answer after) {later : Knowledge}
    (hcovers : later.Covers after) : later.Covers σ.memory := by
  revert hcovers
  refine ServerState.memory_of_admits admitted id ?_
  rintro step _ rfl hperform
  refine Memory.covers_of_perform hperform ?_
  rintro slot returned rfl s hfound
  obtain ⟨device, acted, hphase, hcard⟩ := h.holding_of_giveBack found rfl
  obtain ⟨s', hfound', -, -, hcard'⟩ := h.holds hphase
  rw [hfound] at hfound'
  rw [hcard, ← hcard', Option.some.inj hfound']

/-- What is known after a step was known before. -/
theorem sees_of_step (h : Invariant net K history σ) {moments : List Moment} {next : ServerState}
    (step : σ.Step net moments next) {later : Knowledge} (hsees : later.Sees next) :
    later.Sees σ := by
  cases step with
  | wait => exact ⟨hsees.cards, hsees.wanted⟩
  | arrive => exact hsees.of_launch
  | again found => exact hsees.of_proceed found hsees.cards
  | perform found admitted =>
    have hreached := hsees.of_launch
    exact hreached.of_proceed found (h.covers_of_perform found admitted hreached.cards)

/-- The invariant survives every step, as long as all that there is in the end is known. -/
theorem step (h : Invariant net K history σ) {moments : List Moment} {next : ServerState}
    (step : σ.Step net moments next) (hsees : K.Sees next) :
    Invariant net K (history ++ moments) next := by
  have hbefore := h.sees_of_step step hsees
  cases step with
  | wait =>
    rw [List.append_nil]
    exact ⟨h.sound, h.kept, h.fine, h.apart, h.past⟩
  | arrive =>
    rw [List.append_nil]
    exact h.launch hsees
  | again found =>
    rw [List.append_nil]
    exact h.again found hbefore
  | perform found admitted => exact (h.perform found admitted hsees.of_launch.cards).launch hsees

end Invariant

/-- The invariant holds at the end of every run, whoever knows all that there is then. -/
theorem invariant (run : ServerRun net history σ) (hsees : K.Sees σ) :
    Invariant net K history σ := by
  induction run generalizing K with
  | boot now => exact .boot now
  | step run step ih =>
    have hbefore := (ih (Knowledge.sees_knowledge _)).sees_of_step step hsees
    exact (ih hbefore).step step hsees

end ServerRun

end LoraNetwork
