import LoraNetwork.Proofs.Loader.Publication
import LoraNetwork.Proofs.Registry.Entries

/-!
# One question for all frames

A loader becomes unknown only after it has published the devices that it found. So if the loads of a
cold address succeed, and its entry stays alive from when it was stored, then there is no moment at
which a frame finds neither the entry nor the loader, and all frames for the address together cause
one question to the store.
-/

namespace LoraNetwork

namespace Event

variable {addr : DevAddr} {event : Event serverInterface}

/-- The devices of an address were stored. -/
def stores (addr : DevAddr) : Event serverInterface → Bool
  | ⟨.memory (.storeAddress other _), _⟩ => other = addr
  | _ => false

/-- The entry of an address was forgotten. -/
def forgetsAddress (addr : DevAddr) : Event serverInterface → Bool
  | ⟨.memory (.forgetAddress other), _⟩ => other = addr
  | _ => false

/-- A frame of an address was added to the queue of a loader. -/
def requestsFor (addr : DevAddr) : Event serverInterface → Bool
  | ⟨.memory (.joinLoader _), .again⟩ => false
  | ⟨.memory (.joinLoader frame), _⟩ => frame.devAddr = addr
  | _ => false

theorem eq_of_leaves (h : event.leaves addr = true) :
    event = ⟨.memory (.leaveLoader addr), ()⟩ := by
  unfold leaves at h
  split at h
  · obtain rfl := of_decide_eq_true h
    rfl
  · cases h

end Event

/-- How often a collaborator was asked for the devices of an address. -/
def lookups (addr : DevAddr) (history : List Moment) : Nat :=
  history.countP fun m => m.event.asksFor addr

/-- The devices of an address were stored at some time. -/
def WasStored (addr : DevAddr) (history : List Moment) : Prop :=
  ∃ m ∈ history, m.event.stores addr = true

/-- A stretch of a run in which the loads of an address succeed and its entry stays: the store lists
the devices whenever it is asked for them, a loader of the address gathers some candidate that was
loaded, and from when the devices were stored their entry is neither forgotten nor expired. -/
inductive Stretch (net : Network) (addr : DevAddr) (σ : ServerState) :
    List Moment → ServerState → Prop where
  /-- It begins. -/
  | start : Stretch net addr σ [] σ
  /-- One more step. -/
  | step {later moments : List Moment} {reached next : ServerState}
      (stretch : Stretch net addr σ later reached) (step : reached.Step net moments next)
      (listed : ∀ m ∈ moments, m.event.failsToList addr = false)
      (loaded : ∀ m ∈ moments, m.event.gathersNone = true →
        ∀ job, reached.jobs[m.task]? = some job → ¬ job.activity.Loads addr)
      (kept : WasStored addr later → ∀ m ∈ moments, m.event.forgetsAddress addr = false)
      (alive : WasStored addr (later ++ moments) →
        ∀ entry, next.memory.addresses.get? addr = some entry →
          next.now < entry.since + (Duration.ofMillis net.config.addressLifetime : Nat)) :
      Stretch net addr σ (later ++ moments) next

theorem wasStored_snoc {addr : DevAddr} {history : List Moment} {m : Moment} :
    WasStored addr (history ++ [m]) ↔ WasStored addr history ∨ m.event.stores addr = true := by
  simp [WasStored, or_and_right, exists_or]

/-- What is there or is stored now is there after an operation that does not forget it. -/
theorem ServerState.isSome_of_admits {net : Network} {σ : ServerState} {task : TaskId}
    {op : ServerOperation} {answer : op.Answer} {after : Memory} {addr : DevAddr}
    (admitted : σ.Admits net task op answer after)
    (h : ((σ.memory.addresses.get? addr).isSome = true ∧
        Event.forgetsAddress addr ⟨op, answer⟩ = false) ∨ Event.stores addr ⟨op, answer⟩ = true) :
    (after.addresses.get? addr).isSome = true := by
  rw [addresses_of_admits admitted]
  cases op with
  | clock | wallClock | draw | call | race | start => exact (h.resolve_right nofun).1
  | memory op =>
    cases op with
    | storeAddress other handles =>
      rw [ServerOperation.entry]
      split
      · rfl
      · rename_i hother
        exact (h.resolve_right fun hstores => hother (of_decide_eq_true hstores)).1
    | forgetAddress other =>
      obtain ⟨hthere, hkept⟩ := h.resolve_right nofun
      rw [ServerOperation.entry, if_neg (of_decide_eq_false hkept)]
      exact hthere
    | _ => exact (h.resolve_right nofun).1

namespace Stretch

variable {net : Network} {addr : DevAddr} {σ reached : ServerState} {later : List Moment}

/-- A server gets along a stretch. -/
theorem reaches (stretch : Stretch net addr σ later reached) : σ.Reaches net later reached := by
  induction stretch with
  | start => exact .start
  | step stretch step listed loaded kept alive ih => exact ih.step step

/-- Whoever asked the store for the devices was answered, and no loader of the address gathered
nothing. -/
theorem succeeds (stretch : Stretch net addr σ later reached) {m : Moment} (hmem : m ∈ later) :
    m.event.failsToList addr = false ∧ (m.event.gathersNone = true →
      ∃ job, reached.jobs[m.task]? = some job ∧ ¬ job.activity.Loads addr) := by
  induction stretch with
  | start => cases hmem
  | @step later moments reached next stretch step listed loaded kept alive ih =>
    rcases List.mem_append.mp hmem with hbefore | hnow
    · refine (ih hbefore).imp_right fun hnone hgathers => ?_
      obtain ⟨job, hjob, hother⟩ := hnone hgathers
      obtain ⟨last, hlast, hsame⟩ := step.persists hjob
      exact ⟨last, hlast, hsame.symm ▸ hother⟩
    · refine ⟨listed m hnow, fun hgathers => ?_⟩
      obtain ⟨activity, rest, found, -⟩ := step.performs hnow
      obtain ⟨last, hlast, hsame⟩ := step.persists found
      exact ⟨last, hlast, hsame.symm ▸ loaded m hnow hgathers _ found⟩

/-- An entry that is there since it was stored is alive. -/
theorem isSome_addressEntry (stretch : Stretch net addr σ later reached)
    (hstored : WasStored addr later) (hthere : (reached.memory.addresses.get? addr).isSome = true) :
    (reached.memory.addressEntry net.config reached.now addr).isSome = true := by
  obtain ⟨entry, hentry⟩ := Option.isSome_iff_exists.mp hthere
  cases stretch with
  | start => obtain ⟨_, hmem, -⟩ := hstored; cases hmem
  | step stretch step listed loaded kept alive =>
    unfold Memory.addressEntry
    rw [hentry]
    dsimp only
    rw [if_pos (alive hstored entry hentry)]
    rfl

end Stretch

/-! ## Publishing before leaving -/

/-- Who makes the loader of an address unknown, in a stretch that began without one, has stored the
devices before. -/
theorem ServerRun.wasStored_of_leaves {net : Network} {σ reached next : ServerState}
    {history later : List Moment} {addr : DevAddr} {m : Moment} (run : ServerRun net history σ)
    (hunknown : σ.memory.loaders.get? addr = none) (stretch : Stretch net addr σ later reached)
    (step : reached.Step net [m] next) (hleaves : m.event.leaves addr = true) :
    WasStored addr later := by
  obtain ⟨task, event, before, after⟩ := m
  obtain rfl := Event.eq_of_leaves hleaves
  have hrun := run.reaches stretch.reaches
  obtain ⟨activity, rest, found, -⟩ := step.performs List.mem_cons_self
  obtain ⟨loader, other, rfl⟩ := hrun.loads_of_leaves found
  obtain ⟨last, hlast, hsame⟩ := step.persists found
  have hprogram := (hrun.step step).program_reaches_of_once hlast
    (hsame.symm ▸ Activity.loader_once)
  rw [hsame, eventsOf_append, show eventsOf task [_] = [_] from eventsOf_singleton] at hprogram
  have honce := Activity.leaves_once hprogram
  obtain ⟨rfl, devices, looked, hlooked, hevents⟩ := Activity.published_of_leaves hprogram
  -- Otherwise its loader was known when the stretch began, or had left already.
  have hnew : ∀ m ∈ history, m.task ≠ task := by
    rintro m hmem rfl
    have hold := List.getElem?_eq_getElem (run.task_lt m hmem)
    have hloads := (stretch.reaches.activity_eq hold found).symm
    rcases (run.loading.jobs m.task _ hold).runs loader addr hloads with hruns | hleft
    · have hknown := run.loading.fits.tied.known m.task addr loader (Stage.known_of_runs hruns)
      rw [hunknown] at hknown
      cases hknown
    · obtain ⟨earlier, hearlier, htask, hleaves⟩ := hleft
      refine honce (mem_eventsOf.mpr ⟨earlier, List.mem_append_left _ hearlier, htask, ?_⟩)
      exact Event.eq_of_leaves hleaves
  rw [eventsOf_append, eventsOf_eq_nil hnew, List.nil_append] at hevents
  have hmoment : ∀ event ∈ looked ++ Service.published addr devices,
      ∃ m ∈ later, m.task = task ∧ m.event = event := fun event hmem =>
    mem_eventsOf.mp (hevents ▸ hmem)
  cases devices with
  | ok handles =>
    obtain ⟨m, hmem, -, hevent⟩ := hmoment _ (List.mem_append_right _ List.mem_cons_self)
    exact ⟨m, hmem, by rw [hevent]; exact decide_eq_true rfl⟩
  | error reason =>
    obtain ⟨event, hmem, hfails⟩ := Service.findDevices_failed hlooked
    obtain ⟨m, hlater, rfl, rfl⟩ := hmoment event (List.mem_append_left _ hmem)
    obtain ⟨hlisted, hloaded⟩ := stretch.succeeds hlater
    rcases hfails with hlist | hnone
    · rw [hlisted] at hlist
      cases hlist
    · obtain ⟨job, hjob, hother⟩ := hloaded hnone
      obtain rfl := Option.some.inj (found.symm.trans hjob)
      exact absurd ⟨loader, rfl⟩ hother

/-! ## Loaders that have yet to ask -/

namespace Stage

variable {stage : Stage} {op : ServerOperation} {answer : op.Answer} {addr : DevAddr}

/-- Only who joins a loader, starts or asks changes which loaders have yet to ask. -/
theorem unasked_next (hallows : stage.Allows op)
    (hcall : ∀ addr, op ≠ .call (.fetchCandidates addr))
    (hjoin : ∀ frame, op ≠ .memory (.joinLoader frame))
    (hstart : ∀ activities, op ≠ .start activities) :
    (stage.next ⟨op, answer⟩).unasked = stage.unasked := by
  cases op with
  | clock | wallClock | draw | race => rfl
  | start activities => exact absurd rfl (hstart activities)
  | call request =>
    cases request with
    | fetchCandidates addr => exact absurd rfl (hcall addr)
    | _ => rfl
  | memory op =>
    cases op with
    | joinLoader frame => exact absurd rfl (hjoin frame)
    | takeReply =>
      obtain rfl : stage = .waiting := hallows
      rfl
    | gather loader count =>
      obtain ⟨addr, rfl⟩ := hallows
      rfl
    | leaveLoader addr => obtain ⟨loader, rfl | rfl⟩ := hallows <;> rfl
    | closeQueue loader =>
      obtain rfl : stage = .left loader := hallows
      rfl
    | reply task resolution =>
      obtain ⟨frame, rest, rfl⟩ := hallows
      rfl
    | deposit loader place load =>
      obtain rfl : stage = .loading loader place := hallows
      rfl
    | _ => rfl

end Stage

/-- Who looks after a loader that has yet to ask has made it known. -/
theorem Stage.known_of_unasked {stage : Stage} {addr : DevAddr} (h : stage.unasked = some addr) :
    ∃ loader, stage.known = some (addr, loader) := by
  cases stage with
  | opened loader | asking loader =>
    obtain rfl := Option.some.inj h
    exact ⟨loader, rfl⟩
  | idle | waiting | asked | gathering | gathered | left | answering | loading | deposited =>
    cases h

/-- Some task looks after a loader of the address that has yet to ask. -/
def Roster.HasUnasked (stages : Roster) (addr : DevAddr) : Prop :=
  ∃ task, (stages task).unasked = some addr

section HasUnasked

variable {stages : Roster} {task first : TaskId} {stage : Stage} {addr : DevAddr}

/-- A task that has to ask after its move if it had to before leaves the loaders that have yet to ask. -/
theorem Roster.hasUnasked_set
    (h : stage.unasked = some addr ↔ (stages task).unasked = some addr) :
    (stages.set task stage).HasUnasked addr ↔ stages.HasUnasked addr := by
  constructor <;> rintro ⟨other, hother⟩ <;> refine ⟨other, ?_⟩
  · rcases set_cases stages task stage other with ⟨rfl, heq⟩ | ⟨-, heq⟩ <;> rw [heq] at hother
    · exact h.mp hother
    · exact hother
  · rcases set_cases stages task stage other with ⟨rfl, heq⟩ | ⟨-, heq⟩ <;> rw [heq]
    · exact h.mpr hother
    · exact hother

/-- Activities that load no address leave the loaders that have yet to ask. -/
theorem Roster.hasUnasked_launch {activities : List Activity}
    (hfresh : ∀ other, first ≤ other → (stages other).unasked = none)
    (hnone : ∀ (place : Nat) (activity : Activity), activities[place]? = some activity →
      activity.stage.unasked = none) :
    (stages.launch first activities).HasUnasked addr ↔ stages.HasUnasked addr := by
  constructor <;> rintro ⟨other, hother⟩ <;> refine ⟨other, ?_⟩ <;>
    rcases Nat.lt_or_ge other first with hlt | hge
  · rw [launch_of_lt hlt] at hother
    exact hother
  · rw [launch_of_le hge] at hother
    cases hfound : activities[other - first]? with
    | none =>
      rw [hfound] at hother
      cases hother
    | some activity =>
      rw [hfound, Option.map_some, Option.getD_some, hnone _ _ hfound] at hother
      cases hother
  · rw [launch_of_lt hlt]
    exact hother
  · rw [hfresh other hge] at hother
    cases hother

/-- A loader that starts has to ask in place of the one who made it known. -/
theorem Roster.hasUnasked_startLoader {loader : LoaderId} {address : DevAddr}
    (hopened : stages task = .opened loader address) (hnew : stages first = .idle) :
    ((stages.set task .waiting).set first (.asking loader address)).HasUnasked addr ↔
      stages.HasUnasked addr := by
  constructor
  · rintro ⟨other, hother⟩
    rcases set_cases (stages.set task .waiting) first (.asking loader address) other with
      ⟨-, heq⟩ | ⟨-, heq⟩ <;> rw [heq] at hother
    · exact ⟨task, by rw [hopened]; exact hother⟩
    · rcases set_cases stages task .waiting other with ⟨-, heq⟩ | ⟨-, heq⟩ <;> rw [heq] at hother
      · cases hother
      · exact ⟨other, hother⟩
  · rintro ⟨other, hother⟩
    by_cases heq : other = task
    · refine ⟨first, ?_⟩
      rw [heq, hopened] at hother
      rw [set_self]
      exact hother
    · refine ⟨other, ?_⟩
      rw [set_of_ne, set_of_ne _ _ heq]
      · exact hother
      · rintro rfl
        rw [hnew] at hother
        cases hother

/-- Whatever activities start, the loaders that have yet to ask stay. -/
theorem Roster.hasUnasked_start {activities : List Activity}
    (hallows : (stages task).Allows (.start activities)) (htask : task < first)
    (hfresh : ∀ other, first ≤ other → stages other = .idle) :
    ((stages.set task ((stages task).next ⟨.start activities, ()⟩)).launch first
      activities).HasUnasked addr ↔ stages.HasUnasked addr := by
  rcases hallows with ⟨loader, address, hopened, rfl⟩ | ⟨loader, address, candidates, hasked, rfl⟩
  · rw [launch_loader hopened htask hfresh]
    exact hasUnasked_startLoader hopened (hfresh first (Nat.le_refl _))
  · rw [hasUnasked_launch, next_candidates hasked]
    · exact hasUnasked_set (by simp [hasked, Stage.unasked])
    · intro other hother
      rw [set_of_ne _ _ (Nat.ne_of_gt (Nat.lt_of_lt_of_le htask hother)), hfresh other hother]
      rfl
    · intro place activity hfound
      rw [Service.stage_of_candidate hfound]
      rfl

end HasUnasked

/-- A step that neither joins nor leaves a loader leaves the loaders that are known. -/
theorem Memory.loaders_of_perform {config : ServerConfig} {now : Instant} {task : TaskId}
    {m after : Memory} {op : MemoryOperation} {answer : op.Answer}
    (h : m.perform config now task op = some (answer, after))
    (hjoin : ∀ frame, op ≠ .joinLoader frame) (hleave : ∀ addr, op ≠ .leaveLoader addr) :
    after.loaders = m.loaders := by
  cases op with
  | joinLoader frame => exact absurd rfl (hjoin frame)
  | leaveLoader addr => exact absurd rfl (hleave addr)
  | takeSlot slot => exact (same_of_plain h (.inr ⟨slot, rfl⟩)).1
  | takeReply =>
    simp only [Memory.perform] at h
    split at h
    · cases h
    · obtain ⟨-, rfl⟩ := Prod.mk.inj (Option.some.inj h)
      rfl
  | closeQueue | reply | deposit =>
    obtain ⟨-, rfl⟩ := Prod.mk.inj (Option.some.inj h)
    rfl
  | gather =>
    obtain ⟨loads, -, heq⟩ := Option.map_eq_some_iff.mp h
    rw [(Prod.mk.inj heq).2]
  | _ => exact (same_of_plain h (.inl rfl)).1

/-! ## The course of loading an address -/

/-- How far the loading of an address has come in a stretch that began without a loader. -/
structure Course (addr : DevAddr) (stages : Roster) (later : List Moment) (m : Memory) : Prop where
  /-- A collaborator was asked once at most. -/
  once : lookups addr later ≤ 1
  /-- After the question the loader is known until its answer is stored, and nobody asks again. -/
  covered : lookups addr later = 1 →
    (WasStored addr later ∨ (m.loaders.get? addr).isSome = true) ∧ ¬ stages.HasUnasked addr
  /-- A loader that is known or that frames were added for has asked, or has yet to. -/
  begun : ((m.loaders.get? addr).isSome = true ∨ ∃ m ∈ later, m.event.requestsFor addr = true) →
    lookups addr later = 1 ∨ stages.HasUnasked addr
  /-- What was stored is there. -/
  stored : WasStored addr later → (m.addresses.get? addr).isSome = true

namespace Course

variable {addr : DevAddr} {stages next : Roster} {later : List Moment} {m after : Memory}
variable {event : Event serverInterface} {task : TaskId}

/-- At the beginning no loader is known. -/
theorem empty (hunknown : m.loaders.get? addr = none) : Course addr stages [] m where
  once := Nat.zero_le 1
  covered h := by cases h
  begun h := by
    rcases h with h | ⟨_, h, -⟩
    · rw [hunknown] at h
      cases h
    · cases h
  stored h := by
    obtain ⟨_, h, -⟩ := h
    cases h

/-- A moment without a question changes nothing, if it makes no loader of the address known, makes
it unknown only once its answer is stored, and leaves those that have yet to ask. -/
theorem keep (h : Course addr stages later m)
    (hstays : (WasStored addr later ∨ event.stores addr = true) →
      (after.addresses.get? addr).isSome = true)
    (hasks : event.asksFor addr = false)
    (hrequests : event.requestsFor addr = true → (m.loaders.get? addr).isSome = true)
    (hknown : after.loaders.get? addr = m.loaders.get? addr ∨
      after.loaders.get? addr = none ∧ WasStored addr later)
    (hunasked : next.HasUnasked addr ↔ stages.HasUnasked addr) (before : Memory) :
    Course addr next (later ++ [⟨task, event, before, after⟩]) after := by
  have hcount : lookups addr (later ++ [⟨task, event, before, after⟩]) = lookups addr later := by
    unfold lookups
    rw [countP_snoc, hasks]
    rfl
  refine ⟨?_, ?_, ?_, fun hstored => hstays (wasStored_snoc.mp hstored)⟩
  · rw [hcount]
    exact h.once
  · rw [hcount, hunasked, wasStored_snoc]
    intro hone
    obtain ⟨hcovered, hnone⟩ := h.covered hone
    refine ⟨?_, hnone⟩
    rcases hknown with hsame | ⟨-, hstored⟩
    · rw [hsame]
      exact hcovered.imp_left .inl
    · exact .inl (.inl hstored)
  · rw [hcount, hunasked]
    rintro (hsome | ⟨earlier, hmem, hrequest⟩)
    · rcases hknown with hsame | ⟨hnone, -⟩
      · rw [hsame] at hsome
        exact h.begun (.inl hsome)
      · rw [hnone] at hsome
        cases hsome
    · rcases List.mem_append.mp hmem with hmem | hmem
      · exact h.begun (.inr ⟨earlier, hmem, hrequest⟩)
      · rw [List.mem_singleton.mp hmem] at hrequest
        exact h.begun (.inl (hrequests hrequest))

/-- A question counts, and the loader that asked it is known. -/
theorem ask (h : Course addr stages later m) (htied : stages.Tied m) {loader : LoaderId}
    (hasking : stages task = .asking loader addr)
    (hevent : ∃ answer, event = ⟨.call (.fetchCandidates addr), answer⟩) {before : Memory} :
    Course addr (stages.set task (.asked loader addr)) (later ++ [⟨task, event, before, m⟩]) m := by
  obtain ⟨answer, rfl⟩ := hevent
  have hunasked : stages.HasUnasked addr := ⟨task, by rw [hasking]; rfl⟩
  have hnone : lookups addr later ≠ 1 := fun hone => (h.covered hone).2 hunasked
  have hcount : lookups addr
      (later ++ [⟨task, ⟨.call (.fetchCandidates addr), answer⟩, before, m⟩]) = 1 := by
    have hfirst := h.once
    unfold lookups at hfirst hnone ⊢
    rw [countP_snoc]
    have hasks : Event.asksFor addr ⟨.call (.fetchCandidates addr), answer⟩ = true :=
      decide_eq_true rfl
    rw [hasks, Bool.toNat_true]
    omega
  have hknown : (stages task).known = some (addr, loader) := by rw [hasking]; rfl
  refine ⟨Nat.le_of_eq hcount, fun _ => ⟨.inr ?_, ?_⟩, fun _ => .inl hcount, fun hstored => ?_⟩
  · rw [htied.known task addr loader hknown]
    rfl
  · rintro ⟨other, hother⟩
    rcases Roster.set_cases stages task (.asked loader addr) other with
      ⟨-, heq⟩ | ⟨hne, heq⟩ <;> rw [heq] at hother
    · cases hother
    · obtain ⟨loader', hknown'⟩ := Stage.known_of_unasked hother
      exact hne (ServerRun.eq_of_known htied hknown' hknown)
  · exact h.stored ((wasStored_snoc.mp hstored).resolve_right Bool.false_ne_true)

/-- A loader that is made known has yet to ask. -/
theorem makeKnown (h : Course addr stages later m) (hcold : ¬ WasStored addr later)
    (hunknown : m.loaders.get? addr = none) {task : TaskId} {loader : LoaderId} {frame : DataFrame}
    {before : Memory} :
    Course addr (stages.set task (.opened loader addr))
      (later ++ [⟨task, ⟨.memory (.joinLoader frame), .started loader⟩, before, after⟩]) after := by
  have hnone : lookups addr later ≠ 1 := by
    intro hone
    rcases (h.covered hone).1 with hstored | hknown
    · exact hcold hstored
    · rw [hunknown] at hknown
      cases hknown
  have hcount : lookups addr (later ++
      [⟨task, ⟨.memory (.joinLoader frame), .started loader⟩, before, after⟩]) =
        lookups addr later := by
    unfold lookups
    rw [countP_snoc]
    rfl
  refine ⟨?_, ?_, fun _ => .inr ⟨task, ?_⟩, fun hstored => ?_⟩
  · rw [hcount]
    exact h.once
  · rw [hcount]
    exact fun hone => absurd hone hnone
  · rw [Roster.set_self]
    rfl
  · exact absurd ((wasStored_snoc.mp hstored).resolve_right Bool.false_ne_true) hcold

end Course

namespace ServerRun

variable {net : Network} {σ : ServerState} {history later : List Moment} {addr : DevAddr}
variable {task : TaskId} {op : ServerOperation} {answer : op.Answer} {after : Memory}

/-- Joining a loader leads the course of loading an address further. -/
theorem course_join {frame : DataFrame} {joined : Joined} {stages : Roster}
    (h : Course addr stages later σ.memory) (htied : stages.Tied σ.memory)
    (hidle : stages task = .idle)
    (hjoins : Memory.Joins net.config σ.now task σ.memory frame joined after)
    (halive : WasStored addr later →
      (σ.memory.addressEntry net.config σ.now addr).isSome = true)
    (hstays : WasStored addr later → (after.addresses.get? addr).isSome = true) :
    Course addr (stages.set task ((stages task).join frame.devAddr joined))
      (later ++ [⟨task, ⟨.memory (.joinLoader frame), joined⟩, σ.memory, after⟩]) after := by
  have hstores : (WasStored addr later ∨
      Event.stores addr ⟨.memory (.joinLoader frame), joined⟩ = true) →
        (after.addresses.get? addr).isSome = true :=
    fun hstored => hstored.elim hstays fun hfalse => by cases hfalse
  cases hjoins with
  | cached unknown alive =>
    refine h.keep hstores rfl (fun hfalse => by cases hfalse) (.inl rfl) ?_ _
    exact Roster.hasUnasked_set Iff.rfl
  | refused found closed =>
    obtain ⟨queue, hqueue, haccepting⟩ := htied.accepts_of_known found
    rw [closed queue hqueue] at haccepting
    cases haccepting
  | queued found at_ accepts =>
    refine h.keep hstores rfl (fun hrequest => ?_) (.inl ?_) ?_ _
    · rw [← of_decide_eq_true hrequest, found]
      rfl
    · rfl
    · exact Roster.hasUnasked_set (by rw [hidle]; rfl)
  | started unknown cold =>
    by_cases haddr : frame.devAddr = addr
    · subst haddr
      refine h.makeKnown (fun hstored => ?_) unknown
      have hwarm := halive hstored
      rw [cold] at hwarm
      cases hwarm
    · refine h.keep hstores rfl (fun hrequest => absurd (of_decide_eq_true hrequest) haddr)
        (.inl ?_) ?_ _
      · exact (Table.get?_set _ _ _ _).trans (if_neg haddr)
      · exact Roster.hasUnasked_set (by simp [hidle, Stage.join, Stage.unasked, haddr])

/-- A step on the memory leads the course of loading an address further. -/
theorem course_memory {op : MemoryOperation} {answer : op.Answer} {stages : Roster}
    (h : Course addr stages later σ.memory) (htied : stages.Tied σ.memory)
    (hallows : (stages task).Allows (.memory op))
    (hperform : σ.memory.perform net.config σ.now task op = some (answer, after))
    (hleaves : op = .leaveLoader addr → WasStored addr later)
    (halive : WasStored addr later →
      (σ.memory.addressEntry net.config σ.now addr).isSome = true)
    (hstays : (WasStored addr later ∨ Event.stores addr ⟨.memory op, answer⟩ = true) →
      (after.addresses.get? addr).isSome = true) :
    Course addr (stages.set task ((stages task).next ⟨.memory op, answer⟩))
      (later ++ [⟨task, ⟨.memory op, answer⟩, σ.memory, after⟩]) after := by
  by_cases hjoin : ∃ frame, op = .joinLoader frame
  · obtain ⟨frame, rfl⟩ := hjoin
    exact course_join h htied hallows (Memory.joins_of_perform hperform) halive fun hstored =>
      hstays (.inl hstored)
  · have hunasked : ((stages task).next ⟨.memory op, answer⟩).unasked = (stages task).unasked :=
      Stage.unasked_next hallows (fun _ heq => by cases heq)
        (fun frame heq => hjoin ⟨frame, ServerOperation.memory.inj heq⟩) fun _ heq => by cases heq
    have hrequests : Event.requestsFor addr ⟨.memory op, answer⟩ = true →
        (σ.memory.loaders.get? addr).isSome = true := by
      intro hrequest
      cases op with
      | joinLoader frame => exact absurd ⟨frame, rfl⟩ hjoin
      | _ => cases hrequest
    refine h.keep hstays rfl hrequests ?_ (Roster.hasUnasked_set (by rw [hunasked])) _
    by_cases hleave : ∃ other, op = .leaveLoader other
    · obtain ⟨other, rfl⟩ := hleave
      obtain ⟨-, rfl⟩ := Prod.mk.inj (Option.some.inj hperform)
      have hget := Table.get?_erase σ.memory.loaders other addr
      by_cases heq : other = addr
      · rw [if_pos heq] at hget
        exact .inr ⟨hget, hleaves (congrArg _ heq)⟩
      · rw [if_neg heq] at hget
        exact .inl hget
    · rw [Memory.loaders_of_perform hperform (fun frame heq => hjoin ⟨frame, heq⟩)
        fun other heq => hleave ⟨other, heq⟩]
      exact .inl rfl

/-- An operation of a task leads the course of loading an address further. -/
theorem course_perform {stages : Roster} {first : TaskId}
    (h : Course addr stages later σ.memory) (htied : stages.Tied σ.memory)
    (hallows : (stages task).Allows op) (admitted : σ.Admits net task op answer after)
    (htask : task < first) (hfresh : ∀ other, first ≤ other → stages other = .idle)
    (hleaves : Event.leaves addr ⟨op, answer⟩ = true → WasStored addr later)
    (halive : WasStored addr later →
      (σ.memory.addressEntry net.config σ.now addr).isSome = true)
    (hstays : (WasStored addr later ∨ Event.stores addr ⟨op, answer⟩ = true) →
      (after.addresses.get? addr).isSome = true) :
    Course addr ((stages.set task ((stages task).next ⟨op, answer⟩)).launch first op.started)
      (later ++ [⟨task, ⟨op, answer⟩, σ.memory, after⟩]) after := by
  have hset : ∀ stage : Stage, (stages.set task stage).launch first [] = stages.set task stage := by
    intro stage
    refine Roster.launch_nil fun other hother => ?_
    rw [Roster.set_of_ne _ _ (Nat.ne_of_gt (Nat.lt_of_lt_of_le htask hother))]
    exact hfresh other hother
  have hplain : op.started = [] → after.loaders = σ.memory.loaders →
      Event.asksFor addr ⟨op, answer⟩ = false → Event.requestsFor addr ⟨op, answer⟩ = false →
      ((stages task).next ⟨op, answer⟩).unasked = (stages task).unasked →
      Course addr ((stages.set task ((stages task).next ⟨op, answer⟩)).launch first op.started)
        (later ++ [⟨task, ⟨op, answer⟩, σ.memory, after⟩]) after := by
    intro hnone hloaders hasks hrequests hunasked
    rw [hnone, hset]
    refine h.keep hstays hasks (fun hrequest => ?_) (.inl (by rw [hloaders]))
      (Roster.hasUnasked_set (by rw [hunasked])) _
    rw [hrequests] at hrequest
    cases hrequest
  cases op with
  | clock => exact hplain rfl (by rw [admitted.2]) rfl rfl rfl
  | wallClock | draw => exact hplain rfl (by rw [show after = σ.memory from admitted]) rfl rfl rfl
  | race request deadline =>
    have hsame : after.loaders = σ.memory.loaders := by rw [show after = σ.memory from admitted]
    cases request with
    | fetchCandidates address => exact hallows.elim
    | _ => exact hplain rfl hsame rfl rfl rfl
  | call request =>
    obtain rfl : after = σ.memory := admitted
    cases request with
    | fetchCandidates address =>
      obtain ⟨loader, hasking⟩ := hallows
      have hnext : (stages task).next ⟨.call (.fetchCandidates address), answer⟩ =
          .asked loader address := by
        rw [hasking]
        rfl
      rw [show (ServerOperation.call (.fetchCandidates address)).started = [] from rfl, hset,
        hnext]
      by_cases haddr : address = addr
      · subst haddr
        exact h.ask htied hasking ⟨answer, rfl⟩
      · refine h.keep hstays (decide_eq_false haddr) (fun hfalse => by cases hfalse) (.inl rfl)
          (Roster.hasUnasked_set ?_) _
        simp [hasking, Stage.unasked, haddr]
    | _ => exact hplain rfl rfl rfl rfl rfl
  | memory op =>
    rw [show (ServerOperation.memory op).started = [] from rfl, hset]
    refine course_memory h htied hallows admitted ?_ halive hstays
    rintro rfl
    exact hleaves (decide_eq_true rfl)
  | start activities =>
    obtain rfl : after = σ.memory := admitted
    exact h.keep hstays rfl (fun hfalse => by cases hfalse) (.inl rfl)
      (Roster.hasUnasked_start hallows htask hfresh) _

/-- A stretch that begins without a loader leads along the course of loading its address. -/
theorem course_of_stretch {reached : ServerState} (run : ServerRun net history σ)
    (hunknown : σ.memory.loaders.get? addr = none) (stretch : Stretch net addr σ later reached) :
    Course addr (reached.roster (history ++ later)) later reached.memory := by
  induction stretch with
  | start => exact .empty hunknown
  | @step later moments reached next stretch step listed loaded kept alive ih =>
    have hloading := (run.reaches stretch.reaches).loading
    rw [← List.append_assoc]
    cases step with
    | wait =>
      rw [List.append_nil, List.append_nil]
      exact ih
    | arrive outside =>
      rw [List.append_nil, List.append_nil, hloading.roster_arrive outside]
      exact ih
    | @again task activity found =>
      have hroster : (reached.proceed task (Job.fresh net activity) reached.memory).roster
          (history ++ later) = reached.roster (history ++ later) :=
        ServerState.roster_proceed found
      rw [List.append_nil, List.append_nil, hroster]
      exact ih
    | @perform task activity op rest answer after found admitted =>
      rw [(hloading.roster_perform found net answer after).2]
      refine course_perform ih hloading.fits.tied (hloading.jobs task _ found).rules.1 admitted
        (List.getElem?_eq_some_iff.mp found).1 (fun _ => ServerState.roster_of_length_le) ?_ ?_ ?_
      · exact run.wasStored_of_leaves hunknown stretch (.perform found admitted)
      · exact fun hstored => stretch.isSome_addressEntry hstored (ih.stored hstored)
      · refine fun hstored => ServerState.isSome_of_admits admitted (hstored.imp_left ?_)
        exact fun hbefore => ⟨ih.stored hbefore, kept hbefore _ List.mem_cons_self⟩

/-- Whatever runs side by side, an address has one loader and one question at a time, no frame meets
a closed queue, and every frame is replied to once. From when no loader of an address is known, its
frames cause one question together at most, if the loads succeed and the entry stays once it was
stored; and if one of them has waited for a loader, they have caused it when no loader can go on. -/
theorem single_flight (run : ServerRun net history σ) :
    SingleFlight net history σ ∧
      ∀ (addr : DevAddr) (later : List Moment) (reached : ServerState),
        Stretch net addr σ later reached → σ.memory.loaders.get? addr = none →
          lookups addr later ≤ 1 ∧
            ((∃ m ∈ later, m.event.requestsFor addr = true) → reached.LoadersRest net →
              lookups addr later = 1) := by
  refine ⟨run.singleFlight, fun addr later reached stretch hunknown => ?_⟩
  have hcourse := run.course_of_stretch hunknown stretch
  refine ⟨hcourse.once, fun hrequested hrest => ?_⟩
  refine (hcourse.begun (.inr hrequested)).resolve_right ?_
  rintro ⟨task, hunasked⟩
  have hloading := (run.reaches stretch.reaches).loading
  rw [(hloading.atRest hrest task).hand_serves_unasked.2.2] at hunasked
  cases hunasked

end ServerRun

/-! ## Two frames at a time -/

/-- A step that led here goes with a stretch in which the loads of an address succeed and its entry
stays. -/
def ServerState.isSteady (net : Network) (addr : DevAddr) (later moments : List Moment)
    (next : ServerState) : Bool :=
  (moments.all fun m => !m.event.failsToList addr && !m.event.gathersNone &&
    !m.event.forgetsAddress addr) &&
  (!((later ++ moments).any fun m => m.event.stores addr) ||
    (next.memory.addresses.get? addr).all fun entry =>
      next.now < entry.since + (Duration.ofMillis net.config.addressLifetime : Nat))

/-- All turns go with such a stretch. -/
def ServerState.areSteady (net : Network) (answers : (request : Request) → request.Answer)
    (addr : DevAddr) : List TaskId → List Moment × ServerState → Bool
  | [], _ => true
  | task :: rest, reached =>
    let next := reached.2.turn net answers task
    next.2.isSteady net addr reached.1 next.1 &&
      areSteady net answers addr rest (reached.1 ++ next.1, next.2)

/-- A step that goes with a stretch leads it further. -/
theorem Stretch.step_of_isSteady {net : Network} {addr : DevAddr} {σ reached next : ServerState}
    {later moments : List Moment} (stretch : Stretch net addr σ later reached)
    (step : reached.Step net moments next)
    (hsteady : next.isSteady net addr later moments = true) :
    Stretch net addr σ (later ++ moments) next := by
  obtain ⟨hmoments, hentry⟩ := Bool.and_eq_true_iff.mp hsteady
  have hall : ∀ m ∈ moments, m.event.failsToList addr = false ∧ m.event.gathersNone = false ∧
      m.event.forgetsAddress addr = false := fun m hmem => by
    simpa [and_assoc] using List.all_eq_true.mp hmoments m hmem
  refine .step stretch step (fun m hmem => (hall m hmem).1) (fun m hmem hnone => ?_)
    (fun _ m hmem => (hall m hmem).2.2) fun hstored entry hfound => ?_
  · rw [(hall m hmem).2.1] at hnone
    cases hnone
  · rw [List.any_eq_true.mpr hstored, hfound] at hentry
    exact of_decide_eq_true hentry

/-- Turns that go with a stretch lead it further. -/
theorem Stretch.turns {net : Network} {addr : DevAddr} {σ : ServerState}
    (answers : (request : Request) → request.Answer) (tasks : List TaskId)
    {reached : List Moment × ServerState} (stretch : Stretch net addr σ reached.1 reached.2)
    (hsteady : ServerState.areSteady net answers addr tasks reached = true) :
    Stretch net addr σ (ServerState.turns net answers tasks reached).1
      (ServerState.turns net answers tasks reached).2 := by
  induction tasks generalizing reached with
  | nil => exact stretch
  | cons task rest ih =>
    obtain ⟨hfirst, hrest⟩ := Bool.and_eq_true_iff.mp hsteady
    refine ih ?_ hrest
    rcases ServerState.turn_cases answers task reached.2 with hstep | hstay
    · exact stretch.step_of_isSteady hstep hfirst
    · rw [hstay, List.append_nil]
      exact stretch

namespace Sample

/-- A server that just started, when two tasks look for the device of the sample frame. -/
def twoFrames : ServerState :=
  ServerState.launch network [.resolve frame]
    (ServerState.launch network [.resolve frame] { now := 0 })

/-- The order in which its tasks go on: both look the address up, both join its loader, and then all
go on in turn. -/
def order : List TaskId := [0, 1, 0, 1] ++ (List.replicate 20 [0, 1, 2, 3]).flatten

/-- The server after its tasks went on in this order. -/
def bothResolved : List Moment × ServerState :=
  ServerState.turns network storeAnswers order ([], twoFrames)

end Sample

/-- Two frames of one address that is not cached are both replied to after one question. -/
theorem ServerRun.single_flight_of_two_frames :
    lookups Sample.frame.devAddr Sample.bothResolved.1 = 1 ∧
      ∀ task < 2, requests task Sample.bothResolved.1 = 1 ∧
        replies task Sample.bothResolved.1 = 1 := by
  have hstart : ServerRun Sample.network [] Sample.twoFrames :=
    .step (.step (.boot 0) (.arrive rfl)) (.arrive rfl)
  have hrun : ServerRun Sample.network Sample.bothResolved.1 Sample.bothResolved.2 :=
    hstart.turns Sample.storeAnswers _
  have hstretch : Stretch Sample.network Sample.frame.devAddr Sample.twoFrames
      Sample.bothResolved.1 Sample.bothResolved.2 :=
    Stretch.turns Sample.storeAnswers Sample.order .start (by decide +kernel)
  have hrequested : ∃ m ∈ Sample.bothResolved.1,
      m.event.requestsFor Sample.frame.devAddr = true :=
    List.any_eq_true.mp (by decide +kernel)
  have hrest : Sample.bothResolved.2.LoadersRest Sample.network :=
    ServerState.loadersRest_of_finished (by decide +kernel)
  have hlookups := ((single_flight hstart).2 _ _ _ hstretch rfl).2 hrequested hrest
  have hrequests : ∀ task < 2, requests task Sample.bothResolved.1 = 1 := by decide +kernel
  refine ⟨hlookups, fun task htask => ⟨hrequests task htask, ?_⟩⟩
  exact ((single_flight hrun).1.settled hrest task).1.trans (hrequests task htask)

end LoraNetwork
