import LoraNetwork.Proofs.Server.Authenticity
import LoraNetwork.Proofs.Uplink.Run

/-!
# The calls on a slot

Uplinks of one device wait for each other. Each lines up for a slot, takes it when its turn comes,
is handled by one call of the handler and gives the slot back with the device as the call left it.
What falls between belongs to other slots. So whatever runs side by side, the calls on one slot are
a run of handled uplinks, one after the other, from the session that the slot was made with.
-/

namespace LoraNetwork

/-! ## How a task handles its uplink -/

/-- How far a task has come with the handling of its uplink. -/
inductive CallStage where
  /-- It has not lined up. -/
  | searching
  /-- It lined up for a slot. -/
  | lined (slot : SlotId)
  /-- It took the slot with the device in it, and what the handler has done since. -/
  | handling (slot : SlotId) (device : Device) (events : List (Event dataInterface))
  /-- It gave the slot back. -/
  | returned (slot : SlotId)

namespace CallStage

/-- The slot that the task lined up for. -/
def slot? : CallStage → Option SlotId
  | searching => none
  | lined slot | handling slot _ _ | returned slot => some slot

/-- The stage after an event of the handler. -/
def push (event : Event dataInterface) : CallStage → CallStage
  | handling slot device events => handling slot device (events ++ [event])
  | stage => stage

/-- The stage after an event. -/
def next (stage : CallStage) : Event serverInterface → CallStage
  | ⟨.memory (.lineUp slot), _⟩ => lined slot
  | ⟨.memory (.takeSlot slot), device⟩ => handling slot device []
  | ⟨.memory (.giveBack slot _), _⟩ => returned slot
  | ⟨.memory (.announce _ counter), _⟩ => stage.push ⟨.announce counter, ()⟩
  | ⟨.clock, now⟩ => stage.push ⟨.clock, now⟩
  | ⟨.wallClock, time⟩ => stage.push ⟨.wallClock, time⟩
  | ⟨.call request, answer⟩ => stage.push ⟨.call request, answer⟩
  | ⟨.race request deadline, answer⟩ => stage.push ⟨.race request deadline, answer⟩
  | _ => stage

/-- What a task may do with slots: it takes the slot that it lined up for, and gives it back with the
device as the handler left it. -/
def Allows (net : Network) (uplink : DataUplink) (stage : CallStage) : ServerOperation → Prop
  | .memory (.lineUp _) => stage = searching
  | .memory (.takeSlot slot) => stage = lined slot
  | .memory (.announce slot _) => ∃ device events, stage = handling slot device events
  | .memory (.giveBack slot after) => ∃ device events result, stage = handling slot device events ∧
      (DataHandling.handle net device uplink).Trace events (after, result)
  | _ => True

/-- A stage without a slot in hand stays as the handler goes on. -/
theorem push_of_ne {stage : CallStage} (event : Event dataInterface)
    (h : ∀ slot device events, stage ≠ handling slot device events) : stage.push event = stage := by
  cases stage with
  | handling slot device events => exact absurd rfl (h slot device events)
  | searching | lined | returned => rfl

end CallStage

/-- The rules for the handling of an uplink. -/
def callRules (net : Network) (uplink : DataUplink) : Contract serverInterface CallStage where
  allows := CallStage.Allows net uplink
  promises _ _ := True
  next := CallStage.next

/-- How far a task has come with the handling of its uplink. -/
def callStage (task : TaskId) (history : List Moment) : CallStage :=
  history.foldl (fun stage m => if m.task = task then stage.next m.event else stage) .searching

theorem callStage_snoc {task : TaskId} {history : List Moment} {m : Moment} :
    callStage task (history ++ [m]) =
      if m.task = task then (callStage task history).next m.event
      else callStage task history := by
  rw [callStage, List.foldl_append]
  rfl

/-- The operation has nothing to do with the handling on a slot. -/
def ServerOperation.passesBy : ServerOperation → Bool
  | .memory (.lineUp _) | .memory (.takeSlot _) | .memory (.announce ..)
  | .memory (.giveBack ..) => false
  | _ => true

/-- Operations that have nothing to do with the handling on a slot. -/
abbrev ServerOperation.PassesBy (op : ServerOperation) : Prop := op.passesBy = true

namespace Service

open Program

variable {net : Network} {data : DataUplink} {frame : DataFrame} {slot : SlotId} {stage : CallStage}

/-- A part that has nothing to do with slots keeps the rules while no slot is in hand. -/
theorem keeps_call_of_passesBy {α : Type} {p : Service α}
    (h : p.Obeys ServerOperation.PassesBy fun _ => True)
    (hstage : ∀ slot device events, stage ≠ .handling slot device events) :
    p.Keeps (callRules net data) (fun reached _ => reached = stage) stage := by
  refine (h.keeps (C := callRules net data) (· = stage) ?_ ?_ rfl).mono fun _ _ hpost => hpost.1
  · rintro _ op - hpasses
    cases op with
    | memory op => cases op <;> trivial
    | clock | wallClock | draw | call | race | start => trivial
  · rintro _ op answer rfl hpasses
    cases op with
    | memory op => cases op <;> first | rfl | cases hpasses
    | draw | start => rfl
    | clock | wallClock | call | race => exact CallStage.push_of_ne _ hstage

theorem authenticate_passesBy {handles : List DeviceHandle} :
    (authenticate net frame handles).Obeys ServerOperation.PassesBy fun _ => True := by
  induction handles with
  | nil => trivial
  | cons handle rest ih =>
    refine obeys_perform.mpr ⟨rfl, fun announced => ?_⟩
    dsimp only [done_bind]
    split
    · trivial
    · exact ih

theorem resolve_passesBy :
    (resolve net frame).Obeys ServerOperation.PassesBy fun _ => True := by
  refine obeys_bind.mpr (obeys_ask.mpr ⟨rfl, fun cached => ?_⟩)
  cases cached with
  | some handles =>
    exact obeys_bind.mpr (authenticate_passesBy.mono (fun _ h => h) fun _ _ => trivial)
  | none =>
    refine obeys_bind.mpr (obeys_ask.mpr ⟨rfl, fun joined => ?_⟩)
    cases joined with
    | again => trivial
    | queued => exact obeys_perform.mpr ⟨rfl, fun _ => trivial⟩
    | started loader =>
      exact obeys_perform.mpr ⟨rfl, fun _ => obeys_perform.mpr ⟨rfl, fun _ => trivial⟩⟩

theorem forgetDevice_passesBy (eui : Eui64) :
    (ofUpkeep (Upkeep.forgetDevice eui)).Obeys ServerOperation.PassesBy fun _ => True := by
  refine obeys_perform.mpr ⟨rfl, fun known => ?_⟩
  cases known with
  | none => trivial
  | some handle =>
    refine obeys_perform.mpr ⟨rfl, fun _ => obeys_perform.mpr ⟨rfl, fun entry => ?_⟩⟩
    cases entry with
    | none => trivial
    | some handles =>
      simp only [done_bind]
      split <;> exact obeys_perform.mpr ⟨rfl, fun _ => trivial⟩

/-- What is left of the handler is done on the slot, event by event. -/
theorem expand_calls {device : Device} {p : DataHandling (Device × UplinkOutcome)}
    {events : List (Event dataInterface)}
    (h : ∀ later value, p.Trace later value →
      (DataHandling.handle net device data).Trace (events ++ later) value) :
    (p.expand (ofDataOperation slot)).Keeps (callRules net data) (fun reached value =>
      ∃ all, reached = .handling slot device all ∧
        (DataHandling.handle net device data).Trace all value) (.handling slot device events) := by
  induction p generalizing events with
  | done value =>
    have htrace := h [] value (trace_done.mpr ⟨rfl, rfl⟩)
    rw [List.append_nil] at htrace
    exact ⟨events, rfl, htrace⟩
  | perform op next ih =>
    have hnext : ∀ answer : op.Answer, ((next answer).expand (ofDataOperation slot)).Keeps
        (callRules net data) (fun reached value => ∃ all, reached = .handling slot device all ∧
          (DataHandling.handle net device data).Trace all value)
            (.handling slot device (events ++ [⟨op, answer⟩])) := by
      refine fun answer => ih answer fun later value htrace => ?_
      rw [List.append_assoc]
      exact h _ value (Reaches.answered (I := dataInterface) answer htrace)
    cases op with
    | clock | wallClock | call | race => exact ⟨trivial, fun answer _ => hnext answer⟩
    | announce counter => exact ⟨⟨device, events, rfl⟩, fun answer _ => hnext answer⟩

/-- An uplink is handled by one call on the slot that it lined up for. -/
theorem handleOn_calls : (handleOn net slot data).Keeps (callRules net data)
    (fun reached _ => reached = .returned slot) .searching := by
  refine keeps_bind.mpr ⟨rfl, fun _ _ => keeps_bind.mpr ⟨rfl, fun device _ => ?_⟩⟩
  refine keeps_bind.mpr ((expand_calls fun later value htrace => htrace).mono ?_)
  rintro _ result ⟨events, rfl, htrace⟩
  exact ⟨⟨device, events, result.2, rfl, htrace⟩, fun _ _ => rfl⟩

/-- The uplink that is dispatched lines up only once it found its device. -/
theorem dispatchData_calls {uplink : RadioUplink} :
    (dispatchData net uplink frame).Keeps (callRules net ⟨frame, uplink.metadata, uplink.arrival⟩)
      (fun reached outcome => outcome = none → reached = .searching) .searching := by
  unfold dispatchData
  split
  · exact fun _ => rfl
  · refine keeps_bind.mpr ((keeps_call_of_passesBy resolve_passesBy fun _ _ _ => by simp).mono ?_)
    rintro _ found rfl
    rcases found with - | (reason | handle)
    · exact fun _ => rfl
    · exact fun _ => rfl
    · refine keeps_bind.mpr (handleOn_calls.mono ?_)
      rintro _ outcome rfl
      split
      · refine keeps_bind.mpr ((keeps_call_of_passesBy (forgetDevice_passesBy _)
          fun _ _ _ => by simp).mono ?_)
        exact fun _ _ _ hnone => nomatch hnone
      · exact fun hnone => nomatch hnone

end Service

/-- Who handles an uplink keeps the rules, and has not lined up when it starts again. -/
theorem Activity.program_calls {net : Network} {a : Activity} {data : DataUplink}
    (h : a.dataUplink = some data) :
    (a.program net).Keeps (callRules net data)
      (fun stage verdict => verdict = .again → stage = .searching) .searching := by
  cases a with
  | dispatch uplink =>
    obtain ⟨hparse, hdata⟩ := ServerRun.dataUplink_dispatch.mp h
    have hdispatch : (Service.dispatch net uplink).Keeps (callRules net data)
        (fun reached outcome => outcome = none → reached = .searching) .searching := by
      unfold Service.dispatch
      rw [hparse, hdata]
      exact Service.dispatchData_calls
    refine Program.keeps_bind.mpr (hdispatch.mono fun reached outcome hreached => ?_)
    cases outcome with
    | none => exact fun _ => hreached rfl
    | some outcome => exact fun hagain => nomatch hagain
  | handle slot uplink =>
    obtain rfl := Option.some.inj h
    exact Program.keeps_bind.mpr (Service.handleOn_calls.mono fun _ _ _ hagain => nomatch hagain)
  | resolve | loadAddress | loadCandidate | install | forgetDevice | forgetAddress => cases h

/-- What is left of a task that handles an uplink keeps the rules. -/
theorem ServerRun.keeps_calls {net : Network} {history : List Moment} {σ : ServerState}
    (run : ServerRun net history σ) {task : TaskId} {job : Job} (hjob : σ.jobs[task]? = some job)
    {data : DataUplink} (hdata : job.activity.dataUplink = some data) :
    job.rest.Keeps (callRules net data) (fun stage verdict => verdict = .again → stage = .searching)
      (callStage task history) :=
  run.keeps_from (callRules net data) .searching
    (fun stage verdict => verdict = .again → stage = .searching)
    (fun activity => activity.dataUplink = some data) (fun _ _ => trivial)
    (fun _ hactivity => Activity.program_calls hactivity) (fun _ hagain => hagain rfl) task job hjob
    hdata

/-- Who handles an uplink on a slot holds the slot. -/
def CallStage.Fits (stage : CallStage) (phase : Phase) : Prop :=
  ∀ slot device events, stage = .handling slot device events →
    ∃ acted, phase = .holding slot device acted

/-- Every event leaves it so. -/
theorem CallStage.Fits.next {stage : CallStage} {phase : Phase} (h : stage.Fits phase)
    (event : Event serverInterface) : (stage.next event).Fits (phase.next event) := by
  have hpush : ∀ pushed took, (stage.push pushed).Fits (phase.act took) := by
    intro pushed took slot device events hstage
    cases stage with
    | handling other found before =>
      obtain ⟨rfl, rfl, -⟩ := CallStage.handling.inj hstage
      obtain ⟨acted, rfl⟩ := h _ _ _ rfl
      exact ⟨_, rfl⟩
    | searching | lined | returned => cases hstage
  have hsilent : ∀ pushed, (stage.push pushed).Fits phase := by
    intro pushed
    have hfits := hpush pushed false
    rwa [Phase.act_false] at hfits
  obtain ⟨op, answer⟩ := event
  cases op with
  | clock | wallClock => exact hsilent _
  | draw | start => exact h
  | call | race => exact hpush _ _
  | memory op =>
    cases op with
    | takeSlot slot =>
      intro other device events hstage
      obtain ⟨rfl, rfl, -⟩ := CallStage.handling.inj hstage
      exact ⟨false, rfl⟩
    | lineUp | giveBack => exact fun _ _ _ hstage => by cases hstage
    | announce => exact hsilent _
    | _ => exact h

/-- A task in whose hands the handler is holds its slot. -/
theorem callStage_fits (task : TaskId) (history : List Moment) :
    (callStage task history).Fits (phaseOf task history) := by
  unfold callStage phaseOf
  have hstart : CallStage.searching.Fits .free := fun _ _ _ hstage => by cases hstage
  revert hstart
  generalize CallStage.searching = stage
  generalize Phase.free = phase
  intro hstart
  induction history generalizing stage phase with
  | nil => exact hstart
  | cons m rest ih =>
    rw [List.foldl_cons, List.foldl_cons]
    refine ih _ _ ?_
    split
    · exact hstart.next m.event
    · exact hstart

/-! ## The slots -/

/-- The device that a task gave a slot back with. -/
def Moment.returned? (slot : SlotId) (m : Moment) : Option (TaskId × Device) :=
  match m.event with
  | ⟨.memory (.giveBack other device), _⟩ => if other = slot then some (m.task, device) else none
  | _ => none

/-- The step concerns the slots. -/
def MemoryOperation.isSlotting : MemoryOperation → Bool
  | newSlot _ | announce .. | lineUp _ | takeSlot _ | giveBack .. => true
  | _ => false

namespace Memory

variable {config : ServerConfig} {now : Instant} {task : TaskId} {m after : Memory}
variable {op : MemoryOperation} {answer : op.Answer} {slot : SlotId}

/-- A step that does not concern the slots leaves them. -/
theorem slots_of_perform (h : m.perform config now task op = some (answer, after))
    (hop : op.isSlotting = false) : after.slots = m.slots := by
  cases op with
  | newSlot | announce | lineUp | takeSlot | giveBack => cases hop
  | lookUpSession eui =>
    have hafter : after = (m.readIndex config now eui).2 :=
      (congrArg Prod.snd (Option.some.inj h)).symm
    rw [hafter]
    rcases readIndex_eq m config now eui with heq | ⟨_, -, heq⟩ <;> rw [heq]
  | joinLoader frame =>
    have hafter : after = (m.joinLoader config now task frame).2 :=
      (congrArg Prod.snd (Option.some.inj h)).symm
    unfold joinLoader at hafter
    split at hafter <;> split at hafter <;> (subst hafter; rfl)
  | takeReply =>
    simp only [perform] at h
    split at h
    · cases h
    · obtain ⟨-, rfl⟩ := Prod.mk.inj (Option.some.inj h)
      rfl
  | gather loader count =>
    obtain ⟨loads, -, heq⟩ := Option.map_eq_some_iff.mp h
    obtain ⟨-, rfl⟩ := Prod.mk.inj heq
    rfl
  | _ =>
    obtain ⟨-, rfl⟩ := Prod.mk.inj (Option.some.inj h)
    rfl

/-- What becomes of a slot in a step: it is taken or given back, a counter is announced there, or its
device stays and it is held if it was. -/
theorem slot_cases (slot : SlotId) (hexists : slot < m.slots.length)
    (h : m.perform config now task op = some (answer, after)) :
    op = .takeSlot slot ∨ (∃ device, op = .giveBack slot device) ∨
      (∃ counter, op = .announce slot counter) ∨
      ∀ s, after.slots[slot]? = some s → ∃ before, m.slots[slot]? = some before ∧
        s.device = before.device ∧ s.held = before.held := by
  have hsame : after.slots[slot]? = m.slots[slot]? →
      ∀ s, after.slots[slot]? = some s → ∃ before, m.slots[slot]? = some before ∧
        s.device = before.device ∧ s.held = before.held :=
    fun heq s hs => ⟨s, heq ▸ hs, rfl, rfl⟩
  cases op with
  | takeSlot other =>
    by_cases hother : other = slot
    · exact .inl (by rw [hother])
    · obtain ⟨_, -, -, -, rfl⟩ := takeSlot_eq h
      exact .inr (.inr (.inr (hsame (by rw [getElem?_updateSlot, if_neg hother]))))
  | giveBack other device =>
    by_cases hother : other = slot
    · exact .inr (.inl ⟨device, by rw [hother]⟩)
    · obtain ⟨-, rfl⟩ := Prod.mk.inj (Option.some.inj h)
      exact .inr (.inr (.inr (hsame (by rw [getElem?_updateSlot, if_neg hother]))))
  | announce other counter =>
    by_cases hother : other = slot
    · exact .inr (.inr (.inl ⟨counter, by rw [hother]⟩))
    · obtain ⟨-, rfl⟩ := Prod.mk.inj (Option.some.inj h)
      exact .inr (.inr (.inr (hsame (by rw [getElem?_updateSlot, if_neg hother]))))
  | lineUp other =>
    obtain ⟨-, rfl⟩ := Prod.mk.inj (Option.some.inj h)
    refine .inr (.inr (.inr fun s hs => ?_))
    rw [getElem?_updateSlot] at hs
    split at hs
    · obtain ⟨before, hbefore, rfl⟩ := Option.map_eq_some_iff.mp hs
      exact ⟨before, hbefore, rfl, rfl⟩
    · exact ⟨s, hs, rfl, rfl⟩
  | newSlot session =>
    obtain ⟨-, rfl⟩ := Prod.mk.inj (Option.some.inj h)
    exact .inr (.inr (.inr (hsame (List.getElem?_append_left hexists))))
  | _ => exact .inr (.inr (.inr (hsame (by rw [slots_of_perform h rfl]))))

/-- No slot goes away. -/
theorem slots_le_of_perform (h : m.perform config now task op = some (answer, after)) :
    m.slots.length ≤ after.slots.length := by
  have hchange := slotChange_of_perform h
  generalize after.slots = slots at hchange
  cases hchange with
  | same => exact Nat.le_refl _
  | added => exact List.length_append ▸ Nat.le_add_right _ _
  | kept | returned => exact Nat.le_of_eq (List.length_modify _ _ _).symm

end Memory

namespace ServerRun

variable {net : Network} {history moments : List Moment} {σ next : ServerState} {slot : SlotId}

/-- Who holds a slot after a step held it before, or has just taken it. -/
theorem holding_cases (step : σ.Step net moments next) {task : TaskId} {device : Device}
    {acted : Bool} (h : phaseOf task (history ++ moments) = .holding slot device acted) :
    (∃ before, phaseOf task history = .holding slot device before) ∨
      ∃ m ∈ moments, m.task = task ∧ m.event = ⟨.memory (.takeSlot slot), device⟩ := by
  cases step with
  | wait | arrive | again =>
    rw [List.append_nil] at h
    exact .inl ⟨acted, h⟩
  | perform =>
    rw [phaseOf_snoc] at h
    split at h
    · rename_i htask
      exact (Phase.holding_of_next h).imp_right fun hevent =>
        ⟨_, List.mem_cons_self, htask, hevent⟩
    · exact .inl ⟨acted, h⟩

/-- A slot that is given back was there. -/
theorem lt_of_returned (run : ServerRun net history σ) :
    ∀ m ∈ history, ∀ returned, m.returned? slot = some returned → slot < σ.memory.slots.length := by
  induction run with
  | boot now => exact fun m hmem => nomatch hmem
  | @step history moments σ next run step ih =>
    have hle : σ.memory.slots.length ≤ next.memory.slots.length := by
      rcases step.memory_cases with ⟨hsame, -⟩ | ⟨_, _, _, -, hperform⟩
      · exact Nat.le_of_eq (by rw [hsame])
      · exact Memory.slots_le_of_perform hperform
    intro m hmem returned hreturned
    refine Nat.lt_of_lt_of_le ?_ hle
    rcases List.mem_append.mp hmem with hold | hnew
    · exact ih m hold returned hreturned
    · obtain ⟨activity, rest, found, -⟩ := step.performs hnew
      obtain ⟨task, ⟨op, answer⟩, before, after⟩ := m
      unfold Moment.returned? at hreturned
      split at hreturned
      · rename_i other device _ heq
        cases heq
        split at hreturned
        · rename_i hother
          have hinvariant := run.invariant (Knowledge.sees_knowledge σ)
          obtain ⟨held, acted, hphase, -⟩ := hinvariant.holding_of_giveBack found rfl
          obtain ⟨s, hfound, -⟩ := hinvariant.holds hphase
          exact hother ▸ (List.getElem?_eq_some_iff.mp hfound).1
        · cases hreturned
      · cases hreturned

/-- The calls that were made on a slot, each with the task that made it: they are a run of handled
uplinks from the session that the slot was made with. -/
structure SlotCalls (net : Network) (history : List Moment) (σ : ServerState) (slot : SlotId)
    (session : Session) (calls : List (TaskId × Handling)) (last : Device) : Prop where
  /-- The slot was made with the session. -/
  made : ∃ m ∈ history, ∃ handle : DeviceHandle, handle.slot = slot ∧
    m.event = ⟨.memory (.newSlot session), handle⟩
  /-- The calls follow each other. -/
  run : HandlingRun net (.ofSession session) (calls.map Prod.snd) last
  /-- Each is one in which the slot was given back, in this order. -/
  returned : history.filterMap (Moment.returned? slot) =
    calls.map fun call => (call.1, call.2.after)
  /-- Each is of the uplink of its task. -/
  handles : ∀ call ∈ calls, ∃ job, σ.jobs[call.1]? = some job ∧
    job.activity.dataUplink = some call.2.uplink
  /-- While nobody holds the slot, the device in it is as the last call left it. -/
  free : ∀ s, σ.memory.slots[slot]? = some s → s.held = false → s.device = last
  /-- Whoever holds the slot took it so. -/
  held : ∀ task device acted, phaseOf task history = .holding slot device acted → device = last

namespace SlotCalls

variable {session : Session} {calls : List (TaskId × Handling)} {last : Device}

/-- The calls on a slot are those they were if the slot was not given back, and was taken at most with
the device as the last call left it. -/
theorem still (h : SlotCalls net history σ slot session calls last) (step : σ.Step net moments next)
    (hreturned : ∀ m ∈ moments, m.returned? slot = none)
    (htaken : ∀ m ∈ moments, ∀ device, m.event = ⟨.memory (.takeSlot slot), device⟩ → device = last)
    (hslot : ∀ s, next.memory.slots[slot]? = some s → s.held = false →
      ∃ before, σ.memory.slots[slot]? = some before ∧ before.held = false ∧
        s.device = before.device) :
    SlotCalls net (history ++ moments) next slot session calls last where
  made := by
    obtain ⟨m, hmem, hmade⟩ := h.made
    exact ⟨m, List.mem_append_left _ hmem, hmade⟩
  run := h.run
  returned := by
    rw [List.filterMap_append, h.returned, List.filterMap_eq_nil_iff.mpr hreturned, List.append_nil]
  handles call hmem := by
    obtain ⟨job, hjob, hdata⟩ := h.handles call hmem
    obtain ⟨later, hlater, hsame⟩ := step.persists hjob
    exact ⟨later, hlater, hsame ▸ hdata⟩
  free s hs hfree := by
    obtain ⟨before, hbefore, hheld, hdevice⟩ := hslot s hs hfree
    exact hdevice.trans (h.free before hbefore hheld)
  held task device acted hphase := by
    rcases holding_cases step hphase with ⟨before, hbefore⟩ | ⟨m, hmem, -, hevent⟩
    · exact h.held task device before hbefore
    · exact htaken m hmem device hevent

/-- A call on a slot ends when the slot is given back. -/
theorem giveBack (h : SlotCalls net history σ slot session calls last)
    (run : ServerRun net history σ) {task : TaskId} {device : Device} {memory : Memory}
    (step : σ.Step net [⟨task, ⟨.memory (.giveBack slot device), ()⟩, σ.memory, memory⟩] next)
    (hafter : ∀ s, next.memory.slots[slot]? = some s → s.device = device) :
    ∃ call, SlotCalls net
      (history ++ [⟨task, ⟨.memory (.giveBack slot device), ()⟩, σ.memory, memory⟩])
      next slot session (calls ++ [call]) device := by
  have hinvariant := run.invariant (Knowledge.sees_knowledge σ)
  obtain ⟨activity, rest, found, -⟩ := step.performs List.mem_cons_self
  obtain ⟨-, held, acted, uplink, settled, hphase, hdata, -⟩ := (hinvariant.fine task _ found).keeps.1
  obtain ⟨taken, events, result, hstage, htrace⟩ := (run.keeps_calls found hdata).1
  obtain ⟨acted', hholds⟩ := callStage_fits task history slot taken events hstage
  have htaken : taken = last := h.held task taken acted' hholds
  have hcall : Handling.Occurs net ⟨taken, uplink, events, device, result⟩ := htrace
  refine ⟨(task, ⟨taken, uplink, events, device, result⟩), ?_, ?_, ?_, ?_, ?_, ?_⟩
  · obtain ⟨m, hmem, hmade⟩ := h.made
    exact ⟨m, List.mem_append_left _ hmem, hmade⟩
  · rw [List.map_append]
    exact HandlingRun.append_iff.mpr ⟨last, h.run, htaken ▸ .cons hcall (.nil device)⟩
  · rw [List.filterMap_append, List.map_append, h.returned]
    simp [Moment.returned?]
  · intro call hmem
    rcases List.mem_append.mp hmem with hold | hnew
    · obtain ⟨job, hjob, huplink⟩ := h.handles call hold
      obtain ⟨later, hlater, hsame⟩ := step.persists hjob
      exact ⟨later, hlater, hsame ▸ huplink⟩
    · rw [List.mem_singleton.mp hnew]
      obtain ⟨later, hlater, hsame⟩ := step.persists found
      exact ⟨later, hlater, hsame ▸ hdata⟩
  · exact fun s hs _ => hafter s hs
  · intro other device' acted'' hother
    by_cases heq : other = task
    · rw [phaseOf_snoc, if_pos heq.symm, heq, hphase] at hother
      cases hother
    · rw [phaseOf_snoc, if_neg (Ne.symm heq)] at hother
      exact absurd (hinvariant.apart other task slot device' held acted'' acted hother hphase) heq

/-- The calls on a slot go on to be a run. -/
theorem step (h : SlotCalls net history σ slot session calls last) (run : ServerRun net history σ)
    (step : σ.Step net moments next) (hexists : slot < σ.memory.slots.length) :
    ∃ calls last, SlotCalls net (history ++ moments) next slot session calls last := by
  rcases step.memory_cases with ⟨hsame, hnone⟩ | ⟨task, op, answer, rfl, hperform⟩
  · refine ⟨calls, last, h.still step ?_ ?_ ?_⟩
    · intro m hmem
      unfold Moment.returned?
      split
      · rename_i heq
        exact absurd (congrArg Event.op heq) (hnone m hmem _)
      · rfl
    · exact fun m hmem device hevent => absurd (congrArg Event.op hevent) (hnone m hmem _)
    · exact fun s hs hfree => ⟨s, hsame ▸ hs, hfree, rfl⟩
  · have hinvariant := run.invariant (Knowledge.sees_knowledge σ)
    have hkept : ∀ m ∈ [(⟨task, ⟨.memory op, answer⟩, σ.memory, next.memory⟩ : Moment)],
        (∀ device, op ≠ .giveBack slot device) → m.returned? slot = none := by
      intro m hmem hgive
      rw [List.mem_singleton.mp hmem]
      unfold Moment.returned?
      split
      · rename_i other device _ heq
        refine if_neg fun hother => hgive device ?_
        rw [← hother]
        exact ServerOperation.memory.inj (congrArg Event.op heq)
      · rfl
    have huntaken : op ≠ .takeSlot slot →
        ∀ m ∈ [(⟨task, ⟨.memory op, answer⟩, σ.memory, next.memory⟩ : Moment)], ∀ device,
          m.event = ⟨.memory (.takeSlot slot), device⟩ → device = last := by
      intro hop m hmem device hevent
      rw [List.mem_singleton.mp hmem] at hevent
      exact absurd (ServerOperation.memory.inj (congrArg Event.op hevent)) hop
    by_cases hop : op = .takeSlot slot
    · subst hop
      obtain ⟨s, hfound, hfree, rfl, hafter⟩ := Memory.takeSlot_eq hperform
      refine ⟨calls, last, h.still step (fun m hmem => hkept m hmem fun _ heq => by cases heq) ?_ ?_⟩
      · intro m hmem device hevent
        rw [List.mem_singleton.mp hmem] at hevent
        cases hevent
        exact h.free s hfound hfree
      · intro later hlater hheld
        rw [hafter, Memory.getElem?_updateSlot, if_pos rfl, hfound] at hlater
        obtain rfl := Option.some.inj hlater
        cases hheld
    · by_cases hgive : ∃ device, op = .giveBack slot device
      · obtain ⟨device, rfl⟩ := hgive
        obtain ⟨-, hafter⟩ := Prod.mk.inj (Option.some.inj hperform)
        obtain ⟨call, hcalls⟩ := h.giveBack run step fun s hs => by
          rw [← hafter, Memory.getElem?_updateSlot, if_pos rfl] at hs
          obtain ⟨_, -, rfl⟩ := Option.map_eq_some_iff.mp hs
          rfl
        exact ⟨_, _, hcalls⟩
      · have hother : ∀ device, op ≠ .giveBack slot device := fun device heq => hgive ⟨device, heq⟩
        refine ⟨calls, last, h.still step (fun m hmem => hkept m hmem hother) (huntaken hop) ?_⟩
        rcases Memory.slot_cases slot hexists hperform with heq | heq | ⟨counter, rfl⟩ | hslot
        · exact absurd heq hop
        · exact absurd heq hgive
        · -- Only the task that holds the slot announces, so the slot is not free.
          intro later hlater hfree
          obtain ⟨activity, rest, found, -⟩ := step.performs List.mem_cons_self
          obtain ⟨-, device, acted, uplink, hphase, -⟩ := (hinvariant.fine task _ found).keeps.1
          obtain ⟨s, hfound, hheld, -⟩ := hinvariant.holds hphase
          obtain ⟨-, hafter⟩ := Prod.mk.inj (Option.some.inj hperform)
          rw [← hafter, Memory.getElem?_updateSlot, if_pos rfl, hfound] at hlater
          obtain rfl := Option.some.inj hlater
          rw [hheld] at hfree
          cases hfree
        · intro later hlater hfree
          obtain ⟨before, hbefore, hdevice, hheld⟩ := hslot later hlater
          exact ⟨before, hbefore, hheld ▸ hfree, hdevice⟩

/-- No calls have been made on a slot that is new. -/
theorem ofNew (run : ServerRun net history σ) (step : σ.Step net moments next)
    (hnone : σ.memory.slots[slot]? = none) {s : Slot} (hslot : next.memory.slots[slot]? = some s) :
    ∃ session, SlotCalls net (history ++ moments) next slot session [] (.ofSession session) := by
  have hinvariant := run.invariant (Knowledge.sees_knowledge σ)
  have hlen : σ.memory.slots.length ≤ slot := List.getElem?_eq_none_iff.mp hnone
  rcases step.memory_cases with ⟨hsame, -⟩ | ⟨task, op, answer, rfl, hperform⟩
  · rw [hsame, hnone] at hslot
    cases hslot
  · obtain ⟨session, rfl⟩ : ∃ session, op = .newSlot session := by
      have hlt := (List.getElem?_eq_some_iff.mp hslot).1
      have hchange := Memory.slotChange_of_perform hperform
      generalize next.memory.slots = slots at hchange hlt
      cases hchange with
      | same => exact absurd hlt (Nat.not_lt.mpr hlen)
      | added new => exact ⟨_, new⟩
      | kept | returned => exact absurd (List.length_modify _ _ _ ▸ hlt) (Nat.not_lt.mpr hlen)
    obtain ⟨hanswer, hafter⟩ := Prod.mk.inj (Option.some.inj hperform)
    rw [← hafter] at hslot
    dsimp only at hslot
    have hlt := (List.getElem?_eq_some_iff.mp hslot).1
    rw [List.length_append, List.length_singleton] at hlt
    obtain rfl := Nat.le_antisymm hlen (Nat.le_of_lt_succ hlt)
    refine ⟨session, ?_, .nil _, ?_, fun _ hmem => (nomatch hmem), ?_, ?_⟩
    · exact ⟨_, List.mem_append_right _ List.mem_cons_self, answer, by rw [← hanswer], rfl⟩
    · refine List.filterMap_eq_nil_iff.mpr fun m hmem => ?_
      rcases List.mem_append.mp hmem with hold | hnew
      · refine Option.eq_none_iff_forall_ne_some.mpr fun returned hreturned => ?_
        exact Nat.lt_irrefl _ (run.lt_of_returned m hold returned hreturned)
      · rw [List.mem_singleton.mp hnew]
        rfl
    · intro later hlater _
      rw [← hafter] at hlater
      dsimp only at hlater
      rw [List.getElem?_append_right (Nat.le_refl _), Nat.sub_self] at hlater
      rw [← Option.some.inj hlater]
    · intro other device acted hphase
      rcases holding_cases step hphase with ⟨before, hbefore⟩ | ⟨m, hmem, -, hevent⟩
      · obtain ⟨_, hfound, -⟩ := hinvariant.holds hbefore
        rw [hnone] at hfound
        cases hfound
      · rw [List.mem_singleton.mp hmem] at hevent
        cases congrArg Event.op hevent

end SlotCalls

/-- The calls on every slot are a run of handled uplinks. -/
theorem exists_slotCalls (run : ServerRun net history σ) {s : Slot}
    (hslot : σ.memory.slots[slot]? = some s) :
    ∃ session calls last, SlotCalls net history σ slot session calls last := by
  induction run generalizing s with
  | boot now => cases hslot
  | @step history moments σ next run step ih =>
    cases hbefore : σ.memory.slots[slot]? with
    | none =>
      obtain ⟨session, hcalls⟩ := SlotCalls.ofNew run step hbefore hslot
      exact ⟨session, [], _, hcalls⟩
    | some before =>
      obtain ⟨session, calls, last, hcalls⟩ := ih hbefore
      obtain ⟨calls, last, hcalls⟩ :=
        hcalls.step run step (List.getElem?_eq_some_iff.mp hbefore).1
      exact ⟨session, calls, last, hcalls⟩

end ServerRun

/-! ## One slot for an uplink -/

/-- The slot that a task lined up for stays its slot. -/
theorem CallStage.slot?_next {net : Network} {data : DataUplink} {stage : CallStage}
    {op : ServerOperation} {answer : op.Answer} {slot : SlotId} (hallows : stage.Allows net data op)
    (h : stage.slot? = some slot) : (stage.next ⟨op, answer⟩).slot? = some slot := by
  have hpush : ∀ event, (stage.push event).slot? = some slot := by
    intro event
    cases stage <;> exact h
  cases op with
  | clock | wallClock | call | race => exact hpush _
  | draw | start => exact h
  | memory op =>
    cases op with
    | lineUp other =>
      obtain rfl : stage = .searching := hallows
      cases h
    | takeSlot other =>
      obtain rfl : stage = .lined other := hallows
      exact h
    | giveBack other after =>
      obtain ⟨device, events, result, rfl, -⟩ := hallows
      exact h
    | announce => exact hpush _
    | _ => exact h

/-- The operation lines up for a slot or gives it back. -/
def ServerOperation.slotted? : ServerOperation → Option SlotId
  | .memory (.lineUp slot) | .memory (.giveBack slot _) => some slot
  | _ => none

namespace ServerRun

variable {net : Network} {history : List Moment} {σ : ServerState}

/-- A task that handles an uplink has the slot that it lined up for or gave back. -/
theorem slot?_of_mem (run : ServerRun net history σ) {m : Moment} (hmem : m ∈ history) {job : Job}
    (hjob : σ.jobs[m.task]? = some job) {data : DataUplink}
    (hdata : job.activity.dataUplink = some data) {slot : SlotId}
    (hop : m.event.op.slotted? = some slot) : (callStage m.task history).slot? = some slot := by
  induction run generalizing job with
  | boot now => cases hmem
  | @step history moments σ next run step ih =>
    have hold : m ∈ history → (callStage m.task history).slot? = some slot := by
      intro hmem
      have hfound := List.getElem?_eq_getElem (run.task_lt m hmem)
      refine ih hmem hfound ?_
      rw [← hdata, step.activity_eq hfound hjob]
    rcases step.along_cases (callRules net data) .searching history m.task with
      ⟨hsame, hstill⟩ | ⟨other, rfl, htask, hmoved⟩
    · rcases List.mem_append.mp hmem with hmem | hnew
      · show ((callRules net data).along .searching m.task (history ++ moments)).slot? = some slot
        rw [hsame]
        exact hold hmem
      · exact absurd rfl (hstill m hnew)
    · show ((callRules net data).along .searching m.task (history ++ [other])).slot? = some slot
      rw [hmoved]
      rcases List.mem_append.mp hmem with hmem | hnew
      · obtain ⟨activity, rest, found, -⟩ := step.performs List.mem_cons_self
        rw [htask] at found
        have hsame : activity.dataUplink = some data := by
          rw [← hdata, step.activity_eq found hjob]
        exact CallStage.slot?_next (run.keeps_calls found hsame).1 (hold hmem)
      · rw [List.mem_singleton.mp hnew] at hop
        obtain ⟨task, ⟨op, answer⟩, before, after⟩ := other
        unfold ServerOperation.slotted? at hop
        split at hop
        · rename_i heq
          obtain rfl : op = _ := heq
          exact hop
        · rename_i heq
          obtain rfl : op = _ := heq
          exact hop
        · cases hop

end ServerRun

end LoraNetwork
