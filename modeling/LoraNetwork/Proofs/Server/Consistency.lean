import LoraNetwork.Proofs.Server.Calls
import LoraNetwork.Proofs.Server.Time
import LoraNetwork.Proofs.Uplink.Consistency

/-!
# Devices are consistent while nobody uses them

A slot is free, or one uplink has taken it. Only that uplink announces a counter there, and it gives
the slot back with the device as one call of the handler left it. So whatever runs side by side, the
device in a free slot is consistent: its card, the counter announced last and what is kept for
repeats go by its session. Each uplink takes its slot when it is free, so no call ever starts from a
device that is not consistent, and no repeat finds an answer that was kept for another counter.

The card and the counter can be read while the slot is in use. All along the slot shows the counter
that its uplink announced last, so when it is given back they are already as they will be.
-/

namespace LoraNetwork

/-! ## What can be read of a slot in use -/

/-- What can be read in a slot without taking it is that of a device. -/
def Memory.Shows (memory : Memory) (slot : SlotId) (device : Device) : Prop :=
  ∃ s, memory.slots[slot]? = some s ∧ s.device.card = device.card ∧
    s.device.announced = device.announced

/-- The slot whose device a step changes. -/
def MemoryOperation.changes? : MemoryOperation → Option SlotId
  | announce slot _ | giveBack slot _ => some slot
  | _ => none

section Stages

variable {config : ServerConfig} {now : Instant} {task : TaskId} {m after : Memory}
variable {op : MemoryOperation} {answer : op.Answer} {slot : SlotId}

/-- The device in a slot stays, unless a step changes it. -/
theorem Memory.device_of_perform {s : Slot} (hslot : m.slots[slot]? = some s)
    (h : m.perform config now task op = some (answer, after)) (hother : op.changes? ≠ some slot) :
    ∃ later, after.slots[slot]? = some later ∧ later.device = s.device := by
  have hlt := (List.getElem?_eq_some_iff.mp hslot).1
  rcases slot_cases slot hlt h with rfl | ⟨device, rfl⟩ | ⟨counter, rfl⟩ | hkept
  · obtain ⟨_, -, -, -, rfl⟩ := takeSlot_eq h
    rw [getElem?_updateSlot, if_pos rfl, hslot]
    exact ⟨_, rfl, rfl⟩
  · exact absurd rfl hother
  · exact absurd rfl hother
  · have hlater := List.getElem?_eq_getElem (Nat.lt_of_lt_of_le hlt (slots_le_of_perform h))
    obtain ⟨before, hbefore, hdevice, -⟩ := hkept _ hlater
    obtain rfl := Option.some.inj (hbefore.symm.trans hslot)
    exact ⟨_, hlater, hdevice⟩

/-- While the handler works on a slot, the counter that can be read there is the one that it
announced last. -/
def CallStage.Shows (stage : CallStage) (m : Memory) : Prop :=
  ∀ slot device events, stage = .handling slot device events →
    ∃ s, m.slots[slot]? = some s ∧ s.device.announced = announcedAfter device.announced events

namespace CallStage.Shows

variable {stage : CallStage}

/-- What announces nothing leaves it so. -/
theorem push (h : stage.Shows m) {event : Event dataInterface}
    (hnone : event.op.announced? = none) : (stage.push event).Shows m := by
  intro slot device events hstage
  cases stage with
  | handling other found before =>
    obtain ⟨rfl, rfl, rfl⟩ := CallStage.handling.inj hstage
    obtain ⟨s, hs, hannounced⟩ := h _ _ _ rfl
    refine ⟨s, hs, ?_⟩
    rw [announcedAfter_append, ← hannounced]
    exact (congrArg (Option.getD · s.device.announced) hnone).symm
  | searching | lined | returned => cases hstage

/-- What does not touch the memory leaves it so. -/
theorem next (h : stage.Shows m) {event : Event serverInterface}
    (hop : ∀ op, event.op ≠ .memory op) : (stage.next event).Shows m := by
  obtain ⟨op, answer⟩ := event
  cases op with
  | clock | wallClock | call | race => exact h.push rfl
  | draw | start => exact h
  | memory op => exact absurd rfl (hop op)

/-- A step leaves it so if it changes the device in no slot that the handler works on. -/
theorem perform (h : stage.Shows m) (hperform : m.perform config now task op = some (answer, after))
    (hother : ∀ slot device events, stage = .handling slot device events →
      op.changes? ≠ some slot) : stage.Shows after := by
  intro slot device events hstage
  obtain ⟨s, hs, hshown⟩ := h slot device events hstage
  obtain ⟨later, hlater, hdevice⟩ :=
    Memory.device_of_perform hs hperform (hother slot device events hstage)
  exact ⟨later, hlater, hdevice ▸ hshown⟩

/-- A slot that has just been taken shows the counter of its device. -/
theorem take {device : Device}
    (hperform : m.perform config now task (.takeSlot slot) = some (device, after)) :
    (handling slot device []).Shows after := by
  intro other device events hstage
  obtain ⟨rfl, rfl, rfl⟩ := CallStage.handling.inj hstage
  obtain ⟨s, hs, -, rfl, rfl⟩ := Memory.takeSlot_eq hperform
  rw [Memory.getElem?_updateSlot, if_pos rfl, hs]
  exact ⟨_, rfl, rfl⟩

/-- A slot shows the counter that the handler has just announced there. -/
theorem announce {counter : UInt32} (h : stage.Shows m)
    (hperform : m.perform config now task (.announce slot counter) = some ((), after))
    (hown : ∀ other device events, stage = .handling other device events → other = slot) :
    (stage.push ⟨.announce counter, ()⟩).Shows after := by
  intro other device events hstage
  cases stage with
  | handling held found before =>
    obtain ⟨rfl, rfl, rfl⟩ := CallStage.handling.inj hstage
    obtain rfl := hown _ _ _ rfl
    obtain ⟨s, hs, -⟩ := h _ _ _ rfl
    obtain ⟨-, rfl⟩ := Prod.mk.inj (Option.some.inj hperform)
    rw [Memory.getElem?_updateSlot, if_pos rfl, hs]
    refine ⟨_, rfl, ?_⟩
    rw [announcedAfter_append]
    rfl
  | searching | lined | returned => cases hstage

end CallStage.Shows

end Stages

namespace ServerRun

section Shows

variable {net : Network} {history : List Moment} {σ : ServerState} {task performer : TaskId}
variable {activity : Activity} {op : MemoryOperation} {answer : op.Answer} {slot : SlotId}
variable {rest : op.Answer → Service Verdict} {after : Memory}

/-- Who changes the device in a slot holds the slot. -/
theorem holding_of_changes (run : ServerRun net history σ)
    (found : σ.jobs[performer]? = some ⟨activity, .perform (.memory op) rest⟩)
    (hchanges : op.changes? = some slot) :
    ∃ device acted, phaseOf performer history = .holding slot device acted := by
  have hfine := (run.invariant (Knowledge.sees_knowledge σ)).fine performer _ found
  cases op with
  | announce other counter =>
    obtain rfl := Option.some.inj hchanges
    obtain ⟨-, device, acted, _, hphase, -⟩ := hfine.keeps.1
    exact ⟨device, acted, hphase⟩
  | giveBack other returned =>
    obtain rfl := Option.some.inj hchanges
    obtain ⟨-, device, acted, _, _, hphase, -⟩ := hfine.keeps.1
    exact ⟨device, acted, hphase⟩
  | _ => cases hchanges

/-- The slot of a task goes on to show what its handler announced last as the task takes a step. -/
theorem shows_of_own (run : ServerRun net history σ)
    (found : σ.jobs[task]? = some ⟨activity, .perform (.memory op) rest⟩)
    (hperform : σ.memory.perform net.config σ.now task op = some (answer, after))
    (h : (callStage task history).Shows σ.memory) :
    ((callStage task history).next ⟨.memory op, answer⟩).Shows after := by
  cases op with
  | takeSlot slot => exact .take hperform
  | announce slot counter =>
    obtain ⟨device, acted, hphase⟩ := run.holding_of_changes found rfl
    refine h.announce hperform fun other found events hstage => ?_
    obtain ⟨acted', hholds⟩ := callStage_fits task history _ _ _ hstage
    obtain ⟨rfl, -, -⟩ := Phase.holding.inj (hphase.symm.trans hholds)
    rfl
  | lineUp | giveBack => exact fun _ _ _ hstage => by cases hstage
  | _ => exact h.perform hperform fun _ _ _ _ heq => by cases heq

/-- The slot of a task goes on to show what its handler announced last as others take a step: nobody
else changes the device in it. -/
theorem shows_of_other (run : ServerRun net history σ)
    (found : σ.jobs[performer]? = some ⟨activity, .perform (.memory op) rest⟩)
    (hperform : σ.memory.perform net.config σ.now performer op = some (answer, after))
    (hne : performer ≠ task) (h : (callStage task history).Shows σ.memory) :
    (callStage task history).Shows after := by
  refine h.perform hperform fun slot device events hstage hchanges => hne ?_
  obtain ⟨acted, hholds⟩ := callStage_fits task history _ _ _ hstage
  obtain ⟨device', acted', hphase⟩ := run.holding_of_changes found hchanges
  exact (run.invariant (Knowledge.sees_knowledge σ)).apart performer task slot device' device
    acted' acted hphase hholds

/-- While the handler works on a slot, the slot shows the counter that it announced last. -/
theorem shows (run : ServerRun net history σ) (task : TaskId) :
    (callStage task history).Shows σ.memory := by
  induction run with
  | boot now => exact fun _ _ _ hstage => by cases hstage
  | @step history moments σ next run step ih =>
    cases step with
    | wait | arrive | again =>
      rw [List.append_nil]
      exact ih
    | @perform performer activity op rest answer after found admitted =>
      rw [callStage_snoc]
      by_cases hmemory : ∃ step, op = .memory step
      · obtain ⟨step, rfl⟩ := hmemory
        by_cases htask : performer = task
        · subst htask
          rw [if_pos rfl]
          exact run.shows_of_own found admitted ih
        · rw [if_neg htask]
          exact run.shows_of_other found admitted htask ih
      · -- Nothing but a step on the memory changes it.
        have hsame : after = σ.memory := ServerState.memory_of_admits admitted rfl
          fun step _ hop _ => absurd ⟨step, hop⟩ hmemory
        show CallStage.Shows _ after
        rw [hsame]
        split
        · exact ih.next fun step hop => hmemory ⟨step, hop⟩
        · exact ih

/-- Who gives a slot back changes nothing that could be read there before. -/
theorem shows_of_giveBack {device : Device} {rest : Unit → Service Verdict}
    (run : ServerRun net history σ)
    (found : σ.jobs[task]? = some ⟨activity, .perform (.memory (.giveBack slot device)) rest⟩) :
    σ.memory.Shows slot device := by
  have hinvariant := run.invariant (Knowledge.sees_knowledge σ)
  obtain ⟨-, held, acted, uplink, settled, hphase, hdata, hsettled⟩ :=
    (hinvariant.fine task _ found).keeps.1
  obtain ⟨s, hs, -, -, hcard⟩ := hinvariant.holds hphase
  obtain ⟨taken, events, result, hstage, htrace⟩ := (run.keeps_calls found hdata).1
  obtain ⟨shown, hshown, hannounced⟩ := run.shows task slot taken events hstage
  obtain rfl := Option.some.inj (hs.symm.trans hshown)
  have hcall : Handling.Occurs net ⟨taken, uplink, events, device, result⟩ := htrace
  exact ⟨s, hs, hcard.trans hsettled.card.symm, hannounced.trans hcall.announced.symm⟩

end Shows

end ServerRun

/-! ## Free slots -/

/-- The device that a task took a slot with. -/
def Moment.taken? (m : Moment) : Option Device :=
  match m.event with
  | ⟨.memory (.takeSlot _), device⟩ => some device
  | _ => none

/-- What it means that a task took a slot with a device. -/
theorem Moment.event_of_taken {m : Moment} {device : Device} (h : m.taken? = some device) :
    ∃ slot, m.event = ⟨.memory (.takeSlot slot), device⟩ := by
  unfold Moment.taken? at h
  split at h
  · rename_i slot _ hevent
    exact ⟨slot, Option.some.inj h ▸ hevent⟩
  · cases h

/-- What it means that a task gave a slot back with a device. -/
theorem Moment.event_of_returned {m : Moment} {slot : SlotId} {task : TaskId} {device : Device}
    (h : m.returned? slot = some (task, device)) :
    m.task = task ∧ m.event = ⟨.memory (.giveBack slot device), ()⟩ := by
  unfold Moment.returned? at h
  split at h
  · rename_i other _ _ hevent
    split at h
    · rename_i hslot
      obtain ⟨rfl, rfl⟩ := Prod.mk.inj (Option.some.inj h)
      exact ⟨rfl, hslot ▸ hevent⟩
    · cases h
  · cases h

namespace ServerRun

variable {net : Network} {history : List Moment} {σ : ServerState} {m : Moment} {slot : SlotId}

/-- What happened in a run was a step from a state that the run came through. -/
theorem exists_step_of_mem (run : ServerRun net history σ) (hmem : m ∈ history) :
    ∃ before earlier later, ServerRun net before earlier ∧ earlier.Step net [m] later := by
  obtain ⟨before, after, rfl⟩ := List.append_of_mem hmem
  obtain ⟨earlier, later, hbefore, step, -⟩ := run.exists_step
  exact ⟨before, earlier, later, hbefore, step⟩

/-- A session that a slot is made with keeps nothing. -/
theorem confirmation_of_made (run : ServerRun net history σ) (hmem : m ∈ history)
    {session : Session} (hop : m.event.op = .memory (.newSlot session)) :
    session.confirmation = none := by
  obtain ⟨_, earlier, _, hbefore, step⟩ := run.exists_step_of_mem hmem
  obtain ⟨activity, rest, found, -⟩ := step.performs List.mem_cons_self
  have hfine := (hbefore.invariant (Knowledge.sees_knowledge earlier)).fine _ _ found
  obtain ⟨task, ⟨op, answer⟩, before, after⟩ := m
  obtain rfl : op = .memory (.newSlot session) := hop
  obtain ⟨⟨hpermits, -⟩, -⟩ := hfine.keeps
  exact hpermits

/-- The device in a slot is consistent while nobody holds the slot. -/
theorem consistent_of_free {s : Slot} (run : ServerRun net history σ)
    (hslot : σ.memory.slots[slot]? = some s) (hfree : s.held = false) : s.device.Consistent := by
  obtain ⟨session, calls, last, hcalls⟩ := run.exists_slotCalls hslot
  obtain ⟨m, hmem, handle, -, hevent⟩ := hcalls.made
  have hnone := run.confirmation_of_made hmem (congrArg Event.op hevent)
  rw [hcalls.free s hslot hfree]
  exact (hcalls.run.consistent (Device.consistent_ofSession hnone)).1

/-- Whoever takes a slot finds a consistent device in it. -/
theorem consistent_of_taken (run : ServerRun net history σ) (hmem : m ∈ history) {device : Device}
    (htaken : m.taken? = some device) : device.Consistent := by
  obtain ⟨_, earlier, _, hbefore, step⟩ := run.exists_step_of_mem hmem
  obtain ⟨_, _, -, admitted⟩ := step.performs List.mem_cons_self
  obtain ⟨task, event, before, after⟩ := m
  obtain ⟨slot, rfl⟩ := Moment.event_of_taken htaken
  obtain ⟨s, hfound, hfree, rfl, -⟩ := Memory.takeSlot_eq admitted
  exact hbefore.consistent_of_free hfound hfree

/-- Whoever gives a slot back leaves a consistent device in it, with the card and the counter that
could be read there before. -/
theorem consistent_of_returned (run : ServerRun net history σ) (hmem : m ∈ history)
    {task : TaskId} {device : Device} (hreturned : m.returned? slot = some (task, device)) :
    device.Consistent ∧ m.before.Shows slot device := by
  obtain ⟨_, earlier, later, hbefore, step⟩ := run.exists_step_of_mem hmem
  have hlater := hbefore.step step
  obtain ⟨performer, event, before, after⟩ := m
  obtain ⟨rfl, rfl⟩ := Moment.event_of_returned hreturned
  obtain ⟨activity, rest, found, admitted⟩ := step.performs List.mem_cons_self
  have hshows := hbefore.shows_of_giveBack found
  have ⟨s, hs, _⟩ := hshows
  have hsame : before = earlier.memory := by
    cases step
    rfl
  refine ⟨hlater.consistent_of_free (Memory.slots_giveBack hs admitted) rfl, ?_⟩
  rw [hsame]
  exact hshows

/-- Card, counter announced last and what is kept for repeats go by the session of a device while
nobody uses it. That holds before and after every call of a run on a device that was just loaded or
joined; and on a server, whatever runs side by side, it holds in every slot that is free, for every
uplink that takes one, and as soon as a slot is given back, which changes nothing that could be read
before. So no repeat ever finds an answer that was kept for another counter. -/
theorem consistent_while_free (net : Network) :
    (∀ (config : ServerConfig) (record : SessionRecord) (calls : List Handling) (last : Device),
      HandlingRun net (.ofSession (.ofRecord config record)) calls last →
        last.Consistent ∧ ∀ call ∈ calls, call.before.Consistent ∧ call.after.Consistent) ∧
      ∀ (history : List Moment) (σ : ServerState), ServerRun net history σ →
        (∀ (slot : SlotId) (s : Slot), σ.memory.slots[slot]? = some s → s.held = false →
          s.device.Consistent) ∧
        (∀ m ∈ history, ∀ device, m.taken? = some device → device.Consistent) ∧
        ∀ m ∈ history, ∀ slot task device, m.returned? slot = some (task, device) →
          device.Consistent ∧ m.before.Shows slot device := by
  refine ⟨fun config record calls last run => ?_, fun history σ run => ⟨?_, ?_, ?_⟩⟩
  · exact run.consistent (Device.consistent_ofSession rfl)
  · intro slot s hslot hfree
    exact run.consistent_of_free hslot hfree
  · intro m hmem device htaken
    exact run.consistent_of_taken hmem htaken
  · intro m hmem slot task device hreturned
    exact run.consistent_of_returned hmem hreturned

end ServerRun

/-- What happens to a server from its start is a run. -/
theorem ServerRun.of_play {net : Network} (moves : List ServerState.Move) :
    ServerRun net (ServerState.play net moves ([], { now := 0 })).1
      (ServerState.play net moves ([], { now := 0 })).2 :=
  (ServerRun.boot 0).reaches (.play moves .start)

namespace Sample

/-- A server at which a confirmed frame of the sample device arrives twice at once, after all its
tasks went on in turn until they were finished. -/
def heardTwice : List Moment × ServerState :=
  ServerState.play network
    [.arrive (.dispatch radioUplink), .arrive (.dispatch radioUplink),
      .turns storeAnswers (List.replicate 60 [0, 1, 2, 3]).flatten] ([], { now := 0 })

theorem run_heardTwice : ServerRun network heardTwice.1 heardTwice.2 := ServerRun.of_play _

end Sample

/-- A device sends five twice and then nine, and starts again at zero, which it sends twice as well:
it is consistent all the time. And where one frame arrives twice at once, its task and that of its
repeat each find a consistent device, the second with what the first kept under counter five, and
each gives the slot back when it already shows that counter. -/
theorem ServerRun.consistent_while_free_of_repeats :
    let calls := HandlingRun.answeredBy Sample.network (Sample.answers (.ok ())) Sample.device
      [Sample.uplink .confirmedDataUp 5, Sample.uplink .confirmedDataUp 5,
        Sample.uplink .unconfirmedDataUp 9, Sample.uplink .confirmedDataUp 0,
        Sample.uplink .confirmedDataUp 0]
    let taken := Sample.heardTwice.1.filterMap Moment.taken?
    (calls.map (Handling.verdict Sample.network) = [some (.accept 5), some (.resubmit 5),
        some (.accept 9), some (.reset 0), some (.resubmit 0)] ∧
      ∀ call ∈ calls, call.before.Consistent ∧ call.after.Consistent) ∧
    (taken.map (fun device => (device.announced,
        device.session.confirmation.map Confirmation.fcntUp)) = [(4, none), (5, some 5)] ∧
      ∀ device ∈ taken, device.Consistent) ∧
    ((Sample.heardTwice.1.filterMap (Moment.returned? 0)).map (fun returned =>
        (returned.1, returned.2.announced)) = [(0, 5), (1, 5)] ∧
      ∀ m ∈ Sample.heardTwice.1, ∀ task device, m.returned? 0 = some (task, device) →
        m.before.Shows 0 device) ∧
    ∃ s, Sample.heardTwice.2.memory.slots[0]? = some s ∧ s.held = false ∧
      s.device.announced = 5 ∧
      s.device.session.confirmation.map Confirmation.fcntUp = some 5 ∧ s.device.Consistent := by
  intro calls taken
  obtain ⟨last, hcalls⟩ := HandlingRun.exists_answeredBy Sample.network (Sample.answers (.ok ()))
    Sample.device [Sample.uplink .confirmedDataUp 5, Sample.uplink .confirmedDataUp 5,
      Sample.uplink .unconfirmedDataUp 9, Sample.uplink .confirmedDataUp 0,
      Sample.uplink .confirmedDataUp 0]
  obtain ⟨halone, hserver⟩ := ServerRun.consistent_while_free Sample.network
  obtain ⟨hfree, htaken, hreturned⟩ := hserver _ _ Sample.run_heardTwice
  have hslot : Sample.heardTwice.2.memory.slots[0]?.map (fun s => (s.held, s.device.announced,
      s.device.session.confirmation.map Confirmation.fcntUp)) = some (false, 5, some 5) := by
    decide +kernel
  refine ⟨⟨by decide +kernel, ?_⟩, ⟨by decide +kernel, ?_⟩, ⟨by decide +kernel, ?_⟩, ?_⟩
  · exact (halone {} Sample.record calls last hcalls).2
  · intro device hdevice
    obtain ⟨m, hmem, hm⟩ := List.mem_filterMap.mp hdevice
    exact htaken m hmem device hm
  · exact fun m hmem task device hm => (hreturned m hmem 0 task device hm).2
  · obtain ⟨s, hs, heq⟩ := Option.map_eq_some_iff.mp hslot
    obtain ⟨hheld, hannounced, hkept⟩ := by simpa only [Prod.mk.injEq] using heq
    exact ⟨s, hs, hheld, hannounced, hkept, hfree 0 s hs hheld⟩

end LoraNetwork
