import LoraNetwork.Proofs.Registry.Finding
import LoraNetwork.Proofs.Registry.Use

/-!
# How old a handle can be

A device is handed on from the index to the one who loads it, from there to the loader of its
address, to the address cache or a reply, and to the uplinks that line up for its slot. Handing it on
takes some time and the address cache keeps it for some time. So whoever lines up for a slot does so
for a device whose session was used in the index not long ago.
-/

namespace LoraNetwork

/-- A device was used in the index at a time, or before it by no more than some slack, or later. -/
def Recent (history : List TimedMoment) (handle : DeviceHandle) (time : Instant)
    (slack : Duration) : Prop :=
  ∃ d ∈ history, (∃ owner, d.moment.event.Uses owner handle) ∧ time ≤ d.time + (slack : Nat)

/-- A device was used in the index recently when a task did something. -/
def RecentFor (history : List TimedMoment) (task : TaskId) (handle : DeviceHandle)
    (slack : Duration) : Prop :=
  ∃ d ∈ history, d.moment.task = task ∧ Recent history handle d.time slack

/-- The operation hands devices on: an uplink lines up, an address is stored or a queue closed. -/
def ServerOperation.handsOn : ServerOperation → Bool
  | .memory (.lineUp _) | .memory (.storeAddress ..) | .memory (.closeQueue _) => true
  | _ => false

/-- Tasks hand devices on within some time of whatever they did before. -/
def Prompt (within : Duration) (history : List TimedMoment) : Prop :=
  ∀ first ∈ history, ∀ last ∈ history, first.moment.task = last.moment.task →
    last.moment.event.op.handsOn = true → last.time ≤ first.time + (within : Nat)

instance decidablePrompt (within : Duration) (history : List TimedMoment) :
    Decidable (Prompt within history) :=
  inferInstanceAs (Decidable (∀ first ∈ history, ∀ last ∈ history, _ → _ →
    last.time ≤ first.time + ((within : Nat) : Int)))

section Recent

variable {history rest : List TimedMoment} {handle : DeviceHandle} {time next : Instant}
variable {slack more : Duration} {task : TaskId}

/-- What was recent stays so as the history goes on. -/
theorem Recent.append (h : Recent history handle time slack) :
    Recent (history ++ rest) handle time slack := by
  obtain ⟨d, hd, hrest⟩ := h
  exact ⟨d, List.mem_append_left _ hd, hrest⟩

/-- A later time is as recent with more slack. -/
theorem Recent.later (h : Recent history handle time slack) (hle : next ≤ time + (more : Nat)) :
    Recent history handle next (slack + more) := by
  obtain ⟨d, hd, huses, htime⟩ := h
  refine ⟨d, hd, huses, ?_⟩
  unfold Instant Duration at *
  omega

theorem RecentFor.append (h : RecentFor history task handle slack) :
    RecentFor (history ++ rest) task handle slack := by
  obtain ⟨d, hd, htask, hrecent⟩ := h
  exact ⟨d, List.mem_append_left _ hd, htask, hrecent.append⟩

end Recent

/-! ## Steps -/

namespace Findings

variable {findings : Findings} {event : Event serverInterface} {handle : DeviceHandle}

/-- A device that a task gathered was gathered before, or has just been. -/
theorem gathered_next (h : handle ∈ (findings.next event).gathered) :
    handle ∈ findings.gathered ∨ ∃ loader count loads,
      event = ⟨.memory (.gather loader count), loads⟩ ∧ .loaded handle ∈ loads := by
  unfold next at h
  split at h
  case h_2 loads =>
    obtain ⟨load, hmem, hload⟩ := List.mem_filterMap.mp h
    refine .inr ⟨_, _, _, rfl, ?_⟩
    cases load with
    | loaded other =>
      obtain rfl := Option.some.inj hload
      exact hmem
    | skipped | failed => cases hload
  all_goals exact .inl h

/-- A device that a task found was found before, or in a cached address, or has just been named in a
reply. -/
theorem found_next (h : handle ∈ (findings.next event).found) :
    handle ∈ findings.found ∨
      (∃ addr handles, event = ⟨.memory (.lookUpAddress addr), some handles⟩ ∧ handle ∈ handles) ∨
        event = ⟨.memory .takeReply, .ok handle⟩ := by
  unfold next at h
  split at h
  case h_3 addr handles =>
    cases handles with
    | none => cases h
    | some handles => exact .inr (.inl ⟨addr, handles, rfl, h⟩)
  case h_4 resolution =>
    cases resolution with
    | error reason => cases h
    | ok named =>
      obtain rfl := List.mem_singleton.mp h
      exact .inr (.inr rfl)
  all_goals exact .inl h

end Findings

/-- A task that forgets nothing has forgotten nothing. -/
theorem forgot_of_kept {history : List Moment}
    (hkept : ∀ m ∈ history, ∀ other, m.event.op ≠ .memory (.forgetSession other)) (task : TaskId) :
    (findingsOf task history).forgot = false := by
  refine Contract.along_of_next (C := findingsRules) (fun findings => findings.forgot = false) rfl ?_
  intro m hmem findings hbefore
  have hother := hkept m hmem
  show (findings.next m.event).forgot = false
  unfold Findings.next
  split
  case h_5 other _ heq =>
    rw [heq] at hother
    exact absurd rfl (hother other)
  all_goals exact hbefore

namespace Memory

variable {config : ServerConfig} {now : Instant} {task : TaskId} {m after : Memory}

/-- An entry of an address was there before, or has just been stored. -/
theorem address_cases {op : MemoryOperation} {answer : op.Answer} {addr : DevAddr}
    {entry : Stamped (List DeviceHandle)} (h : m.perform config now task op = some (answer, after))
    (hentry : after.addresses.get? addr = some entry) :
    m.addresses.get? addr = some entry ∨
      ∃ handles, op = .storeAddress addr handles ∧ entry = ⟨handles, now⟩ := by
  cases op with
  | storeAddress other handles =>
    obtain ⟨-, rfl⟩ := Prod.mk.inj (Option.some.inj h)
    rcases get?_set_or hentry with ⟨rfl, rfl⟩ | hold
    · exact .inr ⟨handles, rfl, rfl⟩
    · exact .inl hold
  | forgetAddress other =>
    obtain ⟨-, rfl⟩ := Prod.mk.inj (Option.some.inj h)
    exact .inl (get?_of_erase hentry)
  | lookUpSession eui =>
    have hafter : after = (m.readIndex config now eui).2 :=
      (congrArg Prod.snd (Option.some.inj h)).symm
    rw [hafter] at hentry
    rcases readIndex_eq m config now eui with heq | ⟨_, -, heq⟩ <;> rw [heq] at hentry <;>
      exact .inl hentry
  | storeSession | forgetSession =>
    obtain ⟨-, rfl⟩ := Prod.mk.inj (Option.some.inj h)
    exact .inl hentry
  | _ => exact .inl ((caches_of_perform h rfl).1 ▸ hentry)

/-- The entry of an address that is alive is one of those kept, and young enough. -/
theorem address_of_addressEntry {addr : DevAddr} {handles : List DeviceHandle}
    (h : m.addressEntry config now addr = some handles) :
    ∃ entry, m.addresses.get? addr = some entry ∧ entry.value = handles ∧
      now < entry.since + (Duration.ofMillis config.addressLifetime : Nat) := by
  unfold addressEntry at h
  split at h
  · cases h
  · rename_i entry hentry
    split at h
    · rename_i halive
      exact ⟨entry, hentry, Option.some.inj h, halive⟩
    · cases h

end Memory

/-- A loader that gathers has done something. -/
theorem exists_moment_of_gathering {history : List Moment} {σ : ServerState} {task : TaskId}
    {loader : LoaderId} {addr : DevAddr} {count : Nat}
    (h : σ.roster history task = .gathering loader addr count) :
    ∃ m ∈ history, m.task = task := by
  refine Classical.byContradiction fun hnone => ?_
  unfold ServerState.roster at h
  split at h
  · cases h
  · rename_i job hjob
    rw [stageOf_eq_start fun m hmem htask => hnone ⟨m, hmem, htask⟩] at h
    cases hactivity : job.activity <;> rw [hactivity] at h <;> cases h

/-- A loader that gathers after a step did so before, or had asked the store. -/
theorem ServerRun.gathering_cases {net : Network} {history moments : List Moment}
    {σ next : ServerState} {task : TaskId} {loader : LoaderId} {addr : DevAddr} {count : Nat}
    (run : ServerRun net history σ) (step : σ.Step net moments next)
    (h : next.roster (history ++ moments) task = .gathering loader addr count) :
    σ.roster history task = .gathering loader addr count ∨
      σ.roster history task = .asked loader addr := by
  have hmoved := run.moved step task
  generalize hstage : next.roster (history ++ moments) task = stage at hmoved
  rw [hstage] at h
  cases hmoved with
  | kept => exact .inl h
  | performed found admitted performed =>
    have hallows := (run.loading.jobs task _ found).rules.1
    exact (Stage.gathering_of_next hallows h).imp_right And.left
  | @begun starter activity begun =>
    cases hbegun : begun <;> rw [hbegun] at h <;> cases h

/-! ## What is handed on is recent -/

/-- How recent the devices are that are handed on, at every moment of a run. -/
structure TimedRun.Lease (net : Network) (within : Duration) (history : List TimedMoment)
    (σ : ServerState) : Prop where
  /-- A candidate that was loaded is recent for the loader that gathers it. -/
  entered : ∀ task loader place addr eui handle, σ.LoadsCandidate task loader place addr eui →
    candidateStage addr task (untimed history) = .known (.loaded handle) →
      ∀ gatherer used count, σ.roster (untimed history) gatherer = .gathering loader used count →
        RecentFor history gatherer handle 0
  /-- So is one that the loader was told of. -/
  told : ∀ loader place handle, σ.memory.Told loader place (.loaded handle) →
    ∀ gatherer used count, σ.roster (untimed history) gatherer = .gathering loader used count →
      RecentFor history gatherer handle 0
  /-- What a loader has gathered is recent for it. -/
  gathered : ∀ task, ∀ handle ∈ (findingsOf task (untimed history)).gathered,
    RecentFor history task handle 0
  /-- What is cached under an address was recent when it was stored. -/
  cached : ∀ addr entry, σ.memory.addresses.get? addr = some entry → ∀ handle ∈ entry.value,
    Recent history handle entry.since within
  /-- A task that waits for a loader has done something. -/
  waits : ∀ loader task frame, σ.memory.Waits loader task frame →
    ∃ d ∈ history, d.moment.task = task
  /-- A task that a loader will answer did something before the loader had done anything, or soon
  afterwards. -/
  hand : ∀ task waiter frame, (waiter, frame) ∈ (σ.roster (untimed history) task).hand →
    ∃ d ∈ history, d.moment.task = waiter ∧ ∀ other ∈ history, other.moment.task = task →
      d.time ≤ other.time + (within : Nat)
  /-- A device that is named in a reply is recent for the task that will take it. -/
  replied : ∀ task handle, σ.memory.replies.get? task = some (.ok handle) →
    RecentFor history task handle within
  /-- A device that a task found is recent for it, but for the time that an address is cached. -/
  found : ∀ task, ∀ handle ∈ (findingsOf task (untimed history)).found,
    RecentFor history task handle (within + Duration.ofMillis net.config.addressLifetime)
  /-- Whoever lines up does so for a device that was used before and is recent. -/
  lined : ∀ d ∈ history, ∀ slot, d.moment.event.op = .memory (.lineUp slot) →
    ∃ handle, handle.slot = slot ∧ ∃ x ∈ history, (∃ owner, x.moment.event.Uses owner handle) ∧
      x.time ≤ d.time ∧
        d.time ≤ x.time + ((within + Duration.ofMillis net.config.addressLifetime + within : Nat))

namespace TimedRun.Lease

variable {net : Network} {within : Duration} {history : List TimedMoment} {moments : List Moment}
variable {σ next : ServerState} {task : TaskId} {handle : DeviceHandle}

theorem boot (now : Instant) : Lease net within [] { now := now } where
  entered _ _ _ _ _ _ h := by obtain ⟨_, hjob, -⟩ := h; cases hjob
  told _ _ _ h := by obtain ⟨_, hqueue, -⟩ := h; cases hqueue
  gathered _ _ h := nomatch h
  cached _ _ h := by cases h
  waits _ _ _ h := by obtain ⟨_, hqueue, -⟩ := h; cases hqueue
  hand _ _ _ h := by cases h
  replied _ _ h := by cases h
  found _ _ h := nomatch h
  lined _ h := nomatch h

/-! ### Loading -/

/-- A candidate that has just been loaded is recent for the loader that gathers it. -/
theorem entered_step (h : Lease net within history σ) (timed : TimedRun net history σ)
    (step : σ.Step net moments next) {loader : LoaderId} {place : Nat}
    {addr used : DevAddr} {eui : Eui64} {gatherer : TaskId} {count : Nat}
    (hloads : next.LoadsCandidate task loader place addr eui)
    (hknown : candidateStage addr task (untimed history ++ moments) = .known (.loaded handle))
    (hgathers : next.roster (untimed history ++ moments) gatherer = .gathering loader used count) :
    RecentFor (history ++ moments.map (TimedMoment.mk σ.now)) gatherer handle 0 := by
  have run := timed.run
  rcases run.candidate_cases step hloads with
    ⟨-, hfresh⟩ | ⟨hbefore, hcases⟩
  · rw [hfresh] at hknown
    cases hknown
  · rcases run.gathering_cases step hgathers with hgathering | hasked
    · rcases hcases with ⟨hsame, -⟩ | ⟨event, before, rfl, hgoes⟩
      · rw [hsame] at hknown
        exact (h.entered task loader place addr eui handle hbefore hknown gatherer used count
          hgathering).append
      · -- The loader had done something before the candidate was found.
        obtain ⟨m, hmem, htask⟩ := exists_moment_of_gathering hgathering
        obtain ⟨d, hd, rfl⟩ := mem_untimed.mp hmem
        have hnow : ∀ owner, event.Uses owner handle →
            RecentFor (history ++ [⟨σ.now, ⟨task, event, before, next.memory⟩⟩]) gatherer handle
              0 := by
          intro owner huses
          refine ⟨d, List.mem_append_left _ hd, htask, _,
            List.mem_append_right _ List.mem_cons_self, ⟨owner, huses⟩, ?_⟩
          exact Int.le_trans (timed.time_le d hd) (Int.le_of_eq (Int.add_zero _).symm)
        generalize candidateStage addr task (untimed history ++ _) = reached at hgoes hknown
        generalize candidateStage addr task (untimed history) = stage at hgoes
        cases hgoes with
        | looked found => exact hnow eui ⟨rfl, CandidateStage.lookUp_eq_loaded hknown⟩
        | asked deadline answer => exact absurd hknown CandidateStage.fetch_ne_loaded
        | entered record stored =>
          obtain rfl := CandidateLoad.loaded.inj (CandidateStage.known.inj hknown)
          exact hnow eui ⟨rfl, rfl⟩
        | timed | slotted | reported => cases hknown
    · obtain ⟨job, hjob, hactivity⟩ := hbefore
      have horigins := run.origins
      refine absurd ?_ (horigins.fresh gatherer loader (by rw [hasked]; rfl))
      exact horigins.candidates task job loader place addr eui hjob hactivity

/-- A candidate that a loader has just been told of is recent for it. -/
theorem told_step (h : Lease net within history σ) (run : ServerRun net (untimed history) σ)
    (hdata : σ.OnlyData) (step : σ.Step net moments next) {loader : LoaderId}
    {place : Nat} {used : DevAddr} {gatherer : TaskId} {count : Nat}
    (htold : next.memory.Told loader place (.loaded handle))
    (hgathers : next.roster (untimed history ++ moments) gatherer = .gathering loader used count) :
    RecentFor (history ++ moments.map (TimedMoment.mk σ.now)) gatherer handle 0 := by
  have horigins := run.origins
  have hcases : σ.memory.Told loader place (.loaded handle) ∨ ∃ teller addr eui,
      σ.LoadsCandidate teller loader place addr eui ∧
        candidateStage addr teller (untimed history) = .known (.loaded handle) := by
    rcases step.memory_cases with ⟨hsame, -⟩ | ⟨teller, op, answer, rfl, hperform⟩
    · exact .inl (hsame ▸ htold)
    · rcases (Memory.queueChange_of_perform hperform).told_cases htold with hold | rfl
      · exact .inl hold
      · obtain ⟨activity, rest, found, -⟩ := step.performs List.mem_cons_self
        rcases hdata.cases found with hfinds | ⟨one, spot, addr, eui, rfl⟩
        · exact (run.keeps_findings found hfinds).1.elim
        · obtain ⟨rfl, rfl, hknown⟩ := (run.keeps_candidate found rfl).1
          exact .inr ⟨teller, addr, eui, ⟨_, found, rfl⟩, hknown⟩
  rcases run.gathering_cases step hgathers with hgathering | hasked
  · rcases hcases with hold | ⟨teller, addr, eui, hloads, hknown⟩
    · exact (h.told loader place handle hold gatherer used count hgathering).append
    · exact (h.entered teller loader place addr eui handle hloads hknown gatherer used count
        hgathering).append
  · refine absurd ?_ (horigins.fresh gatherer loader (by rw [hasked]; rfl))
    rcases hcases with hold | ⟨teller, addr, eui, ⟨job, hjob, hactivity⟩, -⟩
    · exact horigins.told loader place _ hold
    · exact horigins.candidates teller job loader place addr eui hjob hactivity

/-- A device that a loader has just gathered is recent for it. -/
theorem gathered_step (h : Lease net within history σ) (run : ServerRun net (untimed history) σ)
    (step : σ.Step net moments next)
    (hmem : handle ∈ (findingsOf task (untimed history ++ moments)).gathered) :
    RecentFor (history ++ moments.map (TimedMoment.mk σ.now)) task handle 0 := by
  rcases step.along_cases findingsRules {} (untimed history) task with
    ⟨hsame, -⟩ | ⟨m, rfl, rfl, hnext⟩
  · rw [findingsOf, hsame] at hmem
    exact (h.gathered task handle hmem).append
  · rw [findingsOf, hnext] at hmem
    rcases Findings.gathered_next hmem with hold | ⟨loader, count, loads, hevent, hload⟩
    · exact (h.gathered m.task handle hold).append
    · obtain ⟨activity, rest, found, admitted⟩ := step.performs List.mem_cons_self
      obtain ⟨task, event, before, after⟩ := m
      obtain rfl : event = _ := hevent
      obtain ⟨addr, hgathers⟩ := (run.loading.jobs task _ found).rules.1
      obtain ⟨gathered, hgathered, heq⟩ := Option.map_eq_some_iff.mp admitted
      obtain ⟨rfl, -⟩ := Prod.mk.inj heq
      obtain ⟨place, htold⟩ := Memory.told_of_gathered hgathered hload
      exact (h.told loader place handle htold task addr count hgathers).append

/-! ### Handing on -/

/-- What has just been stored under an address is recent. -/
theorem cached_step (h : Lease net within history σ) (run : ServerRun net (untimed history) σ)
    (hdata : σ.OnlyData) (step : σ.Step net moments next)
    (hkept : ∀ m ∈ untimed history, ∀ other, m.event.op ≠ .memory (.forgetSession other))
    (hprompt : Prompt within (history ++ moments.map (TimedMoment.mk σ.now))) {addr : DevAddr}
    {entry : Stamped (List DeviceHandle)} (hentry : next.memory.addresses.get? addr = some entry)
    (hmem : handle ∈ entry.value) :
    Recent (history ++ moments.map (TimedMoment.mk σ.now)) handle entry.since within := by
  rcases step.memory_cases with ⟨hsame, -⟩ | ⟨performer, op, answer, rfl, hperform⟩
  · exact (h.cached addr entry (hsame ▸ hentry) handle hmem).append
  · rcases Memory.address_cases hperform hentry with hold | ⟨handles, rfl, rfl⟩
    · exact (h.cached addr entry hold handle hmem).append
    · obtain ⟨activity, rest, found, -⟩ := step.performs List.mem_cons_self
      rcases hdata.cases found with hfinds | ⟨loader, place, used, eui, rfl⟩
      · have hgathered := ((run.keeps_findings found hfinds).1.resolve_right (by
          rw [forgot_of_kept hkept]
          exact Bool.false_ne_true)) handle hmem
        obtain ⟨d, hd, htask, hrecent⟩ := h.gathered performer handle hgathered
        have hle := hprompt d (List.mem_append_left _ hd) _
          (List.mem_append_right _ List.mem_cons_self) htask rfl
        have hlater := hrecent.later hle
        rw [Nat.zero_add] at hlater
        exact hlater.append
      · exact (run.keeps_candidate found rfl).1.elim

/-- A task that waits for a loader goes on to have done something. -/
theorem waits_step (h : Lease net within history σ) (step : σ.Step net moments next)
    {loader : LoaderId} {frame : DataFrame} (hwaits : next.memory.Waits loader task frame) :
    ∃ d ∈ history ++ moments.map (TimedMoment.mk σ.now), d.moment.task = task := by
  have hold : σ.memory.Waits loader task frame →
      ∃ d ∈ history ++ moments.map (TimedMoment.mk σ.now), d.moment.task = task := by
    intro hbefore
    obtain ⟨d, hd, htask⟩ := h.waits loader task frame hbefore
    exact ⟨d, List.mem_append_left _ hd, htask⟩
  rcases step.memory_cases with ⟨hsame, -⟩ | ⟨performer, op, answer, rfl, hperform⟩
  · exact hold (hsame ▸ hwaits)
  · rcases (Memory.queueChange_of_perform hperform).waits hwaits with hbefore | ⟨rfl, -⟩
    · exact hold hbefore
    · exact ⟨_, List.mem_append_right _ List.mem_cons_self, rfl⟩

/-- A task that a loader has just taken out of its queue did something soon after the loader did. -/
theorem hand_step (h : Lease net within history σ) (timed : TimedRun net history σ)
    (step : σ.Step net moments next)
    (hprompt : Prompt within (history ++ moments.map (TimedMoment.mk σ.now))) {waiter : TaskId}
    {frame : DataFrame}
    (hhand : (waiter, frame) ∈ (next.roster (untimed history ++ moments) task).hand) :
    ∃ d ∈ history ++ moments.map (TimedMoment.mk σ.now), d.moment.task = waiter ∧
      ∀ other ∈ history ++ moments.map (TimedMoment.mk σ.now), other.moment.task = task →
        d.time ≤ other.time + (within : Nat) := by
  have run := timed.run
  have hold : (waiter, frame) ∈ (σ.roster (untimed history) task).hand →
      ∃ d ∈ history ++ moments.map (TimedMoment.mk σ.now), d.moment.task = waiter ∧
        ∀ other ∈ history ++ moments.map (TimedMoment.mk σ.now), other.moment.task = task →
          d.time ≤ other.time + (within : Nat) := by
    intro hbefore
    obtain ⟨d, hd, htask, hsoon⟩ := h.hand task waiter frame hbefore
    refine ⟨d, List.mem_append_left _ hd, htask, fun other hother hsame => ?_⟩
    rcases List.mem_append.mp hother with hearlier | hnew
    · exact hsoon other hearlier hsame
    · obtain ⟨m, -, rfl⟩ := List.mem_map.mp hnew
      exact Int.le_trans (timed.time_le d hd) (Int.le_add_of_nonneg_right (Int.natCast_nonneg _))
  generalize hstage : next.roster (untimed history ++ moments) task = stage at hhand
  have hmoved := run.moved step task
  rw [hstage] at hmoved
  cases hmoved with
  | kept still => exact hold hhand
  | @performed activity op rest answer after found admitted performed =>
    rcases Stage.hand_of_next hhand with hbefore | ⟨loader, frames, hevent, hmem⟩
    · exact hold hbefore
    · cases hevent
      subst performed
      obtain ⟨hframes, -⟩ := Prod.mk.inj (Option.some.inj admitted)
      cases hqueue : σ.memory.queues[loader]? with
      | none =>
        rw [← hframes, hqueue] at hmem
        cases hmem
      | some queue =>
        rw [← hframes, hqueue] at hmem
        obtain ⟨d, hd, htask⟩ := h.waits loader waiter frame ⟨queue, hqueue, hmem⟩
        refine ⟨d, List.mem_append_left _ hd, htask, fun other hother hsame => ?_⟩
        have hle := hprompt other hother _ (List.mem_append_right _ List.mem_cons_self) hsame rfl
        exact Int.le_trans (timed.time_le d hd) hle
  | begun found performed listed =>
    rcases run.starts found with ⟨_, _, -, rfl⟩ | ⟨_, _, candidates, -, rfl⟩
    · obtain rfl := List.mem_singleton.mp (List.mem_of_getElem? listed)
      cases hhand
    · rw [Service.stage_of_candidate listed] at hhand
      cases hhand

/-- A device that has just been named in a reply is recent for the task that will take it. -/
theorem replied_step (h : Lease net within history σ) (run : ServerRun net (untimed history) σ)
    (hdata : σ.OnlyData) (step : σ.Step net moments next)
    (hreply : next.memory.replies.get? task = some (.ok handle)) :
    RecentFor (history ++ moments.map (TimedMoment.mk σ.now)) task handle within := by
  rcases step.memory_cases with ⟨hsame, -⟩ | ⟨performer, op, answer, rfl, hperform⟩
  · exact (h.replied task handle (hsame ▸ hreply)).append
  · rcases Memory.reply_of_perform hperform hreply with hold | rfl
    · exact (h.replied task handle hold).append
    · obtain ⟨activity, rest, found, -⟩ := step.performs List.mem_cons_self
      obtain ⟨frame, others, hanswering⟩ := (run.loading.jobs performer _ found).rules.1
      rcases hdata.cases found with hfinds | ⟨loader, place, used, eui, rfl⟩
      · have hgathered := (run.keeps_findings found hfinds).1 handle rfl
        obtain ⟨other, hother, hsame, hrecent⟩ := h.gathered performer handle hgathered
        obtain ⟨d, hd, htask, hsoon⟩ := h.hand performer task frame (by
          rw [hanswering]
          exact List.mem_cons_self)
        have hlater := hrecent.later (hsoon other hother hsame)
        rw [Nat.zero_add] at hlater
        exact ⟨d, List.mem_append_left _ hd, htask, hlater.append⟩
      · exact (run.keeps_candidate found rfl).1.elim

/-- A device that a task has just found is recent for it. -/
theorem found_step (h : Lease net within history σ) (step : σ.Step net moments next)
    (hmem : handle ∈ (findingsOf task (untimed history ++ moments)).found) :
    RecentFor (history ++ moments.map (TimedMoment.mk σ.now)) task handle
      (within + Duration.ofMillis net.config.addressLifetime) := by
  rcases step.along_cases findingsRules {} (untimed history) task with
    ⟨hsame, -⟩ | ⟨m, rfl, rfl, hnext⟩
  · rw [findingsOf, hsame] at hmem
    exact (h.found task handle hmem).append
  · rw [findingsOf, hnext] at hmem
    obtain ⟨activity, rest, found, admitted⟩ := step.performs List.mem_cons_self
    obtain ⟨task, event, before, after⟩ := m
    rcases Findings.found_next hmem with hold | ⟨addr, handles, hevent, hlisted⟩ | hevent
    · exact (h.found task handle hold).append
    · obtain rfl : event = _ := hevent
      obtain ⟨hentry, -⟩ := Prod.mk.inj (Option.some.inj admitted)
      obtain ⟨entry, hget, rfl, halive⟩ := Memory.address_of_addressEntry hentry
      have hrecent := (h.cached addr entry hget handle hlisted).later (Int.le_of_lt halive)
      exact ⟨_, List.mem_append_right _ List.mem_cons_self, rfl, hrecent.append⟩
    · obtain rfl : event = _ := hevent
      simp only [ServerState.Admits, Memory.perform] at admitted
      split at admitted
      · cases admitted
      · rename_i resolution hreply
        obtain ⟨rfl, -⟩ := Prod.mk.inj (Option.some.inj admitted)
        obtain ⟨d, hd, htask, hrecent⟩ := h.replied task handle hreply
        have hle : d.time ≤ d.time + ((Duration.ofMillis net.config.addressLifetime : Nat) : Int) :=
          Int.le_add_of_nonneg_right (Int.natCast_nonneg _)
        exact ⟨d, List.mem_append_left _ hd, htask, (hrecent.later hle).append⟩

/-- Whoever has just lined up does so for a device that was used before and is recent. -/
theorem lined_step (h : Lease net within history σ) (timed : TimedRun net history σ)
    (hdata : σ.OnlyData) (step : σ.Step net moments next)
    (hprompt : Prompt within (history ++ moments.map (TimedMoment.mk σ.now))) {d : TimedMoment}
    (hd : d ∈ history ++ moments.map (TimedMoment.mk σ.now)) {slot : SlotId}
    (hop : d.moment.event.op = .memory (.lineUp slot)) :
    ∃ handle, handle.slot = slot ∧ ∃ x ∈ history ++ moments.map (TimedMoment.mk σ.now),
      (∃ owner, x.moment.event.Uses owner handle) ∧ x.time ≤ d.time ∧
        d.time ≤
          x.time + ((within + Duration.ofMillis net.config.addressLifetime + within : Nat)) := by
  rcases List.mem_append.mp hd with hold | hnew
  · obtain ⟨handle, hslot, x, hx, hrest⟩ := h.lined d hold slot hop
    exact ⟨handle, hslot, x, List.mem_append_left _ hx, hrest⟩
  · obtain ⟨m, hmem, rfl⟩ := List.mem_map.mp hnew
    obtain ⟨activity, rest, found, -⟩ := step.performs hmem
    obtain ⟨task, ⟨op, answer⟩, before, after⟩ := m
    obtain rfl : op = .memory (.lineUp slot) := hop
    rcases hdata.cases found with hfinds | ⟨loader, place, used, eui, rfl⟩
    · obtain ⟨handle, hfound, hslot⟩ := (timed.run.keeps_findings found hfinds).1
      obtain ⟨first, hfirst, htask, hrecent⟩ := h.found task handle hfound
      have hle := hprompt first (List.mem_append_left _ hfirst) _ hd htask rfl
      obtain ⟨x, hx, huses, htime⟩ := hrecent.later hle
      exact ⟨handle, hslot, x, List.mem_append_left _ hx, huses, timed.time_le x hx, htime⟩
    · exact (timed.run.keeps_candidate found rfl).1.elim

/-- How recent the devices are that are handed on survives every step. -/
theorem step (h : Lease net within history σ) (timed : TimedRun net history σ)
    (hdata : σ.OnlyData) (step : σ.Step net moments next)
    (hkept : ∀ m ∈ untimed history, ∀ other, m.event.op ≠ .memory (.forgetSession other))
    (hprompt : Prompt within (history ++ moments.map (TimedMoment.mk σ.now))) :
    Lease net within (history ++ moments.map (TimedMoment.mk σ.now)) next where
  entered _ _ _ _ _ _ hloads hknown _ _ _ hgathers := by
    rw [untimed_append, untimed_map] at hknown hgathers
    exact h.entered_step timed step hloads hknown hgathers
  told _ _ _ htold _ _ _ hgathers := by
    rw [untimed_append, untimed_map] at hgathers
    exact h.told_step timed.run hdata step htold hgathers
  gathered _ _ hmem := by
    rw [untimed_append, untimed_map] at hmem
    exact h.gathered_step timed.run step hmem
  cached _ _ hentry _ hmem := h.cached_step timed.run hdata step hkept hprompt hentry hmem
  waits _ _ _ hwaits := h.waits_step step hwaits
  hand _ _ _ hhand := by
    rw [untimed_append, untimed_map] at hhand
    exact h.hand_step timed step hprompt hhand
  replied _ _ hreply := h.replied_step timed.run hdata step hreply
  found _ _ hmem := by
    rw [untimed_append, untimed_map] at hmem
    exact h.found_step step hmem
  lined _ hd _ hop := h.lined_step timed hdata step hprompt hd hop

end TimedRun.Lease

/-- Devices that are handed on are recent at every moment of an undisturbed run in which they are
handed on in time. -/
theorem TimedRun.lease {net : Network} {eui : Eui64} {addr : DevAddr} {idle within : Duration}
    {history : List TimedMoment} {σ : ServerState} (timed : TimedRun net history σ)
    (hcalm : Undisturbed net.config eui addr idle (untimed history) σ)
    (hprompt : Prompt within history) : Lease net within history σ := by
  induction timed with
  | boot now => exact .boot now
  | step timed step ih =>
    rw [untimed_append, untimed_map] at hcalm
    have hbefore := hcalm.of_step step
    refine (ih hbefore ?_).step timed hbefore.data step hbefore.kept hprompt
    exact fun first hfirst last hlast =>
      hprompt first (List.mem_append_left _ hfirst) last (List.mem_append_left _ hlast)

end LoraNetwork
