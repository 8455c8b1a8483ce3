import LoraNetwork.Proofs.Registry.Lease
import LoraNetwork.Proofs.Registry.Orderly
import LoraNetwork.Proofs.Registry.Resolved
import LoraNetwork.Proofs.Registry.Storing

/-!
# Well formed entries

Whatever tasks do side by side, an address has an entry only for devices that use it, each of them
once and at least one, and the session in the index of a device is one of that device. It hangs on
the store: it must list no device twice, and answer with the record of the device that it was asked
for. A loader that publishes what it gathered relies on both, as each of its candidates is another
device of the store's list, loaded for the loader's address by a task of its own.
-/

namespace LoraNetwork

/-- The device that a handle stands for is in its slot. -/
def Memory.Backs (m : Memory) (handle : DeviceHandle) : Prop :=
  ∃ slot, m.slots[handle.slot]? = some slot ∧ slot.device.card = handle.card

/-- The entries of the caches are well formed. -/
structure Memory.WellFormed (m : Memory) : Prop where
  /-- An address has an entry for some devices. -/
  inhabited : ∀ addr entry, m.addresses.get? addr = some entry → entry.value ≠ []
  /-- They are devices of the address, each of them once. -/
  residents : ∀ addr entry, m.addresses.get? addr = some entry → Residents addr entry.value
  /-- The session of a device is one of that device. -/
  own : ∀ eui entry, m.index.get? eui = some entry → entry.value.card.devEui = eui

/-- The devices that the caches name are there, and are what they are named. -/
structure Memory.Backed (m : Memory) : Prop where
  /-- The devices of an address. -/
  addresses : ∀ addr entry, m.addresses.get? addr = some entry →
    ∀ handle ∈ entry.value, m.Backs handle
  /-- The sessions of devices. -/
  index : ∀ eui entry, m.index.get? eui = some entry → m.Backs entry.value

/-- The store answered with the record of the device that it was asked for. -/
def Event.fetchesOwn : Event serverInterface → Prop
  | ⟨.race (.fetchSession eui) _, some (.ok (some record))⟩ => record.devEui = eui
  | _ => True

/-- The store answers with records of the devices that it is asked for. -/
def FetchesOwn (history : List Moment) : Prop := ∀ m ∈ history, m.event.fetchesOwn

/-! ## Entries -/

namespace Memory

variable {config : ServerConfig} {now : Instant} {task : TaskId} {m after : Memory}
variable {op : MemoryOperation} {answer : op.Answer} {activity : Activity}

theorem wellFormed_empty : WellFormed {} where
  inhabited _ _ h := by cases h
  residents _ _ h := by cases h
  own _ _ h := by cases h

/-- The entries stay well formed if only such are stored. -/
theorem WellFormed.perform (h : m.WellFormed) (hstores : activity.StoresWell (.memory op))
    (hperform : m.perform config now task op = some (answer, after)) : after.WellFormed := by
  have haddress : ∀ addr entry, after.addresses.get? addr = some entry →
      entry.value ≠ [] ∧ Residents addr entry.value := by
    intro addr entry hentry
    rcases address_cases hperform hentry with hold | ⟨handles, rfl, rfl⟩
    · exact ⟨h.inhabited addr entry hold, h.residents addr entry hold⟩
    · exact hstores
  refine ⟨fun addr entry hentry => (haddress addr entry hentry).1,
    fun addr entry hentry => (haddress addr entry hentry).2, fun eui entry hentry => ?_⟩
  rcases index_cases hperform (congrArg (Option.map Stamped.value) hentry) with hold | rfl
  · obtain ⟨former, hformer, heq⟩ := Option.map_eq_some_iff.mp hold
    rw [← heq]
    exact h.own eui former hformer
  · exact hstores

end Memory

/-! ## Candidates -/

namespace ServerRun

variable {net : Network} {history : List Moment} {σ : ServerState} {loader : LoaderId}

/-- A candidate is loaded for the address that its loader was made known for. -/
theorem founded_of_candidate (run : ServerRun net history σ) {task : TaskId} {place : Nat}
    {addr : DevAddr} {eui : Eui64} (h : σ.LoadsCandidate task loader place addr eui) :
    Founded history loader addr := by
  induction run with
  | boot now => obtain ⟨_, hjob, -⟩ := h; cases hjob
  | @step history moments σ next run step ih =>
    refine founded_append.mpr (.inl ?_)
    rcases run.loadsCandidate_cases step h with hold | ⟨starter, hnew⟩
    · exact ih hold
    · have hknown := run.loading.fits.tied.known starter addr loader (by rw [hnew.asked]; rfl)
      exact run.origins.known addr loader hknown

end ServerRun

/-- What holds of a server at every moment of a run. -/
structure ServerState.Curated (σ : ServerState) : Prop where
  /-- The entries are well formed. -/
  entries : σ.memory.WellFormed
  /-- What a loader was told of a candidate is the device that a task loads for it. -/
  told : ∀ loader place handle, σ.memory.Told loader place (.loaded handle) →
    ∃ task, σ.LoadsCandidate task loader place handle.card.devAddr handle.card.devEui
  /-- What is left of every task keeps the rules for what it stores. -/
  jobs : ∀ (task : TaskId) (job : Job), σ.jobs[task]? = some job →
    job.activity.StoresIn job.rest fun _ => True

namespace ServerState.Curated

variable {net : Network} {history moments : List Moment} {σ next : ServerState} {task : TaskId}
variable {activity : Activity}

theorem boot (now : Instant) : Curated { now := now } where
  entries := Memory.wellFormed_empty
  told _ _ _ h := by obtain ⟨_, hqueue, -⟩ := h; cases hqueue
  jobs _ _ h := by cases h

/-- What a loader gathers are devices of its address, each of them once. -/
theorem residents_of_gathered (h : σ.Curated) (run : ServerRun net history σ)
    (honce : ListsOnce history) {loader : LoaderId} {addr : DevAddr} {rest : Service Verdict}
    (found : σ.jobs[task]? = some ⟨.loadAddress loader addr, rest⟩) {count : Nat}
    {loads : List CandidateLoad} (hgathered : σ.memory.gathered loader count = some loads) :
    Residents addr (loads.filterMap Service.handleOf) := by
  have hloaded : ∀ place load handle, loads[place]? = some load →
      Service.handleOf load = some handle →
        ∃ teller, σ.LoadsCandidate teller loader place handle.card.devAddr handle.card.devEui := by
    intro place load handle hload hhandle
    refine h.told loader place handle (Memory.told_at_of_gathered hgathered ?_)
    cases load with
    | loaded other => rw [hload, Option.some.inj hhandle]
    | skipped | failed => cases hhandle
  have horigins := run.origins
  constructor
  · intro handle hmem
    obtain ⟨load, hload, hhandle⟩ := List.mem_filterMap.mp hmem
    obtain ⟨place, hplace⟩ := List.mem_iff_getElem?.mp hload
    obtain ⟨teller, hteller⟩ := hloaded place load handle hplace hhandle
    exact horigins.one loader _ _ (run.founded_of_candidate hteller)
      (horigins.loads task _ loader addr found rfl)
  · -- Two candidates of one device would be at one place.
    rw [List.Nodup, List.pairwise_map, List.pairwise_filterMap, List.pairwise_iff_getElem]
    intro i j hi hj hlt one hone two htwo hsame
    obtain ⟨_, hfirst⟩ := hloaded i _ one (List.getElem?_eq_getElem hi) hone
    obtain ⟨_, hsecond⟩ := hloaded j _ two (List.getElem?_eq_getElem hj) htwo
    rw [← hsame] at hsecond
    exact Nat.ne_of_lt hlt ((run.candidacy honce).listed _ _ _ _ _ _ _ _ hfirst hsecond)

/-- What a task is answered is as it may count on. -/
theorem answersWell (h : σ.Curated) (run : ServerRun net history σ) (honce : ListsOnce history)
    {op : ServerOperation} {answer : op.Answer} {after : Memory} {rest : Service Verdict}
    (found : σ.jobs[task]? = some ⟨activity, rest⟩)
    (admitted : σ.Admits net task op answer after) (hown : (Event.mk op answer).fetchesOwn) :
    activity.AnswersWell op answer := by
  cases op with
  | clock | wallClock | draw | call | start => trivial
  | race request deadline =>
    cases request with
    | fetchSession eui =>
      rintro record rfl
      exact hown
    | _ => trivial
  | memory op =>
    cases op with
    | lookUpAddress addr =>
      rintro handles rfl
      obtain ⟨hentry, -⟩ := Prod.mk.inj (Option.some.inj admitted)
      obtain ⟨entry, hstored, rfl, -⟩ := Memory.address_of_addressEntry hentry
      exact h.entries.residents addr entry hstored
    | lookUpSession eui =>
      rintro known rfl
      have hread := congrArg Prod.fst (Option.some.inj admitted)
      rcases Memory.readIndex_eq σ.memory net.config σ.now eui with heq | ⟨entry, hentry, heq⟩
      · rw [heq] at hread
        cases hread
      · rw [heq] at hread
        rw [← Option.some.inj hread]
        exact h.entries.own eui entry hentry
    | newSlot session =>
      obtain ⟨rfl, -⟩ := Prod.mk.inj (Option.some.inj admitted)
      rfl
    | gather loader count =>
      rintro addr rfl
      obtain ⟨loads, hgathered, heq⟩ := Option.map_eq_some_iff.mp admitted
      obtain ⟨rfl, -⟩ := Prod.mk.inj heq
      exact h.residents_of_gathered run honce found hgathered
    | _ => trivial

/-- Entries stay well formed in every step. -/
theorem entries_step (h : σ.Curated) (step : σ.Step net moments next) :
    next.memory.WellFormed := by
  rcases step.memory_cases with ⟨hsame, -⟩ | ⟨task, op, answer, rfl, hperform⟩
  · exact hsame ▸ h.entries
  · obtain ⟨activity, rest, found, -⟩ := step.performs List.mem_cons_self
    exact h.entries.perform (h.jobs task _ found).1 hperform

/-- A loader goes on to have been told of the devices that were loaded for it. -/
theorem told_step (h : σ.Curated) (step : σ.Step net moments next) {loader : LoaderId}
    {place : Nat} {handle : DeviceHandle}
    (htold : next.memory.Told loader place (.loaded handle)) :
    ∃ task, next.LoadsCandidate task loader place handle.card.devAddr handle.card.devEui := by
  have hnext := ServerState.Reaches.start.step step
  have hbefore : σ.memory.Told loader place (.loaded handle) → ∃ task,
      next.LoadsCandidate task loader place handle.card.devAddr handle.card.devEui :=
    fun hold => (h.told loader place handle hold).imp fun _ hloads => hloads.later hnext
  rcases step.memory_cases with ⟨hsame, -⟩ | ⟨task, op, answer, rfl, hperform⟩
  · exact hbefore (hsame ▸ htold)
  · rcases (Memory.queueChange_of_perform hperform).told_cases htold with hold | rfl
    · exact hbefore hold
    · obtain ⟨activity, rest, found, -⟩ := step.performs List.mem_cons_self
      have hactivity : activity = _ := (h.jobs task _ found).1
      exact ⟨task, ServerState.LoadsCandidate.later ⟨_, found, hactivity⟩ hnext⟩

/-- What is left of the tasks goes on to keep the rules. -/
theorem jobs_step (h : σ.Curated) (run : ServerRun net history σ) (honce : ListsOnce history)
    (step : σ.Step net moments next) (hown : FetchesOwn moments) {job : Job}
    (hjob : next.jobs[task]? = some job) : job.activity.StoresIn job.rest fun _ => True := by
  cases step.came hjob with
  | stayed found still => exact h.jobs task job found
  | renewed | arrived | begun => exact Activity.program_storesWell _
  | @performed activity op rest answer after found admitted performed =>
    have hanswer := hown ⟨task, ⟨op, answer⟩, σ.memory, after⟩ (by rw [performed]; simp)
    exact (h.jobs task _ found).2 answer (h.answersWell run honce found admitted hanswer)

/-- The invariant survives every step, if the store lists no device twice and answers with records
of the devices that it is asked for. -/
theorem step (h : σ.Curated) (run : ServerRun net history σ) (honce : ListsOnce history)
    (step : σ.Step net moments next) (hown : FetchesOwn moments) : next.Curated where
  entries := h.entries_step step
  told _ _ _ htold := h.told_step step htold
  jobs _ _ hjob := h.jobs_step run honce step hown hjob

end ServerState.Curated

namespace ServerRun

variable {net : Network} {history : List Moment} {σ : ServerState}

/-- The invariant holds at every moment of a run. -/
theorem curated (run : ServerRun net history σ) (honce : ListsOnce history)
    (hown : FetchesOwn history) : σ.Curated := by
  induction run with
  | boot now => exact .boot now
  | step run step ih =>
    have hbefore : ListsOnce _ := fun m hmem => honce m (List.mem_append_left _ hmem)
    have hprevious := ih hbefore fun m hmem => hown m (List.mem_append_left _ hmem)
    exact hprevious.step run hbefore step fun m hmem => hown m (List.mem_append_right _ hmem)

/-- Whatever the caches name is in memory. -/
theorem backed (run : ServerRun net history σ) : σ.memory.Backed := by
  have hsound := (run.invariant (Knowledge.sees_knowledge σ)).sound
  have hbacks : ∀ handle, σ.knowledge.Knows handle → σ.memory.Backs handle :=
    fun handle hknows => Option.map_eq_some_iff.mp hknows
  exact ⟨fun addr entry hentry handle hmem => hbacks _ (hsound.addresses addr entry hentry _ hmem),
    fun eui entry hentry => hbacks _ (hsound.index eui entry hentry)⟩

/-- At every moment of a run in which the store lists no device twice and answers with records of
the devices that it is asked for, every entry of an address has at least one device, all its devices
use the address and none is there twice, and the session in the index of a device is one of that
device; the devices that are named are in memory. -/
theorem wellFormed_entries (run : ServerRun net history σ) (honce : ListsOnce history)
    (hown : FetchesOwn history) : σ.memory.WellFormed ∧ σ.memory.Backed :=
  ⟨(run.curated honce hown).entries, run.backed⟩

end ServerRun

namespace Sample

/-- The store answers with the record of the device it was asked for. -/
def isFaithful (m : Moment) : Bool :=
  match m.event with
  | ⟨.race (.fetchSession eui) _, some (.ok (some record))⟩ => record.devEui = eui
  | _ => true

theorem fetchesOwn_of_isFaithful {history : List Moment} (h : history.all isFaithful = true) :
    FetchesOwn history := by
  intro m hmem
  have hm := List.all_eq_true.mp h m hmem
  unfold Event.fetchesOwn
  split
  · rename_i hevent
    unfold isFaithful at hm
    rw [hevent] at hm
    exact of_decide_eq_true hm
  · trivial

end Sample

/-- A device joins while another one that joins has read the entry of their address and not stored
it. The entry that is stored last is without it, and well formed. -/
theorem ServerRun.wellFormed_entries_after_joins :
    let σ := Sample.lateJoin.rested.2
    (σ.memory.addresses.get? Sample.record.devAddr).map (fun entry =>
      entry.value.map fun handle => handle.card.devEui) = some [⟨1⟩, ⟨3⟩] ∧
    (σ.memory.index.get? ⟨2⟩).isSome = true ∧ σ.memory.WellFormed ∧ σ.memory.Backed := by
  intro σ
  have run := Sample.lateJoin.run.reaches Sample.lateJoin.reaches_rested
  have hfaithful : (Sample.lateJoin.joined.1 ++ Sample.lateJoin.rested.1).all
      Sample.isFaithful = true := by decide +kernel
  refine ⟨by decide +kernel, by decide +kernel, ?_⟩
  exact run.wellFormed_entries (by decide +kernel) (Sample.fetchesOwn_of_isFaithful hfaithful)

end LoraNetwork
