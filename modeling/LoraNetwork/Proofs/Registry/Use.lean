import LoraNetwork.Proofs.Join.Installing
import LoraNetwork.Proofs.Loader.Candidate
import LoraNetwork.Proofs.Server.Time

/-!
# Use of the session index

An entry of the session index lives for the idle time of its device after it was used, that is stored
or read. While only data is dispatched, a session is stored by those who load candidates, and only
after they found no entry that is alive. So a device that is entered in the index in place of
another one was out of use for its idle time, and two slots of a device are never used at times that
are closer to each other.
-/

namespace LoraNetwork

/-- The session of a device is read in the index, or stored there. -/
def Event.Uses (eui : Eui64) (handle : DeviceHandle) : Event serverInterface → Prop
  | ⟨.memory (.lookUpSession other), found⟩ => other = eui ∧ found = some handle
  | ⟨.memory (.storeSession other stored), _⟩ => other = eui ∧ stored = handle
  | _ => False

/-- A device is used in one slot. -/
theorem Event.Uses.eq {eui : Eui64} {handle other : DeviceHandle} {event : Event serverInterface}
    (h : event.Uses eui handle) (h' : event.Uses eui other) : handle = other := by
  unfold Event.Uses at h h'
  split at h
  · exact Option.some.inj (h.2.symm.trans h'.2)
  · exact h.2.symm.trans h'.2
  · exact h.elim

/-- A session is made for the device, from what the store has of it. -/
def Event.Makes (eui : Eui64) : Event serverInterface → Prop
  | ⟨.memory (.newSlot session), _⟩ => session.devEui = eui
  | _ => False

/-- The card of a device that is loaded from its record. -/
def SessionRecord.card (config : ServerConfig) (record : SessionRecord) : DeviceCard :=
  .ofSession (.ofRecord config record)

/-- What a card says of its device: whose it is, and of one device that it uses an address and may
stay unused for some time. -/
structure DeviceCard.Suits (card : DeviceCard) (config : ServerConfig) (eui : Eui64)
    (addr : DevAddr) (idle : Duration) (owner : Eui64) : Prop where
  /-- The card is that of its owner. -/
  own : card.devEui = owner
  /-- The device uses the address. -/
  addressed : owner = eui → card.devAddr = addr
  /-- Its session may stay unused. -/
  patient : owner = eui → idle ≤ Memory.idleTime config card

/-- A record that was asked for suits. -/
def Event.Steady (config : ServerConfig) (eui : Eui64) (addr : DevAddr) (idle : Duration) :
    Event serverInterface → Prop
  | ⟨.race (.fetchSession owner) _, some (.ok (some record))⟩ =>
      (record.card config).Suits config eui addr idle owner
  | _ => True

/-- Whatever comes to a server from outside is data. -/
def ServerState.OnlyData (σ : ServerState) : Prop :=
  ∀ (task : TaskId) (job : Job), σ.jobs[task]? = some job → job.activity.fromOutside = true →
    job.activity.FindsDevices

/-- Only data is dispatched, the store keeps to what it says of a device, and no device is
forgotten. -/
structure Undisturbed (config : ServerConfig) (eui : Eui64) (addr : DevAddr) (idle : Duration)
    (history : List Moment) (σ : ServerState) : Prop where
  /-- Only data is dispatched. -/
  data : σ.OnlyData
  /-- The store lists no device twice. -/
  once : ListsOnce history
  /-- It answers with records that suit. -/
  steady : ∀ m ∈ history, m.event.Steady config eui addr idle
  /-- No device is forgotten. -/
  kept : ∀ m ∈ history, ∀ other, m.event.op ≠ .memory (.forgetSession other)

namespace ServerState.OnlyData

variable {net : Network} {σ next : ServerState} {moments : List Moment} {task : TaskId} {job : Job}

/-- Whoever is there dispatches data, loads an address or loads a candidate. -/
theorem cases (h : σ.OnlyData) (hjob : σ.jobs[task]? = some job) :
    job.activity.FindsDevices ∨ ∃ loader place addr eui,
      job.activity = .loadCandidate loader place addr eui := by
  cases hactivity : job.activity with
  | loadAddress => exact .inl trivial
  | loadCandidate loader place addr eui => exact .inr ⟨loader, place, addr, eui, rfl⟩
  | dispatch | resolve | handle | install | forgetDevice | forgetAddress =>
    rw [← hactivity]
    exact .inl (h task job hjob (by rw [hactivity]; rfl))

/-- Only data came before a step after which only data has come. -/
theorem of_step (step : σ.Step net moments next) (h : next.OnlyData) : σ.OnlyData := by
  intro task job hjob houtside
  obtain ⟨later, hlater, hsame⟩ := step.persists hjob
  rw [← hsame] at houtside ⊢
  exact h task later hlater houtside

end ServerState.OnlyData

namespace Undisturbed

variable {net : Network} {config : ServerConfig} {eui other : Eui64} {addr : DevAddr}
variable {idle : Duration} {history moments : List Moment} {σ next : ServerState} {task : TaskId}

/-- What was undisturbed after a step was so before. -/
theorem of_step (step : σ.Step net moments next)
    (h : Undisturbed config eui addr idle (history ++ moments) next) :
    Undisturbed config eui addr idle history σ where
  data := .of_step step h.data
  once m hmem := h.once m (List.mem_append_left _ hmem)
  steady m hmem := h.steady m (List.mem_append_left _ hmem)
  kept m hmem := h.kept m (List.mem_append_left _ hmem)

/-- A session is stored by a task that loaded a candidate and made a slot for it. -/
theorem made_of_stores (h : Undisturbed config eui addr idle history σ)
    (run : ServerRun net history σ) {activity : Activity} {handle : DeviceHandle}
    {rest : Unit → Service Verdict} (found : σ.jobs[task]? =
      some ⟨activity, .perform (.memory (.storeSession other handle)) rest⟩) :
    ∃ loader place used record, σ.LoadsCandidate task loader place used other ∧
      candidateStage used task history = .made record handle := by
  rcases h.data.cases found with hfinds | ⟨loader, place, used, owner, rfl⟩
  · exact (run.keeps_findings found hfinds).1.elim
  · obtain ⟨rfl, record, hstage⟩ := (run.keeps_candidate found rfl).1
    exact ⟨loader, place, used, record, ⟨_, found, rfl⟩, hstage⟩

/-- A session is made by a task that loaded a candidate and has its record. -/
theorem fetched_of_makes (h : Undisturbed config eui addr idle history σ)
    (run : ServerRun net history σ) {activity : Activity} {session : Session}
    {rest : DeviceHandle → Service Verdict} (found : σ.jobs[task]? =
      some ⟨activity, .perform (.memory (.newSlot session)) rest⟩) :
    ∃ loader place used owner record, σ.LoadsCandidate task loader place used owner ∧
      candidateStage used task history = .fetched record ∧
        session = .ofRecord net.config record := by
  rcases h.data.cases found with hfinds | ⟨loader, place, used, owner, rfl⟩
  · exact (run.keeps_findings found hfinds).1.elim
  · obtain ⟨record, hstage, hsession⟩ := (run.keeps_candidate found rfl).1
    exact ⟨loader, place, used, owner, record, ⟨_, found, rfl⟩, hstage, hsession⟩

end Undisturbed

/-! ## What is entered suits -/

/-- The record that a task has for its candidate suits, and uses the address that is loaded; its
device has its card. -/
def CandidateStage.Suits (config : ServerConfig) (eui : Eui64) (addr : DevAddr) (idle : Duration)
    (used : DevAddr) (owner : Eui64) : CandidateStage → Prop
  | fetched record =>
      (record.card config).Suits config eui addr idle owner ∧ (record.card config).devAddr = used
  | made record handle => handle.card = record.card config ∧
      (record.card config).Suits config eui addr idle owner ∧ (record.card config).devAddr = used
  | _ => True

namespace Undisturbed

variable {net : Network} {config : ServerConfig} {eui owner : Eui64} {addr used : DevAddr}
variable {idle : Duration} {history moments : List Moment} {σ next : ServerState} {task : TaskId}
variable {loader : LoaderId} {place : Nat}

/-- What a task has for its candidate suits. -/
theorem suits_of_loads (run : ServerRun net history σ)
    (h : Undisturbed net.config eui addr idle history σ)
    (hloads : σ.LoadsCandidate task loader place used owner) :
    (candidateStage used task history).Suits net.config eui addr idle used owner := by
  induction run with
  | boot now =>
    obtain ⟨_, hjob, -⟩ := hloads
    cases hjob
  | @step history moments σ next run step ih =>
    rcases run.candidate_cases step hloads with
      ⟨-, hfresh⟩ | ⟨hbefore, ⟨hsame, -⟩ | ⟨event, before, rfl, hgoes⟩⟩
    · rw [hfresh]
      trivial
    · rw [hsame]
      exact ih (h.of_step step) hbefore
    · have hsuits := ih (h.of_step step) hbefore
      have hsteady := h.steady _ (List.mem_append_right _ List.mem_cons_self)
      generalize candidateStage used task (history ++ _) = later at hgoes ⊢
      generalize candidateStage used task history = stage at hgoes hsuits
      cases hgoes with
      | looked found =>
        unfold CandidateStage.lookUp
        split
        · split <;> trivial
        · trivial
      | timed | entered | reported => trivial
      | asked deadline answer =>
        unfold CandidateStage.fetch
        split
        · rename_i record
          split
          · rename_i haddr
            exact ⟨hsteady, haddr⟩
          · trivial
        · trivial
        · trivial
      | slotted record handle =>
        obtain ⟨activity, rest, -, admitted⟩ := step.performs List.mem_cons_self
        obtain ⟨rfl, -⟩ := Prod.mk.inj (Option.some.inj admitted)
        exact ⟨rfl, hsuits⟩

/-- A session that was stored suits its device. -/
theorem suits_of_stored (run : ServerRun net history σ)
    (h : Undisturbed net.config eui addr idle history σ) {m : Moment} (hmem : m ∈ history)
    {handle : DeviceHandle} (hop : m.event.op = .memory (.storeSession owner handle)) :
    handle.card.Suits net.config eui addr idle owner := by
  induction run with
  | boot now => cases hmem
  | @step history moments σ next run step ih =>
    have hbefore := h.of_step step
    rcases List.mem_append.mp hmem with hold | hnew
    · exact ih hbefore hold
    · obtain ⟨activity, rest, found, -⟩ := step.performs hnew
      obtain ⟨task, ⟨op, answer⟩, before, after⟩ := m
      obtain rfl : op = .memory (.storeSession owner handle) := hop
      obtain ⟨loader, place, used, record, hloads, hmade⟩ := hbefore.made_of_stores run found
      have hsuits := hbefore.suits_of_loads run hloads
      rw [hmade] at hsuits
      rw [hsuits.1]
      exact hsuits.2.1

end Undisturbed

/-! ## Steps on the index -/

/-- A step leaves the entry of a device, or the device is used: its session was alive, or has just
been stored. -/
theorem Memory.use_cases {config : ServerConfig} {now : Instant} {task : TaskId} {m after : Memory}
    {op : MemoryOperation} {answer : op.Answer} (eui : Eui64)
    (h : m.perform config now task op = some (answer, after))
    (hkept : ∀ other, op ≠ .forgetSession other) :
    (after.index.get? eui = m.index.get? eui ∧
      ∀ handle, ¬ Event.Uses eui handle ⟨.memory op, answer⟩) ∨
    ∃ handle, Event.Uses eui handle ⟨.memory op, answer⟩ ∧
      after.index.get? eui = some ⟨handle, now⟩ ∧
        (m.indexEntry config now eui = some handle ∨ op = .storeSession eui handle) := by
  cases op with
  | lookUpSession other =>
    have hanswer : m.readIndex config now other = (answer, after) := Option.some.inj h
    unfold readIndex at hanswer
    split at hanswer
    · obtain ⟨rfl, rfl⟩ := Prod.mk.inj hanswer
      refine .inl ⟨rfl, ?_⟩
      rintro handle ⟨-, hfound⟩
      cases hfound
    · rename_i handle hentry
      obtain ⟨rfl, rfl⟩ := Prod.mk.inj hanswer
      by_cases hother : other = eui
      · subst hother
        refine .inr ⟨handle, ⟨rfl, rfl⟩, ?_, .inl hentry⟩
        exact (Table.get?_set ..).trans (if_pos rfl)
      · refine .inl ⟨(Table.get?_set ..).trans (if_neg hother), ?_⟩
        rintro other ⟨heq, -⟩
        exact hother heq
  | storeSession other handle =>
    obtain ⟨-, rfl⟩ := Prod.mk.inj (Option.some.inj h)
    by_cases hother : other = eui
    · subst hother
      refine .inr ⟨handle, ⟨rfl, rfl⟩, ?_, .inr rfl⟩
      exact (Table.get?_set ..).trans (if_pos rfl)
    · refine .inl ⟨(Table.get?_set ..).trans (if_neg hother), ?_⟩
      rintro stored ⟨heq, -⟩
      exact hother heq
  | forgetSession other => exact absurd rfl (hkept other)
  | storeAddress | forgetAddress =>
    obtain ⟨-, rfl⟩ := Prod.mk.inj (Option.some.inj h)
    exact .inl ⟨rfl, fun _ huses => huses⟩
  | _ => exact .inl ⟨by rw [(caches_of_perform h rfl).2], fun _ huses => huses⟩

/-- What is not alive is not alive later. -/
theorem Memory.indexEntry_of_later {config : ServerConfig} {now later : Instant} {m : Memory}
    {eui : Eui64} (hle : now ≤ later) (h : m.indexEntry config now eui = none) :
    m.indexEntry config later eui = none := by
  unfold indexEntry at h ⊢
  split
  · rfl
  · rename_i entry hentry
    rw [hentry] at h
    dsimp only at h
    split at h
    · cases h
    · rename_i hexpired
      exact if_neg fun halive => hexpired (Int.lt_of_le_of_lt hle halive)

/-- An entry that is alive is one of those kept. -/
theorem Memory.index_of_indexEntry {config : ServerConfig} {now : Instant} {m : Memory}
    {eui : Eui64} {handle : DeviceHandle} (h : m.indexEntry config now eui = some handle) :
    ∃ entry, m.index.get? eui = some entry ∧ entry.value = handle := by
  unfold indexEntry at h
  split at h
  · cases h
  · rename_i entry hentry
    split at h
    · exact ⟨entry, hentry, Option.some.inj h⟩
    · cases h

/-- An entry that is not alive was not used for the idle time of its device. -/
theorem Memory.idle_of_indexEntry {config : ServerConfig} {now : Instant} {m : Memory}
    {eui : Eui64} {entry : Stamped DeviceHandle} (h : m.indexEntry config now eui = none)
    (hentry : m.index.get? eui = some entry) :
    entry.since + (idleTime config entry.value.card : Nat) ≤ now := by
  unfold indexEntry at h
  rw [hentry] at h
  dsimp only at h
  split at h
  · cases h
  · rename_i hexpired
    exact Int.not_lt.mp hexpired

namespace ServerState.Step

variable {net : Network} {σ next : ServerState} {moments : List Moment}

/-- A step leaves the entry of a device, or the device is used: its session was alive, or has just
been stored. -/
theorem use_cases (step : σ.Step net moments next) (eui : Eui64)
    (hkept : ∀ m ∈ moments, ∀ other, m.event.op ≠ .memory (.forgetSession other)) :
    (next.memory.index.get? eui = σ.memory.index.get? eui ∧
      ∀ m ∈ moments, ∀ handle, ¬ m.event.Uses eui handle) ∨
    ∃ m handle, moments = [m] ∧ m.event.Uses eui handle ∧
      next.memory.index.get? eui = some ⟨handle, σ.now⟩ ∧
        (σ.memory.indexEntry net.config σ.now eui = some handle ∨
          m.event.op = .memory (.storeSession eui handle)) := by
  rcases step.memory_cases with ⟨hsame, hnone⟩ | ⟨task, op, answer, rfl, hperform⟩
  · refine .inl ⟨by rw [hsame], fun m hmem handle huses => ?_⟩
    obtain ⟨task, ⟨op, answer⟩, before, after⟩ := m
    cases op with
    | memory op => exact hnone _ hmem op rfl
    | clock | wallClock | draw | call | race | start => exact huses
  · have hother : ∀ other, op ≠ .forgetSession other := by
      rintro other rfl
      exact hkept _ List.mem_cons_self other rfl
    rcases Memory.use_cases eui hperform hother with ⟨hsame, hnot⟩ | ⟨handle, huses, hentry, hcause⟩
    · exact .inl ⟨hsame, fun m hmem => List.mem_singleton.mp hmem ▸ hnot⟩
    · refine .inr ⟨_, handle, rfl, huses, hentry, hcause.imp_right ?_⟩
      rintro rfl
      rfl

end ServerState.Step

namespace Undisturbed

variable {net : Network} {eui owner : Eui64} {addr : DevAddr} {idle : Duration}
variable {history : List Moment} {σ : ServerState} {handle : DeviceHandle}

/-- A session in the index suits its device. -/
theorem suits_of_index (run : ServerRun net history σ)
    (h : Undisturbed net.config eui addr idle history σ) {entry : Stamped DeviceHandle}
    (hentry : σ.memory.index.get? owner = some entry) :
    entry.value.card.Suits net.config eui addr idle owner := by
  induction run generalizing entry with
  | boot now => cases hentry
  | @step history moments σ next run step ih =>
    have hkept : ∀ m ∈ moments, ∀ other, m.event.op ≠ .memory (.forgetSession other) :=
      fun m hmem => h.kept m (List.mem_append_right _ hmem)
    rcases step.use_cases owner hkept with ⟨hsame, -⟩ | ⟨m, handle, rfl, -, hset, hcause⟩
    · exact ih (h.of_step step) (hsame ▸ hentry)
    · obtain rfl := Option.some.inj (hset.symm.trans hentry)
      rcases hcause with halive | hstored
      · obtain ⟨found, hfound, rfl⟩ := Memory.index_of_indexEntry halive
        have hsuits := ih (h.of_step step) hfound
        exact hsuits
      · exact h.suits_of_stored (run.step step) (List.mem_append_right _ List.mem_cons_self) hstored

/-- Whatever session is used suits its device. -/
theorem suits_of_uses (run : ServerRun net history σ)
    (h : Undisturbed net.config eui addr idle history σ) {m : Moment} (hmem : m ∈ history)
    (huses : m.event.Uses owner handle) : handle.card.Suits net.config eui addr idle owner := by
  induction run with
  | boot now => cases hmem
  | @step history moments σ next run step ih =>
    rcases List.mem_append.mp hmem with hold | hnew
    · exact ih (h.of_step step) hold
    · have hkept : ∀ m ∈ moments, ∀ other, m.event.op ≠ .memory (.forgetSession other) :=
        fun m hmem => h.kept m (List.mem_append_right _ hmem)
      rcases step.use_cases owner hkept with ⟨-, hnot⟩ | ⟨m', found, rfl, hfound, hset, -⟩
      · exact absurd huses (hnot m hnew handle)
      · obtain rfl := List.mem_singleton.mp hnew
        obtain rfl := hfound.eq huses
        exact h.suits_of_index (run.step step) hset

end Undisturbed

/-! ## Uses lie apart -/

/-- What holds of the uses of a device in the index at every moment of a run. -/
structure TimedRun.InUse (net : Network) (eui : Eui64) (addr : DevAddr) (idle : Duration)
    (history : List TimedMoment) (σ : ServerState) : Prop where
  /-- The entry is as young as the last use of the device. -/
  kept : ∀ d ∈ history, ∀ handle, d.moment.event.Uses eui handle →
    ∃ entry, σ.memory.index.get? eui = some entry ∧ d.time ≤ entry.since
  /-- It is the one that was used then, which suits. -/
  used : ∀ entry, σ.memory.index.get? eui = some entry →
    entry.value.card.Suits net.config eui addr idle eui ∧
      ∃ d ∈ history, d.moment.event.Uses eui entry.value ∧ d.time = entry.since
  /-- Uses in different slots lie apart. -/
  apart : ∀ one ∈ history, ∀ two ∈ history, ∀ handle handle',
    one.moment.event.Uses eui handle → two.moment.event.Uses eui handle' → handle ≠ handle' →
      one.time + (idle : Nat) ≤ two.time ∨ two.time + (idle : Nat) ≤ one.time
  /-- A session is made for the device only while it is out of use. -/
  renewed : ∀ made ∈ history, made.moment.event.Makes eui → ∀ d ∈ history, ∀ handle,
    d.moment.event.Uses eui handle → d.time + (idle : Nat) ≤ made.time ∨ made.time ≤ d.time
  /-- While a task that found no entry has yet to enter the device, there is none that is alive. -/
  lacking : ∀ task loader place, σ.LoadsCandidate task loader place addr eui →
    (candidateStage addr task (untimed history)).Lacks →
      σ.memory.indexEntry net.config σ.now eui = none

namespace TimedRun.InUse

variable {net : Network} {eui : Eui64} {addr : DevAddr} {idle : Duration}
variable {history : List TimedMoment} {moments : List Moment} {σ next : ServerState}

theorem boot (now : Instant) : InUse net eui addr idle [] { now := now } where
  kept _ hmem := nomatch hmem
  used _ h := by cases h
  apart _ hmem := nomatch hmem
  renewed _ hmem := nomatch hmem
  lacking _ _ _ h := by obtain ⟨_, hjob, -⟩ := h; cases hjob

/-- A session of the device is stored only when the one before is not alive any more. -/
theorem expired_of_stores (h : InUse net eui addr idle history σ)
    (run : ServerRun net (untimed history) σ)
    (hcalm : Undisturbed net.config eui addr idle (untimed history) σ)
    (step : σ.Step net moments next) {m : Moment} (hmem : m ∈ moments) {handle : DeviceHandle}
    (hop : m.event.op = .memory (.storeSession eui handle)) :
    (∃ loader place record, σ.LoadsCandidate m.task loader place addr eui ∧
      candidateStage addr m.task (untimed history) = .made record handle) ∧
        σ.memory.indexEntry net.config σ.now eui = none := by
  obtain ⟨activity, rest, found, -⟩ := step.performs hmem
  obtain ⟨task, ⟨op, answer⟩, before, after⟩ := m
  obtain rfl : op = .memory (.storeSession eui handle) := hop
  obtain ⟨loader, place, used, record, hloads, hmade⟩ := hcalm.made_of_stores run found
  have hsuits := hcalm.suits_of_loads run hloads
  rw [hmade] at hsuits
  obtain ⟨-, hcard, hused⟩ := hsuits
  have haddr : used = addr := hused.symm.trans (hcard.addressed rfl)
  subst haddr
  refine ⟨⟨loader, place, record, hloads, hmade⟩, ?_⟩
  exact h.lacking task loader place hloads (hmade ▸ trivial)

/-- A session of the device is made only when the one before is not alive any more. -/
theorem expired_of_makes (h : InUse net eui addr idle history σ)
    (run : ServerRun net (untimed history) σ)
    (hcalm : Undisturbed net.config eui addr idle (untimed history) σ)
    (step : σ.Step net moments next) {m : Moment} (hmem : m ∈ moments)
    (hmakes : m.event.Makes eui) : σ.memory.indexEntry net.config σ.now eui = none := by
  obtain ⟨activity, rest, found, -⟩ := step.performs hmem
  obtain ⟨task, ⟨op, answer⟩, before, after⟩ := m
  unfold Event.Makes at hmakes
  split at hmakes
  · rename_i session _ heq
    obtain rfl : op = .memory (.newSlot session) := congrArg Event.op heq
    obtain ⟨loader, place, used, owner, record, hloads, hfetched, rfl⟩ :=
      hcalm.fetched_of_makes run found
    have hsuits := hcalm.suits_of_loads run hloads
    rw [hfetched] at hsuits
    obtain ⟨hcard, hused⟩ := hsuits
    have howner : owner = eui := hcard.own.symm.trans hmakes
    have haddr : used = addr := hused.symm.trans (hcard.addressed howner)
    subst howner haddr
    exact h.lacking task loader place hloads (hfetched ▸ trivial)
  · exact hmakes.elim

/-- A device whose session is not alive any more was not used for its idle time. -/
theorem idle_of_expired (h : InUse net eui addr idle history σ)
    (hexpired : σ.memory.indexEntry net.config σ.now eui = none) {d : TimedMoment}
    (hd : d ∈ history) {handle : DeviceHandle} (huses : d.moment.event.Uses eui handle) :
    d.time + (idle : Nat) ≤ σ.now := by
  obtain ⟨entry, hentry, hlast⟩ := h.kept d hd handle huses
  have hidle := Memory.idle_of_indexEntry hexpired hentry
  have hpatient := (h.used entry hentry).1.patient rfl
  unfold Instant Duration at *
  omega

/-- The device was not used in another slot for its idle time when it is used in one. -/
theorem distant (h : InUse net eui addr idle history σ) (timed : TimedRun net history σ)
    (hcalm : Undisturbed net.config eui addr idle (untimed history) σ)
    (step : σ.Step net moments next) {m : Moment} (hmem : m ∈ moments) {handle : DeviceHandle}
    (hcause : σ.memory.indexEntry net.config σ.now eui = some handle ∨
      m.event.op = .memory (.storeSession eui handle))
    {d : TimedMoment} (hd : d ∈ history) {earlier : DeviceHandle}
    (huses : d.moment.event.Uses eui earlier) (hne : earlier ≠ handle) :
    d.time + (idle : Nat) ≤ σ.now := by
  rcases hcause with halive | hstored
  · obtain ⟨entry, hentry, hlast⟩ := h.kept d hd earlier huses
    obtain ⟨-, last, hlastmem, hlastuses, htime⟩ := h.used entry hentry
    obtain ⟨found, hfound, rfl⟩ := Memory.index_of_indexEntry halive
    obtain rfl := Option.some.inj (hentry.symm.trans hfound)
    have hnow := timed.time_le last hlastmem
    rcases h.apart d hd last hlastmem earlier entry.value huses hlastuses hne with hbefore | hafter
    · exact Int.le_trans hbefore hnow
    · unfold Instant Duration at *
      omega
  · exact h.idle_of_expired (h.expired_of_stores timed.run hcalm step hmem hstored).2 hd huses

/-- A device whose session is not alive goes on without one until one is stored. -/
theorem expired_step (step : σ.Step net moments next)
    (hkept : ∀ m ∈ moments, ∀ other, m.event.op ≠ .memory (.forgetSession other))
    (hexpired : σ.memory.indexEntry net.config σ.now eui = none)
    (hstored : ∀ m ∈ moments, ∀ handle, m.event.op ≠ .memory (.storeSession eui handle)) :
    next.memory.indexEntry net.config next.now eui = none := by
  rcases step.use_cases eui hkept with ⟨hsame, -⟩ | ⟨m, handle, rfl, -, -, halive | hstores⟩
  · refine Memory.indexEntry_of_later step.now_le ?_
    unfold Memory.indexEntry at hexpired ⊢
    rw [hsame]
    exact hexpired
  · rw [hexpired] at halive
    cases halive
  · exact absurd hstores (hstored m List.mem_cons_self handle)

/-- Nothing is alive while a task that found nothing has yet to enter the device. -/
theorem lacking_step (h : InUse net eui addr idle history σ)
    (run : ServerRun net (untimed history) σ)
    (hcalm : Undisturbed net.config eui addr idle (untimed history) σ)
    (candidacy : ServerRun.Candidacy (untimed history) σ) (step : σ.Step net moments next)
    (hkept : ∀ m ∈ moments, ∀ other, m.event.op ≠ .memory (.forgetSession other))
    {task : TaskId} {loader : LoaderId} {place : Nat}
    (hloads : next.LoadsCandidate task loader place addr eui)
    (hlacks : (candidateStage addr task (untimed history ++ moments)).Lacks) :
    next.memory.indexEntry net.config next.now eui = none := by
  rcases run.candidate_cases step hloads with
    ⟨-, hfresh⟩ | ⟨hbefore, ⟨hsame, hstill⟩ | ⟨event, before, rfl, hgoes⟩⟩
  · rw [hfresh] at hlacks
    exact hlacks.elim
  · rw [hsame] at hlacks
    refine expired_step step hkept (h.lacking task loader place hbefore hlacks) ?_
    intro m hmem handle hop
    -- Whoever stores a session lacks one too, so it would be the same task.
    obtain ⟨⟨loader', place', record, hloads', hmade⟩, -⟩ :=
      h.expired_of_stores run hcalm step hmem hop
    refine hstill m hmem (candidacy.alone run hloads' hbefore (hmade ▸ nofun) ?_)
    intro htold
    rw [htold] at hlacks
    exact hlacks
  · have hlacking := h.lacking task loader place hbefore
    obtain ⟨activity, rest, -, admitted⟩ := step.performs List.mem_cons_self
    generalize candidateStage addr task (untimed history ++ _) = later at hgoes hlacks
    generalize candidateStage addr task (untimed history) = stage at hgoes hlacking
    have hquiet : ∀ {op : ServerOperation}, event.op = op →
        (∀ handle, op ≠ .memory (.storeSession eui handle)) →
          σ.memory.indexEntry net.config σ.now eui = none →
            next.memory.indexEntry net.config next.now eui = none := by
      intro op hop hother hexpired
      refine expired_step step hkept hexpired fun m hmem handle hstores => hother handle ?_
      rw [← hop, ← hstores, List.mem_singleton.mp hmem]
    cases hgoes with
    | looked found =>
      refine hquiet rfl nofun ?_
      have hread : σ.memory.readIndex net.config σ.now eui = (found, next.memory) :=
        Option.some.inj admitted
      unfold Memory.readIndex at hread
      split at hread
      · assumption
      · rename_i handle hentry
        obtain ⟨rfl, -⟩ := Prod.mk.inj hread
        obtain ⟨entry, hfound, rfl⟩ := Memory.index_of_indexEntry hentry
        have haddr := (h.used entry hfound).1.addressed rfl
        unfold CandidateStage.lookUp at hlacks
        dsimp only at hlacks
        rw [if_pos haddr] at hlacks
        exact hlacks.elim
    | timed | asked | slotted => exact hquiet rfl nofun (hlacking trivial)
    | entered | reported => exact hlacks.elim

/-- The entry goes on to be as young as the last use. -/
theorem kept_step (h : InUse net eui addr idle history σ) (timed : TimedRun net history σ)
    (step : σ.Step net moments next)
    (hkept : ∀ m ∈ moments, ∀ other, m.event.op ≠ .memory (.forgetSession other)) {d : TimedMoment}
    (hd : d ∈ history ++ moments.map (TimedMoment.mk σ.now)) {handle : DeviceHandle}
    (huses : d.moment.event.Uses eui handle) :
    ∃ entry, next.memory.index.get? eui = some entry ∧ d.time ≤ entry.since := by
  rcases List.mem_append.mp hd with hold | hnew
  · rcases step.use_cases eui hkept with ⟨hsame, -⟩ | ⟨m, found, -, -, hentry, -⟩
    · rw [hsame]
      exact h.kept d hold handle huses
    · exact ⟨_, hentry, timed.time_le d hold⟩
  · obtain ⟨m, hmem, rfl⟩ := List.mem_map.mp hnew
    rcases step.use_cases eui hkept with ⟨-, hnot⟩ | ⟨_, found, -, -, hentry, -⟩
    · exact absurd huses (hnot m hmem handle)
    · exact ⟨_, hentry, Int.le_refl _⟩

/-- The entry goes on to be one that was used last, and that suits. -/
theorem used_step (h : InUse net eui addr idle history σ) (timed : TimedRun net history σ)
    (step : σ.Step net moments next)
    (hcalm : Undisturbed net.config eui addr idle (untimed history ++ moments) next)
    {entry : Stamped DeviceHandle} (hentry : next.memory.index.get? eui = some entry) :
    entry.value.card.Suits net.config eui addr idle eui ∧
      ∃ d ∈ history ++ moments.map (TimedMoment.mk σ.now),
        d.moment.event.Uses eui entry.value ∧ d.time = entry.since := by
  have hkept : ∀ m ∈ moments, ∀ other, m.event.op ≠ .memory (.forgetSession other) :=
    fun m hmem => hcalm.kept m (List.mem_append_right _ hmem)
  rcases step.use_cases eui hkept with ⟨hsame, -⟩ | ⟨m, handle, rfl, huses, hset, -⟩
  · obtain ⟨hsuits, d, hd, hused⟩ := h.used entry (hsame ▸ hentry)
    exact ⟨hsuits, d, List.mem_append_left _ hd, hused⟩
  · obtain rfl := Option.some.inj (hset.symm.trans hentry)
    exact ⟨hcalm.suits_of_index (timed.run.step step) hset, ⟨σ.now, m⟩,
      List.mem_append_right _ List.mem_cons_self, huses, rfl⟩

/-- Uses in different slots go on to lie apart. -/
theorem apart_step (h : InUse net eui addr idle history σ) (timed : TimedRun net history σ)
    (hcalm : Undisturbed net.config eui addr idle (untimed history) σ)
    (step : σ.Step net moments next)
    (hkept : ∀ m ∈ moments, ∀ other, m.event.op ≠ .memory (.forgetSession other))
    {one two : TimedMoment} {handle handle' : DeviceHandle}
    (hone : one ∈ history ++ moments.map (TimedMoment.mk σ.now))
    (htwo : two ∈ history ++ moments.map (TimedMoment.mk σ.now))
    (huses : one.moment.event.Uses eui handle) (huses' : two.moment.event.Uses eui handle')
    (hne : handle ≠ handle') :
    one.time + (idle : Nat) ≤ two.time ∨ two.time + (idle : Nat) ≤ one.time := by
  have hnow : ∀ {d : TimedMoment} {earlier later : DeviceHandle} {m : Moment}, d ∈ history →
      m ∈ moments → d.moment.event.Uses eui earlier → m.event.Uses eui later → earlier ≠ later →
        d.time + (idle : Nat) ≤ σ.now := by
    intro d earlier later m hd hmem hearlier hlater hdiffer
    rcases step.use_cases eui hkept with ⟨-, hnot⟩ | ⟨m', found, rfl, hfound, -, hcause⟩
    · exact absurd hlater (hnot m hmem later)
    · obtain rfl := List.mem_singleton.mp hmem
      obtain rfl := hfound.eq hlater
      exact h.distant timed hcalm step hmem hcause hd hearlier hdiffer
  rcases List.mem_append.mp hone with hold | hnew
  · rcases List.mem_append.mp htwo with hold' | hnew'
    · exact h.apart one hold two hold' handle handle' huses huses' hne
    · obtain ⟨m, hmem, rfl⟩ := List.mem_map.mp hnew'
      exact .inl (hnow hold hmem huses huses' hne)
  · obtain ⟨m, hmem, rfl⟩ := List.mem_map.mp hnew
    rcases List.mem_append.mp htwo with hold' | hnew'
    · exact .inr (hnow hold' hmem huses' huses (Ne.symm hne))
    · obtain ⟨m', hmem', rfl⟩ := List.mem_map.mp hnew'
      rw [step.eq_singleton hmem] at hmem'
      obtain rfl := List.mem_singleton.mp hmem'
      exact absurd (huses.eq huses') hne

/-- A session goes on to be made only while the device is out of use. -/
theorem renewed_step (h : InUse net eui addr idle history σ) (timed : TimedRun net history σ)
    (hcalm : Undisturbed net.config eui addr idle (untimed history) σ)
    (step : σ.Step net moments next) {made d : TimedMoment} {handle : DeviceHandle}
    (hmade : made ∈ history ++ moments.map (TimedMoment.mk σ.now))
    (hd : d ∈ history ++ moments.map (TimedMoment.mk σ.now)) (hmakes : made.moment.event.Makes eui)
    (huses : d.moment.event.Uses eui handle) :
    d.time + (idle : Nat) ≤ made.time ∨ made.time ≤ d.time := by
  rcases List.mem_append.mp hd with hold | hnew
  · rcases List.mem_append.mp hmade with hold' | hnew'
    · exact h.renewed made hold' hmakes d hold handle huses
    · obtain ⟨m, hmem, rfl⟩ := List.mem_map.mp hnew'
      exact .inl (h.idle_of_expired (h.expired_of_makes timed.run hcalm step hmem hmakes) hold huses)
  · obtain ⟨m, -, rfl⟩ := List.mem_map.mp hnew
    rcases List.mem_append.mp hmade with hold' | hnew'
    · exact .inr (timed.time_le made hold')
    · obtain ⟨m', -, rfl⟩ := List.mem_map.mp hnew'
      exact .inr (Int.le_refl _)

/-- What holds of the uses of a device survives every step. -/
theorem step (h : InUse net eui addr idle history σ) (timed : TimedRun net history σ)
    (step : σ.Step net moments next) (candidacy : ServerRun.Candidacy (untimed history) σ)
    (hcalm : Undisturbed net.config eui addr idle (untimed history ++ moments) next) :
    InUse net eui addr idle (history ++ moments.map (TimedMoment.mk σ.now)) next := by
  have hbefore := hcalm.of_step step
  have hkept : ∀ m ∈ moments, ∀ other, m.event.op ≠ .memory (.forgetSession other) :=
    fun m hmem => hcalm.kept m (List.mem_append_right _ hmem)
  refine ⟨fun d hd handle huses => h.kept_step timed step hkept hd huses,
    fun entry hentry => h.used_step timed step hcalm hentry, ?_, ?_, ?_⟩
  · intro one hone two htwo handle handle' huses huses' hne
    exact h.apart_step timed hbefore step hkept hone htwo huses huses' hne
  · intro made hmade hmakes d hd handle huses
    exact h.renewed_step timed hbefore step hmade hd hmakes huses
  · intro task loader place hloads hlacks
    rw [untimed_append, untimed_map] at hlacks
    exact h.lacking_step timed.run hbefore candidacy step hkept hloads hlacks

end TimedRun.InUse

/-- The uses of a device are as they should be at every moment of a run that is undisturbed. -/
theorem TimedRun.inUse {net : Network} {eui : Eui64} {addr : DevAddr} {idle : Duration}
    {history : List TimedMoment} {σ : ServerState} (timed : TimedRun net history σ)
    (hcalm : Undisturbed net.config eui addr idle (untimed history) σ) :
    InUse net eui addr idle history σ := by
  induction timed with
  | boot now => exact .boot now
  | step timed step ih =>
    rw [untimed_append, untimed_map] at hcalm
    have hbefore := hcalm.of_step step
    exact (ih hbefore).step timed step (timed.run.candidacy hbefore.once) hcalm

end LoraNetwork
