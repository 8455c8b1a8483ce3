import LoraNetwork.Proofs.Loader.Findings
import LoraNetwork.Proofs.Loader.SingleFlight
import LoraNetwork.Proofs.Registry.Reachability

/-!
# Loading a candidate

A candidate of an address is a device that the store listed there. Its task looks for a session in
memory first and asks the store only if none will do; a record that uses the address is given a slot
and entered in the index. The loader waits until it was told of every candidate. So as long as the
store lists no device twice, at most one task at a time loads a device for an address.
-/

namespace LoraNetwork

/-! ## Stages of a candidate -/

/-- How far a task has come with loading a candidate. -/
inductive CandidateStage where
  /-- It has yet to look into memory. -/
  | fresh
  /-- No session in memory will do. -/
  | missed
  /-- The store answered with a record that uses the address. -/
  | fetched (record : SessionRecord)
  /-- The session of the record has a slot. -/
  | made (record : SessionRecord) (handle : DeviceHandle)
  /-- It is known what became of the candidate. -/
  | known (load : CandidateLoad)
  /-- The loader was told. -/
  | told

namespace CandidateStage

/-- The stage after a session was looked up. -/
def lookUp (addr : DevAddr) : Option DeviceHandle → CandidateStage
  | some handle => if handle.card.devAddr = addr then known (.loaded handle) else missed
  | none => missed

/-- The stage after the store was asked for the record. -/
def fetch (addr : DevAddr) : Option (Except StoreError (Option SessionRecord)) → CandidateStage
  | some (.ok (some record)) => if record.devAddr = addr then fetched record else known .skipped
  | some (.ok none) => known .skipped
  | _ => known .failed

/-- The stage after a slot was made. -/
def make (handle : DeviceHandle) : CandidateStage → CandidateStage
  | fetched record => made record handle
  | stage => stage

/-- The stage after an event. -/
def next (addr : DevAddr) (stage : CandidateStage) : Event serverInterface → CandidateStage
  | ⟨.memory (.lookUpSession _), found⟩ => lookUp addr found
  | ⟨.race (.fetchSession _) _, answer⟩ => fetch addr answer
  | ⟨.memory (.newSlot _), handle⟩ => stage.make handle
  | ⟨.memory (.storeSession _ handle), _⟩ => known (.loaded handle)
  | ⟨.memory (.deposit ..), _⟩ => told
  | _ => stage

/-- A lookup that leads to a device found it. -/
theorem lookUp_eq_loaded {addr : DevAddr} {found : Option DeviceHandle} {handle : DeviceHandle}
    (h : lookUp addr found = known (.loaded handle)) : found = some handle := by
  unfold lookUp at h
  split at h
  · split at h
    · rw [CandidateLoad.loaded.inj (known.inj h)]
    · cases h
  · cases h

/-- What the store answers does not lead to a device by itself. -/
theorem fetch_ne_loaded {addr : DevAddr}
    {answer : Option (Except StoreError (Option SessionRecord))} {handle : DeviceHandle} :
    fetch addr answer ≠ known (.loaded handle) := by
  intro h
  unfold fetch at h
  split at h
  · split at h <;> cases h
  · cases h
  · cases h

/-- What a task may do that loads a candidate. -/
def Allows (config : ServerConfig) (loader : LoaderId) (place : Nat) (eui : Eui64)
    (stage : CandidateStage) : ServerOperation → Prop
  | .clock => stage = missed
  | .memory (.lookUpSession other) => other = eui ∧ stage = fresh
  | .race (.fetchSession other) _ => other = eui ∧ stage = missed
  | .memory (.newSlot session) =>
      ∃ record, stage = fetched record ∧ session = Session.ofRecord config record
  | .memory (.storeSession other handle) => other = eui ∧ ∃ record, stage = made record handle
  | .memory (.deposit one spot load) => one = loader ∧ spot = place ∧ stage = known load
  | _ => False

/-- A task that looked its device up and found none, and has yet to enter one. -/
def Lacks : CandidateStage → Prop
  | missed | fetched _ | made .. => True
  | _ => False

/-- How a task goes on that loads a candidate. -/
inductive Goes (config : ServerConfig) (loader : LoaderId) (place : Nat) (addr : DevAddr)
    (eui : Eui64) : CandidateStage → Event serverInterface → CandidateStage → Prop where
  /-- It looks for a session in memory. -/
  | looked (found : Option DeviceHandle) : Goes config loader place addr eui fresh
      ⟨.memory (.lookUpSession eui), found⟩ (lookUp addr found)
  /-- It looks at the clock. -/
  | timed (now : Instant) : Goes config loader place addr eui missed ⟨.clock, now⟩ missed
  /-- It asks the store. -/
  | asked (deadline : Instant) (answer : Option (Except StoreError (Option SessionRecord))) :
      Goes config loader place addr eui missed ⟨.race (.fetchSession eui) deadline, answer⟩
        (fetch addr answer)
  /-- It makes a slot. -/
  | slotted (record : SessionRecord) (handle : DeviceHandle) :
      Goes config loader place addr eui (fetched record)
        ⟨.memory (.newSlot (Session.ofRecord config record)), handle⟩ (made record handle)
  /-- It enters the session. -/
  | entered (record : SessionRecord) (handle : DeviceHandle) :
      Goes config loader place addr eui (made record handle)
        ⟨.memory (.storeSession eui handle), ()⟩ (known (.loaded handle))
  /-- It tells the loader. -/
  | reported (load : CandidateLoad) : Goes config loader place addr eui (known load)
      ⟨.memory (.deposit loader place load), ()⟩ told

/-- What is allowed is one of these. -/
theorem goes_of_allows {config : ServerConfig} {loader : LoaderId} {place : Nat} {addr : DevAddr}
    {eui : Eui64} {stage : CandidateStage} {op : ServerOperation}
    (h : stage.Allows config loader place eui op) (answer : op.Answer) :
    Goes config loader place addr eui stage ⟨op, answer⟩ (stage.next addr ⟨op, answer⟩) := by
  cases op with
  | clock =>
    obtain rfl : stage = missed := h
    exact .timed answer
  | wallClock | draw | call | start => exact h.elim
  | race request deadline =>
    cases request with
    | fetchSession other =>
      obtain ⟨rfl, rfl⟩ := h
      exact .asked deadline answer
    | _ => exact h.elim
  | memory op =>
    cases op with
    | lookUpSession other =>
      obtain ⟨rfl, rfl⟩ := h
      exact .looked answer
    | newSlot session =>
      obtain ⟨record, rfl, rfl⟩ := h
      exact .slotted record answer
    | storeSession other handle =>
      obtain ⟨rfl, record, rfl⟩ := h
      exact .entered record handle
    | deposit one spot load =>
      obtain ⟨rfl, rfl, rfl⟩ := h
      exact .reported load
    | _ => exact h.elim

/-- Who tells the loader has told it. -/
theorem Goes.told_of_deposit {config : ServerConfig} {loader one : LoaderId} {place spot : Nat}
    {addr : DevAddr} {eui : Eui64} {stage later : CandidateStage} {event : Event serverInterface}
    {load : CandidateLoad} (h : Goes config loader place addr eui stage event later)
    (hop : event.op = .memory (.deposit one spot load)) : later = told := by
  cases h with
  | reported load => rfl
  | looked | timed | asked | slotted | entered => cases hop

end CandidateStage

/-- The rules for loading a candidate. -/
def candidateRules (config : ServerConfig) (loader : LoaderId) (place : Nat) (addr : DevAddr)
    (eui : Eui64) : Contract serverInterface CandidateStage where
  allows := CandidateStage.Allows config loader place eui
  promises _ _ := True
  next := CandidateStage.next addr

/-- How far a task has come that loads a candidate of an address. -/
def candidateStage (addr : DevAddr) (task : TaskId) (history : List Moment) : CandidateStage :=
  history.foldl (fun stage m => if m.task = task then stage.next addr m.event else stage) .fresh

theorem candidateStage_snoc {addr : DevAddr} {task : TaskId} {history : List Moment} {m : Moment} :
    candidateStage addr task (history ++ [m]) =
      if m.task = task then (candidateStage addr task history).next addr m.event
      else candidateStage addr task history := by
  rw [candidateStage, List.foldl_append]
  rfl

namespace Service

open Program

variable {net : Network} {loader : LoaderId} {place : Nat} {addr : DevAddr} {eui : Eui64}

/-- A record that is fetched is entered if it uses the address. -/
theorem fetchCandidate_keeps_candidate : (fetchCandidate net addr eui).Keeps
    (candidateRules net.config loader place addr eui) (fun stage load => stage = .known load)
      .missed := by
  refine ⟨rfl, fun now _ => ⟨⟨rfl, rfl⟩, fun answer _ => ?_⟩⟩
  match answer with
  | none | some (.error _) | some (.ok none) => rfl
  | some (.ok (some record)) =>
    have hstage : (candidateRules net.config loader place addr eui).next .missed
        ⟨.race (.fetchSession eui) (now + (Duration.ofMillis net.config.candidateTimeout : Nat)),
          some (.ok (some record))⟩ =
        if record.devAddr = addr then .fetched record else .known .skipped := rfl
    simp only [pure_eq_done, bind_eq_bind, done_bind]
    split
    · rename_i haddr
      rw [if_pos haddr] at hstage
      exact ⟨⟨record, hstage, rfl⟩, fun handle _ =>
        ⟨⟨rfl, record, congrArg (CandidateStage.make handle) hstage⟩, fun _ _ => rfl⟩⟩
    · rename_i haddr
      rw [if_neg haddr] at hstage
      exact hstage

/-- A candidate is looked for in memory and then in the store. -/
theorem loadCandidate_keeps_candidate : (loadCandidate net addr eui).Keeps
    (candidateRules net.config loader place addr eui) (fun stage load => stage = .known load)
      .fresh := by
  refine ⟨⟨rfl, rfl⟩, fun known _ => ?_⟩
  cases known with
  | none => exact fetchCandidate_keeps_candidate
  | some handle =>
    have hstage : (candidateRules net.config loader place addr eui).next .fresh
        ⟨.memory (.lookUpSession eui), some handle⟩ =
        if handle.card.devAddr = addr then .known (.loaded handle) else .missed := rfl
    simp only [done_bind]
    rw [hstage]
    split
    · rfl
    · exact fetchCandidate_keeps_candidate

end Service

/-- Who loads a candidate keeps the rules, and has told the loader when it ends. -/
theorem Activity.program_candidate {net : Network} {loader : LoaderId} {place : Nat}
    {addr : DevAddr} {eui : Eui64} :
    ((loadCandidate loader place addr eui).program net).Keeps
      (candidateRules net.config loader place addr eui)
      (fun _ verdict => verdict ≠ .again) .fresh := by
  refine Program.keeps_bind.mpr (Service.loadCandidate_keeps_candidate.mono ?_)
  rintro _ load rfl
  exact ⟨⟨rfl, rfl, rfl⟩, fun _ _ => nofun⟩

/-- A task loads a candidate of a loader. -/
def ServerState.LoadsCandidate (σ : ServerState) (task : TaskId) (loader : LoaderId) (place : Nat)
    (addr : DevAddr) (eui : Eui64) : Prop :=
  ∃ job, σ.jobs[task]? = some job ∧ job.activity = .loadCandidate loader place addr eui

namespace ServerRun

variable {net : Network} {history : List Moment} {σ : ServerState} {task : TaskId}
variable {loader : LoaderId} {place : Nat} {addr : DevAddr} {eui : Eui64}

/-- What is left of a task that loads a candidate keeps the rules. -/
theorem keeps_candidate (run : ServerRun net history σ) {job : Job}
    (hjob : σ.jobs[task]? = some job)
    (hloads : job.activity = .loadCandidate loader place addr eui) :
    job.rest.Keeps (candidateRules net.config loader place addr eui)
      (fun _ verdict => verdict ≠ .again) (candidateStage addr task history) :=
  run.keeps_from (candidateRules net.config loader place addr eui) .fresh
    (fun _ verdict => verdict ≠ .again)
    (fun activity => activity = .loadCandidate loader place addr eui) (fun _ _ => trivial)
    (fun _ hactivity => hactivity ▸ Activity.program_candidate)
    (fun _ hagain => absurd rfl hagain) task job hjob hloads

/-- How far a task comes in a step that loads a candidate: it has just begun, does nothing, or goes
on. -/
theorem candidate_cases {moments : List Moment} {next : ServerState}
    (run : ServerRun net history σ) (step : σ.Step net moments next)
    (h : next.LoadsCandidate task loader place addr eui) :
    (σ.jobs.length ≤ task ∧ candidateStage addr task (history ++ moments) = .fresh) ∨
      σ.LoadsCandidate task loader place addr eui ∧
        ((candidateStage addr task (history ++ moments) = candidateStage addr task history ∧
            ∀ m ∈ moments, m.task ≠ task) ∨
          ∃ event before, moments = [⟨task, event, before, next.memory⟩] ∧
            CandidateStage.Goes net.config loader place addr eui (candidateStage addr task history)
              event (candidateStage addr task (history ++ moments))) := by
  obtain ⟨job, hjob, hloads⟩ := h
  rcases Nat.lt_or_ge task σ.jobs.length with hlt | hge
  · have hold := List.getElem?_eq_getElem hlt
    have hbefore : (σ.jobs[task]).activity = .loadCandidate loader place addr eui :=
      (step.activity_eq hold hjob).symm.trans hloads
    refine .inr ⟨⟨_, hold, hbefore⟩, ?_⟩
    cases step with
    | wait | arrive | again =>
      rw [List.append_nil]
      exact .inl ⟨rfl, fun m hmem => nomatch hmem⟩
    | @perform performer activity op rest answer after found admitted =>
      rw [candidateStage_snoc]
      dsimp only
      by_cases htask : performer = task
      · subst htask
        rw [if_pos rfl]
        rw [Option.some.inj (hold.symm.trans found)] at hbefore
        have hallows := (run.keeps_candidate found hbefore).1
        exact .inr ⟨_, _, rfl, CandidateStage.goes_of_allows hallows answer⟩
      · rw [if_neg htask]
        refine .inl ⟨rfl, fun m hmem heq => absurd ?_ htask⟩
        rw [List.mem_singleton.mp hmem] at heq
        exact heq
  · have hfresh : candidateStage addr task history = .fresh :=
      run.along_of_length_le (candidateRules net.config loader place addr eui) .fresh hge
    have hstill : ∀ m ∈ moments, m.task ≠ task := by
      intro m hmem heq
      obtain ⟨activity, rest, found, -⟩ := step.performs hmem
      exact Nat.not_lt.mpr hge (heq ▸ (List.getElem?_eq_some_iff.mp found).1)
    refine .inl ⟨hge, ?_⟩
    rw [← hfresh]
    exact step.along_of_still (C := candidateRules net.config loader place addr eui) hstill

/-- Who has yet to tell the loader had yet to tell it before, and does not tell it in the step. -/
theorem untold_step {moments : List Moment} {next : ServerState} (run : ServerRun net history σ)
    (step : σ.Step net moments next) (h : next.LoadsCandidate task loader place addr eui)
    (hold : σ.LoadsCandidate task loader place addr eui)
    (hstage : candidateStage addr task (history ++ moments) ≠ .told) :
    candidateStage addr task history ≠ .told ∧ ∀ m ∈ moments, m.task = task →
      ∀ one spot load, m.event.op ≠ .memory (.deposit one spot load) := by
  obtain ⟨job, hjob, -⟩ := hold
  have hlt : task < σ.jobs.length := (List.getElem?_eq_some_iff.mp hjob).1
  rcases run.candidate_cases step h with
    ⟨hge, -⟩ | ⟨-, ⟨hsame, hstill⟩ | ⟨event, before, rfl, hgoes⟩⟩
  · exact absurd hlt (Nat.not_lt.mpr hge)
  · exact ⟨hsame ▸ hstage, fun m hmem htask => absurd htask (hstill m hmem)⟩
  · refine ⟨fun htold => ?_, fun m hmem _ one spot load hop => ?_⟩
    · rw [htold] at hgoes
      cases hgoes
    · rw [List.mem_singleton.mp hmem] at hop
      exact hstage (hgoes.told_of_deposit hop)

end ServerRun

/-! ## Single steps -/

/-- The store was answered without naming a device twice. -/
def Event.listsOnce : Event serverInterface → Prop
  | ⟨.call (.fetchCandidates _), .ok listed⟩ => (listed.map DeviceCandidate.devEui).Nodup
  | _ => True

instance : DecidablePred Event.listsOnce
  | ⟨.call (.fetchCandidates _), .ok listed⟩ =>
    inferInstanceAs (Decidable (listed.map DeviceCandidate.devEui).Nodup)
  | ⟨.call (.fetchCandidates _), .error _⟩ | ⟨.call (.fetchSession _), _⟩
  | ⟨.call (.persist ..), _⟩ | ⟨.call (.allocate ..), _⟩ | ⟨.call (.resetAllocation ..), _⟩
  | ⟨.call (.fetchJoinInfo _), _⟩ | ⟨.call (.receive ..), _⟩ | ⟨.call (.settle ..), _⟩
  | ⟨.call (.sendTelemetry _), _⟩ | ⟨.clock, _⟩ | ⟨.wallClock, _⟩ | ⟨.draw, _⟩ | ⟨.race .., _⟩
  | ⟨.memory _, _⟩ | ⟨.start _, _⟩ => isTrue trivial

/-- The store lists no device twice. -/
def ListsOnce (history : List Moment) : Prop := ∀ m ∈ history, m.event.listsOnce

instance (history : List Moment) : Decidable (ListsOnce history) :=
  inferInstanceAs (Decidable (∀ m ∈ history, m.event.listsOnce))

/-- What a task was listed names no device twice. -/
theorem ListsOnce.listed_nodup {history : List Moment} (h : ListsOnce history) (task : TaskId) :
    ((findingsOf task history).listed.map DeviceCandidate.devEui).Nodup := by
  refine Contract.along_of_next
    (fun findings : Findings => (findings.listed.map DeviceCandidate.devEui).Nodup)
    List.nodup_nil fun m hmem findings hfindings => ?_
  have hlists := h m hmem
  show ((findings.next m.event).listed.map DeviceCandidate.devEui).Nodup
  unfold Findings.next
  split
  · rename_i hevent
    rw [hevent] at hlists
    exact hlists
  all_goals exact hfindings

/-- A loader that gathers goes on with it, until it has gathered. -/
theorem Stage.gathering_next {op : ServerOperation} {loader : LoaderId} {addr : DevAddr}
    {count : Nat} (h : (gathering loader addr count).Allows op) (answer : op.Answer) :
    (gathering loader addr count).next ⟨op, answer⟩ = gathering loader addr count ∨
      op = .memory (.gather loader count) := by
  cases op with
  | clock | wallClock | draw | race => exact .inl rfl
  | start activities =>
    obtain ⟨_, _, hstage, -⟩ | ⟨_, _, _, hstage, -⟩ := h <;> cases hstage
  | call request =>
    cases request with
    | fetchCandidates addr =>
      obtain ⟨_, hstage⟩ := h
      cases hstage
    | _ => exact .inl rfl
  | memory op =>
    cases op with
    | joinLoader | takeSlot | takeReply | closeQueue | deposit => cases h
    | leaveLoader =>
      obtain ⟨_, hstage | hstage⟩ := h <;> cases hstage
    | reply =>
      obtain ⟨_, _, hstage⟩ := h
      cases hstage
    | gather other total =>
      obtain ⟨_, hstage⟩ := h
      cases hstage
      exact .inr rfl
    | _ => exact .inl rfl

namespace ServerRun

variable {net : Network} {history moments : List Moment} {σ next : ServerState} {task : TaskId}
variable {loader : LoaderId} {place : Nat} {addr : DevAddr} {eui : Eui64}

/-- The stage of a task that was there moves on with what it does. -/
theorem roster_cases (run : ServerRun net history σ) (step : σ.Step net moments next) {job : Job}
    (hjob : σ.jobs[task]? = some job) :
    (next.roster (history ++ moments) task = σ.roster history task ∧
        ∀ m ∈ moments, m.task ≠ task) ∨
      ∃ m, moments = [m] ∧ m.task = task ∧ (σ.roster history task).Allows m.event.op ∧
        next.roster (history ++ moments) task = (σ.roster history task).next m.event := by
  obtain ⟨later, hlater, hsame⟩ := step.persists hjob
  rw [ServerState.roster_eq hlater, ServerState.roster_eq hjob, hsame]
  cases step with
  | wait | arrive | again =>
    rw [List.append_nil]
    exact .inl ⟨rfl, fun m hmem => nomatch hmem⟩
  | @perform performer activity op rest answer after found admitted =>
    rw [stageOf_snoc]
    split
    · rename_i htask
      refine .inr ⟨_, rfl, htask, ?_, rfl⟩
      dsimp only at htask
      subst htask
      rw [← ServerState.roster_eq hjob]
      exact (run.loading.jobs performer _ found).rules.1
    · rename_i htask
      exact .inl ⟨rfl, fun m hmem => List.mem_singleton.mp hmem ▸ htask⟩

/-- Whoever has to do with loading is there. -/
theorem exists_job_of_roster (h : σ.roster history task ≠ .idle) :
    ∃ job, σ.jobs[task]? = some job := by
  unfold ServerState.roster at h
  split at h
  · exact absurd rfl h
  · exact ⟨_, by assumption⟩

/-- Whoever is at work for a loader and does what nobody does for a candidate loads an address. -/
theorem loads_of_stage (run : ServerRun net history σ) {activity : Activity}
    {op : ServerOperation} {rest : op.Answer → Service Verdict}
    (found : σ.jobs[task]? = some ⟨activity, .perform op rest⟩)
    (hinside : (σ.roster history task).isOutside = false)
    (hop : ∀ loader place eui (stage : CandidateStage),
      ¬ stage.Allows net.config loader place eui op) :
    ∃ loader addr, activity = .loadAddress loader addr := by
  have houtside : activity.fromOutside ≠ true := by
    intro houtside
    have hstage := (run.loading.jobs task _ found).outside houtside
    rw [hinside] at hstage
    cases hstage
  cases activity with
  | loadAddress loader addr => exact ⟨loader, addr, rfl⟩
  | loadCandidate loader place addr eui =>
    exact absurd (run.keeps_candidate found rfl).1 (hop loader place eui _)
  | dispatch | resolve | handle | install | forgetDevice | forgetAddress =>
    exact absurd rfl houtside

/-- Who makes a loader unknown loads an address. -/
theorem loads_of_leaves (run : ServerRun net history σ) {activity : Activity}
    {rest : Unit → Service Verdict}
    (found : σ.jobs[task]? = some ⟨activity, .perform (.memory (.leaveLoader addr)) rest⟩) :
    ∃ loader addr, activity = .loadAddress loader addr := by
  refine run.loads_of_stage found ?_ fun _ _ _ _ h => h
  obtain ⟨loader, hstage | hstage⟩ := (run.loading.jobs task _ found).rules.1 <;> rw [hstage] <;> rfl

/-- How a task comes to load a candidate in a step: its loader has just started the candidates that
the store had listed. -/
structure Begins (σ : ServerState) (history moments : List Moment) (task starter : TaskId)
    (loader : LoaderId) (place : Nat) (addr : DevAddr) (eui : Eui64) : Prop where
  /-- The loader had asked the store. -/
  asked : σ.roster history starter = .asked loader addr
  /-- It started the candidates of its address. -/
  started : moments = [⟨starter, ⟨.start (Service.candidateActivities loader addr
    ((findingsOf starter history).listed.filter fun candidate => candidate.devAddr = addr)), ()⟩,
      σ.memory, σ.memory⟩]
  /-- The task is the new one for the place. -/
  task_eq : task = σ.jobs.length + place
  /-- The device is listed there. -/
  listed : (((findingsOf starter history).listed.filter fun candidate =>
    candidate.devAddr = addr).map DeviceCandidate.devEui)[place]? = some eui

/-- Who loads a candidate after a step did so before, or has just begun. -/
theorem loadsCandidate_cases (run : ServerRun net history σ) (step : σ.Step net moments next)
    (h : next.LoadsCandidate task loader place addr eui) :
    σ.LoadsCandidate task loader place addr eui ∨
      ∃ starter, Begins σ history moments task starter loader place addr eui := by
  obtain ⟨job, hjob, hloads⟩ := h
  rcases step.found_or_begun hjob (by rw [hloads]; rfl) with
    ⟨old, hold, hsame⟩ | ⟨starter, activity, activities, rest, found, hmoments, hlen, hlisted⟩
  · exact .inl ⟨old, hold, hsame.trans hloads⟩
  · rw [hloads] at hlisted
    have hasked := run.asked_of_candidate found (List.mem_of_getElem? hlisted)
    obtain ⟨one, other, rfl⟩ := run.loads_of_stage found (by rw [hasked]; rfl) fun _ _ _ _ h => h
    have hallows := (run.keeps_findings found trivial).1
    rcases hallows with ⟨_, _, rfl⟩ | ⟨one, other, rfl⟩
    · cases List.mem_singleton.mp (List.mem_of_getElem? hlisted)
    · rw [Service.candidateActivities, List.getElem?_mapIdx] at hlisted
      obtain ⟨candidate, hcandidate, heq⟩ := Option.map_eq_some_iff.mp hlisted
      obtain ⟨rfl, hplace, rfl, rfl⟩ := Activity.loadCandidate.inj heq
      have htask : task = σ.jobs.length + place := by
        rw [← hplace]
        exact (Nat.add_sub_cancel' hlen).symm
      refine .inr ⟨starter, hasked, hmoments, htask, ?_⟩
      rw [List.getElem?_map, ← hplace, hcandidate]
      rfl

end ServerRun

/-! ## One task for a candidate -/

/-- What holds of those who load candidates at every moment of a run. -/
structure ServerRun.Candidacy (history : List Moment) (σ : ServerState) : Prop where
  /-- The loader waits for a candidate until it is told of it. -/
  awaited : ∀ task loader place addr eui, σ.LoadsCandidate task loader place addr eui →
    candidateStage addr task history ≠ .told → ∃ gatherer count,
      σ.roster history gatherer = .gathering loader addr count ∧ place < count ∧
        ∀ load, ¬ σ.memory.Told loader place load
  /-- One task loads the candidate at a place. -/
  placed : ∀ one two loader place addr eui addr' eui',
    σ.LoadsCandidate one loader place addr eui → σ.LoadsCandidate two loader place addr' eui' →
      one = two
  /-- A loader has a device at one place. -/
  listed : ∀ one two loader place place' addr addr' eui,
    σ.LoadsCandidate one loader place addr eui → σ.LoadsCandidate two loader place' addr' eui →
      place = place'

namespace ServerRun.Candidacy

variable {net : Network} {history moments : List Moment} {σ next : ServerState} {task : TaskId}
variable {loader : LoaderId} {place : Nat} {addr : DevAddr} {eui : Eui64}

theorem boot (now : Instant) : Candidacy [] { now := now } where
  awaited _ _ _ _ _ h := by obtain ⟨_, hjob, -⟩ := h; cases hjob
  placed _ _ _ _ _ _ _ _ h := by obtain ⟨_, hjob, -⟩ := h; cases hjob
  listed _ _ _ _ _ _ _ _ h := by obtain ⟨_, hjob, -⟩ := h; cases hjob

/-- Nobody loads a candidate of a loader that is just starting. -/
theorem not_begins (run : ServerRun net history σ) {starter : TaskId}
    {place' : Nat} {addr' : DevAddr} {eui' : Eui64} {other : TaskId}
    (hold : σ.LoadsCandidate other loader place' addr' eui')
    (hnew : Begins σ history moments task starter loader place addr eui) : False := by
  obtain ⟨job, hjob, hloads⟩ := hold
  have horigins := run.origins
  have hstarted := horigins.candidates other job loader place' addr' eui' hjob hloads
  exact horigins.fresh starter loader (by rw [hnew.asked]; rfl) hstarted

/-- Those who begin in one step were started together. -/
theorem starter_eq {starter starter' task' : TaskId} {place' : Nat} {addr' : DevAddr} {eui' : Eui64}
    (hone : Begins σ history moments task starter loader place addr eui)
    (htwo : Begins σ history moments task' starter' loader place' addr' eui') :
    starter' = starter ∧ addr' = addr := by
  have hmoments := hone.started.symm.trans htwo.started
  have hstarter : starter = starter' := congrArg Moment.task (List.cons.inj hmoments).1
  have hasked := hone.asked
  rw [hstarter, htwo.asked] at hasked
  exact ⟨hstarter.symm, (Stage.asked.inj hasked).2⟩

/-- One task loads the candidate at a place. -/
theorem placed_of_run (run : ServerRun net history σ) {one two : TaskId}
    {addr' : DevAddr} {eui' : Eui64} (hone : σ.LoadsCandidate one loader place addr eui)
    (htwo : σ.LoadsCandidate two loader place addr' eui') : one = two := by
  induction run generalizing addr eui addr' eui' with
  | boot now => obtain ⟨_, hjob, -⟩ := hone; cases hjob
  | step run step ih =>
    rcases run.loadsCandidate_cases step hone with hold | ⟨starter, hnew⟩
    · rcases run.loadsCandidate_cases step htwo with hold' | ⟨_, hnew'⟩
      · exact ih hold hold'
      · exact (not_begins run hold hnew').elim
    · rcases run.loadsCandidate_cases step htwo with hold' | ⟨_, hnew'⟩
      · exact (not_begins run hold' hnew).elim
      · exact hnew.task_eq.trans hnew'.task_eq.symm

/-- A loader goes on to have a device at one place, if the store lists none twice. -/
theorem listed_step (h : Candidacy history σ) (run : ServerRun net history σ)
    (honce : ListsOnce history) (step : σ.Step net moments next)
    {one two : TaskId} {place' : Nat} {addr' : DevAddr}
    (hone : next.LoadsCandidate one loader place addr eui)
    (htwo : next.LoadsCandidate two loader place' addr' eui) : place = place' := by
  rcases run.loadsCandidate_cases step hone with hold | ⟨starter, hnew⟩
  · rcases run.loadsCandidate_cases step htwo with hold' | ⟨_, hnew'⟩
    · exact h.listed one two loader place place' addr addr' eui hold hold'
    · exact (not_begins run hold hnew').elim
  · rcases run.loadsCandidate_cases step htwo with hold' | ⟨starter', hnew'⟩
    · exact (not_begins run hold' hnew).elim
    · obtain ⟨hstarter, haddr⟩ := starter_eq hnew hnew'
      rw [hstarter, haddr] at hnew'
      have hnodup : (((findingsOf starter history).listed.filter fun candidate =>
          candidate.devAddr = addr).map DeviceCandidate.devEui).Nodup :=
        (honce.listed_nodup starter).sublist (List.filter_sublist.map _)
      obtain ⟨hlt, -⟩ := List.getElem?_eq_some_iff.mp hnew.listed
      exact (List.getElem?_inj hlt hnodup).mp (hnew.listed.trans hnew'.listed.symm)

/-- A loader goes on to wait for a candidate until it is told of it. -/
theorem awaited_step (h : Candidacy history σ) (run : ServerRun net history σ)
    (step : σ.Step net moments next)
    (hloads : next.LoadsCandidate task loader place addr eui)
    (hstage : candidateStage addr task (history ++ moments) ≠ .told) :
    ∃ gatherer count, next.roster (history ++ moments) gatherer = .gathering loader addr count ∧
      place < count ∧ ∀ load, ¬ next.memory.Told loader place load := by
  rcases run.loadsCandidate_cases step hloads with hold | ⟨starter, hnew⟩
  · obtain ⟨huntold, hsilent⟩ := run.untold_step step hloads hold hstage
    obtain ⟨gatherer, count, hgathers, hplace, hnot⟩ :=
      h.awaited task loader place addr eui hold huntold
    refine ⟨gatherer, count, ?_, hplace, fun load htold => ?_⟩
    · obtain ⟨job, hjob⟩ := exists_job_of_roster (by rw [hgathers]; nofun)
      rcases run.roster_cases step hjob with ⟨hsame, -⟩ | ⟨m, hmoments, rfl, hallows, hmoved⟩
      · rw [hsame, hgathers]
      · rw [hgathers] at hallows hmoved
        obtain ⟨performer, ⟨op, answer⟩, before, after⟩ := m
        rcases Stage.gathering_next hallows answer with hgoes | rfl
        · rw [hmoved, hgoes]
        · obtain ⟨activity, rest, -, admitted⟩ :=
            step.performs (hmoments ▸ List.mem_cons_self)
          obtain ⟨loads, hloaded, -⟩ := Option.map_eq_some_iff.mp admitted
          obtain ⟨load, -, htold⟩ := Memory.exists_told_of_gathered hloaded hplace
          exact absurd htold (hnot load)
    · rcases step.memory_cases with ⟨hsame, -⟩ | ⟨teller, op, answer, rfl, hperform⟩
      · exact hnot load (hsame ▸ htold)
      · rcases (Memory.queueChange_of_perform hperform).told_cases htold with hbefore | rfl
        · exact hnot load hbefore
        · obtain ⟨activity, rest, found, -⟩ := step.performs List.mem_cons_self
          obtain ⟨addr', eui', hactivity, -⟩ := run.allows_sight default found
          have hsame := h.placed teller task loader place addr' eui' addr eui
            ⟨_, found, hactivity⟩ hold
          exact hsilent _ List.mem_cons_self hsame loader place load rfl
  · obtain ⟨job, hjob⟩ := exists_job_of_roster (by rw [hnew.asked]; nofun)
    rcases run.roster_cases step hjob with ⟨-, hstill⟩ | ⟨m, hmoments, -, -, hmoved⟩
    · exact absurd rfl (hstill _ (hnew.started ▸ List.mem_cons_self))
    · rw [hnew.started] at hmoments
      obtain rfl := (List.cons.inj hmoments).1
      refine ⟨starter, _, hmoved.trans (Roster.next_candidates hnew.asked _), ?_,
        fun load htold => ?_⟩
      · have hlt := (List.getElem?_eq_some_iff.mp hnew.listed).1
        rw [List.length_map] at hlt
        rw [Service.candidateActivities, List.length_mapIdx]
        exact hlt
      · have horigins := run.origins
        have hstarted : Started history loader := by
          rcases step.memory_cases with ⟨hsame, -⟩ | ⟨_, op, answer, hperformed, -⟩
          · exact horigins.told loader place load (hsame ▸ htold)
          · rw [hnew.started] at hperformed
            cases congrArg (fun m : Moment => m.event.op) (List.cons.inj hperformed).1
        exact horigins.fresh starter loader (by rw [hnew.asked]; rfl) hstarted

/-- What holds of those who load candidates survives every step, if the store lists none twice. -/
theorem step (h : Candidacy history σ) (run : ServerRun net history σ)
    (honce : ListsOnce history) (step : σ.Step net moments next) :
    Candidacy (history ++ moments) next where
  awaited _ _ _ _ _ hloads hstage := h.awaited_step run step hloads hstage
  placed _ _ _ _ _ _ _ _ hone htwo := placed_of_run (run.step step) hone htwo
  listed _ _ _ _ _ _ _ _ hone htwo := h.listed_step run honce step hone htwo

/-- Two tasks that load a device for an address and have yet to tell are one. -/
theorem alone (h : Candidacy history σ) (run : ServerRun net history σ) {one two : TaskId}
    {loader' : LoaderId} {place' : Nat} (hone : σ.LoadsCandidate one loader place addr eui)
    (htwo : σ.LoadsCandidate two loader' place' addr eui)
    (hone' : candidateStage addr one history ≠ .told)
    (htwo' : candidateStage addr two history ≠ .told) : one = two := by
  obtain ⟨gatherer, count, hgathers, -⟩ := h.awaited one loader place addr eui hone hone'
  obtain ⟨gatherer', count', hgathers', -⟩ := h.awaited two loader' place' addr eui htwo htwo'
  have hsame : gatherer = gatherer' :=
    eq_of_known run.loading.fits.tied (by rw [hgathers]; rfl) (by rw [hgathers']; rfl)
  rw [hsame, hgathers'] at hgathers
  obtain ⟨rfl, -⟩ := Stage.gathering.inj hgathers
  obtain rfl := h.listed one two _ place place' addr addr eui hone htwo
  exact h.placed one two _ place addr eui addr eui hone htwo

end ServerRun.Candidacy

/-- Those who load candidates are as they should be at every moment of a run in which the store
lists no device twice. -/
theorem ServerRun.candidacy {net : Network} {history : List Moment} {σ : ServerState}
    (run : ServerRun net history σ) (honce : ListsOnce history) :
    Candidacy history σ := by
  induction run with
  | boot now => exact .boot now
  | step run step ih =>
    have hbefore : ListsOnce _ := fun m hmem => honce m (List.mem_append_left _ hmem)
    exact (ih hbefore).step run hbefore step

end LoraNetwork
