import LoraNetwork.Proofs.Loader.Renewal
import LoraNetwork.Proofs.Registry.Entries
import LoraNetwork.Proofs.Registry.Replacement

/-!
# What a failed candidate leaves behind

A loader that could not fetch one of its candidates says so to the frames that waited, if no other
candidate was loaded, and publishes nothing. Then the next frame of the address makes the server ask
the store again. But if another candidate was loaded, the loader publishes what it has. From then on
the address is cached without the candidate that failed, and its frames are turned down without a
question to the store for as long as the entry lives.
-/

namespace LoraNetwork

/-- A loader of an address has come to its end, and the record of one of its candidates could not be
fetched. -/
structure ServerState.FailedLoad (σ : ServerState) (history : List Moment)
    (loading fetching : TaskId) (loader : LoaderId) (addr : DevAddr) (place : Nat) (eui : Eui64)
    (loads : List CandidateLoad) : Prop where
  /-- The loader has come to its end. -/
  ended : ∃ verdict, σ.jobs[loading]? = some ⟨.loadAddress loader addr, .done verdict⟩
  /-- It gathered what became of its candidates. -/
  gathered : ∃ count, ⟨.memory (.gather loader count), loads⟩ ∈ eventsOf loading history
  /-- The device is the candidate at a place. -/
  candidate : σ.LoadsCandidate fetching loader place addr eui
  /-- There is such a place. -/
  place_lt : place < loads.length
  /-- The store failed for its record, or did not answer in time. -/
  failed : (eventsOf fetching history).any (Event.failsToFetch eui) = true

/-- The device of a frame was looked for in an entry of its address, and the resolution is what the
comparison with the devices of the entry came to. -/
structure LookedIn (net : Network) (history : List TimedMoment) (task : TaskId) (frame : DataFrame)
    (resolution : Resolution) (look : TimedMoment) (handles : List DeviceHandle) : Prop where
  /-- The entry was looked up. -/
  mem : look ∈ history
  /-- The task of the frame did so. -/
  task_eq : look.moment.task = task
  /-- It found the devices. -/
  found : look.moment.event = ⟨.memory (.lookUpAddress frame.devAddr), some handles⟩
  /-- It compared the frame with them. -/
  compared : ∃ reads, (Service.authenticate net frame handles).Trace reads resolution ∧
    ∀ event ∈ reads, event ∈ eventsOf task (untimed history)

/-- How the device of a frame was looked for after a loader of its address had come to its end. -/
inductive Reconsidered (net : Network) (history : List TimedMoment) (loading : TaskId)
    (loader : LoaderId) (loads : List CandidateLoad) (task : TaskId) (frame : DataFrame)
    (resolution : Resolution) : Prop where
  /-- After the loader had left the store was asked again, and the resolution is the reply of who
  asked. -/
  | asked {before after : List Moment} {leave ask reply : Moment}
      (parts : untimed history = before ++ leave :: after) (left : leave.task = loading)
      (leaves : leave.event.leaves frame.devAddr = true) (again : [ask, reply].Sublist after)
      (asks : ask.event.asksFor frame.devAddr = true) (same : reply.task = ask.task)
      (replies : reply.event.op = .memory (.reply task resolution))
  /-- The device was looked for in an entry that another task had stored since the loader was made
  known. -/
  | other {look store found : TimedMoment} {handles : List DeviceHandle}
      {before after : List TimedMoment}
      (looked : LookedIn net history task frame resolution look handles)
      (parts : history = before ++ found :: after)
      (founds : Founded [found.moment] loader frame.devAddr) (mem : store ∈ after)
      (stores : store.moment.event.op = .memory (.storeAddress frame.devAddr handles))
      (others : store.moment.task ≠ loading)
  /-- The device was looked for in the entry that the loader had stored: it holds the devices of the
  candidates that were loaded, there are some, and it was still alive. -/
  | published {look store : TimedMoment} {handles : List DeviceHandle}
      (looked : LookedIn net history task frame resolution look handles)
      (mem : store ∈ history) (own : store.moment.task = loading)
      (stores : store.moment.event.op = .memory (.storeAddress frame.devAddr handles))
      (alive : store.time ≤ look.time ∧
        look.time < store.time + (Duration.ofMillis net.config.addressLifetime : Nat))
      (devices : handles = loads.filterMap Service.handleOf) (some : handles ≠ [])

/-- A search that came to a resolution looked into an entry or took a reply. -/
theorem Service.resolve_cases {net : Network} {frame : DataFrame} {resolution : Resolution}
    {events : List (Event serverInterface)}
    (h : ((Activity.resolve frame).program net).Trace events (.resolved resolution)) :
    (∃ handles reads, events = ⟨.memory (.lookUpAddress frame.devAddr), some handles⟩ :: reads ∧
        (Service.authenticate net frame handles).Trace reads resolution) ∨
      ⟨.memory .takeReply, resolution⟩ ∈ events := by
  obtain ⟨found, first, second, hfirst, hsecond, rfl⟩ := Program.trace_bind.mp h
  obtain ⟨rfl, hverdict⟩ := Program.trace_done.mp hsecond
  have hfound : found = some resolution := by
    cases found with
    | none => cases hverdict
    | some reached => rw [Verdict.resolved.inj hverdict]
  subst hfound
  obtain ⟨cached, later, rfl, hlooked⟩ := Program.trace_perform.mp hfirst
  rw [List.append_nil]
  cases cached with
  | some handles =>
    rw [Program.done_bind] at hlooked
    obtain ⟨reached, reads, last, hreads, hlast, rfl⟩ := Program.trace_bind.mp hlooked
    obtain ⟨rfl, heq⟩ := Program.trace_done.mp hlast
    obtain rfl := Option.some.inj heq
    exact .inl ⟨handles, reads, by rw [List.append_nil], hreads⟩
  | none =>
    obtain ⟨joined, last, rfl, hjoined⟩ := Program.trace_perform.mp hlooked
    cases joined with
    | again =>
      obtain ⟨-, heq⟩ := Program.trace_done.mp hjoined
      cases heq
    | queued =>
      obtain ⟨reply, rest, rfl, htaken⟩ := Program.trace_perform.mp hjoined
      obtain ⟨rfl, heq⟩ := Program.trace_done.mp htaken
      obtain rfl := Option.some.inj heq
      exact .inr (by simp)
    | started loader =>
      obtain ⟨_, rest, rfl, hstarted⟩ := Program.trace_perform.mp hjoined
      obtain ⟨reply, rest, rfl, htaken⟩ := Program.trace_perform.mp hstarted
      obtain ⟨rfl, heq⟩ := Program.trace_done.mp htaken
      obtain rfl := Option.some.inj heq
      exact .inr (by simp)

namespace TimedRun

variable {net : Network} {history before between after : List TimedMoment} {σ : ServerState}
variable {look found leave : TimedMoment} {task loading : TaskId} {loader : LoaderId}
variable {frame : DataFrame} {addr : DevAddr} {verdict : Verdict} {resolution : Resolution}
variable {handles : List DeviceHandle}

/-- A loader that came to its end was made known, and has left later. -/
theorem left_of_ended (timed : TimedRun net history σ)
    (ended : σ.jobs[loading]? = some ⟨.loadAddress loader addr, .done verdict⟩) :
    ∃ before found between leave after,
      history = before ++ found :: (between ++ leave :: after) ∧
        Founded [found.moment] loader addr ∧ leave.moment.task = loading ∧
          leave.moment.event.leaves addr = true := by
  have hjob := timed.run.loading.jobs loading _ ended
  have hleft : HasLeft loading addr (untimed history) := by
    refine (hjob.runs loader addr rfl).resolve_left fun hruns => ?_
    rcases hjob.rules.1 with hstage | hstage | hstage <;> rw [hstage] at hruns <;> cases hruns
  obtain ⟨m, hmem, rfl, hleaves⟩ := hleft
  obtain ⟨leave, hleave, rfl⟩ := mem_untimed.mp hmem
  obtain ⟨earlier, after, rfl⟩ := List.append_of_mem hleave
  -- The task of the loader was there when it left, so the loader was known before.
  obtain ⟨first, next, hearlier, -, step, hreaches⟩ := timed.exists_step
  obtain ⟨activity, rest, hloads, -⟩ := step.performs List.mem_cons_self
  have hsame := (hreaches.head step).activity_eq hloads ended
  obtain ⟨m, hmem, hfounds⟩ :=
    hearlier.run.origins.loads _ _ loader addr hloads hsame.symm
  obtain ⟨found, hfound, rfl⟩ := mem_untimed.mp hmem
  obtain ⟨before, between, rfl⟩ := List.append_of_mem hfound
  exact ⟨before, found, between, leave, after, by simp,
    ⟨found.moment, List.mem_cons_self, hfounds⟩, rfl, hleaves⟩

/-- An entry that is looked up after a loader of the address was made known was stored since. -/
theorem stored_since_founded
    (timed : TimedRun net (before ++ found :: (between ++ look :: after)) σ)
    (hfounds : Founded [found.moment] loader addr)
    (hlook : look.moment.event = ⟨.memory (.lookUpAddress addr), some handles⟩) :
    ∃ store ∈ between, store.moment.event.op = .memory (.storeAddress addr handles) ∧
      store.time ≤ look.time ∧
        look.time < store.time + (Duration.ofMillis net.config.addressLifetime : Nat) := by
  rw [← List.cons_append, ← List.append_assoc] at timed
  obtain ⟨σl, next, hlooks, hnow, step, -⟩ := timed.exists_step
  obtain ⟨σf, reached, hfirst, hthen, founding, -⟩ := hlooks.exists_step
  have hentry : σl.memory.addressEntry net.config σl.now addr = some handles := by
    obtain ⟨activity, rest, -, admitted⟩ := step.performs List.mem_cons_self
    rw [hlook] at admitted
    exact (Prod.mk.inj (Option.some.inj admitted)).1
  have hcold : (σf.memory.addressEntry net.config σf.now addr).isSome = false := by
    obtain ⟨activity, rest, -, admitted⟩ := founding.performs List.mem_cons_self
    obtain ⟨m, hmem, one, rfl, hevent⟩ := hfounds
    rw [← List.mem_singleton.mp hmem, hevent] at admitted
    have hjoins := Memory.joins_of_perform admitted
    generalize reached.memory = memory at hjoins
    cases hjoins with
    | started unknown cold => exact cold
  have htime := hlooks.time_le
  obtain ⟨store, hmem, hstores, halive⟩ := hlooks.stored_of_entry hfirst
    (hthen ▸ htime found (by simp)) hcold hentry
  refine ⟨store, (List.mem_cons.mp hmem).resolve_left ?_, hstores,
    hnow ▸ htime store (List.mem_append_right _ hmem), hnow ▸ halive⟩
  rintro rfl
  obtain ⟨m, hmem, one, -, hevent⟩ := hfounds
  rw [← List.mem_singleton.mp hmem, hevent] at hstores
  cases hstores

/-- A task that does nothing before the last thing that another one does has done nothing when that
one has left. -/
theorem silent_of_later
    (later : (untimed (before ++ leave :: after)).Pairwise
      fun one two => one.task = task → two.task ≠ loading)
    (hleft : leave.moment.task = loading) (hne : loading ≠ task) :
    ∀ d ∈ before ++ [leave], d.moment.task ≠ task := by
  rw [untimed, List.pairwise_map] at later
  intro d hmem htask
  rcases List.mem_append.mp hmem with hearlier | hlast
  · exact (List.pairwise_append.mp later).2.2 d hearlier leave List.mem_cons_self htask hleft
  · rw [List.mem_singleton.mp hlast, hleft] at htask
    exact hne htask

/-- Whoever finds an entry after a loader has left finds one that was stored since the loader was
made known, by another task or by the loader. -/
theorem reconsidered_of_looked {count : Nat} {loads : List CandidateLoad}
    (timed : TimedRun net (before ++ found :: (between ++ leave :: after)) σ)
    (ended : σ.jobs[loading]? = some ⟨.loadAddress loader frame.devAddr, .done verdict⟩)
    (gathered : ⟨.memory (.gather loader count), loads⟩ ∈
      eventsOf loading (untimed (before ++ found :: (between ++ leave :: after))))
    (hfounds : Founded [found.moment] loader frame.devAddr)
    (hnew : ∀ d ∈ (before ++ found :: between) ++ [leave], d.moment.task ≠ task)
    (looked : LookedIn net (before ++ found :: (between ++ leave :: after)) task frame resolution
      look handles) :
    Reconsidered net (before ++ found :: (between ++ leave :: after)) loading loader loads task
      frame resolution := by
  obtain ⟨first, rest, hparts⟩ := List.append_of_mem looked.mem
  have hwhole : ((before ++ found :: between) ++ [leave]) ++ after = first ++ look :: rest := by
    rw [← hparts]
    simp
  obtain ⟨left, -, rfl⟩ := exists_of_not_mem_left hwhole fun hmem =>
    hnew look hmem looked.task_eq
  have hsearch : TimedRun net
      (before ++ found :: ((between ++ leave :: left) ++ look :: rest)) σ := by
    simpa using timed
  obtain ⟨store, hstore, hop, hle, halive⟩ := hsearch.stored_since_founded hfounds looked.found
  have hstored : store ∈ between ++ leave :: (left ++ look :: rest) := by
    rw [← List.cons_append, ← List.append_assoc]
    exact List.mem_append_left _ hstore
  by_cases hown : store.moment.task = loading
  · have hmem := List.mem_append_right before (List.mem_cons_of_mem found hstored)
    obtain ⟨hdevices, hsome⟩ := Activity.devices_of_loader
      (timed.run.program_reaches_of_once ended Activity.loader_once) gathered
      (mem_eventsOf.mpr ⟨store.moment, mem_untimed.mpr ⟨store, hmem, rfl⟩, hown, rfl⟩) hop
    exact .published looked hmem hown hop ⟨hle, halive⟩ hdevices hsome
  · exact .other looked rfl hfounds hstored hop hown

/-- Whoever takes a reply after a loader has left takes it from a task that asked the store anew. -/
theorem reconsidered_of_taken {loads : List CandidateLoad}
    (timed : TimedRun net (before ++ leave :: after) σ)
    (resolved : σ.jobs[task]? = some ⟨.resolve frame, .done (.resolved resolution)⟩)
    (hleft : leave.moment.task = loading) (hleaves : leave.moment.event.leaves frame.devAddr = true)
    (hnew : ∀ d ∈ before ++ [leave], d.moment.task ≠ task)
    (htakes : ⟨.memory .takeReply, resolution⟩ ∈
      eventsOf task (untimed (before ++ leave :: after))) :
    Reconsidered net (before ++ leave :: after) loading loader loads task frame resolution := by
  have hparts : untimed (before ++ leave :: after) =
      untimed before ++ leave.moment :: untimed after := by simp [untimed]
  have hsilent : ∀ m ∈ untimed before ++ [leave.moment], m.task ≠ task := by
    intro m hmem
    obtain ⟨d, hd, rfl⟩ := mem_untimed.mp
      (show m ∈ untimed (before ++ [leave]) by simpa [untimed] using hmem)
    exact hnew d hd
  have run := timed.run
  rw [hparts] at run htakes
  obtain ⟨ask, reply, hagain, hasks, hsame, hop⟩ :=
    run.asked_again hleaves hsilent resolved rfl htakes
  exact .asked hparts hleft hleaves hagain hasks hsame hop

/-- If the record of a candidate could not be fetched, the candidate counts as failed. Whoever looks
for the device of a frame of the address when the loader has come to its end, and comes to a
resolution, has either been replied to by a task that asked the store anew, or found an entry that
was stored since the loader was made known. If the loader stored it, it holds the devices of the
candidates that were loaded, there are some, and the entry had not come to the end of its life; so a
loader that loaded none leaves nothing behind. -/
theorem reconsidered_after_failure (timed : TimedRun net history σ) {place : Nat}
    {loads : List CandidateLoad} {fetching : TaskId} {eui : Eui64}
    (failure : σ.FailedLoad (untimed history) loading fetching loader frame.devAddr place eui loads)
    (resolved : σ.jobs[task]? = some ⟨.resolve frame, .done (.resolved resolution)⟩)
    (later : (untimed history).Pairwise fun one two => one.task = task → two.task ≠ loading) :
    loads[place]? = some .failed ∧
      Reconsidered net history loading loader loads task frame resolution := by
  obtain ⟨⟨verdict, ended⟩, ⟨count, gathered⟩, candidate, hplace, fails⟩ := failure
  have hfailed : loads[place]? = some .failed := by
    obtain ⟨m, hmem, -, hgathers⟩ := mem_eventsOf.mp gathered
    have htold := List.getElem?_eq_getElem hplace
    rw [htold, timed.run.failed_of_gathered hmem hgathers htold candidate fails]
  refine ⟨hfailed, ?_⟩
  obtain ⟨before, found, between, leave, after, rfl, hfounds, hleft, hleaves⟩ :=
    timed.left_of_ended ended
  have hne : loading ≠ task := by
    rintro rfl
    rw [ended] at resolved
    cases resolved
  have hparts : before ++ found :: (between ++ leave :: after) =
      (before ++ found :: between) ++ leave :: after := by simp
  have hnew := silent_of_later (hparts ▸ later) hleft hne
  obtain ⟨earlier, last, hevents, hprogram, -⟩ := timed.run.program_reaches resolved
  have hlast : ∀ event ∈ last, event ∈ eventsOf task
      (untimed (before ++ found :: (between ++ leave :: after))) := by
    intro event hmem
    rw [hevents]
    exact List.mem_append_right _ hmem
  rcases Service.resolve_cases hprogram with ⟨handles, reads, rfl, hreads⟩ | htakes
  · obtain ⟨m, hmem, htask, hlook⟩ := mem_eventsOf.mp (hlast _ List.mem_cons_self)
    obtain ⟨look, hlooks, rfl⟩ := mem_untimed.mp hmem
    exact timed.reconsidered_of_looked ended gathered hfounds hnew
      ⟨hlooks, htask, hlook, reads, hreads, fun event hread =>
        hlast event (List.mem_cons_of_mem _ hread)⟩
  · have htaken := hlast _ htakes
    rw [hparts] at timed htaken ⊢
    exact timed.reconsidered_of_taken resolved hleft hleaves hnew htaken

end TimedRun

/-! ## Loads that were played -/

/-- The task was the loader of an address and has come to its end. -/
def Job.hasLoaded (loader : LoaderId) (addr : DevAddr) : Job → Bool
  | ⟨.loadAddress other known, .done _⟩ => decide (other = loader ∧ known = addr)
  | _ => false

/-- The task loads the candidate at a place of a loader. -/
def Job.loadsCandidate (loader : LoaderId) (place : Nat) (addr : DevAddr) (eui : Eui64) :
    Job → Bool
  | ⟨.loadCandidate other spot known candidate, _⟩ =>
      decide (other = loader ∧ spot = place ∧ known = addr ∧ candidate = eui)
  | _ => false

/-- A loader gathered what became of its candidates. -/
def Event.gathers (loader : LoaderId) (loads : List CandidateLoad) : Event serverInterface → Bool
  | ⟨.memory (.gather other _), told⟩ => decide (other = loader ∧ told = loads)
  | _ => false

theorem Job.eq_of_hasLoaded {loader : LoaderId} {addr : DevAddr} {job : Job}
    (h : job.hasLoaded loader addr = true) :
    ∃ verdict, job = ⟨.loadAddress loader addr, .done verdict⟩ := by
  unfold hasLoaded at h
  split at h
  · obtain ⟨rfl, rfl⟩ := of_decide_eq_true h
    exact ⟨_, rfl⟩
  · cases h

theorem Job.activity_of_loadsCandidate {loader : LoaderId} {place : Nat} {addr : DevAddr}
    {eui : Eui64} {job : Job} (h : job.loadsCandidate loader place addr eui = true) :
    job.activity = .loadCandidate loader place addr eui := by
  unfold loadsCandidate at h
  split at h
  · obtain ⟨rfl, rfl, rfl, rfl⟩ := of_decide_eq_true h
    rfl
  · cases h

theorem Event.eq_of_gathers {loader : LoaderId} {loads : List CandidateLoad}
    {event : Event serverInterface} (h : event.gathers loader loads = true) :
    ∃ count, event = ⟨.memory (.gather loader count), loads⟩ := by
  unfold gathers at h
  split at h
  · obtain ⟨rfl, rfl⟩ := of_decide_eq_true h
    exact ⟨_, rfl⟩
  · cases h

namespace ServerState

variable {σ : ServerState} {history : List Moment} {loading fetching : TaskId} {loader : LoaderId}
variable {addr : DevAddr} {place : Nat} {eui : Eui64} {loads : List CandidateLoad}

/-- Whether a loader of an address has come to its end that could not fetch a candidate. -/
def hasFailed (σ : ServerState) (history : List Moment) (loading fetching : TaskId)
    (loader : LoaderId) (addr : DevAddr) (place : Nat) (eui : Eui64)
    (loads : List CandidateLoad) : Bool :=
  σ.jobs[loading]?.any (Job.hasLoaded loader addr) &&
  (eventsOf loading history).any (Event.gathers loader loads) &&
  σ.jobs[fetching]?.any (Job.loadsCandidate loader place addr eui) &&
  decide (place < loads.length) &&
  (eventsOf fetching history).any (Event.failsToFetch eui)

theorem failedLoad_of_hasFailed
    (h : σ.hasFailed history loading fetching loader addr place eui loads = true) :
    σ.FailedLoad history loading fetching loader addr place eui loads := by
  simp only [hasFailed, Bool.and_eq_true] at h
  obtain ⟨⟨⟨⟨hended, hgathers⟩, hloads⟩, hplace⟩, hfails⟩ := h
  obtain ⟨job, hjob, hended⟩ := (Option.any_eq_true _ _).mp hended
  obtain ⟨verdict, rfl⟩ := Job.eq_of_hasLoaded hended
  obtain ⟨event, hmem, hgathers⟩ := List.any_eq_true.mp hgathers
  obtain ⟨count, rfl⟩ := Event.eq_of_gathers hgathers
  obtain ⟨candidate, hcandidate, hloads⟩ := (Option.any_eq_true _ _).mp hloads
  exact ⟨⟨verdict, hjob⟩, ⟨count, hmem⟩,
    ⟨candidate, hcandidate, Job.activity_of_loadsCandidate hloads⟩, of_decide_eq_true hplace,
    hfails⟩

end ServerState

namespace Sample

/-- A store that knows some devices and does not answer in time when it is asked for the record of
one of them. -/
def storeWithout (eui : Eui64) (records : List SessionRecord) :
    (request : Request) → request.Answer
  | .fetchSession other =>
      if other = eui then .error .timeout else store records (.fetchSession other)
  | request => store records request

/-- A server to which something happened, from its start. -/
def played (moves : List ServerState.Move) : List Moment × ServerState :=
  ServerState.play keyed moves ([], { now := 0 })

theorem run_played (moves : List ServerState.Move) :
    ServerRun keyed (played moves).1 (played moves).2 :=
  (ServerRun.boot 0).reaches (.play moves .start)

/-- The record of the only device of an address cannot be fetched; then the store answers again, and
the next frame of the device is looked for. -/
def retried : List Moment × ServerState :=
  played [.arrive (.resolve (frameOf 2)),
    .turns (storeWithout two.devEui [two]) [0, 0, 0, 1, 1, 2, 2, 2, 2, 1, 1, 1, 1, 0],
    .arrive (.resolve (frameOf 2)),
    .turns (store [two]) [3, 3, 3, 4, 4, 5, 5, 5, 5, 5, 5, 4, 4, 4, 4, 4, 4, 3]]

end Sample

/-- A device whose record could not be fetched in time is looked for anew when its next frame comes,
since no other device of the address was loaded. -/
theorem TimedRun.reconsidered_after_timeout : ∃ history, untimed history = Sample.retried.1 ∧
    Reconsidered Sample.keyed history 1 0 [.failed] 3 (Sample.frameOf 2)
      (.ok (Sample.handleOf 0 Sample.two)) := by
  have run : ServerRun Sample.keyed Sample.retried.1 Sample.retried.2 :=
    Sample.run_played _
  obtain ⟨history, hsame, timed⟩ := TimedRun.exists_of_run run
  have hfailed : Sample.retried.2.hasFailed Sample.retried.1 1 2 0 (Sample.frameOf 2).devAddr 0
      Sample.two.devEui [.failed] = true := by decide +kernel
  have hfound : (Sample.retried.2.jobs[3]?.any fun job => job.looksFor (Sample.frameOf 2) &&
      job.resolution? = some (.ok (Sample.handleOf 0 Sample.two))) = true := by decide +kernel
  have hlater : Sample.retried.1.Pairwise fun one two => one.task = 3 → two.task ≠ 1 := by
    decide +kernel
  obtain ⟨⟨activity, rest⟩, hjob, hfound⟩ := (Option.any_eq_true _ _).mp hfound
  obtain ⟨hasks, hresolution⟩ := Bool.and_eq_true_iff.mp hfound
  obtain rfl := Job.activity_of_looksFor hasks
  obtain rfl := Job.rest_of_resolution (of_decide_eq_true hresolution)
  rw [← hsame] at hfailed hlater
  exact ⟨history, hsame,
    (reconsidered_after_failure timed (ServerState.failedLoad_of_hasFailed hfailed) hjob hlater).2⟩

/-! ## Devices that are hidden -/

/-- A frame is turned down without a question to the store: everything had come to its end, a loader
of the address had not been able to fetch the record of the device that signed the frame, and the
store has the record and lists it by now. -/
structure ServerRun.HiddenByFailure (net : Network)
    (answers : (request : Request) → request.Answer) (record : SessionRecord) (frame : DataFrame)
    (history : List Moment) (σ : ServerState) (later : List Moment) (reached : ServerState) :
    Prop where
  /-- A server ran. -/
  run : ServerRun net history σ
  /-- Everything came to its end. -/
  ended : ∀ job ∈ σ.jobs, ∃ verdict, job.rest = .done verdict
  /-- A loader could not fetch the record of the device. -/
  failed : ∃ loading fetching loader place loads,
    σ.FailedLoad history loading fetching loader frame.devAddr place record.devEui loads
  /-- The store lists the device by now. -/
  listed : ∃ candidates, answers (.fetchCandidates frame.devAddr) = .ok candidates ∧
    ⟨frame.devAddr, record.devEui⟩ ∈ candidates
  /-- It has its record. -/
  held : answers (.fetchSession record.devEui) = .ok (some record)
  /-- The device signed the frame. -/
  signed : (Device.ofSession (.ofRecord net.config record)).authenticates net.suite frame = true
  /-- The device of the frame is looked for. -/
  asked : ∃ tasks, ServerState.turns net answers tasks ([], σ.launch net [.resolve frame]) =
    (later, reached)
  /-- Nobody asks the store. -/
  cached : ∀ m ∈ later, m.event.op.isLocal = true
  /-- The frame is turned down. -/
  refused : ∃ job, reached.jobs[σ.jobs.length]? = some job ∧ job.activity = .resolve frame ∧
    job.rest = .done (.resolved (.error .notMatchingDeviceByAddress))

namespace Sample

/-- The record of the second device of an address cannot be fetched while a frame of the first one
is looked for. -/
def halfLoaded : List Moment × ServerState :=
  played [.arrive (.resolve (frameOf 1)),
    .turns (storeWithout two.devEui [one, two])
      [0, 0, 0, 1, 1, 2, 2, 2, 2, 2, 2, 3, 3, 3, 3, 1, 1, 1, 1, 1, 1, 0]]

/-- Then the store answers again, and a frame of the second device is looked for. -/
def turnedDown : List Moment × ServerState :=
  ServerState.turns keyed (store [one, two]) [4, 4]
    ([], halfLoaded.2.launch keyed [.resolve (frameOf 2)])

end Sample

/-- A device whose record could not be fetched is hidden by another one of its address that was
loaded: its next frame is turned down although the store answers again. -/
theorem ServerRun.exists_hidden_by_failure : ∃ answers history σ later reached,
    HiddenByFailure Sample.keyed answers Sample.two (Sample.frameOf 2) history σ later reached := by
  have hended : Sample.halfLoaded.2.jobs.all Job.isFinished = true := by decide +kernel
  have hfailed : Sample.halfLoaded.2.hasFailed Sample.halfLoaded.1 1 3 0
      (Sample.frameOf 2).devAddr 1 Sample.two.devEui
      [.loaded (Sample.handleOf 0 Sample.one), .failed] = true := by decide +kernel
  have hrefused : (Sample.turnedDown.2.jobs[4]?.any fun job =>
      job.looksFor (Sample.frameOf 2) &&
        job.resolution? = some (.error .notMatchingDeviceByAddress)) = true := by decide +kernel
  obtain ⟨job, hjob, hrefused⟩ := (Option.any_eq_true _ _).mp hrefused
  obtain ⟨hasks, hresolution⟩ := Bool.and_eq_true_iff.mp hrefused
  exact ⟨Sample.store [Sample.one, Sample.two], Sample.halfLoaded.1, Sample.halfLoaded.2,
    Sample.turnedDown.1, Sample.turnedDown.2, {
      run := Sample.run_played _
      ended := fun job hmem => Job.exists_of_isFinished (List.all_eq_true.mp hended job hmem)
      failed := ⟨1, 3, 0, 1, _, ServerState.failedLoad_of_hasFailed hfailed⟩
      listed := ⟨_, rfl, by decide +kernel⟩
      held := by decide +kernel
      signed := by decide +kernel
      asked := ⟨[4, 4], rfl⟩
      cached := by decide +kernel
      refused := ⟨job, hjob, Job.activity_of_looksFor hasks,
        Job.rest_of_resolution (of_decide_eq_true hresolution)⟩ }⟩

end LoraNetwork
