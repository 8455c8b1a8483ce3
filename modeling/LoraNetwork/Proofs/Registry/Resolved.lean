import LoraNetwork.Proofs.Registry.Finding
import LoraNetwork.Proofs.Registry.Restarts
import LoraNetwork.Proofs.Server.Authenticity

/-!
# Frames of a device that joined

A device that joined stays reachable: when the loads of its address that were under way have come to
their end, every task that looks for the device of one of its frames from then on finds it, whatever
runs beside it. Two things are asked for. No other device of the address signed the frame, since the
first that did is taken. And nobody who was at work when the device joined stores afterwards what
was read without it, since entries and sessions are replaced as a whole; five runs show what happens
otherwise.
-/

namespace LoraNetwork

namespace ServerRun

variable {net : Network} {handle : DeviceHandle} {frame : DataFrame} {joined : TaskId}
variable {history later last : List Moment} {σ τ υ : ServerState} {task : TaskId} {job : Job}

/-- In a calm stretch after the loads of an address have come to their end, later tasks find the
device. -/
theorem finding_of_calm (run : ServerRun net (history ++ later) τ)
    (kept : τ.Kept net handle joined history later)
    (loaded : ∀ (task : TaskId) (job : Job), τ.jobs[task]? = some job →
      job.activity.Loads handle.card.devAddr → ∃ verdict, job.rest = .done verdict)
    (calm : τ.Calm net handle joined history later last υ)
    (haddr : frame.devAddr = handle.card.devAddr)
    (agrees : ∀ m ∈ last, m.event.Agrees net handle frame) :
    υ.Finding net handle frame τ.jobs.length (history ++ (later ++ last)) := by
  induction calm with
  | start =>
    rw [List.append_nil]
    have hnone : ∀ {task : TaskId} {job : Job}, τ.jobs.length ≤ task →
        ¬ τ.jobs[task]? = some job := fun hle hjob =>
      Nat.not_lt.mpr hle (List.getElem?_eq_some_iff.mp hjob).1
    exact ⟨Nat.le_refl _, fun task job _ hjob hloads => loaded task job hjob (haddr ▸ hloads),
      fun _ _ hle hjob => absurd hjob (hnone hle), fun _ _ _ hle hjob => absurd hjob (hnone hle)⟩
  | @step last moments reached next calm step serves harmless ih =>
    obtain ⟨hrun, hkept⟩ := calm.kept run kept
    have hfinding := ih fun m hmem => agrees m (List.mem_append_left _ hmem)
    have hnext := hfinding.step hrun hkept step serves
      (fun m hmem => agrees m (List.mem_append_right _ hmem)) kept.grown haddr
    rw [List.append_assoc, List.append_assoc] at hnext
    exact hnext

/-- A device that joined stays reachable. A join stored its session as the last one and settled its
address; from then on its session is served and nobody harms it; and then the loads of its address
that were under way have come to their end. Whoever looks for the device of a frame from then on
finds it, if it signed the frame and is the only one of its address to do so: the search does not
end with anything else, is never left waiting when no load can go on, and has to look at the cache
again once at most as long as the entry stays. -/
theorem resolved_after_join (run : ServerRun net history σ) (hjoined : σ.Joined history handle)
    (calm : σ.Calm net handle σ.jobs.length history [] later τ)
    (loaded : ∀ (task : TaskId) (job : Job), τ.jobs[task]? = some job →
      job.activity.Loads handle.card.devAddr → ∃ verdict, job.rest = .done verdict)
    (calm' : τ.Calm net handle σ.jobs.length history later last υ)
    (haddr : frame.devAddr = handle.card.devAddr)
    (agrees : ∀ m ∈ last, m.event.Agrees net handle frame)
    (hnew : τ.jobs.length ≤ task) (hjob : υ.jobs[task]? = some job)
    (hactivity : job.activity = .resolve frame) :
    (∀ verdict, job.rest = .done verdict →
      verdict = .again ∨ verdict = .resolved (.ok handle)) ∧
    (υ.LoadersRest net → job.rest = .done (.resolved (.ok handle)) ∨ job.rest = .done .again ∨
      υ.CanGoOn net task) ∧
    (EntryStays handle.card.devAddr last → restarts handle.card.devAddr task last ≤ 1) := by
  have hstart := hjoined.kept run
  rw [← List.append_nil history] at run
  obtain ⟨hrun, hkept⟩ := calm.kept run hstart
  have hfinding := finding_of_calm hrun hkept loaded calm' haddr agrees
  obtain ⟨hrun', -⟩ := calm'.kept hrun hkept
  refine ⟨fun verdict hdone => ?_, hfinding.found_or_goesOn hrun' hnew hjob hactivity,
    fun hstays => ?_⟩
  · have hkeeps := hfinding.keeps task job hnew hjob (.inl hactivity)
    rw [hdone] at hkeeps
    exact hkeeps hactivity
  · rw [← haddr] at hstays ⊢
    exact (restarts_of_reaches hrun calm'.reaches hstays hjob hactivity).once

end ServerRun

/-! ## Joins that were played -/

/-- What a search for a device came to. -/
def Job.resolution? (job : Job) : Option Resolution :=
  match job.rest with
  | .done (.resolved resolution) => some resolution
  | _ => none

/-- A join stored the session of a device as the last one and has just settled its address. -/
def ServerState.hasJoined (σ : ServerState) (history : List Moment) (handle : DeviceHandle) :
    Bool :=
  sessionOf handle.card.devEui history = some handle &&
    match history.getLast? with
    | none => false
    | some m =>
      storedBy m.task history.dropLast = some handle && m.event.settles handle.card.devAddr &&
        σ.jobs[m.task]?.any fun job =>
          match job.activity with
          | .install record => record.devEui = handle.card.devEui
          | _ => false

theorem ServerState.joined_of_hasJoined {σ : ServerState} {history : List Moment}
    {handle : DeviceHandle} (h : σ.hasJoined history handle = true) : σ.Joined history handle := by
  obtain ⟨hlatest, hsettled⟩ := Bool.and_eq_true_iff.mp h
  refine ⟨of_decide_eq_true hlatest, ?_⟩
  split at hsettled
  · cases hsettled
  · rename_i m hlast
    obtain ⟨hstored, hjoins⟩ := Bool.and_eq_true_iff.mp hsettled
    obtain ⟨hstored, hsettles⟩ := Bool.and_eq_true_iff.mp hstored
    obtain ⟨job, hjob, hjoins⟩ := (Option.any_eq_true _ _).mp hjoins
    refine ⟨history.dropLast, m, job, ?_, hjob, ?_, of_decide_eq_true hstored, hsettles⟩
    · rw [List.getLast?_eq_some_iff] at hlast
      obtain ⟨earlier, rfl⟩ := hlast
      rw [List.dropLast_concat]
    · split at hjoins
      · rename_i record hactivity
        rw [hactivity]
        exact of_decide_eq_true (p := record.devEui = handle.card.devEui) hjoins
      · cases hjoins

/-- The task looks for the device of a frame. -/
def Job.looksFor (frame : DataFrame) (job : Job) : Bool :=
  match job.activity with
  | .resolve asked => asked = frame
  | _ => false

theorem Job.activity_of_looksFor {frame : DataFrame} {job : Job} (h : job.looksFor frame = true) :
    job.activity = .resolve frame := by
  unfold looksFor at h
  split at h
  · rename_i asked hactivity
    rw [hactivity, of_decide_eq_true h]
  · cases h

theorem Job.rest_of_resolution {job : Job} {resolution : Resolution}
    (h : job.resolution? = some resolution) : job.rest = .done (.resolved resolution) := by
  unfold resolution? at h
  split at h
  · rename_i hrest
    rw [hrest, Option.some.inj h]
  · cases h

/-- The session of a device is served, and neither a session nor an entry is stored. -/
def Moment.isCalm (handle : DeviceHandle) (m : Moment) : Bool :=
  m.event.serves handle &&
    match m.event.op with
    | .memory (.storeSession ..) | .memory (.storeAddress ..) => false
    | _ => true

/-- Where nothing is stored nobody is harmed. -/
theorem ServerState.Calm.of_reaches {net : Network} {handle : DeviceHandle} {first : TaskId}
    {history earlier later : List Moment} {σ reached : ServerState}
    (h : σ.Reaches net later reached) (hcalm : ∀ m ∈ later, m.isCalm handle = true) :
    σ.Calm net handle first history earlier later reached := by
  induction h with
  | start => exact .start
  | @step later moments reached next _ step ih =>
    refine .step (ih fun m hmem => hcalm m (List.mem_append_left _ hmem)) step
      (fun m hmem => ?_) fun m hmem job _ hharms => ?_
    · exact (Bool.and_eq_true_iff.mp (hcalm m (List.mem_append_right _ hmem))).1
    · have hstores := (Bool.and_eq_true_iff.mp (hcalm m (List.mem_append_right _ hmem))).2
      obtain ⟨task, ⟨op, answer⟩, before, after⟩ := m
      cases op with
      | clock | wallClock | draw | call | race | start => exact hharms
      | memory op =>
        cases op with
        | storeSession | storeAddress => cases hstores
        | _ => exact hharms

namespace Sample

/-- A network in which the code of a frame is the beginning of the key that signed it. -/
def keyed : Network :=
  { network with suite := ⟨fun _ block => block, fun _ block => block, fun key _ => key.block⟩ }

/-- The record of a device with a network key that begins as given. -/
def recordOf (eui : UInt64) (key : Bytes) : SessionRecord :=
  { record with devEui := ⟨eui⟩, keys := ⟨⟨Block.ofBytes key⟩, ⟨Block.zero⟩⟩ }

/-- The device of a record, in a slot. -/
def handleOf (slot : SlotId) (record : SessionRecord) : DeviceHandle :=
  ⟨slot, .ofSession (.ofRecord {} record)⟩

/-- A frame with a code that begins as given. -/
def frameOf (start : UInt8) : DataFrame := { frame with mic := ⟨start, 0, 0, 0⟩ }

/-- A store that knows some devices and lists all of them under every address. -/
def store (records : List SessionRecord) : (request : Request) → request.Answer
  | .fetchCandidates addr => .ok (records.map fun record => ⟨addr, record.devEui⟩)
  | .fetchSession eui => .ok (records.find? fun record => record.devEui = eui)
  | .persist .. => .ok ()
  | _ => .error .timeout

/-- What happens up to the end of a join, until everything came to its end, and from then on. -/
structure Script where
  /-- Up to the end of the join. -/
  joining : List ServerState.Move
  /-- Until everything came to its end. -/
  resting : List ServerState.Move
  /-- From then on. -/
  asking : List ServerState.Move

namespace Script

/-- The server at the end of the join. -/
def joined (script : Script) : List Moment × ServerState :=
  ServerState.play keyed script.joining ([], { now := 0 })

/-- The server when everything came to its end, and what happened since the join. -/
def rested (script : Script) : List Moment × ServerState :=
  ServerState.play keyed script.resting ([], script.joined.2)

/-- The server at the end, and what happened since it was at rest. -/
def asked (script : Script) : List Moment × ServerState :=
  ServerState.play keyed script.asking ([], script.rested.2)

theorem run (script : Script) : ServerRun keyed script.joined.1 script.joined.2 :=
  (ServerRun.boot 0).reaches (.play script.joining .start)

theorem reaches_rested (script : Script) :
    script.joined.2.Reaches keyed script.rested.1 script.rested.2 :=
  .play script.resting .start

theorem reaches_asked (script : Script) :
    script.rested.2.Reaches keyed script.asked.1 script.asked.2 :=
  .play script.asking .start

end Script

/-- A device of the address. -/
def one : SessionRecord := recordOf 1 [1]

/-- Another device of the address. -/
def two : SessionRecord := recordOf 2 [2]

/-- The second device joins while the address is being loaded for the first one. -/
def whileLoading : Script where
  joining := [.arrive (.resolve (frameOf 1)),
    .turns (store [one]) [0, 0, 0, 1, 1, 2, 2, 2, 2, 2, 2, 1, 1],
    .arrive (.install two), .turns (store [one]) [3, 3, 3, 3, 3]]
  resting := [.turns (store [one, two]) [1, 1, 1, 1, 0]]
  asking := [.arrive (.resolve (frameOf 2)), .turns (store [one, two]) [4, 4, 4]]

/-- What is read goes with a frame that a device signed, in the network of keys. -/
def agrees (handle : DeviceHandle) (frame : DataFrame) (m : Moment) : Bool :=
  match m.event with
  | ⟨.memory (.readAnnounced slot), counter⟩ =>
      slot ≠ handle.slot || handle.card.authenticates keyed.suite counter frame
  | ⟨.memory (.lookUpAddress _), found⟩ => found.all fun handles => handles.all fun other =>
      other = handle || Mic.ofTag other.card.networkKey.block ≠ frame.mic
  | ⟨.memory (.storeAddress ..), _⟩ => false
  | _ => true

/-- A key that begins otherwise than the code of a frame did not sign it. -/
theorem not_authenticates {card : DeviceCard} {frame : DataFrame}
    (h : Mic.ofTag card.networkKey.block ≠ frame.mic) (counter : UInt32) :
    card.authenticates keyed.suite counter frame = false := by
  have hverifies : ∀ counter, frame.verifies keyed.suite card.networkKey counter = false :=
    fun counter => decide_eq_false h
  unfold DeviceCard.authenticates
  simp [hverifies]

theorem agrees_of_agrees {handle : DeviceHandle} {frame : DataFrame} {m : Moment}
    (h : agrees handle frame m = true) : m.event.Agrees keyed handle frame := by
  obtain ⟨task, ⟨op, answer⟩, before, after⟩ := m
  cases op with
  | clock | wallClock | draw | call | race | start => trivial
  | memory op =>
    cases op with
    | readAnnounced slot => exact fun hslot => by simpa [agrees, hslot] using h
    | lookUpAddress addr =>
      rintro - handles rfl other hmem hother
      have hall := List.all_eq_true.mp h other hmem
      exact not_authenticates (by simpa [hother] using hall)
    | storeAddress => cases h
    | _ => trivial

end Sample

/-- A device that joins while its address is being loaded is found when the load came to its
end. -/
theorem ServerRun.resolved_after_join_while_loading :
    ∃ job, Sample.whileLoading.asked.2.jobs[4]? = some job ∧
      job.rest = .done (.resolved (.ok (Sample.handleOf 1 Sample.two))) := by
  have hjoined : Sample.whileLoading.joined.2.Joined Sample.whileLoading.joined.1
      (Sample.handleOf 1 Sample.two) := ServerState.joined_of_hasJoined (by decide +kernel)
  have hended : Sample.whileLoading.rested.2.jobs.all Job.isFinished = true := by decide +kernel
  have hagrees : Sample.whileLoading.asked.1.all
      (Sample.agrees (Sample.handleOf 1 Sample.two) (Sample.frameOf 2)) = true := by
    decide +kernel
  have hfound : (Sample.whileLoading.asked.2.jobs[4]?.any fun job =>
      job.looksFor (Sample.frameOf 2) && job.resolution?.isSome) = true := by decide +kernel
  obtain ⟨job, hjob, hfound⟩ := (Option.any_eq_true _ _).mp hfound
  obtain ⟨hasks, hresolved⟩ := Bool.and_eq_true_iff.mp hfound
  obtain ⟨resolution, hresolution⟩ := Option.isSome_iff_exists.mp hresolved
  have hrest := Job.rest_of_resolution hresolution
  refine ⟨job, hjob, hrest.trans ?_⟩
  have hfinds := (resolved_after_join Sample.whileLoading.run hjoined
    (.of_reaches Sample.whileLoading.reaches_rested (List.all_eq_true.mp (by decide +kernel)))
    (fun _ _ hjob _ => Job.exists_of_isFinished
      (List.all_eq_true.mp hended _ (List.mem_of_getElem? hjob)))
    (.of_reaches Sample.whileLoading.reaches_asked (List.all_eq_true.mp (by decide +kernel)))
    (show (Sample.frameOf 2).devAddr = _ from rfl)
    (fun m hmem => Sample.agrees_of_agrees (List.all_eq_true.mp hagrees m hmem))
    (Nat.le_of_ble_eq_true (by decide +kernel)) hjob (Job.activity_of_looksFor hasks)).1 _ hrest
  rcases hfinds with hagain | hok
  · cases hagain
  · rw [hok]

/-! ## Joins that get lost -/

/-- A device joined and everything came to its end; then a task looked for the device of a frame
that it signed, and came to a resolution. Its session was neither forgotten nor did it expire, the
store listed it, and no later join stored its session. -/
structure ServerRun.AskedAfterJoin (net : Network) (handle : DeviceHandle) (frame : DataFrame)
    (resolution : Resolution) (history later last : List Moment) (σ τ υ : ServerState) : Prop where
  /-- A server ran. -/
  run : ServerRun net history σ
  /-- The device joined. -/
  joined : σ.Joined history handle
  /-- Time passed. -/
  passes : σ.Reaches net later τ
  /-- Everything came to its end. -/
  ended : ∀ job ∈ τ.jobs, ∃ verdict, job.rest = .done verdict
  /-- The server went on. -/
  goesOn : τ.Reaches net last υ
  /-- The session was served. -/
  serves : ∀ m ∈ later ++ last, m.event.serves handle = true
  /-- No later join stored it. -/
  latest : ∀ m ∈ later ++ last, ∀ session job,
    m.event.op = .memory (.storeSession handle.card.devEui session) →
      υ.jobs[m.task]? = some job → ¬ job.activity.Joins handle.card.devEui
  /-- The device signed the frame for the counter it announced. -/
  signed : ∃ s, τ.memory.slots[handle.slot]? = some s ∧
    handle.card.authenticates net.suite s.device.announced frame = true
  /-- A task looked for the device of the frame, and came to the resolution. -/
  resolved : ∃ (task : TaskId) (job : Job), τ.jobs.length ≤ task ∧ υ.jobs[task]? = some job ∧
    job.activity = .resolve frame ∧ job.rest = .done (.resolved resolution)

namespace Sample

/-- The second device joins after a loader asked the store and before it stored the entry. -/
def lateLoad : Script where
  joining := [.arrive (.resolve (frameOf 1)),
    .turns (store [one]) [0, 0, 0, 1, 1, 2, 2, 2, 2, 2, 2, 1],
    .arrive (.install two), .turns (store [one]) [3, 3, 3, 3]]
  resting := [.turns (store [one, two]) [1, 1, 1, 1, 1, 0]]
  asking := [.arrive (.resolve (frameOf 2)), .turns (store [one, two]) [4, 4]]

/-- The second device joins while a third one that joins has read the entry and not stored it. -/
def lateJoin : Script where
  joining := [.arrive (.resolve (frameOf 1)),
    .turns (store [one]) [0, 0, 0, 1, 1, 2, 2, 2, 2, 2, 2, 1, 1, 1, 1, 1, 1, 0],
    .arrive (.install (recordOf 3 [3])), .turns (store [one]) [3, 3, 3, 3],
    .arrive (.install two), .turns (store [one]) [4, 4, 4, 4, 4]]
  resting := [.turns (store [one, two]) [3]]
  asking := [.arrive (.resolve (frameOf 2)), .turns (store [one, two]) [5, 5, 5]]

/-- The second device joins after its record was fetched and before the session was stored. -/
def lateFetch : Script where
  joining := [.arrive (.resolve (frameOf 2)),
    .turns (store [two]) [0, 0, 0, 1, 1, 2, 2, 2],
    .arrive (.install two), .turns (store [two]) [3, 3, 3, 3]]
  resting := [.turns (store [two]) [2, 2, 2, 1, 1, 1, 1, 1, 1, 0]]
  asking := [.arrive (.resolve (frameOf 2)), .turns (store [two]) [4, 4]]

/-- The second device joins while a join of its former session has read the entry and not stored
it. -/
def formerJoin : Script where
  joining := [.arrive (.resolve (frameOf 1)),
    .turns (store [one]) [0, 0, 0, 1, 1, 2, 2, 2, 2, 2, 2, 1, 1, 1, 1, 1, 1, 0],
    .arrive (.install (recordOf 2 [3])), .turns (store [one]) [3, 3, 3, 3],
    .arrive (.install two), .turns (store [one]) [4, 4, 4, 4, 4, 4, 4]]
  resting := [.turns (store [one, two]) [3]]
  asking := [.arrive (.resolve (frameOf 2)), .turns (store [one, two]) [5, 5, 5]]

/-- A script leads from a join to a resolution for a frame of the second device. -/
def Script.Leads (script : Script) (handle : DeviceHandle) (resolution : Resolution) : Prop :=
  ServerRun.AskedAfterJoin keyed handle (frameOf 2) resolution script.joined.1 script.rested.1
    script.asked.1 script.joined.2 script.rested.2 script.asked.2

/-- Whether a script leads to a resolution that a task comes to. -/
def Script.leads (script : Script) (handle : DeviceHandle) (task : TaskId)
    (resolution : Resolution) : Bool :=
  script.joined.2.hasJoined script.joined.1 handle &&
  script.rested.2.jobs.all Job.isFinished &&
  (script.rested.1 ++ script.asked.1).all (fun m => m.event.serves handle &&
    match m.event.op with
    | .memory (.storeSession eui _) => eui ≠ handle.card.devEui ||
        script.asked.2.jobs[m.task]?.all fun job => !job.activity.fromOutside
    | _ => true) &&
  script.rested.2.memory.slots[handle.slot]?.any (fun s =>
    handle.card.authenticates keyed.suite s.device.announced (frameOf 2)) &&
  decide (script.rested.2.jobs.length ≤ task) &&
  script.asked.2.jobs[task]?.any fun job =>
    job.looksFor (frameOf 2) && job.resolution? = some resolution

theorem Script.leads_of_leads {script : Script} {handle : DeviceHandle} {resolution : Resolution}
    (task : TaskId) (h : script.leads handle task resolution = true) :
    script.Leads handle resolution := by
  simp only [leads, Bool.and_eq_true] at h
  obtain ⟨⟨⟨⟨⟨hjoined, hended⟩, hlater⟩, hsigned⟩, hnew⟩, hfound⟩ := h
  have hmoments := List.all_eq_true.mp hlater
  obtain ⟨s, hs, hsigned⟩ := (Option.any_eq_true _ _).mp hsigned
  obtain ⟨job, hjob, hfound⟩ := (Option.any_eq_true _ _).mp hfound
  obtain ⟨hasks, hresolution⟩ := Bool.and_eq_true_iff.mp hfound
  refine ⟨script.run, ServerState.joined_of_hasJoined hjoined, script.reaches_rested,
    fun job hmem => Job.exists_of_isFinished (List.all_eq_true.mp hended job hmem),
    script.reaches_asked, fun m hmem => (Bool.and_eq_true_iff.mp (hmoments m hmem)).1, ?_,
    ⟨s, hs, hsigned⟩, task, job, of_decide_eq_true hnew, hjob, Job.activity_of_looksFor hasks,
    Job.rest_of_resolution (of_decide_eq_true hresolution)⟩
  intro m hmem session job hop hjob hjoins
  have hstores := (Bool.and_eq_true_iff.mp (hmoments m hmem)).2
  rw [hop] at hstores
  simp [hjob, hjoins.fromOutside] at hstores

end Sample

/-- A device that joined gets lost to whoever stores afterwards what was read before. A loader that
asked the store before the join, another device's join that read the entry before it and a join of
its own former session store the entry without the device, and its frame is refused; a record that
was fetched before the join replaces the session, and the frame is matched with another slot. -/
theorem ServerRun.lost_after_join :
    Sample.lateLoad.Leads (Sample.handleOf 1 Sample.two) (.error .notMatchingDeviceByAddress) ∧
    Sample.lateJoin.Leads (Sample.handleOf 2 Sample.two) (.error .notMatchingDeviceByAddress) ∧
    Sample.formerJoin.Leads (Sample.handleOf 2 Sample.two) (.error .notMatchingDeviceByAddress) ∧
    Sample.lateFetch.Leads (Sample.handleOf 0 Sample.two)
      (.ok (Sample.handleOf 1 Sample.two)) := by
  refine ⟨?_, ?_, ?_, ?_⟩
  · exact Sample.Script.leads_of_leads 4 (by decide +kernel)
  · exact Sample.Script.leads_of_leads 5 (by decide +kernel)
  · exact Sample.Script.leads_of_leads 5 (by decide +kernel)
  · exact Sample.Script.leads_of_leads 4 (by decide +kernel)

end LoraNetwork
