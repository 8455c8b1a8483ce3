import LoraNetwork.Proofs.Server.Invariant

/-!
# Effects are authenticated

Whatever a server does side by side, the effects of one data frame concern one device: its address
is that of the frame and is served, it is not another gateway's, the frame is verified with its
network key, and the counter it is verified under is the one that the session is left with and that
everybody else is told. The downlink is sealed for the same device. A frame that is verified for no
device has no effects. Nor have the tasks that the registry starts by itself to find a device.
-/

namespace LoraNetwork

/-- The downlink that a task ended with. -/
def Job.downlink (job : Job) : Option Downlink :=
  match job.rest with
  | .done verdict => verdict.downlink
  | .perform .. => none

/-- All that a task has done for a frame is authenticated, and concerns one device. -/
structure Authenticated (net : Network) (history : List Moment) (task : TaskId) (job : Job)
    (frame : DataFrame) (slot : SlotId) (device : Device) (counter : UInt32) : Prop where
  /-- The task took the slot and found the device. -/
  taken : ∃ m ∈ history, m.task = task ∧ m.event = ⟨.memory (.takeSlot slot), device⟩
  /-- The address of the frame is served. -/
  served : net.config.accepts frame.devAddr = true
  /-- The device uses this address. -/
  addressed : device.session.devAddr = frame.devAddr
  /-- The device does not belong to another gateway. -/
  owned : device.session.gatewayId = none ∨ device.session.gatewayId = some net.config.gatewayId
  /-- The frame is verified under the counter. -/
  genuine : frame.verifies net.suite device.session.keys.network counter = true
  /-- Whatever the task changed belongs to the session and goes with the counter. -/
  concerns : Throughout task history fun m => m.Concerns slot device.session counter
  /-- A downlink that it ended with is sealed for the device. -/
  answered : ∀ downlink, job.downlink = some downlink → device.session.Seals net downlink.payload
  /-- A finished task has left the session with the counter. -/
  recorded : ∀ verdict, job.rest = .done verdict → ∃ m ∈ history, m.task = task ∧
    ∃ after, m.event = ⟨.memory (.giveBack slot after), ()⟩ ∧
      after.session.progress.fcntUp = counter

namespace ServerRun

variable {net : Network} {K : Knowledge} {history : List Moment} {σ : ServerState}
variable {task : TaskId} {job : Job} {uplink : RadioUplink} {frame : DataFrame}

/-- The data uplink of a dispatch is read off its bytes. -/
theorem dataUplink_dispatch {data : DataUplink} :
    (Activity.dispatch uplink).dataUplink = some data ↔
      UplinkFrame.parse uplink.payload = .ok (.data data.frame) ∧
        data = ⟨data.frame, uplink.metadata, uplink.arrival⟩ := by
  simp only [Activity.dataUplink]
  constructor
  · intro h
    split at h
    · rename_i frame hparse
      obtain rfl := Option.some.inj h
      exact ⟨hparse, rfl⟩
    · cases h
  · rintro ⟨hparse, hdata⟩
    rw [hparse, hdata]

/-- A task that took a slot for a frame that is verified there is authenticated. -/
theorem authenticated_of_took {slot : SlotId} {device : Device} {data : DataUplink}
    {counter : UInt32} {untouched : Prop}
    (hparse : UplinkFrame.parse uplink.payload = .ok (.data frame))
    (htook : Took net K history task (.dispatch uplink) slot device data)
    (hmarked : Marked net history task slot device data untouched)
    (hverified : data.verified net device.session = some counter)
    (hanswered : ∀ downlink, job.downlink = some downlink →
      device.session.Seals net downlink.payload)
    (hrecorded : ∀ verdict, job.rest = .done verdict → ∃ m ∈ history, m.task = task ∧
      ∃ after, m.event = ⟨.memory (.giveBack slot after), ()⟩ ∧
        after.session.progress.fcntUp = counter) :
    Authenticated net history task job frame slot device counter := by
  have hdata : data = ⟨frame, uplink.metadata, uplink.arrival⟩ :=
    Option.some.inj (htook.handles.symm.trans (dataUplink_dispatch.mpr ⟨hparse, rfl⟩))
  obtain ⟨howned, hgenuine⟩ := DataUplink.genuine_of_verified hverified
  obtain ⟨haccepts, card, hcard, haddr⟩ := htook.admits rfl
  have haddressed : device.session.devAddr = card.devAddr := by
    have hknown := htook.known
    rw [hcard, htook.card] at hknown
    rw [Option.some.inj hknown]
    rfl
  rw [hdata] at haccepts haddr hgenuine
  exact ⟨htook.taken, haccepts, haddressed.trans haddr, howned, hgenuine,
    hmarked.concerns counter hverified, hanswered, hrecorded⟩

/-- A task that handles a data uplink has no downlink, and is not finished unless it took no slot;
or it is finished with the downlink that it settled the device with. -/
theorem downlink_of_fine {data : DataUplink} (hfine : job.Fine net K σ.memory history task)
    (huplink : job.activity.dataUplink = some data) :
    (job.downlink = none ∧ ∀ verdict, job.rest = .done verdict → phaseOf task history = .free) ∨
      ∃ slot device acted after result,
        phaseOf task history = .released slot device acted after ∧
          job.downlink = Downlink.ofResult result ∧
          DataHandling.Settled net device data acted after result := by
  cases hrest : job.rest with
  | perform op next =>
    refine .inl ⟨?_, fun verdict h => by cases h⟩
    rw [Job.downlink, hrest]
  | done verdict =>
    have hdownlink : job.downlink = verdict.downlink := by rw [Job.downlink, hrest]
    have hends : job.activity.Ends net (phaseOf task history) verdict := by
      have hkeeps := hfine.keeps
      rw [hrest] at hkeeps
      exact hkeeps
    rw [hdownlink]
    rcases hends.handled data huplink with
      ⟨hfree, hnone⟩ | ⟨slot, device, acted, after, result, hreleased, rfl, hsettled⟩
    · exact .inl ⟨hnone, fun _ _ => hfree⟩
    · exact .inr ⟨slot, device, acted, after, result, hreleased, rfl, hsettled⟩

/-- A dispatched frame had no effects, or all that it had are authenticated. -/
theorem quiet_or_authenticated (hfine : job.Fine net K σ.memory history task)
    (hactivity : job.activity = .dispatch uplink)
    (hparse : UplinkFrame.parse uplink.payload = .ok (.data frame)) :
    (Throughout task history Moment.Quiet ∧ job.downlink = none) ∨
      ∃ slot device counter, Authenticated net history task job frame slot device counter := by
  have huplink : (Activity.dispatch uplink).dataUplink =
      some ⟨frame, uplink.metadata, uplink.arrival⟩ := dataUplink_dispatch.mpr ⟨hparse, rfl⟩
  have hstands : Stands net K σ.memory history task (.dispatch uplink) (phaseOf task history) :=
    hactivity ▸ hfine.stands
  have hdownlink := downlink_of_fine hfine (hactivity ▸ huplink)
  cases hphase : phaseOf task history with
  | free =>
    rw [hphase] at hstands hdownlink
    have hjoin : (Activity.dispatch uplink).mayJoin = false := by simp [Activity.mayJoin, huplink]
    rcases hdownlink with ⟨hnone, -⟩ | ⟨_, _, _, _, _, hreleased, -⟩
    · exact .inl ⟨hstands hjoin, hnone⟩
    · cases hreleased
  | holding slot device acted =>
    rw [hphase] at hstands hdownlink
    obtain ⟨-, data, htook, hacted, hmarked⟩ := hstands
    rcases hdownlink with ⟨hnone, hunfinished⟩ | ⟨_, _, _, _, _, hreleased, -⟩
    · cases acted with
      | false => exact .inl ⟨hmarked.quiet rfl, hnone⟩
      | true =>
        obtain ⟨counter, hverified⟩ := hacted rfl
        refine .inr ⟨slot, device, counter, authenticated_of_took hparse htook hmarked hverified
          (by simp [hnone]) fun verdict hrest => ?_⟩
        cases hunfinished verdict hrest
    · cases hreleased
  | released slot device acted after =>
    rw [hphase] at hstands hdownlink
    obtain ⟨⟨m, hmem, htask, hevent⟩, data, htook, hmarked, hleft⟩ := hstands
    have hauthenticated : data.verified net device.session = some after.session.progress.fcntUp →
        (∀ downlink, job.downlink = some downlink →
          device.session.Seals net downlink.payload) →
        ∃ slot device counter, Authenticated net history task job frame slot device counter :=
      fun hverified hanswered =>
        ⟨slot, device, _, authenticated_of_took hparse htook hmarked hverified hanswered
          fun _ _ => ⟨m, hmem, htask, after, hevent, rfl⟩⟩
    rcases hdownlink with ⟨hnone, -⟩ | ⟨_, _, _, _, result, hreleased, hresult, hsettled⟩
    · rcases hleft with huntouched | hverified
      · exact .inl ⟨hmarked.quiet huntouched, hnone⟩
      · exact .inr (hauthenticated hverified (by simp [hnone]))
    · obtain ⟨rfl, rfl, rfl, rfl⟩ := Phase.released.inj hreleased
      obtain rfl := Option.some.inj (huplink.symm.trans htook.handles)
      rcases hsettled.outcome with ⟨hacted, hsession, hnone⟩ | hverified
      · exact .inl ⟨hmarked.quiet ⟨hacted, hsession⟩, hresult.trans hnone⟩
      · rw [hresult] at hauthenticated
        exact .inr (hauthenticated hverified (hsettled.sent htook.keeps))

/-- A task that the registry started by itself has no effects. -/
theorem quiet_of_helper (hfine : job.Fine net K σ.memory history task)
    (hinside : job.activity.fromOutside = false) : Throughout task history Moment.Quiet := by
  have hinert : job.activity.dataUplink = none ∧ job.activity.mayJoin = false := by
    cases hactivity : job.activity with
    | loadAddress | loadCandidate => exact ⟨rfl, rfl⟩
    | dispatch | resolve | handle | install | forgetDevice | forgetAddress =>
      rw [hactivity] at hinside
      cases hinside
  have hstands := hfine.stands
  rw [hstands.eq_free hinert.1] at hstands
  exact hstands hinert.2

/-- What a server does for a data frame is authenticated, and what it does by itself is quiet. -/
theorem effects_authenticated (run : ServerRun net history σ) (hjob : σ.jobs[task]? = some job)
    (hactivity : job.activity = .dispatch uplink)
    (hparse : UplinkFrame.parse uplink.payload = .ok (.data frame)) :
    ((Throughout task history Moment.Quiet ∧ job.downlink = none) ∨
      ∃ slot device counter, Authenticated net history task job frame slot device counter) ∧
    ∀ (helper : TaskId) (found : Job), σ.jobs[helper]? = some found →
      found.activity.fromOutside = false → Throughout helper history Moment.Quiet := by
  have hinvariant := run.invariant (Knowledge.sees_knowledge σ)
  refine ⟨quiet_or_authenticated (hinvariant.fine task job hjob) hactivity hparse, ?_⟩
  intro helper found hfound hinside
  exact quiet_of_helper (hinvariant.fine helper found hfound) hinside

end ServerRun

namespace Sample

/-- The bytes of a confirmed frame of the sample device. -/
def radioUplink : RadioUplink where
  payload := [0x80, 1, 0, 0, 1, 0, 5, 0, 1, 1, 0, 0, 0, 0]
  arrival := 0
  metadata := {}

/-- The frame in these bytes. -/
def frame : DataFrame :=
  { (uplink .confirmedDataUp 5).frame with signed := radioUplink.payload.take 10 }

/-- A store that knows the sample device, while nobody else can be reached. -/
def storeAnswers : (request : Request) → request.Answer
  | .fetchCandidates addr => .ok [⟨addr, ⟨1⟩⟩]
  | .fetchSession _ => .ok (some record)
  | .persist .. => .ok ()
  | _ => .error .timeout

/-- A server that just started, when the bytes arrive. -/
def arrived : ServerState := ServerState.launch network [.dispatch radioUplink] { now := 0 }

/-- The server after its tasks went on in turn until all were finished. -/
def finished : List Moment × ServerState :=
  ServerState.turns network storeAnswers (List.replicate 40 [0, 1, 2]).flatten ([], arrived)

end Sample

/-- A confirmed frame of a device that has to be loaded first is answered, and what was done for it
is authenticated. -/
theorem ServerRun.effects_authenticated_after_loading :
    ∃ job, Sample.finished.2.jobs[0]? = some job ∧ job.downlink.isSome = true ∧
      ∃ slot device counter, Authenticated Sample.network Sample.finished.1 0 job Sample.frame slot
        device counter := by
  have hstart : ServerRun Sample.network [] Sample.arrived := .step (.boot 0) (.arrive rfl)
  have hrun : ServerRun Sample.network Sample.finished.1 Sample.finished.2 :=
    hstart.turns Sample.storeAnswers _
  have hfinished : (Sample.finished.2.jobs[0]?.bind fun job =>
      job.activity.dataUplink.map fun data =>
        (job.activity.isDispatch, data.frame, job.downlink.isSome)) =
          some (true, Sample.frame, true) := by decide +kernel
  obtain ⟨job, hjob, hfinished⟩ := Option.bind_eq_some_iff.mp hfinished
  obtain ⟨data, hdata, heq⟩ := Option.map_eq_some_iff.mp hfinished
  obtain ⟨hdispatch, hrest⟩ := Prod.mk.inj heq
  obtain ⟨hframe, hdownlink⟩ := Prod.mk.inj hrest
  refine ⟨job, hjob, hdownlink, ?_⟩
  cases hactivity : job.activity with
  | dispatch uplink =>
    rw [hactivity] at hdata
    have hparse := (dataUplink_dispatch.mp hdata).1
    rw [hframe] at hparse
    rcases (effects_authenticated hrun hjob hactivity hparse).1 with
      ⟨-, hnone⟩ | hauthenticated
    · rw [hnone] at hdownlink
      cases hdownlink
    · exact hauthenticated
  | resolve | handle | loadAddress | loadCandidate | install | forgetDevice | forgetAddress =>
    rw [hactivity] at hdispatch
    cases hdispatch

end LoraNetwork
