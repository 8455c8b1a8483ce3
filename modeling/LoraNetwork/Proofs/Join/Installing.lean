import LoraNetwork.Proofs.Join.Handling
import LoraNetwork.Proofs.Registry.Joined
import LoraNetwork.Proofs.Server.Profile

/-!
# How far a join has come

A join writes its new session to the store before it installs the session in the registry, in steps
of its own, and other joins of the device may step in between. `InstallStage` is what a task has
written and not installed yet. Every join installs the session that it wrote last, and none ends
with a session written and not installed.
-/

namespace LoraNetwork

/-- The changes renew a session: they name an address or a key. -/
def SessionDelta.renews (delta : SessionDelta) : Bool :=
  delta.devAddr.isSome || delta.networkKey.isSome || delta.applicationKey.isSome

/-- The join request that an activity handles. -/
def Activity.joinRequest? : Activity → Option JoinRequest
  | dispatch uplink =>
    match UplinkFrame.parse uplink.payload with
    | .ok (.join request) => some request
    | _ => none
  | _ => none

/-- The activity handles a join request of a device. -/
def Activity.RequestsJoin (eui : Eui64) (activity : Activity) : Prop :=
  ∃ request ∈ activity.joinRequest?, request.devEui = eui

namespace Event

/-- The session of a device was renewed in the store. -/
def renews (eui : Eui64) : Event serverInterface → Bool
  | ⟨.call (.persist other delta), .ok ()⟩ => other = eui && delta.renews
  | _ => false

/-- A session of a device was installed. -/
def installs (eui : Eui64) : Event serverInterface → Bool
  | ⟨.memory (.storeSession other _), _⟩ => other = eui
  | _ => false

/-- The session of a device was forgotten. -/
def forgets (eui : Eui64) : Event serverInterface → Bool
  | ⟨.memory (.forgetSession other), _⟩ => other = eui
  | _ => false

end Event

/-! ## Stages -/

/-- How far a task has come with a new session of a device. -/
structure InstallStage where
  /-- What it wrote and has not installed yet. -/
  written : Option SessionDelta := none
  /-- The slot it made last, and for which session. -/
  made : Option (DeviceHandle × Session) := none

/-- The stage after an event. -/
def InstallStage.next (eui : Eui64) (stage : InstallStage) :
    Event serverInterface → InstallStage
  | ⟨.call (.persist other delta), .ok ()⟩ =>
    if other = eui ∧ delta.renews = true then { stage with written := some delta } else stage
  | ⟨.memory (.newSlot session), handle⟩ => { stage with made := some (handle, session) }
  | ⟨.memory (.storeSession other _), _⟩ =>
    if other = eui then { stage with written := none } else stage
  | _ => stage

/-- After a session was renewed it has to be installed. -/
theorem InstallStage.next_renewed {eui : Eui64} {delta : SessionDelta} (stage : InstallStage)
    (h : delta.renews = true) : stage.next eui ⟨.call (.persist eui delta), .ok ()⟩ =
      { stage with written := some delta } := if_pos ⟨rfl, h⟩

/-- After it was installed nothing is left to install. -/
theorem InstallStage.next_installed {eui : Eui64} (stage : InstallStage) (handle : DeviceHandle) :
    stage.next eui ⟨.memory (.storeSession eui handle), ()⟩ = { stage with written := none } :=
  if_pos rfl

/-- The rules for joins of a device: whole sessions are written, and what was written is installed.
None is forgotten. -/
def installRules (net : Network) (eui : Eui64) : Contract serverInterface InstallStage where
  allows stage op :=
    match op with
    | .call (.persist other delta) =>
        other = eui → ∃ record, delta = SessionDelta.full record
    | .memory (.storeSession other handle) => other = eui → ∃ record,
        stage.written = some (SessionDelta.full record) ∧
          stage.made = some (handle, Session.ofRecord net.config record)
    | .memory (.forgetSession other) => other ≠ eui
    | _ => True
  promises _ _ := True
  next := InstallStage.next eui

/-- The stage of a task after what has happened so far. -/
def installStage (net : Network) (eui : Eui64) (task : TaskId) (history : List Moment) :
    InstallStage :=
  (installRules net eui).along {} task history

/-! ## Joins keep the rules -/

namespace JoinHandling

open Program

/-- The rules for the handling of a join, by what it has written and not installed yet. -/
def installRules (eui : Eui64) : Contract joinInterface (Option SessionDelta) where
  allows written op :=
    match op with
    | .call (.persist other delta) => other = eui ∧ ∃ record, delta = SessionDelta.full record
    | .install record => record.devEui = eui ∧ written = some (SessionDelta.full record)
    | _ => True
  promises _ _ := True
  next written event :=
    match event with
    | ⟨.call (.persist _ delta), .ok ()⟩ => some delta
    | ⟨.install _, _⟩ => none
    | _ => written

variable {net : Network} {uplink : JoinUplink} {info : JoinInfo}

/-- Answering a join neither writes nor installs anything. -/
theorem respond_keeps {drawn : JoinDraw} {record : SessionRecord} (eui : Eui64) :
    (respond net uplink info drawn record).Keeps (installRules eui) (fun written _ => written = none)
      none := by
  refine ⟨trivial, fun now _ => ?_⟩
  dsimp only [Program.done_bind]
  split
  · rfl
  · split <;> rfl

/-- A join writes the record of its new session and installs it, or does neither. -/
theorem create_keeps : (create net uplink info).Keeps (installRules uplink.request.devEui)
    (fun written _ => written = none) none := by
  refine ⟨trivial, fun now _ => ?_⟩
  dsimp only [Program.done_bind]
  split
  · rfl
  · refine ⟨trivial, fun drawn _ => ⟨⟨rfl, _, rfl⟩, fun written _ => ?_⟩⟩
    cases written with
    | error failure => rfl
    | ok done => exact ⟨⟨rfl, rfl⟩, fun _ _ => respond_keeps _⟩

/-- What a join has written it installs before it ends. -/
theorem handle_keeps : (handle net uplink).Keeps (installRules uplink.request.devEui)
    (fun written _ => written = none) none := by
  refine ⟨trivial, fun answer _ => ?_⟩
  match answer with
  | .error _ | .ok none => rfl
  | .ok (some info) =>
    dsimp only [Program.done_bind]
    split
    · rfl
    · exact create_keeps

end JoinHandling

namespace Service

open Program

variable {net : Network} {eui : Eui64} {stage : InstallStage}

/-- A session is installed if its record was written. -/
theorem install_installs {record : SessionRecord} (heui : record.devEui = eui)
    (hwritten : stage.written = some (SessionDelta.full record)) :
    (ofUpkeep (Upkeep.install (Session.ofRecord net.config record))).Keeps (installRules net eui)
      (fun reached _ => reached.written = none) stage := by
  have henter : (ofUpkeep (Upkeep.enter (Session.ofRecord net.config record))).Keeps
      (installRules net eui) (fun reached _ => reached.written = none) stage := by
    refine ⟨trivial, fun handle _ => ⟨fun _ => ⟨record, hwritten, rfl⟩, fun _ _ => ?_⟩⟩
    have hinstalled : (((stage.next eui ⟨.memory (.newSlot (Session.ofRecord net.config record)),
        handle⟩).next eui ⟨.memory (.storeSession record.devEui handle), ()⟩)).written = none := by
      simp only [InstallStage.next, heui, if_true]
    refine ⟨trivial, fun entry _ => ?_⟩
    cases entry with
    | none => exact hinstalled
    | some handles => exact ⟨trivial, fun _ _ => hinstalled⟩
  rw [Upkeep.install_eq]
  refine ⟨trivial, fun previous _ => ?_⟩
  cases previous with
  | none => exact henter
  | some handle =>
    refine ⟨trivial, fun entry _ => ?_⟩
    cases entry with
    | none => exact henter
    | some found =>
      simp only [Program.done_bind]
      split <;> exact ⟨trivial, fun _ _ => henter⟩

/-- A join request of the device keeps the rules for its joins. -/
theorem dispatchJoin_installs {uplink : RadioUplink} {request : JoinRequest}
    (heui : request.devEui = eui) :
    (dispatchJoin net uplink request).Keeps (LoraNetwork.installRules net eui)
      (fun reached _ => reached.written = none) {} := by
  subst heui
  have hstep : ∀ (written : Option SessionDelta) (reached : InstallStage) (op : JoinOperation),
      reached.written = written → (JoinHandling.installRules request.devEui).allows written op →
        (ofJoinOperation net op).Keeps (LoraNetwork.installRules net request.devEui)
          (fun later answer => (JoinHandling.installRules request.devEui).promises op answer ∧
            later.written = (JoinHandling.installRules request.devEui).next written ⟨op, answer⟩)
          reached := by
    rintro written reached op rfl hallowed
    cases op with
    | clock | draw => exact ⟨trivial, fun _ _ => ⟨trivial, rfl⟩⟩
    | install record =>
      obtain ⟨hdevice, hwritten⟩ := hallowed
      exact keeps_bind.mpr ((install_installs hdevice hwritten).mono fun _ _ h => ⟨trivial, h⟩)
    | call asked =>
      cases asked with
      | persist other delta =>
        obtain ⟨rfl, record, rfl⟩ := hallowed
        refine ⟨fun _ => ⟨record, rfl⟩, fun answer _ => ⟨trivial, ?_⟩⟩
        cases answer with
        | error failure => rfl
        | ok done => exact congrArg InstallStage.written (reached.next_renewed rfl)
      | _ => exact ⟨trivial, fun _ _ => ⟨trivial, rfl⟩⟩
  have hjoin : ((JoinHandling.handle net ⟨request, uplink.metadata, uplink.arrival⟩).expand
      (ofJoinOperation net)).Keeps (LoraNetwork.installRules net request.devEui)
        (fun reached _ => ∃ written, reached.written = written ∧ written = none) {} :=
    JoinHandling.handle_keeps.expand rfl hstep
  refine keeps_bind.mpr (hjoin.mono ?_)
  rintro reached result ⟨written, hsame, hnone⟩
  exact keeps_done.mpr (hsame.trans hnone)

end Service

/-- Who handles a join request of a device installs what it wrote, and has installed it when it ends,
which it does at the first attempt. -/
theorem Activity.program_installs {net : Network} {eui : Eui64} {activity : Activity}
    (h : activity.RequestsJoin eui) :
    (activity.program net).Keeps (installRules net eui)
      (fun reached verdict => reached.written = none ∧ verdict ≠ .again) {} := by
  obtain ⟨request, hrequest, heui⟩ := h
  cases activity with
  | dispatch uplink =>
    have hparse : UplinkFrame.parse uplink.payload = .ok (.join request) := by
      unfold joinRequest? at hrequest
      dsimp only at hrequest
      split at hrequest
      · rename_i found hparse
        rw [hparse, Option.some.inj hrequest]
      · cases hrequest
    have hdispatch : (Service.dispatch net uplink).Keeps (installRules net eui)
        (fun reached outcome => reached.written = none ∧ outcome ≠ none) {} := by
      unfold Service.dispatch
      rw [hparse]
      refine Program.keeps_bind.mpr ((Service.dispatchJoin_installs heui).mono ?_)
      exact fun reached outcome hnone => ⟨hnone, nofun⟩
    refine Program.keeps_bind.mpr (hdispatch.mono ?_)
    rintro reached outcome ⟨hnone, hsome⟩
    refine ⟨hnone, ?_⟩
    cases outcome with
    | none => exact absurd rfl hsome
    | some outcome => exact nofun
  | resolve | handle | loadAddress | loadCandidate | install | forgetDevice | forgetAddress =>
    cases hrequest

/-- What is left of a join request of the device keeps the rules for its joins. -/
theorem ServerRun.keeps_installRules {net : Network} {eui : Eui64} {history : List Moment}
    {σ : ServerState} (run : ServerRun net history σ) {task : TaskId} {job : Job}
    (hjob : σ.jobs[task]? = some job) (hrequests : job.activity.RequestsJoin eui) :
    job.rest.Keeps (installRules net eui)
      (fun reached verdict => reached.written = none ∧ verdict ≠ .again)
      (installStage net eui task history) :=
  run.keeps_from (installRules net eui) {}
    (fun reached verdict => reached.written = none ∧ verdict ≠ .again)
    (fun activity => activity.RequestsJoin eui) (fun _ _ => trivial)
    (fun _ => Activity.program_installs) (fun _ hagain => absurd rfl hagain.2) task job hjob
    hrequests

end LoraNetwork
