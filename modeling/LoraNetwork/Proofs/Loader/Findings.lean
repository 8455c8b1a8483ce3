import LoraNetwork.Proofs.Server.Run

/-!
# What a task has found

Devices are handed on: the one who loads an address gathers them and publishes them or names them in
a reply, and the one who dispatches a frame finds them in the cache or in the reply it was sent.
`Findings` is what a task has been handed so far. Nobody hands on what it was not handed, and nobody
lines up for a slot but that of a device it found.
-/

namespace LoraNetwork

/-- What a task has found so far. -/
structure Findings where
  /-- The candidates that the store listed. -/
  listed : List DeviceCandidate := []
  /-- The devices of the candidates that it gathered. -/
  gathered : List DeviceHandle := []
  /-- The devices among which that of its frame is. -/
  found : List DeviceHandle := []
  /-- It has forgotten a device. -/
  forgot : Bool := false

/-- The device that a resolution names. -/
def Resolution.named : Resolution → List DeviceHandle
  | .ok handle => [handle]
  | .error _ => []

namespace Findings

/-- What a task has found after an event. -/
def next (findings : Findings) : Event serverInterface → Findings
  | ⟨.call (.fetchCandidates _), .ok listed⟩ => { findings with listed := listed }
  | ⟨.memory (.gather ..), loads⟩ =>
    { findings with gathered := loads.filterMap Service.handleOf }
  | ⟨.memory (.lookUpAddress _), handles⟩ => { findings with found := handles.getD [] }
  | ⟨.memory .takeReply, resolution⟩ => { findings with found := Resolution.named resolution }
  | ⟨.memory (.forgetSession _), _⟩ => { findings with forgot := true }
  | _ => findings

/-- What a task may do with what it has found. -/
def Allows (findings : Findings) : ServerOperation → Prop
  | .start activities =>
      (∃ loader addr, activities = [.loadAddress loader addr]) ∨
        ∃ loader addr, activities = Service.candidateActivities loader addr
          (findings.listed.filter fun candidate => candidate.devAddr = addr)
  | .memory (.storeAddress _ handles) =>
      (∀ handle ∈ handles, handle ∈ findings.gathered) ∨ findings.forgot = true
  | .memory (.reply _ resolution) => ∀ handle, resolution = .ok handle → handle ∈ findings.gathered
  | .memory (.lineUp slot) => ∃ handle ∈ findings.found, handle.slot = slot
  | .memory (.newSlot _) | .memory (.storeSession ..) | .memory (.deposit ..) => False
  | _ => True

end Findings

/-- The rules for what a task has found. -/
def findingsRules : Contract serverInterface Findings where
  allows := Findings.Allows
  promises _ _ := True
  next := Findings.next

/-- What a task has found after what has happened so far. -/
def findingsOf (task : TaskId) (history : List Moment) : Findings :=
  findingsRules.along {} task history

/-- The activity dispatches an uplink that is no join request, or it loads an address. -/
def Activity.FindsDevices : Activity → Prop
  | dispatch uplink => ∀ request, UplinkFrame.parse uplink.payload ≠ .ok (.join request)
  | loadAddress .. => True
  | _ => False

/-! ## Activities keep the rules -/

namespace Service

open Program

variable {net : Network} {findings : Findings} {frame : DataFrame} {handles : List DeviceHandle}

/-- Whoever signed a frame is one of those that were tried, and nothing new is found meanwhile. -/
theorem authenticate_findings : (authenticate net frame handles).Keeps findingsRules
    (fun reached resolution => reached = findings ∧
      ∀ handle, resolution = .ok handle → handle ∈ handles) findings := by
  induction handles with
  | nil => exact ⟨rfl, nofun⟩
  | cons handle rest ih =>
    refine ⟨trivial, fun announced _ => ?_⟩
    dsimp only [done_bind]
    split
    · refine ⟨rfl, fun named hnamed => ?_⟩
      rw [← Except.ok.inj hnamed]
      exact List.mem_cons_self
    · refine ih.mono fun reached resolution hreached => ⟨hreached.1, fun named hnamed => ?_⟩
      exact List.mem_cons_of_mem _ (hreached.2 named hnamed)

/-! ### Loading an address -/

/-- The devices that are published are those of the candidates that were gathered. -/
theorem mem_of_devicesOf_ok {loads : List CandidateLoad} (h : devicesOf loads = .ok handles) :
    ∀ handle ∈ handles, handle ∈ loads.filterMap handleOf := by
  unfold devicesOf at h
  dsimp only at h
  split at h
  · cases h
  · rw [← Except.ok.inj h]
    exact fun _ hmem => hmem

/-- A loader finds the devices that it gathered. -/
theorem findDevices_findings {loader : LoaderId} {addr : DevAddr} :
    (findDevices loader addr).Keeps findingsRules (fun reached found =>
      ∀ handles, found = .ok handles → ∀ handle ∈ handles, handle ∈ reached.gathered) findings := by
  refine ⟨trivial, fun answer _ => ?_⟩
  cases answer with
  | error failure => exact fun handles hfound => nomatch hfound
  | ok listed =>
    refine ⟨.inr ⟨loader, addr, rfl⟩, fun _ _ => ⟨trivial, fun loads _ => ?_⟩⟩
    exact fun handles hfound => mem_of_devicesOf_ok hfound

/-- A loader names nobody in its replies whom it has not gathered. -/
theorem answerAll_findings {found : Except FailureReason (List DeviceHandle)}
    (hfound : ∀ handles, found = .ok handles → ∀ handle ∈ handles, handle ∈ findings.gathered)
    (waiting : List (TaskId × DataFrame)) :
    (answerAll net found waiting).Keeps findingsRules (fun _ _ => True) findings := by
  induction waiting with
  | nil => trivial
  | cons entry rest ih =>
    cases found with
    | error reason => exact ⟨nofun, fun _ _ => ih⟩
    | ok handles =>
      refine keeps_bind.mpr (authenticate_findings.mono ?_)
      rintro _ resolution ⟨rfl, hnamed⟩
      exact ⟨fun handle hok => hfound handles rfl handle (hnamed handle hok), fun _ _ => ih⟩

/-- A loader publishes what it gathered. -/
theorem loadAddress_findings {loader : LoaderId} {addr : DevAddr} :
    (loadAddress net loader addr).Keeps findingsRules (fun _ _ => True) findings := by
  refine keeps_bind.mpr (findDevices_findings.mono fun reached found hfound => ?_)
  have hrest : ((memory (.leaveLoader addr)).bind fun _ =>
      (memory (.closeQueue loader)).bind fun waiting => answerAll net found waiting).Keeps
        findingsRules (fun _ _ => True) reached :=
    ⟨trivial, fun _ _ => ⟨trivial, fun waiting _ => answerAll_findings hfound waiting⟩⟩
  cases found with
  | error reason => exact hrest
  | ok handles => exact ⟨.inl (hfound handles rfl), fun _ _ => hrest⟩

/-! ### Dispatching an uplink -/

/-- The device of a frame is one that was found for it. -/
theorem resolve_findings : (resolve net frame).Keeps findingsRules
    (fun reached resolved => ∀ handle, resolved = some (.ok handle) → handle ∈ reached.found)
      findings := by
  have hreply : ∀ reached : Findings, ((memory .takeReply).bind fun resolution =>
      pure (some resolution)).Keeps findingsRules (fun reached resolved =>
        ∀ handle, resolved = some (.ok handle) → handle ∈ reached.found) reached := by
    refine fun reached => ⟨trivial, fun resolution _ handle hresolved => ?_⟩
    obtain rfl := Option.some.inj hresolved
    exact List.mem_singleton.mpr rfl
  refine keeps_bind.mpr ⟨trivial, fun cached _ => ?_⟩
  cases cached with
  | some handles =>
    refine keeps_bind.mpr (authenticate_findings.mono ?_)
    rintro _ resolution ⟨rfl, hnamed⟩ handle hresolved
    exact hnamed handle (Option.some.inj hresolved)
  | none =>
    refine keeps_bind.mpr ⟨trivial, fun joined _ => ?_⟩
    cases joined with
    | again => exact fun handle hresolved => nomatch hresolved
    | queued => exact hreply _
    | started loader => exact ⟨.inl ⟨loader, frame.devAddr, rfl⟩, fun _ _ => hreply _⟩

/-- An uplink lines up for the slot of the device that was found, and then hands nothing on. -/
theorem handleOn_findings {slot : SlotId} {uplink : DataUplink}
    (hfound : ∃ handle ∈ findings.found, handle.slot = slot) :
    (handleOn net slot uplink).Keeps findingsRules (fun _ _ => True) findings := by
  have hhandle : ∀ device : Device,
      ((DataHandling.handle net device uplink).expand (ofDataOperation slot)).Obeys
        (fun op => ∀ reached : Findings, reached.Allows op) fun _ => True := by
    refine fun device => obeys_expand (obeys_true _) fun op _ => ?_
    cases op <;> exact obeys_ask.mpr ⟨fun _ => trivial, fun _ => trivial⟩
  refine keeps_bind.mpr ⟨hfound, fun _ _ => keeps_bind.mpr ⟨trivial, fun device _ => ?_⟩⟩
  refine keeps_bind.mpr ?_
  refine ((hhandle device).keeps (C := findingsRules) (fun _ => True)
    (fun reached op _ hop => hop reached) (fun _ _ _ _ _ => trivial) trivial).mono
      fun reached result _ => ?_
  exact ⟨trivial, fun _ _ => trivial⟩

/-- Whoever takes a device out of an entry has forgotten it before. -/
theorem forgetDevice_findings (eui : Eui64) :
    (ofUpkeep (Upkeep.forgetDevice eui)).Keeps findingsRules (fun _ _ => True) findings := by
  refine ⟨trivial, fun known _ => ?_⟩
  cases known with
  | none => trivial
  | some handle =>
    refine ⟨trivial, fun _ _ => ⟨trivial, fun entry _ => ?_⟩⟩
    cases entry with
    | none => trivial
    | some handles =>
      simp only [done_bind]
      split
      · exact ⟨trivial, fun _ _ => trivial⟩
      · exact ⟨.inr rfl, fun _ _ => trivial⟩

/-- A frame is dispatched to a device that was found for it. -/
theorem dispatchData_findings {uplink : RadioUplink} :
    (dispatchData net uplink frame).Keeps findingsRules (fun _ _ => True) findings := by
  unfold dispatchData
  split
  · trivial
  · refine keeps_bind.mpr (resolve_findings.mono fun reached resolved hfound => ?_)
    match resolved with
    | none | some (.error reason) => trivial
    | some (.ok handle) =>
      refine keeps_bind.mpr ((handleOn_findings ⟨handle, hfound handle rfl, rfl⟩).mono ?_)
      intro later outcome _
      split
      · exact keeps_bind.mpr ((forgetDevice_findings _).mono fun _ _ _ => trivial)
      · trivial

end Service

/-- Who dispatches data or loads an address keeps the rules, whatever it has found before. -/
theorem Activity.program_findings {net : Network} {a : Activity} (h : a.FindsDevices)
    (findings : Findings) :
    (a.program net).Keeps findingsRules (fun _ _ => True) findings := by
  cases a with
  | dispatch uplink =>
    have hdispatch : (Service.dispatch net uplink).Keeps findingsRules (fun _ _ => True)
        findings := by
      unfold Service.dispatch
      split
      · trivial
      · exact Service.dispatchData_findings
      · rename_i request hparse
        exact absurd hparse (h request)
    exact Program.keeps_bind.mpr (hdispatch.mono fun _ _ _ => trivial)
  | loadAddress loader addr =>
    exact Program.keeps_bind.mpr (Service.loadAddress_findings.mono fun _ _ _ => trivial)
  | resolve | handle | loadCandidate | install | forgetDevice | forgetAddress => exact h.elim

/-- What is left of those who dispatch data or load an address keeps the rules for what they have
found. -/
theorem ServerRun.keeps_findings {net : Network} {history : List Moment} {σ : ServerState}
    (run : ServerRun net history σ) {task : TaskId} {job : Job} (hjob : σ.jobs[task]? = some job)
    (hfinds : job.activity.FindsDevices) :
    job.rest.Keeps findingsRules (fun _ _ => True) (findingsOf task history) :=
  run.keeps_along (C := findingsRules) {} Activity.FindsDevices (fun _ _ => trivial)
    (fun _ hfinds findings => Activity.program_findings hfinds findings) task job hjob hfinds

end LoraNetwork
