import LoraNetwork.Proofs.Registry.Knowledge
import LoraNetwork.Proofs.Uplink.Effects
import LoraNetwork.Server.Dispatch

/-!
# The contract of a server's activities

What an activity may do while others run beside it. It puts into the registry's memory only what is
good. It takes a slot at most once, and for a data frame only a slot whose device uses the address
of the frame. It asks a collaborator for nothing but information, except for a device whose slot it
holds, under the counter the frame was verified with. When it gives the slot back, the device is
settled.

`Phase` is how far a task has come with its slot. Every activity keeps the contract, whatever the
others do to the memory in between, as long as what it reads there is good.
-/

namespace LoraNetwork

/-- The operation changed something outside. Of a race that is not known. -/
def ServerOperation.tookEffect : (op : ServerOperation) → op.Answer → Bool
  | .call request, answer => request.tookEffect answer
  | .race request _, _ => !request.looksUp
  | _, _ => false

/-- The request that an operation makes. -/
def ServerOperation.request? : ServerOperation → Option Request
  | .call request | .race request _ => some request
  | _ => none

/-- How far a task has come with the slot of its device. -/
inductive Phase where
  /-- It has not taken a slot. -/
  | free
  /-- It holds a slot, with the device as it found it; something took effect, or not. -/
  | holding (slot : SlotId) (device : Device) (acted : Bool)
  /-- It gave the slot back, with the device as it left it. -/
  | released (slot : SlotId) (device : Device) (acted : Bool) (after : Device)

namespace Phase

/-- The phase after something may have taken effect. -/
def act (took : Bool) : Phase → Phase
  | holding slot device acted => holding slot device (acted || took)
  | phase => phase

/-- The phase after the slot was given back. -/
def giveBack (after : Device) : Phase → Phase
  | holding slot device acted => released slot device acted after
  | phase => phase

/-- The phase after an event. -/
def next (phase : Phase) : Event serverInterface → Phase
  | ⟨.memory (.takeSlot slot), device⟩ => holding slot device false
  | ⟨.memory (.giveBack _ after), _⟩ => phase.giveBack after
  | ⟨.call request, answer⟩ => phase.act (request.tookEffect answer)
  | ⟨.race request _, _⟩ => phase.act (!request.looksUp)
  | _ => phase

@[simp] theorem act_false (phase : Phase) : phase.act false = phase := by
  cases phase with
  | holding slot device acted => simp [act]
  | free | released => rfl

end Phase

namespace Activity

/-- The data uplink that an activity handles. -/
def dataUplink : Activity → Option DataUplink
  | dispatch uplink =>
    match UplinkFrame.parse uplink.payload with
    | .ok (.data frame) => some ⟨frame, uplink.metadata, uplink.arrival⟩
    | _ => none
  | handle _ uplink => some uplink
  | _ => none

/-- The address of the device that an activity looks for. -/
def wanted : Activity → Option DevAddr
  | dispatch uplink =>
    match UplinkFrame.parse uplink.payload with
    | .ok (.data frame) => some frame.devAddr
    | _ => none
  | resolve frame => some frame.devAddr
  | _ => none

/-- The activity takes an uplink to its outcome. -/
def isDispatch : Activity → Bool
  | dispatch _ => true
  | _ => false

/-- The activity may take a slot for its uplink: if the uplink is to be dispatched, its address is
served, and it is the address of the device in the slot. -/
def Admits (net : Network) (K : Knowledge) (activity : Activity) (slot : SlotId)
    (uplink : DataUplink) : Prop :=
  activity.isDispatch = true → net.config.accepts uplink.frame.devAddr = true ∧
    ∃ card, K.card slot = some card ∧ card.devAddr = uplink.frame.devAddr

/-- The activity may make a request. -/
def MayAsk (net : Network) (activity : Activity) (phase : Phase) (request : Request) : Prop :=
  match activity.dataUplink with
  | some uplink => ∃ slot device acted counter, phase = .holding slot device acted ∧
      uplink.verified net device.session = some counter ∧
      request.Concerns (.ofSession device.session) counter
  | none => activity.isDispatch = true ∨ request.looksUp = true

/-- The activity may take a step on the memory, as far as slots go. -/
def MayTouch (net : Network) (K : Knowledge) (activity : Activity) (phase : Phase) :
    MemoryOperation → Prop
  | .takeSlot slot => phase = .free ∧
      ∃ uplink, activity.dataUplink = some uplink ∧ activity.Admits net K slot uplink
  | .announce slot counter => ∃ device acted uplink, phase = .holding slot device acted ∧
      activity.dataUplink = some uplink ∧ uplink.verified net device.session = some counter
  | .giveBack slot after => ∃ device acted uplink result, phase = .holding slot device acted ∧
      activity.dataUplink = some uplink ∧
      DataHandling.Settled net device uplink acted after result
  | _ => True

/-- The contract of an activity that is a task. -/
def contract (net : Network) (K : Knowledge) (task : TaskId) (activity : Activity) :
    Contract serverInterface Phase where
  allows phase
    | .call request | .race request _ => activity.MayAsk net phase request
    | .memory op => K.Permits task op ∧ activity.MayTouch net K phase op
    | .clock | .wallClock | .draw | .start _ => True
  promises
    | .memory op, answer => K.Promises task op answer
    | .clock, _ | .wallClock, _ | .draw, _ | .call _, _ | .race _ _, _ | .start _, _ => True
  next := Phase.next

end Activity

/-- The downlink that an activity ended with. -/
def Verdict.downlink : Verdict → Option Downlink
  | outcome result => Downlink.ofResult result
  | _ => none

/-- How an activity may end: it starts again only if it has not taken a slot; and one that handles a
data uplink ends without a downlink, or with the outcome it settled the device with. -/
structure Activity.Ends (net : Network) (activity : Activity) (phase : Phase) (verdict : Verdict) :
    Prop where
  /-- Nothing was taken before a new start. -/
  again : verdict = .again → phase = .free
  /-- An uplink was not handled at all, or to its end. -/
  handled : ∀ uplink, activity.dataUplink = some uplink →
    phase = .free ∧ verdict.downlink = none ∨
      ∃ slot device acted after outcome, phase = .released slot device acted after ∧
        verdict = .outcome outcome ∧
        DataHandling.Settled net device uplink acted after outcome

namespace Service

open Program

variable {net : Network} {K : Knowledge} {task : TaskId} {a : Activity} {phase : Phase}
variable {frame : DataFrame} {handles : List DeviceHandle}

/-! ## Single operations -/

theorem keeps_memory {op : MemoryOperation} {post : Phase → op.Answer → Prop}
    (hpermits : K.Permits task op) (htouch : a.MayTouch net K phase op)
    (hpost : ∀ answer, K.Promises task op answer → post (phase.next ⟨.memory op, answer⟩) answer) :
    (memory op).Keeps (a.contract net K task) post phase :=
  ⟨⟨hpermits, htouch⟩, hpost⟩

theorem keeps_clock {post : Phase → Instant → Prop} (hpost : ∀ now, post phase now) :
    clock.Keeps (a.contract net K task) post phase :=
  ⟨trivial, fun now _ => hpost now⟩

theorem keeps_start {activities : List Activity} {post : Phase → Unit → Prop}
    (hpost : post phase ()) : (start activities).Keeps (a.contract net K task) post phase :=
  ⟨trivial, fun _ _ => hpost⟩

theorem keeps_call {request : Request} {post : Phase → request.Answer → Prop}
    (hask : a.MayAsk net phase request)
    (hpost : ∀ answer, post (phase.act (request.tookEffect answer)) answer) :
    (call request).Keeps (a.contract net K task) post phase :=
  ⟨hask, fun answer _ => hpost answer⟩

theorem keeps_race {request : Request} {deadline : Instant}
    {post : Phase → Option request.Answer → Prop} (hask : a.MayAsk net phase request)
    (hpost : ∀ answer, post (phase.act (!request.looksUp)) answer) :
    (race request deadline).Keeps (a.contract net K task) post phase :=
  ⟨hask, fun answer _ => hpost answer⟩

/-! ## Finding a device -/

/-- Of good handles, the one that is found is good and has the address of the frame. -/
theorem authenticate_keeps (hgood : ∀ handle ∈ handles, K.Knows handle) :
    (authenticate net frame handles).Keeps (a.contract net K task)
      (fun reached resolution => reached = phase ∧ ∀ handle, resolution = .ok handle →
        K.Knows handle ∧ handle.card.devAddr = frame.devAddr) phase := by
  induction handles with
  | nil => exact keeps_done.mpr ⟨rfl, by simp⟩
  | cons handle rest ih =>
    refine keeps_bind.mpr (keeps_memory trivial trivial fun announced _ => ?_)
    split
    · rename_i hauthentic
      refine keeps_done.mpr ⟨rfl, fun found hfound => ?_⟩
      rw [← Except.ok.inj hfound]
      refine ⟨hgood handle List.mem_cons_self, ?_⟩
      unfold DeviceCard.authenticates at hauthentic
      split at hauthentic
      · rename_i haddr
        exact haddr.symm
      · cases hauthentic
    · exact ih fun other hmem => hgood other (List.mem_cons_of_mem _ hmem)

/-- A task finds a device that has the address it asks for, or none. -/
theorem resolve_keeps (hwanted : K.wanted task = some frame.devAddr) :
    (resolve net frame).Keeps (a.contract net K task)
      (fun reached found => reached = phase ∧ ∀ handle, found = some (.ok handle) →
        K.Knows handle ∧ handle.card.devAddr = frame.devAddr) phase := by
  have hreply : ((memory .takeReply).bind fun resolution => pure (some resolution)).Keeps
      (a.contract net K task) (fun reached found => reached = phase ∧ ∀ handle,
        found = some (.ok handle) → K.Knows handle ∧ handle.card.devAddr = frame.devAddr)
      phase := by
    refine keeps_bind.mpr (keeps_memory trivial trivial fun resolution hgood => ?_)
    refine keeps_done.mpr ⟨rfl, fun handle hfound => ?_⟩
    obtain ⟨hknown, haddr⟩ := hgood handle (Option.some.inj hfound)
    rw [hwanted] at haddr
    exact ⟨hknown, (Option.some.inj haddr).symm⟩
  refine keeps_bind.mpr (keeps_memory trivial trivial fun cached hgood => ?_)
  cases cached with
  | some handles =>
    refine keeps_bind.mpr ((authenticate_keeps (hgood handles rfl)).mono ?_)
    rintro reached resolution ⟨rfl, hfound⟩
    exact keeps_done.mpr ⟨rfl, fun handle h => hfound handle (Option.some.inj h)⟩
  | none =>
    refine keeps_bind.mpr (keeps_memory hwanted trivial fun joined _ => ?_)
    cases joined with
    | again => exact keeps_done.mpr ⟨rfl, by simp⟩
    | queued => exact hreply
    | started loader => exact keeps_bind.mpr (keeps_start hreply)

/-! ## Loading an address -/

theorem fetchCandidate_keeps {addr : DevAddr} {eui : Eui64} (hnone : a.dataUplink = none) :
    (fetchCandidate net addr eui).Keeps (a.contract net K task)
      (fun _ load => ∀ handle, load = .loaded handle → K.Knows handle) phase := by
  have hask : a.MayAsk net phase (.fetchSession eui) := by
    rw [Activity.MayAsk, hnone]
    exact .inr rfl
  refine keeps_bind.mpr (keeps_clock fun now => ?_)
  refine keeps_bind.mpr (keeps_race hask fun answer => ?_)
  split
  · split
    · refine keeps_bind.mpr (keeps_memory rfl trivial fun handle hknown => ?_)
      refine keeps_bind.mpr (keeps_memory hknown trivial fun _ _ => ?_)
      refine keeps_done.mpr fun other hother => ?_
      rw [← CandidateLoad.loaded.inj hother]
      exact hknown
    · exact keeps_done.mpr (by simp)
  all_goals exact keeps_done.mpr (by simp)

theorem loadCandidate_keeps {addr : DevAddr} {eui : Eui64} (hnone : a.dataUplink = none) :
    (loadCandidate net addr eui).Keeps (a.contract net K task)
      (fun _ load => ∀ handle, load = .loaded handle → K.Knows handle) phase := by
  refine keeps_bind.mpr (keeps_memory trivial trivial fun known hgood => ?_)
  cases known with
  | none => exact fetchCandidate_keeps hnone
  | some handle =>
    dsimp only
    split
    · refine keeps_done.mpr fun other hother => ?_
      rw [← CandidateLoad.loaded.inj hother]
      exact hgood handle rfl
    · exact fetchCandidate_keeps hnone

/-- The devices of candidates that are known are known. -/
theorem knows_of_devicesOf {loads : List CandidateLoad}
    (hgood : ∀ handle, CandidateLoad.loaded handle ∈ loads → K.Knows handle)
    (h : devicesOf loads = .ok handles) : ∀ handle ∈ handles, K.Knows handle := by
  unfold devicesOf at h
  dsimp only at h
  split at h
  · cases h
  · rw [← Except.ok.inj h]
    intro handle hmem
    obtain ⟨load, hload, hhandle⟩ := List.mem_filterMap.mp hmem
    cases load with
    | loaded other =>
      rw [← Option.some.inj hhandle]
      exact hgood other hload
    | skipped | failed => cases hhandle

theorem findDevices_keeps {loader : LoaderId} {addr : DevAddr} (hnone : a.dataUplink = none) :
    (findDevices loader addr).Keeps (a.contract net K task)
      (fun reached found => reached = phase ∧ ∀ handles, found = .ok handles →
        ∀ handle ∈ handles, K.Knows handle) phase := by
  have hask : a.MayAsk net phase (.fetchCandidates addr) := by
    rw [Activity.MayAsk, hnone]
    exact .inr rfl
  refine keeps_bind.mpr (keeps_call hask fun answer => ?_)
  have hphase : phase.act (Request.tookEffect (.fetchCandidates addr) answer) = phase :=
    phase.act_false
  rw [hphase]
  cases answer with
  | error error => exact keeps_done.mpr ⟨rfl, by simp⟩
  | ok listed =>
    refine keeps_bind.mpr (keeps_start ?_)
    refine keeps_bind.mpr (keeps_memory trivial trivial fun loads hgood => ?_)
    exact keeps_done.mpr ⟨rfl, fun handles h => knows_of_devicesOf hgood h⟩

theorem answerAll_keeps {found : Except FailureReason (List DeviceHandle)}
    {waiting : List (TaskId × DataFrame)}
    (hgood : ∀ handles, found = .ok handles → ∀ handle ∈ handles, K.Knows handle)
    (hwanted : ∀ entry ∈ waiting, K.wanted entry.1 = some entry.2.devAddr) :
    (answerAll net found waiting).Keeps (a.contract net K task) (fun _ _ => True) phase := by
  induction waiting with
  | nil => trivial
  | cons entry rest ih =>
    obtain ⟨other, frame⟩ := entry
    have haddr := hwanted (other, frame) List.mem_cons_self
    have hrest := ih fun entry hmem => hwanted entry (List.mem_cons_of_mem _ hmem)
    have hreply : ∀ resolution, K.Answers other resolution →
        ((memory (.reply other resolution)).bind fun _ => answerAll net found rest).Keeps
          (a.contract net K task) (fun _ _ => True) phase := fun resolution hanswers =>
      keeps_bind.mpr (keeps_memory hanswers trivial fun _ _ => hrest)
    cases found with
    | error reason => exact hreply _ (by simp [Knowledge.Answers])
    | ok handles =>
      refine keeps_bind.mpr ((authenticate_keeps (hgood handles rfl)).mono ?_)
      rintro reached resolution ⟨rfl, hfound⟩
      refine hreply _ fun handle hhandle => ?_
      obtain ⟨hknown, hdevAddr⟩ := hfound handle hhandle
      exact ⟨hknown, by rw [haddr, hdevAddr]⟩

theorem loadAddress_keeps {loader : LoaderId} {addr : DevAddr} (hnone : a.dataUplink = none) :
    (loadAddress net loader addr).Keeps (a.contract net K task) (fun _ _ => True) phase := by
  refine keeps_bind.mpr ((findDevices_keeps hnone).mono ?_)
  rintro reached found ⟨rfl, hgood⟩
  have hanswer : ((memory (.leaveLoader addr)).bind fun _ =>
      (memory (.closeQueue loader)).bind fun waiting => answerAll net found waiting).Keeps
        (a.contract net K task) (fun _ _ => True) reached := by
    refine keeps_bind.mpr (keeps_memory trivial trivial fun _ _ => ?_)
    refine keeps_bind.mpr (keeps_memory trivial trivial fun waiting hwanted => ?_)
    exact answerAll_keeps hgood hwanted
  cases found with
  | error reason => exact hanswer
  | ok handles =>
    exact keeps_bind.mpr (keeps_memory (hgood handles rfl) trivial fun _ _ => hanswer)

/-! ## Upkeep of the registry -/

/-- Upkeep of the registry does not touch slots that are in use. -/
def isUpkeep : MemoryOperation → Bool
  | .takeSlot _ | .announce .. | .giveBack .. => false
  | _ => true

/-- The contract of upkeep: it puts in only what is good. -/
def upkeep (K : Knowledge) (task : TaskId) : Contract memoryInterface Unit where
  allows _ op := isUpkeep op = true ∧ K.Permits task op
  promises op answer := K.Promises task op answer
  next _ _ := ()

theorem keeps_step {op : MemoryOperation} {post : Unit → op.Answer → Prop}
    (hupkeep : isUpkeep op = true) (hpermits : K.Permits task op)
    (hpost : ∀ answer, K.Promises task op answer → post () answer) :
    (Upkeep.step op).Keeps (upkeep K task) post () :=
  ⟨⟨hupkeep, hpermits⟩, hpost⟩

/-- Upkeep that keeps its contract is allowed to every activity at any time. -/
theorem ofUpkeep_keeps {α : Type} {p : Upkeep α} {post : Unit → α → Prop}
    (h : p.Keeps (upkeep K task) post ()) :
    (ofUpkeep p).Keeps (a.contract net K task) (fun reached _ => reached = phase) phase := by
  have hstep : ∀ (_ : Unit) (reached : Phase) (op : MemoryOperation), reached = phase →
      isUpkeep op = true ∧ K.Permits task op →
        (@Program.ask serverInterface (.memory op)).Keeps (a.contract net K task)
          (fun reached answer => K.Promises task op answer ∧ reached = phase) reached := by
    rintro - reached op rfl ⟨hupkeep, hpermits⟩
    cases op with
    | takeSlot | announce | giveBack => cases hupkeep
    | _ => exact keeps_memory hpermits trivial fun answer hgood => ⟨hgood, rfl⟩
  have hexpand : (ofUpkeep p).Keeps (a.contract net K task)
      (fun reached value => ∃ s, reached = phase ∧ post s value) phase := h.expand rfl hstep
  exact hexpand.mono fun reached value hvalue => hvalue.elim fun _ hview => hview.1

theorem removeFromAddress_keeps {addr : DevAddr} {eui : Eui64} :
    (Upkeep.removeFromAddress addr eui).Keeps (upkeep K task) (fun _ _ => True) () := by
  refine keeps_bind.mpr (keeps_step rfl trivial fun entry hgood => ?_)
  cases entry with
  | none => trivial
  | some handles =>
    dsimp only
    split
    · exact keeps_step rfl trivial fun _ _ => trivial
    · refine keeps_step rfl (fun handle hmem => ?_) fun _ _ => trivial
      exact hgood handles rfl handle (List.mem_filter.mp hmem).1

theorem install_keeps {session : Session} (hnone : session.confirmation = none) :
    (Upkeep.install session).Keeps (upkeep K task) (fun _ _ => True) () := by
  refine keeps_bind.mpr (keeps_step rfl trivial fun previous _ => ?_)
  cases previous
  case' some handle => refine keeps_bind.mpr (removeFromAddress_keeps.mono fun _ _ _ => ?_)
  all_goals
    refine keeps_bind.mpr (keeps_step rfl hnone fun handle hknown => ?_)
    refine keeps_bind.mpr (keeps_step rfl hknown fun _ _ => ?_)
    refine keeps_bind.mpr (keeps_step rfl trivial fun entry hgood => ?_)
    cases entry with
    | none => trivial
    | some handles =>
      refine keeps_bind.mpr (keeps_step rfl (fun other hmem => ?_) fun _ _ => trivial)
      rcases List.mem_append.mp hmem with hmem | hmem
      · exact hgood handles rfl other (List.mem_filter.mp hmem).1
      · rw [List.mem_singleton.mp hmem]
        exact hknown

theorem forgetDevice_keeps {eui : Eui64} :
    (Upkeep.forgetDevice eui).Keeps (upkeep K task) (fun _ _ => True) () := by
  refine keeps_bind.mpr (keeps_step rfl trivial fun known _ => ?_)
  cases known with
  | none => trivial
  | some handle =>
    refine keeps_bind.mpr (keeps_step rfl trivial fun _ _ => ?_)
    exact removeFromAddress_keeps

theorem forgetSessions_keeps :
    (Upkeep.forgetSessions handles).Keeps (upkeep K task) (fun _ _ => True) () := by
  induction handles with
  | nil => trivial
  | cons handle rest ih => exact keeps_bind.mpr (keeps_step rfl trivial fun _ _ => ih)

theorem forgetAddress_keeps {addr : DevAddr} :
    (Upkeep.forgetAddress addr).Keeps (upkeep K task) (fun _ _ => True) () := by
  refine keeps_bind.mpr (keeps_step rfl trivial fun entry _ => ?_)
  refine keeps_bind.mpr (forgetSessions_keeps.mono fun _ _ _ => ?_)
  exact keeps_step rfl trivial fun _ _ => trivial

/-! ## Handling an uplink -/

/-- What the handling of an uplink does is allowed to the task that holds the device's slot. -/
theorem ofDataOperation_keeps {slot : SlotId} {device : Device} {acted : Bool} {uplink : DataUplink}
    (huplink : a.dataUplink = some uplink) {op : DataOperation}
    (hallowed : (DataHandling.effects net device.session uplink).allows acted op) :
    (ofDataOperation slot op).Keeps (a.contract net K task)
      (fun reached answer => reached = .holding slot device (acted || op.tookEffect answer))
      (.holding slot device acted) := by
  obtain ⟨counter, hverified, hconcerns⟩ := hallowed
  have hask : ∀ request, Request.Concerns (.ofSession device.session) counter request →
      a.MayAsk net (.holding slot device acted) request := by
    intro request hrequest
    rw [Activity.MayAsk, huplink]
    exact ⟨slot, device, acted, counter, rfl, hverified, hrequest⟩
  have hstay : Phase.holding slot device acted = .holding slot device (acted || false) := by
    rw [Bool.or_false]
  cases op with
  | clock => exact keeps_clock fun _ => hstay
  | wallClock => exact ⟨trivial, fun _ _ => hstay⟩
  | call request => exact keeps_call (hask request hconcerns) fun _ => rfl
  | race request deadline => exact keeps_race (hask request hconcerns) fun _ => rfl
  | announce c =>
    have htouch : a.MayTouch net K (.holding slot device acted) (.announce slot c) :=
      ⟨device, acted, uplink, rfl, huplink, by rw [hverified, hconcerns]⟩
    exact keeps_memory trivial htouch fun _ _ => hstay

/-- A task that handles an uplink takes the slot, and gives it back with the device settled. -/
theorem handleOn_keeps {slot : SlotId} {uplink : DataUplink} (huplink : a.dataUplink = some uplink)
    (hadmits : a.Admits net K slot uplink) :
    (handleOn net slot uplink).Keeps (a.contract net K task)
      (fun reached outcome => ∃ device acted after, reached = .released slot device acted after ∧
        DataHandling.Settled net device uplink acted after outcome) .free := by
  refine keeps_bind.mpr (keeps_memory trivial trivial fun _ _ => ?_)
  have htake : a.MayTouch net K .free (.takeSlot slot) := ⟨rfl, uplink, huplink, hadmits⟩
  refine keeps_bind.mpr (keeps_memory trivial htake fun device hdevice => ?_)
  have hhandle : ((DataHandling.handle net device uplink).expand (ofDataOperation slot)).Keeps
      (a.contract net K task) (fun reached ended => ∃ acted, reached = .holding slot device acted ∧
        DataHandling.Settled net device uplink acted ended.1 ended.2)
      (.holding slot device false) := by
    refine DataHandling.handle_keeps.expand rfl ?_
    rintro acted reached op rfl hallowed
    exact (ofDataOperation_keeps huplink hallowed).mono fun reached answer h => ⟨trivial, h⟩
  refine keeps_bind.mpr (hhandle.mono ?_)
  rintro reached ended ⟨acted, rfl, hsettled⟩
  have hpermits : K.Permits task (.giveBack slot ended.1) := by
    show ended.1.card = DeviceCard.ofSession ended.1.session
    rw [hsettled.card, hsettled.profile.card]
    exact hdevice.2
  have hgive : a.MayTouch net K (.holding slot device acted) (.giveBack slot ended.1) :=
    ⟨device, acted, uplink, ended.2, rfl, huplink, hsettled⟩
  refine keeps_bind.mpr (keeps_memory hpermits hgive fun _ _ => ?_)
  exact keeps_done.mpr ⟨device, acted, ended.1, rfl, hsettled⟩

/-! ## Dispatching -/

/-- How the dispatch of an uplink ends: with the outcome it settled the device with, or without a
downlink before any slot was taken. -/
def Dispatched (net : Network) (uplink : DataUplink) (reached : Phase)
    (outcome : Option UplinkOutcome) : Prop :=
  reached = .free ∧ outcome.bind Downlink.ofResult = none ∨
    ∃ slot device acted after result, reached = .released slot device acted after ∧
      outcome = some result ∧ DataHandling.Settled net device uplink acted after result

theorem dispatchData_keeps {uplink : RadioUplink}
    (huplink : a.dataUplink = some ⟨frame, uplink.metadata, uplink.arrival⟩)
    (hwanted : K.wanted task = some frame.devAddr) :
    (dispatchData net uplink frame).Keeps (a.contract net K task)
      (Dispatched net ⟨frame, uplink.metadata, uplink.arrival⟩) .free := by
  unfold dispatchData
  split
  · exact keeps_done.mpr (.inl ⟨rfl, rfl⟩)
  · rename_i haccepts
    refine keeps_bind.mpr ((resolve_keeps hwanted).mono ?_)
    rintro reached found ⟨rfl, hfound⟩
    rcases found with - | (reason | handle)
    · exact keeps_done.mpr (.inl ⟨rfl, rfl⟩)
    · exact keeps_done.mpr (.inl ⟨rfl, rfl⟩)
    · obtain ⟨hknown, haddr⟩ := hfound handle rfl
      have hadmits : a.Admits net K handle.slot ⟨frame, uplink.metadata, uplink.arrival⟩ :=
        fun _ => ⟨Bool.of_not_eq_false haccepts, handle.card, hknown, haddr⟩
      refine keeps_bind.mpr ((handleOn_keeps huplink hadmits).mono ?_)
      rintro reached outcome ⟨device, acted, after, rfl, hsettled⟩
      have hdispatched : Dispatched net ⟨frame, uplink.metadata, uplink.arrival⟩
          (.released handle.slot device acted after) (some outcome) :=
        .inr ⟨handle.slot, device, acted, after, outcome, rfl, rfl, hsettled⟩
      split
      · refine keeps_bind.mpr ((ofUpkeep_keeps forgetDevice_keeps).mono ?_)
        rintro reached - rfl
        exact keeps_done.mpr hdispatched
      · exact keeps_done.mpr hdispatched

/-- The dispatch of a join may ask anything, and takes no slot. -/
theorem dispatchJoin_keeps {uplink : RadioUplink} {request : JoinRequest}
    (hdispatch : a.isDispatch = true) (hnone : a.dataUplink = none) :
    (dispatchJoin net uplink request).Keeps (a.contract net K task)
      (fun reached _ => reached = .free) .free := by
  have hask : ∀ request, a.MayAsk net .free request := by
    intro request
    rw [Activity.MayAsk, hnone]
    exact .inl hdispatch
  have hjoin : ((JoinHandling.handle net ⟨request, uplink.metadata, uplink.arrival⟩).expand
      (ofJoinOperation net)).Keeps (a.contract net K task)
        (fun reached _ => ∃ _ : Unit, reached = .free ∧ True) .free := by
    refine (obeys_true _).expand rfl ?_
    rintro - reached op rfl -
    cases op with
    | clock => exact keeps_clock fun _ => ⟨trivial, rfl⟩
    | draw => exact ⟨trivial, fun _ _ => ⟨trivial, rfl⟩⟩
    | call request => exact keeps_call (hask request) fun _ => ⟨trivial, rfl⟩
    | install record =>
      refine keeps_bind.mpr ((ofUpkeep_keeps (install_keeps rfl)).mono ?_)
      rintro reached - rfl
      exact keeps_done.mpr ⟨trivial, rfl⟩
  refine keeps_bind.mpr (hjoin.mono ?_)
  rintro reached result ⟨-, rfl, -⟩
  exact keeps_done.mpr rfl

end Service

namespace Activity

open Program Service

variable {net : Network} {K : Knowledge} {task : TaskId}

/-- The dispatch of an uplink keeps its contract, whatever its bytes are. -/
theorem dispatch_keeps {uplink : RadioUplink} (hwanted : K.wanted task = (dispatch uplink).wanted) :
    (Service.dispatch net uplink).Keeps ((dispatch uplink).contract net K task)
      (fun reached outcome => (outcome = none → reached = .free) ∧
        ∀ data, (dispatch uplink).dataUplink = some data → Dispatched net data reached outcome)
      .free := by
  unfold Service.dispatch
  cases hparse : UplinkFrame.parse uplink.payload with
  | error error => exact keeps_done.mpr ⟨fun _ => rfl, fun _ _ => .inl ⟨rfl, rfl⟩⟩
  | ok parsed =>
    cases parsed with
    | data frame =>
      have huplink : (dispatch uplink).dataUplink =
          some ⟨frame, uplink.metadata, uplink.arrival⟩ := by simp [dataUplink, hparse]
      have haddr : K.wanted task = some frame.devAddr := by simp [hwanted, wanted, hparse]
      refine (dispatchData_keeps huplink haddr).mono fun reached outcome h => ⟨?_, ?_⟩
      · rintro rfl
        rcases h with ⟨rfl, -⟩ | ⟨_, _, _, _, _, -, hsome, -⟩
        · rfl
        · cases hsome
      · intro data hdata
        rw [huplink] at hdata
        rw [← Option.some.inj hdata]
        exact h
    | join request =>
      have hnone : (dispatch uplink).dataUplink = none := by simp [dataUplink, hparse]
      refine keeps_bind.mpr ((dispatchJoin_keeps rfl hnone).mono ?_)
      rintro reached outcome rfl
      refine keeps_done.mpr ⟨fun _ => rfl, fun data hdata => ?_⟩
      rw [hnone] at hdata
      cases hdata

/-- Every activity keeps its contract. -/
theorem program_keeps (a : Activity) (hwanted : K.wanted task = a.wanted) :
    (a.program net).Keeps (a.contract net K task) (a.Ends net) .free := by
  cases a with
  | dispatch uplink =>
    refine keeps_bind.mpr ((dispatch_keeps hwanted).mono ?_)
    rintro reached outcome ⟨hagain, hdispatched⟩
    refine keeps_done.mpr ⟨fun h => ?_, fun data hdata => ?_⟩
    · cases outcome with
      | none => exact hagain rfl
      | some outcome => cases h
    · rcases hdispatched data hdata with
        ⟨hfree, hnone⟩ | ⟨slot, device, acted, after, result, hreleased, rfl, hsettled⟩
      · refine .inl ⟨hfree, ?_⟩
        cases outcome with
        | none => rfl
        | some outcome => exact hnone
      · exact .inr ⟨slot, device, acted, after, result, hreleased, rfl, hsettled⟩
  | resolve frame =>
    refine keeps_bind.mpr ((resolve_keeps hwanted).mono ?_)
    rintro reached found ⟨rfl, -⟩
    exact keeps_done.mpr ⟨fun _ => rfl, fun _ h => by cases h⟩
  | handle slot uplink =>
    refine keeps_bind.mpr ((handleOn_keeps rfl fun h => by cases h).mono ?_)
    rintro reached outcome ⟨device, acted, after, rfl, hsettled⟩
    refine keeps_done.mpr ⟨fun h => by (cases h), fun other hother => .inr ?_⟩
    rw [← Option.some.inj hother]
    exact ⟨slot, device, acted, after, outcome, rfl, rfl, hsettled⟩
  | loadAddress loader addr =>
    refine keeps_bind.mpr ((loadAddress_keeps rfl).mono fun _ _ _ => ?_)
    exact keeps_done.mpr ⟨fun h => by (cases h), fun _ h => by cases h⟩
  | loadCandidate loader place addr eui =>
    refine keeps_bind.mpr ((loadCandidate_keeps rfl).mono fun reached load hload => ?_)
    refine keeps_bind.mpr (keeps_memory hload trivial fun _ _ => ?_)
    exact keeps_done.mpr ⟨fun h => by (cases h), fun _ h => by cases h⟩
  | install record =>
    refine keeps_bind.mpr ((ofUpkeep_keeps (install_keeps rfl)).mono fun _ _ _ => ?_)
    exact keeps_done.mpr ⟨fun h => by (cases h), fun _ h => by cases h⟩
  | forgetDevice eui =>
    refine keeps_bind.mpr ((ofUpkeep_keeps forgetDevice_keeps).mono fun _ _ _ => ?_)
    exact keeps_done.mpr ⟨fun h => by (cases h), fun _ h => by cases h⟩
  | forgetAddress addr =>
    refine keeps_bind.mpr ((ofUpkeep_keeps forgetAddress_keeps).mono fun _ _ _ => ?_)
    exact keeps_done.mpr ⟨fun h => by (cases h), fun _ h => by cases h⟩

end Activity

end LoraNetwork
