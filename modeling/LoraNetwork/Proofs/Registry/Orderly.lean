import LoraNetwork.Proofs.Registry.Tracking

/-!
# Operations one after the other

A registry whose operations do not overlap: a resolution, with all the loading that it starts, comes
to its end before anything else begins, and joins and invalidations are done at one stroke. Time
passes at any point. Sessions come into the index from joins and from loaded candidates; a run keeps
a list of these filings. While the index can follow every filing of a device, it tracks the device.
-/

namespace LoraNetwork

/-- A session comes into the index. -/
structure Filing where
  /-- When it does. -/
  time : Instant
  /-- The memory before, at the beginning of the join if it is one. -/
  before : Memory
  /-- The device it is filed for. -/
  eui : Eui64
  /-- The session. -/
  handle : DeviceHandle
  /-- It comes from a join, and not from the store. -/
  joins : Bool

namespace Filing

/-- The session is one of the device that it is filed for. -/
def Own (filing : Filing) : Prop := filing.handle.card.devEui = filing.eui

/-- The index can follow the device to its address. Only a join takes it out of the entry that it
is in so far. -/
def Followed (config : ServerConfig) (filing : Filing) : Prop :=
  if filing.joins then
    filing.before.CanFollow config filing.time filing.eui filing.handle.card.devAddr
  else ∀ other, filing.before.Names filing.eui other → other = filing.handle.card.devAddr

instance (filing : Filing) : Decidable filing.Own := inferInstanceAs (Decidable (_ = _))

instance (config : ServerConfig) (filing : Filing) : Decidable (filing.Followed config) :=
  decidable_of_iff
    (if filing.joins then
      filing.before.CanFollow config filing.time filing.eui filing.handle.card.devAddr
    else ∀ handle ∈ (filing.before.index.get? filing.eui).map Stamped.value,
      handle.card.devAddr = filing.handle.card.devAddr)
    (by unfold Followed; split; exacts [.rfl, Memory.names_eq_iff.symm])

end Filing

/-- The filing of a loaded session. -/
def Moment.filing (time : Instant) (m : Moment) : Option Filing :=
  match m.event with
  | ⟨.memory (.storeSession eui handle), _⟩ => some ⟨time, m.before, eui, handle, false⟩
  | _ => none

/-- The task came to its end, and does not start from the beginning. -/
def Job.isOver (job : Job) : Bool :=
  match job.rest with
  | .done .again => false
  | .done _ => true
  | .perform .. => false

/-- No task has anything left to do. -/
def ServerState.AtRest (σ : ServerState) : Prop := ∀ job ∈ σ.jobs, job.isOver = true

instance (σ : ServerState) : Decidable σ.AtRest :=
  inferInstanceAs (Decidable (∀ job ∈ σ.jobs, job.isOver = true))

/-- A server that starts has nothing to do. -/
theorem ServerState.AtRest.boot (now : Instant) : AtRest { now := now } := by
  intro job hmem
  cases hmem

/-- A run of a registry whose operations come one after the other, and the sessions that came into
the index so far. -/
inductive OrderlyRun (net : Network) : List Filing → ServerState → Prop where
  /-- The server starts. -/
  | boot (now : Instant) : OrderlyRun net [] { now := now }
  /-- The device of a frame is looked for. -/
  | resolve {filings : List Filing} {σ : ServerState} (run : OrderlyRun net filings σ)
      (rest : σ.AtRest) (frame : DataFrame) : OrderlyRun net filings (σ.launch net [.resolve frame])
  /-- Time passes, or a task goes on. -/
  | step {filings : List Filing} {σ next : ServerState} {moments : List Moment}
      (run : OrderlyRun net filings σ) (step : σ.Step net moments next)
      (inside : next.jobs.length = σ.jobs.length ∨ moments ≠ []) :
      OrderlyRun net (filings ++ moments.filterMap (Moment.filing σ.now)) next
  /-- The session of a join is installed. -/
  | join {filings : List Filing} {σ : ServerState} {record : SessionRecord} {task : TaskId}
      {handle : DeviceHandle} {after : Memory} (run : OrderlyRun net filings σ) (rest : σ.AtRest)
      (installed : Memory.runAlone net.config σ.now task
        (Upkeep.install (.ofRecord net.config record)) σ.memory = some (handle, after)) :
      OrderlyRun net (filings ++ [⟨σ.now, σ.memory, record.devEui, handle, true⟩])
        { σ with memory := after }
  /-- The session of a device is looked for in the index. -/
  | consult {filings : List Filing} {σ : ServerState} (run : OrderlyRun net filings σ)
      (rest : σ.AtRest) (eui : Eui64) :
      OrderlyRun net filings { σ with memory := (σ.memory.readIndex net.config σ.now eui).2 }
  /-- A device is forgotten. -/
  | forgetDevice {filings : List Filing} {σ : ServerState} {eui : Eui64} {task : TaskId}
      {after : Memory} (run : OrderlyRun net filings σ) (rest : σ.AtRest)
      (forgot : Memory.runAlone net.config σ.now task (Upkeep.forgetDevice eui) σ.memory =
        some ((), after)) : OrderlyRun net filings { σ with memory := after }
  /-- An address is forgotten. -/
  | forgetAddress {filings : List Filing} {σ : ServerState} {addr : DevAddr} {task : TaskId}
      {after : Memory} (run : OrderlyRun net filings σ) (rest : σ.AtRest)
      (forgot : Memory.runAlone net.config σ.now task (Upkeep.forgetAddress addr) σ.memory =
        some ((), after)) : OrderlyRun net filings { σ with memory := after }

/-! ## Serving a resolution -/

/-- The activity serves a resolution for an address, with a loader that is new enough. -/
def Activity.Serves (addr : DevAddr) (first : LoaderId) : Activity → Prop
  | resolve frame => frame.devAddr = addr
  | loadAddress loader other => other = addr ∧ first ≤ loader
  | loadCandidate _ _ other _ => other = addr
  | _ => False

/-- The rules for those who serve a resolution, by the devices they have seen: sessions are filed
for its address, and only devices that were seen are handed on. -/
def servingRules (addr : DevAddr) (first : LoaderId) :
    Contract serverInterface (List DeviceHandle) where
  allows seen op :=
    match op with
    | .memory (.storeAddress other handles) => other = addr ∧ ∀ handle ∈ handles, handle ∈ seen
    | .memory (.storeSession _ handle) => handle.card.devAddr = addr
    | .memory (.deposit _ _ load) => ∀ handle, load = .loaded handle → handle ∈ seen
    | .memory (.gather loader _) => first ≤ loader
    | .memory (.forgetAddress _) | .memory (.forgetSession _) => False
    | .start activities => ∀ activity ∈ activities, activity.Serves addr first
    | _ => True
  promises op answer :=
    match op, answer with
    | .memory (.newSlot session), handle => handle.card = .ofSession session
    | .memory (.joinLoader _), joined => ∀ loader, joined = .started loader → first ≤ loader
    | _, _ => True
  next seen event :=
    match event with
    | ⟨.memory (.lookUpSession _), some handle⟩ =>
        if handle.card.devAddr = addr then handle :: seen else seen
    | ⟨.memory (.storeSession _ handle), _⟩ => handle :: seen
    | ⟨.memory (.gather ..), loads⟩ => loads.filterMap Service.handleOf ++ seen
    | _ => seen

namespace Service

open Program

variable {net : Network} {addr : DevAddr} {first : LoaderId} {seen : List DeviceHandle}
variable {frame : DataFrame}

/-- Matching a frame hands on nothing. -/
theorem authenticate_serves (handles : List DeviceHandle) :
    (authenticate net frame handles).Keeps (servingRules addr first) (fun _ _ => True) seen := by
  induction handles with
  | nil => trivial
  | cons handle rest ih =>
    refine ⟨trivial, fun announced _ => ?_⟩
    simp only [Program.done_bind]
    split
    · trivial
    · exact ih

/-- A resolution starts the loader of its address at most. -/
theorem resolve_serves (haddr : frame.devAddr = addr) :
    (resolve net frame).Keeps (servingRules addr first) (fun _ _ => True) seen := by
  have hreply : ((memory .takeReply).bind fun resolution =>
      (pure (some resolution) : Service (Option Resolution))).Keeps
        (servingRules addr first) (fun _ _ => True) seen := ⟨trivial, fun _ _ => trivial⟩
  refine keeps_bind.mpr ⟨trivial, fun cached _ => ?_⟩
  cases cached with
  | some handles =>
    exact keeps_bind.mpr ((authenticate_serves handles).mono fun _ _ _ => trivial)
  | none =>
    refine keeps_bind.mpr ⟨trivial, fun joined hpromised => ?_⟩
    cases joined with
    | again => trivial
    | queued => exact hreply
    | started loader =>
      refine keeps_bind.mpr ⟨fun activity hmem => ?_, fun _ _ => hreply⟩
      rw [List.mem_singleton.mp hmem]
      exact ⟨haddr, hpromised loader rfl⟩

/-- A candidate that is loaded is seen. -/
theorem fetchCandidate_serves (eui : Eui64) :
    (fetchCandidate net addr eui).Keeps (servingRules addr first)
      (fun reached load => ∀ handle, load = .loaded handle → handle ∈ reached) seen := by
  refine keeps_bind.mpr ⟨trivial, fun now _ => keeps_done.mpr ?_⟩
  refine keeps_bind.mpr ⟨trivial, fun answer _ => keeps_done.mpr ?_⟩
  split
  · rename_i record _
    split
    · rename_i haddr
      refine keeps_bind.mpr ⟨trivial, fun handle hcard => ?_⟩
      have hfiled : handle.card.devAddr = addr := by
        have hcard : handle.card = .ofSession (.ofRecord net.config record) := hcard
        rw [hcard]
        exact haddr
      refine keeps_bind.mpr ⟨hfiled, fun _ _ other heq => ?_⟩
      rw [← CandidateLoad.loaded.inj heq]
      exact List.mem_cons_self
    · exact nofun
  all_goals exact nofun

theorem loadCandidate_serves (eui : Eui64) :
    (loadCandidate net addr eui).Keeps (servingRules addr first)
      (fun reached load => ∀ handle, load = .loaded handle → handle ∈ reached) seen := by
  refine keeps_bind.mpr ⟨trivial, fun known _ => keeps_done.mpr ?_⟩
  cases known with
  | none => exact fetchCandidate_serves eui
  | some handle =>
    dsimp only
    split
    · rename_i haddr
      intro other heq
      rw [← CandidateLoad.loaded.inj heq]
      simp [servingRules, haddr]
    · exact fetchCandidate_serves eui

/-- What a loader finds it has gathered. -/
theorem findDevices_serves {loader : LoaderId} (hfirst : first ≤ loader) :
    (findDevices loader addr).Keeps (servingRules addr first)
      (fun reached found => ∀ handles, found = .ok handles → ∀ handle ∈ handles, handle ∈ reached)
      seen := by
  refine keeps_bind.mpr ⟨trivial, fun answer _ => ?_⟩
  cases answer with
  | error error => exact nofun
  | ok listed =>
    refine keeps_bind.mpr ⟨fun activity hmem => ?_, fun _ _ => ?_⟩
    · obtain ⟨place, hplace, rfl⟩ := List.mem_mapIdx.mp hmem
      rfl
    · refine keeps_bind.mpr ⟨hfirst, fun loads _ handles hfound handle hmem => ?_⟩
      have hhandles : handles = loads.filterMap handleOf := by
        unfold devicesOf at hfound
        dsimp only at hfound
        split at hfound
        · cases hfound
        · exact (Except.ok.inj hfound).symm
      rw [hhandles] at hmem
      exact List.mem_append_left _ hmem

/-- Answering frames hands on nothing. -/
theorem answerAll_serves (found : Except FailureReason (List DeviceHandle))
    (frames : List (TaskId × DataFrame)) :
    (answerAll net found frames).Keeps (servingRules addr first) (fun _ _ => True) seen := by
  induction frames generalizing seen with
  | nil => trivial
  | cons entry rest ih =>
    obtain ⟨task, frame⟩ := entry
    have hreply : ∀ (resolution : Resolution) (reached : List DeviceHandle),
        ((memory (.reply task resolution)).bind fun _ => answerAll net found rest).Keeps
          (servingRules addr first) (fun _ _ => True) reached :=
      fun resolution reached => keeps_bind.mpr ⟨trivial, fun _ _ => ih⟩
    cases found with
    | error reason => exact hreply _ _
    | ok handles =>
      exact keeps_bind.mpr ((authenticate_serves handles).mono fun _ _ _ => hreply _ _)

/-- A loader publishes what it gathered, for its address. -/
theorem loadAddress_serves {loader : LoaderId} (hfirst : first ≤ loader) :
    (loadAddress net loader addr).Keeps (servingRules addr first) (fun _ _ => True) seen := by
  refine keeps_bind.mpr ((findDevices_serves hfirst).mono fun reached found hfound => ?_)
  have hleave : ∀ later : List DeviceHandle, ((memory (.leaveLoader addr)).bind fun _ =>
      (memory (.closeQueue loader)).bind fun waiting => answerAll net found waiting).Keeps
        (servingRules addr first) (fun _ _ => True) later := fun later =>
    keeps_bind.mpr ⟨trivial, fun _ _ => keeps_bind.mpr ⟨trivial, fun waiting _ =>
      answerAll_serves found waiting⟩⟩
  cases found with
  | error reason => exact hleave _
  | ok handles => exact keeps_bind.mpr ⟨⟨rfl, hfound handles rfl⟩, fun _ _ => hleave _⟩

end Service

/-- Whoever serves a resolution keeps the rules. -/
theorem Activity.program_serves {net : Network} {addr : DevAddr} {first : LoaderId} {a : Activity}
    {seen : List DeviceHandle} (h : a.Serves addr first) :
    (a.program net).Keeps (servingRules addr first) (fun _ _ => True) seen := by
  cases a with
  | resolve frame =>
    exact Program.keeps_bind.mpr ((Service.resolve_serves h).mono fun _ _ _ => trivial)
  | loadAddress loader other =>
    obtain ⟨rfl, hfirst⟩ := h
    exact Program.keeps_bind.mpr ((Service.loadAddress_serves hfirst).mono fun _ _ _ => trivial)
  | loadCandidate loader place other eui =>
    obtain rfl := h
    refine Program.keeps_bind.mpr ((Service.loadCandidate_serves eui).mono fun _ load hload => ?_)
    exact Program.keeps_bind.mpr ⟨hload, fun _ _ => trivial⟩
  | dispatch | handle | install | forgetDevice | forgetAddress => exact h.elim

/-! ## The invariant -/

namespace Memory

variable {config : ServerConfig} {now : Instant} {task : TaskId} {m after : Memory}
variable {op : MemoryOperation} {answer : op.Answer} {addr : DevAddr} {first : LoaderId} {eui : Eui64}
variable {seen : List DeviceHandle}

/-- What the index holds it held before, or it has just been stored. -/
theorem index_cases {handle : DeviceHandle}
    (hperform : m.perform config now task op = some (answer, after))
    (h : (after.index.get? eui).map Stamped.value = some handle) :
    (m.index.get? eui).map Stamped.value = some handle ∨ op = .storeSession eui handle := by
  rw [session_of_perform hperform] at h
  cases op with
  | storeSession other stored =>
    dsimp only [Event.session] at h
    split at h
    · rename_i hother
      rw [hother, Option.some.inj h]
      exact .inr rfl
    · exact .inl h
  | forgetSession other =>
    dsimp only [Event.session] at h
    split at h
    · cases h
    · exact .inl h
  | _ => exact .inl h

/-- The index goes on to name the address of a resolution while it is served. -/
theorem Names.perform (h : m.Names eui addr)
    (hallowed : (servingRules addr first).allows seen (.memory op))
    (hperform : m.perform config now task op = some (answer, after)) : after.Names eui addr := by
  have hsession : (after.index.get? eui).map Stamped.value =
      Event.session eui ((m.index.get? eui).map Stamped.value) ⟨.memory op, answer⟩ :=
    session_of_perform hperform
  cases op with
  | storeSession other handle =>
    by_cases hother : other = eui
    · exact ⟨handle, by rw [hsession]; exact if_pos hother, hallowed⟩
    · exact h.of_eq (by rw [hsession]; exact if_neg hother)
  | forgetSession other => exact hallowed.elim
  | _ => exact h.of_eq hsession

/-- What is seen while a resolution is served, the index names its address for. -/
theorem names_of_seen (hseen : ∀ handle ∈ seen, m.Names handle.card.devEui addr)
    (hown : ∀ eui handle, (m.index.get? eui).map Stamped.value = some handle →
      handle.card.devEui = eui)
    (hfiled : ∀ eui handle, op = .storeSession eui handle → handle.card.devEui = eui)
    (htold : ∀ loader place handle, first ≤ loader → m.Told loader place (.loaded handle) →
      m.Names handle.card.devEui addr)
    (hallowed : (servingRules addr first).allows seen (.memory op))
    (hperform : m.perform config now task op = some (answer, after)) :
    ∀ handle ∈ (servingRules addr first).next seen ⟨.memory op, answer⟩,
      after.Names handle.card.devEui addr := by
  intro handle hmem
  have hold : handle ∈ seen → after.Names handle.card.devEui addr := fun hbefore =>
    (hseen handle hbefore).perform hallowed hperform
  cases op with
  | lookUpSession eui =>
    have hanswer : (m.readIndex config now eui).1 = answer :=
      congrArg Prod.fst (Option.some.inj hperform)
    cases answer with
    | none => exact hold hmem
    | some found =>
      dsimp only [servingRules] at hmem
      split at hmem
      · rename_i haddr
        rcases List.mem_cons.mp hmem with rfl | hbefore
        · have hindex : (m.index.get? eui).map Stamped.value = some handle := by
            rcases readIndex_eq m config now eui with heq | ⟨entry, hentry, heq⟩
            · rw [heq] at hanswer
              cases hanswer
            · rw [heq] at hanswer
              rw [hentry]
              exact hanswer
          have hnames : m.Names handle.card.devEui addr :=
            ⟨handle, by rw [hown eui handle hindex]; exact hindex, haddr⟩
          exact hnames.perform hallowed hperform
        · exact hold hbefore
      · exact hold hmem
  | storeSession eui stored =>
    rcases List.mem_cons.mp hmem with rfl | hbefore
    · refine ⟨handle, ?_, hallowed⟩
      rw [session_of_perform hperform]
      exact if_pos (hfiled eui handle rfl).symm
    · exact hold hbefore
  | gather loader count =>
    rcases List.mem_append.mp hmem with hgathered | hbefore
    · obtain ⟨load, hload, hhandle⟩ := List.mem_filterMap.mp hgathered
      obtain ⟨loads, hloads, heq⟩ := Option.map_eq_some_iff.mp hperform
      obtain ⟨rfl, rfl⟩ := Prod.mk.inj heq
      obtain ⟨place, hplace⟩ := told_of_gathered hloads hload
      cases load with
      | loaded found =>
        obtain rfl := Option.some.inj hhandle
        exact htold loader place found hallowed hplace
      | skipped | failed => cases hhandle
    · exact hold hbefore
  | _ => exact hold hmem

/-- A device stays tracked while a resolution is served, if the index can follow what is filed. -/
theorem Tracks.perform (h : m.Tracks config now eui)
    (hseen : ∀ handle ∈ seen, m.Names handle.card.devEui addr)
    (hallowed : (servingRules addr first).allows seen (.memory op))
    (hperform : m.perform config now task op = some (answer, after))
    (hfollowed : ∀ handle, op = .storeSession eui handle →
      ∀ other, m.Names eui other → other = handle.card.devAddr) :
    after.Tracks config now eui := by
  intro other handles hentry handle hmem hdevice
  have hsession : (after.index.get? eui).map Stamped.value =
      Event.session eui ((m.index.get? eui).map Stamped.value) ⟨.memory op, answer⟩ :=
    session_of_perform hperform
  rcases addressEntry_of_perform hperform hentry with ⟨hbefore, -⟩ | rfl
  · have hnames := h other handles hbefore handle hmem hdevice
    cases op with
    | storeSession filed stored =>
      by_cases hfiled : filed = eui
      · subst hfiled
        refine ⟨stored, by rw [hsession]; exact if_pos rfl, ?_⟩
        exact (hfollowed stored rfl other hnames).symm
      · exact hnames.of_eq (by rw [hsession]; exact if_neg hfiled)
    | forgetSession filed => exact hallowed.elim
    | _ => exact hnames.of_eq hsession
  · obtain ⟨rfl, hhandles⟩ := hallowed
    have hnames := hseen handle (hhandles handle hmem)
    rw [hdevice] at hnames
    exact hnames.of_eq hsession

/-- A device that is tracked stays so while time passes. -/
theorem Tracks.later {later : Instant} (h : m.Tracks config now eui) (hle : now ≤ later) :
    m.Tracks config later eui := fun addr handles hentry =>
  h addr handles (addressEntry_of_later hle hentry)

end Memory

/-- What holds of a registry whose operations come one after the other, while a resolution for an
address is served or nothing is done. -/
structure ServerState.Ordered (net : Network) (filings : List Filing) (addr : DevAddr)
    (first : LoaderId) (σ : ServerState) : Prop where
  /-- What the index holds for a device is a session of it. -/
  own : ∀ eui handle, (σ.memory.index.get? eui).map Stamped.value = some handle →
    handle.card.devEui = eui
  /-- New loaders are new enough. -/
  first_le : first ≤ σ.memory.queues.length
  /-- Whoever is not done serves the resolution, and the index names the address for what it has
  seen. -/
  serves : ∀ (task : TaskId) (job : Job), σ.jobs[task]? = some job → job.isOver = true ∨
    job.activity.Serves addr first ∧ ∃ seen,
      job.rest.Keeps (servingRules addr first) (fun _ _ => True) seen ∧
        ∀ handle ∈ seen, σ.memory.Names handle.card.devEui addr
  /-- So it does for what the loaders were told. -/
  told : ∀ loader place handle, first ≤ loader → σ.memory.Told loader place (.loaded handle) →
    σ.memory.Names handle.card.devEui addr
  /-- A device is tracked if the index could follow it so far. -/
  tracks : ∀ eui, (∀ filing ∈ filings, filing.eui = eui → filing.Followed net.config) →
    σ.memory.Tracks net.config σ.now eui

namespace ServerState.Ordered

variable {net : Network} {filings : List Filing} {addr : DevAddr} {first : LoaderId}
variable {σ next : ServerState} {moments : List Moment}

theorem boot (now : Instant) : Ordered net [] addr 0 { now := now } where
  own eui handle h := by cases h
  first_le := Nat.le_refl _
  serves task job h := by simp at h
  told loader place handle _ h := by
    obtain ⟨queue, hqueue, -⟩ := h
    simp at hqueue
  tracks eui _ addr handles h := by cases h

/-- At rest, any resolution can be the next one. -/
theorem ofRest (hrest : σ.AtRest)
    (hown : ∀ eui handle, (σ.memory.index.get? eui).map Stamped.value = some handle →
      handle.card.devEui = eui)
    (htracks : ∀ eui, (∀ filing ∈ filings, filing.eui = eui → filing.Followed net.config) →
      σ.memory.Tracks net.config σ.now eui) :
    Ordered net filings addr σ.memory.queues.length σ where
  own := hown
  first_le := Nat.le_refl _
  serves task job hjob := .inl (hrest job (List.mem_of_getElem? hjob))
  told loader place handle hle h := by
    obtain ⟨queue, hqueue, -⟩ := h
    exact absurd (List.getElem?_eq_some_iff.mp hqueue).1 (Nat.not_lt.mpr hle)
  tracks := htracks

/-- So it can when nothing came in meanwhile. -/
theorem ofForgotten {after : Memory} (h : Ordered net filings addr first σ) (hrest : σ.AtRest)
    (hforgot : Memory.Forgotten net.config σ.now σ.memory after) :
    Ordered net filings addr after.queues.length { σ with memory := after } := by
  have hstays : ServerState.AtRest { σ with memory := after } := hrest
  exact .ofRest hstays (fun eui handle hindex => h.own eui handle (hforgot.index eui handle hindex))
    fun eui hfollowed => hforgot.tracks eui (h.tracks eui hfollowed)

/-- A resolution begins. -/
theorem launch {frame : DataFrame} (h : Ordered net filings frame.devAddr first σ) :
    Ordered net filings frame.devAddr first (σ.launch net [.resolve frame]) where
  own := h.own
  first_le := h.first_le
  serves task job hjob := by
    rcases ServerState.getElem?_launch hjob with hold | ⟨-, activity, hmem, rfl⟩
    · exact h.serves task job hold
    · obtain rfl := List.mem_singleton.mp hmem
      have hserves : (Activity.resolve frame).Serves frame.devAddr first := rfl
      exact .inr ⟨hserves, [], Activity.program_serves hserves, by simp⟩
  told := h.told
  tracks := h.tracks

/-- Whatever is done keeps the rules, and the index names the address for what was seen. -/
theorem allows (h : Ordered net filings addr first σ) (step : σ.Step net moments next) {m : Moment}
    (hmem : m ∈ moments) : ∃ seen, (servingRules addr first).allows seen m.event.op ∧
      ∀ handle ∈ seen, σ.memory.Names handle.card.devEui addr := by
  obtain ⟨activity, rest, found, -⟩ := step.performs hmem
  rcases h.serves _ _ found with hover | ⟨-, seen, hkeeps, hseen⟩
  · cases hover
  · exact ⟨seen, hkeeps.1, hseen⟩

/-- What is answered is as promised. -/
theorem promises (h : Ordered net filings addr first σ) {task : TaskId} {op : ServerOperation}
    {answer : op.Answer} {after : Memory} (admitted : σ.Admits net task op answer after) :
    (servingRules addr first).promises op answer := by
  cases op with
  | clock | wallClock | draw | call | race | start => trivial
  | memory op =>
    cases op with
    | newSlot session =>
      obtain ⟨rfl, -⟩ := Prod.mk.inj (Option.some.inj admitted)
      rfl
    | joinLoader frame =>
      intro loader hstarted
      have hjoins := Memory.joins_of_perform admitted
      rw [hstarted] at hjoins
      cases hjoins
      exact h.first_le
    | _ => trivial

/-- The address is named as long as the resolution is served. -/
theorem names_next (h : Ordered net filings addr first σ) (step : σ.Step net moments next)
    {eui : Eui64} (hnames : σ.memory.Names eui addr) : next.memory.Names eui addr := by
  rcases step.memory_cases with ⟨hsame, -⟩ | ⟨task, op, answer, rfl, hperform⟩
  · exact hsame ▸ hnames
  · obtain ⟨seen, hallowed, -⟩ := h.allows step List.mem_cons_self
    exact hnames.perform hallowed hperform

/-- A session that comes into the index is a filing. -/
theorem filed {task : TaskId} {eui : Eui64} {handle : DeviceHandle} {time : Instant}
    {before after : Memory} {answer : Unit} :
    [(⟨task, ⟨.memory (.storeSession eui handle), answer⟩, before, after⟩ : Moment)].filterMap
      (Moment.filing time) = [⟨time, before, eui, handle, false⟩] := rfl

/-- Whoever is not done goes on to serve the resolution. -/
theorem serves_step (h : Ordered net filings addr first σ) (step : σ.Step net moments next)
    (inside : next.jobs.length = σ.jobs.length ∨ moments ≠ [])
    (hown : ∀ filing ∈ moments.filterMap (Moment.filing σ.now), filing.Own) {task : TaskId}
    {job : Job} (hjob : next.jobs[task]? = some job) : job.isOver = true ∨
      job.activity.Serves addr first ∧ ∃ seen,
        job.rest.Keeps (servingRules addr first) (fun _ _ => True) seen ∧
          ∀ handle ∈ seen, next.memory.Names handle.card.devEui addr := by
  have hfresh : ∀ activity : Activity, activity.Serves addr first →
      (Job.fresh net activity).isOver = true ∨ (Job.fresh net activity).activity.Serves addr first ∧
        ∃ seen, (Job.fresh net activity).rest.Keeps (servingRules addr first) (fun _ _ => True) seen ∧
          ∀ handle ∈ seen, next.memory.Names handle.card.devEui addr :=
    fun activity hserves => .inr ⟨hserves, [], Activity.program_serves hserves, by simp⟩
  cases step.came hjob with
  | stayed found still =>
    refine (h.serves task job found).imp_right ?_
    rintro ⟨hserves, seen, hkeeps, hseen⟩
    exact ⟨hserves, seen, hkeeps, fun handle hmem => h.names_next step (hseen handle hmem)⟩
  | renewed found silent =>
    rcases h.serves task _ found with hover | ⟨hserves, -⟩
    · cases hover
    · exact hfresh _ hserves
  | arrived new outside silent =>
    refine inside.elim (fun hlength => ?_) fun hmoments => absurd silent hmoments
    have hlt := (List.getElem?_eq_some_iff.mp hjob).1
    exact absurd (hlength ▸ hlt) (Nat.not_lt.mpr new)
  | begun found performed new listed =>
    rcases h.serves _ _ found with hover | ⟨-, seen, hkeeps, -⟩
    · cases hover
    · exact hfresh _ (hkeeps.1 _ (List.mem_of_getElem? listed))
  | @performed activity op rest answer after found admitted performed =>
    rcases h.serves _ _ found with hover | ⟨hserves, seen, hkeeps, hseen⟩
    · cases hover
    · refine .inr ⟨hserves, _, hkeeps.2 answer (h.promises admitted), ?_⟩
      subst performed
      cases op with
      | memory op =>
        obtain ⟨-, -, -, hperform⟩ := step.performs List.mem_cons_self
        refine Memory.names_of_seen hseen h.own (fun eui handle heq => ?_) h.told hkeeps.1 hperform
        subst heq
        exact hown ⟨_, _, _, _, _⟩ (by rw [filed]; exact List.mem_cons_self)
      | clock | wallClock | draw | call | race | start =>
        exact fun handle hmem => h.names_next step (hseen handle hmem)

/-- The invariant survives every step of a resolution. -/
theorem step (h : Ordered net filings addr first σ) (step : σ.Step net moments next)
    (inside : next.jobs.length = σ.jobs.length ∨ moments ≠ [])
    (hown : ∀ filing ∈ moments.filterMap (Moment.filing σ.now), filing.Own) :
    Ordered net (filings ++ moments.filterMap (Moment.filing σ.now)) addr first next := by
  have hserves := fun (task : TaskId) (job : Job) (hjob : next.jobs[task]? = some job) =>
    h.serves_step step inside hown hjob
  rcases step.memory_cases with ⟨hsame, hnone⟩ | ⟨task, op, answer, rfl, hperform⟩
  · refine ⟨hsame ▸ h.own, hsame ▸ h.first_le, hserves, hsame ▸ h.told, fun eui hfollowed => ?_⟩
    rw [hsame]
    exact (h.tracks eui fun filing hmem => hfollowed filing (List.mem_append_left _ hmem)).later
      step.now_le
  · obtain ⟨seen, hallowed, hseen⟩ := h.allows step List.mem_cons_self
    dsimp only at hallowed
    refine ⟨fun eui handle hindex => ?_, ?_, hserves, fun loader place handle hle htold => ?_,
      fun eui hfollowed => ?_⟩
    · rcases Memory.index_cases hperform hindex with hold | rfl
      · exact h.own eui handle hold
      · exact hown ⟨_, _, _, _, _⟩ (by rw [filed]; exact List.mem_cons_self)
    · exact Nat.le_trans h.first_le (Memory.queueChange_of_perform hperform).length_le
    · rcases (Memory.queueChange_of_perform hperform).told_cases htold with hold | rfl
      · exact h.names_next step (h.told loader place handle hle hold)
      · exact h.names_next step (hseen handle (hallowed handle rfl))
    · have htracks := h.tracks eui fun filing hmem => hfollowed filing (List.mem_append_left _ hmem)
      refine Memory.Tracks.later (htracks.perform hseen hallowed hperform ?_) step.now_le
      rintro handle rfl
      exact hfollowed ⟨σ.now, σ.memory, eui, handle, false⟩
        (List.mem_append_right _ (by rw [filed]; exact List.mem_cons_self)) rfl

end ServerState.Ordered

/-- A turn takes no time, and nothing comes from outside. -/
theorem ServerState.turn_inside {net : Network} (answers : (request : Request) → request.Answer)
    (task : TaskId) (σ : ServerState) : (σ.turn net answers task).2.now = σ.now ∧
      ((σ.turn net answers task).2.jobs.length = σ.jobs.length ∨
        (σ.turn net answers task).1 ≠ []) := by
  unfold turn
  split
  · split
    · exact ⟨rfl, .inr (by simp)⟩
    · exact ⟨rfl, .inl rfl⟩
  · exact ⟨rfl, .inl List.length_set⟩
  · exact ⟨rfl, .inl rfl⟩

namespace OrderlyRun

variable {net : Network} {filings : List Filing} {σ : ServerState}

/-- The invariant holds at the end of every run in which the store answers with sessions of the
devices that it is asked for. -/
theorem ordered (run : OrderlyRun net filings σ) (hown : ∀ filing ∈ filings, filing.Own) :
    ∃ addr first, σ.Ordered net filings addr first := by
  induction run with
  | boot now => exact ⟨⟨0⟩, 0, .boot now⟩
  | resolve run rest frame ih =>
    obtain ⟨_, _, h⟩ := ih hown
    exact ⟨_, _, ServerState.Ordered.launch (.ofRest rest h.own h.tracks)⟩
  | step run step inside ih =>
    obtain ⟨addr, first, h⟩ := ih fun filing hmem => hown filing (List.mem_append_left _ hmem)
    exact ⟨addr, first,
      h.step step inside fun filing hmem => hown filing (List.mem_append_right _ hmem)⟩
  | @join filings σ record task handle after run rest installed ih =>
    obtain ⟨_, _, h⟩ := ih fun filing hmem => hown filing (List.mem_append_left _ hmem)
    have hinstalled := Memory.installed_of_runAlone installed
    refine ⟨⟨0⟩, _, .ofRest rest (fun eui one hindex => ?_) fun eui hfollowed => ?_⟩
    · by_cases hdevice : eui = record.devEui
      · rw [hdevice] at hindex ⊢
        have hnew : after.index.get? record.devEui = some ⟨handle, σ.now⟩ := hinstalled.index
        dsimp only at hindex
        rw [hnew] at hindex
        rw [← Option.some.inj hindex, hinstalled.card]
        rfl
      · exact h.own eui one ((hinstalled.others eui hdevice).symm.trans hindex)
    · have htracks := h.tracks eui fun filing hmem =>
        hfollowed filing (List.mem_append_left _ hmem)
      by_cases hdevice : eui = record.devEui
      · subst hdevice
        have hfollow := hfollowed ⟨σ.now, σ.memory, record.devEui, handle, true⟩
          (List.mem_append_right _ List.mem_cons_self) rfl
        rw [Filing.Followed, if_pos rfl] at hfollow
        dsimp only at hfollow
        rw [hinstalled.card] at hfollow
        exact hinstalled.tracks_self htracks hfollow
      · exact hinstalled.tracks_other hdevice htracks
  | consult run rest eui ih =>
    obtain ⟨addr, _, h⟩ := ih hown
    exact ⟨addr, _, h.ofForgotten rest Memory.forgotten_readIndex⟩
  | forgetDevice run rest forgot ih =>
    obtain ⟨addr, _, h⟩ := ih hown
    exact ⟨addr, _, h.ofForgotten rest (Memory.forgotten_of_forgetDevice forgot)⟩
  | forgetAddress run rest forgot ih =>
    obtain ⟨addr, _, h⟩ := ih hown
    exact ⟨addr, _, h.ofForgotten rest (Memory.forgotten_of_forgetAddress forgot)⟩

/-- Time passes. -/
theorem wait {now : Instant} (run : OrderlyRun net filings σ) (later : σ.now ≤ now) :
    OrderlyRun net filings { σ with now := now } := by
  have next := run.step (.wait later) (.inl rfl)
  rwa [List.filterMap_nil, List.append_nil] at next

/-- Tasks that go on one after the other lead such a run further. -/
theorem turns (answers : (request : Request) → request.Answer) (tasks : List TaskId)
    (run : OrderlyRun net filings σ) :
    let reached := ServerState.turns net answers tasks ([], σ)
    OrderlyRun net (filings ++ reached.1.filterMap (Moment.filing σ.now)) reached.2 := by
  -- No time passes, so all filings are of one instant.
  have hturns : ∀ reached : List Moment × ServerState, reached.2.now = σ.now →
      OrderlyRun net (filings ++ reached.1.filterMap (Moment.filing σ.now)) reached.2 →
        let later := ServerState.turns net answers tasks reached
        OrderlyRun net (filings ++ later.1.filterMap (Moment.filing σ.now)) later.2 := by
    induction tasks with
    | nil => exact fun _ _ h => h
    | cons task rest ih =>
      intro reached hnow h
      have hinside : _ ∧ ((reached.2.turn net answers task).2.jobs.length = _ ∨ _) :=
        reached.2.turn_inside answers task
      refine ih _ (hinside.1.trans hnow) ?_
      dsimp only
      rcases ServerState.turn_cases answers task reached.2 with hstep | hstay
      · rw [List.filterMap_append, ← List.append_assoc, ← hnow]
        rw [← hnow] at h
        exact h.step hstep hinside.2
      · rw [hstay, List.append_nil]
        exact h
  exact hturns ([], σ) rfl (by simpa using run)

end OrderlyRun

end LoraNetwork
