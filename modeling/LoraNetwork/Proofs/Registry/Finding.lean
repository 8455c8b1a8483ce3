import LoraNetwork.Proofs.Loader.Progress
import LoraNetwork.Proofs.Registry.Reachability

/-!
# Finding a device

What is kept of a device that joined is enough to find it. Whoever looks for the device of one of
its frames finds it in the entry of the address, or is replied to by a loader that began when all
earlier loads of the address had come to their end, and such a loader names the device. The frame
has to be signed by the device for the counter it announced, and by no other device of the address,
for the first device that signed a frame is taken.
-/

namespace LoraNetwork

/-- No other of some devices signed a frame, whatever counters they announced. -/
def DeviceHandle.SignsAlone (handle : DeviceHandle) (net : Network) (frame : DataFrame)
    (handles : List DeviceHandle) : Prop :=
  ∀ other ∈ handles, other ≠ handle →
    ∀ counter, other.card.authenticates net.suite counter frame = false

/-- What is read goes with a frame that a device signed: the counter that it announced is
acceptable, and it is the only device of its address that signed the frame. -/
def Event.Agrees (net : Network) (handle : DeviceHandle) (frame : DataFrame) :
    Event serverInterface → Prop
  | ⟨.memory (.readAnnounced slot), counter⟩ =>
      slot = handle.slot → handle.card.authenticates net.suite counter frame = true
  | ⟨.memory (.lookUpAddress addr), found⟩ =>
      addr = handle.card.devAddr →
        ∀ handles, found = some handles → handle.SignsAlone net frame handles
  | ⟨.memory (.storeAddress addr handles), _⟩ =>
      addr = handle.card.devAddr → handle.SignsAlone net frame handles
  | _ => True

/-! ## Finding the device -/

/-- The rules for an activity that looks for the device of a frame or loads its address: replies to
the frame name the device. -/
def findingRules (net : Network) (handle : DeviceHandle) (frame : DataFrame) (activity : Activity) :
    Contract serverInterface Stage where
  allows stage op :=
    match op with
    | .memory (.reply task resolution) => ∀ waiting rest,
        stage = .answering ((task, waiting) :: rest) → waiting = frame → resolution = .ok handle
    | .memory (.takeSlot _) => False
    | _ => True
  promises op answer :=
    (⟨op, answer⟩ : Event serverInterface).Agrees net handle frame ∧
      match op, answer with
      | .call (.fetchCandidates addr), answer =>
          addr = handle.card.devAddr → handle.isListed answer = true
      | .memory (.lookUpAddress addr), found =>
          addr = handle.card.devAddr → ∀ handles, found = some handles → handle ∈ handles
      | .memory (.gather ..), loads =>
          activity.Loads handle.card.devAddr → .loaded handle ∈ loads
      | .memory .takeReply, resolution =>
          activity.frame? = some frame → resolution = .ok handle
      | _, _ => True
  next := Stage.next

namespace Service

open Program

variable {net : Network} {handle : DeviceHandle} {frame : DataFrame} {a : Activity} {stage : Stage}
variable {handles : List DeviceHandle} {loader : LoaderId}

/-- A program of plain operations keeps the rules in its stage. -/
theorem finds_of_plain {α : Type} {p : Service α}
    (h : p.Obeys ServerOperation.Plain fun _ => True) :
    p.Keeps (findingRules net handle frame a) (fun reached _ => reached = stage) stage := by
  refine (h.keeps (· = stage) ?_ ?_ rfl).mono fun _ _ hpost => hpost.1
  · rintro _ op - hplain
    cases op with
    | clock | wallClock | draw | call | race | start => trivial
    | memory op => cases op <;> trivial
  · rintro _ op answer rfl hplain
    exact Stage.next_of_isPlain hplain answer

/-- Among devices of which it alone signed the frame, the device is found. -/
theorem authenticate_finds (hmem : handle ∈ handles)
    (halone : handle.SignsAlone net frame handles) :
    (authenticate net frame handles).Keeps (findingRules net handle frame a)
      (fun reached resolution => reached = stage ∧ resolution = .ok handle) stage := by
  induction handles with
  | nil => cases hmem
  | cons first rest ih =>
    refine ⟨trivial, fun announced hpromised => ?_⟩
    by_cases hfirst : first = handle
    · subst hfirst
      have hsigned : first.card.authenticates net.suite announced frame = true := hpromised.1 rfl
      simp only [Program.done_bind, hsigned, if_true]
      exact ⟨rfl, rfl⟩
    · have hother := halone first List.mem_cons_self hfirst announced
      simp only [Program.done_bind, hother]
      exact ih ((List.mem_cons.mp hmem).resolve_left (Ne.symm hfirst))
        fun other hrest => halone other (List.mem_cons_of_mem _ hrest)

/-- Who looks for the device of the frame finds it, or has to start again. -/
theorem resolve_finds (haddr : frame.devAddr = handle.card.devAddr)
    (hframe : a.frame? = some frame) :
    (resolve net frame).Keeps (findingRules net handle frame a)
      (fun _ found => found = none ∨ found = some (.ok handle)) stage := by
  have hreply : ∀ reached : Stage, ((memory .takeReply).bind fun resolution =>
      (pure (some resolution) : Service (Option Resolution))).Keeps
        (findingRules net handle frame a)
        (fun _ found => found = none ∨ found = some (.ok handle)) reached :=
    fun reached => ⟨trivial, fun resolution hpromised =>
      .inr (congrArg some (hpromised.2 hframe))⟩
  refine keeps_bind.mpr ⟨trivial, fun cached hpromised => ?_⟩
  cases cached with
  | some handles =>
    have hmem := hpromised.2 haddr handles rfl
    have halone := hpromised.1 haddr handles rfl
    exact keeps_bind.mpr ((authenticate_finds hmem halone).mono fun _ _ hfound =>
      .inr (congrArg some hfound.2))
  | none =>
    refine keeps_bind.mpr ⟨trivial, fun joined _ => ?_⟩
    cases joined with
    | again => exact .inl rfl
    | queued => exact hreply _
    | started loader => exact ⟨trivial, fun _ _ => hreply _⟩

/-- Replies to the frame name the device. -/
theorem answerAll_finds (hmem : handle ∈ handles) (halone : handle.SignsAlone net frame handles)
    (waiting : List (TaskId × DataFrame)) :
    (answerAll net (.ok handles) waiting).Keeps (findingRules net handle frame a)
      (fun _ _ => True) (.answering waiting) := by
  induction waiting with
  | nil => trivial
  | cons entry rest ih =>
    obtain ⟨task, waits⟩ := entry
    have hreply : ∀ (resolution : Resolution) (reached : Stage),
        reached = .answering ((task, waits) :: rest) →
          (waits = frame → resolution = .ok handle) →
            ((memory (.reply task resolution)).bind fun _ =>
              answerAll net (.ok handles) rest).Keeps (findingRules net handle frame a)
                (fun _ _ => True) reached := by
      rintro resolution _ rfl hnames
      refine ⟨?_, fun _ _ => ih⟩
      rintro waits' rest' heq rfl
      cases heq
      exact hnames rfl
    refine keeps_bind.mpr ?_
    by_cases hwaits : waits = frame
    · subst hwaits
      exact (authenticate_finds hmem halone).mono fun reached resolution hfound =>
        hreply resolution reached hfound.1 fun _ => hfound.2
    · exact (finds_of_plain authenticate_plain).mono fun reached resolution hsame =>
        hreply resolution reached hsame fun hframe => absurd hframe hwaits

/-- Candidates with the device among them come to devices with it among them. -/
theorem exists_devicesOf {loads : List CandidateLoad}
    (h : CandidateLoad.loaded handle ∈ loads) :
    ∃ handles, devicesOf loads = .ok handles ∧ handle ∈ handles := by
  have hmem : handle ∈ loads.filterMap handleOf := List.mem_filterMap.mpr ⟨_, h, rfl⟩
  refine ⟨_, ?_, hmem⟩
  unfold devicesOf
  rw [if_neg]
  rw [List.isEmpty_iff]
  exact List.ne_nil_of_mem hmem

/-- A loader of the frame's address finds the device. -/
theorem loadAddress_finds (haddr : frame.devAddr = handle.card.devAddr)
    (ha : a = .loadAddress loader frame.devAddr) :
    (loadAddress net loader frame.devAddr).Keeps (findingRules net handle frame a)
      (fun _ _ => True) stage := by
  refine ⟨trivial, fun answer hpromised => ?_⟩
  have hlisted := hpromised.2 haddr
  cases answer with
  | error error => cases hlisted
  | ok listed =>
    refine ⟨trivial, fun _ _ => ⟨trivial, fun loads hpromised => ?_⟩⟩
    obtain ⟨handles, hfound, hmem⟩ :=
      exists_devicesOf (hpromised.2 ⟨loader, by rw [ha, haddr]⟩)
    simp only [Program.done_bind, Program.pure_eq_done, hfound]
    refine ⟨trivial, fun _ hpromised => ⟨trivial, fun _ _ => ⟨trivial, fun waiting _ => ?_⟩⟩⟩
    exact answerAll_finds hmem (hpromised.1 haddr) waiting

end Service

namespace Activity

/-- The activity looks for the device of a frame, or loads its address. -/
def Seeks (frame : DataFrame) (activity : Activity) : Prop :=
  activity = .resolve frame ∨ activity.Loads frame.devAddr

/-- Who looks for the device of a frame finds it, if it does not have to start again. -/
def Finds (handle : DeviceHandle) (frame : DataFrame) (activity : Activity) (verdict : Verdict) :
    Prop :=
  activity = .resolve frame → verdict = .again ∨ verdict = .resolved (.ok handle)

theorem program_finds {net : Network} {handle : DeviceHandle} {frame : DataFrame} {a : Activity}
    (haddr : frame.devAddr = handle.card.devAddr) (ha : a.Seeks frame) (stage : Stage) :
    (a.program net).Keeps (findingRules net handle frame a) (fun _ => a.Finds handle frame)
      stage := by
  rcases ha with rfl | ⟨loader, rfl⟩
  · refine Program.keeps_bind.mpr ((Service.resolve_finds haddr rfl).mono ?_)
    rintro _ _ (rfl | rfl) -
    · exact .inl rfl
    · exact .inr rfl
  · refine Program.keeps_bind.mpr ((Service.loadAddress_finds haddr rfl).mono ?_)
    rintro _ _ - hresolve
    cases hresolve

end Activity

/-! ## Along a run -/

/-- From some first task on, whoever looks for the device of a frame finds it. -/
structure ServerState.Finding (net : Network) (handle : DeviceHandle) (frame : DataFrame)
    (first : TaskId) (history : List Moment) (σ : ServerState) : Prop where
  /-- No task goes away. -/
  grown : first ≤ σ.jobs.length
  /-- Loads of the address that were under way have come to their end. -/
  finished : ∀ (task : TaskId) (job : Job), task < first → σ.jobs[task]? = some job →
    job.activity.Loads frame.devAddr → ∃ verdict, job.rest = .done verdict
  /-- What is left of a later task keeps the rules. -/
  keeps : ∀ (task : TaskId) (job : Job), first ≤ task → σ.jobs[task]? = some job →
    job.activity.Seeks frame → job.rest.Keeps (findingRules net handle frame job.activity)
      (fun _ => job.activity.Finds handle frame) (σ.roster history task)
  /-- A reply to a later task names the device. -/
  replies : ∀ (task : TaskId) (job : Job) resolution, first ≤ task → σ.jobs[task]? = some job →
    job.activity.frame? = some frame → σ.memory.replies.get? task = some resolution →
      resolution = .ok handle

/-- A reply that is there was there before, or has just been sent. -/
theorem Memory.reply_of_perform {config : ServerConfig} {now : Instant} {task other : TaskId}
    {m after : Memory} {op : MemoryOperation} {answer : op.Answer} {resolution : Resolution}
    (h : m.perform config now task op = some (answer, after))
    (hreply : after.replies.get? other = some resolution) :
    m.replies.get? other = some resolution ∨ op = .reply other resolution := by
  cases op with
  | joinLoader frame =>
    cases joins_of_perform h <;> exact .inl hreply
  | takeReply =>
    simp only [perform] at h
    split at h
    · cases h
    · obtain ⟨-, rfl⟩ := Prod.mk.inj (Option.some.inj h)
      exact .inl (get?_of_erase hreply)
  | reply waiting sent =>
    obtain ⟨-, rfl⟩ := Prod.mk.inj (Option.some.inj h)
    rcases get?_set_or hreply with ⟨rfl, rfl⟩ | hold
    · exact .inr rfl
    · exact .inl hold
  | gather loader count =>
    obtain ⟨loads, -, heq⟩ := Option.map_eq_some_iff.mp h
    obtain ⟨-, rfl⟩ := Prod.mk.inj heq
    exact .inl hreply
  | leaveLoader | closeQueue | deposit =>
    obtain ⟨-, rfl⟩ := Prod.mk.inj (Option.some.inj h)
    exact .inl hreply
  | takeSlot slot =>
    rw [(same_of_plain h (.inr ⟨slot, rfl⟩)).2.2] at hreply
    exact .inl hreply
  | _ =>
    rw [(same_of_plain h (.inl rfl)).2.2] at hreply
    exact .inl hreply

namespace ServerState.Finding

variable {net : Network} {handle : DeviceHandle} {frame : DataFrame} {first joined : TaskId}
variable {history later moments : List Moment} {σ next : ServerState} {task : TaskId} {job : Job}

/-- What is answered is as promised. -/
theorem promised (h : Finding net handle frame first (history ++ later) σ)
    (run : ServerRun net (history ++ later) σ) (kept : σ.Kept net handle joined history later)
    (step : σ.Step net moments next) {m : Moment} (hmem : m ∈ moments)
    (serves : m.event.serves handle = true) (agrees : m.event.Agrees net handle frame)
    (hle : joined ≤ first) (hnew : first ≤ m.task) (hjob : σ.jobs[m.task]? = some job) :
    (findingRules net handle frame job.activity).promises m.event.op m.event.answer := by
  obtain ⟨activity, rest, found, admitted⟩ := step.performs hmem
  obtain rfl := Option.some.inj (hjob.symm.trans found)
  obtain ⟨task, ⟨op, answer⟩, before, after⟩ := m
  refine ⟨agrees, ?_⟩
  cases op with
  | clock | wallClock | draw | race | start => trivial
  | call request =>
    cases request with
    | fetchCandidates addr =>
      rintro rfl
      simpa [Event.serves] using serves
    | _ => trivial
  | memory op =>
    cases op with
    | lookUpAddress addr =>
      rintro rfl handles rfl
      obtain ⟨hentry, -⟩ := Prod.mk.inj (Option.some.inj admitted)
      exact kept.cached handles hentry
    | gather loader count =>
      refine fun hloads => kept.mem_of_gather run found admitted hloads fun hunread => ?_
      exact Nat.not_lt.mpr (Nat.le_trans hle hnew) hunread.1
    | takeReply =>
      intro hframe
      simp only [Admits, Memory.perform] at admitted
      split at admitted
      · cases admitted
      · rename_i resolution hreply
        obtain ⟨rfl, -⟩ := Prod.mk.inj (Option.some.inj admitted)
        exact h.replies task _ _ hnew found hframe hreply
    | _ => trivial

/-- Loads that have come to their end do not start again. -/
theorem finished_step (h : Finding net handle frame first history σ)
    (run : ServerRun net history σ) (step : σ.Step net moments next) (hold : task < first)
    (hjob : next.jobs[task]? = some job) (hloads : job.activity.Loads frame.devAddr) :
    ∃ verdict, job.rest = .done verdict := by
  have hlt := Nat.lt_of_lt_of_le hold h.grown
  cases step.came hjob with
  | stayed found => exact h.finished task _ hold found hloads
  | @renewed activity found =>
    obtain ⟨loader, rfl⟩ : ∃ loader, activity = .loadAddress loader frame.devAddr := hloads
    obtain ⟨hover, hagain⟩ := (run.loading.jobs task _ found).rules
    rw [hagain rfl] at hover
    rcases hover with hstage | hstage | hstage <;> cases hstage
  | arrived new | begun _ _ new => exact absurd hlt (Nat.not_lt.mpr new)
  | performed found =>
    obtain ⟨verdict, hdone⟩ := h.finished task _ hold found hloads
    cases hdone

/-- What is left of later tasks goes on to keep the rules. -/
theorem keeps_step (h : Finding net handle frame first (history ++ later) σ)
    (run : ServerRun net (history ++ later) σ) (kept : σ.Kept net handle joined history later)
    (step : σ.Step net moments next) (serves : ∀ m ∈ moments, m.event.serves handle = true)
    (agrees : ∀ m ∈ moments, m.event.Agrees net handle frame) (hle : joined ≤ first)
    (haddr : frame.devAddr = handle.card.devAddr) (hnew : first ≤ task)
    (hjob : next.jobs[task]? = some job) (hseeks : job.activity.Seeks frame) :
    job.rest.Keeps (findingRules net handle frame job.activity)
      (fun _ => job.activity.Finds handle frame)
      (next.roster (history ++ later ++ moments) task) := by
  have hstage : next.roster (history ++ later ++ moments) task =
      stageOf job.activity.stage task (history ++ later ++ moments) := ServerState.roster_eq hjob
  cases step.came hjob with
  | stayed found still =>
    have hsame : stageOf job.activity.stage task (history ++ later ++ moments) =
        stageOf job.activity.stage task (history ++ later) :=
      step.along_of_still (C := loadingRules) still
    rw [hstage, hsame, ← ServerState.roster_eq found]
    exact h.keeps task job hnew found hseeks
  | renewed | arrived | begun => exact Activity.program_finds haddr hseeks _
  | @performed activity op rest answer after found admitted performed =>
    have hmem : ⟨task, ⟨op, answer⟩, σ.memory, after⟩ ∈ moments := by
      rw [performed]
      exact List.mem_cons_self
    have hpromised := h.promised run kept step hmem (serves _ hmem) (agrees _ hmem) hle hnew found
    rw [hstage, performed, stageOf_snoc, if_pos rfl, ← ServerState.roster_eq found]
    exact (h.keeps task _ hnew found hseeks).2 answer hpromised

/-- Replies to later tasks go on to name the device. -/
theorem replies_step (h : Finding net handle frame first history σ)
    (run : ServerRun net history σ) (step : σ.Step net moments next) (hnew : first ≤ task)
    (hjob : next.jobs[task]? = some job) (hframe : job.activity.frame? = some frame)
    {resolution : Resolution} (hreply : next.memory.replies.get? task = some resolution) :
    resolution = .ok handle := by
  have hcases : σ.memory.replies.get? task = some resolution ∨
      ∃ m ∈ moments, m.event.op = .memory (.reply task resolution) := by
    rcases step.memory_cases with ⟨hsame, -⟩ | ⟨performer, op, answer, rfl, hperform⟩
    · exact .inl (hsame ▸ hreply)
    · refine (Memory.reply_of_perform hperform hreply).imp_right ?_
      rintro rfl
      exact ⟨_, List.mem_cons_self, rfl⟩
  rcases hcases with hold | ⟨m, hmem, hop⟩
  · -- Nobody replied to a task before it was there.
    have hlt : task < σ.jobs.length := by
      refine Nat.lt_of_not_le fun hle => ?_
      have hexpects := run.loading.fits.served.awaited task (by rw [hold]; simp)
      rw [ServerState.roster_of_length_le hle] at hexpects
      cases hexpects
    have hbefore := List.getElem?_eq_getElem hlt
    exact h.replies task _ resolution hnew hbefore (step.activity_eq hbefore hjob ▸ hframe) hold
  · obtain ⟨activity, rest, found, -⟩ := step.performs hmem
    obtain ⟨performer, ⟨op, answer⟩, before, after⟩ := m
    obtain rfl : op = .memory (.reply task resolution) := hop
    obtain ⟨waiting, others, hanswering⟩ := (run.loading.jobs performer _ found).rules.1
    obtain ⟨loading, hloading, ⟨loader, hactivity⟩, asking, hasking, hasks⟩ :=
      run.origins.hands performer task waiting (by
        rw [hanswering]
        exact List.mem_cons_self)
    rw [step.activity_eq hasking hjob, hasks] at hframe
    obtain rfl := Option.some.inj hframe
    obtain rfl := Option.some.inj (hloading.symm.trans found)
    have hloads : activity.Loads waiting.devAddr := ⟨loader, hactivity⟩
    rcases Nat.lt_or_ge performer first with hlt | hge
    · obtain ⟨verdict, hdone⟩ := h.finished performer _ hlt found hloads
      cases hdone
    · exact (h.keeps performer _ hge found (.inr hloads)).1 waiting others hanswering rfl

/-- Later tasks go on to find the device. -/
theorem step (h : Finding net handle frame first (history ++ later) σ)
    (run : ServerRun net (history ++ later) σ) (kept : σ.Kept net handle joined history later)
    (step : σ.Step net moments next) (serves : ∀ m ∈ moments, m.event.serves handle = true)
    (agrees : ∀ m ∈ moments, m.event.Agrees net handle frame) (hle : joined ≤ first)
    (haddr : frame.devAddr = handle.card.devAddr) :
    Finding net handle frame first (history ++ later ++ moments) next where
  grown := Nat.le_trans h.grown step.length_le
  finished _ _ hold hjob hloads := h.finished_step run step hold hjob hloads
  keeps _ _ hnew hjob hseeks :=
    h.keeps_step run kept step serves agrees hle haddr hnew hjob hseeks
  replies _ _ _ hnew hjob hframe hreply := h.replies_step run step hnew hjob hframe hreply

/-- When no load can go on, a later task has found the device, or it can go on or start again. -/
theorem found_or_goesOn (h : Finding net handle frame first history σ)
    (run : ServerRun net history σ) (hnew : first ≤ task) (hjob : σ.jobs[task]? = some job)
    (hactivity : job.activity = .resolve frame) (hrest : σ.LoadersRest net) :
    job.rest = .done (.resolved (.ok handle)) ∨ job.rest = .done .again ∨
      σ.CanGoOn net task := by
  have hkeeps := h.keeps task job hnew hjob (.inl hactivity)
  have hloading := run.loading
  obtain ⟨activity, rest⟩ := job
  obtain rfl : activity = .resolve frame := hactivity
  cases rest with
  | done verdict =>
    rcases hkeeps rfl with rfl | rfl
    · exact .inr (.inl rfl)
    · exact .inl rfl
  | perform op next =>
    refine .inr (.inr ?_)
    cases hblocks : op.blocks with
    | false =>
      exact ServerRun.Loading.canGoOn hjob rfl (ServerState.exists_admits hblocks)
    | true =>
      cases op with
      | clock | wallClock | draw | call | race | start => cases hblocks
      | memory op =>
        cases op with
        | takeReply => exact hloading.canGoOn_of_not_owed hjob rfl (hloading.not_owed hrest task)
        | takeSlot slot => exact hkeeps.1.elim
        | gather loader count =>
          obtain ⟨addr, hsame⟩ := run.allows_sight handle hjob
          cases hsame
        | _ => cases hblocks

end ServerState.Finding

end LoraNetwork
