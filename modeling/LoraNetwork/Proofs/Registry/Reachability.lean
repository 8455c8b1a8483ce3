import LoraNetwork.Proofs.Registry.Joined

/-!
# What is kept of a device that joined

After a device joined, its session stays in the index and whatever entry of its address is alive has
the device, as long as it is neither forgotten nor joins again, the store lists it, and nobody who
was at work when it joined writes back what was read without it. Tasks that began later, or have
read anew since, may do what they will: they have seen the device, and who has seen it does not
leave it out.
-/

namespace LoraNetwork

/-! ## Calm -/

/-- A task was there when a device joined and has not performed certain operations since. -/
def Unread (reads : ServerOperation → Bool) (first : TaskId) (later : List Moment)
    (task : TaskId) : Prop :=
  task < first ∧ ∀ m ∈ later, m.task = task → reads m.event.op = false

namespace Sight

/-- What a task may have missed of a device that joined when there were some first tasks, and what
it has not read anew since. -/
def since (handle : DeviceHandle) (first : TaskId) (history later : List Moment) (task : TaskId)
    (activity : Activity) : Sight where
  excused := (Sight.of handle activity task (history ++ later)).excused
  outdated := (Sight.of handle activity task (history ++ later)).outdated ∧
    Unread (ServerOperation.readsAddress handle.card.devAddr) first later task
  mistaken := (Sight.of handle activity task (history ++ later)).mistaken ∧
    Unread (ServerOperation.readsSession handle.card.devEui) first later task

/-- The operation stores a session of the device, or an entry of its address, that may be without
what the task has missed. -/
def Harms (handle : DeviceHandle) (sight : Sight) : ServerOperation → Prop
  | .memory (.storeSession eui _) =>
      eui = handle.card.devEui ∧ (sight.excused ∨ sight.mistaken)
  | .memory (.storeAddress addr _) =>
      addr = handle.card.devAddr ∧ (sight.excused ∨ sight.outdated)
  | _ => False

end Sight

/-- The session of a device is neither forgotten nor expired, and the store lists the device and
answers with its address. -/
def Event.serves (handle : DeviceHandle) : Event serverInterface → Bool
  | ⟨.memory (.forgetSession eui), _⟩ => eui ≠ handle.card.devEui
  | ⟨.memory (.lookUpSession eui), found⟩ => eui ≠ handle.card.devEui || found.isSome
  | ⟨.race (.fetchSession eui) _, answer⟩ =>
      eui ≠ handle.card.devEui || !handle.isMoved answer
  | ⟨.call (.fetchCandidates addr), answer⟩ =>
      addr ≠ handle.card.devAddr || handle.isListed answer
  | _ => true

/-- Nobody harms a device in a step. -/
def ServerState.Harmless (handle : DeviceHandle) (first : TaskId) (history later : List Moment)
    (σ : ServerState) (moments : List Moment) : Prop :=
  ∀ m ∈ moments, ∀ job, σ.jobs[m.task]? = some job →
    ¬ (Sight.since handle first history later m.task job.activity).Harms handle m.event.op

/-- A server gets from one state to another while the session of a device is served and nobody
harms it. The device joined with the end of a history, when there were some first tasks, and some
moments have passed since. -/
inductive ServerState.Calm (net : Network) (handle : DeviceHandle) (first : TaskId)
    (history earlier : List Moment) (σ : ServerState) : List Moment → ServerState → Prop where
  /-- It stays. -/
  | start : Calm net handle first history earlier σ [] σ
  /-- One more step. -/
  | step {later moments : List Moment} {reached next : ServerState}
      (calm : Calm net handle first history earlier σ later reached)
      (step : reached.Step net moments next)
      (serves : ∀ m ∈ moments, m.event.serves handle = true)
      (harmless : reached.Harmless handle first history (earlier ++ later) moments) :
      Calm net handle first history earlier σ (later ++ moments) next

/-! ## What is kept -/

/-- A loader was told of a candidate that it is the device, or will be told so. -/
structure ServerState.Sees (σ : ServerState) (handle : DeviceHandle) (first : TaskId)
    (loader : LoaderId) (place : Nat) : Prop where
  /-- Whatever it was told is the device. -/
  told : ∀ load, σ.memory.Told loader place load → load = .loaded handle
  /-- Whoever loads the candidate began after the device joined. -/
  loads : ∀ (task : TaskId) (job : Job) addr eui, σ.jobs[task]? = some job →
    job.activity = .loadCandidate loader place addr eui →
      addr = handle.card.devAddr ∧ eui = handle.card.devEui ∧ first ≤ task

/-- What is kept of a device that joined. -/
structure ServerState.Kept (net : Network) (handle : DeviceHandle) (first : TaskId)
    (history later : List Moment) (σ : ServerState) : Prop where
  /-- No task goes away. -/
  grown : first ≤ σ.jobs.length
  /-- Its session was stored last. -/
  latest : sessionOf handle.card.devEui (history ++ later) = some handle
  /-- An entry of its address that is alive has the device. -/
  cached : ∀ handles,
    σ.memory.addressEntry net.config σ.now handle.card.devAddr = some handles → handle ∈ handles
  /-- What is left of a task keeps the rules of what it may have missed. -/
  sights : ∀ (task : TaskId) (job : Job), σ.jobs[task]? = some job →
    job.rest.Keeps (Sight.rules handle job.activity) (fun _ _ => True)
      (.since handle first history later task job.activity)
  /-- A loader that gathers candidates it asked for since then will find the device. -/
  gathers : ∀ (task : TaskId) (job : Job) loader addr count, σ.jobs[task]? = some job →
    job.activity = .loadAddress loader handle.card.devAddr →
      ¬ Unread (ServerOperation.readsAddress handle.card.devAddr) first later task →
        σ.roster (history ++ later) task = .gathering loader addr count →
          ∃ place < count, σ.Sees handle first loader place

section Unread

variable {reads : ServerOperation → Bool} {first task : TaskId} {later moments : List Moment}
variable {m : Moment}

/-- A task has not read what it had not read before if it has just read nothing. -/
theorem Unread.append (h : Unread reads first later task)
    (hmoments : ∀ m ∈ moments, m.task = task → reads m.event.op = false) :
    Unread reads first (later ++ moments) task :=
  ⟨h.1, fun m hmem => (List.mem_append.mp hmem).elim (h.2 m) (hmoments m)⟩

end Unread

namespace Sight

variable {handle : DeviceHandle} {activity : Activity} {sight : Sight} {op : ServerOperation}

/-- An operation that harms nothing stores no session of the device. -/
theorem Allows.ne_of_storeSession (h : sight.Allows handle activity op)
    (hharmless : ¬ sight.Harms handle op) {eui : Eui64} {session : DeviceHandle}
    (hop : op = .memory (.storeSession eui session)) : eui ≠ handle.card.devEui := by
  subst hop
  exact fun heui => hharmless ⟨heui, h heui⟩

/-- An operation that harms nothing stores entries of the address with the device only. -/
theorem Allows.mem_of_storeAddress (h : sight.Allows handle activity op)
    (hharmless : ¬ sight.Harms handle op) {handles : List DeviceHandle}
    (hop : op = .memory (.storeAddress handle.card.devAddr handles)) : handle ∈ handles := by
  subst hop
  rcases h rfl with hexcused | houtdated | hmem
  · exact absurd ⟨rfl, .inl hexcused⟩ hharmless
  · exact absurd ⟨rfl, .inr houtdated⟩ hharmless
  · exact hmem

end Sight

/-- A loader gathers candidates after an operation if it did so before, or has just started
them. -/
theorem Stage.gathering_of_next {stage : Stage} {op : ServerOperation} {answer : op.Answer}
    {loader : LoaderId} {addr : DevAddr} {count : Nat} (hallows : stage.Allows op)
    (h : stage.next ⟨op, answer⟩ = gathering loader addr count) :
    stage = gathering loader addr count ∨ stage = asked loader addr ∧
      ∃ activities, op = .start activities ∧ activities.length = count := by
  cases op with
  | clock | wallClock | draw | race => exact .inl h
  | start activities =>
    obtain ⟨loader, addr, rfl, -⟩ | ⟨loader, addr, candidates, rfl, -⟩ := hallows
    · cases h
    · obtain ⟨rfl, rfl, hcount⟩ := Stage.gathering.inj h
      exact .inr ⟨rfl, activities, rfl, hcount⟩
  | call request =>
    cases request with
    | fetchCandidates addr =>
      obtain ⟨loader, rfl⟩ := hallows
      cases h
    | _ => exact .inl h
  | memory op =>
    cases op with
    | joinLoader frame =>
      obtain rfl : stage = .idle := hallows
      cases answer <;> cases h
    | takeReply | closeQueue | deposit => cases h
    | gather =>
      obtain ⟨addr, rfl⟩ := hallows
      cases h
    | leaveLoader => obtain ⟨loader, rfl | rfl⟩ := hallows <;> cases h
    | reply task resolution =>
      obtain ⟨frame, rest, rfl⟩ := hallows
      cases h
    | _ => exact .inl h

/-- A loader that gathers does not ask the store again, and it never looks addresses up. -/
theorem Stage.not_readsAddress {handle : DeviceHandle} {sight : Sight} {op : ServerOperation}
    {loader other : LoaderId} {addr address : DevAddr} {count : Nat}
    (hallows : (gathering loader addr count).Allows op)
    (hsight : sight.Allows handle (.loadAddress other address) op) :
    op.readsAddress handle.card.devAddr = false := by
  cases op with
  | clock | wallClock | draw | race | start => rfl
  | call request =>
    cases request with
    | fetchCandidates addr =>
      obtain ⟨loader, hasking⟩ := hallows
      cases hasking
    | _ => rfl
  | memory op =>
    cases op with
    | lookUpAddress addr => cases hsight
    | _ => rfl

/-- Lookups that succeed together find something for each. -/
theorem exists_of_mapM {α β : Type} {f : α → Option β} {l : List α} {ys : List β} {x : α}
    (h : l.mapM f = some ys) (hmem : x ∈ l) : ∃ y ∈ ys, f x = some y := by
  have hfound : f x ∈ ys.map some := Memory.map_eq_of_mapM h ▸ List.mem_map_of_mem hmem
  obtain ⟨y, hy, heq⟩ := List.mem_map.mp hfound
  exact ⟨y, hy, heq.symm⟩

/-- A loader that gathers was told of every place. -/
theorem Memory.exists_told_of_gathered {m : Memory} {loader : LoaderId} {count place : Nat}
    {loads : List CandidateLoad} (h : m.gathered loader count = some loads)
    (hplace : place < count) : ∃ load ∈ loads, m.Told loader place load := by
  unfold gathered at h
  split at h
  · cases h
  · rename_i queue hqueue
    obtain ⟨load, hmem, hfound⟩ := exists_of_mapM h (List.mem_range.mpr hplace)
    obtain ⟨_, _, heq, -⟩ := List.lookup_eq_some_iff.mp hfound
    exact ⟨load, hmem, queue, hqueue, by rw [heq]; simp⟩

namespace ServerState.Kept

variable {net : Network} {handle : DeviceHandle} {first : TaskId} {history later : List Moment}
variable {σ next : ServerState} {moments : List Moment} {task : TaskId} {loader : LoaderId}
variable {addr : DevAddr} {count place : Nat}

/-- What was performed in a step was allowed to its task. -/
theorem allows (h : Kept net handle first history later σ) (step : σ.Step net moments next)
    {m : Moment} (hmem : m ∈ moments) : ∃ job, σ.jobs[m.task]? = some job ∧
      (Sight.since handle first history later m.task job.activity).Allows handle job.activity
        m.event.op := by
  obtain ⟨activity, rest, found, -⟩ := step.performs hmem
  exact ⟨_, found, (h.sights m.task _ found).1⟩

/-- The session goes on to be the one that was stored last. -/
theorem latest_step (h : Kept net handle first history later σ) (step : σ.Step net moments next)
    (serves : ∀ m ∈ moments, m.event.serves handle = true)
    (harmless : σ.Harmless handle first history later moments) :
    sessionOf handle.card.devEui (history ++ (later ++ moments)) = some handle := by
  have hkept : ∀ m ∈ moments, m.event.session handle.card.devEui (some handle) = some handle := by
    intro m hmem
    obtain ⟨job, hjob, hallows⟩ := h.allows step hmem
    have hserves := serves m hmem
    have hharmless := harmless m hmem job hjob
    obtain ⟨task, ⟨op, answer⟩, before, after⟩ := m
    cases op with
    | clock | wallClock | draw | call | race | start => rfl
    | memory op =>
      cases op with
      | storeSession eui session => exact if_neg (hallows.ne_of_storeSession hharmless rfl)
      | forgetSession eui => exact if_neg (of_decide_eq_true hserves)
      | _ => rfl
  rw [← List.append_assoc]
  cases step with
  | wait | arrive | again =>
    rw [List.append_nil]
    exact h.latest
  | perform =>
    rw [sessionOf_snoc, h.latest]
    exact hkept _ List.mem_cons_self

/-- An entry of the address goes on to have the device. -/
theorem cached_step (h : Kept net handle first history later σ) (step : σ.Step net moments next)
    (harmless : σ.Harmless handle first history later moments) {handles : List DeviceHandle}
    (hentry : next.memory.addressEntry net.config next.now handle.card.devAddr = some handles) :
    handle ∈ handles := by
  rcases step.addressEntry_cases hentry with hold | ⟨m, hmem, hop⟩
  · exact h.cached handles hold
  · obtain ⟨job, hjob, hallows⟩ := h.allows step hmem
    exact hallows.mem_of_storeAddress (harmless m hmem job hjob) hop

/-! ### Gathering -/

/-- A loader that gathers goes on to be told of the device. -/
theorem sees_step (h : Kept net handle first history later σ)
    (run : ServerRun net (history ++ later) σ) (step : σ.Step net moments next)
    (hgathering : σ.roster (history ++ later) task = .gathering loader addr count)
    (hsees : σ.Sees handle first loader place) : next.Sees handle first loader place where
  told load htold := by
    rcases step.memory_cases with ⟨hsame, -⟩ | ⟨teller, op, answer, rfl, hperform⟩
    · exact hsees.told load (hsame ▸ htold)
    · rcases (Memory.queueChange_of_perform hperform).told_cases htold with hold | rfl
      · exact hsees.told load hold
      · obtain ⟨job, hjob, addr, eui, hactivity, hload⟩ := h.allows step List.mem_cons_self
        obtain ⟨haddr, heui, hle⟩ := hsees.loads teller job addr eui hjob hactivity
        exact hload haddr heui fun hmistaken => Nat.not_lt.mpr hle hmistaken.2.1
  loads other job addr eui hjob hactivity := by
    rcases step.found_or_begun hjob (by rw [hactivity]; rfl) with
      ⟨old, hold, hsame⟩ | ⟨starter, activity, activities, rest, found, -, -, listed⟩
    · exact hsees.loads other old addr eui hold (hsame.trans hactivity)
    · -- Only the loader starts candidates, and it has done so.
      have hasked := run.asked_of_candidate found (List.mem_of_getElem? (hactivity ▸ listed))
      obtain rfl := run.loading.fits.tied.apart task starter loader (by rw [hgathering]; rfl)
        (by rw [hasked]; rfl)
      rw [hgathering] at hasked
      cases hasked

/-- A loader that has just started candidates with the device among them will be told of it. -/
theorem sees_started (h : Kept net handle first history later σ)
    (run : ServerRun net (history ++ later) σ) (step : σ.Step net moments next)
    {candidates : List DeviceCandidate} {candidate : DeviceCandidate} {m : Moment}
    (hasked : σ.roster (history ++ later) m.task = .asked loader addr) (hmem : m ∈ moments)
    (hop : m.event.op =
      .start (Service.candidateActivities loader handle.card.devAddr candidates))
    (hplace : candidates[place]? = some candidate)
    (heui : candidate.devEui = handle.card.devEui) : next.Sees handle first loader place := by
  have horigins := run.origins
  have hfresh : ¬ Started (history ++ later) loader :=
    horigins.fresh m.task loader (by rw [hasked]; rfl)
  refine ⟨fun load htold => ?_, fun other job addr eui hjob hactivity => ?_⟩
  · have hsame : next.memory = σ.memory := by
      rcases step.memory_cases with ⟨hsame, -⟩ | ⟨_, _, _, heq, -⟩
      · exact hsame
      · rw [heq, List.mem_singleton] at hmem
        rw [hmem] at hop
        cases hop
    exact absurd (horigins.told loader place load (hsame ▸ htold)) hfresh
  · rcases step.found_or_begun hjob (by rw [hactivity]; rfl) with
      ⟨old, hold, hsame⟩ | ⟨starter, activity, activities, rest, found, performed, new, listed⟩
    · refine absurd ?_ hfresh
      exact horigins.candidates other old loader place addr eui hold (hsame.trans hactivity)
    · rw [performed, List.mem_singleton] at hmem
      subst hmem
      obtain rfl := ServerOperation.start.inj hop
      rw [hactivity, Service.candidateActivities, List.getElem?_mapIdx] at listed
      obtain ⟨found, hfound, heq⟩ := Option.map_eq_some_iff.mp listed
      obtain ⟨-, rfl, rfl, rfl⟩ := Activity.loadCandidate.inj heq
      rw [hplace] at hfound
      obtain rfl := Option.some.inj hfound
      exact ⟨rfl, heui, Nat.le_trans h.grown new⟩

/-- A loader that gathers goes on to find the device among its candidates if it had asked for them
since the join. -/
theorem gathers_kept (h : Kept net handle first history later σ)
    (run : ServerRun net (history ++ later) σ) (step : σ.Step net moments next) {job : Job}
    (hjob : next.jobs[task]? = some job)
    (hactivity : job.activity = .loadAddress loader handle.card.devAddr)
    (hread : ¬ Unread (ServerOperation.readsAddress handle.card.devAddr) first later task)
    (hgathering : σ.roster (history ++ later) task = .gathering loader addr count) :
    ∃ place < count, next.Sees handle first loader place := by
  have hlt : task < σ.jobs.length := by
    refine Nat.lt_of_not_le fun hle => ?_
    rw [ServerState.roster_of_length_le hle] at hgathering
    cases hgathering
  have hold := List.getElem?_eq_getElem hlt
  have hsame := (step.activity_eq hold hjob).symm.trans hactivity
  obtain ⟨place, hplace, hsees⟩ := h.gathers task _ loader addr count hold hsame hread hgathering
  exact ⟨place, hplace, h.sees_step run step hgathering hsees⟩

/-- A loader that has just started the candidates it asked for since the join finds the device among
them. -/
theorem gathers_started (h : Kept net handle first history later σ)
    (run : ServerRun net (history ++ later) σ) (step : σ.Step net moments next) {m : Moment}
    {activities : List Activity} {rest : Unit → Service Verdict} (hmem : m ∈ moments)
    (hop : m.event.op = .start activities)
    (found : σ.jobs[m.task]? =
      some ⟨.loadAddress loader handle.card.devAddr, .perform (.start activities) rest⟩)
    (hasked : σ.roster (history ++ later) m.task = .asked loader addr)
    (hread : ¬ Unread (ServerOperation.readsAddress handle.card.devAddr) first later m.task) :
    ∃ place < activities.length, next.Sees handle first loader place := by
  rcases (h.sights m.task _ found).1 with
    ⟨frame, _, hframe, -⟩ | ⟨_, _, candidates, hsame, rfl, hlisted⟩
  · cases hframe
  · obtain ⟨rfl, rfl⟩ := Activity.loadAddress.inj hsame
    obtain ⟨candidate, hcandidate, heui⟩ := hlisted rfl fun houtdated => hread houtdated.2
    obtain ⟨place, hplace⟩ := List.mem_iff_getElem?.mp hcandidate
    refine ⟨place, ?_, h.sees_started run step hasked hmem hop hplace heui⟩
    rw [Service.candidateActivities, List.length_mapIdx]
    exact (List.getElem?_eq_some_iff.mp hplace).1

/-- A loader goes on to find the device among the candidates it asked for since the join. -/
theorem gathers_step (h : Kept net handle first history later σ)
    (run : ServerRun net (history ++ later) σ) (step : σ.Step net moments next) {job : Job}
    (hjob : next.jobs[task]? = some job)
    (hactivity : job.activity = .loadAddress loader handle.card.devAddr)
    (hread : ¬ Unread (ServerOperation.readsAddress handle.card.devAddr) first (later ++ moments)
      task)
    (hgathering : next.roster (history ++ (later ++ moments)) task =
      .gathering loader addr count) : ∃ place < count, next.Sees handle first loader place := by
  rw [← List.append_assoc] at hgathering
  have hmoved := run.moved step task
  generalize next.roster (history ++ later ++ moments) task = stage at hgathering hmoved
  cases hmoved with
  | kept still =>
    refine h.gathers_kept run step hjob hactivity (fun hunread => hread ?_) hgathering
    exact hunread.append fun m hmem heq => absurd heq (still m hmem)
  | @performed activity op rest answer after found admitted performed =>
    have hallows := (run.loading.jobs task _ found).rules.1
    have hsame := step.activity_eq found hjob
    rw [hactivity] at hsame
    obtain rfl : .loadAddress loader handle.card.devAddr = activity := hsame
    have hbefore : op.readsAddress handle.card.devAddr = false →
        ¬ Unread (ServerOperation.readsAddress handle.card.devAddr) first later task := by
      refine fun hop hunread => hread (hunread.append fun m hmem _ => ?_)
      rw [performed, List.mem_singleton] at hmem
      exact hmem ▸ hop
    rcases Stage.gathering_of_next hallows hgathering with hgathers | ⟨hasked, _, rfl, rfl⟩
    · rw [hgathers] at hallows
      refine h.gathers_kept run step hjob hactivity (hbefore ?_) hgathers
      exact Stage.not_readsAddress hallows (h.sights task _ found).1
    · exact h.gathers_started run step (by rw [performed]; exact List.mem_cons_self) rfl found
        hasked (hbefore rfl)
  | @begun starter activity begun activities rest found performed listed =>
    cases begun <;> cases hgathering

/-! ### Reading -/

/-- A loader that gathers candidates it asked for since the join is told of the device. -/
theorem mem_of_gather (h : Kept net handle first history later σ)
    (run : ServerRun net (history ++ later) σ) {activity : Activity} {after : Memory}
    {loads : List CandidateLoad} {rest : List CandidateLoad → Service Verdict}
    (found : σ.jobs[task]? = some ⟨activity, .perform (.memory (.gather loader count)) rest⟩)
    (admitted : σ.Admits net task (.memory (.gather loader count)) loads after)
    (hactivity : activity.Loads handle.card.devAddr)
    (hread : ¬ Unread (ServerOperation.readsAddress handle.card.devAddr) first later task) :
    .loaded handle ∈ loads := by
  obtain ⟨addr, hsame⟩ := (h.sights task _ found).1
  obtain ⟨other, hother⟩ := hactivity
  obtain rfl : activity = .loadAddress loader addr := hsame
  obtain ⟨rfl, rfl⟩ := Activity.loadAddress.inj hother
  obtain ⟨addr, hgathering⟩ := (run.loading.jobs task _ found).rules.1
  obtain ⟨place, hplace, hsees⟩ := h.gathers task _ loader addr count found rfl hread hgathering
  obtain ⟨gathered, hgathered, heq⟩ := Option.map_eq_some_iff.mp admitted
  obtain ⟨rfl, -⟩ := Prod.mk.inj heq
  obtain ⟨load, hmem, htold⟩ := Memory.exists_told_of_gathered hgathered hplace
  exact hsees.told load htold ▸ hmem

/-- Who is answered without the device has not read anew since the join, and does not do so now. -/
theorem unread_of_misses (h : Kept net handle first history later σ)
    (run : ServerRun net (history ++ later) σ) (step : σ.Step net moments next) {m : Moment}
    (hmem : m ∈ moments) (hserves : m.event.serves handle = true) {job : Job}
    (hjob : σ.jobs[m.task]? = some job) (hmisses : m.event.Misses handle job.activity) :
    Unread (ServerOperation.readsAddress handle.card.devAddr) first later m.task ∧
      m.event.op.readsAddress handle.card.devAddr = false := by
  obtain ⟨activity, rest, found, admitted⟩ := step.performs hmem
  obtain rfl := Option.some.inj (hjob.symm.trans found)
  obtain ⟨task, ⟨op, answer⟩, before, after⟩ := m
  cases op with
  | clock | wallClock | draw | race | start => exact hmisses.elim
  | call request =>
    cases request with
    | fetchCandidates addr =>
      obtain ⟨rfl, hmissing⟩ := hmisses
      simp [Event.serves, hmissing] at hserves
    | _ => exact hmisses.elim
  | memory op =>
    cases op with
    | lookUpAddress addr =>
      obtain ⟨rfl, handles, rfl, hnot⟩ := hmisses
      obtain ⟨hentry, -⟩ := Prod.mk.inj (Option.some.inj admitted)
      exact absurd (h.cached handles hentry) hnot
    | gather loader count =>
      obtain ⟨hloads, hnot⟩ := hmisses
      refine ⟨Classical.byContradiction fun hread => hnot ?_, rfl⟩
      exact h.mem_of_gather run found admitted hloads hread
    | _ => exact hmisses.elim

/-- Nobody is answered with another session than that of the device. -/
theorem not_mistakes (h : Kept net handle first history later σ)
    (run : ServerRun net (history ++ later) σ) (step : σ.Step net moments next) {m : Moment}
    (hmem : m ∈ moments) (hserves : m.event.serves handle = true) :
    ¬ m.event.Mistakes handle := by
  obtain ⟨activity, rest, found, admitted⟩ := step.performs hmem
  obtain ⟨task, ⟨op, answer⟩, before, after⟩ := m
  intro hmistakes
  cases op with
  | clock | wallClock | draw | call | start => exact hmistakes
  | race request deadline =>
    cases request with
    | fetchSession eui =>
      obtain ⟨rfl, hmoved⟩ := hmistakes
      simp [Event.serves, hmoved] at hserves
    | _ => exact hmistakes
  | memory op =>
    cases op with
    | lookUpSession eui =>
      obtain ⟨rfl, hother⟩ := hmistakes
      have hanswer : answer = (σ.memory.readIndex net.config σ.now handle.card.devEui).1 :=
        (congrArg Prod.fst (Option.some.inj admitted)).symm
      have hsession := run.session_eq handle.card.devEui
      rw [h.latest] at hsession
      rcases Memory.readIndex_eq σ.memory net.config σ.now handle.card.devEui with
        heq | ⟨entry, hentry, heq⟩ <;> rw [heq] at hanswer
      · simp [Event.serves, hanswer] at hserves
      · rw [hentry] at hsession
        exact hother (hanswer.trans hsession)
    | _ => exact hmistakes

/-- What is left of the tasks goes on to keep the rules of what they may have missed. -/
theorem sights_step (h : Kept net handle first history later σ)
    (run : ServerRun net (history ++ later) σ) (step : σ.Step net moments next)
    (serves : ∀ m ∈ moments, m.event.serves handle = true) (task : TaskId) (job : Job)
    (hjob : next.jobs[task]? = some job) :
    job.rest.Keeps (Sight.rules handle job.activity) (fun _ _ => True)
      (.since handle first history (later ++ moments) task job.activity) := by
  refine step.keeps_sight (Sight.since handle first history later)
    (Sight.since handle first history (later ++ moments)) h.sights ?_ ?_ ?_ task job hjob
  · exact fun task activity hjoins => Sight.excused_of_joins hjoins _ _
  · intro task activity hstill
    have hsame : Sight.of handle activity task (history ++ (later ++ moments)) =
        Sight.of handle activity task (history ++ later) := by
      rw [← List.append_assoc]
      exact step.along_of_still hstill
    unfold Sight.since
    rw [hsame]
    exact ⟨id, And.imp_right fun hunread => hunread.append fun m hmem heq =>
      absurd heq (hstill m hmem), And.imp_right fun hunread => hunread.append fun m hmem heq =>
      absurd heq (hstill m hmem)⟩
  · intro m hmem job hjob
    have hsight : Sight.of handle job.activity m.task (history ++ (later ++ moments)) =
        (Sight.of handle job.activity m.task (history ++ later)).next handle job.activity
          m.event := by
      rw [step.eq_singleton hmem, ← List.append_assoc, Sight.of, Contract.along_snoc, if_pos rfl]
      rfl
    have hquiet : ∀ {reads : ServerOperation → Bool}, reads m.event.op = false →
        ∀ m' ∈ moments, m'.task = m.task → reads m'.event.op = false := by
      intro reads hop m' hmem' _
      rw [step.eq_singleton hmem, List.mem_singleton] at hmem'
      exact hmem' ▸ hop
    unfold Sight.since
    rw [hsight]
    refine ⟨id, ?_, ?_⟩
    · rintro (hmisses | ⟨⟨houtdated, hunread⟩, hop⟩)
      · obtain ⟨hunread, hop⟩ :=
          h.unread_of_misses run step hmem (serves m hmem) hjob hmisses
        exact ⟨.inl hmisses, hunread.append (hquiet hop)⟩
      · exact ⟨.inr ⟨houtdated, hop⟩, hunread.append (hquiet hop)⟩
    · rintro (hmistakes | ⟨⟨hmistaken, hunread⟩, hop⟩)
      · exact absurd hmistakes (h.not_mistakes run step hmem (serves m hmem))
      · exact ⟨.inr ⟨hmistaken, hop⟩, hunread.append (hquiet hop)⟩

/-- What is kept survives every calm step. -/
theorem step (h : Kept net handle first history later σ)
    (run : ServerRun net (history ++ later) σ) (step : σ.Step net moments next)
    (serves : ∀ m ∈ moments, m.event.serves handle = true)
    (harmless : σ.Harmless handle first history later moments) :
    Kept net handle first history (later ++ moments) next where
  grown := Nat.le_trans h.grown step.length_le
  latest := h.latest_step step serves harmless
  cached _ hentry := h.cached_step step harmless hentry
  sights := h.sights_step run step serves
  gathers _ _ _ _ _ hjob hactivity hread hgathering :=
    h.gathers_step run step hjob hactivity hread hgathering

end ServerState.Kept

/-- What is kept of a device that has just joined. -/
theorem ServerState.Joined.kept {net : Network} {handle : DeviceHandle} {history : List Moment}
    {σ : ServerState} (joined : σ.Joined history handle) (run : ServerRun net history σ) :
    σ.Kept net handle σ.jobs.length history [] where
  grown := Nat.le_refl _
  latest := by
    rw [List.append_nil]
    exact joined.latest
  cached _ hentry := run.mem_of_joined joined hentry
  sights task job hjob := by
    refine (run.keeps_sight handle task job hjob).blur ?_
    have hunread : ∀ reads, Unread reads σ.jobs.length [] task := fun _ =>
      ⟨(List.getElem?_eq_some_iff.mp hjob).1, by simp⟩
    unfold Sight.since
    rw [List.append_nil]
    exact ⟨id, fun h => ⟨h, hunread _⟩, fun h => ⟨h, hunread _⟩⟩
  gathers task job _ _ _ hjob _ hread _ :=
    absurd ⟨(List.getElem?_eq_some_iff.mp hjob).1, by simp⟩ hread

namespace ServerState.Calm

variable {net : Network} {handle : DeviceHandle} {first : TaskId}
variable {history earlier later : List Moment} {σ reached : ServerState}

theorem reaches (calm : σ.Calm net handle first history earlier later reached) :
    σ.Reaches net later reached := by
  induction calm with
  | start => exact .start
  | step _ step _ _ ih => exact ih.step step

/-- A calm stretch leads a run further, and what was kept at its start is kept at its end. -/
theorem kept (calm : σ.Calm net handle first history earlier later reached)
    (run : ServerRun net (history ++ earlier) σ)
    (h : σ.Kept net handle first history earlier) :
    ServerRun net (history ++ (earlier ++ later)) reached ∧
      reached.Kept net handle first history (earlier ++ later) := by
  induction calm with
  | start =>
    rw [List.append_nil]
    exact ⟨run, h⟩
  | step calm step serves harmless ih =>
    obtain ⟨hrun, hkept⟩ := ih
    refine ⟨?_, ?_⟩
    · have hnext := hrun.step step
      rw [List.append_assoc, List.append_assoc] at hnext
      exact hnext
    · have hnext := hkept.step hrun step serves harmless
      rw [List.append_assoc] at hnext
      exact hnext

end ServerState.Calm

end LoraNetwork
