import LoraNetwork.Proofs.Loader.Candidate
import LoraNetwork.Proofs.Server.Rounds

/-!
# What a loader makes of its candidates

A loader asks the store, waits for what became of every candidate, publishes the devices that were
loaded, if there are any, and answers the frames that waited. A candidate whose record could not be
fetched counts as failed and is left out.
-/

namespace LoraNetwork

/-- The record of a device could not be fetched: the store failed, or did not answer in time. -/
def Event.failsToFetch (eui : Eui64) : Event serverInterface → Bool
  | ⟨.race (.fetchSession _) _, some (.ok _)⟩ => false
  | ⟨.race (.fetchSession other) _, _⟩ => other = eui
  | _ => false

/-- The store failed to list the devices of an address. -/
def Event.failsToList (addr : DevAddr) : Event serverInterface → Bool
  | ⟨.call (.fetchCandidates other), .error _⟩ => other = addr
  | _ => false

/-- The candidate was loaded. -/
def CandidateLoad.isLoaded : CandidateLoad → Bool
  | loaded _ => true
  | skipped | failed => false

/-- Candidates were gathered, and none of them was loaded. -/
def Event.gathersNone : Event serverInterface → Bool
  | ⟨.memory (.gather ..), loads⟩ => !loads.any CandidateLoad.isLoaded
  | _ => false

/-- The rules for a candidate: whether its record could not be fetched. -/
def fetchRules (eui : Eui64) : Contract serverInterface Bool where
  allows _ _ := True
  promises _ _ := True
  next failed event := failed || event.failsToFetch eui

/-- A record could not be fetched if one of the events says so. -/
theorem foldl_fetchRules {eui : Eui64} (events : List (Event serverInterface)) (failed : Bool) :
    events.foldl (fetchRules eui).next failed =
      (failed || events.any (Event.failsToFetch eui)) := by
  induction events generalizing failed with
  | nil => simp
  | cons event rest ih =>
    rw [List.foldl_cons, ih, List.any_cons, ← Bool.or_assoc]
    rfl

namespace ServerOperation

/-- The loader looks for devices: it asks the store, starts candidates or gathers them. -/
def looksForDevices : ServerOperation → Bool
  | .call (.fetchCandidates _) | .start _ | .memory (.gather ..) => true
  | _ => false

/-- What a loader may do once it has found devices or none: it publishes these and no others. -/
def Concludes (addr : DevAddr) (found : Except FailureReason (List DeviceHandle)) :
    ServerOperation → Prop
  | .memory (.storeAddress other handles) => other = addr ∧ found = .ok handles
  | .memory (.gather ..) => False
  | _ => True

/-- What a loader may do with the frames that waited: it replies to nobody else. -/
def Replies (waiting : List (TaskId × DataFrame)) : ServerOperation → Prop
  | .memory (.readAnnounced _) => True
  | .memory (.reply task _) => ∃ frame, (task, frame) ∈ waiting
  | _ => False

variable {addr : DevAddr} {found : Except FailureReason (List DeviceHandle)}
variable {waiting : List (TaskId × DataFrame)} {op : ServerOperation}

/-- Who replies publishes nothing. -/
theorem Replies.concludes (h : op.Replies waiting) : op.Concludes addr found := by
  unfold Replies at h
  split at h
  · trivial
  · trivial
  · exact h.elim

theorem Replies.mono {more : List (TaskId × DataFrame)} (h : op.Replies waiting)
    (hmore : ∀ entry ∈ waiting, entry ∈ more) : op.Replies more := by
  unfold Replies at h
  split at h
  · trivial
  · exact h.imp fun _ hmem => hmore _ hmem
  · exact h.elim

end ServerOperation

namespace Service

open Program

variable {net : Network} {loader : LoaderId} {addr : DevAddr} {eui : Eui64} {frame : DataFrame}
variable {found : Except FailureReason (List DeviceHandle)} {loads : List CandidateLoad}
variable {events : List (Event serverInterface)} {event : Event serverInterface}

/-! ## The program of a loader -/

/-- What a loader does once it has found devices or none. -/
def conclude (net : Network) (loader : LoaderId) (addr : DevAddr)
    (found : Except FailureReason (List DeviceHandle)) : Service Unit := do
  match found with
  | .ok handles => memory (.storeAddress addr handles)
  | .error _ => pure ()
  memory (.leaveLoader addr)
  let waiting ← memory (.closeQueue loader)
  answerAll net found waiting

/-- A loader looks for devices and then concludes. -/
theorem loadAddress_eq : loadAddress net loader addr =
    (findDevices loader addr).bind (conclude net loader addr) := by
  refine congrArg (Program.bind _) (funext fun found => ?_)
  cases found <;> rfl

theorem authenticate_replies {waiting : List (TaskId × DataFrame)} (handles : List DeviceHandle) :
    (authenticate net frame handles).Obeys (ServerOperation.Replies waiting) fun _ => True := by
  induction handles with
  | nil => trivial
  | cons handle rest ih =>
    refine obeys_bind.mpr (obeys_ask.mpr ⟨trivial, fun announced => ?_⟩)
    split
    · trivial
    · exact ih

/-- A loader replies to those who waited. -/
theorem answerAll_replies (waiting : List (TaskId × DataFrame)) :
    (answerAll net found waiting).Obeys (ServerOperation.Replies waiting) fun _ => True := by
  induction waiting with
  | nil => trivial
  | cons entry rest ih =>
    obtain ⟨task, frame⟩ := entry
    have hrest : ∀ resolution, ((memory (.reply task resolution)).bind fun _ =>
        answerAll net found rest).Obeys (ServerOperation.Replies ((task, frame) :: rest))
          fun _ => True := by
      refine fun resolution => obeys_bind.mpr (obeys_ask.mpr ⟨⟨frame, List.mem_cons_self⟩, ?_⟩)
      exact fun _ => ih.mono (fun op hop => hop.mono fun _ => List.mem_cons_of_mem _) fun _ h => h
    cases found with
    | error reason => exact hrest _
    | ok handles =>
      exact obeys_bind.mpr ((authenticate_replies handles).mono (fun _ h => h) fun _ _ => hrest _)

/-- A loader publishes the devices that it found, under its address. -/
theorem conclude_concludes : (conclude net loader addr found).Obeys
    (ServerOperation.Concludes addr found) fun _ => True := by
  have hrest : ((memory (.leaveLoader addr)).bind fun _ =>
      (memory (.closeQueue loader)).bind fun waiting => answerAll net found waiting).Obeys
        (ServerOperation.Concludes addr found) fun _ => True := by
    refine obeys_bind.mpr (obeys_ask.mpr ⟨trivial, fun _ => ?_⟩)
    refine obeys_bind.mpr (obeys_ask.mpr ⟨trivial, fun waiting => ?_⟩)
    exact (answerAll_replies waiting).mono (fun _ hop => hop.concludes) fun _ h => h
  cases found with
  | error reason => exact hrest
  | ok handles => exact obeys_bind.mpr (obeys_ask.mpr ⟨⟨rfl, rfl⟩, fun _ => hrest⟩)

/-- Whoever a loader replies to was in its queue when it closed it. -/
theorem conclude_reply {rest : Service Unit} {task : TaskId} {resolution : Resolution}
    (h : (conclude net loader addr found).Reaches events rest) (hmem : event ∈ events)
    (hreply : event.op = .memory (.reply task resolution)) :
    ∃ frames, ⟨.memory (.closeQueue loader), frames⟩ ∈ events ∧
      ∃ frame, (task, frame) ∈ frames := by
  have hclosing : ∀ events, ((memory (.leaveLoader addr)).bind fun _ =>
      (memory (.closeQueue loader)).bind fun waiting => answerAll net found waiting).Reaches
        events rest → event ∈ events → ∃ frames, ⟨.memory (.closeQueue loader), frames⟩ ∈ events ∧
          ∃ frame, (task, frame) ∈ frames := by
    intro events hleft hmem
    rcases reaches_perform hleft with rfl | ⟨_, later, rfl, hclosed⟩
    · cases hmem
    rcases List.mem_cons.mp hmem with rfl | hmem
    · cases hreply
    rcases reaches_perform hclosed with rfl | ⟨frames, last, rfl, hanswers⟩
    · cases hmem
    rcases List.mem_cons.mp hmem with rfl | hmem
    · cases hreply
    have hwaited := (answerAll_replies frames).reaches hanswers event hmem
    rw [hreply] at hwaited
    exact ⟨frames, List.mem_cons_of_mem _ List.mem_cons_self, hwaited⟩
  cases found with
  | error reason => exact hclosing events h hmem
  | ok handles =>
    rcases reaches_perform h with rfl | ⟨_, later, rfl, hleft⟩
    · cases hmem
    rcases List.mem_cons.mp hmem with rfl | hmem
    · cases hreply
    obtain ⟨frames, hframes, hwaited⟩ := hclosing later hleft hmem
    exact ⟨frames, List.mem_cons_of_mem _ hframes, hwaited⟩

/-- While a loader looks for devices it does nothing else. -/
theorem findDevices_looks : (findDevices loader addr).Obeys
    (fun op : ServerOperation => op.looksForDevices = true) fun _ => True := by
  refine obeys_bind.mpr (obeys_ask.mpr ⟨rfl, fun answer => ?_⟩)
  cases answer with
  | error failure => trivial
  | ok listed =>
    refine obeys_bind.mpr (obeys_ask.mpr ⟨rfl, fun _ => ?_⟩)
    exact obeys_bind.mpr (obeys_ask.mpr ⟨rfl, fun _ => trivial⟩)

/-- What a loader finds are the devices of the candidates that it gathered. -/
theorem findDevices_gathered {one : LoaderId} {count : Nat}
    (h : (findDevices loader addr).Trace events found)
    (hmem : ⟨.memory (.gather one count), loads⟩ ∈ events) : found = devicesOf loads := by
  obtain ⟨answer, later, rfl, hasked⟩ := trace_perform.mp h
  cases answer with
  | error failure =>
    obtain ⟨rfl, -⟩ := trace_done.mp hasked
    simp at hmem
  | ok listed =>
    obtain ⟨_, _, rfl, hstarted⟩ := trace_perform.mp hasked
    obtain ⟨gathered, _, rfl, hgathered⟩ := trace_perform.mp hstarted
    obtain ⟨rfl, rfl⟩ := trace_done.mp hgathered
    simp only [List.mem_cons, List.not_mem_nil, or_false] at hmem
    rcases hmem with hmem | hmem | hmem
    · cases hmem
    · cases hmem
    · cases hmem
      rfl

/-- The devices of some candidates, if there are any. -/
theorem eq_of_devicesOf_ok {handles : List DeviceHandle} (h : devicesOf loads = .ok handles) :
    handles = loads.filterMap handleOf ∧ handles ≠ [] := by
  unfold devicesOf at h
  dsimp only at h
  split at h
  · cases h
  · rename_i hsome
    obtain rfl := Except.ok.inj h
    exact ⟨rfl, fun hnil => hsome (List.isEmpty_iff.mpr hnil)⟩

/-- Who finds no devices has none of the candidates loaded. -/
theorem not_loaded_of_devicesOf_error {reason : FailureReason}
    (h : devicesOf loads = .error reason) : loads.any CandidateLoad.isLoaded = false := by
  unfold devicesOf at h
  dsimp only at h
  split at h
  · rename_i hnone
    refine List.any_eq_false.mpr fun load hmem => ?_
    cases load with
    | loaded handle =>
      have hfound : handle ∈ loads.filterMap handleOf := List.mem_filterMap.mpr ⟨_, hmem, rfl⟩
      rw [List.isEmpty_iff.mp hnone] at hfound
      cases hfound
    | skipped | failed => exact Bool.false_ne_true
  · cases h

/-- If a loader finds no devices, the store failed or none of the candidates was loaded. -/
theorem findDevices_failed {reason : FailureReason}
    (h : (findDevices loader addr).Trace events (.error reason)) :
    ∃ event ∈ events, event.failsToList addr = true ∨ event.gathersNone = true := by
  obtain ⟨answer, later, rfl, hasked⟩ := trace_perform.mp h
  cases answer with
  | error failure => exact ⟨_, List.mem_cons_self, .inl (decide_eq_true rfl)⟩
  | ok listed =>
    obtain ⟨_, _, rfl, hstarted⟩ := trace_perform.mp hasked
    obtain ⟨gathered, _, rfl, hgathered⟩ := trace_perform.mp hstarted
    obtain ⟨rfl, hfound⟩ := trace_done.mp hgathered
    refine ⟨⟨.memory (.gather loader _), gathered⟩, by simp, .inr ?_⟩
    rw [Event.gathersNone, not_loaded_of_devicesOf_error hfound.symm]
    rfl

/-- What a loader publishes of what it found. -/
def published (addr : DevAddr) :
    Except FailureReason (List DeviceHandle) → List (Event serverInterface)
  | .ok handles => [⟨.memory (.storeAddress addr handles), ()⟩]
  | .error _ => []

/-- A loader becomes unknown once, right after it has published what it found. -/
theorem conclude_leaves {other : DevAddr} {rest : Service Unit}
    (h : (conclude net loader addr found).Reaches
      (events ++ [⟨.memory (.leaveLoader other), ()⟩]) rest) :
    other = addr ∧ events = published addr found := by
  -- Who has left closes its queue and answers, and does not leave again.
  have hclosing : ((memory (.closeQueue loader)).bind fun waiting =>
      answerAll net found waiting).Obeys
        (fun op : ServerOperation => op ≠ .memory (.leaveLoader other)) fun _ => True := by
    refine obeys_bind.mpr (obeys_ask.mpr ⟨nofun, fun waiting => ?_⟩)
    refine (answerAll_replies waiting).mono ?_ fun _ h => h
    rintro _ hreplies rfl
    exact hreplies
  have hleaving : ∀ events, ((memory (.leaveLoader addr)).bind fun _ =>
      (memory (.closeQueue loader)).bind fun waiting => answerAll net found waiting).Reaches
        (events ++ [⟨.memory (.leaveLoader other), ()⟩]) rest → other = addr ∧ events = [] := by
    intro events hleft
    rcases reaches_perform hleft with hnil | ⟨_, later, heq, hclosed⟩
    · simp at hnil
    cases events with
    | nil => exact ⟨by cases heq; rfl, rfl⟩
    | cons first more =>
      obtain ⟨-, rfl⟩ := List.cons.inj heq
      exact absurd rfl (hclosing.reaches hclosed _ (List.mem_append_right _ List.mem_cons_self))
  cases found with
  | error reason => exact hleaving events h
  | ok handles =>
    rcases reaches_perform h with hnil | ⟨_, later, heq, hleft⟩
    · simp at hnil
    cases events with
    | nil => cases heq
    | cons first more =>
      obtain ⟨rfl, rfl⟩ := List.cons.inj heq
      obtain ⟨rfl, rfl⟩ := hleaving more hleft
      exact ⟨rfl, rfl⟩

/-! ## The program of a candidate -/

/-- A record that could not be fetched counts as failed. -/
theorem fetchCandidate_failed : (fetchCandidate net addr eui).Keeps (fetchRules eui)
    (fun failed load => failed = true → load = .failed) false := by
  refine ⟨trivial, fun now _ => ⟨trivial, fun answer _ => ?_⟩⟩
  match answer with
  | none | some (.error _) => exact fun _ => rfl
  | some (.ok none) => exact nofun
  | some (.ok (some record)) =>
    simp only [pure_eq_done, bind_eq_bind, done_bind]
    split
    · exact ⟨trivial, fun _ _ => ⟨trivial, fun _ _ => nofun⟩⟩
    · exact nofun

/-- A candidate whose record could not be fetched counts as failed. -/
theorem loadCandidate_failed : (loadCandidate net addr eui).Keeps (fetchRules eui)
    (fun failed load => failed = true → load = .failed) false := by
  refine ⟨trivial, fun known _ => ?_⟩
  cases known with
  | none => exact fetchCandidate_failed
  | some handle =>
    dsimp only [done_bind]
    split
    · exact nofun
    · exact fetchCandidate_failed

end Service

namespace Activity

open Program

variable {net : Network} {loader : LoaderId} {addr : DevAddr}
variable {events : List (Event serverInterface)} {event : Event serverInterface}
variable {rest : Service Verdict}

/-- A loader first asks the store. -/
theorem asks_of_loader (h : ((loadAddress loader addr).program net).Reaches events rest) :
    events = [] ∨ ∃ answer later, events = ⟨.call (.fetchCandidates addr), answer⟩ :: later := by
  refine (reaches_perform h).imp_right ?_
  rintro ⟨answer, later, rfl, -⟩
  exact ⟨answer, later, rfl⟩

/-- What a loader has done so far it did while it looked for devices, or when it had found devices
or none. -/
theorem loader_cases (h : ((loadAddress loader addr).program net).Reaches events rest) :
    (∀ event ∈ events, event.op.looksForDevices = true) ∨
      ∃ found first second last, (Service.findDevices loader addr).Trace first found ∧
        (Service.conclude net loader addr found).Reaches second last ∧
          events = first ++ second := by
  have hloads : ∃ last, ((Service.findDevices loader addr).bind
      (Service.conclude net loader addr)).Reaches events last := by
    rw [← Service.loadAddress_eq]
    rcases reaches_bind h with hwithin | ⟨value, first, second, hfirst, hsecond, rfl⟩
    · exact hwithin
    · obtain ⟨rfl, -⟩ := reaches_done.mp hsecond
      exact ⟨_, (List.append_nil first).symm ▸ hfirst⟩
  obtain ⟨last, hlast⟩ := hloads
  rcases reaches_bind hlast with ⟨middle, hlooks⟩ | ⟨found, first, second, hfirst, hsecond, rfl⟩
  · exact .inl (Service.findDevices_looks.reaches hlooks)
  · exact .inr ⟨found, first, second, last, hfirst, hsecond, rfl⟩

/-- A loader publishes the devices of the candidates that it gathered, and only if there are any. -/
theorem devices_of_loader (h : ((loadAddress loader addr).program net).Reaches events rest)
    {one : LoaderId} {count : Nat} {loads : List CandidateLoad} {other : DevAddr}
    {handles : List DeviceHandle} (hgathered : ⟨.memory (.gather one count), loads⟩ ∈ events)
    (hmem : event ∈ events) (hstores : event.op = .memory (.storeAddress other handles)) :
    handles = loads.filterMap Service.handleOf ∧ handles ≠ [] := by
  rcases loader_cases h with hlooks | ⟨found, first, second, last, hfirst, hsecond, rfl⟩
  · have hlook := hlooks event hmem
    rw [hstores] at hlook
    cases hlook
  · have hlook := (Service.findDevices_looks.trace hfirst).1
    have hconcludes := Service.conclude_concludes.reaches hsecond
    have hstored : found = .ok handles := by
      rcases List.mem_append.mp hmem with hbefore | hafter
      · have hbad := hlook event hbefore
        rw [hstores] at hbad
        cases hbad
      · have hstored := hconcludes event hafter
        rw [hstores] at hstored
        exact hstored.2
    have hfound : found = Service.devicesOf loads := by
      rcases List.mem_append.mp hgathered with hbefore | hafter
      · exact Service.findDevices_gathered hfirst hbefore
      · exact (hconcludes _ hafter).elim
    exact Service.eq_of_devicesOf_ok (hfound.symm.trans hstored)

/-- A loader becomes unknown once, when it has found devices or none and published them. -/
theorem published_of_leaves {other : DevAddr}
    (h : ((loadAddress loader addr).program net).Reaches
      (events ++ [⟨.memory (.leaveLoader other), ()⟩]) rest) :
    other = addr ∧ ∃ found looked, (Service.findDevices loader addr).Trace looked found ∧
      events = looked ++ Service.published addr found := by
  have hleave : ∀ event : Event serverInterface, event.op.looksForDevices = true →
      event ≠ ⟨.memory (.leaveLoader other), ()⟩ := by
    rintro _ hlook rfl
    cases hlook
  rcases loader_cases h with hlooks | ⟨found, looked, second, last, hfirst, hsecond, heq⟩
  · exact absurd rfl (hleave _ (hlooks _ (List.mem_append_right _ List.mem_cons_self)))
  · have hlooked := (Service.findDevices_looks.trace hfirst).1
    obtain ⟨more, rfl, rfl⟩ := exists_of_not_mem_left heq.symm fun hmem =>
      hleave _ (hlooked _ hmem) rfl
    obtain ⟨rfl, rfl⟩ := Service.conclude_leaves hsecond
    exact ⟨rfl, found, looked, hfirst, rfl⟩

/-- A loader has not become unknown before it does. -/
theorem leaves_once {other : DevAddr} (h : ((loadAddress loader addr).program net).Reaches
      (events ++ [⟨.memory (.leaveLoader other), ()⟩]) rest) :
    ⟨.memory (.leaveLoader addr), ()⟩ ∉ events := by
  obtain ⟨-, found, looked, hfound, rfl⟩ := published_of_leaves h
  intro hmem
  rcases List.mem_append.mp hmem with hlook | hpublish
  · have hlooks := (Service.findDevices_looks.trace hfound).1 _ hlook
    cases hlooks
  · cases found with
    | error reason => cases hpublish
    | ok handles => cases List.mem_singleton.mp hpublish

/-- Whoever a loader replies to was in its queue when it closed it. -/
theorem closes_of_loader (h : ((loadAddress loader addr).program net).Reaches events rest)
    {task : TaskId} {resolution : Resolution} (hmem : event ∈ events)
    (hreply : event.op = .memory (.reply task resolution)) :
    ∃ frames, ⟨.memory (.closeQueue loader), frames⟩ ∈ events ∧
      ∃ frame, (task, frame) ∈ frames := by
  have hlooks : ∀ {op : ServerOperation}, op.looksForDevices = true →
      op ≠ .memory (.reply task resolution) := by
    rintro _ hlook rfl
    cases hlook
  rcases loader_cases h with hlook | ⟨found, first, second, last, hfirst, hsecond, rfl⟩
  · exact absurd hreply (hlooks (hlook event hmem))
  · rcases List.mem_append.mp hmem with hbefore | hafter
    · exact absurd hreply (hlooks ((Service.findDevices_looks.trace hfirst).1 event hbefore))
    · obtain ⟨frames, hframes, hwaited⟩ := Service.conclude_reply hsecond hafter hreply
      exact ⟨frames, List.mem_append_right _ hframes, hwaited⟩

/-- A candidate whose record could not be fetched is reported as failed. -/
theorem failed_of_candidate {place : Nat} {eui : Eui64}
    (h : ((loadCandidate loader place addr eui).program net).Reaches events rest)
    (hfails : events.any (Event.failsToFetch eui) = true) {one : LoaderId} {spot : Nat}
    {load : CandidateLoad} (hmem : event ∈ events)
    (hreports : event.op = .memory (.deposit one spot load)) : load = .failed := by
  have hplain : ∀ {op : ServerOperation}, op.Plain → op ≠ .memory (.deposit one spot load) := by
    rintro _ hplain rfl
    cases hplain
  rcases reaches_bind h with ⟨middle, hwithin⟩ | ⟨found, first, second, hfirst, hsecond, rfl⟩
  · exact absurd hreports (hplain (Service.loadCandidate_plain.reaches hwithin event hmem))
  rcases List.mem_append.mp hmem with hbefore | hafter
  · exact absurd hreports (hplain ((Service.loadCandidate_plain.trace hfirst).1 event hbefore))
  -- The report is the last event, and it says what the candidate came to.
  rcases reaches_perform hsecond with rfl | ⟨_, later, rfl, hdone⟩
  · cases hafter
  obtain ⟨rfl, -⟩ := reaches_done.mp hdone
  obtain rfl := List.mem_singleton.mp hafter
  obtain ⟨-, -, rfl⟩ := MemoryOperation.deposit.inj (ServerOperation.memory.inj hreports)
  rw [List.any_append, List.any_cons, List.any_nil] at hfails
  have hfailed : first.any (Event.failsToFetch eui) = true :=
    (Bool.or_false _).symm.trans hfails
  refine Service.loadCandidate_failed.trace hfirst (fun _ _ => trivial) ?_
  rw [foldl_fetchRules, hfailed]
  rfl

/-- A candidate is loaded once. -/
theorem candidate_once {place : Nat} {eui : Eui64} :
    ((loadCandidate loader place addr eui).program net).Obeys (fun _ => True) (· ≠ .again) :=
  obeys_bind_of_forall fun _ => obeys_perform.mpr ⟨trivial, fun _ => obeys_done.mpr nofun⟩

/-- A loader ends once. -/
theorem loader_once : ((loadAddress loader addr).program net).Obeys (fun _ => True)
    (· ≠ .again) :=
  obeys_bind_of_forall fun _ => obeys_done.mpr nofun

end Activity

/-! ## Runs -/

/-- Who loads a candidate does so at any later time. -/
theorem ServerState.LoadsCandidate.later {net : Network} {later : List Moment}
    {σ reached : ServerState} {task : TaskId} {loader : LoaderId} {place : Nat} {addr : DevAddr}
    {eui : Eui64} (h : σ.LoadsCandidate task loader place addr eui)
    (reaches : σ.Reaches net later reached) :
    reached.LoadsCandidate task loader place addr eui := by
  obtain ⟨job, hjob, hloads⟩ := h
  obtain ⟨last, hlast, hsame⟩ := reaches.persists hjob
  exact ⟨last, hlast, hsame.trans hloads⟩

namespace ServerRun

variable {net : Network} {history : List Moment} {σ : ServerState} {task : TaskId}
variable {loader : LoaderId} {place : Nat} {addr : DevAddr} {eui : Eui64} {load : CandidateLoad}

/-- What a loader was told of a candidate was reported by a task that loads it. -/
theorem report_of_told (run : ServerRun net history σ)
    (htold : σ.memory.Told loader place load) :
    ∃ m ∈ history, m.event.op = .memory (.deposit loader place load) ∧
      ∃ addr eui, σ.LoadsCandidate m.task loader place addr eui := by
  induction run with
  | boot now => obtain ⟨_, hqueue, -⟩ := htold; cases hqueue
  | @step history moments σ next run step ih =>
    have hnext := ServerState.Reaches.start.step step
    have hbefore : σ.memory.Told loader place load → ∃ m ∈ history ++ moments,
        m.event.op = .memory (.deposit loader place load) ∧
          ∃ addr eui, next.LoadsCandidate m.task loader place addr eui := by
      intro hold
      obtain ⟨m, hmem, hop, addr, eui, hloads⟩ := ih hold
      exact ⟨m, List.mem_append_left _ hmem, hop, addr, eui, hloads.later hnext⟩
    rcases step.memory_cases with ⟨hsame, -⟩ | ⟨teller, op, answer, rfl, hperform⟩
    · exact hbefore (hsame ▸ htold)
    · rcases (Memory.queueChange_of_perform hperform).told_cases htold with hold | rfl
      · exact hbefore hold
      · obtain ⟨activity, rest, found, -⟩ := step.performs List.mem_cons_self
        obtain ⟨addr, eui, hactivity, -⟩ := run.allows_sight default found
        exact ⟨_, List.mem_append_right _ List.mem_cons_self, rfl, addr, eui,
          ServerState.LoadsCandidate.later ⟨_, found, hactivity⟩ hnext⟩

/-- What a loader gathers of a candidate whose record could not be fetched is that it failed. -/
theorem failed_of_gathered (run : ServerRun net history σ) {m : Moment} {count : Nat}
    {loads : List CandidateLoad} (hmem : m ∈ history)
    (hgathers : m.event = ⟨.memory (.gather loader count), loads⟩)
    (hload : loads[place]? = some load) (hcandidate : σ.LoadsCandidate task loader place addr eui)
    (hfails : (eventsOf task history).any (Event.failsToFetch eui) = true) : load = .failed := by
  obtain ⟨before, after, earlier, _, _, _, rfl, hbefore, -, admitted, -, hreaches⟩ :=
    run.exists_performed hmem
  rw [hgathers] at admitted
  obtain ⟨gathered, hgathered, heq⟩ := Option.map_eq_some_iff.mp admitted
  obtain ⟨rfl, -⟩ := Prod.mk.inj heq
  obtain ⟨report, hreport, hop, _, _, hreports⟩ :=
    hbefore.report_of_told (Memory.told_at_of_gathered hgathered hload)
  -- The task that reported is the only one that loads the candidate at this place.
  have hreporter : report.task = task :=
    Candidacy.placed_of_run run (hreports.later hreaches) hcandidate
  obtain ⟨job, hjob, hloads⟩ := hcandidate
  have hprogram := run.program_reaches_of_once hjob (hloads ▸ Activity.candidate_once)
  rw [hloads] at hprogram
  exact Activity.failed_of_candidate hprogram hfails
    (mem_eventsOf.mpr ⟨report, List.mem_append_left _ hreport, hreporter, rfl⟩) hop

end ServerRun

end LoraNetwork
