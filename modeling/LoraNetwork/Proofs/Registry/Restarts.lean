import LoraNetwork.Proofs.Loader.Invariant
import LoraNetwork.Proofs.Registry.Sight

/-!
# Looking at the cache again

A task that looks for the device of a frame starts from the beginning when it was about to wait for
a loader and the address had been cached in the meantime. It joins a loader only if it has just
found no entry, so while the entry stays this happens to it once at most.
-/

namespace LoraNetwork

namespace Event

/-- A frame of an address was not added to a queue, and the cache has to be looked at again. -/
def startsAgain (addr : DevAddr) : Event serverInterface → Bool
  | ⟨.memory (.joinLoader frame), joined⟩ => frame.devAddr = addr && joined = .again
  | _ => false

/-- An address was found without an entry that is alive. -/
def findsNone (addr : DevAddr) : Event serverInterface → Bool
  | ⟨.memory (.lookUpAddress other), found⟩ => other = addr && found.isNone
  | _ => false

end Event

/-- How often a task had to look at the cache again. -/
def restarts (addr : DevAddr) (task : TaskId) (history : List Moment) : Nat :=
  history.countP fun m => m.task = task && m.event.startsAgain addr

/-- From when a task had to look at the cache again, nobody finds the address without an entry. -/
def EntryStays (addr : DevAddr) (history : List Moment) : Prop :=
  ∀ earlier m later, history = earlier ++ m :: later → m.event.startsAgain addr = true →
    ∀ m' ∈ later, m'.event.findsNone addr = false

/-- Who looks for the device of a frame joins a loader only if it has just found no entry. -/
def askingRules (addr : DevAddr) : Contract serverInterface Bool where
  allows cold op :=
    match op with
    | .memory (.lookUpAddress other) => other = addr
    | .memory (.joinLoader _) => cold = true
    | _ => True
  promises _ _ := True
  next cold event :=
    match event with
    | ⟨.memory (.lookUpAddress _), found⟩ => found.isNone
    | ⟨.memory (.joinLoader _), _⟩ => false
    | _ => cold

namespace Service

open Program

variable {net : Network} {frame : DataFrame}

theorem resolve_asks (cold : Bool) :
    (resolve net frame).Keeps (askingRules frame.devAddr) (fun _ _ => True) cold := by
  have hauthenticate : ∀ (handles : List DeviceHandle) (reached : Bool),
      (authenticate net frame handles).Keeps (askingRules frame.devAddr) (fun _ _ => True)
        reached := by
    refine fun handles reached => (authenticate_harmless.keeps (fun _ => True)
      (fun s op _ hop => ?_) (fun _ _ _ _ _ => trivial) trivial).mono fun _ _ _ => trivial
    cases op with
    | clock | wallClock | draw | call | race | start => trivial
    | memory op => cases op <;> trivial
  refine keeps_bind.mpr ⟨rfl, fun cached _ => ?_⟩
  cases cached with
  | some handles => exact keeps_bind.mpr ((hauthenticate handles _).mono fun _ _ _ => trivial)
  | none =>
    refine keeps_bind.mpr ⟨rfl, fun joined _ => ?_⟩
    cases joined with
    | again => trivial
    | queued => exact ⟨trivial, fun _ _ => trivial⟩
    | started loader => exact ⟨trivial, fun _ _ => ⟨trivial, fun _ _ => trivial⟩⟩

end Service

theorem Activity.program_asks {net : Network} {frame : DataFrame} {a : Activity}
    (ha : a = .resolve frame) (cold : Bool) :
    (a.program net).Keeps (askingRules frame.devAddr) (fun _ _ => True) cold := by
  subst ha
  exact Program.keeps_bind.mpr ((Service.resolve_asks cold).mono fun _ _ _ => trivial)

/-- Who knows of an entry, and finds one whenever it looks, is not told to look again. -/
theorem askingRules_warm {addr : DevAddr} {event : Event serverInterface}
    (hallows : (askingRules addr).allows false event.op) (hfinds : event.findsNone addr = false) :
    event.startsAgain addr = false ∧ (askingRules addr).next false event = false := by
  obtain ⟨op, answer⟩ := event
  cases op with
  | clock | wallClock | draw | call | race | start => exact ⟨rfl, rfl⟩
  | memory op =>
    cases op with
    | lookUpAddress other =>
      obtain rfl : other = addr := hallows
      have hfound : answer.isNone = false := by simpa [Event.findsNone] using hfinds
      exact ⟨rfl, hfound⟩
    | joinLoader other => cases hallows
    | _ => exact ⟨rfl, rfl⟩

/-- Who was told to look again knows of an entry. -/
theorem askingRules_next_of_startsAgain {addr : DevAddr} {event : Event serverInterface}
    (h : event.startsAgain addr = true) (cold : Bool) :
    (askingRules addr).next cold event = false := by
  obtain ⟨op, answer⟩ := event
  cases op with
  | clock | wallClock | draw | call | race | start => cases h
  | memory op =>
    cases op with
    | joinLoader other => rfl
    | _ => cases h

section Counting

variable {addr : DevAddr} {task : TaskId} {history moments : List Moment} {m : Moment}

theorem restarts_snoc (hm : m.task = task) :
    restarts addr task (history ++ [m]) =
      restarts addr task history + (m.event.startsAgain addr).toNat := by
  rw [restarts, countP_snoc]
  simp only [hm, decide_true, Bool.true_and]
  rfl

/-- A task that did nothing did not have to look again. -/
theorem restarts_of_still (hstill : ∀ m ∈ moments, m.task ≠ task) :
    restarts addr task moments = 0 := by
  refine List.countP_eq_zero.mpr fun m hmem => ?_
  simp [hstill m hmem]

/-- Since a task had to look again, nobody finds the address without an entry. -/
theorem EntryStays.findsNone (h : EntryStays addr (history ++ [m]))
    (hpositive : 0 < restarts addr task history) : m.event.findsNone addr = false := by
  obtain ⟨told, htold, hagain⟩ := List.countP_pos_iff.mp hpositive
  obtain ⟨earlier, later, rfl⟩ := List.append_of_mem htold
  exact h earlier told (later ++ [m]) (by simp) (Bool.and_eq_true_iff.mp hagain).2 m
    (List.mem_append_right _ List.mem_cons_self)

theorem EntryStays.of_append (h : EntryStays addr (history ++ moments)) :
    EntryStays addr history := by
  intro earlier m later heq hagain found hmem
  exact h earlier m (later ++ moments) (by simp [heq]) hagain found (List.mem_append_left _ hmem)

end Counting

/-- How often a task had to look at the cache again, and whether it knows of an entry since. -/
structure Restarts (addr : DevAddr) (history last : List Moment) (task : TaskId) : Prop where
  /-- It had to look again once at most. -/
  once : restarts addr task last ≤ 1
  /-- Once it had to, it does not find the address without an entry. -/
  warm : 0 < restarts addr task last →
    (askingRules addr).along false task (history ++ last) = false

namespace Restarts

variable {addr : DevAddr} {history last moments : List Moment} {task : TaskId} {m : Moment}

/-- A task that did not have to look again. -/
theorem of_none (h : restarts addr task last = 0) : Restarts addr history last task where
  once := h ▸ Nat.zero_le 1
  warm hpositive := absurd h (Nat.ne_of_gt hpositive)

/-- The task did nothing. -/
theorem still (h : Restarts addr history last task) (hstill : ∀ m ∈ moments, m.task ≠ task)
    (halong : (askingRules addr).along false task (history ++ last ++ moments) =
      (askingRules addr).along false task (history ++ last)) :
    Restarts addr history (last ++ moments) task := by
  have hsame : restarts addr task (last ++ moments) = restarts addr task last := by
    rw [restarts, List.countP_append]
    exact congrArg _ (restarts_of_still hstill)
  refine ⟨hsame ▸ h.once, fun hpositive => ?_⟩
  rw [← List.append_assoc, halong]
  exact h.warm (hsame ▸ hpositive)

/-- The task performed what it is allowed to. -/
theorem snoc (h : Restarts addr history last task) (hm : m.task = task)
    (hallows : (askingRules addr).allows
      ((askingRules addr).along false task (history ++ last)) m.event.op)
    (hstays : EntryStays addr (last ++ [m])) : Restarts addr history (last ++ [m]) task := by
  have halong : (askingRules addr).along false task (history ++ (last ++ [m])) =
      (askingRules addr).next ((askingRules addr).along false task (history ++ last)) m.event := by
    rw [← List.append_assoc, Contract.along_snoc, if_pos hm]
  refine ⟨?_, fun hpositive => halong.trans ?_⟩
  · rw [restarts_snoc hm]
    rcases Nat.eq_zero_or_pos (restarts addr task last) with hzero | hbefore
    · rw [hzero, Nat.zero_add]
      exact Bool.toNat_le _
    · rw [h.warm hbefore] at hallows
      rw [(askingRules_warm hallows (hstays.findsNone hbefore)).1]
      exact h.once
  · rcases Nat.eq_zero_or_pos (restarts addr task last) with hzero | hbefore
    · rw [restarts_snoc hm, hzero, Nat.zero_add] at hpositive
      refine askingRules_next_of_startsAgain (Bool.of_not_eq_false fun hnone => ?_) _
      rw [hnone] at hpositive
      cases hpositive
    · rw [h.warm hbefore] at hallows ⊢
      exact (askingRules_warm hallows (hstays.findsNone hbefore)).2

end Restarts

namespace ServerRun

variable {net : Network} {history last moments : List Moment} {τ σ next : ServerState}
variable {task : TaskId} {job : Job} {frame : DataFrame}

/-- A task that looks for the device of a frame has to look at the cache again once at most, as long
as the entry stays. -/
theorem restarts_step (h : Restarts frame.devAddr history last task)
    (run : ServerRun net (history ++ last) σ) (step : σ.Step net moments next)
    (hjob : next.jobs[task]? = some job) (hactivity : job.activity = .resolve frame)
    (hstays : EntryStays frame.devAddr (last ++ moments)) :
    Restarts frame.devAddr history (last ++ moments) task := by
  by_cases hmoved : ∃ m ∈ moments, m.task = task
  · obtain ⟨m, hmem, rfl⟩ := hmoved
    obtain ⟨activity, rest, found, -⟩ := step.performs hmem
    have hallows := (run.keeps_along false (· = .resolve frame) (fun _ _ => trivial)
      (fun _ => Activity.program_asks) m.task _ found
      ((step.activity_eq found hjob).symm.trans hactivity)).1
    obtain rfl := step.eq_singleton hmem
    exact h.snoc rfl hallows hstays
  · have hstill : ∀ m ∈ moments, m.task ≠ task := fun m hmem heq => hmoved ⟨m, hmem, heq⟩
    exact h.still hstill (step.along_of_still hstill)

/-- As long as the entry stays, a task that looks for the device of a frame has to look at the cache
again once at most. -/
theorem restarts_of_reaches (run : ServerRun net history τ) (reaches : τ.Reaches net last σ)
    (hstays : EntryStays frame.devAddr last) (hjob : σ.jobs[task]? = some job)
    (hactivity : job.activity = .resolve frame) :
    Restarts frame.devAddr history last task := by
  induction reaches generalizing job with
  | start => exact .of_none rfl
  | @step last moments reached next reaches step ih =>
    have hrun := run.reaches reaches
    refine restarts_step ?_ hrun step hjob hactivity hstays
    rcases Nat.lt_or_ge task reached.jobs.length with hlt | hge
    · have hold := List.getElem?_eq_getElem hlt
      exact ih hstays.of_append hold ((step.activity_eq hold hjob).symm.trans hactivity)
    · refine .of_none (restarts_of_still fun m hmem => ?_)
      have hpast := hrun.loading.past m (List.mem_append_right _ hmem)
      exact Nat.ne_of_lt (Nat.lt_of_lt_of_le hpast hge)

end ServerRun

end LoraNetwork
