import LoraNetwork.Proofs.Loader.Origin

/-!
# Devices that joined

The index holds the session of a device that was stored last and not forgotten since. A join stores
a session and looks at the entry of its address; an entry that is alive is stored anew, with the
device in it. So once a join has settled the address, whatever entry of it is alive has the device.
-/

namespace LoraNetwork

namespace Event

/-- The session of a device after an event. -/
def session (eui : Eui64) (known : Option DeviceHandle) :
    Event serverInterface → Option DeviceHandle
  | ⟨.memory (.storeSession other handle), _⟩ => if other = eui then some handle else known
  | ⟨.memory (.forgetSession other), _⟩ => if other = eui then none else known
  | _ => known

/-- The session that a task stored since it looked one up, after an event. -/
def stored (known : Option DeviceHandle) : Event serverInterface → Option DeviceHandle
  | ⟨.memory (.storeSession _ handle), _⟩ => some handle
  | ⟨.memory (.lookUpSession _), _⟩ => none
  | _ => known

/-- An address was found without an entry that is alive, or its entry was stored. -/
def settles (addr : DevAddr) : Event serverInterface → Bool
  | ⟨.memory (.lookUpAddress other), found⟩ => other = addr && found.isNone
  | ⟨.memory (.storeAddress other _), _⟩ => other = addr
  | _ => false

end Event

/-- The session of a device that was stored last and not forgotten since. -/
def sessionOf (eui : Eui64) (history : List Moment) : Option DeviceHandle :=
  history.foldl (fun known m => m.event.session eui known) none

/-- Whoever stored a session and did not look one up since stores entries with it only. -/
def storingRules : Contract serverInterface (Option DeviceHandle) where
  allows known op := ∀ addr handles handle, op = .memory (.storeAddress addr handles) →
    known = some handle → handle ∈ handles
  promises _ _ := True
  next known event := event.stored known

/-- The session that a task stored since it looked one up. -/
def storedBy (task : TaskId) (history : List Moment) : Option DeviceHandle :=
  storingRules.along none task history

/-- A device joined: a join stored its session, as the last one that was stored for it, and has just
settled the entry of its address. -/
structure ServerState.Joined (σ : ServerState) (history : List Moment) (handle : DeviceHandle) :
    Prop where
  /-- Its session was stored last. -/
  latest : sessionOf handle.card.devEui history = some handle
  /-- A join stored it and settled its address. -/
  settled : ∃ earlier m job, history = earlier ++ [m] ∧ σ.jobs[m.task]? = some job ∧
    job.activity.Joins handle.card.devEui ∧ storedBy m.task earlier = some handle ∧
    m.event.settles handle.card.devAddr = true

theorem sessionOf_snoc {eui : Eui64} {history : List Moment} {m : Moment} :
    sessionOf eui (history ++ [m]) = m.event.session eui (sessionOf eui history) := by
  rw [sessionOf, List.foldl_append]
  rfl

/-! ## Steps on the caches -/

/-- The step concerns the caches. -/
def MemoryOperation.isCaching : MemoryOperation → Bool
  | storeAddress .. | forgetAddress _ | lookUpSession _ | storeSession .. | forgetSession _ => true
  | _ => false

namespace Memory

variable {config : ServerConfig} {now later : Instant} {task : TaskId} {m after : Memory}
variable {op : MemoryOperation} {answer : op.Answer} {addr : DevAddr} {eui : Eui64}
variable {handles : List DeviceHandle}

/-- A step that does not concern the caches leaves them. -/
theorem caches_of_perform (h : m.perform config now task op = some (answer, after))
    (hop : op.isCaching = false) : after.addresses = m.addresses ∧ after.index = m.index := by
  cases op with
  | storeAddress | forgetAddress | lookUpSession | storeSession | forgetSession => cases hop
  | joinLoader frame =>
    have hafter : after = (m.joinLoader config now task frame).2 :=
      (congrArg Prod.snd (Option.some.inj h)).symm
    unfold joinLoader at hafter
    split at hafter <;> split at hafter <;> rw [hafter] <;> exact ⟨rfl, rfl⟩
  | takeReply =>
    simp only [perform] at h
    split at h
    · cases h
    · obtain ⟨-, rfl⟩ := Prod.mk.inj (Option.some.inj h)
      exact ⟨rfl, rfl⟩
  | gather loader count =>
    obtain ⟨loads, -, heq⟩ := Option.map_eq_some_iff.mp h
    obtain ⟨-, rfl⟩ := Prod.mk.inj heq
    exact ⟨rfl, rfl⟩
  | takeSlot slot =>
    obtain ⟨-, -, -, -, rfl⟩ := takeSlot_eq h
    exact ⟨rfl, rfl⟩
  | _ =>
    obtain ⟨-, rfl⟩ := Prod.mk.inj (Option.some.inj h)
    exact ⟨rfl, rfl⟩

/-- The session in the index changes as the event says. -/
theorem session_of_perform (h : m.perform config now task op = some (answer, after)) :
    (after.index.get? eui).map Stamped.value =
      Event.session eui ((m.index.get? eui).map Stamped.value) ⟨.memory op, answer⟩ := by
  cases op with
  | lookUpSession other =>
    have hafter : after = (m.readIndex config now other).2 :=
      (congrArg Prod.snd (Option.some.inj h)).symm
    rw [hafter]
    rcases readIndex_eq m config now other with heq | ⟨entry, hentry, heq⟩ <;> rw [heq]
    · rfl
    · by_cases hother : other = eui
      · simp only [Table.get?_set, ← hother, hentry]
        rfl
      · simp only [Table.get?_set, if_neg hother]
        rfl
  | storeSession other handle =>
    obtain ⟨-, rfl⟩ := Prod.mk.inj (Option.some.inj h)
    simp only [Table.get?_set, Event.session]
    split <;> rfl
  | forgetSession other =>
    obtain ⟨-, rfl⟩ := Prod.mk.inj (Option.some.inj h)
    simp only [Table.get?_erase, Event.session]
    split <;> rfl
  | storeAddress | forgetAddress =>
    obtain ⟨-, rfl⟩ := Prod.mk.inj (Option.some.inj h)
    rfl
  | _ =>
    rw [(caches_of_perform h rfl).2]
    rfl

/-- An entry that is alive was alive before. -/
theorem addressEntry_of_later (hle : now ≤ later)
    (h : m.addressEntry config later addr = some handles) :
    m.addressEntry config now addr = some handles := by
  unfold addressEntry at h ⊢
  split at h
  · cases h
  · split at h
    · rename_i halive
      rw [if_pos (Int.lt_of_le_of_lt hle halive)]
      exact h
    · cases h

/-- An entry that is alive after a step was alive before, or has just been stored. -/
theorem addressEntry_of_perform (h : m.perform config now task op = some (answer, after))
    (hentry : after.addressEntry config now addr = some handles) :
    (m.addressEntry config now addr = some handles ∧ ∀ stored, op ≠ .storeAddress addr stored) ∨
      op = .storeAddress addr handles := by
  have hsame : after.addresses = m.addresses →
      m.addressEntry config now addr = some handles := by
    intro heq
    unfold addressEntry at hentry ⊢
    rwa [heq] at hentry
  cases op with
  | storeAddress other stored =>
    obtain ⟨-, rfl⟩ := Prod.mk.inj (Option.some.inj h)
    simp only [addressEntry, Table.get?_set] at hentry
    by_cases hother : other = addr
    · rw [if_pos hother] at hentry
      dsimp only at hentry
      split at hentry
      · exact .inr (by rw [hother, Option.some.inj hentry])
      · cases hentry
    · rw [if_neg hother] at hentry
      exact .inl ⟨hentry, fun _ heq => hother (MemoryOperation.storeAddress.inj heq).1⟩
  | forgetAddress other =>
    obtain ⟨-, rfl⟩ := Prod.mk.inj (Option.some.inj h)
    simp only [addressEntry, Table.get?_erase] at hentry
    by_cases hother : other = addr
    · rw [if_pos hother] at hentry
      cases hentry
    · rw [if_neg hother] at hentry
      exact .inl ⟨hentry, by simp⟩
  | lookUpSession other =>
    have hafter : after = (m.readIndex config now other).2 :=
      (congrArg Prod.snd (Option.some.inj h)).symm
    refine .inl ⟨hsame ?_, by simp⟩
    rw [hafter]
    rcases readIndex_eq m config now other with heq | ⟨entry, -, heq⟩ <;> rw [heq]
  | storeSession | forgetSession =>
    obtain ⟨-, rfl⟩ := Prod.mk.inj (Option.some.inj h)
    exact .inl ⟨hsame rfl, by simp⟩
  | _ => exact .inl ⟨hsame (caches_of_perform h rfl).1, by simp⟩

end Memory

namespace ServerState.Step

variable {net : Network} {σ next : ServerState} {moments : List Moment} {addr : DevAddr}
variable {handles : List DeviceHandle}

/-- The clock does not go back. -/
theorem now_le (step : σ.Step net moments next) : σ.now ≤ next.now := by
  cases step with
  | wait later => exact later
  | arrive | again | perform => exact Int.le_refl _

/-- An entry that is alive was alive before, or has just been stored. -/
theorem addressEntry_cases (step : σ.Step net moments next)
    (h : next.memory.addressEntry net.config next.now addr = some handles) :
    σ.memory.addressEntry net.config σ.now addr = some handles ∨
      ∃ m ∈ moments, m.event.op = .memory (.storeAddress addr handles) := by
  have hbefore := Memory.addressEntry_of_later step.now_le h
  rcases step.memory_cases with ⟨hsame, -⟩ | ⟨task, op, answer, rfl, hperform⟩
  · exact .inl (hsame ▸ hbefore)
  · rcases Memory.addressEntry_of_perform hperform hbefore with ⟨hold, -⟩ | rfl
    · exact .inl hold
    · exact .inr ⟨_, List.mem_cons_self, rfl⟩

end ServerState.Step

/-- The index holds the sessions that were stored last. -/
theorem ServerRun.session_eq {net : Network} {history : List Moment} {σ : ServerState}
    (run : ServerRun net history σ) (eui : Eui64) :
    (σ.memory.index.get? eui).map Stamped.value = sessionOf eui history := by
  induction run with
  | boot now => rfl
  | @step history moments σ next run step ih =>
    rcases step.memory_cases with ⟨hsame, hnone⟩ | ⟨task, op, answer, rfl, hperform⟩
    · rw [hsame, ih]
      cases step with
      | wait | arrive | again => rw [List.append_nil]
      | @perform task activity op =>
        rw [sessionOf_snoc]
        cases op with
        | memory op => exact absurd rfl (hnone _ List.mem_cons_self op)
        | clock | wallClock | draw | call | race | start => rfl
    · rw [sessionOf_snoc, ← ih]
      exact Memory.session_of_perform hperform

/-! ## What a join stores -/

namespace Service

open Program

variable {net : Network} {known : Option DeviceHandle}

/-- Before a session is stored, everything is allowed. -/
theorem allows_unknown (op : ServerOperation) : storingRules.allows none op :=
  fun _ _ _ _ hknown => nomatch hknown

/-- A device that is entered anew is in every entry that is stored for it. -/
theorem enter_stores (session : Session) :
    (ofUpkeep (Upkeep.enter session)).Keeps storingRules (fun _ _ => True) none := by
  refine ⟨allows_unknown _, fun new _ => ?_⟩
  refine ⟨allows_unknown _, fun _ _ => ?_⟩
  refine ⟨fun _ _ _ hop => (nomatch hop), fun entry _ => ?_⟩
  cases entry with
  | none => trivial
  | some found =>
    refine ⟨?_, fun _ _ => trivial⟩
    rintro addr handles handle hop hknown
    cases hop
    cases hknown
    exact List.mem_append_right _ List.mem_cons_self

/-- A join stores its new session, and then entries with it only. -/
theorem install_stores (session : Session) :
    (ofUpkeep (Upkeep.install session)).Keeps storingRules (fun _ _ => True) known := by
  rw [Upkeep.install_eq]
  refine ⟨fun _ _ _ hop => (nomatch hop), fun previous _ => ?_⟩
  cases previous with
  | none => exact enter_stores session
  | some handle =>
    refine ⟨fun _ _ _ hop => (nomatch hop), fun entry _ => ?_⟩
    cases entry with
    | none => exact enter_stores session
    | some found =>
      simp only [Program.done_bind]
      split
      · exact ⟨allows_unknown _, fun _ _ => enter_stores session⟩
      · exact ⟨allows_unknown _, fun _ _ => enter_stores session⟩

/-- A join request leads to such a join, or to none. -/
theorem dispatchJoin_stores (uplink : RadioUplink) (request : JoinRequest) :
    (dispatchJoin net uplink request).Keeps storingRules (fun _ _ => True) known := by
  have hstep : ∀ (_ : Unit) (reached : Option DeviceHandle) (op : JoinOperation), True → True →
      (ofJoinOperation net op).Keeps storingRules (fun _ _ => True ∧ True) reached := by
    rintro - reached op - -
    cases op with
    | clock | draw | call =>
      refine ⟨?_, fun _ _ => ⟨trivial, trivial⟩⟩
      rintro _ _ _ hop -
      cases hop
    | install record =>
      exact keeps_bind.mpr ((install_stores _).mono fun _ _ _ => ⟨trivial, trivial⟩)
  have hjoin : ((JoinHandling.handle net ⟨request, uplink.metadata, uplink.arrival⟩).expand
      (ofJoinOperation net)).Keeps storingRules (fun _ _ => ∃ _ : Unit, True ∧ True) known :=
    (obeys_true _).expand trivial hstep
  exact keeps_bind.mpr (hjoin.mono fun _ _ _ => trivial)

end Service

/-- Who joins a device stores its session, and then entries with it only. -/
theorem Activity.program_stores {net : Network} {a : Activity} {eui : Eui64} (h : a.Joins eui)
    (known : Option DeviceHandle) :
    (a.program net).Keeps storingRules (fun _ _ => True) known := by
  cases a with
  | dispatch uplink =>
    obtain ⟨request, hparse, -⟩ := h
    have hprogram : (Service.dispatch net uplink).Keeps storingRules (fun _ _ => True) known := by
      unfold Service.dispatch
      rw [hparse]
      exact Program.keeps_bind.mpr
        ((Service.dispatchJoin_stores uplink request).mono fun _ _ _ => trivial)
    exact Program.keeps_bind.mpr (hprogram.mono fun _ _ _ => trivial)
  | install record =>
    exact Program.keeps_bind.mpr ((Service.install_stores _).mono fun _ _ _ => trivial)
  | resolve | handle | loadAddress | loadCandidate | forgetDevice | forgetAddress => exact h.elim

namespace ServerRun

variable {net : Network} {history : List Moment} {σ : ServerState} {handle : DeviceHandle}

/-- When a join has settled an address, whatever entry of it is alive has the device. -/
theorem mem_of_joined (run : ServerRun net history σ) (joined : σ.Joined history handle)
    {handles : List DeviceHandle}
    (halive : σ.memory.addressEntry net.config σ.now handle.card.devAddr = some handles) :
    handle ∈ handles := by
  obtain ⟨-, earlier, m, job, hhistory, hjob, hjoins, hstored, hsettled⟩ := joined
  induction run generalizing job with
  | boot now => simp at hhistory
  | @step history moments σ next run step ih =>
    have hbefore : ∀ old, σ.jobs[m.task]? = some old → old.activity.Joins handle.card.devEui :=
      fun old hold => step.activity_eq hold hjob ▸ hjoins
    have hsilent : moments = [] → handle ∈ handles := by
      rintro rfl
      rw [List.append_nil] at hhistory
      have hold := List.getElem?_eq_getElem (run.loading.past m (by rw [hhistory]; simp))
      have hentry := (step.addressEntry_cases halive).resolve_right (by simp)
      exact ih hentry _ hhistory hold (hbefore _ hold)
    cases step with
    | wait | arrive | again => exact hsilent rfl
    | @perform task activity op rest answer after found admitted =>
      obtain ⟨rfl, heq⟩ := List.append_inj' hhistory rfl
      obtain rfl := List.singleton_inj.mp heq
      have hstores := (run.keeps_along none (fun activity => activity.Joins handle.card.devEui)
        (fun _ _ => trivial) (fun _ => Activity.program_stores) task _ found (hbefore _ found)).1
      cases op with
      | clock | wallClock | draw | call | race | start => cases hsettled
      | memory op =>
        rcases Memory.addressEntry_of_perform admitted halive with ⟨hold, hother⟩ | rfl
        · cases op with
          | lookUpAddress addr =>
            obtain ⟨haddr, hnone⟩ := Bool.and_eq_true_iff.mp hsettled
            obtain ⟨hanswer, -⟩ := Prod.mk.inj (Option.some.inj admitted)
            rw [← hanswer, of_decide_eq_true haddr, hold] at hnone
            cases hnone
          | storeAddress addr stored =>
            exact absurd (by rw [of_decide_eq_true hsettled]) (hother stored)
          | _ => cases hsettled
        · exact hstores _ _ handle rfl hstored

end ServerRun

end LoraNetwork
