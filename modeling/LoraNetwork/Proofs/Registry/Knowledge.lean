import LoraNetwork.Registry.Memory

/-!
# What the caches know

A handle in a cache is good if the card on it is that of the slot it names; a resolution sent to a
task is good if its device uses the address that the task asked for. Which card belongs to a slot
and which address a task asks for never changes, and `Knowledge` holds both. A memory is sound if
everything kept in it is good. Every step keeps it sound that only puts in what is good, and what is
read from a sound memory is good again.

Beside the caches there are the sessions in the slots: a step changes one only by giving its slot
back.
-/

namespace LoraNetwork

/-- What never changes while a server runs. -/
structure Knowledge where
  /-- The card of the device in a slot. -/
  card : SlotId → Option DeviceCard
  /-- The address of the device that a task looks for. -/
  wanted : TaskId → Option DevAddr

namespace Knowledge

/-- The handle is good. -/
def Knows (K : Knowledge) (handle : DeviceHandle) : Prop := K.card handle.slot = some handle.card

/-- The resolution is good for a task. -/
def Answers (K : Knowledge) (task : TaskId) (resolution : Resolution) : Prop :=
  ∀ handle, resolution = .ok handle →
    K.Knows handle ∧ K.wanted task = some handle.card.devAddr

/-- The cards of all slots in memory are known. -/
def Covers (K : Knowledge) (m : Memory) : Prop :=
  ∀ slot s, m.slots[slot]? = some s → K.card slot = some s.device.card

/-- The step only puts in what is good, on behalf of a task. -/
def Permits (K : Knowledge) (task : TaskId) : MemoryOperation → Prop
  | .storeAddress _ handles => ∀ handle ∈ handles, K.Knows handle
  | .storeSession _ handle => K.Knows handle
  | .joinLoader frame => K.wanted task = some frame.devAddr
  | .newSlot session => session.confirmation = none
  | .reply other resolution => K.Answers other resolution
  | .deposit _ _ load => ∀ handle, load = .loaded handle → K.Knows handle
  | .giveBack _ device => device.card = .ofSession device.session
  | _ => True

/-- What a task can count on when it reads. -/
def Promises (K : Knowledge) (task : TaskId) : (op : MemoryOperation) → op.Answer → Prop
  | .lookUpAddress _, answer =>
    ∀ handles, answer = some handles → ∀ handle ∈ handles, K.Knows handle
  | .lookUpSession _, answer => ∀ handle, answer = some handle → K.Knows handle
  | .newSlot _, handle => K.Knows handle
  | .takeReply, resolution => K.Answers task resolution
  | .closeQueue _, pending => ∀ waiting ∈ pending, K.wanted waiting.1 = some waiting.2.devAddr
  | .gather .., loads => ∀ handle, CandidateLoad.loaded handle ∈ loads → K.Knows handle
  | .takeSlot slot, device =>
    K.card slot = some device.card ∧ device.card = .ofSession device.session
  | _, _ => True

end Knowledge

/-- A slot is not given back: its session and its card stay, and while it is held it stays so. -/
structure Slot.Stays (s after : Slot) : Prop where
  /-- The session is the same. -/
  session : after.device.session = s.device.session
  /-- So is the card. -/
  card : after.device.card = s.device.card
  /-- Who holds the slot goes on to do so. -/
  held : s.held = true → after.held = true

namespace Memory

/-- Everything kept in memory is good. -/
structure Sound (K : Knowledge) (m : Memory) : Prop where
  /-- A card is that of its session. -/
  slots : ∀ s ∈ m.slots, s.device.card = .ofSession s.device.session
  /-- The devices of an address are known. -/
  addresses : ∀ addr entry, m.addresses.get? addr = some entry →
    ∀ handle ∈ entry.value, K.Knows handle
  /-- So is the session of a device. -/
  index : ∀ eui entry, m.index.get? eui = some entry → K.Knows entry.value
  /-- What was sent to a task answers it. -/
  replies : ∀ task resolution, m.replies.get? task = some resolution → K.Answers task resolution
  /-- A frame that waits has the address its task asks for. -/
  pending : ∀ queue ∈ m.queues, ∀ waiting ∈ queue.pending,
    K.wanted waiting.1 = some waiting.2.devAddr
  /-- A candidate that was loaded is known. -/
  loads : ∀ queue ∈ m.queues, ∀ load ∈ queue.loads, ∀ handle, load.2 = .loaded handle →
    K.Knows handle

variable {K : Knowledge} {m after : Memory} {config : ServerConfig} {now : Instant} {task : TaskId}
variable {slot loader : SlotId} {op : MemoryOperation} {answer : op.Answer}

/-- An empty memory keeps nothing. -/
theorem sound_empty : Sound K {} where
  slots := by simp
  addresses _ _ h := by cases h
  index _ _ h := by cases h
  replies _ _ h := by cases h
  pending := by simp
  loads := by simp

/-! ## Changes -/

/-- An element of a list with one element changed was there before or is the changed one. -/
theorem mem_modify {α : Type} {l : List α} {i : Nat} {f : α → α} {x : α} (h : x ∈ l.modify i f) :
    x ∈ l ∨ ∃ y ∈ l, x = f y := by
  obtain ⟨j, hj⟩ := List.mem_iff_getElem?.mp h
  rw [List.getElem?_modify] at hj
  split at hj
  · obtain ⟨y, hy, heq⟩ := Option.map_eq_some_iff.mp hj
    exact .inr ⟨y, List.mem_of_getElem? hy, heq.symm⟩
  · rw [id_map'] at hj
    exact .inl (List.mem_of_getElem? hj)

theorem Sound.updateSlot (h : m.Sound K) {f : Slot → Slot}
    (hf : ∀ s, s.device.card = .ofSession s.device.session →
      (f s).device.card = .ofSession (f s).device.session) : (m.updateSlot slot f).Sound K where
  slots s hmem := by
    rcases mem_modify hmem with hold | ⟨y, hold, rfl⟩
    · exact h.slots s hold
    · exact hf y (h.slots y hold)
  addresses := h.addresses
  index := h.index
  replies := h.replies
  pending := h.pending
  loads := h.loads

theorem Sound.updateQueue (h : m.Sound K) {f : LoaderQueue → LoaderQueue}
    (hpending : ∀ queue ∈ m.queues, ∀ waiting ∈ (f queue).pending,
      K.wanted waiting.1 = some waiting.2.devAddr)
    (hloads : ∀ queue ∈ m.queues, ∀ load ∈ (f queue).loads, ∀ handle, load.2 = .loaded handle →
      K.Knows handle) : (m.updateQueue loader f).Sound K where
  slots := h.slots
  addresses := h.addresses
  index := h.index
  replies := h.replies
  pending queue hmem := by
    rcases mem_modify hmem with hold | ⟨y, hold, rfl⟩
    · exact h.pending queue hold
    · exact hpending y hold
  loads queue hmem := by
    rcases mem_modify hmem with hold | ⟨y, hold, rfl⟩
    · exact h.loads queue hold
    · exact hloads y hold

theorem Sound.joinLoader (h : m.Sound K) {frame : DataFrame}
    (hwanted : K.wanted task = some frame.devAddr) :
    (m.joinLoader config now task frame).2.Sound K := by
  unfold Memory.joinLoader
  split
  · split
    · refine h.updateQueue (fun queue hmem waiting hwaiting => ?_) h.loads
      rcases List.mem_append.mp hwaiting with hwaiting | hwaiting
      · exact h.pending queue hmem waiting hwaiting
      · rw [List.mem_singleton.mp hwaiting]
        exact hwanted
    · exact ⟨h.slots, h.addresses, h.index, h.replies, h.pending, h.loads⟩
  · split
    · exact h
    · refine ⟨h.slots, h.addresses, h.index, h.replies, ?_, ?_⟩
      · intro queue hmem waiting hwaiting
        rcases List.mem_append.mp hmem with hmem | hmem
        · exact h.pending queue hmem waiting hwaiting
        · rw [List.mem_singleton.mp hmem] at hwaiting
          rw [List.mem_singleton.mp hwaiting]
          exact hwanted
      · intro queue hmem load hload
        rcases List.mem_append.mp hmem with hmem | hmem
        · exact h.loads queue hmem load hload
        · rw [List.mem_singleton.mp hmem] at hload
          cases hload

/-- What is found in a table after a change was set or found before. -/
theorem get?_set_or {κ ν : Type} [DecidableEq κ] {t : Table κ ν} {key other : κ} {value found : ν}
    (h : (t.set key value).get? other = some found) :
    key = other ∧ found = value ∨ t.get? other = some found := by
  rw [Table.get?_set] at h
  split at h
  · rename_i heq
    exact .inl ⟨heq, (Option.some.inj h).symm⟩
  · exact .inr h

/-- What is found in a table after a key was removed was found before. -/
theorem get?_of_erase {κ ν : Type} [DecidableEq κ] {t : Table κ ν} {key other : κ} {found : ν}
    (h : (t.erase key).get? other = some found) : t.get? other = some found := by
  rw [Table.get?_erase] at h
  split at h
  · cases h
  · exact h

/-- The entry of the session index that is alive is one of those kept. -/
theorem readIndex_eq (m : Memory) (config : ServerConfig) (now : Instant) (eui : Eui64) :
    m.readIndex config now eui = (none, m) ∨ ∃ entry, m.index.get? eui = some entry ∧
      m.readIndex config now eui =
        (some entry.value, { m with index := m.index.set eui ⟨entry.value, now⟩ }) := by
  unfold readIndex indexEntry
  cases hentry : m.index.get? eui with
  | none => exact .inl rfl
  | some entry =>
    dsimp only
    split
    · rename_i heq
      split at heq
      · cases heq
      · exact .inl rfl
    · rename_i heq
      split at heq
      · rw [← Option.some.inj heq]
        exact .inr ⟨entry, rfl, rfl⟩
      · cases heq

/-- The slots after a change to one of them. -/
theorem getElem?_updateSlot {f : Slot → Slot} (other : SlotId) :
    (m.updateSlot slot f).slots[other]? =
      if slot = other then m.slots[other]?.map f else m.slots[other]? := by
  unfold updateSlot
  rw [List.getElem?_modify]
  split
  · rfl
  · exact id_map' _

/-- A slot that was taken was free, and is held afterwards. -/
theorem takeSlot_eq {device : Device}
    (h : m.perform config now task (.takeSlot slot) = some (device, after)) :
    ∃ s, m.slots[slot]? = some s ∧ s.held = false ∧ device = s.device ∧
      after = m.updateSlot slot fun s => { s with held := true, waiting := s.waiting.drop 1 } := by
  simp only [Memory.perform, Memory.takeSlot] at h
  split at h
  · cases h
  · rename_i s hfound
    split at h
    · rename_i hfree
      obtain ⟨rfl, rfl⟩ := Prod.mk.inj (Option.some.inj h)
      exact ⟨s, hfound, hfree.1, rfl, rfl⟩
    · cases h

/-! ## Steps -/

/-- A step that only puts in what is good keeps a memory sound. -/
theorem Sound.perform (h : m.Sound K) (hpermits : K.Permits task op)
    (hperform : m.perform config now task op = some (answer, after)) : after.Sound K := by
  cases op with
  | lookUpAddress addr | readAnnounced slot =>
    obtain ⟨-, rfl⟩ := Prod.mk.inj (Option.some.inj hperform)
    exact h
  | storeAddress addr handles =>
    obtain ⟨-, rfl⟩ := Prod.mk.inj (Option.some.inj hperform)
    refine ⟨h.slots, fun other entry hget => ?_, h.index, h.replies, h.pending, h.loads⟩
    rcases get?_set_or hget with ⟨-, rfl⟩ | hget
    · exact hpermits
    · exact h.addresses other entry hget
  | forgetAddress addr =>
    obtain ⟨-, rfl⟩ := Prod.mk.inj (Option.some.inj hperform)
    exact ⟨h.slots, fun other entry hget => h.addresses other entry (get?_of_erase hget), h.index,
      h.replies, h.pending, h.loads⟩
  | lookUpSession eui =>
    have hafter : after = (m.readIndex config now eui).2 :=
      (congrArg Prod.snd (Option.some.inj hperform)).symm
    rw [hafter]
    rcases readIndex_eq m config now eui with
      heq | ⟨entry, hentry, heq⟩ <;> rw [heq]
    · exact h
    · refine ⟨h.slots, h.addresses, fun other found hget => ?_, h.replies, h.pending, h.loads⟩
      rcases get?_set_or hget with ⟨-, rfl⟩ | hget
      · exact h.index eui entry hentry
      · exact h.index other found hget
  | storeSession eui handle =>
    obtain ⟨-, rfl⟩ := Prod.mk.inj (Option.some.inj hperform)
    refine ⟨h.slots, h.addresses, fun other entry hget => ?_, h.replies, h.pending, h.loads⟩
    rcases get?_set_or hget with ⟨-, rfl⟩ | hget
    · exact hpermits
    · exact h.index other entry hget
  | forgetSession eui =>
    obtain ⟨-, rfl⟩ := Prod.mk.inj (Option.some.inj hperform)
    exact ⟨h.slots, h.addresses, fun other entry hget => h.index other entry (get?_of_erase hget),
      h.replies, h.pending, h.loads⟩
  | newSlot session =>
    obtain ⟨-, rfl⟩ := Prod.mk.inj (Option.some.inj hperform)
    refine ⟨fun s hmem => ?_, h.addresses, h.index, h.replies, h.pending, h.loads⟩
    rcases List.mem_append.mp hmem with hmem | hmem
    · exact h.slots s hmem
    · rw [List.mem_singleton.mp hmem]
      rfl
  | announce slot counter =>
    obtain ⟨-, rfl⟩ := Prod.mk.inj (Option.some.inj hperform)
    exact h.updateSlot fun _ hs => hs
  | joinLoader frame =>
    have hafter : after = (m.joinLoader config now task frame).2 :=
      (congrArg Prod.snd (Option.some.inj hperform)).symm
    rw [hafter]
    exact h.joinLoader hpermits
  | takeReply =>
    simp only [Memory.perform] at hperform
    split at hperform
    · cases hperform
    · obtain ⟨-, rfl⟩ := Prod.mk.inj (Option.some.inj hperform)
      exact ⟨h.slots, h.addresses, h.index,
        fun other resolution hget => h.replies other resolution (get?_of_erase hget), h.pending,
        h.loads⟩
  | leaveLoader addr =>
    obtain ⟨-, rfl⟩ := Prod.mk.inj (Option.some.inj hperform)
    exact ⟨h.slots, h.addresses, h.index, h.replies, h.pending, h.loads⟩
  | closeQueue loader =>
    obtain ⟨-, rfl⟩ := Prod.mk.inj (Option.some.inj hperform)
    exact h.updateQueue (by simp) h.loads
  | reply other resolution =>
    obtain ⟨-, rfl⟩ := Prod.mk.inj (Option.some.inj hperform)
    refine ⟨h.slots, h.addresses, h.index, fun task found hget => ?_, h.pending, h.loads⟩
    rcases get?_set_or hget with ⟨rfl, rfl⟩ | hget
    · exact hpermits
    · exact h.replies task found hget
  | deposit loader place load =>
    obtain ⟨-, rfl⟩ := Prod.mk.inj (Option.some.inj hperform)
    refine h.updateQueue h.pending fun queue hmem entry hentry => ?_
    rcases List.mem_cons.mp hentry with rfl | hentry
    · exact hpermits
    · exact h.loads queue hmem entry hentry
  | gather loader count =>
    obtain ⟨loads, -, heq⟩ := Option.map_eq_some_iff.mp hperform
    rw [← (Prod.mk.inj heq).2]
    exact h
  | lineUp slot =>
    obtain ⟨-, rfl⟩ := Prod.mk.inj (Option.some.inj hperform)
    exact h.updateSlot fun _ hs => hs
  | takeSlot slot =>
    obtain ⟨s, -, -, -, rfl⟩ := takeSlot_eq hperform
    exact h.updateSlot fun _ hs => hs
  | giveBack slot device =>
    obtain ⟨-, rfl⟩ := Prod.mk.inj (Option.some.inj hperform)
    exact h.updateSlot fun _ _ => hpermits

/-- What was gathered was deposited. -/
theorem mem_loads_of_gathered {count : Nat} {loads : List CandidateLoad} {load : CandidateLoad}
    (h : m.gathered loader count = some loads) (hmem : load ∈ loads) :
    ∃ queue ∈ m.queues, ∃ place, (place, load) ∈ queue.loads := by
  unfold gathered at h
  split at h
  · cases h
  · rename_i queue hqueue
    refine ⟨queue, List.mem_of_getElem? hqueue, ?_⟩
    generalize List.range count = places at h
    induction places generalizing loads with
    | nil =>
      rw [List.mapM_nil] at h
      rw [← Option.some.inj h] at hmem
      cases hmem
    | cons place rest ih =>
      rw [List.mapM_cons] at h
      obtain ⟨first, hfirst, h⟩ := Option.bind_eq_some_iff.mp h
      obtain ⟨others, hothers, h⟩ := Option.bind_eq_some_iff.mp h
      rw [← Option.some.inj h] at hmem
      rcases List.mem_cons.mp hmem with rfl | hmem
      · obtain ⟨before, later, heq, -⟩ := List.lookup_eq_some_iff.mp hfirst
        exact ⟨place, by rw [heq]; simp⟩
      · exact ih hmem hothers

/-- What is read from a sound memory is good. -/
theorem Sound.promises (h : m.Sound K) (hcovers : K.Covers after)
    (hperform : m.perform config now task op = some (answer, after)) :
    K.Promises task op answer := by
  cases op with
  | storeAddress | forgetAddress | storeSession | forgetSession | readAnnounced | announce
    | joinLoader | leaveLoader | reply | deposit | lineUp | giveBack => trivial
  | lookUpAddress addr =>
    obtain ⟨rfl, -⟩ := Prod.mk.inj (Option.some.inj hperform)
    intro handles hhandles
    unfold addressEntry at hhandles
    split at hhandles
    · cases hhandles
    · rename_i entry hentry
      split at hhandles
      · rw [← Option.some.inj hhandles]
        exact h.addresses addr entry hentry
      · cases hhandles
  | lookUpSession eui =>
    have hanswer : answer = (m.readIndex config now eui).1 :=
      (congrArg Prod.fst (Option.some.inj hperform)).symm
    intro handle hhandle
    rw [hanswer] at hhandle
    rcases readIndex_eq m config now eui with
      heq | ⟨entry, hentry, heq⟩ <;> rw [heq] at hhandle
    · cases hhandle
    · rw [← Option.some.inj hhandle]
      exact h.index eui entry hentry
  | newSlot session =>
    obtain ⟨rfl, rfl⟩ := Prod.mk.inj (Option.some.inj hperform)
    exact hcovers m.slots.length { device := Device.ofSession session } (by simp)
  | takeReply =>
    simp only [Memory.perform] at hperform
    split at hperform
    · cases hperform
    · rename_i resolution hreply
      obtain ⟨rfl, -⟩ := Prod.mk.inj (Option.some.inj hperform)
      exact h.replies task _ hreply
  | closeQueue loader =>
    obtain ⟨rfl, -⟩ := Prod.mk.inj (Option.some.inj hperform)
    intro waiting hwaiting
    cases hqueue : m.queues[loader]? with
    | none => simp [hqueue] at hwaiting
    | some queue =>
      rw [hqueue] at hwaiting
      exact h.pending queue (List.mem_of_getElem? hqueue) waiting hwaiting
  | gather loader count =>
    obtain ⟨loads, hloads, heq⟩ := Option.map_eq_some_iff.mp hperform
    obtain ⟨rfl, -⟩ := Prod.mk.inj heq
    intro handle hmem
    obtain ⟨queue, hqueue, place, hload⟩ := mem_loads_of_gathered hloads hmem
    exact h.loads queue hqueue _ hload handle rfl
  | takeSlot slot =>
    obtain ⟨s, hfound, -, rfl, rfl⟩ := takeSlot_eq hperform
    have hslot := hcovers slot { s with held := true, waiting := s.waiting.drop 1 }
      (by rw [getElem?_updateSlot, if_pos rfl, hfound]; rfl)
    exact ⟨hslot, h.slots s (List.mem_of_getElem? hfound)⟩

/-! ## Slots -/

/-- What a step does to the slots. -/
inductive SlotChange (op : MemoryOperation) (slots : List Slot) : List Slot → Prop where
  /-- Nothing. -/
  | same : SlotChange op slots slots
  /-- A slot is added. -/
  | added {session : Session} (new : op = .newSlot session) :
      SlotChange op slots (slots ++ [{ device := Device.ofSession session }])
  /-- A slot changes, but stays. -/
  | kept {slot : SlotId} {f : Slot → Slot} (stays : ∀ s : Slot, s.Stays (f s)) :
      SlotChange op slots (slots.modify slot f)
  /-- A slot is given back. -/
  | returned {slot : SlotId} {device : Device} (gives : op = .giveBack slot device) :
      SlotChange op slots (slots.modify slot fun s => { s with device := device, held := false })

/-- Every step does one of these to the slots. -/
theorem slotChange_of_perform (h : m.perform config now task op = some (answer, after)) :
    SlotChange op m.slots after.slots := by
  have hsame : after.slots = m.slots → SlotChange op m.slots after.slots := by
    intro heq
    rw [heq]
    exact .same
  cases op with
  | lookUpAddress | storeAddress | forgetAddress | storeSession | forgetSession | readAnnounced
    | leaveLoader | closeQueue | reply | deposit =>
    obtain ⟨-, rfl⟩ := Prod.mk.inj (Option.some.inj h)
    exact .same
  | lookUpSession eui =>
    have hafter : after = (m.readIndex config now eui).2 :=
      (congrArg Prod.snd (Option.some.inj h)).symm
    rcases readIndex_eq m config now eui with heq | ⟨entry, -, heq⟩ <;> rw [heq] at hafter
    · exact hsame (by rw [hafter])
    · exact hsame (by rw [hafter])
  | newSlot session =>
    obtain ⟨-, rfl⟩ := Prod.mk.inj (Option.some.inj h)
    exact .added rfl
  | announce slot counter | lineUp slot =>
    obtain ⟨-, rfl⟩ := Prod.mk.inj (Option.some.inj h)
    exact .kept fun s => ⟨rfl, rfl, id⟩
  | joinLoader frame =>
    have hafter : after = (m.joinLoader config now task frame).2 :=
      (congrArg Prod.snd (Option.some.inj h)).symm
    refine hsame ?_
    rw [hafter]
    unfold Memory.joinLoader
    split
    · split <;> rfl
    · split <;> rfl
  | takeReply =>
    simp only [Memory.perform] at h
    split at h
    · cases h
    · obtain ⟨-, rfl⟩ := Prod.mk.inj (Option.some.inj h)
      exact .same
  | gather loader count =>
    obtain ⟨loads, -, heq⟩ := Option.map_eq_some_iff.mp h
    exact hsame (by rw [← (Prod.mk.inj heq).2])
  | takeSlot slot =>
    obtain ⟨taken, -, -, -, rfl⟩ := takeSlot_eq h
    exact .kept fun s => ⟨rfl, rfl, fun _ => rfl⟩
  | giveBack slot device =>
    obtain ⟨-, rfl⟩ := Prod.mk.inj (Option.some.inj h)
    exact .returned rfl

/-- A slot that was there stays, unless it is given back. -/
theorem stays_of_perform {s : Slot} (hfound : m.slots[slot]? = some s)
    (hperform : m.perform config now task op = some (answer, after))
    (hgive : ∀ device, op ≠ .giveBack slot device) :
    ∃ later, after.slots[slot]? = some later ∧ s.Stays later := by
  have hrefl : s.Stays s := ⟨rfl, rfl, id⟩
  have hchange := slotChange_of_perform hperform
  generalize after.slots = slots at hchange
  cases hchange with
  | same => exact ⟨s, hfound, hrefl⟩
  | added =>
    have hlt := (List.getElem?_eq_some_iff.mp hfound).1
    rw [List.getElem?_append_left hlt]
    exact ⟨s, hfound, hrefl⟩
  | @kept other f stays =>
    rw [List.getElem?_modify, hfound]
    split
    · exact ⟨f s, rfl, stays s⟩
    · exact ⟨s, rfl, hrefl⟩
  | @returned other device gives =>
    have hne : other ≠ slot := by
      rintro rfl
      exact hgive device gives
    rw [List.getElem?_modify, hfound]
    simp only [if_neg hne]
    exact ⟨s, rfl, hrefl⟩

/-- What holds of every session in a slot goes on to do so, if it holds of a new one and of one that
is given back. -/
theorem sessions_of_perform {good : Session → Prop} (h : ∀ s ∈ m.slots, good s.device.session)
    (hperform : m.perform config now task op = some (answer, after))
    (hnew : ∀ session, op = .newSlot session → good session)
    (hgive : ∀ slot device, op = .giveBack slot device → good device.session) :
    ∀ s ∈ after.slots, good s.device.session := by
  have hchange := slotChange_of_perform hperform
  generalize after.slots = slots at hchange
  intro s hmem
  cases hchange with
  | same => exact h s hmem
  | added new =>
    rcases List.mem_append.mp hmem with hold | hadded
    · exact h s hold
    · rw [List.mem_singleton.mp hadded]
      exact hnew _ new
  | kept stays =>
    rcases mem_modify hmem with hold | ⟨before, hold, rfl⟩
    · exact h s hold
    · rw [(stays before).session]
      exact h before hold
  | returned gives =>
    rcases mem_modify hmem with hold | ⟨before, hold, rfl⟩
    · exact h s hold
    · exact hgive _ _ gives

/-- A slot that is given back holds the device that it is given back with. -/
theorem slots_giveBack {s : Slot} {device : Device} (hfound : m.slots[slot]? = some s)
    (hperform : m.perform config now task (.giveBack slot device) = some ((), after)) :
    after.slots[slot]? = some { s with device := device, held := false } := by
  obtain ⟨-, rfl⟩ := Prod.mk.inj (Option.some.inj hperform)
  rw [getElem?_updateSlot, if_pos rfl, hfound]
  rfl

/-- Cards never change: what covers a memory after a step covered it before, if a slot is given back
with its own card. -/
theorem covers_of_perform (hperform : m.perform config now task op = some (answer, after))
    (hgive : ∀ slot device, op = .giveBack slot device → ∀ s, m.slots[slot]? = some s →
      device.card = s.device.card) (hcovers : K.Covers after) : K.Covers m := by
  intro slot s hfound
  by_cases hop : ∃ device, op = .giveBack slot device
  · obtain ⟨device, rfl⟩ := hop
    have hcard := hcovers slot _ (slots_giveBack hfound hperform)
    rw [hcard, ← hgive slot device rfl s hfound]
  · obtain ⟨later, hlater, hstays⟩ :=
      stays_of_perform hfound hperform fun device heq => hop ⟨device, heq⟩
    rw [hcovers slot later hlater, hstays.card]

end Memory

end LoraNetwork
