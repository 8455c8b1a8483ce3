import LoraNetwork.Proofs.Join.Handling
import LoraNetwork.Proofs.Registry.Joined

/-!
# Where the index knows a device to be

The index names one address for a device, that of the session it holds. It tracks the device if no
other address has it in an entry that is alive. Upkeep takes a device out of the entry of the address
that the index names, and of no other one; here the upkeep of the registry is followed from start to
end, with no other step in between. To forget a device or an address keeps a device tracked. To
install a session does so as well, and leaves no other handle of the device, if the index names no
other address than the new one or the session it holds is alive.
-/

namespace LoraNetwork

namespace Memory

variable {config : ServerConfig} {now : Instant} {task : TaskId} {m middle after : Memory}
variable {addr other : DevAddr} {eui : Eui64} {handle : DeviceHandle} {handles : List DeviceHandle}
variable {session : Session}

/-- The index names an address for a device. The session it holds may be out of date. -/
def Names (m : Memory) (eui : Eui64) (addr : DevAddr) : Prop :=
  ∃ handle, (m.index.get? eui).map Stamped.value = some handle ∧ handle.card.devAddr = addr

/-- The index names every address that has a device in an entry that is alive. -/
def Tracks (config : ServerConfig) (now : Instant) (m : Memory) (eui : Eui64) : Prop :=
  ∀ addr handles, m.addressEntry config now addr = some handles →
    ∀ handle ∈ handles, handle.card.devEui = eui → m.Names eui addr

/-- The index names one address only. -/
theorem Names.eq (h : m.Names eui addr) (h' : m.Names eui other) : addr = other := by
  obtain ⟨handle, hhandle, rfl⟩ := h
  obtain ⟨handle', hhandle', rfl⟩ := h'
  rw [hhandle] at hhandle'
  rw [Option.some.inj hhandle']

/-- A session that is alive is the one in the index. -/
theorem names_of_indexEntry (h : m.indexEntry config now eui = some handle) :
    m.Names eui handle.card.devAddr := by
  unfold indexEntry at h
  split at h
  · cases h
  · rename_i entry hentry
    split at h
    · rw [← Option.some.inj h]
      exact ⟨entry.value, by rw [hentry]; rfl, rfl⟩
    · cases h

/-- The index names nothing but the address of the session it holds. -/
theorem names_eq_iff : (∀ other, m.Names eui other → other = addr) ↔
    ∀ handle ∈ (m.index.get? eui).map Stamped.value, handle.card.devAddr = addr := by
  constructor
  · exact fun h handle hhandle => h _ ⟨handle, hhandle, rfl⟩
  · rintro h other ⟨handle, hhandle, rfl⟩
    exact h handle hhandle

/-- Names depend on the sessions in the index only. -/
theorem Names.of_eq (h : m.Names eui addr)
    (heq : (after.index.get? eui).map Stamped.value = (m.index.get? eui).map Stamped.value) :
    after.Names eui addr := by
  obtain ⟨handle, hhandle, haddr⟩ := h
  exact ⟨handle, heq.trans hhandle, haddr⟩

/-! ## Taking a device out of an entry -/

/-- After an address was forgotten it has no entry. -/
theorem addressEntry_erase (h : addressEntry config now { m with addresses := m.addresses.erase addr }
    other = some handles) : other ≠ addr ∧ m.addressEntry config now other = some handles := by
  unfold addressEntry at h ⊢
  rw [Table.get?_erase] at h
  split at h
  · cases h
  · rename_i entry hentry
    split at hentry
    · cases hentry
    · rename_i hne
      rw [hentry]
      exact ⟨fun heq => hne heq.symm, h⟩

/-- What was taken out of the entry of an address. -/
structure Removed (config : ServerConfig) (now : Instant) (addr : DevAddr) (eui : Eui64)
    (m after : Memory) : Prop where
  /-- The index stays. -/
  index : after.index = m.index
  /-- So do the slots. -/
  slots : after.slots = m.slots
  /-- The device is in the entry no more, and all others are as they were. -/
  entries : ∀ other handles, after.addressEntry config now other = some handles →
    ∃ found, m.addressEntry config now other = some found ∧
      handles = if other = addr then Upkeep.others eui found else found

theorem removed_of_runAlone
    (h : runAlone config now task (Upkeep.removeFromAddress addr eui) m = some ((), after)) :
    Removed config now addr eui m after := by
  have hentry : m.perform config now task (.lookUpAddress addr) =
      some (m.addressEntry config now addr, m) := rfl
  rw [Upkeep.removeFromAddress, Program.bind_eq_bind, runAlone_bind, runAlone_step, hentry,
    Option.bind_some] at h
  cases hfound : m.addressEntry config now addr with
  | none =>
    rw [hfound] at h
    obtain rfl := (Prod.mk.inj (Option.some.inj h)).2
    refine ⟨rfl, rfl, fun other handles hother => ⟨handles, hother, (if_neg ?_).symm⟩⟩
    rintro rfl
    rw [hfound] at hother
    cases hother
  | some found =>
    rw [hfound] at h
    dsimp only at h
    split at h
    · rw [runAlone_step] at h
      obtain rfl := (Prod.mk.inj (Option.some.inj h)).2
      refine ⟨rfl, rfl, fun other handles hother => ?_⟩
      obtain ⟨hne, hbefore⟩ := addressEntry_erase hother
      exact ⟨handles, hbefore, (if_neg hne).symm⟩
    · rw [runAlone_step] at h
      have hafter := (Prod.mk.inj (Option.some.inj h)).2
      refine ⟨by rw [← hafter], by rw [← hafter], fun other handles hother => ?_⟩
      rcases addressEntry_of_perform h hother with ⟨hbefore, hne⟩ | hstored
      · refine ⟨handles, hbefore, (if_neg ?_).symm⟩
        rintro rfl
        exact hne _ rfl
      · obtain ⟨rfl, rfl⟩ := MemoryOperation.storeAddress.inj hstored
        exact ⟨found, hfound, (if_pos rfl).symm⟩

/-- A device that was left out is not among the others. -/
theorem ne_of_mem_others (h : handle ∈ Upkeep.others eui handles) : handle.card.devEui ≠ eui :=
  of_decide_eq_true (List.mem_filter.mp h).2

/-- The others were there before. -/
theorem mem_of_mem_others (h : handle ∈ Upkeep.others eui handles) : handle ∈ handles :=
  (List.mem_filter.mp h).1

/-- Nothing else comes into an entry when a device is taken out of one. -/
theorem Removed.exists_entry (h : Removed config now addr eui m after)
    (hentry : after.addressEntry config now other = some handles) (hmem : handle ∈ handles) :
    ∃ found, m.addressEntry config now other = some found ∧ handle ∈ found ∧
      (other = addr → handle.card.devEui ≠ eui) := by
  obtain ⟨found, hfound, rfl⟩ := h.entries other handles hentry
  split at hmem
  · exact ⟨found, hfound, mem_of_mem_others hmem, fun _ => ne_of_mem_others hmem⟩
  · rename_i hne
    exact ⟨found, hfound, hmem, fun heq => absurd heq hne⟩

/-! ## Installing a session -/

/-- What entering a session leads to. -/
structure Entered (config : ServerConfig) (now : Instant) (session : Session) (m : Memory)
    (handle : DeviceHandle) (after : Memory) : Prop where
  /-- The handle is one of the session. -/
  card : handle.card = .ofSession session
  /-- Its slot is a new one. -/
  slot : handle.slot = m.slots.length
  /-- The index holds it, and all else that it held. -/
  index : after.index = m.index.set session.devEui ⟨handle, now⟩
  /-- An entry of its address has it in place of what it had of the device. -/
  entries : ∀ other handles, after.addressEntry config now other = some handles →
    ∃ found, m.addressEntry config now other = some found ∧
      handles = if other = session.devAddr then Upkeep.others session.devEui found ++ [handle]
        else found

theorem entered_of_runAlone
    (h : runAlone config now task (Upkeep.enter session) m = some (handle, after)) :
    Entered config now session m handle after := by
  let made : DeviceHandle := ⟨m.slots.length, DeviceCard.ofSession session⟩
  let stored : Memory :=
    { m with
      slots := m.slots ++ [{ device := Device.ofSession session }]
      index := m.index.set session.devEui ⟨made, now⟩ }
  have hslot : m.perform config now task (.newSlot session) =
      some (made, { m with slots := stored.slots }) := rfl
  have hstore : perform config now task { m with slots := stored.slots }
      (.storeSession session.devEui made) = some ((), stored) := rfl
  have hentry : stored.perform config now task (.lookUpAddress session.devAddr) =
      some (stored.addressEntry config now session.devAddr, stored) := rfl
  rw [Upkeep.enter, Program.bind_eq_bind, runAlone_bind, runAlone_step, hslot, Option.bind_some,
    Program.bind_eq_bind, runAlone_bind, runAlone_step, hstore, Option.bind_some,
    Program.bind_eq_bind, runAlone_bind, runAlone_step, hentry, Option.bind_some] at h
  -- The entries of the addresses are those from before.
  have hsame : ∀ other, stored.addressEntry config now other = m.addressEntry config now other :=
    fun _ => rfl
  cases hfound : stored.addressEntry config now session.devAddr with
  | none =>
    rw [hfound] at h
    obtain ⟨rfl, rfl⟩ := Prod.mk.inj (Option.some.inj h)
    refine ⟨rfl, rfl, rfl, fun other handles hother => ⟨handles, hother, (if_neg ?_).symm⟩⟩
    rintro rfl
    rw [hfound] at hother
    cases hother
  | some found =>
    rw [hfound] at h
    dsimp only at h
    rw [Program.bind_eq_bind, runAlone_bind, runAlone_step] at h
    obtain ⟨⟨⟨⟩, reached⟩, hreached, hdone⟩ := Option.bind_eq_some_iff.mp h
    obtain ⟨rfl, rfl⟩ := Prod.mk.inj (Option.some.inj hdone)
    have hafter := (Prod.mk.inj (Option.some.inj hreached)).2
    refine ⟨rfl, rfl, by rw [← hafter], fun other handles hother => ?_⟩
    rcases addressEntry_of_perform hreached hother with ⟨hbefore, hne⟩ | heq
    · refine ⟨handles, hbefore, (if_neg ?_).symm⟩
      rintro rfl
      exact hne _ rfl
    · obtain ⟨rfl, rfl⟩ := MemoryOperation.storeAddress.inj heq
      exact ⟨found, hfound, (if_pos rfl).symm⟩

/-- What installing a session leads to. -/
structure Installed (config : ServerConfig) (now : Instant) (session : Session) (m : Memory)
    (handle : DeviceHandle) (after : Memory) : Prop where
  /-- The handle is one of the session. -/
  card : handle.card = .ofSession session
  /-- Its slot is a new one. -/
  slot : handle.slot = m.slots.length
  /-- The index holds it. -/
  index : after.index.get? session.devEui = some ⟨handle, now⟩
  /-- The sessions of other devices stay. -/
  others : ∀ eui, eui ≠ session.devEui →
    (after.index.get? eui).map Stamped.value = (m.index.get? eui).map Stamped.value
  /-- An entry of its address has it in place of what it had of the device. The entry of the address
  that the session held so far is for, if it was alive, has the device no more. -/
  entries : ∀ other handles, after.addressEntry config now other = some handles →
    ∃ found, m.addressEntry config now other = some found ∧
      handles =
        if other = session.devAddr then Upkeep.others session.devEui found ++ [handle]
        else if (m.indexEntry config now session.devEui).any fun old => old.card.devAddr = other
          then Upkeep.others session.devEui found
        else found

/-- Leaving a device out twice is leaving it out. -/
theorem others_others : Upkeep.others eui (Upkeep.others eui handles) =
    Upkeep.others eui handles := by
  simp [Upkeep.others]

theorem installed_of_runAlone
    (h : runAlone config now task (Upkeep.install session) m = some (handle, after)) :
    Installed config now session m handle after := by
  have hread : m.perform config now task (.lookUpSession session.devEui) =
      some (m.readIndex config now session.devEui) := rfl
  rw [Upkeep.install_eq, runAlone_bind, runAlone_step, hread, Option.bind_some, runAlone_bind] at h
  unfold readIndex at h
  cases hold : m.indexEntry config now session.devEui with
  | none =>
    rw [hold] at h
    have hentered := entered_of_runAlone h
    refine ⟨hentered.card, hentered.slot, ?_, fun eui hne => ?_, ?_⟩
    · rw [hentered.index, Table.get?_set, if_pos rfl]
    · rw [hentered.index, Table.get?_set, if_neg (Ne.symm hne)]
    · rw [hold]
      exact hentered.entries
  | some old =>
    rw [hold] at h
    obtain ⟨⟨⟨⟩, removed⟩, hremoved, henter⟩ := Option.bind_eq_some_iff.mp h
    have hremoved := removed_of_runAlone hremoved
    have hentered := entered_of_runAlone henter
    refine ⟨hentered.card, ?_, ?_, fun eui hne => ?_, ?_⟩
    · rw [hentered.slot, hremoved.slots]
    · rw [hentered.index, Table.get?_set, if_pos rfl]
    · rw [hentered.index, hremoved.index, Table.get?_set, if_neg (Ne.symm hne), Table.get?_set,
        if_neg (Ne.symm hne)]
    · intro other handles hother
      obtain ⟨middle, hmiddle, rfl⟩ := hentered.entries other handles hother
      obtain ⟨found, hfound, rfl⟩ := hremoved.entries other middle hmiddle
      refine ⟨found, hfound, ?_⟩
      rw [hold]
      by_cases haddr : other = old.card.devAddr
      · simp [haddr, others_others]
      · simp [haddr, Ne.symm haddr]

/-! ## Forgetting devices and addresses -/

/-- What happens when nothing comes in. -/
structure Forgotten (config : ServerConfig) (now : Instant) (m after : Memory) : Prop where
  /-- The index holds nothing that it did not hold. -/
  index : ∀ eui handle, (after.index.get? eui).map Stamped.value = some handle →
    (m.index.get? eui).map Stamped.value = some handle
  /-- A device that is tracked stays so. -/
  tracks : ∀ eui, m.Tracks config now eui → after.Tracks config now eui

/-- To look for a session prolongs its life at most. -/
theorem forgotten_readIndex : Forgotten config now m (m.readIndex config now eui).2 := by
  have hperform : m.perform config now 0 (.lookUpSession eui) =
      some (m.readIndex config now eui) := rfl
  have hsession : ∀ other, ((m.readIndex config now eui).2.index.get? other).map Stamped.value =
      (m.index.get? other).map Stamped.value := fun _ => session_of_perform hperform
  refine ⟨fun other handle hother => (hsession other) ▸ hother, fun other htracks addr handles hentry
    handle hmem hdevice => ?_⟩
  rcases addressEntry_of_perform hperform hentry with ⟨hbefore, -⟩ | heq
  · exact (htracks addr handles hbefore handle hmem hdevice).of_eq (hsession other)
  · cases heq

/-- To forget a device takes it out of the one entry that a tracked device is in. -/
theorem forgotten_of_forgetDevice
    (h : runAlone config now task (Upkeep.forgetDevice eui) m = some ((), after)) :
    Forgotten config now m after := by
  have hread : m.perform config now task (.lookUpSession eui) =
      some (m.readIndex config now eui) := rfl
  rw [Upkeep.forgetDevice, Program.bind_eq_bind, runAlone_bind, runAlone_step, hread,
    Option.bind_some] at h
  unfold readIndex at h
  cases hold : m.indexEntry config now eui with
  | none =>
    rw [hold] at h
    obtain rfl := (Prod.mk.inj (Option.some.inj h)).2
    exact ⟨fun _ _ => id, fun _ => id⟩
  | some old =>
    rw [hold] at h
    dsimp only at h
    rw [Program.bind_eq_bind, runAlone_bind, runAlone_step] at h
    obtain ⟨⟨⟨⟩, reached⟩, hreached, hremove⟩ := Option.bind_eq_some_iff.mp h
    obtain rfl := (Prod.mk.inj (Option.some.inj hreached)).2
    have hremoved := removed_of_runAlone hremove
    have hindex : ∀ other, (after.index.get? other).map Stamped.value =
        if eui = other then none else (m.index.get? other).map Stamped.value := by
      intro other
      rw [hremoved.index, Table.get?_erase, Table.get?_set]
      split <;> rfl
    refine ⟨fun other handle hother => ?_, fun other htracks addr handles hentry
      handle hmem hdevice => ?_⟩
    · rw [hindex] at hother
      split at hother
      · cases hother
      · exact hother
    · obtain ⟨found, hfound, hbefore, hleft⟩ := hremoved.exists_entry hentry hmem
      have hnames := htracks addr found hfound handle hbefore hdevice
      refine hnames.of_eq ?_
      rw [hindex]
      refine if_neg ?_
      -- The device itself would be at the address that it was taken out of.
      rintro rfl
      exact hleft (hnames.eq (names_of_indexEntry hold)) hdevice

/-- The sessions of some devices are forgotten, and nothing else. -/
theorem forgetSessions_of_runAlone
    (h : runAlone config now task (Upkeep.forgetSessions handles) m = some ((), after)) :
    after.addresses = m.addresses ∧ ∀ eui, after.index.get? eui =
      if ∃ handle ∈ handles, handle.card.devEui = eui then none else m.index.get? eui := by
  induction handles generalizing m with
  | nil =>
    obtain rfl := (Prod.mk.inj (Option.some.inj h)).2
    exact ⟨rfl, fun eui => (if_neg (by simp)).symm⟩
  | cons first rest ih =>
    rw [Upkeep.forgetSessions, Program.bind_eq_bind, runAlone_bind, runAlone_step] at h
    obtain ⟨⟨⟨⟩, reached⟩, hreached, hrest⟩ := Option.bind_eq_some_iff.mp h
    obtain rfl := (Prod.mk.inj (Option.some.inj hreached)).2
    obtain ⟨haddresses, hindex⟩ := ih hrest
    refine ⟨haddresses, fun eui => ?_⟩
    rw [hindex, Table.get?_erase]
    by_cases hfirst : first.card.devEui = eui
    · simp [hfirst]
    · simp [hfirst]

/-- To forget an address forgets the sessions of the devices that are in its entry. A tracked device
is in no other one. -/
theorem forgotten_of_forgetAddress
    (h : runAlone config now task (Upkeep.forgetAddress addr) m = some ((), after)) :
    Forgotten config now m after := by
  have hentry : m.perform config now task (.lookUpAddress addr) =
      some (m.addressEntry config now addr, m) := rfl
  rw [Upkeep.forgetAddress, Program.bind_eq_bind, runAlone_bind, runAlone_step, hentry,
    Option.bind_some, Program.bind_eq_bind, runAlone_bind] at h
  obtain ⟨⟨⟨⟩, reached⟩, hsessions, hforget⟩ := Option.bind_eq_some_iff.mp h
  obtain ⟨haddresses, hindex⟩ := forgetSessions_of_runAlone hsessions
  rw [runAlone_step] at hforget
  obtain rfl := (Prod.mk.inj (Option.some.inj hforget)).2
  refine ⟨fun eui handle hhandle => ?_, fun eui htracks other handles hother handle hmem
    hdevice => ?_⟩
  · dsimp only at hhandle
    rw [hindex] at hhandle
    split at hhandle
    · cases hhandle
    · exact hhandle
  · obtain ⟨hne, hreached⟩ := addressEntry_erase hother
    have hbefore : m.addressEntry config now other = some handles := by
      unfold addressEntry at hreached ⊢
      rwa [haddresses] at hreached
    have hnames := htracks other handles hbefore handle hmem hdevice
    refine hnames.of_eq ?_
    dsimp only
    rw [hindex]
    refine congrArg _ (if_neg ?_)
    rintro ⟨left, hleft, hsame⟩
    cases hfound : m.addressEntry config now addr with
    | none =>
      rw [hfound] at hleft
      cases hleft
    | some found =>
      rw [hfound] at hleft
      exact hne (hnames.eq (htracks addr found hfound left hleft hsame))

/-! ## Tracked devices -/

/-- A device that is tracked stays so while other devices are installed. -/
theorem Installed.tracks_other (h : Installed config now session m handle after)
    (hne : eui ≠ session.devEui) (htracks : m.Tracks config now eui) :
    after.Tracks config now eui := by
  intro other handles hentry one hmem hdevice
  obtain ⟨found, hfound, rfl⟩ := h.entries other handles hentry
  have hbefore : one ∈ found := by
    split at hmem
    · rcases List.mem_append.mp hmem with hmem | hmem
      · exact mem_of_mem_others hmem
      · rw [List.mem_singleton.mp hmem, h.card] at hdevice
        exact absurd hdevice.symm hne
    · split at hmem
      · exact mem_of_mem_others hmem
      · exact hmem
  exact (htracks other found hfound one hbefore hdevice).of_eq (h.others eui hne)

/-- A handle of an installed device is the new one in the entry of the new address. Or the entry is
that of another address, which stays as it was and is not that of a session that was alive in the
index. -/
theorem Installed.handle_cases (h : Installed config now session m handle after)
    (hentry : after.addressEntry config now other = some handles) {one : DeviceHandle}
    (hmem : one ∈ handles) (hdevice : one.card.devEui = session.devEui) :
    other = session.devAddr ∧ one = handle ∨
      other ≠ session.devAddr ∧ m.addressEntry config now other = some handles ∧
        ∀ old, m.indexEntry config now session.devEui = some old → old.card.devAddr ≠ other := by
  obtain ⟨found, hfound, rfl⟩ := h.entries other handles hentry
  split at hmem
  · rename_i haddr
    rcases List.mem_append.mp hmem with hmem | hmem
    · exact absurd hdevice (ne_of_mem_others hmem)
    · exact .inl ⟨haddr, List.mem_singleton.mp hmem⟩
  · rename_i haddr
    split at hmem
    · exact absurd hdevice (ne_of_mem_others hmem)
    · rename_i hold
      refine .inr ⟨haddr, ?_, fun old hindex heq => hold ?_⟩
      · rw [if_neg haddr, if_neg hold]
        exact hfound
      · rw [hindex, ← heq]
        simp

/-- The index can follow a device to an address: it names no other one for it, or it holds a session
of the device that is alive. -/
def CanFollow (config : ServerConfig) (now : Instant) (m : Memory) (eui : Eui64)
    (addr : DevAddr) : Prop :=
  (∀ other, m.Names eui other → other = addr) ∨ (m.indexEntry config now eui).isSome = true

instance (config : ServerConfig) (now : Instant) (m : Memory) (eui : Eui64) (addr : DevAddr) :
    Decidable (m.CanFollow config now eui addr) :=
  decidable_of_iff (_ ∨ _) (or_congr_left names_eq_iff.symm)

/-- Of a tracked device that the index can follow, nothing is left but the new handle in the entry
of the new address. -/
theorem Installed.eq_handle (h : Installed config now session m handle after)
    (htracks : m.Tracks config now session.devEui)
    (hfollow : m.CanFollow config now session.devEui session.devAddr)
    (hentry : after.addressEntry config now other = some handles) {one : DeviceHandle}
    (hmem : one ∈ handles) (hdevice : one.card.devEui = session.devEui) :
    other = session.devAddr ∧ one = handle := by
  refine (h.handle_cases hentry hmem hdevice).resolve_right ?_
  rintro ⟨haddr, hbefore, hold⟩
  have hnames := htracks other handles hbefore one hmem hdevice
  rcases hfollow with hone | halive
  · exact haddr (hone other hnames)
  · obtain ⟨old, hindex⟩ := Option.isSome_iff_exists.mp halive
    exact hold old hindex ((names_of_indexEntry hindex).eq hnames)

/-- A tracked device that the index can follow stays tracked when it is installed. -/
theorem Installed.tracks_self (h : Installed config now session m handle after)
    (htracks : m.Tracks config now session.devEui)
    (hfollow : m.CanFollow config now session.devEui session.devAddr) :
    after.Tracks config now session.devEui := by
  intro other handles hentry one hmem hdevice
  obtain ⟨rfl, rfl⟩ := h.eq_handle htracks hfollow hentry hmem hdevice
  exact ⟨one, by rw [h.index]; rfl, by rw [h.card]; rfl⟩

end Memory

end LoraNetwork
