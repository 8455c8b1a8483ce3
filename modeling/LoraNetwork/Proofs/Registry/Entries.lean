import LoraNetwork.Proofs.Registry.Lease

/-!
# Entries of the address cache

The address cache is what the history made of it: the entry of an address holds what was stored last
under it, from when it was stored, unless the address was forgotten since. So every entry can be
traced back to the task that stored it.
-/

namespace LoraNetwork

/-- The entry of an address after an operation that was performed at some time. -/
def ServerOperation.entry (addr : DevAddr) (now : Instant)
    (before : Option (Stamped (List DeviceHandle))) :
    ServerOperation → Option (Stamped (List DeviceHandle))
  | .memory (.storeAddress other handles) => if other = addr then some ⟨handles, now⟩ else before
  | .memory (.forgetAddress other) => if other = addr then none else before
  | _ => before

/-- The entry of an address that a history leaves. -/
def entryOf (addr : DevAddr) (history : List TimedMoment) : Option (Stamped (List DeviceHandle)) :=
  history.foldl (fun before d => d.moment.event.op.entry addr d.time before) none

/-- The devices of an address were stored at a time. -/
def TimedMoment.Stores (d : TimedMoment) (addr : DevAddr) (entry : Stamped (List DeviceHandle)) :
    Prop :=
  d.moment.event.op = .memory (.storeAddress addr entry.value) ∧ d.time = entry.since

variable {addr : DevAddr} {entry : Stamped (List DeviceHandle)}

/-- An entry was there before an operation, or has just been stored. -/
theorem ServerOperation.entry_cases {now : Instant} {op : ServerOperation}
    {before : Option (Stamped (List DeviceHandle))} (h : op.entry addr now before = some entry) :
    before = some entry ∨ op = .memory (.storeAddress addr entry.value) ∧ now = entry.since := by
  unfold ServerOperation.entry at h
  split at h
  · split at h
    · rename_i heq
      obtain rfl := Option.some.inj h
      exact .inr ⟨by rw [heq], rfl⟩
    · exact .inl h
  · split at h
    · cases h
    · exact .inl h
  · exact .inl h

/-- The entry that a history leaves was left by its first part, or stored in the second. -/
theorem entryOf_append {history later : List TimedMoment}
    (h : entryOf addr (history ++ later) = some entry) :
    entryOf addr history = some entry ∨ ∃ d ∈ later, d.Stores addr entry := by
  unfold entryOf at h ⊢
  rw [List.foldl_append] at h
  generalize history.foldl _ none = before at h ⊢
  induction later generalizing before with
  | nil => exact .inl h
  | cons d rest ih =>
    rcases ih _ h with hbefore | ⟨last, hmem, hstores⟩
    · refine (ServerOperation.entry_cases hbefore).imp_right fun hnow => ?_
      exact ⟨d, List.mem_cons_self, hnow⟩
    · exact .inr ⟨last, List.mem_cons_of_mem _ hmem, hstores⟩

namespace Memory

variable {config : ServerConfig} {now : Instant} {task : TaskId} {m after : Memory}

/-- Operations change the entries of addresses as said. -/
theorem addresses_of_perform {op : MemoryOperation} {answer : op.Answer}
    (h : m.perform config now task op = some (answer, after)) (addr : DevAddr) :
    after.addresses.get? addr =
      (ServerOperation.memory op).entry addr now (m.addresses.get? addr) := by
  cases op with
  | storeAddress other handles =>
    obtain ⟨-, rfl⟩ := Prod.mk.inj (Option.some.inj h)
    exact Table.get?_set _ _ _ _
  | forgetAddress other =>
    obtain ⟨-, rfl⟩ := Prod.mk.inj (Option.some.inj h)
    exact Table.get?_erase _ _ _
  | lookUpSession eui =>
    have hafter : after = (m.readIndex config now eui).2 :=
      (congrArg Prod.snd (Option.some.inj h)).symm
    rw [hafter]
    rcases readIndex_eq m config now eui with heq | ⟨_, -, heq⟩ <;> rw [heq] <;> rfl
  | storeSession | forgetSession =>
    obtain ⟨-, rfl⟩ := Prod.mk.inj (Option.some.inj h)
    rfl
  | _ => exact congrArg (Table.get? · addr) (caches_of_perform h rfl).1

end Memory

/-- Operations of tasks change the entries of addresses as said. -/
theorem ServerState.addresses_of_admits {net : Network} {σ : ServerState} {task : TaskId}
    {op : ServerOperation} {answer : op.Answer} {after : Memory}
    (admitted : σ.Admits net task op answer after) (addr : DevAddr) :
    after.addresses.get? addr = op.entry addr σ.now (σ.memory.addresses.get? addr) := by
  cases op with
  | memory op => exact Memory.addresses_of_perform admitted addr
  | clock =>
    rw [admitted.2]
    rfl
  | wallClock | draw | call | race | start =>
    rw [show after = σ.memory from admitted]
    rfl

/-- The address cache holds what the history left. -/
theorem TimedRun.addresses_eq {net : Network} {history : List TimedMoment} {σ : ServerState}
    (timed : TimedRun net history σ) (addr : DevAddr) :
    σ.memory.addresses.get? addr = entryOf addr history := by
  induction timed with
  | boot now => rfl
  | @step history moments σ next run step ih =>
    cases step with
    | wait | arrive | again =>
      rw [List.map_nil, List.append_nil]
      exact ih
    | @perform task activity op rest answer after found admitted =>
      rw [entryOf, List.foldl_append]
      change after.addresses.get? addr = op.entry addr σ.now (entryOf addr history)
      rw [← ih]
      exact ServerState.addresses_of_admits admitted addr

/-- Whoever finds an entry of an address finds what was stored under it, not longer ago than entries
live. If there was no entry that was alive at some earlier moment, it was stored since. -/
theorem TimedRun.stored_of_entry {net : Network} {history later : List TimedMoment}
    {σ τ : ServerState} {handles : List DeviceHandle} (timed : TimedRun net (history ++ later) τ)
    (earlier : TimedRun net history σ) (hle : σ.now ≤ τ.now)
    (hcold : (σ.memory.addressEntry net.config σ.now addr).isSome = false)
    (hfound : τ.memory.addressEntry net.config τ.now addr = some handles) :
    ∃ d ∈ later, d.moment.event.op = .memory (.storeAddress addr handles) ∧
      τ.now < d.time + (Duration.ofMillis net.config.addressLifetime : Nat) := by
  obtain ⟨entry, hentry, rfl, halive⟩ := Memory.address_of_addressEntry hfound
  rw [timed.addresses_eq addr] at hentry
  rcases entryOf_append hentry with hold | ⟨d, hmem, hop, htime⟩
  · rw [← earlier.addresses_eq addr] at hold
    have hwarm : σ.memory.addressEntry net.config σ.now addr = some entry.value := by
      unfold Memory.addressEntry
      rw [hold]
      exact if_pos (Int.lt_of_le_of_lt hle halive)
    rw [hwarm] at hcold
    cases hcold
  · exact ⟨d, hmem, hop, htime ▸ halive⟩

end LoraNetwork
