import LoraNetwork.Collaborator
import LoraNetwork.Device
import LoraNetwork.Failure
import LoraNetwork.Program
import LoraNetwork.Registry.Table

/-!
# The registry's memory

What a server keeps about devices between uplinks, and the single steps that can be taken on it. A
session in memory sits in a numbered slot that one uplink at a time may hold; the caches refer to
slots by handles. An entry of the address cache lives for a fixed time after it was stored, an entry
of the session index for a time after it was stored or read last.

Each operation is one step: whatever else happens at the same time happens before it or after it.
Everything longer is a program of such steps, so the order in which the steps of several programs
follow each other is left open here. Some operations have to wait, and `Memory.perform` gives no
answer for as long as they do.
-/

namespace LoraNetwork

/-- The number of a slot. -/
abbrev SlotId := Nat

/-- The number of a task, which is one activity of a server. -/
abbrev TaskId := Nat

/-- The number of a loader. -/
abbrev LoaderId := Nat

/-- How the caches refer to a device: its slot and what never changes about it. -/
structure DeviceHandle where
  /-- The slot of its session. -/
  slot : SlotId
  /-- What never changes. -/
  card : DeviceCard
  deriving DecidableEq, Repr

/-- A place for one session in memory. -/
structure Slot where
  /-- The device; its session is out of date while an uplink holds the slot. -/
  device : Device
  /-- An uplink holds the slot. -/
  held : Bool := false
  /-- The tasks that wait for the slot, first come first. -/
  waiting : List TaskId := []

/-- A cached value and when it was stored or read last. -/
structure Stamped (α : Type) where
  /-- The value. -/
  value : α
  /-- When it was stored or read last. -/
  since : Instant

/-- What became of one candidate of an address. -/
inductive CandidateLoad where
  /-- Its session is in memory. -/
  | loaded (handle : DeviceHandle)
  /-- It is unknown, or uses another address by now. -/
  | skipped
  /-- Its record could not be fetched. -/
  | failed
  deriving DecidableEq, Repr

/-- What a loader shares with those who wait for it. -/
structure LoaderQueue where
  /-- Frames may still be added. -/
  accepting : Bool := true
  /-- The frames that wait, and the tasks they belong to. -/
  pending : List (TaskId × DataFrame) := []
  /-- What became of the candidates so far, by their place in the list. -/
  loads : List (Nat × CandidateLoad) := []

/-- The outcome of looking for the device that signed a frame. -/
abbrev Resolution : Type := Except FailureReason DeviceHandle

/-- The registry's memory. -/
structure Memory where
  /-- The slots; a slot's number is its place. -/
  slots : List Slot := []
  /-- The devices found under an address. -/
  addresses : Table DevAddr (Stamped (List DeviceHandle)) := {}
  /-- The session of each device. -/
  index : Table Eui64 (Stamped DeviceHandle) := {}
  /-- The loader that runs for an address. -/
  loaders : Table DevAddr LoaderId := {}
  /-- What loaders share; a loader's number is its place. -/
  queues : List LoaderQueue := []
  /-- Resolutions that were sent to tasks and not taken yet. -/
  replies : Table TaskId Resolution := {}

/-- What joining the loader of an address leads to. -/
inductive Joined where
  /-- The frame waits for a loader that runs. -/
  | queued
  /-- The frame waits for a loader that has yet to be started. -/
  | started (loader : LoaderId)
  /-- The cache has to be looked at again. -/
  | again
  deriving DecidableEq, Repr

/-- One step on the registry's memory. -/
inductive MemoryOperation where
  /-- Looks up the devices of an address. -/
  | lookUpAddress (addr : DevAddr)
  /-- Stores the devices of an address. -/
  | storeAddress (addr : DevAddr) (handles : List DeviceHandle)
  /-- Forgets an address. -/
  | forgetAddress (addr : DevAddr)
  /-- Looks up the session of a device, and prolongs its life. -/
  | lookUpSession (eui : Eui64)
  /-- Stores the session of a device. -/
  | storeSession (eui : Eui64) (handle : DeviceHandle)
  /-- Forgets the session of a device. -/
  | forgetSession (eui : Eui64)
  /-- Gives a session that was loaded from its record a new slot. -/
  | newSlot (session : Session)
  /-- Reads the counter that a device announced last. -/
  | readAnnounced (slot : SlotId)
  /-- Announces a counter. -/
  | announce (slot : SlotId) (counter : UInt32)
  /-- Adds a frame to the queue of its address's loader, or makes a loader known. -/
  | joinLoader (frame : DataFrame)
  /-- Takes the resolution that was sent to this task; waits for it. -/
  | takeReply
  /-- Makes the loader of an address unknown. -/
  | leaveLoader (addr : DevAddr)
  /-- Closes a loader's queue and takes the frames in it. -/
  | closeQueue (loader : LoaderId)
  /-- Sends a resolution to a task. -/
  | reply (task : TaskId) (resolution : Resolution)
  /-- Tells a loader what became of one candidate. -/
  | deposit (loader : LoaderId) (place : Nat) (load : CandidateLoad)
  /-- Takes what became of all candidates, in their order; waits for the last. -/
  | gather (loader : LoaderId) (count : Nat)
  /-- Lines up for a slot. -/
  | lineUp (slot : SlotId)
  /-- Takes a slot; waits for its turn. -/
  | takeSlot (slot : SlotId)
  /-- Gives a slot back with the device as it is now. -/
  | giveBack (slot : SlotId) (device : Device)

/-- What a step on the registry's memory answers. -/
abbrev MemoryOperation.Answer : MemoryOperation → Type
  | lookUpAddress _ => Option (List DeviceHandle)
  | storeAddress .. => Unit
  | forgetAddress _ => Unit
  | lookUpSession _ => Option DeviceHandle
  | storeSession .. => Unit
  | forgetSession _ => Unit
  | newSlot _ => DeviceHandle
  | readAnnounced _ => UInt32
  | announce .. => Unit
  | joinLoader _ => Joined
  | takeReply => Resolution
  | leaveLoader _ => Unit
  | closeQueue _ => List (TaskId × DataFrame)
  | reply .. => Unit
  | deposit .. => Unit
  | gather .. => List CandidateLoad
  | lineUp _ => Unit
  | takeSlot _ => Device
  | giveBack .. => Unit

/-- The interface of programs on the registry's memory alone. -/
abbrev memoryInterface : Interface := ⟨MemoryOperation, MemoryOperation.Answer⟩

namespace Memory

/-- The devices of an address, if its entry is alive. -/
def addressEntry (config : ServerConfig) (now : Instant) (m : Memory) (addr : DevAddr) :
    Option (List DeviceHandle) :=
  match m.addresses.get? addr with
  | none => none
  | some entry =>
    if now < entry.since + (Duration.ofMillis config.addressLifetime : Nat) then some entry.value
    else none

/-- How long the session of a device stays in memory unused. -/
def idleTime (config : ServerConfig) (card : DeviceCard) : Duration :=
  Duration.ofMillis (card.keepAlive.getD config.sessionIdle)

/-- The session of a device, if its entry is alive. -/
def indexEntry (config : ServerConfig) (now : Instant) (m : Memory) (eui : Eui64) :
    Option DeviceHandle :=
  match m.index.get? eui with
  | none => none
  | some entry =>
    if now < entry.since + (idleTime config entry.value.card : Nat) then some entry.value else none

/-- The session of a device, and the memory in which its life is prolonged. -/
def readIndex (config : ServerConfig) (now : Instant) (m : Memory) (eui : Eui64) :
    Option DeviceHandle × Memory :=
  match m.indexEntry config now eui with
  | none => (none, m)
  | some handle => (some handle, { m with index := m.index.set eui ⟨handle, now⟩ })

/-- The memory with a change to one slot. -/
def updateSlot (m : Memory) (slot : SlotId) (f : Slot → Slot) : Memory :=
  { m with slots := m.slots.modify slot f }

/-- The memory with a change to one loader's queue. -/
def updateQueue (m : Memory) (loader : LoaderId) (f : LoaderQueue → LoaderQueue) : Memory :=
  { m with queues := m.queues.modify loader f }

/-- Adds a frame to the queue of the loader that runs for its address. Without one, and if the
address is not cached by now, a new loader is made known with the frame in its queue. A loader whose
queue is closed but that is still known is made unknown. -/
def joinLoader (config : ServerConfig) (now : Instant) (task : TaskId) (m : Memory)
    (frame : DataFrame) : Joined × Memory :=
  match m.loaders.get? frame.devAddr with
  | some loader =>
    if (m.queues[loader]?.map LoaderQueue.accepting).getD false then
      (.queued, m.updateQueue loader fun q => { q with pending := q.pending ++ [(task, frame)] })
    else (.again, { m with loaders := m.loaders.erase frame.devAddr })
  | none =>
    if (m.addressEntry config now frame.devAddr).isSome then (.again, m)
    else
      (.started m.queues.length,
        { m with
          loaders := m.loaders.set frame.devAddr m.queues.length
          queues := m.queues ++ [{ pending := [(task, frame)] }] })

/-- What became of all candidates, in their order; `none` while one is missing. -/
def gathered (m : Memory) (loader : LoaderId) (count : Nat) : Option (List CandidateLoad) :=
  match m.queues[loader]? with
  | none => none
  | some queue => (List.range count).mapM fun place => queue.loads.lookup place

/-- The device in a slot, taken by the task whose turn it is; `none` while the slot is held or
another task comes first. -/
def takeSlot (m : Memory) (task : TaskId) (slot : SlotId) : Option (Device × Memory) :=
  match m.slots[slot]? with
  | none => none
  | some s =>
    if s.held = false ∧ s.waiting.head? = some task then
      some (s.device,
        m.updateSlot slot fun s => { s with held := true, waiting := s.waiting.drop 1 })
    else none

/-- Takes one step on behalf of a task: the answer and the memory afterwards, or `none` if the task
has to wait. -/
def perform (config : ServerConfig) (now : Instant) (task : TaskId) (m : Memory) :
    (op : MemoryOperation) → Option (op.Answer × Memory)
  | .lookUpAddress addr => some (m.addressEntry config now addr, m)
  | .storeAddress addr handles =>
    some ((), { m with addresses := m.addresses.set addr ⟨handles, now⟩ })
  | .forgetAddress addr => some ((), { m with addresses := m.addresses.erase addr })
  | .lookUpSession eui => some (m.readIndex config now eui)
  | .storeSession eui handle => some ((), { m with index := m.index.set eui ⟨handle, now⟩ })
  | .forgetSession eui => some ((), { m with index := m.index.erase eui })
  | .newSlot session =>
    some (⟨m.slots.length, DeviceCard.ofSession session⟩,
      { m with slots := m.slots ++ [{ device := Device.ofSession session }] })
  | .readAnnounced slot =>
    some ((m.slots[slot]?.map fun s => s.device.announced).getD 0, m)
  | .announce slot counter =>
    some ((),
      m.updateSlot slot fun s => { s with device := { s.device with announced := counter } })
  | .joinLoader frame => some (m.joinLoader config now task frame)
  | .takeReply =>
    match m.replies.get? task with
    | none => none
    | some resolution => some (resolution, { m with replies := m.replies.erase task })
  | .leaveLoader addr => some ((), { m with loaders := m.loaders.erase addr })
  | .closeQueue loader =>
    some ((m.queues[loader]?.map LoaderQueue.pending).getD [],
      m.updateQueue loader fun q => { q with accepting := false, pending := [] })
  | .reply other resolution => some ((), { m with replies := m.replies.set other resolution })
  | .deposit loader place load =>
    some ((), m.updateQueue loader fun q => { q with loads := (place, load) :: q.loads })
  | .gather loader count => (m.gathered loader count).map fun loads => (loads, m)
  | .lineUp slot =>
    some ((), m.updateSlot slot fun s => { s with waiting := s.waiting ++ [task] })
  | .takeSlot slot => m.takeSlot task slot
  | .giveBack slot device =>
    some ((), m.updateSlot slot fun s => { s with device := device, held := false })

end Memory

end LoraNetwork
