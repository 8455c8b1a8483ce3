import LoraNetwork.Registry.Memory

/-!
# Upkeep of the registry

Installing the session of a join and forgetting devices, as programs of single steps on the
registry's memory. `Memory.runAlone` runs such a program with no other step in between.
-/

namespace LoraNetwork

/-- A program on the registry's memory. -/
abbrev Upkeep (α : Type) : Type := Program memoryInterface α

namespace Upkeep

/-- One step on the registry's memory. -/
def step (op : MemoryOperation) : Upkeep op.Answer := @Program.ask memoryInterface op

/-- The handles of other devices than a given one. -/
def others (eui : Eui64) (handles : List DeviceHandle) : List DeviceHandle :=
  handles.filter fun handle => handle.card.devEui ≠ eui

/-- Takes a device out of the entry of an address; an entry that becomes empty is forgotten. -/
def removeFromAddress (addr : DevAddr) (eui : Eui64) : Upkeep Unit := do
  let entry ← step (.lookUpAddress addr)
  match entry with
  | none => pure ()
  | some handles =>
    if (others eui handles).isEmpty then step (.forgetAddress addr)
    else step (.storeAddress addr (others eui handles))

/-- Makes a new session the one that frames are matched with, in place of whatever was known of its
device. The entry of its address is only refreshed while it is alive; otherwise the next frame loads
the address and finds the session in the index. -/
def install (session : Session) : Upkeep DeviceHandle := do
  let previous ← step (.lookUpSession session.devEui)
  match previous with
  | none => pure ()
  | some handle => removeFromAddress handle.card.devAddr session.devEui
  let handle ← step (.newSlot session)
  step (.storeSession session.devEui handle)
  let entry ← step (.lookUpAddress session.devAddr)
  match entry with
  | none => pure handle
  | some handles => do
    step (.storeAddress session.devAddr (others session.devEui handles ++ [handle]))
    pure handle

/-- Forgets a device. -/
def forgetDevice (eui : Eui64) : Upkeep Unit := do
  let known ← step (.lookUpSession eui)
  match known with
  | none => pure ()
  | some handle => do
    step (.forgetSession eui)
    removeFromAddress handle.card.devAddr eui

/-- Forgets the sessions of devices. -/
def forgetSessions : List DeviceHandle → Upkeep Unit
  | [] => pure ()
  | handle :: rest => do
    step (.forgetSession handle.card.devEui)
    forgetSessions rest

/-- Forgets an address and every device cached under it. -/
def forgetAddress (addr : DevAddr) : Upkeep Unit := do
  let entry ← step (.lookUpAddress addr)
  forgetSessions (entry.getD [])
  step (.forgetAddress addr)

end Upkeep

/-- Runs a program on the memory with no other step in between, on behalf of a task; `none` if it
has to wait. -/
def Memory.runAlone (config : ServerConfig) (now : Instant) (task : TaskId) {α : Type} :
    Upkeep α → Memory → Option (α × Memory)
  | .done value, m => some (value, m)
  | .perform op next, m =>
    match m.perform config now task op with
    | none => none
    | some (answer, m') => Memory.runAlone config now task (next answer) m'

end LoraNetwork
