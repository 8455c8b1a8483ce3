import LoraNetwork.Server.Operation

/-!
# Finding the device of a frame

An address is cached with the devices that use it. A frame of a cached address is matched with them
and never asks the store. A frame of any other address waits for the one loader of the address,
which asks the store once for all frames that wait, publishes what it found and then answers each of
them.
-/

namespace LoraNetwork

namespace Service

/-- The first of some devices that signed a frame, by the counters they announced. -/
def authenticate (net : Network) (frame : DataFrame) : List DeviceHandle → Service Resolution
  | [] => pure (.error .notMatchingDeviceByAddress)
  | handle :: rest => do
    let announced ← memory (.readAnnounced handle.slot)
    if handle.card.authenticates net.suite announced frame then pure (.ok handle)
    else authenticate net frame rest

/-- Finds the device that signed a frame; `none` if the cache has to be looked at again. -/
def resolve (net : Network) (frame : DataFrame) : Service (Option Resolution) := do
  let cached ← memory (.lookUpAddress frame.devAddr)
  match cached with
  | some handles => do
    let resolution ← authenticate net frame handles
    pure (some resolution)
  | none => do
    let joined ← memory (.joinLoader frame)
    match joined with
    | .again => pure none
    | .queued => do
      let resolution ← memory .takeReply
      pure (some resolution)
    | .started loader => do
      start [.loadAddress loader frame.devAddr]
      let resolution ← memory .takeReply
      pure (some resolution)

/-! ## Loading an address -/

/-- Loads a candidate's session from the store, within the time allowed for it. -/
def fetchCandidate (net : Network) (addr : DevAddr) (eui : Eui64) : Service CandidateLoad := do
  let now ← clock
  let answer ← race (.fetchSession eui)
    (now + (Duration.ofMillis net.config.candidateTimeout : Nat))
  match answer with
  | some (.ok (some record)) =>
    if record.devAddr = addr then do
      let handle ← memory (.newSlot (Session.ofRecord net.config record))
      memory (.storeSession eui handle)
      pure (.loaded handle)
    else pure .skipped
  | some (.ok none) => pure .skipped
  | some (.error _) => pure .failed
  | none => pure .failed

/-- Loads a candidate: a session in memory that uses the address will do, and the store is asked
otherwise. -/
def loadCandidate (net : Network) (addr : DevAddr) (eui : Eui64) : Service CandidateLoad := do
  let known ← memory (.lookUpSession eui)
  match known with
  | some handle =>
    if handle.card.devAddr = addr then pure (.loaded handle) else fetchCandidate net addr eui
  | none => fetchCandidate net addr eui

/-- The device of a candidate that was loaded. -/
def handleOf : CandidateLoad → Option DeviceHandle
  | .loaded handle => some handle
  | _ => none

/-- What the candidates of an address come to: the devices that were loaded, in order, or why there
is none. -/
def devicesOf (loads : List CandidateLoad) : Except FailureReason (List DeviceHandle) :=
  let handles := loads.filterMap handleOf
  if handles.isEmpty then
    .error (if loads.contains .failed then .backendUnavailable else .notMatchingDeviceByAddress)
  else .ok handles

/-- The activities that load the candidates of an address side by side. -/
def candidateActivities (loader : LoaderId) (addr : DevAddr) (candidates : List DeviceCandidate) :
    List Activity :=
  candidates.mapIdx fun place candidate => .loadCandidate loader place addr candidate.devEui

/-- Asks the store for the devices of an address and loads them. -/
def findDevices (loader : LoaderId) (addr : DevAddr) :
    Service (Except FailureReason (List DeviceHandle)) := do
  let answer ← call (.fetchCandidates addr)
  match answer with
  | .error _ => pure (.error .backendUnavailable)
  | .ok listed => do
    let candidates := listed.filter fun candidate => candidate.devAddr = addr
    start (candidateActivities loader addr candidates)
    let loads ← memory (.gather loader candidates.length)
    pure (devicesOf loads)

/-- Answers the frames that waited for a loader, in the order they came. -/
def answerAll (net : Network) (found : Except FailureReason (List DeviceHandle)) :
    List (TaskId × DataFrame) → Service Unit
  | [] => pure ()
  | (task, frame) :: rest => do
    let resolution ←
      match found with
      | .ok handles => authenticate net frame handles
      | .error reason => pure (.error reason)
    memory (.reply task resolution)
    answerAll net found rest

/-- Loads an address: publishes its devices, becomes unknown, closes the queue and answers the
frames in it, in this order. -/
def loadAddress (net : Network) (loader : LoaderId) (addr : DevAddr) : Service Unit := do
  let found ← findDevices loader addr
  match found with
  | .ok handles => memory (.storeAddress addr handles)
  | .error _ => pure ()
  memory (.leaveLoader addr)
  let waiting ← memory (.closeQueue loader)
  answerAll net found waiting

end Service

end LoraNetwork
