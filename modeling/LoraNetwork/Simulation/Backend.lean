import LoraNetwork.Collaborator
import LoraNetwork.Registry.Table

/-!
# Collaborators in memory

A device store, a message queue and a sink of telemetry that live in memory, for simulations. Every
request is put on record when it is made. How long each kind of request takes and whether it fails
is set from outside, for all subjects or for some; a request that fails has no effect.
-/

namespace LoraNetwork

/-- Whom a request concerns. -/
inductive Subject where
  /-- A device. -/
  | device (eui : Eui64)
  /-- An address. -/
  | address (addr : DevAddr)
  deriving DecidableEq, Repr

/-- The kinds of request that delays and failures are set for. -/
inductive RequestKind where
  /-- Fetching a session. -/
  | session
  /-- Fetching the devices of an address. -/
  | candidates
  /-- Writing changes. -/
  | persist
  /-- Allocating a downlink counter. -/
  | allocate
  /-- Dropping what is cached for allocation. -/
  | resetCache
  /-- Fetching what a join needs. -/
  | joinInfo
  /-- Receiving a message. -/
  | receive
  /-- Settling a message. -/
  | settle (how : Settlement)
  /-- Forwarding telemetry. -/
  | telemetry
  deriving DecidableEq, Repr

namespace Request

/-- Whom a request concerns. -/
def subject : Request → Subject
  | fetchSession eui | persist eui _ | allocate eui .. | resetAllocation eui .. | fetchJoinInfo eui
  | receive eui _ | settle _ eui _ => .device eui
  | fetchCandidates addr => .address addr
  | sendTelemetry telemetry => .device telemetry.devEui

/-- The kind of a request. -/
def kind : Request → RequestKind
  | fetchSession _ => .session
  | fetchCandidates _ => .candidates
  | persist .. => .persist
  | allocate .. => .allocate
  | resetAllocation .. => .resetCache
  | fetchJoinInfo _ => .joinInfo
  | receive .. => .receive
  | settle how .. => .settle how
  | sendTelemetry _ => .telemetry

end Request

/-- How long requests of a kind take, in milliseconds. -/
inductive DelayPlan where
  /-- The same time for all subjects. -/
  | uniform (ms : Nat)
  /-- A time for each of some subjects, and no time for others. -/
  | bySubject (delays : List (Subject × Nat))

/-- The delay of a request about a subject. -/
def DelayPlan.delayOf : DelayPlan → Subject → Duration
  | uniform ms, _ => Duration.ofMillis ms
  | bySubject delays, subject => Duration.ofMillis ((delays.lookup subject).getD 0)

/-- Which requests of a kind fail. -/
inductive FailurePlan where
  /-- All of them. -/
  | always
  /-- Those about certain subjects. -/
  | about (subjects : List Subject)

/-- Whether a request about a subject fails. -/
def FailurePlan.covers : FailurePlan → Subject → Bool
  | always, _ => true
  | about subjects, subject => subjects.contains subject

/-- How downlink counters are allocated. -/
inductive AllocationMode where
  /-- The proposed counter, once for each uplink. -/
  | proposed
  /-- Always the same counter. -/
  | fixed (counter : UInt32)
  /-- None: another gateway always comes first. -/
  | taken

/-- Collaborators in memory. -/
structure Backend where
  /-- The stored sessions. -/
  sessions : Table Eui64 SessionRecord := {}
  /-- What joins need. -/
  joinInfos : Table Eui64 JoinInfo := {}
  /-- Answers about addresses that do not follow from the sessions. -/
  candidates : Table DevAddr (List DeviceCandidate) := {}
  /-- The messages that wait, next first. -/
  queues : Table Eui64 (List CloudMessage) := {}
  /-- The uplink of each device that a counter was allocated for last. -/
  answered : Table Eui64 UInt32 := {}
  /-- How downlink counters are allocated. -/
  allocation : AllocationMode := .proposed
  /-- How long requests take. -/
  delays : Table RequestKind DelayPlan := {}
  /-- Which requests fail. -/
  failures : Table RequestKind FailurePlan := {}
  /-- Every request that was made, first one first. -/
  log : List Request := []

namespace Backend

/-- The record of requests with one more. -/
def note (b : Backend) (request : Request) : Backend := { b with log := b.log ++ [request] }

/-- How long a request takes. -/
def delayOf (b : Backend) (request : Request) : Duration :=
  ((b.delays.get? request.kind).getD (.uniform 0)).delayOf request.subject

/-- Whether a request fails. -/
def failsOn (b : Backend) (request : Request) : Bool :=
  ((b.failures.get? request.kind).getD (.about [])).covers request.subject

/-- The messages that wait for a device. -/
def queueOf (b : Backend) (eui : Eui64) : List CloudMessage := (b.queues.get? eui).getD []

/-- The devices stored with an address, by their identifiers. -/
def storedUnder (b : Backend) (addr : DevAddr) : List DeviceCandidate :=
  let matching := b.sessions.entries.filter fun entry => entry.2.devAddr = addr
  (matching.mergeSort fun a b => a.1.value ≤ b.1.value).map fun entry =>
    ⟨entry.2.devAddr, entry.1⟩

/-- Allocates the downlink counter for an uplink. -/
def allocateFor (b : Backend) (eui : Eui64) (current fcntUp : UInt32) :
    Option UInt32 × Backend :=
  match b.allocation with
  | .taken => (none, b)
  | .fixed counter => (some counter, b)
  | .proposed =>
    if b.answered.get? eui = some fcntUp then (none, b)
    else (some current, { b with answered := b.answered.set eui fcntUp })

/-- Carries out a request that does not fail. -/
def perform (b : Backend) : (request : Request) → request.Result × Backend
  | .fetchSession eui => (b.sessions.get? eui, b)
  | .fetchCandidates addr => ((b.candidates.get? addr).getD (b.storedUnder addr), b)
  | .persist eui delta =>
    match delta.write eui (b.sessions.get? eui) with
    | some record => ((), { b with sessions := b.sessions.set eui record })
    | none => ((), b)
  | .allocate eui current fcntUp _ => b.allocateFor eui current fcntUp
  | .resetAllocation eui .. => ((), { b with answered := b.answered.erase eui })
  | .fetchJoinInfo eui => (b.joinInfos.get? eui, b)
  | .receive eui _ =>
    ((b.queueOf eui).head?, { b with queues := b.queues.set eui ((b.queueOf eui).drop 1) })
  | .settle how eui message =>
    match how with
    | .abandon => ((), { b with queues := b.queues.set eui (message :: b.queueOf eui) })
    | .complete | .reject => ((), b)
  | .sendTelemetry _ => ((), b)

/-- Answers a request. -/
def answer (b : Backend) (request : Request) : request.Answer × Backend :=
  if b.failsOn request then (.error (.unavailable "set to fail"), b)
  else
    let result := b.perform request
    (.ok result.1, result.2)

/-- The address and the keys of a session that a request tells the store of. -/
def joinedBy : Request → Option (DevAddr × SessionKeys)
  | .persist _ delta =>
    match delta.devAddr, delta.networkKey, delta.applicationKey with
    | some addr, some network, some application => some (addr, ⟨network, application⟩)
    | _, _, _ => none
  | _ => none

/-- The sessions that joins created, first one first, whether their write succeeded or not. -/
def joins (b : Backend) : List (DevAddr × SessionKeys) := b.log.filterMap joinedBy

end Backend

end LoraNetwork
