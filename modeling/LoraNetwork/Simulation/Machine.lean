import LoraNetwork.Server.Dispatch
import LoraNetwork.Simulation.Backend

/-!
# Running a server in virtual time

A machine runs the activities of a server one at a time. Its clock stands still while a task runs
and moves only when every task waits, to the earliest instant at which one of them goes on. A task
runs until it has to wait: for a collaborator that takes its time, or for another task. Tasks go on
in the order in which they became able to; the work of a loader comes before anything else that is
ready.

A race is lost at its deadline and a request that lost has no effect. An answer that comes exactly
at the deadline is in time.
-/

namespace LoraNetwork

/-- What a task finds when it goes on. -/
inductive Resumption where
  /-- Its next operation was not begun. -/
  | fresh
  /-- The request it made is due to be answered. -/
  | answered
  /-- The race it took part in is lost. -/
  | lost
  deriving DecidableEq, Repr

/-- An activity that is under way. -/
structure Task where
  /-- Its number. -/
  id : TaskId
  /-- What it does. -/
  activity : Activity
  /-- What is left to do. -/
  rest : Service Verdict
  /-- What it finds when it goes on. -/
  resumption : Resumption

/-- A server that runs in virtual time, with its collaborators. -/
structure Machine where
  /-- The monotonic clock. -/
  now : Instant := 0
  /-- The wall clock, which stands still. -/
  wallClock : UnixTime
  /-- How often something random was drawn. -/
  draws : Nat := 0
  /-- The registry's memory. -/
  memory : Memory := {}
  /-- The collaborators. -/
  backend : Backend := {}
  /-- The tasks that can go on, next first. -/
  ready : List Task := []
  /-- The tasks that wait for a collaborator, and when they go on. -/
  sleeping : List (Instant × Task) := []
  /-- The tasks that wait for another task, in the order they began to wait. -/
  blocked : List Task := []
  /-- How the tasks that are finished ended. -/
  verdicts : Table TaskId Verdict := {}
  /-- The number of the next task. -/
  nextTask : TaskId := 0

namespace Machine

/-- The low bits of the first address that is drawn. -/
def firstAddress : Nat := 0x1A5F000

/-- What is drawn the n-th time: another nonce and another address each time. -/
def drawAt (n : Nat) : JoinDraw where
  nonce := ⟨UInt8.ofNat n, UInt8.ofNat (n / 256), UInt8.ofNat (n / 65536)⟩
  address := UInt32.ofNat (firstAddress + n)

/-- The loading of candidates comes before anything else that is ready. -/
def isUrgent : Activity → Bool
  | .loadCandidate .. => true
  | _ => false

/-- The tasks for activities, numbered from a given number on. -/
def tasksFrom (net : Network) (first : TaskId) (activities : List Activity) : List Task :=
  activities.mapIdx fun place activity =>
    ⟨first + place, activity, activity.program net, .fresh⟩

/-- Makes activities ready. -/
def spawn (net : Network) (activities : List Activity) (m : Machine) : Machine :=
  let tasks := tasksFrom net m.nextTask activities
  { m with
    ready :=
      tasks.filter (fun task => isUrgent task.activity) ++ m.ready ++
        tasks.filter (fun task => !isUrgent task.activity)
    nextTask := m.nextTask + activities.length }

/-- Lets the collaborators answer a request. -/
def serve (request : Request) (m : Machine) : request.Answer × Machine :=
  let served := m.backend.answer request
  (served.1, { m with backend := served.2 })

/-- Puts a request on record. -/
def note (request : Request) (m : Machine) : Machine :=
  { m with backend := m.backend.note request }

/-- Lets a task go on at an instant. -/
def sleepUntil (instant : Instant) (task : Task) (m : Machine) : Machine :=
  { m with sleeping := m.sleeping ++ [(instant, task)] }

/-- Ends a task, or lets it start from the beginning before anything else. -/
def finish (net : Network) (id : TaskId) (activity : Activity) (verdict : Verdict) (m : Machine) :
    Machine :=
  match verdict with
  | .again => { m with ready := ⟨id, activity, activity.program net, .fresh⟩ :: m.ready }
  | _ => { m with verdicts := m.verdicts.set id verdict }

/-- Runs a task until it has to wait or is finished. -/
def runTask (net : Network) (id : TaskId) (activity : Activity) :
    Service Verdict → Resumption → Machine → Machine
  | .done verdict, _, m => m.finish net id activity verdict
  | .perform .clock next, _, m => runTask net id activity (next m.now) .fresh m
  | .perform .wallClock next, _, m => runTask net id activity (next m.wallClock) .fresh m
  | .perform .draw next, _, m =>
    runTask net id activity (next (drawAt m.draws)) .fresh { m with draws := m.draws + 1 }
  | .perform (.start activities) next, _, m =>
    runTask net id activity (next ()) .fresh (m.spawn net activities)
  | .perform (.memory op) next, _, m =>
    match m.memory.perform net.config m.now id op with
    | some (answer, memory) =>
      runTask net id activity (next answer) .fresh { m with memory := memory }
    | none =>
      { m with blocked := m.blocked ++ [⟨id, activity, .perform (.memory op) next, .fresh⟩] }
  | .perform (.call request) next, .fresh, m =>
    let m := m.note request
    let delay := m.backend.delayOf request
    if delay = 0 then
      runTask net id activity (next (m.serve request).1) .fresh (m.serve request).2
    else
      m.sleepUntil (m.now + (delay : Int)) ⟨id, activity, .perform (.call request) next, .answered⟩
  | .perform (.call request) next, _, m =>
    runTask net id activity (next (m.serve request).1) .fresh (m.serve request).2
  | .perform (.race request deadline) next, .fresh, m =>
    let m := m.note request
    let delay := m.backend.delayOf request
    if delay = 0 then
      runTask net id activity (next (some (m.serve request).1)) .fresh (m.serve request).2
    else if m.now + (delay : Int) ≤ deadline then
      m.sleepUntil (m.now + (delay : Int))
        ⟨id, activity, .perform (.race request deadline) next, .answered⟩
    else if deadline ≤ m.now then runTask net id activity (next none) .fresh m
    else m.sleepUntil deadline ⟨id, activity, .perform (.race request deadline) next, .lost⟩
  | .perform (.race request _) next, .answered, m =>
    runTask net id activity (next (some (m.serve request).1)) .fresh (m.serve request).2
  | .perform (.race _ _) next, .lost, m => runTask net id activity (next none) .fresh m

/-- Whether a task that waits for another task can go on. -/
def canGoOn (net : Network) (m : Machine) (task : Task) : Bool :=
  match task.rest with
  | .perform (.memory op) _ => (m.memory.perform net.config m.now task.id op).isSome
  | _ => true

/-- A task waits for the candidates of a loader. -/
def isGathering (task : Task) : Bool :=
  match task.rest with
  | .perform (.memory (.gather ..)) _ => true
  | _ => false

/-- Makes those tasks ready that no longer have to wait for another task. -/
def release (net : Network) (m : Machine) : Machine :=
  let able := m.blocked.filter (m.canGoOn net)
  { m with
    ready := able.filter isGathering ++ m.ready ++ able.filter (fun task => !isGathering task)
    blocked := m.blocked.filter fun task => !m.canGoOn net task }

/-- The earliest instant at which a task goes on that waits for a collaborator. -/
def nextInstant (m : Machine) : Option Instant :=
  match m.sleeping with
  | [] => none
  | first :: rest =>
    some (rest.foldl (fun earliest sleeper => min earliest sleeper.1) first.1)

/-- Moves the clock to an instant and makes those tasks ready that go on by then. -/
def wakeAt (instant : Instant) (m : Machine) : Machine :=
  { m with
    now := max m.now instant
    ready := m.ready ++ (m.sleeping.filter fun sleeper => sleeper.1 ≤ instant).map Prod.snd
    sleeping := m.sleeping.filter fun sleeper => !(sleeper.1 ≤ instant) }

/-- Runs the next task that is ready; without one, moves the clock to the next instant not after the
limit. There may be nothing left to do. -/
def step? (net : Network) (limit : Option Instant) (m : Machine) : Option Machine :=
  match m.ready with
  | task :: rest =>
    let ran := runTask net task.id task.activity task.rest task.resumption { m with ready := rest }
    some (ran.release net)
  | [] =>
    match m.nextInstant with
    | none => none
    | some instant =>
      if limit.all fun last => instant ≤ last then some (m.wakeAt instant) else none

/-- Every one of some tasks is finished. -/
def allFinished (m : Machine) (tasks : List TaskId) : Bool :=
  tasks.all fun task => (m.verdicts.get? task).isSome

/-- Runs the machine until some tasks are finished, for a number of steps at most. -/
def runFor (net : Network) (awaited : List TaskId) : Nat → Machine → Machine
  | 0, m => m
  | fuel + 1, m =>
    if m.allFinished awaited then m
    else
      match m.step? net none with
      | none => m
      | some next => runFor net awaited fuel next

/-- Runs the machine for as long as something happens up to an instant, for a number of steps at
most. -/
def elapseFor (net : Network) (limit : Instant) : Nat → Machine → Machine
  | 0, m => m
  | fuel + 1, m =>
    match m.step? net (some limit) with
    | none => m
    | some next => elapseFor net limit fuel next

/-- The number of steps after which a run is given up. -/
def patience : Nat := 1000000

/-- Starts activities together and runs the machine until all of them are finished: how they ended,
in order, and the machine afterwards. -/
def runAll (net : Network) (activities : List Activity) (m : Machine) :
    List (Option Verdict) × Machine :=
  let tasks := (List.range activities.length).map fun place => m.nextTask + place
  let ran := runFor net tasks patience (m.spawn net activities)
  (tasks.map ran.verdicts.get?, ran)

/-- Runs one activity to its end. -/
def run (net : Network) (activity : Activity) (m : Machine) : Option Verdict × Machine :=
  let ran := m.runAll net [activity]
  (ran.1.head?.join, ran.2)

/-- Lets time pass. -/
def elapse (net : Network) (time : Duration) (m : Machine) : Machine :=
  let target := m.now + (time : Int)
  { elapseFor net target patience m with now := target }

end Machine

end LoraNetwork
