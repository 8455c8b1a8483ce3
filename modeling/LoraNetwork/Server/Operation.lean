import LoraNetwork.Registry.Upkeep
import LoraNetwork.Uplink.Data
import LoraNetwork.Uplink.Join

/-!
# What a server does

The activities of a server and the operations they perform. Activities run side by side as tasks;
each is a program whose single operations may fall between those of the others. An operation is a
step on the registry's memory, a look at a clock, a draw, a request to a collaborator, or the start
of further activities.
-/

namespace LoraNetwork

/-- An uplink as it comes from the packet forwarder. -/
structure RadioUplink where
  /-- The bytes. -/
  payload : Bytes
  /-- When it came off the air. -/
  arrival : Instant
  /-- What the radio reported. -/
  metadata : RadioMetadata

/-- The final result of an uplink: a downlink or none, or a failure. -/
abbrev UplinkOutcome : Type := Except UplinkFailure (Option Downlink)

/-- Something a server does, as one task. -/
inductive Activity where
  /-- Takes an uplink from the radio to its outcome. -/
  | dispatch (uplink : RadioUplink)
  /-- Finds the device that signed a frame. -/
  | resolve (frame : DataFrame)
  /-- Handles a data uplink on the device in a slot. -/
  | handle (slot : SlotId) (uplink : DataUplink)
  /-- Loads the devices of an address. -/
  | loadAddress (loader : LoaderId) (addr : DevAddr)
  /-- Loads one candidate for a loader. -/
  | loadCandidate (loader : LoaderId) (place : Nat) (addr : DevAddr) (eui : Eui64)
  /-- Installs the session of a join. -/
  | install (record : SessionRecord)
  /-- Forgets a device. -/
  | forgetDevice (eui : Eui64)
  /-- Forgets an address and its devices. -/
  | forgetAddress (addr : DevAddr)

/-- How an activity ends. -/
inductive Verdict where
  /-- It has to start from the beginning. -/
  | again
  /-- An uplink came to its outcome. -/
  | outcome (outcome : UplinkOutcome)
  /-- A device was looked for. -/
  | resolved (resolution : Resolution)
  /-- It is finished without a result. -/
  | finished

/-- An operation of a server. -/
inductive ServerOperation where
  /-- Reads the monotonic clock. -/
  | clock
  /-- Reads the wall clock. -/
  | wallClock
  /-- Draws what has to be random. -/
  | draw
  /-- Asks a collaborator and waits for its answer. -/
  | call (request : Request)
  /-- Asks a collaborator and waits until an instant at the latest. -/
  | race (request : Request) (deadline : Instant)
  /-- Takes a step on the registry's memory. -/
  | memory (op : MemoryOperation)
  /-- Starts activities of their own. -/
  | start (activities : List Activity)

/-- What an operation of a server answers. -/
abbrev ServerOperation.Answer : ServerOperation → Type
  | clock => Instant
  | wallClock => UnixTime
  | draw => JoinDraw
  | call request => request.Answer
  | race request _ => Option request.Answer
  | memory op => op.Answer
  | start _ => Unit

/-- The interface of a server's activities. -/
abbrev serverInterface : Interface := ⟨ServerOperation, ServerOperation.Answer⟩

/-- A part of an activity. -/
abbrev Service (α : Type) : Type := Program serverInterface α

namespace Service

/-- Takes a step on the registry's memory. -/
def memory (op : MemoryOperation) : Service op.Answer :=
  @Program.ask serverInterface (.memory op)

/-- Reads the monotonic clock. -/
def clock : Service Instant := @Program.ask serverInterface .clock

/-- Asks a collaborator. -/
def call (request : Request) : Service request.Answer :=
  @Program.ask serverInterface (.call request)

/-- Asks a collaborator and waits until an instant at the latest. -/
def race (request : Request) (deadline : Instant) : Service (Option request.Answer) :=
  @Program.ask serverInterface (.race request deadline)

/-- Starts activities of their own. -/
def start (activities : List Activity) : Service Unit :=
  @Program.ask serverInterface (.start activities)

/-- Upkeep of the registry as a part of an activity, step by step. -/
def ofUpkeep {α : Type} (p : Upkeep α) : Service α :=
  p.expand fun op => @Program.ask serverInterface (.memory op)

/-- What an operation of the handling of a data uplink is to a server: an announcement concerns the
slot that is held. -/
def ofDataOperation (slot : SlotId) : (op : DataOperation) → Service op.Answer
  | .clock => @Program.ask serverInterface .clock
  | .wallClock => @Program.ask serverInterface .wallClock
  | .call request => @Program.ask serverInterface (.call request)
  | .race request deadline => @Program.ask serverInterface (.race request deadline)
  | .announce counter => @Program.ask serverInterface (.memory (.announce slot counter))

/-- What an operation of the handling of a join is to a server: a new session is loaded from its
record and installed in the registry. -/
def ofJoinOperation (net : Network) : (op : JoinOperation) → Service op.Answer
  | .clock => @Program.ask serverInterface .clock
  | .draw => @Program.ask serverInterface .draw
  | .call request => @Program.ask serverInterface (.call request)
  | .install record => do
    let _ ← ofUpkeep (Upkeep.install (Session.ofRecord net.config record))
    pure ()

end Service

end LoraNetwork
