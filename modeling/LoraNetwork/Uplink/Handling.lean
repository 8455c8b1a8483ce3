import LoraNetwork.Device
import LoraNetwork.Downlink.Builder
import LoraNetwork.Downlink.Window
import LoraNetwork.Failure
import LoraNetwork.Program

/-!
# What handling an uplink may do

The operations of the two handlers, of data and of joins. A call is answered sooner or later; a race
against a deadline may also be lost, and then the call never has any effect. The clock can be read
at any time. While a data uplink is handled, the counter it was accepted under can be announced to
those who authenticate the frames behind it.
-/

namespace LoraNetwork

/-- What stays the same while a server runs. -/
structure Network where
  /-- The configuration. -/
  config : ServerConfig
  /-- The primitives that frames are secured with. -/
  suite : CipherSuite

/-- An operation of the handler of data uplinks. -/
inductive DataOperation where
  /-- Reads the monotonic clock. -/
  | clock
  /-- Reads the wall clock. -/
  | wallClock
  /-- Asks a collaborator and waits for its answer. -/
  | call (request : Request)
  /-- Asks a collaborator and waits until an instant at the latest. -/
  | race (request : Request) (deadline : Instant)
  /-- Announces the counter of the uplink. -/
  | announce (counter : UInt32)

/-- What an operation of the handler of data uplinks answers. A race that was lost has no answer. -/
abbrev DataOperation.Answer : DataOperation → Type
  | clock => Instant
  | wallClock => UnixTime
  | call request => request.Answer
  | race request _ => Option request.Answer
  | announce _ => Unit

/-- The interface of the handler of data uplinks. -/
abbrev dataInterface : Interface := ⟨DataOperation, DataOperation.Answer⟩

/-- A part of the handling of a data uplink. -/
abbrev DataHandling (α : Type) : Type := Program dataInterface α

namespace DataHandling

/-- Reads the monotonic clock. -/
def clock : DataHandling Instant := @Program.ask dataInterface .clock

/-- Reads the wall clock. -/
def wallClock : DataHandling UnixTime := @Program.ask dataInterface .wallClock

/-- Asks a collaborator. -/
def call (request : Request) : DataHandling request.Answer :=
  @Program.ask dataInterface (.call request)

/-- Asks a collaborator, giving up when the last window of an uplink closes. -/
def race (timer : WindowTimer) (request : Request) : DataHandling (Option request.Answer) :=
  @Program.ask dataInterface (.race request (timer.deadline .rx2))

/-- Announces the counter of the uplink. -/
def announce (counter : UInt32) : DataHandling Unit :=
  @Program.ask dataInterface (.announce counter)

end DataHandling

/-- What is drawn at random for a join. -/
structure JoinDraw where
  /-- The nonce of the accept. -/
  nonce : AppNonce
  /-- The bits of the new address below the part that names the network. -/
  address : UInt32
  deriving DecidableEq, Repr

/-- An operation of the handler of join requests. -/
inductive JoinOperation where
  /-- Reads the monotonic clock. -/
  | clock
  /-- Draws what has to be random. -/
  | draw
  /-- Asks a collaborator and waits for its answer. -/
  | call (request : Request)
  /-- Makes a new session the one that frames are matched with. -/
  | install (record : SessionRecord)

/-- What an operation of the handler of join requests answers. -/
abbrev JoinOperation.Answer : JoinOperation → Type
  | clock => Instant
  | draw => JoinDraw
  | call request => request.Answer
  | install _ => Unit

/-- The interface of the handler of join requests. -/
abbrev joinInterface : Interface := ⟨JoinOperation, JoinOperation.Answer⟩

/-- A part of the handling of a join request. -/
abbrev JoinHandling (α : Type) : Type := Program joinInterface α

namespace JoinHandling

/-- Reads the monotonic clock. -/
def clock : JoinHandling Instant := @Program.ask joinInterface .clock

/-- Draws what has to be random. -/
def draw : JoinHandling JoinDraw := @Program.ask joinInterface .draw

/-- Asks a collaborator. -/
def call (request : Request) : JoinHandling request.Answer :=
  @Program.ask joinInterface (.call request)

/-- Makes a new session the one that frames are matched with. -/
def install (record : SessionRecord) : JoinHandling Unit :=
  @Program.ask joinInterface (.install record)

end JoinHandling

end LoraNetwork
