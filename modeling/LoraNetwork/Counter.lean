/-!
# Uplink counters

A data frame carries the low sixteen bits of its counter. The full value is rebuilt from the last
one accepted, and the frame is then new, a repeat of the last confirmed frame, a permitted restart
of the count, or to be refused.
-/

namespace LoraNetwork

/-- What is known about a device's counter when a frame arrives. -/
structure CounterState where
  /-- The last accepted counter. -/
  last : UInt32
  /-- Nothing was accepted since the session started at zero. -/
  fresh : Bool
  /-- A frame was accepted, or a restart honoured, since the session was loaded. -/
  uplinkSeen : Bool
  /-- The device counts in thirty-two bits. -/
  wide : Bool
  /-- A restart of the count may be honoured. -/
  resetAllowed : Bool
  /-- The largest step forward. -/
  maxGap : UInt32
  deriving DecidableEq, Repr

/-- What a frame's counter makes of the frame. Each verdict carries the full counter. -/
inductive CounterVerdict where
  /-- A new frame. -/
  | accept (counter : UInt32)
  /-- The device started to count again. -/
  | reset (counter : UInt32)
  /-- A repeat of the last confirmed frame. -/
  | resubmit (counter : UInt32)
  /-- A replay, or out of range. -/
  | invalid (counter : UInt32)
  deriving DecidableEq, Repr

/-- The full counter of the frame. -/
def CounterVerdict.counter : CounterVerdict → UInt32
  | accept c | reset c | resubmit c | invalid c => c

namespace Counter

/-- The least counter from `last` on whose low half is `incoming`. Past the last block of 65536 the
sum wraps around. A device that counts in sixteen bits sends its counter whole. -/
def resolve (last : UInt32) (incoming : UInt16) (wide : Bool) : UInt32 :=
  if wide then
    let candidate := (last &&& 0xFFFF0000) ||| incoming.toUInt32
    if candidate < last then candidate + 0x10000 else candidate
  else incoming.toUInt32

/-- Whether a restart that the operator asked for in generation `desired` may be honoured when
`reported` was the last generation honoured. -/
def generationAllowsReset : Option UInt32 → Option UInt32 → Bool
  | _, none => true
  | some desired, some reported => reported < desired
  | none, some _ => false

/-- A frame with the last counter: a repeat if it is confirmed, a replay otherwise. -/
def repeated (counter : UInt32) (confirmed : Bool) : CounterVerdict :=
  if confirmed then .resubmit counter else .invalid counter

/-- A frame may restart the count: it carries zero, or one when the count had gone past one. -/
def restarts (last : UInt32) (incoming : UInt16) : Bool :=
  incoming = 0 || (incoming = 1 && 1 < last)

/-- The verdict on a frame's counter. The frame that restarted the count, sent a second time, is a
repeat and no further restart. -/
def evaluate (state : CounterState) (incoming : UInt16) (confirmed : Bool) : CounterVerdict :=
  if state.uplinkSeen ∧ incoming.toUInt32 = state.last then repeated state.last confirmed
  else if state.resetAllowed ∧ restarts state.last incoming then .reset incoming.toUInt32
  else
    let counter := resolve state.last incoming state.wide
    if state.fresh ∧ counter = 0 then .accept 0
    else if counter = state.last then repeated counter confirmed
    else if counter < state.last ∨ state.maxGap < counter - state.last then .invalid counter
    else .accept counter

end Counter

end LoraNetwork
