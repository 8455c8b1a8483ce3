import LoraNetwork.Radio

/-!
# Receive windows

After each uplink a device listens twice. A downlink reaches a window only if enough time is left to
package it and hand it over, so every question about a window is arithmetic on the time that has
elapsed since the uplink arrived. Nothing here waits.
-/

namespace LoraNetwork

/-- One of the two windows after an uplink. -/
inductive ReceiveWindow where
  /-- The first window. -/
  | rx1
  /-- The second window. -/
  | rx2
  deriving DecidableEq, Repr

/-- Where an uplink stands relative to its windows. -/
inductive WindowState where
  /-- Both windows can be reached. -/
  | beforeRx1
  /-- Only the second window can be reached. -/
  | beforeRx2
  /-- Neither window can be reached. -/
  | missed
  deriving DecidableEq, Repr

/-- The windows of one uplink. -/
structure WindowTimer where
  /-- When the uplink came off the air. -/
  arrival : Instant
  /-- When the first window opens, from arrival. -/
  rx1Delay : Duration
  /-- When the second window opens, from arrival. -/
  rx2Delay : Duration
  /-- The time that packaging a downlink takes. -/
  processing : Duration
  /-- The least time worth spending on a look for a cloud message. -/
  cloudMinimum : Duration
  deriving DecidableEq, Repr

namespace WindowTimer

/-- When a window opens, from arrival. -/
def delay (timer : WindowTimer) : ReceiveWindow → Duration
  | .rx1 => timer.rx1Delay
  | .rx2 => timer.rx2Delay

/-- The time since arrival; none if the uplink is stamped later than the clock. -/
def elapsed (timer : WindowTimer) (now : Instant) : Duration := Instant.since now timer.arrival

/-- The time until a window opens; `none` once it has. -/
def remaining (timer : WindowTimer) (window : ReceiveWindow) (elapsed : Duration) :
    Option Duration :=
  if elapsed ≤ timer.delay window then some (timer.delay window - elapsed) else none

/-- A downlink packaged from now on still reaches the window. -/
def inTime (timer : WindowTimer) (window : ReceiveWindow) (elapsed : Duration) : Bool :=
  elapsed + timer.processing ≤ timer.delay window

/-- Which windows can still be reached. -/
def state (timer : WindowTimer) (elapsed : Duration) : WindowState :=
  if timer.inTime .rx1 elapsed then .beforeRx1
  else if timer.inTime .rx2 elapsed then .beforeRx2
  else .missed

/-- The window to send in. A preference of two forgoes the first window; every other preference
takes the first window that can be reached. -/
def choose (timer : WindowTimer) (preferred : UInt8) (elapsed : Duration) :
    Option ReceiveWindow :=
  if preferred ≠ 2 ∧ timer.inTime .rx1 elapsed then some .rx1
  else if timer.inTime .rx2 elapsed then some .rx2
  else none

/-- The windows that a preference allows. -/
def allowed (preferred : UInt8) : List ReceiveWindow :=
  if preferred = 2 then [.rx2] else [.rx1, .rx2]

/-- The time that a window leaves before packaging has to start. -/
def slack (timer : WindowTimer) (elapsed : Duration) (window : ReceiveWindow) : Option Duration :=
  match timer.remaining window elapsed with
  | none => none
  | some left => if timer.processing ≤ left then some (left - timer.processing) else none

/-- The time to spend on a look for a cloud message: the slack of the first allowed window that
leaves the least worth spending, and no time if none does. -/
def cloudBudget (timer : WindowTimer) (preferred : UInt8) (elapsed : Duration) : Duration :=
  (((allowed preferred).filterMap (timer.slack elapsed)).find? fun budget =>
    timer.cloudMinimum ≤ budget).getD 0

/-- The last instant at which a downlink for a window may be handed over. -/
def deadline (timer : WindowTimer) (window : ReceiveWindow) : Instant :=
  timer.arrival + ((timer.delay window - timer.processing : Nat) : Int)

end WindowTimer

end LoraNetwork
