import LoraNetwork.Uplink.Answers

/-!
# Handling a data uplink

An uplink is examined first, without any trace if it is refused. A new frame, or one that restarts
the count, is then recorded and processed: its commands are answered, its payload is forwarded, and
a downlink is assembled if one is owed and a window can still be reached. A repeat of a confirmed
frame is answered with what was sent the first time. Whatever came of it, the session is written to
the store at the end if enough has changed.

The whole is a program over `dataInterface`, which takes the device as it was and gives it back as
it is afterwards, so that a run hangs on nothing but the answers it gets.
-/

namespace LoraNetwork

/-- A data frame as received. -/
structure DataUplink where
  /-- The frame. -/
  frame : DataFrame
  /-- What the radio reported. -/
  metadata : RadioMetadata
  /-- When it came off the air. -/
  arrival : Instant

/-- The end of an uplink that was processed: a downlink, none, or a reason for failure. -/
abbrev Processed : Type := Except FailureReason (Option Downlink)

namespace DataUplink

/-- The uplink asks for an acknowledgement. -/
def confirmed (uplink : DataUplink) : Bool := uplink.frame.type.isConfirmed

/-- The device sent its MAC commands on port 0. -/
def onPortZero (uplink : DataUplink) : Bool := uplink.frame.port = some 0

/-- The windows after the uplink. -/
def timer (net : Network) (uplink : DataUplink) (s : Session) : WindowTimer :=
  WindowTimer.ofData uplink.arrival s.timing net.config

/-- What an uplink turns out to be when it is examined. -/
structure Examined where
  /-- What its counter makes of it. -/
  verdict : CounterVerdict
  /-- The MAC commands it carries. -/
  commands : List MacCommand

/-- Examines an uplink: its owner, its integrity code, its data rate and its MAC commands, in that
order. Nothing has changed yet when it is refused here. -/
def examine (net : Network) (s : Session) (uplink : DataUplink) :
    Except FailureReason Examined :=
  if s.gatewayId.any fun owner => owner ≠ net.config.gatewayId then .error .belongsToAnotherGateway
  else
    let verdict := Counter.evaluate (s.counterState net.config.maxCounterGap)
      uplink.frame.header.counter uplink.confirmed
    if uplink.frame.verifies net.suite s.keys.network verdict.counter = false then
      .error .authenticationFailed
    else if (s.region.uplinkIndex uplink.metadata.dataRate).isNone then .error .invalidFrame
    else
      let bytes :=
        if uplink.onPortZero then uplink.frame.plaintext net.suite s.keys verdict.counter
        else uplink.frame.header.options
      match MacCommand.decode .up bytes with
      | .error _ => .error .malformedMacCommands
      | .ok commands => .ok ⟨verdict, commands⟩

end DataUplink

namespace DataHandling

/-- The end of an uplink whose windows are out of reach: a failure only if an acknowledgement is
owed. -/
def missed (confirmed : Bool) : Processed :=
  if confirmed then .error .receiveWindowMissed else .ok none

/-! ## Cloud messages -/

/-- What the queue had for a downlink. -/
structure CloudOffer where
  /-- The next message. -/
  message : Option CloudMessage
  /-- Another one waits behind it. -/
  more : Bool

/-- Settles a message, if there is one. A failure is ignored. -/
def settle (how : Settlement) (eui : Eui64) : Option CloudMessage → DataHandling Unit
  | none => pure ()
  | some message => do
    let _ ← call (.settle how eui message)
    pure ()

/-- The time left for a look at the queue. -/
def cloudBudget (timer : WindowTimer) (s : Session) : DataHandling Duration := do
  let now ← clock
  pure (timer.cloudBudget s.listening.preferredWindow (timer.elapsed now))

/-- Takes the next message from the queue, if there is time for it. -/
def fetchMessage (timer : WindowTimer) (s : Session) : DataHandling (Option CloudMessage) := do
  let budget ← cloudBudget timer s
  if budget = 0 then pure none
  else
    let answer ← race timer (.receive s.devEui budget)
    match answer with
    | some (.ok message) => pure message
    | _ => pure none

/-- Whether another message waits in the queue; it is put back at once. -/
def peekMore (timer : WindowTimer) (s : Session) : DataHandling Bool := do
  let budget ← cloudBudget timer s
  if budget = 0 then pure false
  else
    let answer ← race timer (.receive s.devEui 0)
    match answer with
    | some (.ok (some next)) => do
      settle .abandon s.devEui (some next)
      pure true
    | _ => pure false

/-- What the queue has for a downlink to a device that takes cloud messages. -/
def collect (timer : WindowTimer) (s : Session) : DataHandling CloudOffer :=
  if s.downlinkEnabled = false then pure ⟨none, false⟩
  else do
    let message ← fetchMessage timer s
    match message with
    | none => pure ⟨none, false⟩
    | some message => do
      let more ← peekMore timer s
      pure ⟨some message, more⟩

/-- A message that does not fit may wait for a later uplink only if it outlives this one. -/
def canRetry (timer : WindowTimer) (message : CloudMessage) : Bool :=
  match message.expiresAt with
  | none => true
  | some expiry => timer.arrival + (timer.rx2Delay : Int) < expiry

/-- What becomes of a message that is not carried. -/
def settlementFor (timer : WindowTimer) (message : CloudMessage) : CloudFit → Settlement
  | .fits => .complete
  | .blocked => .abandon
  | .reservedPort => .reject
  | .tooLarge => if canRetry timer message then .abandon else .reject

/-- Takes the offered message into the downlink, or settles it at once if it is not carried. -/
def load (timer : WindowTimer) (eui : Eui64) (builder : DownlinkBuilder) :
    Option CloudMessage → DataHandling (DownlinkBuilder × Option CloudMessage)
  | none => pure (builder, none)
  | some message =>
    match builder.fit message with
    | .fits => pure (builder.offer message, some message)
    | fit => do
      settle (settlementFor timer message fit) eui (some message)
      pure (builder, none)

/-! ## Downlink counters -/

/-- How a downlink counter was come by. -/
inductive Allocation where
  /-- The counter to use. -/
  | granted (fcntDown : UInt32)
  /-- Another gateway answers the uplink. -/
  | elsewhere
  /-- The store failed. -/
  | failed
  /-- The last window closed first. -/
  | late
  deriving DecidableEq, Repr

/-- Comes by the next downlink counter. A device that belongs to this gateway is counted here, and
at once; one that several gateways share is counted by the store. -/
def allocate (net : Network) (timer : WindowTimer) (s : Session) (fcntUp : UInt32) :
    DataHandling (Session × Allocation) :=
  if s.gatewayId.isSome then pure (s.issue, .granted s.progress.fcntDown)
  else do
    let answer ← race timer (.allocate s.devEui s.progress.fcntDown fcntUp net.config.gatewayId)
    match answer with
    | some (.ok (some fcntDown)) => pure (s.adopt fcntDown, .granted fcntDown)
    | some (.ok none) => pure (s, .elsewhere)
    | some (.error _) => pure (s, .failed)
    | none => pure (s, .late)

/-! ## The first answer -/

/-- The radio parameters of a window and the size limit at its data rate. -/
def place (s : Session) (uplink : DataUplink) (window : ReceiveWindow) :
    Option (WindowParams × Nat) :=
  match WindowParams.ofWindow s.region window uplink.metadata s.listening.rx1Offset
      s.listening.rx2DataRate with
  | none => none
  | some params => (s.region.maxPayload params.dataRateIndex).map fun limit => (params, limit)

/-- Keeps a downlink for repeats of a confirmed uplink. -/
def remember (s : Session) (confirmed : Bool) (fcntUp : UInt32) (sent : CachedDownlink) : Session :=
  if confirmed then { s with confirmation := some ⟨fcntUp, some sent, 0⟩ } else s

/-- Assembles the downlink for a window that was chosen and hands it over. -/
def send (net : Network) (timer : WindowTimer) (s : Session) (uplink : DataUplink)
    (fcntUp fcntDown : UInt32) (commands : List MacCommand) (offer : CloudOffer)
    (window : ReceiveWindow) (params : WindowParams) (limit : Nat) :
    DataHandling (Session × Processed) := do
  let empty := DownlinkBuilder.new limit uplink.onPortZero uplink.confirmed
    uplink.frame.header.control.adr
  let (builder, carried) ← load timer s.devEui (empty.addAll commands) offer.message
  let builder := builder.setPending (carried.isSome && offer.more)
  if builder.isEmpty && !uplink.confirmed then pure (s, .ok none)
  else
    match builder.build net.suite s.devAddr s.keys fcntDown with
    | .error _ => do
      settle .abandon s.devEui carried
      pure (s, .error .invalidFrame)
    | .ok payload => do
      settle .complete s.devEui carried
      pure
        (remember s uplink.confirmed fcntUp ⟨payload, fcntDown⟩,
          .ok (some
            (Downlink.inWindow payload timer window params uplink.metadata (some fcntDown))))

/-- Chooses the window for a downlink whose counter was granted. -/
def deliver (net : Network) (timer : WindowTimer) (s : Session) (uplink : DataUplink)
    (fcntUp fcntDown : UInt32) (commands : List MacCommand) (offer : CloudOffer) :
    DataHandling (Session × Processed) := do
  let now ← clock
  match timer.choose s.listening.preferredWindow (timer.elapsed now) with
  | none => do
    settle .abandon s.devEui offer.message
    pure (s, missed uplink.confirmed)
  | some window =>
    match place s uplink window with
    | none => do
      settle .abandon s.devEui offer.message
      pure (s, .error .invalidFrame)
    | some (params, limit) =>
      send net timer s uplink fcntUp fcntDown commands offer window params limit

/-- The first answer to an uplink. -/
def respond (net : Network) (timer : WindowTimer) (s : Session) (uplink : DataUplink)
    (fcntUp : UInt32) (commands : List MacCommand) : DataHandling (Session × Processed) := do
  let now ← clock
  if (timer.choose s.listening.preferredWindow (timer.elapsed now)).isNone then
    pure (s, missed uplink.confirmed)
  else
    let offer ← collect timer s
    if !uplink.confirmed && commands.isEmpty && offer.message.isNone then pure (s, .ok none)
    else
      let (s, allocation) ← allocate net timer s fcntUp
      match allocation with
      | .granted fcntDown => deliver net timer s uplink fcntUp fcntDown commands offer
      | .elsewhere => do
        settle .abandon s.devEui offer.message
        pure (s, .error .handledByAnotherGateway)
      | .failed => do
        settle .abandon s.devEui offer.message
        pure (s, .error .backendUnavailable)
      | .late => do
        settle .abandon s.devEui offer.message
        pure (s, missed uplink.confirmed)

/-- Forwards the payload of an uplink on a port of the application. A failure is ignored. -/
def forward (net : Network) (s : Session) (uplink : DataUplink) (fcntUp : UInt32) :
    DataHandling Unit :=
  match uplink.frame.port with
  | none => pure ()
  | some port =>
    if port = 0 then pure ()
    else do
      let _ ← call (.sendTelemetry
        { devEui := s.devEui
          devAddr := s.devAddr
          fcnt := fcntUp
          port := port
          payload := uplink.frame.plaintext net.suite s.keys fcntUp
          confirmed := uplink.confirmed
          metadata := uplink.metadata })
      pure ()

/-- Expects repeats of a confirmed uplink, before anything was sent for it. -/
def expectRepeats (s : Session) (confirmed : Bool) (fcntUp : UInt32) : Session :=
  if confirmed then { s with confirmation := some ⟨fcntUp, none, 0⟩ } else s

/-- Lets adaptive data rate learn from an uplink that takes part in it. -/
def adaptIfAsked (net : Network) (s : Session) (uplink : DataUplink) (fcntUp : UInt32) :
    Session × Option MacCommand :=
  if uplink.frame.header.control.adr then
    s.adapt net.config fcntUp uplink.metadata uplink.frame.header.control.adrAckReq
  else (s, none)

/-- Processes an uplink that was recorded. -/
def process (net : Network) (s : Session) (uplink : DataUplink) (fcntUp : UInt32)
    (requests : List MacCommand) : DataHandling (Session × Processed) := do
  let answers ← answersTo uplink.metadata requests
  let adapted := adaptIfAsked net s uplink fcntUp
  forward net adapted.1 uplink fcntUp
  let s := expectRepeats adapted.1 uplink.confirmed fcntUp
  respond net (uplink.timer net s) s uplink fcntUp (answers ++ adapted.2.toList)

/-! ## Repeats -/

/-- The answer kept for an uplink with a counter, with one more repeat counted. What was kept for
another counter is forgotten. -/
def countRepeat (s : Session) (fcntUp : UInt32) : Confirmation :=
  match s.confirmation with
  | some kept =>
    if kept.fcntUp = fcntUp then { kept with resubmits := kept.resubmits + 1 }
    else ⟨fcntUp, none, 1⟩
  | none => ⟨fcntUp, none, 1⟩

/-- Acknowledges a repeat of an uplink for which nothing was sent the first time. -/
def acknowledge (net : Network) (timer : WindowTimer) (s : Session) (uplink : DataUplink)
    (fcntUp : UInt32) (kept : Confirmation) (window : ReceiveWindow) (params : WindowParams) :
    DataHandling (Session × Processed) := do
  let (s, allocation) ← allocate net timer s fcntUp
  match allocation with
  | .elsewhere => pure (s, .error .handledByAnotherGateway)
  | .failed => pure (s, .error .backendUnavailable)
  | .late => pure (s, .error .receiveWindowMissed)
  | .granted fcntDown =>
    match s.region.maxPayload params.dataRateIndex with
    | none => pure (s, .error .invalidFrame)
    | some limit =>
      match (DownlinkBuilder.new limit false true uplink.frame.header.control.adr).build net.suite
          s.devAddr s.keys fcntDown with
      | .error _ => pure (s, .error .invalidFrame)
      | .ok payload =>
        pure
          ({ s with confirmation := some { kept with downlink := some ⟨payload, fcntDown⟩ } },
            .ok (some
              (Downlink.inWindow payload timer window params uplink.metadata (some fcntDown))))

/-- Answers a repeat of a confirmed uplink with the downlink that was sent the first time. -/
def resubmit (net : Network) (s : Session) (uplink : DataUplink) (fcntUp : UInt32) :
    DataHandling (Session × Processed) :=
  let kept := countRepeat s fcntUp
  let s := { s with confirmation := some kept }
  if net.config.maxResubmits < kept.resubmits then
    pure (s, .error .resubmitThresholdExceeded)
  else do
    let timer := uplink.timer net s
    let now ← clock
    match timer.choose s.listening.preferredWindow (timer.elapsed now) with
    | none => pure (s, .error .receiveWindowMissed)
    | some window =>
      match WindowParams.ofWindow s.region window uplink.metadata s.listening.rx1Offset
          s.listening.rx2DataRate with
      | none => pure (s, .error .invalidFrame)
      | some params =>
        match kept.downlink with
        | some sent =>
          pure (s, .ok (some
            (Downlink.inWindow sent.payload timer window params uplink.metadata
              (some sent.fcntDown))))
        | none => acknowledge net timer s uplink fcntUp kept window params

/-! ## Restarts of the count -/

/-- What a restart writes: every change, and both counters and their starts in any case. -/
def restartDelta (s : Session) : SessionDelta :=
  { s.delta with
    fcntUp := some s.progress.fcntUp
    fcntDown := some s.progress.fcntDown
    fcntUpStart := some s.progress.fcntUpStart
    fcntDownStart := some s.progress.fcntDownStart }

/-- Honours a restart of the count. It has to reach the store before anything else happens; `none`
if it does not. The allocation of counters for a shared device starts anew as well. -/
def restart (net : Network) (s : Session) (counter : UInt32) : DataHandling (Option Session) := do
  let restarted := s.restart counter
  let delta := restartDelta restarted
  let answer ← call (.persist s.devEui delta)
  match answer with
  | .error _ => pure none
  | .ok () =>
    let saved := restarted.written delta
    if saved.gatewayId.isSome then pure (some saved)
    else do
      let _ ← call (.resetAllocation saved.devEui saved.progress.resetReported net.config.gatewayId)
      pure (some saved)

/-! ## The whole -/

/-- Writes what has changed, if that is forced or a counter has moved far enough. After a failure
the changes wait for the next time. -/
def persist (net : Network) (s : Session) (forced : Bool) : DataHandling Session :=
  if !forced && !s.reaches net.config.saveDelta then pure s
  else
    let delta := s.delta
    if delta.isEmpty then pure s
    else do
      let answer ← call (.persist s.devEui delta)
      match answer with
      | .ok () => pure (s.written delta)
      | .error _ => pure s

/-- What has to be written whatever the counters say: a downlink counter that was allocated
elsewhere, and a reset that the store does not know of yet. -/
def mustPersist (before after : Session) : Bool :=
  (after.progress.fcntDown ≠ before.progress.fcntDown && after.gatewayId.isNone) ||
    after.delta.resetReported.isSome

/-- Ends the handling of an uplink that was processed: writes the session and gives the device
back. -/
def conclude (net : Network) (before : Session) (device : Device) (result : Session × Processed) :
    DataHandling (Device × Except UplinkFailure (Option Downlink)) := do
  let s ← persist net result.1 (mustPersist before result.1)
  pure ({ device with session := s }, result.2.mapError fun reason => ⟨reason, .processing⟩)

/-- Announces the counter of a session that recorded an uplink, processes the uplink and ends its
handling. -/
def carryOut (net : Network) (device : Device) (recorded : Session) (uplink : DataUplink)
    (counter : UInt32) (requests : List MacCommand) :
    DataHandling (Device × Except UplinkFailure (Option Downlink)) := do
  announce counter
  let result ← process net recorded uplink counter requests
  conclude net device.session { device with announced := counter } result

/-- Handles a data uplink of a device. -/
def handle (net : Network) (device : Device) (uplink : DataUplink) :
    DataHandling (Device × Except UplinkFailure (Option Downlink)) :=
  match uplink.examine net device.session with
  | .error reason => pure (device, .error ⟨reason, .authenticating⟩)
  | .ok ⟨verdict, requests⟩ =>
    match verdict with
    | .invalid _ => pure (device, .error ⟨.invalidFrameCounter, .counterCheck⟩)
    | .resubmit counter => do
      let result ← resubmit net device.session uplink counter
      conclude net device.session device result
    | .reset counter => do
      let restarted ← restart net device.session counter
      match restarted with
      | none => pure (device, .error ⟨.backendUnavailable, .counterCheck⟩)
      | some recorded => carryOut net device recorded uplink counter requests
    | .accept counter =>
      carryOut net device (device.session.accept counter) uplink counter requests

end DataHandling

end LoraNetwork
