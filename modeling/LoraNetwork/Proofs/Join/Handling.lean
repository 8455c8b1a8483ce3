import Mathlib.Logic.Function.Basic
import LoraNetwork.Proofs.Downlink.Placing
import LoraNetwork.Proofs.Loader.Stage
import LoraNetwork.Registry.Upkeep
import LoraNetwork.Uplink.Join

/-!
# What a join leaves behind

A join that was answered did six things: it asked for the device, looked at the clock, drew what is
random, wrote the new session, installed it and looked at the clock again. Writing it changes the
store, installing it the registry's memory; here a join is followed on both, from any state of
either. Afterwards the index leads to the new session, whatever was known of the device before.
-/

namespace LoraNetwork

/-! ## Installing a session -/

namespace Memory

variable {config : ServerConfig} {now : Instant} {task : TaskId} {m : Memory} {α β : Type}

/-- The device in the slot that the index leads to. -/
def deviceOf (m : Memory) (eui : Eui64) : Option Device :=
  (m.index.get? eui).bind fun entry => m.slots[entry.value.slot]?.map Slot.device

/-- Programs in a row run one after the other. -/
theorem runAlone_bind (p : Upkeep α) (f : α → Upkeep β) :
    runAlone config now task (p.bind f) m =
      (runAlone config now task p m).bind fun result =>
        runAlone config now task (f result.1) result.2 := by
  induction p generalizing m with
  | done value => rfl
  | perform op next ih =>
    simp only [Program.perform_bind, runAlone]
    cases m.perform config now task op with
    | none => rfl
    | some result => exact ih result.1

/-- A single step is run by the memory. -/
theorem runAlone_step (op : MemoryOperation) :
    runAlone config now task (Upkeep.step op) m = m.perform config now task op := by
  simp only [Upkeep.step, Program.ask, runAlone]
  cases m.perform config now task op <;> rfl

/-- A program of plain steps never waits. -/
theorem runAlone_of_plain {p : Upkeep α} (h : p.Obeys MemoryOperation.Plain fun _ => True)
    (config : ServerConfig) (now : Instant) (task : TaskId) (m : Memory) :
    ∃ value after, runAlone config now task p m = some (value, after) := by
  induction p generalizing m with
  | done value => exact ⟨value, m, rfl⟩
  | perform op next ih =>
    obtain ⟨hplain, hnext⟩ := Program.obeys_perform.mp h
    obtain ⟨answer, m', hop⟩ : ∃ answer m', m.perform config now task op = some (answer, m') := by
      cases op <;> first | exact ⟨_, _, rfl⟩ | cases hplain
    obtain ⟨value, after, hafter⟩ := ih answer (hnext answer) m'
    refine ⟨value, after, ?_⟩
    rw [runAlone, hop]
    exact hafter

/-- Entering a session never waits, and the index leads to it afterwards. -/
theorem runAlone_enter (config : ServerConfig) (now : Instant) (task : TaskId) (m : Memory)
    (session : Session) :
    ∃ handle after, runAlone config now task (Upkeep.enter session) m = some (handle, after) ∧
      after.deviceOf session.devEui = some (.ofSession session) := by
  let handle : DeviceHandle := ⟨m.slots.length, DeviceCard.ofSession session⟩
  let entered : Memory :=
    { m with
      slots := m.slots ++ [{ device := Device.ofSession session }]
      index := m.index.set session.devEui ⟨handle, now⟩ }
  have hdevice : entered.deviceOf session.devEui = some (.ofSession session) := by
    simp [deviceOf, entered, handle, Table.get?_set]
  have hslot : m.perform config now task (.newSlot session) =
      some (handle, { m with slots := entered.slots }) := rfl
  have hstore : perform config now task { m with slots := entered.slots }
      (.storeSession session.devEui handle) = some ((), entered) := rfl
  have hentry : entered.perform config now task (.lookUpAddress session.devAddr) =
      some (entered.addressEntry config now session.devAddr, entered) := rfl
  rw [Upkeep.enter, Program.bind_eq_bind, runAlone_bind, runAlone_step, hslot, Option.bind_some,
    Program.bind_eq_bind, runAlone_bind, runAlone_step, hstore, Option.bind_some,
    Program.bind_eq_bind, runAlone_bind, runAlone_step, hentry, Option.bind_some]
  cases entered.addressEntry config now session.devAddr with
  | none => exact ⟨handle, entered, rfl, hdevice⟩
  | some handles => exact ⟨handle, _, rfl, hdevice⟩

/-- Installing a session never waits, and the index leads to it afterwards. -/
theorem runAlone_install (config : ServerConfig) (now : Instant) (task : TaskId) (m : Memory)
    (session : Session) :
    ∃ handle after, runAlone config now task (Upkeep.install session) m = some (handle, after) ∧
      after.deviceOf session.devEui = some (.ofSession session) := by
  let read := (m.readIndex config now session.devEui).2
  have hread : m.perform config now task (.lookUpSession session.devEui) =
      some ((m.readIndex config now session.devEui).1, read) := rfl
  have hplain : ∀ previous : Option DeviceHandle,
      (previous.elim (pure ()) fun handle =>
        Upkeep.removeFromAddress handle.card.devAddr session.devEui).Obeys
          MemoryOperation.Plain fun _ => True := by
    intro previous
    cases previous with
    | none => trivial
    | some handle => exact Service.removeFromAddress_plain
  obtain ⟨⟨⟩, removed, hremoved⟩ := runAlone_of_plain
    (hplain (m.readIndex config now session.devEui).1) config now task read
  obtain ⟨handle, after, hafter, hdevice⟩ := runAlone_enter config now task removed session
  refine ⟨handle, after, ?_, hdevice⟩
  rw [Upkeep.install_eq, runAlone_bind, runAlone_step, hread, Option.bind_some, runAlone_bind,
    hremoved]
  exact hafter

end Memory

/-! ## Store and registry during a join -/

/-- What a join changes: the store, and the registry's memory. -/
structure JoinScene where
  /-- The stored sessions. -/
  store : Eui64 → Option SessionRecord
  /-- The registry's memory. -/
  memory : Memory

namespace JoinScene

/-- What an event of a join changes, if nobody else steps in between. A write that the store took
changes the record of its device; a new session is installed at a given instant on behalf of a
given task. -/
def next (config : ServerConfig) (now : Instant) (task : TaskId) (scene : JoinScene)
    (event : Event joinInterface) : JoinScene :=
  match event with
  | ⟨.call (.persist eui delta), .ok ()⟩ =>
    { scene with store := Function.update scene.store eui (delta.write eui (scene.store eui)) }
  | ⟨.install record, ()⟩ =>
    match Memory.runAlone config now task (Upkeep.install (Session.ofRecord config record))
        scene.memory with
    | some (_, after) => { scene with memory := after }
    | none => scene
  | _ => scene

/-- What a join leaves behind. -/
def along (config : ServerConfig) (now : Instant) (task : TaskId) (scene : JoinScene)
    (events : List (Event joinInterface)) : JoinScene :=
  events.foldl (next config now task) scene

/-- A session that is installed is the one that the index leads to. -/
theorem deviceOf_install (config : ServerConfig) (now : Instant) (task : TaskId)
    (scene : JoinScene) (record : SessionRecord) :
    (scene.next config now task ⟨.install record, ()⟩).memory.deviceOf record.devEui =
      some (.ofSession (Session.ofRecord config record)) := by
  obtain ⟨handle, after, hrun, hdevice⟩ := Memory.runAlone_install config now task scene.memory
    (Session.ofRecord config record)
  simp only [next, hrun]
  exact hdevice

end JoinScene

namespace JoinHandling

open Program

variable {net : Network} {uplink : JoinUplink} {info : JoinInfo}
variable {events : List (Event joinInterface)} {downlink : Downlink}
variable {result : Except UplinkFailure Downlink}

/-- The window that is chosen for a join by a reading of the clock. -/
def chosen (net : Network) (uplink : JoinUplink) (info : JoinInfo) (now : Instant) :
    Option ReceiveWindow :=
  (timer net uplink info).choose info.listening.preferredWindow
    ((timer net uplink info).elapsed now)

/-- The region that a joined session is in. -/
def regionOf (net : Network) (info : JoinInfo) : Region :=
  info.region.getD net.config.defaultRegion

/-- A join that was in order wrote the new session, installed it and looked at the clock again. -/
structure Installed (net : Network) (uplink : JoinUplink) (info : JoinInfo) (drawn : JoinDraw)
    (later : Instant) (events : List (Event joinInterface)) : Prop where
  /-- It was in order. -/
  inOrder : refusal net uplink.request info = none
  /-- It went through all its steps. -/
  events : ∃ before : Instant, events =
    [⟨.call (.fetchJoinInfo uplink.request.devEui), .ok (some info)⟩, ⟨.clock, before⟩,
      ⟨.draw, drawn⟩,
      ⟨.call (.persist uplink.request.devEui
        (SessionDelta.full (newRecord net uplink.request info drawn))), .ok ()⟩,
      ⟨.install (newRecord net uplink.request info drawn), ()⟩, ⟨.clock, later⟩]

/-- How a join ends whose session was installed. -/
inductive Responded (net : Network) (uplink : JoinUplink) (info : JoinInfo) (drawn : JoinDraw)
    (later : Instant) : Except UplinkFailure Downlink → Prop where
  /-- Meanwhile both windows have closed. -/
  | overtaken (closed : chosen net uplink info later = none) :
    Responded net uplink info drawn later (.error ⟨.receiveWindowMissed, .processing⟩)
  /-- The region has no data rate for the window that is chosen. -/
  | unplaced {window : ReceiveWindow} (opened : chosen net uplink info later = some window)
      (lacks : (regionOf net info).Lacks uplink.metadata info.listening window) :
    Responded net uplink info drawn later (.error ⟨.invalidFrame, .processing⟩)
  /-- The accept goes out in the window that is chosen. -/
  | sent {window : ReceiveWindow} {params : WindowParams}
      (opened : chosen net uplink info later = some window)
      (placed : WindowParams.ofWindow (regionOf net info) window uplink.metadata
        info.listening.rx1Offset info.listening.rx2DataRate = some params) :
    Responded net uplink info drawn later (.ok (Downlink.inWindow
      ((acceptFor net info (regionOf net info) drawn
        (newRecord net uplink.request info drawn)).encode net.suite info.appKey)
      (timer net uplink info) window params uplink.metadata none))

/-- What a join did, and how it ended. -/
inductive Handled (net : Network) (uplink : JoinUplink) :
    List (Event joinInterface) → Except UplinkFailure Downlink → Prop where
  /-- The device store does not answer. -/
  | unavailable (error : StoreError) : Handled net uplink
      [⟨.call (.fetchJoinInfo uplink.request.devEui), .error error⟩]
      (.error ⟨.backendUnavailable, .authenticating⟩)
  /-- Nobody knows the device. -/
  | unknown : Handled net uplink [⟨.call (.fetchJoinInfo uplink.request.devEui), .ok none⟩]
      (.error ⟨.unknownDevice, .authenticating⟩)
  /-- The join is not in order. -/
  | refused {info : JoinInfo} {failure : UplinkFailure}
      (refused : refusal net uplink.request info = some failure) : Handled net uplink
      [⟨.call (.fetchJoinInfo uplink.request.devEui), .ok (some info)⟩] (.error failure)
  /-- Both windows have closed before anything was done. -/
  | late {info : JoinInfo} {now : Instant} (closed : chosen net uplink info now = none) :
    Handled net uplink
      [⟨.call (.fetchJoinInfo uplink.request.devEui), .ok (some info)⟩, ⟨.clock, now⟩]
      (.error ⟨.receiveWindowMissed, .processing⟩)
  /-- The store does not take the new session. -/
  | unwritten {info : JoinInfo} {now : Instant} {drawn : JoinDraw} {error : StoreError} :
    Handled net uplink
      [⟨.call (.fetchJoinInfo uplink.request.devEui), .ok (some info)⟩, ⟨.clock, now⟩,
        ⟨.draw, drawn⟩,
        ⟨.call (.persist uplink.request.devEui
          (SessionDelta.full (newRecord net uplink.request info drawn))), .error error⟩]
      (.error ⟨.backendUnavailable, .processing⟩)
  /-- The new session was written and installed. -/
  | installed {info : JoinInfo} {drawn : JoinDraw} {later : Instant}
      {events : List (Event joinInterface)} {result : Except UplinkFailure Downlink}
      (installed : Installed net uplink info drawn later events)
      (responded : Responded net uplink info drawn later result) : Handled net uplink events result

/-- A session that was installed is answered by a second reading of the clock. -/
theorem responded_of_trace {drawn : JoinDraw}
    (h : (respond net uplink info drawn (newRecord net uplink.request info drawn)).Trace events
      result) :
    ∃ later : Instant, events = [⟨.clock, later⟩] ∧ Responded net uplink info drawn later result := by
  obtain ⟨later, rest, rfl, hrest⟩ := trace_perform.mp h
  dsimp only [done_bind] at hrest
  split at hrest
  · rename_i hclosed
    obtain ⟨rfl, rfl⟩ := trace_done.mp hrest
    exact ⟨later, rfl, .overtaken hclosed⟩
  · rename_i window hopened
    split at hrest
    · rename_i hlacks
      obtain ⟨rfl, rfl⟩ := trace_done.mp hrest
      exact ⟨later, rfl, .unplaced hopened (WindowParams.ofWindow_eq_none_iff.mp hlacks)⟩
    · rename_i params hplaced
      obtain ⟨rfl, rfl⟩ := trace_done.mp hrest
      exact ⟨later, rfl, .sent hopened hplaced⟩

/-- What a join in order does once its device is known. -/
theorem handled_of_create (hinOrder : refusal net uplink.request info = none)
    (h : (create net uplink info).Trace events result) :
    Handled net uplink
      (⟨.call (.fetchJoinInfo uplink.request.devEui), .ok (some info)⟩ :: events) result := by
  obtain ⟨before, rest, rfl, hrest⟩ := trace_perform.mp h
  dsimp only [done_bind] at hrest
  split at hrest
  · rename_i hclosed
    obtain ⟨rfl, rfl⟩ := trace_done.mp hrest
    exact .late (Option.isNone_iff_eq_none.mp hclosed)
  · obtain ⟨drawn, afterDraw, rfl, hdrawn⟩ := trace_perform.mp hrest
    obtain ⟨written, afterWrite, rfl, hwritten⟩ := trace_perform.mp hdrawn
    cases written with
    | error failure =>
      obtain ⟨rfl, rfl⟩ := trace_done.mp hwritten
      exact .unwritten
    | ok done =>
      obtain ⟨installed, afterInstall, rfl, hinstalled⟩ := trace_perform.mp hwritten
      obtain ⟨later, rfl, hresponded⟩ := responded_of_trace hinstalled
      exact .installed ⟨hinOrder, before, rfl⟩ hresponded

/-- Every join ends in one of these ways. -/
theorem trace_handle (h : (handle net uplink).Trace events result) :
    Handled net uplink events result := by
  obtain ⟨answer, rest, rfl, hrest⟩ := trace_perform.mp h
  match answer, hrest with
  | .error error, hrest =>
    obtain ⟨rfl, rfl⟩ := trace_done.mp hrest
    exact .unavailable error
  | .ok none, hrest =>
    obtain ⟨rfl, rfl⟩ := trace_done.mp hrest
    exact .unknown
  | .ok (some info), hrest =>
    dsimp only [done_bind] at hrest
    split at hrest
    · rename_i failure hrefused
      obtain ⟨rfl, rfl⟩ := trace_done.mp hrest
      exact .refused hrefused
    · rename_i hinOrder
      exact handled_of_create hinOrder hrest

namespace Installed

variable {drawn : JoinDraw} {later : Instant}
variable (h : Installed net uplink info drawn later events)
include h

/-- What the device store said of the device is what the join went by. -/
theorem info_eq {other : JoinInfo}
    (hmem : (⟨.call (.fetchJoinInfo uplink.request.devEui), .ok (some other)⟩ :
      Event joinInterface) ∈ events) : other = info := by
  obtain ⟨before, rfl⟩ := h.events
  simpa using hmem

/-- Afterwards the store holds what the delta of the new session makes of the old record. -/
theorem store_eq (now : Instant) (task : TaskId) (scene : JoinScene) :
    (scene.along net.config now task events).store uplink.request.devEui =
      (SessionDelta.full (newRecord net uplink.request info drawn)).write uplink.request.devEui
        (scene.store uplink.request.devEui) := by
  obtain ⟨before, rfl⟩ := h.events
  simp only [JoinScene.along, List.foldl_cons, List.foldl_nil, JoinScene.next]
  split <;> exact Function.update_self ..

/-- Afterwards the index of the registry leads to the new session. -/
theorem deviceOf_eq (now : Instant) (task : TaskId) (scene : JoinScene) :
    (scene.along net.config now task events).memory.deviceOf uplink.request.devEui =
      some (.ofSession
        (Session.ofRecord net.config (newRecord net uplink.request info drawn))) := by
  obtain ⟨before, rfl⟩ := h.events
  exact JoinScene.deviceOf_install net.config now task _ (newRecord net uplink.request info drawn)

end Installed

/-- A join that is answered has its session installed, and the accept goes out in a window for which
the region has parameters. -/
theorem sent_of_trace (h : (handle net uplink).Trace events (.ok downlink)) :
    ∃ info drawn later params, Installed net uplink info drawn later events ∧
      WindowParams.ofWindow (regionOf net info) downlink.window uplink.metadata
        info.listening.rx1Offset info.listening.rx2DataRate = some params ∧
      downlink.payload = (acceptFor net info (regionOf net info) drawn
        (newRecord net uplink.request info drawn)).encode net.suite info.appKey := by
  cases trace_handle h with
  | installed installed responded =>
    cases responded with
    | sent opened placed => exact ⟨_, _, _, _, installed, placed, rfl⟩

/-- What a join did that was answered. -/
structure Answered (net : Network) (uplink : JoinUplink) (info : JoinInfo) (drawn : JoinDraw)
    (events : List (Event joinInterface)) (downlink : Downlink) : Prop where
  /-- It was in order. -/
  inOrder : refusal net uplink.request info = none
  /-- It wrote the new session, and then installed it. -/
  events : ∃ before later : Instant, events =
    [⟨.call (.fetchJoinInfo uplink.request.devEui), .ok (some info)⟩, ⟨.clock, before⟩,
      ⟨.draw, drawn⟩,
      ⟨.call (.persist uplink.request.devEui
        (SessionDelta.full (newRecord net uplink.request info drawn))), .ok ()⟩,
      ⟨.install (newRecord net uplink.request info drawn), ()⟩, ⟨.clock, later⟩]
  /-- It answered with an accept for the new session. -/
  payload : ∃ region, downlink.payload =
    (acceptFor net info region drawn (newRecord net uplink.request info drawn)).encode net.suite
      info.appKey

/-- A join that is answered was found in order and goes through all its steps. -/
theorem answered_of_trace (h : (handle net uplink).Trace events (.ok downlink)) :
    ∃ info drawn, Answered net uplink info drawn events downlink := by
  obtain ⟨info, drawn, later, params, hinstalled, -, hpayload⟩ := sent_of_trace h
  obtain ⟨before, hevents⟩ := hinstalled.events
  exact ⟨info, drawn, hinstalled.inOrder, ⟨before, later, hevents⟩, _, hpayload⟩

namespace Answered

variable {drawn : JoinDraw} (h : Answered net uplink info drawn events downlink)
include h

/-- A join that is answered has its session installed. -/
theorem installed : ∃ later, Installed net uplink info drawn later events := by
  obtain ⟨before, later, hevents⟩ := h.events
  exact ⟨later, h.inOrder, before, hevents⟩

/-- What the device store said of the device is what the join went by. -/
theorem info_eq {other : JoinInfo}
    (hmem : (⟨.call (.fetchJoinInfo uplink.request.devEui), .ok (some other)⟩ :
      Event joinInterface) ∈ events) : other = info := by
  obtain ⟨later, hinstalled⟩ := h.installed
  exact hinstalled.info_eq hmem

/-- Afterwards the store holds what the delta of the new session makes of the old record. -/
theorem store_eq (now : Instant) (task : TaskId) (scene : JoinScene) :
    (scene.along net.config now task events).store uplink.request.devEui =
      (SessionDelta.full (newRecord net uplink.request info drawn)).write uplink.request.devEui
        (scene.store uplink.request.devEui) := by
  obtain ⟨later, hinstalled⟩ := h.installed
  exact hinstalled.store_eq now task scene

/-- Afterwards the index of the registry leads to the new session. -/
theorem deviceOf_eq (now : Instant) (task : TaskId) (scene : JoinScene) :
    (scene.along net.config now task events).memory.deviceOf uplink.request.devEui =
      some (.ofSession
        (Session.ofRecord net.config (newRecord net uplink.request info drawn))) := by
  obtain ⟨later, hinstalled⟩ := h.installed
  exact hinstalled.deviceOf_eq now task scene

end Answered

end JoinHandling

end LoraNetwork
