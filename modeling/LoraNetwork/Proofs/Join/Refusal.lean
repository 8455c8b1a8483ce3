import LoraNetwork.Proofs.Join.Agreement

/-!
# Joins that are refused

A join can be refused at seven places. Most of them come before the new session is written, so that a
device which already has a session keeps it. Two come afterwards: the windows may have closed while
the store was writing, and the region may have no data rate for the window. The second could be told
from the request and what is known of the device, but is only looked at when the accept is put
together, and by then the new session has replaced the old one in the store and in the registry.
-/

namespace LoraNetwork

/-- The event leaves every session as it is: it is no write that the store took, and installs
nothing. -/
def Event.keepsSessions : Event joinInterface → Bool
  | ⟨.call (.persist ..), .ok _⟩ => false
  | ⟨.install _, _⟩ => false
  | _ => true

namespace JoinScene

variable {config : ServerConfig} {now : Instant} {task : TaskId}

/-- An event that leaves every session as it is changes neither the store nor the registry. -/
theorem next_of_keepsSessions {event : Event joinInterface} (h : event.keepsSessions = true)
    (scene : JoinScene) : scene.next config now task event = scene := by
  unfold next
  split
  · cases h
  · cases h
  · rfl

/-- Neither do several of them. -/
theorem along_of_keepsSessions {events : List (Event joinInterface)}
    (h : ∀ event ∈ events, event.keepsSessions = true) (scene : JoinScene) :
    scene.along config now task events = scene := by
  induction events with
  | nil => rfl
  | cons event rest ih =>
    have hfirst : scene.next config now task event = scene :=
      next_of_keepsSessions (h event List.mem_cons_self) scene
    have hrest := ih fun other hmem => h other (List.mem_cons_of_mem _ hmem)
    rw [along, List.foldl_cons, hfirst]
    exact hrest

end JoinScene

namespace JoinHandling

variable {net : Network} {uplink : JoinUplink} {info : JoinInfo} {failure : UplinkFailure}
variable {events : List (Event joinInterface)}

/-- The region has no part in whether a join is in order. -/
theorem reason_of_refusal (h : refusal net uplink.request info = some failure) :
    failure.reason ≠ .invalidFrame := by
  unfold refusal at h
  split at h
  · rw [← Option.some.inj h]
    decide
  · split at h
    · rw [← Option.some.inj h]
      decide
    · split at h
      · rw [← Option.some.inj h]
        decide
      · cases h

/-- A refused join leaves every session as it is, unless the windows have closed or there is no way
to answer it. -/
theorem Handled.keepsSessions (h : Handled net uplink events (.error failure))
    (hmissed : failure.reason ≠ .receiveWindowMissed) (hframe : failure.reason ≠ .invalidFrame) :
    ∀ event ∈ events, event.keepsSessions = true := by
  cases h with
  | unavailable | unknown | refused | late | unwritten => simp [Event.keepsSessions]
  | installed installed responded =>
    cases responded with
    | overtaken closed => exact absurd rfl hmissed
    | unplaced opened lacks => exact absurd rfl hframe

/-- A join that there is no way to answer is found out when its session is installed already, for
want of a data rate in the window that is chosen. -/
theorem Handled.unplaced (h : Handled net uplink events (.error failure))
    (hframe : failure.reason = .invalidFrame) :
    failure.stage = .processing ∧ ∃ info drawn later window,
      Installed net uplink info drawn later events ∧ chosen net uplink info later = some window ∧
        (regionOf net info).Lacks uplink.metadata info.listening window := by
  cases h with
  | unavailable | unknown | late | unwritten => cases hframe
  | refused refused => exact absurd hframe (reason_of_refusal refused)
  | installed installed responded =>
    cases responded with
    | overtaken closed => cases hframe
    | unplaced opened lacks => exact ⟨rfl, _, _, _, _, installed, opened, lacks⟩

/-- A join that fails for another reason than missed windows leaves the store and the registry as
they are, from any state of both, as long as there is a way to answer it. If there is none, because
the region lacks a data rate for the window that is chosen, the new session has taken the place of
any old one in both. -/
theorem unchanged_of_refused (h : (handle net uplink).Trace events (.error failure))
    (hmissed : failure.reason ≠ .receiveWindowMissed) :
    (failure.reason ≠ .invalidFrame → (∀ event ∈ events, event.keepsSessions = true) ∧
      ∀ (now : Instant) (task : TaskId) (scene : JoinScene),
        scene.along net.config now task events = scene) ∧
    (failure.reason = .invalidFrame → failure.stage = .processing ∧ ∃ info drawn later window,
      Installed net uplink info drawn later events ∧ chosen net uplink info later = some window ∧
      (regionOf net info).Lacks uplink.metadata info.listening window ∧
      ∀ (now : Instant) (task : TaskId) (scene : JoinScene),
        let eui := uplink.request.devEui
        let record := newRecord net uplink.request info drawn
        let after := scene.along net.config now task events
        after.store eui = (SessionDelta.full record).write eui (scene.store eui) ∧
          after.memory.deviceOf eui = some (.ofSession (Session.ofRecord net.config record))) := by
  have hhandled := trace_handle h
  constructor
  · intro hframe
    have hkeeps := hhandled.keepsSessions hmissed hframe
    exact ⟨hkeeps, fun now task scene => JoinScene.along_of_keepsSessions hkeeps scene⟩
  · intro hframe
    obtain ⟨hstage, info, drawn, later, window, hinstalled, hopened, hlacks⟩ :=
      hhandled.unplaced hframe
    refine ⟨hstage, info, drawn, later, window, hinstalled, hopened, hlacks, ?_⟩
    intro now task scene
    exact ⟨hinstalled.store_eq now task scene, hinstalled.deviceOf_eq now task scene⟩

end JoinHandling

/-! ## Two refused joins -/

namespace Sample

/-- The answers when the nonce of the request was used before. -/
def answersToReuse : (op : JoinOperation) → op.Answer
  | .call (.fetchJoinInfo _) => .ok (some { joinInfo with lastDevNonce := some 7 })
  | op => joinAnswers op

/-- The device asks to join with a modulation that its region does not use. -/
def strangeJoin : JoinUplink := { joinUplink with metadata := { dataRate := .sf8bw500 } }

/-- Store and registry while the device has a session. -/
def inSession : JoinScene :=
  JoinScene.next joinable.config 0 0 ⟨fun _ => some record, {}⟩ ⟨.install record, ()⟩

end Sample

namespace JoinHandling

/-- A join with a nonce that was used before leaves everything as it is. -/
theorem unchanged_of_reused_nonce :
    ∃ events, (handle Sample.joinable Sample.joinUplink).Trace events
        (.error ⟨.devNonceReused, .counterCheck⟩) ∧
      ∀ (now : Instant) (task : TaskId) (scene : JoinScene),
        scene.along Sample.joinable.config now task events = scene := by
  have htrace := Program.trace_follow Sample.answersToReuse
    (handle Sample.joinable Sample.joinUplink)
  have hresult : ((handle Sample.joinable Sample.joinUplink).follow Sample.answersToReuse).2 =
      .error ⟨.devNonceReused, .counterCheck⟩ := by decide +kernel
  rw [hresult] at htrace
  have hunchanged := (unchanged_of_refused htrace (by decide)).1 (by decide)
  exact ⟨_, htrace, hunchanged.2⟩

/-- A refused join may take the device its session. One that comes in with a strange modulation fails,
and both store and registry have a session with another address. -/
theorem exists_refused_join_that_replaces :
    Sample.inSession.store ⟨1⟩ = some Sample.record ∧
      Sample.inSession.memory.deviceOf ⟨1⟩ =
        some (.ofSession (Session.ofRecord Sample.joinable.config Sample.record)) ∧
      ∃ events, (handle Sample.joinable Sample.strangeJoin).Trace events
          (.error ⟨.invalidFrame, .processing⟩) ∧
        let after := Sample.inSession.along Sample.joinable.config 0 0 events
        ∃ record session, after.store ⟨1⟩ = some record ∧
          after.memory.deviceOf ⟨1⟩ = some (.ofSession session) ∧
          record.devAddr ≠ Sample.record.devAddr ∧ session.devAddr ≠ Sample.record.devAddr := by
  have htrace := Program.trace_follow Sample.joinAnswers (handle Sample.joinable Sample.strangeJoin)
  have hresult : ((handle Sample.joinable Sample.strangeJoin).follow Sample.joinAnswers).2 =
      .error ⟨.invalidFrame, .processing⟩ := by decide +kernel
  rw [hresult] at htrace
  obtain ⟨-, info, drawn, later, window, hinstalled, -, -⟩ := (trace_handle htrace).unplaced rfl
  have hstore := hinstalled.store_eq 0 0 Sample.inSession
  have hdevice := hinstalled.deviceOf_eq 0 0 Sample.inSession
  obtain ⟨record, hwrite, -, haddr, -⟩ := write_full
    (newRecord Sample.joinable Sample.strangeJoin.request info drawn) ⟨1⟩
    (Sample.inSession.store ⟨1⟩)
  have hmoved : addressIn Sample.joinable.config.netId drawn.address ≠ Sample.record.devAddr := by
    intro hsame
    have hpart := networkPart_addressIn Sample.joinable.config.netId drawn.address
    rw [hsame] at hpart
    revert hpart
    decide
  refine ⟨rfl, JoinScene.deviceOf_install Sample.joinable.config 0 0 _ Sample.record, _, htrace,
    record, _, hstore.trans hwrite, hdevice, ?_, hmoved⟩
  rw [haddr]
  exact hmoved

end JoinHandling

end LoraNetwork
