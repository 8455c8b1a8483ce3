import LoraNetwork.Proofs.Downlink.Assembly
import LoraNetwork.Proofs.Downlink.Commands
import LoraNetwork.Proofs.Uplink.Account

/-!
# What becomes of a command

A command of the network is put behind the answers to a device's requests and goes out with the
downlink that answers the uplink. It may find no room there; and there may be no downlink, because
the windows have closed, because the region has no data rate for the window, or because the store
gave no counter. There is no other way to lose it: what was put together is always written. Each
function on the way has one lemma about its traces that says so.
-/

namespace LoraNetwork

open DataHandling

/-- The store was asked for a downlink counter and gave none in time. -/
def Event.DeniesCounter : Event dataInterface → Prop
  | ⟨.race (.allocate ..) _, answer⟩ => ∀ n, answer ≠ some (.ok (some n))
  | _ => False

/-- What becomes of a command that is put behind the answers to a device's requests, given the events
on the way and the downlink that is returned. -/
inductive Fate (net : Network) (s : Session) (uplink : DataUplink)
    (events : List (Event dataInterface)) (answers : List MacCommand) (command : MacCommand) :
    Option Downlink → Prop where
  /-- The device finds it in the downlink. -/
  | told {downlink : Downlink} {n : UInt32} {frame : DataFrame}
      (counter : downlink.fcntDown = some n)
      (parsed : DataFrame.parse downlink.payload = .ok frame)
      (holds : frame.Holds net.suite s.keys n command) :
      Fate net s uplink events answers command (some downlink)
  /-- The answers leave no room for it in the window that was chosen. -/
  | crowded {out : Option Downlink} {now : Instant} {window : ReceiveWindow}
      {params : WindowParams} {limit : Nat} (read : ⟨.clock, now⟩ ∈ events)
      (chosen : (uplink.timer net s).choose s.listening.preferredWindow
        ((uplink.timer net s).elapsed now) = some window)
      (placed : place s uplink window = some (params, limit))
      (full : (filled uplink limit answers).hasRoomFor command = false)
      (sent : ∀ downlink ∈ out, downlink.window = window ∧
        downlink.dataRateIndex = params.dataRateIndex) :
      Fate net s uplink events answers command out
  /-- The windows have closed. -/
  | missed {now : Instant} (read : ⟨.clock, now⟩ ∈ events)
      (closed : (uplink.timer net s).choose s.listening.preferredWindow
        ((uplink.timer net s).elapsed now) = none) :
      Fate net s uplink events answers command none
  /-- The region has no data rate for the window that was chosen. -/
  | unplaced {now : Instant} {window : ReceiveWindow} (read : ⟨.clock, now⟩ ∈ events)
      (chosen : (uplink.timer net s).choose s.listening.preferredWindow
        ((uplink.timer net s).elapsed now) = some window)
      (nowhere : place s uplink window = none) :
      Fate net s uplink events answers command none
  /-- There is no counter for a downlink. -/
  | uncounted {event : Event dataInterface} (asked : event ∈ events)
      (denied : event.DeniesCounter) : Fate net s uplink events answers command none

namespace Fate

variable {net : Network} {s after : Session} {uplink : DataUplink}
variable {events more : List (Event dataInterface)} {answers : List MacCommand}
variable {command : MacCommand} {out : Option Downlink}

/-- Only the profile of the session counts. -/
theorem of_sameProfile (h : Fate net after uplink events answers command out)
    (hprofile : s.SameProfile after) : Fate net s uplink events answers command out := by
  unfold Session.SameProfile at hprofile
  rw [hprofile] at h
  cases h with
  | told counter parsed holds => exact .told counter parsed holds
  | crowded read chosen placed full sent => exact .crowded read chosen placed full sent
  | missed read closed => exact .missed read closed
  | unplaced read chosen nowhere => exact .unplaced read chosen nowhere
  | uncounted asked denied => exact .uncounted asked denied

/-- Other events on the way do not matter. -/
theorem mono (h : Fate net s uplink events answers command out)
    (hsub : ∀ event ∈ events, event ∈ more) : Fate net s uplink more answers command out := by
  cases h with
  | told counter parsed holds => exact .told counter parsed holds
  | crowded read chosen placed full sent => exact .crowded (hsub _ read) chosen placed full sent
  | missed read closed => exact .missed (hsub _ read) closed
  | unplaced read chosen nowhere => exact .unplaced (hsub _ read) chosen nowhere
  | uncounted asked denied => exact .uncounted (hsub _ asked) denied

end Fate

/-! ## The way of a command -/

namespace DataHandling

variable {net : Network} {timer : WindowTimer} {s : Session} {uplink : DataUplink}
variable {fcntUp n : UInt32} {requests answers : List MacCommand} {command : MacCommand}
variable {events : List (Event dataInterface)} {result : Session × Processed}
variable {offer : CloudOffer}

open Program

/-- The network answers in its own direction. -/
theorem answersTo_down (metadata : RadioMetadata) (requests : List MacCommand) :
    (answersTo metadata requests).Obeys (· = DataOperation.wallClock)
      fun answers => ∀ c ∈ answers, c.direction = .down := by
  induction requests with
  | nil => simp [answersTo]
  | cons request rest ih =>
    cases request
    case linkCheckReq =>
      refine obeys_bind.mpr (ih.mono (fun _ h => h) fun others hothers => ?_)
      exact List.forall_mem_cons.mpr ⟨rfl, hothers⟩
    case deviceTimeReq =>
      refine obeys_bind.mpr (obeys_wallClock.mpr ⟨rfl, fun now => ?_⟩)
      refine obeys_bind.mpr (ih.mono (fun _ h => h) fun others hothers => ?_)
      have hanswer : (GpsTime.answer now).direction = .down := by
        unfold GpsTime.answer
        split <;> rfl
      exact List.forall_mem_cons.mpr ⟨hanswer, hothers⟩
    all_goals exact ih

/-- The commands of a first answer are those that found room. -/
theorem commands_content (uplink : DataUplink) (limit : Nat) (commands : List MacCommand)
    (carried : Option CloudMessage) (pending : Bool) :
    (content uplink limit commands carried pending).commands =
      (filled uplink limit commands).commands := by
  cases carried with
  | none => rfl
  | some message => exact DownlinkBuilder.commands_offer _ message

/-- The content of a first answer can be written. -/
theorem writable_content (uplink : DataUplink) (limit : Nat) (commands : List MacCommand)
    (carried : Option CloudMessage) (pending : Bool) :
    (content uplink limit commands carried pending).Writable := by
  have hfilled : (filled uplink limit commands).Writable :=
    (DownlinkBuilder.writable_new limit uplink.onPortZero uplink.confirmed _).addAll rfl commands
  cases carried with
  | none => exact hfilled.setPending pending
  | some message => exact (hfilled.offer message).setPending pending

/-- A command that finds room behind the answers is among those of the first answer. -/
theorem mem_commands_content {limit : Nat}
    (hroom : (filled uplink limit answers).hasRoomFor command = true)
    (carried : Option CloudMessage) (pending : Bool) :
    command ∈ (content uplink limit (answers ++ [command]) carried pending).commands := by
  rw [commands_content, filled, DownlinkBuilder.addAll_append_singleton]
  exact DownlinkBuilder.mem_commands_add hroom

/-- The device finds a command that finds room behind the answers. -/
theorem exists_holds_of_build {limit : Nat} {carried : Option CloudMessage} {pending : Bool}
    {addr : DevAddr} {keys : SessionKeys} {payload : Bytes}
    (hroom : (filled uplink limit answers).hasRoomFor command = true)
    (hdown : ∀ c ∈ answers ++ [command], c.direction = .down)
    (hbuild : (content uplink limit (answers ++ [command]) carried pending).build net.suite addr
      keys n = .ok payload) :
    ∃ frame, DataFrame.parse payload = .ok frame ∧ frame.Holds net.suite keys n command := by
  obtain ⟨frame, hparse, hshows⟩ := DownlinkBuilder.parse_of_build hbuild
  have hmem := mem_commands_content hroom carried pending
  refine ⟨frame, hparse, DownlinkBuilder.holds_of_shows hmem (fun c hc => ?_) hshows⟩
  rw [commands_content] at hc
  obtain hnew | hgiven := DownlinkBuilder.mem_of_mem_commands_addAll hc
  · cases hnew
  · exact hdown c hgiven

/-- Settling a message does not change the result. -/
theorem trace_settle_bind {α : Type} {how : Settlement} {eui : Eui64}
    {message : Option CloudMessage} {value final : α}
    (h : ((settle how eui message).bind fun _ => done value).Trace events final) :
    final = value := by
  obtain ⟨_, _, _, _, hend, _⟩ := trace_bind.mp h
  exact (trace_done.mp hend).2

/-- What sending ends with: nothing, if no command was placed, or a downlink with what was put
together, in the window that was chosen. -/
theorem sent_of_trace {commands : List MacCommand} {window : ReceiveWindow} {params : WindowParams}
    {limit : Nat}
    (h : (send net timer s uplink fcntUp n commands offer window params limit).Trace events
      result) :
    ∃ carried pending,
      (content uplink limit commands carried pending).commands = [] ∧
          Downlink.ofResult result.2 = none ∨
        ∃ payload, (content uplink limit commands carried pending).build net.suite s.devAddr s.keys
            n = .ok payload ∧
          Downlink.ofResult result.2 =
            some (.inWindow payload timer window params uplink.metadata (some n)) := by
  obtain ⟨loaded, _, _, hload, hrest, _⟩ := trace_bind.mp h
  have hobeys : (load timer s.devEui (filled uplink limit commands) offer.message).Obeys
      (DataOperation.ServesAnswer s.devEui fcntUp) _ := load_obeys _ _
  obtain ⟨carried, hcontent⟩ : ∃ carried, loaded.1.setPending (loaded.2.isSome && offer.more) =
      content uplink limit commands carried (loaded.2.isSome && offer.more) := by
    rcases (hobeys.trace hload).2 with rfl | ⟨message, -, -, rfl⟩
    · exact ⟨none, rfl⟩
    · exact ⟨some message, rfl⟩
  obtain ⟨builder, message⟩ := loaded
  dsimp only at hcontent hrest
  rw [hcontent] at hrest
  refine ⟨carried, message.isSome && offer.more, ?_⟩
  split at hrest
  · rename_i hempty
    simp only [DownlinkBuilder.isEmpty, Bool.and_eq_true, List.isEmpty_iff] at hempty
    rw [(trace_done.mp hrest).2]
    exact .inl ⟨hempty.1.1, rfl⟩
  · obtain ⟨payload, hbuild⟩ := (writable_content uplink limit commands carried
      (message.isSome && offer.more)).exists_build net.suite s.devAddr s.keys n
    rw [hbuild] at hrest
    rw [trace_settle_bind hrest]
    exact .inr ⟨payload, hbuild, rfl⟩

/-- A downlink that is sent has the command, unless there is no room for it. -/
theorem trace_send {now : Instant} {window : ReceiveWindow} {params : WindowParams} {limit : Nat}
    {seen : List (Event dataInterface)} (hread : ⟨.clock, now⟩ ∈ seen)
    (hchosen : (uplink.timer net s).choose s.listening.preferredWindow
      ((uplink.timer net s).elapsed now) = some window)
    (hplace : place s uplink window = some (params, limit))
    (hdown : ∀ c ∈ answers ++ [command], c.direction = .down)
    (h : (send net timer s uplink fcntUp n (answers ++ [command]) offer window params limit).Trace
      events result) :
    Fate net s uplink seen answers command (Downlink.ofResult result.2) := by
  obtain ⟨carried, pending, hsent⟩ := sent_of_trace h
  cases hroom : (filled uplink limit answers).hasRoomFor command with
  | false =>
    refine .crowded hread hchosen hplace hroom fun downlink hdownlink => ?_
    rcases hsent with ⟨-, hnone⟩ | ⟨payload, -, hsome⟩
    · rw [hnone] at hdownlink
      cases hdownlink
    · rw [hsome] at hdownlink
      rw [← Option.some.inj hdownlink]
      exact ⟨rfl, rfl⟩
  | true =>
    rcases hsent with ⟨hempty, -⟩ | ⟨payload, hbuild, hsome⟩
    · have hmem := mem_commands_content hroom carried pending
      rw [hempty] at hmem
      cases hmem
    · obtain ⟨frame, hparse, hholds⟩ := exists_holds_of_build hroom hdown hbuild
      rw [hsome]
      exact .told rfl hparse hholds

/-- The window is chosen by a reading of the clock. -/
theorem trace_deliver (hdown : ∀ c ∈ answers ++ [command], c.direction = .down)
    (h : (deliver net (uplink.timer net s) s uplink fcntUp n (answers ++ [command]) offer).Trace
      events result) :
    Fate net s uplink events answers command (Downlink.ofResult result.2) := by
  obtain ⟨now, later, rfl, hlater⟩ := trace_perform.mp h
  have hread : (⟨.clock, now⟩ : Event dataInterface) ∈ ⟨.clock, now⟩ :: later :=
    List.mem_cons_self
  dsimp only [Program.bind] at hlater
  split at hlater
  · rename_i hclosed
    rw [trace_settle_bind hlater, ofResult_missed]
    exact .missed hread hclosed
  · rename_i window hchosen
    split at hlater
    · rename_i hnowhere
      rw [trace_settle_bind hlater]
      exact .unplaced hread hchosen hnowhere
    · rename_i params limit hplace
      exact trace_send hread hchosen hplace hdown hlater

/-- A counter is taken, or the store gives none. -/
theorem trace_allocate {drawn : Session × Allocation}
    (h : (allocate net timer s fcntUp).Trace events drawn) :
    (∃ n, drawn = (s.adopt n, .granted n)) ∨
      (∀ n, drawn.2 ≠ .granted n) ∧ ∃ event ∈ events, event.DeniesCounter := by
  unfold allocate at h
  split at h
  · exact .inl ⟨_, (trace_done.mp h).2⟩
  · obtain ⟨answer, later, rfl, hlater⟩ := trace_perform.mp h
    dsimp only [Program.bind] at hlater
    split at hlater
    · exact .inl ⟨_, (trace_done.mp hlater).2⟩
    all_goals
      rw [(trace_done.mp hlater).2]
      exact .inr ⟨by simp, _, List.mem_cons_self, by simp [Event.DeniesCounter]⟩

/-- What becomes of a command in the first answer to an uplink. -/
theorem trace_respond (hdown : ∀ c ∈ answers ++ [command], c.direction = .down)
    (h : (respond net (uplink.timer net s) s uplink fcntUp (answers ++ [command])).Trace events
      result) :
    Fate net s uplink events answers command (Downlink.ofResult result.2) := by
  obtain ⟨now, later, rfl, hlater⟩ := trace_perform.mp h
  dsimp only [Program.bind] at hlater
  split at hlater
  · rename_i hclosed
    rw [(trace_done.mp hlater).2, ofResult_missed]
    exact .missed List.mem_cons_self (Option.isNone_iff_eq_none.mp hclosed)
  · obtain ⟨offer, collecting, rest, -, hrest, rfl⟩ := trace_bind.mp hlater
    split at hrest
    · rename_i hidle
      simp at hidle
    · obtain ⟨drawn, allocating, delivering, hallocate, hdeliver, rfl⟩ := trace_bind.mp hrest
      rcases trace_allocate hallocate with ⟨n, rfl⟩ | ⟨hnone, event, hmem, hdenied⟩
      · have hprofile : s.SameProfile (s.adopt n) := rfl
        have htimer : uplink.timer net s = uplink.timer net (s.adopt n) := rfl
        rw [htimer] at hdeliver
        have hfate := (trace_deliver hdown hdeliver).of_sameProfile hprofile
        exact hfate.mono fun event hevent => by simp [hevent]
      · have hasked : event ∈ (⟨.clock, now⟩ : Event dataInterface) ::
            (collecting ++ (allocating ++ delivering)) := by simp [hmem]
        obtain ⟨after, allocation⟩ := drawn
        have hsilent : Downlink.ofResult result.2 = none := by
          cases allocation with
          | granted n => exact absurd rfl (hnone n)
          | elsewhere | failed => rw [trace_settle_bind hdeliver]; rfl
          | late => rw [trace_settle_bind hdeliver, ofResult_missed]
        rw [hsilent]
        exact .uncounted hasked hdenied

/-- Processing puts the command of adaptive data rate behind the answers to the requests. -/
theorem trace_process (h : (process net s uplink fcntUp requests).Trace events result) :
    ∃ asked answers responding, asked <+: events ∧ (∀ event ∈ responding, event ∈ events) ∧
      (answersTo uplink.metadata requests).Trace asked answers ∧
      (respond net (uplink.timer net (prepared net s uplink fcntUp))
        (prepared net s uplink fcntUp) uplink fcntUp
        (answers ++ (adaptIfAsked net s uplink fcntUp).2.toList)).Trace responding result := by
  obtain ⟨answers, asked, later, hanswers, hlater, rfl⟩ := trace_bind.mp h
  obtain ⟨_, forwarding, responding, _, hrespond, rfl⟩ := trace_bind.mp hlater
  refine ⟨asked, answers, responding, List.prefix_append _ _, fun event hmem => ?_, hanswers,
    hrespond⟩
  simp [hmem]

end DataHandling

end LoraNetwork
