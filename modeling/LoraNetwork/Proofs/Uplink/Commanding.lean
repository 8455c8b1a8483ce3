import LoraNetwork.Proofs.Session.Adaptation
import LoraNetwork.Proofs.Uplink.Fate

/-!
# Settings and the command that tells them

What becomes of the settings that adaptive data rate computes, over a whole run of handled uplinks.
They are recorded by the call that makes the command, and the command goes out with the downlink of
that call. It may find no room there, or there may be no downlink at all; the settings are recorded
all the same. From then on they are commanded again only if the device asks for a sign of life.
-/

namespace LoraNetwork

open DataHandling

/-- Only the region and the recorded settings decide what needs no command. -/
theorem Session.Needless.of_eq {s after : Session} {metadata : RadioMetadata} {ackRequested : Bool}
    {settings : AdrSettings} (h : after.Needless metadata ackRequested settings)
    (hprofile : s.SameProfile after) (hadr : after.progress.adr = s.progress.adr) :
    s.Needless metadata ackRequested settings := by
  obtain ⟨hquiet, hreason⟩ := h
  rw [hadr] at hreason
  refine ⟨hquiet, hreason.imp_left ?_⟩
  rintro ⟨rate, hrate, heffect⟩
  rw [hprofile.region] at hrate
  refine ⟨rate, hrate, ?_⟩
  rw [heffect, Session.effectiveSettings, hadr, Session.effectiveSettings]

/-! ## One call -/

namespace DataHandling

variable {net : Network} {timer : WindowTimer} {s : Session} {uplink : DataUplink}
variable {fcntUp : UInt32} {requests : List MacCommand} {command : MacCommand}
variable {events : List (Event dataInterface)}

/-- A first answer leaves the settings that are recorded. -/
theorem Answered.adr_eq {commands : List MacCommand} {result : Session × Processed}
    (h : Answered net timer s uplink fcntUp commands result) :
    result.1.progress.adr = s.progress.adr := by
  cases h with
  | silent => rfl
  | drawn own delivered =>
    cases delivered with
    | wasted => rfl
    | sent answer => rw [progress_remember]; rfl

/-- The answer to a repeat leaves the settings that are recorded. -/
theorem Repeated.adr_eq {kept : Confirmation} {result : Session × Processed}
    (h : Repeated net timer s uplink kept result) : result.1.progress.adr = s.progress.adr := by
  cases h <;> rfl

/-- Before the first answer the settings are as adaptive data rate left them. -/
theorem adr_prepared (net : Network) (s : Session) (uplink : DataUplink) (fcntUp : UInt32) :
    (prepared net s uplink fcntUp).progress.adr =
      (adaptIfAsked net s uplink fcntUp).1.progress.adr := by
  unfold prepared expectRepeats
  split <;> rfl

/-- An uplink that is carried out leaves the settings as adaptive data rate left them. -/
theorem CarriedOut.adr_eq {device after : Device}
    {result : Except UplinkFailure (Option Downlink)}
    (h : CarriedOut net device s uplink fcntUp requests events after result) :
    after.session.progress.adr = (adaptIfAsked net s uplink fcntUp).1.progress.adr := by
  obtain ⟨_, _, _, -, hprocess, hpersist, -, -⟩ := h.parts
  obtain ⟨commands, hanswered⟩ := (process_obeys.trace hprocess).2
  rw [(persist_trace hpersist).1, hanswered.adr_eq, adr_prepared]

/-- What becomes of the command of adaptive data rate while an uplink is carried out. -/
theorem CarriedOut.fate {device after : Device} {result : Except UplinkFailure (Option Downlink)}
    (h : CarriedOut net device s uplink fcntUp requests events after result)
    (hmade : (adaptIfAsked net s uplink fcntUp).2 = some command)
    (hdirection : command.direction = .down) :
    ∃ answers asked, asked <:+: events ∧
      (answersTo uplink.metadata requests).Trace asked answers ∧
      Fate net s uplink events answers command (Downlink.ofResult result) := by
  obtain ⟨processing, writing, answered, hevents, hprocess, -, -, hresult⟩ := h.parts
  obtain ⟨asked, answers, responding, hasked, hsub, htrace, hrespond⟩ := trace_process hprocess
  have hprocessing : processing <:+: events := by
    rw [hevents]
    exact ⟨[⟨.announce fcntUp, ()⟩], writing, by simp⟩
  have hdown : ∀ c ∈ answers ++ [command], c.direction = .down := by
    intro c hc
    rcases List.mem_append.mp hc with hanswer | hlast
    · exact ((answersTo_down _ _).trace htrace).2 c hanswer
    · rw [List.mem_singleton.mp hlast]
      exact hdirection
  rw [hmade] at hrespond
  have hfate := (trace_respond hdown hrespond).of_sameProfile
    (sameUplink_prepared net s uplink fcntUp).profile
  rw [hresult, Downlink.ofResult_mapError]
  exact ⟨answers, asked, hasked.isInfix.trans hprocessing, htrace,
    hfate.mono fun event hmem => hprocessing.subset (hsub event hmem)⟩

/-- The settings that are computed for an uplink if it takes part in adaptive data rate. -/
def plannedIfAsked (net : Network) (s : Session) (uplink : DataUplink) (fcntUp : UInt32) :
    Option AdrSettings :=
  if uplink.frame.header.control.adr then
    s.planned net.config fcntUp uplink.metadata uplink.frame.header.control.adrAckReq
  else none

/-- Every uplink leads to one of the two, and to nothing if it takes no part in adaptive data rate. -/
theorem adapted_adaptIfAsked (net : Network) (s : Session) (uplink : DataUplink)
    (fcntUp : UInt32) :
    s.Adapted uplink.metadata uplink.frame.header.control.adrAckReq
      (plannedIfAsked net s uplink fcntUp) (adaptIfAsked net s uplink fcntUp) := by
  unfold plannedIfAsked adaptIfAsked
  split
  · exact Session.adapted_adapt _ _ _ _ _
  · exact .kept rfl fun settings hmem => nomatch hmem

/-- Settings that are recorded are commanded again only to a device that asks for a sign of life. -/
theorem command_of_plannedIfAsked {settings : AdrSettings}
    (hplanned : plannedIfAsked net s uplink fcntUp = some settings)
    (hrecorded : s.progress.adr = some settings) :
    (adaptIfAsked net s uplink fcntUp).2 =
      if uplink.frame.header.control.adrAckReq then some (Session.settingsCommand s.region settings)
      else none := by
  unfold plannedIfAsked at hplanned
  split at hplanned
  · rename_i hasks
    rw [adaptIfAsked, if_pos hasks]
    exact Session.command_of_recorded hplanned hrecorded
  · cases hplanned

end DataHandling

namespace Handling

variable {net : Network} {call : Handling}

/-- The session that recorded the counter of the uplink, and that counter. -/
def basis (net : Network) (call : Handling) : Option (Session × UInt32) :=
  ((call.accepted net).map fun counter => (call.before.session.accept counter, counter)).or
    ((call.honoured net).map fun counter =>
      (DataHandling.restarted call.before.session counter, counter))

/-- The settings that are computed for the uplink, if there are any. -/
def planned (net : Network) (call : Handling) : Option AdrSettings :=
  (call.basis net).bind fun (s, counter) => plannedIfAsked net s call.uplink counter

/-- The command of adaptive data rate that the call makes, if it makes one. -/
def command (net : Network) (call : Handling) : Option MacCommand :=
  (call.basis net).bind fun (s, counter) => (adaptIfAsked net s call.uplink counter).2

/-- These are the answers that the call gives to the requests in its uplink. -/
def Answers (net : Network) (call : Handling) (answers : List MacCommand) : Prop :=
  ∃ examined asked, call.uplink.examine net call.before.session = .ok examined ∧
    asked <:+: call.events ∧
    (answersTo call.uplink.metadata examined.commands).Trace asked answers

/-- What becomes of a command that the call puts behind its answers. -/
def Brings (net : Network) (call : Handling) (command : MacCommand) : Prop :=
  ∃ answers, call.Answers net answers ∧
    Fate net call.before.session call.uplink call.events answers command call.downlink

/-- What a call does about the settings of its device: it commands none because none need it, and
leaves those that are recorded; or it commands those that were computed and records them, whatever
becomes of the command. -/
inductive Adapts (net : Network) (call : Handling) : Prop where
  /-- Nothing is commanded. -/
  | kept (silent : call.command net = none)
      (needless : ∀ settings ∈ call.planned net, call.before.session.Needless
        call.uplink.metadata call.uplink.frame.header.control.adrAckReq settings)
      (same : call.after.session.progress.adr = call.before.session.progress.adr)
  /-- Settings are commanded. -/
  | commanded {settings : AdrSettings} (computed : call.planned net = some settings)
      (made : call.command net =
        some (Session.settingsCommand call.before.session.region settings))
      (recorded : call.after.session.progress.adr = some settings)
      (brings : call.Brings net (Session.settingsCommand call.before.session.region settings))

theorem planned_of_basis {recorded : Session} {counter : UInt32}
    (h : call.basis net = some (recorded, counter)) :
    call.planned net = plannedIfAsked net recorded call.uplink counter := by
  rw [planned, h, Option.bind_some]

theorem command_of_basis {recorded : Session} {counter : UInt32}
    (h : call.basis net = some (recorded, counter)) :
    call.command net = (adaptIfAsked net recorded call.uplink counter).2 := by
  rw [command, h, Option.bind_some]

/-- What a session that recorded the counter keeps of the one before the call. -/
theorem of_basis {recorded : Session} {counter : UInt32}
    (h : call.basis net = some (recorded, counter)) :
    call.before.session.SameProfile recorded ∧
      recorded.progress.adr = call.before.session.progress.adr := by
  unfold basis at h
  rcases Option.or_eq_some_iff.mp h with haccepted | ⟨-, hhonoured⟩
  · obtain ⟨c, -, hpair⟩ := Option.map_eq_some_iff.mp haccepted
    cases hpair
    exact ⟨rfl, rfl⟩
  · obtain ⟨c, -, hpair⟩ := Option.map_eq_some_iff.mp hhonoured
    cases hpair
    exact ⟨rfl, rfl⟩

/-- A call that records no counter commands nothing. -/
theorem adapts_of_basis_none (hnone : call.basis net = none)
    (hsame : call.after.session.progress.adr = call.before.session.progress.adr) :
    call.Adapts net := by
  refine .kept ?_ (fun settings hmem => ?_) hsame
  · rw [command, hnone, Option.bind_none]
  · rw [planned, hnone, Option.bind_none] at hmem
    cases hmem

/-- A call that carries its uplink out adapts. -/
theorem adapts_of_carriedOut {recorded : Session} {counter : UInt32} {requests : List MacCommand}
    {verdict : CounterVerdict} {events : List (Event dataInterface)}
    (hbasis : call.basis net = some (recorded, counter))
    (hexamined : call.uplink.examine net call.before.session = .ok ⟨verdict, requests⟩)
    (hevents : events <:+: call.events)
    (carried : CarriedOut net call.before recorded call.uplink counter requests events call.after
      call.result) : call.Adapts net := by
  obtain ⟨hprofile, hadr⟩ := of_basis hbasis
  have hafter := carried.adr_eq
  have hcommand := command_of_basis hbasis
  have hbrings : ∀ command, call.command net = some command → command.direction = .down →
      call.Brings net command := by
    intro command hmade hdirection
    rw [hcommand] at hmade
    obtain ⟨answers, asked, hinfix, htrace, hfate⟩ := carried.fate hmade hdirection
    exact ⟨answers, ⟨_, asked, hexamined, hinfix.trans hevents, htrace⟩,
      (hfate.of_sameProfile hprofile).mono fun event hmem => hevents.subset hmem⟩
  have houtcome := adapted_adaptIfAsked net recorded call.uplink counter
  rw [← planned_of_basis hbasis] at houtcome
  generalize adaptIfAsked net recorded call.uplink counter = outcome at hafter hcommand houtcome
  cases houtcome with
  | kept progress needless =>
    rw [progress] at hafter
    exact .kept hcommand (fun settings hmem => (needless settings hmem).of_eq hprofile hadr)
      (hafter.trans hadr)
  | commanded computed progress =>
    rw [progress] at hafter
    rw [hprofile.region] at hcommand
    exact .commanded computed hcommand hafter (hbrings _ hcommand rfl)

/-- Every call adapts. -/
theorem Occurs.adapts (h : call.Occurs net) : call.Adapts net := by
  obtain ⟨before, uplink, events, after, result⟩ := call
  have hhandled := trace_handle h
  dsimp only at hhandled
  cases hhandled with
  | refused examined | replay examined | unsaved examined =>
    refine adapts_of_basis_none ?_ rfl
    simp [basis, accepted, honoured, verdict, examined, startsWithWrite, restartWrite]
  | repeated examined answer write =>
    refine adapts_of_basis_none ?_ ?_
    · simp [basis, accepted, honoured, verdict, examined]
    · dsimp only
      rw [(persist_trace write).1, (resubmit_obeys.trace answer).2.adr_eq]
      rfl
  | @restarted counter requests told events _ _ examined tells carried =>
    have hinfix : events <:+: restartWrite before.session counter (.ok ()) :: (told ++ events) :=
      ⟨restartWrite before.session counter (.ok ()) :: told, [], by simp⟩
    refine adapts_of_carriedOut ?_ examined hinfix carried
    simp [basis, accepted, honoured, verdict, examined, startsWithWrite, restartWrite]
  | accepted examined carried =>
    refine adapts_of_carriedOut ?_ examined List.infix_rfl carried
    simp [basis, Handling.accepted, verdict, examined]

/-- A call that makes a command puts it behind its answers. -/
theorem Adapts.brings {command : MacCommand} (h : call.Adapts net)
    (hmade : call.command net = some command) : call.Brings net command := by
  cases h with
  | kept silent =>
    rw [silent] at hmade
    cases hmade
  | commanded computed made recorded brings =>
    rw [← Option.some.inj (made.symm.trans hmade)]
    exact brings

/-- A device that requests nothing is answered nothing. -/
theorem Answers.eq_nil {answers : List MacCommand} (h : call.Answers net answers)
    (hnone : (call.uplink.examine net call.before.session).map (·.commands) = .ok []) :
    answers = [] := by
  obtain ⟨examined, asked, hexamined, -, htrace⟩ := h
  rw [hexamined] at hnone
  have hcommands : examined.commands = [] := Except.ok.inj hnone
  rw [hcommands] at htrace
  exact (Program.trace_done.mp htrace).2

/-- Settings that are recorded are commanded again exactly if the device asks for a sign of life. -/
theorem command_of_planned {settings : AdrSettings} (hplanned : call.planned net = some settings)
    (hrecorded : call.before.session.progress.adr = some settings) :
    call.command net =
      if call.uplink.frame.header.control.adrAckReq then
        some (Session.settingsCommand call.before.session.region settings)
      else none := by
  obtain ⟨⟨recorded, counter⟩, hbasis, -⟩ := Option.bind_eq_some_iff.mp hplanned
  obtain ⟨hprofile, hadr⟩ := of_basis hbasis
  rw [← hadr] at hrecorded
  rw [planned_of_basis hbasis] at hplanned
  rw [command_of_basis hbasis, command_of_plannedIfAsked hplanned hrecorded, hprofile.region]

end Handling

/-! ## Runs -/

namespace HandlingRun

variable {net : Network} {start last : Device} {calls : List Handling}

/-- Calls that leave the settings alone leave them as they were at the start. -/
theorem adr_eq (run : HandlingRun net start calls last)
    (hsame : ∀ call ∈ calls,
      call.after.session.progress.adr = call.before.session.progress.adr) :
    last.session.progress.adr = start.session.progress.adr := by
  induction run with
  | nil device => rfl
  | @cons call calls last first rest ih =>
    have hrest := ih fun other hmem => hsame other (List.mem_cons_of_mem _ hmem)
    exact hrest.trans (hsame call List.mem_cons_self)

/-- Along every run, a call that changes the recorded settings changes them to those that it computed
and commands. The command reaches the device in the downlink of that call, unless there is no room
for it behind the answers, the windows have closed or lack a data rate, or there is no counter; the
settings stay recorded all the same. A later call for which they are computed again commands them
again exactly if the device asks for a sign of life. -/
theorem settings_commanded_once (run : HandlingRun net start calls last) :
    (∀ call ∈ calls, call.Adapts net) ∧
      ∀ earlier call middle again later settings,
        calls = earlier ++ call :: (middle ++ again :: later) →
        call.after.session.progress.adr = some settings →
        (∀ other ∈ middle,
          other.after.session.progress.adr = other.before.session.progress.adr) →
        again.planned net = some settings →
        again.command net =
          if again.uplink.frame.header.control.adrAckReq then
            some (Session.settingsCommand again.before.session.region settings)
          else none := by
  refine ⟨fun call hmem => (run.occurs call hmem).adapts, ?_⟩
  rintro earlier call middle again later settings rfl hrecorded hsame hplanned
  obtain ⟨_, -, hcall⟩ := append_iff.mp run
  cases hcall with
  | cons first rest =>
    obtain ⟨_, hmiddle, hagain⟩ := append_iff.mp rest
    have hkept := hmiddle.adr_eq hsame
    cases hagain with
    | cons second rest =>
      rw [hrecorded] at hkept
      exact Handling.command_of_planned hplanned hkept

end HandlingRun

/-! ## A command that is lost -/

namespace Sample

/-- An uplink of the device that takes part in adaptive data rate and asks for a sign of life. -/
def asking (counter : UInt16) (arrival : Instant) : DataUplink :=
  let plain := uplink .unconfirmedDataUp counter
  { plain with
    frame :=
      { plain.frame with
        header := { plain.frame.header with control := { adr := true, adrAckReq := true } } }
    arrival := arrival }

/-- Such an uplink whose windows have closed when it is handled. -/
def overdue : Handling :=
  .answeredBy network (answers (.ok ())) device (asking 5 (-100000000000))

/-- Settings are recorded for it, and nothing is sent. -/
theorem overdue_untold : overdue.before.session.progress.adr = none ∧
    overdue.after.session.progress.adr = some ⟨5, 0, 1⟩ ∧ overdue.downlink = none := by
  decide +kernel

end Sample

namespace HandlingRun

/-- The windows of the first uplink have closed, and its settings are recorded. The second uplink is
in time, and since it asks again, its downlink holds the command. -/
theorem settings_commanded_once_after_loss :
    let again := Handling.answeredBy Sample.network (Sample.answers (.ok ())) Sample.overdue.after
      (Sample.asking 6 0)
    Sample.overdue.downlink = none ∧
      ∃ downlink n frame, again.downlink = some downlink ∧ downlink.fcntDown = some n ∧
        DataFrame.parse downlink.payload = .ok frame ∧
        frame.Holds Sample.network.suite again.before.session.keys n
          (Session.settingsCommand .eu868 ⟨5, 0, 1⟩) := by
  intro again
  obtain ⟨-, hrecorded, hlost⟩ := Sample.overdue_untold
  obtain ⟨last, hrun⟩ :
      ∃ last, HandlingRun Sample.network Sample.device [Sample.overdue, again] last :=
    exists_answeredBy Sample.network (Sample.answers (.ok ())) Sample.device
      [Sample.asking 5 (-100000000000), Sample.asking 6 0]
  obtain ⟨hadapts, hagain⟩ := settings_commanded_once hrun
  have hplanned : again.planned Sample.network = some ⟨5, 0, 1⟩ := by decide +kernel
  have hregion : again.before.session.region = .eu868 := by decide +kernel
  have hasks : again.uplink.frame.header.control.adrAckReq = true := rfl
  have hcommand := hagain [] Sample.overdue [] again [] ⟨5, 0, 1⟩ rfl hrecorded (by simp) hplanned
  rw [if_pos hasks, hregion] at hcommand
  obtain ⟨answers, hanswers, hfate⟩ := (hadapts again (by simp)).brings hcommand
  have hnone : (again.uplink.examine Sample.network again.before.session).map (·.commands) =
      .ok [] := by decide +kernel
  rw [hanswers.eq_nil hnone] at hfate
  obtain ⟨downlink, hdownlink⟩ : ∃ downlink, again.downlink = some downlink :=
    Option.isSome_iff_exists.mp (by decide +kernel)
  rw [hdownlink] at hfate
  cases hfate with
  | told counter parsed holds => exact ⟨hlost, downlink, _, _, hdownlink, counter, parsed, holds⟩
  | @crowded _ _ window params limit read chosen placed full sent =>
    have hroom : ∀ downlink ∈ again.downlink,
        ∀ placed ∈ place again.before.session again.uplink downlink.window,
          (filled again.uplink placed.2 []).hasRoomFor
            (Session.settingsCommand .eu868 ⟨5, 0, 1⟩) = true := by decide +kernel
    rw [← (sent downlink rfl).1] at placed
    rw [hroom downlink hdownlink _ placed] at full
    cases full

/-- Settings may be recorded without the device being told: the first uplink comes in too late for a
downlink, and its settings are recorded all the same. -/
theorem exists_settings_not_told :
    ∃ call last, HandlingRun Sample.network Sample.device [call] last ∧
      call.before.session.progress.adr = none ∧
      call.after.session.progress.adr = some ⟨5, 0, 1⟩ ∧ call.downlink = none := by
  have hoccurs : Sample.overdue.Occurs Sample.network := Handling.occurs_answeredBy _ _ _ _
  exact ⟨Sample.overdue, Sample.overdue.after, .cons hoccurs (.nil _), Sample.overdue_untold⟩

end HandlingRun

end LoraNetwork
