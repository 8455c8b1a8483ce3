import LoraNetwork.Proofs.Uplink.Account
import LoraNetwork.Proofs.Uplink.SizeLimit

/-!
# The custody of cloud messages

What becomes of the cloud messages that the queue hands over during a call. None is lost and none is
settled twice. A message is settled as sent only if it is in the downlink that answers the uplink,
whole and for the device to read, and no other message has its payload there. That another one waits
is announced exactly when one was seen behind the message that is carried.
-/

namespace LoraNetwork

open DataHandling

variable {net : Network} {s : Session} {uplink : DataUplink} {downlink : Downlink}

/-- What the device finds in a downlink that answers its uplink: the frame is genuine and carries
what was completed; it has the payload of no other message; and it announces another message exactly
when one was handed over behind the one that was completed. -/
structure Account.ShownBy (net : Network) (s : Session) (account : Account) (n : UInt32)
    (frame : DataFrame) : Prop where
  /-- The frame is meant for the device. -/
  devAddr : frame.devAddr = s.devAddr
  /-- Its code verifies. -/
  verifies : frame.verifies net.suite s.keys.network n = true
  /-- What was completed is in it. -/
  carries : ∀ entry ∈ account.completed, frame.Carries net.suite s.keys n entry.2
  /-- No other payload is. -/
  alone : ∀ port payload, frame.HasPayload net.suite s.keys n port payload →
    ∃ entry ∈ account.completed, entry.2.port = port ∧ entry.2.payload = payload
  /-- More is announced if there is more. -/
  pending : frame.header.control.fPending = true ↔
    account.completed ≠ [] ∧ 1 < account.delivered.length

/-- What became of the messages in an account when an uplink was answered for the first time, or was
not. -/
structure Account.Custody (net : Network) (s : Session) (account : Account)
    (answer : Option Downlink) : Prop where
  /-- Each message that was handed over is settled once, and no other one is. -/
  settled_once : (account.settled.map Prod.snd).Perm account.delivered
  /-- At most one is completed. -/
  completed_le_one : account.completed.length ≤ 1
  /-- Nothing is completed without an answer. -/
  sent : account.completed ≠ [] → answer.isSome = true
  /-- An answer shows what was completed. -/
  shown : ∀ downlink, answer = some downlink →
    ∃ n frame, downlink.fcntDown = some n ∧ DataFrame.parse downlink.payload = .ok frame ∧
      account.ShownBy net s n frame

/-! ## The two ways of a downlink -/

/-- A downlink without a message shows that none was completed. -/
theorem DataHandling.Assembled.shows_none {account : Account}
    (h : Assembled net s uplink none false downlink) (hnone : account.completed = []) :
    ∃ n frame, downlink.fcntDown = some n ∧ DataFrame.parse downlink.payload = .ok frame ∧
      account.ShownBy net s n frame := by
  obtain ⟨commands, limit, n, hcounter, -, hbuild⟩ := h.parts
  obtain ⟨frame, hparse, hshows⟩ := DownlinkBuilder.parse_of_build hbuild
  have hcloud : (content uplink limit commands none false).cloud = none :=
    DownlinkBuilder.cloud_addAll _ commands
  refine ⟨n, frame, hcounter, hparse, hshows.devAddr, hshows.verifies, ?_, ?_, ?_⟩
  · intro entry hmem
    rw [hnone] at hmem
    cases hmem
  · intro port payload hhas
    exact absurd hhas (DownlinkBuilder.not_hasPayload_of_none hcloud hshows port payload)
  · rw [hshows.control, hnone]
    simp [content, DownlinkBuilder.setPending]

/-- A downlink with a message shows that it was completed. -/
theorem DataHandling.Assembled.shows_some {account : Account} {message : CloudMessage}
    {pending : Bool} {eui : Eui64} (h : Assembled net s uplink (some message) pending downlink)
    (hone : account.completed = [(eui, message)])
    (hpending : pending = true ↔ 1 < account.delivered.length) :
    ∃ n frame, downlink.fcntDown = some n ∧ DataFrame.parse downlink.payload = .ok frame ∧
      account.ShownBy net s n frame := by
  obtain ⟨commands, limit, n, hcounter, hfits, hbuild⟩ := h.parts
  have hfit := hfits message rfl
  obtain ⟨frame, hparse, hshows⟩ := DownlinkBuilder.parse_of_build hbuild
  have hcontent : content uplink limit commands (some message) pending =
      ((filled uplink limit commands).offer message).setPending pending := rfl
  rw [hcontent] at hshows
  obtain ⟨hcarries, halone⟩ := DownlinkBuilder.carries_of_fit hfit hshows
  refine ⟨n, frame, hcounter, hparse, hshows.devAddr, hshows.verifies, ?_, ?_, ?_⟩
  · intro entry hmem
    rw [hone] at hmem
    rw [List.mem_singleton.mp hmem]
    exact hcarries
  · intro port payload hhas
    obtain ⟨hport, hpayload⟩ := halone port payload hhas
    refine ⟨(eui, message), ?_, hport.symm, hpayload.symm⟩
    rw [hone]
    exact List.mem_singleton_self _
  · rw [hshows.control, hone, ← hpending]
    simp [DownlinkBuilder.setPending]

/-! ## Calls -/

namespace DataHandling

variable {after : Session} {account : Account}

/-- Where no message was handed over none is lost. -/
theorem Unattended.custody (h : Unattended s account after) : account.Custody net s none := by
  have hcompleted : account.completed = [] := by simp [Account.completed, h.settled]
  constructor
  · rw [h.settled, h.delivered]
    exact .nil
  · rw [hcompleted]
    exact Nat.zero_le 1
  · intro hsome
    exact absurd hcompleted hsome
  · intro downlink hdownlink
    cases hdownlink

/-- Among the messages of a first answer, only the one that was offered can be completed. -/
theorem completed_of_settled {message behind : Option CloudMessage} {how : Settlement} {eui : Eui64}
    (h : account.settled = behind.toList.map (fun m => (.abandon, eui, m)) ++
      message.toList.map (fun m => (how, eui, m))) :
    account.completed = if how = .complete then message.toList.map fun m => (eui, m) else [] := by
  rw [Account.completed, h]
  cases behind <;> cases message <;> cases how <;> rfl

/-- A first answer takes care of every message. -/
theorem Attended.custody {out : Option Downlink} (h : Attended net s uplink account after out) :
    account.Custody net s out := by
  obtain ⟨message, behind, how, habsent, hdelivered, hsettled, hdisposed⟩ := h.messages
  have hcompleted := completed_of_settled hsettled
  have honce : (account.settled.map Prod.snd).Perm account.delivered := by
    rw [hsettled, hdelivered]
    simp only [List.map_append, List.map_map]
    exact List.perm_append_comm
  cases hdisposed with
  | unsent other =>
    rw [if_neg other] at hcompleted
    have hnone : account.completed.length ≤ 1 := by simp [hcompleted]
    exact ⟨honce, hnone, fun hsome => absurd hcompleted hsome, fun _ hdownlink => nomatch hdownlink⟩
  | without other assembled =>
    rw [if_neg other] at hcompleted
    have hnone : account.completed.length ≤ 1 := by simp [hcompleted]
    refine ⟨honce, hnone, fun _ => rfl, fun downlink hdownlink => ?_⟩
    rw [← Option.some.inj hdownlink]
    exact assembled.shows_none hcompleted
  | @carried message _ assembled =>
    have hone : account.completed = [(s.devEui, message)] := hcompleted
    have hlength : account.completed.length ≤ 1 := by simp [hone]
    have hmore : behind.isSome = true ↔ 1 < account.delivered.length := by
      rw [hdelivered]
      cases behind <;> simp
    refine ⟨honce, hlength, fun _ => rfl, fun downlink hdownlink => ?_⟩
    rw [← Option.some.inj hdownlink]
    exact assembled.shows_some hone hmore

end DataHandling

namespace Handling

variable {call : Handling}

/-- Cloud messages are neither lost nor settled twice. Whatever the queue holds, however long
anything takes and however collaborators answer, a call settles each message that it is given
exactly once. It completes at most one, and only if it returns a downlink that answers the uplink
for the first time and carries the message, whole and readable for the device. No other payload for
an application is in that downlink, and it announces another message exactly when it carries one and
a second was received behind it. -/
theorem Occurs.messages_settled_once (h : call.Occurs net) :
    call.account.Custody net call.before.session (call.firstAnswer net) := by
  cases h.accounted with
  | first recorded attended =>
    have hfirst : call.firstAnswer net = call.downlink := by simp [firstAnswer, recorded]
    rw [hfirst]
    exact attended.custody
  | other unrecorded unattended =>
    have hnone : call.firstAnswer net = none := by simp [firstAnswer, unrecorded]
    rw [hnone]
    exact unattended.custody

/-- The message in the queue goes out with the acknowledgement, and the same message again behind it
is announced and put back. -/
theorem messages_settled_once_of_two :
    let call := answeredBy Sample.network Sample.mail Sample.device Sample.fast
    call.account.completed = [(⟨1⟩, Sample.message)] ∧ call.account.delivered.length = 2 ∧
      ∃ downlink frame, call.firstAnswer Sample.network = some downlink ∧
        DataFrame.parse downlink.payload = .ok frame ∧ frame.port = some Sample.message.port ∧
        frame.header.control.fPending = true := by
  intro call
  have hcall : call.Occurs Sample.network := occurs_answeredBy _ _ _ _
  have hcustody := Occurs.messages_settled_once hcall
  have hcompleted : call.account.completed = [(⟨1⟩, Sample.message)] := by decide +kernel
  have htwo : call.account.delivered.length = 2 := by decide +kernel
  have hsome : call.account.completed ≠ [] := by simp [hcompleted]
  obtain ⟨downlink, hdownlink⟩ := Option.isSome_iff_exists.mp (hcustody.sent hsome)
  obtain ⟨n, frame, -, hparse, hshown⟩ := hcustody.shown downlink hdownlink
  have hmem : (⟨1⟩, Sample.message) ∈ call.account.completed := by simp [hcompleted]
  have hpayload : Sample.message.payload ≠ [] := by decide
  have hport := ((hshown.carries _ hmem).payload hpayload).1
  have hpending := hshown.pending.mpr ⟨hsome, by omega⟩
  exact ⟨hcompleted, htwo, downlink, frame, hdownlink, hparse, hport, hpending⟩

end Handling

end LoraNetwork
