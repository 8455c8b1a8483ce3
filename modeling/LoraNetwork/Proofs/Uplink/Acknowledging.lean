import LoraNetwork.Proofs.Downlink.Contents
import LoraNetwork.Proofs.Uplink.Examination
import LoraNetwork.Proofs.Uplink.SizeLimit

/-!
# Answers and acknowledgements

Whoever confirms an uplink wants to know that it arrived. A confirmed uplink is answered with an
acknowledgement or its handling fails, be it new or a repeat, and be its answer assembled now or
kept from an earlier time. An uplink that asks for nothing gets a downlink only if there is
something to say, and then no acknowledgement is in it. What is kept for repeats is always an
acknowledgement, which is the invariant that repeats rely on.
-/

namespace LoraNetwork

/-- A frame that answers an uplink of a session under a downlink counter. It acknowledges a
confirmed uplink, and to any other it brings a command or a message. -/
structure Session.IsReply (net : Network) (s : Session) (confirmed : Bool) (payload : Bytes)
    (n : UInt32) (frame : DataFrame) : Prop where
  /-- The device reads it. -/
  parsed : DataFrame.parse payload = .ok frame
  /-- It is meant for the device. -/
  devAddr : frame.devAddr = s.devAddr
  /-- Its code verifies. -/
  verifies : frame.verifies net.suite s.keys.network n = true
  /-- It acknowledges exactly what is confirmed. -/
  ack : frame.header.control.ack = confirmed
  /-- Unless it acknowledges, there is something in it. -/
  filled : confirmed = false → ∃ onPortZero commands message,
    (commands ≠ [] ∨ message.isSome = true) ∧
      frame.Delivers net.suite s.keys n onPortZero commands message

/-- What is a reply does not depend on the counters of the session. -/
theorem Session.SameProfile.isReply_iff {net : Network} {s after : Session} {confirmed : Bool}
    {payload : Bytes} {n : UInt32} {frame : DataFrame} (h : s.SameProfile after) :
    after.IsReply net confirmed payload n frame ↔ s.IsReply net confirmed payload n frame := by
  unfold SameProfile at h
  rw [h]
  exact ⟨fun reply => ⟨reply.parsed, reply.devAddr, reply.verifies, reply.ack, reply.filled⟩,
    fun reply => ⟨reply.parsed, reply.devAddr, reply.verifies, reply.ack, reply.filled⟩⟩

/-- What a session keeps for repeats is an acknowledgement. -/
def Session.KeepsReply (net : Network) (s : Session) : Prop :=
  ∀ kept, s.cached = some kept → ∃ frame, s.IsReply net true kept.payload kept.fcntDown frame

/-- How a confirmed or unconfirmed uplink of a session may end, given what was kept before: it
fails; nothing is sent and nothing was confirmed; or a reply is sent. What is kept afterwards is
nothing, or what was kept before, or the reply to a confirmed uplink. -/
inductive Replied {ε : Type} (net : Network) (s : Session) (confirmed : Bool)
    (cache : Option CachedDownlink) (after : Session) : Except ε (Option Downlink) → Prop where
  /-- The handling fails. -/
  | failed {reason : ε} (cached : after.cached = none ∨ after.cached = cache) :
      Replied net s confirmed cache after (.error reason)
  /-- There is nothing to say. -/
  | quiet (unconfirmed : confirmed = false)
      (cached : after.cached = none ∨ after.cached = cache) :
      Replied net s confirmed cache after (.ok none)
  /-- A reply is sent. -/
  | sent {downlink : Downlink} {n : UInt32} {frame : DataFrame}
      (carries : downlink.fcntDown = some n)
      (reply : s.IsReply net confirmed downlink.payload n frame)
      (cached : after.cached = none ∨ after.cached = cache ∨
        confirmed = true ∧ after.cached = some ⟨downlink.payload, n⟩) :
      Replied net s confirmed cache after (.ok (some downlink))

namespace Replied

variable {ε δ : Type} {net : Network} {s middle after : Session} {confirmed : Bool}
variable {cache : Option CachedDownlink} {result : Except ε (Option Downlink)}

/-- Only what is kept of the session counts. -/
theorem of_eq (h : Replied net s confirmed cache middle result)
    (hconfirmation : after.confirmation = middle.confirmation) :
    Replied net s confirmed cache after result := by
  have hcached : after.cached = middle.cached := by
    rw [Session.cached, hconfirmation, Session.cached]
  cases h with
  | failed cached => exact .failed (by rwa [hcached])
  | quiet unconfirmed cached => exact .quiet unconfirmed (by rwa [hcached])
  | sent carries reply cached => exact .sent carries reply (by rwa [hcached])

/-- What nothing is kept for may have something kept as well. -/
theorem of_none (h : Replied net s confirmed none after result) :
    Replied net s confirmed cache after result := by
  cases h with
  | failed cached => exact .failed (.inl (cached.elim id id))
  | quiet unconfirmed cached => exact .quiet unconfirmed (.inl (cached.elim id id))
  | sent carries reply cached =>
    refine .sent carries reply ?_
    rcases cached with hnone | hnone | hkept
    · exact .inl hnone
    · exact .inl hnone
    · exact .inr (.inr hkept)

/-- How a failure is reported does not matter. -/
theorem mapError (h : Replied net s confirmed cache after result) (f : ε → δ) :
    Replied net s confirmed cache after (result.mapError f) := by
  cases h with
  | failed cached => exact .failed cached
  | quiet unconfirmed cached => exact .quiet unconfirmed cached
  | sent carries reply cached => exact .sent carries reply cached

/-- A session in place of another with the same profile. -/
theorem sameProfile {other : Session} (h : Replied net s confirmed cache after result)
    (hprofile : other.SameProfile s) : Replied net other confirmed cache after result := by
  cases h with
  | failed cached => exact .failed cached
  | quiet unconfirmed cached => exact .quiet unconfirmed cached
  | sent carries reply cached => exact .sent carries (hprofile.isReply_iff.mp reply) cached

end Replied

namespace DownlinkBuilder

/-- A downlink that was assembled and written is a reply, if it acknowledges or has something in
it. -/
theorem exists_isReply {net : Network} {s : Session} {limit : Nat}
    {onPortZero ack adr pending : Bool}
    {commands : List MacCommand} {message : Option CloudMessage} {n : UInt32} {payload : Bytes}
    (hfilled : ack = true ∨
      (assemble limit onPortZero ack adr commands message pending).isEmpty = false)
    (hbuild : (assemble limit onPortZero ack adr commands message pending).build net.suite
      s.devAddr s.keys n = .ok payload) :
    ∃ frame, s.IsReply net ack payload n frame := by
  obtain ⟨frame, hparse, hshows⟩ := parse_of_build hbuild
  have hack : frame.header.control.ack = ack := by
    rw [hshows.control, assemble_eq]
    rfl
  refine ⟨frame, hparse, hshows.devAddr, hshows.verifies, hack, fun hunconfirmed => ?_⟩
  have hnonempty := hfilled.resolve_left (by simp [hunconfirmed])
  refine ⟨_, _, _, ?_, delivers_of_shows writable_assemble hshows⟩
  simp only [isEmpty, Bool.and_eq_false_iff, List.isEmpty_eq_false_iff,
    Option.isNone_eq_false_iff] at hnonempty
  exact hnonempty

end DownlinkBuilder

namespace DataHandling

open Program

variable {net : Network} {timer : WindowTimer} {s : Session} {uplink : DataUplink}
variable {fcntUp n : UInt32} {commands : List MacCommand} {offer : CloudOffer}

/-! ## First answers -/

/-- A window that is missed is a failure only if an acknowledgement is owed. -/
theorem replied_missed {after : Session} {confirmed : Bool} (hnone : after.cached = none) :
    Replied net s confirmed none after (missed confirmed) := by
  cases confirmed with
  | true => exact .failed (.inl hnone)
  | false => exact .quiet rfl (.inl hnone)

theorem send_replies {window : ReceiveWindow} {params : WindowParams} {limit : Nat}
    (hnone : s.cached = none) :
    (send net timer s uplink fcntUp n commands offer window params limit).Obeys (fun _ => True)
      fun result => Replied net s uplink.confirmed none result.1 result.2 := by
  have hload := @load_obeys timer fcntUp s.devEui ((DownlinkBuilder.new limit uplink.onPortZero
    uplink.confirmed uplink.frame.header.control.adr).addAll commands) offer.message
  refine obeys_bind.mpr (hload.mono (fun _ _ => trivial) fun loaded hloaded => ?_)
  obtain ⟨carried, hcontent⟩ : ∃ carried, loaded.1.setPending (loaded.2.isSome && offer.more) =
      content uplink limit commands carried (loaded.2.isSome && offer.more) := by
    rcases hloaded with rfl | ⟨message, -, -, rfl⟩
    · exact ⟨none, rfl⟩
    · exact ⟨some message, rfl⟩
  obtain ⟨builder, message⟩ := loaded
  dsimp only at hcontent ⊢
  rw [hcontent]
  split
  · rename_i hempty
    have hunconfirmed : uplink.confirmed = false := by
      simpa using (Bool.and_eq_true_iff.mp hempty).2
    exact obeys_done.mpr (.quiet hunconfirmed (.inl hnone))
  · rename_i hfilled
    split
    · exact obeys_bind_of_forall fun _ => obeys_done.mpr (.failed (.inl hnone))
    · rename_i payload hbuild
      have hsaid : uplink.confirmed = true ∨
          (content uplink limit commands carried (message.isSome && offer.more)).isEmpty =
            false := by
        cases hconfirmed : uplink.confirmed with
        | true => exact .inl rfl
        | false => simpa [hconfirmed] using hfilled
      obtain ⟨frame, hreply⟩ := DownlinkBuilder.exists_isReply hsaid hbuild
      refine obeys_bind_of_forall fun _ => obeys_done.mpr (.sent rfl hreply ?_)
      cases hconfirmed : uplink.confirmed with
      | true => exact .inr (.inr ⟨rfl, rfl⟩)
      | false => exact .inl hnone

theorem deliver_replies (hnone : s.cached = none) :
    (deliver net timer s uplink fcntUp n commands offer).Obeys (fun _ => True)
      fun result => Replied net s uplink.confirmed none result.1 result.2 := by
  refine obeys_bind.mpr (obeys_clock.mpr ⟨trivial, fun now => ?_⟩)
  split
  · exact obeys_bind_of_forall fun _ => obeys_done.mpr (replied_missed hnone)
  · split
    · exact obeys_bind_of_forall fun _ => obeys_done.mpr (.failed (.inl hnone))
    · exact send_replies hnone

/-- The first answer to an uplink is a reply, unless there is nothing to say or it fails. -/
theorem respond_replies (hnone : s.cached = none) :
    (respond net timer s uplink fcntUp commands).Obeys (fun _ => True)
      fun result => Replied net s uplink.confirmed none result.1 result.2 := by
  refine obeys_bind.mpr (obeys_clock.mpr ⟨trivial, fun now => ?_⟩)
  split
  · exact obeys_done.mpr (replied_missed hnone)
  · refine obeys_bind_of_forall fun offer => ?_
    split
    · rename_i hquiet
      have hunconfirmed : uplink.confirmed = false := by
        simp only [Bool.and_eq_true, Bool.not_eq_true'] at hquiet
        exact hquiet.1.1
      exact obeys_done.mpr (.quiet hunconfirmed (.inl hnone))
    · refine obeys_bind.mpr (allocate_obeys.mono (fun _ _ => trivial) fun drawn hdrawn => ?_)
      cases hdrawn with
      | @granted n own =>
        have hadopted : s.SameProfile (s.adopt n) := rfl
        have hkept : (s.adopt n).cached = none := hnone
        exact (deliver_replies hkept).mono (fun _ h => h) fun result h => h.sameProfile hadopted
      | @refused allocation ungranted =>
        cases allocation with
        | granted n => exact absurd rfl (ungranted n)
        | elsewhere | failed =>
          exact obeys_bind_of_forall fun _ => obeys_done.mpr (.failed (.inl hnone))
        | late => exact obeys_bind_of_forall fun _ => obeys_done.mpr (replied_missed hnone)

/-- What was recorded of an uplink is replied to, if nothing is kept. -/
theorem process_replies {requests : List MacCommand} (hnone : s.confirmation = none) :
    (process net s uplink fcntUp requests).Obeys (fun _ => True)
      fun result => Replied net s uplink.confirmed none result.1 result.2 := by
  have hprepared : (prepared net s uplink fcntUp).cached = none := by
    rw [prepared_eq net s uplink fcntUp, Session.cached, hnone]
    dsimp only
    split <;> rfl
  have hsame := (sameUplink_prepared net s uplink fcntUp).profile
  refine obeys_bind_of_forall fun answers => obeys_bind_of_forall fun _ => ?_
  exact (respond_replies hprepared).mono (fun _ h => h) fun result h => h.sameProfile hsame

/-! ## Repeats -/

theorem acknowledge_replies {kept : Confirmation} {window : ReceiveWindow} {params : WindowParams}
    {cache : Option CachedDownlink} (hcached : s.cached = cache) :
    (acknowledge net timer s uplink fcntUp kept window params).Obeys (fun _ => True)
      fun result => Replied net s true cache result.1 result.2 := by
  refine obeys_bind.mpr (allocate_obeys.mono (fun _ _ => trivial) fun drawn hdrawn => ?_)
  cases hdrawn with
  | @refused allocation ungranted =>
    cases allocation with
    | granted n => exact absurd rfl (ungranted n)
    | elsewhere | failed | late => exact obeys_done.mpr (.failed (.inr hcached))
  | @granted n own =>
    have hkept : (s.adopt n).cached = cache := hcached
    dsimp only
    split
    · exact obeys_done.mpr (.failed (.inr hkept))
    · rename_i limit hlimit
      split
      · exact obeys_done.mpr (.failed (.inr hkept))
      · rename_i payload hbuild
        have hbare : DownlinkBuilder.new limit false true uplink.frame.header.control.adr =
            .assemble limit false true uplink.frame.header.control.adr [] none false := rfl
        rw [hbare] at hbuild
        obtain ⟨frame, hreply⟩ := DownlinkBuilder.exists_isReply (.inl rfl) hbuild
        have hadopted : s.SameProfile (s.adopt n) := rfl
        exact obeys_done.mpr
          (Replied.sameProfile (.sent rfl hreply (.inr (.inr ⟨rfl, rfl⟩))) hadopted)

/-- What is kept of a repeat's uplink is what was kept, or nothing. -/
theorem cached_counted (s : Session) (fcntUp : UInt32) :
    (counted s fcntUp).cached = none ∨ (counted s fcntUp).cached = s.cached := by
  unfold counted countRepeat Session.cached
  cases s.confirmation with
  | none => exact .inl rfl
  | some kept =>
    dsimp only
    split
    · exact .inr rfl
    · exact .inl rfl

/-- A repeat is acknowledged or fails, if what is kept is an acknowledgement. -/
theorem resubmit_replies (hkeeps : s.KeepsReply net) :
    (resubmit net s uplink fcntUp).Obeys (fun _ => True)
      fun result => Replied net s true s.cached result.1 result.2 := by
  have hcounted := cached_counted s fcntUp
  unfold resubmit
  dsimp only
  split
  · exact obeys_done.mpr (.failed hcounted)
  · refine obeys_bind.mpr (obeys_clock.mpr ⟨trivial, fun now => ?_⟩)
    split
    · exact obeys_done.mpr (.failed hcounted)
    · split
      · exact obeys_done.mpr (.failed hcounted)
      · split
        · rename_i sent hsent
          have hheld : (counted s fcntUp).cached = some sent := hsent
          have hkept : (counted s fcntUp).cached = s.cached := by
            refine hcounted.resolve_left fun hnone => ?_
            rw [hnone] at hheld
            cases hheld
          obtain ⟨frame, hreply⟩ := hkeeps sent (hkept.symm.trans hheld)
          exact obeys_done.mpr (.sent rfl hreply (.inr (.inl hkept)))
        · rename_i hnone
          have hempty : (counted s fcntUp).cached = none := hnone
          have hcounts : s.SameProfile (counted s fcntUp) := rfl
          exact (acknowledge_replies hempty).mono (fun _ h => h) fun result h =>
            (h.sameProfile hcounts).of_none

/-- An uplink that is carried out is replied to, if nothing is kept. -/
theorem CarriedOut.replied {device after : Device} {recorded : Session}
    {requests : List MacCommand} {events : List (Event dataInterface)}
    {result : Except UplinkFailure (Option Downlink)}
    (h : CarriedOut net device recorded uplink fcntUp requests events after result)
    (hnone : recorded.confirmation = none) :
    Replied net recorded uplink.confirmed none after.session result := by
  obtain ⟨_, _, answered, -, hprocess, hpersist, -, hresult⟩ := h.parts
  have hreplied := ((process_replies hnone).trace hprocess).2
  rw [hresult]
  exact (hreplied.of_eq (persist_trace hpersist).2).mapError _

end DataHandling

namespace Handling

open DataHandling

variable {net : Network} {call : Handling}

/-- Only a confirmed uplink can be a repeat. -/
theorem confirmed_of_examine_resubmit {s : Session} {uplink : DataUplink} {counter : UInt32}
    {requests : List MacCommand}
    (h : uplink.examine net s = .ok ⟨.resubmit counter, requests⟩) : uplink.confirmed = true := by
  obtain ⟨-, -, hverdict⟩ := DataUplink.genuine_of_examine h
  exact (Counter.eq_of_evaluate_eq_resubmit hverdict.symm).1

/-- Every call replies to its uplink, unless there is nothing to say or it fails. -/
theorem Occurs.replied (h : call.Occurs net) (hkeeps : call.before.session.KeepsReply net) :
    Replied net call.before.session call.uplink.confirmed call.before.session.cached
      call.after.session call.result := by
  obtain ⟨before, uplink, events, after, result⟩ := call
  have hhandled := trace_handle h
  dsimp only at hhandled hkeeps ⊢
  cases hhandled with
  | refused | replay | unsaved => exact .failed (.inr rfl)
  | repeated examined answer write =>
    rw [confirmed_of_examine_resubmit examined]
    have hreplied := ((resubmit_replies hkeeps).trace answer).2
    exact (hreplied.of_eq (persist_trace write).2).mapError _
  | @restarted counter _ _ _ _ _ examined tells carried =>
    have hrestarted : before.session.SameProfile (restarted before.session counter) := rfl
    exact ((carried.replied rfl).sameProfile hrestarted).of_none
  | @accepted counter _ _ _ _ examined carried =>
    have haccepted : before.session.SameProfile (before.session.accept counter) := rfl
    exact ((carried.replied rfl).sameProfile haccepted).of_none

/-- What is kept after a call is an acknowledgement, if what was kept before it is. -/
theorem Occurs.keepsReply (h : call.Occurs net) (hkeeps : call.before.session.KeepsReply net) :
    call.after.session.KeepsReply net := by
  have hprofile := (trace_handle h).sameProfile
  have hreplied := h.replied hkeeps
  generalize call.result = result at hreplied
  intro kept hkept
  have hbefore (hcached : call.after.session.cached = none ∨
      call.after.session.cached = call.before.session.cached) :
      ∃ frame, call.after.session.IsReply net true kept.payload kept.fcntDown frame := by
    rcases hcached with hnone | hsome
    · rw [hnone] at hkept
      cases hkept
    · obtain ⟨frame, hreply⟩ := hkeeps kept (hsome.symm.trans hkept)
      exact ⟨frame, hprofile.isReply_iff.mpr hreply⟩
  cases hreplied with
  | failed cached => exact hbefore cached
  | quiet unconfirmed cached => exact hbefore cached
  | @sent downlink n frame carries reply cached =>
    rcases cached with hnone | hsome | ⟨hconfirmed, hnew⟩
    · exact hbefore (.inl hnone)
    · exact hbefore (.inr hsome)
    · rw [hnew] at hkept
      cases hkept
      rw [hconfirmed] at reply
      exact ⟨frame, hprofile.isReply_iff.mpr reply⟩

end Handling

namespace HandlingRun

variable {net : Network} {start last : Device} {calls : List Handling}

end HandlingRun

end LoraNetwork
