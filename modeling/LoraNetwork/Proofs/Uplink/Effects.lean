import LoraNetwork.Proofs.Uplink.Examination
import LoraNetwork.Proofs.Uplink.Run

/-!
# Effects of an uplink

What the handling of an uplink does to the world outside, and when. Nothing is asked of anyone
unless the frame was verified under a counter, and then every request concerns the device and that
counter. Whoever asked anything that took effect leaves the session with that counter; whoever did
not may as well leave it as it was. What is sent, and what is kept to be sent again, is sealed for
the device.
-/

namespace LoraNetwork

namespace Request

/-- The request only looks something up. -/
def looksUp : Request → Bool
  | fetchSession _ | fetchCandidates _ | fetchJoinInfo _ => true
  | _ => false

/-- The request changed something outside. A write that failed did not. -/
def tookEffect : (request : Request) → request.Answer → Bool
  | persist .., .ok _ => true
  | persist .., .error _ => false
  | fetchSession _, _ | fetchCandidates _, _ | fetchJoinInfo _, _ => false
  | allocate .., _ | resetAllocation .., _ | receive .., _ | settle .., _ => true
  | sendTelemetry _, _ => true

end Request

/-- The operation changed something outside. Of a race that is not known. -/
def DataOperation.tookEffect : (op : DataOperation) → op.Answer → Bool
  | call request, answer => request.tookEffect answer
  | race request _, _ => !request.looksUp
  | clock, _ | wallClock, _ | announce _, _ => false

namespace Session

variable {net : Network} {s after : Session} {payload : Bytes}

/-- The bytes are a downlink to the device of a session, sealed with its keys. -/
def Seals (net : Network) (s : Session) (payload : Bytes) : Prop :=
  ∃ (builder : DownlinkBuilder) (n : UInt32),
    builder.build net.suite s.devAddr s.keys n = .ok payload

/-- What a session keeps for repeats is a downlink to its device. -/
def KeepsOwn (net : Network) (s : Session) : Prop :=
  ∀ kept sent, s.confirmation = some kept → kept.downlink = some sent → s.Seals net sent.payload

/-- Sessions with one profile seal alike. -/
theorem SameProfile.seals_iff (h : s.SameProfile after) :
    after.Seals net payload ↔ s.Seals net payload := by
  unfold SameProfile at h
  rw [h]
  rfl

/-- A session goes on to keep its own while it keeps the same. -/
theorem SameProfile.keepsOwn (h : s.SameProfile after)
    (hconfirmation : after.confirmation = s.confirmation) (hkeeps : s.KeepsOwn net) :
    after.KeepsOwn net := by
  intro kept sent hkept hsent
  rw [hconfirmation] at hkept
  exact h.seals_iff.mpr (hkeeps kept sent hkept hsent)

/-- A session that keeps nothing keeps its own. -/
theorem keepsOwn_of_none (h : s.confirmation = none) : s.KeepsOwn net := by
  intro kept sent hkept
  rw [h] at hkept
  cases hkept

/-- A session that keeps one downlink keeps its own if it has sealed it. -/
theorem keepsOwn_of_some {kept : Confirmation} {sent : CachedDownlink}
    (hkept : s.confirmation = some kept) (hsent : kept.downlink = some sent)
    (hseals : s.Seals net sent.payload) : s.KeepsOwn net := by
  intro kept' sent' hkept' hsent'
  rw [hkept] at hkept'
  rw [← Option.some.inj hkept', hsent] at hsent'
  rw [← Option.some.inj hsent']
  exact hseals

end Session

namespace DataHandling

open Program

variable {net : Network} {device : Device} {s : Session} {uplink : DataUplink}
variable {fcntUp : UInt32} {requests : List MacCommand}

/-! ## What the parts send -/

/-- What was recorded of an uplink stays; and what is kept and what is sent is the session's own, as
long as what was kept before is. -/
structure Own (net : Network) (s after : Session) (downlink : Option Downlink) : Prop where
  /-- What was recorded stays. -/
  same : s.SameUplink after
  /-- What is kept is the session's own. -/
  keeps : s.KeepsOwn net → after.KeepsOwn net
  /-- So is what is sent. -/
  sent : s.KeepsOwn net → ∀ d, downlink = some d → s.Seals net d.payload

/-- Nothing is sent, and the same is kept. -/
theorem own_of_silent {after : Session} (hsame : s.SameUplink after)
    (hconfirmation : after.confirmation = s.confirmation) : Own net s after none where
  same := hsame
  keeps := hsame.profile.keepsOwn hconfirmation
  sent _ d hd := by cases hd

/-- To write the session changes nothing of that. -/
theorem Own.persisted {middle after : Session} {downlink : Option Downlink}
    (h : Own net s middle downlink)
    (hafter : after = middle ∨ after = middle.written middle.delta) :
    Own net s after downlink := by
  rcases hafter with rfl | rfl
  · exact h
  · have hwritten : middle.SameUplink (middle.written middle.delta) := .written _ _
    exact ⟨h.same.trans hwritten, fun hkeeps => hwritten.profile.keepsOwn rfl (h.keeps hkeeps),
      h.sent⟩

/-- What comes before the answer may clear what is kept, but keeps nothing else. -/
theorem Own.prepared {middle after : Session} {downlink : Option Downlink}
    (h : Own net middle after downlink) (hsame : s.SameUplink middle)
    (hkeeps : s.KeepsOwn net → middle.KeepsOwn net) : Own net s after downlink where
  same := hsame.trans h.same
  keeps hown := h.keeps (hkeeps hown)
  sent hown d hd := hsame.profile.seals_iff.mp (h.sent (hkeeps hown) d hd)

/-- A first answer is the session's own. -/
theorem Answered.own {timer : WindowTimer} {commands : List MacCommand}
    {result : Session × Processed}
    (h : Answered net timer s uplink fcntUp commands result) :
    Own net s result.1 (Downlink.ofResult result.2) := by
  have hsame := h.sameUplink
  cases h with
  | silent silent =>
    rw [silent]
    exact own_of_silent hsame rfl
  | @drawn n _ own delivered =>
    cases delivered with
    | wasted silent =>
      rw [silent]
      exact own_of_silent hsame rfl
    | @sent downlink answer =>
      obtain ⟨window, params, limit, carried, pending, -, hbuild, -⟩ := answer.assembled
      have hseals : s.Seals net downlink.payload := ⟨_, n, hbuild⟩
      refine ⟨hsame, fun hkeeps => ?_, fun _ d hd => ?_⟩
      · cases hconfirmed : uplink.confirmed with
        | true =>
          rw [hconfirmed] at hsame
          exact Session.keepsOwn_of_some rfl rfl (hsame.profile.seals_iff.mpr hseals)
        | false => exact hkeeps
      · rw [← Option.some.inj hd]
        exact hseals

/-- The answer to a repeat is the session's own. -/
theorem Repeated.own {timer : WindowTimer} {kept : Confirmation} {result : Session × Processed}
    (h : Repeated net timer s uplink kept result) (hkept : s.confirmation = some kept) :
    Own net s result.1 (Downlink.ofResult result.2) := by
  have hsame := h.sameUplink
  cases h with
  | silent silent | wasted own uncached silent =>
    rw [silent]
    exact own_of_silent hsame rfl
  | @replayed sent downlink cached answer =>
    obtain ⟨window, params, -, hdownlink⟩ := answer.chosen
    refine ⟨hsame, id, fun hkeeps d hd => ?_⟩
    rw [← Option.some.inj hd, hdownlink]
    exact hkeeps kept sent hkept cached
  | @acknowledged n downlink own uncached answer =>
    obtain ⟨window, params, limit, -, hbuild, -⟩ := answer.assembled
    have hseals : s.Seals net downlink.payload := ⟨_, n, hbuild⟩
    refine ⟨hsame, fun _ => ?_, fun _ d hd => ?_⟩
    · exact Session.keepsOwn_of_some rfl rfl (hsame.profile.seals_iff.mpr hseals)
    · rw [← Option.some.inj hd]
      exact hseals

/-- What comes before the first answer keeps what was kept, or nothing. -/
theorem keepsOwn_prepared (hkeeps : s.KeepsOwn net) :
    (prepared net s uplink fcntUp).KeepsOwn net := by
  have hprepared := prepared_eq net s uplink fcntUp
  cases hconfirmed : uplink.confirmed with
  | true =>
    rw [hprepared, hconfirmed]
    intro kept sent hkept hsent
    rw [← Option.some.inj hkept] at hsent
    cases hsent
  | false =>
    refine (sameUplink_prepared net s uplink fcntUp).profile.keepsOwn ?_ hkeeps
    rw [hprepared, hconfirmed]
    rfl

/-- To count a repeat keeps what was kept, or nothing. -/
theorem keepsOwn_counted (hkeeps : s.KeepsOwn net) : (counted s fcntUp).KeepsOwn net := by
  intro kept sent hkept hsent
  rw [← Option.some.inj hkept] at hsent
  unfold countRepeat at hsent
  cases hconfirmation : s.confirmation with
  | none =>
    rw [hconfirmation] at hsent
    cases hsent
  | some before =>
    rw [hconfirmation] at hsent
    dsimp only at hsent
    split at hsent
    · exact hkeeps before sent hconfirmation hsent
    · cases hsent

/-! ## What the parts may ask -/

/-- What ends the handling concerns the uplink and writes what was answered. -/
theorem conclude_obeys {before : Session} {result : Session × Processed}
    (h : Own net s result.1 (Downlink.ofResult result.2)) :
    (conclude net before device result).Obeys (DataOperation.Concerns (.ofSession s) fcntUp)
      fun ended => ended.1.card = device.card ∧
        Own net s ended.1.session (Downlink.ofResult ended.2) := by
  refine obeys_bind.mpr (persist_obeys.mono ?_ fun after hafter => ?_)
  · rintro op rfl
    rw [← h.same.profile.card]
    rfl
  · refine obeys_done.mpr ⟨rfl, ?_⟩
    rw [Downlink.ofResult_mapError]
    exact h.persisted hafter

/-- To carry out a recorded uplink concerns it, and what is answered is the session's own. -/
theorem carryOut_obeys {recorded : Session} :
    (carryOut net device recorded uplink fcntUp requests).Obeys
      (DataOperation.Concerns (.ofSession recorded) fcntUp)
      fun ended => ended.1.card = device.card ∧
        Own net recorded ended.1.session (Downlink.ofResult ended.2) := by
  refine obeys_bind.mpr (obeys_announce.mpr ⟨rfl, fun _ => ?_⟩)
  refine obeys_bind.mpr (process_obeys.mono (fun _ h => h) fun answered hanswered => ?_)
  obtain ⟨commands, hanswered⟩ := hanswered
  have hsame := sameUplink_prepared net recorded uplink fcntUp
  have hprepared : Own net recorded answered.1 (Downlink.ofResult answered.2) :=
    hanswered.own.prepared hsame keepsOwn_prepared
  exact (conclude_obeys hprepared).mono (fun _ h => h) fun _ h => h

/-- To answer a repeat concerns it, and what is answered is the session's own. -/
theorem answerRepeat_obeys :
    ((resubmit net device.session uplink fcntUp).bind
        (conclude net device.session device)).Obeys
      (DataOperation.Concerns (.ofSession device.session) fcntUp)
      fun ended => ended.1.card = device.card ∧
        Own net device.session ended.1.session (Downlink.ofResult ended.2) := by
  refine obeys_bind.mpr (resubmit_obeys.mono (fun op hop => ?_) fun answered hanswered => ?_)
  · exact DataOperation.ServesAnswer.concerns hop
  · have hcounted : device.session.SameUplink (counted device.session fcntUp) := rfl
    exact conclude_obeys ((hanswered.own rfl).prepared hcounted keepsOwn_counted)

/-! ## The whole -/

/-- The contract of the handling of an uplink: it asks only what concerns the counter under which
the uplink was verified. The state is whether anything took effect. -/
def effects (net : Network) (s : Session) (uplink : DataUplink) : Contract dataInterface Bool where
  allows _ op :=
    ∃ counter, uplink.verified net s = some counter ∧ op.Concerns (.ofSession s) counter
  promises _ _ := True
  next acted event := acted || event.op.tookEffect event.answer

/-- What the handling leaves of a device: nothing took effect, nothing is sent and the session is as
it was; or the session carries the counter under which the uplink was verified. -/
structure Settled (net : Network) (device : Device) (uplink : DataUplink) (acted : Bool)
    (after : Device) (result : Except UplinkFailure (Option Downlink)) : Prop where
  /-- The device is the same one. -/
  card : after.card = device.card
  /-- So is the session. -/
  profile : device.session.SameProfile after.session
  /-- Nothing happened, or the counter was recorded. -/
  outcome : (acted = false ∧ after.session = device.session ∧ Downlink.ofResult result = none) ∨
    uplink.verified net device.session = some after.session.progress.fcntUp
  /-- What is kept is the session's own. -/
  keeps : device.session.KeepsOwn net → after.session.KeepsOwn net
  /-- So is what is sent. -/
  sent : device.session.KeepsOwn net → ∀ d, Downlink.ofResult result = some d →
    device.session.Seals net d.payload

/-- An uplink that is refused leaves the device as it was. -/
theorem settled_of_refused {failure : UplinkFailure} :
    Settled net device uplink false device (.error failure) where
  card := rfl
  profile := .refl _
  outcome := .inl ⟨rfl, rfl, rfl⟩
  keeps := id
  sent _ d hd := by cases hd

/-- An uplink that was recorded and answered settles the device. -/
theorem settled_of_own {recorded : Session} {acted : Bool} {after : Device}
    {result : Except UplinkFailure (Option Downlink)}
    (hrecorded : device.session.SameProfile recorded)
    (hverified : uplink.verified net device.session = some recorded.progress.fcntUp)
    (hkeeps : device.session.KeepsOwn net → recorded.KeepsOwn net)
    (hcard : after.card = device.card)
    (hown : Own net recorded after.session (Downlink.ofResult result)) :
    Settled net device uplink acted after result where
  card := hcard
  profile := hrecorded.trans hown.same.profile
  outcome := .inr (by rw [hverified, hown.same.fcntUp])
  keeps h := hown.keeps (hkeeps h)
  sent h d hd := hrecorded.seals_iff.mp (hown.sent (hkeeps h) d hd)

/-- A request is allowed to a verified uplink that it concerns. -/
theorem keeps_call {request : Request} {acted : Bool} {post : Bool → request.Answer → Prop}
    (hverified : uplink.verified net s = some fcntUp)
    (hconcerns : request.Concerns (.ofSession s) fcntUp)
    (hpost : ∀ answer, post (acted || request.tookEffect answer) answer) :
    (call request).Keeps (effects net s uplink) post acted :=
  ⟨⟨fcntUp, hverified, hconcerns⟩, fun answer _ => hpost answer⟩

/-- A part that concerns a verified uplink keeps the contract. -/
theorem keeps_effects_of_obeys {α : Type} {p : DataHandling α} {post : α → Prop} {acted : Bool}
    {settled : Bool → α → Prop} (hverified : uplink.verified net s = some fcntUp)
    (h : p.Obeys (DataOperation.Concerns (.ofSession s) fcntUp) post)
    (hpost : ∀ acted value, post value → settled acted value) :
    p.Keeps (effects net s uplink) settled acted := by
  have hallows : ∀ before op, True → DataOperation.Concerns (.ofSession s) fcntUp op →
      (effects net s uplink).allows before op := fun _ _ _ hop => ⟨fcntUp, hverified, hop⟩
  have hkeeps : p.Keeps (effects net s uplink) (fun _ value => True ∧ post value) acted :=
    h.keeps (fun _ => True) hallows (fun _ _ _ _ _ => trivial) trivial
  exact hkeeps.mono fun acted value hvalue => hpost acted value hvalue.2

/-- A restart keeps the contract. If the store does not take it, nothing took effect. -/
theorem restart_keeps (hverified : uplink.verified net s = some fcntUp) :
    (restart net s fcntUp).Keeps (effects net s uplink)
      (fun acted result => (result = none ∧ acted = false) ∨ result = some (restarted s fcntUp))
      false := by
  refine keeps_bind.mpr (keeps_call hverified rfl fun answer => ?_)
  cases answer with
  | error error => exact keeps_done.mpr (.inl ⟨rfl, rfl⟩)
  | ok _ =>
    dsimp only
    split
    · exact keeps_done.mpr (.inr rfl)
    · refine keeps_bind.mpr (keeps_call hverified rfl fun told => ?_)
      exact keeps_done.mpr (.inr rfl)

/-- The handling of an uplink keeps its contract and settles the device. -/
theorem handle_keeps :
    (handle net device uplink).Keeps (effects net device.session uplink)
      (fun acted ended => Settled net device uplink acted ended.1 ended.2) false := by
  unfold handle
  split
  · exact keeps_done.mpr settled_of_refused
  · rename_i verdict requests hexamined
    cases verdict with
    | invalid counter => exact keeps_done.mpr settled_of_refused
    | resubmit counter =>
      have hverified : uplink.verified net device.session = some counter := by
        simp [DataUplink.verified, hexamined]
      refine keeps_effects_of_obeys hverified answerRepeat_obeys ?_
      rintro acted ended ⟨hcard, hown⟩
      rw [DataUplink.eq_of_examine_resubmit hexamined] at hverified
      exact settled_of_own (.refl _) hverified id hcard hown
    | accept counter =>
      have hverified : uplink.verified net device.session = some counter := by
        simp [DataUplink.verified, hexamined]
      have haccepted : device.session.SameProfile (device.session.accept counter) := rfl
      refine keeps_effects_of_obeys hverified (haccepted.card ▸ carryOut_obeys) ?_
      rintro acted ended ⟨hcard, hown⟩
      exact settled_of_own haccepted hverified (fun _ => Session.keepsOwn_of_none rfl) hcard hown
    | reset counter =>
      have hverified : uplink.verified net device.session = some counter := by
        simp [DataUplink.verified, hexamined]
      have hrestarted : device.session.SameProfile (restarted device.session counter) := rfl
      refine keeps_bind.mpr ((restart_keeps hverified).mono fun acted result hresult => ?_)
      rcases hresult with ⟨rfl, rfl⟩ | rfl
      · exact keeps_done.mpr settled_of_refused
      · refine keeps_effects_of_obeys hverified (hrestarted.card ▸ carryOut_obeys) ?_
        rintro acted ended ⟨hcard, hown⟩
        exact settled_of_own hrestarted hverified (fun _ => Session.keepsOwn_of_none rfl) hcard hown

end DataHandling

end LoraNetwork
