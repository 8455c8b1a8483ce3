import LoraNetwork.Proofs.Program.Contract
import LoraNetwork.Uplink.Data

/-!
# What answering an uplink does

The part of the handling that fetches a cloud message, comes by a downlink counter and hands over a
downlink. All it asks of its collaborators concerns one device and one uplink, and all it does to
the session is to move the downlink counter and to keep the answer. Each function has one lemma that
says both, whatever the collaborators answer.
-/

namespace LoraNetwork

/-- The request belongs to the answer of a device's uplink. -/
def Request.ServesAnswer (eui : Eui64) (fcntUp : UInt32) : Request → Prop
  | allocate device _ up _ => device = eui ∧ up = fcntUp
  | receive device _ | settle _ device _ => device = eui
  | _ => False

/-- The operation belongs to the answer of a device's uplink. -/
def DataOperation.ServesAnswer (eui : Eui64) (fcntUp : UInt32) : DataOperation → Prop
  | clock => True
  | call request | race request _ => request.ServesAnswer eui fcntUp
  | wallClock | announce _ => False

/-- The downlink that a result carries. -/
def Downlink.ofResult {ε : Type} : Except ε (Option Downlink) → Option Downlink
  | .ok downlink => downlink
  | .error _ => none

/-- The result of an uplink as it is reported carries the downlink it carried before. -/
@[simp] theorem Downlink.ofResult_mapError {ε δ : Type} (result : Except ε (Option Downlink))
    (f : ε → δ) : Downlink.ofResult (result.mapError f) = Downlink.ofResult result := by
  cases result <;> rfl

namespace DataHandling

open Program

variable {net : Network} {timer : WindowTimer} {s : Session} {uplink : DataUplink}
variable {fcntUp : UInt32} {eui : Eui64}

/-! ## Single operations -/

section
variable {allowed : DataOperation → Prop}

theorem obeys_clock {post : Instant → Prop} :
    clock.Obeys allowed post ↔ allowed .clock ∧ ∀ now, post now := obeys_ask

theorem obeys_wallClock {post : UnixTime → Prop} :
    wallClock.Obeys allowed post ↔ allowed .wallClock ∧ ∀ now, post now := obeys_ask

theorem obeys_call {request : Request} {post : request.Answer → Prop} :
    (call request).Obeys allowed post ↔ allowed (.call request) ∧ ∀ answer, post answer := obeys_ask

theorem obeys_race {request : Request} {post : Option request.Answer → Prop} :
    (race timer request).Obeys allowed post ↔
      allowed (.race request (timer.deadline .rx2)) ∧ ∀ answer, post answer := obeys_ask

theorem obeys_announce {counter : UInt32} {post : Unit → Prop} :
    (announce counter).Obeys allowed post ↔ allowed (.announce counter) ∧ ∀ answer, post answer :=
  obeys_ask

end

/-! ## Cloud messages -/

/-- A missed window is no downlink. -/
@[simp] theorem ofResult_missed (confirmed : Bool) :
    Downlink.ofResult (missed confirmed) = none := by
  cases confirmed <;> rfl

theorem settle_obeys (how : Settlement) (message : Option CloudMessage) :
    (settle how eui message).Obeys (DataOperation.ServesAnswer eui fcntUp) fun _ => True := by
  cases message with
  | none => trivial
  | some message =>
    exact obeys_bind.mpr (obeys_call.mpr ⟨rfl, fun _ => trivial⟩)

theorem cloudBudget_obeys :
    (cloudBudget timer s).Obeys (DataOperation.ServesAnswer eui fcntUp) fun _ => True :=
  obeys_bind.mpr (obeys_clock.mpr ⟨trivial, fun _ => trivial⟩)

theorem fetchMessage_obeys :
    (fetchMessage timer s).Obeys (DataOperation.ServesAnswer s.devEui fcntUp) fun _ => True := by
  simp only [fetchMessage, bind_eq_bind, pure_eq_done, obeys_bind]
  refine cloudBudget_obeys.mono (fun _ h => h) fun budget _ => ?_
  split
  · trivial
  · rw [obeys_bind, obeys_race]
    refine ⟨rfl, fun answer => ?_⟩
    split <;> trivial

theorem peekMore_obeys :
    (peekMore timer s).Obeys (DataOperation.ServesAnswer s.devEui fcntUp) fun _ => True := by
  simp only [peekMore, bind_eq_bind, pure_eq_done, obeys_bind]
  refine cloudBudget_obeys.mono (fun _ h => h) fun budget _ => ?_
  split
  · trivial
  · rw [obeys_bind, obeys_race]
    refine ⟨rfl, fun answer => ?_⟩
    split
    · exact obeys_bind.mpr ((settle_obeys _ _).mono (fun _ h => h) fun _ h => h)
    · trivial

theorem collect_obeys :
    (collect timer s).Obeys (DataOperation.ServesAnswer s.devEui fcntUp) fun _ => True := by
  unfold collect
  split
  · trivial
  · rw [bind_eq_bind, obeys_bind]
    refine fetchMessage_obeys.mono (fun _ h => h) fun message _ => ?_
    cases message with
    | none => trivial
    | some message => exact obeys_bind.mpr (peekMore_obeys.mono (fun _ h => h) fun _ h => h)

/-- What is carried was offered and fits; the rest is settled and leaves the downlink as it was. -/
theorem load_obeys (builder : DownlinkBuilder) (message : Option CloudMessage) :
    (load timer eui builder message).Obeys (DataOperation.ServesAnswer eui fcntUp) fun loaded =>
      loaded = (builder, none) ∨
        ∃ carried, message = some carried ∧ builder.fit carried = .fits ∧
          loaded = (builder.offer carried, some carried) := by
  cases message with
  | none => exact .inl rfl
  | some message =>
    cases hfit : builder.fit message with
    | fits =>
      simp only [load, hfit]
      exact Or.inr ⟨message, rfl, hfit, rfl⟩
    | tooLarge | reservedPort | blocked =>
      simp only [load, hfit]
      exact obeys_bind.mpr ((settle_obeys _ _).mono (fun _ h => h) fun _ _ => Or.inl rfl)

/-! ## Downlink counters -/

/-- What coming by a counter leads to: a counter is taken, and a device with an owner takes the next
of its own; or a shared device stays as it is without one. -/
inductive Drawn (s : Session) : Session × Allocation → Prop where
  /-- A counter is taken. -/
  | granted {n : UInt32} (own : s.gatewayId.isSome = true → n = s.progress.fcntDown) :
      Drawn s (s.adopt n, .granted n)
  /-- There is no counter. -/
  | refused {allocation : Allocation} (none : ∀ n, allocation ≠ .granted n)
      (shared : s.gatewayId.isSome = false) : Drawn s (s, allocation)

theorem allocate_obeys :
    (allocate net timer s fcntUp).Obeys (DataOperation.ServesAnswer s.devEui fcntUp)
      (Drawn s) := by
  unfold allocate
  split
  · exact obeys_done.mpr (.granted fun _ => rfl)
  · rename_i hshared
    have hfalse := Bool.eq_false_iff.mpr hshared
    refine obeys_bind.mpr (obeys_race.mpr ⟨⟨rfl, rfl⟩, fun answer => ?_⟩)
    split
    · exact obeys_done.mpr (.granted fun howned => absurd howned hshared)
    all_goals exact obeys_done.mpr (.refused (by simp) hfalse)

/-! ## The first answer -/

/-- The content of a first answer: the commands that fit, and the message that is carried. -/
def content (uplink : DataUplink) (limit : Nat) (commands : List MacCommand)
    (carried : Option CloudMessage) (pending : Bool) : DownlinkBuilder :=
  let filled := (DownlinkBuilder.new limit uplink.onPortZero uplink.confirmed
    uplink.frame.header.control.adr).addAll commands
  ((carried.map filled.offer).getD filled).setPending pending

/-- The downlink was assembled for a window that the device listens in, within the size limit that
holds there, and carries a given counter. -/
structure FirstAnswer (net : Network) (timer : WindowTimer) (s : Session) (uplink : DataUplink)
    (commands : List MacCommand) (n : UInt32) (downlink : Downlink) : Prop where
  /-- What was sent, where and when. -/
  assembled : ∃ window params limit carried pending,
    place s uplink window = some (params, limit) ∧
      (content uplink limit commands carried pending).build net.suite s.devAddr s.keys n =
        .ok downlink.payload ∧
      downlink = .inWindow downlink.payload timer window params uplink.metadata (some n)

theorem FirstAnswer.fcntDown {commands : List MacCommand} {n : UInt32} {downlink : Downlink}
    (h : FirstAnswer net timer s uplink commands n downlink) : downlink.fcntDown = some n := by
  obtain ⟨window, params, limit, carried, pending, -, -, hd⟩ := h.assembled
  rw [hd]
  rfl

/-- What becomes of a counter that was taken for a first answer: it is not used, or a downlink
carries it and is kept if the uplink may be repeated. -/
inductive Delivered (net : Network) (timer : WindowTimer) (s : Session) (uplink : DataUplink)
    (fcntUp : UInt32) (commands : List MacCommand) (n : UInt32) : Session × Processed → Prop where
  /-- Nothing is sent. -/
  | wasted {result : Processed} (silent : Downlink.ofResult result = none) :
      Delivered net timer s uplink fcntUp commands n (s, result)
  /-- A downlink is sent. -/
  | sent {downlink : Downlink} (answer : FirstAnswer net timer s uplink commands n downlink) :
      Delivered net timer s uplink fcntUp commands n
        (remember s uplink.confirmed fcntUp ⟨downlink.payload, n⟩, .ok (some downlink))

theorem send_obeys {commands : List MacCommand} {n : UInt32} {offer : CloudOffer}
    {window : ReceiveWindow} {params : WindowParams} {limit : Nat}
    (hplace : place s uplink window = some (params, limit)) :
    (send net timer s uplink fcntUp n commands offer window params limit).Obeys
      (DataOperation.ServesAnswer s.devEui fcntUp)
      (Delivered net timer s uplink fcntUp commands n) := by
  refine obeys_bind.mpr ((load_obeys _ _).mono (fun _ h => h) fun loaded hloaded => ?_)
  obtain ⟨carried, hcontent⟩ : ∃ carried, loaded.1.setPending (loaded.2.isSome && offer.more) =
      content uplink limit commands carried (loaded.2.isSome && offer.more) := by
    rcases hloaded with rfl | ⟨message, -, -, rfl⟩
    · exact ⟨none, rfl⟩
    · exact ⟨some message, rfl⟩
  obtain ⟨builder, message⟩ := loaded
  dsimp only at hcontent ⊢
  rw [hcontent]
  split
  · exact obeys_done.mpr (.wasted rfl)
  · split
    · exact obeys_bind.mpr ((settle_obeys _ _).mono (fun _ h => h) fun _ _ => .wasted rfl)
    · rename_i payload hbuild
      have hanswer : FirstAnswer net timer s uplink commands n
          (.inWindow payload timer window params uplink.metadata (some n)) :=
        ⟨window, params, limit, carried, _, hplace, hbuild, rfl⟩
      refine obeys_bind.mpr ((settle_obeys _ _).mono (fun _ h => h) fun _ _ => ?_)
      exact obeys_done.mpr (.sent hanswer)

theorem deliver_obeys {commands : List MacCommand} {n : UInt32} {offer : CloudOffer} :
    (deliver net timer s uplink fcntUp n commands offer).Obeys
      (DataOperation.ServesAnswer s.devEui fcntUp)
      (Delivered net timer s uplink fcntUp commands n) := by
  refine obeys_bind.mpr (obeys_clock.mpr ⟨trivial, fun now => ?_⟩)
  split
  · exact obeys_bind.mpr ((settle_obeys _ _).mono (fun _ h => h) fun _ _ =>
      .wasted (ofResult_missed _))
  · split
    · exact obeys_bind.mpr ((settle_obeys _ _).mono (fun _ h => h) fun _ _ => .wasted rfl)
    · rename_i hplace
      exact send_obeys hplace

/-- What the first answer leads to: nothing is sent and the session stays as it is, or a counter is
taken and then sent or wasted. -/
inductive Answered (net : Network) (timer : WindowTimer) (s : Session) (uplink : DataUplink)
    (fcntUp : UInt32) (commands : List MacCommand) : Session × Processed → Prop where
  /-- No counter is taken. -/
  | silent {result : Processed} (silent : Downlink.ofResult result = none) :
      Answered net timer s uplink fcntUp commands (s, result)
  /-- A counter is taken. -/
  | drawn {n : UInt32} {result : Session × Processed}
      (own : s.gatewayId.isSome = true → n = s.progress.fcntDown)
      (delivered : Delivered net timer (s.adopt n) uplink fcntUp commands n result) :
      Answered net timer s uplink fcntUp commands result

/-- The first answer serves its uplink and changes the session as stated. -/
theorem respond_obeys {commands : List MacCommand} :
    (respond net timer s uplink fcntUp commands).Obeys
      (DataOperation.ServesAnswer s.devEui fcntUp)
      (Answered net timer s uplink fcntUp commands) := by
  refine obeys_bind.mpr (obeys_clock.mpr ⟨trivial, fun now => ?_⟩)
  split
  · exact obeys_done.mpr (.silent (ofResult_missed _))
  · refine obeys_bind.mpr (collect_obeys.mono (fun _ h => h) fun offer _ => ?_)
    split
    · exact obeys_done.mpr (.silent rfl)
    · refine obeys_bind.mpr (allocate_obeys.mono (fun _ h => h) fun drawn hdrawn => ?_)
      cases hdrawn with
      | granted own => exact deliver_obeys.mono (fun _ h => h) fun _ h => .drawn own h
      | @refused allocation hnone =>
        cases allocation with
        | granted n => exact absurd rfl (hnone n)
        | elsewhere | failed =>
          exact obeys_bind.mpr ((settle_obeys _ _).mono (fun _ h => h) fun _ _ => .silent rfl)
        | late =>
          exact obeys_bind.mpr ((settle_obeys _ _).mono (fun _ h => h) fun _ _ =>
            .silent (ofResult_missed _))

/-! ## Repeats -/

/-- The answer to a repeat that was not answered before: an acknowledgement for a window that the
device listens in, which carries a given counter. -/
structure Acknowledgement (net : Network) (timer : WindowTimer) (s : Session) (uplink : DataUplink)
    (n : UInt32) (downlink : Downlink) : Prop where
  /-- What was sent, where and when. -/
  assembled : ∃ window params limit,
    place s uplink window = some (params, limit) ∧
      (DownlinkBuilder.new limit false true uplink.frame.header.control.adr).build net.suite
        s.devAddr s.keys n = .ok downlink.payload ∧
      downlink = .inWindow downlink.payload timer window params uplink.metadata (some n)

theorem Acknowledgement.fcntDown {n : UInt32} {downlink : Downlink}
    (h : Acknowledgement net timer s uplink n downlink) : downlink.fcntDown = some n := by
  obtain ⟨window, params, limit, -, -, hd⟩ := h.assembled
  rw [hd]
  rfl

/-- The answer to a repeat that was answered before: what was sent then, in a window that the device
listens in now. -/
structure Replayed (timer : WindowTimer) (s : Session) (uplink : DataUplink) (kept : CachedDownlink)
    (downlink : Downlink) : Prop where
  /-- What was sent, where and when. -/
  chosen : ∃ window params,
    WindowParams.ofWindow s.region window uplink.metadata s.listening.rx1Offset
        s.listening.rx2DataRate = some params ∧
      downlink = .inWindow kept.payload timer window params uplink.metadata (some kept.fcntDown)

/-- What a repeat leads to, for a session that has counted it: nothing is sent; what was kept is
sent again; or nothing was kept, and a counter is taken and then sent or wasted. -/
inductive Repeated (net : Network) (timer : WindowTimer) (s : Session) (uplink : DataUplink)
    (kept : Confirmation) : Session × Processed → Prop where
  /-- No counter is taken and nothing is sent. -/
  | silent {result : Processed} (silent : Downlink.ofResult result = none) :
      Repeated net timer s uplink kept (s, result)
  /-- What was kept is sent again. -/
  | replayed {sent : CachedDownlink} {downlink : Downlink} (cached : kept.downlink = some sent)
      (answer : Replayed timer s uplink sent downlink) :
      Repeated net timer s uplink kept (s, .ok (some downlink))
  /-- A counter is taken for nothing. -/
  | wasted {n : UInt32} {result : Processed}
      (own : s.gatewayId.isSome = true → n = s.progress.fcntDown) (uncached : kept.downlink = none)
      (silent : Downlink.ofResult result = none) :
      Repeated net timer s uplink kept (s.adopt n, result)
  /-- A counter is taken, and an acknowledgement is sent and kept. -/
  | acknowledged {n : UInt32} {downlink : Downlink}
      (own : s.gatewayId.isSome = true → n = s.progress.fcntDown) (uncached : kept.downlink = none)
      (answer : Acknowledgement net timer (s.adopt n) uplink n downlink) :
      Repeated net timer s uplink kept
        ({ s.adopt n with
            confirmation := some { kept with downlink := some ⟨downlink.payload, n⟩ } },
          .ok (some downlink))

theorem acknowledge_obeys {kept : Confirmation} {window : ReceiveWindow} {params : WindowParams}
    (huncached : kept.downlink = none)
    (hparams : WindowParams.ofWindow s.region window uplink.metadata s.listening.rx1Offset
      s.listening.rx2DataRate = some params) :
    (acknowledge net timer s uplink fcntUp kept window params).Obeys
      (DataOperation.ServesAnswer s.devEui fcntUp) (Repeated net timer s uplink kept) := by
  refine obeys_bind.mpr (allocate_obeys.mono (fun _ h => h) fun drawn hdrawn => ?_)
  cases hdrawn with
  | @refused allocation hnone =>
    cases allocation with
    | granted n => exact absurd rfl (hnone n)
    | elsewhere | failed | late => exact obeys_done.mpr (.silent rfl)
  | @granted n own =>
    dsimp only
    split
    · exact obeys_done.mpr (.wasted own huncached rfl)
    · rename_i limit hlimit
      split
      · exact obeys_done.mpr (.wasted own huncached rfl)
      · rename_i payload hbuild
        have hplace : place (s.adopt n) uplink window = some (params, limit) := by
          rw [place]
          dsimp only [Session.adopt] at hlimit ⊢
          rw [hparams]
          dsimp only
          rw [hlimit]
          rfl
        have hanswer : Acknowledgement net timer (s.adopt n) uplink n
            (.inWindow payload timer window params uplink.metadata (some n)) :=
          ⟨window, params, limit, hplace, hbuild, rfl⟩
        exact obeys_done.mpr (.acknowledged own huncached hanswer)

/-- The session after a repeat was counted. -/
def counted (s : Session) (fcntUp : UInt32) : Session :=
  { s with confirmation := some (countRepeat s fcntUp) }

/-- The answer to a repeat serves its uplink and changes the session as stated. -/
theorem resubmit_obeys :
    (resubmit net s uplink fcntUp).Obeys (DataOperation.ServesAnswer s.devEui fcntUp)
      (Repeated net (uplink.timer net s) (counted s fcntUp) uplink (countRepeat s fcntUp)) := by
  unfold resubmit
  dsimp only
  split
  · exact obeys_done.mpr (.silent rfl)
  · refine obeys_bind.mpr (obeys_clock.mpr ⟨trivial, fun now => ?_⟩)
    split
    · exact obeys_done.mpr (.silent rfl)
    · split
      · exact obeys_done.mpr (.silent rfl)
      · rename_i window hwindow _ params hparams
        split
        · rename_i sent hcached
          have hanswer : Replayed (uplink.timer net s) (counted s fcntUp) uplink sent
              (.inWindow sent.payload (uplink.timer net s) window params uplink.metadata
                (some sent.fcntDown)) := ⟨window, params, hparams, rfl⟩
          exact obeys_done.mpr (.replayed hcached hanswer)
        · rename_i huncached
          have hack : (acknowledge net (uplink.timer net s) (counted s fcntUp) uplink fcntUp
              (countRepeat s fcntUp) window params).Obeys _ _ :=
            acknowledge_obeys huncached hparams
          exact hack

end DataHandling

end LoraNetwork
