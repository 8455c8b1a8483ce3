import LoraNetwork.Proofs.Uplink.Commanding
import LoraNetwork.Proofs.Uplink.Custody
import LoraNetwork.Proofs.Uplink.Punctuality

/-!
# Messages that have expired

A message from the cloud may carry an instant from which on it must not be delivered. The handler
looks at that instant in one place only: a message that is too large for the downlink is put back if
it outlives the uplink, and rejected if it does not. Whatever fits is carried, however long ago it
expired. So an expired message stays out of the downlink exactly if it does not fit there, or if
there is no downlink to put it in. One that is too large is never put back, since the queue is asked
only while the windows can still be reached.
-/

namespace LoraNetwork

open DataHandling

/-! ## The message that is offered -/

/-- The device finds no payload of an application in a downlink. -/
def Downlink.WithoutMessage (net : Network) (s : Session) (downlink : Downlink) : Prop :=
  ∃ n frame, downlink.fcntDown = some n ∧ DataFrame.parse downlink.payload = .ok frame ∧
    ∀ port payload, ¬ frame.HasPayload net.suite s.keys n port payload

/-- The device finds a message in a downlink. -/
def Downlink.WithMessage (net : Network) (s : Session) (m : CloudMessage) (downlink : Downlink) :
    Prop :=
  ∃ n frame, downlink.fcntDown = some n ∧ DataFrame.parse downlink.payload = .ok frame ∧
    frame.Carries net.suite s.keys n m

/-- What becomes of a message that is offered to a downlink behind some commands. It waits again, if
nothing was put together; or it is settled by how it fits, in the window that was chosen. -/
inductive Disposal (net : Network) (rule : CloudFit → Settlement) (s : Session)
    (uplink : DataUplink) (commands : List MacCommand) (m : CloudMessage) :
    Settlement → Option Downlink → Prop where
  /-- Nothing was put together. -/
  | waits : Disposal net rule s uplink commands m .abandon none
  /-- It fits and is carried. -/
  | carried {params : WindowParams} {limit : Nat} {downlink : Downlink}
      (placed : place s uplink downlink.window = some (params, limit))
      (fits : (filled uplink limit commands).fit m = .fits)
      (found : downlink.WithMessage net s m) :
      Disposal net rule s uplink commands m .complete (some downlink)
  /-- It does not fit. -/
  | unfit {window : ReceiveWindow} {params : WindowParams} {limit : Nat} {out : Option Downlink}
      (placed : place s uplink window = some (params, limit))
      (unfit : (filled uplink limit commands).fit m ≠ .fits)
      (absent : ∀ downlink, out = some downlink →
        downlink.window = window ∧ downlink.WithoutMessage net s) :
      Disposal net rule s uplink commands m (rule ((filled uplink limit commands).fit m)) out

/-- Only the profile of the session counts. -/
theorem Disposal.of_sameProfile {net : Network} {rule : CloudFit → Settlement} {s after : Session}
    {uplink : DataUplink} {commands : List MacCommand} {m : CloudMessage} {how : Settlement}
    {out : Option Downlink} (h : Disposal net rule after uplink commands m how out)
    (hprofile : s.SameProfile after) : Disposal net rule s uplink commands m how out := by
  unfold Session.SameProfile at hprofile
  rw [hprofile] at h
  cases h with
  | waits => exact .waits
  | carried placed fits found => exact .carried placed fits found
  | unfit placed unfit absent => exact .unfit placed unfit absent

namespace DataHandling

open Program

variable {net : Network} {timer : WindowTimer} {s : Session} {uplink : DataUplink}
variable {fcntUp n : UInt32} {eui : Eui64} {account : Account} {m : CloudMessage}
variable {commands : List MacCommand} {offer : CloudOffer}

/-- A message that fits stays open; any other is settled by how it does not fit. -/
theorem load_settles (builder : DownlinkBuilder) (m : CloudMessage) :
    (load timer eui builder (some m)).Keeps accounting
      (fun now loaded =>
        (builder.fit m = .fits ∧ loaded = (builder.offer m, some m) ∧ now = account) ∨
          (builder.fit m ≠ .fits ∧ loaded = (builder, none) ∧
            now = account.settle (settlementFor timer m (builder.fit m)) eui (some m)))
      account := by
  cases hfit : builder.fit m with
  | fits =>
    simp only [load, hfit]
    exact .inl ⟨trivial, rfl, rfl⟩
  | tooLarge | reservedPort | blocked =>
    simp only [load, hfit]
    exact settle_bind_keeps (.inr ⟨by simp, rfl, rfl⟩)

/-- A message that was offered has been settled, by what became of it. -/
def Settled.Offered (net : Network) (timer : WindowTimer) (s : Session) (uplink : DataUplink)
    (commands : List MacCommand) (m : CloudMessage) (account now : Account)
    (out : Option Downlink) : Prop :=
  ∃ how, now = account.settle how s.devEui (some m) ∧
    Disposal net (settlementFor timer m) s uplink commands m how out

theorem send_settles {window : ReceiveWindow} {params : WindowParams} {limit : Nat}
    (hplace : place s uplink window = some (params, limit)) (hoffer : offer.message = some m) :
    (send net timer s uplink fcntUp n commands offer window params limit).Keeps accounting
      (fun now result => Settled.Offered net timer s uplink commands m account now
        (Downlink.ofResult result.2)) account := by
  unfold send
  rw [hoffer]
  refine keeps_bind.mpr ((load_settles _ _).mono fun now loaded hloaded => ?_)
  have hwritten := fun carried pending =>
    (writable_content uplink limit commands carried pending).exists_build net.suite s.devAddr
      s.keys n
  rcases hloaded with ⟨hfit, rfl, rfl⟩ | ⟨hfit, rfl, rfl⟩
  · -- The message is carried, so the downlink is not empty.
    have hnotEmpty := DownlinkBuilder.isEmpty_of_fit hfit ((some m).isSome && offer.more)
    obtain ⟨payload, hbuild⟩ := hwritten (some m) ((some m).isSome && offer.more)
    obtain ⟨frame, hparse, hshows⟩ := DownlinkBuilder.parse_of_build hbuild
    have hcarries : frame.Carries net.suite s.keys n m :=
      (DownlinkBuilder.carries_of_fit hfit hshows).1
    dsimp only [content, Option.map_some, Option.getD_some] at hbuild
    dsimp only
    rw [hnotEmpty, hbuild]
    refine settle_bind_keeps ⟨.complete, rfl, ?_⟩
    exact .carried hplace hfit ⟨n, frame, rfl, hparse, hcarries⟩
  · -- The message is settled already.
    have hcloud : ∀ pending, (content uplink limit commands none pending).cloud = none :=
      fun _ => DownlinkBuilder.cloud_addAll _ commands
    obtain ⟨payload, hbuild⟩ := hwritten none ((none : Option CloudMessage).isSome && offer.more)
    obtain ⟨frame, hparse, hshows⟩ := DownlinkBuilder.parse_of_build hbuild
    have habsent := DownlinkBuilder.not_hasPayload_of_none (hcloud _) hshows
    dsimp only [content, Option.map_none, Option.getD_none] at hbuild
    dsimp only
    split
    · exact ⟨_, rfl, .unfit hplace hfit nofun⟩
    · rw [hbuild]
      refine settle_bind_keeps ⟨_, Account.settle_none, .unfit hplace hfit ?_⟩
      intro downlink hdownlink
      rw [← Option.some.inj hdownlink]
      exact ⟨rfl, n, frame, rfl, hparse, habsent⟩

theorem deliver_settles (hoffer : offer.message = some m) :
    (deliver net timer s uplink fcntUp n commands offer).Keeps accounting
      (fun now result => Settled.Offered net timer s uplink commands m account now
        (Downlink.ofResult result.2)) account := by
  have hwaits : Settled.Offered net timer s uplink commands m account
      (account.settle .abandon s.devEui offer.message) none :=
    ⟨.abandon, by rw [hoffer], .waits⟩
  refine keeps_clock_bind fun now => ?_
  split
  · refine settle_bind_keeps ?_
    rw [ofResult_missed]
    exact hwaits
  · split
    · exact settle_bind_keeps hwaits
    · rename_i hplace
      exact send_settles hplace hoffer

/-- How a first answer treats the messages that it is handed. There is none; or the first is offered
to the downlink, and one behind it is put back. -/
inductive Treated (net : Network) (timer : WindowTimer) (s : Session) (uplink : DataUplink)
    (commands : List MacCommand) (account : Account) (out : Option Downlink) : Prop where
  /-- No message was handed over. -/
  | spared (delivered : account.delivered = [])
  /-- One was, and maybe another one behind it. -/
  | offered {m : CloudMessage} {behind : Option CloudMessage} {how : Settlement}
      (delivered : account.delivered = (m :: behind.toList).map fun m => (s.devEui, m))
      (settled : account.settled = behind.toList.map (fun m => (.abandon, s.devEui, m)) ++
        [(how, s.devEui, m)])
      (disposal : Disposal net (settlementFor timer m) s uplink commands m how out)

theorem Treated.of_sameProfile {after : Session} {out : Option Downlink}
    (h : Treated net timer after uplink commands account out) (hprofile : s.SameProfile after) :
    Treated net timer s uplink commands account out := by
  cases h with
  | spared delivered => exact .spared delivered
  | offered delivered settled disposal =>
    have hdisposal := disposal.of_sameProfile hprofile
    unfold Session.SameProfile at hprofile
    rw [hprofile] at delivered settled
    exact .offered delivered settled hdisposal

/-- Without a message that is offered there is none at all. -/
theorem Looked.spared {now later : Account} {out : Option Downlink}
    (h : Looked {} s.devEui offer now) (hoffer : offer.message = none)
    (hdelivered : later.delivered = now.delivered) :
    Treated net timer s uplink commands later out := by
  obtain ⟨behind, -, habsent, hnow⟩ := h.entered
  refine .spared ?_
  rw [hdelivered, hnow, hoffer, habsent hoffer]
  rfl

/-- A message that was handed over is treated once it is settled. -/
theorem Looked.treated {now later final : Account} {out : Option Downlink}
    (h : Looked {} s.devEui offer now) (hoffer : offer.message = some m)
    (hdelivered : later.delivered = now.delivered) (hsettled : later.settled = now.settled)
    (hfinal : Settled.Offered net timer s uplink commands m later final out) :
    Treated net timer s uplink commands final out := by
  obtain ⟨behind, -, -, hnow⟩ := h.entered
  obtain ⟨how, rfl, hdisposal⟩ := hfinal
  refine @Treated.offered net timer s uplink commands _ out m behind how ?_ ?_ hdisposal
  · have hsame : (later.settle how s.devEui (some m)).delivered = later.delivered := rfl
    rw [hsame, hdelivered, hnow, hoffer]
    cases behind <;> rfl
  · rw [Account.settle, hsettled, hnow]
    cases behind <;> rfl

/-- A downlink is handed over for a session that differs in its counters only. -/
theorem deliver_treats {now later : Account} (hlooked : Looked {} s.devEui offer now)
    (hdelivered : later.delivered = now.delivered) (hsettled : later.settled = now.settled) :
    (deliver net timer (s.adopt n) uplink fcntUp n commands offer).Keeps accounting
      (fun final result => Treated net timer s uplink commands final (Downlink.ofResult result.2))
      later := by
  cases hoffer : offer.message with
  | none =>
    refine deliver_keeps_account.mono fun final result hclosed => ?_
    obtain ⟨how, hfinal, -⟩ := hclosed.settled
    rw [hoffer, Account.settle_none] at hfinal
    exact hlooked.spared hoffer (hfinal ▸ hdelivered)
  | some m =>
    refine (deliver_settles hoffer).mono fun final result hfinal => ?_
    obtain ⟨how, hsettles, hdisposal⟩ := hfinal
    exact hlooked.treated hoffer hdelivered hsettled ⟨how, hsettles, hdisposal.of_sameProfile rfl⟩

/-- Without a counter a message that is offered waits again. -/
theorem Looked.waits_treated {now : Account} {result : Processed}
    (hlooked : Looked {} s.devEui offer now) (hsilent : Downlink.ofResult result = none) :
    Treated net timer s uplink commands (now.settle .abandon s.devEui offer.message)
      (Downlink.ofResult result) := by
  rw [hsilent]
  cases hoffer : offer.message with
  | none => exact hlooked.spared hoffer (by rw [Account.settle_none])
  | some m => exact hlooked.treated hoffer rfl rfl ⟨.abandon, rfl, .waits⟩

/-- How the first answer to an uplink treats the messages that it is handed. -/
theorem respond_treats :
    (respond net timer s uplink fcntUp commands).Keeps accounting
      (fun now result => Treated net timer s uplink commands now (Downlink.ofResult result.2))
      {} := by
  refine keeps_clock_bind fun now => ?_
  split
  · exact .spared rfl
  · refine keeps_bind.mpr (collect_keeps.mono fun looked offer hlooked => ?_)
    split
    · rename_i hidle
      simp only [Bool.and_eq_true, Option.isNone_iff_eq_none] at hidle
      exact hlooked.spared hidle.2 rfl
    · refine keeps_bind.mpr (allocate_keeps.mono fun later drawn hgranted => ?_)
      cases hgranted with
      | own => exact deliver_treats hlooked rfl rfl
      | allocated hshared => exact deliver_treats hlooked rfl rfl
      | @refused allocation hrefused =>
        cases allocation with
        | granted n => exact absurd rfl (hrefused n)
        | elsewhere | failed => exact settle_bind_keeps (hlooked.waits_treated rfl)
        | late => exact settle_bind_keeps (hlooked.waits_treated (ofResult_missed _))

end DataHandling

/-! ## When the queue is asked -/

/-- The operation asks the queue for a message. -/
def DataOperation.asksQueue : DataOperation → Bool
  | call (.receive ..) | race (.receive ..) _ => true
  | _ => false

/-- The queue is asked only right after a reading of the clock, up to a deadline that has not passed
by then and that comes before the second window. -/
def askingInTime (timer : WindowTimer) : Contract dataInterface (Option Instant) where
  allows reading op := DataOperation.asksQueue op = true →
    ∃ request deadline now, op = .race request deadline ∧ reading = some now ∧ now ≤ deadline ∧
      deadline ≤ timer.arrival + (timer.rx2Delay : Int)
  promises _ _ := True
  next
    | _, ⟨.clock, now⟩ => some now
    | _, _ => none

/-- A reading that is fresh was the last event. -/
theorem exists_clock_of_foldl {timer : WindowTimer} {events : List (Event dataInterface)}
    {now : Instant} (h : events.foldl (askingInTime timer).next none = some now) :
    ∃ before, events = before ++ [⟨.clock, now⟩] := by
  rcases events.eq_nil_or_concat with rfl | ⟨before, ⟨op, answer⟩, rfl⟩
  · cases h
  · rw [List.concat_eq_append] at h ⊢
    rw [List.foldl_append] at h
    cases op with
    | clock =>
      rw [← Option.some.inj h]
      exact ⟨before, rfl⟩
    | wallClock | call request | race request deadline | announce counter => cases h

/-- While time is left for the queue, the deadline of the second window has not passed. -/
theorem WindowTimer.le_deadline_of_cloudBudget {timer : WindowTimer} {preferred : UInt8}
    {now : Instant} (hdelay : timer.rx1Delay ≤ timer.rx2Delay)
    (h : timer.cloudBudget preferred (timer.elapsed now) ≠ 0) :
    now ≤ timer.deadline .rx2 ∧ timer.deadline .rx2 ≤ timer.arrival + (timer.rx2Delay : Int) := by
  obtain ⟨window, -, hwindow, -⟩ := slack_of_cloudBudget h
  have hsecond : timer.delay window ≤ timer.rx2Delay := by
    cases window with
    | rx1 => exact hdelay
    | rx2 => exact Nat.le_refl _
  have hdeadline : timer.deadline .rx2 =
      timer.arrival + ((timer.rx2Delay - timer.processing : Nat) : Int) := rfl
  rw [hdeadline]
  unfold elapsed Instant.since at hwindow
  unfold Instant Duration at *
  omega

/-- What closes the handling does not ask the queue. -/
theorem DataOperation.asksQueue_of_closes (op : DataOperation) (h : op.closes = true) :
    op.asksQueue = false := by
  cases op with
  | clock | wallClock | announce counter => rfl
  | call request | race request deadline => cases request <;> first | rfl | cases h

namespace DataHandling

open Program

variable {net : Network} {timer : WindowTimer} {s : Session} {uplink : DataUplink}
variable {fcntUp n : UInt32} {eui : Eui64} {commands : List MacCommand} {offer : CloudOffer}
variable {reading : Option Instant}

/-- What does not ask the queue does not ask it too late. -/
theorem keeps_asking_of_obeys {α : Type} {p : DataHandling α} {post : α → Prop}
    {reading : Option Instant}
    (h : p.Obeys (fun op : DataOperation => op.asksQueue = false) post) :
    p.Keeps (askingInTime timer) (fun _ value => post value) reading := by
  refine (h.keeps (fun _ => True) ?_ (fun _ _ _ _ _ => trivial) trivial).mono fun _ _ h => h.2
  intro reading op _ hquiet hasks
  rw [hquiet] at hasks
  cases hasks

/-- The time that is left for the queue is that at a reading of the clock. -/
theorem cloudBudget_keeps_asking {reading : Option Instant} :
    (cloudBudget timer s).Keeps (askingInTime timer)
      (fun reading budget => ∃ now, reading = some now ∧
        budget = timer.cloudBudget s.listening.preferredWindow (timer.elapsed now)) reading :=
  keeps_perform.mpr ⟨nofun, fun now _ => ⟨now, rfl, rfl⟩⟩

/-- The queue may be asked right after that, unless no time is left. -/
theorem allows_receive {now : Instant} {wait : Duration} (hdelay : timer.rx1Delay ≤ timer.rx2Delay)
    (h : timer.cloudBudget s.listening.preferredWindow (timer.elapsed now) ≠ 0) :
    (askingInTime timer).allows (some now) (.race (.receive eui wait) (timer.deadline .rx2)) := by
  intro _
  obtain ⟨hreading, hsecond⟩ := WindowTimer.le_deadline_of_cloudBudget hdelay h
  exact ⟨_, _, now, rfl, rfl, hreading, hsecond⟩

theorem settle_bind_asksNot {α : Type} (how : Settlement) (message : Option CloudMessage)
    (value : α) :
    ((settle how eui message).bind fun _ => done value).Obeys
      (fun op : DataOperation => op.asksQueue = false) fun _ => True :=
  obeys_bind.mpr ((settle_closes how message).mono DataOperation.asksQueue_of_closes fun _ h => h)

theorem fetchMessage_keeps_asking (hdelay : timer.rx1Delay ≤ timer.rx2Delay) :
    (fetchMessage timer s).Keeps (askingInTime timer) (fun _ _ => True) reading := by
  refine keeps_bind.mpr (cloudBudget_keeps_asking.mono ?_)
  rintro _ _ ⟨now, rfl, rfl⟩
  split
  · trivial
  · rename_i hbudget
    refine keeps_bind.mpr ⟨allows_receive hdelay hbudget, fun answer _ => keeps_done.mpr ?_⟩
    split <;> trivial

theorem peekMore_keeps_asking (hdelay : timer.rx1Delay ≤ timer.rx2Delay) :
    (peekMore timer s).Keeps (askingInTime timer) (fun _ _ => True) reading := by
  refine keeps_bind.mpr (cloudBudget_keeps_asking.mono ?_)
  rintro _ _ ⟨now, rfl, rfl⟩
  split
  · trivial
  · rename_i hbudget
    refine keeps_bind.mpr ⟨allows_receive hdelay hbudget, fun answer _ => keeps_done.mpr ?_⟩
    split
    · exact keeps_asking_of_obeys (settle_bind_asksNot _ _ _)
    · trivial

theorem collect_keeps_asking (hdelay : timer.rx1Delay ≤ timer.rx2Delay) :
    (collect timer s).Keeps (askingInTime timer) (fun _ _ => True) reading := by
  unfold collect
  split
  · trivial
  · refine keeps_bind.mpr ((fetchMessage_keeps_asking hdelay).mono fun _ message _ => ?_)
    cases message with
    | none => trivial
    | some message =>
      exact keeps_bind.mpr ((peekMore_keeps_asking hdelay).mono fun _ _ _ => trivial)

/-- Handing a downlink over does not ask the queue. -/
theorem deliver_asksNot :
    (deliver net timer s uplink fcntUp n commands offer).Obeys
      (fun op : DataOperation => op.asksQueue = false) fun _ => True := by
  refine obeys_bind.mpr (obeys_clock.mpr ⟨rfl, fun now => ?_⟩)
  split
  · exact settle_bind_asksNot _ _ _
  · split
    · exact settle_bind_asksNot _ _ _
    · refine obeys_bind.mpr ((load_closes _ _).mono DataOperation.asksQueue_of_closes ?_)
      intro loaded _
      dsimp only
      split
      · trivial
      · split <;> exact settle_bind_asksNot _ _ _

theorem respond_keeps_asking (hdelay : timer.rx1Delay ≤ timer.rx2Delay) :
    (respond net timer s uplink fcntUp commands).Keeps (askingInTime timer) (fun _ _ => True)
      reading := by
  refine keeps_perform.mpr ⟨nofun, fun now _ => ?_⟩
  dsimp only [done_bind]
  split
  · trivial
  · refine keeps_bind.mpr ((collect_keeps_asking hdelay).mono fun _ offer _ => ?_)
    split
    · trivial
    · refine keeps_asking_of_obeys (obeys_bind.mpr
        (allocate_closes.mono DataOperation.asksQueue_of_closes fun drawn _ => ?_))
      obtain ⟨after, allocation⟩ := drawn
      cases allocation with
      | granted n => exact deliver_asksNot
      | elsewhere | failed | late => exact settle_bind_asksNot _ _ _

/-- A message is handed over before the second window opens. -/
theorem received_in_time {before after : List (Event dataInterface)} {result : Session × Processed}
    {wait : Duration} {deadline start began instant : Instant} {m : CloudMessage}
    (hdelay : timer.rx1Delay ≤ timer.rx2Delay)
    (h : (respond net timer s uplink fcntUp commands).Trace
      (before ++ ⟨.race (.receive eui wait) deadline, some (.ok (some m))⟩ :: after) result)
    (hpasses : Passes start before began)
    (htakes : DataOperation.Takes began instant
      ⟨.race (.receive eui wait) deadline, some (.ok (some m))⟩) :
    instant ≤ timer.arrival + (timer.rx2Delay : Int) := by
  have hkeeps : (respond net timer s uplink fcntUp commands).Keeps (askingInTime timer)
      (fun _ _ => True) none := respond_keeps_asking hdelay
  obtain ⟨_, _, now, hop, hreading, hnow, hdeadline⟩ :=
    Keeps.allows_of_trace hkeeps h (fun _ _ => trivial) rfl
  cases hop
  -- The clock was read right before, so no time has passed since.
  obtain ⟨earlier, rfl⟩ := exists_clock_of_foldl hreading
  obtain ⟨middle, -, hclock⟩ := Passes.append_iff.mp hpasses
  cases hclock with
  | cons hread hrest =>
    cases hrest
    obtain ⟨hmiddle, hbegan⟩ := hread
    have hlast : instant ≤ max began deadline := htakes.2
    rw [hbegan, ← hmiddle, Int.max_eq_right hnow] at hlast
    exact Int.le_trans hlast hdeadline

/-! ## The first answer in a call -/

/-- Among some events are those of a first answer with commands for the device. The others neither
ask the queue, nor settle a message, nor ask for a counter. -/
structure Responds (net : Network) (s : Session) (uplink : DataUplink) (commands : List MacCommand)
    (events : List (Event dataInterface)) (out : Option Downlink) : Prop where
  /-- What comes before the first answer, the answer itself, and what comes after it. -/
  parts : ∃ before responding after prepared counter result,
    events = before ++ (responding ++ after) ∧
      (∀ event ∈ before, event.op.entersAccount = false) ∧
      (∀ event ∈ after, event.op.entersAccount = false) ∧ s.SameProfile prepared ∧
      (respond net (uplink.timer net s) prepared uplink counter commands).Trace responding result ∧
      out = Downlink.ofResult result.2

/-- More may come before. -/
theorem Responds.append_left {first events : List (Event dataInterface)} {out : Option Downlink}
    (h : Responds net s uplink commands events out)
    (hfirst : ∀ event ∈ first, event.op.entersAccount = false) :
    Responds net s uplink commands (first ++ events) out := by
  obtain ⟨before, responding, after, prepared, counter, result, rfl, hbefore, hafter, hprofile,
    htrace, hout⟩ := h.parts
  refine ⟨first ++ before, responding, after, prepared, counter, result, ?_, ?_, hafter, hprofile,
    htrace, hout⟩
  · rw [List.append_assoc]
  · intro event hmem
    exact (List.mem_append.mp hmem).elim (hfirst event) (hbefore event)

theorem Responds.of_sameProfile {after : Session} {events : List (Event dataInterface)}
    {out : Option Downlink} (h : Responds net after uplink commands events out)
    (hprofile : s.SameProfile after) : Responds net s uplink commands events out := by
  unfold Session.SameProfile at hprofile
  rw [hprofile] at h
  exact ⟨h.parts⟩

/-- An uplink that is carried out is answered once its requests are answered and its payload is
forwarded. -/
theorem CarriedOut.responds {device after : Device} {recorded : Session}
    {requests : List MacCommand} {events : List (Event dataInterface)}
    {result : Except UplinkFailure (Option Downlink)}
    (h : CarriedOut net device recorded uplink fcntUp requests events after result) :
    ∃ answers asked, asked <:+: events ∧ (answersTo uplink.metadata requests).Trace asked answers ∧
      Responds net recorded uplink
        (answers ++ (adaptIfAsked net recorded uplink fcntUp).2.toList) events
        (Downlink.ofResult result) := by
  obtain ⟨processing, writing, answered, rfl, hprocess, hpersist, -, rfl⟩ := h.parts
  obtain ⟨answers, asked, later, hanswers, hlater, rfl⟩ := trace_bind.mp hprocess
  obtain ⟨_, forwarding, responding, hforward, hrespond, rfl⟩ := trace_bind.mp hlater
  have hprofile := (sameUplink_prepared net recorded uplink fcntUp).profile
  have htimer : uplink.timer net (prepared net recorded uplink fcntUp) =
      uplink.timer net recorded := by
    unfold Session.SameProfile at hprofile
    rw [hprofile]
    rfl
  have hanswer : (respond net (uplink.timer net recorded) (prepared net recorded uplink fcntUp)
      uplink fcntUp (answers ++ (adaptIfAsked net recorded uplink fcntUp).2.toList)).Trace
        responding answered := htimer ▸ hrespond
  have hquiet : ∀ event ∈ (⟨.announce fcntUp, ()⟩ : Event dataInterface) :: (asked ++ forwarding),
      event.op.entersAccount = false := by
    intro event hmem
    rcases List.mem_cons.mp hmem with rfl | hmem
    · rfl
    rcases List.mem_append.mp hmem with hasked | hforwarded
    · rw [((answersTo_obeys _ _).trace hanswers).1 event hasked]
      rfl
    · obtain ⟨telemetry, hop⟩ := (forward_sends.trace hforward).1 event hforwarded
      rw [hop]
      rfl
  refine ⟨answers, asked, ⟨[⟨.announce fcntUp, ()⟩], forwarding ++ responding ++ writing, ?_⟩,
    hanswers, ⟨_, responding, writing, _, _, answered, ?_, hquiet, persist_not_enters hpersist,
      hprofile, hanswer, Downlink.ofResult_mapError _ _⟩⟩
  · simp
  · simp

end DataHandling

namespace Handling

open DataHandling

variable {net : Network} {call : Handling}

/-- A call that records a counter answers its uplink for the first time, with its answers to the
requests and the command of adaptive data rate. -/
theorem Occurs.responds (h : call.Occurs net) (hrecorded : (call.recorded net).isSome = true) :
    ∃ answers, call.Answers net answers ∧
      Responds net call.before.session call.uplink (answers ++ (call.command net).toList)
        call.events call.downlink := by
  obtain ⟨before, uplink, events, after, result⟩ := call
  have hhandled := trace_handle h
  dsimp only at hhandled
  cases hhandled with
  | refused examined | replay examined | unsaved examined | repeated examined =>
    simp [recorded, accepted, honoured, verdict, examined, startsWithWrite, restartWrite]
      at hrecorded
  | @restarted counter requests told events _ _ examined tells carried =>
    have hquiet : ∀ event ∈ restartWrite before.session counter (.ok ()) :: told,
        event.op.entersAccount = false := by
      intro event hmem
      rcases List.mem_cons.mp hmem with hwrite | htold
      · rw [hwrite]
        rfl
      · obtain ⟨_, _, hop⟩ := tells event htold
        rw [hop]
        rfl
    obtain ⟨answers, asked, hasked, htrace, hresponds⟩ := carried.responds
    have hinfix : events <:+: restartWrite before.session counter (.ok ()) :: (told ++ events) :=
      ⟨restartWrite before.session counter (.ok ()) :: told, [], by simp⟩
    have hbasis : basis net ⟨before, uplink,
        restartWrite before.session counter (.ok ()) :: (told ++ events), after, result⟩ =
          some (restarted before.session counter, counter) := by
      simp [basis, accepted, honoured, verdict, examined, startsWithWrite, restartWrite]
    have hfirst : Responds net before.session uplink _ events (Downlink.ofResult result) :=
      hresponds.of_sameProfile rfl
    rw [command_of_basis hbasis]
    exact ⟨answers, ⟨_, asked, examined, hasked.trans hinfix, htrace⟩, hfirst.append_left hquiet⟩
  | @accepted counter requests events _ _ examined carried =>
    obtain ⟨answers, asked, hasked, htrace, hresponds⟩ := carried.responds
    have hbasis : basis net ⟨before, uplink, events, after, result⟩ =
        some (before.session.accept counter, counter) := by
      simp [basis, accepted, verdict, examined]
    rw [command_of_basis hbasis]
    exact ⟨answers, ⟨_, asked, examined, hasked, htrace⟩, hresponds.of_sameProfile rfl⟩

/-- What a call does with the messages that the queue hands over is what its first answer does. -/
theorem Occurs.treated (h : call.Occurs net) (hrecorded : (call.recorded net).isSome = true) :
    ∃ answers, call.Answers net answers ∧
      Treated net (call.uplink.timer net call.before.session) call.before.session call.uplink
        (answers ++ (call.command net).toList) call.account call.downlink := by
  obtain ⟨answers, hanswers, hresponds⟩ := h.responds hrecorded
  obtain ⟨before, responding, after, prepared, counter, result, hevents, hbefore, hafter, hprofile,
    htrace, hout⟩ := hresponds.parts
  have haccount : call.account = .of responding := by
    rw [account, hevents, Account.of_append_of_not_left hbefore,
      Account.of_append_of_not_right hafter]
  refine ⟨answers, hanswers, ?_⟩
  rw [haccount, hout]
  exact (respond_treats.trace htrace fun _ _ => trivial).of_sameProfile hprofile

end Handling

/-! ## Expired messages -/

/-- The message must not be delivered any more. -/
def CloudMessage.HasExpired (m : CloudMessage) (now : Instant) : Prop :=
  ∃ expiry, m.expiresAt = some expiry ∧ expiry ≤ now

/-- How a message that has expired is settled, by how it fits. -/
def CloudFit.settlesExpired : CloudFit → Settlement
  | .fits => .complete
  | .blocked => .abandon
  | .reservedPort | .tooLarge => .reject

/-- The second window opens after the first. -/
theorem DataUplink.rx1Delay_le_rx2Delay (net : Network) (uplink : DataUplink) (s : Session) :
    (uplink.timer net s).rx1Delay ≤ (uplink.timer net s).rx2Delay :=
  Nat.le_add_right _ _

/-- A message that has expired before the second window opens does not outlive the uplink. -/
theorem DataHandling.settlementFor_of_hasExpired {timer : WindowTimer} {m : CloudMessage}
    {now : Instant} (hexpired : m.HasExpired now)
    (hnow : now ≤ timer.arrival + (timer.rx2Delay : Int)) :
    settlementFor timer m = CloudFit.settlesExpired := by
  obtain ⟨expiry, hexpiry, hpast⟩ := hexpired
  have hnever : canRetry timer m = false := by
    unfold canRetry
    rw [hexpiry]
    exact decide_eq_false (Int.not_lt.mpr (Int.le_trans hpast hnow))
  funext fit
  cases fit with
  | fits | blocked | reservedPort => rfl
  | tooLarge => simp [settlementFor, hnever, CloudFit.settlesExpired]

/-- The message that the queue hands over, before the race for it is lost. -/
def Event.handedOver : Event dataInterface → Option CloudMessage
  | ⟨.race (.receive ..) _, some (.ok (some m))⟩ => some m
  | _ => none

theorem Event.eq_race_of_handedOver {m : CloudMessage} {event : Event dataInterface}
    (h : event.handedOver = some m) :
    ∃ eui wait deadline, event = ⟨.race (.receive eui wait) deadline, some (.ok (some m))⟩ := by
  unfold handedOver at h
  split at h
  · rw [Option.some.inj h]
    exact ⟨_, _, _, rfl⟩
  · cases h

namespace Account

/-- What was handed over stays in the account. -/
theorem mem_delivered_foldl {entry : Eui64 × CloudMessage} {events : List (Event dataInterface)}
    {account : Account} (h : entry ∈ account.delivered) :
    entry ∈ (events.foldl enter account).delivered := by
  induction events generalizing account with
  | nil => exact h
  | cons event rest ih =>
    refine ih ?_
    unfold enter
    split <;> simp [h]

/-- A message that the queue hands over in time is entered. -/
theorem mem_delivered_of {before after : List (Event dataInterface)} {eui : Eui64}
    {wait : Duration} {deadline : Instant} {m : CloudMessage} :
    (eui, m) ∈ (of (before ++ ⟨.race (.receive eui wait) deadline, some (.ok (some m))⟩ ::
      after)).delivered := by
  rw [of, List.foldl_append, List.foldl_cons]
  exact mem_delivered_foldl (by simp [enter])

end Account

namespace Handling

open DataHandling

variable {net : Network} {call : Handling} {start instant : Instant} {m : CloudMessage}

/-- The queue hands over a message during a call that starts at an instant, and the handler has it
at another one. -/
def ReceivesAt (start : Instant) (call : Handling) (m : CloudMessage) (instant : Instant) : Prop :=
  ∃ before event after began, call.events = before ++ event :: after ∧ event.handedOver = some m ∧
    LoraNetwork.Passes start before began ∧ DataOperation.Takes began instant event

/-- A message that a call receives is among those that were handed over. -/
theorem ReceivesAt.mem_delivered (h : call.ReceivesAt start m instant) :
    ∃ eui, (eui, m) ∈ call.account.delivered := by
  obtain ⟨before, event, after, began, hevents, hhands, -, -⟩ := h
  obtain ⟨eui, wait, deadline, rfl⟩ := Event.eq_race_of_handedOver hhands
  refine ⟨eui, ?_⟩
  rw [account, hevents]
  exact Account.mem_delivered_of

/-- Only a call that records a counter receives a message. -/
theorem Occurs.isSome_recorded (h : call.Occurs net) (received : call.ReceivesAt start m instant) :
    (call.recorded net).isSome = true := by
  obtain ⟨eui, hmem⟩ := received.mem_delivered
  cases h.accounted with
  | first recorded attended => exact recorded
  | other unrecorded unattended =>
    rw [unattended.delivered] at hmem
    cases hmem

/-- A message is handed over before the second window opens. -/
theorem Occurs.received_in_time (h : call.Occurs net) (received : call.ReceivesAt start m instant) :
    instant ≤
      call.uplink.arrival + ((call.uplink.timer net call.before.session).rx2Delay : Int) := by
  obtain ⟨answers, -, hresponds⟩ := h.responds (h.isSome_recorded received)
  obtain ⟨before, event, after, began, hevents, hhands, hpasses, htakes⟩ := received
  obtain ⟨eui, wait, deadline, rfl⟩ := Event.eq_race_of_handedOver hhands
  obtain ⟨first, responding, last, prepared, counter, result, hparts, hfirst, hlast, -, htrace,
    -⟩ := hresponds.parts
  -- The first answer performs the event, since the others ask for no message.
  rw [hevents] at hparts
  obtain ⟨left, rfl, hmiddle⟩ :=
    exists_of_not_mem_left hparts.symm fun hmem => nomatch hfirst _ hmem
  obtain ⟨right, rfl⟩ := exists_of_not_mem_right hmiddle fun hmem => nomatch hlast _ hmem
  obtain ⟨middle, -, hleft⟩ := LoraNetwork.Passes.append_iff.mp hpasses
  exact DataHandling.received_in_time (DataUplink.rx1Delay_le_rx2Delay _ _ _) htrace hleft htakes

/-- A message that has expired when it is received is not delivered, unless it is the first one and
fits the downlink. It may have been looked at behind another message, and waits again. Otherwise it
is offered to the downlink behind the answers of the call and its command of adaptive data rate. If
it fits it is completed and the device finds it in the downlink; if it does not, the device finds no
message there. It is rejected if it is too large or its port is reserved, and waits again only if
port 0 carries commands already, or if there is no downlink. -/
theorem Occurs.expired_message_settled (h : call.Occurs net)
    (received : call.ReceivesAt start m instant) (expired : m.HasExpired instant) :
    ∃ answers offered behind how, call.Answers net answers ∧
      call.account.delivered =
        (offered :: behind.toList).map (fun m => (call.before.session.devEui, m)) ∧
      call.account.settled =
        behind.toList.map (fun m => (.abandon, call.before.session.devEui, m)) ++
          [(how, call.before.session.devEui, offered)] ∧
      (offered = m ∨ behind = some m) ∧
      (offered = m → Disposal net CloudFit.settlesExpired call.before.session call.uplink
        (answers ++ (call.command net).toList) m how call.downlink) := by
  obtain ⟨answers, hanswers, htreated⟩ := h.treated (h.isSome_recorded received)
  obtain ⟨eui, hmem⟩ := received.mem_delivered
  cases htreated with
  | spared delivered =>
    rw [delivered] at hmem
    cases hmem
  | @offered offered behind how delivered settled disposal =>
    refine ⟨answers, offered, behind, how, hanswers, delivered, settled, ?_, ?_⟩
    · rw [delivered] at hmem
      obtain ⟨other, hother, hpair⟩ := List.mem_map.mp hmem
      obtain ⟨-, rfl⟩ := Prod.mk.inj hpair
      rcases List.mem_cons.mp hother with rfl | hbehind
      · exact .inl rfl
      · exact .inr (Option.mem_toList.mp hbehind)
    · rintro rfl
      rw [settlementFor_of_hasExpired expired (h.received_in_time received)] at disposal
      exact disposal

end Handling

/-! ## Messages that expired long ago -/

namespace Sample

/-- The message, expired before the uplink arrives. -/
def stale : CloudMessage := { message with expiresAt := some (-1) }

/-- The answers while no time passes and the expired message waits in the queue. -/
def staleMail : (op : DataOperation) → op.Answer
  | .race (.receive ..) _ => some (.ok (some stale))
  | op => answers (.ok ()) op

end Sample

namespace Handling

/-- A call that takes no time receives a message at its start. -/
theorem receivesAt_of_getElem {call : Handling} {m : CloudMessage} {start : Instant} (k : Nat)
    (hpasses : LoraNetwork.Passes.withLatency (fun _ => 0) start (call.events.take k) = some start)
    (hhands : ∃ event ∈ call.events[k]?, event.handedOver = some m ∧
      DataOperation.Takes start start event) : call.ReceivesAt start m start := by
  obtain ⟨event, hevent, hhanded, htakes⟩ := hhands
  refine ⟨call.events.take k, event, call.events.drop (k + 1), start, ?_, hhanded,
    LoraNetwork.Passes.of_withLatency _ hpasses, htakes⟩
  obtain ⟨hlt, hget⟩ := List.getElem?_eq_some_iff.mp hevent
  rw [← hget, ← List.drop_eq_getElem_cons hlt, List.take_append_drop]

/-- At the lowest data rate the expired message is too large. It is rejected, and the device finds
no message in the acknowledgement. -/
theorem expired_message_settled_at_lowest_rate :
    let call := answeredBy Sample.network Sample.staleMail Sample.device Sample.slow
    call.ReceivesAt 0 Sample.stale 0 ∧ Sample.stale.HasExpired 0 ∧
      (.reject, ⟨1⟩, Sample.stale) ∈ call.account.settled ∧
      ∃ downlink, call.downlink = some downlink ∧
        downlink.WithoutMessage Sample.network Sample.device.session := by
  intro call
  have hreceived : call.ReceivesAt 0 Sample.stale 0 :=
    receivesAt_of_getElem 4 (by decide +kernel) (by decide +kernel)
  have hexpired : Sample.stale.HasExpired 0 := ⟨-1, rfl, by decide⟩
  obtain ⟨answers, offered, behind, how, -, hdelivered, hsettled, -, hdisposal⟩ :=
    (occurs_answeredBy _ _ _ _).expired_message_settled hreceived hexpired
  have htwice : call.account.delivered = [(⟨1⟩, Sample.stale), (⟨1⟩, Sample.stale)] := by
    decide +kernel
  have hrejected : call.account.settled =
      [(.abandon, ⟨1⟩, Sample.stale), (.reject, ⟨1⟩, Sample.stale)] := by decide +kernel
  obtain ⟨downlink, hdownlink⟩ : ∃ downlink, call.downlink = some downlink :=
    Option.isSome_iff_exists.mp (by decide +kernel)
  rw [htwice] at hdelivered
  rw [hrejected] at hsettled
  have hoffered : Sample.stale = offered := (Prod.mk.inj (List.cons.inj hdelivered).1).2
  have hhow : some (Settlement.reject, (⟨1⟩ : Eui64), Sample.stale) =
      some (how, Sample.device.session.devEui, offered) := by
    have hlast := congrArg List.getLast? hsettled
    rwa [List.getLast?_concat] at hlast
  have hreject : how = .reject := (Prod.mk.inj (Option.some.inj hhow)).1.symm
  have hshown := hdisposal hoffered.symm
  generalize call.downlink = out at hdownlink hshown
  cases hshown with
  | waits | carried => cases hreject
  | unfit placed unfit absent =>
    refine ⟨hreceived, hexpired, ?_, downlink, hdownlink, (absent downlink hdownlink).2⟩
    rw [hrejected]
    simp

/-- An expired message may be delivered. After an uplink at the highest data rate it is completed,
and the device finds it in the acknowledgement. -/
theorem exists_expired_message_delivered :
    ∃ call m start instant downlink, Handling.Occurs Sample.network call ∧
      call.ReceivesAt start m instant ∧ m.HasExpired instant ∧
      (⟨1⟩, m) ∈ call.account.completed ∧ call.downlink = some downlink ∧
      downlink.WithMessage Sample.network call.before.session m := by
  let call := answeredBy Sample.network Sample.staleMail Sample.device Sample.fast
  have hcall : call.Occurs Sample.network := occurs_answeredBy _ _ _ _
  have hreceived : call.ReceivesAt 0 Sample.stale 0 :=
    receivesAt_of_getElem 4 (by decide +kernel) (by decide +kernel)
  have hcompleted : (⟨1⟩, Sample.stale) ∈ call.account.completed := by decide +kernel
  have hcustody : call.account.Custody Sample.network call.before.session call.downlink := by
    cases hcall.accounted with
    | first recorded attended => exact attended.custody
    | other unrecorded unattended =>
      have hrecorded := hcall.isSome_recorded hreceived
      rw [unrecorded] at hrecorded
      cases hrecorded
  obtain ⟨downlink, hdownlink⟩ :=
    Option.isSome_iff_exists.mp (hcustody.sent (List.ne_nil_of_mem hcompleted))
  obtain ⟨n, frame, hcounter, hparse, hshown⟩ := hcustody.shown downlink hdownlink
  exact ⟨call, Sample.stale, 0, 0, downlink, hcall, hreceived, ⟨-1, rfl, by decide⟩, hcompleted,
    hdownlink, n, frame, hcounter, hparse, hshown.carries _ hcompleted⟩

end Handling

end LoraNetwork
