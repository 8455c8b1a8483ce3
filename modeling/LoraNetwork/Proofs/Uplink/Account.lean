import LoraNetwork.Proofs.Downlink.Reading
import LoraNetwork.Proofs.Uplink.Run

/-!
# What collaborators give and what they get back

The account of a call: the cloud messages that the queue handed over, how messages were settled, and
the downlink counters that the store allocated. The handler looks at two messages at most. The first
is offered to the downlink and settled once, whatever becomes of the downlink; the second is only
looked at and put back. Each function on the way has one lemma that says what it enters.
-/

namespace LoraNetwork

/-! ## Accounts -/

/-- What was handed over and handed back. -/
structure Account where
  /-- The messages that were handed over, each with its device. -/
  delivered : List (Eui64 × CloudMessage) := []
  /-- The messages that were settled, and how. -/
  settled : List (Settlement × Eui64 × CloudMessage) := []
  /-- The downlink counters that were allocated. -/
  allocated : List UInt32 := []

/-- The operation asks for a message or settles one, or asks for a downlink counter. -/
def DataOperation.entersAccount : DataOperation → Bool
  | call (.receive ..) | race (.receive ..) _ => true
  | call (.settle ..) | race (.settle ..) _ => true
  | call (.allocate ..) | race (.allocate ..) _ => true
  | _ => false

namespace Account

variable {account : Account} {eui : Eui64} {how : Settlement} {message : Option CloudMessage}

/-- The account after an event. A race that was lost hands nothing over. -/
def enter (account : Account) : Event dataInterface → Account
  | ⟨.call (.receive eui _), .ok (some message)⟩
  | ⟨.race (.receive eui _) _, some (.ok (some message))⟩ =>
    { account with delivered := account.delivered ++ [(eui, message)] }
  | ⟨.call (.settle how eui message), _⟩ | ⟨.race (.settle how eui message) _, some _⟩ =>
    { account with settled := account.settled ++ [(how, eui, message)] }
  | ⟨.call (.allocate ..), .ok (some counter)⟩
  | ⟨.race (.allocate ..) _, some (.ok (some counter))⟩ =>
    { account with allocated := account.allocated ++ [counter] }
  | _ => account

/-- The account of events, one after the other. -/
def of (events : List (Event dataInterface)) : Account := events.foldl enter {}

/-- A message was handed over, or none. -/
def receive (account : Account) (eui : Eui64) (message : Option CloudMessage) : Account :=
  { account with delivered := account.delivered ++ message.toList.map fun m => (eui, m) }

/-- A message was settled, if there was one. -/
def settle (account : Account) (how : Settlement) (eui : Eui64) (message : Option CloudMessage) :
    Account :=
  { account with settled := account.settled ++ message.toList.map fun m => (how, eui, m) }

/-- A counter was allocated. -/
def allocate (account : Account) (counter : UInt32) : Account :=
  { account with allocated := account.allocated ++ [counter] }

@[simp] theorem receive_none : account.receive eui none = account := by
  simp [receive]

@[simp] theorem settle_none : account.settle how eui none = account := by
  simp [settle]

/-- The messages that were completed. -/
def completed (account : Account) : List (Eui64 × CloudMessage) :=
  (account.settled.filter fun entry => entry.1 = .complete).map Prod.snd

/-- Other operations are not entered. -/
theorem enter_of_not {event : Event dataInterface} (h : event.op.entersAccount = false) :
    account.enter event = account := by
  obtain ⟨op, answer⟩ := event
  cases op with
  | clock | wallClock | announce counter => rfl
  | call request | race request deadline => cases request <;> first | rfl | cases h

/-- Events of other operations leave an account alone. -/
theorem foldl_enter_of_not {events : List (Event dataInterface)}
    (h : ∀ event ∈ events, event.op.entersAccount = false) :
    events.foldl enter account = account := by
  induction events with
  | nil => rfl
  | cons event rest ih =>
    have hfirst : account.enter event = account := enter_of_not (h event List.mem_cons_self)
    rw [List.foldl_cons, hfirst]
    exact ih fun other hmem => h other (List.mem_cons_of_mem _ hmem)

/-- Where nothing was entered the account is empty. -/
theorem of_eq_empty {events : List (Event dataInterface)}
    (h : ∀ event ∈ events, event.op.entersAccount = false) : of events = {} :=
  foldl_enter_of_not h

/-- What comes before the first event that is entered does not count. -/
theorem of_append_of_not_left {first second : List (Event dataInterface)}
    (h : ∀ event ∈ first, event.op.entersAccount = false) : of (first ++ second) = of second := by
  rw [of, List.foldl_append, foldl_enter_of_not h]
  rfl

/-- Nor does what comes after the last. -/
theorem of_append_of_not_right {first second : List (Event dataInterface)}
    (h : ∀ event ∈ second, event.op.entersAccount = false) : of (first ++ second) = of first := by
  rw [of, List.foldl_append, foldl_enter_of_not h]
  rfl

end Account

/-- Keeps the account. -/
def accounting : Contract dataInterface Account where
  allows _ _ := True
  promises _ _ := True
  next := Account.enter

namespace DataHandling

open Program

variable {net : Network} {timer : WindowTimer} {s after : Session} {uplink : DataUplink}
variable {fcntUp : UInt32} {eui : Eui64} {account : Account}

/-- What enters nothing leaves the account alone. -/
theorem keeps_of_not_enters {α : Type} {p : DataHandling α} {post : α → Prop}
    (h : p.Obeys (fun op : DataOperation => op.entersAccount = false) post) :
    p.Keeps accounting (fun now value => now = account ∧ post value) account := by
  refine h.keeps (· = account) (fun _ _ _ _ => trivial) ?_ rfl
  intro state op answer hstate hquiet
  rw [hstate]
  exact Account.enter_of_not hquiet

/-- Reading the clock enters nothing. -/
theorem keeps_clock_bind {α : Type} {f : Instant → DataHandling α} {post : Account → α → Prop}
    (h : ∀ now, (f now).Keeps accounting post account) :
    (clock.bind f).Keeps accounting post account :=
  keeps_perform.mpr ⟨trivial, fun now _ => h now⟩

/-! ## Cloud messages -/

theorem settle_keeps (how : Settlement) (message : Option CloudMessage) :
    (settle how eui message).Keeps accounting
      (fun now _ => now = account.settle how eui message) account := by
  cases message with
  | none => exact Account.settle_none.symm
  | some message => exact ⟨trivial, fun answer _ => rfl⟩

/-- A result after a message was settled. -/
theorem settle_bind_keeps {α : Type} {how : Settlement} {message : Option CloudMessage} {value : α}
    {post : Account → α → Prop} (h : post (account.settle how eui message) value) :
    ((settle how eui message).bind fun _ => done value).Keeps accounting post account := by
  refine keeps_bind.mpr ((settle_keeps how message).mono fun now _ hnow => ?_)
  rw [hnow]
  exact h

theorem cloudBudget_keeps :
    (cloudBudget timer s).Keeps accounting (fun now _ => now = account) account :=
  ⟨trivial, fun _ _ => rfl⟩

theorem fetchMessage_keeps :
    (fetchMessage timer s).Keeps accounting
      (fun now message => now = account.receive s.devEui message) account := by
  refine keeps_bind.mpr (cloudBudget_keeps.mono fun now budget hnow => ?_)
  rw [hnow]
  split
  · exact Account.receive_none.symm
  · refine keeps_bind.mpr ⟨trivial, fun answer _ => ?_⟩
    cases answer with
    | none => exact Account.receive_none.symm
    | some answer =>
      cases answer with
      | error error => exact Account.receive_none.symm
      | ok message =>
        cases message with
        | none => exact Account.receive_none.symm
        | some message => rfl

/-- A second message that was handed over is put back at once. -/
theorem peekMore_keeps :
    (peekMore timer s).Keeps accounting
      (fun now more => ∃ behind : Option CloudMessage, more = behind.isSome ∧
        now = (account.receive s.devEui behind).settle .abandon s.devEui behind) account := by
  have hnone : account = (account.receive s.devEui none).settle .abandon s.devEui none := by
    rw [Account.receive_none, Account.settle_none]
  refine keeps_bind.mpr (cloudBudget_keeps.mono fun now budget hnow => ?_)
  rw [hnow]
  split
  · exact ⟨none, rfl, hnone⟩
  · refine keeps_bind.mpr ⟨trivial, fun answer _ => ?_⟩
    cases answer with
    | none => exact ⟨none, rfl, hnone⟩
    | some answer =>
      cases answer with
      | error error => exact ⟨none, rfl, hnone⟩
      | ok message =>
        cases message with
        | none => exact ⟨none, rfl, hnone⟩
        | some next => exact settle_bind_keeps ⟨some next, rfl, rfl⟩

/-- What a look at the queue enters: the message that is offered, and one behind it that is put
back. Without the first there is no second. -/
structure Looked (account : Account) (eui : Eui64) (offer : CloudOffer) (now : Account) : Prop where
  /-- The message behind the one that is offered. -/
  entered : ∃ behind : Option CloudMessage, offer.more = behind.isSome ∧
    (offer.message = none → behind = none) ∧
    now = ((account.receive eui offer.message).receive eui behind).settle .abandon eui behind

theorem collect_keeps :
    (collect timer s).Keeps accounting (fun now offer => Looked account s.devEui offer now)
      account := by
  have hnone : Looked account s.devEui ⟨none, false⟩ account := ⟨none, rfl, fun _ => rfl, by simp⟩
  unfold collect
  split
  · exact hnone
  · refine keeps_bind.mpr (fetchMessage_keeps.mono fun now message hnow => ?_)
    cases message with
    | none =>
      rw [hnow, Account.receive_none]
      exact hnone
    | some message =>
      refine keeps_bind.mpr (peekMore_keeps.mono fun later more hmore => ?_)
      obtain ⟨behind, hbehind, hlater⟩ := hmore
      rw [hnow] at hlater
      have hoffered : some message = none → behind = none := fun habsent => nomatch habsent
      exact ⟨behind, hbehind, hoffered, hlater⟩

/-- A message is carried and stays open, or it is settled at once and not as sent. -/
theorem load_keeps (builder : DownlinkBuilder) (message : Option CloudMessage) :
    (load timer eui builder message).Keeps accounting
      (fun now loaded =>
        (loaded = (builder, none) ∧ ∃ how, how ≠ .complete ∧ now = account.settle how eui message) ∨
          ∃ carried, message = some carried ∧ builder.fit carried = .fits ∧
            loaded = (builder.offer carried, some carried) ∧ now = account) account := by
  cases message with
  | none => exact .inl ⟨rfl, .abandon, by decide, Account.settle_none.symm⟩
  | some message =>
    cases hfit : builder.fit message with
    | fits =>
      simp only [load, hfit]
      exact .inr ⟨message, rfl, hfit, rfl, rfl⟩
    | blocked =>
      simp only [load, hfit]
      exact settle_bind_keeps (.inl ⟨rfl, .abandon, by decide, rfl⟩)
    | reservedPort =>
      simp only [load, hfit]
      exact settle_bind_keeps (.inl ⟨rfl, .reject, by decide, rfl⟩)
    | tooLarge =>
      have hother : settlementFor timer message .tooLarge ≠ .complete := by
        unfold settlementFor
        dsimp only
        split <;> decide
      simp only [load, hfit]
      exact settle_bind_keeps (.inl ⟨rfl, _, hother, rfl⟩)

/-! ## Downlink counters -/

/-- What coming by a counter enters: nothing for a device that is counted here, and for a shared one
the counter that the store allocated, if it did. -/
inductive Granted (account : Account) (s : Session) : Account → Session × Allocation → Prop where
  /-- The device is counted here. -/
  | own : Granted account s account (s.adopt s.progress.fcntDown, .granted s.progress.fcntDown)
  /-- The store allocates a counter. -/
  | allocated {n : UInt32} (shared : s.gatewayId = none) :
      Granted account s (account.allocate n) (s.adopt n, .granted n)
  /-- There is no counter. -/
  | refused {allocation : Allocation} (none : ∀ n, allocation ≠ .granted n) :
      Granted account s account (s, allocation)

theorem allocate_keeps :
    (allocate net timer s fcntUp).Keeps accounting (fun now drawn => Granted account s now drawn)
      account := by
  unfold allocate
  split
  · exact .own
  · rename_i hshared
    have hnone : s.gatewayId = none := by simpa using hshared
    refine keeps_bind.mpr ⟨trivial, fun answer _ => ?_⟩
    cases answer with
    | none => exact .refused (by simp)
    | some answer =>
      cases answer with
      | error error => exact .refused (by simp)
      | ok allocated =>
        cases allocated with
        | none => exact .refused (by simp)
        | some n => exact .allocated hnone

/-! ## The first answer -/

/-- A downlink for an uplink after the commands that fit were placed in it. -/
def filled (uplink : DataUplink) (limit : Nat) (commands : List MacCommand) : DownlinkBuilder :=
  (DownlinkBuilder.new limit uplink.onPortZero uplink.confirmed
    uplink.frame.header.control.adr).addAll commands

/-- The downlink was assembled from some commands and, if one is carried, a message that fits behind
them. -/
structure Assembled (net : Network) (s : Session) (uplink : DataUplink)
    (carried : Option CloudMessage) (pending : Bool) (downlink : Downlink) : Prop where
  /-- What was put into it, and its counter. -/
  parts : ∃ commands limit n, downlink.fcntDown = some n ∧
    (∀ message, carried = some message → (filled uplink limit commands).fit message = .fits) ∧
    (content uplink limit commands carried pending).build net.suite s.devAddr s.keys n =
      .ok downlink.payload

/-- Who the downlink is for and how it is secured hangs on the profile of the session. -/
theorem Assembled.of_sameProfile {carried : Option CloudMessage} {pending : Bool}
    {downlink : Downlink} (h : Assembled net after uplink carried pending downlink)
    (hprofile : s.SameProfile after) : Assembled net s uplink carried pending downlink := by
  unfold Session.SameProfile at hprofile
  rw [hprofile] at h
  exact ⟨h.parts⟩

/-- How the offered message is settled, by what is returned. Only a message that is carried is
settled as sent, and only then does the downlink announce that another one waits. -/
inductive Disposed (net : Network) (s : Session) (uplink : DataUplink) (more : Bool) :
    Option CloudMessage → Settlement → Option Downlink → Prop where
  /-- Nothing is returned. -/
  | unsent {message : Option CloudMessage} {how : Settlement} (other : how ≠ .complete) :
      Disposed net s uplink more message how none
  /-- A downlink is returned that carries no message. -/
  | without {message : Option CloudMessage} {how : Settlement} {downlink : Downlink}
      (other : how ≠ .complete) (assembled : Assembled net s uplink none false downlink) :
      Disposed net s uplink more message how (some downlink)
  /-- A downlink is returned that carries the message. -/
  | carried {message : CloudMessage} {downlink : Downlink}
      (assembled : Assembled net s uplink (some message) more downlink) :
      Disposed net s uplink more (some message) .complete (some downlink)

theorem Disposed.of_sameProfile {more : Bool} {message : Option CloudMessage} {how : Settlement}
    {out : Option Downlink} (h : Disposed net after uplink more message how out)
    (hprofile : s.SameProfile after) : Disposed net s uplink more message how out := by
  cases h with
  | unsent other => exact .unsent other
  | without other assembled => exact .without other (assembled.of_sameProfile hprofile)
  | carried assembled => exact .carried (assembled.of_sameProfile hprofile)

/-- What handing a downlink over enters, from an account on: the offered message is settled as fits
what is returned. The counters stay. -/
structure Closed (net : Network) (s : Session) (uplink : DataUplink) (offer : CloudOffer)
    (account now : Account) (result : Session × Processed) : Prop where
  /-- The message is settled. -/
  settled : ∃ how, now = account.settle how s.devEui offer.message ∧
    Disposed net s uplink offer.more offer.message how (Downlink.ofResult result.2)
  /-- The counters stay. -/
  progress : result.1.progress = s.progress

/-- Where nothing is returned the message waits again. -/
theorem closed_of_silent {offer : CloudOffer} {result : Processed}
    (h : Downlink.ofResult result = none) :
    Closed net s uplink offer account (account.settle .abandon s.devEui offer.message)
      (s, result) := by
  refine ⟨⟨.abandon, rfl, ?_⟩, rfl⟩
  rw [h]
  exact .unsent (by decide)

/-- Keeping a downlink for repeats leaves the counters. -/
theorem progress_remember (s : Session) (confirmed : Bool) (fcntUp : UInt32)
    (sent : CachedDownlink) : (remember s confirmed fcntUp sent).progress = s.progress := by
  unfold remember
  split <;> rfl

theorem send_keeps_account {commands : List MacCommand} {n : UInt32} {offer : CloudOffer}
    {window : ReceiveWindow} {params : WindowParams} {limit : Nat} :
    (send net timer s uplink fcntUp n commands offer window params limit).Keeps accounting
      (fun now result => Closed net s uplink offer account now result) account := by
  refine keeps_bind.mpr ((load_keeps _ _).mono fun now loaded hloaded => ?_)
  rcases hloaded with ⟨rfl, how, hother, hnow⟩ | ⟨carried, hoffered, hfits, rfl, hnow⟩
  · -- The message is settled already.
    dsimp only
    split
    · exact ⟨⟨how, hnow, .unsent hother⟩, rfl⟩
    · split
      · refine settle_bind_keeps ?_
        rw [Account.settle_none]
        exact ⟨⟨how, hnow, .unsent hother⟩, rfl⟩
      · rename_i payload hbuild
        refine settle_bind_keeps ?_
        rw [Account.settle_none]
        have hassembled : Assembled net s uplink none false
            (.inWindow payload timer window params uplink.metadata (some n)) :=
          ⟨commands, limit, n, rfl, fun _ habsent => (nomatch habsent), hbuild⟩
        exact ⟨⟨how, hnow, .without hother hassembled⟩, progress_remember _ _ _ _⟩
  · -- The message is carried, so the downlink is not empty.
    have hnotEmpty := DownlinkBuilder.isEmpty_of_fit hfits ((some carried).isSome && offer.more)
    dsimp only
    rw [hnotEmpty, hnow]
    split
    · contradiction
    · split
      · refine settle_bind_keeps ?_
        rw [← hoffered]
        exact closed_of_silent rfl
      · rename_i payload hbuild
        refine settle_bind_keeps ?_
        have hassembled : Assembled net s uplink (some carried) offer.more
            (.inWindow payload timer window params uplink.metadata (some n)) := by
          refine ⟨commands, limit, n, rfl, ?_, hbuild⟩
          intro message hmessage
          rw [← Option.some.inj hmessage]
          exact hfits
        refine ⟨⟨.complete, by rw [hoffered], ?_⟩, progress_remember _ _ _ _⟩
        rw [hoffered]
        exact .carried hassembled

theorem deliver_keeps_account {commands : List MacCommand} {n : UInt32} {offer : CloudOffer} :
    (deliver net timer s uplink fcntUp n commands offer).Keeps accounting
      (fun now result => Closed net s uplink offer account now result) account := by
  refine keeps_clock_bind fun now => ?_
  split
  · exact settle_bind_keeps (closed_of_silent (ofResult_missed _))
  · split
    · exact settle_bind_keeps (closed_of_silent rfl)
    · exact send_keeps_account

/-- Every counter that the store allocated is the one taken last. -/
def Taken (s after : Session) (account : Account) : Prop :=
  ∀ n ∈ account.allocated, s.gatewayId = none ∧ after.progress.fcntDown = n + 1

/-- The account of a first answer: at most two messages were handed over. The second was put back,
and the first was settled as fits what is returned. -/
structure Attended (net : Network) (s : Session) (uplink : DataUplink) (account : Account)
    (after : Session) (out : Option Downlink) : Prop where
  /-- What became of the messages. -/
  messages : ∃ message behind how, (message = none → behind = none) ∧
    account.delivered = (message.toList ++ behind.toList).map (fun m => (s.devEui, m)) ∧
    account.settled = behind.toList.map (fun m => (.abandon, s.devEui, m)) ++
      message.toList.map (fun m => (how, s.devEui, m)) ∧
    Disposed net s uplink behind.isSome message how out
  /-- What became of the counters. -/
  counters : Taken s after account

theorem Attended.of_sameProfile {middle : Session} {out : Option Downlink}
    (h : Attended net middle uplink account after out) (hprofile : s.SameProfile middle) :
    Attended net s uplink account after out := by
  obtain ⟨message, behind, how, habsent, hdelivered, hsettled, hdisposed⟩ := h.messages
  have hbefore := hdisposed.of_sameProfile hprofile
  have hcounters := h.counters
  unfold Taken at hcounters
  unfold Session.SameProfile at hprofile
  rw [hprofile] at hdelivered hsettled hcounters
  exact ⟨⟨message, behind, how, habsent, hdelivered, hsettled, hbefore⟩, hcounters⟩

/-- The account of a first answer is complete when the message that was offered is settled. -/
theorem Looked.attended {offer : CloudOffer} {now later : Account} {how : Settlement}
    {out : Option Downlink} (h : Looked {} s.devEui offer now)
    (hdelivered : later.delivered = now.delivered) (hsettled : later.settled = now.settled)
    (hcounters : Taken s after later)
    (hdisposed : Disposed net s uplink offer.more offer.message how out) :
    Attended net s uplink (later.settle how s.devEui offer.message) after out := by
  obtain ⟨behind, hmore, habsent, hnow⟩ := h.entered
  rw [hmore] at hdisposed
  refine ⟨⟨offer.message, behind, how, habsent, ?_, ?_, hdisposed⟩, hcounters⟩
  · have hsame : (later.settle how s.devEui offer.message).delivered = later.delivered := rfl
    rw [hsame, hdelivered, hnow]
    simp [Account.receive, Account.settle]
  · have hbefore : later.settled = behind.toList.map fun m => (.abandon, s.devEui, m) := by
      rw [hsettled, hnow]
      simp [Account.receive, Account.settle]
    rw [Account.settle, hbefore]

/-- While nobody was asked for a counter, none was allocated. -/
theorem Looked.taken {offer : CloudOffer} {now : Account} (h : Looked {} eui offer now) :
    Taken s after now := by
  obtain ⟨behind, -, -, hnow⟩ := h.entered
  rw [hnow]
  intro n hmem
  cases hmem

/-- The first counter that is allocated is the one taken. -/
theorem Looked.taken_allocate {offer : CloudOffer} {now : Account} {n : UInt32}
    (h : Looked {} eui offer now) (hshared : s.gatewayId = none)
    (hafter : after.progress.fcntDown = n + 1) : Taken s after (now.allocate n) := by
  obtain ⟨behind, -, -, hnow⟩ := h.entered
  rw [hnow]
  intro taken hmem
  rw [List.mem_singleton.mp hmem]
  exact ⟨hshared, hafter⟩

/-- Where nothing is returned the message that was offered waits again. -/
theorem Looked.waits {offer : CloudOffer} {now : Account} {result : Processed}
    (h : Looked {} s.devEui offer now) (hsilent : Downlink.ofResult result = none) :
    Attended net s uplink (now.settle .abandon s.devEui offer.message) s
      (Downlink.ofResult result) := by
  rw [hsilent]
  exact h.attended rfl rfl h.taken (.unsent (by decide))

/-- Nothing was entered, and nothing is returned. -/
theorem attended_empty {result : Processed} (h : Downlink.ofResult result = none) :
    Attended net s uplink {} s (Downlink.ofResult result) := by
  rw [h]
  exact ⟨⟨none, none, .abandon, fun _ => rfl, rfl, rfl, .unsent (by decide)⟩,
    fun _ hmem => nomatch hmem⟩

theorem respond_keeps_account {commands : List MacCommand} :
    (respond net timer s uplink fcntUp commands).Keeps accounting
      (fun now result => Attended net s uplink now result.1 (Downlink.ofResult result.2)) {} := by
  refine keeps_clock_bind fun now => ?_
  split
  · exact attended_empty (ofResult_missed _)
  · refine keeps_bind.mpr (collect_keeps.mono fun looked offer hlooked => ?_)
    split
    · rename_i hidle
      have habsent : offer.message = none := by
        simp only [Bool.and_eq_true] at hidle
        exact Option.isNone_iff_eq_none.mp hidle.2
      have hdone : Attended net s uplink _ s (Downlink.ofResult (.ok none : Processed)) :=
        hlooked.waits rfl
      rw [habsent, Account.settle_none] at hdone
      exact hdone
    · refine keeps_bind.mpr (allocate_keeps.mono fun later drawn hgranted => ?_)
      cases hgranted with
      | own =>
        refine deliver_keeps_account.mono fun final result hclosed => ?_
        obtain ⟨how, hfinal, hdisposed⟩ := hclosed.settled
        rw [hfinal]
        exact hlooked.attended rfl rfl hlooked.taken (hdisposed.of_sameProfile rfl)
      | @allocated n hshared =>
        refine deliver_keeps_account.mono fun final result hclosed => ?_
        obtain ⟨how, hfinal, hdisposed⟩ := hclosed.settled
        have hafter : result.1.progress.fcntDown = n + 1 := by
          rw [hclosed.progress]
          rfl
        rw [hfinal]
        exact hlooked.attended rfl rfl (hlooked.taken_allocate hshared hafter)
          (hdisposed.of_sameProfile rfl)
      | @refused allocation hrefused =>
        cases allocation with
        | granted n => exact absurd rfl (hrefused n)
        | elsewhere | failed => exact settle_bind_keeps (hlooked.waits rfl)
        | late => exact settle_bind_keeps (hlooked.waits (ofResult_missed _))

/-! ## Repeats -/

/-- The account of a repeat: no message was handed over or settled. -/
structure Unattended (s : Session) (account : Account) (after : Session) : Prop where
  /-- No message was handed over. -/
  delivered : account.delivered = []
  /-- None was settled. -/
  settled : account.settled = []
  /-- What became of the counters. -/
  counters : Taken s after account

/-- Nothing was entered. -/
theorem unattended_empty : Unattended s {} after := ⟨rfl, rfl, fun _ hmem => nomatch hmem⟩

theorem acknowledge_keeps_account {kept : Confirmation} {window : ReceiveWindow}
    {params : WindowParams} :
    (acknowledge net timer s uplink fcntUp kept window params).Keeps accounting
      (fun now result => Unattended s now result.1) {} := by
  refine keeps_bind.mpr (allocate_keeps.mono fun now drawn hgranted => ?_)
  cases hgranted with
  | own =>
    dsimp only
    split
    · exact unattended_empty
    · split <;> exact unattended_empty
  | @allocated n hshared =>
    have hone : ∀ after : Session, after.progress = (s.adopt n).progress →
        Unattended s (({} : Account).allocate n) after := by
      intro after hprogress
      refine ⟨rfl, rfl, fun taken hmem => ?_⟩
      rw [List.mem_singleton.mp hmem, hprogress]
      exact ⟨hshared, rfl⟩
    dsimp only
    split
    · exact hone _ rfl
    · split <;> exact hone _ rfl
  | @refused allocation hrefused =>
    cases allocation with
    | granted n => exact absurd rfl (hrefused n)
    | elsewhere | failed | late => exact unattended_empty

theorem resubmit_keeps_account :
    (resubmit net s uplink fcntUp).Keeps accounting
      (fun now result => Unattended s now result.1) {} := by
  unfold resubmit
  dsimp only
  split
  · exact unattended_empty
  · refine keeps_clock_bind fun now => ?_
    split
    · exact unattended_empty
    · split
      · exact unattended_empty
      · split
        · exact unattended_empty
        · exact acknowledge_keeps_account.mono fun now result h =>
            ⟨h.delivered, h.settled, h.counters⟩

/-! ## The whole -/

theorem process_keeps_account {requests : List MacCommand} :
    (process net s uplink fcntUp requests).Keeps accounting
      (fun now result => Attended net s uplink now result.1 (Downlink.ofResult result.2)) {} := by
  have hanswers : ∀ op : DataOperation, op = .wallClock → op.entersAccount = false := by
    intro op hop
    rw [hop]
    rfl
  have hforward : ∀ op : DataOperation, (∃ telemetry, op = .call (.sendTelemetry telemetry)) →
      op.entersAccount = false := by
    intro op hsends
    obtain ⟨telemetry, hop⟩ := hsends
    rw [hop]
    rfl
  have hprofile := (sameUplink_prepared net s uplink fcntUp).profile
  refine keeps_bind.mpr ((keeps_of_not_enters ((answersTo_obeys _ _).mono hanswers
    fun _ h => h)).mono fun now answers hnow => ?_)
  rw [hnow.1]
  refine keeps_bind.mpr ((keeps_of_not_enters (forward_sends.mono hforward
    fun _ h => h)).mono fun later _ hlater => ?_)
  rw [hlater.1]
  exact respond_keeps_account.mono fun _ _ h => h.of_sameProfile hprofile

/-- The write at the end enters nothing. -/
theorem persist_not_enters {events : List (Event dataInterface)} {forced : Bool}
    (h : (persist net s forced).Trace events after) :
    ∀ event ∈ events, event.op.entersAccount = false := by
  intro event hmem
  rw [(persist_obeys.trace h).1 event hmem]
  rfl

variable {device : Device} {requests : List MacCommand} {events : List (Event dataInterface)}

/-- The account of an uplink that is carried out is that of its first answer. -/
theorem CarriedOut.attended {recorded : Session} {after : Device}
    {result : Except UplinkFailure (Option Downlink)}
    (h : CarriedOut net device recorded uplink fcntUp requests events after result) :
    Attended net recorded uplink (.of events) after.session (Downlink.ofResult result) := by
  obtain ⟨processing, writing, answered, hevents, hprocess, hpersist, -, hresult⟩ := h.parts
  have hattended := process_keeps_account.trace hprocess fun _ _ => trivial
  have hannounce : ∀ event ∈ [(⟨.announce fcntUp, ()⟩ : Event dataInterface)],
      event.op.entersAccount = false := by simp [DataOperation.entersAccount]
  have haccount : Account.of events = Account.of processing := by
    rw [hevents, ← List.singleton_append, Account.of_append_of_not_left hannounce,
      Account.of_append_of_not_right (persist_not_enters hpersist)]
  have hprogress := (persist_trace hpersist).1
  rw [haccount, hresult, Downlink.ofResult_mapError]
  refine ⟨hattended.messages, fun n hmem => ?_⟩
  rw [hprogress]
  exact hattended.counters n hmem

end DataHandling

namespace Handling

open DataHandling

variable {net : Network} {call : Handling}

/-- The account of a call. -/
def account (call : Handling) : Account := .of call.events

/-- The downlink that answers an uplink for the first time. -/
def firstAnswer (net : Network) (call : Handling) : Option Downlink :=
  if (call.recorded net).isSome then call.downlink else none

/-- The account of a call is that of a first answer, or no message is in it. -/
inductive Accounted (net : Network) (call : Handling) : Prop where
  /-- The call recorded a counter and answered its uplink. -/
  | first (recorded : (call.recorded net).isSome = true)
      (attended : Attended net call.before.session call.uplink call.account call.after.session
        call.downlink)
  /-- The call refused its uplink or answered a repeat. -/
  | other (unrecorded : call.recorded net = none)
      (unattended : Unattended call.before.session call.account call.after.session)

theorem Occurs.accounted (h : call.Occurs net) : call.Accounted net := by
  obtain ⟨before, uplink, events, after, result⟩ := call
  have hhandled := trace_handle h
  dsimp only at hhandled
  cases hhandled with
  | refused examined =>
    exact .other (by simp [recorded, accepted, honoured, verdict, examined]) unattended_empty
  | replay examined =>
    exact .other (by simp [recorded, accepted, honoured, verdict, examined]) unattended_empty
  | unsaved examined =>
    exact .other (by simp [recorded, accepted, honoured, verdict, examined, startsWithWrite,
      restartWrite]) unattended_empty
  | @repeated counter _ answering writing answered saved examined answer write =>
    have hunattended := resubmit_keeps_account.trace answer fun _ _ => trivial
    have haccount : Account.of (answering ++ writing) = Account.of answering :=
      Account.of_append_of_not_right (persist_not_enters write)
    have hprogress := (persist_trace write).1
    refine .other (by simp [recorded, accepted, honoured, verdict, examined]) ?_
    rw [account, haccount]
    refine ⟨hunattended.delivered, hunattended.settled, fun n hmem => ?_⟩
    dsimp only
    rw [hprogress]
    exact hunattended.counters n hmem
  | @restarted counter requests told events _ _ examined tells carried =>
    have hquiet : ∀ event ∈ restartWrite before.session counter (.ok ()) :: told,
        event.op.entersAccount = false := by
      intro event hmem
      rcases List.mem_cons.mp hmem with hwrite | htold
      · rw [hwrite]
        rfl
      · obtain ⟨_, _, hop⟩ := tells event htold
        rw [hop]
        rfl
    have haccount : Account.of ((restartWrite before.session counter (.ok ()) :: told) ++ events) =
        Account.of events := Account.of_append_of_not_left hquiet
    rw [List.cons_append] at haccount
    refine .first (by simp [recorded, accepted, honoured, verdict, examined, startsWithWrite,
      restartWrite]) ?_
    rw [account, haccount]
    exact carried.attended.of_sameProfile rfl
  | accepted examined carried =>
    refine .first (by simp [recorded, accepted, honoured, verdict, examined]) ?_
    exact carried.attended.of_sameProfile rfl

end Handling

end LoraNetwork
