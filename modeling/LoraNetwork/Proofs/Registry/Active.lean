import LoraNetwork.Proofs.Registry.Lease
import LoraNetwork.Proofs.Registry.Resolved
import LoraNetwork.Proofs.Server.Calls
import LoraNetwork.Proofs.Uplink.Replay

/-!
# Active devices

An uplink lines up for a slot in which its device was used in the index not long ago, and uses in
different slots lie the idle time of the device apart. So a device whose uplinks follow each other
soon enough keeps its slot: its session is not made anew between them, and no counter is recorded
twice. Soon enough is not sooner than the idle time. A frame whose address is cached does not use the
index, so the time for which an address is cached has to be taken off, and so has the time that it
takes to hand a device on.
-/

namespace LoraNetwork

/-- An uplink of a device lines up for a slot. -/
def Moment.LinesUp (eui : Eui64) (slot : SlotId) (m : Moment) : Prop :=
  m.event.op = .memory (.lineUp slot) ∧
    ∃ s, m.before.slots[slot]? = some s ∧ s.device.card.devEui = eui

/-- Moments follow each other within some time. -/
def Follow (gap : Duration) : List TimedMoment → Prop
  | one :: two :: rest => two.time < one.time + (gap : Nat) ∧ Follow gap (two :: rest)
  | _ => True

instance decidableFollow (gap : Duration) : (moments : List TimedMoment) →
    Decidable (Follow gap moments)
  | [] | [_] => .isTrue trivial
  | one :: two :: rest =>
    have := decidableFollow gap (two :: rest)
    inferInstanceAs (Decidable (two.time < one.time + ((gap : Nat) : Int) ∧ _))

/-! ## What the slots hold -/

namespace ServerRun

variable {net : Network} {history : List Moment} {σ : ServerState} {K : Knowledge} {m : Moment}

/-- Every slot that there ever was has the card that is known. -/
theorem covers_before (run : ServerRun net history σ) (hsees : K.Sees σ) (hmem : m ∈ history) :
    K.Covers m.before := by
  induction run generalizing K with
  | boot now => cases hmem
  | @step history moments σ next run step ih =>
    have hbefore := (run.invariant (Knowledge.sees_knowledge _)).sees_of_step step hsees
    rcases List.mem_append.mp hmem with hold | hnew
    · exact ih hbefore hold
    · cases step with
      | wait | arrive | again => cases hnew
      | perform =>
        rw [List.mem_singleton.mp hnew]
        exact hbefore.cards

/-- Whatever device is used is known. -/
theorem knows_of_uses (run : ServerRun net history σ) (hsees : K.Sees σ)
    (hkept : ∀ m ∈ history, ∀ other, m.event.op ≠ .memory (.forgetSession other))
    (hmem : m ∈ history) {owner : Eui64} {handle : DeviceHandle}
    (huses : m.event.Uses owner handle) : K.Knows handle := by
  induction run generalizing K with
  | boot now => cases hmem
  | @step history moments σ next run step ih =>
    rcases List.mem_append.mp hmem with hold | hnew
    · have hbefore := (run.invariant (Knowledge.sees_knowledge _)).sees_of_step step hsees
      exact ih hbefore (fun m hmem => hkept m (List.mem_append_left _ hmem)) hold
    · rcases step.use_cases owner fun m hmem => hkept m (List.mem_append_right _ hmem) with
        ⟨-, hnot⟩ | ⟨m', found, rfl, hfound, hset, -⟩
      · exact absurd huses (hnot m hnew handle)
      · rw [List.mem_singleton.mp hnew] at huses
        obtain rfl := hfound.eq huses
        exact ((run.step step).invariant hsees).sound.index owner _ hset

/-- A session that was made is one that the store had a record of. -/
theorem exists_record_of_made {eui : Eui64} {addr : DevAddr} {idle : Duration}
    (run : ServerRun net history σ) (hcalm : Undisturbed net.config eui addr idle history σ)
    (hmem : m ∈ history) {session : Session} (hop : m.event.op = .memory (.newSlot session)) :
    ∃ record, session = .ofRecord net.config record := by
  induction run with
  | boot now => cases hmem
  | @step history moments σ next run step ih =>
    have hbefore := hcalm.of_step step
    rcases List.mem_append.mp hmem with hold | hnew
    · exact ih hbefore hold
    · obtain ⟨activity, rest, found, -⟩ := step.performs hnew
      obtain ⟨task, ⟨op, answer⟩, before, after⟩ := m
      obtain rfl : op = .memory (.newSlot session) := hop
      obtain ⟨-, -, -, -, record, -, -, hsession⟩ := hbefore.fetched_of_makes run found
      exact ⟨record, hsession⟩

end ServerRun

/-! ## Moments that follow each other -/

section Follow

variable {gap : Duration} {moments : List TimedMoment} {time : Instant}

/-- What lies apart from each of some moments that follow each other lies on one side of all. -/
theorem Follow.one_side (hfollow : Follow gap moments)
    (hsorted : moments.Pairwise fun first second => first.time ≤ second.time)
    (hapart : ∀ d ∈ moments, time ≤ d.time ∨ d.time + (gap : Nat) ≤ time) :
    (∀ d ∈ moments, time ≤ d.time) ∨ ∀ d ∈ moments, d.time + (gap : Nat) ≤ time := by
  induction moments with
  | nil => exact .inl fun d hmem => nomatch hmem
  | cons one rest ih =>
    obtain ⟨hfirst, hrest⟩ := List.pairwise_cons.mp hsorted
    have hone := hapart one List.mem_cons_self
    cases rest with
    | nil =>
      have hall : ∀ {p : TimedMoment → Prop}, p one → ∀ d ∈ [one], p d :=
        fun hp d hmem => List.mem_singleton.mp hmem ▸ hp
      exact hone.imp hall hall
    | cons two later =>
      obtain ⟨hnear, hfollow⟩ := hfollow
      have htwo := hfirst two List.mem_cons_self
      rcases ih hfollow hrest fun d hmem => hapart d (List.mem_cons_of_mem _ hmem) with
        hbefore | hafter
      · have hle := hbefore two List.mem_cons_self
        refine .inl (List.forall_mem_cons.mpr ⟨?_, hbefore⟩)
        unfold Instant Duration at *
        omega
      · have hle := hafter two List.mem_cons_self
        refine .inr (List.forall_mem_cons.mpr ⟨?_, hafter⟩)
        unfold Instant Duration at *
        omega

end Follow

/-! ## One slot -/

/-- The uplinks of a device were handled in one slot. -/
structure TimedRun.OneSlot (net : Network) (eui : Eui64) (gap : Duration)
    (history : List TimedMoment) (σ : ServerState) (uplinks : List TimedMoment)
    (slot : SlotId) : Prop where
  /-- Each lined up for it. -/
  lines : ∀ d ∈ uplinks, d.moment.event.op = .memory (.lineUp slot)
  /-- Whoever lined up gives back no other slot. -/
  returns : ∀ d ∈ uplinks, ∀ m ∈ untimed history, m.task = d.moment.task → ∀ other device,
    m.event.op = .memory (.giveBack other device) → other = slot
  /-- No session was made for the device since the first of them, until some time after the last. -/
  kept : ∀ made ∈ history, made.moment.event.Makes eui →
    (∀ d ∈ uplinks, made.time ≤ d.time) ∨ ∀ d ∈ uplinks, d.time + (gap : Nat) ≤ made.time
  /-- The calls on the slot are a run from a session as loaded, and from one restart of the count to
  the next the counters that they recorded increase. -/
  calls : ∃ record calls last, ServerRun.SlotCalls net (untimed history) σ slot
    (.ofRecord net.config record) calls last ∧
      ∀ before period after, calls.map Prod.snd = before ++ period ++ after →
        (∀ call ∈ period.tail, call.honoured net = none) →
          (period.filterMap (Handling.recorded net)).Pairwise (· < ·)

namespace TimedRun

variable {net : Network} {eui : Eui64} {addr : DevAddr} {idle within gap : Duration}
variable {history uplinks : List TimedMoment} {σ : ServerState} {d : TimedMoment} {slot : SlotId}

/-- An uplink lines up for a slot in which its device was used not long before. -/
theorem Lease.exists_use (lease : Lease net within history σ)
    (run : ServerRun net (untimed history) σ)
    (hcalm : Undisturbed net.config eui addr idle (untimed history) σ) (hd : d ∈ history)
    (hlines : d.moment.LinesUp eui slot) :
    ∃ handle, handle.slot = slot ∧ ∃ x ∈ history, x.moment.event.Uses eui handle ∧
      x.time ≤ d.time ∧
        d.time ≤
          x.time + ((within + Duration.ofMillis net.config.addressLifetime + within : Nat)) := by
  obtain ⟨hop, s, hs, howner⟩ := hlines
  obtain ⟨handle, hslot, x, hx, ⟨owner, huses⟩, htimes⟩ := lease.lined d hd slot hop
  have hmem : x.moment ∈ untimed history := mem_untimed.mpr ⟨x, hx, rfl⟩
  have hknows := run.knows_of_uses (Knowledge.sees_knowledge σ) hcalm.kept hmem huses
  have hcard := run.covers_before (Knowledge.sees_knowledge σ) (mem_untimed.mpr ⟨d, hd, rfl⟩)
    slot s hs
  have hsame : handle.card = s.device.card :=
    Option.some.inj (hknows.symm.trans (hslot ▸ hcard))
  have hown := (hcalm.suits_of_uses run hmem huses).own
  rw [hsame, howner] at hown
  subst hown
  exact ⟨handle, hslot, x, hx, huses, htimes⟩

/-- Uses that lie closer to each other than the idle time are in one slot. -/
theorem InUse.handle_eq (use : InUse net eui addr idle history σ) {one two : TimedMoment}
    {handle handle' : DeviceHandle} (hone : one ∈ history) (htwo : two ∈ history)
    (huses : one.moment.event.Uses eui handle) (huses' : two.moment.event.Uses eui handle')
    (hnear : two.time < one.time + (idle : Nat)) (hnear' : one.time < two.time + (idle : Nat)) :
    handle = handle' := by
  refine Classical.byContradiction fun hne => ?_
  rcases use.apart one hone two htwo handle handle' huses huses' hne with hbefore | hafter
  · exact Int.not_lt.mpr hbefore hnear
  · exact Int.not_lt.mpr hafter hnear'

/-- Uplinks that follow each other soon enough line up for the slot of the first. -/
theorem InUse.lines_of_follow (use : InUse net eui addr idle history σ)
    (lease : Lease net within history σ) (run : ServerRun net (untimed history) σ)
    (hcalm : Undisturbed net.config eui addr idle (untimed history) σ)
    (hidle : gap + (within + Duration.ofMillis net.config.addressLifetime + within) ≤ idle)
    {rest : List TimedMoment} (hmem : ∀ u ∈ d :: rest, u ∈ history)
    (hlines : ∀ u ∈ d :: rest, ∃ slot, u.moment.LinesUp eui slot) (hfollow : Follow gap (d :: rest))
    (hsorted : (d :: rest).Pairwise fun first second => first.time ≤ second.time)
    (hfirst : d.moment.LinesUp eui slot) :
    ∀ u ∈ d :: rest, u.moment.event.op = .memory (.lineUp slot) := by
  induction rest generalizing d with
  | nil => exact fun u hu => List.mem_singleton.mp hu ▸ hfirst.1
  | cons next rest ih =>
    obtain ⟨hnear, hfollow⟩ := hfollow
    obtain ⟨hle, hsorted⟩ := List.pairwise_cons.mp hsorted
    have hnext : next ∈ d :: next :: rest := List.mem_cons_of_mem _ List.mem_cons_self
    obtain ⟨other, hother⟩ := hlines next hnext
    obtain ⟨handle, rfl, x, hx, huses, hxle, hxnear⟩ :=
      lease.exists_use run hcalm (hmem d List.mem_cons_self) hfirst
    obtain ⟨handle', rfl, x', hx', huses', hxle', hxnear'⟩ :=
      lease.exists_use run hcalm (hmem next hnext) hother
    have hdnext := hle next List.mem_cons_self
    have hsame : handle = handle' := by
      refine use.handle_eq hx hx' huses huses' ?_ ?_ <;> unfold Instant Duration at * <;> omega
    subst hsame
    refine List.forall_mem_cons.mpr ⟨hfirst.1, ?_⟩
    exact ih (fun u hu => hmem u (List.mem_cons_of_mem _ hu))
      (fun u hu => hlines u (List.mem_cons_of_mem _ hu)) hfollow hsorted hother

/-- No session is made for a device while its uplinks follow each other soon enough. -/
theorem InUse.kept_of_follow (use : InUse net eui addr idle history σ)
    (lease : Lease net within history σ) (run : ServerRun net (untimed history) σ)
    (hcalm : Undisturbed net.config eui addr idle (untimed history) σ)
    (hidle : gap + (within + Duration.ofMillis net.config.addressLifetime + within) ≤ idle)
    (hmem : ∀ u ∈ uplinks, u ∈ history)
    (hlines : ∀ u ∈ uplinks, ∃ slot, u.moment.LinesUp eui slot) (hfollow : Follow gap uplinks)
    (hsorted : uplinks.Pairwise fun first second => first.time ≤ second.time)
    {made : TimedMoment} (hmade : made ∈ history) (hmakes : made.moment.event.Makes eui) :
    (∀ u ∈ uplinks, made.time ≤ u.time) ∨ ∀ u ∈ uplinks, u.time + (gap : Nat) ≤ made.time := by
  refine hfollow.one_side hsorted fun u hu => ?_
  obtain ⟨slot, hslot⟩ := hlines u hu
  obtain ⟨handle, -, x, hx, huses, hle, hnear⟩ := lease.exists_use run hcalm (hmem u hu) hslot
  rcases use.renewed made hmade hmakes x hx handle huses with hlater | hearlier
  · right
    unfold Instant Duration at *
    omega
  · exact .inl (Int.le_trans hearlier hle)

/-- Whoever lined up for a slot gives back no other one. -/
theorem slot_of_giveBack (run : ServerRun net (untimed history) σ) (hd : d ∈ history)
    (hop : d.moment.event.op = .memory (.lineUp slot)) {m : Moment} (hmem : m ∈ untimed history)
    (htask : m.task = d.moment.task) {other : SlotId} {device : Device}
    (hgive : m.event.op = .memory (.giveBack other device)) : other = slot := by
  have hreturned : m.returned? other = some (m.task, device) := by
    obtain ⟨task, ⟨op, answer⟩, before, after⟩ := m
    obtain rfl : op = .memory (.giveBack other device) := hgive
    exact if_pos rfl
  have hlt := run.lt_of_returned m hmem _ hreturned
  obtain ⟨session, calls, last, hcalls⟩ := run.exists_slotCalls (List.getElem?_eq_getElem hlt)
  have hlisted : (m.task, device) ∈ calls.map fun call => (call.1, call.2.after) := by
    rw [← hcalls.returned]
    exact List.mem_filterMap.mpr ⟨m, hmem, hreturned⟩
  obtain ⟨call, hcall, heq⟩ := List.mem_map.mp hlisted
  obtain ⟨job, hjob, hdata⟩ := hcalls.handles call hcall
  rw [(Prod.mk.inj heq).1] at hjob
  have hgave := run.slot?_of_mem hmem hjob hdata (by rw [hgive]; rfl)
  have hlined := run.slot?_of_mem (mem_untimed.mpr ⟨d, hd, rfl⟩) (htask ▸ hjob) hdata
    (by rw [hop]; rfl)
  rw [htask] at hgave
  exact Option.some.inj (hgave.symm.trans hlined)

/-- The calls on the slot of an uplink are a run from a session as loaded. -/
theorem exists_loaded_calls (run : ServerRun net (untimed history) σ)
    (hcalm : Undisturbed net.config eui addr idle (untimed history) σ) (hd : d ∈ history)
    (hlines : d.moment.LinesUp eui slot) :
    ∃ record calls last, ServerRun.SlotCalls net (untimed history) σ slot
      (.ofRecord net.config record) calls last := by
  obtain ⟨-, s, hs, -⟩ := hlines
  have hcard := run.covers_before (Knowledge.sees_knowledge σ) (mem_untimed.mpr ⟨d, hd, rfl⟩)
    slot s hs
  obtain ⟨now, hnow, -⟩ := Option.map_eq_some_iff.mp hcard
  obtain ⟨session, calls, last, hcalls⟩ := run.exists_slotCalls hnow
  obtain ⟨m, hmem, handle, -, hevent⟩ := hcalls.made
  obtain ⟨record, rfl⟩ := run.exists_record_of_made hcalm hmem (congrArg Event.op hevent)
  exact ⟨record, calls, last, hcalls⟩

/-- An active device keeps its slot. While only data is dispatched and no device is forgotten, let
uplinks of a device follow each other within some time, and let the device stay unused for that time,
for the time that its address is cached, and for the times that it takes to hand it on. Then they are
all handled in one slot, no session is made for the device meanwhile, and from one restart of its
count to the next no counter is recorded twice there. -/
theorem one_slot_of_active (timed : TimedRun net history σ)
    (hcalm : Undisturbed net.config eui addr idle (untimed history) σ)
    (hprompt : Prompt within history) (huplinks : uplinks.Sublist history) (hne : uplinks ≠ [])
    (hlines : ∀ d ∈ uplinks, ∃ slot, d.moment.LinesUp eui slot) (hactive : Follow gap uplinks)
    (hidle : gap + (within + Duration.ofMillis net.config.addressLifetime + within) ≤ idle) :
    ∃ slot, OneSlot net eui gap history σ uplinks slot := by
  cases uplinks with
  | nil => exact absurd rfl hne
  | cons first rest =>
    obtain ⟨slot, hfirst⟩ := hlines first List.mem_cons_self
    have run := timed.run
    have use := timed.inUse hcalm
    have lease := timed.lease hcalm hprompt
    have hsorted := timed.sorted.sublist huplinks
    have hmem : ∀ d ∈ first :: rest, d ∈ history := fun d hd => huplinks.subset hd
    have hslot := use.lines_of_follow lease run hcalm hidle hmem hlines hactive hsorted hfirst
    obtain ⟨record, calls, last, hcalls⟩ :=
      exists_loaded_calls run hcalm (hmem first List.mem_cons_self) hfirst
    refine ⟨slot, hslot, ?_, ?_, record, calls, last, hcalls, ?_⟩
    · intro d hd m hm htask other device hgive
      exact slot_of_giveBack run (hmem d hd) (hslot d hd) hm htask hgive
    · intro made hmade hmakes
      exact use.kept_of_follow lease run hcalm hidle hmem hlines hactive hsorted hmade hmakes
    · intro before period after hperiods hnone
      have hcalls' := hcalls.run
      rw [hperiods] at hcalls'
      obtain ⟨middle, hearlier, -⟩ := HandlingRun.append_iff.mp hcalls'
      obtain ⟨begin, -, hperiod⟩ := HandlingRun.append_iff.mp hearlier
      exact hperiod.recorded_pairwise_of_tail hnone

end TimedRun

/-! ## An uplink every nine seconds -/

namespace Sample

/-- The device with a time for which its session may stay in memory unused. -/
def patient (keepAlive : Nat) : SessionRecord := { record with keepAlive := some keepAlive }

/-- The bytes of an unconfirmed frame of the sample device. -/
def unconfirmed (counter : UInt8) : RadioUplink :=
  { radioUplink with payload := [0x40, 1, 0, 0, 1, 0, counter, 0, 1, 1, 0, 0, 0, 0] }

/-- What a server comes to that gets an uplink with each of some counters every nine seconds. -/
@[irreducible] def everyNineSeconds (keepAlive : Nat) (counters : List UInt8) :
    List TimedMoment × ServerState :=
  (counters.map fun counter => (Duration.ofMillis 9000, unconfirmed counter)).foldl
    (ServerState.attend network (store [patient keepAlive])) ([], { now := 0 })

theorem timed_everyNineSeconds (keepAlive : Nat) (counters : List UInt8) :
    TimedRun network (everyNineSeconds keepAlive counters).1
      (everyNineSeconds keepAlive counters).2 := by
  unfold everyNineSeconds
  exact (TimedRun.boot 0).attendAll _

/-- The store answers with records of the device that may stay long enough, and nobody is
forgotten. -/
def isCalm (idle : Duration) (m : Moment) : Bool :=
  match m.event with
  | ⟨.race (.fetchSession owner) _, some (.ok (some found))⟩ =>
    let card := found.card network.config
    decide (card.devEui = owner ∧ card.devAddr = record.devAddr ∧
      idle ≤ Memory.idleTime network.config card)
  | ⟨.memory (.forgetSession _), _⟩ => false
  | _ => true

/-- An activity that comes from outside brings data. -/
def bringsData (job : Job) : Bool :=
  match job.activity with
  | .dispatch uplink =>
    match UplinkFrame.parse uplink.payload with
    | .ok (.join _) => false
    | _ => true
  | activity => !activity.fromOutside

theorem undisturbed_of_isCalm {idle : Duration} {history : List Moment} {σ : ServerState}
    (hjobs : σ.jobs.all bringsData = true) (honce : ListsOnce history)
    (hcalm : history.all (isCalm idle) = true) :
    Undisturbed network.config record.devEui record.devAddr idle history σ where
  data task job hjob houtside := by
    have hdata := List.all_eq_true.mp hjobs job (List.mem_of_getElem? hjob)
    unfold bringsData at hdata
    split at hdata
    · rename_i uplink hactivity
      rw [hactivity]
      intro request hparse
      rw [hparse] at hdata
      cases hdata
    · rw [houtside] at hdata
      cases hdata
  once := honce
  steady m hmem := by
    have hm := List.all_eq_true.mp hcalm m hmem
    unfold Event.Steady
    split
    · rename_i hevent
      unfold isCalm at hm
      rw [hevent] at hm
      obtain ⟨hown, haddr, hidle⟩ := of_decide_eq_true hm
      exact ⟨hown, fun _ => haddr, fun _ => hidle⟩
    · trivial
  kept m hmem other hop := by
    have hm := List.all_eq_true.mp hcalm m hmem
    obtain ⟨task, ⟨op, answer⟩, before, after⟩ := m
    obtain rfl : op = .memory (.forgetSession other) := hop
    cases hm

/-- An uplink of the sample device lines up. -/
def isLineUp (d : TimedMoment) : Bool :=
  match d.moment.event.op with
  | .memory (.lineUp slot) => d.moment.before.slots[slot]?.any fun s =>
      s.device.card.devEui = record.devEui
  | _ => false

theorem linesUp_of_isLineUp {d : TimedMoment} (h : isLineUp d = true) :
    ∃ slot, d.moment.LinesUp record.devEui slot := by
  unfold isLineUp at h
  split at h
  · rename_i slot hop
    obtain ⟨s, hs, howner⟩ := (Option.any_eq_true _ _).mp h
    exact ⟨slot, hop, s, hs, of_decide_eq_true howner⟩
  · cases h

/-- A run is not disturbed, devices are handed on at once, and the uplinks of the sample device follow
each other within ten seconds. -/
def isActive (idle : Duration) (reached : List TimedMoment × ServerState) : Bool :=
  reached.2.jobs.all bringsData && decide (ListsOnce (untimed reached.1)) &&
    (untimed reached.1).all (isCalm idle) && decide (Prompt 0 reached.1) &&
      decide (Follow (Duration.ofMillis 10000) (reached.1.filter isLineUp))

theorem active_of_isActive {idle : Duration} {reached : List TimedMoment × ServerState}
    (h : isActive idle reached = true) :
    Undisturbed network.config record.devEui record.devAddr idle (untimed reached.1) reached.2 ∧
      Prompt 0 reached.1 ∧ Follow (Duration.ofMillis 10000) (reached.1.filter isLineUp) := by
  obtain ⟨h, hfollow⟩ := Bool.and_eq_true_iff.mp h
  obtain ⟨h, hprompt⟩ := Bool.and_eq_true_iff.mp h
  obtain ⟨h, hcalm⟩ := Bool.and_eq_true_iff.mp h
  obtain ⟨hjobs, honce⟩ := Bool.and_eq_true_iff.mp h
  exact ⟨undisturbed_of_isCalm hjobs (of_decide_eq_true honce) hcalm, of_decide_eq_true hprompt,
    of_decide_eq_true hfollow⟩

end Sample

namespace TimedRun

/-- A device that may stay unused for a minute keeps its slot while its address is loaded again. -/
theorem one_slot_of_active_over_reload :
    let reached := Sample.everyNineSeconds 60000 [5, 6, 7, 8, 9]
    let uplinks := reached.1.filter Sample.isLineUp
    uplinks.length = 5 ∧ ∃ slot, OneSlot Sample.network Sample.record.devEui (Duration.ofMillis 10000)
      reached.1 reached.2 uplinks slot := by
  intro reached uplinks
  have hlength : uplinks.length = 5 := by decide +kernel
  obtain ⟨hcalm, hprompt, hactive⟩ := Sample.active_of_isActive
    (show Sample.isActive (Duration.ofMillis 60000) reached = true by decide +kernel)
  have hne : uplinks ≠ [] := by
    intro hnil
    rw [hnil] at hlength
    cases hlength
  have hlines : ∀ d ∈ uplinks, ∃ slot, d.moment.LinesUp Sample.record.devEui slot :=
    fun d hd => Sample.linesUp_of_isLineUp (List.mem_filter.mp hd).2
  have hidle : Duration.ofMillis 10000 + (0 + Duration.ofMillis
      Sample.network.config.addressLifetime + 0) ≤ Duration.ofMillis 60000 := by decide +kernel
  exact ⟨hlength, one_slot_of_active (Sample.timed_everyNineSeconds 60000 [5, 6, 7, 8, 9]) hcalm
    hprompt List.filter_sublist hne hlines hactive hidle⟩

/-- To follow each other within the idle time is not enough. A device that may stay unused for ten
seconds sends an uplink every nine; its address is cached, so nobody uses it in the index, and when
the address is loaded again its session is made anew. Then the last counter is recorded twice. -/
theorem exists_slot_lost :
    ∃ history σ uplinks, TimedRun Sample.network history σ ∧
      Undisturbed Sample.network.config Sample.record.devEui Sample.record.devAddr
        (Duration.ofMillis 10000) (untimed history) σ ∧
      Prompt 0 history ∧ uplinks.Sublist history ∧
      (∀ d ∈ uplinks, ∃ slot, d.moment.LinesUp Sample.record.devEui slot) ∧
      Follow (Duration.ofMillis 10000) uplinks ∧
      (¬ ∃ slot, ∀ d ∈ uplinks, d.moment.event.op = .memory (.lineUp slot)) ∧
      (untimed history).filterMap (fun m =>
        (m.event.op.request?.bind Request.telemetry?).map Telemetry.fcnt) = [5, 6, 7, 8, 8] := by
  let reached := Sample.everyNineSeconds 10000 [5, 6, 7, 8, 8]
  let uplinks := reached.1.filter Sample.isLineUp
  obtain ⟨hcalm, hprompt, hactive⟩ := Sample.active_of_isActive
    (show Sample.isActive (Duration.ofMillis 10000) reached = true by decide +kernel)
  have hlines : ∀ d ∈ uplinks, ∃ slot, d.moment.LinesUp Sample.record.devEui slot :=
    fun d hd => Sample.linesUp_of_isLineUp (List.mem_filter.mp hd).2
  have hslots : uplinks.map (fun d => d.moment.event.op.slotted?) =
      [some 0, some 0, some 0, some 0, some 1] := by decide +kernel
  refine ⟨reached.1, reached.2, uplinks, Sample.timed_everyNineSeconds _ _, hcalm, hprompt,
    List.filter_sublist, hlines, hactive, ?_, by decide +kernel⟩
  rintro ⟨slot, hslot⟩
  have hall : ∀ other ∈ uplinks.map fun d => d.moment.event.op.slotted?, other = some slot := by
    intro other hother
    obtain ⟨d, hd, rfl⟩ := List.mem_map.mp hother
    rw [hslot d hd]
    rfl
  rw [hslots] at hall
  have hfirst := hall (some 0) (by simp)
  have hlast := hall (some 1) (by simp)
  rw [← hlast] at hfirst
  cases hfirst

end TimedRun

end LoraNetwork
