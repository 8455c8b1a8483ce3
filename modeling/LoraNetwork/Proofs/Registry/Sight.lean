import LoraNetwork.Proofs.Loader.Stage
import LoraNetwork.Proofs.Server.Run

/-!
# What a task has seen of a device

A task that changes what the registry knows of an address or of a device first reads it, and what it
stores follows from what it read. So whether a device may get lost by what a task stores hangs on
whether the task has seen it: `Sight` is what a task may have missed, and it moves on with every
answer. Who has seen a device does not store an entry of its address without it, does not replace
its session, and as a loader of its address loads it. Every activity keeps these rules, whatever it
is answered.
-/

namespace LoraNetwork

/-- What a task may have missed of a device. -/
structure Sight where
  /-- It joins the device or has forgotten it, so it may leave it out. -/
  excused : Prop
  /-- What it read of the device's address may be without the device. -/
  outdated : Prop
  /-- What it read of the device's session may be another session. -/
  mistaken : Prop

namespace Activity

/-- The activity installs a session of a device. -/
def Joins (eui : Eui64) : Activity → Prop
  | install record => record.devEui = eui
  | dispatch uplink =>
    ∃ request, UplinkFrame.parse uplink.payload = .ok (.join request) ∧ request.devEui = eui
  | _ => False

/-- The frame whose device an activity looks for. -/
def frame? : Activity → Option DataFrame
  | dispatch uplink =>
    match UplinkFrame.parse uplink.payload with
    | .ok (.data frame) => some frame
    | _ => none
  | resolve frame => some frame
  | _ => none

/-- Activities that look for a device come from outside. -/
theorem fromOutside_of_frame {activity : Activity} {frame : DataFrame}
    (h : activity.frame? = some frame) : activity.fromOutside = true := by
  cases activity with
  | loadAddress | loadCandidate => cases h
  | dispatch | resolve | handle | install | forgetDevice | forgetAddress => rfl

/-- Joins come from outside. -/
theorem Joins.fromOutside {activity : Activity} {eui : Eui64} (h : activity.Joins eui) :
    activity.fromOutside = true := by
  cases activity with
  | loadAddress | loadCandidate => exact h.elim
  | dispatch | resolve | handle | install | forgetDevice | forgetAddress => rfl

/-- The activity loads an address. -/
def Loads (addr : DevAddr) (activity : Activity) : Prop :=
  ∃ loader, activity = loadAddress loader addr

end Activity

/-- The store lists a device under its address. -/
def DeviceHandle.isListed (handle : DeviceHandle) :
    Except StoreError (List DeviceCandidate) → Bool
  | .ok listed => ⟨handle.card.devAddr, handle.card.devEui⟩ ∈ listed
  | .error _ => false

/-- The store answers with a session that uses another address than a device does. -/
def DeviceHandle.isMoved (handle : DeviceHandle) :
    Option (Except StoreError (Option SessionRecord)) → Bool
  | some (.ok (some record)) => record.devAddr ≠ handle.card.devAddr
  | _ => false

/-- The operation reads the devices of an address. -/
def ServerOperation.readsAddress (addr : DevAddr) : ServerOperation → Bool
  | call (.fetchCandidates other) | memory (.lookUpAddress other) => other = addr
  | _ => false

/-- The operation reads the session of a device. -/
def ServerOperation.readsSession (eui : Eui64) : ServerOperation → Bool
  | memory (.lookUpSession other) => other = eui
  | _ => false

namespace Event

/-- An activity was answered without a device where it asked for the devices of its address. -/
def Misses (handle : DeviceHandle) (activity : Activity) : Event serverInterface → Prop
  | ⟨.call (.fetchCandidates addr), answer⟩ =>
      addr = handle.card.devAddr ∧ handle.isListed answer = false
  | ⟨.memory (.lookUpAddress addr), found⟩ =>
      addr = handle.card.devAddr ∧ ∃ handles, found = some handles ∧ handle ∉ handles
  | ⟨.memory (.gather ..), loads⟩ =>
      activity.Loads handle.card.devAddr ∧ .loaded handle ∉ loads
  | _ => False

/-- An activity was answered with another session where it asked for that of a device. -/
def Mistakes (handle : DeviceHandle) : Event serverInterface → Prop
  | ⟨.memory (.lookUpSession eui), found⟩ => eui = handle.card.devEui ∧ found ≠ some handle
  | ⟨.race (.fetchSession eui) _, answer⟩ =>
      eui = handle.card.devEui ∧ handle.isMoved answer = true
  | _ => False

end Event

namespace Sight

variable (handle : DeviceHandle) (activity : Activity)

/-- What a task may do to what others rely on. Frames are added to queues for the activity's own
frame and taken out by the loader, which also starts and gathers the candidates; these are told by
whoever loads them. Whoever loads something does not look addresses up. -/
def Allows (sight : Sight) : ServerOperation → Prop
  | .start activities =>
      (∃ frame loader, activity.frame? = some frame ∧
        activities = [.loadAddress loader frame.devAddr]) ∨
      ∃ loader addr candidates, activity = .loadAddress loader addr ∧
        activities = Service.candidateActivities loader addr candidates ∧
        (addr = handle.card.devAddr → ¬ sight.outdated →
          ∃ candidate ∈ candidates, candidate.devEui = handle.card.devEui)
  | .memory (.lookUpAddress _) => activity.fromOutside = true
  | .memory (.joinLoader frame) => activity.frame? = some frame
  | .memory (.reply ..) => ∃ addr, activity.Loads addr
  | .memory (.gather loader _) | .memory (.closeQueue loader) =>
      ∃ addr, activity = .loadAddress loader addr
  | .memory (.deposit loader place load) =>
      ∃ addr eui, activity = .loadCandidate loader place addr eui ∧
        (addr = handle.card.devAddr → eui = handle.card.devEui → ¬ sight.mistaken →
          load = .loaded handle)
  | .memory (.storeSession eui _) => eui = handle.card.devEui → sight.excused ∨ sight.mistaken
  | .memory (.storeAddress addr handles) =>
      addr = handle.card.devAddr → sight.excused ∨ sight.outdated ∨ handle ∈ handles
  | _ => True

/-- What a task may have missed after an event: it sees the device's address or session anew when it
reads it, and as it was answered. -/
def next (sight : Sight) (event : Event serverInterface) : Sight where
  excused := sight.excused ∨ event.op = .memory (.forgetSession handle.card.devEui)
  outdated := event.Misses handle activity ∨
    sight.outdated ∧ event.op.readsAddress handle.card.devAddr = false
  mistaken := event.Mistakes handle ∨
    sight.mistaken ∧ event.op.readsSession handle.card.devEui = false

/-- The rules for what a task has seen of a device. -/
def rules : Contract serverInterface Sight where
  allows := Allows handle activity
  promises _ _ := True
  next := next handle activity

variable {handle activity} {sight : Sight} {event : Event serverInterface}

/-- Who is excused stays so. -/
theorem excused_next (h : sight.excused) : (sight.next handle activity event).excused := .inl h

/-- A session that was missed stays so until one is read. -/
theorem mistaken_next (h : sight.mistaken)
    (hop : event.op.readsSession handle.card.devEui = false) :
    (sight.next handle activity event).mistaken :=
  .inr ⟨h, hop⟩

end Sight

/-! ## Seeing less -/

/-- Whoever sees as little may do as much. -/
structure Sight.Blurs (sight blurred : Sight) : Prop where
  /-- It is excused from as much. -/
  excused : sight.excused → blurred.excused
  /-- It has missed as much of the address. -/
  outdated : sight.outdated → blurred.outdated
  /-- It has missed as much of the session. -/
  mistaken : sight.mistaken → blurred.mistaken

namespace Sight.Blurs

variable {handle : DeviceHandle} {activity : Activity} {sight blurred : Sight}
variable {op : ServerOperation}

theorem allows (h : sight.Blurs blurred) (hallows : sight.Allows handle activity op) :
    blurred.Allows handle activity op := by
  cases op with
  | clock | wallClock | draw | call | race => trivial
  | start activities =>
    refine hallows.imp id ?_
    rintro ⟨loader, addr, candidates, hactivity, hstarted, hlisted⟩
    exact ⟨loader, addr, candidates, hactivity, hstarted, fun haddr hseen =>
      hlisted haddr fun houtdated => hseen (h.outdated houtdated)⟩
  | memory op =>
    cases op with
    | lookUpAddress | joinLoader | reply | gather | closeQueue => exact hallows
    | deposit loader place load =>
      obtain ⟨addr, eui, hactivity, hload⟩ := hallows
      exact ⟨addr, eui, hactivity, fun haddr heui hseen =>
        hload haddr heui fun hmistaken => hseen (h.mistaken hmistaken)⟩
    | storeSession eui session => exact fun heui => (hallows heui).imp h.excused h.mistaken
    | storeAddress addr handles =>
      exact fun haddr => (hallows haddr).imp h.excused (Or.imp_left h.outdated)
    | _ => trivial

theorem next (h : sight.Blurs blurred) (event : Event serverInterface) :
    (sight.next handle activity event).Blurs (blurred.next handle activity event) where
  excused := Or.imp_left h.excused
  outdated := Or.imp_right (And.imp_left h.outdated)
  mistaken := Or.imp_right (And.imp_left h.mistaken)

end Sight.Blurs

/-- What keeps the rules for a task that has seen something keeps them if it has seen less. -/
theorem Program.Keeps.blur {α : Type} {handle : DeviceHandle} {activity : Activity} {p : Service α}
    {sight blurred : Sight} (h : p.Keeps (Sight.rules handle activity) (fun _ _ => True) sight)
    (hblurs : sight.Blurs blurred) :
    p.Keeps (Sight.rules handle activity) (fun _ _ => True) blurred :=
  h.weaken hblurs (fun _ _ _ hview hallows => hview.allows hallows)
    (fun _ _ event hview => hview.next event) fun _ _ _ _ _ => trivial

/-! ## What is harmless -/

/-- The operation does nothing that others rely on. -/
def ServerOperation.isHarmless : ServerOperation → Bool
  | start _ | memory (.lookUpAddress _) | memory (.joinLoader _) | memory (.reply ..)
  | memory (.gather ..) | memory (.closeQueue _) | memory (.deposit ..)
  | memory (.storeSession ..) | memory (.storeAddress ..) => false
  | _ => true

/-- Harmless operations. -/
abbrev ServerOperation.Harmless (op : ServerOperation) : Prop := op.isHarmless = true

namespace Service

open Program

variable {net : Network} {handle : DeviceHandle} {a : Activity} {sight : Sight}
variable {frame : DataFrame} {handles : List DeviceHandle}

/-- A program of harmless operations keeps the rules, whatever its task has seen. -/
theorem keeps_of_harmless {α : Type} {p : Service α}
    (h : p.Obeys ServerOperation.Harmless fun _ => True) :
    p.Keeps (Sight.rules handle a) (fun _ _ => True) sight := by
  have hallows : ∀ (s : Sight) (op : ServerOperation), op.Harmless → s.Allows handle a op := by
    intro s op hop
    cases op with
    | clock | wallClock | draw | call | race => trivial
    | start activities => cases hop
    | memory op => cases op <;> trivial
  exact (h.keeps (fun _ => True) (fun s op _ => hallows s op) (fun _ _ _ _ _ => trivial)
    trivial).mono fun _ _ _ => trivial

theorem authenticate_harmless :
    (authenticate net frame handles).Obeys ServerOperation.Harmless fun _ => True := by
  induction handles with
  | nil => trivial
  | cons handle rest ih =>
    refine obeys_bind.mpr (obeys_ask.mpr ⟨rfl, fun announced => ?_⟩)
    split
    · trivial
    · exact ih

theorem handleOn_harmless {slot : SlotId} {uplink : DataUplink} :
    (handleOn net slot uplink).Obeys ServerOperation.Harmless fun _ => True := by
  have hhandle : ∀ device : Device,
      ((DataHandling.handle net device uplink).expand (ofDataOperation slot)).Obeys
        ServerOperation.Harmless fun _ => True := by
    refine fun device => obeys_expand (obeys_true _) fun op _ => ?_
    cases op <;> exact obeys_ask.mpr ⟨rfl, fun _ => trivial⟩
  refine obeys_bind.mpr (obeys_ask.mpr ⟨rfl, fun _ => ?_⟩)
  refine obeys_bind.mpr (obeys_ask.mpr ⟨rfl, fun device => ?_⟩)
  refine obeys_bind.mpr ((hhandle device).mono (fun _ h => h) fun result _ => ?_)
  exact obeys_bind.mpr (obeys_ask.mpr ⟨rfl, fun _ => trivial⟩)

/-! ## Loading -/

/-- A task that looks for the device of its frame starts no loader but that of the frame. -/
theorem resolve_sight (hframe : a.frame? = some frame) :
    (resolve net frame).Keeps (Sight.rules handle a) (fun _ _ => True) sight := by
  refine keeps_bind.mpr ⟨Activity.fromOutside_of_frame hframe, fun cached _ => ?_⟩
  cases cached with
  | some handles =>
    exact keeps_bind.mpr ((keeps_of_harmless authenticate_harmless).mono fun _ _ _ => trivial)
  | none =>
    refine keeps_bind.mpr ⟨hframe, fun joined _ => ?_⟩
    cases joined with
    | again => trivial
    | queued => exact ⟨trivial, fun _ _ => trivial⟩
    | started loader =>
      refine ⟨.inl ⟨frame, loader, hframe, rfl⟩, fun _ _ => ?_⟩
      exact ⟨trivial, fun _ _ => trivial⟩

/-- A device that was loaded is among the devices of its address. -/
theorem mem_of_devicesOf {loads : List CandidateLoad} (h : devicesOf loads = .ok handles)
    (hloaded : CandidateLoad.loaded handle ∈ loads) : handle ∈ handles := by
  unfold devicesOf at h
  dsimp only at h
  split at h
  · cases h
  · rw [← Except.ok.inj h]
    exact List.mem_filterMap.mpr ⟨_, hloaded, rfl⟩

theorem answerAll_sight {addr : DevAddr} (ha : a.Loads addr)
    {found : Except FailureReason (List DeviceHandle)} {waiting : List (TaskId × DataFrame)} :
    (answerAll net found waiting).Keeps (Sight.rules handle a) (fun _ _ => True) sight := by
  induction waiting generalizing sight with
  | nil => trivial
  | cons entry rest ih =>
    have hreply : ∀ (resolution : Resolution) (reached : Sight),
        ((memory (.reply entry.1 resolution)).bind fun _ => answerAll net found rest).Keeps
          (Sight.rules handle a) (fun _ _ => True) reached :=
      fun resolution reached => ⟨⟨addr, ha⟩, fun _ _ => ih⟩
    cases found with
    | error reason => exact hreply _ _
    | ok handles =>
      exact keeps_bind.mpr
        ((keeps_of_harmless authenticate_harmless).mono fun _ resolution _ => hreply resolution _)

/-- A loader publishes the device if it has seen that the store lists it and what was loaded. -/
theorem loadAddress_sight {loader : LoaderId} {addr : DevAddr} (ha : a = .loadAddress loader addr) :
    (loadAddress net loader addr).Keeps (Sight.rules handle a) (fun _ _ => True) sight := by
  have hloads : a.Loads addr := ⟨loader, ha⟩
  have hleave : ∀ (found : Except FailureReason (List DeviceHandle)) (reached : Sight),
      ((memory (.leaveLoader addr)).bind fun _ =>
        (memory (.closeQueue loader)).bind fun waiting => answerAll net found waiting).Keeps
          (Sight.rules handle a) (fun _ _ => True) reached :=
    fun found reached =>
      ⟨trivial, fun _ _ => ⟨⟨addr, ha⟩, fun waiting _ => answerAll_sight hloads⟩⟩
  refine keeps_bind.mpr (keeps_bind.mpr ⟨trivial, fun answer _ => ?_⟩)
  cases answer with
  | error error => exact hleave _ _
  | ok listed =>
    refine keeps_bind.mpr ⟨.inr ⟨loader, addr, _, ha, rfl, ?_⟩, fun _ _ => ?_⟩
    · rintro rfl hseen
      have hlisted : handle.isListed (.ok listed) = true :=
        Bool.of_not_eq_false fun hmissing => hseen (.inl ⟨rfl, hmissing⟩)
      exact ⟨_, List.mem_filter.mpr ⟨of_decide_eq_true hlisted, decide_eq_true rfl⟩, rfl⟩
    · refine keeps_bind.mpr ⟨⟨addr, ha⟩, fun loads _ => keeps_done.mpr ?_⟩
      cases hfound : devicesOf loads with
      | error reason => exact hleave _ _
      | ok handles =>
        refine ⟨?_, fun _ _ => hleave _ _⟩
        rintro rfl
        by_cases hloaded : CandidateLoad.loaded handle ∈ loads
        · exact .inr (.inr (mem_of_devicesOf hfound hloaded))
        · exact .inr (.inl (.inl ⟨hloads, hloaded⟩))

/-- A candidate that was fetched takes the place of the session in the index only if the task may
have missed that session. -/
theorem fetchCandidate_sight {addr : DevAddr} {eui : Eui64}
    (hmissed : eui = handle.card.devEui → sight.mistaken ∨ addr ≠ handle.card.devAddr) :
    (fetchCandidate net addr eui).Keeps (Sight.rules handle a)
      (fun reached _ => sight.mistaken → reached.mistaken) sight := by
  refine keeps_bind.mpr ⟨trivial, fun now _ => keeps_done.mpr ?_⟩
  refine keeps_bind.mpr ⟨trivial, fun answer _ => keeps_done.mpr ?_⟩
  have hasked : ∀ deadline, sight.mistaken → ((sight.next handle a ⟨.clock, now⟩).next handle a
      ⟨.race (.fetchSession eui) deadline, answer⟩).mistaken :=
    fun _ hmistaken => Sight.mistaken_next (Sight.mistaken_next hmistaken rfl) rfl
  rcases answer with - | error | (- | record)
  · exact hasked _
  · exact hasked _
  · exact hasked _
  · dsimp only
    split
    · rename_i haddr
      refine keeps_bind.mpr ⟨trivial, fun found _ => keeps_done.mpr ?_⟩
      refine keeps_bind.mpr ⟨fun heui => .inr (Sight.mistaken_next ?_ rfl), fun _ _ =>
        keeps_done.mpr fun hmistaken =>
          Sight.mistaken_next (Sight.mistaken_next (hasked _ hmistaken) rfl) rfl⟩
      rcases hmissed heui with hmistaken | hne
      · exact hasked _ hmistaken
      · exact .inl ⟨heui, decide_eq_true (haddr ▸ hne)⟩
    · exact hasked _

/-- A candidate that was seen is loaded as it was seen. -/
theorem loadCandidate_sight {addr : DevAddr} {eui : Eui64} :
    (loadCandidate net addr eui).Keeps (Sight.rules handle a)
      (fun reached load => addr = handle.card.devAddr → eui = handle.card.devEui →
        ¬ reached.mistaken → load = .loaded handle) sight := by
  refine keeps_bind.mpr ⟨trivial, fun known _ => keeps_done.mpr ?_⟩
  have hfetch : (eui = handle.card.devEui → known ≠ some handle ∨ addr ≠ handle.card.devAddr) →
      (fetchCandidate net addr eui).Keeps (Sight.rules handle a)
        (fun reached load => addr = handle.card.devAddr → eui = handle.card.devEui →
          ¬ reached.mistaken → load = .loaded handle)
        (sight.next handle a ⟨.memory (.lookUpSession eui), known⟩) := by
    intro hmissed
    refine (fetchCandidate_sight fun heui => ?_).mono fun reached load hkept haddr heui hseen => ?_
    · exact (hmissed heui).imp_left fun hother => .inl ⟨heui, hother⟩
    · have hother := (hmissed heui).resolve_right fun hne => hne haddr
      exact absurd (hkept (.inl ⟨heui, hother⟩)) hseen
  cases known with
  | none => exact hfetch fun _ => .inl (by simp)
  | some found =>
    dsimp only
    split
    · intro haddr heui hseen
      refine congrArg CandidateLoad.loaded (Classical.byContradiction fun hother => hseen ?_)
      exact .inl ⟨heui, fun hsame => hother (Option.some.inj hsame)⟩
    · rename_i hother
      refine hfetch fun _ => ?_
      by_cases hfound : found = handle
      · exact .inr fun haddr => hother (by rw [hfound, haddr])
      · exact .inl fun heq => hfound (Option.some.inj heq)

end Service

/-! ## Upkeep -/

/-- The rules as far as the registry's memory goes. -/
def Sight.upkeep (handle : DeviceHandle) (activity : Activity) :
    Contract memoryInterface Sight where
  allows sight op := sight.Allows handle activity (.memory op)
  promises _ _ := True
  next sight event := sight.next handle activity ⟨.memory event.op, event.answer⟩

namespace Sight

variable {handle : DeviceHandle} {activity : Activity} {sight : Sight}

/-- Who looked an address up may store what was found with other devices left out. -/
theorem allows_store (activity : Activity) {addr : DevAddr} {found stored : List DeviceHandle}
    (h : sight.excused ∨ (handle ∈ found → handle ∈ stored)) :
    (sight.next handle activity ⟨.memory (.lookUpAddress addr), some found⟩).Allows handle activity
      (.memory (.storeAddress addr stored)) := by
  rintro rfl
  rcases h with hexcused | hkept
  · exact .inl (.inl hexcused)
  · by_cases hfound : handle ∈ found
    · exact .inr (.inr (hkept hfound))
    · exact .inr (.inl (.inl ⟨rfl, found, rfl, hfound⟩))

end Sight

namespace Service

open Program

variable {net : Network} {handle : DeviceHandle} {a : Activity} {sight : Sight}
variable {frame : DataFrame} {handles : List DeviceHandle} {eui : Eui64} {addr : DevAddr}

/-- Upkeep that keeps the rules keeps them as a part of an activity. -/
theorem ofUpkeep_sight {α : Type} {p : Upkeep α} {post : Sight → α → Prop}
    (h : p.Keeps (Sight.upkeep handle a) post sight) :
    (ofUpkeep p).Keeps (Sight.rules handle a) post sight := by
  have hexpand : (ofUpkeep p).Keeps (Sight.rules handle a)
      (fun reached value => ∃ s, s = reached ∧ post s value) sight := by
    refine h.expand rfl ?_
    rintro s _ op rfl hallows
    exact ⟨hallows, fun answer _ => ⟨trivial, rfl⟩⟩
  refine hexpand.mono ?_
  rintro _ value ⟨s, rfl, hpost⟩
  exact hpost

/-- Other devices are kept when one is left out. -/
theorem mem_others (hne : handle.card.devEui ≠ eui) (h : handle ∈ handles) :
    handle ∈ Upkeep.others eui handles :=
  List.mem_filter.mpr ⟨h, decide_eq_true hne⟩

theorem removeFromAddress_sight (houtside : a.fromOutside = true)
    (hexcused : eui = handle.card.devEui → sight.excused) :
    (Upkeep.removeFromAddress addr eui).Keeps (Sight.upkeep handle a)
      (fun reached _ => eui = handle.card.devEui → reached.excused) sight := by
  refine keeps_bind.mpr ⟨houtside, fun entry _ => keeps_done.mpr ?_⟩
  have hlooked : eui = handle.card.devEui →
      (sight.next handle a ⟨.memory (.lookUpAddress addr), entry⟩).excused :=
    fun heui => Sight.excused_next (hexcused heui)
  cases entry with
  | none => exact hlooked
  | some found =>
    dsimp only
    split
    · exact ⟨trivial, fun _ _ heui => Sight.excused_next (hlooked heui)⟩
    · refine ⟨Sight.allows_store a ?_, fun _ _ heui => Sight.excused_next (hlooked heui)⟩
      by_cases heui : eui = handle.card.devEui
      · exact .inl (hexcused heui)
      · exact .inr (mem_others (Ne.symm heui))

/-- To enter a device anew leaves other devices where they are. -/
theorem enter_sight {session : Session} (houtside : a.fromOutside = true)
    (hexcused : session.devEui = handle.card.devEui → sight.excused) :
    (Upkeep.enter session).Keeps (Sight.upkeep handle a)
      (fun reached _ => session.devEui = handle.card.devEui → reached.excused) sight := by
  have hentered : ∀ new, session.devEui = handle.card.devEui →
      ((sight.next handle a ⟨.memory (.newSlot session), new⟩).next handle a
        ⟨.memory (.storeSession session.devEui new), ()⟩).excused :=
    fun new heui => Sight.excused_next (Sight.excused_next (hexcused heui))
  refine ⟨trivial, fun new _ => ⟨fun heui => .inl (Sight.excused_next (hexcused heui)), ?_⟩⟩
  refine fun _ _ => ⟨houtside, fun entry _ => ?_⟩
  cases entry with
  | none => exact fun heui => Sight.excused_next (hentered new heui)
  | some found =>
    refine ⟨Sight.allows_store a ?_, fun _ _ heui =>
      Sight.excused_next (Sight.excused_next (hentered new heui))⟩
    by_cases heui : session.devEui = handle.card.devEui
    · exact .inl (hentered new heui)
    · exact .inr fun hfound => List.mem_append_left _ (mem_others (Ne.symm heui) hfound)

/-- A join leaves other devices where they are. -/
theorem install_sight {session : Session} (houtside : a.fromOutside = true)
    (hexcused : session.devEui = handle.card.devEui → sight.excused) :
    (Upkeep.install session).Keeps (Sight.upkeep handle a)
      (fun reached _ => session.devEui = handle.card.devEui → reached.excused) sight := by
  rw [Upkeep.install_eq]
  refine keeps_bind.mpr ⟨trivial, fun previous _ => keeps_done.mpr (keeps_bind.mpr ?_)⟩
  have hlooked : session.devEui = handle.card.devEui →
      (sight.next handle a ⟨.memory (.lookUpSession session.devEui), previous⟩).excused :=
    fun heui => Sight.excused_next (hexcused heui)
  cases previous with
  | none => exact enter_sight houtside hlooked
  | some found =>
    exact (removeFromAddress_sight houtside hlooked).mono fun _ _ => enter_sight houtside

/-- Who forgets a device may leave it out. -/
theorem forgetDevice_sight (houtside : a.fromOutside = true) :
    (Upkeep.forgetDevice eui).Keeps (Sight.upkeep handle a) (fun _ _ => True) sight := by
  refine keeps_bind.mpr ⟨trivial, fun known _ => keeps_done.mpr ?_⟩
  cases known with
  | none => trivial
  | some found =>
    refine keeps_bind.mpr ⟨trivial, fun _ _ => keeps_done.mpr ?_⟩
    refine (removeFromAddress_sight houtside fun heui => ?_).mono fun _ _ _ => trivial
    exact .inr (by rw [heui])

theorem forgetAddress_sight (houtside : a.fromOutside = true) :
    (Upkeep.forgetAddress addr).Keeps (Sight.upkeep handle a) (fun _ _ => True) sight := by
  have hsessions : ∀ (found : List DeviceHandle) (reached : Sight),
      (Upkeep.forgetSessions found).Keeps (Sight.upkeep handle a) (fun _ _ => True) reached := by
    intro found
    induction found with
    | nil => exact fun _ => trivial
    | cons first rest ih => exact fun reached => ⟨trivial, fun _ _ => ih _⟩
  refine keeps_bind.mpr ⟨houtside, fun entry _ => keeps_done.mpr ?_⟩
  refine keeps_bind.mpr ((hsessions _ _).mono fun _ _ _ => ?_)
  exact ⟨trivial, fun _ _ => trivial⟩

/-! ## Dispatching -/

theorem dispatchData_sight {uplink : RadioUplink} (hframe : a.frame? = some frame) :
    (dispatchData net uplink frame).Keeps (Sight.rules handle a) (fun _ _ => True) sight := by
  unfold dispatchData
  split
  · trivial
  · refine keeps_bind.mpr ((resolve_sight hframe).mono fun _ found _ => ?_)
    rcases found with - | (reason | found)
    · trivial
    · trivial
    · refine keeps_bind.mpr ((keeps_of_harmless handleOn_harmless).mono fun _ outcome _ => ?_)
      split
      · have houtside := Activity.fromOutside_of_frame hframe
        exact keeps_bind.mpr
          ((ofUpkeep_sight (forgetDevice_sight houtside)).mono fun _ _ _ => trivial)
      · trivial

/-- A join installs a session of its own device. -/
theorem dispatchJoin_sight {uplink : RadioUplink} {request : JoinRequest}
    (houtside : a.fromOutside = true)
    (hexcused : request.devEui = handle.card.devEui → sight.excused) :
    (dispatchJoin net uplink request).Keeps (Sight.rules handle a) (fun _ _ => True) sight := by
  have hstep : ∀ (_ : Unit) (reached : Sight) (op : JoinOperation),
      (request.devEui = handle.card.devEui → reached.excused) → op.Concerns request.devEui →
        (ofJoinOperation net op).Keeps (Sight.rules handle a)
          (fun reached _ => True ∧ (request.devEui = handle.card.devEui → reached.excused))
          reached := by
    rintro - reached op hreached hop
    cases op with
    | clock | draw | call =>
      exact ⟨trivial, fun _ _ => ⟨trivial, fun heui => Sight.excused_next (hreached heui)⟩⟩
    | install record =>
      have heui : (Session.ofRecord net.config record).devEui = request.devEui := hop
      refine keeps_bind.mpr ((ofUpkeep_sight (install_sight houtside (heui ▸ hreached))).mono ?_)
      exact fun later _ hlater => ⟨trivial, fun hsame => hlater (heui.trans hsame)⟩
  have hjoin : ((JoinHandling.handle net ⟨request, uplink.metadata, uplink.arrival⟩).expand
      (ofJoinOperation net)).Keeps (Sight.rules handle a)
        (fun reached _ => ∃ _ : Unit,
          (request.devEui = handle.card.devEui → reached.excused) ∧ True) sight :=
    joinHandle_obeys.expand hexcused hstep
  exact keeps_bind.mpr (hjoin.mono fun _ _ _ => trivial)

end Service

namespace Activity

open Program Service

variable {net : Network} {handle : DeviceHandle} {sight : Sight}

theorem dispatch_sight {uplink : RadioUplink}
    (hexcused : (dispatch uplink).Joins handle.card.devEui → sight.excused) :
    (Service.dispatch net uplink).Keeps (Sight.rules handle (dispatch uplink)) (fun _ _ => True)
      sight := by
  unfold Service.dispatch
  cases hparse : UplinkFrame.parse uplink.payload with
  | error error => trivial
  | ok parsed =>
    cases parsed with
    | data frame => exact dispatchData_sight (by simp [frame?, hparse])
    | join request =>
      refine keeps_bind.mpr ((dispatchJoin_sight rfl fun heui => ?_).mono fun _ _ _ => trivial)
      exact hexcused ⟨request, hparse, heui⟩

/-- Every activity keeps the rules, whatever its task has seen, if those who join the device are
excused. -/
theorem program_sight (a : Activity) (hexcused : a.Joins handle.card.devEui → sight.excused) :
    (a.program net).Keeps (Sight.rules handle a) (fun _ _ => True) sight := by
  cases a with
  | dispatch uplink => exact keeps_bind.mpr ((dispatch_sight hexcused).mono fun _ _ _ => trivial)
  | resolve frame => exact keeps_bind.mpr ((resolve_sight rfl).mono fun _ _ _ => trivial)
  | handle slot uplink =>
    exact keeps_bind.mpr ((keeps_of_harmless handleOn_harmless).mono fun _ _ _ => trivial)
  | loadAddress loader addr =>
    exact keeps_bind.mpr ((loadAddress_sight rfl).mono fun _ _ _ => trivial)
  | loadCandidate loader place addr eui =>
    refine keeps_bind.mpr (loadCandidate_sight.mono fun reached load hload => ?_)
    exact ⟨⟨addr, eui, rfl, hload⟩, fun _ _ => trivial⟩
  | install record =>
    have hsession : (Session.ofRecord net.config record).devEui = handle.card.devEui →
        sight.excused := hexcused
    exact keeps_bind.mpr ((ofUpkeep_sight (install_sight rfl hsession)).mono fun _ _ _ => trivial)
  | forgetDevice eui =>
    exact keeps_bind.mpr ((ofUpkeep_sight (forgetDevice_sight rfl)).mono fun _ _ _ => trivial)
  | forgetAddress addr =>
    exact keeps_bind.mpr ((ofUpkeep_sight (forgetAddress_sight rfl)).mono fun _ _ _ => trivial)

end Activity

end LoraNetwork
