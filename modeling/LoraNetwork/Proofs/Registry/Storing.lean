import LoraNetwork.Proofs.Loader.Publication
import LoraNetwork.Proofs.Registry.Sight

/-!
# What tasks store in the registry

Several tasks rewrite the entries of the registry, each in steps that others may come between: a
task reads an entry, makes a new one of what it read, and stores it over whatever is there by then.
That does no harm to the form of the entries. What a task makes of a list of devices of one address
that names none twice is such a list again, however old what it read may be. So the rules below ask
of a task only to store well formed entries if it was answered with such.
-/

namespace LoraNetwork

/-- Some devices are devices of an address, each of them once. -/
structure Residents (addr : DevAddr) (handles : List DeviceHandle) : Prop where
  /-- They use the address. -/
  address : ∀ handle ∈ handles, handle.card.devAddr = addr
  /-- None is there twice. -/
  distinct : (handles.map fun handle => handle.card.devEui).Nodup

namespace Residents

variable {addr : DevAddr} {handles kept : List DeviceHandle} {new : DeviceHandle}

/-- Devices may be left out. -/
theorem sublist (h : Residents addr handles) (hkept : kept.Sublist handles) :
    Residents addr kept where
  address handle hmem := h.address handle (hkept.subset hmem)
  distinct := h.distinct.sublist (hkept.map _)

theorem others (h : Residents addr handles) (eui : Eui64) :
    Residents addr (Upkeep.others eui handles) :=
  h.sublist List.filter_sublist

/-- A device may take the place of its former self. -/
theorem renew (h : Residents addr handles) (hnew : new.card.devAddr = addr) :
    Residents addr (Upkeep.others new.card.devEui handles ++ [new]) where
  address handle hmem := by
    rcases List.mem_append.mp hmem with hother | hself
    · exact (h.others _).address handle hother
    · rw [List.mem_singleton.mp hself, hnew]
  distinct := by
    rw [List.map_append, List.map_singleton, List.nodup_append]
    refine ⟨(h.others _).distinct, List.pairwise_singleton _ _, ?_⟩
    intro eui hmem last hlast
    obtain ⟨handle, hhandle, rfl⟩ := List.mem_map.mp hmem
    rw [List.mem_singleton.mp hlast]
    exact of_decide_eq_true (List.mem_filter.mp hhandle).2

end Residents

/-! ## The rules -/

namespace Activity

/-- What an activity may store: under an address some devices of it, for a device a session of it,
and for a loader a device that is the candidate to be loaded. -/
def StoresWell (activity : Activity) : ServerOperation → Prop
  | .memory (.storeAddress addr handles) => handles ≠ [] ∧ Residents addr handles
  | .memory (.storeSession eui stored) => stored.card.devEui = eui
  | .memory (.deposit loader place (.loaded found)) =>
      activity = .loadCandidate loader place found.card.devAddr found.card.devEui
  | _ => True

/-- What an activity may count on when it is answered. -/
def AnswersWell (activity : Activity) : (op : ServerOperation) → op.Answer → Prop
  | .memory (.lookUpAddress addr), found => ∀ handles, found = some handles → Residents addr handles
  | .memory (.lookUpSession eui), found => ∀ known, found = some known → known.card.devEui = eui
  | .memory (.newSlot session), made => made.card = .ofSession session
  | .memory (.gather loader _), loads =>
      ∀ addr, activity = .loadAddress loader addr →
        Residents addr (loads.filterMap Service.handleOf)
  | .race (.fetchSession eui) _, answer =>
      ∀ record, answer = some (.ok (some record)) → record.devEui = eui
  | _, _ => True

/-- The rules for what an activity stores. -/
def storingRules (activity : Activity) : Contract serverInterface Unit where
  allows _ op := activity.StoresWell op
  promises := activity.AnswersWell
  next _ _ := ()

/-- The rules as far as the registry's memory goes. -/
def upkeepStoringRules (activity : Activity) : Contract memoryInterface Unit where
  allows _ op := activity.StoresWell (.memory op)
  promises op := activity.AnswersWell (.memory op)
  next _ _ := ()

/-- An activity keeps the rules for what it stores in a part of it that ends as stated. -/
abbrev StoresIn (activity : Activity) {α : Type} (p : Service α) (post : α → Prop) : Prop :=
  p.Keeps activity.storingRules (fun _ => post) ()

end Activity

namespace Service

open Program

variable {net : Network} {a : Activity} {frame : DataFrame} {addr : DevAddr} {eui : Eui64}

/-- A program that stores nothing keeps the rules. -/
theorem stores_of_obeys {α : Type} {p : Service α} {allowed : ServerOperation → Prop}
    {post : α → Prop} (h : p.Obeys allowed post) (hallowed : ∀ op, allowed op → a.StoresWell op) :
    a.StoresIn p post :=
  (h.keeps (fun _ => True) (fun _ op _ => hallowed op) (fun _ _ _ _ _ => trivial) trivial).mono
    fun _ _ hpost => hpost.2

theorem stores_of_harmless {α : Type} {p : Service α} {post : α → Prop}
    (h : p.Obeys ServerOperation.Harmless post) : a.StoresIn p post := by
  refine stores_of_obeys h fun op hop => ?_
  cases op with
  | clock | wallClock | draw | call | race => trivial
  | start activities => cases hop
  | memory op => cases op <;> trivial

/-! ## Upkeep -/

/-- Upkeep that keeps the rules keeps them as a part of an activity. -/
theorem stores_of_upkeep {α : Type} {p : Upkeep α}
    (h : p.Keeps a.upkeepStoringRules (fun _ _ => True) ()) :
    a.StoresIn (ofUpkeep p) fun _ => True := by
  have hexpand : (ofUpkeep p).Keeps a.storingRules
      (fun _ _ => ∃ _ : Unit, True ∧ True) () := by
    refine h.expand trivial ?_
    rintro _ _ op - hallows
    exact ⟨hallows, fun answer hanswer => ⟨hanswer, trivial⟩⟩
  exact hexpand.mono fun _ _ _ => trivial

theorem removeFromAddress_storesWell :
    (Upkeep.removeFromAddress addr eui).Keeps a.upkeepStoringRules (fun _ _ => True) () := by
  refine keeps_bind.mpr ⟨trivial, fun entry hentry => keeps_done.mpr ?_⟩
  cases entry with
  | none => trivial
  | some found =>
    dsimp only
    split
    · exact ⟨trivial, fun _ _ => trivial⟩
    · rename_i hsome
      have hstored : Upkeep.others eui found ≠ [] := fun hnil => hsome (List.isEmpty_iff.mpr hnil)
      exact ⟨⟨hstored, (hentry found rfl).others eui⟩, fun _ _ => trivial⟩

/-- A device is entered as what its session says, in place of what was known of it. -/
theorem enter_storesWell {session : Session} :
    (Upkeep.enter session).Keeps a.upkeepStoringRules (fun _ _ => True) () := by
  refine ⟨trivial, fun new hnew => ?_⟩
  have heui : new.card.devEui = session.devEui := congrArg DeviceCard.devEui hnew
  have haddr : new.card.devAddr = session.devAddr := congrArg DeviceCard.devAddr hnew
  refine ⟨heui, fun _ _ => ⟨trivial, fun entry hentry => ?_⟩⟩
  cases entry with
  | none => trivial
  | some found =>
    -- What was found may be out of date by the time it is stored, and is well formed all the same.
    have hrenewed := (hentry found rfl).renew haddr
    rw [heui] at hrenewed
    exact ⟨⟨List.concat_ne_nil _ _, hrenewed⟩, fun _ _ => trivial⟩

theorem install_storesWell {session : Session} :
    (Upkeep.install session).Keeps a.upkeepStoringRules (fun _ _ => True) () := by
  rw [Upkeep.install_eq]
  refine keeps_bind.mpr ⟨trivial, fun previous _ => keeps_done.mpr (keeps_bind.mpr ?_)⟩
  cases previous with
  | none => exact enter_storesWell
  | some found => exact removeFromAddress_storesWell.mono fun _ _ _ => enter_storesWell

theorem forgetDevice_storesWell :
    (Upkeep.forgetDevice eui).Keeps a.upkeepStoringRules (fun _ _ => True) () := by
  refine keeps_bind.mpr ⟨trivial, fun known _ => keeps_done.mpr ?_⟩
  cases known with
  | none => trivial
  | some found => exact ⟨trivial, fun _ _ => removeFromAddress_storesWell⟩

theorem forgetAddress_storesWell :
    (Upkeep.forgetAddress addr).Keeps a.upkeepStoringRules (fun _ _ => True) () := by
  have hsessions : ∀ found : List DeviceHandle,
      (Upkeep.forgetSessions found).Keeps a.upkeepStoringRules (fun _ _ => True) () := by
    intro found
    induction found with
    | nil => trivial
    | cons first rest ih => exact ⟨trivial, fun _ _ => ih⟩
  refine keeps_bind.mpr ⟨trivial, fun entry _ => keeps_done.mpr ?_⟩
  exact keeps_bind.mpr ((hsessions _).mono fun _ _ _ => ⟨trivial, fun _ _ => trivial⟩)

/-! ## Loading -/

/-- A record that was fetched for a candidate is entered as that candidate. -/
theorem fetchCandidate_storesWell : a.StoresIn (fetchCandidate net addr eui) fun load =>
    ∀ handle, load = .loaded handle → handle.card.devAddr = addr ∧ handle.card.devEui = eui := by
  refine ⟨trivial, fun now _ => ⟨trivial, fun answer hanswer => ?_⟩⟩
  match answer with
  | none | some (.error _) | some (.ok none) => exact nofun
  | some (.ok (some record)) =>
    have hrecord : record.devEui = eui := hanswer record rfl
    simp only [pure_eq_done, bind_eq_bind, done_bind]
    split
    · rename_i haddr
      refine ⟨trivial, fun new hnew => ?_⟩
      have heui : new.card.devEui = eui := (congrArg DeviceCard.devEui hnew).trans hrecord
      have hused : new.card.devAddr = addr := (congrArg DeviceCard.devAddr hnew).trans haddr
      refine ⟨heui, fun _ _ handle heq => ?_⟩
      rw [← CandidateLoad.loaded.inj heq]
      exact ⟨hused, heui⟩
    · exact nofun

/-- A candidate that was loaded is the one that was looked for. -/
theorem loadCandidate_storesWell : a.StoresIn (loadCandidate net addr eui) fun load =>
    ∀ handle, load = .loaded handle → handle.card.devAddr = addr ∧ handle.card.devEui = eui := by
  refine ⟨trivial, fun known hknown => ?_⟩
  cases known with
  | none => exact fetchCandidate_storesWell
  | some found =>
    dsimp only [done_bind]
    split
    · rename_i haddr
      intro handle heq
      rw [← CandidateLoad.loaded.inj heq]
      exact ⟨haddr, hknown found rfl⟩
    · exact fetchCandidate_storesWell

/-- What a loader finds are devices of its address, each of them once. -/
theorem findDevices_storesWell {loader : LoaderId} (ha : a = .loadAddress loader addr) :
    a.StoresIn (findDevices loader addr) fun found =>
      ∀ handles, found = .ok handles → handles ≠ [] ∧ Residents addr handles := by
  refine ⟨trivial, fun answer _ => ?_⟩
  cases answer with
  | error error => exact nofun
  | ok listed =>
    refine ⟨trivial, fun _ _ => ⟨trivial, fun loads hloads handles hfound => ?_⟩⟩
    obtain ⟨rfl, hsome⟩ := eq_of_devicesOf_ok hfound
    exact ⟨hsome, hloads addr ha⟩

/-- A loader publishes what it found. -/
theorem loadAddress_storesWell {loader : LoaderId} (ha : a = .loadAddress loader addr) :
    a.StoresIn (loadAddress net loader addr) fun _ => True := by
  rw [loadAddress_eq]
  refine keeps_bind.mpr ((findDevices_storesWell ha).mono fun _ found hfound => ?_)
  have hleave : a.StoresIn ((memory (.leaveLoader addr)).bind fun _ =>
      (memory (.closeQueue loader)).bind fun waiting => answerAll net found waiting)
        fun _ => True := by
    refine ⟨trivial, fun _ _ => ⟨trivial, fun waiting _ => ?_⟩⟩
    refine stores_of_obeys (answerAll_replies waiting) fun op hop => ?_
    unfold ServerOperation.Replies at hop
    split at hop
    · trivial
    · trivial
    · exact hop.elim
  cases found with
  | error reason => exact hleave
  | ok handles => exact ⟨hfound handles rfl, fun _ _ => hleave⟩

/-- Who looks for the device of a frame stores nothing. -/
theorem resolve_storesWell : a.StoresIn (resolve net frame) fun _ => True := by
  have hreply : a.StoresIn ((memory .takeReply).bind fun resolution =>
      pure (some resolution)) fun _ => True := ⟨trivial, fun _ _ => trivial⟩
  refine keeps_bind.mpr ⟨trivial, fun cached _ => ?_⟩
  cases cached with
  | some handles =>
    exact keeps_bind.mpr ((stores_of_harmless authenticate_harmless).mono fun _ _ _ => trivial)
  | none =>
    refine keeps_bind.mpr ⟨trivial, fun joined _ => ?_⟩
    cases joined with
    | again => trivial
    | queued => exact hreply
    | started loader => exact ⟨trivial, fun _ _ => hreply⟩

/-! ## Dispatching -/

theorem dispatchData_storesWell {uplink : RadioUplink} :
    a.StoresIn (dispatchData net uplink frame) fun _ => True := by
  unfold dispatchData
  split
  · trivial
  · refine keeps_bind.mpr (resolve_storesWell.mono fun _ found _ => ?_)
    rcases found with - | (reason | found)
    · trivial
    · trivial
    · refine keeps_bind.mpr ((stores_of_harmless handleOn_harmless).mono fun _ outcome _ => ?_)
      split
      · exact keeps_bind.mpr ((stores_of_upkeep forgetDevice_storesWell).mono fun _ _ _ => trivial)
      · trivial

theorem dispatchJoin_storesWell {uplink : RadioUplink} {request : JoinRequest} :
    a.StoresIn (dispatchJoin net uplink request) fun _ => True := by
  have hjoin : ((JoinHandling.handle net ⟨request, uplink.metadata, uplink.arrival⟩).expand
      (ofJoinOperation net)).Keeps a.storingRules (fun _ _ => ∃ _ : Unit, True ∧ True) () := by
    refine (obeys_true _).expand trivial ?_
    rintro - - op - -
    cases op with
    | clock | draw | call => exact ⟨trivial, fun _ _ => ⟨trivial, trivial⟩⟩
    | install record =>
      refine keeps_bind.mpr ((stores_of_upkeep install_storesWell).mono fun _ _ _ => ?_)
      exact ⟨trivial, trivial⟩
  exact keeps_bind.mpr (hjoin.mono fun _ _ _ => trivial)

theorem dispatch_storesWell {uplink : RadioUplink} :
    a.StoresIn (dispatch net uplink) fun _ => True := by
  unfold dispatch
  split
  · trivial
  · exact dispatchData_storesWell
  · exact keeps_bind.mpr (dispatchJoin_storesWell.mono fun _ _ _ => trivial)

end Service

namespace Activity

open Program Service

/-- Every activity keeps the rules for what it stores. -/
theorem program_storesWell {net : Network} (a : Activity) :
    a.StoresIn (a.program net) fun _ => True := by
  cases a with
  | dispatch uplink => exact keeps_bind.mpr (dispatch_storesWell.mono fun _ _ _ => trivial)
  | resolve frame => exact keeps_bind.mpr (resolve_storesWell.mono fun _ _ _ => trivial)
  | handle slot uplink =>
    exact keeps_bind.mpr ((stores_of_harmless handleOn_harmless).mono fun _ _ _ => trivial)
  | loadAddress loader addr =>
    exact keeps_bind.mpr ((loadAddress_storesWell rfl).mono fun _ _ _ => trivial)
  | loadCandidate loader place addr eui =>
    refine keeps_bind.mpr (loadCandidate_storesWell.mono fun _ load hload => ?_)
    refine ⟨?_, fun _ _ => trivial⟩
    cases load with
    | loaded handle =>
      obtain ⟨rfl, rfl⟩ := hload handle rfl
      rfl
    | skipped | failed => trivial
  | install record =>
    exact keeps_bind.mpr ((stores_of_upkeep install_storesWell).mono fun _ _ _ => trivial)
  | forgetDevice eui =>
    exact keeps_bind.mpr ((stores_of_upkeep forgetDevice_storesWell).mono fun _ _ _ => trivial)
  | forgetAddress addr =>
    exact keeps_bind.mpr ((stores_of_upkeep forgetAddress_storesWell).mono fun _ _ _ => trivial)

end Activity

end LoraNetwork
