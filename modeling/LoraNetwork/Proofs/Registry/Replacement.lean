import LoraNetwork.Proofs.Registry.Orderly
import LoraNetwork.Proofs.Registry.Resolved

/-!
# What a join leaves of an earlier session

A join makes its session the one that the index holds, and takes its device out of the entry of one
address: the one that the index names, if the session there is alive. So nothing is left of an
earlier session if the index could follow its device from address to address. The index cannot follow
a device whose session ran out before it joined at another address, nor one that the store has moved
by the time it is loaded. Then the entry of the old address keeps the old session as long as it
lives, and frames that were signed with the old key are still matched with it.
-/

namespace LoraNetwork

/-- What a join leaves in the registry whatever was there before. -/
structure Memory.Joined (config : ServerConfig) (now : Instant) (record : SessionRecord)
    (m : Memory) (handle : DeviceHandle) (after : Memory) : Prop where
  /-- The device is one of the new session. -/
  card : handle.card = .ofSession (.ofRecord config record)
  /-- Its slot is a new one. -/
  slot : handle.slot = m.slots.length
  /-- The index holds it. -/
  index : after.index.get? record.devEui = some ⟨handle, now⟩
  /-- So it is found there, unless sessions of the device are dropped at once. -/
  alive : 0 < Memory.idleTime config handle.card →
    after.indexEntry config now record.devEui = some handle
  /-- Another handle of the device can only be left in the entry of another address, which stays as
  it was. The session in the index was not for this address, or not alive. -/
  left : ∀ addr handles, after.addressEntry config now addr = some handles →
    ∀ one ∈ handles, one.card.devEui = record.devEui → one ≠ handle →
      addr ≠ record.devAddr ∧ m.addressEntry config now addr = some handles ∧
        ∀ old, m.indexEntry config now record.devEui = some old → old.card.devAddr ≠ addr

/-- Nothing is left of a device but one handle: no entry that is alive has another one, and no frame
is matched with another one of an entry. -/
structure Memory.HoldsOnly (net : Network) (now : Instant) (m : Memory) (handle : DeviceHandle) :
    Prop where
  /-- The entries have no other handle of the device. -/
  entries : ∀ addr handles, m.addressEntry net.config now addr = some handles →
    ∀ one ∈ handles, one.card.devEui = handle.card.devEui → one = handle
  /-- Frames are matched with no other handle of the device. -/
  matched : ∀ (frame : DataFrame) handles,
    m.addressEntry net.config now frame.devAddr = some handles →
      (Service.authenticate net frame handles).Obeys (fun _ => True) fun resolution =>
        ∀ one, resolution = .ok one → one.card.devEui = handle.card.devEui → one = handle

/-- A frame is matched with one of the devices that it is compared with. -/
theorem Service.authenticate_mem {net : Network} {frame : DataFrame} (handles : List DeviceHandle) :
    (authenticate net frame handles).Obeys (fun _ => True) fun resolution =>
      ∀ handle, resolution = .ok handle → handle ∈ handles := by
  induction handles with
  | nil => exact Program.obeys_done.mpr nofun
  | cons first rest ih =>
    refine Program.obeys_bind.mpr (Program.obeys_ask.mpr ⟨trivial, fun announced => ?_⟩)
    split
    · refine Program.obeys_done.mpr fun handle heq => ?_
      rw [Except.ok.inj heq]
      exact List.mem_cons_self
    · exact ih.mono (fun _ h => h) fun _ h handle heq => List.mem_cons_of_mem _ (h handle heq)

/-- A session that was just stored is alive. -/
theorem Memory.indexEntry_of_stored {config : ServerConfig} {now : Instant} {m : Memory}
    {eui : Eui64} {handle : DeviceHandle} (h : m.index.get? eui = some ⟨handle, now⟩)
    (hidle : 0 < idleTime config handle.card) : m.indexEntry config now eui = some handle := by
  unfold indexEntry
  rw [h]
  exact if_pos (Int.lt_add_of_pos_right now (Int.natCast_pos.mpr hidle))

/-- If the entries have no other handle of a device, frames are matched with no other one. -/
theorem Memory.holdsOnly_of_entries {net : Network} {now : Instant} {m : Memory}
    {handle : DeviceHandle} (h : ∀ addr handles, m.addressEntry net.config now addr = some handles →
      ∀ one ∈ handles, one.card.devEui = handle.card.devEui → one = handle) :
    m.HoldsOnly net now handle where
  entries := h
  matched frame handles hentry := by
    refine (Service.authenticate_mem handles).mono (fun _ h => h) fun resolution hmem one heq => ?_
    exact h frame.devAddr handles hentry one (hmem one heq)

namespace OrderlyRun

variable {net : Network} {filings : List Filing} {σ : ServerState}

/-- A join makes its session the one that the index holds. In every run of operations one after the
other, in which the store answers with sessions of the devices that it is asked for, nothing is left
of an earlier session of the device, if the index could follow the device in all its filings and can
follow it now. What is left otherwise stood in the entry of another address before the join, and the
session in the index was not for this address, or not alive. -/
theorem replaced_by_join (run : OrderlyRun net filings σ) (hown : ∀ filing ∈ filings, filing.Own)
    (record : SessionRecord) (task : TaskId) :
    ∃ handle after, Memory.runAlone net.config σ.now task
        (Upkeep.install (.ofRecord net.config record)) σ.memory = some (handle, after) ∧
      σ.memory.Joined net.config σ.now record handle after ∧
      ((∀ filing ∈ filings, filing.eui = record.devEui → filing.Followed net.config) →
        σ.memory.CanFollow net.config σ.now record.devEui record.devAddr →
          after.HoldsOnly net σ.now handle) := by
  obtain ⟨handle, after, halone, -⟩ := Memory.runAlone_install net.config σ.now task σ.memory
    (.ofRecord net.config record)
  have hinstalled := Memory.installed_of_runAlone halone
  obtain ⟨_, _, hordered⟩ := run.ordered hown
  refine ⟨handle, after, halone, ⟨hinstalled.card, hinstalled.slot, hinstalled.index,
    Memory.indexEntry_of_stored hinstalled.index, ?_⟩, ?_⟩
  · intro addr handles hentry one hmem hdevice hne
    refine (hinstalled.handle_cases hentry hmem hdevice).resolve_left ?_
    rintro ⟨-, rfl⟩
    exact hne rfl
  · intro hfollowed hfollow
    refine Memory.holdsOnly_of_entries fun addr handles hentry one hmem hdevice => ?_
    rw [hinstalled.card] at hdevice
    exact (hinstalled.eq_handle (hordered.tracks record.devEui hfollowed) hfollow hentry hmem
      hdevice).2

end OrderlyRun

namespace Sample

/-- The server when a frame was looked for. -/
def searching : ServerState := ServerState.launch keyed [.resolve (frameOf 1)] { now := 0 }

theorem orderly_searching : OrderlyRun keyed [] searching :=
  .resolve (.boot 0) (.boot 0) (frameOf 1)

/-- The tasks in the order in which they load the device of a frame and answer. -/
def loadingTurns : List TaskId := [0, 0, 0, 1, 1, 2, 2, 2, 2, 2, 2, 1, 1, 1, 1, 1, 1, 0]

/-- The server when the device of a record was loaded for the frame, and what was done for it. -/
def loaded (record : SessionRecord) : List Moment × ServerState :=
  ServerState.turns keyed (store [record]) loadingTurns ([], searching)

/-- Some time later. -/
def waited (record : SessionRecord) (now : Instant) : ServerState :=
  { (loaded record).2 with now := now }

theorem orderly_waited {record : SessionRecord} {now : Instant}
    (later : (loaded record).2.now ≤ now) :
    OrderlyRun keyed ((loaded record).1.filterMap (Moment.filing 0)) (waited record now) := by
  have run := (orderly_searching.turns (store [record]) loadingTurns).wait later
  rwa [List.nil_append] at run

/-- The first device, with another key at another address. -/
def moved : SessionRecord := { recordOf 1 [2] with devAddr := ⟨0x01000002⟩ }

/-- The first device, with a session that is dropped after five seconds. -/
def brief : SessionRecord := { one with keepAlive := some 5000 }

/-- The device of that session joins at the other address after a second more. -/
def rejoined : DeviceHandle × Memory :=
  (Memory.runAlone keyed.config 6000000000 0 (Upkeep.install (.ofRecord keyed.config moved))
    (waited brief 6000000000).memory).getD (handleOf 0 brief, {})

/-- Then a frame of the old session is looked for. -/
def answered : List Moment × ServerState :=
  ServerState.turns keyed (store [moved]) [3, 3]
    ([], ServerState.launch keyed [.resolve (frameOf 1)]
      { waited brief 6000000000 with memory := rejoined.2 })

end Sample

/-- A device that joins at another address a second after it was loaded leaves nothing behind,
although the entry of the old address is alive. -/
theorem OrderlyRun.replaced_by_join_elsewhere : ∃ handle after,
    (Sample.waited Sample.one 1000000000).memory.addressEntry Sample.keyed.config 1000000000
      ⟨0x01000001⟩ = some [Sample.handleOf 0 Sample.one] ∧
    Memory.runAlone Sample.keyed.config 1000000000 0
      (Upkeep.install (.ofRecord Sample.keyed.config Sample.moved))
      (Sample.waited Sample.one 1000000000).memory = some (handle, after) ∧
    after.HoldsOnly Sample.keyed 1000000000 handle := by
  have run : OrderlyRun Sample.keyed _ (Sample.waited Sample.one 1000000000) :=
    Sample.orderly_waited (by decide +kernel)
  obtain ⟨handle, after, halone, -, honly⟩ := replaced_by_join run (by decide +kernel)
    Sample.moved 0
  exact ⟨handle, after, by decide +kernel, halone, honly (by decide +kernel) (by decide +kernel)⟩

/-! ## Sessions that are left -/

/-- The operation concerns nothing but the memory of the server. -/
def ServerOperation.isLocal : ServerOperation → Bool
  | memory _ => true
  | _ => false

/-- A device joined while nothing else was done, and the device of a frame is looked for next. An old
handle of the device was left, and the search comes to it without asking the store. -/
structure OrderlyRun.StaleAfterJoin (net : Network) (record : SessionRecord) (frame : DataFrame)
    (old handle : DeviceHandle) (filings : List Filing) (σ : ServerState) (after : Memory)
    (later : List Moment) (reached : ServerState) : Prop where
  /-- Operations came one after the other. -/
  run : OrderlyRun net filings σ
  /-- Nothing was left to do. -/
  rest : σ.AtRest
  /-- The store answered with sessions of the devices that it was asked for. -/
  own : ∀ filing ∈ filings, filing.Own
  /-- The device joined. -/
  joined : ∃ task, Memory.runAlone net.config σ.now task
    (Upkeep.install (.ofRecord net.config record)) σ.memory = some (handle, after)
  /-- An entry has a handle of the device with another key. -/
  left : ∃ handles, after.addressEntry net.config σ.now frame.devAddr = some handles ∧
    old ∈ handles ∧ old.card.devEui = handle.card.devEui ∧
      old.card.networkKey ≠ handle.card.networkKey
  /-- The device of a frame is looked for. -/
  asked : ServerState.Reaches net
    (ServerState.launch net [.resolve frame] { σ with memory := after }) later reached
  /-- Nobody asks the store. -/
  cached : ∀ m ∈ later, m.event.op.isLocal = true
  /-- The search comes to the old handle. -/
  found : ∃ job, reached.jobs[σ.jobs.length]? = some job ∧ job.activity = .resolve frame ∧
    job.rest = .done (.resolved (.ok old))

/-- A device whose session was dropped before it joined at another address leaves its old session in
the entry of the old one. A frame that was signed with the old key is matched with it. -/
theorem OrderlyRun.exists_stale_after_join : ∃ old handle filings σ after later reached,
    StaleAfterJoin Sample.keyed Sample.moved (Sample.frameOf 1) old handle filings σ after later
      reached := by
  have hjoined : (Memory.runAlone Sample.keyed.config 6000000000 0
      (Upkeep.install (.ofRecord Sample.keyed.config Sample.moved))
      (Sample.waited Sample.brief 6000000000).memory).isSome = true := by decide +kernel
  have hleft : Sample.rejoined.2.addressEntry Sample.keyed.config 6000000000
      (Sample.frameOf 1).devAddr = some [Sample.handleOf 0 Sample.brief] := by decide +kernel
  have hfound : (Sample.answered.2.jobs[3]?.any fun job =>
      job.looksFor (Sample.frameOf 1) &&
        job.resolution? = some (.ok (Sample.handleOf 0 Sample.brief))) = true := by decide +kernel
  obtain ⟨job, hjob, hfound⟩ := (Option.any_eq_true _ _).mp hfound
  obtain ⟨hasks, hresolution⟩ := Bool.and_eq_true_iff.mp hfound
  have hrun : OrderlyRun Sample.keyed _ (Sample.waited Sample.brief 6000000000) :=
    Sample.orderly_waited (by decide +kernel)
  refine ⟨Sample.handleOf 0 Sample.brief, Sample.rejoined.1, _, _, Sample.rejoined.2,
    Sample.answered.1, Sample.answered.2, {
      run := hrun
      rest := by decide +kernel
      own := by decide +kernel
      joined := ⟨0, ?_⟩
      left := ⟨_, hleft, by decide +kernel, by decide +kernel, by decide +kernel⟩
      asked := .turns _ _ .start
      cached := by decide +kernel
      found := ⟨job, hjob, Job.activity_of_looksFor hasks,
        Job.rest_of_resolution (of_decide_eq_true hresolution)⟩ }⟩
  obtain ⟨pair, hpair⟩ := Option.isSome_iff_exists.mp hjoined
  unfold Sample.rejoined
  rw [hpair]
  exact hpair

end LoraNetwork
