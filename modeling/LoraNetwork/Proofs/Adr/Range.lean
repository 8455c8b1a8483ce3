import LoraNetwork.Proofs.Adr.Allocation
import LoraNetwork.Proofs.MacCommand.RoundTrip
import LoraNetwork.Proofs.Session.Adaptation

/-!
# Settings that a region allows

The settings for a device are computed from those in effect, and the settings in effect are those
commanded last or full power without repetition. Power and repetitions that are in the region's
range therefore stay in it. The data rate starts at that of the uplink and is only ever raised, so
that it stays one that uplinks use. All of these fit the bits of the command that tells them.
-/

namespace LoraNetwork

namespace Region

variable {region : Region} {index : UInt8}

/-- The indices that uplinks use are the lowest ones. -/
theorem mem_uplinkIndices_iff :
    index ∈ region.uplinkIndices ↔ index.toNat < region.uplinkIndices.length := by
  have hbyte : ∀ n : Fin 256, UInt8.ofNat n ∈ region.uplinkIndices ↔
      (UInt8.ofNat n).toNat < region.uplinkIndices.length := by
    cases region <;> decide +kernel
  exact Bytes.of_lt
    (p := fun b => b ∈ region.uplinkIndices ↔ b.toNat < region.uplinkIndices.length) hbyte
    index.toNat_lt

/-- Adaptive data rate assigns indices that uplinks use. -/
theorem maxAdrDataRate_mem (region : Region) : region.maxAdrDataRate ∈ region.uplinkIndices := by
  cases region <;> decide

end Region

namespace AdrSettings

variable {region : Region} {steps : Int} {s after : AdrSettings}

/-- Power and repetitions are such as the region and the standard know. -/
structure InRange (region : Region) (s : AdrSettings) : Prop where
  /-- The power index is one of the region. -/
  txPower : s.txPower ≤ region.maxTxPower
  /-- Each uplink is sent once, twice or three times. -/
  repetitions : 1 ≤ s.repetitions ∧ s.repetitions ≤ 3

/-- Full power without repetition is in the range of every region. -/
theorem inRange_initial (region : Region) (rate : UInt8) : InRange region ⟨rate, 0, 1⟩ := by
  refine ⟨UInt8.zero_le, ?_⟩
  dsimp only
  decide

/-- No number of steps leads beyond the lowest power. -/
theorem Allocated.txPower_le (h : Allocated region steps s after)
    (hpower : s.txPower ≤ region.maxTxPower) : after.txPower ≤ region.maxTxPower := by
  obtain ⟨-, hlowered, hraised⟩ := h
  rw [UInt8.le_iff_toNat_le] at hpower ⊢
  omega

/-- No number of steps leads beyond the data rates of uplinks. -/
theorem Allocated.mem_uplinkIndices (h : Allocated region steps s after)
    (hrate : s.dataRate ∈ region.uplinkIndices) : after.dataRate ∈ region.uplinkIndices := by
  have hreached := h.dataRate
  have hlimit := Region.mem_uplinkIndices_iff.mp region.maxAdrDataRate_mem
  rw [Region.mem_uplinkIndices_iff] at hrate ⊢
  omega

end AdrSettings

namespace Adr

variable {region : Region} {margin : Float32} {history : UplinkHistory}
variable {current next : AdrSettings} {ackRequested : Bool}

/-- Every class of loss leads to one, two or three repetitions. -/
theorem repetitionsFor_range (loss : Float32) (current : UInt8) :
    1 ≤ repetitionsFor loss current ∧ repetitionsFor loss current ≤ 3 := by
  unfold repetitionsFor
  dsimp only
  repeat' split
  all_goals decide

/-- What settings computed from others owe to them. -/
structure Follows (region : Region) (current next : AdrSettings) : Prop where
  /-- Power and repetitions are in range. -/
  inRange : next.InRange region
  /-- The data rate is one that uplinks use. -/
  uplinkIndex : next.dataRate ∈ region.uplinkIndices
  /-- The data rate is not lowered. -/
  notSlower : current.dataRate ≤ next.dataRate

/-- Settings in range lead to settings in range. -/
theorem follows_of_plan (hrange : current.InRange region)
    (hindex : current.dataRate ∈ region.uplinkIndices)
    (hplan : plan region margin history current ackRequested = some next) :
    Follows region current next := by
  unfold plan at hplan
  split at hplan
  · split at hplan
    · rename_i rate best hrate hbest
      obtain rfl := Option.some.inj hplan
      have hallocated :=
        AdrSettings.allocated_afterSteps region (headroomSteps best rate.requiredSnr margin) current
      exact ⟨⟨hallocated.txPower_le hrange.txPower, repetitionsFor_range _ _⟩,
        hallocated.mem_uplinkIndices hindex, hallocated.thrifty.notSlower⟩
    · cases hplan
  · split at hplan
    · obtain rfl := Option.some.inj hplan
      exact ⟨⟨UInt8.zero_le, hrange.repetitions⟩, hindex, UInt8.le_refl _⟩
    · cases hplan

end Adr

namespace Session

variable {config : ServerConfig} {s : Session} {counter : UInt32} {metadata : RadioMetadata}
variable {ackRequested : Bool} {settings : AdrSettings}

/-- The settings commanded last, if there are any, are in the range of the region. -/
def SettingsInRange (s : Session) : Prop :=
  ∀ settings ∈ s.progress.adr, settings.InRange s.region

/-- A record of a power and of repetitions in range is loaded as settings in range. Repetitions that
are missing count as one. -/
theorem settingsInRange_ofRecord {record : SessionRecord}
    (hpower : ∀ power ∈ record.txPower,
      power ≤ (record.region.getD config.defaultRegion).maxTxPower)
    (hrepetitions : ∀ repetitions ∈ record.repetitions, 1 ≤ repetitions ∧ repetitions ≤ 3) :
    (ofRecord config record).SettingsInRange := by
  have hloaded : (ofRecord config record).progress.adr = (SessionProgress.ofRecord record).adr := by
    unfold ofRecord
    dsimp only
    split <;> rfl
  intro settings hmem
  rw [hloaded] at hmem
  unfold SessionProgress.ofRecord at hmem
  split at hmem
  · rename_i rate power hrate htold
    obtain rfl := Option.some.inj hmem
    refine ⟨hpower power htold, ?_⟩
    dsimp only
    cases hcount : record.repetitions with
    | none => decide
    | some repetitions => exact hrepetitions repetitions hcount
  · cases hmem

/-- Settings in effect use the data rate of the uplink. -/
theorem dataRate_effectiveSettings (s : Session) (rate : UInt8) :
    (s.effectiveSettings rate).dataRate = rate := by
  unfold effectiveSettings
  split
  · split
    · assumption
    · rfl
  · rfl

/-- Settings in effect are in range if those commanded last are. -/
theorem SettingsInRange.effective (h : s.SettingsInRange) (rate : UInt8) :
    (s.effectiveSettings rate).InRange s.region := by
  unfold effectiveSettings
  split
  · rename_i settings hadr
    split
    · exact h settings hadr
    · exact AdrSettings.inRange_initial s.region rate
  · exact AdrSettings.inRange_initial s.region rate

/-- Settings that are computed for an uplink follow those in effect. -/
theorem SettingsInRange.follows (h : s.SettingsInRange)
    (hplanned : s.planned config counter metadata ackRequested = some settings) :
    ∃ rate, s.region.uplinkIndex metadata.dataRate = some rate ∧
      Adr.Follows s.region (s.effectiveSettings rate) settings := by
  unfold planned at hplanned
  split at hplanned
  · cases hplanned
  · rename_i rate hrate
    refine ⟨rate, hrate, Adr.follows_of_plan (h.effective rate) ?_ hplanned⟩
    rw [dataRate_effectiveSettings]
    exact List.mem_of_find?_eq_some hrate

/-- Settings that need no command are not commanded. -/
theorem Needless.command_eq_none (h : s.Needless metadata ackRequested settings)
    (hplanned : s.planned config counter metadata ackRequested = some settings) :
    (s.adapt config counter metadata ackRequested).2 = none := by
  obtain ⟨hquiet, hreason⟩ := h
  cases hrate : s.region.uplinkIndex metadata.dataRate with
  | none => simp [planned, hrate] at hplanned
  | some rate =>
    have hneedless : settings = s.effectiveSettings rate ∨ s.progress.adr = some settings := by
      refine hreason.imp_left ?_
      rintro ⟨index, hindex, heffect⟩
      rw [Option.some.inj (hrate.symm.trans hindex)]
      exact heffect
    simp only [planned, learn, hrate] at hplanned
    simp only [adapt, hrate, hplanned]
    rw [if_pos]
    exact ⟨hquiet, hneedless⟩

/-- The command of settings in range is read back as it was written. -/
theorem decode_settingsCommand {region : Region} (hrange : settings.InRange region)
    (hindex : settings.dataRate ∈ region.uplinkIndices) :
    MacCommand.decode .down (settingsCommand region settings).encode =
      .ok [settingsCommand region settings] := by
  have hbits : region.uplinkIndices.length ≤ 16 ∧ region.maxTxPower < 16 ∧
      region.adrChannelMask.2 < 8 := by cases region <;> decide
  obtain ⟨hrates, hpowers, hcontrol⟩ := hbits
  have hrate : settings.dataRate < 16 :=
    UInt8.lt_iff_toNat_lt.mpr (Nat.lt_of_lt_of_le (Region.mem_uplinkIndices_iff.mp hindex) hrates)
  have hfits : (settingsCommand region settings).Fits :=
    ⟨hrate, UInt8.lt_of_le_of_lt hrange.txPower hpowers, hcontrol,
      UInt8.lt_of_le_of_lt hrange.repetitions.2 (by decide)⟩
  have hconveyed : (settingsCommand region settings).Conveyed .down := ⟨rfl, hfits⟩
  have hread := MacCommand.decode_encode_append hconveyed []
  rw [List.append_nil] at hread
  rw [hread, MacCommand.decode]
  rfl

end Session

end LoraNetwork
