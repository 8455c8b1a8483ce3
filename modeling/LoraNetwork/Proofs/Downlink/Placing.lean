import LoraNetwork.Downlink.Window
import LoraNetwork.Session.Record

/-!
# Where a region can answer

A window has radio parameters if the region's tables have a data rate for it. The first window
follows the uplink, whose modulation has to be one that the region uses for uplinks, and a device's
offset, which the region bounds. The second window only depends on the data rate that a device has
of its own; that of the region is always there.
-/

namespace LoraNetwork

namespace Region

variable {region : Region} {index offset : UInt8} {rate : DataRate}

/-- The largest offset of the first window that a region knows. -/
def maxRx1Offset : Region → UInt8
  | eu868 => 5
  | us915 => 3

/-- The region has no data rate for a window after an uplink. -/
def Lacks (region : Region) (uplink : RadioMetadata) (listening : ListeningProfile) :
    ReceiveWindow → Prop
  | .rx1 => region.uplinkIndex uplink.dataRate = none ∨ region.maxRx1Offset < listening.rx1Offset
  | .rx2 => ∃ rate, listening.rx2DataRate = some rate ∧ region.dataRate rate = none

/-- Offsets fit into the three bits of an accept. -/
theorem maxRx1Offset_lt (region : Region) : region.maxRx1Offset < 8 := by
  cases region <;> decide

/-- Indices of data rates fit into four bits. -/
theorem lt_of_dataRate (h : region.dataRate index = some rate) : index < 16 := by
  unfold dataRate at h
  split at h <;> first | decide | cases h

/-- The data rate of the second window is one of the region. -/
theorem isSome_dataRate_rx2Default (region : Region) :
    (region.dataRate region.rx2Default.2).isSome = true := by
  cases region <;> rfl

/-- An offset that the region knows leads from a data rate of uplinks to one of downlinks. -/
theorem exists_rx1DataRate (hindex : index ∈ region.uplinkIndices)
    (hoffset : offset ≤ region.maxRx1Offset) :
    ∃ first, region.rx1DataRate index offset = some first ∧
      (region.dataRate first).isSome = true := by
  cases region with
  | eu868 =>
    have hindices : ∀ index ∈ uplinkIndices eu868, index.toNat ≤ 6 := by simp [uplinkIndices]
    have hrates : ∀ n < 7, (dataRate eu868 (UInt8.ofNat n)).isSome = true := by decide
    have hindex := hindices index hindex
    have hoffset : offset.toNat ≤ 5 := UInt8.le_iff_toNat_le.mp hoffset
    have hvalid : ¬ (7 < index ∨ 5 < offset) := by
      simp only [UInt8.lt_iff_toNat_lt, UInt8.reduceToNat]
      omega
    exact ⟨_, if_neg hvalid, hrates _ (by omega)⟩
  | us915 =>
    have hindices : ∀ index ∈ uplinkIndices us915, index.toNat ≤ 4 := by simp [uplinkIndices]
    have hrates : ∀ n < 14, 8 ≤ n → (dataRate us915 (UInt8.ofNat n)).isSome = true := by decide
    have hindex := hindices index hindex
    have hoffset : offset.toNat ≤ 3 := UInt8.le_iff_toNat_le.mp hoffset
    have hvalid : ¬ (4 < index ∨ 3 < offset) := by
      simp only [UInt8.lt_iff_toNat_lt, UInt8.reduceToNat]
      omega
    exact ⟨_, if_neg hvalid, hrates _ (by omega) (by omega)⟩

/-- An offset that the region does not know leads nowhere. -/
theorem rx1DataRate_eq_none (hoffset : region.maxRx1Offset < offset) :
    region.rx1DataRate index offset = none := by
  cases region with
  | eu868 | us915 => exact if_pos (.inr hoffset)

end Region

namespace WindowParams

variable {region : Region} {window : ReceiveWindow} {uplink : RadioMetadata}
variable {listening : ListeningProfile}

/-- A window has no parameters exactly if the region lacks a data rate for it. -/
theorem ofWindow_eq_none_iff :
    ofWindow region window uplink listening.rx1Offset listening.rx2DataRate = none ↔
      region.Lacks uplink listening window := by
  cases window with
  | rx1 =>
    unfold ofWindow place Region.Lacks
    cases hindex : region.uplinkIndex uplink.dataRate with
    | none => simp
    | some index =>
      by_cases hoffset : region.maxRx1Offset < listening.rx1Offset
      · simp [Region.rx1DataRate_eq_none hoffset, hoffset]
      · obtain ⟨first, hfirst, hrate⟩ := Region.exists_rx1DataRate
          (List.mem_of_find?_eq_some hindex) (UInt8.not_lt.mp hoffset)
        have hfound := Option.isSome_iff_ne_none.mp hrate
        simp [hfirst, hoffset, hfound]
  | rx2 =>
    unfold ofWindow place Region.Lacks
    cases hrate : listening.rx2DataRate with
    | none =>
      have hfound := Option.isSome_iff_ne_none.mp (Region.isSome_dataRate_rx2Default region)
      simp [hfound]
    | some rate => simp

/-- A first window that has parameters is told by an offset that fits into three bits. -/
theorem rx1Offset_lt {offset : UInt8} {own : Option UInt8} {params : WindowParams}
    (h : ofWindow region .rx1 uplink offset own = some params) : offset < 8 := by
  refine UInt8.not_le.mp fun hlarge => ?_
  have hunknown : region.maxRx1Offset < offset :=
    UInt8.lt_of_lt_of_le region.maxRx1Offset_lt hlarge
  have hnone : ofWindow region .rx1 uplink offset own = none :=
    (@ofWindow_eq_none_iff region .rx1 uplink ⟨1, 0, offset, own⟩).mpr (.inr hunknown)
  rw [h] at hnone
  cases hnone

/-- A second window that has parameters is told by a data rate that fits into four bits. -/
theorem rx2DataRate_lt {offset : UInt8} {own : Option UInt8} {params : WindowParams}
    (h : ofWindow region .rx2 uplink offset own = some params) :
    own.getD region.rx2Default.2 < 16 := by
  obtain ⟨rate, hrate, -⟩ := Option.map_eq_some_iff.mp h
  exact Region.lt_of_dataRate hrate

end WindowParams

end LoraNetwork
