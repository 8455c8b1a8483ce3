import LoraNetwork.Adr.Plan

/-!
# How steps of headroom are allocated

Steps to spare go into the data rate up to the region's limit, and what is left over goes into less
power up to its limit. Missing steps come out of the power. Either limit may lie below the settings
that are in effect, which then stay as they are. The closed form holds for every number of steps, so
none is spent twice, and more headroom never leads to a slower data rate or to more power.
-/

namespace LoraNetwork

namespace AdrSettings

variable {maxDataRate maxPower : UInt8} {region : Region} {steps : Int} {s after : AdrSettings}

/-- A byte below another one can be counted up. -/
theorem toNat_add_one {a b : UInt8} (h : a < b) : (a + 1).toNat = a.toNat + 1 := by
  have hlt := UInt8.lt_iff_toNat_lt.mp h
  have hbound := b.toNat_lt
  have hone : (1 : UInt8).toNat = 1 := rfl
  rw [UInt8.toNat_add, hone]
  omega

/-- A byte above zero can be counted down. -/
theorem toNat_sub_one {a : UInt8} (h : 0 < a) : (a - 1).toNat = a.toNat - 1 :=
  UInt8.toNat_sub_of_le a 1 (UInt8.le_iff_toNat_le.mpr (UInt8.lt_iff_toNat_lt.mp h))

/-! ## The loops -/

/-- Steps to spare raise the data rate up to the limit. -/
theorem toNat_dataRate_spend (maxDataRate maxPower : UInt8) (count : Nat) (s : AdrSettings) :
    (spend maxDataRate maxPower count s).dataRate.toNat =
      max s.dataRate.toNat (min maxDataRate.toNat (s.dataRate.toNat + count)) := by
  fun_induction spend maxDataRate maxPower count s with
  | case1 s => omega
  | case2 s count hrate ih =>
    have hstep := toNat_add_one hrate
    have hlt := UInt8.lt_iff_toNat_lt.mp hrate
    dsimp only at ih
    omega
  | case3 s count hrate hpower ih =>
    have hge := UInt8.le_iff_toNat_le.mp (UInt8.not_lt.mp hrate)
    dsimp only at ih
    omega
  | case4 s count hrate hpower =>
    have hge := UInt8.le_iff_toNat_le.mp (UInt8.not_lt.mp hrate)
    omega

/-- Steps beyond those that the data rate can take lower the power up to the limit. -/
theorem toNat_txPower_spend (maxDataRate maxPower : UInt8) (count : Nat) (s : AdrSettings) :
    (spend maxDataRate maxPower count s).txPower.toNat =
      max s.txPower.toNat (min maxPower.toNat
        (s.txPower.toNat + (count - (maxDataRate.toNat - s.dataRate.toNat)))) := by
  fun_induction spend maxDataRate maxPower count s with
  | case1 s => omega
  | case2 s count hrate ih =>
    have hstep := toNat_add_one hrate
    have hlt := UInt8.lt_iff_toNat_lt.mp hrate
    dsimp only at ih
    omega
  | case3 s count hrate hpower ih =>
    have hge := UInt8.le_iff_toNat_le.mp (UInt8.not_lt.mp hrate)
    have hstep := toNat_add_one hpower
    have hlt := UInt8.lt_iff_toNat_lt.mp hpower
    dsimp only at ih
    omega
  | case4 s count hrate hpower =>
    have hge := UInt8.le_iff_toNat_le.mp (UInt8.not_lt.mp hpower)
    omega

/-- Missing steps come out of the power, as far as there is any. -/
theorem toNat_txPower_raisePower (count : Nat) (s : AdrSettings) :
    (raisePower count s).txPower.toNat = s.txPower.toNat - count := by
  fun_induction raisePower count s with
  | case1 s => rfl
  | case2 s count hpower ih =>
    have hstep := toNat_sub_one hpower
    dsimp only at ih
    omega
  | case3 s count hpower =>
    have hzero := UInt8.le_iff_toNat_le.mp (UInt8.not_lt.mp hpower)
    have hnull : (0 : UInt8).toNat = 0 := rfl
    omega

/-- Missing steps leave the data rate alone. -/
theorem dataRate_raisePower (count : Nat) (s : AdrSettings) :
    (raisePower count s).dataRate = s.dataRate := by
  fun_induction raisePower count s with
  | case1 s => rfl
  | case2 s count hpower ih => exact ih
  | case3 s count hpower => rfl

/-! ## The closed form -/

/-- What becomes of settings after a number of steps of headroom. -/
structure Allocated (region : Region) (steps : Int) (s after : AdrSettings) : Prop where
  /-- Steps to spare raise the data rate up to the limit. -/
  dataRate : (after.dataRate.toNat : Int) =
    max (s.dataRate.toNat : Int)
      (min (region.maxAdrDataRate.toNat : Int) (s.dataRate.toNat + max steps 0))
  /-- What is left over of them lowers the power up to the limit. -/
  lowered : 0 ≤ steps → (after.txPower.toNat : Int) =
    max (s.txPower.toNat : Int) (min (region.maxTxPower.toNat : Int)
      (s.txPower.toNat + (steps - (after.dataRate.toNat - s.dataRate.toNat))))
  /-- Missing steps come out of the power. -/
  raised : steps < 0 → (after.txPower.toNat : Int) = max 0 (s.txPower.toNat + steps)

/-- Every number of steps is allocated so. -/
theorem allocated_afterSteps (region : Region) (steps : Int) (s : AdrSettings) :
    Allocated region steps s (s.afterSteps region steps) := by
  cases steps with
  | ofNat count =>
    have hrate := toNat_dataRate_spend region.maxAdrDataRate region.maxTxPower count s
    have hpower := toNat_txPower_spend region.maxAdrDataRate region.maxTxPower count s
    have hsteps : Int.ofNat count = (count : Int) := rfl
    refine ⟨?_, fun _ => ?_, fun hneg => ?_⟩
    · rw [afterSteps, hsteps]
      omega
    · rw [afterSteps, hsteps]
      omega
    · rw [hsteps] at hneg
      omega
  | negSucc count =>
    have hrate := dataRate_raisePower (count + 1) s
    have hpower := toNat_txPower_raisePower (count + 1) s
    refine ⟨?_, fun hpos => ?_, fun _ => ?_⟩
    · rw [afterSteps, hrate]
      omega
    · omega
    · rw [afterSteps]
      omega

/-- What a closed form of this kind makes sure of. -/
structure Thrifty (region : Region) (steps : Int) (s after : AdrSettings) : Prop where
  /-- The data rate is never lowered. -/
  notSlower : s.dataRate ≤ after.dataRate
  /-- Power is lowered only once the data rate has reached its limit. -/
  rateFirst : s.txPower < after.txPower → region.maxAdrDataRate ≤ after.dataRate
  /-- No step is spent twice. -/
  once : (after.dataRate.toNat - s.dataRate.toNat) +
    ((after.txPower.toNat : Int) - s.txPower.toNat).natAbs ≤ steps.natAbs

/-- An allocation is thrifty. -/
theorem Allocated.thrifty (h : Allocated region steps s after) : Thrifty region steps s after := by
  obtain ⟨hrate, hlowered, hraised⟩ := h
  refine ⟨?_, fun hpower => ?_, ?_⟩
  · rw [UInt8.le_iff_toNat_le]
    omega
  · rw [UInt8.lt_iff_toNat_lt] at hpower
    rw [UInt8.le_iff_toNat_le]
    omega
  · omega

/-- More headroom leads to no slower data rate. -/
theorem Allocated.dataRate_mono {few many : Int} {slow fast : AdrSettings} (hle : few ≤ many)
    (hfew : Allocated region few s slow) (hmany : Allocated region many s fast) :
    slow.dataRate ≤ fast.dataRate := by
  have hslow := hfew.dataRate
  have hfast := hmany.dataRate
  rw [UInt8.le_iff_toNat_le]
  omega

/-- More headroom leads to no more power. -/
theorem Allocated.txPower_mono {few many : Int} {slow fast : AdrSettings} (hle : few ≤ many)
    (hfew : Allocated region few s slow) (hmany : Allocated region many s fast) :
    slow.txPower ≤ fast.txPower := by
  rw [UInt8.le_iff_toNat_le]
  rcases Int.lt_or_le few 0 with hneg | hpos
  · have hslow := hfew.raised hneg
    rcases Int.lt_or_le many 0 with hmanyNeg | hmanyPos
    · have hfast := hmany.raised hmanyNeg
      omega
    · have hfast := hmany.lowered hmanyPos
      omega
  · have hmanyPos := Int.le_trans hpos hle
    have hslow := hfew.lowered hpos
    have hfast := hmany.lowered hmanyPos
    -- A further step that goes into the data rate leaves as many steps over as before.
    have hleft : few - ((slow.dataRate.toNat : Int) - s.dataRate.toNat) ≤
        many - ((fast.dataRate.toNat : Int) - s.dataRate.toNat) := by
      have hslowRate := hfew.dataRate
      have hfastRate := hmany.dataRate
      rw [Int.max_eq_left hpos] at hslowRate
      rw [Int.max_eq_left hmanyPos] at hfastRate
      clear hslow hfast
      omega
    omega

end AdrSettings

namespace Adr

open AdrSettings

variable {region : Region} {margin : Float32} {history : UplinkHistory} {current : AdrSettings}
variable {ackRequested : Bool} {rate : DataRate}

/-- A history with samples has a best ratio. -/
theorem exists_bestSnr (h : history.samples ≠ []) : ∃ best, history.bestSnr = some best := by
  unfold UplinkHistory.bestSnr
  cases hsamples : history.samples with
  | nil => exact absurd hsamples h
  | cons first rest => exact ⟨_, rfl⟩

/-- With enough history, the settings are those after the steps of headroom, with the number of
repetitions that the loss asks for. -/
theorem plan_of_full (hfull : history.isFull = true)
    (hrate : region.dataRate current.dataRate = some rate) {best : Float32}
    (hbest : history.bestSnr = some best) :
    plan region margin history current ackRequested =
      some { current.afterSteps region (headroomSteps best rate.requiredSnr margin) with
        repetitions := repetitionsFor history.lossRate current.repetitions } := by
  rw [plan, if_pos hfull, hrate, hbest]

/-- With enough history and a data rate that the region knows, new settings are computed, and their
data rate and power are the steps of headroom allocated. Every number of steps is allocated in this
way: thriftily, and the more steps there are, the further. -/
theorem steps_allocated (region : Region) :
    (∀ margin history current ackRequested rate, history.isFull = true → history.samples ≠ [] →
      region.dataRate current.dataRate = some rate →
      ∃ best next, history.bestSnr = some best ∧
        plan region margin history current ackRequested = some next ∧
        Allocated region (headroomSteps best rate.requiredSnr margin) current next) ∧
    (∀ steps current, Allocated region steps current (current.afterSteps region steps)) ∧
    (∀ steps current next, Allocated region steps current next →
      Thrifty region steps current next) ∧
    ∀ few many current slow fast, few ≤ many → Allocated region few current slow →
      Allocated region many current fast →
      slow.dataRate ≤ fast.dataRate ∧ slow.txPower ≤ fast.txPower := by
  refine ⟨fun margin history current ackRequested rate hfull hsamples hrate => ?_,
    fun steps current => allocated_afterSteps region steps current,
    fun steps current next h => h.thrifty,
    fun few many current slow fast hle hfew hmany =>
      ⟨hfew.dataRate_mono hle hmany, hfew.txPower_mono hle hmany⟩⟩
  obtain ⟨best, hbest⟩ := exists_bestSnr hsamples
  obtain ⟨hrates, hlowered, hraised⟩ :=
    allocated_afterSteps region (headroomSteps best rate.requiredSnr margin) current
  exact ⟨best, _, hbest, plan_of_full hfull hrate hbest, hrates, hlowered, hraised⟩

namespace Sample

/-- Twenty uplinks in a row that were all heard at 10 dB. -/
def heard : UplinkHistory where
  dataRate := some 0
  samples := (List.range 20).map fun n => ⟨UInt32.ofNat n, 10.0⟩
  capacity := 20

end Sample

/-- Their steps of headroom are allocated. From the slowest data rate and full power, eight steps
lead to the fastest data rate with three to spare for the power, and a ninth lowers it once more. -/
theorem steps_allocated_of_heard :
    Sample.heard.isFull = true ∧ Sample.heard.samples ≠ [] ∧
    (∃ next, plan .eu868 5.0 Sample.heard ⟨0, 0, 1⟩ false = some next ∧
      Thrifty .eu868 (headroomSteps 10.0 (-20.0) 5.0) ⟨0, 0, 1⟩ next) ∧
    (AdrSettings.afterSteps .eu868 8 ⟨0, 0, 1⟩).dataRate.toNat = 5 ∧
    (AdrSettings.afterSteps .eu868 8 ⟨0, 0, 1⟩).txPower.toNat = 3 ∧
    (AdrSettings.afterSteps .eu868 8 ⟨0, 0, 1⟩).txPower ≤
      (AdrSettings.afterSteps .eu868 9 ⟨0, 0, 1⟩).txPower := by
  obtain ⟨hplan, hafter, hthrifty, hmono⟩ := steps_allocated .eu868
  have hfull : Sample.heard.isFull = true := by decide
  have hsamples : Sample.heard.samples ≠ [] := by simp [Sample.heard]
  obtain ⟨best, next, hbest, hnext, hallocated⟩ :=
    hplan 5.0 Sample.heard ⟨0, 0, 1⟩ false .sf12bw125 hfull hsamples rfl
  have hten : Sample.heard.bestSnr = some 10.0 := by decide +kernel
  rw [Option.some.inj (hbest.symm.trans hten)] at hallocated
  have height := hafter 8 ⟨0, 0, 1⟩
  have hrate : ((AdrSettings.afterSteps .eu868 8 ⟨0, 0, 1⟩).dataRate.toNat : Int) = 5 :=
    height.dataRate
  have hpower := height.lowered (by decide)
  rw [hrate] at hpower
  have hthree : ((AdrSettings.afterSteps .eu868 8 ⟨0, 0, 1⟩).txPower.toNat : Int) = 3 := hpower
  exact ⟨hfull, hsamples, ⟨next, hnext, hthrifty _ _ _ hallocated⟩, by omega, by omega,
    (hmono 8 9 _ _ _ (by decide) height (hafter 9 ⟨0, 0, 1⟩)).2⟩

end Adr

end LoraNetwork
