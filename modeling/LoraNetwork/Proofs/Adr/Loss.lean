import LoraNetwork.Proofs.Adr.Window
import Mathlib.Algebra.Order.Field.Basic
import Mathlib.Algebra.Order.Field.Rat

/-!
# The estimate of what was lost

Between the first sample of a history and the last the device sent as many frames as their counters
say, and those that are no samples count as lost. This says something only if the counters increase
from sample to sample. Then there are at least as many frames as samples, so the share of those
lost is a proper fraction, and with the greatest counter left out the frames can be counted in
thirty-two bits.
-/

namespace LoraNetwork

namespace UplinkHistory

variable {history : UplinkHistory} {counter : UInt32} {bound : Nat}

/-! ## Samples in order -/

/-- The counters of the samples increase, all of them are below a bound, and there are no more of
them than there is room for. -/
structure Ordered (history : UplinkHistory) (bound : Nat) : Prop where
  /-- Each counter is below those that follow. -/
  increasing : history.samples.Pairwise fun earlier later => earlier.counter < later.counter
  /-- Each is below the bound. -/
  below : ∀ sample ∈ history.samples, sample.counter.toNat < bound
  /-- There is room for all of them. -/
  few : history.samples.length ≤ history.capacity

namespace Ordered

/-- Nothing is wrong with no samples. -/
theorem of_samples_eq_nil (h : history.samples = []) : history.Ordered bound := by
  constructor <;> simp [h]

theorem mono {larger : Nat} (h : history.Ordered bound) (hle : bound ≤ larger) :
    history.Ordered larger :=
  ⟨h.increasing, fun sample hmem => (h.below sample hmem).trans_le hle, h.few⟩

/-- A change of data rate forgets all samples, and without one they stay. -/
theorem atRate (h : history.Ordered bound) (dataRate : UInt8) :
    (history.atRate dataRate).Ordered bound := by
  unfold UplinkHistory.atRate
  split
  · exact h
  · exact of_samples_eq_nil rfl

/-- A sample beyond all the others is put behind them, and the first of them makes room if there is
none. -/
theorem push {sample : UplinkSample} (h : history.Ordered sample.counter.toNat)
    (hcapacity : 1 ≤ history.capacity) :
    (history.push sample).Ordered (sample.counter.toNat + 1) := by
  have hbehind : ∀ kept : List UplinkSample, kept.Sublist history.samples →
      (kept ++ [sample]).Pairwise (fun earlier later => earlier.counter < later.counter) ∧
        ∀ other ∈ kept ++ [sample], other.counter.toNat < sample.counter.toNat + 1 := by
    intro kept hkept
    have hbelow : ∀ other ∈ kept, other.counter.toNat < sample.counter.toNat :=
      fun other hmem => h.below other (hkept.subset hmem)
    constructor
    · refine List.pairwise_append.mpr ⟨h.increasing.sublist hkept, List.pairwise_singleton _ _, ?_⟩
      intro other hmem last hlast
      rw [List.mem_singleton.mp hlast]
      exact UInt32.lt_iff_toNat_lt.mpr (hbelow other hmem)
    · intro other hmem
      rcases List.mem_append.mp hmem with hmem | hlast
      · exact (hbelow other hmem).trans (Nat.lt_succ_self _)
      · rw [List.mem_singleton.mp hlast]
        exact Nat.lt_succ_self _
  have hfew := h.few
  unfold UplinkHistory.push
  dsimp only
  split
  · exact h.mono (Nat.le_succ _)
  · split
    · obtain ⟨hincreasing, hbelow⟩ := hbehind _ (List.drop_sublist 1 history.samples)
      refine ⟨hincreasing, hbelow, ?_⟩
      simp only [List.length_append, List.length_drop, List.length_singleton]
      omega
    · obtain ⟨hincreasing, hbelow⟩ := hbehind _ (List.Sublist.refl history.samples)
      refine ⟨hincreasing, hbelow, ?_⟩
      simp only [List.length_append, List.length_singleton]
      omega

/-- An uplink beyond all the others is recorded behind them. -/
theorem record (h : history.Ordered counter.toNat) (hcapacity : 1 ≤ history.capacity)
    (snr : Float32) (dataRate : UInt8) :
    (history.record counter snr dataRate).Ordered (counter.toNat + 1) := by
  rw [← capacity_atRate history dataRate] at hcapacity
  exact (h.atRate dataRate).push hcapacity

end Ordered

/-! ## Frames and samples -/

/-- With increasing counters there are at least as many frames as samples. -/
theorem add_length_le {samples : List UplinkSample} {first last : UplinkSample}
    (h : samples.Pairwise fun earlier later => earlier.counter < later.counter)
    (hfirst : samples.head? = some first) (hlast : samples.getLast? = some last) :
    first.counter.toNat + samples.length ≤ last.counter.toNat + 1 := by
  induction samples generalizing first with
  | nil => cases hfirst
  | cons sample rest ih =>
    rw [← Option.some.inj hfirst]
    obtain ⟨hbefore, hrest⟩ := List.pairwise_cons.mp h
    cases rest with
    | nil =>
      rw [← Option.some.inj hlast]
      exact Nat.le_refl _
    | cons second others =>
      have hnext := UInt32.lt_iff_toNat_lt.mp (hbefore second List.mem_cons_self)
      have hothers := ih hrest rfl (by rwa [List.getLast?_cons_cons] at hlast)
      simp only [List.length_cons] at hothers ⊢
      omega

/-- The share of the frames that are no samples, before it is rounded. -/
def exactLoss (history : UplinkHistory) : ℚ :=
  match history.expectedFrames with
  | none => 0
  | some expected => 1 - history.samples.length / expected.toNat

/-- The estimate is a sound one. -/
structure LossSound (history : UplinkHistory) : Prop where
  /-- The frames from the first sample to the last can be counted in thirty-two bits, and there are
  at least as many as samples. -/
  counted : ∀ first last, history.samples.head? = some first →
    history.samples.getLast? = some last →
    first.counter ≤ last.counter ∧
      (last.counter - first.counter + 1).toNat =
        last.counter.toNat - first.counter.toNat + 1 ∧
      history.samples.length ≤ last.counter.toNat - first.counter.toNat + 1
  /-- With two samples or more the estimate goes by that number. -/
  expected : 2 ≤ history.samples.length → ∃ first last frames,
    history.samples.head? = some first ∧ history.samples.getLast? = some last ∧
      history.expectedFrames = some frames ∧
      frames.toNat = last.counter.toNat - first.counter.toNat + 1
  /-- The share of those lost is a proper fraction. -/
  fraction : 0 ≤ history.exactLoss ∧ history.exactLoss < 1

/-- Below the greatest counter the frames are counted as numbers are. -/
theorem toNat_frames {first last : UInt32} (hle : first ≤ last) (hlt : last.toNat < 2 ^ 32 - 1) :
    (last - first + 1).toNat = last.toNat - first.toNat + 1 := by
  have hone : (1 : UInt32).toNat = 1 := rfl
  rw [UInt32.toNat_add, UInt32.toNat_sub_of_le _ _ hle, hone]
  omega

/-- A number of frames, when there is one, is that from the first sample to the last. -/
theorem expectedFrames_eq_some {expected : UInt32} (h : history.expectedFrames = some expected) :
    ∃ first last, history.samples.head? = some first ∧ history.samples.getLast? = some last ∧
      expected = last.counter - first.counter + 1 := by
  unfold expectedFrames at h
  split at h
  · rename_i first last hfirst hlast
    split at h
    · exact ⟨first, last, hfirst, hlast, (Option.some.inj h).symm⟩
    · cases h
  · cases h

/-- Of at least as many frames as samples a proper fraction is lost. -/
theorem fraction_of_le {samples frames : Nat} (hpositive : 0 < samples) (hle : samples ≤ frames) :
    0 ≤ 1 - (samples : ℚ) / frames ∧ 1 - (samples : ℚ) / frames < 1 := by
  have hsamples : (0 : ℚ) < samples := Nat.cast_pos.mpr hpositive
  have hframes : (0 : ℚ) < frames := Nat.cast_pos.mpr (hpositive.trans_le hle)
  have hshare : (samples : ℚ) / frames ≤ 1 := (div_le_one hframes).mpr (Nat.cast_le.mpr hle)
  have hsome : (0 : ℚ) < samples / frames := div_pos hsamples hframes
  exact ⟨sub_nonneg.mpr hshare, sub_lt_self 1 hsome⟩

/-- The estimate is sound for samples in order, unless one has the greatest counter of all. -/
theorem lossSound_of_ordered (h : history.Ordered bound) (hbound : bound ≤ 2 ^ 32 - 1) :
    history.LossSound := by
  have hcounted : ∀ first last, history.samples.head? = some first →
      history.samples.getLast? = some last →
      first.counter ≤ last.counter ∧
        (last.counter - first.counter + 1).toNat =
          last.counter.toNat - first.counter.toNat + 1 ∧
        history.samples.length ≤ last.counter.toNat - first.counter.toNat + 1 := by
    intro first last hfirst hlast
    have hlength := add_length_le h.increasing hfirst hlast
    have hpositive := List.length_pos_of_mem (List.mem_of_mem_head? hfirst)
    have hle : first.counter ≤ last.counter := UInt32.le_iff_toNat_le.mpr (by omega)
    have hlt := (h.below last (List.mem_of_mem_getLast? hlast)).trans_le hbound
    exact ⟨hle, toNat_frames hle hlt, by omega⟩
  refine ⟨hcounted, fun htwo => ?_, ?_⟩
  · have hne : history.samples ≠ [] := List.length_pos_iff.mp (by omega)
    have hfirst := List.head?_eq_some_head hne
    have hlast := List.getLast?_eq_some_getLast hne
    have hlength := add_length_le h.increasing hfirst hlast
    have hlt : (history.samples.head hne).counter < (history.samples.getLast hne).counter :=
      UInt32.lt_iff_toNat_lt.mpr (by omega)
    obtain ⟨-, hframes, -⟩ := hcounted _ _ hfirst hlast
    refine ⟨_, _, _, hfirst, hlast, ?_, hframes⟩
    rw [expectedFrames, hfirst, hlast]
    exact if_pos hlt
  · unfold exactLoss
    split
    · exact ⟨le_refl 0, zero_lt_one⟩
    · rename_i frames hsome
      obtain ⟨first, last, hfirst, hlast, rfl⟩ := expectedFrames_eq_some hsome
      obtain ⟨-, hframes, hlength⟩ := hcounted first last hfirst hlast
      have hpositive := List.length_pos_of_mem (List.mem_of_mem_head? hfirst)
      rw [hframes]
      exact fraction_of_le hpositive hlength

end UplinkHistory

end LoraNetwork
