import LoraNetwork.Counter

/-!
# Verdicts on counters

What each verdict says about the counter it carries. An accepted counter lies beyond the last one,
except for the zero of a session where nothing was accepted yet; a restart carries the counter as
sent, which is zero or one; a repeat carries the last counter.

The other way round, the counter of a device that goes on counting is rebuilt from its low half if
the device skipped less than a block of 65536, and such a frame is accepted. There is one exception:
the first two counters of a block look like a restart, and are taken for one where one is allowed.
-/

namespace LoraNetwork

namespace Counter

variable {state : CounterState} {incoming : UInt16} {confirmed : Bool} {counter : UInt32}

/-- A frame with the last counter is no new frame. -/
theorem repeated_ne_accept (last : UInt32) : repeated last confirmed ≠ .accept counter := by
  unfold repeated
  split <;> simp

/-- A frame with the last counter is no restart. -/
theorem repeated_ne_reset (last : UInt32) : repeated last confirmed ≠ .reset counter := by
  unfold repeated
  split <;> simp

/-- A frame with the last counter is a repeat only if it is confirmed. -/
theorem eq_of_repeated_eq_resubmit {last : UInt32}
    (h : repeated last confirmed = .resubmit counter) : confirmed = true ∧ counter = last := by
  unfold repeated at h
  split at h
  · rename_i hconfirmed
    exact ⟨hconfirmed, (CounterVerdict.resubmit.inj h).symm⟩
  · cases h

/-- An accepted counter lies beyond the last one, or is the zero of a fresh session. -/
theorem lt_of_evaluate_eq_accept (h : evaluate state incoming confirmed = .accept counter) :
    state.last < counter ∨ counter = 0 ∧ state.fresh = true := by
  unfold evaluate at h
  split at h
  · exact absurd h (repeated_ne_accept _)
  · split at h
    · cases h
    · dsimp only at h
      split at h
      · rename_i hzero
        exact .inr ⟨(CounterVerdict.accept.inj h).symm, hzero.1⟩
      · split at h
        · exact absurd h (repeated_ne_accept _)
        · rename_i hne
          split at h
          · cases h
          · rename_i hrange
            rw [← CounterVerdict.accept.inj h]
            have hle := UInt32.not_lt.mp fun hlt => hrange (.inl hlt)
            exact .inl (UInt32.lt_of_le_of_ne hle fun heq => hne heq.symm)

/-- A restart is allowed, and its counter is the zero or the one that was sent. -/
theorem eq_of_evaluate_eq_reset (h : evaluate state incoming confirmed = .reset counter) :
    state.resetAllowed = true ∧ counter = incoming.toUInt32 ∧ (incoming = 0 ∨ incoming = 1) := by
  unfold evaluate at h
  split at h
  · exact absurd h (repeated_ne_reset _)
  · split at h
    · rename_i hreset
      obtain ⟨hallowed, hrestarts⟩ := hreset
      refine ⟨hallowed, (CounterVerdict.reset.inj h).symm, ?_⟩
      simp only [restarts, Bool.or_eq_true, Bool.and_eq_true, decide_eq_true_eq] at hrestarts
      exact hrestarts.imp_right And.left
    · dsimp only at h
      split at h
      · cases h
      · split at h
        · exact absurd h (repeated_ne_reset _)
        · split at h <;> cases h

/-- A repeat is confirmed and carries the last counter. -/
theorem eq_of_evaluate_eq_resubmit (h : evaluate state incoming confirmed = .resubmit counter) :
    confirmed = true ∧ counter = state.last := by
  unfold evaluate at h
  split at h
  · exact eq_of_repeated_eq_resubmit h
  · split at h
    · cases h
    · dsimp only at h
      split at h
      · cases h
      · split at h
        · rename_i hlast
          obtain ⟨hconfirmed, hcounter⟩ := eq_of_repeated_eq_resubmit h
          exact ⟨hconfirmed, hcounter.trans hlast⟩
        · split at h <;> cases h

/-! ## Counting on -/

variable {last : UInt32} {wide : Bool}

/-- The counter lies beyond the last one, by less than a block, and the device can count to it. -/
structure Follows (last : UInt32) (wide : Bool) (counter : UInt32) : Prop where
  /-- It lies beyond the last one. -/
  lt : last < counter
  /-- It is less than a block away. -/
  near : counter.toNat ≤ last.toNat + 65535
  /-- A device that counts in sixteen bits does not get further. -/
  narrow : wide = false → counter.toNat < 65536

/-- One of the first two counters of a block of 65536 that is not the first block. -/
def OpensBlock (counter : UInt32) : Prop := 65536 ≤ counter.toNat ∧ counter.toNat % 65536 < 2

instance (counter : UInt32) : Decidable (OpensBlock counter) :=
  inferInstanceAs (Decidable (_ ∧ _))

/-- The upper half of a counter is the start of its block. -/
theorem toNat_and_upper (n : UInt32) : (n &&& 0xFFFF0000).toNat = n.toNat / 65536 * 65536 := by
  have hmask : (0xFFFF0000 : UInt32).toNat = (2 ^ 16 - 1) <<< 16 := rfl
  have hblock : n.toNat / 65536 * 65536 = n.toNat >>> 16 <<< 16 := by
    rw [Nat.shiftLeft_eq, Nat.shiftRight_eq_div_pow]
  rw [UInt32.toNat_and, hmask, hblock]
  apply Nat.eq_of_testBit_eq
  intro i
  simp only [Nat.testBit_and, Nat.testBit_shiftLeft, Nat.testBit_shiftRight,
    Nat.testBit_two_pow_sub_one]
  by_cases hlow : 16 ≤ i
  · have hshift : 16 + (i - 16) = i := by omega
    rw [hshift, decide_eq_true hlow]
    by_cases hhigh : i - 16 < 16
    · rw [decide_eq_true hhigh, Bool.true_and, Bool.and_true, Bool.true_and]
    · have hbit : n.toNat.testBit i = false := by
        have hpow : 2 ^ 32 ≤ 2 ^ i := Nat.pow_le_pow_right (by omega) (by omega)
        exact Nat.testBit_lt_two_pow (Nat.lt_of_lt_of_le n.toNat_lt hpow)
      rw [hbit, Bool.false_and, Bool.and_false]
  · rw [decide_eq_false hlow, Bool.false_and, Bool.false_and, Bool.and_false]

/-- A counter is put together from the block of the last one and the low half that was sent. -/
theorem toNat_candidate (last : UInt32) (incoming : UInt16) :
    ((last &&& 0xFFFF0000) ||| incoming.toUInt32).toNat =
      last.toNat / 65536 * 65536 + incoming.toNat := by
  have hlow : incoming.toNat < 2 ^ 16 := incoming.toNat_lt
  have hblock : last.toNat / 65536 * 65536 = (last.toNat / 65536) <<< 16 := by
    rw [Nat.shiftLeft_eq]
  rw [UInt32.toNat_or, toNat_and_upper, UInt16.toNat_toUInt32, hblock,
    ← Nat.shiftLeft_add_eq_or_of_lt hlow]

/-- The low half of a counter, as a number. -/
theorem toNat_low (counter : UInt32) : counter.toUInt16.toNat = counter.toNat % 65536 :=
  UInt32.toNat_toUInt16 counter

/-- The counter of a device that counts on is rebuilt from its low half. -/
theorem resolve_eq (h : Follows last wide counter) :
    resolve last counter.toUInt16 wide = counter := by
  have hlt := UInt32.lt_iff_toNat_lt.mp h.lt
  have hnear := h.near
  have hbound := counter.toNat_lt
  have hlow := toNat_low counter
  apply UInt32.toNat_inj.mp
  cases wide with
  | false =>
    have hnarrow := h.narrow rfl
    have hresolve : resolve last counter.toUInt16 false = counter.toUInt16.toUInt32 := rfl
    rw [hresolve, UInt16.toNat_toUInt32, hlow]
    omega
  | true =>
    have hcandidate := toNat_candidate last counter.toUInt16
    rw [resolve, if_pos rfl]
    dsimp only
    split
    · rename_i hbehind
      have hbehind := UInt32.lt_iff_toNat_lt.mp hbehind
      have hnext : (0x10000 : UInt32).toNat = 65536 := rfl
      rw [hcandidate, hlow] at hbehind
      rw [UInt32.toNat_add, hcandidate, hlow, hnext]
      omega
    · rename_i hahead
      have hahead := UInt32.le_iff_toNat_le.mp (UInt32.not_lt.mp hahead)
      rw [hcandidate, hlow] at hahead ⊢
      omega

/-- The low half of a counter further on is not the last counter. -/
theorem low_ne_last (h : Follows last wide counter) : counter.toUInt16.toUInt32 ≠ last := by
  intro heq
  have hlt := UInt32.lt_iff_toNat_lt.mp h.lt
  have hnear := h.near
  have hlast : counter.toUInt16.toUInt32.toNat = last.toNat := congrArg UInt32.toNat heq
  rw [UInt16.toNat_toUInt32, toNat_low] at hlast
  omega

/-- A counter further on looks like a restart exactly if it opens a block. -/
theorem restarts_iff (h : Follows last wide counter) :
    restarts last counter.toUInt16 = true ↔ OpensBlock counter := by
  have hlt := UInt32.lt_iff_toNat_lt.mp h.lt
  have hnear := h.near
  have hzero : counter.toUInt16 = 0 ↔ counter.toNat % 65536 = 0 := by
    rw [← UInt16.toNat_inj, toNat_low]
    rfl
  have hone : counter.toUInt16 = 1 ↔ counter.toNat % 65536 = 1 := by
    rw [← UInt16.toNat_inj, toNat_low]
    rfl
  have hpast : 1 < last ↔ 1 < last.toNat := UInt32.lt_iff_toNat_lt
  simp only [restarts, Bool.or_eq_true, Bool.and_eq_true, decide_eq_true_eq, hzero, hone, hpast,
    OpensBlock]
  omega

/-- A counter further on, within the largest step, is accepted if it does not look like a restart
that is allowed. -/
theorem evaluate_eq_accept (h : Follows state.last state.wide counter)
    (hgap : counter.toNat ≤ state.last.toNat + state.maxGap.toNat)
    (hrestart : ¬ (state.resetAllowed = true ∧ OpensBlock counter)) :
    evaluate state counter.toUInt16 confirmed = .accept counter := by
  have hlt := UInt32.lt_iff_toNat_lt.mp h.lt
  have hnotLast : ¬ (state.uplinkSeen = true ∧ counter.toUInt16.toUInt32 = state.last) :=
    fun hsame => low_ne_last h hsame.2
  have hnotRestart :
      ¬ (state.resetAllowed = true ∧ restarts state.last counter.toUInt16 = true) :=
    fun hallowed => hrestart ⟨hallowed.1, (restarts_iff h).mp hallowed.2⟩
  have hne : counter ≠ state.last := fun heq => UInt32.lt_irrefl _ (heq ▸ h.lt)
  have hpositive : counter ≠ 0 := by
    intro hzero
    rw [hzero] at hlt
    exact Nat.not_lt_zero _ hlt
  have hstep : (counter - state.last).toNat = counter.toNat - state.last.toNat :=
    UInt32.toNat_sub_of_le _ _ (UInt32.le_of_lt h.lt)
  have hinRange : ¬ (counter < state.last ∨ state.maxGap < counter - state.last) := by
    rw [UInt32.lt_iff_toNat_lt, UInt32.lt_iff_toNat_lt, hstep]
    omega
  rw [evaluate, if_neg hnotLast, if_neg hnotRestart, resolve_eq h]
  dsimp only
  rw [if_neg fun hfresh => hpositive hfresh.2, if_neg hne, if_neg hinRange]

/-- A counter that opens a block is taken for a restart where one is allowed. -/
theorem evaluate_eq_reset (h : Follows state.last state.wide counter)
    (hallowed : state.resetAllowed = true) (hopens : OpensBlock counter) :
    evaluate state counter.toUInt16 confirmed = .reset counter.toUInt16.toUInt32 := by
  have hnotLast : ¬ (state.uplinkSeen = true ∧ counter.toUInt16.toUInt32 = state.last) :=
    fun hsame => low_ne_last h hsame.2
  rw [evaluate, if_neg hnotLast, if_pos ⟨hallowed, (restarts_iff h).mpr hopens⟩]

end Counter

end LoraNetwork
