import LoraNetwork.Proofs.Counter
import LoraNetwork.Session.State

/-!
# The verdict on a counter, exactly

Where no restart may be honoured, the verdict hangs on two numbers: the last counter, and the full
counter that is rebuilt from the half that was sent. In thirty-two bits that is the least counter at
or beyond the last one with this low half, as long as there is one below 2 ^ 32. A counter within
the largest step is accepted, the last counter in a confirmed frame is a repeat, and everything else
is refused. All bounds are stated of natural numbers, where nothing wraps around. Restarts, which
are looked for first, are not covered.
-/

namespace LoraNetwork

namespace CounterState

/-- No restart may be honoured, and the state is fresh only at zero and before the first frame. -/
structure Plain (state : CounterState) : Prop where
  /-- No restart may be honoured. -/
  noRestart : state.resetAllowed = false
  /-- Only a session at zero that has seen no frame is fresh. -/
  fresh : state.fresh = true → state.last = 0 ∧ state.uplinkSeen = false

/-- The state that a session consults is of this kind, unless it may restart its count. -/
theorem Plain.of_session {s : Session} (h : s.resetAllowed = false) (maxGap : UInt32) :
    (s.counterState maxGap).Plain where
  noRestart := h
  fresh hfresh := by
    simp only [Session.counterState, Bool.and_eq_true, Bool.not_eq_true', decide_eq_true_eq]
      at hfresh
    exact ⟨hfresh.1.2, hfresh.1.1⟩

/-- The counter is the zero that a fresh session waits for. -/
def AwaitsZero (state : CounterState) (counter : UInt32) : Prop :=
  state.fresh = true ∧ counter = 0

instance (state : CounterState) (counter : UInt32) : Decidable (state.AwaitsZero counter) :=
  inferInstanceAs (Decidable (_ ∧ _))

/-- The counter lies beyond the last one, by the largest step at most. -/
def InReach (state : CounterState) (counter : UInt32) : Prop :=
  state.last.toNat < counter.toNat ∧ counter.toNat ≤ state.last.toNat + state.maxGap.toNat

instance (state : CounterState) (counter : UInt32) : Decidable (state.InReach counter) :=
  inferInstanceAs (Decidable (_ ∧ _))

/-- What a full counter amounts to where no restart may be honoured. -/
def judge (state : CounterState) (confirmed : Bool) (counter : UInt32) : CounterVerdict :=
  if state.InReach counter ∨ state.AwaitsZero counter then .accept counter
  else if counter = state.last ∧ confirmed = true then .resubmit counter
  else .invalid counter

end CounterState

namespace Counter

variable {state : CounterState} {incoming : UInt16} {confirmed : Bool} {counter last : UInt32}
variable {wide : Bool}

/-! ## Rebuilding the counter -/

/-- In thirty-two bits the counter is put into the block of the last one, or into the next block if
it would lie behind the last one there. -/
theorem toNat_resolve (last : UInt32) (incoming : UInt16) :
    (resolve last incoming true).toNat =
      if last.toNat / 65536 * 65536 + incoming.toNat < last.toNat then
        (last.toNat / 65536 * 65536 + incoming.toNat + 65536) % 4294967296
      else last.toNat / 65536 * 65536 + incoming.toNat := by
  have hcandidate := toNat_candidate last incoming
  have hbehind := @UInt32.lt_iff_toNat_lt ((last &&& 0xFFFF0000) ||| incoming.toUInt32) last
  rw [hcandidate] at hbehind
  rw [resolve, if_pos rfl]
  dsimp only
  split
  · rename_i hlt
    rw [if_pos (hbehind.mp hlt), UInt32.toNat_add, hcandidate]
    rfl
  · rename_i hnot
    rw [if_neg fun hlt => hnot (hbehind.mpr hlt), hcandidate]

/-- The rebuilt counter is the least one at or beyond the last with the low half that was sent, if
there is such a counter. -/
theorem resolve_least (hle : last ≤ counter) (hlow : counter.toUInt16 = incoming) :
    last ≤ resolve last incoming true ∧ (resolve last incoming true).toUInt16 = incoming ∧
      resolve last incoming true ≤ counter := by
  have hvalue := toNat_resolve last incoming
  have hlast := UInt32.le_iff_toNat_le.mp hle
  have hbound := counter.toNat_lt
  have hsent : incoming.toNat = counter.toNat % 65536 := by rw [← hlow, toNat_low]
  rw [UInt32.le_iff_toNat_le, UInt32.le_iff_toNat_le, ← UInt16.toNat_inj, toNat_low, hvalue, hsent]
  split <;> omega

/-- Without such a counter the sum wraps around to one behind the last. -/
theorem resolve_lt_of_none (h : ∀ c : UInt32, last ≤ c → c.toUInt16 ≠ incoming) :
    resolve last incoming true < last := by
  refine UInt32.not_le.mp fun hle => h _ hle ?_
  have hvalue := toNat_resolve last incoming
  have hsent := incoming.toNat_lt
  rw [← UInt16.toNat_inj, toNat_low, hvalue]
  split <;> omega

/-- A device that sends the last counter is taken to be at it. -/
theorem resolve_eq_last (h : incoming.toUInt32 = last) : resolve last incoming wide = last := by
  cases wide with
  | false => exact h
  | true =>
    have hvalue := toNat_resolve last incoming
    have hsent := incoming.toNat_lt
    have hlast : incoming.toNat = last.toNat := by rw [← h, UInt16.toNat_toUInt32]
    rw [← UInt32.toNat_inj, hvalue, hlast]
    rw [if_neg] <;> omega

/-! ## The verdict -/

/-- The last counter is not in reach. -/
theorem not_inReach_last : ¬ state.InReach state.last := fun h => Nat.lt_irrefl _ h.1

/-- A counter is refused for its distance exactly if it is not in reach. -/
theorem inReach_iff (hne : counter ≠ state.last) :
    state.InReach counter ↔
      ¬ (counter < state.last ∨ state.maxGap < counter - state.last) := by
  have hdistinct : counter.toNat ≠ state.last.toNat := fun heq => hne (UInt32.toNat_inj.mp heq)
  rw [CounterState.InReach, UInt32.lt_iff_toNat_lt, UInt32.lt_iff_toNat_lt]
  by_cases hle : state.last ≤ counter
  · have hstep := UInt32.toNat_sub_of_le _ _ hle
    have hle := UInt32.le_iff_toNat_le.mp hle
    omega
  · have hlt := UInt32.lt_iff_toNat_lt.mp (UInt32.not_le.mp hle)
    omega

/-- A frame with the last counter is judged as a repeat. -/
theorem repeated_eq_judge (hzero : ¬ state.AwaitsZero state.last) :
    repeated state.last confirmed = state.judge confirmed state.last := by
  rw [CounterState.judge, if_neg (not_or_intro not_inReach_last hzero), repeated]
  cases confirmed <;> simp

/-- Where no restart may be honoured, the rebuilt counter is judged. -/
theorem evaluate_eq_judge (h : state.Plain) :
    evaluate state incoming confirmed =
      state.judge confirmed (resolve state.last incoming state.wide) := by
  rw [evaluate]
  split
  · rename_i hseen
    -- The shortcut for a state that has seen a frame leads where the long way does.
    rw [resolve_eq_last hseen.2]
    refine repeated_eq_judge fun hawaits => ?_
    have hunseen := (h.fresh hawaits.1).2
    rw [hseen.1] at hunseen
    cases hunseen
  · rw [if_neg fun hallowed => Bool.false_ne_true (h.noRestart.symm.trans hallowed.1)]
    dsimp only
    generalize resolve state.last incoming state.wide = counter
    split
    · rename_i hawaits
      rw [CounterState.judge, if_pos (.inr hawaits), hawaits.2]
    · rename_i hnot
      split
      · rename_i hlast
        subst hlast
        exact repeated_eq_judge hnot
      · rename_i hne
        have hreach := inReach_iff hne
        have hrepeat : ¬ (counter = state.last ∧ confirmed = true) := fun hsame => hne hsame.1
        split
        · rename_i hfar
          have hold : ¬ (state.InReach counter ∨ state.AwaitsZero counter) :=
            not_or_intro (fun hin => hreach.mp hin hfar) hnot
          rw [CounterState.judge, if_neg hold, if_neg hrepeat]
        · rename_i hnear
          rw [CounterState.judge, if_pos (.inl (hreach.mpr hnear))]

/-- A verdict carries the counter that was judged. -/
@[simp] theorem counter_judge (state : CounterState) (confirmed : Bool) (counter : UInt32) :
    (state.judge confirmed counter).counter = counter := by
  unfold CounterState.judge
  split
  · rfl
  · split <;> rfl

/-- What is judged to be new is in reach, or it is the zero that a fresh session waits for. -/
theorem judge_eq_accept_iff {judged : UInt32} :
    state.judge confirmed judged = .accept counter ↔
      counter = judged ∧ (state.InReach counter ∨ state.AwaitsZero counter) := by
  unfold CounterState.judge
  split
  · rename_i hnew
    constructor
    · intro heq
      obtain rfl := CounterVerdict.accept.inj heq
      exact ⟨rfl, hnew⟩
    · rintro ⟨rfl, -⟩
      rfl
  · rename_i hold
    constructor
    · intro heq
      split at heq <;> cases heq
    · rintro ⟨rfl, hnew⟩
      exact absurd hnew hold

/-- What is judged to be a repeat is the last counter in a confirmed frame, and no zero that is
waited for. -/
theorem judge_eq_resubmit_iff {judged : UInt32} :
    state.judge confirmed judged = .resubmit counter ↔
      counter = judged ∧ counter = state.last ∧ confirmed = true ∧ ¬ state.AwaitsZero counter := by
  unfold CounterState.judge
  split
  · rename_i hnew
    constructor
    · intro heq
      cases heq
    · rintro ⟨rfl, hlast, -, hnot⟩
      exact absurd (hnew.resolve_right hnot) (hlast ▸ not_inReach_last)
  · rename_i hold
    split
    · rename_i hrepeat
      constructor
      · intro heq
        obtain rfl := CounterVerdict.resubmit.inj heq
        exact ⟨rfl, hrepeat.1, hrepeat.2, fun hawaits => hold (.inr hawaits)⟩
      · rintro ⟨rfl, -⟩
        rfl
    · rename_i hnot
      constructor
      · intro heq
        cases heq
      · rintro ⟨rfl, hlast, hconfirmed, -⟩
        exact absurd ⟨hlast, hconfirmed⟩ hnot

/-- Everything else is judged to be invalid. -/
theorem judge_eq_invalid_iff :
    state.judge confirmed counter = .invalid counter ↔
      ¬ (state.InReach counter ∨ state.AwaitsZero counter) ∧
        ¬ (counter = state.last ∧ confirmed = true) := by
  unfold CounterState.judge
  split
  · rename_i hnew
    exact ⟨(nomatch ·), fun hneither => absurd hnew hneither.1⟩
  · rename_i hold
    split
    · rename_i hrepeat
      exact ⟨(nomatch ·), fun hneither => absurd hrepeat hneither.2⟩
    · rename_i hnot
      exact ⟨fun _ => ⟨hold, hnot⟩, fun _ => rfl⟩

/-- Counters are validated exactly. Where no restart may be honoured, the verdict carries the rebuilt
counter, which in thirty-two bits is the least one at or beyond the last with the low half that was
sent, and in sixteen bits what was sent. It is accepted exactly if it is in reach, or the zero of a
fresh session; it is a repeat exactly if it is the last one in a confirmed frame, and not that zero;
and it is invalid otherwise, also where the sum wraps around. So every counter of the width of the
device within reach and a block is accepted by its low half, and none at or before the last one is
ever, but for that zero. -/
theorem verdict_exact (h : state.Plain) (incoming : UInt16) (confirmed : Bool) :
    (let counter := resolve state.last incoming state.wide
      let verdict := evaluate state incoming confirmed
      verdict.counter = counter ∧
      (state.wide = true → ∀ c, state.last ≤ c → c.toUInt16 = incoming →
        state.last ≤ counter ∧ counter.toUInt16 = incoming ∧ counter ≤ c) ∧
      (state.wide = false → counter = incoming.toUInt32) ∧
      (verdict = .accept counter ↔ state.InReach counter ∨ state.AwaitsZero counter) ∧
      (verdict = .resubmit counter ↔
        counter = state.last ∧ confirmed = true ∧ ¬ state.AwaitsZero counter) ∧
      (verdict = .invalid counter ↔ ¬ (state.InReach counter ∨ state.AwaitsZero counter) ∧
        ¬ (counter = state.last ∧ confirmed = true)) ∧
      (state.wide = true → (∀ c, state.last ≤ c → c.toUInt16 ≠ incoming) →
        verdict = .invalid counter)) ∧
    (∀ counter, state.last < counter →
      counter.toNat ≤ state.last.toNat + min state.maxGap.toNat 65535 →
      (state.wide = false → counter.toNat < 65536) →
        evaluate state counter.toUInt16 confirmed = .accept counter) ∧
    ∀ counter, counter ≤ state.last → ¬ state.AwaitsZero counter →
      evaluate state incoming confirmed ≠ .accept counter := by
  refine ⟨?_, ?_, ?_⟩
  · dsimp only
    rw [evaluate_eq_judge h, judge_eq_accept_iff, judge_eq_resubmit_iff, judge_eq_invalid_iff]
    refine ⟨counter_judge _ _ _, ?_, ?_, by simp, by simp, .rfl, ?_⟩
    · intro hwide c hle hlow
      rw [hwide]
      exact resolve_least hle hlow
    · intro hnarrow
      rw [hnarrow]
      rfl
    · intro hwide hnone
      rw [hwide]
      have hbehind := UInt32.lt_iff_toNat_lt.mp (resolve_lt_of_none hnone)
      refine ⟨?_, fun hsame => Nat.lt_irrefl _ (hsame.1 ▸ hbehind)⟩
      rintro (hin | hawaits)
      · exact Nat.lt_asymm hin.1 hbehind
      · rw [(h.fresh hawaits.1).1] at hbehind
        exact Nat.not_lt_zero _ hbehind
  · intro counter hlt hnear hnarrow
    have hfollows : Follows state.last state.wide counter := ⟨hlt, by omega, hnarrow⟩
    rw [evaluate_eq_judge h, resolve_eq hfollows, judge_eq_accept_iff]
    exact ⟨rfl, .inl ⟨UInt32.lt_iff_toNat_lt.mp hlt, by omega⟩⟩
  · intro counter hle hnot haccepted
    rw [evaluate_eq_judge h, judge_eq_accept_iff] at haccepted
    have hbeyond := (haccepted.2.resolve_right hnot).1
    exact absurd (UInt32.le_iff_toNat_le.mp hle) (Nat.not_le.mpr hbeyond)

/-- Six below the end of thirty-two bits the next counters are accepted, the last one is a repeat, and
a low half that no further counter has is refused. -/
theorem verdict_exact_near_end :
    let state : CounterState := ⟨0xFFFFFFFA, false, true, true, false, 16384⟩
    state.Plain ∧ evaluate state 0xFFFF false = .accept 0xFFFFFFFF ∧
      evaluate state 0xFFFA true = .resubmit 0xFFFFFFFA ∧ evaluate state 3 true = .invalid 3 := by
  intro state
  have hplain : state.Plain := ⟨rfl, nofun⟩
  obtain ⟨-, hnext, -⟩ := verdict_exact hplain 0 false
  obtain ⟨⟨-, -, -, -, hrepeat, -, -⟩, -, -⟩ := verdict_exact hplain 0xFFFA true
  obtain ⟨⟨-, -, -, -, -, -, hwraps⟩, -, -⟩ := verdict_exact hplain 3 true
  have hnone : ∀ c : UInt32, state.last ≤ c → c.toUInt16 ≠ 3 := by
    intro c hle hlow
    have hle := UInt32.le_iff_toNat_le.mp hle
    have hbound := c.toNat_lt
    have hthree := (toNat_low c).symm.trans (congrArg UInt16.toNat hlow)
    have hlast : state.last.toNat = 4294967290 := rfl
    have hsent : (3 : UInt16).toNat = 3 := rfl
    omega
  have hlast : resolve state.last 0xFFFA state.wide = 0xFFFFFFFA := by decide
  have hfirst : resolve state.last 3 state.wide = 3 := by decide
  rw [hlast] at hrepeat
  rw [hfirst] at hwraps
  exact ⟨hplain, hnext 0xFFFFFFFF (by decide) (by decide) (by decide),
    hrepeat.mpr (by decide), hwraps rfl hnone⟩

end Counter

end LoraNetwork
