import LoraNetwork.Proofs.Counter
import LoraNetwork.Uplink.Data

/-!
# What an examination shows

An uplink that passes the examination is genuine: its device belongs to this gateway or to none, and
its code verifies under the counter of the verdict. What that counter is hangs on the verdict. The
counter under which an uplink was verified is the one that everything done for the uplink goes by.
-/

namespace LoraNetwork

namespace DataUplink

variable {net : Network} {s : Session} {uplink : DataUplink} {examined : Examined}
variable {counter : UInt32} {requests : List MacCommand}

/-- An uplink that passes the examination belongs to a device of this gateway or of none, its code
verifies, and the verdict is the one on its counter. -/
theorem genuine_of_examine (h : uplink.examine net s = .ok examined) :
    (s.gatewayId = none ∨ s.gatewayId = some net.config.gatewayId) ∧
      uplink.frame.verifies net.suite s.keys.network examined.verdict.counter = true ∧
      examined.verdict = Counter.evaluate (s.counterState net.config.maxCounterGap)
        uplink.frame.header.counter uplink.confirmed := by
  unfold examine at h
  split at h
  · cases h
  · rename_i howner
    have howned : s.gatewayId = none ∨ s.gatewayId = some net.config.gatewayId := by
      cases hgateway : s.gatewayId with
      | none => exact .inl rfl
      | some owner => simpa [hgateway] using howner
    dsimp only at h
    split at h
    · cases h
    · rename_i hmic
      split at h
      · cases h
      · split at h
        · cases h
        · rw [← Except.ok.inj h]
          exact ⟨howned, Bool.of_not_eq_false hmic, rfl⟩

/-- A new frame is beyond the last counter, or it is the first of all and the count was at zero. -/
theorem lt_of_examine_accept (h : uplink.examine net s = .ok ⟨.accept counter, requests⟩) :
    s.progress.fcntUp < counter ∨
      counter = 0 ∧ s.progress.fcntUp = 0 ∧ s.uplinkSeen = false := by
  obtain ⟨-, -, hverdict⟩ := genuine_of_examine h
  rcases Counter.lt_of_evaluate_eq_accept hverdict.symm with hlt | ⟨hzero, hfresh⟩
  · exact .inl hlt
  · simp only [Session.counterState, Bool.and_eq_true, Bool.not_eq_true',
      decide_eq_true_eq] at hfresh
    exact .inr ⟨hzero, hfresh.1.2, hfresh.1.1⟩

/-- A restart carries the zero or one that was sent. -/
theorem eq_of_examine_reset (h : uplink.examine net s = .ok ⟨.reset counter, requests⟩) :
    counter = uplink.frame.header.counter.toUInt32 ∧
      (uplink.frame.header.counter = 0 ∨ uplink.frame.header.counter = 1) := by
  obtain ⟨-, -, hverdict⟩ := genuine_of_examine h
  exact (Counter.eq_of_evaluate_eq_reset hverdict.symm).2

/-- A restart is one that the session allows. -/
theorem resetAllowed_of_examine (h : uplink.examine net s = .ok ⟨.reset counter, requests⟩) :
    s.resetAllowed = true := by
  obtain ⟨-, -, hverdict⟩ := genuine_of_examine h
  exact (Counter.eq_of_evaluate_eq_reset hverdict.symm).1

/-- A repeat carries the counter of the session. -/
theorem eq_of_examine_resubmit (h : uplink.examine net s = .ok ⟨.resubmit counter, requests⟩) :
    counter = s.progress.fcntUp := by
  obtain ⟨-, -, hverdict⟩ := genuine_of_examine h
  exact (Counter.eq_of_evaluate_eq_resubmit hverdict.symm).2

/-- The counter under which an uplink was verified, if its verdict is not that it be refused. -/
def verified (net : Network) (s : Session) (uplink : DataUplink) : Option UInt32 :=
  match uplink.examine net s with
  | .ok ⟨.accept counter, _⟩ | .ok ⟨.reset counter, _⟩ | .ok ⟨.resubmit counter, _⟩ => some counter
  | .ok ⟨.invalid _, _⟩ | .error _ => none

/-- What is verified is genuine. -/
theorem genuine_of_verified (h : uplink.verified net s = some counter) :
    (s.gatewayId = none ∨ s.gatewayId = some net.config.gatewayId) ∧
      uplink.frame.verifies net.suite s.keys.network counter = true := by
  unfold verified at h
  cases hexamined : uplink.examine net s with
  | error reason => simp [hexamined] at h
  | ok examined =>
    obtain ⟨howned, hmic, -⟩ := genuine_of_examine hexamined
    obtain ⟨verdict, requests⟩ := examined
    refine ⟨howned, ?_⟩
    cases verdict with
    | invalid c => simp [hexamined] at h
    | accept c | reset c | resubmit c =>
      simp only [hexamined, Option.some.injEq] at h
      rw [← h]
      exact hmic

end DataUplink

end LoraNetwork
