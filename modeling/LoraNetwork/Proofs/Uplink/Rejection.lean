import LoraNetwork.Proofs.Uplink.Run

/-!
# Rejected uplinks

An uplink that is refused before it is processed leaves no trace. Several checks can refuse it, and
one of them comes after the session was changed: a restart that the store does not take. The device
is the same afterwards in every case, and the failed write is the only thing that can have been
asked of anyone.
-/

namespace LoraNetwork

/-- A failure before processing: the uplink was examined, or its counter was. -/
def UplinkStage.isEarly : UplinkStage → Bool
  | authenticating | counterCheck => true
  | _ => false

namespace DataHandling

variable {net : Network} {device : Device} {uplink : DataUplink}

/-- A failure during processing is not an early one. -/
theorem not_isEarly_of_mapError {result : Processed} {failure : UplinkFailure}
    (h : (result.mapError fun reason => (⟨reason, .processing⟩ : UplinkFailure)) =
      .error failure) : failure.stage.isEarly = false := by
  cases result with
  | ok downlink => cases h
  | error reason =>
    rw [← Except.error.inj h]
    rfl

/-- An uplink that is carried out does not fail early. -/
theorem CarriedOut.not_isEarly {recorded : Session} {counter : UInt32}
    {requests : List MacCommand} {events : List (Event dataInterface)} {after : Device}
    {failure : UplinkFailure}
    (h : CarriedOut net device recorded uplink counter requests events after (.error failure)) :
    failure.stage.isEarly = false := by
  obtain ⟨_, _, answered, -, -, -, -, hresult⟩ := h.parts
  exact not_isEarly_of_mapError hresult.symm

end DataHandling

namespace Handling

open DataHandling

/-- The uplink failed before it was processed. -/
def isRejectedEarly (call : Handling) : Bool :=
  match call.result with
  | .error failure => failure.stage.isEarly
  | .ok _ => false

/-- The one thing that an uplink may have done that failed early: it asked the store to take a
restart, and the store refused. -/
def FailedRestart (net : Network) (call : Handling) (failure : UplinkFailure) : Prop :=
  ∃ counter error, call.verdict net = some (.reset counter) ∧
    failure = ⟨.backendUnavailable, .counterCheck⟩ ∧
    call.events = [restartWrite call.before.session counter (.error error)]

/-- An uplink that fails while it is examined, or because of its counter, leaves the device as it
was. Nothing was asked of anyone, or one write of a restart failed. -/
theorem unchanged_of_early_failure {net : Network} {call : Handling} (h : call.Occurs net)
    {failure : UplinkFailure} (hresult : call.result = .error failure)
    (hstage : failure.stage = .authenticating ∨ failure.stage = .counterCheck) :
    call.after = call.before ∧ (call.events = [] ∨ call.FailedRestart net failure) := by
  have hearly : failure.stage.isEarly = true := by
    rcases hstage with h | h <;> rw [h] <;> rfl
  obtain ⟨before, uplink, events, after, result⟩ := call
  dsimp only at hresult ⊢
  subst hresult
  have hhandled := trace_handle h
  dsimp only at hhandled
  generalize hend : (Except.error failure : Except UplinkFailure (Option Downlink)) = result
    at hhandled
  cases hhandled with
  | refused examined => exact ⟨rfl, .inl rfl⟩
  | replay examined => exact ⟨rfl, .inl rfl⟩
  | repeated examined answer write =>
    rw [not_isEarly_of_mapError hend.symm] at hearly
    cases hearly
  | @unsaved counter requests error examined =>
    refine ⟨rfl, .inr ⟨counter, error, ?_, Except.error.inj hend, rfl⟩⟩
    simp only [verdict, examined]
  | restarted examined tells carried =>
    subst hend
    rw [carried.not_isEarly] at hearly
    cases hearly
  | accepted examined carried =>
    subst hend
    rw [carried.not_isEarly] at hearly
    cases hearly

/-- A restart that the store does not take, of a device that had counted to four. -/
theorem unchanged_of_failed_restart :
    let call := Handling.answeredBy Sample.network (Sample.answers (.error .timeout)) Sample.device
      (Sample.uplink .unconfirmedDataUp 0)
    call.result = .error ⟨.backendUnavailable, .counterCheck⟩ ∧ call.events.length = 1 ∧
      call.after = Sample.device ∧
      (call.events = [] ∨
        call.FailedRestart Sample.network ⟨.backendUnavailable, .counterCheck⟩) := by
  intro call
  have hresult : call.result = .error ⟨.backendUnavailable, .counterCheck⟩ := by decide +kernel
  have hunchanged := unchanged_of_early_failure (occurs_answeredBy _ _ _ _) hresult (.inr rfl)
  exact ⟨hresult, by decide +kernel, hunchanged⟩

end Handling

end LoraNetwork
