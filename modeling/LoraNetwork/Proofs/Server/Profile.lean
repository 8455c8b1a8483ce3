import LoraNetwork.Proofs.Server.Invariant

/-!
# Sessions keep their profile

A session that is in memory stays in its slot. Uplinks move its counters on, but its address, its
keys and all else that an uplink has no say in are those that it was loaded with.
-/

namespace LoraNetwork

namespace Session.SameProfile

variable {s after : Session}

theorem devAddr (h : s.SameProfile after) : after.devAddr = s.devAddr := by
  unfold SameProfile at h
  rw [h]

theorem keys (h : s.SameProfile after) : after.keys = s.keys := by
  unfold SameProfile at h
  rw [h]

end Session.SameProfile

namespace ServerRun

variable {net : Network} {history moments : List Moment} {σ next : ServerState}
variable {slot : SlotId} {s : Session}

/-- A session in a slot keeps its profile in every step. -/
theorem sameProfile_of_step (run : ServerRun net history σ) (step : σ.Step net moments next)
    (h : σ.memory.session? slot = some s) :
    ∃ after, next.memory.session? slot = some after ∧ s.SameProfile after := by
  cases step with
  | wait | arrive | again => exact ⟨s, h, .refl s⟩
  | @perform task activity op rest answer reached found admitted =>
    change ∃ after, reached.session? slot = some after ∧ s.SameProfile after
    by_cases hgive : ∃ returned, op = .memory (.giveBack slot returned)
    · obtain ⟨returned, rfl⟩ := hgive
      have hinvariant := run.invariant (Knowledge.sees_knowledge σ)
      obtain ⟨-, device, acted, uplink, result, hphase, -, hsettled⟩ :=
        (hinvariant.fine task _ found).keeps.1
      obtain ⟨taken, htaken, -, hsession, -⟩ := hinvariant.holds hphase
      have hbefore : s = device.session := by
        rw [Memory.session?, htaken] at h
        exact (Option.some.inj h).symm.trans hsession
      have hafter : reached.session? slot = some returned.session := by
        rw [Memory.session?, Memory.slots_giveBack htaken admitted]
        rfl
      exact ⟨returned.session, hafter, hbefore ▸ hsettled.profile⟩
    · have hsame := ServerState.sameSession_of_admits admitted fun returned heq =>
        hgive ⟨returned, heq⟩
      exact ⟨s, hsame s h, .refl s⟩

end ServerRun

end LoraNetwork
