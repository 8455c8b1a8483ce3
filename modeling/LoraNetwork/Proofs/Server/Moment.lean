import LoraNetwork.Proofs.Server.Contract
import LoraNetwork.Proofs.Server.Run

/-!
# What a moment changes

A moment of a run is quiet if it changes no session and nothing outside the server, and it concerns
a session and a counter if all that it changes belongs to that session and is left with that
counter. Only giving a slot back can change a session.
-/

namespace LoraNetwork

/-- The session in a slot, as far as the memory knows. -/
def Memory.session? (m : Memory) (slot : SlotId) : Option Session :=
  m.slots[slot]?.map fun s => s.device.session

namespace Moment

/-- The session in a slot is not changed. -/
def SameSession (m : Moment) (slot : SlotId) : Prop :=
  ∀ s, m.before.session? slot = some s → m.after.session? slot = some s

/-- Something outside was changed. -/
def tookEffect (m : Moment) : Bool := m.event.op.tookEffect m.event.answer

/-- No session is changed, and nothing outside. -/
structure Quiet (m : Moment) : Prop where
  /-- Every session stays as it is. -/
  sessions : ∀ slot, m.SameSession slot
  /-- Nothing took effect. -/
  silent : m.tookEffect = false

/-- What is changed concerns one session and one counter. -/
structure Concerns (m : Moment) (slot : SlotId) (s : Session) (counter : UInt32) : Prop where
  /-- The sessions in other slots stay as they are. -/
  others : ∀ other, other ≠ slot → m.SameSession other
  /-- The session in this slot stays as it is, or it is left with the counter. -/
  own : m.SameSession slot ∨ m.before.session? slot = some s ∧
    ∃ after, m.after.session? slot = some after ∧ s.SameProfile after ∧
      after.progress.fcntUp = counter
  /-- A request that took effect concerns the device of the session and the counter. -/
  request : m.tookEffect = true →
    ∃ request, m.event.op.request? = some request ∧ request.Concerns (.ofSession s) counter

/-- What changes nothing concerns anything. -/
theorem Quiet.concerns {m : Moment} (h : m.Quiet) (slot : SlotId) (s : Session)
    (counter : UInt32) : m.Concerns slot s counter where
  others other _ := h.sessions other
  own := .inl (h.sessions slot)
  request heffect := by
    rw [h.silent] at heffect
    cases heffect

end Moment

namespace ServerState

variable {net : Network} {σ : ServerState} {task : TaskId} {op : ServerOperation}
variable {answer : op.Answer} {after : Memory}

/-- A slot stays, unless it is given back. -/
theorem stays_of_admits (h : σ.Admits net task op answer after) {slot : SlotId} {s : Slot}
    (hfound : σ.memory.slots[slot]? = some s)
    (hgive : ∀ device, op ≠ .memory (.giveBack slot device)) :
    ∃ later, after.slots[slot]? = some later ∧ s.Stays later := by
  have hbefore : ∃ later, σ.memory.slots[slot]? = some later ∧ s.Stays later :=
    ⟨s, hfound, rfl, rfl, id⟩
  refine memory_of_admits h hbefore fun step _ hop hperform => ?_
  refine Memory.stays_of_perform hfound hperform fun device heq => hgive device ?_
  rw [hop, heq]

/-- A moment changes no session but that of a slot that is given back. -/
theorem sameSession_of_admits (h : σ.Admits net task op answer after) {slot : SlotId}
    (hgive : ∀ device, op ≠ .memory (.giveBack slot device)) :
    Moment.SameSession ⟨task, ⟨op, answer⟩, σ.memory, after⟩ slot := by
  intro s hs
  obtain ⟨found, hfound, rfl⟩ := Option.map_eq_some_iff.mp hs
  obtain ⟨later, hlater, hstays⟩ := stays_of_admits h hfound hgive
  rw [Memory.session?, hlater, Option.map_some, hstays.session]

/-- A moment that gives no slot back and has no effect outside is quiet. -/
theorem quiet_of_admits (h : σ.Admits net task op answer after)
    (hgive : ∀ slot device, op ≠ .memory (.giveBack slot device))
    (hsilent : op.tookEffect answer = false) :
    Moment.Quiet ⟨task, ⟨op, answer⟩, σ.memory, after⟩ :=
  ⟨fun slot => sameSession_of_admits h (hgive slot), hsilent⟩

end ServerState

end LoraNetwork
