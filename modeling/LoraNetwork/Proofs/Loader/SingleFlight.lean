import LoraNetwork.Proofs.Loader.Progress
import LoraNetwork.Proofs.Server.Authenticity

/-!
# One loader and one question at a time

Whatever runs side by side, an address has one loader at most, and so there is one question for its
devices at a time; no frame is added to a queue that is closed; and every frame that was added has
exactly one reply in the end.
-/

namespace LoraNetwork

namespace Event

/-- A collaborator was asked for the devices of an address. -/
def asksFor (addr : DevAddr) (event : Event serverInterface) : Bool :=
  match event.op.request? with
  | some (.fetchCandidates other) => other = addr
  | _ => false

end Event

namespace ServerState

/-- A task loads an address, from its start until it makes itself unknown. -/
def LoadsAddress (σ : ServerState) (history : List Moment) (task : TaskId) (addr : DevAddr) :
    Prop :=
  (∃ (loader : LoaderId) (rest : Service Verdict),
    σ.jobs[task]? = some ⟨.loadAddress loader addr, rest⟩) ∧ ¬ HasLeft task addr history

/-- A task asks a collaborator for the devices of an address and waits for the answer. -/
def AsksFor (σ : ServerState) (task : TaskId) (addr : DevAddr) : Prop :=
  ∃ (activity : Activity) (op : ServerOperation) (next : op.Answer → Service Verdict),
    σ.jobs[task]? = some ⟨activity, .perform op next⟩ ∧
      op.request? = some (.fetchCandidates addr)

/-- A task waits for the reply to its frame. -/
def Awaits (σ : ServerState) (task : TaskId) : Prop :=
  ∃ (activity : Activity) (next : Resolution → Service Verdict),
    σ.jobs[task]? = some ⟨activity, .perform (.memory .takeReply) next⟩

end ServerState

/-- What holds of the loading of addresses at every moment of a run. -/
structure SingleFlight (net : Network) (history : List Moment) (σ : ServerState) : Prop where
  /-- An address has one loader at most. -/
  alone : ∀ addr one two, σ.LoadsAddress history one addr → σ.LoadsAddress history two addr →
    one = two
  /-- There is one question at most for the devices of an address. -/
  asks : ∀ addr one two, σ.AsksFor one addr → σ.AsksFor two addr → one = two
  /-- Every frame for which a loader was known found its queue open. -/
  open_ : ∀ m ∈ history, m.FindsOpen
  /-- A frame has at most one reply, and no reply comes without a frame. -/
  answered : ∀ task, replies task history ≤ requests task history ∧
    requests task history ≤ replies task history + 1
  /-- Once no task that loads something can go on, every frame has its reply, and whoever waits for
  one can take it. -/
  settled : σ.LoadersRest net → ∀ task, replies task history = requests task history ∧
    (σ.Awaits task → σ.CanGoOn net task)

namespace ServerRun

variable {net : Network} {σ : ServerState} {history : List Moment}

/-- Two loaders of one address that are both known are looked after by one task. -/
theorem eq_of_known {stages : Roster} {m : Memory} (h : stages.Tied m) {one two : TaskId}
    {addr : DevAddr} {loader loader' : LoaderId} (hone : (stages one).known = some (addr, loader))
    (htwo : (stages two).known = some (addr, loader')) : one = two := by
  have hloader := h.known one addr loader hone
  rw [h.known two addr loader' htwo] at hloader
  cases hloader
  exact h.apart one two _ (Stage.serves_of_known hone) (Stage.serves_of_known htwo)

/-- A task that asks for the devices of an address looks after its loader. -/
theorem known_of_asksFor (h : Loading history σ) {task : TaskId} {addr : DevAddr}
    (hasks : σ.AsksFor task addr) :
    ∃ loader, (σ.roster history task).known = some (addr, loader) := by
  obtain ⟨activity, op, next, hjob, hrequest⟩ := hasks
  have hallows := (h.jobs task _ hjob).rules.1
  cases op with
  | call request =>
    obtain rfl := Option.some.inj hrequest
    obtain ⟨loader, hasking⟩ := hallows
    exact ⟨loader, by rw [hasking]; rfl⟩
  | race request deadline =>
    obtain rfl := Option.some.inj hrequest
    exact hallows.elim
  | clock | wallClock | draw | memory | start => cases hrequest

/-- At every moment of a run an address has one loader, and every frame is served. -/
theorem singleFlight (run : ServerRun net history σ) : SingleFlight net history σ where
  alone addr one two hone htwo := by
    have h := run.loading
    have hknown : ∀ task, σ.LoadsAddress history task addr →
        ∃ loader, (σ.roster history task).known = some (addr, loader) := by
      rintro task ⟨⟨loader, rest, hjob⟩, hleft⟩
      have hruns := (h.jobs task _ hjob).runs loader addr rfl
      exact ⟨loader, Stage.known_of_runs (hruns.resolve_right hleft)⟩
    obtain ⟨loader, hone⟩ := hknown one hone
    obtain ⟨loader', htwo⟩ := hknown two htwo
    exact eq_of_known h.fits.tied hone htwo
  asks addr one two hone htwo := by
    obtain ⟨loader, hone⟩ := known_of_asksFor run.loading hone
    obtain ⟨loader', htwo⟩ := known_of_asksFor run.loading htwo
    exact eq_of_known run.loading.fits.tied hone htwo
  open_ := run.loading.open_
  answered task := by
    have h := run.loading
    obtain ⟨howed, hnot⟩ := h.fits.ledger.requests_eq h.fits.served task
    by_cases hcase : (σ.roster history).Owed σ.memory task
    · rw [howed hcase]
      exact ⟨Nat.le_succ _, Nat.le_refl _⟩
    · rw [hnot hcase]
      exact ⟨Nat.le_refl _, Nat.le_succ _⟩
  settled hrest task := by
    have h := run.loading
    have hnot := h.not_owed hrest task
    refine ⟨((h.fits.ledger.requests_eq h.fits.served task).2 hnot).symm, ?_⟩
    rintro ⟨activity, next, hjob⟩
    exact h.canGoOn_of_not_owed hjob rfl hnot

end ServerRun

end LoraNetwork
