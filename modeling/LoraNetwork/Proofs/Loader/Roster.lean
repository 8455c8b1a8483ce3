import LoraNetwork.Proofs.Loader.Stage
import LoraNetwork.Proofs.Registry.Knowledge

/-!
# Loaders and the registry's memory

How the stages of all tasks and the registry's memory belong together. A loader is known under an
address exactly as long as one task looks after it that has not left yet, its queue accepts frames
until that task closes it, and a candidate that its loader waits for is told or has a task that will
tell. Each operation that has to do with loading has one lemma, which says that stages and memory go
on to belong together when its task moves on to its next stage.
-/

namespace LoraNetwork

/-- The stage of every task. -/
abbrev Roster := TaskId → Stage

/-- The roster after a task moved on. -/
def Roster.set (stages : Roster) (task : TaskId) (stage : Stage) : Roster :=
  fun other => if other = task then stage else stages other

namespace Roster

variable {stages : Roster} {task other : TaskId} {stage : Stage}

@[simp] theorem set_self (stages : Roster) (task : TaskId) (stage : Stage) :
    stages.set task stage task = stage := if_pos rfl

theorem set_of_ne (stages : Roster) (stage : Stage) (h : other ≠ task) :
    stages.set task stage other = stages other := if_neg h

/-- A task of the roster after a move is the one that moved, or stands where it stood. -/
theorem set_cases (stages : Roster) (task : TaskId) (stage : Stage) (other : TaskId) :
    other = task ∧ stages.set task stage other = stage ∨
      other ≠ task ∧ stages.set task stage other = stages other := by
  by_cases h : other = task
  · exact .inl ⟨h, if_pos h⟩
  · exact .inr ⟨h, if_neg h⟩

end Roster

/-! ## Steps on the memory -/

namespace Memory

variable {config : ServerConfig} {now : Instant} {task : TaskId} {m after : Memory}
variable {op : MemoryOperation} {answer : op.Answer}

/-- A step that has nothing to do with loading leaves loaders, queues and replies. -/
theorem same_of_plain (h : m.perform config now task op = some (answer, after))
    (hplain : op.Plain ∨ ∃ slot, op = .takeSlot slot) :
    after.loaders = m.loaders ∧ after.queues = m.queues ∧ after.replies = m.replies := by
  cases op with
  | lookUpAddress | storeAddress | forgetAddress | storeSession | forgetSession | readAnnounced
    | newSlot | announce | lineUp | giveBack =>
    obtain ⟨-, rfl⟩ := Prod.mk.inj (Option.some.inj h)
    exact ⟨rfl, rfl, rfl⟩
  | lookUpSession eui =>
    have hafter : after = (m.readIndex config now eui).2 :=
      (congrArg Prod.snd (Option.some.inj h)).symm
    rcases readIndex_eq m config now eui with heq | ⟨entry, -, heq⟩ <;> rw [heq] at hafter <;>
      rw [hafter] <;> exact ⟨rfl, rfl, rfl⟩
  | takeSlot slot =>
    obtain ⟨-, -, -, -, rfl⟩ := takeSlot_eq h
    exact ⟨rfl, rfl, rfl⟩
  | joinLoader | takeReply | leaveLoader | closeQueue | reply | deposit | gather =>
    rcases hplain with hplain | ⟨slot, heq⟩
    · cases hplain
    · cases heq

/-- How joining the loader of an address can go. -/
inductive Joins (config : ServerConfig) (now : Instant) (task : TaskId) (m : Memory)
    (frame : DataFrame) : Joined → Memory → Prop where
  /-- The frame waits for a loader that is known. -/
  | queued {loader : LoaderId} {queue : LoaderQueue}
      (found : m.loaders.get? frame.devAddr = some loader) (at_ : m.queues[loader]? = some queue)
      (accepts : queue.accepting = true) :
      Joins config now task m frame .queued
        (m.updateQueue loader fun q => { q with pending := q.pending ++ [(task, frame)] })
  /-- The loader that is known accepts no frames. -/
  | refused {loader : LoaderId} (found : m.loaders.get? frame.devAddr = some loader)
      (closed : ∀ queue, m.queues[loader]? = some queue → queue.accepting = false) :
      Joins config now task m frame .again { m with loaders := m.loaders.erase frame.devAddr }
  /-- The address is cached by now. -/
  | cached (unknown : m.loaders.get? frame.devAddr = none)
      (alive : (m.addressEntry config now frame.devAddr).isSome = true) :
      Joins config now task m frame .again m
  /-- A loader is made known. -/
  | started (unknown : m.loaders.get? frame.devAddr = none)
      (cold : (m.addressEntry config now frame.devAddr).isSome = false) :
      Joins config now task m frame (.started m.queues.length)
        { m with
          loaders := m.loaders.set frame.devAddr m.queues.length
          queues := m.queues ++ [{ pending := [(task, frame)] }] }

theorem joins_of_perform {frame : DataFrame} {joined : Joined}
    (h : m.perform config now task (.joinLoader frame) = some (joined, after)) :
    Joins config now task m frame joined after := by
  have hpair : m.joinLoader config now task frame = (joined, after) := Option.some.inj h
  unfold joinLoader at hpair
  split at hpair
  · rename_i loader hfound
    split at hpair
    · rename_i haccepts
      obtain ⟨rfl, rfl⟩ := Prod.mk.inj hpair
      cases hqueue : m.queues[loader]? with
      | none => simp [hqueue] at haccepts
      | some queue => exact .queued hfound hqueue (by simpa [hqueue] using haccepts)
    · rename_i hcloses
      obtain ⟨rfl, rfl⟩ := Prod.mk.inj hpair
      refine .refused hfound fun queue hqueue => ?_
      simpa [hqueue] using hcloses
  · rename_i hunknown
    split at hpair
    · rename_i halive
      obtain ⟨rfl, rfl⟩ := Prod.mk.inj hpair
      exact .cached hunknown halive
    · rename_i hcold
      obtain ⟨rfl, rfl⟩ := Prod.mk.inj hpair
      exact .started hunknown (Bool.eq_false_iff.mpr hcold)

/-- The queues after a change to one of them. -/
theorem getElem?_updateQueue {f : LoaderQueue → LoaderQueue} (loader other : LoaderId) :
    (m.updateQueue loader f).queues[other]? =
      if loader = other then m.queues[other]?.map f else m.queues[other]? := by
  unfold updateQueue
  rw [List.getElem?_modify]
  split
  · rfl
  · exact id_map' _

/-- A queue that is there after an update was there before, and only the one that was updated has
changed. -/
theorem queue_of_updateQueue {f : LoaderQueue → LoaderQueue} {loader other : LoaderId}
    {queue : LoaderQueue} (h : (m.updateQueue loader f).queues[other]? = some queue) :
    ∃ old, m.queues[other]? = some old ∧ (queue = old ∨ loader = other ∧ queue = f old) := by
  rw [getElem?_updateQueue] at h
  split at h
  · rename_i heq
    obtain ⟨old, hold, hqueue⟩ := Option.map_eq_some_iff.mp h
    exact ⟨old, hold, .inr ⟨heq, hqueue.symm⟩⟩
  · exact ⟨queue, h, .inl rfl⟩

/-- A loader was told what became of the candidate at a place. -/
def HasLoad (m : Memory) (loader : LoaderId) (place : Nat) : Prop :=
  ∃ queue load, m.queues[loader]? = some queue ∧ queue.loads.lookup place = some load

/-- A queue accepts frames. -/
def Accepts (m : Memory) (loader : LoaderId) : Prop :=
  ∃ queue, m.queues[loader]? = some queue ∧ queue.accepting = true

section UpdateQueue

variable {loader other : LoaderId} {f : LoaderQueue → LoaderQueue} {place : Nat}

/-- What a loader was told is not forgotten by a change that forgets nothing. -/
theorem HasLoad.updateQueue (h : m.HasLoad other place)
    (hf : ∀ queue load, queue.loads.lookup place = some load →
      ∃ later, (f queue).loads.lookup place = some later) :
    (m.updateQueue loader f).HasLoad other place := by
  obtain ⟨queue, load, hqueue, hload⟩ := h
  unfold HasLoad
  rw [getElem?_updateQueue, hqueue]
  split
  · obtain ⟨later, hlater⟩ := hf queue load hload
    exact ⟨f queue, later, rfl, hlater⟩
  · exact ⟨queue, load, rfl, hload⟩

/-- A queue goes on to accept frames after a change that leaves it open. -/
theorem Accepts.updateQueue (h : m.Accepts other)
    (hf : loader = other → ∀ queue, queue.accepting = true → (f queue).accepting = true) :
    (m.updateQueue loader f).Accepts other := by
  obtain ⟨queue, hqueue, haccepting⟩ := h
  unfold Accepts
  rw [getElem?_updateQueue, hqueue]
  split
  · rename_i heq
    exact ⟨f queue, rfl, hf heq queue haccepting⟩
  · exact ⟨queue, rfl, haccepting⟩

end UpdateQueue

end Memory

/-! ## Stages and memory -/

/-- The stages of all tasks belong to the memory. -/
structure Roster.Tied (stages : Roster) (m : Memory) : Prop where
  /-- A loader is known while a task looks after it that has not left. -/
  known : ∀ task addr loader, (stages task).known = some (addr, loader) →
    m.loaders.get? addr = some loader
  /-- Whatever loader is known, a task looks after it that has not left. -/
  tended : ∀ addr loader, m.loaders.get? addr = some loader →
    ∃ task, (stages task).known = some (addr, loader)
  /-- No two tasks look after one loader. -/
  apart : ∀ one two loader, (stages one).serves = some loader →
    (stages two).serves = some loader → one = two
  /-- While a task looks after a loader its queue accepts frames. -/
  accepting : ∀ task loader, (stages task).serves = some loader → m.Accepts loader
  /-- Frames wait in a queue only if a task looks after its loader. -/
  pending : ∀ loader queue, m.queues[loader]? = some queue → queue.pending ≠ [] →
    ∃ task, (stages task).serves = some loader
  /-- Every candidate that a loader waits for was told, or a task loads it. -/
  candidates : ∀ task loader addr count, stages task = .gathering loader addr count →
    ∀ place < count, m.HasLoad loader place ∨ ∃ other, stages other = .loading loader place

namespace Stage

variable {stage : Stage} {addr : DevAddr} {loader : LoaderId}

/-- Who has made a loader known looks after it. -/
theorem serves_of_known (h : stage.known = some (addr, loader)) : stage.serves = some loader := by
  cases stage with
  | opened | asking | asked | gathering | gathered =>
    cases h
    rfl
  | idle | waiting | left | answering | loading | deposited => cases h

end Stage

namespace Roster

variable {stages : Roster} {task : TaskId} {stage : Stage} {loader : LoaderId} {place : Nat}

/-- A move that leaves what a task makes known leaves what every task makes known. -/
theorem known_set (h : stage.known = (stages task).known) (other : TaskId) :
    (stages.set task stage other).known = (stages other).known := by
  rcases set_cases stages task stage other with ⟨rfl, heq⟩ | ⟨-, heq⟩ <;> rw [heq]
  exact h

/-- A move that leaves what a task looks after leaves what every task looks after. -/
theorem serves_set (h : stage.serves = (stages task).serves) (other : TaskId) :
    (stages.set task stage other).serves = (stages other).serves := by
  rcases set_cases stages task stage other with ⟨rfl, heq⟩ | ⟨-, heq⟩ <;> rw [heq]
  exact h

/-- A candidate is still loaded after the move of a task that loads none. -/
theorem loading_set (hloading : ∀ loader place, stages task ≠ .loading loader place)
    (h : ∃ other, stages other = .loading loader place) :
    ∃ other, stages.set task stage other = .loading loader place := by
  obtain ⟨other, hother⟩ := h
  refine ⟨other, ?_⟩
  rw [set_of_ne]
  · exact hother
  · rintro rfl
    exact hloading loader place hother

end Roster

namespace Roster.Tied

open Memory

variable {stages later : Roster} {m after : Memory} {task : TaskId} {stage : Stage}
variable {config : ServerConfig} {now : Instant} {frame : DataFrame} {joined : Joined}
variable {loader : LoaderId} {addr : DevAddr}

/-- At the start nothing is loaded. -/
theorem empty : Tied (fun _ => .idle) {} where
  known _ _ _ h := by cases h
  tended _ _ h := by cases h
  apart _ _ _ h := by cases h
  accepting _ _ h := by cases h
  pending _ _ h := by simp at h
  candidates _ _ _ _ h := by cases h

/-- Only loaders and queues count. -/
theorem of_eq (h : Tied stages m) (hloaders : after.loaders = m.loaders)
    (hqueues : after.queues = m.queues) : Tied stages after where
  known := by rw [hloaders]; exact h.known
  tended := by rw [hloaders]; exact h.tended
  apart := h.apart
  accepting := by unfold Accepts; rw [hqueues]; exact h.accepting
  pending := by rw [hqueues]; exact h.pending
  candidates := by unfold HasLoad; rw [hqueues]; exact h.candidates

/-- Tasks may move to other stages and change their parts, as long as each loader is looked after as
before and every candidate that is waited for then was told or is being loaded. -/
theorem recast (h : Tied stages m) (part : TaskId → TaskId)
    (hpart : ∀ task, part (part task) = task)
    (hknown : ∀ task, (later task).known = (stages (part task)).known)
    (hserves : ∀ task, (later task).serves = (stages (part task)).serves)
    (hcandidates : ∀ task loader addr count, later task = .gathering loader addr count →
      ∀ place < count, m.HasLoad loader place ∨ ∃ other, later other = .loading loader place) :
    Tied later m where
  known task addr loader htask := h.known (part task) addr loader (by rw [← hknown, htask])
  tended addr loader hfound := by
    obtain ⟨task, htask⟩ := h.tended addr loader hfound
    exact ⟨part task, by rw [hknown, hpart, htask]⟩
  apart one two loader hone htwo := by
    rw [hserves] at hone htwo
    have heq := h.apart _ _ loader hone htwo
    rw [← hpart one, heq, hpart]
  accepting task loader htask := h.accepting (part task) loader (by rw [← hserves, htask])
  pending loader queue hqueue hpending := by
    obtain ⟨task, htask⟩ := h.pending loader queue hqueue hpending
    exact ⟨part task, by rw [hserves, hpart, htask]⟩
  candidates := hcandidates

/-- A task may move to another stage in which it looks after the same loader, if no candidate is
waited for on account of the move. -/
theorem relabel (h : Tied stages m) (hknown : stage.known = (stages task).known)
    (hserves : stage.serves = (stages task).serves)
    (hgathering : ∀ loader addr count, stage ≠ .gathering loader addr count)
    (hloading : ∀ loader place, stages task ≠ .loading loader place) :
    Tied (stages.set task stage) m := by
  refine h.recast id (fun _ => rfl) (known_set hknown) (serves_set hserves) ?_
  intro other loader addr count hother place hplace
  rcases set_cases stages task stage other with ⟨-, heq⟩ | ⟨-, heq⟩ <;> rw [heq] at hother
  · exact absurd hother (hgathering loader addr count)
  · exact (h.candidates other loader addr count hother place hplace).imp_right
      (loading_set hloading)

/-! ### Asking for an address -/

/-- A loader that is known accepts frames. -/
theorem accepts_of_known (h : Tied stages m) (hknown : m.loaders.get? addr = some loader) :
    m.Accepts loader := by
  obtain ⟨task, htask⟩ := h.tended addr loader hknown
  exact h.accepting task loader (Stage.serves_of_known htask)

/-- A frame may wait for a loader that is known. -/
theorem queue (h : Tied stages m) (hknown : m.loaders.get? frame.devAddr = some loader) :
    Tied stages
      (m.updateQueue loader fun q => { q with pending := q.pending ++ [(task, frame)] }) where
  known := h.known
  tended := h.tended
  apart := h.apart
  accepting other served hother :=
    (h.accepting other served hother).updateQueue fun _ _ haccepting => haccepting
  pending other queue hqueue hpending := by
    rw [getElem?_updateQueue] at hqueue
    split at hqueue
    · rename_i heq
      obtain ⟨tender, htender⟩ := h.tended _ _ hknown
      exact ⟨tender, heq ▸ Stage.serves_of_known htender⟩
    · exact h.pending other queue hqueue hpending
  candidates other gatherer addr count hother place hplace :=
    (h.candidates other gatherer addr count hother place hplace).imp_left fun htold =>
      htold.updateQueue fun _ load hload => ⟨load, hload⟩

/-- No loader has the number that comes next. -/
theorem serves_ne_length (h : Tied stages m) (other : TaskId) :
    (stages other).serves ≠ some m.queues.length := by
  intro hserves
  obtain ⟨queue, hqueue, -⟩ := h.accepting other _ hserves
  rw [List.getElem?_eq_none_iff.mpr (Nat.le_refl _)] at hqueue
  cases hqueue

/-- A task that had nothing to do with loading may make a loader known. -/
theorem makeKnown (h : Tied stages m) (hidle : stages task = .idle)
    (hunknown : m.loaders.get? frame.devAddr = none) :
    Tied (stages.set task (.opened m.queues.length frame.devAddr))
      { m with
        loaders := m.loaders.set frame.devAddr m.queues.length
        queues := m.queues ++ [{ pending := [(task, frame)] }] } := by
  -- Whoever does something for a loader is another task, which stands where it stood.
  have hsame : ∀ other, stages other ≠ .idle →
      stages.set task (.opened m.queues.length frame.devAddr) other = stages other := by
    intro other hother
    refine set_of_ne stages _ ?_
    rintro rfl
    exact hother hidle
  have hcases := set_cases stages task (.opened m.queues.length frame.devAddr)
  have hself := set_self stages task (.opened m.queues.length frame.devAddr)
  generalize stages.set task (.opened m.queues.length frame.devAddr) = later
    at hsame hcases hself
  have hqueue : ∀ {loader : LoaderId} {queue : LoaderQueue}, m.queues[loader]? = some queue →
      (m.queues ++ [{ pending := [(task, frame)] }])[loader]? = some queue := by
    intro loader queue hfound
    rw [List.getElem?_append_left (List.getElem?_eq_some_iff.mp hfound).1]
    exact hfound
  refine ⟨?_, ?_, ?_, ?_, ?_, ?_⟩
  · intro other addr loader hother
    dsimp only
    rw [Table.get?_set]
    rcases hcases other with ⟨rfl, heq⟩ | ⟨-, heq⟩ <;> rw [heq] at hother
    · cases hother
      exact if_pos rfl
    · have hold := h.known other addr loader hother
      rw [if_neg]
      · exact hold
      · rintro rfl
        rw [hunknown] at hold
        cases hold
  · intro addr loader hfound
    rcases get?_set_or hfound with ⟨rfl, rfl⟩ | hfound
    · exact ⟨task, by rw [hself]; rfl⟩
    · obtain ⟨other, hother⟩ := h.tended addr loader hfound
      refine ⟨other, ?_⟩
      rw [hsame other fun hnone => by rw [hnone] at hother; cases hother]
      exact hother
  · intro one two loader hone htwo
    rcases hcases one with ⟨hone', heq⟩ | ⟨-, heq⟩ <;>
      rcases hcases two with ⟨htwo', heq'⟩ | ⟨-, heq'⟩ <;> rw [heq] at hone <;> rw [heq'] at htwo
    · rw [hone', htwo']
    · cases hone
      exact absurd htwo (h.serves_ne_length two)
    · cases htwo
      exact absurd hone (h.serves_ne_length one)
    · exact h.apart one two loader hone htwo
  · intro other loader hother
    rcases hcases other with ⟨-, heq⟩ | ⟨-, heq⟩ <;> rw [heq] at hother
    · cases hother
      exact ⟨_, List.getElem?_concat_length, rfl⟩
    · obtain ⟨queue, hfound, haccepting⟩ := h.accepting other loader hother
      exact ⟨queue, hqueue hfound, haccepting⟩
  · intro loader queue hfound hpending
    rcases Nat.lt_trichotomy loader m.queues.length with hlt | heq | hgt
    · dsimp only at hfound
      rw [List.getElem?_append_left hlt] at hfound
      obtain ⟨other, hother⟩ := h.pending loader queue hfound hpending
      refine ⟨other, ?_⟩
      rw [hsame other fun hnone => by rw [hnone] at hother; cases hother]
      exact hother
    · exact ⟨task, by rw [hself, heq]; rfl⟩
    · have hlt := (List.getElem?_eq_some_iff.mp hfound).1
      dsimp only at hlt
      rw [List.length_append, List.length_singleton] at hlt
      omega
  · intro other loader addr count hother place hplace
    rcases hcases other with ⟨-, heq⟩ | ⟨-, heq⟩ <;> rw [heq] at hother
    · cases hother
    · refine (h.candidates other loader addr count hother place hplace).imp ?_ ?_
      · rintro ⟨queue, load, hfound, hload⟩
        exact ⟨queue, load, hqueue hfound, hload⟩
      · rintro ⟨candidate, hcandidate⟩
        exact ⟨candidate, (hsame candidate (by rw [hcandidate]; simp)).trans hcandidate⟩

/-- Joining the loader of an address leads to what the task's next stage says. -/
theorem join (h : Tied stages m) (hidle : stages task = .idle)
    (hjoins : Joins config now task m frame joined after) :
    Tied (stages.set task ((stages task).join frame.devAddr joined)) after := by
  have hwaiting : Tied (stages.set task .waiting) m :=
    h.relabel (by rw [hidle]; rfl) (by rw [hidle]; rfl) (by simp) (by simp [hidle])
  cases hjoins with
  | queued found at_ accepts => exact hwaiting.queue found
  | refused found closed =>
    obtain ⟨queue, hqueue, haccepting⟩ := h.accepts_of_known found
    rw [closed queue hqueue] at haccepting
    cases haccepting
  | cached unknown alive =>
    exact h.relabel rfl rfl (by simp [Stage.join, hidle]) (by simp [hidle])
  | started unknown cold => exact h.makeKnown hidle unknown

/-- Taking a reply leads to what the task's next stage says. -/
theorem takeReply (h : Tied stages m) (hwaiting : stages task = .waiting) :
    Tied (stages.set task .idle) m :=
  h.relabel (by rw [hwaiting]; rfl) (by rw [hwaiting]; rfl) (by simp) (by simp [hwaiting])

/-! ### Loading an address -/

/-- Asking the store leads to what the loader's next stage says. -/
theorem ask (h : Tied stages m) (hasking : stages task = .asking loader addr) :
    Tied (stages.set task (.asked loader addr)) m :=
  h.relabel (by rw [hasking]; rfl) (by rw [hasking]; rfl) (by simp) (by simp [hasking])

/-- Gathering the candidates leads to what the loader's next stage says. -/
theorem gather (h : Tied stages m) {count : Nat}
    (hgathering : stages task = .gathering loader addr count) :
    Tied (stages.set task (.gathered loader addr)) m :=
  h.relabel (by rw [hgathering]; rfl) (by rw [hgathering]; rfl) (by simp) (by simp [hgathering])

/-- A loader may become unknown while a task still looks after it. -/
theorem leave (h : Tied stages m) (hknown : (stages task).known = some (addr, loader))
    (hloading : ∀ loader place, stages task ≠ .loading loader place) :
    Tied (stages.set task (.left loader)) { m with loaders := m.loaders.erase addr } := by
  have hserves := Stage.serves_of_known hknown
  have hsameServes : ∀ other, (stages.set task (.left loader) other).serves =
      (stages other).serves := serves_set hserves.symm
  refine ⟨?_, ?_, ?_, ?_, ?_, ?_⟩
  · intro other address served hstage
    rcases set_cases stages task (.left loader) other with ⟨-, heq⟩ | ⟨hne, heq⟩ <;>
      rw [heq] at hstage
    · cases hstage
    · have hfound := h.known other address served hstage
      dsimp only
      rw [Table.get?_erase, if_neg]
      · exact hfound
      -- Two loaders of one address would be one, and looked after by one task.
      · rintro rfl
        rw [h.known task addr loader hknown] at hfound
        cases hfound
        exact hne (h.apart other task loader (Stage.serves_of_known hstage) hserves)
  · intro address served hfound
    dsimp only at hfound
    rw [Table.get?_erase] at hfound
    split at hfound
    · cases hfound
    · rename_i hne
      obtain ⟨other, hstage⟩ := h.tended address served hfound
      refine ⟨other, ?_⟩
      rw [set_of_ne]
      · exact hstage
      · rintro rfl
        rw [hknown] at hstage
        cases hstage
        exact hne rfl
  · simp only [hsameServes]
    exact h.apart
  · simp only [hsameServes]
    exact h.accepting
  · simp only [hsameServes]
    exact h.pending
  · intro other gatherer address count hstage place hplace
    rcases set_cases stages task (.left loader) other with ⟨-, heq⟩ | ⟨-, heq⟩ <;>
      rw [heq] at hstage
    · cases hstage
    · exact (h.candidates other gatherer address count hstage place hplace).imp_right
        (loading_set hloading)

/-- A loader that left may close its queue and take what waits in it. -/
theorem close (h : Tied stages m) (hleft : stages task = .left loader)
    (frames : List (TaskId × DataFrame)) :
    Tied (stages.set task (.answering frames))
      (m.updateQueue loader fun q => { q with accepting := false, pending := [] }) := by
  have hserves : (stages task).serves = some loader := by rw [hleft]; rfl
  have hsameKnown : ∀ other, (stages.set task (.answering frames) other).known =
      (stages other).known := known_set (by rw [hleft]; rfl)
  -- Whoever looks after a loader afterwards is another task, and it is another loader.
  have hother : ∀ other served, (stages.set task (.answering frames) other).serves =
      some served → (stages other).serves = some served ∧ loader ≠ served := by
    intro other served hother
    rcases set_cases stages task (.answering frames) other with ⟨-, heq⟩ | ⟨hne, heq⟩ <;>
      rw [heq] at hother
    · cases hother
    · refine ⟨hother, ?_⟩
      rintro rfl
      exact hne (h.apart other task loader hother hserves)
  refine ⟨?_, ?_, ?_, ?_, ?_, ?_⟩
  · simp only [hsameKnown]
    exact h.known
  · simp only [hsameKnown]
    exact h.tended
  · intro one two served hone htwo
    exact h.apart one two served (hother one served hone).1 (hother two served htwo).1
  · intro other served hstage
    obtain ⟨hold, hne⟩ := hother other served hstage
    exact (h.accepting other served hold).updateQueue fun heq => absurd heq hne
  · intro served queue hqueue hpending
    rw [getElem?_updateQueue] at hqueue
    split at hqueue
    · obtain ⟨old, -, rfl⟩ := Option.map_eq_some_iff.mp hqueue
      exact absurd rfl hpending
    · rename_i hne
      obtain ⟨other, hstage⟩ := h.pending served queue hqueue hpending
      refine ⟨other, ?_⟩
      rw [set_of_ne]
      · exact hstage
      · rintro rfl
        rw [hserves] at hstage
        exact hne (Option.some.inj hstage)
  · intro other gatherer addr count hstage place hplace
    rcases set_cases stages task (.answering frames) other with ⟨-, heq⟩ | ⟨-, heq⟩ <;>
      rw [heq] at hstage
    · cases hstage
    · refine (h.candidates other gatherer addr count hstage place hplace).imp ?_
        (loading_set (by simp [hleft]))
      exact fun htold => htold.updateQueue fun _ load hload => ⟨load, hload⟩

/-- Replying to the first frame leads to what the loader's next stage says. -/
theorem reply (h : Tied stages m) {frames : List (TaskId × DataFrame)}
    (hanswering : stages task = .answering frames) :
    Tied (stages.set task (.answering (frames.drop 1))) m :=
  h.relabel (by rw [hanswering]; rfl) (by rw [hanswering]; rfl) (by simp) (by simp [hanswering])

/-! ### Loading candidates -/

/-- A candidate's task may tell what became of it. -/
theorem deposit (h : Tied stages m) {place : Nat} {load : CandidateLoad}
    (hloading : stages task = .loading loader place) :
    Tied (stages.set task .deposited)
      (m.updateQueue loader fun q => { q with loads := (place, load) :: q.loads }) := by
  have hsameKnown : ∀ other, (stages.set task .deposited other).known = (stages other).known :=
    known_set (by rw [hloading]; rfl)
  have hsameServes : ∀ other, (stages.set task .deposited other).serves =
      (stages other).serves := serves_set (by rw [hloading]; rfl)
  refine ⟨?_, ?_, ?_, ?_, ?_, ?_⟩
  · simp only [hsameKnown]
    exact h.known
  · simp only [hsameKnown]
    exact h.tended
  · simp only [hsameServes]
    exact h.apart
  · intro other served hstage
    rw [hsameServes] at hstage
    exact (h.accepting other served hstage).updateQueue fun _ _ haccepting => haccepting
  · intro served queue hqueue hpending
    simp only [hsameServes]
    rw [getElem?_updateQueue] at hqueue
    split at hqueue
    · obtain ⟨old, hold, rfl⟩ := Option.map_eq_some_iff.mp hqueue
      exact h.pending served old hold hpending
    · exact h.pending served queue hqueue hpending
  · intro other gatherer addr count hstage spot hspot
    rcases set_cases stages task .deposited other with ⟨-, heq⟩ | ⟨-, heq⟩ <;>
      rw [heq] at hstage
    · cases hstage
    · rcases h.candidates other gatherer addr count hstage spot hspot with
        htold | ⟨candidate, hcandidate⟩
      · refine .inl (htold.updateQueue fun queue found hfound => ?_)
        by_cases hsame : spot = place
        · exact ⟨load, by rw [hsame]; exact List.lookup_cons_self⟩
        · refine ⟨found, ?_⟩
          rw [List.lookup_cons, beq_eq_false_iff_ne.mpr hsame]
          exact hfound
      · rcases set_cases stages task .deposited candidate with ⟨rfl, -⟩ | ⟨-, heq'⟩
        · rw [hloading] at hcandidate
          cases hcandidate
          obtain ⟨queue, hqueue, -⟩ := h.accepting other loader (by rw [hstage]; rfl)
          left
          unfold HasLoad
          rw [getElem?_updateQueue, if_pos rfl, hqueue]
          exact ⟨_, load, rfl, List.lookup_cons_self⟩
        · exact .inr ⟨candidate, heq'.trans hcandidate⟩

/-! ### Starting activities -/

/-- Who made a loader known hands it over to the task that it starts. -/
theorem startLoader (h : Tied stages m) (hopened : stages task = .opened loader addr)
    {new : TaskId} (hnew : stages new = .idle) :
    Tied ((stages.set task .waiting).set new (.asking loader addr)) m := by
  have hne : task ≠ new := by
    rintro rfl
    rw [hopened] at hnew
    cases hnew
  have hlater : ∀ other, (stages.set task .waiting).set new (.asking loader addr) other =
      if other = new then .asking loader addr else if other = task then .waiting
      else stages other := fun _ => rfl
  -- The two tasks change their parts.
  refine h.recast (fun other => if other = new then task else if other = task then new else other)
    ?_ ?_ ?_ ?_
  · intro other
    by_cases hfirst : other = new
    · simp [hfirst, hne]
    · by_cases hsecond : other = task <;> simp [hfirst, hsecond]
  · intro other
    rw [hlater]
    by_cases hfirst : other = new
    · simp [hfirst, hopened, Stage.known]
    · by_cases hsecond : other = task <;> simp [hfirst, hsecond, hnew, hne, Stage.known]
  · intro other
    rw [hlater]
    by_cases hfirst : other = new
    · simp [hfirst, hopened, Stage.serves]
    · by_cases hsecond : other = task <;> simp [hfirst, hsecond, hnew, hne, Stage.serves]
  · intro other gatherer address count hstage place hplace
    rw [hlater] at hstage
    split at hstage
    · cases hstage
    · split at hstage
      · cases hstage
      · refine (h.candidates other gatherer address count hstage place hplace).imp_right ?_
        intro hcandidate
        have hfirst : ∃ other, stages.set task .waiting other = .loading gatherer place :=
          loading_set (by simp [hopened]) hcandidate
        exact loading_set (by simp [set_of_ne stages _ (Ne.symm hne), hnew]) hfirst

/-- A loader starts a task for each of its candidates. -/
theorem startCandidates (h : Tied stages m) (hasked : stages task = .asked loader addr)
    {count : Nat} (htask : later task = .gathering loader addr count)
    (hstarted : ∀ place < count, ∃ other, later other = .loading loader place)
    (hold : ∀ other, other ≠ task → later other = stages other ∨
      stages other = .idle ∧ ∃ place, later other = .loading loader place) : Tied later m := by
  have hothers : ∀ other, later other = .gathering loader addr count ∧ other = task ∨
      later other = stages other ∨
        stages other = .idle ∧ ∃ place, later other = .loading loader place := by
    intro other
    by_cases heq : other = task
    · exact .inl ⟨by rw [heq, htask], heq⟩
    · exact .inr (hold other heq)
  refine h.recast id (fun _ => rfl) (fun other => ?_) (fun other => ?_) ?_
  · rcases hothers other with ⟨heq, rfl⟩ | heq | ⟨hidle, place, heq⟩ <;> rw [heq]
    · rw [id, hasked]; rfl
    · rfl
    · rw [id, hidle]; rfl
  · rcases hothers other with ⟨heq, rfl⟩ | heq | ⟨hidle, place, heq⟩ <;> rw [heq]
    · rw [id, hasked]; rfl
    · rfl
    · rw [id, hidle]; rfl
  · intro other gatherer address total hstage place hplace
    rcases hothers other with ⟨heq, -⟩ | heq | ⟨-, spot, heq⟩ <;> rw [heq] at hstage
    · cases hstage
      exact .inr (hstarted place hplace)
    · refine (h.candidates other gatherer address total hstage place hplace).imp_right ?_
      rintro ⟨candidate, hcandidate⟩
      refine ⟨candidate, ?_⟩
      rcases hothers candidate with ⟨-, rfl⟩ | heq' | ⟨hidle, -⟩
      · rw [hasked] at hcandidate
        cases hcandidate
      · exact heq'.trans hcandidate
      · rw [hidle] at hcandidate
        cases hcandidate
    · cases hstage

end Roster.Tied

end LoraNetwork
