import LoraNetwork.Proofs.Loader.Roster
import LoraNetwork.Proofs.Server.Run

/-!
# Frames that wait and their replies

A frame that was added to a queue waits there until the loader closes the queue, then in the hand of
the loader until it replies. So a task that expects a reply that has not arrived is found in exactly
one place exactly once, and nobody else is found anywhere. With that, requests and replies can be
counted: a task has one request more than replies as long as it is owed one, and as many otherwise.
-/

namespace LoraNetwork

/-- Where frames wait for a reply. -/
inductive Shelf where
  /-- The queue of a loader. -/
  | queue (loader : LoaderId)
  /-- The hand of a task that closed its queue. -/
  | hand (task : TaskId)
  deriving DecidableEq

namespace Roster

/-- The tasks of the frames that wait in a place. -/
def shelf (stages : Roster) (m : Memory) : Shelf → List TaskId
  | .queue loader => ((m.queues[loader]?.map LoaderQueue.pending).getD []).map Prod.fst
  | .hand task => (stages task).hand.map Prod.fst

/-- The task expects a reply that has not arrived. -/
def Owed (stages : Roster) (m : Memory) (task : TaskId) : Prop :=
  (stages task).expects = true ∧ m.replies.get? task = none

/-- Everybody who is owed a reply waits for it in one place, once. -/
structure Served (stages : Roster) (m : Memory) : Prop where
  /-- A reply that arrived is expected. -/
  awaited : ∀ task, m.replies.get? task ≠ none → (stages task).expects = true
  /-- Those who wait are those who are owed a reply. -/
  owed : ∀ task, stages.Owed m task ↔ ∃ place, task ∈ stages.shelf m place
  /-- Nobody waits twice in one place. -/
  once : ∀ place, (stages.shelf m place).Nodup
  /-- Nobody waits in two places. -/
  apart : ∀ place other task, task ∈ stages.shelf m place → task ∈ stages.shelf m other →
    place = other

section Moves

variable {stages : Roster} {task : TaskId} {stage : Stage}

/-- A move that leaves what a task has in hand leaves what every task has in hand. -/
theorem hand_set (h : stage.hand = (stages task).hand) (other : TaskId) :
    (stages.set task stage other).hand = (stages other).hand := by
  rcases set_cases stages task stage other with ⟨rfl, heq⟩ | ⟨-, heq⟩ <;> rw [heq]
  exact h

/-- A move that leaves what a task expects leaves what every task expects. -/
theorem expects_set (h : stage.expects = (stages task).expects) (other : TaskId) :
    (stages.set task stage other).expects = (stages other).expects := by
  rcases set_cases stages task stage other with ⟨rfl, heq⟩ | ⟨-, heq⟩ <;> rw [heq]
  exact h

end Moves

namespace Served

open Memory

variable {stages later : Roster} {m after : Memory} {task : TaskId} {stage : Stage}
variable {config : ServerConfig} {now : Instant} {frame : DataFrame} {joined : Joined}
variable {loader : LoaderId}

/-- At the start nobody waits. -/
theorem empty : Served (fun _ => .idle) {} := by
  have hshelf : ∀ place, shelf (fun _ => .idle) {} place = [] := by
    intro place
    cases place <;> rfl
  refine ⟨fun _ h => absurd rfl h, fun task => ?_, ?_, ?_⟩
  · simp [hshelf, Owed, Stage.expects]
  · simp [hshelf]
  · simp [hshelf]

/-- Whole places may be exchanged as long as the same tasks are owed a reply. -/
theorem exchange (h : Served stages m) (part : Shelf → Shelf)
    (hpart : ∀ place, part (part place) = place)
    (hshelf : ∀ place, later.shelf after place = stages.shelf m (part place))
    (howed : ∀ task, later.Owed after task ↔ stages.Owed m task)
    (hawaited : ∀ task, after.replies.get? task ≠ none → (later task).expects = true) :
    Served later after where
  awaited := hawaited
  owed task := by
    rw [howed, h.owed]
    constructor
    · rintro ⟨place, hplace⟩
      exact ⟨part place, by rw [hshelf, hpart]; exact hplace⟩
    · rintro ⟨place, hplace⟩
      exact ⟨part place, by rw [← hshelf]; exact hplace⟩
  once place := by
    rw [hshelf]
    exact h.once _
  apart one two task hone htwo := by
    rw [hshelf] at hone htwo
    rw [← hpart one, h.apart _ _ task hone htwo, hpart]

/-- Nothing changes as long as no frame moves and nobody's expectations change. -/
theorem recast (h : Served stages m) (hhand : ∀ task, (later task).hand = (stages task).hand)
    (hexpects : ∀ task, (later task).expects = (stages task).expects)
    (hpending : ∀ loader : LoaderId, after.queues[loader]?.map LoaderQueue.pending =
      m.queues[loader]?.map LoaderQueue.pending)
    (hreplies : after.replies = m.replies) : Served later after := by
  refine h.exchange id (fun _ => rfl) (fun place => ?_) (fun task => ?_) fun task => ?_
  · cases place with
    | queue loader => simp only [shelf, hpending, id]
    | hand task => simp only [shelf, hhand, id]
  · simp only [Owed, hexpects, hreplies]
  · rw [hexpects, hreplies]
    exact h.awaited task

/-- A task may move to a stage in which it has the same frames in hand and expects as much, while
other things change in memory. -/
theorem relabel (h : Served stages m) (hhand : stage.hand = (stages task).hand)
    (hexpects : stage.expects = (stages task).expects)
    (hpending : ∀ loader : LoaderId, after.queues[loader]?.map LoaderQueue.pending =
      m.queues[loader]?.map LoaderQueue.pending)
    (hreplies : after.replies = m.replies) : Served (stages.set task stage) after :=
  h.recast (hand_set hhand) (expects_set hexpects) hpending hreplies

/-- A change to a queue that leaves the frames in it moves no frame. -/
theorem pending_updateQueue {f : LoaderQueue → LoaderQueue}
    (hf : ∀ queue, (f queue).pending = queue.pending) (other : LoaderId) :
    (m.updateQueue loader f).queues[other]?.map LoaderQueue.pending =
      m.queues[other]?.map LoaderQueue.pending := by
  rw [getElem?_updateQueue]
  split
  · cases m.queues[other]? with
    | none => rfl
    | some queue => exact congrArg some (hf queue)
  · rfl

/-- Who is owed no reply waits nowhere. -/
theorem not_mem_shelf (h : Served stages m) (howed : ¬ stages.Owed m task) (place : Shelf) :
    task ∉ stages.shelf m place :=
  fun hmem => howed ((h.owed task).mpr ⟨place, hmem⟩)

/-- A task that begins to expect a reply is put in one place. -/
theorem enqueue (h : Served stages m) (hidle : (stages task).expects = false)
    (hexpects : stage.expects = true) (hreplies : after.replies = m.replies) (spot : Shelf)
    (hspot : (stages.set task stage).shelf after spot = stages.shelf m spot ++ [task])
    (hothers : ∀ place, place ≠ spot →
      (stages.set task stage).shelf after place = stages.shelf m place) :
    Served (stages.set task stage) after := by
  have hnew : ∀ place, task ∉ stages.shelf m place := h.not_mem_shelf fun howed => by
    have hexpected := howed.1
    rw [hidle] at hexpected
    cases hexpected
  -- Who is found in a place is the new one in its spot, or was there before.
  have hmem : ∀ place other, other ∈ (stages.set task stage).shelf after place ↔
      other ∈ stages.shelf m place ∨ place = spot ∧ other = task := by
    intro place other
    by_cases heq : place = spot
    · simp [heq, hspot]
    · simp [heq, hothers place heq]
  refine ⟨fun other hother => ?_, fun other => ?_, fun place => ?_, ?_⟩
  · rcases set_cases stages task stage other with ⟨-, heq⟩ | ⟨-, heq⟩ <;> rw [heq]
    · exact hexpects
    · rw [hreplies] at hother
      exact h.awaited other hother
  · simp only [hmem, exists_or, Owed, hreplies]
    rcases set_cases stages task stage other with ⟨rfl, heq⟩ | ⟨hne, heq⟩ <;> rw [heq]
    · have hnone : m.replies.get? other = none := by
        by_cases hreply : m.replies.get? other = none
        · exact hreply
        · have := h.awaited other hreply
          rw [hidle] at this
          cases this
      exact iff_of_true ⟨hexpects, hnone⟩ (.inr ⟨spot, rfl, rfl⟩)
    · simp only [hne, and_false, exists_false, or_false]
      exact h.owed other
  · by_cases heq : place = spot
    · rw [heq, hspot, List.nodup_append]
      refine ⟨h.once spot, by simp, ?_⟩
      intro one hone two htwo hsame
      rw [hsame, List.mem_singleton.mp htwo] at hone
      exact hnew spot hone
    · rw [hothers place heq]
      exact h.once place
  · intro one two other hone htwo
    rcases (hmem one other).mp hone with hone | ⟨rfl, rfl⟩ <;>
      rcases (hmem two other).mp htwo with htwo | ⟨rfl, hsame⟩
    · exact h.apart one two other hone htwo
    · rw [hsame] at hone
      exact absurd hone (hnew one)
    · exact absurd htwo (hnew two)
    · rfl

/-- Joining the loader of an address leads to what the task's next stage says. -/
theorem join (h : Served stages m) (htied : stages.Tied m) (hidle : stages task = .idle)
    (hjoins : Joins config now task m frame joined after) :
    Served (stages.set task ((stages task).join frame.devAddr joined)) after := by
  have hexpects : (stages task).expects = false := by rw [hidle]; rfl
  have hhand : ∀ stage : Stage, stage.hand = [] → ∀ other,
      (stages.set task stage).shelf after (.hand other) = stages.shelf m (.hand other) := by
    intro stage hstage other
    simp only [shelf]
    rcases set_cases stages task stage other with ⟨rfl, heq⟩ | ⟨-, heq⟩ <;> rw [heq]
    rw [hstage, hidle]
    rfl
  cases hjoins with
  | cached unknown alive => exact h.relabel rfl rfl (fun _ => rfl) rfl
  | refused found closed =>
    obtain ⟨queue, hqueue, haccepting⟩ := htied.accepts_of_known found
    rw [closed queue hqueue] at haccepting
    cases haccepting
  | @queued loader queue found at_ accepts =>
    refine h.enqueue hexpects rfl rfl (.queue loader) ?_ fun place hplace => ?_
    · simp only [shelf, getElem?_updateQueue, at_]
      simp
    · cases place with
      | queue other =>
        have hne : loader ≠ other := fun heq => hplace (congrArg Shelf.queue heq.symm)
        simp only [shelf, getElem?_updateQueue, if_neg hne]
      | hand other => exact hhand .waiting rfl other
  | started unknown cold =>
    refine h.enqueue hexpects rfl rfl (.queue m.queues.length) ?_ fun place hplace => ?_
    · simp [shelf]
    · cases place with
      | queue other =>
        have hne : other ≠ m.queues.length := fun heq => hplace (congrArg Shelf.queue heq)
        simp only [shelf]
        rcases Nat.lt_or_gt_of_ne hne with hlt | hgt
        · rw [List.getElem?_append_left hlt]
        · rw [List.getElem?_eq_none_iff.mpr (Nat.le_of_lt hgt), List.getElem?_eq_none_iff.mpr]
          rw [List.length_append, List.length_singleton]
          exact hgt
      | hand other => exact hhand (.opened _ _) rfl other

/-- Taking a reply leads to what the task's next stage says. -/
theorem takeReply (h : Served stages m) (hwaiting : stages task = .waiting)
    (harrived : m.replies.get? task ≠ none) :
    Served (stages.set task .idle) { m with replies := m.replies.erase task } := by
  refine h.exchange id (fun _ => rfl) (fun place => ?_) (fun other => ?_) fun other hother => ?_
  · cases place with
    | queue loader => rfl
    | hand other =>
      rcases set_cases stages task .idle other with ⟨rfl, heq⟩ | ⟨-, heq⟩ <;>
        simp only [shelf, heq, id]
      rw [hwaiting]
      rfl
  · unfold Owed
    rcases set_cases stages task .idle other with ⟨rfl, heq⟩ | ⟨hne, heq⟩ <;> rw [heq]
    · exact iff_of_false (fun hnow => by cases hnow.1) fun hbefore => harrived hbefore.2
    · rw [Table.get?_erase, if_neg (Ne.symm hne)]
  · rw [Table.get?_erase] at hother
    rcases set_cases stages task .idle other with ⟨rfl, -⟩ | ⟨hne, heq⟩
    · rw [if_pos rfl] at hother
      exact absurd rfl hother
    · rw [heq]
      rw [if_neg (Ne.symm hne)] at hother
      exact h.awaited other hother

/-- A loader takes all frames out of its queue as it closes it. -/
theorem close (h : Served stages m) (hleft : stages task = .left loader) :
    Served (stages.set task (.answering ((m.queues[loader]?.map LoaderQueue.pending).getD [])))
      (m.updateQueue loader fun q => { q with accepting := false, pending := [] }) := by
  generalize hframes : (m.queues[loader]?.map LoaderQueue.pending).getD [] = frames
  generalize hlater : stages.set task (.answering frames) = later
  generalize hafter :
    (m.updateQueue loader fun q => { q with accepting := false, pending := [] }) = after
  have hexpects : ∀ other, (later other).expects = (stages other).expects := by
    rw [← hlater]
    exact expects_set (by rw [hleft]; rfl)
  have hreplies : after.replies = m.replies := by rw [← hafter]; rfl
  -- The queue and the hand change places: the hand was empty before, and the queue is afterwards.
  refine h.exchange (fun place => if place = .queue loader then .hand task else
    if place = .hand task then .queue loader else place) (fun place => ?_) (fun place => ?_)
    (fun other => ?_) fun other hother => ?_
  · by_cases hqueue : place = .queue loader
    · simp [hqueue]
    · by_cases hhand : place = .hand task <;> simp [hqueue, hhand]
  · cases place with
    | queue other =>
      by_cases heq : loader = other
      · rw [heq, if_pos rfl]
        simp only [shelf, ← hafter, getElem?_updateQueue, heq, if_pos, hleft]
        cases m.queues[other]? <;> rfl
      · have hne : Shelf.queue other ≠ .queue loader := fun h => heq (Shelf.queue.inj h).symm
        rw [if_neg hne, if_neg (by simp)]
        simp only [shelf, ← hafter, getElem?_updateQueue, if_neg heq]
    | hand other =>
      rw [if_neg (by simp)]
      rcases set_cases stages task (.answering frames) other with ⟨rfl, heq⟩ | ⟨hne, heq⟩
      · rw [if_pos rfl]
        simp only [shelf, ← hlater, heq, hframes]
        rfl
      · rw [if_neg fun h => hne (Shelf.hand.inj h)]
        simp only [shelf, ← hlater, heq]
  · unfold Owed
    rw [hexpects, hreplies]
  · rw [hexpects]
    rw [hreplies] at hother
    exact h.awaited other hother

/-- A loader replies to the first of the frames in its hand. -/
theorem reply (h : Served stages m) {other : TaskId} {rest : List (TaskId × DataFrame)}
    (hanswering : stages task = .answering ((other, frame) :: rest)) (resolution : Resolution) :
    stages.Owed m other ∧ Served (stages.set task (.answering rest))
      { m with replies := m.replies.set other resolution } := by
  generalize hlater : stages.set task (.answering rest) = later
  generalize hafter : ({ m with replies := m.replies.set other resolution } : Memory) = after
  have hhand : stages.shelf m (.hand task) = other :: later.shelf after (.hand task) := by
    simp only [shelf, hanswering, ← hlater, set_self]
    rfl
  have howed : stages.Owed m other :=
    (h.owed other).mpr ⟨.hand task, by rw [hhand]; exact List.mem_cons_self⟩
  have hothers : ∀ place, place ≠ .hand task → later.shelf after place = stages.shelf m place := by
    intro place hplace
    cases place with
    | queue loader => simp only [shelf, ← hafter]
    | hand one =>
      have hne : one ≠ task := fun heq => hplace (congrArg Shelf.hand heq)
      simp only [shelf, ← hlater, set_of_ne stages _ hne]
  have hexpects : ∀ one, (later one).expects = (stages one).expects := by
    rw [← hlater]
    exact expects_set (by rw [hanswering]; rfl)
  have hget : ∀ one, after.replies.get? one =
      if other = one then some resolution else m.replies.get? one := by
    intro one
    rw [← hafter]
    exact Table.get?_set m.replies other one resolution
  have hnodup := h.once (.hand task)
  rw [hhand, List.nodup_cons] at hnodup
  -- Whoever is found in a place was there before, and is not the one who was replied to.
  have hmem : ∀ place one, one ∈ later.shelf after place ↔
      one ∈ stages.shelf m place ∧ one ≠ other := by
    intro place one
    by_cases heq : place = .hand task
    · rw [heq, hhand, List.mem_cons]
      constructor
      · exact fun hone => ⟨.inr hone, fun hsame => hnodup.1 (hsame ▸ hone)⟩
      · rintro ⟨hone, hne⟩
        exact hone.resolve_left hne
    · rw [hothers place heq]
      refine ⟨fun hone => ⟨hone, ?_⟩, And.left⟩
      rintro rfl
      refine heq (h.apart place (.hand task) one hone ?_)
      rw [hhand]
      exact List.mem_cons_self
  refine ⟨howed, fun one hone => ?_, fun one => ?_, fun place => ?_, ?_⟩
  · rw [hexpects]
    rw [hget] at hone
    by_cases heq : other = one
    · rw [← heq]
      exact howed.1
    · rw [if_neg heq] at hone
      exact h.awaited one hone
  · simp only [hmem, exists_and_right, Owed, hexpects, hget]
    by_cases heq : other = one
    · simp [heq]
    · rw [if_neg heq, ← h.owed one]
      exact ⟨fun hone => ⟨hone, Ne.symm heq⟩, And.left⟩
  · by_cases heq : place = .hand task
    · rw [heq]
      exact hnodup.2
    · rw [hothers place heq]
      exact h.once place
  · intro one two waiter hone htwo
    exact h.apart one two waiter ((hmem one waiter).mp hone).1 ((hmem two waiter).mp htwo).1

end Served

end Roster

/-! ## Counting -/

namespace Event

/-- A frame was added to the queue of a loader. -/
def enqueues : Event serverInterface → Bool
  | ⟨.memory (.joinLoader _), .again⟩ => false
  | ⟨.memory (.joinLoader _), _⟩ => true
  | _ => false

/-- A resolution was sent to a task. -/
def repliesTo (task : TaskId) : Event serverInterface → Bool
  | ⟨.memory (.reply other _), _⟩ => other = task
  | _ => false

/-- A resolution was taken. -/
def takesReply : Event serverInterface → Bool
  | ⟨.memory .takeReply, _⟩ => true
  | _ => false

end Event

/-- How often a task added its frame to a queue. -/
def requests (task : TaskId) (history : List Moment) : Nat :=
  history.countP fun m => m.task = task && m.event.enqueues

/-- How many resolutions were sent to a task. -/
def replies (task : TaskId) (history : List Moment) : Nat :=
  history.countP fun m => m.event.repliesTo task

/-- How many resolutions a task took. -/
def receipts (task : TaskId) (history : List Moment) : Nat :=
  history.countP fun m => m.task = task && m.event.takesReply

/-- A count after one more element. -/
theorem countP_snoc {α : Type} (p : α → Bool) (l : List α) (x : α) :
    (l ++ [x]).countP p = l.countP p + (p x).toNat := by
  rw [List.countP_append, List.countP_singleton]
  cases p x <;> rfl

/-- Requests, replies and receipts of every task add up. -/
structure Roster.Ledger (stages : Roster) (history : List Moment) (m : Memory) : Prop where
  /-- A request whose reply was not taken is one that a reply is expected to. -/
  due : ∀ task, requests task history =
    receipts task history + (stages task).expects.toNat
  /-- A reply that was not taken is in memory. -/
  arrived : ∀ task, replies task history =
    receipts task history + (m.replies.get? task).isSome.toNat

namespace Roster.Ledger

variable {stages : Roster} {history : List Moment} {m after : Memory} {task : TaskId}
variable {stage : Stage} {event : Event serverInterface}

/-- At the start there is nothing to count. -/
theorem empty : Ledger (fun _ => .idle) [] {} where
  due _ := rfl
  arrived _ := rfl

/-- One more request than replies is due to whom a reply is owed. -/
theorem requests_eq (h : Ledger stages history m) (hserved : stages.Served m) (task : TaskId) :
    (stages.Owed m task → requests task history = replies task history + 1) ∧
      (¬ stages.Owed m task → requests task history = replies task history) := by
  rw [h.due, h.arrived]
  unfold Owed
  cases hreply : m.replies.get? task with
  | none => cases (stages task).expects <;> simp
  | some resolution => simp [hserved.awaited task (by simp [hreply])]

/-- The books of a task are right after one more moment if its expectations and its reply changed
with what happened. -/
theorem snoc (h : Ledger stages history m)
    (hdue : event.enqueues.toNat + (stages task).expects.toNat =
      event.takesReply.toNat + stage.expects.toNat)
    (harrived : ∀ other, (event.repliesTo other).toNat + (m.replies.get? other).isSome.toNat =
      (decide (task = other) && event.takesReply).toNat + (after.replies.get? other).isSome.toNat)
    (before : Memory) :
    Ledger (stages.set task stage) (history ++ [⟨task, event, before, after⟩]) after where
  due other := by
    have hold := h.due other
    unfold requests receipts at hold ⊢
    simp only [countP_snoc]
    rcases set_cases stages task stage other with ⟨rfl, heq⟩ | ⟨hne, heq⟩ <;> rw [heq]
    · simp only [decide_true, Bool.true_and]
      omega
    · simp only [decide_eq_false (Ne.symm hne), Bool.false_and, Bool.toNat_false]
      omega
  arrived other := by
    have hold := h.arrived other
    have hnew := harrived other
    unfold replies receipts at hold ⊢
    simp only [countP_snoc]
    omega

/-- What is neither a request nor a reply nor a receipt changes no books, as long as everybody
expects as much as before. -/
theorem skip {later : Roster} (h : Ledger stages history m)
    (hexpects : ∀ other, (later other).expects = (stages other).expects)
    (hrequest : event.enqueues = false) (hreceipt : event.takesReply = false)
    (hreply : ∀ other, event.repliesTo other = false) (hreplies : after.replies = m.replies)
    (before : Memory) : Ledger later (history ++ [⟨task, event, before, after⟩]) after where
  due other := by
    have hold := h.due other
    unfold requests receipts at hold ⊢
    simp only [countP_snoc, hrequest, hreceipt, Bool.and_false, Bool.toNat_false, hexpects]
    exact hold
  arrived other := by
    have hold := h.arrived other
    unfold replies receipts at hold ⊢
    simp only [countP_snoc, hreply, hreceipt, Bool.and_false, Bool.toNat_false, hreplies]
    exact hold

end Roster.Ledger

end LoraNetwork
