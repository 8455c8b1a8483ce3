import LoraNetwork.Proofs.Uplink.Effects
import LoraNetwork.Server.Dispatch

/-!
# Stages of loading an address

How far a task has come with loading an address, as the task that asked for it, as the loader or as
the one who loads a candidate. The stage moves on with what the task does, and it says what the task
may do next: who made a loader known starts it and nothing else; a loader asks the store once,
starts its candidates once, becomes unknown, closes its queue and replies to all it found there; a
task that waits for its reply does nothing before. Every activity of a server keeps these rules,
whatever it is answered.
-/

namespace LoraNetwork

/-- How far a task has come with loading an address. -/
inductive Stage where
  /-- It has nothing to do with loading. -/
  | idle
  /-- It made a loader known and has yet to start it. -/
  | opened (loader : LoaderId) (addr : DevAddr)
  /-- Its frame waits for a reply. -/
  | waiting
  /-- A loader that has yet to ask the store. -/
  | asking (loader : LoaderId) (addr : DevAddr)
  /-- A loader that asked the store. -/
  | asked (loader : LoaderId) (addr : DevAddr)
  /-- A loader that started to load its candidates. -/
  | gathering (loader : LoaderId) (addr : DevAddr) (count : Nat)
  /-- A loader whose candidates are loaded. -/
  | gathered (loader : LoaderId) (addr : DevAddr)
  /-- A loader that became unknown. -/
  | left (loader : LoaderId)
  /-- A loader that closed its queue, with the frames it has yet to answer. -/
  | answering (frames : List (TaskId × DataFrame))
  /-- Loads the candidate at a place. -/
  | loading (loader : LoaderId) (place : Nat)
  /-- Has told its loader what became of the candidate. -/
  | deposited

namespace Stage

/-- The loader that the task looks after, from when it was made known until its queue is closed. -/
def serves : Stage → Option LoaderId
  | opened loader _ | asking loader _ | asked loader _ | gathering loader _ _
  | gathered loader _ | left loader => some loader
  | _ => none

/-- The address and its loader that is known on account of the task. -/
def known : Stage → Option (DevAddr × LoaderId)
  | opened loader addr | asking loader addr | asked loader addr | gathering loader addr _
  | gathered loader addr => some (addr, loader)
  | _ => none

/-- The frames that the task took out of a queue and has yet to answer. -/
def hand : Stage → List (TaskId × DataFrame)
  | answering frames => frames
  | _ => []

/-- A reply to the task is due. -/
def expects : Stage → Bool
  | opened .. | waiting => true
  | _ => false

/-- The loader has yet to ask the store. -/
def unasked : Stage → Option DevAddr
  | opened _ addr | asking _ addr => some addr
  | _ => none

/-- The stage after joining the loader of an address. -/
def join (stage : Stage) (addr : DevAddr) : Joined → Stage
  | .again => stage
  | .queued => waiting
  | .started loader => opened loader addr

/-- The stage after the start of activities. -/
def start (count : Nat) : Stage → Stage
  | opened .. => waiting
  | asked loader addr => gathering loader addr count
  | stage => stage

/-- The stage after a question to the store for the devices of an address. -/
def ask : Stage → Stage
  | asking loader addr => asked loader addr
  | stage => stage

/-- The stage after the candidates were gathered. -/
def gather : Stage → Stage
  | gathering loader addr _ => gathered loader addr
  | stage => stage

/-- The stage after the loader became unknown. -/
def leave : Stage → Stage
  | asked loader _ | gathered loader _ => left loader
  | stage => stage

/-- The stage after a reply was sent. -/
def answer : Stage → Stage
  | answering frames => answering (frames.drop 1)
  | stage => stage

/-- The stage after an event. -/
def next (stage : Stage) : Event serverInterface → Stage
  | ⟨.call (.fetchCandidates _), _⟩ => stage.ask
  | ⟨.start activities, _⟩ => stage.start activities.length
  | ⟨.memory (.joinLoader frame), joined⟩ => stage.join frame.devAddr joined
  | ⟨.memory .takeReply, _⟩ => idle
  | ⟨.memory (.gather ..), _⟩ => stage.gather
  | ⟨.memory (.leaveLoader _), _⟩ => stage.leave
  | ⟨.memory (.closeQueue _), frames⟩ => answering frames
  | ⟨.memory (.reply ..), _⟩ => stage.answer
  | ⟨.memory (.deposit ..), _⟩ => deposited
  | _ => stage

/-- The task is done with loading. -/
def Over (stage : Stage) : Prop := stage = idle ∨ stage = answering [] ∨ stage = deposited

end Stage

/-- The request asks for the devices of an address. -/
def Request.asksCandidates : Request → Bool
  | fetchCandidates _ => true
  | _ => false

/-- The step has nothing to do with loading, and no task waits for it. -/
def MemoryOperation.isPlain : MemoryOperation → Bool
  | joinLoader _ | takeReply | leaveLoader _ | closeQueue _ | reply .. | deposit .. | gather ..
  | takeSlot _ => false
  | _ => true

/-- The operation has nothing to do with loading, and no task waits for it. -/
def ServerOperation.isPlain : ServerOperation → Bool
  | clock | wallClock | draw => true
  | call request | race request _ => !request.asksCandidates
  | memory op => op.isPlain
  | start _ => false

/-- Plain steps. -/
abbrev MemoryOperation.Plain (op : MemoryOperation) : Prop := op.isPlain = true

/-- Plain operations. -/
abbrev ServerOperation.Plain (op : ServerOperation) : Prop := op.isPlain = true

/-- What a task may do in its stage. -/
def Stage.Allows (stage : Stage) : ServerOperation → Prop
  | .call (.fetchCandidates addr) => ∃ loader, stage = .asking loader addr
  | .race (.fetchCandidates _) _ => False
  | .start activities =>
      (∃ loader addr, stage = .opened loader addr ∧ activities = [.loadAddress loader addr]) ∨
        ∃ loader addr candidates, stage = .asked loader addr ∧
          activities = Service.candidateActivities loader addr candidates
  | .memory (.joinLoader _) | .memory (.takeSlot _) => stage = .idle
  | .memory .takeReply => stage = .waiting
  | .memory (.gather loader count) => ∃ addr, stage = .gathering loader addr count
  | .memory (.leaveLoader addr) =>
      ∃ loader, stage = .asked loader addr ∨ stage = .gathered loader addr
  | .memory (.closeQueue loader) => stage = .left loader
  | .memory (.reply task _) => ∃ frame rest, stage = .answering ((task, frame) :: rest)
  | .memory (.deposit loader place _) => stage = .loading loader place
  | _ => ∀ loader addr, stage ≠ .opened loader addr

/-- The rules of loading, for every task. -/
def loadingRules : Contract serverInterface Stage where
  allows := Stage.Allows
  promises _ _ := True
  next := Stage.next

/-- The stage of an activity at its start. -/
def Activity.stage : Activity → Stage
  | loadAddress loader addr => .asking loader addr
  | loadCandidate loader place _ _ => .loading loader place
  | _ => .idle

/-- How an activity may end: it is done with loading, and starts again only where it began. -/
def Activity.Closes (activity : Activity) (stage : Stage) (verdict : Verdict) : Prop :=
  stage.Over ∧ (verdict = .again → stage = activity.stage)

/-- What the handling of a device's join does: it asks nobody for the devices of an address, and
installs a session of that device only. -/
def JoinOperation.Concerns (eui : Eui64) : JoinOperation → Prop
  | call (.fetchCandidates _) => False
  | install record => record.devEui = eui
  | _ => True

/-! ## What is plain -/

namespace Stage

variable {stage : Stage} {op : ServerOperation}

/-- Plain operations are allowed, unless a loader has yet to be started. -/
theorem allows_of_isPlain (hplain : op.Plain)
    (hstage : ∀ loader addr, stage ≠ opened loader addr) : stage.Allows op := by
  cases op with
  | clock | wallClock | draw => exact hstage
  | call request => cases request <;> first | exact hstage | cases hplain
  | race request deadline => cases request <;> first | exact hstage | cases hplain
  | memory op => cases op <;> first | exact hstage | cases hplain
  | start activities => cases hplain

/-- Plain operations leave the stage. -/
theorem next_of_isPlain (hplain : op.Plain) (answer : op.Answer) :
    stage.next ⟨op, answer⟩ = stage := by
  cases op with
  | clock | wallClock | draw => rfl
  | call request => cases request <;> first | rfl | cases hplain
  | race request deadline => rfl
  | memory op => cases op <;> first | rfl | cases hplain
  | start activities => cases hplain

end Stage

namespace Upkeep

/-- What a join does once its device is out of the entry of its old address. -/
def enter (session : Session) : Upkeep DeviceHandle := do
  let handle ← step (.newSlot session)
  step (.storeSession session.devEui handle)
  let entry ← step (.lookUpAddress session.devAddr)
  match entry with
  | none => pure handle
  | some handles => do
    step (.storeAddress session.devAddr (others session.devEui handles ++ [handle]))
    pure handle

/-- A join takes its device out of the entry of its old address, and then enters it anew. -/
theorem install_eq (session : Session) :
    install session = (step (.lookUpSession session.devEui)).bind fun previous =>
      (previous.elim (pure ()) fun handle =>
        removeFromAddress handle.card.devAddr session.devEui).bind fun _ => enter session := by
  refine congrArg (Program.bind _) (funext fun previous => ?_)
  cases previous <;> rfl

end Upkeep

namespace Service

open Program

variable {net : Network} {stage : Stage} {frame : DataFrame} {handles : List DeviceHandle}

/-- A program of plain operations keeps the rules in its stage. -/
theorem keeps_of_plain {α : Type} {p : Service α} {post : α → Prop}
    (h : p.Obeys ServerOperation.Plain post)
    (hstage : ∀ loader addr, stage ≠ .opened loader addr) :
    p.Keeps loadingRules (fun reached value => reached = stage ∧ post value) stage := by
  refine h.keeps (· = stage) ?_ ?_ rfl
  · rintro _ op rfl hplain
    exact Stage.allows_of_isPlain hplain hstage
  · rintro _ op answer rfl hplain
    exact Stage.next_of_isPlain hplain answer

theorem memory_plain {op : MemoryOperation} {post : op.Answer → Prop} (hplain : op.Plain)
    (hpost : ∀ answer, post answer) :
    (memory op).Obeys ServerOperation.Plain post :=
  obeys_ask.mpr ⟨hplain, hpost⟩

theorem authenticate_plain :
    (authenticate net frame handles).Obeys ServerOperation.Plain fun _ => True := by
  induction handles with
  | nil => trivial
  | cons handle rest ih =>
    refine obeys_bind.mpr (memory_plain rfl fun announced => ?_)
    split
    · trivial
    · exact ih

theorem fetchCandidate_plain {addr : DevAddr} {eui : Eui64} :
    (fetchCandidate net addr eui).Obeys ServerOperation.Plain fun _ => True := by
  refine obeys_bind.mpr (obeys_ask.mpr ⟨rfl, fun now => ?_⟩)
  refine obeys_bind.mpr (obeys_ask.mpr ⟨rfl, fun answer => ?_⟩)
  split
  · split
    · refine obeys_bind.mpr (memory_plain rfl fun handle => ?_)
      exact obeys_bind.mpr (memory_plain rfl fun _ => trivial)
    · trivial
  all_goals trivial

theorem loadCandidate_plain {addr : DevAddr} {eui : Eui64} :
    (loadCandidate net addr eui).Obeys ServerOperation.Plain fun _ => True := by
  refine obeys_bind.mpr (memory_plain rfl fun known => ?_)
  cases known with
  | none => exact fetchCandidate_plain
  | some handle =>
    dsimp only
    split
    · trivial
    · exact fetchCandidate_plain

/-! ## Upkeep, uplinks and joins -/

theorem step_plain {op : MemoryOperation} {post : op.Answer → Prop} (hplain : op.Plain)
    (hpost : ∀ answer, post answer) :
    (Upkeep.step op).Obeys MemoryOperation.Plain post :=
  obeys_ask.mpr ⟨hplain, hpost⟩

theorem removeFromAddress_plain {addr : DevAddr} {eui : Eui64} :
    (Upkeep.removeFromAddress addr eui).Obeys MemoryOperation.Plain fun _ => True := by
  refine obeys_bind.mpr (step_plain rfl fun entry => ?_)
  cases entry with
  | none => trivial
  | some handles =>
    dsimp only
    split <;> exact step_plain rfl fun _ => trivial

theorem enter_plain {session : Session} :
    (Upkeep.enter session).Obeys MemoryOperation.Plain fun _ => True := by
  refine obeys_bind.mpr (step_plain rfl fun handle => ?_)
  refine obeys_bind.mpr (step_plain rfl fun _ => ?_)
  refine obeys_bind.mpr (step_plain rfl fun entry => ?_)
  cases entry with
  | none => trivial
  | some handles => exact obeys_bind.mpr (step_plain rfl fun _ => trivial)

theorem install_plain {session : Session} :
    (Upkeep.install session).Obeys MemoryOperation.Plain fun _ => True := by
  rw [Upkeep.install_eq]
  refine obeys_bind.mpr (step_plain rfl fun previous => obeys_bind.mpr ?_)
  cases previous with
  | none => exact enter_plain
  | some handle => exact removeFromAddress_plain.mono (fun _ h => h) fun _ _ => enter_plain

theorem forgetDevice_plain {eui : Eui64} :
    (Upkeep.forgetDevice eui).Obeys MemoryOperation.Plain fun _ => True := by
  refine obeys_bind.mpr (step_plain rfl fun known => ?_)
  cases known with
  | none => trivial
  | some handle => exact obeys_bind.mpr (step_plain rfl fun _ => removeFromAddress_plain)

theorem forgetSessions_plain :
    (Upkeep.forgetSessions handles).Obeys MemoryOperation.Plain fun _ => True := by
  induction handles with
  | nil => trivial
  | cons handle rest ih => exact obeys_bind.mpr (step_plain rfl fun _ => ih)

theorem forgetAddress_plain {addr : DevAddr} :
    (Upkeep.forgetAddress addr).Obeys MemoryOperation.Plain fun _ => True := by
  refine obeys_bind.mpr (step_plain rfl fun entry => ?_)
  refine obeys_bind.mpr (forgetSessions_plain.mono (fun _ h => h) fun _ _ => ?_)
  exact step_plain rfl fun _ => trivial

/-- Upkeep of plain steps is plain as a part of an activity. -/
theorem ofUpkeep_plain {α : Type} {p : Upkeep α} {post : α → Prop}
    (h : p.Obeys MemoryOperation.Plain post) :
    (ofUpkeep p).Obeys ServerOperation.Plain post :=
  obeys_expand h fun _ hplain => obeys_ask.mpr ⟨hplain, fun _ => trivial⟩

/-- What handling an uplink asks of a collaborator is no question for the devices of an address. -/
theorem handle_plain {device : Device} {uplink : DataUplink} {slot : SlotId} :
    ((DataHandling.handle net device uplink).expand (ofDataOperation slot)).Obeys
      ServerOperation.Plain fun _ => True := by
  have hconcerns : (DataHandling.handle net device uplink).Obeys
      (fun op : DataOperation =>
        ∃ counter, op.Concerns (.ofSession device.session) counter) fun _ => True :=
    DataHandling.handle_keeps.obeys (fun _ _ h => h.imp fun _ => And.right) fun _ _ => trivial
  refine obeys_expand hconcerns ?_
  rintro op ⟨counter, hop⟩
  cases op with
  | clock | wallClock => exact obeys_ask.mpr ⟨rfl, fun _ => trivial⟩
  | announce c => exact obeys_ask.mpr ⟨rfl, fun _ => trivial⟩
  | call request | race request deadline =>
    refine obeys_ask.mpr ⟨?_, fun _ => trivial⟩
    cases request with
    | fetchCandidates addr => exact hop.elim
    | _ => rfl

/-- A task that handles an uplink is idle throughout. -/
theorem handleOn_rules {slot : SlotId} {uplink : DataUplink} :
    (handleOn net slot uplink).Keeps loadingRules (fun reached _ => reached = .idle) .idle := by
  have hidle : ∀ loader addr, Stage.idle ≠ .opened loader addr := by simp
  refine keeps_bind.mpr ((keeps_of_plain (memory_plain rfl fun _ => trivial) hidle).mono ?_)
  rintro _ _ ⟨rfl, -⟩
  refine keeps_bind.mpr ⟨rfl, fun device _ => ?_⟩
  refine keeps_bind.mpr ((keeps_of_plain handle_plain hidle).mono ?_)
  rintro _ result ⟨rfl, -⟩
  refine keeps_bind.mpr ((keeps_of_plain (memory_plain rfl fun _ => trivial) hidle).mono ?_)
  rintro _ _ ⟨rfl, -⟩
  rfl

/-- A join asks for what is needed to accept it and writes its session, and no more; the session
that it installs is that of its own device. -/
theorem joinHandle_obeys {uplink : JoinUplink} :
    (JoinHandling.handle net uplink).Obeys (JoinOperation.Concerns uplink.request.devEui)
      fun _ => True := by
  refine obeys_bind.mpr (obeys_ask.mpr ⟨trivial, fun answer => ?_⟩)
  split
  · trivial
  · trivial
  · split
    · trivial
    · refine obeys_bind.mpr (obeys_ask.mpr ⟨trivial, fun now => ?_⟩)
      dsimp only
      split
      · trivial
      · refine obeys_bind.mpr (obeys_ask.mpr ⟨trivial, fun drawn => ?_⟩)
        refine obeys_bind.mpr (obeys_ask.mpr ⟨trivial, fun written => ?_⟩)
        split
        · trivial
        · refine obeys_bind.mpr (obeys_ask.mpr ⟨rfl, fun _ => ?_⟩)
          refine obeys_bind.mpr (obeys_ask.mpr ⟨trivial, fun later => ?_⟩)
          dsimp only
          split
          · trivial
          · split <;> trivial

theorem dispatchJoin_plain {uplink : RadioUplink} {request : JoinRequest} :
    (dispatchJoin net uplink request).Obeys ServerOperation.Plain fun _ => True := by
  refine obeys_bind.mpr ((obeys_expand joinHandle_obeys ?_).mono (fun _ h => h) fun _ _ => trivial)
  intro op hop
  cases op with
  | clock | draw => exact obeys_ask.mpr ⟨rfl, fun _ => trivial⟩
  | call request =>
    refine obeys_ask.mpr ⟨?_, fun _ => trivial⟩
    cases request with
    | fetchCandidates addr => exact hop.elim
    | _ => rfl
  | install record =>
    exact obeys_bind.mpr ((ofUpkeep_plain install_plain).mono (fun _ h => h) fun _ _ => trivial)

/-! ## Loading -/

/-- A task that looks for the device of a frame waits for its reply if it joined a loader, and
starts the loader first if it made it known. -/
theorem resolve_rules :
    (resolve net frame).Keeps loadingRules (fun reached _ => reached = .idle) .idle := by
  have hidle : ∀ loader addr, Stage.idle ≠ .opened loader addr := by simp
  have hreply : ((memory .takeReply).bind fun resolution => pure (some resolution)).Keeps
      loadingRules (fun reached _ => reached = .idle) .waiting :=
    keeps_bind.mpr ⟨rfl, fun _ _ => rfl⟩
  refine keeps_bind.mpr ((keeps_of_plain (memory_plain rfl fun _ => trivial) hidle).mono ?_)
  rintro _ cached ⟨rfl, -⟩
  cases cached with
  | some handles =>
    refine keeps_bind.mpr ((keeps_of_plain authenticate_plain hidle).mono ?_)
    rintro _ resolution ⟨rfl, -⟩
    rfl
  | none =>
    refine keeps_bind.mpr ⟨rfl, fun joined _ => ?_⟩
    cases joined with
    | again => rfl
    | queued => exact hreply
    | started loader =>
      exact keeps_bind.mpr ⟨.inl ⟨loader, frame.devAddr, rfl, rfl⟩, fun _ _ => hreply⟩

/-- A loader asks the store, and starts and gathers its candidates. -/
theorem findDevices_rules {loader : LoaderId} {addr : DevAddr} :
    (findDevices loader addr).Keeps loadingRules
      (fun reached _ => reached = .asked loader addr ∨ reached = .gathered loader addr)
      (.asking loader addr) := by
  refine keeps_bind.mpr ⟨⟨loader, rfl⟩, fun answer _ => ?_⟩
  cases answer with
  | error error => exact .inl rfl
  | ok listed =>
    let candidates := listed.filter fun candidate => candidate.devAddr = addr
    have hcount : (candidateActivities loader addr candidates).length = candidates.length :=
      List.length_mapIdx
    have hstage : (Stage.asked loader addr).next
        ⟨.start (candidateActivities loader addr candidates), ()⟩ =
          .gathering loader addr candidates.length :=
      congrArg (Stage.gathering loader addr) hcount
    refine keeps_bind.mpr ⟨.inr ⟨loader, addr, candidates, rfl, rfl⟩, fun _ _ => ?_⟩
    exact keeps_bind.mpr ⟨⟨addr, hstage⟩, fun loads _ => .inr (congrArg Stage.gather hstage)⟩

/-- A loader answers the frames that it found in its queue, one after the other. -/
theorem answerAll_rules {found : Except FailureReason (List DeviceHandle)}
    (frames : List (TaskId × DataFrame)) :
    (answerAll net found frames).Keeps loadingRules (fun reached _ => reached = .answering [])
      (.answering frames) := by
  induction frames with
  | nil => rfl
  | cons entry rest ih =>
    obtain ⟨task, frame⟩ := entry
    have hreply : ∀ resolution,
        ((memory (.reply task resolution)).bind fun _ => answerAll net found rest).Keeps
          loadingRules (fun reached _ => reached = .answering [])
          (.answering ((task, frame) :: rest)) :=
      fun resolution => keeps_bind.mpr ⟨⟨frame, rest, rfl⟩, fun _ _ => ih⟩
    cases found with
    | error reason => exact hreply _
    | ok handles =>
      refine keeps_bind.mpr ((keeps_of_plain authenticate_plain (by simp)).mono ?_)
      rintro _ resolution ⟨rfl, -⟩
      exact hreply resolution

/-- A loader publishes what it found, becomes unknown, closes its queue and answers all it found
there. -/
theorem loadAddress_rules {loader : LoaderId} {addr : DevAddr} :
    (loadAddress net loader addr).Keeps loadingRules (fun reached _ => reached = .answering [])
      (.asking loader addr) := by
  refine keeps_bind.mpr (findDevices_rules.mono fun reached found hreached => ?_)
  have hleave : ((memory (.leaveLoader addr)).bind fun _ =>
      (memory (.closeQueue loader)).bind fun waiting => answerAll net found waiting).Keeps
        loadingRules (fun reached _ => reached = .answering []) reached := by
    have hleft : reached.leave = .left loader := by rcases hreached with rfl | rfl <;> rfl
    refine keeps_bind.mpr ⟨⟨loader, hreached⟩, fun _ _ => ?_⟩
    refine keeps_bind.mpr ⟨hleft, fun waiting _ => ?_⟩
    exact answerAll_rules waiting
  cases found with
  | error reason => exact hleave
  | ok handles =>
    have hstage : ∀ loader addr, reached ≠ .opened loader addr := by
      rcases hreached with rfl | rfl <;> simp
    refine keeps_bind.mpr ((keeps_of_plain (memory_plain rfl fun _ => trivial) hstage).mono ?_)
    rintro _ _ ⟨rfl, -⟩
    exact hleave

/-- A frame is dispatched like any that is looked for, and handled without loading anything. -/
theorem dispatchData_rules {uplink : RadioUplink} :
    (dispatchData net uplink frame).Keeps loadingRules (fun reached _ => reached = .idle)
      .idle := by
  unfold dispatchData
  split
  · rfl
  · refine keeps_bind.mpr (resolve_rules.mono ?_)
    rintro _ found rfl
    rcases found with - | (reason | handle)
    · rfl
    · rfl
    · refine keeps_bind.mpr (handleOn_rules.mono ?_)
      rintro _ outcome rfl
      split
      · have hplain : (ofUpkeep (Upkeep.forgetDevice handle.card.devEui)).Obeys
            ServerOperation.Plain fun _ => True := ofUpkeep_plain forgetDevice_plain
        refine keeps_bind.mpr ((keeps_of_plain hplain (by simp)).mono ?_)
        rintro _ _ ⟨rfl, -⟩
        rfl
      · rfl

theorem dispatch_rules {uplink : RadioUplink} :
    (dispatch net uplink).Keeps loadingRules (fun reached _ => reached = .idle) .idle := by
  unfold dispatch
  split
  · rfl
  · exact dispatchData_rules
  · refine keeps_bind.mpr ((keeps_of_plain dispatchJoin_plain (by simp)).mono ?_)
    rintro _ outcome ⟨rfl, -⟩
    rfl

end Service

namespace Activity

open Program Service

variable {net : Network}

/-- Upkeep is done with loading at once. -/
theorem upkeep_rules {a : Activity} (hidle : a.stage = .idle) {α : Type} {p : Upkeep α}
    {verdict : α → Verdict} (h : p.Obeys MemoryOperation.Plain fun _ => True) :
    ((ofUpkeep p).bind fun value => pure (verdict value)).Keeps loadingRules a.Closes .idle := by
  refine keeps_bind.mpr ((keeps_of_plain (ofUpkeep_plain h) (by simp)).mono ?_)
  rintro _ value ⟨rfl, -⟩
  exact keeps_done.mpr ⟨.inl rfl, fun _ => hidle.symm⟩

/-- Every activity keeps the rules of loading. -/
theorem program_rules (a : Activity) : (a.program net).Keeps loadingRules a.Closes a.stage := by
  cases a with
  | dispatch uplink =>
    refine keeps_bind.mpr (dispatch_rules.mono ?_)
    rintro _ outcome rfl
    exact keeps_done.mpr ⟨.inl rfl, fun _ => rfl⟩
  | resolve frame =>
    refine keeps_bind.mpr (resolve_rules.mono ?_)
    rintro _ found rfl
    exact keeps_done.mpr ⟨.inl rfl, fun _ => rfl⟩
  | handle slot uplink =>
    refine keeps_bind.mpr (handleOn_rules.mono ?_)
    rintro _ outcome rfl
    exact keeps_done.mpr ⟨.inl rfl, fun _ => rfl⟩
  | loadAddress loader addr =>
    refine keeps_bind.mpr (loadAddress_rules.mono ?_)
    rintro _ _ rfl
    exact keeps_done.mpr ⟨.inr (.inl rfl), fun h => by cases h⟩
  | loadCandidate loader place addr eui =>
    refine keeps_bind.mpr ((keeps_of_plain loadCandidate_plain (by simp [stage])).mono ?_)
    rintro _ load ⟨rfl, -⟩
    refine keeps_bind.mpr ⟨rfl, fun _ _ => ?_⟩
    exact keeps_done.mpr ⟨.inr (.inr rfl), fun h => by cases h⟩
  | install record => exact upkeep_rules rfl install_plain
  | forgetDevice eui => exact upkeep_rules rfl forgetDevice_plain
  | forgetAddress addr => exact upkeep_rules rfl forgetAddress_plain

end Activity

end LoraNetwork
