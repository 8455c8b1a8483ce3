import LoraNetwork.Proofs.Program.Trace

/-!
# Contracts of programs

A contract says what a program may do next, given what it did so far, and what it may count on in
return. What it did so far is summed up in a state that moves on with every event. A program that
keeps a contract keeps it in every trace whose answers are as promised; contracts of programs in a
row are put together from contracts of the parts.
-/

namespace LoraNetwork

/-- What a program may do, and what it may count on. -/
structure Contract (I : Interface) (γ : Type) where
  /-- The operations allowed in a state. -/
  allows : γ → I.Operation → Prop
  /-- The answers to count on. -/
  promises : (op : I.Operation) → I.Answer op → Prop
  /-- The state after an event. -/
  next : γ → Event I → γ

/-- The contract that allows certain operations at any time and promises nothing. -/
def Contract.only {I : Interface} (allowed : I.Operation → Prop) : Contract I Unit where
  allows _ op := allowed op
  promises _ _ := True
  next _ _ := ()

namespace Program

variable {I J : Interface} {α β γ δ : Type} {C : Contract I γ} {allowed : I.Operation → Prop}
variable {op : I.Operation}

/-- A program does only what a contract allows, and ends in a state and with a value as stated. -/
def Keeps (C : Contract I γ) (post : γ → α → Prop) : Program I α → γ → Prop
  | done value, state => post state value
  | perform op next, state =>
    C.allows state op ∧
      ∀ answer, C.promises op answer → (next answer).Keeps C post (C.next state ⟨op, answer⟩)

/-- A program performs only certain operations, and ends with a value as stated, whatever is
answered. -/
def Obeys (allowed : I.Operation → Prop) (post : α → Prop) (p : Program I α) : Prop :=
  p.Keeps (Contract.only allowed) (fun _ => post) ()

@[simp] theorem keeps_done {post : γ → α → Prop} {value : α} {state : γ} :
    (done value : Program I α).Keeps C post state ↔ post state value := Iff.rfl

@[simp] theorem keeps_perform {post : γ → α → Prop} {next : I.Answer op → Program I α} {state : γ} :
    (perform op next).Keeps C post state ↔ C.allows state op ∧
      ∀ answer, C.promises op answer →
        (next answer).Keeps C post (C.next state ⟨op, answer⟩) := Iff.rfl

@[simp] theorem obeys_done {post : α → Prop} {value : α} :
    (done value : Program I α).Obeys allowed post ↔ post value := Iff.rfl

@[simp] theorem obeys_perform {post : α → Prop} {next : I.Answer op → Program I α} :
    (perform op next).Obeys allowed post ↔
      allowed op ∧ ∀ answer, (next answer).Obeys allowed post := by
  simp [Obeys, Contract.only]

@[simp] theorem obeys_ask {post : I.Answer op → Prop} :
    (ask op : Program I (I.Answer op)).Obeys allowed post ↔ allowed op ∧ ∀ answer, post answer := by
  simp [ask]

/-- Programs in a row keep a contract if the second takes over where the first ends. -/
theorem keeps_bind {p : Program I α} {f : α → Program I β} {post : γ → β → Prop} {state : γ} :
    (p.bind f).Keeps C post state ↔ p.Keeps C (fun s value => (f value).Keeps C post s) state := by
  induction p generalizing state with
  | done value => rfl
  | perform op next ih => simp only [perform_bind, keeps_perform, ih]

/-- Programs in a row perform only what each of them performs. -/
theorem obeys_bind {p : Program I α} {f : α → Program I β} {post : β → Prop} :
    (p.bind f).Obeys allowed post ↔ p.Obeys allowed fun value => (f value).Obeys allowed post :=
  keeps_bind

/-- Every program obeys the rule that allows everything. -/
theorem obeys_true (p : Program I α) : p.Obeys (fun _ => True) fun _ => True := by
  induction p with
  | done value => trivial
  | perform op next ih => exact obeys_perform.mpr ⟨trivial, ih⟩

/-- What a program ends with may be left open if the next one goes on with anything. -/
theorem obeys_bind_of_forall {p : Program I α} {f : α → Program I β} {post : β → Prop}
    (h : ∀ value, (f value).Obeys (fun _ => True) post) :
    (p.bind f).Obeys (fun _ => True) post := by
  induction p with
  | done value => exact h value
  | perform op next ih => exact obeys_perform.mpr ⟨trivial, ih⟩

/-- What is stated of the end may be weakened. -/
theorem Keeps.mono {p : Program I α} {post weaker : γ → α → Prop} {state : γ}
    (h : p.Keeps C post state) (hpost : ∀ s value, post s value → weaker s value) :
    p.Keeps C weaker state := by
  induction p generalizing state with
  | done value => exact hpost state value h
  | perform op next ih =>
    exact ⟨h.1, fun answer hanswer => ih answer (h.2 answer hanswer)⟩

/-- A program that obeys a rule may be allowed more, and less may be stated of its value. -/
theorem Obeys.mono {p : Program I α} {wider : I.Operation → Prop} {post weaker : α → Prop}
    (h : p.Obeys allowed post) (hallowed : ∀ op, allowed op → wider op)
    (hpost : ∀ value, post value → weaker value) : p.Obeys wider weaker := by
  induction p with
  | done value => exact hpost value h
  | perform op next ih =>
    rw [obeys_perform] at h ⊢
    exact ⟨hallowed op h.1, fun answer => ih answer (h.2 answer)⟩

/-- A program that only performs what a contract allows in certain states keeps the contract, if
its operations do not lead out of these states. -/
theorem Obeys.keeps {p : Program I α} {post : α → Prop} (h : p.Obeys allowed post)
    (inside : γ → Prop) (hallows : ∀ s op, inside s → allowed op → C.allows s op)
    (hnext : ∀ s op answer, inside s → allowed op → inside (C.next s ⟨op, answer⟩)) {state : γ}
    (hstate : inside state) : p.Keeps C (fun s value => inside s ∧ post value) state := by
  induction p generalizing state with
  | done value => exact ⟨hstate, h⟩
  | perform op next ih =>
    rw [obeys_perform] at h
    exact ⟨hallows state op hstate h.1, fun answer _ =>
      ih answer (h.2 answer) (hnext state op answer hstate h.1)⟩

/-- Every event in a trace of a program that obeys a rule is of an allowed operation, and the value
is as stated. -/
theorem Obeys.trace {p : Program I α} {post : α → Prop} {events : List (Event I)} {value : α}
    (h : p.Obeys allowed post) (htrace : p.Trace events value) :
    (∀ event ∈ events, allowed event.op) ∧ post value := by
  induction p generalizing events with
  | done final =>
    obtain ⟨rfl, rfl⟩ := trace_done.mp htrace
    exact ⟨by simp, h⟩
  | perform op next ih =>
    obtain ⟨answer, later, rfl, hlater⟩ := trace_perform.mp htrace
    rw [obeys_perform] at h
    obtain ⟨hevents, hvalue⟩ := ih answer (h.2 answer) hlater
    refine ⟨?_, hvalue⟩
    intro event hmem
    rcases List.mem_cons.mp hmem with rfl | hrest
    · exact h.1
    · exact hevents event hrest

/-- A program that obeys a rule has performed only allowed operations wherever it was cut off. -/
theorem Obeys.reaches {p rest : Program I α} {post : α → Prop} {events : List (Event I)}
    (h : p.Obeys allowed post) (hreaches : p.Reaches events rest) :
    ∀ event ∈ events, allowed event.op := by
  induction hreaches with
  | start => exact fun _ hmem => nomatch hmem
  | answered answer later ih =>
    rw [obeys_perform] at h
    exact List.forall_mem_cons.mpr ⟨h.1, ih (h.2 answer)⟩

/-- Every program keeps a contract that allows everything. -/
theorem keeps_of_allows (hallows : ∀ s op, C.allows s op) (p : Program I α) (state : γ) :
    p.Keeps C (fun _ _ => True) state := by
  induction p generalizing state with
  | done value => trivial
  | perform op next ih => exact ⟨hallows state op, fun answer _ => ih answer _⟩

/-- A trace whose answers are as promised ends in the state that its events lead to, with what was
stated of it. -/
theorem Keeps.trace {p : Program I α} {post : γ → α → Prop} {state : γ} {events : List (Event I)}
    {value : α} (h : p.Keeps C post state) (htrace : p.Trace events value)
    (hpromised : ∀ event ∈ events, C.promises event.op event.answer) :
    post (events.foldl C.next state) value := by
  induction p generalizing state events with
  | done final =>
    obtain ⟨rfl, rfl⟩ := trace_done.mp htrace
    exact h
  | perform op next ih =>
    obtain ⟨answer, later, rfl, hlater⟩ := trace_perform.mp htrace
    have hanswer := hpromised _ List.mem_cons_self
    rw [List.foldl_cons]
    exact ih answer (h.2 answer hanswer) hlater fun event hmem =>
      hpromised event (List.mem_cons_of_mem _ hmem)

/-- Each operation of a trace is allowed in the state that the events before it lead to. -/
theorem Keeps.allows_of_trace {p : Program I α} {post : γ → α → Prop} {state : γ}
    {before after : List (Event I)} {event : Event I} {value : α} (h : p.Keeps C post state)
    (htrace : p.Trace (before ++ event :: after) value)
    (hpromised : ∀ event ∈ before, C.promises event.op event.answer) :
    C.allows (before.foldl C.next state) event.op := by
  induction p generalizing state before with
  | done final =>
    obtain ⟨habsent, -⟩ := trace_done.mp htrace
    simp at habsent
  | perform op next ih =>
    obtain ⟨answer, later, hevents, hlater⟩ := trace_perform.mp htrace
    cases before with
    | nil =>
      obtain ⟨rfl, rfl⟩ := List.cons.inj hevents
      exact h.1
    | cons first rest =>
      obtain ⟨rfl, rfl⟩ := List.cons.inj hevents
      rw [List.foldl_cons]
      exact ih answer (h.2 answer (hpromised _ List.mem_cons_self)) hlater fun event hmem =>
        hpromised event (List.mem_cons_of_mem _ hmem)

/-- A program that keeps a contract in one state keeps it in every state that allows as much, now
and after every event. -/
theorem Keeps.weaken {p : Program I α} {post weaker : γ → α → Prop} {view : γ → γ → Prop}
    {state other : γ} (h : p.Keeps C post state) (hview : view state other)
    (hallows : ∀ s t op, view s t → C.allows s op → C.allows t op)
    (hnext : ∀ s t event, view s t → view (C.next s event) (C.next t event))
    (hpost : ∀ s t value, view s t → post s value → weaker t value) :
    p.Keeps C weaker other := by
  induction p generalizing state other with
  | done value => exact hpost state other value hview h
  | perform op next ih =>
    exact ⟨hallows state other op hview h.1, fun answer hanswer =>
      ih answer (h.2 answer hanswer) (hnext state other _ hview)⟩

/-- A program that keeps a contract without promises performs only what the contract allows in some
state. -/
theorem Keeps.obeys {p : Program I α} {post : γ → α → Prop} {state : γ} (h : p.Keeps C post state)
    (hallows : ∀ s op, C.allows s op → allowed op) (hpromises : ∀ op answer, C.promises op answer) :
    p.Obeys allowed fun _ => True := by
  induction p generalizing state with
  | done value => trivial
  | perform op next ih =>
    exact obeys_perform.mpr ⟨hallows state op h.1, fun answer =>
      ih answer (h.2 answer (hpromises op answer))⟩

/-- A program over another interface performs there what the programs for its operations perform. -/
theorem obeys_expand {p : Program I α} {post : α → Prop} {wider : J.Operation → Prop}
    {f : (op : I.Operation) → Program J (I.Answer op)} (h : p.Obeys allowed post)
    (hstep : ∀ op, allowed op → (f op).Obeys wider fun _ => True) :
    (p.expand f).Obeys wider post := by
  induction p with
  | done value => exact h
  | perform op next ih =>
    rw [obeys_perform] at h
    exact obeys_bind.mpr ((hstep op h.1).mono (fun _ hop => hop) fun answer _ =>
      ih answer (h.2 answer))

/-- A program over another interface keeps a contract there, if each operation is replaced by a
program that keeps it and ends in the state that the operation led to. -/
theorem Keeps.expand {D : Contract J δ} {view : γ → δ → Prop} {p : Program I α}
    {post : γ → α → Prop} {f : (op : I.Operation) → Program J (I.Answer op)} {state : γ} {outer : δ}
    (h : p.Keeps C post state) (hview : view state outer)
    (hstep : ∀ s o op, view s o → C.allows s op →
      (f op).Keeps D
        (fun o' answer => C.promises op answer ∧ view (C.next s ⟨op, answer⟩) o') o) :
    (p.expand f).Keeps D (fun o value => ∃ s, view s o ∧ post s value) outer := by
  induction p generalizing state outer with
  | done value => exact ⟨state, hview, h⟩
  | perform op next ih =>
    rw [Program.expand, keeps_bind]
    have hop := hstep state outer op hview h.1
    exact hop.mono fun o answer hanswer => ih answer (h.2 answer hanswer.1) hanswer.2

end Program

end LoraNetwork
