import LoraNetwork.Program

/-!
# Traces of programs

What a program does, seen from outside: the operations it performs one after the other, each with
the answer it got. A trace belongs to a program if the program performs these operations when it is
given these answers. Nothing is said here about which answers may come.
-/

namespace LoraNetwork

/-- What is not in the first of two lists is in the second. -/
theorem exists_of_not_mem_left {α : Type} {first rest before after : List α} {x : α}
    (h : first ++ rest = before ++ x :: after) (hfirst : x ∉ first) :
    ∃ left, before = first ++ left ∧ rest = left ++ x :: after := by
  rcases List.append_eq_append_iff.mp h with ⟨left, hbefore, hrest⟩ | ⟨extra, hextra, hrest⟩
  · exact ⟨left, hbefore, hrest⟩
  · cases extra with
    | nil => exact ⟨[], by simpa using hextra.symm, hrest.symm⟩
    | cons y extra =>
      obtain ⟨rfl, -⟩ := List.cons.inj hrest
      exact absurd (by simp [hextra]) hfirst

/-- What is not in the second of two lists is in the first. -/
theorem exists_of_not_mem_right {α : Type} {first rest before after : List α} {x : α}
    (h : first ++ rest = before ++ x :: after) (hrest : x ∉ rest) :
    ∃ right, first = before ++ x :: right := by
  rcases List.append_eq_append_iff.mp h with ⟨left, -, hleft⟩ | ⟨extra, hextra, hafter⟩
  · exact absurd (by simp [hleft]) hrest
  · cases extra with
    | nil =>
      rw [List.nil_append] at hafter
      exact absurd (hafter ▸ List.mem_cons_self) hrest
    | cons y extra =>
      obtain ⟨rfl, -⟩ := List.cons.inj hafter
      exact ⟨extra, hextra⟩

/-- An operation that was performed, and its answer. -/
structure Event (I : Interface) where
  /-- The operation. -/
  op : I.Operation
  /-- The answer. -/
  answer : I.Answer op

namespace Program

variable {I : Interface} {α β : Type}

/-- What is left of a program after some events. -/
inductive Reaches : Program I α → List (Event I) → Program I α → Prop where
  /-- Before the first event all of it is left. -/
  | start (p : Program I α) : Reaches p [] p
  /-- An answer leads to the part that the program chose for it. -/
  | answered {op : I.Operation} {next : I.Answer op → Program I α} (answer : I.Answer op)
      {events : List (Event I)} {rest : Program I α} (later : Reaches (next answer) events rest) :
      Reaches (perform op next) (⟨op, answer⟩ :: events) rest

/-- The events of a program from its start to its end, and the value it ends with. -/
def Trace (p : Program I α) (events : List (Event I)) (value : α) : Prop :=
  p.Reaches events (done value)

/-- A finished program performs nothing. -/
@[simp] theorem trace_done {value final : α} {events : List (Event I)} :
    (done value : Program I α).Trace events final ↔ events = [] ∧ final = value := by
  constructor
  · intro h
    cases h
    exact ⟨rfl, rfl⟩
  · rintro ⟨rfl, rfl⟩
    exact .start _

/-- A program that is not finished performs its first operation and goes on with the answer. -/
@[simp] theorem trace_perform {op : I.Operation} {next : I.Answer op → Program I α}
    {events : List (Event I)} {value : α} :
    (perform op next).Trace events value ↔
      ∃ answer later, events = ⟨op, answer⟩ :: later ∧ (next answer).Trace later value := by
  constructor
  · intro h
    cases h with
    | answered answer later => exact ⟨answer, _, rfl, later⟩
  · rintro ⟨answer, later, rfl, h⟩
    exact .answered answer h

/-- The trace of two programs in a row is the trace of one and then of the other. -/
theorem trace_bind {p : Program I α} {f : α → Program I β} {events : List (Event I)} {value : β} :
    (p.bind f).Trace events value ↔
      ∃ middle first second, p.Trace first middle ∧ (f middle).Trace second value ∧
        events = first ++ second := by
  induction p generalizing events with
  | done start =>
    constructor
    · intro h
      exact ⟨start, [], events, trace_done.mpr ⟨rfl, rfl⟩, h, rfl⟩
    · rintro ⟨middle, first, second, hfirst, hsecond, rfl⟩
      obtain ⟨rfl, rfl⟩ := trace_done.mp hfirst
      exact hsecond
  | perform op next ih =>
    rw [perform_bind, trace_perform]
    constructor
    · rintro ⟨answer, later, rfl, h⟩
      obtain ⟨middle, first, second, hfirst, hsecond, rfl⟩ := (ih answer).mp h
      exact ⟨middle, _ :: first, second, .answered answer hfirst, hsecond, rfl⟩
    · rintro ⟨middle, first, second, hfirst, hsecond, rfl⟩
      obtain ⟨answer, later, rfl, h⟩ := trace_perform.mp hfirst
      exact ⟨answer, later ++ second, rfl, (ih answer).mpr ⟨middle, later, second, h, hsecond, rfl⟩⟩

/-- The trace of a program whose operations are answered by a rule, and its value. -/
def follow (answers : (op : I.Operation) → I.Answer op) : Program I α → List (Event I) × α
  | done value => ([], value)
  | perform op next =>
    let later := (next (answers op)).follow answers
    (⟨op, answers op⟩ :: later.1, later.2)

/-- What is left of a program goes on where it was cut off. -/
theorem Reaches.trans {p middle rest : Program I α} {first second : List (Event I)}
    (h : p.Reaches first middle) (hrest : middle.Reaches second rest) :
    p.Reaches (first ++ second) rest := by
  induction h with
  | start p => exact hrest
  | answered answer later ih => exact .answered answer (ih hrest)

/-- Nothing is left of a finished program but its value. -/
@[simp] theorem reaches_done {value : α} {events : List (Event I)} {rest : Program I α} :
    (done value : Program I α).Reaches events rest ↔ events = [] ∧ rest = done value := by
  constructor
  · intro h
    cases h
    exact ⟨rfl, rfl⟩
  · rintro ⟨rfl, rfl⟩
    exact .start _

/-- All of a program is left, or what is left comes after its first operation. -/
theorem reaches_perform {op : I.Operation} {next : I.Answer op → Program I α}
    {events : List (Event I)} {rest : Program I α} (h : (perform op next).Reaches events rest) :
    events = [] ∨
      ∃ answer later, events = ⟨op, answer⟩ :: later ∧ (next answer).Reaches later rest := by
  cases h with
  | start => exact .inl rfl
  | answered answer later => exact .inr ⟨answer, _, rfl, later⟩

/-- What is left of two programs in a row belongs to the first, or the first came to its end. -/
theorem reaches_bind {p : Program I α} {f : α → Program I β} {events : List (Event I)}
    {rest : Program I β} (h : (p.bind f).Reaches events rest) :
    (∃ middle, p.Reaches events middle) ∨
      ∃ value first second, p.Trace first value ∧ (f value).Reaches second rest ∧
        events = first ++ second := by
  induction p generalizing events with
  | done value => exact .inr ⟨value, [], events, .start _, h, rfl⟩
  | perform op next ih =>
    rcases reaches_perform h with rfl | ⟨answer, later, rfl, hlater⟩
    · exact .inl ⟨_, .start _⟩
    · rcases ih answer hlater with ⟨middle, hmiddle⟩ | ⟨value, first, second, hfirst, hsecond, rfl⟩
      · exact .inl ⟨middle, .answered answer hmiddle⟩
      · exact .inr ⟨value, _ :: first, second, .answered answer hfirst, hsecond, rfl⟩

/-- Only a finished program ends without performing anything. -/
theorem eq_done_of_trace_nil {p : Program I α} {value : α} (h : p.Trace [] value) :
    p = done value := by
  cases h
  rfl

/-- Answers that follow a rule lead to a trace. -/
theorem trace_follow (answers : (op : I.Operation) → I.Answer op) (p : Program I α) :
    p.Trace (p.follow answers).1 (p.follow answers).2 := by
  induction p with
  | done value => exact .start _
  | perform op next ih => exact .answered (answers op) (ih (answers op))

/-- A program that was cut off can be run to its end, if every operation can be answered. -/
theorem Reaches.exists_trace {p rest : Program I α} {events : List (Event I)}
    (answers : (op : I.Operation) → I.Answer op) (h : p.Reaches events rest) :
    ∃ later value, rest.Trace later value ∧ p.Trace (events ++ later) value :=
  ⟨_, _, trace_follow answers rest, h.trans (trace_follow answers rest)⟩

end Program

end LoraNetwork
