/-!
# Programs

What a server does between two answers of its collaborators is pure; what it asks for next may hang
on every answer so far. A program is the tree of both: it is finished, or it performs an operation
and goes on in a way that hangs on the answer. Whoever runs a program decides what each operation
answers, so one text serves for running it against real answers and for reasoning about all of them.
Every program ends after finitely many operations, whatever they answer.
-/

namespace LoraNetwork

/-- The operations that a program may perform, and the type of each answer. -/
structure Interface where
  /-- The operations. -/
  Operation : Type
  /-- What an operation answers. -/
  Answer : Operation → Type

/-- A program that performs operations of an interface and ends with a value. -/
inductive Program (I : Interface) (α : Type) where
  /-- The program is finished. -/
  | done (value : α)
  /-- Performs an operation and goes on with its answer. -/
  | perform (op : I.Operation) (next : I.Answer op → Program I α)

namespace Program

variable {I J : Interface} {α β γ : Type}

/-- Runs one program and then another that is chosen by its value. -/
def bind : Program I α → (α → Program I β) → Program I β
  | done value, f => f value
  | perform op next, f => perform op fun answer => (next answer).bind f

instance : Monad (Program I) where
  pure := done
  bind := bind

/-- The program that performs one operation. -/
def ask (op : I.Operation) : Program I (I.Answer op) := perform op done

/-- The same program over another interface, each operation replaced by a program for it. -/
def expand (f : (op : I.Operation) → Program J (I.Answer op)) : Program I α → Program J α
  | done value => done value
  | perform op next => (f op).bind fun answer => (next answer).expand f

/-- Runs a program whose operations are transformations of a state. -/
def runState {σ : Type} (f : (op : I.Operation) → σ → I.Answer op × σ) :
    Program I α → σ → α × σ
  | done value, s => (value, s)
  | perform op next, s => (next (f op s).1).runState f (f op s).2

@[simp] theorem pure_eq_done (value : α) : (pure value : Program I α) = done value := rfl

@[simp] theorem bind_eq_bind (p : Program I α) (f : α → Program I β) : p >>= f = p.bind f := rfl

@[simp] theorem done_bind (value : α) (f : α → Program I β) : (done value).bind f = f value := rfl

@[simp] theorem perform_bind (op : I.Operation) (next : I.Answer op → Program I α)
    (f : α → Program I β) :
    (perform op next).bind f = perform op fun answer => (next answer).bind f := rfl

/-- Ending with the value of a program changes nothing. -/
@[simp] theorem bind_done (p : Program I α) : p.bind done = p := by
  induction p with
  | done value => rfl
  | perform op next ih => simp [bind, ih]

end Program

end LoraNetwork
