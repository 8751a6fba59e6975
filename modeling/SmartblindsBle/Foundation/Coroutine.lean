import Mathlib.Logic.Basic

/-! # Coroutines over shared state

A task of a single-threaded event loop runs without interruption from one
suspension point to the next. A `Coroutine` is such a task written as data: it
reads and writes the state it shares with the other tasks, it suspends on an
operation of its environment, and it ends with a result or an exception.
-/

namespace Foundation

/-- A task suspended on operations of type `Op`. Between two operations it may
inspect and update the shared state; an operation is answered with a value or
with an exception raised at the suspension point. -/
inductive Coroutine (State Op : Type) (Reply : Op → Type) (Error Result : Type) : Type where
  | done (outcome : Except Error Result)
  | inspect (next : State → Coroutine State Op Reply Error Result)
  | update (transform : State → State) (next : Coroutine State Op Reply Error Result)
  | await (operation : Op)
      (resume : Except Error (Reply operation) → Coroutine State Op Reply Error Result)

/-- Python's `try: body finally: cleanup`. An exception of the clean-up takes the
place of the body's outcome. -/
def tryFinally {Error Value : Type} {m : Type → Type} [Monad m] [MonadExcept Error m]
    (body : m Value) (cleanup : m Unit) : m Value := do
  let outcome : Except Error Value ← tryCatch
    (do let value ← body; pure (.ok value)) (fun error => pure (.error error))
  cleanup
  match outcome with
  | .ok value => pure value
  | .error error => throw error

namespace Coroutine

variable {State Op Error Result Value : Type} {Reply : Op → Type}

/-- Continue after a normal result; an exception ends the whole task. -/
def bind (first : Coroutine State Op Reply Error Value)
    (rest : Value → Coroutine State Op Reply Error Result) :
    Coroutine State Op Reply Error Result :=
  match first with
  | .done (.ok value) => rest value
  | .done (.error error) => .done (.error error)
  | .inspect next => .inspect fun state => (next state).bind rest
  | .update transform next => .update transform (next.bind rest)
  | .await operation resume => .await operation fun reply => (resume reply).bind rest

/-- Continue with a handler when the task raises an exception. -/
def handle (body : Coroutine State Op Reply Error Result)
    (handler : Error → Coroutine State Op Reply Error Result) :
    Coroutine State Op Reply Error Result :=
  match body with
  | .done (.ok value) => .done (.ok value)
  | .done (.error error) => handler error
  | .inspect next => .inspect fun state => (next state).handle handler
  | .update transform next => .update transform (next.handle handler)
  | .await operation resume => .await operation fun reply => (resume reply).handle handler

instance : Monad (Coroutine State Op Reply Error) where
  pure value := .done (.ok value)
  bind := bind

instance : MonadExceptOf Error (Coroutine State Op Reply Error) where
  throw error := .done (.error error)
  tryCatch := handle

/-- Suspend on an operation and return its answer. -/
def perform (operation : Op) : Coroutine State Op Reply Error (Reply operation) :=
  .await operation .done

/-- Read the shared state. -/
def current : Coroutine State Op Reply Error State :=
  .inspect fun state => .done (.ok state)

/-- Write the shared state. -/
def modify (transform : State → State) : Coroutine State Op Reply Error Unit :=
  .update transform (.done (.ok ()))

/-- A computation that neither suspends nor touches the state. -/
def ofExcept (outcome : Except Error Result) : Coroutine State Op Reply Error Result :=
  .done outcome

/-- The outcome of a task that has ended. -/
def outcome? : Coroutine State Op Reply Error Result → Option (Except Error Result)
  | .done outcome => some outcome
  | _ => none

theorem outcome?_eq_some {code : Coroutine State Op Reply Error Result}
    {outcome : Except Error Result} : code.outcome? = some outcome ↔ code = .done outcome := by
  cases code with
  | done ended => simp [outcome?]
  | _ => simp [outcome?]

/-! ## Equations -/

@[simp] theorem pure_eq_done (value : Result) :
    (pure value : Coroutine State Op Reply Error Result) = .done (.ok value) := rfl

@[simp] theorem throw_eq_done (error : Error) :
    (throw error : Coroutine State Op Reply Error Result) = .done (.error error) := rfl

@[simp] theorem done_ok_bind (value : Value)
    (rest : Value → Coroutine State Op Reply Error Result) :
    (.done (.ok value) : Coroutine State Op Reply Error Value) >>= rest = rest value := rfl

@[simp] theorem done_error_bind (error : Error)
    (rest : Value → Coroutine State Op Reply Error Result) :
    (.done (.error error) : Coroutine State Op Reply Error Value) >>= rest =
      .done (.error error) := rfl

@[simp] theorem ofExcept_ok_bind (value : Value)
    (rest : Value → Coroutine State Op Reply Error Result) :
    (ofExcept (.ok value) : Coroutine State Op Reply Error Value) >>= rest = rest value := rfl

@[simp] theorem ofExcept_error_bind (error : Error)
    (rest : Value → Coroutine State Op Reply Error Result) :
    (ofExcept (.error error) : Coroutine State Op Reply Error Value) >>= rest =
      .done (.error error) := rfl

@[simp] theorem inspect_bind (next : State → Coroutine State Op Reply Error Value)
    (rest : Value → Coroutine State Op Reply Error Result) :
    (.inspect next : Coroutine State Op Reply Error Value) >>= rest =
      .inspect fun state => next state >>= rest := rfl

@[simp] theorem update_bind (transform : State → State)
    (next : Coroutine State Op Reply Error Value)
    (rest : Value → Coroutine State Op Reply Error Result) :
    (.update transform next : Coroutine State Op Reply Error Value) >>= rest =
      .update transform (next >>= rest) := rfl

@[simp] theorem await_bind (operation : Op)
    (resume : Except Error (Reply operation) → Coroutine State Op Reply Error Value)
    (rest : Value → Coroutine State Op Reply Error Result) :
    (.await operation resume : Coroutine State Op Reply Error Value) >>= rest =
      .await operation fun reply => resume reply >>= rest := rfl

@[simp] theorem done_ok_tryCatch (value : Result)
    (handler : Error → Coroutine State Op Reply Error Result) :
    tryCatch (.done (.ok value) : Coroutine State Op Reply Error Result) handler =
      .done (.ok value) := rfl

@[simp] theorem done_error_tryCatch (error : Error)
    (handler : Error → Coroutine State Op Reply Error Result) :
    tryCatch (.done (.error error) : Coroutine State Op Reply Error Result) handler =
      handler error := rfl

@[simp] theorem await_tryCatch (operation : Op)
    (resume : Except Error (Reply operation) → Coroutine State Op Reply Error Result)
    (handler : Error → Coroutine State Op Reply Error Result) :
    tryCatch (.await operation resume : Coroutine State Op Reply Error Result) handler =
      .await operation fun reply => tryCatch (resume reply) handler := rfl

theorem bind_assoc {Middle : Type} (first : Coroutine State Op Reply Error Value)
    (second : Value → Coroutine State Op Reply Error Middle)
    (third : Middle → Coroutine State Op Reply Error Result) :
    first >>= second >>= third = first >>= fun value => second value >>= third := by
  induction first with
  | done outcome => cases outcome <;> rfl
  | inspect next induction =>
      exact congrArg Coroutine.inspect (funext induction)
  | update transform next induction =>
      exact congrArg (Coroutine.update transform) induction
  | await operation resume induction =>
      exact congrArg (Coroutine.await operation) (funext induction)

end Coroutine

end Foundation
