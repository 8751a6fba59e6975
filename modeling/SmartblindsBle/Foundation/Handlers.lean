import SmartblindsBle.Foundation.Coroutine

/-! # Handlers

An environment that answers every operation at once and in one way turns a
coroutine into a function of the state it starts in.
-/

namespace Foundation

/-- How an operation is answered, and what it leaves of the state. -/
abbrev Handler (State Op : Type) (Reply : Op → Type) (Error : Type) : Type :=
  (operation : Op) → State → Except Error (Reply operation) × State

namespace Coroutine

variable {State Op Error Result Value : Type} {Reply : Op → Type}
variable (handler : Handler State Op Reply Error)

/-- Run a task to its end. -/
def evaluate : Coroutine State Op Reply Error Result → State → Except Error Result × State
  | .done outcome, state => (outcome, state)
  | .inspect next, state => evaluate (next state) state
  | .update transform next, state => evaluate next (transform state)
  | .await operation resume, state =>
      evaluate (resume (handler operation state).1) (handler operation state).2

@[simp] theorem evaluate_done (outcome : Except Error Result) (state : State) :
    (.done outcome : Coroutine State Op Reply Error Result).evaluate handler state =
      (outcome, state) := rfl

@[simp] theorem evaluate_current (state : State) :
    (current : Coroutine State Op Reply Error State).evaluate handler state =
      (.ok state, state) := rfl

@[simp] theorem evaluate_modify (transform : State → State) (state : State) :
    (modify transform : Coroutine State Op Reply Error Unit).evaluate handler state =
      (.ok (), transform state) := rfl

@[simp] theorem evaluate_perform (operation : Op) (state : State) :
    (perform operation : Coroutine State Op Reply Error (Reply operation)).evaluate
      handler state = handler operation state := rfl

theorem evaluate_bind (first : Coroutine State Op Reply Error Value)
    (rest : Value → Coroutine State Op Reply Error Result) (state : State) :
    (first >>= rest).evaluate handler state =
      match first.evaluate handler state with
      | (.ok value, after) => (rest value).evaluate handler after
      | (.error error, after) => (.error error, after) := by
  induction first generalizing state with
  | done outcome => cases outcome <;> rfl
  | inspect next induction => exact induction state state
  | update transform next induction => exact induction (transform state)
  | await operation resume induction => exact induction _ _

theorem evaluate_tryCatch (body : Coroutine State Op Reply Error Result)
    (recovery : Error → Coroutine State Op Reply Error Result) (state : State) :
    (tryCatch body recovery).evaluate handler state =
      match body.evaluate handler state with
      | (.ok value, after) => (.ok value, after)
      | (.error error, after) => (recovery error).evaluate handler after := by
  induction body generalizing state with
  | done outcome => cases outcome <;> rfl
  | inspect next induction => exact induction state state
  | update transform next induction => exact induction (transform state)
  | await operation resume induction => exact induction _ _

/-- The clean-up runs where the body has ended; its exception comes first. -/
theorem evaluate_tryFinally (body : Coroutine State Op Reply Error Result)
    (cleanup : Coroutine State Op Reply Error Unit) (state : State) :
    (tryFinally body cleanup).evaluate handler state =
      match cleanup.evaluate handler (body.evaluate handler state).2 with
      | (.ok _, after) => ((body.evaluate handler state).1, after)
      | (.error error, after) => (.error error, after) := by
  rw [tryFinally, evaluate_bind, evaluate_tryCatch, evaluate_bind]
  rcases body.evaluate handler state with ⟨outcome, ended⟩
  cases outcome with
  | ok value =>
      simp only [pure_eq_done, evaluate_done, evaluate_bind]
      rcases cleanup.evaluate handler ended with ⟨cleaned, after⟩
      cases cleaned <;> rfl
  | error error =>
      simp only [pure_eq_done, evaluate_done, evaluate_bind]
      rcases cleanup.evaluate handler ended with ⟨cleaned, after⟩
      cases cleaned <;> rfl

end Coroutine

end Foundation
