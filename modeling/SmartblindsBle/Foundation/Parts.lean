import SmartblindsBle.Foundation.CoroutineRuns

/-! # A task within a larger system

The state that a task inspects and updates may be one part of the state of a
system, whose environment also moves the other parts. At each suspension point a
condition is chosen that no other party can break; under it the task waits for
its answer, and whatever answer comes, the task goes on as expected.
-/

namespace Foundation

variable {Whole Piece Op Error Background Choice Result Value : Type} {Reply : Op → Type}

/-- A component of a state. -/
structure Part (Whole Piece : Type) where
  get : Whole → Piece
  set : Piece → Whole → Whole

/-- The task works on a part of a larger state. -/
def Coroutine.within (part : Part Whole Piece) :
    Coroutine Piece Op Reply Error Result → Coroutine Whole Op Reply Error Result
  | .done outcome => .done outcome
  | .inspect next => .inspect fun whole => (next (part.get whole)).within part
  | .update transform next =>
      .update (fun whole => part.set (transform (part.get whole)) whole) (next.within part)
  | .await operation resume => .await operation fun reply => (resume reply).within part

/-- No step of the other parties breaks the condition. -/
def Environment.Stable (environment : Environment Whole Op Reply Error Background Choice)
    (holds : Whole → Prop) : Prop :=
  ∀ action before after, environment.background action before = some after →
    holds before → holds after

namespace Coroutine

/-- `during` holds at every suspension point, and the task ends as `post` says. -/
def Sustains (environment : Environment Whole Op Reply Error Background Choice)
    (part : Part Whole Piece) (during : Op → Whole → Prop)
    (post : Except Error Result → Whole → Prop) :
    Coroutine Piece Op Reply Error Result → Whole → Prop
  | .done outcome, whole => post outcome whole
  | .inspect next, whole => Sustains environment part during post (next (part.get whole)) whole
  | .update transform next, whole => Sustains environment part during post next
      (part.set (transform (part.get whole)) whole)
  | .await operation resume, whole =>
      ∃ holds : Whole → Prop, environment.Stable holds ∧
        holds (environment.enter operation whole) ∧
        (∀ later, holds later → during operation later) ∧
        ∀ later choice reply after, holds later →
          environment.answer operation choice later = some (reply, after) →
            Sustains environment part during post (resume reply) after

namespace Sustains

variable {environment : Environment Whole Op Reply Error Background Choice}
variable {part : Part Whole Piece} {during : Op → Whole → Prop}
variable {post : Except Error Result → Whole → Prop}

theorem weaken {stronger : Except Error Result → Whole → Prop}
    {code : Coroutine Piece Op Reply Error Result} {whole : Whole}
    (sustains : code.Sustains environment part during stronger whole)
    (implies : ∀ outcome later, stronger outcome later → post outcome later) :
    code.Sustains environment part during post whole := by
  induction code generalizing whole with
  | done outcome => exact implies outcome whole sustains
  | inspect next induction => exact induction (part.get whole) sustains
  | update transform next induction => exact induction sustains
  | await operation resume induction =>
      rcases sustains with ⟨holds, stable, entered, suspended, resumes⟩
      refine ⟨holds, stable, entered, suspended, ?_⟩
      intro later choice reply after allowed answered
      exact induction reply (resumes later choice reply after allowed answered)

theorem bind {first : Coroutine Piece Op Reply Error Value}
    {rest : Value → Coroutine Piece Op Reply Error Result} {whole : Whole}
    (sustains : first.Sustains environment part during (fun outcome later => match outcome with
      | .ok value => (rest value).Sustains environment part during post later
      | .error error => post (.error error) later) whole) :
    (first >>= rest).Sustains environment part during post whole := by
  induction first generalizing whole with
  | done outcome =>
      cases outcome with
      | ok value => exact sustains
      | error error => exact sustains
  | inspect next induction => exact induction (part.get whole) sustains
  | update transform next induction => exact induction sustains
  | await operation resume induction =>
      rcases sustains with ⟨holds, stable, entered, suspended, resumes⟩
      refine ⟨holds, stable, entered, suspended, ?_⟩
      intro later choice reply after allowed answered
      exact induction reply (resumes later choice reply after allowed answered)

theorem tryCatch {body : Coroutine Piece Op Reply Error Result}
    {handler : Error → Coroutine Piece Op Reply Error Result} {whole : Whole}
    (sustains : body.Sustains environment part during (fun outcome later => match outcome with
      | .ok value => post (.ok value) later
      | .error error => (handler error).Sustains environment part during post later) whole) :
    (tryCatch body handler).Sustains environment part during post whole := by
  induction body generalizing whole with
  | done outcome =>
      cases outcome with
      | ok value => exact sustains
      | error error => exact sustains
  | inspect next induction => exact induction (part.get whole) sustains
  | update transform next induction => exact induction sustains
  | await operation resume induction =>
      rcases sustains with ⟨holds, stable, entered, suspended, resumes⟩
      refine ⟨holds, stable, entered, suspended, ?_⟩
      intro later choice reply after allowed answered
      exact induction reply (resumes later choice reply after allowed answered)

theorem tryFinally {body : Coroutine Piece Op Reply Error Result}
    {cleanup : Coroutine Piece Op Reply Error Unit} {whole : Whole}
    (sustains : body.Sustains environment part during (fun outcome later =>
      cleanup.Sustains environment part during (fun cleaned last => match cleaned with
        | .ok _ => post outcome last
        | .error error => post (.error error) last) later) whole) :
    (tryFinally body cleanup).Sustains environment part during post whole := by
  have cleaned (outcome : Except Error Result) (later : Whole)
      (ends : cleanup.Sustains environment part during (fun cleaned last => match cleaned with
        | .ok _ => post outcome last
        | .error error => post (.error error) last) later) :
      (cleanup >>= fun _ =>
          (Coroutine.ofExcept outcome : Coroutine Piece Op Reply Error Result)).Sustains
        environment part during post later := by
    apply bind
    apply ends.weaken
    intro outcome last holds
    cases outcome with
    | ok _ => exact holds
    | error error => exact holds
  apply bind
  apply tryCatch
  apply bind
  apply sustains.weaken
  intro outcome later ends
  cases outcome with
  | ok value => exact cleaned (.ok value) later ends
  | error error => exact cleaned (.error error) later ends

end Sustains

/-! ## Adequacy -/

/-- A task at a suspension point or at its end, as the proof expects it. -/
def RestsWithin (environment : Environment Whole Op Reply Error Background Choice)
    (part : Part Whole Piece) (during : Op → Whole → Prop)
    (post : Except Error Result → Whole → Prop) (task : Task Whole Op Reply Error Result) : Prop :=
  (∃ outcome, task.code = .done outcome ∧ post outcome task.state) ∨
    ∃ (operation : Op) (resume : Except Error (Reply operation) →
        Coroutine Piece Op Reply Error Result) (holds : Whole → Prop),
      task.code = (Coroutine.await operation resume).within part ∧
        environment.Stable holds ∧ holds task.state ∧
        (∀ later, holds later → during operation later) ∧
        ∀ later choice reply after, holds later →
          environment.answer operation choice later = some (reply, after) →
            (resume reply).Sustains environment part during post after

variable {environment : Environment Whole Op Reply Error Background Choice}
variable {part : Part Whole Piece} {during : Op → Whole → Prop}
variable {post : Except Error Result → Whole → Prop}

theorem Sustains.settle {code : Coroutine Piece Op Reply Error Result} {whole : Whole}
    (sustains : code.Sustains environment part during post whole) :
    RestsWithin environment part during post (environment.settle (code.within part) whole) := by
  induction code generalizing whole with
  | done outcome => exact .inl ⟨outcome, rfl, sustains⟩
  | inspect next induction => exact induction (part.get whole) sustains
  | update transform next induction => exact induction sustains
  | await operation resume induction =>
      rcases sustains with ⟨holds, stable, entered, suspended, resumes⟩
      exact .inr ⟨operation, resume, holds, rfl, stable, entered, suspended, resumes⟩

theorem RestsWithin.step {task next : Task Whole Op Reply Error Result}
    {event : Event Background Choice} (stable : ∀ outcome, environment.Stable (post outcome))
    (rests : RestsWithin environment part during post task)
    (stepped : environment.step task event = some next) :
    RestsWithin environment part during post next := by
  rcases task with ⟨code, state⟩
  rcases rests with ⟨outcome, isDone, ends⟩ | ⟨operation, resume, holds, waits, keeps, allowed,
    suspended, resumes⟩
  · cases isDone
    cases event with
    | background action =>
        rcases Option.map_eq_some_iff.mp stepped with ⟨after, moved, equal⟩
        subst equal
        exact .inl ⟨outcome, rfl, stable outcome action state after moved ends⟩
    | resume choice => cases stepped
  · cases waits
    cases event with
    | background action =>
        rcases Option.map_eq_some_iff.mp stepped with ⟨after, moved, equal⟩
        subst equal
        exact .inr ⟨operation, resume, holds, rfl, keeps, keeps action state after moved allowed,
          suspended, resumes⟩
    | resume choice =>
        rcases Option.map_eq_some_iff.mp stepped with ⟨⟨reply, after⟩, answered, equal⟩
        subst equal
        exact (resumes state choice reply after allowed answered).settle

/-- Whatever happens, `during` holds while the task waits, and it ends as `post` says. -/
theorem Sustains.run {code : Coroutine Piece Op Reply Error Result} {whole : Whole}
    (sustains : code.Sustains environment part during post whole)
    (stable : ∀ outcome, environment.Stable (post outcome))
    {events : List (Event Background Choice)} {task : Task Whole Op Reply Error Result}
    (reached : environment.run (environment.settle (code.within part) whole) events = some task) :
    RestsWithin environment part during post task := by
  have rests := sustains.settle
  generalize environment.settle (code.within part) whole = start at reached rests
  induction events generalizing start with
  | nil =>
      cases reached
      exact rests
  | cons event events induction =>
      rw [environment.run_cons] at reached
      rcases Option.bind_eq_some_iff.mp reached with ⟨next, stepped, rest⟩
      exact induction next rest (rests.step stable stepped)

end Coroutine

end Foundation
