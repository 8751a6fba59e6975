import SmartblindsBle.Foundation.CoroutineRuns

/-! # Conditions on steps, and reasoning from a view

An `Admission` says which scheduling decisions a class of runs consists of. A
run whose steps are all admitted is a run of the restricted environment, and a
task is reasoned about there in terms of what it sees of the state: a view that
the other tasks leave alone, and a condition that they keep.
-/

namespace Foundation

variable {State Op Error Background Choice Result Value View : Type} {Reply : Op → Type}

/-! ## Admitted steps -/

/-- The steps of the other tasks, and the answers to an operation, that may be
taken in a state. -/
structure Admission (State Op Background Choice : Type) where
  background : Background → State → Prop
  answer : Op → Choice → State → Prop

namespace Admission

/-- Whether a scheduling decision is admitted for a task. -/
def Meets (admission : Admission State Op Background Choice)
    (task : Task State Op Reply Error Result) : Event Background Choice → Prop
  | .background action => admission.background action task.state
  | .resume choice =>
      match task.code with
      | .await operation _ => admission.answer operation choice task.state
      | _ => True

/-- Steps that meet both conditions. -/
def both (first second : Admission State Op Background Choice) :
    Admission State Op Background Choice where
  background action state := first.background action state ∧ second.background action state
  answer operation choice state :=
    first.answer operation choice state ∧ second.answer operation choice state

instance {first second : Admission State Op Background Choice} (action : Background)
    (state : State) [Decidable (first.background action state)]
    [Decidable (second.background action state)] :
    Decidable ((first.both second).background action state) :=
  inferInstanceAs (Decidable (_ ∧ _))

instance {first second : Admission State Op Background Choice} (operation : Op) (choice : Choice)
    (state : State) [Decidable (first.answer operation choice state)]
    [Decidable (second.answer operation choice state)] :
    Decidable ((first.both second).answer operation choice state) :=
  inferInstanceAs (Decidable (_ ∧ _))

end Admission

namespace Environment

variable (environment : Environment State Op Reply Error Background Choice)

/-- Every step of a run is admitted where it is taken. -/
def EveryStep (admission : Admission State Op Background Choice)
    (task : Task State Op Reply Error Result) : List (Event Background Choice) → Prop
  | [] => True
  | event :: events => admission.Meets task event ∧
      ∀ next, environment.step task event = some next → EveryStep admission next events

open Classical in
/-- Only the admitted steps are enabled. -/
noncomputable def restrict (admission : Admission State Op Background Choice) :
    Environment State Op Reply Error Background Choice where
  enter := environment.enter
  background action state :=
    if admission.background action state then environment.background action state else none
  answer operation choice state :=
    if admission.answer operation choice state then environment.answer operation choice state
    else none

variable {environment} {admission : Admission State Op Background Choice}

theorem restrict_background {action : Background} {state after : State} :
    (environment.restrict admission).background action state = some after ↔
      admission.background action state ∧ environment.background action state = some after := by
  rw [restrict, Option.ite_none_right_eq_some]

theorem restrict_answer {operation : Op} {choice : Choice} {state after : State}
    {reply : Except Error (Reply operation)} :
    (environment.restrict admission).answer operation choice state = some (reply, after) ↔
      admission.answer operation choice state ∧
        environment.answer operation choice state = some (reply, after) := by
  rw [restrict, Option.ite_none_right_eq_some]

theorem EveryStep.both {other : Admission State Op Background Choice}
    {task : Task State Op Reply Error Result} {events : List (Event Background Choice)}
    (first : environment.EveryStep admission task events)
    (second : environment.EveryStep other task events) :
    environment.EveryStep (admission.both other) task events := by
  induction events generalizing task with
  | nil => trivial
  | cons event events induction =>
      constructor
      · cases event with
        | background action => exact ⟨first.1, second.1⟩
        | resume choice =>
            rcases task with ⟨code, state⟩
            cases code with
            | await operation resume => exact ⟨first.1, second.1⟩
            | _ => trivial
      · intro next stepped
        exact induction (first.2 next stepped) (second.2 next stepped)

theorem EveryStep.mono {weaker : Admission State Op Background Choice}
    (background : ∀ action state, admission.background action state →
      weaker.background action state)
    (answer : ∀ operation choice state, admission.answer operation choice state →
      weaker.answer operation choice state)
    {task : Task State Op Reply Error Result} {events : List (Event Background Choice)}
    (every : environment.EveryStep admission task events) :
    environment.EveryStep weaker task events := by
  induction events generalizing task with
  | nil => trivial
  | cons event events induction =>
      constructor
      · cases event with
        | background action => exact background action task.state every.1
        | resume choice =>
            rcases task with ⟨code, state⟩
            cases code with
            | await operation resume => exact answer operation choice state every.1
            | _ => trivial
      · intro next stepped
        exact induction (every.2 next stepped)

/-- Whether every step is admitted can be computed. -/
instance decidableEveryStep [∀ action state, Decidable (admission.background action state)]
    [∀ operation choice state, Decidable (admission.answer operation choice state)] :
    (task : Task State Op Reply Error Result) → (events : List (Event Background Choice)) →
    Decidable (environment.EveryStep admission task events)
  | _, [] => .isTrue trivial
  | task, event :: events =>
      let _ : Decidable (admission.Meets task event) :=
        match event with
        | .background action =>
            inferInstanceAs (Decidable (admission.background action task.state))
        | .resume choice =>
            match task with
            | ⟨.await operation _, state⟩ =>
                inferInstanceAs (Decidable (admission.answer operation choice state))
            | ⟨.done _, _⟩ | ⟨.inspect _, _⟩ | ⟨.update _ _, _⟩ => .isTrue trivial
      match enabled : environment.step task event with
      | none => decidable_of_iff (admission.Meets task event)
          ⟨fun meets => ⟨meets, fun _ impossible => nomatch enabled.symm.trans impossible⟩,
            fun every => every.1⟩
      | some next =>
          let _ : Decidable (environment.EveryStep admission next events) :=
            decidableEveryStep next events
          decidable_of_iff
            (admission.Meets task event ∧ environment.EveryStep admission next events)
            ⟨fun both => ⟨both.1, fun _ same => Option.some.inj (enabled.symm.trans same) ▸ both.2⟩,
              fun every => ⟨every.1, every.2 next enabled⟩⟩

@[simp] theorem restrict_settle (code : Coroutine State Op Reply Error Result) (state : State) :
    (environment.restrict admission).settle code state = environment.settle code state := by
  induction code generalizing state with
  | done outcome => rfl
  | inspect next induction => exact induction state state
  | update transform next induction => exact induction (transform state)
  | await operation resume induction => rfl

theorem restrict_step {task : Task State Op Reply Error Result}
    {event : Event Background Choice} (meets : admission.Meets task event) :
    (environment.restrict admission).step task event = environment.step task event := by
  cases event with
  | background action => exact congrArg (Option.map _) (if_pos meets)
  | resume choice =>
      rcases task with ⟨code, state⟩
      cases code with
      | await operation resume =>
          rw [step_resume, step_resume]
          simp only [restrict_settle]
          exact congrArg (Option.map _) (if_pos meets)
      | _ => rfl

/-- A run of admitted steps is a run of the restricted environment. -/
theorem EveryStep.restrict_run {task : Task State Op Reply Error Result}
    {events : List (Event Background Choice)}
    (every : environment.EveryStep admission task events) :
    (environment.restrict admission).run task events = environment.run task events := by
  induction events generalizing task with
  | nil => rfl
  | cons event events induction =>
      rw [run_cons, run_cons, restrict_step every.1]
      cases stepped : environment.step task event with
      | none => rfl
      | some next => exact induction (every.2 next stepped)

end Environment

/-! ## Reasoning from a view -/

/-- What a task sees of the state, and the condition that the other tasks keep. -/
structure Viewpoint (State Op : Type) (Reply : Op → Type)
    (Error Background Choice View : Type) where
  environment : Environment State Op Reply Error Background Choice
  view : State → View
  sound : State → Prop
  sameView : ∀ action before after, environment.background action before = some after →
    view after = view before
  keepsSound : ∀ action before after, environment.background action before = some after →
    sound before → sound after

namespace Viewpoint

def rely (viewpoint : Viewpoint State Op Reply Error Background Choice View) :
    Interference State where
  Allows before after := viewpoint.view after = viewpoint.view before ∧
    (viewpoint.sound before → viewpoint.sound after)
  refl _ := ⟨rfl, id⟩
  trans first second := ⟨second.1.trans first.1, second.2 ∘ first.2⟩

/-- Started in a sound state with this view, the task ends in a sound state and
as `ends` says of its outcome and its view. -/
def Follows (viewpoint : Viewpoint State Op Reply Error Background Choice View)
    (code : Coroutine State Op Reply Error Result) (start : View)
    (ends : Except Error Result → View → Prop) : Prop :=
  ∀ state, viewpoint.view state = start → viewpoint.sound state →
    code.Ensures viewpoint.environment viewpoint.rely (fun _ => True)
      (fun outcome later => viewpoint.sound later ∧ ends outcome (viewpoint.view later)) state

variable {viewpoint : Viewpoint State Op Reply Error Background Choice View}

namespace Follows

variable {start : View} {ends : Except Error Result → View → Prop}

theorem weaken {code : Coroutine State Op Reply Error Result}
    {weaker : Except Error Result → View → Prop} (follows : viewpoint.Follows code start ends)
    (implies : ∀ outcome later, ends outcome later → weaker outcome later) :
    viewpoint.Follows code start weaker := by
  intro state same sound
  apply (follows state same sound).weaken
  intro outcome later holds
  exact ⟨holds.1, implies outcome _ holds.2⟩

theorem done {outcome : Except Error Result} (holds : ends outcome start) :
    viewpoint.Follows (.done outcome) start ends := by
  intro state same sound later allowed
  have sameLater : viewpoint.view later = start := allowed.1.trans same
  refine ⟨trivial, allowed.2 sound, ?_⟩
  rw [sameLater]
  exact holds

theorem inspect {next : State → Coroutine State Op Reply Error Result}
    (follows : ∀ state, viewpoint.view state = start →
      viewpoint.Follows (next state) start ends) :
    viewpoint.Follows (.inspect next) start ends :=
  fun state same sound => follows state same state same sound

theorem update {transform : State → State} {next : Coroutine State Op Reply Error Result}
    (after : View) (changes : ∀ state, viewpoint.view state = start →
      viewpoint.view (transform state) = after)
    (sound : ∀ state, viewpoint.sound state → viewpoint.sound (transform state))
    (follows : viewpoint.Follows next after ends) :
    viewpoint.Follows (.update transform next) start ends :=
  fun state same isSound => follows (transform state) (changes state same) (sound state isSound)

/-- An operation whose beginning and whose answers change neither the view nor
the condition. -/
theorem await {operation : Op} {resume : Except Error (Reply operation) → _}
    (enters : ∀ state, viewpoint.view (viewpoint.environment.enter operation state) =
        viewpoint.view state ∧
      (viewpoint.sound state → viewpoint.sound (viewpoint.environment.enter operation state)))
    (follows : ∀ choice state reply after, viewpoint.view state = start →
      viewpoint.sound state →
      viewpoint.environment.answer operation choice state = some (reply, after) →
      viewpoint.view after = start ∧ viewpoint.sound after ∧
        viewpoint.Follows (resume reply) start ends) :
    viewpoint.Follows (.await operation resume) start ends := by
  intro state same sound later allowed
  constructor
  · trivial
  · intro choice reply after answered
    have sameLater : viewpoint.view later = start :=
      allowed.1.trans ((enters state).1.trans same)
    rcases follows choice later reply after sameLater (allowed.2 ((enters state).2 sound))
      answered with ⟨sameAfter, soundAfter, goesOn⟩
    exact goesOn after sameAfter soundAfter

theorem bind {first : Coroutine State Op Reply Error Value}
    {rest : Value → Coroutine State Op Reply Error Result}
    (follows : viewpoint.Follows first start fun outcome later => match outcome with
      | .ok value => viewpoint.Follows (rest value) later ends
      | .error error => ends (.error error) later) :
    viewpoint.Follows (first >>= rest) start ends := by
  intro state same sound
  apply Coroutine.Ensures.bind
  apply (follows state same sound).weaken
  intro outcome later holds
  cases outcome with
  | ok value => exact holds.2 later rfl holds.1
  | error error => exact holds

theorem tryCatch {body : Coroutine State Op Reply Error Result}
    {handler : Error → Coroutine State Op Reply Error Result}
    (follows : viewpoint.Follows body start fun outcome later => match outcome with
      | .ok value => ends (.ok value) later
      | .error error => viewpoint.Follows (handler error) later ends) :
    viewpoint.Follows (tryCatch body handler) start ends := by
  intro state same sound
  apply Coroutine.Ensures.tryCatch
  apply (follows state same sound).weaken
  intro outcome later holds
  cases outcome with
  | ok value => exact holds
  | error error => exact holds.2 later rfl holds.1

theorem tryFinally {body : Coroutine State Op Reply Error Result}
    {cleanup : Coroutine State Op Reply Error Unit}
    (follows : viewpoint.Follows body start fun outcome later =>
      viewpoint.Follows cleanup later fun cleaned last => match cleaned with
        | .ok _ => ends outcome last
        | .error error => ends (.error error) last) :
    viewpoint.Follows (tryFinally body cleanup) start ends := by
  intro state same sound
  apply Coroutine.Ensures.tryFinally
  apply (follows state same sound).weaken
  intro outcome later holds
  apply (holds.2 later rfl holds.1).weaken
  intro cleaned last after
  cases cleaned with
  | ok _ => exact after
  | error error => exact after

theorem ite {condition : Prop} [Decidable condition]
    {first second : Coroutine State Op Reply Error Result}
    (firstFollows : condition → viewpoint.Follows first start ends)
    (secondFollows : ¬condition → viewpoint.Follows second start ends) :
    viewpoint.Follows (if condition then first else second) start ends := by
  split
  · next holds => exact firstFollows holds
  · next fails => exact secondFollows fails

end Follows

end Viewpoint

end Foundation
