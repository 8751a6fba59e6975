import SmartblindsBle.Foundation.Pools

/-! # Assertions about the tasks of a pool

`Coroutine.Assures` is the triple of rely-guarantee reasoning: a task that starts
where `pre` holds guarantees what it does to the shared state, as long as the
others stay within what it relies on, and it ends as `post` says. A run whose
steps are all admitted is a run of the restricted pool.
-/

namespace Foundation

variable {Index State Op Error Background Choice Result Value : Type} {Reply : Op → Type}

namespace Coroutine

/-- Started where `pre` holds, the task keeps its guarantee and ends as `post` says. -/
def Assures (environment : Environment State Op Reply Error Background Choice)
    (rely guarantee : Interference State) (pre : State → Prop)
    (code : Coroutine State Op Reply Error Result) (post : Except Error Result → State → Prop) :
    Prop :=
  ∀ origin state, guarantee.Allows origin state → pre state →
    code.Upholds environment rely guarantee.Allows
      (fun outcome first last => guarantee.Allows first last ∧ post outcome last) origin state

namespace Assures

variable {environment : Environment State Op Reply Error Background Choice}
variable {rely guarantee : Interference State} {pre : State → Prop}
variable {post : Except Error Result → State → Prop}

theorem done {outcome : Except Error Result} (ends : ∀ state, pre state → post outcome state) :
    (Coroutine.done outcome : Coroutine State Op Reply Error Result).Assures environment rely
      guarantee pre post := by
  intro origin state guaranteed holds
  exact ⟨guaranteed, ends state holds⟩

theorem weaken {weaker : Except Error Result → State → Prop}
    {code : Coroutine State Op Reply Error Result}
    (assures : code.Assures environment rely guarantee pre post)
    (implies : ∀ outcome state, post outcome state → weaker outcome state) :
    code.Assures environment rely guarantee pre weaker := by
  intro origin state guaranteed holds
  apply (assures origin state guaranteed holds).weaken
  intro outcome first last ends
  exact ⟨ends.1, implies outcome last ends.2⟩

theorem only {stronger : State → Prop} {code : Coroutine State Op Reply Error Result}
    (assures : code.Assures environment rely guarantee pre post)
    (implies : ∀ state, stronger state → pre state) :
    code.Assures environment rely guarantee stronger post := by
  intro origin state guaranteed holds
  exact assures origin state guaranteed (implies state holds)

theorem bind {middle : Except Error Value → State → Prop}
    {first : Coroutine State Op Reply Error Value}
    {rest : Value → Coroutine State Op Reply Error Result}
    (assures : first.Assures environment rely guarantee pre middle)
    (continues : ∀ value,
      (rest value).Assures environment rely guarantee (middle (.ok value)) post)
    (raises : ∀ error state, middle (.error error) state → post (.error error) state) :
    (first >>= rest).Assures environment rely guarantee pre post := by
  intro origin state guaranteed holds
  apply Upholds.bind
  apply (assures origin state guaranteed holds).weaken
  intro outcome first last ends
  cases outcome with
  | ok value => exact continues value first last ends.1 ends.2
  | error error => exact ⟨ends.1, raises error last ends.2⟩

theorem chain {stage : State → Prop} {first : Coroutine State Op Reply Error Value}
    {rest : Value → Coroutine State Op Reply Error Result}
    (assures : first.Assures environment rely guarantee pre fun _ => stage)
    (continues : ∀ value,
      (rest value).Assures environment rely guarantee stage fun _ => stage) :
    (first >>= rest).Assures environment rely guarantee pre fun _ => stage :=
  bind assures continues fun _ _ holds => holds

theorem remains {stage : State → Prop} (outcome : Except Error Result) :
    (Coroutine.done outcome : Coroutine State Op Reply Error Result).Assures environment rely
      guarantee stage fun _ => stage :=
  done fun _ holds => holds

theorem tryCatch {middle : Except Error Result → State → Prop}
    {body : Coroutine State Op Reply Error Result}
    {handler : Error → Coroutine State Op Reply Error Result}
    (assures : body.Assures environment rely guarantee pre middle)
    (returns : ∀ value state, middle (.ok value) state → post (.ok value) state)
    (handles : ∀ error,
      (handler error).Assures environment rely guarantee (middle (.error error)) post) :
    (tryCatch body handler).Assures environment rely guarantee pre post := by
  intro origin state guaranteed holds
  apply Upholds.tryCatch
  apply (assures origin state guaranteed holds).weaken
  intro outcome first last ends
  cases outcome with
  | ok value => exact ⟨ends.1, returns value last ends.2⟩
  | error error => exact handles error first last ends.1 ends.2

theorem tryFinally {middle : Except Error Result → State → Prop}
    {body : Coroutine State Op Reply Error Result}
    {cleanup : Coroutine State Op Reply Error Unit}
    (assures : body.Assures environment rely guarantee pre middle)
    (cleans : ∀ outcome, cleanup.Assures environment rely guarantee (middle outcome)
      (fun cleaned state => match cleaned with
        | .ok _ => post outcome state
        | .error error => post (.error error) state)) :
    (tryFinally body cleanup).Assures environment rely guarantee pre post := by
  intro origin state guaranteed holds
  apply Upholds.tryFinally
  apply (assures origin state guaranteed holds).weaken
  intro outcome first last ends
  apply (cleans outcome first last ends.1 ends.2).weaken
  intro cleaned origin state cleaned?
  cases cleaned with
  | ok _ => exact cleaned?
  | error error => exact cleaned?

theorem modify {transform : State → State} {post : Except Error Unit → State → Prop}
    (moves : ∀ state, pre state →
      guarantee.Allows state (transform state) ∧ post (.ok ()) (transform state)) :
    (Coroutine.modify transform : Coroutine State Op Reply Error Unit).Assures environment rely
      guarantee pre post := by
  intro origin state guaranteed holds
  rcases moves state holds with ⟨allowed, ends⟩
  exact ⟨guarantee.trans guaranteed allowed, ends⟩

theorem current {post : Except Error State → State → Prop}
    (reads : ∀ state, pre state → post (.ok state) state) :
    (Coroutine.current : Coroutine State Op Reply Error State).Assures environment rely
      guarantee pre post := by
  intro origin state guaranteed holds
  exact ⟨guaranteed, reads state holds⟩

/-- A suspension: `during` holds from its beginning on, whatever the others do. -/
theorem perform {operation : Op} {during : State → Prop}
    {post : Except Error (Reply operation) → State → Prop}
    (enters : ∀ state, pre state → guarantee.Allows state (environment.enter operation state) ∧
      during (environment.enter operation state))
    (stable : ∀ state later, during state → rely.Allows state later → during later)
    (answers : ∀ later choice reply after, during later →
      environment.answer operation choice later = some (reply, after) →
        guarantee.Allows later after ∧ post reply after) :
    (Coroutine.perform operation : Coroutine State Op Reply Error (Reply operation)).Assures
      environment rely guarantee pre post := by
  intro origin state guaranteed holds
  rcases enters state holds with ⟨allowed, entered⟩
  constructor
  · exact guarantee.trans guaranteed allowed
  · intro later relied choice reply after answered
    exact answers later choice reply after (stable _ later entered relied) answered

theorem settle {code : Coroutine State Op Reply Error Result} {state : State}
    (assures : code.Assures environment rely guarantee pre fun _ _ => True) (holds : pre state) :
    (environment.settle code state).code.Waits environment rely guarantee.Allows
      (environment.settle code state).state := by
  have upholds := (assures state state (guarantee.refl state) holds).weaken
    (fun _ _ _ ends => ends.1)
  exact upholds.settle.2

end Assures

end Coroutine

/-! ## Admitted steps -/

open Classical in
/-- Only the admitted choices resume a task. -/
noncomputable def PoolEnvironment.restrict
    (environment : PoolEnvironment Index State Op Reply Error Background Choice)
    (admits : Index → Choice → State → Prop) :
    PoolEnvironment Index State Op Reply Error Background Choice where
  enter := environment.enter
  background := environment.background
  answer index operation choice state :=
    if admits index choice state then environment.answer index operation choice state else none

namespace Pool

variable [DecidableEq Index]
variable {environment : PoolEnvironment Index State Op Reply Error Background Choice}
variable {admits : Index → Choice → State → Prop}

/-- Whether a scheduling decision is admitted in a state. -/
def Admitted (admits : Index → Choice → State → Prop) (state : State) :
    PoolEvent Index Background Choice → Prop
  | .background _ => True
  | .resume index choice => admits index choice state

/-- Every step of a run is admitted where it is taken. -/
def EveryStep (environment : PoolEnvironment Index State Op Reply Error Background Choice)
    (admits : Index → Choice → State → Prop) (pool : Pool Index State Op Reply Error Result) :
    List (PoolEvent Index Background Choice) → Prop
  | [] => True
  | event :: events => Admitted admits pool.state event ∧
      ∀ next, pool.step environment event = some next → EveryStep environment admits next events

/-- Whether every step is admitted can be computed. -/
instance decidableEveryStep [∀ index choice state, Decidable (admits index choice state)] :
    (pool : Pool Index State Op Reply Error Result) →
    (events : List (PoolEvent Index Background Choice)) →
    Decidable (EveryStep environment admits pool events)
  | _, [] => .isTrue trivial
  | pool, event :: events =>
      let _ : Decidable (Admitted admits pool.state event) :=
        match event with
        | .background _ => .isTrue trivial
        | .resume index choice => inferInstanceAs (Decidable (admits index choice pool.state))
      match enabled : pool.step environment event with
      | none => decidable_of_iff (Admitted admits pool.state event)
          ⟨fun admitted => ⟨admitted, fun _ impossible => nomatch enabled.symm.trans impossible⟩,
            fun every => every.1⟩
      | some next =>
          let _ : Decidable (EveryStep environment admits next events) :=
            decidableEveryStep next events
          decidable_of_iff
            (Admitted admits pool.state event ∧ EveryStep environment admits next events)
            ⟨fun both => ⟨both.1, fun _ same => Option.some.inj (enabled.symm.trans same) ▸ both.2⟩,
              fun every => ⟨every.1, every.2 next enabled⟩⟩

omit [DecidableEq Index] in
@[simp] theorem restrict_settle (index : Index) (code : Coroutine State Op Reply Error Result)
    (state : State) :
    ((environment.restrict admits).view index).settle code state =
      (environment.view index).settle code state := by
  induction code generalizing state with
  | done outcome => rfl
  | inspect next induction => exact induction state state
  | update transform next induction => exact induction (transform state)
  | await operation resume induction => rfl

omit [DecidableEq Index] in
theorem restrict_resume {index : Index} {choice : Choice}
    {task : Task State Op Reply Error Result} (admitted : admits index choice task.state) :
    ((environment.restrict admits).view index).step task (.resume choice) =
      (environment.view index).step task (.resume choice) := by
  rcases task with ⟨code, state⟩
  cases code with
  | await operation resume =>
      rw [Environment.step_resume, Environment.step_resume]
      simp only [restrict_settle]
      exact congrArg (Option.map _) (if_pos admitted)
  | _ => rfl

theorem restrict_step {pool : Pool Index State Op Reply Error Result}
    {event : PoolEvent Index Background Choice} (admitted : Admitted admits pool.state event) :
    pool.step (environment.restrict admits) event = pool.step environment event := by
  cases event with
  | background action => rfl
  | resume index choice =>
      have task : admits index choice (pool.task index).state := admitted
      rw [Pool.step, Pool.step, restrict_resume task]

theorem EveryStep.restrict_run {pool : Pool Index State Op Reply Error Result}
    {events : List (PoolEvent Index Background Choice)}
    (every : EveryStep environment admits pool events) :
    pool.run (environment.restrict admits) events = pool.run environment events := by
  induction events generalizing pool with
  | nil => rfl
  | cons event events induction =>
      rw [run, run, restrict_step every.1]
      cases stepped : pool.step environment event with
      | none => rfl
      | some next => exact induction (every.2 next stepped)

end Pool

end Foundation
