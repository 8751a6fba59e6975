import SmartblindsBle.Tilt.History
import SmartblindsBle.Tilt.Transcript

/-! # Conversations

Any calls on one session, one after another. The code that holds the session
may go on after an exception, as the readback of a position write does.
-/

namespace SmartblindsBle

open Foundation

/-- What the code that holds a session does with it: a call, or a pause. -/
inductive SessionRequest
  | readStatus
  | setPosition (positionPercent : PythonValue)
  | pause (seconds : Rat)

namespace TiltBleSession

variable (primitives : CryptoPrimitives) (key : PairingKey)

def perform : SessionRequest → Async Unit
  | .readStatus => do
      let _ ← readStatus primitives key
      pure ()
  | .setPosition positionPercent => setPosition primitives key positionPercent
  | .pause seconds => await (.sleep seconds)

def performAll : List SessionRequest → Async Unit
  | [] => pure ()
  | request :: requests => do
      tryCatch (perform primitives key request) (fun _ => pure ())
      performAll requests

def conversation (requests : List SessionRequest) : Async Unit := do
  authenticate primitives key
  performAll primitives key requests

variable {primitives key} {network : Network} {during between : CallerView → Prop}

/-- The calls of a conversation. -/
inductive IsCall : {Result : Type} → SessionCall primitives key Result → Prop
  | readStatus : IsCall (statusCall primitives key)
  | setPosition (positionPercent : PythonValue) :
      IsCall (positionCall primitives key positionPercent)

/-- A conversation has the properties of its calls, while they run and between them. -/
theorem performAll_behaves (always : ∀ view, between view → during view)
    (calling : ∀ {Result : Type} {call : SessionCall primitives key Result} {start later},
      IsCall call → between start → Calling network call start later → during later)
    (ended : ∀ {Result : Type} {call : SessionCall primitives key Result} {outcome start later},
      IsCall call → between start → CallEnds network call start outcome later → between later)
    (requests : List SessionRequest) {view : CallerView} (holds : between view) :
    Behaves network (performAll primitives key requests) view during
      (fun _ later => between later) := by
  have performs : ∀ {view} request, between view → Behaves network
      (perform primitives key request) view during (fun _ later => between later) := by
    intro view request holds
    cases request with
    | readStatus =>
        refine Behaves.bind ((readStatus_behaves view).mono
          (fun later => calling .readStatus holds) ?_)
        rintro (error | status) later ends
        · exact ended .readStatus holds ends
        · have holdsLater := ended .readStatus holds ends
          exact Behaves.done (always later holdsLater) holdsLater
    | setPosition positionPercent =>
        exact (setPosition_behaves positionPercent view).mono
          (fun later => calling (.setPosition positionPercent) holds)
          fun outcome later => ended (.setPosition positionPercent) holds
    | pause seconds => exact sleep_behaves (always view holds) holds
  induction requests generalizing view with
  | nil => exact Behaves.done (always view holds) holds
  | cons request requests induction =>
      refine Behaves.bind (Behaves.tryCatch ((performs request holds).mono (fun _ => id) ?_))
      rintro (error | ⟨⟩) later holdsLater
      · exact Behaves.done (always later holdsLater) (induction holdsLater)
      · exact induction holdsLater

theorem performAll_keeps {invariant : CallerView → Prop}
    (calling : ∀ {Result : Type} {call : SessionCall primitives key Result} {start later},
      invariant start → Calling network call start later → invariant later)
    (requests : List SessionRequest) {view : CallerView} (holds : invariant view) :
    Keeps network (performAll primitives key requests) invariant view :=
  performAll_behaves (fun _ => id) (fun _ => calling)
    (fun _ start ends => calling start ends.calling) requests holds

end TiltBleSession

end SmartblindsBle
