import Mathlib.Data.List.Forall2
import SmartblindsBle.Foundation.Json

/-! # Two runs

Two runs of a program on inputs that agree in what may be seen. Their results are
compared by a relation; a failure agrees with the same failure only.
-/

namespace Foundation

/-! ## Results -/

variable {Error Value Other Result OtherResult : Type}

inductive ResultsAgree (agree : Value → Other → Prop) :
    Except Error Value → Except Error Other → Prop
  | ok {value : Value} {other : Other} (agrees : agree value other) :
      ResultsAgree agree (.ok value) (.ok other)
  | error (error : Error) : ResultsAgree agree (.error error) (.error error)

namespace ResultsAgree

theorem refl {agree : Value → Value → Prop} (reflexive : ∀ value, agree value value)
    (result : Except Error Value) : ResultsAgree agree result result := by
  cases result with
  | error error => exact .error error
  | ok value => exact .ok (reflexive value)

theorem bind {agree : Value → Other → Prop} {later : Result → OtherResult → Prop}
    {run : Except Error Value} {otherRun : Except Error Other}
    {next : Value → Except Error Result} {otherNext : Other → Except Error OtherResult}
    (first : ResultsAgree agree run otherRun)
    (rest : ∀ value other, agree value other → ResultsAgree later (next value) (otherNext other)) :
    ResultsAgree later (run >>= next) (otherRun >>= otherNext) := by
  cases first with
  | ok agrees => exact rest _ _ agrees
  | error error => exact .error error

theorem eq {run other : Except Error Value} (agree : ResultsAgree Eq run other) :
    run = other := by
  cases agree with
  | ok same => rw [same]
  | error error => rfl

theorem of_eq {run other : Except Error Value} (same : run = other) :
    ResultsAgree Eq run other := by
  rw [same]
  exact refl (fun _ => rfl) other

end ResultsAgree

/-! ## Documents -/

/-- The same fields in the same order, of which some may have other values. -/
def FieldsAgree (mayDiffer : Text → Json → Json → Prop) :
    List (Text × Json) → List (Text × Json) → Prop :=
  List.Forall₂ fun field other =>
    field.1 = other.1 ∧ (field.2 = other.2 ∨ mayDiffer field.1 field.2 other.2)

/-- The same value, or objects with fields that agree. -/
inductive ObjectsAgree (mayDiffer : Text → Json → Json → Prop) : Json → Json → Prop
  | same (value : Json) : ObjectsAgree mayDiffer value value
  | dict {fields others : List (Text × Json)} (agree : FieldsAgree mayDiffer fields others) :
      ObjectsAgree mayDiffer (.dict fields) (.dict others)

/-- Lists of items that agree. -/
inductive ListsAgree (agree : Json → Json → Prop) : Json → Json → Prop
  | list {items others : List Json} (every : List.Forall₂ agree items others) :
      ListsAgree agree (.list items) (.list others)

variable {mayDiffer : Text → Json → Json → Prop}

namespace FieldsAgree

theorem names {fields others : List (Text × Json)} (agree : FieldsAgree mayDiffer fields others) :
    fields.map Prod.fst = others.map Prod.fst := by
  induction agree with
  | nil => rfl
  | cons first _ induction => rw [List.map_cons, List.map_cons, first.1, induction]

theorem valueOf {fields others : List (Text × Json)} (agree : FieldsAgree mayDiffer fields others)
    (name : Text) :
    Json.valueOf fields name = Json.valueOf others name ∨
      mayDiffer name (Json.valueOf fields name) (Json.valueOf others name) := by
  induction agree with
  | nil => exact .inl rfl
  | @cons field other fields others first _ induction =>
      rcases field with ⟨label, value⟩
      rcases other with ⟨otherLabel, otherValue⟩
      rcases first with ⟨rfl, agrees⟩
      by_cases found : name = label
      · subst found
        simpa [Json.valueOf, Json.valueOr] using agrees
      · have skipped : (name == label) = false := by simpa using found
        simpa [Json.valueOf, Json.valueOr, List.lookup_cons, skipped] using induction

theorem lookup_eq {fields others : List (Text × Json)}
    (agree : FieldsAgree mayDiffer fields others) (name : Text)
    (fixed : ∀ value other, ¬ mayDiffer name value other) :
    fields.lookup name = others.lookup name := by
  induction agree with
  | nil => rfl
  | @cons field other fields others first _ induction =>
      rcases field with ⟨label, value⟩
      rcases other with ⟨otherLabel, otherValue⟩
      rcases first with ⟨rfl, agrees⟩
      rw [List.lookup_cons, List.lookup_cons, induction]
      cases same : name == label with
      | false => rfl
      | true =>
          have isName : name = label := by simpa using same
          subst isName
          exact congrArg some (agrees.resolve_right (fixed _ _))

theorem valueOf_eq {fields others : List (Text × Json)}
    (agree : FieldsAgree mayDiffer fields others) (name : Text)
    (fixed : ∀ value other, ¬ mayDiffer name value other) :
    Json.valueOf fields name = Json.valueOf others name :=
  (agree.valueOf name).resolve_right (fixed _ _)

end FieldsAgree

end Foundation
