import Mathlib.Data.List.Basic
import Mathlib.Logic.Function.Basic

/-! # Interleaved inputs

A table holds one machine state for each key, and an input moves the state of its
key. On each key such a table behaves as the machine alone does on the inputs of
that key, however the inputs are interleaved.
-/

namespace Foundation

variable {Key State Item Output : Type}

/-! ## One machine -/

/-- The outputs of a machine along its inputs. -/
def outputs (step : State → Item → Output × State) (state : State) : List Item → List Output
  | [] => []
  | item :: items => (step state item).1 :: outputs step (step state item).2 items

/-- The state of a machine after its inputs. -/
def afterInputs (step : State → Item → Output × State) (state : State) (items : List Item) :
    State :=
  items.foldl (fun current item => (step current item).2) state

variable {step : State → Item → Output × State}

@[simp] theorem outputs_length (state : State) (items : List Item) :
    (outputs step state items).length = items.length := by
  induction items generalizing state with
  | nil => rfl
  | cons item items induction => rw [outputs, List.length_cons, induction, List.length_cons]

theorem outputs_append (state : State) (front back : List Item) :
    outputs step state (front ++ back) =
      outputs step state front ++ outputs step (afterInputs step state front) back := by
  induction front generalizing state with
  | nil => rfl
  | cons item front induction =>
      rw [List.cons_append, outputs, induction, outputs, List.cons_append]
      rfl

theorem outputs_map_congr {Source Other : Type} {other : State → Other → Output × State}
    {left : Source → Item} {right : Source → Other}
    (alike : ∀ state source, step state (left source) = other state (right source))
    (state : State) (sources : List Source) :
    outputs step state (sources.map left) = outputs other state (sources.map right) := by
  induction sources generalizing state with
  | nil => rfl
  | cons source sources induction =>
      rw [List.map_cons, List.map_cons, outputs, outputs, alike, induction]

theorem outputs_flatMap {Group : Type} {state : State} {inputs : Group → List Item}
    {expected : Group → List Output} {groups : List Group}
    (returns : ∀ group ∈ groups, outputs step state (inputs group) = expected group ∧
      afterInputs step state (inputs group) = state) :
    outputs step state (groups.flatMap inputs) = groups.flatMap expected := by
  induction groups with
  | nil => rfl
  | cons group groups induction =>
      rcases returns group (List.mem_cons_self ..) with ⟨first, same⟩
      have rest := induction fun other member => returns other (List.mem_cons_of_mem _ member)
      rw [List.flatMap_cons, outputs_append, first, same, rest, List.flatMap_cons]

/-! ## A table of machines -/

variable [DecidableEq Key]

/-- An input moves the state of its key. -/
def tableStep (step : State → Item → Output × State) (table : Key → State)
    (input : Key × Item) : Output × (Key → State) :=
  let moved := step (table input.1) input.2
  (moved.1, Function.update table input.1 moved.2)

/-- The inputs of one key. -/
def inputsOf (key : Key) (inputs : List (Key × Item)) : List Item :=
  (inputs.filter (·.1 = key)).map Prod.snd

@[simp] theorem inputsOf_nil (key : Key) : inputsOf key ([] : List (Key × Item)) = [] := rfl

theorem inputsOf_cons_self (key : Key) (item : Item) (inputs : List (Key × Item)) :
    inputsOf key ((key, item) :: inputs) = item :: inputsOf key inputs := by
  rw [inputsOf, List.filter_cons_of_pos (by simp)]
  rfl

theorem inputsOf_cons_other {key other : Key} (different : other ≠ key) (item : Item)
    (inputs : List (Key × Item)) :
    inputsOf key ((other, item) :: inputs) = inputsOf key inputs := by
  rw [inputsOf, List.filter_cons_of_neg (by simpa using different)]
  rfl

theorem inputsOf_pair {Outer : Type} [DecidableEq Outer] (outer : Outer) (key : Key)
    (inputs : List ((Outer × Key) × Item)) :
    inputsOf (outer, key) inputs =
      inputsOf key ((inputs.filter (·.1.1 = outer)).map fun input => (input.1.2, input.2)) := by
  have pairs : ∀ input : (Outer × Key) × Item, decide (input.1 = (outer, key)) =
      (decide (input.1.2 = key) && decide (input.1.1 = outer)) := by
    intro input
    simp [Prod.ext_iff, and_comm]
  simp only [inputsOf, List.filter_map, List.filter_filter, List.map_map, pairs]
  rfl

/-- On each key the table behaves as the machine does on the inputs of that key. -/
theorem outputs_tableStep (table : Key → State) (inputs : List (Key × Item)) (key : Key) :
    inputsOf key ((inputs.map Prod.fst).zip (outputs (tableStep step) table inputs)) =
      outputs step (table key) (inputsOf key inputs) := by
  induction inputs generalizing table with
  | nil => rfl
  | cons input inputs induction =>
      rcases input with ⟨other, item⟩
      rw [outputs, List.map_cons, List.zip_cons_cons]
      by_cases same : other = key
      · subst same
        rw [inputsOf_cons_self, inputsOf_cons_self, outputs, induction]
        simp [tableStep]
      · rw [inputsOf_cons_other same, inputsOf_cons_other same, induction]
        have unmoved : (tableStep step table (other, item)).2 key = table key :=
          Function.update_of_ne (Ne.symm same) _ _
        rw [unmoved]

end Foundation
