import SmartblindsBle.Foundation.Text

/-! # Values of JSON documents

What `json.loads` returns, and what Python's operators make of it.
-/

namespace Foundation

/-- A number with a fraction is known by its printed form. The fields of an object
are in the order of the document. -/
inductive Json where
  | null
  | bool (value : Bool)
  | int (value : Int)
  | float (printed : Text)
  | string (value : Text)
  | list (items : List Json)
  | dict (fields : List (Text × Json))

namespace Json

/-- The value of a condition. -/
def truthy : Json → Bool
  | .null => false
  | .bool value => value
  | .int value => value ≠ 0
  | .float printed => printed ≠ Text.ofString "0.0" ∧ printed ≠ Text.ofString "-0.0"
  | .string value => !value.isEmpty
  | .list items => !items.isEmpty
  | .dict fields => !fields.isEmpty

/-- `value or other`. -/
def orElse (value other : Json) : Json := if value.truthy then value else other

/-- Values of which there is a hash. -/
def hashable : Json → Bool
  | .list _ | .dict _ => false
  | _ => true

/-! ## Printing -/

mutual

/-- `repr(value)`. -/
def repr (tables : TextTables) : Json → Text
  | .null => "None"
  | .bool true => "True"
  | .bool false => "False"
  | .int value => toString value
  | .float printed => printed
  | .string value => tables.quote value
  | .list items => "[" ++ Text.join ", " (reprItems tables items) ++ "]"
  | .dict fields => "\x7b" ++ Text.join ", " (reprFields tables fields) ++ "\x7d"

def reprItems (tables : TextTables) : List Json → List Text
  | [] => []
  | item :: items => item.repr tables :: reprItems tables items

def reprFields (tables : TextTables) : List (Text × Json) → List Text
  | [] => []
  | (name, value) :: fields =>
      (tables.quote name ++ ": " ++ value.repr tables) :: reprFields tables fields

end

/-- `str(value)`. -/
def str (tables : TextTables) : Json → Text
  | .string value => value
  | value => value.repr tables

/-! ## Objects -/

def valueOr (fields : List (Text × Json)) (name : Text) (default : Json) : Json :=
  (fields.lookup name).getD default

/-- The value of a name, `None` where there is none. -/
def valueOf (fields : List (Text × Json)) (name : Text) : Json := valueOr fields name .null

def IsDict (value : Json) : Prop := ∃ fields, value = .dict fields

end Json

end Foundation
