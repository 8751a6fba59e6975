import Mathlib.Data.List.Basic

/-! # Text

Python's strings are lists of code points. A lone surrogate is a code point that
is no character.
-/

namespace Foundation

inductive CodePoint
  | char (value : Char)
  | surrogate (offset : Fin 2048)
  deriving DecidableEq, Repr

def CodePoint.value : CodePoint → Nat
  | .char value => value.toNat
  | .surrogate offset => 0xD800 + offset

abbrev Text := List CodePoint

namespace Text

def ofChars (chars : List Char) : Text := chars.map .char

def ofString (text : String) : Text := ofChars text.toList

instance : Coe String Text := ⟨ofString⟩

/-- `separator.join(parts)`. -/
def join (separator : Text) : List Text → Text
  | [] => []
  | part :: parts => part ++ parts.flatMap (separator ++ ·)

/-- The order of Python's strings. -/
def le : Text → Text → Bool
  | [], _ => true
  | _ :: _, [] => false
  | left :: lefts, right :: rights =>
      left.value < right.value || (left.value == right.value && le lefts rights)

/-- The characters of a text without surrogates. -/
def chars? : Text → Option (List Char)
  | [] => some []
  | .char value :: rest => (chars? rest).map (value :: ·)
  | .surrogate _ :: _ => none

@[simp] theorem chars?_ofChars (chars : List Char) : chars? (ofChars chars) = some chars := by
  induction chars with
  | nil => rfl
  | cons value chars induction =>
      rw [ofChars, List.map_cons, chars?]
      exact congrArg (Option.map (value :: ·)) induction

end Text

/-- The Unicode tables behind the methods of strings. -/
structure TextTables where
  upper : Text → Text
  lower : Text → Text
  /-- `repr` of a string. -/
  quote : Text → Text
  lower_ascii : ∀ chars : List Char, (∀ value ∈ chars, value.toNat < 128) →
    lower (Text.ofChars chars) = Text.ofChars (chars.map Char.toLower)

/-- A change of the case of a character. -/
def CodePoint.map (change : Char → Char) : CodePoint → CodePoint
  | .char value => .char (change value)
  | .surrogate offset => .surrogate offset

/-- The tables for printable ASCII text without quotes. -/
def TextTables.ascii : TextTables where
  upper text := text.map (CodePoint.map Char.toUpper)
  lower text := text.map (CodePoint.map Char.toLower)
  quote text := "'" ++ text ++ "'"
  lower_ascii chars _ := by simp [Text.ofChars, CodePoint.map]

end Foundation
