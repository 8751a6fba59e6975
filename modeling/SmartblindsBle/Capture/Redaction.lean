import SmartblindsBle.Foundation.Json

/-! # Redacted captures

A captured document is written with the values of secret fields masked. Values that
are lists or objects are entered instead, and what they contain is masked only where
it is the value of a secret field again.
-/

namespace SmartblindsBle

open Foundation

namespace Capture

/-! ## Secret fields -/

/-- The characters that a lower-case letter of a pattern matches under
`re.IGNORECASE`. -/
def ignoringCase (letter : Char) : List Char :=
  match letter with
  | 'i' => ['i', 'I', '\u0130', '\u0131']
  | 'k' => ['k', 'K', '\u212A']
  | 's' => ['s', 'S', '\u017F']
  | _ => [letter, letter.toUpper]

/-- The text starts with a word, in any case. -/
def startsWith : (word : List Char) → Text → Bool
  | [], _ => true
  | letter :: word, .char value :: text => value ∈ ignoringCase letter && startsWith word text
  | _, _ => false

/-- The text contains a word, in any case. -/
def contains (word : List Char) : Text → Bool
  | [] => word.isEmpty
  | point :: text => startsWith word (point :: text) || contains word text

def secretWords : List String :=
  ["key", "token", "secret", "passwd", "password", "authorization"]

/-- `SECRET_FIELD.search(name)`. -/
def secretField (name : Text) : Bool := secretWords.any fun word => contains word.toList name

/-! ## Redaction -/

/-- `isinstance(value, (str, int, float))`. -/
def maskable : Json → Bool
  | .bool _ | .int _ | .float _ | .string _ => true
  | .null | .list _ | .dict _ => false

/-- `f"<redacted:{len(str(value))}>"`. -/
def mask (tables : TextTables) (value : Json) : Json :=
  .string ("<redacted:" ++ Text.ofString (toString (value.str tables).length) ++ ">")

mutual

/-- `_redact`. -/
def redact (tables : TextTables) : Json → Json
  | .dict fields => .dict (redactFields tables fields)
  | .list items => .list (redactItems tables items)
  | value => value

def redactItems (tables : TextTables) : List Json → List Json
  | [] => []
  | item :: items => redact tables item :: redactItems tables items

def redactFields (tables : TextTables) : List (Text × Json) → List (Text × Json)
  | [] => []
  | (name, value) :: fields =>
      (name, if maskable value && secretField name then mask tables value
        else redact tables value) :: redactFields tables fields

end

/-! ## Documents that differ in secrets -/

def IsScalar : Json → Prop
  | .list _ | .dict _ => False
  | _ => True

mutual

/-- The documents are the same except for scalars inside of secret fields, which have
the same printed length. -/
def AgreeOutsideSecrets (tables : TextTables) (inside : Bool) : Json → Json → Prop
  | .dict fields, .dict others => FieldsAgree tables inside fields others
  | .list items, .list others => ItemsAgree tables inside items others
  | value, other => value = other ∨
      (inside = true ∧ IsScalar value ∧ IsScalar other ∧
        (value.str tables).length = (other.str tables).length)

def ItemsAgree (tables : TextTables) (inside : Bool) : List Json → List Json → Prop
  | [], [] => True
  | item :: items, other :: others =>
      AgreeOutsideSecrets tables inside item other ∧ ItemsAgree tables inside items others
  | _, _ => False

def FieldsAgree (tables : TextTables) (inside : Bool) :
    List (Text × Json) → List (Text × Json) → Prop
  | [], [] => True
  | (name, value) :: fields, (otherName, other) :: others =>
      name = otherName ∧ AgreeOutsideSecrets tables (inside || secretField name) value other ∧
        FieldsAgree tables inside fields others
  | _, _ => False

end

mutual

/-- A scalar in which the documents differ is itself the value of a secret field, and
it is not `null`. -/
def DifferInMaskedValues : Json → Json → Prop
  | .dict fields, .dict others => FieldsDifferInMaskedValues fields others
  | .list items, .list others => ItemsDifferInMaskedValues items others
  | value, other => value = other

def ItemsDifferInMaskedValues : List Json → List Json → Prop
  | item :: items, other :: others =>
      DifferInMaskedValues item other ∧ ItemsDifferInMaskedValues items others
  | _, _ => True

def FieldsDifferInMaskedValues : List (Text × Json) → List (Text × Json) → Prop
  | (name, value) :: fields, (_, other) :: others =>
      ((secretField name = true ∧ maskable value = true ∧ maskable other = true) ∨
        DifferInMaskedValues value other) ∧ FieldsDifferInMaskedValues fields others
  | _, _ => True

end

/-! ## What the redaction hides -/

theorem isScalar_of_maskable {value : Json} (isMaskable : maskable value = true) :
    IsScalar value := by
  cases value with
  | list items => cases isMaskable
  | dict fields => cases isMaskable
  | _ => trivial

theorem eq_null_of_isScalar {value : Json} (isScalar : IsScalar value)
    (unmasked : maskable value = false) : value = .null := by
  cases value with
  | null => rfl
  | list items => exact isScalar.elim
  | dict fields => exact isScalar.elim
  | _ => cases unmasked

theorem mask_congr (tables : TextTables) {value other : Json}
    (sameLength : (value.str tables).length = (other.str tables).length) :
    mask tables value = mask tables other := by
  rw [mask, mask, sameLength]

theorem mask_ne_null (tables : TextTables) (value : Json) :
    mask tables value ≠ redact tables .null := by
  rw [redact]
  · exact nofun
  · exact nofun
  · exact nofun

namespace AgreeOutsideSecrets

variable {tables : TextTables} {inside : Bool} {value other : Json}

theorem scalar (agree : AgreeOutsideSecrets tables inside value other)
    (isScalar : IsScalar value) :
    value = other ∨ (inside = true ∧ IsScalar value ∧ IsScalar other ∧
      (value.str tables).length = (other.str tables).length) := by
  cases value with
  | list items => exact isScalar.elim
  | dict fields => exact isScalar.elim
  | _ => cases other <;> exact agree

theorem other_isScalar (agree : AgreeOutsideSecrets tables inside value other)
    (isScalar : IsScalar value) : IsScalar other := by
  rcases agree.scalar isScalar with rfl | ⟨_, _, otherIsScalar, _⟩
  · exact isScalar
  · exact otherIsScalar

theorem sameLength (agree : AgreeOutsideSecrets tables inside value other)
    (isScalar : IsScalar value) :
    (value.str tables).length = (other.str tables).length := by
  rcases agree.scalar isScalar with rfl | ⟨_, _, _, same⟩
  · rfl
  · exact same

theorem isScalar (agree : AgreeOutsideSecrets tables inside value other)
    (otherIsScalar : IsScalar other) : IsScalar value := by
  cases value with
  | list items =>
      cases other with
      | list others => exact otherIsScalar
      | _ => exact agree.elim nofun fun scalars => scalars.2.1
  | dict fields =>
      cases other with
      | dict others => exact otherIsScalar
      | _ => exact agree.elim nofun fun scalars => scalars.2.1
  | _ => trivial

end AgreeOutsideSecrets

theorem redact_of_isScalar (tables : TextTables) {value : Json} (isScalar : IsScalar value) :
    redact tables value = value := by
  cases value with
  | list items => exact isScalar.elim
  | dict fields => exact isScalar.elim
  | _ => rfl

theorem differInMaskedValues_of_isScalar {value other : Json} (isScalar : IsScalar value) :
    DifferInMaskedValues value other ↔ value = other := by
  cases value with
  | list items => exact isScalar.elim
  | dict fields => exact isScalar.elim
  | _ => cases other <;> exact Iff.rfl

/-- The value of a field, once the field's name and the kind of the value have decided. -/
def redactValue (tables : TextTables) (name : Text) (value : Json) : Json :=
  if maskable value && secretField name then mask tables value else redact tables value

/-- Under one name, two values that agree are redacted alike if both are masked, or as
they are redacted elsewhere. -/
theorem redactValue_eq_iff {tables : TextTables} {inside : Bool} (name : Text)
    {value other : Json} (agree : AgreeOutsideSecrets tables inside value other)
    (elsewhere : redact tables value = redact tables other ↔ DifferInMaskedValues value other) :
    redactValue tables name value = redactValue tables name other ↔
      (secretField name = true ∧ maskable value = true ∧ maskable other = true) ∨
        DifferInMaskedValues value other := by
  have nullUnmasked : maskable .null = false := rfl
  unfold redactValue
  by_cases secret : secretField name = true
  · by_cases valueMasked : maskable value = true
    · have isScalar := isScalar_of_maskable valueMasked
      by_cases otherMasked : maskable other = true
      · simp [secret, valueMasked, otherMasked, mask_congr tables (agree.sameLength isScalar)]
      · have isNull : other = .null :=
          eq_null_of_isScalar (agree.other_isScalar isScalar) (by simpa using otherMasked)
        subst isNull
        have different : value ≠ .null := fun same => otherMasked (same ▸ valueMasked)
        simp [secret, valueMasked, nullUnmasked, mask_ne_null,
          differInMaskedValues_of_isScalar isScalar, different]
    · by_cases otherMasked : maskable other = true
      · have isScalar := agree.isScalar (isScalar_of_maskable otherMasked)
        have isNull : value = .null :=
          eq_null_of_isScalar isScalar (by simpa using valueMasked)
        subst isNull
        have different : Json.null ≠ other := fun same => valueMasked (same ▸ otherMasked)
        simp [secret, otherMasked, nullUnmasked, (mask_ne_null tables other).symm,
          differInMaskedValues_of_isScalar isScalar, different]
      · simp [valueMasked, otherMasked, elsewhere]
  · simp [secret, elsewhere]

theorem redact_eq_iff_of_isScalar {tables : TextTables} {inside : Bool} {value other : Json}
    (agree : AgreeOutsideSecrets tables inside value other) (isScalar : IsScalar value) :
    redact tables value = redact tables other ↔ DifferInMaskedValues value other := by
  rw [redact_of_isScalar tables isScalar, redact_of_isScalar tables (agree.other_isScalar isScalar),
    differInMaskedValues_of_isScalar isScalar]

mutual

/-- Documents that agree outside of secrets are redacted alike exactly if they differ
in masked values only. -/
theorem redact_eq_iff_differ {tables : TextTables} {inside : Bool} (value other : Json)
    (agree : AgreeOutsideSecrets tables inside value other) :
    redact tables value = redact tables other ↔ DifferInMaskedValues value other := by
  cases value with
  | dict fields =>
      cases other with
      | dict others =>
          rw [redact, redact, Json.dict.injEq]
          exact redactFields_eq_iff fields others agree
      | _ => exact agree.elim nofun fun scalars => scalars.2.1.elim
  | list items =>
      cases other with
      | list others =>
          rw [redact, redact, Json.list.injEq]
          exact redactItems_eq_iff items others agree
      | _ => exact agree.elim nofun fun scalars => scalars.2.1.elim
  | _ => exact redact_eq_iff_of_isScalar agree trivial

theorem redactItems_eq_iff {tables : TextTables} {inside : Bool} : (items others : List Json) →
    ItemsAgree tables inside items others →
    (redactItems tables items = redactItems tables others ↔
      ItemsDifferInMaskedValues items others)
  | [], [], _ => by simp [ItemsDifferInMaskedValues]
  | item :: items, other :: others, agree => by
      rw [redactItems, redactItems, List.cons_eq_cons, ItemsDifferInMaskedValues,
        redact_eq_iff_differ item other agree.1, redactItems_eq_iff items others agree.2]
  | [], _ :: _, agree => agree.elim
  | _ :: _, [], agree => agree.elim

theorem redactFields_eq_iff {tables : TextTables} {inside : Bool} :
    (fields others : List (Text × Json)) → FieldsAgree tables inside fields others →
    (redactFields tables fields = redactFields tables others ↔
      FieldsDifferInMaskedValues fields others)
  | [], [], _ => by simp [FieldsDifferInMaskedValues]
  | (name, value) :: fields, (otherName, other) :: others, agree => by
      rcases agree with ⟨rfl, agree, rest⟩
      have here := redactValue_eq_iff name agree (redact_eq_iff_differ value other agree)
      have later := redactFields_eq_iff fields others rest
      simp [redactFields, FieldsDifferInMaskedValues, later, ← here, redactValue]
  | [], _ :: _, agree => agree.elim
  | _ :: _, [], agree => agree.elim

end

/-- Two documents that are the same outside of secrets are redacted alike exactly if
each scalar in which they differ is itself the value of a secret field, and not `null`. -/
theorem redact_eq_iff {tables : TextTables} {document other : Json}
    (agree : AgreeOutsideSecrets tables false document other) :
    redact tables document = redact tables other ↔ DifferInMaskedValues document other :=
  redact_eq_iff_differ document other agree

/-- An object with one field. -/
def singleField (name : String) (value : Json) : Json := .dict [(name, value)]

theorem secretField_pairingKey : secretField "pairingKey" = true := by decide

theorem redact_eq_iff_pairingKey :
    redact .ascii (.list [singleField "pairingKey" (.string "6be8")]) =
      redact .ascii (.list [singleField "pairingKey" (.string "2ee2")]) := by
  have secret := secretField_pairingKey
  apply (redact_eq_iff _).mpr
  · exact ⟨⟨.inl ⟨secret, rfl, rfl⟩, trivial⟩, trivial⟩
  · exact ⟨⟨rfl, .inr ⟨secret, trivial, trivial, by decide⟩, trivial⟩, trivial⟩

/-- A list of keys is written as it is. -/
theorem redact_shows_listedKeys :
    AgreeOutsideSecrets .ascii false (singleField "keys" (.list [.string "6be8"]))
        (singleField "keys" (.list [.string "2ee2"])) ∧
      redact .ascii (singleField "keys" (.list [.string "6be8"])) ≠
        redact .ascii (singleField "keys" (.list [.string "2ee2"])) := by
  have secret : secretField "keys" = true := by decide
  have agree : AgreeOutsideSecrets .ascii false (singleField "keys" (.list [.string "6be8"]))
      (singleField "keys" (.list [.string "2ee2"])) :=
    ⟨rfl, ⟨.inr ⟨secret, trivial, trivial, by decide⟩, trivial⟩, trivial⟩
  refine ⟨agree, ?_⟩
  intro same
  have differ := (redact_eq_iff_differ _ _ agree).mp same
  rcases differ.1 with ⟨_, masked, _⟩ | ⟨sameKey, _⟩
  · cases masked
  · exact absurd (Json.string.inj sameKey) (by decide)

end Capture

end SmartblindsBle
