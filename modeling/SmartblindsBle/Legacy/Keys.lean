import SmartblindsBle.Foundation.Hex
import SmartblindsBle.Tilt.LinkLayer

/-! # Legacy keys as text

`_normalize_key` reads a hexadecimal key two characters at a time. Each slice is
read by `int`, which takes more than two digits: white space around them, a sign
before them, and the decimal digits of other scripts.
-/

namespace SmartblindsBle

open Foundation

/-! ## Python's numerals -/

/-- The Unicode tables behind `int` and `str.lower` outside of ASCII. Decimal digits
and white space have no case. -/
structure CharacterTables where
  decimal : Char → Option Nat
  isSpace : Char → Bool
  lower : String → String
  lower_caseless : ∀ text : String,
    (∀ character ∈ text.toList,
      character.toNat < 128 ∨ (decimal character).isSome = true ∨ isSpace character = true) →
    lower text = String.ofList (text.toList.map Char.toLower)

/-- White space of `int` within ASCII. -/
def asciiSpaces : List Char := [' ', '\t', '\n', '\x0B', '\x0C', '\r']

namespace PythonInt

/-- Digits of other scripts and other white space are replaced first. -/
def transform (tables : CharacterTables) (character : Char) : Char :=
  if character.toNat < 128 then character
  else if tables.isSpace character then ' '
  else
    match tables.decimal character with
    | some value => hexDigit value
    | none => '?'

def strip (text : List Char) : List Char :=
  ((text.dropWhile (· ∈ asciiSpaces)).reverse.dropWhile (· ∈ asciiSpaces)).reverse

/-- Digits with single underscores between them. -/
def digits (accumulated : Nat) (afterDigit : Bool) : List Char → Option Nat
  | [] => if afterDigit then some accumulated else none
  | '_' :: rest => if afterDigit then digits accumulated false rest else none
  | character :: rest =>
      match hexValue character with
      | some value => digits (16 * accumulated + value) true rest
      | none => none

/-- The sign, and what follows it. -/
def sign : List Char → Bool × List Char
  | '-' :: rest => (true, rest)
  | '+' :: rest => (false, rest)
  | rest => (false, rest)

/-- What follows the prefix of base 16, and an underscore after it. -/
def afterPrefix : List Char → List Char
  | '0' :: 'x' :: '_' :: rest | '0' :: 'X' :: '_' :: rest => rest
  | '0' :: 'x' :: rest | '0' :: 'X' :: rest => rest
  | rest => rest

/-- `int(text, 16)` after the replacement. -/
def ofAscii (text : List Char) : Option Int :=
  let signed := sign (strip text)
  (digits 0 false (afterPrefix signed.2)).map fun (value : Nat) =>
    if signed.1 then -(value : Int) else value

/-- `int(text, 16)`. -/
def ofText (tables : CharacterTables) (text : List Char) : Option Int :=
  ofAscii (text.map (transform tables))

end PythonInt

/-! ## The keys -/

/-- `ValueError`, of `int` or of `bytes`. -/
inductive ValueError
  | invalidLiteral
  | outsideByte
  deriving DecidableEq, Repr

/-- The argument of `_normalize_key`. -/
inductive KeyArgument
  | int (value : Int)
  | text (text : String)
  | items (values : List Int)

/-- One element of the argument of `bytes`. -/
def byteOf (value : Int) : Except ValueError UInt8 :=
  if 0 ≤ value ∧ value < 256 then .ok (UInt8.ofNat value.toNat) else .error .outsideByte

/-- The slices `key[i : i + 2] for i in range(0, len(key), 2)`. -/
def keySlices (text : List Char) : List (List Char) :=
  (rangeByStep text.length 2).map fun offset => (text.drop offset).take 2

/-- The byte of a slice. -/
def sliceByte (tables : CharacterTables) (slice : List Char) : Except ValueError UInt8 :=
  match PythonInt.ofText tables slice with
  | some value => byteOf value
  | none => .error .invalidLiteral

/-- `_normalize_key`. -/
def normalizeKey (tables : CharacterTables) : KeyArgument → Except ValueError Bytes
  | .int value => [value].mapM byteOf
  | .text text => (keySlices text.toList).mapM (sliceByte tables)
  | .items values => values.mapM byteOf

/-! ## Digits -/

def digitChars : List Char := hexAlphabet ++ ['A', 'B', 'C', 'D', 'E', 'F']

theorem mem_digitChars {digit : Char} {value : Nat} (isValue : hexValue digit = some value) :
    digit ∈ digitChars := by
  have ascii : ∀ code < 128, (hexValue (Char.ofNat code)).isSome = true →
      Char.ofNat code ∈ digitChars := by decide +kernel
  have member := ascii digit.toNat (ascii_of_hexValue isValue)
  rw [Char.ofNat_toNat, isValue] at member
  exact member rfl

namespace PythonInt

theorem transform_ascii (tables : CharacterTables) {character : Char}
    (ascii : character.toNat < 128) : transform tables character = character := if_pos ascii

theorem ofAscii_digits {high low : Char} {highValue lowValue : Nat}
    (isHigh : hexValue high = some highValue) (isLow : hexValue low = some lowValue) :
    ofAscii [high, low] = some (16 * highValue + lowValue : Nat) := by
  have twoDigits : digitChars.all (fun high => digitChars.all fun low =>
      decide (ofAscii [high, low] =
        some (16 * (hexValue high).getD 0 + (hexValue low).getD 0 : Nat))) = true := by
    decide +kernel
  have firstDigit := List.all_eq_true.mp twoDigits high (mem_digitChars isHigh)
  have read := of_decide_eq_true (List.all_eq_true.mp firstDigit low (mem_digitChars isLow))
  rwa [isHigh, isLow] at read

theorem digits_eq_some {text : List Char} {accumulated value : Nat} {afterDigit : Bool}
    (read : digits accumulated afterDigit text = some value) : '?' ∉ text := by
  induction text generalizing accumulated afterDigit with
  | nil => exact nofun
  | cons character text induction =>
      intro member
      unfold digits at read
      split at read
      · next same => cases same
      · next same =>
          rcases List.cons_eq_cons.mp same with ⟨isSeparator, rfl⟩
          subst isSeparator
          split at read
          · rcases List.mem_cons.mp member with impossible | later
            · cases impossible
            · exact induction read later
          · cases read
      · next first rest other same =>
          rcases List.cons_eq_cons.mp same with ⟨rfl, rfl⟩
          split at read
          · next value isValue =>
              rcases List.mem_cons.mp member with isMark | later
              · rw [← isMark] at isValue
                cases isValue
              · exact induction read later
          · cases read

theorem mem_dropWhile {keeps : Char → Bool} {text : List Char} {character : Char}
    (member : character ∈ text) (stays : keeps character = false) :
    character ∈ text.dropWhile keeps := by
  induction text with
  | nil => cases member
  | cons first text induction =>
      rw [List.dropWhile_cons]
      split
      · next dropped =>
          rcases List.mem_cons.mp member with rfl | later
          · rw [stays] at dropped
            cases dropped
          · exact induction later
      · exact member

theorem mem_strip {text : List Char} (member : '?' ∈ text) : '?' ∈ strip text := by
  have stays : decide ('?' ∈ asciiSpaces) = false := by decide
  unfold strip
  rw [List.mem_reverse]
  apply mem_dropWhile _ stays
  rw [List.mem_reverse]
  exact mem_dropWhile member stays

theorem mem_sign {text : List Char} (member : '?' ∈ text) : '?' ∈ (sign text).2 := by
  unfold sign
  split
  · simpa using member
  · simpa using member
  · exact member

theorem mem_afterPrefix {text : List Char} (member : '?' ∈ text) : '?' ∈ afterPrefix text := by
  unfold afterPrefix
  split <;> simpa using member

theorem ofAscii_eq_some {text : List Char} {value : Int} (read : ofAscii text = some value) :
    '?' ∉ text := by
  intro member
  rcases Option.map_eq_some_iff.mp read with ⟨magnitude, isMagnitude, _⟩
  exact digits_eq_some isMagnitude (mem_afterPrefix (mem_sign (mem_strip member)))

theorem ofText_caseless {tables : CharacterTables} {text : List Char} {value : Int}
    (read : ofText tables text = some value) : ∀ character ∈ text,
      character.toNat < 128 ∨ (tables.decimal character).isSome = true ∨
        tables.isSpace character = true := by
  intro character member
  by_contra foreign
  simp only [not_or] at foreign
  rcases foreign with ⟨notAscii, notDecimal, notSpace⟩
  have isMark : transform tables character = '?' := by
    have noDecimal : tables.decimal character = none := by simpa using notDecimal
    rw [transform, if_neg notAscii, if_neg notSpace, noDecimal]
  apply ofAscii_eq_some read
  rw [← isMark]
  exact List.mem_map_of_mem member

end PythonInt

/-! ## Slices -/

theorem keySlices_single (digit : Char) : keySlices [digit] = [[digit]] := by
  have offsets : rangeByStep 1 2 = [0] := by decide
  simp [keySlices, offsets]

theorem keySlices_cons (high low : Char) (rest : List Char) :
    keySlices (high :: low :: rest) = [high, low] :: keySlices rest := by
  cases rest with
  | nil =>
      have offsets : rangeByStep 2 2 = [0] := by decide
      have noOffsets : rangeByStep 0 2 = [] := by decide
      simp [keySlices, offsets, noOffsets]
  | cons next rest =>
      unfold keySlices
      rw [rangeByStep_succ (by decide) (by simp), List.map_cons, List.map_map]
      rfl

theorem mapM_cons {Error Item Result : Type} (convert : Item → Except Error Result) (item : Item)
    (items : List Item) :
    (item :: items).mapM convert =
      (convert item).bind fun result => (items.mapM convert).bind fun results =>
        .ok (result :: results) := by
  rw [List.mapM_cons]
  rfl

theorem mapM_cons_eq_ok {Error Item Result : Type} {convert : Item → Except Error Result}
    {item : Item} {items : List Item} {converted : List Result}
    (succeeds : (item :: items).mapM convert = .ok converted) :
    ∃ result results, convert item = .ok result ∧ items.mapM convert = .ok results ∧
      converted = result :: results := by
  rw [mapM_cons] at succeeds
  cases first : convert item with
  | error error =>
      rw [first] at succeeds
      cases succeeds
  | ok result =>
      cases rest : items.mapM convert with
      | error error =>
          rw [first, rest] at succeeds
          cases succeeds
      | ok results =>
          rw [first, rest] at succeeds
          cases succeeds
          exact ⟨result, results, rfl, rfl, rfl⟩

theorem sliceByte_digits (tables : CharacterTables) {high low : Char} {highValue lowValue : Nat}
    (isHigh : hexValue high = some highValue) (isLow : hexValue low = some lowValue) :
    sliceByte tables [high, low] = .ok (UInt8.ofNat (16 * highValue + lowValue)) := by
  have highSmall := (hexValue_eq_some isHigh).1
  have lowSmall := (hexValue_eq_some isLow).1
  have read : PythonInt.ofText tables [high, low] = some (16 * highValue + lowValue : Nat) := by
    rw [PythonInt.ofText, List.map_cons, List.map_cons, List.map_nil,
      PythonInt.transform_ascii tables (ascii_of_hexValue isHigh),
      PythonInt.transform_ascii tables (ascii_of_hexValue isLow)]
    exact PythonInt.ofAscii_digits isHigh isLow
  have inByte : (0 : Int) ≤ (16 * highValue + lowValue : Nat) ∧
      ((16 * highValue + lowValue : Nat) : Int) < 256 := by omega
  have isByte : byteOf (16 * highValue + lowValue : Nat) =
      .ok (UInt8.ofNat (16 * highValue + lowValue)) := by
    rw [byteOf, if_pos inByte, Int.toNat_natCast]
  rw [sliceByte, read]
  exact isByte

theorem keySlices_hexPairs (tables : CharacterTables) {text : List Char} {key : Bytes}
    (read : hexPairs text = some key) : (keySlices text).mapM (sliceByte tables) = .ok key := by
  induction text, key, read using hexPairs_induction with
  | nil => rfl
  | pair high low rest highValue lowValue bytes isHigh isLow readRest induction =>
      rw [keySlices_cons, mapM_cons, sliceByte_digits tables isHigh isLow, induction]
      rfl

theorem sliceByte_caseless {tables : CharacterTables} {slice : List Char} {byte : UInt8}
    (isByte : sliceByte tables slice = .ok byte) : ∀ character ∈ slice,
      character.toNat < 128 ∨ (tables.decimal character).isSome = true ∨
        tables.isSpace character = true := by
  unfold sliceByte at isByte
  split at isByte
  · next value read => exact PythonInt.ofText_caseless read
  · cases isByte

theorem keySlices_caseless {tables : CharacterTables} : ∀ {text : List Char} {key : Bytes},
    (keySlices text).mapM (sliceByte tables) = .ok key → ∀ character ∈ text,
      character.toNat < 128 ∨ (tables.decimal character).isSome = true ∨
        tables.isSpace character = true
  | [], _, _ => nofun
  | [digit], _, accepted => by
      rw [keySlices_single] at accepted
      rcases mapM_cons_eq_ok accepted with ⟨byte, _, isByte, _, _⟩
      exact sliceByte_caseless isByte
  | high :: low :: rest, _, accepted => by
      rw [keySlices_cons] at accepted
      rcases mapM_cons_eq_ok accepted with ⟨byte, bytes, isByte, restAccepted, _⟩
      have slice := sliceByte_caseless isByte
      intro character member
      rcases List.mem_cons.mp member with rfl | later
      · exact slice _ (List.mem_cons_self ..)
      · rcases List.mem_cons.mp later with rfl | inRest
        · exact slice _ (List.mem_cons_of_mem _ (List.mem_cons_self ..))
        · exact keySlices_caseless restAccepted character inRest

/-! ## Export and import -/

/-- A key survives its export as text. -/
theorem normalizeKey_hexString (tables : CharacterTables) (key : Bytes) :
    normalizeKey tables (.text (hexString key)) = .ok key := by
  rw [normalizeKey, hexString_toList]
  apply keySlices_hexPairs
  exact hexPairs_eq_some_iff.mpr (hexChars_toLower key).symm

theorem normalizeKey_lower {tables : CharacterTables} {text : String} {key : Bytes}
    (accepted : normalizeKey tables (.text text) = .ok key) :
    tables.lower text = String.ofList (text.toList.map Char.toLower) :=
  tables.lower_caseless text (keySlices_caseless accepted)

/-- A key survives its export as text; and of the texts that are accepted, exactly those
with an even number of hexadecimal digits, and nothing else, are read as the key that
they spell. -/
theorem normalizeKey_hex_iff (tables : CharacterTables) :
    (∀ key, normalizeKey tables (.text (hexString key)) = .ok key) ∧
      ∀ text key, normalizeKey tables (.text text) = .ok key →
        (hexString key = tables.lower text ↔ EvenHexDigits text.toList) := by
  refine ⟨normalizeKey_hexString tables, ?_⟩
  intro text key accepted
  rw [normalizeKey_lower accepted, hexString, String.ofList_inj, ← hexPairs_eq_some_iff]
  constructor
  · intro read
    exact (hexPairs_isSome_iff text.toList).mp ⟨key, read⟩
  · intro even
    rcases (hexPairs_isSome_iff text.toList).mpr even with ⟨bytes, read⟩
    have sameKey := (keySlices_hexPairs tables read).symm.trans accepted
    cases sameKey
    exact read

/-- The tables for texts within ASCII. -/
def CharacterTables.ascii : CharacterTables where
  decimal _ := none
  isSpace _ := false
  lower text := String.ofList (text.toList.map Char.toLower)
  lower_caseless _ _ := rfl

theorem normalizeKey_hex_iff_upperCase :
    normalizeKey .ascii (.text "2A1B") = .ok [0x2A, 0x1B] ∧
      hexString [0x2A, 0x1B] = CharacterTables.ascii.lower "2A1B" := by
  refine ⟨by decide, ?_⟩
  exact ((normalizeKey_hex_iff .ascii).2 "2A1B" [0x2A, 0x1B] (by decide)).mpr (by decide)

/-- A missing digit, a sign and white space give other keys. -/
theorem normalizeKey_accepts_damaged :
    normalizeKey .ascii (.text "2a1") = .ok [0x2A, 0x01] ∧
      hexString [0x2A, 0x01] ≠ CharacterTables.ascii.lower "2a1" ∧
      normalizeKey .ascii (.text "+a 1") = .ok [0x0A, 0x01] ∧
      hexString [0x0A, 0x01] ≠ CharacterTables.ascii.lower "+a 1" := by
  decide

end SmartblindsBle
