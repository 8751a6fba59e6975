import SmartblindsBle.Foundation.Bytes

/-! # Hexadecimal digits

Byte strings as two digits for each byte. Digits of both cases are read, and
lower-case digits are written.
-/

namespace Foundation

def hexAlphabet : List Char :=
  ['0', '1', '2', '3', '4', '5', '6', '7', '8', '9', 'a', 'b', 'c', 'd', 'e', 'f']

def hexDigit (value : Nat) : Char := hexAlphabet.getD value '0'

/-- The value of an ASCII digit of either case. -/
def hexValue (digit : Char) : Option Nat := hexAlphabet.findIdx? (· = digit.toLower)

theorem hexValue_eq_some {digit : Char} {value : Nat} (isValue : hexValue digit = some value) :
    value < 16 ∧ hexDigit value = digit.toLower := by
  rcases List.findIdx?_eq_some_iff_getElem.mp isValue with ⟨inside, same, _⟩
  constructor
  · exact inside
  · have digit : hexDigit value = hexAlphabet[value] := by simp [hexDigit, inside]
    rw [digit]
    simpa using same

theorem hexValue_of_toLower {digit : Char} {value : Nat} (small : value < 16)
    (same : hexDigit value = digit.toLower) : hexValue digit = some value := by
  have reads : ∀ value < 16, hexAlphabet.findIdx? (· = hexDigit value) = some value := by decide
  rw [hexValue, ← same]
  exact reads value small

theorem ascii_of_hexValue {digit : Char} {value : Nat} (isValue : hexValue digit = some value) :
    digit.toNat < 128 := by
  have lowered := (hexValue_eq_some isValue).2
  have small : (hexDigit value).toNat < 128 := by
    have alphabet : ∀ value < 16, (hexDigit value).toNat < 128 := by decide
    exact alphabet value (hexValue_eq_some isValue).1
  unfold Char.toLower at lowered
  split at lowered
  · next upper =>
      have bound : digit.val.toNat ≤ 'Z'.val.toNat := upper.2
      exact Nat.lt_of_le_of_lt bound (by decide)
  · rwa [lowered] at small

/-! ## Writing -/

def hexChars (bytes : Bytes) : List Char :=
  bytes.flatMap fun byte => [hexDigit (byte.toNat / 16), hexDigit (byte.toNat % 16)]

/-- `data.hex()`. -/
def hexString (bytes : Bytes) : String := String.ofList (hexChars bytes)

@[simp] theorem hexString_toList (bytes : Bytes) : (hexString bytes).toList = hexChars bytes :=
  String.toList_ofList

@[simp] theorem hexChars_cons (byte : UInt8) (bytes : Bytes) :
    hexChars (byte :: bytes) =
      hexDigit (byte.toNat / 16) :: hexDigit (byte.toNat % 16) :: hexChars bytes := rfl

theorem toLower_hexDigit {value : Nat} (small : value < 16) :
    (hexDigit value).toLower = hexDigit value := by
  have alphabet : ∀ value < 16, (hexDigit value).toLower = hexDigit value := by decide
  exact alphabet value small

theorem hexChars_toLower (key : Bytes) : (hexChars key).map Char.toLower = hexChars key := by
  induction key with
  | nil => rfl
  | cons byte key induction =>
      have bound := byte.toNat_lt
      rw [hexChars_cons, List.map_cons, List.map_cons, induction, toLower_hexDigit (by omega),
        toLower_hexDigit (by omega)]

/-! ## Reading -/

/-- Two digits for each byte. -/
def hexPairs : List Char → Option Bytes
  | [] => some []
  | [_] => none
  | high :: low :: rest =>
      match hexValue high, hexValue low with
      | some highValue, some lowValue =>
          (hexPairs rest).map (UInt8.ofNat (16 * highValue + lowValue) :: ·)
      | _, _ => none

theorem hexPairs_pair {high low : Char} {highValue lowValue : Nat} (rest : List Char)
    (isHigh : hexValue high = some highValue) (isLow : hexValue low = some lowValue) :
    hexPairs (high :: low :: rest) =
      (hexPairs rest).map (UInt8.ofNat (16 * highValue + lowValue) :: ·) := by
  simp only [hexPairs, isHigh, isLow]

theorem hexPairs_unreadable {high low : Char} (rest : List Char)
    (unreadable : ∀ highValue lowValue, hexValue high = some highValue →
      hexValue low = some lowValue → False) :
    hexPairs (high :: low :: rest) = none := by
  rw [hexPairs]
  split
  · next highValue lowValue isHigh isLow =>
      exact absurd isLow (unreadable highValue lowValue isHigh)
  · rfl

theorem hexPairs_induction
    {motive : (digits : List Char) → (bytes : Bytes) → hexPairs digits = some bytes → Prop}
    (nil : motive [] [] rfl)
    (pair : ∀ high low rest highValue lowValue bytes (isHigh : hexValue high = some highValue)
      (isLow : hexValue low = some lowValue) (readRest : hexPairs rest = some bytes),
      motive rest bytes readRest →
      motive (high :: low :: rest) (UInt8.ofNat (16 * highValue + lowValue) :: bytes)
        (by rw [hexPairs_pair rest isHigh isLow, readRest]; rfl))
    (digits : List Char) (bytes : Bytes) (read : hexPairs digits = some bytes) :
    motive digits bytes read := by
  induction digits using hexPairs.induct generalizing bytes with
  | case1 =>
      cases read
      exact nil
  | case2 digit => cases read
  | case3 high low rest highValue lowValue isLow isHigh induction =>
      have whole := read
      rw [hexPairs_pair rest isHigh isLow] at whole
      rcases Option.map_eq_some_iff.mp whole with ⟨bytes, readRest, rfl⟩
      exact pair high low rest highValue lowValue bytes isHigh isLow readRest
        (induction bytes readRest)
  | case4 high low rest unreadable =>
      rw [hexPairs_unreadable rest unreadable] at read
      cases read

theorem hexChars_of_hexPairs {digits : List Char} {bytes : Bytes}
    (read : hexPairs digits = some bytes) : hexChars bytes = digits.map Char.toLower := by
  induction digits, bytes, read using hexPairs_induction with
  | nil => rfl
  | pair high low rest highValue lowValue bytes isHigh isLow readRest induction =>
      rcases hexValue_eq_some isHigh with ⟨highSmall, highDigit⟩
      rcases hexValue_eq_some isLow with ⟨lowSmall, lowDigit⟩
      have byteValue : (UInt8.ofNat (16 * highValue + lowValue)).toNat =
          16 * highValue + lowValue := by
        have fits : 16 * highValue + lowValue < 256 := by omega
        simp [Nat.mod_eq_of_lt fits]
      have halves : (16 * highValue + lowValue) / 16 = highValue ∧
          (16 * highValue + lowValue) % 16 = lowValue := by omega
      rw [hexChars_cons, byteValue, halves.1, halves.2, highDigit, lowDigit, induction,
        List.map_cons, List.map_cons]

theorem hexPairs_of_hexChars {digits : List Char} {bytes : Bytes}
    (same : hexChars bytes = digits.map Char.toLower) : hexPairs digits = some bytes := by
  induction bytes generalizing digits with
  | nil =>
      cases List.map_eq_nil_iff.mp same.symm
      rfl
  | cons byte bytes induction =>
      rw [hexChars_cons] at same
      rcases digits with _ | ⟨high, _ | ⟨low, rest⟩⟩
      · cases same
      · simp at same
      · rcases List.cons_eq_cons.mp same with ⟨sameHigh, later⟩
        rcases List.cons_eq_cons.mp later with ⟨sameLow, sameRest⟩
        have byteBound := byte.toNat_lt
        have readHigh := hexValue_of_toLower (by omega) sameHigh
        have readLow := hexValue_of_toLower (by omega) sameLow
        rw [hexPairs_pair rest readHigh readLow, induction sameRest, Option.map_some,
          Nat.div_add_mod, UInt8.ofNat_toNat]

theorem hexPairs_eq_some_iff {digits : List Char} {bytes : Bytes} :
    hexPairs digits = some bytes ↔ hexChars bytes = digits.map Char.toLower :=
  ⟨hexChars_of_hexPairs, hexPairs_of_hexChars⟩

/-- An even number of hexadecimal digits. -/
def EvenHexDigits (digits : List Char) : Prop :=
  digits.length % 2 = 0 ∧ ∀ digit ∈ digits, (hexValue digit).isSome = true

instance (digits : List Char) : Decidable (EvenHexDigits digits) :=
  decidable_of_iff
    (digits.length % 2 = 0 ∧ digits.all (fun digit => (hexValue digit).isSome) = true)
    (by rw [EvenHexDigits, List.all_eq_true])

theorem hexPairs_isSome_iff (digits : List Char) :
    (∃ bytes, hexPairs digits = some bytes) ↔ EvenHexDigits digits := by
  induction digits using hexPairs.induct with
  | case1 => simp [hexPairs, EvenHexDigits]
  | case2 digit => simp [hexPairs, EvenHexDigits]
  | case3 high low rest highValue lowValue isLow isHigh induction =>
      have even : (high :: low :: rest).length % 2 = rest.length % 2 := by
        simp only [List.length_cons]
        omega
      unfold EvenHexDigits at induction ⊢
      rw [even]
      simp only [hexPairs_pair rest isHigh isLow, Option.map_eq_some_iff, List.forall_mem_cons,
        isHigh, isLow, Option.isSome_some, true_and, ← induction]
      constructor
      · rintro ⟨_, bytes, read, _⟩
        exact ⟨bytes, read⟩
      · rintro ⟨bytes, read⟩
        exact ⟨_, bytes, read, rfl⟩
  | case4 high low rest unreadable =>
      rw [hexPairs_unreadable rest unreadable]
      constructor
      · exact fun read => read.elim nofun
      · rintro ⟨_, digits⟩
        have isHigh := digits high (List.mem_cons_self ..)
        have isLow := digits low (List.mem_cons_of_mem _ (List.mem_cons_self ..))
        rcases Option.isSome_iff_exists.mp isHigh with ⟨highValue, readHigh⟩
        rcases Option.isSome_iff_exists.mp isLow with ⟨lowValue, readLow⟩
        exact (unreadable _ _ readHigh readLow).elim

/-! ## The numeral -/

/-- The number that digits denote, in base 16. -/
def hexNumeral (digits : List Char) : Nat :=
  digits.foldl (fun value digit => 16 * value + (hexValue digit).getD 0) 0

theorem foldl_hexNumeral (digits : List Char) (value : Nat) :
    digits.foldl (fun value digit => 16 * value + (hexValue digit).getD 0) value =
      16 ^ digits.length * value + hexNumeral digits := by
  induction digits generalizing value with
  | nil => simp [hexNumeral]
  | cons digit digits induction =>
      rw [hexNumeral, List.foldl_cons, List.foldl_cons, induction, induction (16 * 0 + _),
        List.length_cons, Nat.pow_succ]
      ring

/-- Digits in pairs are read as the number that they denote. -/
theorem hexPairs_denotes {digits : List Char} {bytes : Bytes}
    (read : hexPairs digits = some bytes) :
    digits.length = 2 * bytes.length ∧ ofBigEndian bytes = hexNumeral digits := by
  induction digits, bytes, read using hexPairs_induction with
  | nil => exact ⟨rfl, rfl⟩
  | pair high low rest highValue lowValue bytes isHigh isLow readRest induction =>
      have highSmall := (hexValue_eq_some isHigh).1
      have lowSmall := (hexValue_eq_some isLow).1
      have fits : 16 * highValue + lowValue < 256 := by omega
      rcases induction with ⟨length, value⟩
      have byteValue : ofBigEndian [UInt8.ofNat (16 * highValue + lowValue)] =
          16 * highValue + lowValue := by
        simp [ofBigEndian, ofLittleEndian, Nat.mod_eq_of_lt fits]
      constructor
      · simp only [List.length_cons, length]
        omega
      · have numeral : hexNumeral (high :: low :: rest) =
            16 ^ rest.length * (16 * highValue + lowValue) + hexNumeral rest := by
          rw [hexNumeral, List.foldl_cons, List.foldl_cons, foldl_hexNumeral, isHigh, isLow]
          simp
        rw [← List.singleton_append, ofBigEndian_append, byteValue, value, numeral, length,
          Nat.pow_mul]

/-! ## White space between the bytes -/

def hexSpaces : List Char := [' ', '\t', '\n', '\x0B', '\x0C', '\r']

/-- `bytes.fromhex`. -/
def fromHex : List Char → Option Bytes
  | [] => some []
  | [digit] => if digit ∈ hexSpaces then some [] else none
  | high :: low :: rest =>
      if high ∈ hexSpaces then fromHex (low :: rest)
      else
        match hexValue high, hexValue low with
        | some highValue, some lowValue =>
            (fromHex rest).map (UInt8.ofNat (16 * highValue + lowValue) :: ·)
        | _, _ => none

theorem not_mem_hexSpaces {digit : Char} {value : Nat} (isValue : hexValue digit = some value) :
    digit ∉ hexSpaces := by
  intro member
  have noDigits : hexSpaces.all (fun space => (hexValue space).isNone) = true := by decide
  have noDigit := List.all_eq_true.mp noDigits digit member
  rw [isValue] at noDigit
  cases noDigit

theorem fromHex_of_hexPairs {digits : List Char} {bytes : Bytes}
    (read : hexPairs digits = some bytes) : fromHex digits = some bytes := by
  induction digits, bytes, read using hexPairs_induction with
  | nil => rfl
  | pair high low rest highValue lowValue bytes isHigh isLow readRest induction =>
      simp only [fromHex, if_neg (not_mem_hexSpaces isHigh), isHigh, isLow, induction]
      rfl

end Foundation
