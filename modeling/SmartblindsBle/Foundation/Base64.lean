import SmartblindsBle.Foundation.Bytes

/-! # Base 64

Byte strings as characters of six bits each, in groups of four. The decoder is the
lenient one of Python's library: it skips characters outside of the alphabet, and
stops at the padding that completes a group.
-/

namespace Foundation

def base64Alphabet : List Char :=
  "ABCDEFGHIJKLMNOPQRSTUVWXYZabcdefghijklmnopqrstuvwxyz0123456789+/".toList

def base64Digit (value : Nat) : Char := base64Alphabet.getD value 'A'

def base64Value (digit : Char) : Option Nat := base64Alphabet.findIdx? (· = digit)

theorem base64Value_base64Digit {value : Nat} (small : value < 64) :
    base64Value (base64Digit value) = some value := by
  have reads : ∀ value < 64, base64Value (base64Digit value) = some value := by decide +kernel
  exact reads value small

theorem base64Digit_ne_pad {value : Nat} (small : value < 64) : base64Digit value ≠ '=' := by
  have alphabet : ∀ value < 64, base64Digit value ≠ '=' := by decide +kernel
  exact alphabet value small

/-! ## Writing -/

/-- `b64encode(data)`. -/
def base64Chars : Bytes → List Char
  | [] => []
  | [first] =>
      [base64Digit (first.toNat / 4), base64Digit (first.toNat % 4 * 16), '=', '=']
  | [first, second] =>
      [base64Digit (first.toNat / 4), base64Digit (first.toNat % 4 * 16 + second.toNat / 16),
        base64Digit (second.toNat % 16 * 4), '=']
  | first :: second :: third :: rest =>
      base64Digit (first.toNat / 4) ::
        base64Digit (first.toNat % 4 * 16 + second.toNat / 16) ::
        base64Digit (second.toNat % 16 * 4 + third.toNat / 64) ::
        base64Digit (third.toNat % 64) :: base64Chars rest

/-! ## Reading -/

/-- The place in a group of four, and the bits that are not part of a byte yet. -/
inductive Quad
  | start
  | one (bits : Nat)
  | two (bits : Nat)
  | three (bits : Nat)

namespace Quad

def position : Quad → Nat
  | .start => 0
  | .one _ => 1
  | .two _ => 2
  | .three _ => 3

/-- Six bits more: the byte that they complete, and what is left. -/
def next : Quad → Nat → Bytes × Quad
  | .start, value => ([], .one value)
  | .one bits, value => ([UInt8.ofNat (4 * bits + value / 16)], .two (value % 16))
  | .two bits, value => ([UInt8.ofNat (16 * bits + value / 4)], .three (value % 4))
  | .three bits, value => ([UInt8.ofNat (64 * bits + value)], .start)

end Quad

inductive Base64Error
  | danglingCharacter
  | incorrectPadding
  deriving DecidableEq, Repr

/-- The end of the text without a padding that completes a group. -/
def Quad.finish : Quad → Except Base64Error Bytes
  | .start => .ok []
  | .one _ => .error .danglingCharacter
  | _ => .error .incorrectPadding

def readBase64 (quad : Quad) (pads : Nat) : List Char → Except Base64Error Bytes
  | [] => quad.finish
  | digit :: rest =>
      if digit = '=' then
        if quad.position < 2 then readBase64 quad pads rest
        else if 4 ≤ quad.position + (pads + 1) then .ok []
        else readBase64 quad (pads + 1) rest
      else
        match base64Value digit with
        | none => readBase64 quad pads rest
        | some value =>
            (readBase64 (quad.next value).2 0 rest).map ((quad.next value).1 ++ ·)

/-- `b64decode(text)`. -/
def base64Decode (text : List Char) : Except Base64Error Bytes := readBase64 .start 0 text

theorem readBase64_digit (quad : Quad) (pads : Nat) {value : Nat} (small : value < 64)
    (rest : List Char) :
    readBase64 quad pads (base64Digit value :: rest) =
      (readBase64 (quad.next value).2 0 rest).map ((quad.next value).1 ++ ·) := by
  rw [readBase64, if_neg (base64Digit_ne_pad small), base64Value_base64Digit small]

/-- Characters that the decoder looks at. -/
def isBase64 (character : Char) : Bool := character = '=' || (base64Value character).isSome

theorem readBase64_filter (quad : Quad) (pads : Nat) (text : List Char) :
    readBase64 quad pads (text.filter isBase64) = readBase64 quad pads text := by
  induction text generalizing quad pads with
  | nil => rfl
  | cons character text induction =>
      by_cases isPad : character = '='
      · have kept : isBase64 character = true := by
          rw [isBase64, decide_eq_true isPad, Bool.true_or]
        rw [List.filter_cons_of_pos kept, readBase64, readBase64, if_pos isPad, if_pos isPad,
          induction, induction]
      · have isValue : isBase64 character = (base64Value character).isSome := by
          rw [isBase64, decide_eq_false isPad, Bool.false_or]
        cases found : base64Value character with
        | none =>
            have skipped : ¬isBase64 character = true := by
              rw [isValue, found]
              exact Bool.false_ne_true
            rw [List.filter_cons_of_neg skipped, readBase64, if_neg isPad, found, induction]
        | some value =>
            have kept : isBase64 character = true := by
              rw [isValue, found]
              rfl
            rw [List.filter_cons_of_pos kept, readBase64, readBase64, if_neg isPad, if_neg isPad]
            simp only [found, induction]

/-! ## What is written is read back -/

theorem ofNat_eq_byte {byte : UInt8} {value : Nat} (same : value = byte.toNat) :
    UInt8.ofNat value = byte := by
  rw [same, UInt8.ofNat_toNat]

theorem readBase64_first (first : UInt8) {low : Nat} (small : low < 16) (rest : List Char) :
    base64Decode (base64Digit (first.toNat / 4) :: base64Digit (first.toNat % 4 * 16 + low) ::
      rest) = (readBase64 (.two low) 0 rest).map (first :: ·) := by
  have bound := first.toNat_lt
  have value : UInt8.ofNat (4 * (first.toNat / 4) + (first.toNat % 4 * 16 + low) / 16) = first :=
    ofNat_eq_byte (by omega)
  have left : (first.toNat % 4 * 16 + low) % 16 = low := by omega
  rw [base64Decode, readBase64_digit _ _ (by omega), readBase64_digit _ _ (by omega)]
  simp only [Quad.next, value, left]
  cases readBase64 (.two low) 0 rest with
  | error error => rfl
  | ok bytes => rfl

theorem readBase64_second (second : UInt8) {low : Nat} (small : low < 4) (rest : List Char) :
    readBase64 (.two (second.toNat / 16)) 0
        (base64Digit (second.toNat % 16 * 4 + low) :: rest) =
      (readBase64 (.three low) 0 rest).map (second :: ·) := by
  have bound := second.toNat_lt
  have value : UInt8.ofNat (16 * (second.toNat / 16) + (second.toNat % 16 * 4 + low) / 4) =
      second := ofNat_eq_byte (by omega)
  have left : (second.toNat % 16 * 4 + low) % 4 = low := by omega
  rw [readBase64_digit _ _ (by omega)]
  simp only [Quad.next, value, left]
  rfl

theorem readBase64_third (third : UInt8) (rest : List Char) :
    readBase64 (.three (third.toNat / 64)) 0 (base64Digit (third.toNat % 64) :: rest) =
      (base64Decode rest).map (third :: ·) := by
  have value : UInt8.ofNat (64 * (third.toNat / 64) + third.toNat % 64) = third :=
    ofNat_eq_byte (by omega)
  rw [readBase64_digit _ _ (by omega)]
  simp only [Quad.next, value]
  rfl

theorem base64Decode_base64Chars (bytes : Bytes) :
    base64Decode (base64Chars bytes) = .ok bytes := by
  induction bytes using base64Chars.induct with
  | case1 => rfl
  | case2 first =>
      rw [base64Chars, ← Nat.add_zero (first.toNat % 4 * 16), readBase64_first first (by decide)]
      rfl
  | case3 first second =>
      have bound := second.toNat_lt
      rw [base64Chars, readBase64_first first (by omega), ← Nat.add_zero (second.toNat % 16 * 4),
        readBase64_second second (by decide)]
      rfl
  | case4 first second third rest induction =>
      have secondBound := second.toNat_lt
      have thirdBound := third.toNat_lt
      rw [base64Chars, readBase64_first first (by omega), readBase64_second second (by omega),
        readBase64_third third, induction]
      rfl

/-- A text that spells some bytes, perhaps with other characters between. -/
def SpellsBase64 (text : List Char) (bytes : Bytes) : Prop :=
  text.filter isBase64 = base64Chars bytes

theorem SpellsBase64.decode {text : List Char} {bytes : Bytes}
    (spells : SpellsBase64 text bytes) : base64Decode text = .ok bytes := by
  rw [base64Decode, ← readBase64_filter, spells]
  exact base64Decode_base64Chars bytes

end Foundation
