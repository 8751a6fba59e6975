import SmartblindsBle.Foundation.CyclicCode
import SmartblindsBle.Tilt.Checksum

/-! # The checksum is CRC-16/CCITT-FALSE

`crc16` takes in a whole byte at a time: it exchanges the bytes of the register
and mixes them with three partial masks. The reference takes in single bits.
-/

namespace SmartblindsBle

open Foundation

def ccittPolynomial : BitVec 16 := 0x1021#16

/-- The bit-serial reference: no reflection, and no final exclusive-or. -/
def ccittFalse (data : Bytes) : BitVec 16 := divide ccittPolynomial 0xFFFF#16 (bitsOf data)

/-! ## One byte -/

/-- The bytes of a register exchanged. -/
def exchanged (register : BitVec 16) : BitVec 16 := (register <<< 8) ||| (register >>> 8)

/-- The three masked exclusive-ors of `crc16`. -/
def mixed (swapped : BitVec 16) : BitVec 16 :=
  let low := swapped ^^^ ((swapped &&& 0xFF#16) >>> 4)
  let high := low ^^^ (low <<< 12)
  high ^^^ ((high &&& 0xFF#16) <<< 5)

theorem and_xor_distrib (first second mask : BitVec 16) :
    (first ^^^ second) &&& mask = (first &&& mask) ^^^ (second &&& mask) := by
  apply BitVec.eq_of_toNat_eq
  simp [Nat.and_xor_distrib_right]

theorem crc16Step_toNat (register : BitVec 16) (byte : UInt8) :
    crc16Step register.toNat byte =
      (mixed (exchanged register ^^^ byte.toBitVec.setWidth 16)).toNat := by
  have masked (value : Nat) : value &&& 0xFFFF = value % 2 ^ 16 :=
    Nat.and_two_pow_sub_one_eq_mod value 16
  have small : register.toNat >>> 8 % 2 ^ 16 = register.toNat >>> 8 := by
    apply Nat.mod_eq_of_lt
    rw [Nat.shiftRight_eq_div_pow]
    have bound := register.isLt
    omega
  have exchangedIs : (exchanged register ^^^ byte.toBitVec.setWidth 16).toNat =
      (((register.toNat <<< 8) ||| (register.toNat >>> 8)) &&& 0xFFFF) ^^^ byte.toNat := by
    rw [masked, Nat.or_mod_two_pow, small]
    simp [exchanged]
  unfold crc16Step
  rw [← exchangedIs]
  simp [mixed, masked]

theorem exchanged_xor (first second : BitVec 16) :
    exchanged (first ^^^ second) = exchanged first ^^^ exchanged second := by
  apply BitVec.eq_of_getLsbD_eq
  intro index inside
  simp only [exchanged, BitVec.getLsbD_or, BitVec.getLsbD_xor, BitVec.getLsbD_shiftLeft,
    BitVec.getLsbD_ushiftRight]
  by_cases low : index < 8
  · simp [low]
  · have beyond (register : BitVec 16) : register.getLsbD (8 + index) = false := by
      apply BitVec.getLsbD_of_ge
      omega
    simp [low, inside, beyond]

theorem xor_exchange (first second third fourth : BitVec 16) :
    (first ^^^ second) ^^^ (third ^^^ fourth) = (first ^^^ third) ^^^ (second ^^^ fourth) := by
  rw [BitVec.xor_assoc, ← BitVec.xor_assoc second, BitVec.xor_comm second third,
    BitVec.xor_assoc third, ← BitVec.xor_assoc]

theorem mixed_xor (first second : BitVec 16) :
    mixed (first ^^^ second) = mixed first ^^^ mixed second := by
  have low (left right : BitVec 16) :
      (left ^^^ right) ^^^ (((left ^^^ right) &&& 0xFF#16) >>> 4) =
        (left ^^^ ((left &&& 0xFF#16) >>> 4)) ^^^ (right ^^^ ((right &&& 0xFF#16) >>> 4)) := by
    rw [and_xor_distrib, BitVec.ushiftRight_xor_distrib, xor_exchange]
  have high (left right : BitVec 16) :
      (left ^^^ right) ^^^ ((left ^^^ right) <<< 12) =
        (left ^^^ (left <<< 12)) ^^^ (right ^^^ (right <<< 12)) := by
    rw [BitVec.shiftLeft_xor_distrib, xor_exchange]
  have last (left right : BitVec 16) :
      (left ^^^ right) ^^^ (((left ^^^ right) &&& 0xFF#16) <<< 5) =
        (left ^^^ ((left &&& 0xFF#16) <<< 5)) ^^^ (right ^^^ ((right &&& 0xFF#16) <<< 5)) := by
    rw [and_xor_distrib, BitVec.shiftLeft_xor_distrib, xor_exchange]
  unfold mixed
  simp only
  rw [low, high, last]

theorem mixed_exchanged (register : BitVec 16) :
    mixed (exchanged register) = divideZeros ccittPolynomial register 8 := by
  have lowBytes : ∀ byte : BitVec 8,
      mixed (exchanged (byte.setWidth 16)) =
        divideZeros ccittPolynomial (byte.setWidth 16) 8 := by decide +kernel
  have highBytes : ∀ byte : BitVec 8,
      mixed (exchanged (byte.setWidth 16 <<< 8)) =
        divideZeros ccittPolynomial (byte.setWidth 16 <<< 8) 8 := by decide +kernel
  have split : register = ((register >>> 8).setWidth 8).setWidth 16 <<< 8 ^^^
      (register.setWidth 8).setWidth 16 := by
    apply BitVec.eq_of_getLsbD_eq
    intro index inside
    by_cases low : index < 8
    · simp [low, inside]
    · have back : 8 + (index - 8) = index := by omega
      have small : index - 8 < 8 := by omega
      have fits : index - 8 < 16 := by omega
      simp [low, inside, back, small, fits]
  rw [split, exchanged_xor, mixed_xor, divideZeros_xor, lowBytes, highBytes]

theorem exchanged_leading (byte : UInt8) :
    exchanged (leading 16 (byteBits byte)) = byte.toBitVec.setWidth 16 := by
  have allBytes : ∀ bits : BitVec 8,
      exchanged (leading 16 ((List.range 8).map bits.getMsbD)) = bits.setWidth 16 := by
    decide +kernel
  exact allBytes byte.toBitVec

theorem crc16Step_eq (register : BitVec 16) (byte : UInt8) :
    crc16Step register.toNat byte =
      (divide ccittPolynomial register (byteBits byte)).toNat := by
  have short : (byteBits byte).length ≤ 16 := by rw [byteBits_length]; decide
  rw [crc16Step_toNat, divide_eq_divideZeros _ short, ← exchanged_leading, ← exchanged_xor,
    mixed_exchanged]
  rfl

theorem foldl_crc16Step (register : BitVec 16) (data : Bytes) :
    data.foldl crc16Step register.toNat =
      (divide ccittPolynomial register (bitsOf data)).toNat := by
  induction data generalizing register with
  | nil => rfl
  | cons byte data induction =>
      rw [List.foldl_cons, crc16Step_eq, induction, bitsOf_cons, divide_append]

theorem crc16_eq (data : Bytes) : crc16 data = (ccittFalse data).toNat := by
  have loop := foldl_crc16Step 0xFFFF#16 data
  have start : (0xFFFF#16).toNat = 0xFFFF := rfl
  rw [start] at loop
  rw [crc16, loop]
  exact (Nat.and_two_pow_sub_one_eq_mod _ 16).trans (Nat.mod_eq_of_lt (BitVec.isLt _))

/-! ## The values of the register -/

/-- What one pass of the loop assigns to `value`, in order. -/
def crc16Assignments (value : Nat) (byte : UInt8) : List Nat :=
  let swapped := (((value <<< 8) ||| (value >>> 8)) &&& 0xFFFF) ^^^ byte.toNat
  let low := swapped ^^^ ((swapped &&& 0xFF) >>> 4)
  let high := low ^^^ ((low <<< 12) &&& 0xFFFF)
  [swapped, low, high, high ^^^ (((high &&& 0xFF) <<< 5) &&& 0xFFFF)]

theorem crc16Assignments_getLast (value : Nat) (byte : UInt8) :
    (crc16Assignments value byte).getLast? = some (crc16Step value byte) := rfl

/-- Every value that the loop assigns, from the register it starts with. -/
def crc16Values (value : Nat) : Bytes → List Nat
  | [] => []
  | byte :: data => crc16Assignments value byte ++ crc16Values (crc16Step value byte) data

theorem crc16Assignments_lt (value : Nat) (byte : UInt8) :
    ∀ assigned ∈ crc16Assignments value byte, assigned < 2 ^ 16 := by
  have masked (number : Nat) : number &&& 0xFFFF < 2 ^ 16 :=
    Nat.lt_succ_of_le Nat.and_le_right
  have lowNibble (number : Nat) : (number &&& 0xFF) >>> 4 < 2 ^ 16 := by
    have lowByte : number &&& 0xFF ≤ 0xFF := Nat.and_le_right
    rw [Nat.shiftRight_eq_div_pow]
    omega
  have byteBound : byte.toNat < 2 ^ 16 := Nat.lt_trans byte.toNat_lt (by decide)
  have swapped := Nat.xor_lt_two_pow (masked ((value <<< 8) ||| (value >>> 8))) byteBound
  have low {number : Nat} (bound : number < 2 ^ 16) :
      number ^^^ ((number &&& 0xFF) >>> 4) < 2 ^ 16 :=
    Nat.xor_lt_two_pow bound (lowNibble number)
  have high {number : Nat} (bound : number < 2 ^ 16) :
      number ^^^ ((number <<< 12) &&& 0xFFFF) < 2 ^ 16 :=
    Nat.xor_lt_two_pow bound (masked _)
  have last {number : Nat} (bound : number < 2 ^ 16) :
      number ^^^ (((number &&& 0xFF) <<< 5) &&& 0xFFFF) < 2 ^ 16 :=
    Nat.xor_lt_two_pow bound (masked _)
  intro assigned member
  simp only [crc16Assignments, List.mem_cons, List.not_mem_nil, or_false] at member
  rcases member with rfl | rfl | rfl | rfl
  · exact swapped
  · exact low swapped
  · exact high (low swapped)
  · exact last (high (low swapped))

theorem crc16Values_lt (value : Nat) (data : Bytes) :
    ∀ assigned ∈ crc16Values value data, assigned < 2 ^ 16 := by
  induction data generalizing value with
  | nil => exact nofun
  | cons byte data induction =>
      intro assigned member
      rcases List.mem_append.mp member with here | later
      · exact crc16Assignments_lt value byte assigned here
      · exact induction _ assigned later

/-- `crc16` computes the bit-serial remainder, and its register never leaves 16 bits. -/
theorem crc16_isCcittFalse (data : Bytes) :
    crc16 data = (ccittFalse data).toNat ∧
      ∀ value ∈ 0xFFFF :: crc16Values 0xFFFF data, value < 2 ^ 16 := by
  constructor
  · exact crc16_eq data
  · intro value member
    rcases List.mem_cons.mp member with rfl | assigned
    · decide
    · exact crc16Values_lt 0xFFFF data value assigned

/-- The check vector of CRC-16/CCITT-FALSE: the digits from 1 to 9. -/
example : crc16 [0x31, 0x32, 0x33, 0x34, 0x35, 0x36, 0x37, 0x38, 0x39] = 0x29B1 := by decide

end SmartblindsBle
