import Mathlib.Data.List.Basic
import Mathlib.Tactic.Ring

/-! # Byte strings

Fixed-width integers in both byte orders, and the exclusive-or of a byte
string with a keystream.
-/

namespace Foundation

abbrev Bytes := List UInt8

/-! ## Integers of a fixed number of bytes -/

/-- The low `width` bytes of a natural number, least significant first. -/
def toLittleEndian : (width value : Nat) → Bytes
  | 0, _ => []
  | width + 1, value => UInt8.ofNat value :: toLittleEndian width (value / 256)

def ofLittleEndian : Bytes → Nat
  | [] => 0
  | byte :: rest => byte.toNat + 256 * ofLittleEndian rest

/-- The low `width` bytes of a natural number, most significant first. -/
def toBigEndian (width value : Nat) : Bytes := (toLittleEndian width value).reverse

def ofBigEndian (bytes : Bytes) : Nat := ofLittleEndian bytes.reverse

@[simp] theorem toLittleEndian_length (width value : Nat) :
    (toLittleEndian width value).length = width := by
  induction width generalizing value with
  | zero => rfl
  | succ width induction => simp [toLittleEndian, induction]

@[simp] theorem toBigEndian_length (width value : Nat) :
    (toBigEndian width value).length = width := by
  simp [toBigEndian]

theorem ofLittleEndian_toLittleEndian (width value : Nat) :
    ofLittleEndian (toLittleEndian width value) = value % 256 ^ width := by
  induction width generalizing value with
  | zero => simp [toLittleEndian, ofLittleEndian, Nat.mod_one]
  | succ width induction =>
      have lowByte : (UInt8.ofNat value).toNat = value % 256 := by simp
      rw [toLittleEndian, ofLittleEndian, induction, lowByte, Nat.pow_succ', Nat.mod_mul]

theorem ofBigEndian_toBigEndian (width value : Nat) :
    ofBigEndian (toBigEndian width value) = value % 256 ^ width := by
  rw [ofBigEndian, toBigEndian, List.reverse_reverse, ofLittleEndian_toLittleEndian]

theorem ofLittleEndian_lt (bytes : Bytes) : ofLittleEndian bytes < 256 ^ bytes.length := by
  induction bytes with
  | nil => simp [ofLittleEndian]
  | cons byte rest induction =>
      have byteBound : byte.toNat < 256 := byte.toNat_lt
      rw [ofLittleEndian, List.length_cons, Nat.pow_succ']
      omega

theorem toLittleEndian_ofLittleEndian (bytes : Bytes) :
    toLittleEndian bytes.length (ofLittleEndian bytes) = bytes := by
  induction bytes with
  | nil => rfl
  | cons byte rest induction =>
      have byteBound : byte.toNat < 256 := byte.toNat_lt
      have lowByte : UInt8.ofNat (byte.toNat + 256 * ofLittleEndian rest) = byte := by
        apply UInt8.toNat_inj.mp
        simp
      have highBytes : (byte.toNat + 256 * ofLittleEndian rest) / 256 = ofLittleEndian rest := by
        omega
      rw [List.length_cons, ofLittleEndian, toLittleEndian, lowByte, highBytes, induction]

theorem toBigEndian_ofBigEndian (bytes : Bytes) :
    toBigEndian bytes.length (ofBigEndian bytes) = bytes := by
  rw [toBigEndian, ofBigEndian, ← List.length_reverse, toLittleEndian_ofLittleEndian,
    List.reverse_reverse]

theorem ofLittleEndian_append (low high : Bytes) :
    ofLittleEndian (low ++ high) = ofLittleEndian low + 256 ^ low.length * ofLittleEndian high := by
  induction low with
  | nil => simp [ofLittleEndian]
  | cons byte low induction =>
      rw [List.cons_append, ofLittleEndian, induction, ofLittleEndian, List.length_cons,
        Nat.pow_succ']
      ring

theorem ofBigEndian_append (high low : Bytes) :
    ofBigEndian (high ++ low) = 256 ^ low.length * ofBigEndian high + ofBigEndian low := by
  rw [ofBigEndian, List.reverse_append, ofLittleEndian_append, List.length_reverse, Nat.add_comm]
  rfl

theorem ofBigEndian_lt (bytes : Bytes) : ofBigEndian bytes < 256 ^ bytes.length := by
  have bound := ofLittleEndian_lt bytes.reverse
  rwa [List.length_reverse] at bound

theorem toBigEndian_injective {width left right : Nat}
    (leftBound : left < 256 ^ width) (rightBound : right < 256 ^ width)
    (equal : toBigEndian width left = toBigEndian width right) : left = right := by
  have values := congrArg ofBigEndian equal
  rwa [ofBigEndian_toBigEndian, ofBigEndian_toBigEndian, Nat.mod_eq_of_lt leftBound,
    Nat.mod_eq_of_lt rightBound] at values

/-! ## Exclusive-or with a keystream -/

/-- Exclusive-or each byte with the keystream byte at its position. -/
def xorWith (keystream : Nat → UInt8) : Bytes → Bytes
  | [] => []
  | byte :: rest => (byte ^^^ keystream 0) :: xorWith (fun index => keystream (index + 1)) rest

@[simp] theorem xorWith_length (keystream : Nat → UInt8) (bytes : Bytes) :
    (xorWith keystream bytes).length = bytes.length := by
  induction bytes generalizing keystream with
  | nil => rfl
  | cons byte rest induction => simp [xorWith, induction]

/-- Encryption and decryption are the same operation. -/
@[simp] theorem xorWith_xorWith (keystream : Nat → UInt8) (bytes : Bytes) :
    xorWith keystream (xorWith keystream bytes) = bytes := by
  induction bytes generalizing keystream with
  | nil => rfl
  | cons byte rest induction =>
      rw [xorWith, xorWith, induction, UInt8.xor_assoc, UInt8.xor_self, UInt8.xor_zero]

end Foundation
