import SmartblindsBle.Foundation.Bytes

/-! # Cyclic redundancy codes

The remainder of a bit string under polynomial division, one bit at a time and
the most significant bit first. The leading coefficient of the polynomial is
implicit. Division is linear, and it is injective on bit strings that are no
longer than the register, so short bursts of errors change the remainder.
-/

namespace Foundation

variable {width : Nat}

/-- One step of the division: the next bit is taken in, and the polynomial is
subtracted where a bit falls out at the top. -/
def divideBit (polynomial register : BitVec width) (bit : Bool) : BitVec width :=
  if register.msb ^^ bit then (register <<< 1) ^^^ polynomial else register <<< 1

def divide (polynomial register : BitVec width) (bits : List Bool) : BitVec width :=
  bits.foldl (divideBit polynomial) register

variable (polynomial : BitVec width)

@[simp] theorem divide_nil (register : BitVec width) :
    divide polynomial register [] = register := rfl

@[simp] theorem divide_cons (register : BitVec width) (bit : Bool) (bits : List Bool) :
    divide polynomial register (bit :: bits) =
      divide polynomial (divideBit polynomial register bit) bits := rfl

@[simp] theorem divide_append (register : BitVec width) (first second : List Bool) :
    divide polynomial register (first ++ second) =
      divide polynomial (divide polynomial register first) second :=
  List.foldl_append

/-! ## Linearity -/

theorem divideBit_xor (first second : BitVec width) (left right : Bool) :
    divideBit polynomial (first ^^^ second) (left ^^ right) =
      divideBit polynomial first left ^^^ divideBit polynomial second right := by
  have parity : ((first ^^^ second).msb ^^ (left ^^ right)) =
      ((first.msb ^^ left) ^^ (second.msb ^^ right)) := by
    rw [BitVec.msb_xor]
    cases first.msb <;> cases second.msb <;> cases left <;> cases right <;> rfl
  unfold divideBit
  rw [parity, BitVec.shiftLeft_xor_distrib]
  cases first.msb ^^ left <;> cases second.msb ^^ right
  · rfl
  · exact BitVec.xor_assoc ..
  · change first <<< 1 ^^^ second <<< 1 ^^^ polynomial =
      first <<< 1 ^^^ polynomial ^^^ second <<< 1
    rw [BitVec.xor_assoc, BitVec.xor_comm (second <<< 1), ← BitVec.xor_assoc]
  · change first <<< 1 ^^^ second <<< 1 =
      first <<< 1 ^^^ polynomial ^^^ (second <<< 1 ^^^ polynomial)
    rw [BitVec.xor_comm (second <<< 1) polynomial, BitVec.xor_assoc,
      ← BitVec.xor_assoc polynomial polynomial, BitVec.xor_self, BitVec.zero_xor]

theorem divide_xor (first second : BitVec width) {left right : List Bool}
    (sameLength : left.length = right.length) :
    divide polynomial (first ^^^ second) (List.zipWith xor left right) =
      divide polynomial first left ^^^ divide polynomial second right := by
  induction left generalizing first second right with
  | nil =>
      cases right with
      | nil => rfl
      | cons bit bits => cases sameLength
  | cons bit bits induction =>
      cases right with
      | nil => cases sameLength
      | cons other others =>
          simp only [List.zipWith_cons_cons, divide_cons, divideBit_xor]
          exact induction _ _ (Nat.succ.inj sameLength)

/-! ## Zeros -/

/-- The register after a number of zeros. -/
def divideZeros (register : BitVec width) (count : Nat) : BitVec width :=
  divide polynomial register (List.replicate count false)

theorem divideZeros_succ (register : BitVec width) (count : Nat) :
    divideZeros polynomial register (count + 1) =
      divideZeros polynomial (divideBit polynomial register false) count := rfl

theorem divideZeros_xor (first second : BitVec width) (count : Nat) :
    divideZeros polynomial (first ^^^ second) count =
      divideZeros polynomial first count ^^^ divideZeros polynomial second count := by
  have zeros : List.zipWith xor (List.replicate count false) (List.replicate count false) =
      List.replicate count false := by simp
  have linear := @divide_xor width polynomial first second (List.replicate count false)
    (List.replicate count false) rfl
  rwa [zeros] at linear

@[simp] theorem divideZeros_zero (count : Nat) :
    divideZeros polynomial (BitVec.ofNat width 0) count = BitVec.ofNat width 0 := by
  have doubled := divideZeros_xor polynomial (BitVec.ofNat width 0) (BitVec.ofNat width 0) count
  rwa [BitVec.xor_self, BitVec.xor_self] at doubled

variable {polynomial}

theorem divideBit_eq_zero (odd : polynomial.getLsbD 0 = true) {register : BitVec width}
    (vanishes : divideBit polynomial register false = BitVec.ofNat width 0) :
    register = BitVec.ofNat width 0 := by
  unfold divideBit at vanishes
  rw [Bool.xor_false] at vanishes
  cases top : register.msb with
  | true =>
      rw [top, if_pos rfl] at vanishes
      have lowest := congrArg (·.getLsbD 0) vanishes
      simp [odd] at lowest
  | false =>
      rw [top, if_neg Bool.false_ne_true] at vanishes
      apply BitVec.eq_of_getLsbD_eq
      intro index inside
      by_cases last : index + 1 < width
      · have shifted : (register <<< 1).getLsbD (index + 1) = register.getLsbD index := by
          simp [last, BitVec.getLsbD_eq_getElem inside]
        rw [← shifted, vanishes]
        simp
      · rw [BitVec.msb_eq_getLsbD_last] at top
        have isLast : width - 1 = index := by omega
        rw [isLast] at top
        simpa using top

theorem divideZeros_eq_zero (odd : polynomial.getLsbD 0 = true) {register : BitVec width}
    {count : Nat} (vanishes : divideZeros polynomial register count = BitVec.ofNat width 0) :
    register = BitVec.ofNat width 0 := by
  induction count generalizing register with
  | zero => exact vanishes
  | succ count induction => exact divideBit_eq_zero odd (induction vanishes)

/-! ## Short bit strings -/

/-- The register with a bit at its top. -/
def topBit (width : Nat) (bit : Bool) : BitVec width :=
  if bit then BitVec.twoPow width (width - 1) else BitVec.ofNat width 0

/-- The register with a bit string at its top. -/
def leading (width : Nat) : List Bool → BitVec width
  | [] => BitVec.ofNat width 0
  | bit :: bits => topBit width bit ^^^ (leading width bits >>> 1)

theorem topBit_getLsbD (bit : Bool) (index : Nat) :
    (topBit width bit).getLsbD index = (bit && decide (index + 1 = width)) := by
  cases bit with
  | false => simp [topBit]
  | true =>
      rw [topBit, if_pos rfl, BitVec.getLsbD_twoPow, Bool.true_and]
      by_cases same : index + 1 = width
      · have inside : width - 1 < width := by omega
        have isLast : width - 1 = index := by omega
        rw [decide_eq_true inside, decide_eq_true isLast, decide_eq_true same]
        rfl
      · simp only [same, decide_false, Bool.and_eq_false_imp, decide_eq_true_eq,
          decide_eq_false_iff_not]
        omega

theorem leading_getLsbD_low {bits : List Bool} {index : Nat}
    (low : index + bits.length < width) : (leading width bits).getLsbD index = false := by
  induction bits generalizing index with
  | nil => simp [leading]
  | cons bit bits induction =>
      rw [List.length_cons] at low
      have notTop : ¬index + 1 = width := by omega
      have shifted : (leading width bits).getLsbD (1 + index) = false := by
        apply induction
        omega
      simp [leading, topBit_getLsbD, notTop, shifted]

theorem divideBit_topBit (bit : Bool) (register : BitVec width) (positive : 0 < width) :
    divideBit polynomial register bit =
      divideBit polynomial (register ^^^ topBit width bit) false := by
  have top : (topBit width bit).msb = bit := by
    have isTop : width - 1 + 1 = width := by omega
    rw [BitVec.msb_eq_getLsbD_last, topBit_getLsbD, isTop]
    simp
  have gone : topBit width bit <<< 1 = BitVec.ofNat width 0 := by
    apply BitVec.eq_of_getLsbD_eq
    intro index inside
    rw [BitVec.getLsbD_shiftLeft, topBit_getLsbD]
    by_cases isTop : index - 1 + 1 = width
    · have low : index < 1 := by omega
      simp [low]
    · simp [isTop]
  unfold divideBit
  rw [BitVec.msb_xor, top, Bool.xor_false, BitVec.shiftLeft_xor_distrib, gone, BitVec.xor_zero]

theorem divide_eq_divideZeros (register : BitVec width) {bits : List Bool}
    (short : bits.length ≤ width) :
    divide polynomial register bits =
      divideZeros polynomial (register ^^^ leading width bits) bits.length := by
  induction bits generalizing register with
  | nil =>
      rw [leading, BitVec.xor_zero]
      rfl
  | cons bit bits induction =>
      rw [List.length_cons] at short
      have lowest : (leading width bits).getLsbD 0 = false := by
        apply leading_getLsbD_low
        omega
      have placed : divideBit polynomial (leading width bits >>> 1) false =
          leading width bits := by
        have top : (leading width bits >>> 1).msb = false := by simp [BitVec.msb_ushiftRight]
        rw [divideBit, top, if_neg (by decide)]
        apply BitVec.eq_of_getLsbD_eq
        intro index inside
        cases index with
        | zero => simp [lowest]
        | succ index => simp [inside, Nat.add_comm 1 index]
      have step := divideBit_xor polynomial (register ^^^ topBit width bit)
        (leading width bits >>> 1) false false
      rw [Bool.xor_false, placed] at step
      rw [divide_cons, induction _ (by omega), List.length_cons, divideZeros_succ,
        divideBit_topBit bit register (by omega), leading, ← BitVec.xor_assoc, step]

theorem leading_ne_zero {bits : List Bool} (short : bits.length ≤ width)
    (nonzero : true ∈ bits) : leading width bits ≠ BitVec.ofNat width 0 := by
  induction bits with
  | nil => cases nonzero
  | cons bit bits induction =>
      intro vanishes
      rw [List.length_cons] at short
      have top := congrArg (·.getLsbD (width - 1)) vanishes
      have isTop : width - 1 + 1 = width := by omega
      have beyond : (leading width bits).getLsbD (1 + (width - 1)) = false := by
        apply BitVec.getLsbD_of_ge
        omega
      simp only [leading, BitVec.getLsbD_xor, topBit_getLsbD, isTop, decide_true,
        BitVec.getLsbD_ushiftRight, beyond, BitVec.getLsbD_zero, Bool.xor_false,
        Bool.and_true] at top
      subst top
      apply induction (by omega)
      · simpa using nonzero
      · apply BitVec.eq_of_getLsbD_eq
        intro index inside
        cases index with
        | zero =>
            rw [leading_getLsbD_low (by omega)]
            simp
        | succ index =>
            have shifted := congrArg (·.getLsbD index) vanishes
            simpa [leading, topBit, Nat.add_comm 1 index] using shifted

/-! ## Bursts -/

/-- A burst of errors that is no longer than the register leaves a remainder, however
many bits precede and follow it. -/
theorem divide_burst_ne_zero (odd : polynomial.getLsbD 0 = true) {burst : List Bool}
    (short : burst.length ≤ width) (nonzero : true ∈ burst) (before after : Nat) :
    divide polynomial (BitVec.ofNat width 0)
      (List.replicate before false ++ burst ++ List.replicate after false) ≠
        BitVec.ofNat width 0 := by
  intro vanishes
  rw [divide_append, divide_append] at vanishes
  have burstVanishes := divideZeros_eq_zero odd vanishes
  have beforeIs : divide polynomial (BitVec.ofNat width 0) (List.replicate before false) =
      BitVec.ofNat width 0 :=
    divideZeros_zero polynomial before
  rw [beforeIs, divide_eq_divideZeros _ short, BitVec.zero_xor] at burstVanishes
  exact leading_ne_zero short nonzero (divideZeros_eq_zero odd burstVanishes)

/-! ## Byte strings -/

/-- The bits of a byte, the most significant one first. -/
def byteBits (byte : UInt8) : List Bool := (List.range 8).map byte.toBitVec.getMsbD

def bitsOf (bytes : Bytes) : List Bool := bytes.flatMap byteBits

@[simp] theorem byteBits_length (byte : UInt8) : (byteBits byte).length = 8 := rfl

@[simp] theorem bitsOf_cons (byte : UInt8) (bytes : Bytes) :
    bitsOf (byte :: bytes) = byteBits byte ++ bitsOf bytes := List.flatMap_cons

@[simp] theorem bitsOf_append (first second : Bytes) :
    bitsOf (first ++ second) = bitsOf first ++ bitsOf second := List.flatMap_append

@[simp] theorem bitsOf_length (bytes : Bytes) : (bitsOf bytes).length = 8 * bytes.length := by
  induction bytes with
  | nil => rfl
  | cons byte bytes induction =>
      rw [bitsOf_cons, List.length_append, byteBits_length, induction, List.length_cons]
      omega

theorem byteBits_xor (left right : UInt8) :
    byteBits (left ^^^ right) = List.zipWith xor (byteBits left) (byteBits right) := by
  simp [byteBits, BitVec.getMsbD_xor, List.zipWith_map]

@[simp] theorem bitsOf_zeros (count : Nat) :
    bitsOf (List.replicate count 0) = List.replicate (8 * count) false := by
  induction count with
  | zero => rfl
  | succ count induction =>
      rw [List.replicate_succ, bitsOf_cons, induction, Nat.mul_succ, Nat.add_comm,
        List.replicate_add]
      rfl

/-- Add an error pattern to a byte string. -/
def corrupt (errors bytes : Bytes) : Bytes := List.zipWith (· ^^^ ·) errors bytes

@[simp] theorem corrupt_length {errors bytes : Bytes} (sameLength : errors.length = bytes.length) :
    (corrupt errors bytes).length = bytes.length := by
  simp [corrupt, sameLength]

theorem corrupt_append {errors moreErrors bytes moreBytes : Bytes}
    (sameLength : errors.length = bytes.length) :
    corrupt (errors ++ moreErrors) (bytes ++ moreBytes) =
      corrupt errors bytes ++ corrupt moreErrors moreBytes :=
  List.zipWith_append sameLength

@[simp] theorem corrupt_zeros (bytes : Bytes) :
    corrupt (List.replicate bytes.length 0) bytes = bytes := by
  induction bytes with
  | nil => rfl
  | cons byte bytes induction =>
      rw [List.length_cons, List.replicate_succ, corrupt, List.zipWith_cons_cons,
        UInt8.zero_xor]
      exact congrArg (byte :: ·) induction

theorem bitsOf_corrupt {errors bytes : Bytes} (sameLength : errors.length = bytes.length) :
    bitsOf (corrupt errors bytes) = List.zipWith xor (bitsOf errors) (bitsOf bytes) := by
  induction errors generalizing bytes with
  | nil => rfl
  | cons error errors induction =>
      cases bytes with
      | nil => cases sameLength
      | cons byte bytes =>
          have rest := induction (Nat.succ.inj sameLength)
          rw [bitsOf_cons, bitsOf_cons, List.zipWith_append (by simp), ← byteBits_xor, ← rest]
          rfl

theorem byteBits_nonzero {byte : UInt8} (nonzero : byte ≠ 0) : true ∈ byteBits byte := by
  have allBytes : ∀ bits : BitVec 8, bits ≠ 0#8 → true ∈ (List.range 8).map bits.getMsbD := by
    decide
  apply allBytes
  intro isZero
  exact nonzero (UInt8.toBitVec_inj.mp isZero)

theorem bitsOf_nonzero {bytes : Bytes} (nonzero : ∃ byte ∈ bytes, byte ≠ 0) :
    true ∈ bitsOf bytes := by
  rcases nonzero with ⟨byte, member, isNonzero⟩
  exact List.mem_flatMap.mpr ⟨byte, member, byteBits_nonzero isNonzero⟩

/-- An error pattern: a burst after a number of untouched bytes. -/
def burstPattern (before : Nat) (burst : Bytes) (after : Nat) : Bytes :=
  List.replicate before 0 ++ burst ++ List.replicate after 0

@[simp] theorem burstPattern_length (before : Nat) (burst : Bytes) (after : Nat) :
    (burstPattern before burst after).length = before + burst.length + after := by
  simp [burstPattern, Nat.add_assoc]

/-- A burst within the bytes of the register changes the remainder. -/
theorem divide_corrupt_ne {polynomial : BitVec width} (odd : polynomial.getLsbD 0 = true)
    (register : BitVec width) {burst bytes : Bytes} (short : 8 * burst.length ≤ width)
    (nonzero : ∃ error ∈ burst, error ≠ 0) {before after : Nat}
    (sameLength : (burstPattern before burst after).length = bytes.length) :
    divide polynomial register (bitsOf (corrupt (burstPattern before burst after) bytes)) ≠
      divide polynomial register (bitsOf bytes) := by
  have changes : divide polynomial (BitVec.ofNat width 0)
      (bitsOf (burstPattern before burst after)) ≠ BitVec.ofNat width 0 := by
    rw [burstPattern, bitsOf_append, bitsOf_append, bitsOf_zeros, bitsOf_zeros]
    apply divide_burst_ne_zero odd
    · rwa [bitsOf_length]
    · exact bitsOf_nonzero nonzero
  have sameBits : (bitsOf (burstPattern before burst after)).length = (bitsOf bytes).length := by
    rw [bitsOf_length, bitsOf_length, sameLength]
  have linear := divide_xor polynomial (BitVec.ofNat width 0) register sameBits
  rw [BitVec.zero_xor] at linear
  rw [bitsOf_corrupt sameLength, linear]
  intro unchanged
  apply changes
  have cancelled := (BitVec.xor_left_inj (divide polynomial register (bitsOf bytes))).mp
    (unchanged.trans (BitVec.zero_xor).symm)
  exact cancelled

end Foundation
