/-
This file writes numbers as bits and shows that the readers of bits take them back, each with just
its own bits.
-/

import Screencast.Avc.Bits

namespace Screencast.Avc

/-- A reader takes exactly these bits and gives this value, whatever follows. -/
def Reads {Value : Type} (reader : BitReader Value) (written : List Bool) (value : Value) : Prop :=
  ∀ rest, reader (written ++ rest) = .ok (value, rest)

namespace Reads

variable {Value Result : Type} {reader : BitReader Value} {written : List Bool} {value : Value}

/-- What comes next sees the value and what the reader left. -/
theorem before (reads : Reads reader written value) (next : Value → BitReader Result)
    (rest : List Bool) : (reader >>= next) (written ++ rest) = next value rest := by
  change Except.bind (reader (written ++ rest)) _ = _
  rw [reads rest]
  rfl

/-- What is known already takes no bits. -/
protected theorem pure (value : Value) : Reads (Pure.pure value) [] value := fun _ => rfl

theorem bind {next : Value → BitReader Result} {following : List Bool} {result : Result}
    (reads : Reads reader written value) (others : Reads (next value) following result) :
    Reads (reader >>= next) (written ++ following) result := by
  intro rest
  rw [List.append_assoc, reads.before, others rest]

theorem map {change : Value → Result} (reads : Reads reader written value) :
    Reads (reader >>= fun value => pure (change value)) written (change value) := by
  intro rest
  rw [reads.before]
  rfl

end Reads

theorem reads_bit (bit : Bool) : Reads readBit [bit] bit := fun _ => rfl

/-- The bits of a number of fixed width begin with the most significant one. -/
def fixedBits : (width value : Nat) → List Bool
  | 0, _ => []
  | width + 1, value => value.testBit width :: fixedBits width value

theorem fixedBits_octet (octet : UInt8) : fixedBits 8 octet.toNat = octetBits octet := rfl

/-- The bits read so far stand above the low bits that follow. -/
theorem reads_bitsOnto (width high value : Nat) :
    Reads (readBitsOnto high.toUInt32 width) (fixedBits width value)
      (high <<< width + value % (1 <<< width)).toUInt32 := by
  rw [Nat.shiftLeft_eq, Nat.one_shiftLeft]
  induction width generalizing high with
  | zero =>
      intro rest
      rw [Nat.pow_zero, Nat.mul_one, Nat.mod_one, Nat.add_zero]
      rfl
  | succ width inductionHypothesis =>
      have shifted : high.toUInt32 * 2 + (if value.testBit width then 1 else 0) =
          (high * 2 + (value.testBit width).toNat).toUInt32 := by
        cases value.testBit width
        · simp [UInt32.ofNat_mul]
        · simp [UInt32.ofNat_add, UInt32.ofNat_mul]
      have sum : high * 2 ^ (width + 1) + value % 2 ^ (width + 1) =
          (high * 2 + (value.testBit width).toNat) * 2 ^ width + value % 2 ^ width := by
        rw [Nat.mod_pow_succ, Nat.toNat_testBit, Nat.pow_succ, Nat.add_mul, Nat.mul_assoc high,
          Nat.mul_comm 2, Nat.mul_comm (2 ^ width) (value / 2 ^ width % 2)]
        omega
      rw [sum]
      apply Reads.bind (reads_bit _)
      rw [shifted]
      exact inductionHypothesis _

theorem reads_bits {width value : Nat} (fits : value < 1 <<< width) :
    Reads (readBits width) (fixedBits width value) value.toUInt32 := by
  have read := reads_bitsOnto width 0 value
  rw [Nat.zero_shiftLeft, Nat.zero_add, Nat.mod_eq_of_lt fits] at read
  exact read

theorem reads_octet (octet : UInt8) : Reads (readBits 8) (octetBits octet) octet.toUInt32 := by
  rw [← UInt32.ofNat_uInt8ToNat, ← fixedBits_octet]
  exact reads_bits octet.toNat_lt

theorem reads_zeros {count allowed : Nat} (few : count ≤ allowed) :
    Reads (readZeros allowed) (List.replicate count false ++ [true]) count := by
  induction count generalizing allowed with
  | zero =>
      intro rest
      cases allowed <;> rfl
  | succ count inductionHypothesis =>
      obtain ⟨allowed, rfl⟩ : ∃ fewer, allowed = fewer + 1 := ⟨allowed - 1, by omega⟩
      apply Reads.bind (reads_bit false)
      exact (inductionHypothesis (Nat.le_of_succ_le_succ few)).map

/-- An unsigned code can carry these numbers. -/
abbrev Unsigned := Fin 4294967295

namespace Unsigned

/-- The code of a number is one more than the number in binary, behind a zero for each bit after
the first. -/
def bits (number : Unsigned) : List Bool :=
  let width := (number.val + 1).log2
  List.replicate width false ++ [true] ++ fixedBits width (number.val + 1 - 1 <<< width)

def word (number : Unsigned) : UInt32 := number.val.toUInt32

@[simp] theorem toNat_word (number : Unsigned) : number.word.toNat = number.val := by
  have fits := number.isLt
  exact UInt32.toNat_ofNat_of_lt' (by rw [UInt32.size]; omega)

theorem reads (number : Unsigned) : Reads readUnsigned number.bits number.word := by
  have low := Nat.log2_self_le (n := number.val + 1) (by omega)
  have high := Nat.lt_log2_self (n := number.val + 1)
  have short : (number.val + 1).log2 < 32 := (Nat.log2_lt (by omega)).2 (by omega)
  rw [bits]
  generalize (number.val + 1).log2 = width at low high short ⊢
  rw [Nat.pow_succ] at high
  rw [← Nat.one_shiftLeft] at low high
  have suffix : number.val + 1 - 1 <<< width < 1 <<< width := by omega
  have fits : number.val + 1 - 1 <<< width < UInt32.size := by rw [UInt32.size]; omega
  have value : number.word =
      (1 <<< width - 1 + (number.val + 1 - 1 <<< width).toUInt32.toNat).toUInt32 := by
    rw [Nat.toUInt32_eq, UInt32.toNat_ofNat_of_lt' fits, word]
    congr 1
    omega
  rw [value]
  apply Reads.bind (reads_zeros (Nat.le_of_lt_succ short))
  exact (reads_bits suffix).map

end Unsigned

/-- A signed code can carry these numbers. -/
abbrev Signed := { number : Int // -2147483647 ≤ number ∧ number ≤ 2147483647 }

namespace Signed

/-- The positive numbers have the odd codes. -/
def code (number : Signed) : Unsigned :=
  ⟨(if 0 < number.val then 2 * number.val - 1 else -(2 * number.val)).toNat, by omega⟩

def bits (number : Signed) : List Bool := number.code.bits

def word (number : Signed) : Int32 := Int32.ofInt number.val

@[simp] theorem toInt_word (number : Signed) : number.word.toInt = number.val := by
  have bounds := number.property
  exact Int32.toInt_ofInt_of_le (by omega) (by omega)

theorem reads (number : Signed) : Reads readSigned number.bits number.word := by
  have value : number.word = Int32.ofInt (if (number.code.word.toNat : Int) % 2 = 1
      then ((number.code.word.toNat : Int) + 1) / 2 else -((number.code.word.toNat : Int) / 2)) := by
    rw [Unsigned.toNat_word, code, word]
    congr 1
    dsimp only
    split <;> split <;> omega
  rw [value]
  exact number.code.reads.map

end Signed

end Screencast.Avc
