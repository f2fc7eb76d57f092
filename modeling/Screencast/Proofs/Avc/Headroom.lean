/-
This file reads codes in numbers that are checked against the range of their type at every step. No
check ever fails, so the readers of codes lose no bit of a number.
-/

import Screencast.Proofs.Avc.Recovery

namespace Screencast.Avc

/-- A checked reader stops at a fault of the bits, or where a number leaves its range. -/
inductive Stop
  | fault (fault : MediaFault)
  | overflow

abbrev CheckedReader := StateT (List Bool) (Except Stop)

/-- A type holds the numbers from the lowest one up to below a bound. -/
structure Range where
  low : Int
  bound : Int

namespace Range

def unsigned (width : Nat) : Range := ⟨0, (1 <<< width : Nat)⟩

/-- One bit of the width is the sign. -/
def signed (width : Nat) : Range := ⟨-(1 <<< (width - 1) : Nat), (1 <<< (width - 1) : Nat)⟩

def check (range : Range) (number : Int) : CheckedReader Int :=
  if range.low ≤ number ∧ number < range.bound then pure number else throw .overflow

theorem check_unsigned {width : Nat} {number : Int} (low : 0 ≤ number)
    (high : number < (1 <<< width : Nat)) : (unsigned width).check number = pure number :=
  if_pos ⟨low, high⟩

theorem check_signed {width : Nat} {number : Int} (low : -(1 <<< (width - 1) : Nat) ≤ number)
    (high : number < (1 <<< (width - 1) : Nat)) : (signed width).check number = pure number :=
  if_pos ⟨low, high⟩

end Range

/-- Taking bits needs no check. -/
def checked {Value : Type} (reader : BitReader Value) : CheckedReader Value :=
  fun bits => (reader bits).mapError .fault

/-- The zeros are counted up to one more than are allowed. -/
def checkedZeros (counted : Int) : (allowed : Nat) → CheckedReader Int
  | 0 => do
      if ← checked readBit then pure counted
      else
        let _ ← (Range.unsigned 32).check (counted + 1)
        throw (.fault (.invalidSps .codeLength))
  | allowed + 1 => do
      if ← checked readBit then pure counted
      else
        let counted ← (Range.unsigned 32).check (counted + 1)
        checkedZeros counted allowed

/-- The value is shifted before the next bit is added. -/
def checkedBitsOnto (value : Int) : (count : Nat) → CheckedReader Int
  | 0 => pure value
  | count + 1 => do
      let bit ← checked readBit
      let shifted ← (Range.unsigned 32).check (value * 2)
      let value ← (Range.unsigned 32).check (shifted + if bit then 1 else 0)
      checkedBitsOnto value count

/-- The value of a code is summed up in 64 bits and kept in 32. -/
def checkedUnsigned : CheckedReader Int := do
  let zeros ← checkedZeros 0 31
  let suffix ← checkedBitsOnto 0 zeros.toNat
  let width ← (Range.unsigned 6).check zeros
  let power ← (Range.unsigned 64).check (1 <<< width.toNat : Nat)
  let below ← (Range.unsigned 64).check (power - 1)
  let sum ← (Range.unsigned 64).check (below + suffix)
  (Range.unsigned 32).check sum

def checkedSigned : CheckedReader Int := do
  let code ← checkedUnsigned
  let code ← (Range.signed 64).check code
  if code % 2 = 1 then
    let next ← (Range.signed 64).check (code + 1)
    (Range.signed 32).check (next / 2)
  else
    let opposite ← (Range.signed 64).check (-(code / 2))
    (Range.signed 32).check opposite

/-- Some bits let a reader find this value. -/
def Finds {Value : Type} (reader : BitReader Value) (value : Value) : Prop :=
  ∃ bits rest, reader bits = .ok (value, rest)

/-- A checked reader finds the number that a word of the other reader stands for, and leaves the same
bits. Both find the same faults, and no number leaves its range. -/
def Agrees {Word Number : Type} (checkedReader : CheckedReader Number) (reader : BitReader Word)
    (number : Word → Number) : Prop :=
  ∀ bits, checkedReader bits =
    ((reader bits).map fun found => (number found.1, found.2)).mapError .fault

namespace Agrees

variable {Word Number Value Result : Type}

theorem checked (reader : BitReader Value) : Agrees (Avc.checked reader) reader id := by
  intro bits
  rw [Avc.checked]
  cases reader bits <;> rfl

protected theorem pure {word : Word} {number : Word → Number} {value : Number}
    (same : value = number word) : Agrees (Pure.pure value) (Pure.pure word) number := by
  intro bits
  rw [same]
  rfl

/-- What comes next needs to agree only for the values that can be found. -/
theorem bind {first : CheckedReader Number} {reader : BitReader Word} {number : Word → Number}
    {others : Number → CheckedReader Result} {next : Word → BitReader Value}
    {result : Value → Result} (agrees : Agrees first reader number)
    (rest : ∀ word, Finds reader word → Agrees (others (number word)) (next word) result) :
    Agrees (first >>= others) (reader >>= next) result := by
  intro bits
  change Except.bind (first bits) _ = ((Except.bind (reader bits) _).map _).mapError .fault
  rw [agrees bits]
  cases read : reader bits with
  | error fault => rfl
  | ok found => exact rest found.1 ⟨bits, found.2, read⟩ found.2

theorem map {first : CheckedReader Number} {reader : BitReader Word} {change : Word → Value}
    {number : Value → Number} (agrees : Agrees first reader fun word => number (change word)) :
    Agrees first (reader >>= fun word => Pure.pure (change word)) number := by
  intro bits
  rw [agrees bits]
  change _ = ((Except.bind (reader bits) fun found =>
    .ok (change found.1, found.2)).map _).mapError Stop.fault
  cases reader bits <;> rfl

end Agrees

theorem agrees_zeros {counted : Int} {allowed : Nat} (low : 0 ≤ counted)
    (room : counted + allowed + 1 < 4294967296) :
    Agrees (checkedZeros counted allowed) (readZeros allowed)
      fun zeros => counted + (zeros : Int) := by
  induction allowed generalizing counted with
  | zero =>
      apply (Agrees.checked readBit).bind
      intro bit _
      cases bit with
      | true => exact .pure (Int.add_zero counted).symm
      | false =>
          rw [id_eq, if_neg Bool.false_ne_true, if_neg Bool.false_ne_true,
            Range.check_unsigned (by omega) (by omega), pure_bind]
          intro bits
          rfl
  | succ allowed inductionHypothesis =>
      apply (Agrees.checked readBit).bind
      intro bit _
      cases bit with
      | true => exact .pure (Int.add_zero counted).symm
      | false =>
          have next : (fun zeros : Nat => counted + ((zeros + 1 : Nat) : Int)) =
              fun zeros : Nat => counted + 1 + (zeros : Int) := by
            funext zeros
            omega
          rw [id_eq, if_neg Bool.false_ne_true, if_neg Bool.false_ne_true,
            Range.check_unsigned (by omega) (by omega), pure_bind]
          apply Agrees.map
          rw [next]
          exact inductionHypothesis (by omega) (by omega)

/-- There is room for a bit below a value that has room for it. -/
theorem toNat_append {value : UInt32} (bit : Bool) (room : 2 * (value.toNat + 1) ≤ 4294967296) :
    (value * 2 + if bit then 1 else 0).toNat = value.toNat * 2 + if bit then 1 else 0 := by
  cases bit with
  | false =>
      simp only [Bool.false_eq_true, if_false, UInt32.add_zero, UInt32.toNat_mul]
      exact Nat.mod_eq_of_lt (by change value.toNat * 2 < _; omega)
  | true =>
      simp only [if_true, UInt32.toNat_add, UInt32.toNat_mul]
      change (value.toNat * 2 % _ + 1) % _ = _
      omega

/-- The room is for the value and all the bits that are still to come behind it. -/
theorem agrees_bitsOnto {value : UInt32} {count : Nat}
    (room : (value.toNat + 1) <<< count ≤ 4294967296) :
    Agrees (checkedBitsOnto value.toNat count) (readBitsOnto value count)
      fun word => (word.toNat : Int) := by
  induction count generalizing value with
  | zero => exact .pure rfl
  | succ count inductionHypothesis =>
      rw [Nat.shiftLeft_succ_inside] at room
      have wide : 2 * (value.toNat + 1) ≤ (2 * (value.toNat + 1)) <<< count := by
        rw [Nat.shiftLeft_eq]
        exact Nat.le_mul_of_pos_right _ (Nat.two_pow_pos count)
      apply (Agrees.checked readBit).bind
      intro bit _
      have next := toNat_append bit (Nat.le_trans wide room)
      have sum : (value.toNat * 2 + if bit then 1 else 0 : Int) =
          (value * 2 + if bit then 1 else 0 : UInt32).toNat := by
        rw [next]
        cases bit <;> rfl
      have small : (if bit then 1 else 0) ≤ 1 := by cases bit <;> decide
      rw [Range.check_unsigned (by omega) (by omega), pure_bind, id_eq, sum,
        Range.check_unsigned (by omega) (by omega), pure_bind]
      apply inductionHypothesis
      rw [next]
      refine Nat.le_trans ?_ room
      rw [Nat.shiftLeft_eq, Nat.shiftLeft_eq]
      exact Nat.mul_le_mul_right _ (by omega)

theorem toNat_of_readBits {width : Nat} {value : UInt32}
    (found : Finds (readBits width) value) : value.toNat < 1 <<< width := by
  obtain ⟨_, _, read⟩ := found
  obtain ⟨low, spelled, -⟩ := recovers_bits width _ _ _ read
  rw [spelled]
  exact Nat.lt_of_le_of_lt (Nat.mod_le _ _) low.isLt

theorem one_shiftLeft_le {zeros : Nat} (few : zeros ≤ 31) : 1 <<< zeros ≤ 2147483648 := by
  rw [Nat.one_shiftLeft]
  exact Nat.pow_le_pow_right (by decide) few

theorem agrees_unsigned :
    Agrees checkedUnsigned readUnsigned fun word => (word.toNat : Int) := by
  apply (agrees_zeros (by decide) (by decide)).bind
  rintro zeros ⟨_, _, counted⟩
  have few := (zeros_of_readZeros counted).1
  have power := one_shiftLeft_le few
  have positive : 0 < 1 <<< zeros := by
    rw [Nat.one_shiftLeft]
    exact Nat.two_pow_pos zeros
  have room : ((0 : UInt32).toNat + 1) <<< zeros ≤ 4294967296 := Nat.le_trans power (by decide)
  rw [Int.zero_add, Int.toNat_natCast]
  apply (agrees_bitsOnto room).bind
  intro suffix found
  have small := toNat_of_readBits found
  rw [Range.check_unsigned (by omega) (by omega), pure_bind, Int.toNat_natCast,
    Range.check_unsigned (by omega) (by omega), pure_bind,
    Range.check_unsigned (by omega) (by omega), pure_bind,
    Range.check_unsigned (by omega) (by omega), pure_bind,
    Range.check_unsigned (by omega) (by omega)]
  apply Agrees.pure
  rw [Nat.toUInt32_eq, UInt32.toNat_ofNat_of_lt' (by rw [UInt32.size]; omega)]
  omega

theorem toNat_of_readUnsigned {word : UInt32} (found : Finds readUnsigned word) :
    word.toNat < 4294967295 := by
  obtain ⟨_, _, read⟩ := found
  obtain ⟨number, rfl, -⟩ := Unsigned.recovers _ _ _ read
  rw [Unsigned.toNat_word]
  exact number.isLt

theorem agrees_signed : Agrees checkedSigned readSigned Int32.toInt := by
  apply agrees_unsigned.bind
  intro word found
  have bound := toNat_of_readUnsigned found
  rw [Range.check_signed (by omega) (by omega), pure_bind]
  split
  case isTrue odd =>
    rw [Range.check_signed (by omega) (by omega), pure_bind,
      Range.check_signed (by omega) (by omega)]
    apply Agrees.pure
    rw [if_pos odd, Int32.toInt_ofInt_of_le (by omega) (by omega)]
  case isFalse even =>
    rw [Range.check_signed (by omega) (by omega), pure_bind,
      Range.check_signed (by omega) (by omega)]
    apply Agrees.pure
    rw [if_neg even, Int32.toInt_ofInt_of_le (by omega) (by omega)]

end Screencast.Avc
