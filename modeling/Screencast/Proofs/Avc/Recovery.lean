/-
This file shows the converse of reading codes: the bits that a reader accepts are the bits of some
code.
-/

import Screencast.Proofs.Avc.Codes

namespace Screencast.Avc

/-- Whatever a reader finds was written for one of these elements, in front of what it leaves. -/
def Recovers {Element Value : Type} (reader : BitReader Value) (written : Element → List Bool)
    (value : Element → Value) : Prop :=
  ∀ bits found rest, reader bits = .ok (found, rest) →
    ∃ element, found = value element ∧ bits = written element ++ rest

/-- What comes next has read the rest of the bits. -/
theorem exists_of_bind {Value Result : Type} {reader : BitReader Value}
    {next : Value → BitReader Result} {bits rest : List Bool} {result : Result}
    (found : (reader >>= next) bits = .ok (result, rest)) :
    ∃ value behind, reader bits = .ok (value, behind) ∧ next value behind = .ok (result, rest) := by
  change Except.bind (reader bits) _ = _ at found
  cases read : reader bits with
  | error fault =>
      rw [read] at found
      cases found
  | ok pair =>
      rw [read] at found
      exact ⟨pair.1, pair.2, rfl, found⟩

/-- A result that needs no bits leaves all of them. -/
theorem rest_of_lift {Value : Type} {result : Except MediaFault Value} {value : Value}
    {bits rest : List Bool}
    (found : (monadLift result : BitReader Value) bits = .ok (value, rest)) : bits = rest := by
  cases result with
  | error fault => cases found
  | ok value =>
      cases found
      rfl

namespace Recovers

variable {Element Value Result : Type} {reader : BitReader Value} {written : Element → List Bool}
  {value : Element → Value}

/-- A reader of all elements needs only their bits to recover them. -/
theorem of_reads (reads : ∀ element, Reads reader (written element) (value element))
    (spelled : ∀ bits found rest, reader bits = .ok (found, rest) →
      ∃ element, bits = written element ++ rest) : Recovers reader written value := by
  intro bits found rest read
  obtain ⟨element, rfl⟩ := spelled bits found rest read
  rw [reads element rest] at read
  cases read
  exact ⟨element, rfl, rfl⟩

theorem bind (recovers : Recovers reader written value) {next : Value → BitReader Result}
    {bits rest : List Bool} {result : Result}
    (found : (reader >>= next) bits = .ok (result, rest)) :
    ∃ element behind, next (value element) behind = .ok (result, rest) ∧
      bits = written element ++ behind := by
  obtain ⟨_, behind, read, others⟩ := exists_of_bind found
  obtain ⟨element, rfl, rfl⟩ := recovers _ _ _ read
  exact ⟨element, behind, others, rfl⟩

end Recovers

theorem recovers_bit : Recovers readBit (fun bit => [bit]) id := by
  intro bits found rest read
  cases bits with
  | nil => cases read
  | cons bit bits =>
      cases read
      exact ⟨found, rfl, rfl⟩

/-- Bits above the width of a number are not written. -/
theorem fixedBits_add {width above : Nat} (within : width ≤ above) (high : Nat) {value : Nat}
    (small : value < 1 <<< above) :
    fixedBits width ((1 <<< above) * high + value) = fixedBits width value := by
  rw [Nat.one_shiftLeft] at small ⊢
  induction width with
  | zero => rfl
  | succ width inductionHypothesis =>
      rw [fixedBits, fixedBits, inductionHypothesis (by omega),
        Nat.testBit_two_pow_mul_add high small, if_pos (Nat.lt_of_succ_le within)]

/-- Any bits write a number of their width. -/
theorem exists_fixedBits (bits : List Bool) :
    ∃ value < 1 <<< bits.length, bits = fixedBits bits.length value := by
  induction bits with
  | nil => exact ⟨0, Nat.one_pos, rfl⟩
  | cons bit bits inductionHypothesis =>
      obtain ⟨value, small, spelled⟩ := inductionHypothesis
      refine ⟨(1 <<< bits.length) * bit.toNat + value, ?_, ?_⟩
      · have bound : bit.toNat ≤ 1 := Bool.toNat_le bit
        have product := Nat.mul_le_mul_left (1 <<< bits.length) bound
        rw [List.length_cons, Nat.shiftLeft_succ]
        omega
      · rw [List.length_cons, fixedBits, fixedBits_add (Nat.le_refl _) _ small, ← spelled]
        rw [Nat.one_shiftLeft] at small ⊢
        rw [Nat.testBit_two_pow_mul_add _ small, if_neg (Nat.lt_irrefl _), Nat.sub_self]
        cases bit <;> rfl

theorem length_of_readBitsOnto {width : Nat} {value found : UInt32} {bits rest : List Bool}
    (read : readBitsOnto value width bits = .ok (found, rest)) :
    ∃ front, front.length = width ∧ bits = front ++ rest := by
  induction width generalizing value bits with
  | zero =>
      cases read
      exact ⟨[], rfl, rfl⟩
  | succ width inductionHypothesis =>
      obtain ⟨bit, _, others, rfl⟩ := recovers_bit.bind read
      obtain ⟨front, length, rfl⟩ := inductionHypothesis others
      exact ⟨bit :: front, congrArg Nat.succ length, rfl⟩

/-- A number of fixed width is recovered from its bits. -/
theorem recovers_bits (width : Nat) :
    Recovers (readBits width) (fun value : Fin (1 <<< width) => fixedBits width value.val)
      fun value => value.val.toUInt32 := by
  apply Recovers.of_reads
  · intro value
    exact reads_bits value.isLt
  · intro bits found rest read
    obtain ⟨front, rfl, rfl⟩ := length_of_readBitsOnto read
    obtain ⟨value, small, spelled⟩ := exists_fixedBits front
    exact ⟨⟨value, small⟩, congrArg (· ++ rest) spelled⟩

theorem recovers_octet : Recovers (readBits 8) octetBits UInt8.toUInt32 := by
  apply Recovers.of_reads reads_octet
  intro bits found rest read
  obtain ⟨value, -, rfl⟩ := recovers_bits 8 _ _ _ read
  have fits : value.val < UInt8.size := value.isLt
  refine ⟨value.val.toUInt8, ?_⟩
  rw [← fixedBits_octet, Nat.toUInt8_eq, UInt8.toNat_ofNat_of_lt' fits]

theorem zeros_of_readZeros {allowed count : Nat} {bits rest : List Bool}
    (read : readZeros allowed bits = .ok (count, rest)) :
    count ≤ allowed ∧ bits = List.replicate count false ++ [true] ++ rest := by
  induction allowed generalizing bits count with
  | zero =>
      obtain ⟨bit, _, others, rfl⟩ := recovers_bit.bind read
      cases bit with
      | true =>
          cases others
          exact ⟨Nat.le_refl _, rfl⟩
      | false => cases others
  | succ allowed inductionHypothesis =>
      obtain ⟨bit, _, others, rfl⟩ := recovers_bit.bind read
      cases bit with
      | true =>
          cases others
          exact ⟨Nat.zero_le _, rfl⟩
      | false =>
          obtain ⟨zeros, _, more, last⟩ := exists_of_bind others
          cases last
          obtain ⟨few, rfl⟩ := inductionHypothesis more
          exact ⟨Nat.succ_le_succ few, rfl⟩

namespace Unsigned

/-- The zeros tell the width of a code and the bits behind its one are the low bits. -/
theorem bits_of_width {width : Nat} {low : Nat} (small : low < 1 <<< width) {number : Unsigned}
    (value : number.val + 1 = 1 <<< width + low) :
    number.bits = List.replicate width false ++ [true] ++ fixedBits width low := by
  have log : (number.val + 1).log2 = width := by
    rw [Nat.one_shiftLeft] at small value
    rw [Nat.log2_eq_iff (by omega), Nat.pow_succ]
    omega
  rw [bits, log, value, Nat.add_sub_cancel_left]

theorem recovers : Recovers readUnsigned bits word := by
  apply Recovers.of_reads reads
  intro written found rest read
  obtain ⟨width, _, zeros, others⟩ := exists_of_bind read
  obtain ⟨few, rfl⟩ := zeros_of_readZeros zeros
  obtain ⟨low, _, last, rfl⟩ := (recovers_bits width).bind others
  cases last
  have high : 1 <<< width ≤ 2147483648 := by
    rw [Nat.one_shiftLeft]
    exact Nat.pow_le_pow_right (by decide) few
  have small := low.isLt
  let number : Unsigned := ⟨1 <<< width + low.val - 1, by omega⟩
  have value : number.val + 1 = 1 <<< width + low.val := by
    change 1 <<< width + low.val - 1 + 1 = _
    omega
  refine ⟨number, ?_⟩
  rw [bits_of_width small value]
  simp only [List.append_assoc]

end Unsigned

namespace Signed

/-- Every code belongs to a signed number. -/
theorem exists_code (number : Unsigned) : ∃ signed : Signed, signed.code = number := by
  have bound := number.isLt
  by_cases odd : number.val % 2 = 1
  · refine ⟨⟨((number.val + 1) / 2 : Nat), by omega⟩, Fin.ext ?_⟩
    rw [code]
    dsimp only
    omega
  · refine ⟨⟨-(number.val / 2 : Nat), by omega⟩, Fin.ext ?_⟩
    rw [code]
    dsimp only
    omega

theorem recovers : Recovers readSigned bits word := by
  apply Recovers.of_reads reads
  intro written found rest read
  obtain ⟨number, _, last, rfl⟩ := Unsigned.recovers.bind read
  obtain ⟨signed, rfl⟩ := exists_code number
  cases last
  exact ⟨signed, rfl⟩

end Signed

end Screencast.Avc
