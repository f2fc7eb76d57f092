/-
This file says what the readers of codes find at every bit position of an octet string: the number of
a code that stands there, and otherwise one of two faults.
-/

import Screencast.Proofs.Avc.Escaping
import Screencast.Proofs.Avc.Headroom
import Screencast.Proofs.Avc.Truncation

namespace Screencast.Avc

/-- A position counts the bits of all octets. The first bit of an octet is its most significant one. -/
def bitAt? (octets : Octets) (position : Nat) : Option Bool :=
  octets[position / 8]?.map fun octet => octet.toNat.testBit (7 - position % 8)

/-- The bits stand one after the other from a position on. -/
def BitsAt (octets : Octets) (position : Nat) (written : List Bool) : Prop :=
  ∀ index (inside : index < written.length),
    bitAt? octets (position + index) = some written[index]

theorem getElem?_octetBits (octet : UInt8) {position : Nat} (inside : position < 8) :
    (octetBits octet)[position]? = some (octet.toNat.testBit (7 - position)) := by
  have listed : octetBits octet =
      (List.range 8).map fun position => octet.toNat.testBit (7 - position) := rfl
  rw [listed, List.getElem?_map, List.getElem?_range inside]
  rfl

theorem getElem?_bits (octets : Octets) (position : Nat) :
    (bits octets)[position]? = bitAt? octets position := by
  induction octets generalizing position with
  | nil => rfl
  | cons octet octets inductionHypothesis =>
      rw [bits, List.flatMap_cons, ← bits, bitAt?]
      have width : (octetBits octet).length = 8 := rfl
      by_cases first : position < 8
      · rw [List.getElem?_append_left (by omega), getElem?_octetBits octet first,
          Nat.div_eq_of_lt first, Nat.mod_eq_of_lt first]
        rfl
      · obtain ⟨behind, rfl⟩ := Nat.exists_eq_add_of_le' (Nat.le_of_not_lt first)
        rw [List.getElem?_append_right (by omega), width, Nat.add_sub_cancel,
          inductionHypothesis, bitAt?, Nat.add_mod_right, Nat.add_div_right behind (by decide),
          List.getElem?_cons_succ]

theorem bitsAt_iff {octets : Octets} {position : Nat} {written : List Bool} :
    BitsAt octets position written ↔ written <+: (bits octets).drop position := by
  simp only [BitsAt, List.prefix_iff_getElem?, List.getElem?_drop, getElem?_bits]

instance (octets : Octets) (position : Nat) (written : List Bool) :
    Decidable (BitsAt octets position written) :=
  decidable_of_iff _ bitsAt_iff.symm

theorem BitsAt.split {octets : Octets} {position : Nat} {written : List Bool}
    (stand : BitsAt octets position written) :
    (bits octets).drop position =
      written ++ (bits octets).drop (position + written.length) := by
  obtain ⟨rest, spelled⟩ := bitsAt_iff.1 stand
  rw [← List.drop_drop, ← spelled, List.drop_left]

/-- A reader of bits that stand at a position goes on behind them. -/
theorem BitsAt.read {Value : Type} {octets : Octets} {position : Nat} {written : List Bool}
    {reader : BitReader Value} {value : Value} (stand : BitsAt octets position written)
    (reads : Reads reader written value) :
    reader ((bits octets).drop position) =
      .ok (value, (bits octets).drop (position + written.length)) := by
  rw [stand.split, reads]

/-- Bits that reach the end of the octets are all that is left. -/
theorem bitsAt_and_end_iff {octets : Octets} {position : Nat} {written : List Bool} :
    BitsAt octets position written ∧ position + written.length = 8 * octets.length ↔
      position ≤ 8 * octets.length ∧ (bits octets).drop position = written := by
  constructor
  · rintro ⟨stand, reach⟩
    refine ⟨by omega, ?_⟩
    rw [stand.split, reach, ← length_bits, List.drop_length, List.append_nil]
  · rintro ⟨within, rfl⟩
    rw [bitsAt_iff, List.length_drop, length_bits]
    exact ⟨List.prefix_rfl, by omega⟩

def leadingZeros (written : List Bool) : Nat := (written.takeWhile fun bit => !bit).length

theorem length_fixedBits (width value : Nat) : (fixedBits width value).length = width := by
  induction width with
  | zero => rfl
  | succ width inductionHypothesis => rw [fixedBits, List.length_cons, inductionHypothesis]

namespace Unsigned

/-- A code has a one in the middle. -/
theorem length_bits (number : Unsigned) :
    number.bits.length = 2 * leadingZeros number.bits + 1 := by
  have zeros : leadingZeros number.bits = (number.val + 1).log2 := by
    rw [leadingZeros, bits, List.append_assoc, List.takeWhile_append_of_pos]
    · simp
    · simp
  rw [zeros, bits]
  simp only [List.length_append, List.length_replicate, List.length_singleton, length_fixedBits]
  omega

end Unsigned

/-- The codes from zero on stand for 0, 1, -1, 2, -2 and so on. -/
def signedValue (code : Nat) : Int :=
  (if code % 2 = 0 then -1 else 1) * ((code + 1) / 2 : Nat)

theorem signedValue_code (number : Signed) : signedValue number.code.val = number.val := by
  rw [signedValue, Signed.code]
  dsimp only
  split <;> split <;> omega

/-- A reader runs out of bits where they end inside of what it would read. -/
theorem Stable.cut {Value : Type} {reader : BitReader Value} {written : List Bool} {value : Value}
    (stable : Stable reader) (reads : Reads reader written value) {count : Nat}
    (inside : count < written.length) : reader (written.take count) = .error .truncatedSps := by
  apply Classical.byContradiction
  intro whole
  have all := reads []
  rw [List.append_nil, ← List.take_append_drop count written, stable _ _ whole] at all
  cases found : reader (written.take count) with
  | error fault =>
      rw [found] at all
      cases all
  | ok pair =>
      rw [found] at all
      obtain ⟨-, nothing⟩ := Prod.mk.inj (Except.ok.inj all)
      have rest := (List.append_eq_nil_iff.1 nothing).2
      rw [List.drop_eq_nil_iff] at rest
      omega

theorem bind_of_error {Value Result : Type} {reader : BitReader Value} {written : List Bool}
    {fault : MediaFault} (failed : reader written = .error fault)
    (next : Value → BitReader Result) : (reader >>= next) written = .error fault := by
  change Except.bind (reader written) _ = _
  rw [failed]
  rfl

theorem readZeros_of_many (allowed : Nat) (rest : List Bool) :
    readZeros allowed (List.replicate (allowed + 1) false ++ rest) =
      .error (.invalidSps .codeLength) := by
  induction allowed with
  | zero => rfl
  | succ allowed inductionHypothesis =>
      exact bind_of_error inductionHypothesis fun zeros => pure (zeros + 1)

theorem readUnsigned_of_many (rest : List Bool) :
    readUnsigned (List.replicate 32 false ++ rest) = .error (.invalidSps .codeLength) :=
  bind_of_error (readZeros_of_many 31 rest) _

theorem readSigned_of_many (rest : List Bool) :
    readSigned (List.replicate 32 false ++ rest) = .error (.invalidSps .codeLength) :=
  bind_of_error (readUnsigned_of_many rest) _

/-- Any bits of the right number complete a code. -/
theorem Unsigned.exists_bits {zeros : Nat} (few : zeros ≤ 31) {low : List Bool}
    (width : low.length = zeros) :
    ∃ number : Unsigned, number.bits = List.replicate zeros false ++ [true] ++ low := by
  obtain ⟨value, small, spelled⟩ := exists_fixedBits low
  rw [width] at small spelled
  have high := one_shiftLeft_le few
  refine ⟨⟨1 <<< zeros + value - 1, by omega⟩, ?_⟩
  rw [Unsigned.bits_of_width small (by dsimp only; omega), ← spelled]

theorem exists_zeros (tail : List Bool) :
    ∃ zeros, tail = List.replicate zeros false ∨
      ∃ behind, tail = List.replicate zeros false ++ [true] ++ behind := by
  induction tail with
  | nil => exact ⟨0, .inl rfl⟩
  | cons bit tail inductionHypothesis =>
      cases bit with
      | true => exact ⟨0, .inr ⟨tail, rfl⟩⟩
      | false =>
          obtain ⟨zeros, rfl | ⟨behind, rfl⟩⟩ := inductionHypothesis
          · exact ⟨zeros + 1, .inl rfl⟩
          · exact ⟨zeros + 1, .inr ⟨behind, rfl⟩⟩

/-- A part of a code that lacks some bits is a cut. -/
theorem Unsigned.exists_cut {number : Unsigned} {tail more : List Bool}
    (spelled : number.bits = tail ++ more) (lacking : more ≠ []) :
    ∃ count < number.bits.length, tail = number.bits.take count := by
  refine ⟨tail.length, ?_, ?_⟩
  · have positive := List.length_pos_iff.2 lacking
    rw [spelled, List.length_append]
    omega
  · rw [spelled, List.take_left]

/-- Bits begin with a code or with too many zeros, or they end inside of a code. -/
theorem exists_code_or_cut (tail : List Bool) :
    (∃ number : Unsigned, number.bits <+: tail) ∨ List.replicate 32 false <+: tail ∨
      ∃ number : Unsigned, ∃ count < number.bits.length, tail = number.bits.take count := by
  obtain ⟨zeros, found⟩ := exists_zeros tail
  by_cases many : 32 ≤ zeros
  · refine .inr (.inl ?_)
    obtain ⟨more, rfl⟩ := Nat.exists_eq_add_of_le many
    rw [← List.replicate_append_replicate] at found
    rcases found with rfl | ⟨behind, rfl⟩
    · exact List.prefix_append _ _
    · rw [List.append_assoc, List.append_assoc]
      exact List.prefix_append _ _
  have few : zeros ≤ 31 := by omega
  rcases found with rfl | ⟨behind, rfl⟩
  · obtain ⟨number, spelled⟩ :=
      Unsigned.exists_bits few (List.length_replicate : (List.replicate zeros false).length = zeros)
    rw [List.append_assoc] at spelled
    exact .inr (.inr ⟨number, Unsigned.exists_cut spelled (by simp)⟩)
  by_cases long : zeros ≤ behind.length
  · obtain ⟨number, spelled⟩ := Unsigned.exists_bits few (List.length_take_of_le long)
    rw [← List.take_append_drop zeros behind, ← List.append_assoc, ← spelled]
    exact .inl ⟨number, List.prefix_append _ _⟩
  · -- Zeros stand in for the bits that are missing.
    have width : (behind ++ List.replicate (zeros - behind.length) false).length = zeros := by
      rw [List.length_append, List.length_replicate]
      omega
    obtain ⟨number, spelled⟩ := Unsigned.exists_bits few width
    rw [← List.append_assoc] at spelled
    refine .inr (.inr ⟨number, Unsigned.exists_cut spelled ?_⟩)
    rw [ne_eq, List.replicate_eq_nil_iff]
    omega

/-- At every position the octets hold a code, or 32 zeros, or they end inside of a code. The readers
take the number of a code and go on behind it. The two other cases are two faults. No number on the
way leaves the range of its type, so readers that check this find the same. -/
theorem code_read_at (octets : Octets) (position : Nat) :
    let tail := (bits octets).drop position
    (∀ number : Unsigned, BitsAt octets position number.bits →
        let rest := (bits octets).drop (position + (2 * leadingZeros number.bits + 1))
        number.bits.length = 2 * leadingZeros number.bits + 1 ∧
          (∃ word, word.toNat = number.val ∧ readUnsigned tail = .ok (word, rest)) ∧
          ∃ word, word.toInt = signedValue number.val ∧ readSigned tail = .ok (word, rest)) ∧
      (BitsAt octets position (List.replicate 32 false) →
        readUnsigned tail = .error (.invalidSps .codeLength) ∧
          readSigned tail = .error (.invalidSps .codeLength)) ∧
      (∀ (number : Unsigned) count, count < number.bits.length →
        BitsAt octets position (number.bits.take count) →
        position + count = 8 * octets.length →
        readUnsigned tail = .error .truncatedSps ∧ readSigned tail = .error .truncatedSps) ∧
      (position ≤ 8 * octets.length →
        (∃ number : Unsigned, BitsAt octets position number.bits) ∨
          BitsAt octets position (List.replicate 32 false) ∨
          ∃ number : Unsigned, ∃ count < number.bits.length,
            BitsAt octets position (number.bits.take count) ∧
              position + count = 8 * octets.length) ∧
      checkedUnsigned tail =
        ((readUnsigned tail).map fun found => ((found.1.toNat : Int), found.2)).mapError .fault ∧
      checkedSigned tail =
        ((readSigned tail).map fun found => (found.1.toInt, found.2)).mapError .fault := by
  intro tail
  refine ⟨?_, ?_, ?_, ?_, agrees_unsigned tail, agrees_signed tail⟩
  · intro number stand rest
    obtain ⟨signed, rfl⟩ := Signed.exists_code number
    have unsignedRead := stand.read (Unsigned.reads _)
    have signedRead := stand.read signed.reads
    rw [Unsigned.length_bits] at unsignedRead signedRead
    exact ⟨Unsigned.length_bits _, ⟨_, Unsigned.toNat_word _, unsignedRead⟩,
      _, by rw [Signed.toInt_word, signedValue_code], signedRead⟩
  · intro stand
    rw [show tail = _ ++ _ from stand.split]
    exact ⟨readUnsigned_of_many _, readSigned_of_many _⟩
  · intro number count inside stand reach
    obtain ⟨signed, rfl⟩ := Signed.exists_code number
    have length := List.length_take_of_le (Nat.le_of_lt inside)
    rw [← length] at reach
    rw [show tail = _ from (bitsAt_and_end_iff.1 ⟨stand, reach⟩).2]
    exact ⟨stable_readUnsigned.cut (Unsigned.reads _) inside,
      stable_readSigned.cut signed.reads inside⟩
  · intro within
    rcases exists_code_or_cut tail with ⟨number, front⟩ | front | ⟨number, count, inside, cut⟩
    · exact .inl ⟨number, bitsAt_iff.2 front⟩
    · exact .inr (.inl (bitsAt_iff.2 front))
    · obtain ⟨stand, reach⟩ := bitsAt_and_end_iff.2 ⟨within, cut⟩
      rw [List.length_take_of_le (Nat.le_of_lt inside)] at reach
      exact .inr (.inr ⟨number, count, inside, stand, reach⟩)

/-- The largest number has a code of 63 bits. Its reader is cut off where the last two of them are
missing. -/
theorem code_read_at_largest :
    let octets : Octets := [0xE0, 0x00, 0x00, 0x00, 0x3F, 0xFF, 0xFF, 0xFF, 0xC0]
    let short : Octets := [0xE0, 0x00, 0x00, 0x00, 0x3F, 0xFF, 0xFF, 0xFF]
    let zeros : Octets := [0x00, 0x00, 0x00, 0x00]
    ∃ largest : Unsigned, largest.val = 4294967294 ∧
      (BitsAt octets 3 largest.bits ∧
        (∃ word, word.toNat = largest.val ∧
          readUnsigned ((bits octets).drop 3) = .ok (word, (bits octets).drop 66)) ∧
        ∃ word, word.toInt = -2147483647 ∧
          readSigned ((bits octets).drop 3) = .ok (word, (bits octets).drop 66)) ∧
      (BitsAt zeros 0 (List.replicate 32 false) ∧
        readUnsigned ((bits zeros).drop 0) = .error (.invalidSps .codeLength)) ∧
      (61 < largest.bits.length ∧ BitsAt short 3 (largest.bits.take 61) ∧
        3 + 61 = 8 * short.length ∧
        readUnsigned ((bits short).drop 3) = .error .truncatedSps) ∧
      3 ≤ 8 * octets.length := by
  intro octets short zeros
  refine ⟨⟨4294967294, by decide⟩, rfl, ?_, ?_, ?_, by decide⟩
  · have stand : BitsAt octets 3 (Unsigned.bits ⟨4294967294, by decide⟩) := by decide +kernel
    obtain ⟨-, unsignedRead, signedRead⟩ := (code_read_at octets 3).1 _ stand
    exact ⟨stand, unsignedRead, signedRead⟩
  · have stand : BitsAt zeros 0 (List.replicate 32 false) := by decide +kernel
    exact ⟨stand, ((code_read_at zeros 0).2.1 stand).1⟩
  · have inside : 61 < (Unsigned.bits ⟨4294967294, by decide⟩).length := by decide +kernel
    have stand : BitsAt short 3 ((Unsigned.bits ⟨4294967294, by decide⟩).take 61) := by
      decide +kernel
    have reach : 3 + 61 = 8 * short.length := by decide
    exact ⟨inside, stand, reach, ((code_read_at short 3).2.2.1 _ 61 inside stand reach).1⟩

end Screencast.Avc
