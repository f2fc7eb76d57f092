/-
This file writes the data of a unit with its emulation prevention octets, and shows that removing
these gives the data back.
-/

import Screencast.Avc.Bits
import Screencast.Avc.Emulation

namespace Screencast.Avc

/-- After two zero octets, an octet that could belong to a start code needs a three in front. -/
def escapeFrom (zeros : Nat) : Octets → Octets
  | [] => []
  | octet :: rest =>
      if 2 ≤ zeros ∧ octet ≤ 3 then 3 :: octet :: escapeFrom (if octet = 0 then 1 else 0) rest
      else octet :: escapeFrom (if octet = 0 then zeros + 1 else 0) rest

def escape (octets : Octets) : Octets := escapeFrom 0 octets

/-- The data comes back in front of what else there is. -/
theorem exists_stripFrom_escapeFrom (zeros : Nat) (octets behind : Octets) :
    ∃ rest, stripFrom zeros (escapeFrom zeros octets ++ behind) = octets ++ rest := by
  induction octets generalizing zeros with
  | nil => exact ⟨stripFrom zeros behind, rfl⟩
  | cons octet octets inductionHypothesis =>
      rw [escapeFrom]
      split
      case isTrue escaped =>
        obtain ⟨rest, stripped⟩ := inductionHypothesis (if octet = 0 then 1 else 0)
        have low : ¬(2 ≤ 0 ∧ octet = 3) := by omega
        apply Exists.intro rest
        rw [List.cons_append, stripFrom, if_pos ⟨escaped.1, rfl⟩, List.cons_append, stripFrom,
          if_neg low, Nat.zero_add, stripped, List.cons_append]
      case isFalse plain =>
        obtain ⟨rest, stripped⟩ := inductionHypothesis (if octet = 0 then zeros + 1 else 0)
        have kept : ¬(2 ≤ zeros ∧ octet = 3) := by
          rintro ⟨many, rfl⟩
          exact plain ⟨many, UInt8.le_refl 3⟩
        apply Exists.intro rest
        rw [List.cons_append, stripFrom, if_neg kept, stripped, List.cons_append]

theorem length_le_escapeFrom (zeros : Nat) (octets : Octets) :
    octets.length ≤ (escapeFrom zeros octets).length := by
  induction octets generalizing zeros with
  | nil => exact Nat.le_refl 0
  | cons octet octets inductionHypothesis =>
      rw [escapeFrom]
      split
      · have rest := inductionHypothesis (if octet = 0 then 1 else 0)
        simp only [List.length_cons]
        omega
      · have rest := inductionHypothesis (if octet = 0 then zeros + 1 else 0)
        simp only [List.length_cons]
        omega

/-- Eight bits give an octet. Where there are fewer, zeros follow. -/
def octetOf (written : List Bool) : UInt8 :=
  ((written ++ List.replicate 8 false).take 8).foldl (fun value bit => 2 * value + bit.toUInt8) 0

/-- Bits are written octet by octet. -/
def pack (written : List Bool) : Octets :=
  if written.isEmpty then [] else octetOf written :: pack (written.drop 8)
termination_by written.length
decreasing_by
  rw [List.isEmpty_iff, ← List.length_eq_zero_iff] at *
  rw [List.length_drop]
  omega

theorem octetBits_octetOf (written : List Bool) :
    octetBits (octetOf written) = (written ++ List.replicate 8 false).take 8 := by
  have each : ∀ a b c d e f g h : Bool,
      octetBits ([a, b, c, d, e, f, g, h].foldl (fun value bit => 2 * value + bit.toUInt8) 0) =
        [a, b, c, d, e, f, g, h] := by decide +kernel
  have full : ((written ++ List.replicate 8 false).take 8).length = 8 := by
    rw [List.length_take, List.length_append, List.length_replicate]
    omega
  rw [octetOf]
  generalize (written ++ List.replicate 8 false).take 8 = eight at full ⊢
  match eight, full with
  | [a, b, c, d, e, f, g, h], _ => exact each a b c d e f g h

/-- The bits come back in front of the zeros that fill the last octet. -/
theorem exists_bits_pack (written : List Bool) :
    ∃ rest, bits (pack written) = written ++ rest := by
  induction written using pack.induct with
  | case1 written empty =>
      rw [List.isEmpty_iff] at empty
      rw [empty]
      exact ⟨bits (pack []), rfl⟩
  | case2 written filled inductionHypothesis =>
      obtain ⟨rest, packed⟩ := inductionHypothesis
      have octets : bits (pack written) =
          (written ++ List.replicate 8 false).take 8 ++ (written.drop 8 ++ rest) := by
        rw [pack, if_neg filled, bits, List.flatMap_cons, octetBits_octetOf, ← bits, packed]
      rw [octets]
      by_cases long : 8 ≤ written.length
      · rw [List.take_append_of_le_length long, ← List.append_assoc, List.take_append_drop]
        exact ⟨rest, rfl⟩
      · rw [List.take_append, List.take_of_length_le (by omega), List.append_assoc]
        exact ⟨_, rfl⟩

theorem length_bits (octets : Octets) : (bits octets).length = 8 * octets.length := by
  induction octets with
  | nil => rfl
  | cons octet octets inductionHypothesis =>
      rw [bits, List.flatMap_cons, List.length_append, ← bits, inductionHypothesis,
        List.length_cons, octetBits, List.length_map]
      simp only [List.length_cons, List.length_nil]
      omega

/-- No bit is lost. -/
theorem length_le_pack (written : List Bool) : written.length ≤ 8 * (pack written).length := by
  obtain ⟨rest, packed⟩ := exists_bits_pack written
  rw [← length_bits, packed, List.length_append]
  omega

end Screencast.Avc
