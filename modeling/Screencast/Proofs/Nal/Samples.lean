/-
This file reads a sample back: it is a row of records, each behind its own length.
-/

import Screencast.Nal.Basic

namespace Screencast

namespace Octets

/-- A number that fits its octets comes back. -/
theorem ofBigEndian_of_lt {width value : Nat} (fits : value < 1 <<< (8 * width)) :
    ofBigEndian (bigEndian width value) = value := by
  rw [ofBigEndian_bigEndian, Nat.mod_eq_of_lt fits]

theorem take_bigEndian (width value : Nat) (rest : Octets) :
    (bigEndian width value ++ rest).take width = bigEndian width value :=
  List.take_left' (length_bigEndian width value)

theorem drop_bigEndian (width value : Nat) (rest : Octets) :
    (bigEndian width value ++ rest).drop width = rest :=
  List.drop_left' (length_bigEndian width value)

end Octets

namespace Nal

/-- Records stand side by side. A record consists of a 32-bit length and so many octets. -/
def readRecords (octets : Octets) : Option (List Octets) :=
  if octets.isEmpty then some []
  else
    let size := Octets.ofBigEndian (octets.take 4)
    if 4 + size ≤ octets.length then
      (readRecords (octets.drop (4 + size))).map ((octets.drop 4).take size :: ·)
    else none
termination_by octets.length
decreasing_by
  rw [List.length_drop]
  omega

/-- The first record ends where its length says. -/
theorem readRecords_lengthPrefixed {payload : Octets} (small : payload.length < 4294967296)
    (rest : Octets) :
    readRecords (lengthPrefixed payload ++ rest) = (readRecords rest).map (payload :: ·) := by
  have size : Octets.ofBigEndian (Octets.bigEndian 4 payload.length) = payload.length :=
    Octets.ofBigEndian_of_lt small
  have count : (lengthPrefixed payload).length = 4 + payload.length := by
    rw [lengthPrefixed, List.length_append, Octets.length_bigEndian]
  have filled : (lengthPrefixed payload ++ rest).isEmpty = false := by
    rw [List.isEmpty_eq_false_iff, ← List.length_pos_iff, List.length_append]
    omega
  have front : (lengthPrefixed payload ++ rest).take 4 = Octets.bigEndian 4 payload.length := by
    rw [lengthPrefixed, List.append_assoc, Octets.take_bigEndian]
  have behind : (lengthPrefixed payload ++ rest).drop 4 = payload ++ rest := by
    rw [lengthPrefixed, List.append_assoc, Octets.drop_bigEndian]
  have present : 4 + payload.length ≤ (lengthPrefixed payload ++ rest).length := by
    rw [List.length_append]
    omega
  have remaining : (lengthPrefixed payload ++ rest).drop (4 + payload.length) = rest :=
    List.drop_left' count
  rw [readRecords, if_neg (by rw [filled]; exact Bool.false_ne_true)]
  simp only [front, size, behind, List.take_left, remaining, if_pos present]

/-- Payloads whose lengths fit 32 bits come back. -/
theorem readRecords_flatMap {units : List Nal}
    (small : ∀ unit ∈ units, unit.payload.length < 4294967296) :
    readRecords (units.flatMap fun unit => lengthPrefixed unit.payload) =
      some (units.map payload) := by
  induction units with
  | nil => rw [List.flatMap_nil, readRecords]; rfl
  | cons unit rest inductionHypothesis =>
      rw [List.forall_mem_cons] at small
      rw [List.flatMap_cons, readRecords_lengthPrefixed small.1, inductionHypothesis small.2,
        Option.map_some, List.map_cons]

/-- A sample consists of the payloads of its slices. -/
theorem readRecords_sample {units : List Nal} (small : (sample units).length < 4294967296) :
    readRecords (sample units) = some ((units.filter isSlice).map payload) := by
  apply readRecords_flatMap
  intro unit member
  obtain ⟨front, back, split⟩ := List.append_of_mem member
  rw [sample, split, List.flatMap_append, List.flatMap_cons, List.length_append,
    List.length_append, lengthPrefixed, List.length_append] at small
  omega

/-- A sample is empty without a slice, because each slice stands behind its length. -/
theorem isEmpty_sample (units : List Nal) : (sample units).isEmpty = !units.any isSlice := by
  rw [sample]
  induction units with
  | nil => rfl
  | cons unit rest inductionHypothesis =>
      cases slice : unit.isSlice with
      | true => simp [slice, lengthPrefixed, payload]
      | false => simpa [slice] using inductionHypothesis

end Nal

end Screencast
