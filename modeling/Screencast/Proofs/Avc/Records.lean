/-
This file reads a decoder configuration record as a decoder does, set by set, each by its length of
16 bits. A set that is longer than its length can say does not come back.
-/

import Screencast.Avc.Record
import Screencast.Proofs.Nal.Samples

namespace Screencast

namespace Octets

/-- A number is as small as its octets allow. -/
theorem ofLittleEndian_lt (octets : Octets) :
    ofLittleEndian octets < 1 <<< (8 * octets.length) := by
  induction octets with
  | nil => decide
  | cons octet rest inductionHypothesis =>
      have low := octet.toNat_lt
      have spread : 1 <<< (8 * (octet :: rest).length) = 256 * 1 <<< (8 * rest.length) := by
        rw [List.length_cons, Nat.mul_succ, Nat.shiftLeft_add, Nat.shiftLeft_eq _ 8, Nat.mul_comm]
      change octet.toNat + 256 * ofLittleEndian rest < _
      rw [spread]
      omega

theorem ofBigEndian_lt (octets : Octets) : ofBigEndian octets < 1 <<< (8 * octets.length) := by
  have bound := ofLittleEndian_lt octets.reverse
  rwa [List.length_reverse] at bound

end Octets

namespace Avc

/-- A set stands behind its length of 16 bits. -/
def readSet (octets : Octets) : Option (Octets × Octets) :=
  let length := Octets.ofBigEndian (octets.take 2)
  if 2 + length ≤ octets.length then
    some ((octets.drop 2).take length, octets.drop (2 + length))
  else none

/-- This many sets stand side by side. -/
def readSets : (count : Nat) → Octets → Option (List Octets × Octets)
  | 0, octets => some ([], octets)
  | count + 1, octets => do
      let (set, behind) ← readSet octets
      let (sets, behind) ← readSets count behind
      return (set :: sets, behind)

/-- A decoder finds this in a record. -/
structure Layout where
  version : UInt8
  profile : UInt8
  compatibility : UInt8
  level : UInt8
  /-- The length of a unit has this many octets. -/
  lengthSize : Nat
  spsSets : List Octets
  ppsSets : List Octets
  deriving DecidableEq, Repr

/-- The length size has the low two bits of its octet and the first count the low five bits of its
own. Nothing stands behind the last set. -/
def Layout.read? : Octets → Option Layout
  | version :: profile :: compatibility :: level :: lengths :: count :: sets => do
      let (spsSets, behind) ← readSets (count.toNat % 32) sets
      let count ← behind.head?
      let (ppsSets, behind) ← readSets count.toNat behind.tail
      if behind.isEmpty then
        return { version, profile, compatibility, level, lengthSize := lengths.toNat % 4 + 1
                 spsSets, ppsSets }
      else none
  | _ => none

/-- A set that is not too long comes back in front of what else there is. -/
theorem readSet_counted {set : Octets} (short : set.length < 65536) (behind : Octets) :
    readSet (Octets.bigEndian 2 set.length ++ (set ++ behind)) = some (set, behind) := by
  have length : Octets.ofBigEndian (Octets.bigEndian 2 set.length) = set.length :=
    Octets.ofBigEndian_of_lt short
  have present : 2 + set.length ≤
      (Octets.bigEndian 2 set.length ++ (set ++ behind)).length := by
    rw [List.length_append, List.length_append, Octets.length_bigEndian]
    omega
  rw [readSet]
  simp only [Octets.take_bigEndian, length, if_pos present, Octets.drop_bigEndian, List.take_left,
    ← List.drop_drop, List.drop_left]

/-- No set is longer than its length can say. -/
theorem length_of_readSet {octets set behind : Octets}
    (found : readSet octets = some (set, behind)) : set.length < 65536 := by
  rw [readSet] at found
  split at found
  case isTrue =>
    cases found
    have bound := Octets.ofBigEndian_lt (octets.take 2)
    have few : 1 <<< (8 * (octets.take 2).length) ≤ 65536 := by
      rw [Nat.one_shiftLeft]
      exact Nat.pow_le_pow_right (by decide)
        (Nat.mul_le_mul_left 8 (List.length_take_le 2 octets))
    rw [List.length_take]
    omega
  case isFalse => cases found

theorem length_of_readSets {count : Nat} {octets behind : Octets} {sets : List Octets}
    (found : readSets count octets = some (sets, behind)) : ∀ set ∈ sets, set.length < 65536 := by
  induction count generalizing octets sets with
  | zero =>
      cases found
      simp
  | succ count inductionHypothesis =>
      simp only [readSets, Option.bind_eq_bind, Option.bind_eq_some_iff, Option.pure_def,
        Option.some.injEq, Prod.mk.injEq, Prod.exists] at found
      obtain ⟨set, rest, first, others, last, more, rfl, rfl⟩ := found
      rw [List.forall_mem_cons]
      exact ⟨length_of_readSet first, inductionHypothesis more⟩

namespace Layout

/-- All sets that are found fit their lengths. -/
theorem length_of_read? {octets : Octets} {layout : Layout} (found : read? octets = some layout) :
    (∀ set ∈ layout.spsSets, set.length < 65536) ∧
      ∀ set ∈ layout.ppsSets, set.length < 65536 := by
  rcases octets with
    _ | ⟨version, _ | ⟨profile, _ | ⟨compatibility, _ | ⟨level, _ | ⟨lengths, _ | ⟨count, sets⟩⟩⟩⟩⟩⟩
  case cons.cons.cons.cons.cons.cons =>
    simp only [read?, Option.bind_eq_bind, Option.bind_eq_some_iff, Prod.exists] at found
    obtain ⟨first, behind, readFirst, number, -, second, rest, readSecond, whole⟩ := found
    split at whole
    case isTrue =>
      cases whole
      exact ⟨length_of_readSets readFirst, length_of_readSets readSecond⟩
    case isFalse => cases whole
  all_goals cases found

/-- A record with sets of fitting lengths is read to its end. -/
theorem read?_octets {record : Record} (shortSps : record.sps.length < 65536)
    (shortPps : record.pps.length < 65536) :
    read? record.octets = some
      { version := 1, profile := record.profile, compatibility := record.compatibility
        level := record.level, lengthSize := Record.lengthSize
        spsSets := [record.sps], ppsSets := [record.pps] } := by
  have first := readSet_counted shortSps
    ([1] ++ (Octets.bigEndian 2 record.pps.length ++ (record.pps ++ [])))
  have second := readSet_counted shortPps []
  simp only [Record.octets, List.cons_append, List.nil_append, List.append_assoc,
    List.append_nil] at first second ⊢
  simp [read?, readSets, first, second, Record.lengthSize]

end Layout

namespace Record

/-- A record holds its sets and says what stands behind the header of the first. -/
theorem ofParameterSets_eq_ok_iff {sps pps : Octets} {record : Record} :
    ofParameterSets sps pps = .ok record ↔
      (∃ header rest,
        sps = header :: record.profile :: record.compatibility :: record.level :: rest) ∧
      pps ≠ [] ∧ record.sps = sps ∧ record.pps = pps := by
  unfold ofParameterSets
  split
  case h_1 header profile compatibility level rest =>
    cases pps with
    | nil => simp
    | cons first others =>
        constructor
        · intro made
          cases made
          exact ⟨⟨header, rest, rfl⟩, by simp, rfl, rfl⟩
        · rintro ⟨⟨_, _, head⟩, -, sps, pps⟩
          simp only [List.cons.injEq] at head
          obtain ⟨-, profile, compatibility, level, -⟩ := head
          rw [List.isEmpty_cons, if_neg Bool.false_ne_true, ← sps, ← pps, profile, compatibility,
            level]
  case h_2 short =>
    constructor
    · intro made
      cases made
    · rintro ⟨⟨header, rest, long⟩, -⟩
      exact absurd long (short _ _ _ _ _)

theorem sets_of_ofParameterSets {sps pps : Octets} {record : Record}
    (made : ofParameterSets sps pps = .ok record) : record.sps = sps ∧ record.pps = pps :=
  (ofParameterSets_eq_ok_iff.1 made).2.2

/-- A record needs the level of the first set and the header of the second. -/
theorem exists_ofParameterSets_iff {sps pps : Octets} :
    (∃ record, ofParameterSets sps pps = .ok record) ↔ 4 ≤ sps.length ∧ pps ≠ [] := by
  constructor
  · rintro ⟨record, made⟩
    obtain ⟨⟨header, rest, rfl⟩, filled, -⟩ := ofParameterSets_eq_ok_iff.1 made
    exact ⟨by simp, filled⟩
  · rintro ⟨long, filled⟩
    rcases sps with _ | ⟨header, _ | ⟨profile, _ | ⟨compatibility, _ | ⟨level, rest⟩⟩⟩⟩
    case cons.cons.cons.cons =>
      let record : Record :=
        ⟨profile, compatibility, level, header :: profile :: compatibility :: level :: rest, pps⟩
      exact ⟨record, ofParameterSets_eq_ok_iff.2 ⟨⟨header, rest, rfl⟩, filled, rfl, rfl⟩⟩
    all_goals simp at long

/-- A decoder reads a record to its end and finds just the two sets that made it, with what the first
of them says, if and only if neither is longer than a length of 16 bits can say. Longer sets are
accepted nevertheless. -/
theorem read_back_iff {sps pps : Octets} {record : Record}
    (made : ofParameterSets sps pps = .ok record) :
    (∃ layout, Layout.read? record.octets = some layout ∧
        layout.version = 1 ∧ sps[1]? = some layout.profile ∧
        sps[2]? = some layout.compatibility ∧ sps[3]? = some layout.level ∧
        layout.lengthSize = lengthSize ∧ layout.spsSets = [sps] ∧ layout.ppsSets = [pps]) ↔
      sps.length < 65536 ∧ pps.length < 65536 := by
  obtain ⟨⟨header, rest, head⟩, -, rfl, rfl⟩ := ofParameterSets_eq_ok_iff.1 made
  constructor
  · rintro ⟨layout, found, -, -, -, -, -, spsSets, ppsSets⟩
    have fitting := Layout.length_of_read? found
    rw [spsSets, ppsSets, List.forall_mem_singleton, List.forall_mem_singleton] at fitting
    exact fitting
  · rintro ⟨shortSps, shortPps⟩
    have found := Layout.read?_octets shortSps shortPps
    refine ⟨_, found, rfl, ?profile, ?compatibility, ?level, rfl, rfl, rfl⟩
    all_goals rw [head]; rfl

/-- The sets of a small picture are found again. -/
theorem read_back_iff_high :
    let sps : Octets := [0x67, 0x64, 0x00, 0x1F, 0xAC, 0xD9]
    let pps : Octets := [0x68, 0xEF, 0x38]
    let record : Record := { profile := 0x64, compatibility := 0x00, level := 0x1F, sps, pps }
    ofParameterSets sps pps = .ok record ∧
      ∃ layout, Layout.read? record.octets = some layout ∧ layout.lengthSize = 4 ∧
        layout.spsSets = [sps] ∧ layout.ppsSets = [pps] := by
  intro sps pps record
  have made : ofParameterSets sps pps = .ok record := rfl
  obtain ⟨layout, found, -, -, -, -, size, spsSets, ppsSets⟩ :=
    (read_back_iff made).2 (by decide)
  exact ⟨made, layout, found, size, spsSets, ppsSets⟩

/-- A set of 65536 octets makes a record, which says that the set is empty. -/
theorem read_back_too_long :
    let sps : Octets := [0x67, 0x42, 0xC0, 0x1F] ++ List.replicate 65532 0x00
    let pps : Octets := [0x68, 0xCE, 0x38, 0x80]
    let record : Record := { profile := 0x42, compatibility := 0xC0, level := 0x1F, sps, pps }
    ofParameterSets sps pps = .ok record ∧
      ¬∃ layout, Layout.read? record.octets = some layout ∧ layout.spsSets = [sps] ∧
        layout.ppsSets = [pps] := by
  intro sps pps record
  refine ⟨rfl, ?_⟩
  rintro ⟨layout, found, spsSets, -⟩
  have fitting := (Layout.length_of_read? found).1
  have long : sps.length = 65536 := by
    rw [List.length_append, List.length_replicate]
    rfl
  rw [spsSets, List.forall_mem_singleton, long] at fitting
  exact absurd fitting (Nat.lt_irrefl 65536)

end Record

end Avc

end Screencast
