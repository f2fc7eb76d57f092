/-
This file says what a packet holds when it is split again: at most one slice, and parameter sets
only beside a keyframe.
-/

import Screencast.Proofs.Nal.Headers
import Screencast.Proofs.Recorder.Emission

namespace Screencast

namespace Nal

/-- Joined units come back with as many of a kind that the header decides. -/
theorem countP_split_concat {units : List Nal}
    (clean : ∀ unit ∈ units, ∀ offset, ¬ StartCode.StandsAt unit.payload offset)
    (isKind : UInt8 → Bool) (zero : isKind 0 = false) :
    (split (concat units)).countP (fun unit => isKind unit.header) =
      units.countP fun unit => isKind unit.header := by
  have count (units : List Nal) :
      (headers units).countP isKind = units.countP fun unit => isKind unit.header := by
    rw [headers, List.countP_filter, List.countP_map]
    apply List.countP_congr
    intro unit _
    by_cases none : unit.header = 0 <;> simp [none, zero]
  rw [← count, ← count, headers_split_concat units clean]

/-- A start code begins with a zero octet. -/
theorem head?_data_append (unit : Nal) (more : Octets) : (unit.data ++ more).head? = some 0 := by
  rw [data]
  cases unit.startCode <;> rfl

section Kinds

variable {units : List Nal}
  (clean : ∀ unit ∈ units, ∀ offset, ¬ StartCode.StandsAt unit.payload offset)

include clean

theorem countP_isSlice : (split (concat units)).countP isSlice = units.countP isSlice :=
  countP_split_concat clean (fun header => 1 ≤ typeOf header && typeOf header ≤ 5) rfl

theorem countP_isKeyframe : (split (concat units)).countP isKeyframe = units.countP isKeyframe :=
  countP_split_concat clean (fun header => typeOf header = 5) rfl

theorem countP_isParameterSet :
    (split (concat units)).countP isParameterSet = units.countP isParameterSet :=
  countP_split_concat clean
    (fun header => decide (typeOf header = 7) || decide (typeOf header = 8)) rfl

end Kinds

end Nal

namespace Recorder.Packetizer

/-- A packet is that of a slice, or it holds the units behind the last slice. -/
theorem mem_packetsOf {units : List Nal} {packet : Octets} (member : packet ∈ packetsOf units) :
    (∃ before slice after, units = before ++ slice :: after ∧ slice.isSlice = true ∧
        packet = packetOf before slice) ∨
      packet = Nal.concat (Nal.othersOf (Nal.openGroup units)) := by
  have emitted : ∀ units : List Nal, packet ∈ (({} : Packetizer).addUnits units).1 →
      ∃ before slice after, units = before ++ slice :: after ∧ slice.isSlice = true ∧
        packet = packetOf before slice := by
    intro units
    induction units using List.reverseRecOn with
    | nil => exact fun nothing => absurd nothing List.not_mem_nil
    | append_singleton units unit inductionHypothesis =>
        intro member
        rw [addUnits_append] at member
        rcases List.mem_append.1 member with earlier | last
        · obtain ⟨before, slice, after, rfl, ends, same⟩ := inductionHypothesis earlier
          exact ⟨before, slice, after ++ [unit], by simp, ends, same⟩
        · have added := ((seen_addUnits units).1.addUnit unit).2
          cases ends : unit.isSlice with
          | true =>
              simp only [addUnits, added, ends, if_true, Option.toList_some, List.append_nil,
                List.mem_singleton] at last
              exact ⟨units, unit, [], rfl, ends, last⟩
          | false => simp [addUnits, added, ends] at last
  have parts : packetsOf units = _ ++ (closeGroup _ _).1.toList := rfl
  rw [parts] at member
  rcases List.mem_append.1 member with closed | last
  · exact .inl (emitted units closed)
  · refine .inr ?_
    have closed := (closeGroup_waiting (({} : Packetizer).addUnits units).2.configuration
      (Nal.isSlice_of_mem_openGroup units)).1
    rw [(seen_addUnits units).1.pending, closed] at last
    split at last
    · cases last
    · simpa using last

/-- These units make the packet of a slice. -/
def unitsOf (before : List Nal) (slice : Nal) : List Nal :=
  (if slice.isKeyframe then Nal.latestSets before else []) ++
    Nal.othersOf (Nal.openGroup before) ++ [slice]

theorem mem_of_mem_openGroup {units : List Nal} {unit : Nal}
    (member : unit ∈ Nal.othersOf (Nal.openGroup units)) : unit ∈ units :=
  (List.rtakeWhile_suffix _ units).mem (List.mem_filter.1 member).1

theorem mem_of_mem_unitsOf {before : List Nal} {slice unit : Nal}
    (member : unit ∈ unitsOf before slice) : unit ∈ before ++ [slice] := by
  rw [unitsOf, List.append_assoc] at member
  rcases List.mem_append.1 member with front | rest
  · split at front
    · have among := (Nal.latestSets_suffix before).mem front
      exact List.mem_append_left _ (List.mem_filter.1 among).1
    · cases front
  · rcases List.mem_append.1 rest with other | last
    · exact List.mem_append_left _ (mem_of_mem_openGroup other)
    · exact List.mem_append_right _ last

theorem countP_isSlice_othersOf (units : List Nal) :
    (Nal.othersOf (Nal.openGroup units)).countP Nal.isSlice = 0 := by
  apply List.countP_eq_zero.2
  intro unit member
  rw [Nal.isSlice_of_mem_openGroup units unit (List.mem_filter.1 member).1]
  exact Bool.false_ne_true

theorem countP_isParameterSet_othersOf (units : List Nal) :
    (Nal.othersOf units).countP Nal.isParameterSet = 0 := by
  apply List.countP_eq_zero.2
  intro unit member
  have noSet := (List.mem_filter.1 member).2
  simpa using noSet

/-- The slice of a packet is its only one. -/
theorem countP_isSlice_unitsOf (before : List Nal) {slice : Nal} (ends : slice.isSlice = true) :
    (unitsOf before slice).countP Nal.isSlice = 1 := by
  have sets : (if slice.isKeyframe then Nal.latestSets before else []).countP Nal.isSlice = 0 := by
    apply List.countP_eq_zero.2
    intro unit member
    split at member
    · have among := (Nal.latestSets_suffix before).mem member
      rw [Nal.isSlice_of_isParameterSet (List.mem_filter.1 among).2]
      exact Bool.false_ne_true
    · cases member
  rw [unitsOf, List.countP_append, List.countP_append, sets, countP_isSlice_othersOf,
    List.countP_singleton, if_pos ends]

/-- There is no parameter set in the packet of a slice that is no keyframe. -/
theorem countP_isParameterSet_unitsOf (before : List Nal) {slice : Nal}
    (ends : slice.isSlice = true) (delta : slice.isKeyframe = false) :
    (unitsOf before slice).countP Nal.isParameterSet = 0 := by
  rw [unitsOf, delta, if_neg Bool.false_ne_true, List.nil_append, List.countP_append,
    countP_isParameterSet_othersOf, List.countP_singleton, Nal.isParameterSet_of_isSlice ends]
  rfl

/-- A packet that is split again has at most one slice, and it has parameter sets only beside a
keyframe. -/
theorem counts_of_mem_packets {chunks : List Octets} {packet : Octets}
    (member : packet ∈ packets chunks) :
    (Nal.split packet).countP Nal.isSlice ≤ 1 ∧
      ((Nal.split packet).countP Nal.isKeyframe = 0 →
        (Nal.split packet).countP Nal.isParameterSet = 0) := by
  rw [packets_eq_packetsOf] at member
  have clean (units : List Nal) (among : ∀ unit ∈ units, unit ∈ Nal.split chunks.flatten) :
      ∀ unit ∈ units, ∀ offset, ¬ StartCode.StandsAt unit.payload offset :=
    fun unit member => Nal.not_standsAt_payload (among unit member)
  rcases mem_packetsOf member with ⟨before, slice, after, divided, ends, rfl⟩ | rfl
  · have own := clean (unitsOf before slice) fun unit member => by
      rw [divided, ← List.singleton_append, ← List.append_assoc]
      exact List.mem_append_left _ (mem_of_mem_unitsOf member)
    have parts : packetOf before slice = Nal.concat (unitsOf before slice) := rfl
    rw [parts, Nal.countP_isSlice own, Nal.countP_isKeyframe own, Nal.countP_isParameterSet own]
    constructor
    · exact Nat.le_of_eq (countP_isSlice_unitsOf before ends)
    · intro none
      have delta := List.countP_eq_zero.1 none slice (by simp [unitsOf])
      exact countP_isParameterSet_unitsOf before ends (Bool.eq_false_iff.2 delta)
  · have own := clean (Nal.othersOf (Nal.openGroup (Nal.split chunks.flatten))) fun _ =>
      mem_of_mem_openGroup
    rw [Nal.countP_isSlice own, Nal.countP_isParameterSet own]
    constructor
    · rw [countP_isSlice_othersOf]
      exact Nat.zero_le 1
    · intro _
      exact countP_isParameterSet_othersOf _

/-- A packet with a unit begins with a start code. -/
theorem head?_of_mem_packets {chunks : List Octets} {packet : Octets}
    (member : packet ∈ packets chunks) (filled : Nal.split packet ≠ []) :
    packet.head? = some 0 := by
  have joined : ∃ units, packet = Nal.concat units := by
    rw [packets_eq_packetsOf] at member
    rcases mem_packetsOf member with ⟨before, slice, _, _, _, same⟩ | same
    · exact ⟨unitsOf before slice, same⟩
    · exact ⟨_, same⟩
  obtain ⟨units, rfl⟩ := joined
  cases units with
  | nil => exact absurd Nal.split_nil filled
  | cons unit rest => exact Nal.head?_data_append unit (Nal.concat rest)

end Recorder.Packetizer

end Screencast
