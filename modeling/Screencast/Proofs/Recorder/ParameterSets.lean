/-
This file says which parameter sets a packet with a keyframe begins with, and when they are all that
a decoder needs.
-/

import Mathlib.Data.List.Infix
import Screencast.Proofs.Recorder.Groups

namespace Screencast

namespace Nal

/-- The latest sets are the last ones of all. -/
theorem latestSets_suffix (units : List Nal) : latestSets units <:+ setsOf units := by
  induction units using List.reverseRecOn with
  | nil => exact List.suffix_rfl
  | append_singleton units unit inductionHypothesis =>
      rw [latestSets_snoc]
      cases set : unit.isParameterSet with
      | false => simpa [setsOf, set] using inductionHypothesis
      | true =>
          have inside : setsOf (openGroup units) <:+ setsOf units :=
            (List.rtakeWhile_suffix _ units).filter isParameterSet
          obtain ⟨early, whole⟩ := inside
          have more : setsOf (units ++ [unit]) = setsOf units ++ [unit] := by simp [setsOf, set]
          exact ⟨early, by rw [if_pos rfl, more, ← whole, List.append_assoc]⟩

/-- A last unit of its kind is among the latest sets as soon as one of its kind is. -/
theorem mem_latestSets_iff {isKind : Nal → Bool}
    (kind : ∀ unit : Nal, isKind unit = true → unit.isParameterSet = true) {units : List Nal}
    {last : Nal} (found : (units.filter isKind).getLast? = some last) :
    last ∈ latestSets units ↔ (latestSets units).any isKind = true := by
  have ofKind : isKind last = true := by
    exact (List.mem_filter.1 (List.mem_of_getLast? found)).2
  constructor
  · intro member
    exact List.any_eq_true.2 ⟨last, member, ofKind⟩
  · intro one
    obtain ⟨early, whole⟩ := latestSets_suffix units
    have same : units.filter isKind = early.filter isKind ++ (latestSets units).filter isKind := by
      rw [← List.filter_append, whole, setsOf, List.filter_filter]
      refine List.filter_congr fun unit _ => ?_
      cases member : isKind unit with
      | false => rfl
      | true => rw [kind unit member, Bool.and_self]
    have some : (latestSets units).filter isKind ≠ [] := by
      intro empty
      obtain ⟨unit, member, ofKind⟩ := List.any_eq_true.1 one
      exact List.filter_eq_nil_iff.1 empty unit member ofKind
    rw [same, List.getLast?_append_of_ne_nil _ some] at found
    exact (List.mem_filter.1 (List.mem_of_getLast? found)).1

end Nal

namespace Recorder.Packetizer

/-- However a stream is divided, the packet of a keyframe consists of the latest parameter sets, the
other units of its group and the keyframe. The last SPS and the last PPS before the keyframe are
both there if and only if both kinds came last together: sets that come alone displace the other
kind. -/
theorem keyframe_sets_iff (chunks : List Octets) (before after : List Nal)
    (slice sps pps : Nal) (units : Nal.split chunks.flatten = before ++ slice :: after)
    (keyframe : slice.isKeyframe = true)
    (lastSps : (before.filter Nal.isSps).getLast? = some sps)
    (lastPps : (before.filter Nal.isPps).getLast? = some pps) :
    let front := Nal.latestSets before ++ Nal.othersOf (Nal.openGroup before)
    (packets chunks)[before.countP Nal.isSlice]? = some (Nal.concat (front ++ [slice])) ∧
      ((sps ∈ front ∧ pps ∈ front) ↔
        (Nal.latestSets before).any Nal.isSps = true ∧
          (Nal.latestSets before).any Nal.isPps = true) := by
  intro front
  have isSet (unit : Nal) (kind : unit.isSps = true ∨ unit.isPps = true) :
      unit.isParameterSet = true := Bool.or_eq_true_iff.2 kind
  have among {set : Nal} (isSet : set.isParameterSet = true) :
      set ∈ front ↔ set ∈ Nal.latestSets before := by
    have outside : set ∉ Nal.othersOf (Nal.openGroup before) := by
      intro member
      have other := (List.mem_filter.1 member).2
      rw [isSet] at other
      cases other
    simp only [front, List.mem_append, outside, or_false]
  constructor
  · rw [packets_eq_packetsOf, units,
      packetsOf_getElem? before after (Nal.isSlice_of_isKeyframe keyframe), packetOf, keyframe]
    rfl
  · have ofSps : sps.isSps = true := (List.mem_filter.1 (List.mem_of_getLast? lastSps)).2
    have ofPps : pps.isPps = true := (List.mem_filter.1 (List.mem_of_getLast? lastPps)).2
    rw [among (isSet sps (.inl ofSps)), among (isSet pps (.inr ofPps)),
      Nal.mem_latestSets_iff (fun unit kind => isSet unit (.inl kind)) lastSps,
      Nal.mem_latestSets_iff (fun unit kind => isSet unit (.inr kind)) lastPps]

/-- Both kinds come together ahead of a keyframe, and a long start code is divided. -/
theorem keyframe_sets_iff_both :
    let chunks : List Octets := [[0, 0, 1, 0x68, 2, 0, 0, 0], [], [1, 0x67, 1, 0, 0, 1, 0x65, 3]]
    let sps : Nal := ⟨.long, 0x67, [1]⟩
    let pps : Nal := ⟨.short, 0x68, [2]⟩
    (packets chunks)[0]? = some [0, 0, 1, 0x68, 2, 0, 0, 0, 1, 0x67, 1, 0, 0, 1, 0x65, 3] ∧
      sps ∈ Nal.latestSets [pps, sps] ++ Nal.othersOf (Nal.openGroup [pps, sps]) ∧
      pps ∈ Nal.latestSets [pps, sps] ++ Nal.othersOf (Nal.openGroup [pps, sps]) := by
  intro chunks sps pps
  have complete := keyframe_sets_iff chunks [pps, sps] [] ⟨.short, 0x65, [3]⟩ sps pps
    (by decide +kernel) rfl (by decide) (by decide)
  have together : (Nal.latestSets [pps, sps]).any Nal.isSps = true ∧
      (Nal.latestSets [pps, sps]).any Nal.isPps = true := by decide
  have first : [pps, sps].countP Nal.isSlice = 0 := by decide
  rw [first] at complete
  exact ⟨complete.1.trans (by decide +kernel), complete.2.2 together⟩

/-- A picture parameter set that comes alone displaces the sequence parameter set, which the packet
of the next keyframe then lacks. -/
theorem keyframe_sets_displaced :
    let chunks : List Octets := [[0, 0, 1, 0x67, 1, 0, 0, 1, 0x68, 2, 0, 0, 1, 0x65, 3,
      0, 0, 1, 0x68, 4, 0, 0, 1, 0x41, 5, 0, 0, 1, 0x65, 6]]
    ¬ ∀ (before after : List Nal) (slice sps pps : Nal) (packet : Octets),
      Nal.split chunks.flatten = before ++ slice :: after → slice.isKeyframe = true →
        (before.filter Nal.isSps).getLast? = some sps →
          (before.filter Nal.isPps).getLast? = some pps →
            (packets chunks)[before.countP Nal.isSlice]? = some packet →
              sps.data <:+: packet ∧ pps.data <:+: packet := by
  intro chunks complete
  have contained := complete
    [⟨.short, 0x67, [1]⟩, ⟨.short, 0x68, [2]⟩, ⟨.short, 0x65, [3]⟩, ⟨.short, 0x68, [4]⟩,
      ⟨.short, 0x41, [5]⟩] [] ⟨.short, 0x65, [6]⟩ ⟨.short, 0x67, [1]⟩ ⟨.short, 0x68, [4]⟩
    [0, 0, 1, 0x68, 4, 0, 0, 1, 0x65, 6] (by decide +kernel) rfl rfl rfl (by decide +kernel)
  exact absurd contained.1 (by decide)

end Recorder.Packetizer

end Screencast
