/-
This file relates the kinds of units: slices, keyframes, parameter sets and configuration.
-/

import Screencast.Nal.Basic

namespace Screencast.Nal

variable {unit : Nal}

theorem isSlice_of_isKeyframe (keyframe : unit.isKeyframe = true) : unit.isSlice = true := by
  rw [isKeyframe, decide_eq_true_eq] at keyframe
  rw [isSlice, keyframe]
  decide

theorem isConfiguration_of_isSlice (slice : unit.isSlice = true) :
    unit.isConfiguration = false := by
  simp only [isSlice, isConfiguration, Bool.and_eq_true, decide_eq_true_eq,
    Bool.and_eq_false_iff, decide_eq_false_iff_not, UInt8.le_iff_toNat_le] at slice ⊢
  refine .inl fun above => ?_
  have bounds := Nat.le_trans above slice.2
  exact absurd bounds (by decide)

/-- The two kinds of parameter sets differ. -/
theorem isPps_of_isSps (sps : unit.isSps = true) : unit.isPps = false := by
  rw [isSps, decide_eq_true_eq] at sps
  rw [isPps, sps]
  decide

theorem isSps_of_isPps (pps : unit.isPps = true) : unit.isSps = false :=
  Bool.eq_false_iff.2 fun sps => Bool.false_ne_true ((isPps_of_isSps sps).symm.trans pps)

theorem isParameterSet_iff : unit.isParameterSet = true ↔ unit.type = 7 ∨ unit.type = 8 := by
  simp [isParameterSet, isSps, isPps]

theorem isSlice_of_isParameterSet (set : unit.isParameterSet = true) : unit.isSlice = false := by
  rcases isParameterSet_iff.1 set with sps | pps
  · rw [isSlice, sps]
    decide
  · rw [isSlice, pps]
    decide

theorem isConfiguration_of_isParameterSet (set : unit.isParameterSet = true) :
    unit.isConfiguration = true := by
  rcases isParameterSet_iff.1 set with sps | pps
  · rw [isConfiguration, sps]
    decide
  · rw [isConfiguration, pps]
    decide

theorem isParameterSet_of_isSlice (slice : unit.isSlice = true) :
    unit.isParameterSet = false :=
  Bool.eq_false_iff.2 fun set =>
    Bool.false_ne_true ((isSlice_of_isParameterSet set).symm.trans slice)

/-- A keyframe is always one of the slices. -/
theorem isKeyframe_and_isSlice (unit : Nal) :
    (unit.isKeyframe && unit.isSlice) = unit.isKeyframe := by
  cases keyframe : unit.isKeyframe with
  | false => rfl
  | true => rw [isSlice_of_isKeyframe keyframe, Bool.and_self]

theorem filter_isKeyframe_slices (units : List Nal) :
    (units.filter isSlice).filter isKeyframe = units.filter isKeyframe := by
  rw [List.filter_filter]
  congr 1
  funext unit
  exact isKeyframe_and_isSlice unit

theorem any_isKeyframe_slices (units : List Nal) :
    (units.filter isSlice).any isKeyframe = units.any isKeyframe := by
  rw [List.any_filter]
  congr 1
  funext unit
  rw [Bool.and_comm]
  exact isKeyframe_and_isSlice unit

end Screencast.Nal
