/-
This file characterizes the search for start codes. It finds the first one, although it leaves out
the octets behind a third octet above one.
-/

import Screencast.Nal.StartCode

namespace Screencast.StartCode

/-- A short start code stands at an offset. A long one stands where its tail does. -/
def StandsAt (stream : Octets) (offset : Nat) : Prop :=
  stream[offset]? = some 0 ∧ stream[offset + 1]? = some 0 ∧ stream[offset + 2]? = some 1

instance (stream : Octets) (offset : Nat) : Decidable (StandsAt stream offset) :=
  inferInstanceAs (Decidable (_ ∧ _ ∧ _))

@[simp] theorem standsAt_cons_succ (octet : UInt8) (stream : Octets) (offset : Nat) :
    StandsAt (octet :: stream) (offset + 1) ↔ StandsAt stream offset := by
  simp [StandsAt]

theorem standsAt_drop (stream : Octets) (count offset : Nat) :
    StandsAt (stream.drop count) offset ↔ StandsAt stream (count + offset) := by
  simp [StandsAt, Nat.add_assoc]

theorem StandsAt.within {stream : Octets} {offset : Nat} (stands : StandsAt stream offset) :
    offset + 3 ≤ stream.length := by
  have last := (List.getElem?_eq_some_iff.1 stands.2.2).1
  omega

/-- A start code at the front is followed by the rest. -/
theorem StandsAt.exists_rest {stream : Octets} (stands : StandsAt stream 0) :
    ∃ rest, stream = 0 :: 0 :: 1 :: rest := by
  obtain ⟨zero, next, one⟩ := stands
  rcases stream with _ | ⟨first, _ | ⟨second, _ | ⟨third, rest⟩⟩⟩
  · cases zero
  · cases next
  · cases one
  · simp only [List.getElem?_cons_zero, List.getElem?_cons_succ, Option.some.injEq]
      at zero next one
    exact ⟨rest, by rw [zero, next, one]⟩

/-- More octets behind a start code do not matter. -/
theorem standsAt_append {stream : Octets} {offset : Nat} (inside : offset + 3 ≤ stream.length)
    (more : Octets) : StandsAt (stream ++ more) offset ↔ StandsAt stream offset := by
  simp only [StandsAt, List.getElem?_append_left (show offset < stream.length by omega),
    List.getElem?_append_left (show offset + 1 < stream.length by omega),
    List.getElem?_append_left (show offset + 2 < stream.length by omega)]

/-- A third octet above one excludes a start code at three offsets. -/
theorem not_standsAt_of_above {first second third : UInt8} (rest : Octets) (above : 1 < third)
    {offset : Nat} (near : offset < 3) :
    ¬ StandsAt (first :: second :: third :: rest) offset := by
  rintro ⟨zero, next, one⟩
  have noZero : third ≠ 0 := by rintro rfl; simp at above
  have noOne : third ≠ 1 := by rintro rfl; simp at above
  rcases offset with _ | _ | _ | offset
  · exact noOne (by simpa using one)
  · exact noZero (by simpa using next)
  · exact noZero (by simpa using zero)
  · omega

/-- The search misses no start code. -/
theorem search_none {offset : Nat} {stream : Octets} (missed : search offset stream = none)
    (index : Nat) : ¬ StandsAt stream index := by
  fun_induction search offset stream generalizing index with
  | case1 offset first second third rest above inductionHypothesis =>
      by_cases near : index < 3
      · exact not_standsAt_of_above rest above near
      · obtain ⟨index, rfl⟩ := Nat.exists_eq_add_of_le' (Nat.le_of_not_lt near)
        simpa using inductionHypothesis missed index
  | case2 offset first second third rest below isCode => cases missed
  | case3 offset first second third rest below noCode inductionHypothesis =>
      cases index with
      | zero => simpa [StandsAt] using noCode
      | succ index => simpa using inductionHypothesis missed index
  | case4 stream offset short =>
      intro stands
      have within := stands.within
      rcases stream with _ | ⟨first, _ | ⟨second, _ | ⟨third, rest⟩⟩⟩
      · simp at within
      · simp at within
      · simp at within
      · exact short first second third rest rfl

/-- The search finds the first start code. -/
theorem search_some {offset position : Nat} {stream : Octets}
    (found : search offset stream = some position) :
    ∃ index, position = offset + index ∧ StandsAt stream index ∧
      ∀ earlier < index, ¬ StandsAt stream earlier := by
  fun_induction search offset stream with
  | case1 offset first second third rest above inductionHypothesis =>
      obtain ⟨index, rfl, stands, least⟩ := inductionHypothesis found
      refine ⟨index + 3, by omega, by simpa using stands, fun earlier before => ?_⟩
      by_cases near : earlier < 3
      · exact not_standsAt_of_above rest above near
      · obtain ⟨earlier, rfl⟩ := Nat.exists_eq_add_of_le' (Nat.le_of_not_lt near)
        simpa using least earlier (by omega)
  | case2 offset first second third rest below isCode =>
      cases found
      exact ⟨0, rfl, by simpa [StandsAt] using isCode, fun earlier before => by omega⟩
  | case3 offset first second third rest below noCode inductionHypothesis =>
      obtain ⟨index, rfl, stands, least⟩ := inductionHypothesis found
      refine ⟨index + 1, by omega, by simpa using stands, fun earlier before => ?_⟩
      cases earlier with
      | zero => simpa [StandsAt] using noCode
      | succ earlier => simpa using least earlier (by omega)
  | case4 => cases found

/-- A long start code begins one octet before its tail. -/
def beginning (stream : Octets) (floor offset : Nat) : Nat :=
  if floor < offset ∧ stream[offset - 1]? = some 0 then offset - 1 else offset

theorem beginning_le (stream : Octets) (floor offset : Nat) :
    beginning stream floor offset ≤ offset := by
  rw [beginning]
  split <;> omega

theorem le_beginning (stream : Octets) {floor offset : Nat} (behind : floor ≤ offset) :
    floor ≤ beginning stream floor offset := by
  rw [beginning]
  split <;> omega

/-- The first start code at or after an offset has none between. -/
structure IsFirst (stream : Octets) (start offset : Nat) : Prop where
  after : start ≤ offset
  stands : StandsAt stream offset
  least : ∀ earlier, start ≤ earlier → earlier < offset → ¬ StandsAt stream earlier

theorem IsFirst.unique {stream : Octets} {start first second : Nat}
    (isFirst : IsFirst stream start first) (isSecond : IsFirst stream start second) :
    first = second := by
  rcases Nat.lt_trichotomy first second with before | same | behind
  · exact absurd isFirst.stands (isSecond.least first isFirst.after before)
  · exact same
  · exact absurd isSecond.stands (isFirst.least second isSecond.after behind)

/-- The search behind an offset finds the first start code at or after it. -/
theorem isFirst_of_search {stream : Octets} {start offset : Nat}
    (searched : search start (stream.drop start) = some offset) :
    IsFirst stream start offset := by
  obtain ⟨index, rfl, stands, least⟩ := search_some searched
  refine ⟨by omega, (standsAt_drop stream start index).1 stands, fun earlier after before => ?_⟩
  obtain ⟨earlier, rfl⟩ := Nat.exists_eq_add_of_le after
  rw [← standsAt_drop]
  exact least earlier (by omega)

theorem find?_eq_none_iff {stream : Octets} {start floor : Nat} :
    find? stream start floor = none ↔ ∀ offset, start ≤ offset → ¬ StandsAt stream offset := by
  constructor
  · intro missed offset after
    obtain ⟨index, rfl⟩ := Nat.exists_eq_add_of_le after
    rw [← standsAt_drop]
    exact search_none (Option.map_eq_none_iff.1 missed) index
  · intro nowhere
    refine Option.map_eq_none_iff.2 (Option.eq_none_iff_forall_ne_some.2 fun offset searched => ?_)
    have isFirst := isFirst_of_search searched
    exact nowhere offset isFirst.after isFirst.stands

theorem find?_eq_some_iff {stream : Octets} {start floor position : Nat} :
    find? stream start floor = some position ↔
      ∃ offset, IsFirst stream start offset ∧ beginning stream floor offset = position := by
  constructor
  · intro found
    obtain ⟨offset, searched, rfl⟩ := Option.map_eq_some_iff.1 found
    exact ⟨offset, isFirst_of_search searched, rfl⟩
  · rintro ⟨offset, isFirst, rfl⟩
    cases found : find? stream start floor with
    | none => exact absurd isFirst.stands (find?_eq_none_iff.1 found offset isFirst.after)
    | some position =>
        obtain ⟨other, searched, rfl⟩ := Option.map_eq_some_iff.1 found
        rw [isFirst.unique (isFirst_of_search searched)]
        rfl

/-- Octets without a start code can be left out of the search. -/
theorem find?_skip {stream : Octets} {start later floor : Nat} (ordered : start ≤ later)
    (empty : ∀ offset, start ≤ offset → offset < later → ¬ StandsAt stream offset) :
    find? stream start floor = find? stream later floor := by
  ext position
  rw [find?_eq_some_iff, find?_eq_some_iff]
  refine exists_congr fun offset => and_congr_left fun _ => ⟨fun isFirst => ?_, fun isFirst => ?_⟩
  · have behind : later ≤ offset := Nat.le_of_not_lt fun before =>
      empty offset isFirst.after before isFirst.stands
    exact ⟨behind, isFirst.stands, fun earlier after => isFirst.least earlier (by omega)⟩
  · refine ⟨by have := isFirst.after; omega, isFirst.stands, fun earlier after before => ?_⟩
    by_cases skipped : earlier < later
    · exact empty earlier after skipped
    · exact isFirst.least earlier (by omega) before

/-- More octets do not change what was found. -/
theorem find?_append_of_some {stream : Octets} {start floor position : Nat}
    (found : find? stream start floor = some position) (more : Octets) :
    find? (stream ++ more) start floor = some position := by
  obtain ⟨offset, isFirst, rfl⟩ := find?_eq_some_iff.1 found
  have within := isFirst.stands.within
  refine find?_eq_some_iff.2 ⟨offset, ⟨isFirst.after, ?_, fun earlier after before => ?_⟩, ?_⟩
  · exact (standsAt_append within more).2 isFirst.stands
  · rw [standsAt_append (by omega)]
    exact isFirst.least earlier after before
  · rw [beginning, beginning, List.getElem?_append_left (by omega)]

/-- Where nothing was found, only the last three octets can be part of a later start code. -/
theorem find?_append_of_none {stream : Octets} {start floor : Nat}
    (missed : find? stream start floor = none) (more : Octets) {later : Nat}
    (ordered : start ≤ later) (bounded : later ≤ max start (stream.length - 2)) :
    find? (stream ++ more) start floor = find? (stream ++ more) later floor := by
  refine find?_skip ordered fun offset after before => ?_
  rw [standsAt_append (by omega)]
  exact find?_eq_none_iff.1 missed offset after

/-- A search in the rest of a stream agrees when no start code reaches into what was dropped. -/
theorem find?_drop {stream : Octets} {count : Nat}
    (empty : 0 < count → ∀ offset ≤ count, ¬ StandsAt stream offset) :
    find? stream 0 0 = (find? (stream.drop count) 0 0).map (count + ·) := by
  rcases Nat.eq_zero_or_pos count with rfl | positive
  · cases found : find? stream 0 0 <;> simp [found]
  have nowhere := empty positive
  cases found : find? (stream.drop count) 0 0 with
  | none =>
      rw [Option.map_none, find?_eq_none_iff]
      intro offset _
      by_cases dropped : offset ≤ count
      · exact nowhere offset dropped
      · obtain ⟨index, rfl⟩ := Nat.exists_eq_add_of_le (Nat.le_of_not_le dropped)
        rw [← standsAt_drop]
        exact find?_eq_none_iff.1 found index (Nat.zero_le _)
  | some position =>
      obtain ⟨index, isFirst, rfl⟩ := find?_eq_some_iff.1 found
      have stands := (standsAt_drop stream count index).1 isFirst.stands
      have behind : 0 < index := Nat.pos_of_ne_zero fun front =>
        nowhere (count + index) (by omega) stands
      refine find?_eq_some_iff.2 ⟨count + index, ⟨Nat.zero_le _, stands, ?_⟩, ?_⟩
      · intro earlier _ before
        by_cases dropped : earlier ≤ count
        · exact nowhere earlier dropped
        · obtain ⟨earlier, rfl⟩ := Nat.exists_eq_add_of_le (Nat.le_of_not_le dropped)
          rw [← standsAt_drop]
          exact isFirst.least earlier (Nat.zero_le _) (by omega)
      · have lookBack : (stream.drop count)[index - 1]? = stream[count + index - 1]? := by
          rw [List.getElem?_drop, Nat.add_sub_assoc behind]
        simp only [beginning, lookBack, behind, show 0 < count + index by omega, true_and]
        split <;> omega

end Screencast.StartCode
