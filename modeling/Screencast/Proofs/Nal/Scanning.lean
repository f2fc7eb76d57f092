/-
This file compares the search for start codes with a search that looks at every offset, and with the
loop over offsets that makes the jumps. The loop reads only octets of the stream and comes to an end.
-/

import Screencast.Proofs.Nal.Search

namespace Screencast.StartCode

/-- The plain search looks at every offset from `start` on. -/
def first? (stream : Octets) (start : Nat) : Option Nat :=
  (List.range' start (stream.length - start)).find? fun offset => StandsAt stream offset

theorem first?_eq_some_iff {stream : Octets} {start offset : Nat} :
    first? stream start = some offset ↔ IsFirst stream start offset := by
  rw [first?, List.find?_range'_eq_some]
  simp only [decide_eq_true_eq, List.mem_range'_1, Bool.not_eq_true', decide_eq_false_iff_not]
  constructor
  · rintro ⟨stands, within, least⟩
    exact ⟨within.1, stands, least⟩
  · intro isFirst
    have after := isFirst.after
    have within := isFirst.stands.within
    exact ⟨isFirst.stands, ⟨after, by omega⟩, isFirst.least⟩

/-- Both searches find the same start codes. -/
theorem find?_eq_first? (stream : Octets) (start floor : Nat) :
    find? stream start floor = (first? stream start).map (beginning stream floor) := by
  ext position
  simp only [find?_eq_some_iff, Option.map_eq_some_iff, first?_eq_some_iff]

/-- A loop over offsets can go astray in three ways. -/
inductive Stray
  /-- It reads an octet outside of the stream. -/
  | outside (offset : Nat)
  /-- It forms a number above a limit. -/
  | above (number : Nat)
  /-- It takes more rounds than it is given. -/
  | endless

def octetAt (stream : Octets) (offset : Nat) : Except Stray UInt8 :=
  stream[offset]?.elim (.error (.outside offset)) .ok

def addWithin (limit left right : Nat) : Except Stray Nat :=
  if left + right ≤ limit then .ok (left + right) else .error (.above (left + right))

/-- The octets are compared in their order, up to the first that differs. -/
def agrees (stream : Octets) (offset : Nat) : (octets : Octets) → Except Stray Bool
  | [] => return true
  | octet :: rest => do
      if (← octetAt stream offset) = octet then agrees stream (offset + 1) rest else return false

/-- A zero octet in front of a short code belongs to it when it does not lie before `floor`. -/
def lookBack (stream : Octets) (floor offset : Nat) : Except Stray Nat :=
  if floor < offset then do
    if ← agrees stream (offset - 1) [0] then return offset - 1 else return offset
  else return offset

/-- Each round of the loop looks at one offset and goes on one or three offsets later. -/
def scan (stream : Octets) (limit floor : Nat) :
    (rounds offset : Nat) → Except Stray (Option Nat)
  | 0, _ => throw .endless
  | rounds + 1, offset => do
      let third ← addWithin limit offset 2
      if third < stream.length then
        if 1 < (← octetAt stream third) then
          scan stream limit floor rounds (← addWithin limit offset 3)
        else if ← agrees stream offset short.octets then
          return some (← lookBack stream floor offset)
        else scan stream limit floor rounds (← addWithin limit offset 1)
      else return none

/-- Fewer than three octets hold no start code. -/
def scanFrom (stream : Octets) (limit floor rounds start : Nat) : Except Stray (Option Nat) :=
  if stream.length < 3 then return none else scan stream limit floor rounds start

theorem octetAt_eq {stream : Octets} {offset : Nat} (inside : offset < stream.length) :
    octetAt stream offset = .ok stream[offset] := by
  rw [octetAt, List.getElem?_eq_getElem inside]
  rfl

theorem addWithin_eq {limit left right : Nat} (fits : left + right ≤ limit) :
    addWithin limit left right = .ok (left + right) :=
  if_pos fits

theorem agrees_eq {stream : Octets} {offset : Nat} {octets : Octets}
    (within : offset + octets.length ≤ stream.length) :
    agrees stream offset octets = .ok (octets.isPrefixOf (stream.drop offset)) := by
  induction octets generalizing offset with
  | nil => rfl
  | cons octet rest inductionHypothesis =>
      rw [List.length_cons] at within
      have inside : offset < stream.length := by omega
      rw [agrees, octetAt_eq inside, List.drop_eq_getElem_cons inside, List.isPrefixOf]
      change (if stream[offset] = octet then agrees stream (offset + 1) rest else .ok false) = _
      split
      case isTrue same =>
        rw [inductionHypothesis (by omega), same, beq_self_eq_true, Bool.true_and]
      case isFalse different => rw [beq_false_of_ne (Ne.symm different), Bool.false_and]

theorem agrees_short {stream : Octets} {offset : Nat} (within : offset + 2 < stream.length) :
    agrees stream offset short.octets = .ok (decide (StandsAt stream offset)) := by
  have front : StandsAt (stream.drop offset) 0 ↔ short.octets <+: stream.drop offset := by
    constructor
    · intro stands
      obtain ⟨rest, spelled⟩ := stands.exists_rest
      rw [spelled]
      exact ⟨rest, rfl⟩
    · rintro ⟨rest, spelled⟩
      rw [← spelled]
      exact ⟨rfl, rfl, rfl⟩
  rw [agrees_eq within, Except.ok.injEq, Bool.eq_iff_iff, decide_eq_true_eq,
    List.isPrefixOf_iff_prefix, ← front, standsAt_drop, Nat.add_zero]

theorem agrees_zero {stream : Octets} {offset : Nat} (within : offset < stream.length) :
    agrees stream offset [0] = .ok (decide (stream[offset]? = some 0)) := by
  rw [agrees_eq within, List.drop_eq_getElem_cons within, List.getElem?_eq_getElem within,
    Except.ok.injEq, Bool.eq_iff_iff, decide_eq_true_eq, List.isPrefixOf_iff_prefix,
    List.cons_prefix_cons, Option.some.injEq, eq_comm]
  exact and_iff_left List.nil_prefix

theorem lookBack_eq {stream : Octets} {offset : Nat} (within : offset < stream.length)
    (floor : Nat) : lookBack stream floor offset = .ok (beginning stream floor offset) := by
  rw [lookBack, beginning]
  split
  case isTrue behind =>
    rw [agrees_zero (by omega)]
    change (if decide (stream[offset - 1]? = some 0) = true then Except.ok _ else .ok _) = _
    simp only [behind, decide_eq_true_eq, true_and, ← apply_ite Except.ok]
  case isFalse ahead => simp only [ahead, false_and, if_false, pure, Except.pure]

/-- The last round reaches behind the stream. -/
theorem scan_behind {stream : Octets} {limit offset : Nat} (wide : offset + 2 ≤ limit)
    (behind : stream.length ≤ offset + 2) (floor rounds : Nat) :
    scan stream limit floor (rounds + 1) offset = .ok none := by
  rw [scan, addWithin_eq wide]
  exact if_neg (Nat.not_lt.2 behind)

/-- Every other round looks at three octets, and it jumps behind a third one above one. -/
theorem scan_within {stream : Octets} {limit offset : Nat} (wide : stream.length ≤ limit)
    (within : offset + 2 < stream.length) (floor rounds : Nat) :
    scan stream limit floor (rounds + 1) offset =
      if 1 < stream[offset + 2] then scan stream limit floor rounds (offset + 3)
      else if StandsAt stream offset then .ok (some (beginning stream floor offset))
      else scan stream limit floor rounds (offset + 1) := by
  rw [scan, addWithin_eq (by omega : offset + 2 ≤ limit)]
  change (if offset + 2 < stream.length then _ else _) = _
  rw [if_pos within, octetAt_eq within]
  change (if 1 < stream[offset + 2] then _ else _) = _
  rw [addWithin_eq (by omega : offset + 3 ≤ limit), agrees_short within,
    lookBack_eq (by omega), addWithin_eq (by omega : offset + 1 ≤ limit)]
  change (if _ then scan stream limit floor rounds (offset + 3)
    else if decide (StandsAt stream offset) = true then .ok (some (beginning stream floor offset))
    else scan stream limit floor rounds (offset + 1)) = _
  simp only [decide_eq_true_eq]

/-- A third octet above one keeps start codes away from three offsets. -/
theorem not_standsAt_of_third {stream : Octets} {offset earlier : Nat}
    (within : offset + 2 < stream.length) (above : 1 < stream[offset + 2])
    (after : offset ≤ earlier) (before : earlier < offset + 3) : ¬StandsAt stream earlier := by
  obtain ⟨near, rfl⟩ := Nat.exists_eq_add_of_le after
  rw [← standsAt_drop, List.drop_eq_getElem_cons (by omega),
    List.drop_eq_getElem_cons (by omega), List.drop_eq_getElem_cons within]
  exact not_standsAt_of_above _ above (by omega)

theorem find?_of_few {stream : Octets} {start : Nat} (few : stream.length ≤ start + 2)
    (floor : Nat) : find? stream start floor = none := by
  rw [find?_eq_none_iff]
  intro offset after stands
  have within := stands.within
  omega

/-- The loop finds what the search finds, with at most one round for each octet that is left and one
more. -/
theorem scan_eq {stream : Octets} {limit offset rounds : Nat}
    (wide : max offset stream.length + 2 ≤ limit) (enough : stream.length - offset < rounds)
    (floor : Nat) : scan stream limit floor rounds offset = .ok (find? stream offset floor) := by
  -- Each round leaves fewer octets, so there are always more rounds than octets left.
  induction rounds generalizing offset with
  | zero => exact absurd enough (Nat.not_lt_zero _)
  | succ rounds inductionHypothesis =>
      by_cases within : offset + 2 < stream.length
      · rw [scan_within (by omega) within]
        split
        case isTrue above =>
          have empty : ∀ earlier, offset ≤ earlier → earlier < offset + 3 →
              ¬StandsAt stream earlier :=
            fun _ after before => not_standsAt_of_third within above after before
          rw [inductionHypothesis (by omega) (by omega), find?_skip (by omega) empty]
        case isFalse =>
          split
          case isTrue stands =>
            have isFirst : IsFirst stream offset offset :=
              ⟨Nat.le_refl _, stands, fun earlier after before => absurd before (by omega)⟩
            rw [find?_eq_some_iff.2 ⟨offset, isFirst, rfl⟩]
          case isFalse absent =>
            have empty : ∀ earlier, offset ≤ earlier → earlier < offset + 1 →
                ¬StandsAt stream earlier := by
              intro earlier after before
              rwa [show earlier = offset by omega]
            rw [inductionHypothesis (by omega) (by omega), find?_skip (by omega) empty]
      · rw [scan_behind (by omega) (by omega), find?_of_few (by omega)]

theorem scanFrom_eq {stream : Octets} {limit start rounds : Nat}
    (wide : max start stream.length + 2 ≤ limit) (enough : stream.length - start < rounds)
    (floor : Nat) :
    scanFrom stream limit floor rounds start = .ok (find? stream start floor) := by
  rw [scanFrom]
  split
  case isTrue short =>
    rw [find?_of_few (by omega)]
    rfl
  case isFalse => exact scan_eq wide enough floor

/-- The search finds what a plain search finds: the first start code at or after `start`, with the
zero octet in front of it that makes it a long one. The loop with its jumps finds the same. It reads
only octets of the stream, forms no number more than two above both the offset that it starts at and
the length, and ends after at most one round for each octet that is left and one more. -/
theorem search_exact (stream : Octets) (start floor : Nat) :
    find? stream start floor = (first? stream start).map (beginning stream floor) ∧
      (∀ offset, IsFirst stream start offset →
        find? stream start floor = some (beginning stream floor offset)) ∧
      (find? stream start floor = none ↔ ∀ offset, start ≤ offset → ¬StandsAt stream offset) ∧
      ∀ limit rounds, max start stream.length + 2 ≤ limit → stream.length - start < rounds →
        scanFrom stream limit floor rounds start = .ok (find? stream start floor) := by
  refine ⟨find?_eq_first? stream start floor, ?_, find?_eq_none_iff, ?_⟩
  · intro offset isFirst
    exact find?_eq_some_iff.2 ⟨offset, isFirst, rfl⟩
  · intro limit rounds wide enough
    exact scanFrom_eq wide enough floor

/-- The first comparison jumps over three octets. The code that is found then is a long one. -/
theorem search_exact_jump :
    let stream : Octets := [0x65, 0x88, 0x84, 0x00, 0x10, 0x00, 0x00, 0x00, 0x01, 0x41]
    IsFirst stream 0 6 ∧ max 0 stream.length + 2 ≤ 12 ∧ stream.length - 0 < 11 ∧
      find? stream 0 0 = some 5 ∧ scanFrom stream 12 0 11 0 = .ok (some 5) := by
  intro stream
  have isFirst : IsFirst stream 0 6 := first?_eq_some_iff.1 (by decide)
  obtain ⟨-, least, -, scanned⟩ := search_exact stream 0 0
  have found : find? stream 0 0 = some 5 := (least 6 isFirst).trans (by decide)
  have wide : max 0 stream.length + 2 ≤ 12 := by decide
  have enough : stream.length - 0 < 11 := by decide
  exact ⟨isFirst, wide, enough, found, (scanned 12 11 wide enough).trans (by rw [found])⟩

end Screencast.StartCode
