/-
This file joins units to a stream and splits them off again. They come back as they were, except
that a zero octet at the end of a unit goes to a short start code behind it.
-/

import Screencast.Proofs.Nal.Pieces

namespace Screencast

namespace StartCode

/-- All octets of a start code before its last one are zero. -/
theorem octets_zero (code : StartCode) {index : Nat} (before : index + 1 < code.length) :
    code.octets[index]? = some 0 := by
  cases code with
  | short =>
      change index + 1 < 3 at before
      rcases (show index = 0 ∨ index = 1 by omega) with rfl | rfl
      · rfl
      · rfl
  | long =>
      change index + 1 < 4 at before
      rcases (show index = 0 ∨ index = 1 ∨ index = 2 by omega) with rfl | rfl | rfl
      · rfl
      · rfl
      · rfl

theorem three_le_length (code : StartCode) : 3 ≤ code.length := by
  cases code <;> decide

end StartCode

namespace Nal

open StartCode

/-- A unit can be joined to others when its payload has no start code and no zero octet in front. -/
structure Joinable (unit : Nal) : Prop where
  clean : ∀ offset, ¬ StandsAt unit.payload offset
  header : unit.header ≠ 0

/-- No start code stands in the payload of a unit that was split off. -/
theorem not_standsAt_payload {stream : Octets} {unit : Nal} (member : unit ∈ split stream)
    (offset : Nat) : ¬ StandsAt unit.payload offset := by
  intro stands
  obtain ⟨index, made⟩ := exists_madeOf member
  rw [made.payload, List.extract_eq_take_drop] at stands
  have within := stands.within
  rw [← standsAt_append within, List.take_append_drop, standsAt_drop] at stands
  rw [List.length_take] at within
  obtain ⟨other, code⟩ := exists_offsets stands
  have later : index + 1 ≤ other := (floorAt_le_iff code).1 (Nat.le_add_right _ offset)
  have cut := cutAt_le code later
  omega

/-- A unit lends its last octet when that is zero and the start code behind it is short. -/
def lends (unit next : Nal) : Bool := unit.body.getLast? = some 0 && next.startCode = .short

/-- These units come back when some units are joined and split again. -/
def rejoined : List Nal → List Nal
  | [] => []
  | [unit] => [unit]
  | unit :: next :: rest =>
      if lends unit next then
        { unit with body := unit.body.dropLast } ::
          rejoined ({ next with startCode := .long } :: rest)
      else unit :: rejoined (next :: rest)
termination_by units => units.length

theorem atStart?_data_append (unit : Nal) (more : Octets) :
    atStart? (unit.data ++ more) = some unit.startCode := by
  apply atStart?_eq_some_iff.2
  exact (List.prefix_append unit.startCode.octets unit.payload).trans (List.prefix_append _ more)

theorem headerOffset_data_append (unit : Nal) (more : Octets) :
    Demuxer.headerOffset (unit.data ++ more) = unit.startCode.length := by
  rw [Demuxer.headerOffset, atStart?_data_append]
  rfl

theorem ofData?_data (unit : Nal) : ofData? unit.data = some unit :=
  ofData?_append unit.startCode unit.payload

theorem length_data (unit : Nal) :
    unit.data.length = unit.startCode.length + unit.body.length + 1 := by
  rw [data, List.length_append, payload, List.length_cons, StartCode.length, Nat.add_assoc]

/-- A unit with a clean payload has no start code but its own. -/
theorem not_standsAt_data {unit : Nal} (clean : ∀ offset, ¬ StandsAt unit.payload offset)
    {offset : Nat} (behind : unit.startCode.length ≤ offset) : ¬ StandsAt unit.data offset := by
  intro stands
  obtain ⟨index, rfl⟩ := Nat.exists_eq_add_of_le behind
  rw [← standsAt_drop] at stands
  rw [data, StartCode.length, List.drop_left] at stands
  exact clean index stands

/-- A header that is not zero separates the zeros of the start code from those of the body. -/
theorem getLast?_data {unit : Nal} (header : unit.header ≠ 0) :
    unit.data.getLast? = some 0 ↔ unit.body.getLast? = some 0 := by
  rw [data, payload, List.getLast?_append, List.getLast?_cons]
  cases last : unit.body.getLast? with
  | none => simp [header]
  | some octet => simp

/-- The start code of the next unit is the first one behind a clean payload. -/
theorem isFirst_data_append {unit : Nal} (clean : ∀ offset, ¬ StandsAt unit.payload offset)
    (next : Nal) (more : Octets) :
    IsFirst (unit.data ++ (next.data ++ more)) unit.startCode.length
      (unit.data.length + next.startCode.length - 3) := by
  have long := three_le_length next.startCode
  have length := length_data unit
  refine ⟨by omega, ?_, ?_⟩
  · rw [Nat.add_sub_assoc long, ← standsAt_drop, List.drop_left]
    cases code : next.startCode with
    | short => simp [StandsAt, data, code, octets, StartCode.length]
    | long => simp [StandsAt, data, code, octets, StartCode.length]
  · intro earlier behind before stands
    by_cases inside : earlier + 3 ≤ unit.data.length
    · rw [standsAt_append inside] at stands
      exact not_standsAt_data clean behind stands
    · -- The last octet of a start code that reaches into the next unit would be one of its zeros.
      obtain ⟨index, last⟩ := Nat.exists_eq_add_of_le
        (show unit.data.length ≤ earlier + 2 by omega)
      have within : index + 1 < next.startCode.length := by omega
      have one := stands.2.2
      rw [last, List.getElem?_append_right (Nat.le_add_right _ index), Nat.add_sub_cancel_left,
        data, List.append_assoc, List.getElem?_append_left (Nat.lt_of_succ_lt within),
        octets_zero next.startCode within] at one
      exact absurd one (by decide)

/-- What ends at the next start code is split off. -/
theorem split_append {front : Nal} {back : Octets}
    (ends : find? (front.data ++ back) front.startCode.length front.startCode.length =
      some front.data.length) :
    split (front.data ++ back) = front :: split back := by
  have aligned : Demuxer.Aligned (front.data ++ back) := by
    rw [Demuxer.Aligned, atStart?_data_append]
    rfl
  rw [← headerOffset_data_append front back] at ends
  rw [split_of_next aligned ends, List.take_left, List.drop_left, ofData?_data]
  rfl

/-- A zero octet at the end of a unit is its own last one. -/
theorem data_of_lent {unit : Nal} (zero : unit.body.getLast? = some 0) :
    unit.data = { unit with body := unit.body.dropLast }.data ++ [0] := by
  obtain ⟨front, body⟩ := List.getLast?_eq_some_iff.1 zero
  simp [data, payload, body]

/-- A zero octet in front of a short start code makes it a long one. -/
theorem data_append_of_lent {unit next : Nal} (zero : unit.body.getLast? = some 0)
    (short : next.startCode = .short) (more : Octets) :
    unit.data ++ (next.data ++ more) = { unit with body := unit.body.dropLast }.data ++
      ({ next with startCode := .long }.data ++ more) := by
  rw [data_of_lent zero, List.append_assoc]
  simp [data, short, octets, payload]

/-- A long start code begins with one more zero. -/
theorem getElem?_data_append (unit : Nal) {next : Nal} (long : next.startCode = .long)
    (more : Octets) : (unit.data ++ (next.data ++ more))[unit.data.length]? = some 0 := by
  rw [List.getElem?_append_right (Nat.le_refl _), Nat.sub_self, data, long]
  rfl

/-- A unit in front of another one comes back without the octet that it lends. -/
theorem split_of_lends {unit next : Nal} (clean : ∀ offset, ¬ StandsAt unit.payload offset)
    (lent : lends unit next = true) (more : Octets) :
    split (unit.data ++ (next.data ++ more)) =
      { unit with body := unit.body.dropLast } ::
        split ({ next with startCode := .long }.data ++ more) := by
  rw [lends, Bool.and_eq_true, decide_eq_true_eq, decide_eq_true_eq] at lent
  obtain ⟨zero, short⟩ := lent
  let front : Nal := { unit with body := unit.body.dropLast }
  let extended : Nal := { next with startCode := .long }
  have place : unit.data.length + next.startCode.length - 3 = front.data.length + 1 := by
    rw [data_of_lent zero, List.length_append, short]
    rfl
  have isFirst := isFirst_data_append clean next more
  rw [place, data_append_of_lent zero short] at isFirst
  rw [data_append_of_lent zero short]
  apply split_append
  apply find?_eq_some_iff.2
  refine ⟨_, isFirst, ?_⟩
  rw [beginning, if_pos]
  · rfl
  · have length := length_data front
    refine ⟨show front.startCode.length < front.data.length + 1 by omega, ?_⟩
    exact getElem?_data_append front (show extended.startCode = .long from rfl) more

/-- A unit comes back as it was unless it ends with a zero in front of a short start code. -/
theorem split_of_apart {unit next : Nal} (clean : ∀ offset, ¬ StandsAt unit.payload offset)
    (apart : next.startCode = .short → unit.data.getLast? ≠ some 0) (more : Octets) :
    split (unit.data ++ (next.data ++ more)) = unit :: split (next.data ++ more) := by
  have length := length_data unit
  apply split_append
  apply find?_eq_some_iff.2
  refine ⟨_, isFirst_data_append clean next more, ?_⟩
  cases code : next.startCode with
  | long =>
      rw [beginning, if_pos]
      · rfl
      · refine ⟨show unit.startCode.length < unit.data.length + 1 by omega, ?_⟩
        exact getElem?_data_append unit code more
  | short =>
      rw [beginning, if_neg]
      · rfl
      · rintro ⟨-, zero⟩
        change (unit.data ++ (next.data ++ more))[unit.data.length - 1]? = some 0 at zero
        rw [List.getElem?_append_left (by omega), ← List.getLast?_eq_getElem?] at zero
        exact apart code zero

/-- A unit that lends nothing comes back as it was. -/
theorem split_of_not_lends {unit next : Nal} (joinable : unit.Joinable)
    (kept : ¬ lends unit next = true) (more : Octets) :
    split (unit.data ++ (next.data ++ more)) = unit :: split (next.data ++ more) := by
  apply split_of_apart joinable.clean
  intro short zero
  rw [getLast?_data joinable.header] at zero
  simp [lends, zero, short] at kept

/-- The last unit comes back as it was. -/
theorem split_data {unit : Nal} (clean : ∀ offset, ¬ StandsAt unit.payload offset) :
    split unit.data = [unit] := by
  have header := headerOffset_data_append unit []
  have front := atStart?_data_append unit []
  rw [List.append_nil] at header front
  have aligned : Demuxer.Aligned unit.data := by
    rw [Demuxer.Aligned, front]
    rfl
  have missed : find? unit.data (Demuxer.headerOffset unit.data) (Demuxer.headerOffset unit.data) =
      none := by
    apply find?_eq_none_iff.2
    intro offset behind
    rw [header] at behind
    exact not_standsAt_data clean behind
  rw [split_of_last aligned missed, ofData?_data]
  rfl

/-- Joined units come back in their order. -/
theorem split_concat_eq (units : List Nal) (joinable : ∀ unit ∈ units, unit.Joinable) :
    split (concat units) = rejoined units := by
  fun_induction rejoined units with
  | case1 => exact split_nil
  | case2 unit =>
      have single : concat [unit] = unit.data := by simp [concat]
      rw [single]
      exact split_data (joinable unit (List.mem_singleton_self unit)).clean
  | case3 unit next rest lent inductionHypothesis =>
      have parts : concat (unit :: next :: rest) = unit.data ++ (next.data ++ concat rest) := rfl
      rw [parts, split_of_lends (joinable unit List.mem_cons_self).clean lent]
      refine congrArg _ (inductionHypothesis fun other member => ?_)
      rcases List.mem_cons.1 member with rfl | member
      · have own := joinable next (by simp)
        exact ⟨own.clean, own.header⟩
      · exact joinable other (by simp [member])
  | case4 unit next rest kept inductionHypothesis =>
      have parts : concat (unit :: next :: rest) = unit.data ++ (next.data ++ concat rest) := rfl
      rw [parts, split_of_not_lends (joinable unit List.mem_cons_self) kept]
      refine congrArg _ (inductionHypothesis fun other member => ?_)
      exact joinable other (List.mem_cons_of_mem unit member)

theorem length_rejoined (units : List Nal) : (rejoined units).length = units.length := by
  fun_induction rejoined units with
  | case1 => rfl
  | case2 unit => rfl
  | case3 unit next rest lent inductionHypothesis =>
      rw [List.length_cons, inductionHypothesis]
      rfl
  | case4 unit next rest kept inductionHypothesis =>
      rw [List.length_cons, inductionHypothesis]
      rfl

/-- A unit comes back with its header and its body, less the octet that it lends. -/
theorem getElem?_rejoined {units : List Nal} {index : Nat} {unit : Nal}
    (member : units[index]? = some unit) :
    ∃ again, (rejoined units)[index]? = some again ∧ again.header = unit.header ∧
      again.body = if units[index + 1]?.any (lends unit) then unit.body.dropLast
        else unit.body := by
  fun_induction rejoined units generalizing index unit with
  | case1 => cases member
  | case2 single =>
      cases index with
      | zero =>
          cases member
          exact ⟨single, rfl, rfl, rfl⟩
      | succ index => cases member
  | case3 first next rest lent inductionHypothesis =>
      cases index with
      | zero =>
          cases member
          exact ⟨_, rfl, rfl, by simp [lent]⟩
      | succ index =>
          -- Whether the next unit lends an octet does not depend on what it got.
          cases index with
          | zero =>
              cases member
              have own : ({ next with startCode := .long } :: rest)[0]? =
                some { next with startCode := .long } := rfl
              obtain ⟨again, found, header, body⟩ := inductionHypothesis own
              exact ⟨again, found, header, body⟩
          | succ index => exact inductionHypothesis member
  | case4 first next rest kept inductionHypothesis =>
      cases index with
      | zero =>
          cases member
          exact ⟨_, rfl, rfl, by simp [kept]⟩
      | succ index => exact inductionHypothesis member

/-- Units of any streams come back when they are joined and split again, if no header of theirs is
zero. There are as many as before and their types are the same. A payload comes back as it was,
except that it loses a zero octet at its end to a short start code behind it. -/
theorem split_concat (units : List Nal)
    (apart : ∀ unit ∈ units, (∃ stream, unit ∈ split stream) ∧ unit.header ≠ 0) :
    (split (concat units)).length = units.length ∧
      ∀ (index : Nat) (unit : Nal), units[index]? = some unit →
        ∃ again, (split (concat units))[index]? = some again ∧ again.type = unit.type ∧
          again.payload =
            if unit.data.getLast? = some 0 ∧
                units[index + 1]?.map startCode = some .short then unit.payload.dropLast
            else unit.payload := by
  have joinable : ∀ unit ∈ units, unit.Joinable := by
    intro unit member
    obtain ⟨⟨stream, origin⟩, header⟩ := apart unit member
    exact ⟨not_standsAt_payload origin, header⟩
  rw [split_concat_eq units joinable]
  refine ⟨length_rejoined units, ?_⟩
  intro index unit member
  obtain ⟨again, found, header, body⟩ := getElem?_rejoined member
  refine ⟨again, found, by rw [type, header, type], ?_⟩
  have last := getLast?_data (joinable unit (List.mem_of_getElem? member)).header
  have lending : units[index + 1]?.any (lends unit) = true ↔
      unit.data.getLast? = some 0 ∧ units[index + 1]?.map startCode = some .short := by
    rw [last]
    cases units[index + 1]? with
    | none => simp
    | some next => simp [lends]
  rw [payload, header, body]
  by_cases lent : units[index + 1]?.any (lends unit) = true
  · obtain ⟨front, parts⟩ := List.getLast?_eq_some_iff.1 (last.1 (lending.1 lent).1)
    rw [if_pos lent, if_pos (lending.1 lent), payload, parts, List.dropLast_concat,
      ← List.cons_append, List.dropLast_concat]
  · rw [if_neg lent, if_neg fun both => lent (lending.2 both)]
    rfl

/-- The first unit lends its zero to the second one, which comes from another stream. -/
theorem split_concat_lent :
    let lender : Nal := ⟨.short, 0x41, [5, 0]⟩
    let borrower : Nal := ⟨.short, 0x65, [7]⟩
    lender ∈ split [0, 0, 1, 0x41, 5, 0, 0, 0, 0, 1, 0x42] ∧
      borrower ∈ split [9, 0, 0, 1, 0x65, 7] ∧
      ∃ again, (split (concat [lender, borrower]))[0]? = some again ∧
        again.type = 1 ∧ again.payload = [0x41, 5] := by
  intro lender borrower
  have first : lender ∈ split [0, 0, 1, 0x41, 5, 0, 0, 0, 0, 1, 0x42] := by decide +kernel
  have second : borrower ∈ split [9, 0, 0, 1, 0x65, 7] := by decide +kernel
  have apart : ∀ unit ∈ [lender, borrower], (∃ stream, unit ∈ split stream) ∧ unit.header ≠ 0 := by
    intro unit member
    rcases List.mem_cons.1 member with rfl | member
    · exact ⟨⟨_, first⟩, by decide⟩
    · rw [List.mem_singleton.1 member]
      exact ⟨⟨_, second⟩, by decide⟩
  obtain ⟨again, found, type, payload⟩ := (split_concat [lender, borrower] apart).2 0 lender rfl
  exact ⟨first, second, again, found, type.trans (by decide), payload.trans (by decide)⟩

end Nal

end Screencast
