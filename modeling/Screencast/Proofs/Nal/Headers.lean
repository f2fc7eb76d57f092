/-
This file shows that joined units keep their headers when they are split again. Only a unit that is
nothing but a zero octet may get lost.
-/

import Screencast.Proofs.Nal.Rejoining

namespace Screencast.Nal

open StartCode

/-- The headers of some units that are not zero, in their order. -/
def headers (units : List Nal) : List UInt8 := (units.map header).filter (· ≠ 0)

theorem headers_cons (unit : Nal) (rest : List Nal) :
    headers (unit :: rest) = headers [unit] ++ headers rest := by
  rw [headers, List.map_cons, ← List.singleton_append, List.filter_append]
  rfl

/-- A lone zero octet in front of a short start code becomes a part of it. -/
theorem split_of_lone_zero {unit next : Nal} (zero : unit.payload = [0])
    (short : next.startCode = .short) (more : Octets) :
    split (unit.data ++ (next.data ++ more)) =
      split ({ next with startCode := .long }.data ++ more) := by
  let extended : Nal := { next with startCode := .long }
  have octets : unit.data ++ (next.data ++ more) =
      unit.startCode.octets ++ (extended.data ++ more) := by
    rw [data, zero, List.append_assoc, data, data, short]
    rfl
  have clean : ∀ offset, ¬ StandsAt unit.payload offset := by
    intro offset stands
    have within := stands.within
    rw [zero] at within
    simp at within
  have aligned : Demuxer.Aligned (unit.data ++ (next.data ++ more)) := by
    rw [Demuxer.Aligned, atStart?_data_append]
    rfl
  have length : unit.data.length = unit.startCode.length + 1 := by
    rw [data, List.length_append, zero]
    rfl
  have isFirst := isFirst_data_append clean next more
  have found : find? (unit.data ++ (next.data ++ more)) unit.startCode.length
      unit.startCode.length = some unit.startCode.length := by
    apply find?_eq_some_iff.2
    refine ⟨_, isFirst, ?_⟩
    have place : unit.data.length + next.startCode.length - 3 = unit.startCode.length + 1 := by
      rw [length, short]
      rfl
    rw [place, beginning, if_pos]
    · rfl
    · refine ⟨Nat.lt_succ_self _, ?_⟩
      rw [octets, Nat.add_sub_cancel, StartCode.length,
        List.getElem?_append_right (Nat.le_refl _), Nat.sub_self]
      rfl
  rw [← headerOffset_data_append unit (next.data ++ more)] at found
  rw [split_of_next aligned found, headerOffset_data_append, octets, StartCode.length,
    List.take_left, List.drop_left]
  have bare := ofData?_append unit.startCode []
  rw [List.append_nil] at bare
  rw [bare]
  rfl

/-- Units with clean payloads come back with their headers, zeros apart. -/
theorem headers_split_concat (units : List Nal)
    (clean : ∀ unit ∈ units, ∀ offset, ¬ StandsAt unit.payload offset) :
    headers (split (concat units)) = headers units := by
  cases units with
  | nil => exact congrArg headers split_nil
  | cons unit rest =>
      induction rest generalizing unit with
      | nil =>
          have single : concat [unit] = unit.data := by simp [concat]
          rw [single, split_data (clean unit List.mem_cons_self)]
      | cons next rest inductionHypothesis =>
          have parts : concat (unit :: next :: rest) = unit.data ++ (next.data ++ concat rest) := rfl
          have own := clean unit List.mem_cons_self
          have others : ∀ other ∈ next :: rest, ∀ offset, ¬ StandsAt other.payload offset :=
            fun other member => clean other (List.mem_cons_of_mem unit member)
          -- The start code of the next unit may grow, but its header stays.
          have grown := inductionHypothesis { next with startCode := .long } fun other member => by
            rcases List.mem_cons.1 member with rfl | member
            · exact others next List.mem_cons_self
            · exact others other (List.mem_cons_of_mem next member)
          have kept := inductionHypothesis next others
          rw [parts, headers_cons]
          by_cases lent : next.startCode = .short ∧ unit.data.getLast? = some 0
          case neg =>
              rw [split_of_apart own (fun short zero => lent ⟨short, zero⟩), headers_cons]
              exact congrArg _ kept
          case pos =>
              obtain ⟨short, zero⟩ := lent
              rw [data, payload, List.getLast?_append, List.getLast?_cons] at zero
              cases last : unit.body.getLast? with
              | none =>
                  have empty : unit.body = [] := List.getLast?_eq_none_iff.1 last
                  have header : unit.header = 0 := by simpa [last] using zero
                  have lone : unit.payload = [0] := by rw [payload, header, empty]
                  have lost : headers [unit] = [] := by simp [headers, header]
                  rw [split_of_lone_zero lone short, lost]
                  exact grown
              | some octet =>
                  have ends : unit.body.getLast? = some 0 := by simpa [last] using zero
                  have lends : lends unit next = true := by simp [lends, ends, short]
                  rw [split_of_lends own lends, headers_cons]
                  exact congrArg _ grown

end Screencast.Nal
