/-
This file divides a stream at its start codes. Splitting the stream gives these pieces, except for
those that are bare start codes.
-/

import Screencast.Proofs.Nal.Chunks

namespace Screencast

namespace StartCode

/-- These are the offsets of all start codes, in their order. -/
def offsets (stream : Octets) : List Nat :=
  (List.range stream.length).filter fun offset => StandsAt stream offset

/-- The header of a piece follows its start code. -/
def headerAt (stream : Octets) (index : Nat) : Nat :=
  ((offsets stream)[index]?.map (· + 3)).getD stream.length

/-- The octets before this offset belong to the start code of an earlier piece, or to none. -/
def floorAt (stream : Octets) : (index : Nat) → Nat
  | 0 => 0
  | index + 1 => headerAt stream index

/-- A piece begins with its start code, which takes a zero octet before it if no earlier start code
has that octet. Behind the last piece, the stream ends. -/
def cutAt (stream : Octets) (index : Nat) : Nat :=
  ((offsets stream)[index]?.map (beginning stream (floorAt stream index))).getD stream.length

/-- A piece ends where the next one begins. -/
def piece (stream : Octets) (index : Nat) : Octets :=
  stream.extract (cutAt stream index) (cutAt stream (index + 1))

/-- A bare start code has no header behind it. -/
def isBare (octets : Octets) : Bool := octets = short.octets || octets = long.octets

/-- Start codes do not overlap. -/
theorem StandsAt.apart {stream : Octets} {first second : Nat} (former : StandsAt stream first)
    (latter : StandsAt stream second) (before : first < second) : first + 3 ≤ second := by
  apply Nat.le_of_not_lt
  intro near
  have one := former.2.2
  rcases (show second = first + 1 ∨ second = first + 2 by omega) with rfl | rfl
  · exact absurd (one.symm.trans latter.2.1) (by decide)
  · exact absurd (one.symm.trans latter.1) (by decide)

section Offsets

variable {stream : Octets} {index offset : Nat}

theorem standsAt_of_offsets (code : (offsets stream)[index]? = some offset) :
    StandsAt stream offset := by
  simpa using (List.mem_filter.1 (List.mem_of_getElem? code)).2

theorem exists_offsets (stands : StandsAt stream offset) :
    ∃ index : Nat, (offsets stream)[index]? = some offset := by
  apply List.mem_iff_getElem?.1
  have within := stands.within
  exact List.mem_filter.2 ⟨List.mem_range.2 (by omega), by simpa using stands⟩

theorem offsets_lt {other later : Nat} (former : (offsets stream)[index]? = some offset)
    (latter : (offsets stream)[other]? = some later) (before : index < other) :
    offset < later := by
  obtain ⟨inside, rfl⟩ := List.getElem?_eq_some_iff.1 former
  obtain ⟨within, rfl⟩ := List.getElem?_eq_some_iff.1 latter
  have sorted : (offsets stream).Pairwise (· < ·) := List.pairwise_lt_range.filter _
  exact List.pairwise_iff_getElem.1 sorted index other inside within before

theorem offsets_le {other later : Nat} (former : (offsets stream)[index]? = some offset)
    (latter : (offsets stream)[other]? = some later) (ordered : index ≤ other) :
    offset ≤ later := by
  rcases Nat.eq_or_lt_of_le ordered with rfl | before
  · rw [former] at latter
    cases latter
    exact Nat.le_refl offset
  · exact Nat.le_of_lt (offsets_lt former latter before)

theorem headerAt_of_offsets (code : (offsets stream)[index]? = some offset) :
    headerAt stream index = offset + 3 := by
  simp [headerAt, code]

theorem cutAt_of_offsets (code : (offsets stream)[index]? = some offset) :
    cutAt stream index = beginning stream (floorAt stream index) offset := by
  simp [cutAt, code]

theorem cutAt_of_none (last : (offsets stream)[index]? = none) :
    cutAt stream index = stream.length := by
  simp [cutAt, last]

/-- A floor separates the start codes of earlier pieces from the later ones. -/
theorem floorAt_le_iff {other : Nat} (code : (offsets stream)[other]? = some offset) :
    floorAt stream index ≤ offset ↔ index ≤ other := by
  have stands := standsAt_of_offsets code
  cases index with
  | zero => simp [floorAt]
  | succ index =>
      cases earlier : (offsets stream)[index]? with
      | none =>
          have floor : floorAt stream (index + 1) = stream.length := by
            simp [floorAt, headerAt, earlier]
          have within := stands.within
          have inside := (List.getElem?_eq_some_iff.1 code).1
          have outside := List.getElem?_eq_none_iff.1 earlier
          omega
      | some before =>
          have floor : floorAt stream (index + 1) = before + 3 := headerAt_of_offsets earlier
          rw [floor]
          constructor
          · intro behind
            apply Nat.lt_of_not_le
            intro ahead
            have smaller := offsets_le code earlier ahead
            omega
          · intro later
            exact (standsAt_of_offsets earlier).apart stands (offsets_lt earlier code later)

/-- The search from a floor finds the next piece. -/
theorem find?_floorAt (stream : Octets) (index : Nat) :
    find? stream (floorAt stream index) (floorAt stream index) =
      (offsets stream)[index]?.map (beginning stream (floorAt stream index)) := by
  cases code : (offsets stream)[index]? with
  | none =>
      apply find?_eq_none_iff.2
      intro position behind stands
      obtain ⟨other, later⟩ := exists_offsets stands
      have ordered := (floorAt_le_iff later).1 behind
      have inside := (List.getElem?_eq_some_iff.1 later).1
      have outside := List.getElem?_eq_none_iff.1 code
      omega
  | some offset =>
      have behind : floorAt stream index ≤ offset := (floorAt_le_iff code).2 (Nat.le_refl index)
      apply find?_eq_some_iff.2
      refine ⟨offset, ⟨behind, standsAt_of_offsets code, ?_⟩, rfl⟩
      intro earlier above before stands
      obtain ⟨other, found⟩ := exists_offsets stands
      have smaller := offsets_le code found ((floorAt_le_iff found).1 above)
      omega

end Offsets

theorem search_add (count offset : Nat) (stream : Octets) :
    search (count + offset) stream = (search offset stream).map (count + ·) := by
  fun_induction search offset stream with
  | case1 offset first second third rest above inductionHypothesis =>
      rw [search, if_pos above, Nat.add_assoc, inductionHypothesis]
  | case2 offset first second third rest below isCode =>
      rw [search, if_neg below, if_pos isCode]
      rfl
  | case3 offset first second third rest below noCode inductionHypothesis =>
      rw [search, if_neg below, if_neg noCode, Nat.add_assoc, inductionHypothesis]
  | case4 stream offset short =>
      rw [search]
      · rfl
      · exact short

/-- A search can be made in the rest of a stream. -/
theorem find?_add (stream : Octets) (count start floor : Nat) :
    find? stream (count + start) (count + floor) =
      (find? (stream.drop count) start floor).map (count + ·) := by
  have begins (offset : Nat) : beginning stream (count + floor) (count + offset) =
      count + beginning (stream.drop count) floor offset := by
    simp only [beginning, List.getElem?_drop, Nat.add_lt_add_iff_left]
    by_cases behind : floor < offset
    · rw [show count + offset - 1 = count + (offset - 1) by omega]
      split <;> rfl
    · simp only [behind, false_and, if_false]
  rw [find?, find?, search_add, List.drop_drop, Option.map_map, Option.map_map]
  exact congrArg (Option.map · _) (funext begins)

/-- A piece is not cut before its floor. -/
theorem floorAt_le_cutAt (stream : Octets) (index : Nat) :
    floorAt stream index ≤ cutAt stream index := by
  cases code : (offsets stream)[index]? with
  | some offset =>
      rw [cutAt_of_offsets code]
      exact le_beginning stream ((floorAt_le_iff code).2 (Nat.le_refl index))
  | none =>
      rw [cutAt_of_none code]
      cases index with
      | zero => exact Nat.zero_le _
      | succ index =>
          change headerAt stream index ≤ stream.length
          cases before : (offsets stream)[index]? with
          | none => simp [headerAt, before]
          | some offset =>
              rw [headerAt_of_offsets before]
              exact (standsAt_of_offsets before).within

/-- Every later start code stands behind the cut. -/
theorem cutAt_le {stream : Octets} {index other offset : Nat}
    (code : (offsets stream)[other]? = some offset) (ordered : index ≤ other) :
    cutAt stream index ≤ offset := by
  have inside := (List.getElem?_eq_some_iff.1 code).1
  have own := List.getElem?_eq_getElem (show index < (offsets stream).length by omega)
  rw [cutAt_of_offsets own]
  exact Nat.le_trans (beginning_le stream _ _) (offsets_le own code ordered)

/-- The pieces of a stream do not overlap. -/
theorem cutAt_le_succ {stream : Octets} {index offset : Nat}
    (code : (offsets stream)[index]? = some offset) :
    cutAt stream index ≤ cutAt stream (index + 1) := by
  have after : headerAt stream index ≤ cutAt stream (index + 1) :=
    floorAt_le_cutAt stream (index + 1)
  rw [headerAt_of_offsets code] at after
  have before := cutAt_le code (Nat.le_refl index)
  omega

/-- A cut begins with a start code that reaches up to the header. -/
theorem exists_atStart?_cutAt {stream : Octets} {index offset : Nat}
    (code : (offsets stream)[index]? = some offset) :
    ∃ startCode, atStart? (stream.drop (cutAt stream index)) = some startCode ∧
      cutAt stream index + startCode.length = headerAt stream index := by
  rw [cutAt_of_offsets code, headerAt_of_offsets code]
  exact exists_atStart?_beginning (standsAt_of_offsets code) (floorAt stream index)

/-- A piece consists of its start code and what follows it. -/
theorem exists_piece_eq {stream : Octets} {index offset : Nat}
    (code : (offsets stream)[index]? = some offset) :
    ∃ startCode : StartCode, piece stream index =
      startCode.octets ++ stream.extract (headerAt stream index) (cutAt stream (index + 1)) := by
  have after : headerAt stream index ≤ cutAt stream (index + 1) :=
    floorAt_le_cutAt stream (index + 1)
  obtain ⟨startCode, front, header⟩ := exists_atStart?_cutAt code
  obtain ⟨rest, parts⟩ := atStart?_eq_some_iff.1 front
  refine ⟨startCode, ?_⟩
  have behind : stream.drop (headerAt stream index) = rest := by
    rw [← header, ← List.drop_drop, ← parts]
    exact List.drop_left
  have long : startCode.octets.length ≤ cutAt stream (index + 1) - cutAt stream index := by
    change startCode.length ≤ _
    omega
  rw [piece, List.extract_eq_take_drop, List.extract_eq_take_drop, behind, ← parts, ← header,
    List.take_append, List.take_of_length_le long, Nat.sub_add_eq]
  rfl

/-- Nothing stands behind a bare start code. -/
theorem isBare_append (code : StartCode) (payload : Octets) :
    isBare (code.octets ++ payload) = payload.isEmpty := by
  cases code with
  | short => cases payload <;> simp [isBare, octets]
  | long => cases payload <;> simp [isBare, octets]

/-- The start code at the front is the first one. -/
theorem find?_of_aligned {stream : Octets} (aligned : Demuxer.Aligned stream) :
    find? stream 0 0 = some 0 := by
  obtain ⟨code, front⟩ := Option.isSome_iff_exists.1 aligned
  obtain ⟨rest, rfl⟩ := atStart?_eq_some_iff.1 front
  cases code <;> simp [find?, search, octets]

end StartCode

namespace Nal

open StartCode

/-- A stream without a start code has no units. -/
theorem split_of_missed {stream : Octets} (missed : find? stream 0 0 = none) :
    split stream = [] := by
  have fed : ({} : Demuxer).feed stream = _ := Demuxer.feed_of_missed (by decide) missed
  simp only [split, fed]
  rfl

@[simp] theorem split_nil : split [] = [] := split_of_missed rfl

/-- Octets before the first start code belong to no unit. -/
theorem split_of_found {stream : Octets} {position : Nat}
    (found : find? stream 0 0 = some position) :
    split stream =
      (Demuxer.cut (stream.drop position) 0).1 ++
        (ofData? (Demuxer.cut (stream.drop position) 0).2.buffer).toList := by
  have fed : ({} : Demuxer).feed stream = _ := Demuxer.feed_of_found (by decide) found
  have synced := (Demuxer.cut_open _ 0 (Demuxer.Open.drop found).aligned).1
  simp only [split, fed, Demuxer.flush]
  simp only [List.nil_append, synced, if_true]

/-- A stream that begins with a start code is not searched for one. -/
theorem split_of_aligned {stream : Octets} (aligned : Demuxer.Aligned stream) :
    split stream =
      (Demuxer.cut stream 0).1 ++ (ofData? (Demuxer.cut stream 0).2.buffer).toList := by
  exact split_of_found (StartCode.find?_of_aligned aligned)

/-- The last unit takes what is left. -/
theorem split_of_last {stream : Octets} (aligned : Demuxer.Aligned stream)
    (missed : find? stream (Demuxer.headerOffset stream) (Demuxer.headerOffset stream) = none) :
    split stream = (ofData? stream).toList := by
  rw [split_of_aligned aligned, Demuxer.cut_of_none (by rwa [Nat.zero_max])]
  rfl

/-- A unit ends at the next start code, where the rest is split by itself. -/
theorem split_of_next {stream : Octets} (aligned : Demuxer.Aligned stream) {next : Nat}
    (found : find? stream (Demuxer.headerOffset stream) (Demuxer.headerOffset stream) =
      some next) :
    split stream = (ofData? (stream.take next)).toList ++ split (stream.drop next) := by
  rw [split_of_aligned aligned, Demuxer.cut_of_some (by rwa [Nat.zero_max]),
    split_of_aligned (Demuxer.Open.drop found).aligned, List.append_assoc]

/-- A piece is split off, and the rest is split by itself. -/
theorem split_drop_cutAt {stream : Octets} {index offset : Nat}
    (code : (offsets stream)[index]? = some offset) :
    split (stream.drop (cutAt stream index)) =
      (ofData? (piece stream index)).toList ++ split (stream.drop (cutAt stream (index + 1))) := by
  obtain ⟨startCode, front, reaches⟩ := exists_atStart?_cutAt code
  have aligned : Demuxer.Aligned (stream.drop (cutAt stream index)) := by
    rw [Demuxer.Aligned, front]
    rfl
  have header : cutAt stream index + Demuxer.headerOffset (stream.drop (cutAt stream index)) =
      floorAt stream (index + 1) := by
    rw [Demuxer.headerOffset, front]
    exact reaches
  have searched := find?_floorAt stream (index + 1)
  rw [← header, find?_add] at searched
  cases next : (offsets stream)[index + 1]? with
  | none =>
      have missed := Option.map_eq_none_iff.1 (searched.trans (by rw [next]; rfl))
      have ends : piece stream index = stream.drop (cutAt stream index) := by
        rw [piece, cutAt_of_none next]
        exact List.take_of_length_le (Nat.le_of_eq List.length_drop)
      rw [split_of_last aligned missed, ends, cutAt_of_none next, List.drop_length, split_nil,
        List.append_nil]
  | some later =>
      have ends : cutAt stream (index + 1) = _ := cutAt_of_offsets next
      rw [next, Option.map_some, header, ← ends, Option.map_eq_some_iff] at searched
      obtain ⟨position, found, position_eq⟩ := searched
      rw [split_of_next aligned found, List.drop_drop, position_eq, piece, ← position_eq]
      simp

/-- The units of the rest of a stream are those of the remaining pieces. -/
theorem split_drop_eq_filterMap (stream : Octets) (index count : Nat)
    (remain : index + count = (offsets stream).length) :
    split (stream.drop (cutAt stream index)) =
      (List.range' index count).filterMap fun index => ofData? (piece stream index) := by
  induction count generalizing index with
  | zero =>
      have last : (offsets stream)[index]? = none := List.getElem?_eq_none_iff.2 (by omega)
      rw [cutAt_of_none last, List.drop_length, split_nil]
      rfl
  | succ count inductionHypothesis =>
      have inside : index < (offsets stream).length := by omega
      rw [split_drop_cutAt (List.getElem?_eq_getElem inside), inductionHypothesis _ (by omega),
        List.range'_succ, List.filterMap_cons]
      cases ofData? (piece stream index) <;> rfl

/-- The units of a stream are those of its pieces. -/
theorem split_eq_filterMap (stream : Octets) :
    split stream = (List.range (offsets stream).length).filterMap fun index =>
      ofData? (piece stream index) := by
  rw [List.range_eq_range', ← split_drop_eq_filterMap stream 0 _ (Nat.zero_add _)]
  have searched := find?_floorAt stream 0
  cases code : (offsets stream)[0]? with
  | none =>
      rw [code] at searched
      rw [split_of_missed searched, cutAt_of_none code, List.drop_length, split_nil]
  | some offset =>
      rw [code, Option.map_some, ← cutAt_of_offsets code] at searched
      rw [split_of_found searched, split_of_aligned (Demuxer.Open.drop searched).aligned]

/-- A start code with a header behind it begins a unit. -/
theorem ofData?_append (code : StartCode) (payload : Octets) :
    ofData? (code.octets ++ payload) =
      match payload with
      | [] => none
      | header :: body => some ⟨code, header, body⟩ := by
  have front : atStart? (code.octets ++ payload) = some code :=
    atStart?_eq_some_iff.2 (List.prefix_append _ _)
  have behind : (code.octets ++ payload).drop code.length = payload := List.drop_left
  cases payload with
  | nil => simp only [ofData?, front, bind, Option.bind, behind]
  | cons header body => simp only [ofData?, front, bind, Option.bind, behind]

/-- A unit is made of all octets of a piece. -/
structure MadeOf (stream : Octets) (index : Nat) (unit : Nal) : Prop where
  filled : isBare (piece stream index) = false
  data : unit.data = piece stream index
  payload : unit.payload = stream.extract (headerAt stream index) (cutAt stream (index + 1))
  header : stream[headerAt stream index]? = some unit.header

/-- A piece makes a unit unless it is a bare start code. -/
theorem ofData?_piece {stream : Octets} {index offset : Nat}
    (code : (offsets stream)[index]? = some offset) :
    match ofData? (piece stream index) with
    | none => isBare (piece stream index) = true
    | some unit => MadeOf stream index unit := by
  obtain ⟨startCode, parts⟩ := exists_piece_eq code
  generalize content : stream.extract (headerAt stream index) (cutAt stream (index + 1)) = payload
    at parts
  have bare := isBare_append startCode payload
  rw [← parts] at bare
  have made := ofData?_append startCode payload
  rw [← parts] at made
  rw [made]
  cases payload with
  | nil => exact bare
  | cons header body =>
      refine ⟨bare, parts.symm, content.symm, ?_⟩
      have first : (stream.extract (headerAt stream index) (cutAt stream (index + 1)))[0]? =
          some header := by rw [content]; rfl
      simp only [List.extract_eq_take_drop, List.getElem?_take, List.getElem?_drop] at first
      split at first
      · exact first
      · cases first

/-- Every unit of a stream is made of a piece. -/
theorem exists_madeOf {stream : Octets} {unit : Nal} (member : unit ∈ split stream) :
    ∃ index, MadeOf stream index unit := by
  rw [split_eq_filterMap] at member
  obtain ⟨index, inside, made⟩ := List.mem_filterMap.1 member
  have own := ofData?_piece (List.getElem?_eq_getElem (List.mem_range.1 inside))
  rw [made] at own
  exact ⟨index, own⟩

/-- What is read off the units of a stream can be read off its pieces. -/
theorem map_split {stream : Octets} {Value : Type} (value : Nal → Value) (expected : Nat → Value)
    (each : ∀ index unit, MadeOf stream index unit → value unit = expected index) :
    (split stream).map value =
      ((List.range (offsets stream).length).filter fun index =>
        !isBare (piece stream index)).map expected := by
  rw [split_eq_filterMap]
  have inside : ∀ index ∈ List.range (offsets stream).length,
      ∃ offset, (offsets stream)[index]? = some offset := by
    intro index member
    exact ⟨_, List.getElem?_eq_getElem (List.mem_range.1 member)⟩
  generalize List.range (offsets stream).length = indices at inside
  induction indices with
  | nil => rfl
  | cons index rest inductionHypothesis =>
      obtain ⟨offset, code⟩ := inside index List.mem_cons_self
      have others := inductionHypothesis fun other member =>
        inside other (List.mem_cons_of_mem index member)
      have own := ofData?_piece code
      cases made : ofData? (piece stream index) with
      | none =>
          rw [made] at own
          simp only [List.filterMap_cons, made, others, List.filter_cons, own]
          rfl
      | some unit =>
          rw [made] at own
          simp only [List.filterMap_cons, made, List.map_cons, others, List.filter_cons, own.filled,
            each index unit own]
          rfl

/-- A stream is cut into all the octets behind its first cut. -/
theorem flatMap_piece (stream : Octets) (index count : Nat)
    (remain : index + count = (offsets stream).length) :
    (List.range' index count).flatMap (piece stream) = stream.drop (cutAt stream index) := by
  induction count generalizing index with
  | zero =>
      have last : (offsets stream)[index]? = none := List.getElem?_eq_none_iff.2 (by omega)
      rw [cutAt_of_none last, List.drop_length]
      rfl
  | succ count inductionHypothesis =>
      have inside : index < (offsets stream).length := by omega
      have ordered := cutAt_le_succ (List.getElem?_eq_getElem inside)
      rw [List.range'_succ, List.flatMap_cons, inductionHypothesis _ (by omega), piece,
        List.extract_eq_take_drop,
        show cutAt stream (index + 1) = cutAt stream index + (cutAt stream (index + 1) -
          cutAt stream index) by omega, ← List.drop_drop, Nat.add_sub_cancel_left,
        List.take_append_drop]

/-- Splitting a stream gives its pieces between the start codes in their order, without the bare
start codes. The payload of a unit is what follows the start code of its piece, and its type is that
of the first octet there. All pieces together are the stream without the octets before the first
one. -/
theorem split_pieces (stream : Octets) :
    let indices := List.range (offsets stream).length
    let kept := indices.filter fun index => !isBare (piece stream index)
    (split stream).map Nal.data = kept.map (piece stream) ∧
      (split stream).map Nal.payload = kept.map (fun index =>
        stream.extract (headerAt stream index) (cutAt stream (index + 1))) ∧
      (split stream).map (fun unit => some unit.type) = kept.map (fun index =>
        stream[headerAt stream index]?.map typeOf) ∧
      indices.flatMap (piece stream) = stream.drop (cutAt stream 0) := by
  intro indices kept
  refine ⟨?_, ?_, ?_, ?_⟩
  · exact map_split data (piece stream) fun index unit made => made.data
  · exact map_split payload _ fun index unit made => made.payload
  · apply map_split
    intro index unit made
    rw [made.header]
    rfl
  · have whole := flatMap_piece stream 0 _ (Nat.zero_add _)
    rwa [← List.range_eq_range'] at whole

/-- The second of three pieces is a bare long start code, and the first one ends in a zero. -/
example :
    let stream : Octets := [9, 0, 0, 0, 1, 0x67, 0, 0, 0, 0, 1, 0, 0, 1, 0x65]
    offsets stream = [2, 8, 11] ∧ (List.range 4).map (cutAt stream) = [1, 7, 11, 15] ∧
      split stream = [⟨.long, 0x67, [0]⟩, ⟨.short, 0x65, []⟩] := by
  decide +kernel

end Nal

end Screencast
