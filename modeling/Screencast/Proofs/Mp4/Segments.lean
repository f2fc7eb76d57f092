/-
This file reads a media segment as a player does: one fragment box, which says where its sample is,
and one box with the sample.
-/

import Screencast.Mp4.Writer
import Screencast.Proofs.Mp4.Reading
import Screencast.Proofs.Nal.Kinds

namespace Screencast.Mp4.Writer

/-- These calls change a writer. -/
inductive Call
  | reconfigure (record : Avc.Record) (width height : UInt32)
  | segment (units : List Nal)

def call (writer : Writer) : Call → Writer
  | .reconfigure record width height => writer.reconfigure record width height
  | .segment units => (writer.mediaSegment units).2

def run (writer : Writer) (calls : List Call) : Writer := calls.foldl call writer

theorem toNat_max_one (fps : UInt32) : (max fps 1).toNat = max fps.toNat 1 := by
  change (if fps ≤ 1 then 1 else fps).toNat = max fps.toNat 1
  split
  case isTrue low => exact (Nat.max_eq_right (UInt32.le_iff_toNat_le.1 low)).symm
  case isFalse high =>
    rw [UInt32.le_iff_toNat_le] at high
    exact (Nat.max_eq_left (Nat.le_of_not_le high)).symm

/-- What no call changes stays as it is. -/
theorem kept_run {α : Type} (part : Writer → α)
    (kept : ∀ writer call, part (writer.call call) = part writer) (writer : Writer)
    (calls : List Call) : part (writer.run calls) = part writer := by
  rw [run]
  induction calls generalizing writer with
  | nil => rfl
  | cons first rest inductionHypothesis => rw [List.foldl_cons, inductionHypothesis, kept]

/-- A sample lasts for the same time in each fragment. -/
theorem sampleDuration_run (writer : Writer) (calls : List Call) :
    (writer.run calls).sampleDuration = writer.sampleDuration :=
  kept_run sampleDuration (fun _ call => by cases call <;> rfl) writer calls

/-- All fields of a fragment have a fixed width. -/
theorem length_fragment (writer : Writer) (offset size : Nat) (keyframe : Bool) :
    (writer.fragment offset size keyframe).octets.length = 100 := by
  simp [fragment, Box.node, Box.full, Box.octets, Box.octetsOfAll, Octets.ascii]

theorem readable_fragment (writer : Writer) (offset size : Nat) (keyframe : Bool) :
    (writer.fragment offset size keyframe).Readable := by
  apply Box.readable_of_node rfl rfl fun _ => rfl
  apply Box.forall_mem_pair
  · exact Box.readable_of_leaf rfl rfl fun _ => rfl
  · apply Box.readable_of_node rfl rfl fun _ => rfl
    rw [List.forall_mem_cons]
    constructor
    · exact Box.readable_of_leaf rfl rfl fun _ => rfl
    · apply Box.forall_mem_pair
      · exact Box.readable_of_leaf rfl rfl fun _ => rfl
      · exact Box.readable_of_leaf rfl rfl fun _ => rfl

/-- The sample starts behind the fragment and the header of its own box. -/
theorem sampleOffset_eq (writer : Writer) (size : Nat) (keyframe : Bool) :
    writer.sampleOffset size keyframe = 108 := by
  rw [sampleOffset, length_fragment]

/-- The fragment and the sample are the boxes of a segment. -/
def segmentBoxes (writer : Writer) (units : List Nal) : List Box :=
  [writer.fragment 108 (Nal.sample units).length (units.any Nal.isKeyframe),
    .leaf "mdat" (Nal.sample units)]

theorem spelled_mediaSegment (writer : Writer) (units : List Nal) :
    Box.Spelled (writer.mediaSegment units).1 (writer.segmentBoxes units) := by
  simp only [mediaSegment, sampleOffset_eq]
  refine ⟨rfl, Box.readAll_octetsOfAll (Box.forall_mem_pair ?_ ?_)⟩
  · exact readable_fragment _ _ _ _
  · exact Box.readable_of_leaf rfl rfl fun _ => rfl

/-- A media segment consists of two boxes. -/
theorem readAll_mediaSegment (writer : Writer) {units : List Nal}
    (small : 8 + (Nal.sample units).length < 4294967296) :
    Box.readAll (writer.mediaSegment units).1 =
      some [writer.fragment 108 (Nal.sample units).length (units.any Nal.isKeyframe),
        .leaf "mdat" (Nal.sample units)] := by
  apply (writer.spelled_mediaSegment units).read
  apply Box.forall_mem_pair
  · rw [length_fragment]
    decide
  · rw [Box.leaf, Box.length_octets _ _ rfl]
    exact small

theorem fieldsAt?_sample (writer : Writer) (units : List Nal) :
    Box.fieldsAt? ["mdat"] (writer.segmentBoxes units) = some (Nal.sample units) := by
  simp [Box.fieldsAt?, segmentBoxes, fragment, Box.node, Box.leaf, Box.kind, Box.fields]

/-- The sample is what stands behind the offset. -/
theorem drop_mediaSegment (writer : Writer) (units : List Nal) :
    (writer.mediaSegment units).1.drop 108 = Nal.sample units := by
  have front (offset size : Nat) (keyframe : Bool) :
      ((writer.fragment offset size keyframe).octets ++
        (Octets.bigEndian 4 (8 + (Nal.sample units).length) ++ Octets.ascii "mdat")).length = 108 := by
    rw [List.length_append, length_fragment]
    rfl
  simp only [mediaSegment, Box.octetsOfAll, Box.leaf, Box.octets, List.append_nil]
  rw [← List.append_assoc]
  exact List.drop_left' (front _ _ _)

/-- Bit 16 of the flags marks a sample that is no sync sample. -/
theorem testBit_sampleFlags (keyframe : Bool) : (sampleFlags keyframe).testBit 16 = !keyframe := by
  cases keyframe <;> decide

/-- A player finds in the fragment whether the sample is a sync sample. -/
theorem exists_fieldsAt?_run (writer : Writer) (units : List Nal) :
    ∃ run, Box.fieldsAt? ["moof", "traf", "trun"] (writer.segmentBoxes units) = some run ∧
      (Box.number run 20 4).testBit 16 = !units.any Nal.isKeyframe := by
  have flagsFit : sampleFlags (units.any Nal.isKeyframe) < 4294967296 := by
    cases units.any Nal.isKeyframe <;> decide
  apply Exists.intro
  constructor
  · simp [Box.fieldsAt?, segmentBoxes, fragment, Box.node, Box.full, Box.kind, Box.children,
      Box.fields]
    rfl
  · rw [← testBit_sampleFlags]
    congr 1
    simp [Box.number_append_right, Box.number_bigEndian, flagsFit]

/-- The fields of the fragment have the values that the writer put there. -/
theorem exists_fragment (writer : Writer) {offset size : Nat} (offsetFits : offset < 4294967296)
    (sizeFits : size < 4294967296) (keyframe : Bool) :
    ∃ header track time run,
      writer.fragment offset size keyframe = .node "moof" [.leaf "mfhd" header,
        .node "traf" [.leaf "tfhd" track, .leaf "tfdt" time, .leaf "trun" run]] ∧
      Box.number header 4 4 = writer.sequence.toNat ∧
      Box.number time 4 8 = writer.decodeTime.toNat ∧
      Box.number run 4 4 = 1 ∧
      Box.number run 8 4 = offset ∧
      Box.number run 16 4 = size ∧
      Box.number run 20 4 = sampleFlags keyframe := by
  have sequenceFits := writer.sequence.toNat_lt
  have timeFits := writer.decodeTime.toNat_lt
  have flagsFit : sampleFlags keyframe < 4294967296 := by cases keyframe <;> decide
  apply Exists.intro
  apply Exists.intro
  apply Exists.intro
  apply Exists.intro
  apply And.intro rfl
  simp [Box.number_append_left, Box.number_append_right, Box.number_bigEndian, *]

/-- The fragment is in front of a segment, whose sample may be of any size. -/
theorem readFront_mediaSegment (writer : Writer) (units : List Nal) :
    Box.readFront (writer.mediaSegment units).1 =
      some [writer.fragment 108 (Nal.sample units).length (units.any Nal.isKeyframe)] := by
  simp only [mediaSegment, sampleOffset_eq, Box.octetsOfAll]
  apply Box.readFront_octets_append (readable_fragment _ _ _ _)
  rw [length_fragment]
  decide

theorem fragmentNumber?_mediaSegment (writer : Writer) (units : List Nal) :
    Box.fragmentNumber? (writer.mediaSegment units).1 = some writer.sequence.toNat := by
  have fits := writer.sequence.toNat_lt
  rw [Box.fragmentNumber?, readFront_mediaSegment]
  simp [Box.fieldsAt?, fragment, Box.node, Box.full, Box.kind, Box.children, Box.fields,
    Box.number_append_right, Box.number_bigEndian, fits]

theorem fragmentTime?_mediaSegment (writer : Writer) (units : List Nal) :
    Box.fragmentTime? (writer.mediaSegment units).1 = some writer.decodeTime.toNat := by
  have fits := writer.decodeTime.toNat_lt
  rw [Box.fragmentTime?, readFront_mediaSegment]
  simp [Box.fieldsAt?, fragment, Box.node, Box.full, Box.kind, Box.children, Box.fields,
    Box.number_append_right, Box.number_bigEndian, fits]

/-- The sizes of both boxes and the offset in the first add up. -/
theorem length_mediaSegment (writer : Writer) (units : List Nal) :
    (writer.mediaSegment units).1.length = 108 + (Nal.sample units).length := by
  have data : (Box.leaf "mdat" (Nal.sample units)).octets.length =
      8 + (Nal.sample units).length := Box.length_octets _ _ rfl
  simp only [mediaSegment, Box.octetsOfAll, List.length_append, length_fragment, data,
    List.length_nil]
  omega

/-- The counts go up while they have room. -/
theorem advance_counts {writer : Writer} (numbers : writer.sequence.toNat + 1 < 4294967296)
    (times : writer.decodeTime.toNat + writer.sampleDuration.toNat < 18446744073709551616) :
    writer.advance.sequence.toNat = writer.sequence.toNat + 1 ∧
    writer.advance.decodeTime.toNat =
      writer.decodeTime.toNat + writer.sampleDuration.toNat := by
  constructor
  · rw [advance, UInt32.toNat_add]
    exact Nat.mod_eq_of_lt numbers
  · rw [advance, UInt64.toNat_add, UInt32.toNat_toUInt64]
    exact Nat.mod_eq_of_lt times

/-- A media segment holds one fragment and its sample, and all that it says about them is true. The
writer then goes on with the next number and the next time, and it keeps everything else. -/
theorem mediaSegment_read {record : Avc.Record} {width height timescale fps : UInt32}
    {calls : List Call} {writer : Writer} {units : List Nal}
    (reached : (create record width height timescale fps).run calls = writer)
    (small : 8 + (Nal.sample units).length < 4294967296)
    (numbers : writer.sequence.toNat + 1 < 4294967296)
    (times : writer.decodeTime.toNat + timescale.toNat / max fps.toNat 1 < 18446744073709551616) :
    let (segment, next) := writer.mediaSegment units
    (∃ header track time run data,
      Box.readAll segment = some [
        .node "moof" [.leaf "mfhd" header,
          .node "traf" [.leaf "tfhd" track, .leaf "tfdt" time, .leaf "trun" run]],
        .leaf "mdat" data] ∧
      Box.number header 4 4 = writer.sequence.toNat ∧
      Box.number time 4 8 = writer.decodeTime.toNat ∧
      Box.number run 4 4 = 1 ∧
      segment.drop (Box.number run 8 4) = data ∧
      segment.length = Box.number run 8 4 + data.length ∧
      Box.number run 16 4 = data.length ∧
      Nal.readRecords data = some ((units.filter Nal.isSlice).map Nal.payload) ∧
      ((Box.number run 20 4).testBit 16 = false ↔
        ∃ unit ∈ units.filter Nal.isSlice, unit.isKeyframe = true)) ∧
    next.sequence.toNat = writer.sequence.toNat + 1 ∧
    next.decodeTime.toNat = writer.decodeTime.toNat + timescale.toNat / max fps.toNat 1 ∧
    next = { writer with sequence := next.sequence, decodeTime := next.decodeTime } := by
  have duration : writer.sampleDuration.toNat = timescale.toNat / max fps.toNat 1 := by
    rw [← reached, sampleDuration_run, create, UInt32.toNat_div, toNat_max_one]
  obtain ⟨nextNumber, nextTime⟩ := advance_counts numbers (by rw [duration]; exact times)
  obtain ⟨header, track, time, run, parts, sequence, start, count, offset, size, flags⟩ :=
    exists_fragment writer (show 108 < 4294967296 by decide)
      (show (Nal.sample units).length < 4294967296 by omega) (units.any Nal.isKeyframe)
  have sync : units.any Nal.isKeyframe = true ↔
      ∃ unit ∈ units.filter Nal.isSlice, unit.isKeyframe = true := by
    rw [← Nal.any_isKeyframe_slices, List.any_eq_true]
  have boxes := readAll_mediaSegment writer small
  rw [parts] at boxes
  constructor
  · refine ⟨header, track, time, run, Nal.sample units, boxes, sequence, start, count, ?_⟩
    rw [offset, size, flags, testBit_sampleFlags, Bool.not_eq_false']
    exact ⟨drop_mediaSegment writer units, length_mediaSegment writer units, rfl,
      Nal.readRecords_sample (by omega), sync⟩
  · rw [duration] at nextTime
    exact ⟨nextNumber, nextTime, rfl⟩

/-- The second fragment of a stream holds a slice, and the unit beside it is left out. -/
theorem mediaSegment_read_second :
    let record : Avc.Record := ⟨0x42, 0xC0, 0x1F, [0x67, 0x42, 0xC0, 0x1F], [0x68, 0xCE]⟩
    let idr : Nal := ⟨.long, 0x65, [0x88, 0x84]⟩
    let sei : Nal := ⟨.long, 0x06, [0x05]⟩
    let delta : Nal := ⟨.short, 0x41, [0x9A, 0x02]⟩
    let writer := (create record 1280 720 videoTimescale 30).run [.segment [idr]]
    let (segment, next) := writer.mediaSegment [sei, delta]
    (∃ header track time run data,
      Box.readAll segment = some [
        .node "moof" [.leaf "mfhd" header,
          .node "traf" [.leaf "tfhd" track, .leaf "tfdt" time, .leaf "trun" run]],
        .leaf "mdat" data] ∧
      Box.number header 4 4 = 2 ∧
      Box.number time 4 8 = 3000 ∧
      segment.drop (Box.number run 8 4) = data ∧
      Nal.readRecords data = some [[0x41, 0x9A, 0x02]] ∧
      (Box.number run 20 4).testBit 16 = true) ∧
    next.sequence.toNat = 3 ∧
    next.decodeTime.toNat = 6000 := by
  intro record idr sei delta writer
  have reached : (create record 1280 720 videoTimescale 30).run [.segment [idr]] = writer := rfl
  have small : 8 + (Nal.sample [sei, delta]).length < 4294967296 := by decide
  obtain ⟨⟨header, track, time, run, data, boxes, number, start, -, behind, -, -, records, sync⟩,
    nextNumber, nextTime, -⟩ := mediaSegment_read reached small (by decide) (by decide)
  have late : ¬∃ unit ∈ [sei, delta].filter Nal.isSlice, unit.isKeyframe = true := by decide
  rw [← sync, Bool.not_eq_false] at late
  have second : writer.sequence.toNat = 2 := by decide
  have later : writer.decodeTime.toNat = 3000 := by decide
  have kept : ([sei, delta].filter Nal.isSlice).map Nal.payload = [[0x41, 0x9A, 0x02]] := by decide
  rw [second] at number nextNumber
  rw [later] at start nextTime
  rw [kept] at records
  exact ⟨⟨header, track, time, run, data, boxes, number, start, behind, records, late⟩, nextNumber,
    nextTime⟩

end Screencast.Mp4.Writer
