/-
This file reads an initialization segment as a player does: a file type and a movie, which says how
the track is decoded, how large its pictures are and how long they last.
-/

import Screencast.Proofs.Mp4.Segments

namespace Screencast.Mp4.Writer

/-- A new configuration consists of a record and a picture size. -/
def Call.configuration? : Call → Option (Avc.Record × UInt32 × UInt32)
  | .reconfigure record width height => some (record, width, height)
  | .segment _ => none

/-- The latest configuration is in force. Before the first it is that of the writer itself. -/
theorem configuration_run (writer : Writer) (calls : List Call) :
    ((writer.run calls).record, (writer.run calls).width, (writer.run calls).height) =
      (calls.filterMap Call.configuration?).getLast?.getD
        (writer.record, writer.width, writer.height) := by
  induction calls generalizing writer with
  | nil => rfl
  | cons first rest inductionHypothesis =>
      have later := inductionHypothesis (writer.call first)
      rw [run, List.foldl_cons, ← run, later]
      cases first with
      | reconfigure record width height =>
          rw [List.filterMap_cons, Call.configuration?, List.getLast?_cons, Option.getD_some]
          rfl
      | segment units =>
          rw [List.filterMap_cons, Call.configuration?]
          rfl

theorem timescale_run (writer : Writer) (calls : List Call) :
    (writer.run calls).timescale = writer.timescale :=
  kept_run timescale (fun _ call => by cases call <;> rfl) writer calls

section Readable

variable (writer : Writer)

theorem readable_fileType : fileType.Readable := Box.readable_of_leaf rfl rfl fun _ => rfl

/-- The sample entry has 78 octets of fields in front of its record. -/
theorem readable_sampleEntry : writer.sampleEntry.Readable := by
  apply Box.Readable.box rfl rfl rfl
  rw [List.forall_mem_singleton]
  exact Box.readable_of_leaf rfl rfl fun _ => rfl

theorem readable_sampleTable : writer.sampleTable.Readable := by
  apply Box.readable_of_node rfl rfl fun _ => rfl
  rw [List.forall_mem_cons]
  constructor
  · apply Box.Readable.box rfl rfl rfl
    rw [List.forall_mem_singleton]
    exact readable_sampleEntry writer
  · -- The other tables are empty.
    simp only [List.forall_mem_cons, List.not_mem_nil, false_implies, implies_true, and_true]
    refine ⟨?_, ?_, ?_, ?_⟩
    all_goals exact Box.readable_of_leaf rfl rfl fun _ => rfl

theorem readable_dataInformation : dataInformation.Readable := by
  apply Box.readable_of_node rfl rfl fun _ => rfl
  rw [List.forall_mem_singleton]
  apply Box.Readable.box rfl rfl rfl
  rw [List.forall_mem_singleton]
  exact Box.readable_of_leaf rfl rfl fun _ => rfl

theorem readable_trackBox : writer.trackBox.Readable := by
  apply Box.readable_of_node rfl rfl fun _ => rfl
  apply Box.forall_mem_pair
  · exact Box.readable_of_leaf rfl rfl fun _ => rfl
  · apply Box.readable_of_node rfl rfl fun _ => rfl
    rw [List.forall_mem_cons]
    constructor
    · exact Box.readable_of_leaf rfl rfl fun _ => rfl
    · apply Box.forall_mem_pair
      · exact Box.readable_of_leaf rfl rfl fun _ => rfl
      · apply Box.readable_of_node rfl rfl fun _ => rfl
        rw [List.forall_mem_cons]
        constructor
        · exact Box.readable_of_leaf rfl rfl fun _ => rfl
        · exact Box.forall_mem_pair readable_dataInformation (readable_sampleTable writer)

theorem readable_movie : writer.movie.Readable := by
  apply Box.readable_of_node rfl rfl fun _ => rfl
  rw [List.forall_mem_cons]
  constructor
  · exact Box.readable_of_leaf rfl rfl fun _ => rfl
  · apply Box.forall_mem_pair (readable_trackBox writer)
    apply Box.readable_of_node rfl rfl fun _ => rfl
    rw [List.forall_mem_singleton]
    exact Box.readable_of_leaf rfl rfl fun _ => rfl

end Readable

theorem spelled_initSegment (writer : Writer) :
    Box.Spelled writer.initSegment [fileType, writer.movie] where
  written := rfl
  read := Box.readAll_octetsOfAll (Box.forall_mem_pair readable_fileType (readable_movie writer))

/-- An initialization segment consists of two boxes. -/
theorem readAll_initSegment {writer : Writer} (small : writer.initSegment.length < 4294967296) :
    Box.readAll writer.initSegment = some [fileType, writer.movie] := by
  apply writer.spelled_initSegment.read
  intro box member
  exact Nat.lt_of_le_of_lt (Box.length_le_octetsOfAll member) small

theorem fieldsAt?_initSegment (writer : Writer) :
    Box.fieldsAt? ["moov", "trak", "mdia", "minf", "stbl", "stsd", "avc1", "avcC"]
      [fileType, writer.movie] = some writer.record.octets := by
  simp [Box.fieldsAt?, fileType, movie, movieHeader, trackBox, trackHeader, mediaHeader, handler,
    dataInformation, sampleTable, sampleEntry, Box.full, Box.node, Box.leaf, Box.kind, Box.children,
    Box.fields]

section Numbers

variable (writer : Writer)

theorem length_identityMatrix : identityMatrix.length = 36 := by simp [identityMatrix]

theorem number_movieHeader :
    Box.number writer.movieHeader.fields 12 4 = writer.timescale.toNat := by
  have fits := writer.timescale.toNat_lt
  simp [movieHeader, Box.full, Box.fields, Box.number_append_left, Box.number_append_right,
    Box.number_bigEndian, fits]

theorem number_mediaHeader :
    Box.number writer.mediaHeader.fields 12 4 = writer.timescale.toNat := by
  have fits := writer.timescale.toNat_lt
  simp [mediaHeader, Box.full, Box.fields, Box.number_append_left, Box.number_append_right,
    Box.number_bigEndian, fits]

theorem number_trackDefaults :
    Box.number writer.trackDefaults.fields 12 4 = writer.sampleDuration.toNat := by
  have fits := writer.sampleDuration.toNat_lt
  simp [trackDefaults, Box.full, Box.fields, Box.number_append_left, Box.number_append_right,
    Box.number_bigEndian, fits]

/-- A width of 16 bits is kept whole. -/
theorem number_width (fits : writer.width.toNat < 65536) :
    Box.number writer.sampleEntry.fields 24 2 = writer.width.toNat ∧
      Box.number writer.trackHeader.fields 76 4 = writer.width.toNat * 65536 := by
  have fixedFits : writer.width.toNat * 65536 < 4294967296 := by omega
  simp [sampleEntry, trackHeader, Box.full, Box.fields, Box.number_append_left,
    Box.number_append_right, Box.number_bigEndian, length_identityMatrix, fits, fixedFits]

/-- So is a height. -/
theorem number_height (fits : writer.height.toNat < 65536) :
    Box.number writer.sampleEntry.fields 26 2 = writer.height.toNat ∧
      Box.number writer.trackHeader.fields 80 4 = writer.height.toNat * 65536 := by
  have fixedFits : writer.height.toNat * 65536 < 4294967296 := by omega
  simp [sampleEntry, trackHeader, Box.full, Box.fields, Box.number_append_left,
    Box.number_append_right, Box.number_bigEndian, length_identityMatrix, fits, fixedFits]

end Numbers

/-- An initialization segment holds a file type and a movie with one track, whatever calls came
before. It has the record and the size of the latest configuration, and the time of the writer. A
width or a height that fits 16 bits is kept whole. -/
theorem initSegment_read {record : Avc.Record} {width height timescale fps : UInt32}
    {calls : List Call} {writer : Writer} {latest : Avc.Record × UInt32 × UInt32}
    (reached : (create record width height timescale fps).run calls = writer)
    (current : (calls.filterMap Call.configuration?).getLast?.getD (record, width, height) = latest)
    (small : writer.initSegment.length < 4294967296) :
    let (record, width, height) := latest
    ∃ brands movieHeader trackHeader mediaHeader handler entry defaults,
      Box.readAll writer.initSegment = some [
        .leaf "ftyp" brands,
        .node "moov" [
          .leaf "mvhd" movieHeader,
          .node "trak" [
            .leaf "tkhd" trackHeader,
            .node "mdia" [
              .leaf "mdhd" mediaHeader,
              .leaf "hdlr" handler,
              .node "minf" [
                .leaf "vmhd" [0, 0, 0, 1, 0, 0, 0, 0, 0, 0, 0, 0],
                .node "dinf" [.box "dref" [0, 0, 0, 0, 0, 0, 0, 1] [.leaf "url " [0, 0, 0, 1]]],
                .node "stbl" [
                  .box "stsd" [0, 0, 0, 0, 0, 0, 0, 1]
                    [.box "avc1" entry [.leaf "avcC" record.octets]],
                  .leaf "stts" [0, 0, 0, 0, 0, 0, 0, 0],
                  .leaf "stsc" [0, 0, 0, 0, 0, 0, 0, 0],
                  .leaf "stsz" [0, 0, 0, 0, 0, 0, 0, 0, 0, 0, 0, 0],
                  .leaf "stco" [0, 0, 0, 0, 0, 0, 0, 0]]]]],
          .node "mvex" [.leaf "trex" defaults]]] ∧
      (handler.drop 8).take 4 = Octets.ascii "vide" ∧
      Box.number movieHeader 12 4 = timescale.toNat ∧
      Box.number mediaHeader 12 4 = timescale.toNat ∧
      Box.number defaults 12 4 = timescale.toNat / max fps.toNat 1 ∧
      (width.toNat < 65536 →
        Box.number entry 24 2 = width.toNat ∧
        Box.number trackHeader 76 4 = width.toNat * 65536) ∧
      (height.toNat < 65536 →
        Box.number entry 26 2 = height.toNat ∧
        Box.number trackHeader 80 4 = height.toNat * 65536) := by
  have duration : writer.sampleDuration.toNat = timescale.toNat / max fps.toNat 1 := by
    rw [← reached, sampleDuration_run, create, UInt32.toNat_div, toNat_max_one]
  have scale : writer.timescale = timescale := by rw [← reached, timescale_run, create]
  have configured : (writer.record, writer.width, writer.height) = latest := by
    rw [← current, ← reached, configuration_run]
    rfl
  have movieTime := number_movieHeader writer
  have mediaTime := number_mediaHeader writer
  have sampleTime := number_trackDefaults writer
  rw [scale] at movieTime mediaTime
  rw [duration] at sampleTime
  subst configured
  exact ⟨fileType.fields, writer.movieHeader.fields, writer.trackHeader.fields,
    writer.mediaHeader.fields, handler.fields, writer.sampleEntry.fields,
    writer.trackDefaults.fields, readAll_initSegment small, rfl, movieTime, mediaTime, sampleTime,
    number_width writer, number_height writer⟩

/-- The picture is turned between two fragments. -/
theorem initSegment_read_turned :
    let record : Avc.Record := ⟨0x42, 0xC0, 0x1F, [0x67, 0x42, 0xC0, 0x1F], [0x68, 0xCE]⟩
    let turned : Avc.Record := ⟨0x42, 0xC0, 0x1F, [0x67, 0x42, 0xC0, 0x1F, 0x90], [0x68, 0xCE]⟩
    let idr : Nal := ⟨.long, 0x65, [0x88, 0x84]⟩
    let writer := (create record 1280 720 videoTimescale 30).run
      [.segment [idr], .reconfigure turned 720 1280, .segment [idr]]
    ∃ brands movieHeader trackHeader media defaults,
      Box.readAll writer.initSegment = some [
        .leaf "ftyp" brands,
        .node "moov" [
          .leaf "mvhd" movieHeader,
          .node "trak" [.leaf "tkhd" trackHeader, .node "mdia" media],
          .node "mvex" [.leaf "trex" defaults]]] ∧
      Box.number movieHeader 12 4 = 90000 ∧
      Box.number defaults 12 4 = 3000 ∧
      Box.number trackHeader 76 4 = 720 * 65536 ∧
      Box.number trackHeader 80 4 = 1280 * 65536 := by
  intro record turned idr writer
  let calls : List Call := [.segment [idr], .reconfigure turned 720 1280, .segment [idr]]
  have reached : (create record 1280 720 videoTimescale 30).run calls = writer := rfl
  have current : (calls.filterMap Call.configuration?).getLast?.getD (record, 1280, 720) =
      (turned, 720, 1280) := rfl
  have small : writer.initSegment.length < 4294967296 := by decide +kernel
  obtain ⟨brands, movieHeader, trackHeader, mediaHeader, handler, entry, defaults, boxes, -, time,
    -, each, widths, heights⟩ := initSegment_read reached current small
  exact ⟨brands, movieHeader, trackHeader, _, defaults, boxes, time, each,
    (widths (by decide)).2, (heights (by decide)).2⟩

/-- The box behind the file type is no fragment. -/
theorem initSegment_without_fragment :
    let record : Avc.Record := ⟨0x42, 0xC0, 0x1F, [0x67, 0x42, 0xC0, 0x1F], [0x68, 0xCE]⟩
    let writer := create record 1280 720 videoTimescale 30
    ¬∃ brands inside,
      Box.readAll writer.initSegment = some [.leaf "ftyp" brands, .node "moof" inside] := by
  intro record writer
  rintro ⟨brands, inside, fragment⟩
  have small : writer.initSegment.length < 4294967296 := by decide +kernel
  rw [readAll_initSegment small] at fragment
  simp [movie, Box.node] at fragment

end Screencast.Mp4.Writer
