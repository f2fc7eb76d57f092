/-
This file writes an H.264 track as fragmented MP4: one initialization segment for each decoder
configuration and one media segment for each group of units.
-/

import Screencast.Avc.Record
import Screencast.Mp4.Box
import Screencast.Nal.Basic

namespace Screencast.Mp4

open Octets

/-- The writer counts its fragments and their time. -/
structure Writer where
  record : Avc.Record
  width : UInt32
  height : UInt32
  /-- This is the number of time units in a second. -/
  timescale : UInt32
  sampleDuration : UInt32
  /-- The next fragment has this number. -/
  sequence : UInt32
  /-- The next fragment starts at this time. -/
  decodeTime : UInt64
  deriving DecidableEq, Repr

namespace Writer

/-- This is the usual timescale of video. -/
def videoTimescale : UInt32 := 90000

/-- The only track has this number. -/
def track : Nat := 1

/-- A rate of zero frames counts as one. -/
def create (record : Avc.Record) (width height timescale fps : UInt32) : Writer :=
  { record, width, height, timescale
    sampleDuration := timescale / max fps 1
    sequence := 1
    decodeTime := 0 }

/-- A new configuration keeps the counts, so later fragments still ascend. -/
def reconfigure (writer : Writer) (record : Avc.Record) (width height : UInt32) : Writer :=
  { writer with record, width, height }

/-- The identity transformation leaves the picture as it is. -/
def identityMatrix : Octets :=
  [0x10000, 0, 0, 0, 0x10000, 0, 0, 0, 0x40000000].flatMap (bigEndian 4)

def fileType : Box :=
  .leaf "ftyp" (ascii "isom" ++ bigEndian 4 0x200 ++
    ["isom", "iso6", "avc1", "mp41"].flatMap ascii)

def movieHeader (writer : Writer) : Box :=
  .full "mvhd" 0 0 (zeros 8 ++ bigEndian 4 writer.timescale.toNat ++ zeros 4 ++
    bigEndian 4 0x10000 ++ bigEndian 2 0x100 ++ zeros 10 ++ identityMatrix ++ zeros 24 ++
    bigEndian 4 (track + 1)) []

/-- The header of the track has its size in 16.16 fixed point, of which the high bits are lost. -/
def trackHeader (writer : Writer) : Box :=
  .full "tkhd" 0 3 (zeros 8 ++ bigEndian 4 track ++ zeros 24 ++ identityMatrix ++
    bigEndian 4 (writer.width.toNat * 0x10000) ++ bigEndian 4 (writer.height.toNat * 0x10000)) []

/-- The language of the media is undetermined. -/
def mediaHeader (writer : Writer) : Box :=
  .full "mdhd" 0 0 (zeros 8 ++ bigEndian 4 writer.timescale.toNat ++ zeros 4 ++
    bigEndian 2 0x55C4 ++ zeros 2) []

def handler : Box :=
  .full "hdlr" 0 0 (zeros 4 ++ ascii "vide" ++ zeros 12 ++ ascii "VideoHandler" ++ zeros 1) []

/-- The data is in the same file. -/
def dataInformation : Box :=
  .node "dinf" [.full "dref" 0 0 (bigEndian 4 1) [.full "url " 0 1 [] []]]

/-- The sample entry has a 16-bit size, 72 dots per inch, 24 bits of colour and the record. -/
def sampleEntry (writer : Writer) : Box :=
  .box "avc1"
    (zeros 6 ++ bigEndian 2 1 ++ zeros 16 ++ bigEndian 2 writer.width.toNat ++
      bigEndian 2 writer.height.toNat ++ bigEndian 4 0x480000 ++ bigEndian 4 0x480000 ++
      zeros 4 ++ bigEndian 2 1 ++ zeros 32 ++ bigEndian 2 0x18 ++ bigEndian 2 0xFFFF)
    [.leaf "avcC" writer.record.octets]

/-- The sample tables are empty, because the samples are in the fragments. -/
def sampleTable (writer : Writer) : Box :=
  .node "stbl"
    [.full "stsd" 0 0 (bigEndian 4 1) [writer.sampleEntry],
     .full "stts" 0 0 (zeros 4) [],
     .full "stsc" 0 0 (zeros 4) [],
     .full "stsz" 0 0 (zeros 8) [],
     .full "stco" 0 0 (zeros 4) []]

def trackBox (writer : Writer) : Box :=
  .node "trak"
    [writer.trackHeader,
     .node "mdia"
       [writer.mediaHeader, handler,
        .node "minf" [.full "vmhd" 0 1 (zeros 8) [], dataInformation, writer.sampleTable]]]

def trackDefaults (writer : Writer) : Box :=
  .full "trex" 0 0 (bigEndian 4 track ++ bigEndian 4 1 ++
    bigEndian 4 writer.sampleDuration.toNat ++ zeros 8) []

def movie (writer : Writer) : Box :=
  .node "moov" [writer.movieHeader, writer.trackBox, .node "mvex" [writer.trackDefaults]]

/-- The initialization segment describes the track and holds no sample. -/
def initSegment (writer : Writer) : Octets :=
  Box.octetsOfAll [fileType, writer.movie]

/-- A sync sample depends on no other; a delta sample does. -/
def sampleFlags (keyframe : Bool) : Nat := if keyframe then 0x2000000 else 0x1010000

/-- The fragment has one sample, which begins at an offset from the start of this box. -/
def fragment (writer : Writer) (offset size : Nat) (keyframe : Bool) : Box :=
  .node "moof"
    [.full "mfhd" 0 0 (bigEndian 4 writer.sequence.toNat) [],
     .node "traf"
       [.full "tfhd" 0 0x20000 (bigEndian 4 track) [],
        .full "tfdt" 1 0 (bigEndian 8 writer.decodeTime.toNat) [],
        .full "trun" 0 0x701 (bigEndian 4 1 ++ bigEndian 4 offset ++
          bigEndian 4 writer.sampleDuration.toNat ++ bigEndian 4 size ++
          bigEndian 4 (sampleFlags keyframe)) []]]

/-- The sample follows the fragment box and the header of its own box. -/
def sampleOffset (writer : Writer) (size : Nat) (keyframe : Bool) : Nat :=
  (writer.fragment 0 size keyframe).octets.length + 8

/-- The counts move on to the next fragment. -/
def advance (writer : Writer) : Writer :=
  { writer with
    sequence := writer.sequence + 1
    decodeTime := writer.decodeTime + writer.sampleDuration.toUInt64 }

/-- The slices of a group are one sample. It is a sync sample when one of them is a keyframe. -/
def mediaSegment (writer : Writer) (units : List Nal) : Octets × Writer :=
  let sample := Nal.sample units
  let keyframe := units.any Nal.isKeyframe
  let offset := writer.sampleOffset sample.length keyframe
  (Box.octetsOfAll [writer.fragment offset sample.length keyframe, .leaf "mdat" sample],
    writer.advance)

end Writer

end Screencast.Mp4
