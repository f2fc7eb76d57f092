/-
This file feeds a decoder that plays an MP4 file from a buffer.
-/

import Screencast.Decoder.Configuration
import Screencast.Decoder.Input
import Screencast.Decoder.Selection

namespace Screencast.Decoder

/-- The buffered strategy writes an MP4 file piece by piece. -/
structure Buffered where
  fps : UInt32
  timescale : UInt32
  writer : Option Mp4.Writer := none
  awaitingKey : Bool := true
  deriving DecidableEq, Repr

namespace Buffered

/-- A later configuration goes on with the same writer. -/
def configure (buffered : Buffered) (configuration : Configuration) :
    List DecoderInput × Buffered :=
  let first := Mp4.Writer.create configuration.record configuration.width configuration.height
    buffered.timescale buffered.fps
  let writer := (buffered.writer.getD first).reconfigure configuration.record configuration.width
    configuration.height
  ([.initSegment writer.initSegment], { buffered with writer, awaitingKey := true })

/-- The slices of a group become one segment. Groups before the first keyframe are left out. -/
def feed (buffered : Buffered) (units : List Nal) :
    Except MediaFault (List DecoderInput) × Buffered :=
  match buffered.writer with
  | none => (.error (.notConfigured StrategyKind.buffered.name), buffered)
  | some writer =>
      if !units.any Nal.isSlice || (buffered.awaitingKey && !units.any Nal.isKeyframe) then
        (.ok [], buffered)
      else
        let (segment, writer) := writer.mediaSegment units
        (.ok [.mediaSegment segment], { buffered with writer, awaitingKey := false })

def teardown (buffered : Buffered) : Buffered :=
  { fps := buffered.fps, timescale := buffered.timescale }

end Buffered

end Screencast.Decoder
