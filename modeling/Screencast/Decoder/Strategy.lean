/-
This file joins the three ways to feed a decoder: chunks behind a record, fragments of an MP4 file,
and the byte stream as it is.
-/

import Screencast.Decoder.Buffered
import Screencast.Decoder.Hardware

namespace Screencast.Decoder

/-- A stream is fed by one strategy from its start to its end. -/
inductive Strategy
  | hardware (state : Hardware)
  | buffered (state : Buffered)
  | raw
  deriving DecidableEq, Repr

namespace Strategy

def create (kind : StrategyKind) (fps timescale : UInt32) : Strategy :=
  match kind with
  | .hardware => .hardware (.create fps)
  | .buffered => .buffered { fps, timescale }
  | .raw => .raw

def kind : Strategy → StrategyKind
  | .hardware _ => .hardware
  | .buffered _ => .buffered
  | .raw => .raw

/-- The byte stream carries its parameter sets itself. -/
def configure (strategy : Strategy) (configuration : Configuration) :
    List DecoderInput × Strategy :=
  match strategy with
  | .hardware state =>
      let (inputs, state) := state.configure configuration
      (inputs, .hardware state)
  | .buffered state =>
      let (inputs, state) := state.configure configuration
      (inputs, .buffered state)
  | .raw => ([], .raw)

/-- A group of units becomes input for the decoder. -/
def feed (strategy : Strategy) (units : List Nal) :
    Except MediaFault (List DecoderInput) × Strategy :=
  match strategy with
  | .hardware state =>
      let (result, state) := state.feed units
      (result, .hardware state)
  | .buffered state =>
      let (result, state) := state.feed units
      (result, .buffered state)
  | .raw => (.ok (if units.isEmpty then [] else [.raw (Nal.concat units)]), .raw)

/-- This drops what the strategy knows of its stream. -/
def teardown : Strategy → Strategy
  | .hardware state => .hardware state.teardown
  | .buffered state => .buffered state.teardown
  | .raw => .raw

end Strategy

end Screencast.Decoder
