/-
This file defines what a decoder is fed.
-/

import Screencast.Octets

namespace Screencast.Decoder

/-- A decoder receives these in their order. -/
inductive DecoderInput
  | configure (codec : String) (width height : UInt32) (description : Octets)
  /-- The timestamp counts microseconds. -/
  | chunk (data : Octets) (timestamp : UInt64) (key : Bool)
  | initSegment (octets : Octets)
  | mediaSegment (octets : Octets)
  | raw (octets : Octets)
  | image (octets : Octets)
  deriving DecidableEq, Repr

end Screencast.Decoder
