/-
This file judges a stream by its first payload.
-/

import Screencast.Octets

namespace Screencast.Decoder

/-- A viewer receives video or still images. -/
inductive StreamKind
  | h264
  | jpeg
  deriving DecidableEq, Repr

namespace StreamKind

def name : StreamKind → String
  | .h264 => "h264"
  | .jpeg => "jpeg"

/-- Images begin with a marker of two octets. Video begins with a zero octet, because its start
code does. Other streams are not known. -/
def detect? : Octets → Option StreamKind
  | first :: rest =>
      if first = 0xFF ∧ rest.head? = some 0xD8 then some .jpeg
      else if first = 0 then some .h264
      else none
  | [] => none

end StreamKind

end Screencast.Decoder
