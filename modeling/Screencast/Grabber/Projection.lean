/-
This file defines how a grabber maps the screen to its images, and its command line.
-/

import Screencast.Octets

namespace Screencast.Grabber

/-- The real screen is scaled to a virtual one and turned by some degrees. -/
structure Projection where
  realWidth : UInt32
  realHeight : UInt32
  virtualWidth : UInt32
  virtualHeight : UInt32
  rotation : UInt32
  deriving DecidableEq, Repr

namespace Projection

def sizeText (width height : UInt32) : String := toString width ++ "x" ++ toString height

/-- The grabber expects real size, virtual size and rotation in one word. -/
def descriptor (projection : Projection) : String :=
  sizeText projection.realWidth projection.realHeight ++ "@" ++
    sizeText projection.virtualWidth projection.virtualHeight ++ "/" ++
    toString projection.rotation

/-- A quality above 100 counts as 100. -/
def arguments (projection : Projection) (quality : UInt8) (frameRate : Option UInt32) : String :=
  "-P " ++ projection.descriptor ++ " -Q " ++ toString (min quality 100) ++
    (match frameRate with
      | some rate => " -r " ++ toString rate
      | none => "") ++ " -S"

end Projection

end Screencast.Grabber
